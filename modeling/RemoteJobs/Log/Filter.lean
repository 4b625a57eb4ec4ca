import RemoteJobs.Log.Directive
import RemoteJobs.Text.Layout

/-! Choice of the notices that are written down, and of their format. A filter is a list of directives. Of
those that fit a notice the one with the longest target decides, and of these one that names a detail. -/
namespace RemoteJobs.Log

abbrev Filter := List Directive

namespace Filter

/-- Directives between commas. One that cannot be read has no effect; one that splits a character leaves no
filter at all. -/
def ofText? (text : String) : Option Filter :=
  let directives := Text.fields ',' text.toList
  if directives.any Directive.splitsCharacter then none else some (directives.filterMap Directive.ofText?)

/-- The filter for the text that an operator gave, if any, and for a run that is to be verbose or not. -/
def choose? (text : Option String) (verbose : Bool) : Option Filter :=
  match text.bind Text.nonBlank? with
  | some text => ofText? text
  | none => some [⟨"", none, if verbose then Level.debug.rank else Level.info.rank⟩]

/-- Is a directive for a notice? -/
def fits (notice : Notice) (directive : Directive) : Bool :=
  Text.begins directive.target notice.component.path && directive.detail.all notice.gives

/-- Does a directive go before another one? The one with the longer target does, of targets of one length one
that names a detail, and of two details the one that is later in the alphabet. -/
def precedes (first second : Directive) : Bool :=
  if first.target.length ≠ second.target.length then second.target.length < first.target.length
  else
    match first.detail, second.detail with
    | some first, some second => second < first
    | some _, none => true
    | none, _ => false

/-- The directive that goes first; of two that are for the same notices, the later. -/
def finer (first second : Directive) : Directive :=
  if precedes first second then first else second

/-- Is a notice let through? -/
def admits (filter : Filter) (notice : Notice) : Bool :=
  match filter.filter (fits notice) with
  | [] => false
  | first :: rest => notice.level.rank ≤ (rest.foldl finer first).rank

end Filter

/-- How notices are written. -/
inductive Format where
  | json
  | pretty
  | compact
  deriving DecidableEq, Repr

namespace Format

def name : Format → String
  | .json => "json"
  | .pretty => "pretty"
  | .compact => "compact"

/-- The format that an operator asked for; anything unknown stands for the compact one. -/
def choose (text : Option String) : Format :=
  match text with
  | none => .compact
  | some text =>
    match String.ofList ((Text.trim text.toList).map Char.toLower) with
    | "json" => .json
    | "pretty" => .pretty
    | _ => .compact

end Format

end RemoteJobs.Log
