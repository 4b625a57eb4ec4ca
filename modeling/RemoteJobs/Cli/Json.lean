import RemoteJobs.Text.Layout

/-! JSON as a report writes it: one entry a line, two spaces for each level, and nothing between the brackets of
an empty list or object. -/
namespace RemoteJobs.Cli

inductive Json where
  | null
  | boolean (b : Bool)
  | string (text : String)
  | array (elements : List Json)
  /-- Entries are written in the order in which they are given. -/
  | object (entries : List (String × Json))

namespace Json

def strings (texts : List String) : Json :=
  .array (texts.map .string)

def stringOrNull : Option String → Json
  | some text => .string text
  | none => .null

/-- The four hexadecimal digits of a control character. -/
def controlDigits (c : Char) : String :=
  let digits := Text.hexText c.toNat
  String.ofList (List.replicate (4 - digits.length) '0') ++ digits

/-- Quotes, backslashes and control characters are escaped, and nothing else. -/
def escapeChar (c : Char) : String :=
  match c with
  | '"' => "\\\""
  | '\\' => "\\\\"
  | '\x08' => "\\b"
  | '\t' => "\\t"
  | '\n' => "\\n"
  | '\x0c' => "\\f"
  | '\r' => "\\r"
  | _ => if c < ' ' then "\\u" ++ controlDigits c else String.singleton c

def quote (text : String) : String :=
  "\"" ++ String.join (text.toList.map escapeChar) ++ "\""

def margin (level : Nat) : String :=
  String.ofList (List.replicate (2 * level) ' ')

/-- Items on lines of their own, one level in, between two brackets. -/
def block (level : Nat) (first : String) (items : List String) (last : String) : String :=
  if items.isEmpty then first ++ last
  else
    first ++ "\n" ++ ",\n".intercalate (items.map (margin (level + 1) ++ ·)) ++ "\n" ++ margin level ++ last

mutual

def render (level : Nat) : Json → String
  | .null => "null"
  | .boolean b => if b then "true" else "false"
  | .string text => quote text
  | .array elements => block level "[" (renderElements (level + 1) elements) "]"
  | .object entries => block level "\x7b" (renderEntries (level + 1) entries) "\x7d"

def renderElements (level : Nat) : List Json → List String
  | [] => []
  | element :: rest => render level element :: renderElements level rest

def renderEntries (level : Nat) : List (String × Json) → List String
  | [] => []
  | (key, value) :: rest => (quote key ++ ": " ++ render level value) :: renderEntries level rest

end

/-- The text of a report. -/
def pretty (j : Json) : String :=
  j.render 0

end Json

end RemoteJobs.Cli
