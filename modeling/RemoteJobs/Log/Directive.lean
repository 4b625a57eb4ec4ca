import RemoteJobs.Log.Notice
import RemoteJobs.Text.Blank
import RemoteJobs.Text.Numeral

/-! Directives of a filter for notices. A directive is a level, a target or both with an equals sign between
them; a target may have the name of a detail behind it, in braces and brackets. -/
namespace RemoteJobs.Log

/-- Lets notices up to a rank through: those of the components whose path begins with the target, and of them
only those that give the detail, where one is named. -/
structure Directive where
  target : String
  detail : Option String
  rank : Nat
  deriving DecidableEq, Repr

/-- The rank that the name of a level or a number stands for. Rank zero lets nothing through. -/
def rankOf? (text : List Char) : Option Nat :=
  match Text.readUnsigned? 6 text with
  | some rank => some rank
  | none =>
    match String.ofList (text.map Char.toLower) with
    | "off" => some 0
    | "error" => some 1
    | "warn" => some 2
    | "info" => some 3
    | "debug" => some 4
    | "trace" => some 5
    | _ => none

namespace Directive

/-- May a target or a level begin with the character? -/
def mayBegin (c : Char) : Bool :=
  c.isAlphanum || c == '-' || c == ':' || c == '_'

/-- Does the character end a target? -/
def endsTarget (c : Char) : Bool :=
  c == '=' || c == '['

/-- The rank behind a target. Without an equals sign, and without a level behind it, everything is let
through. -/
def threshold? : List Char → Option Nat
  | [] => some Level.trace.rank
  | '=' :: level => if level.isEmpty then some Level.trace.rank else rankOf? level
  | _ => none

/-- The name of a detail, and what stands behind the brackets around it. Brackets with a name before the
brace, or with a value behind the name, are for notices within a span, of which there are none. -/
def detail? : List Char → Option (String × List Char)
  | '[' :: '\x7b' :: rest =>
    let name := rest.takeWhile (· != '\x7d')
    match rest.drop name.length with
    | '\x7d' :: ']' :: behind =>
      if name.isEmpty || name.contains '=' then none else some (String.ofList name, behind)
    | _ => none
  | _ => none

/-- Reads a directive. Nothing comes of a text that is none, and of one that has no effect. Blanks are part of
a target or a level; only behind brackets a text may end in them. -/
def ofText? (text : List Char) : Option Directive :=
  let target := text.takeWhile fun c => !endsTarget c
  let behind := text.drop target.length
  if !((target.head?.map mayBegin).getD (behind.head? == some '[')) then none
  else
    match behind with
    | [] =>
      match rankOf? text with
      | some rank => some ⟨"", none, rank⟩
      | none => some ⟨String.ofList target, none, Level.trace.rank⟩
    | '[' :: _ => do
      let (detail, behind) ← detail? behind
      let rank ← threshold? (if Text.isBlankText (String.ofList behind) then [] else behind)
      return ⟨String.ofList target, some detail, rank⟩
    | _ => (threshold? behind).map (⟨String.ofList target, none, ·⟩)

/-! ### Texts behind blanks

Blanks in front of a directive are passed over when it is taken apart, and the places of its parts are then
looked up in the text with the blanks. So no such directive has an effect; but one of the places may fall
between the bytes of a character, and such a text cannot be dealt with at all. -/

/-- The number of bytes of a text. -/
def width (text : List Char) : Nat :=
  (String.ofList text).utf8ByteSize

/-- Is there a character boundary behind a number of bytes? -/
def isBoundary : List Char → Nat → Bool
  | _, 0 => true
  | [], _ + 1 => false
  | c :: rest, place => c.utf8Size ≤ place && isBoundary rest (place - c.utf8Size)

/-- The place of a level behind a number of bytes. -/
def thresholdPlaces (place : Nat) : List Char → List Nat
  | '=' :: _ => [place + 1]
  | _ => []

/-- The places of a detail's name, in braces behind a number of bytes, and of what stands behind it. -/
def detailPlaces (place : Nat) (text : List Char) : List Nat :=
  let name := text.takeWhile (· != '\x7d')
  let last := place + width name
  match text.drop name.length with
  | '\x7d' :: ']' :: behind =>
    if name.isEmpty then [place] else [place, last] ++ thresholdPlaces (last + 2) behind
  | '\x7d' :: _ => [place, last]
  | _ => []

/-- The places of the parts between brackets, which begin behind a number of bytes. -/
def bracketPlaces (place : Nat) (text : List Char) : List Nat :=
  let name := text.takeWhile fun c => c != '\x7b' && c != ']'
  let last := place + width name
  match text.drop name.length with
  | '\x7b' :: behind => [place, last] ++ detailPlaces (last + 1) behind
  | _ :: behind => [place, last] ++ thresholdPlaces (last + 1) behind
  | [] => []

/-- The places of the parts of a directive, counted in bytes from its beginning. -/
def places (text : List Char) : List Nat :=
  let target := text.takeWhile fun c => !endsTarget c
  let last := width target
  match text.drop target.length with
  | '[' :: behind => (if target.isEmpty then [] else [last]) ++ bracketPlaces (last + 1) behind
  | _ :: _ => [last, last + 1]
  | [] => []

/-- Does a part of the directive begin or end within a character? -/
def splitsCharacter (text : List Char) : Bool :=
  let directive := Text.trim text
  match directive.head? with
  | some c => (mayBegin c || c == '[') && (places directive).any fun place => !isBoundary text place
  | none => false

end Directive

end RemoteJobs.Log
