import RemoteJobs.Toml.Layout
import RemoteJobs.Uuid

/-! Strings of a document. Double quotes let a backslash escape, single quotes take every character as it
is; three quotes of either kind let a string run over several lines. The reader is a machine that takes one
character at a time. -/
namespace RemoteJobs.Toml

/-- The four kinds of strings. -/
structure Quotation where
  mark : Char
  escapes : Bool
  multiline : Bool
  deriving DecidableEq, Repr

/-- Where the reader of a string stands. -/
inductive Place where
  | text
  /-- Behind a backslash. -/
  | escape
  /-- Among the digits of a code point. -/
  | scalar (digitsLeft value : Nat)
  /-- Behind a backslash that takes the line end and all blanks after it along. -/
  | fold (lineEnded : Bool)
  /-- Behind a run of quotes, each of which may belong to the text or to the end of the string. -/
  | marks (count : Nat)
  | closed
  deriving DecidableEq, Repr

/-- What a character does: it adds to the text and the reader moves on, or the string ended before it. -/
inductive StringStep where
  | goes (added : List Char) (place : Place)
  | ends (added : List Char)
  | bad

def simpleEscape? : Char → Option Char
  | 'b' => some '\x08'
  | 't' => some '\t'
  | 'n' => some '\n'
  | 'f' => some '\x0c'
  | 'r' => some '\r'
  | '"' => some '"'
  | '\\' => some '\\'
  | _ => none

/-- The character of a code point that is one. -/
def scalar? (n : Nat) : Option Char :=
  if n.isValidChar then some (Char.ofNat n) else none

namespace Quotation

/-- A character in the text of a string, given the character after it. -/
def textStep (q : Quotation) (c : Char) (next : Option Char) : StringStep :=
  if c = q.mark then .goes [] (if q.multiline then .marks 1 else .closed)
  else if c = '\\' ∧ q.escapes then .goes [] .escape
  else if c = '\n' ∧ q.multiline then .goes ['\n'] .text
  else if c = '\r' ∧ q.multiline ∧ next = some '\n' then .goes [] .text
  else if isTextChar c then .goes [c] .text
  else .bad

/-- The text, with marks before it that turned out to belong to it. -/
def textAfterMarks (q : Quotation) (count : Nat) (c : Char) (next : Option Char) : StringStep :=
  match q.textStep c next with
  | .goes added place => .goes (List.replicate count q.mark ++ added) place
  | step => step

def escapeStep (q : Quotation) (c : Char) (next : Option Char) : StringStep :=
  if c = 'u' then .goes [] (.scalar 4 0)
  else if c = 'U' then .goes [] (.scalar 8 0)
  else if q.multiline ∧ isGap c then .goes [] (.fold false)
  else if q.multiline ∧ c = '\n' then .goes [] (.fold true)
  else if q.multiline ∧ c = '\r' ∧ next = some '\n' then .goes [] (.fold false)
  else
    match simpleEscape? c with
    | some d => .goes [d] .text
    | none => .bad

def scalarStep (digitsLeft value : Nat) (c : Char) : StringStep :=
  match Uuid.hexValue? c with
  | none => .bad
  | some digit =>
    let value := 16 * value + digit
    if digitsLeft = 1 then
      match scalar? value with
      | some d => .goes [d] .text
      | none => .bad
    else .goes [] (.scalar (digitsLeft - 1) value)

def foldStep (q : Quotation) (lineEnded : Bool) (c : Char) (next : Option Char) : StringStep :=
  if c = '\n' then .goes [] (.fold true)
  else if isGap c ∨ (c = '\r' ∧ next = some '\n') then .goes [] (.fold lineEnded)
  else if lineEnded then q.textStep c next
  else .bad

/-- Up to two quotes in a row are text. Three end a string of several lines, and two more before them are
still text. -/
def marksStep (q : Quotation) (count : Nat) (c : Char) (next : Option Char) : StringStep :=
  if c = q.mark then if count < 5 then .goes [] (.marks (count + 1)) else .bad
  else if count < 3 then q.textAfterMarks count c next
  else .ends (List.replicate (count - 3) q.mark)

def step (q : Quotation) (place : Place) (c : Char) (next : Option Char) : StringStep :=
  match place with
  | .text => q.textStep c next
  | .escape => q.escapeStep c next
  | .scalar digitsLeft value => scalarStep digitsLeft value c
  | .fold lineEnded => q.foldStep lineEnded c next
  | .marks count => q.marksStep count c next
  | .closed => .ends []

/-- The text of a string that the end of the document ends. -/
def atEnd (q : Quotation) : Place → Option (List Char)
  | .marks count => if 3 ≤ count then some (List.replicate (count - 3) q.mark) else none
  | .closed => some []
  | _ => none

/-- Reads a string from a place on: its text, and what follows it. -/
def readFrom (q : Quotation) : Place → List Char → Option (List Char × List Char)
  | place, [] => (q.atEnd place).map (·, [])
  | place, c :: rest =>
    match q.step place c rest.head? with
    | .goes added place => (readFrom q place rest).map fun (text, rest) => (added ++ text, rest)
    | .ends added => some (added, c :: rest)
    | .bad => none

end Quotation

/-- Reads a string on one line, given what follows its first quote. -/
def readQuoted? (mark : Char) (s : List Char) : Option (List Char × List Char) :=
  Quotation.readFrom ⟨mark, mark == '"', false⟩ .text s

/-- Reads a string of any kind, given what follows its first quote. A line end right after three quotes is
not part of the text. -/
def readString? (mark : Char) (s : List Char) : Option (List Char × List Char) :=
  match s with
  | second :: third :: rest =>
    if second = mark ∧ third = mark then
      Quotation.readFrom ⟨mark, mark == '"', true⟩ .text ((lineEnd? rest).getD rest)
    else readQuoted? mark s
  | _ => readQuoted? mark s

end RemoteJobs.Toml
