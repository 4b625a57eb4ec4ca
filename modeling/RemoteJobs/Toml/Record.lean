import RemoteJobs.Text.Layout
import RemoteJobs.Timestamp
import RemoteJobs.Toml.Value
import RemoteJobs.Uuid

/-! Records written as values of a document. A record is a table of named fields, or an array of their values
in the order of declaration. Fields are read in the order in which they are given, and the first one that does
not fit is reported; only then are missing fields looked for, in the order of declaration. -/
namespace RemoteJobs.Toml

/-- Why a value is not what a record asks for. -/
inductive Misfit where
  | missingField (field : String)
  | wrongType (found : Value) (wanted : String)
  | outOfRange (n : Int) (wanted : String)
  | wrongLength (length : Nat) (wanted : String)
  | unknownChoice (given : String) (choices : List String)
  /-- A choice is a text, or a table with the choice as its only key and nothing behind it. -/
  | noChoice
  | emptyChoice
  | severalChoices
  | choiceWithContent (content : Value)
  | badUuid
  | badTimestamp (cause : Timestamp.Fault)

namespace Value

/-- What a message calls a value. A date counts as a table. -/
def description : Value → String
  | .string text => "string " ++ Text.quoted text
  | .integer n => "integer `" ++ toString n ++ "`"
  | .float x => "floating point `" ++ x.text ++ "`"
  | .boolean b => "boolean `" ++ toString b ++ "`"
  | .array _ | .tables .. => "sequence"
  | .datetime | .table .. => "map"

/-- What a message says of a choice with content. -/
def contentRemark : Value → String
  | .string _ => "expected table, found string"
  | .integer _ => "expected table, found integer"
  | .float _ => "expected table, found float"
  | .boolean _ => "expected table, found boolean"
  | .datetime => "expected table, found datetime"
  | .array _ | .table .. => "expected empty table"
  | .tables .. => "expected empty array"

end Value

/-- The choices as a message lists them. -/
def choicesText : List String → String
  | [first, second] => "expected `" ++ first ++ "` or `" ++ second ++ "`"
  | choices => "expected one of " ++ ", ".intercalate (choices.map fun choice => "`" ++ choice ++ "`")

def Misfit.message : Misfit → String
  | .missingField field => "missing field `" ++ field ++ "`"
  | .wrongType found wanted => "invalid type: " ++ found.description ++ ", expected " ++ wanted
  | .outOfRange n wanted => "invalid value: integer `" ++ toString n ++ "`, expected " ++ wanted
  | .wrongLength length wanted => "invalid length " ++ toString length ++ ", expected " ++ wanted
  | .unknownChoice given choices => "unknown variant `" ++ given ++ "`, " ++ choicesText choices
  | .noChoice => "wanted string or table"
  | .emptyChoice => "wanted exactly 1 element, found 0 elements"
  | .severalChoices => "wanted exactly 1 element, more than 1 element"
  | .choiceWithContent content => content.contentRemark
  | .badUuid => "UUID parsing failed"
  | .badTimestamp .malformed => "bad timestamp"
  | .badTimestamp .outOfCalendar => "no possible date and time matching input"

/-- Reads a value as something else. -/
abbrev Decoder (α : Type) := Value → Except Misfit α

namespace Decoder

def text : Decoder String
  | .string text => .ok text
  | value => .error (.wrongType value "a string")

/-- A number of the given count of bits. -/
def natural (bits : Nat) : Decoder Nat
  | .integer n =>
    if 0 ≤ n ∧ n < Nat.pow 2 bits then .ok n.toNat else .error (.outOfRange n ("u" ++ toString bits))
  | value => .error (.wrongType value ("u" ++ toString bits))

/-- A number that is kept in a word of 32 bits. -/
def word : Decoder UInt32 := fun value =>
  (natural 32 value).map UInt32.ofNat

/-- What a message calls an identifier. -/
def uuidName : String := "a formatted UUID string"

/-- Sixteen octets. Elements after them do not count. -/
def octets (elements : List Value) : Except Misfit Uuid := do
  let octets ← (elements.take 16).mapM (natural 8)
  if octets.length = 16 then return Uuid.ofOctets octets else throw (.wrongLength octets.length uuidName)

/-- An identifier is a text or an array of its octets. -/
def uuid : Decoder Uuid
  | .string text =>
    match Uuid.ofText? text with
    | some u => .ok u
    | none => .error .badUuid
  | .array elements => octets elements
  | .tables earlier last => octets (earlier ++ [Value.table .header last])
  | value => .error (.wrongType value uuidName)

def timestamp : Decoder Timestamp
  | .string text =>
    match Timestamp.ofText text with
    | .ok t => .ok t
    | .error fault => .error (.badTimestamp fault)
  | value => .error (.wrongType value "an RFC 3339 formatted date and time string")

/-- A value that is given stands for itself; only a missing one is nothing. -/
def given {α : Type} (decoder : Decoder α) : Decoder (Option α) := fun value =>
  (decoder value).map some

def list {α : Type} (decoder : Decoder α) : Decoder (List α)
  | .array elements => elements.mapM decoder
  | .tables earlier last => (earlier ++ [Value.table .header last]).mapM decoder
  | value => .error (.wrongType value "a sequence")

/-- The choice of a name. -/
def chosen {α : Type} (choices : List α) (name : α → String) (given : String) : Except Misfit α :=
  match choices.find? fun choice => name choice == given with
  | some choice => .ok choice
  | none => .error (.unknownChoice given (choices.map name))

/-- Does a value hold nothing that a choice could be given with? -/
def holdsNothing : Value → Bool
  | .array elements => elements.isEmpty
  | .table _ entries => entries.isEmpty
  | _ => false

def choice {α : Type} (choices : List α) (name : α → String) : Decoder α
  | .string text => chosen choices name text
  | .table _ [] => .error .emptyChoice
  | .table _ [(key, content)] => do
    let result ← chosen choices name key
    if holdsNothing content then return result else throw (.choiceWithContent content)
  | .table _ _ => .error .severalChoices
  | _ => .error .noChoice

end Decoder

/-- The fields of a record: their names in the order of declaration, whether a value fits a field, and the
record itself, given a look-up for the fields and the misfit that reports a missing one. -/
structure Fields (α : Type) where
  names : List String
  misfit? : String → Value → Option Misfit
  build : (String → Option Value) → (String → Misfit) → Except Misfit α

namespace Fields

def field {α : Type} (name : String) (decoder : Decoder α)
    (absent : (String → Misfit) → Except Misfit α) : Fields α where
  names := [name]
  misfit? key value :=
    if key = name then
      match decoder value with
      | .ok _ => none
      | .error misfit => some misfit
    else none
  build find missing :=
    match find name with
    | some value => decoder value
    | none => absent missing

def required {α : Type} (name : String) (decoder : Decoder α) : Fields α :=
  field name decoder fun missing => .error (missing name)

def optional {α : Type} (name : String) (decoder : Decoder α) (standard : α) : Fields α :=
  field name decoder fun _ => .ok standard

instance : Applicative Fields where
  pure value := ⟨[], fun _ _ => none, fun _ _ => .ok value⟩
  seq first second :=
    let second := second ()
    { names := first.names ++ second.names
      misfit? := fun key value => (first.misfit? key value).or (second.misfit? key value)
      build := fun find missing => do
        let make ← first.build find missing
        return make (← second.build find missing) }

variable {α : Type} (fields : Fields α)

/-- Reads fields given by name. Names that are no fields do not count. -/
def ofEntries (entries : List (String × Value)) : Except Misfit α :=
  match entries.findSome? fun (key, value) => fields.misfit? key value with
  | some misfit => .error misfit
  | none => fields.build (fun name => entries.lookup name) .missingField

/-- Reads fields given by position. Values beyond the last field do not count. -/
def ofElements (record : String) (elements : List Value) : Except Misfit α :=
  let given := fields.names.zip elements
  match given.findSome? fun (key, value) => fields.misfit? key value with
  | some misfit => .error misfit
  | none =>
    fields.build (fun name => given.lookup name) fun name =>
      .wrongLength (fields.names.idxOf name)
        ("struct " ++ record ++ " with " ++ toString fields.names.length ++ " elements")

/-- Reads a record by the name that messages give it. -/
def decoder (record : String) : Decoder α
  | .table _ entries => fields.ofEntries entries
  | .array elements => fields.ofElements record elements
  | .tables earlier last => fields.ofElements record (earlier ++ [Value.table .header last])
  | .datetime => fields.ofEntries []
  | value => .error (.wrongType value ("struct " ++ record))

end Fields

end RemoteJobs.Toml
