/-! Decimal numerals as they appear in listings, exit code files and job identifiers: ASCII digits,
leading zeros allowed, one sign where a sign is allowed at all, and a bound that the value must respect. -/
namespace RemoteJobs.Text

/-- The value of a run of decimal digits. -/
def digitsValue (digits : List Char) : Nat :=
  digits.foldl (fun n c => 10 * n + (c.toNat - '0'.toNat)) 0

/-- Reads a non-empty run of digits and nothing else. -/
def readDigits? (s : List Char) : Option Nat :=
  if s.isEmpty then none else if s.all Char.isDigit then some (digitsValue s) else none

/-- Reads an unsigned numeral below the limit; one plus sign may stand before it. -/
def readUnsigned? (limit : Nat) (s : List Char) : Option Nat :=
  let digits := match s with
    | '+' :: rest => rest
    | _ => s
  match readDigits? digits with
  | some n => if n < limit then some n else none
  | none => none

/-- Reads a numeral of any size with an optional sign. -/
def readInteger? : List Char → Option Int
  | '-' :: rest => (readDigits? rest).map fun n => -(n : Int)
  | '+' :: rest => (readDigits? rest).map fun n => (n : Int)
  | s => (readDigits? s).map fun n => (n : Int)

/-- Reads a signed numeral that fits into 32 bits. -/
def readSigned32? (s : List Char) : Option Int :=
  match readInteger? s with
  | some n => if -2147483648 ≤ n ∧ n < 2147483648 then some n else none
  | none => none

end RemoteJobs.Text
