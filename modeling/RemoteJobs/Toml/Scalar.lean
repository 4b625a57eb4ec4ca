import RemoteJobs.Text.Layout
import RemoteJobs.Text.Numeral
import RemoteJobs.Timestamp
import RemoteJobs.Toml.Value
import RemoteJobs.Uuid

/-! Numbers, dates and truth values of a document. Underscores may stand between digits. A decimal integer
has no leading zeros and fits into 64 bits with its sign; a float is a decimal integer with a fraction, an
exponent or both. -/
namespace RemoteJobs.Toml

def isDigitOrUnderscore (isDigit : Char → Bool) (c : Char) : Bool :=
  isDigit c || c == '_'

/-- Every underscore stands between two digits. -/
def wellSpaced (run : List Char) : Bool :=
  (Text.fields '_' run).all fun group => !group.isEmpty

/-- Reads digits with single underscores between them; the underscores are dropped. -/
def readRun? (isDigit : Char → Bool) (s : List Char) : Option (List Char × List Char) :=
  let run := s.takeWhile (isDigitOrUnderscore isDigit)
  if wellSpaced run then some (run.filter (· != '_'), s.dropWhile (isDigitOrUnderscore isDigit))
  else none

/-- Reads a decimal integer without its sign. -/
def readWhole? (s : List Char) : Option (List Char × List Char) :=
  match readRun? Char.isDigit s with
  | some (digits, rest) => if digits.head? = some '0' ∧ digits ≠ ['0'] then none else some (digits, rest)
  | none => none

/-- Reads a fraction, if a point announces one. -/
def readFraction? : List Char → Option (List Char × List Char)
  | '.' :: rest => readRun? Char.isDigit rest
  | s => some ([], s)

/-- Reads an exponent, if an `e` announces one. -/
def readExponent? (s : List Char) : Option (Int × List Char) :=
  match s with
  | c :: rest =>
    if c = 'e' ∨ c = 'E' then
      let (negative, rest) := match rest with
        | '-' :: rest => (true, rest)
        | '+' :: rest => (false, rest)
        | _ => (false, rest)
      match readRun? Char.isDigit rest with
      | some (digits, rest) =>
        let n : Int := Text.digitsValue digits
        some (if negative then -n else n, rest)
      | none => none
    else some (0, s)
  | [] => some (0, s)

/-- An integer that fits into 64 bits with its sign. -/
def integer? (n : Int) : Option Value :=
  if -9223372036854775808 ≤ n ∧ n < 9223372036854775808 then some (.integer n) else none

/-- A float. A positive one beyond all bounds is refused; a negative one becomes infinite. -/
def float? (x : Binary64) : Option Value :=
  if x = .infinite false then none else some (.float x)

/-- Reads a decimal number without its sign. -/
def readDecimal? (negative : Bool) (s : List Char) : Option (Value × List Char) := do
  let (whole, rest) ← readWhole? s
  let (fraction, rest') ← readFraction? rest
  let (exponent, rest') ← readExponent? rest'
  if rest'.length = rest.length then
    let n : Int := Text.digitsValue whole
    return (← integer? (if negative then -n else n), rest)
  else
    let digits := Text.digitsValue (whole ++ fraction)
    return (← float? (Binary64.ofDecimal negative digits (exponent - fraction.length)), rest')

/-- Reads a number after its sign: infinity and not-a-number may have one too. -/
def readSigned? (negative : Bool) : List Char → Option (Value × List Char)
  | 'i' :: 'n' :: 'f' :: rest => some (.float (.infinite negative), rest)
  | 'n' :: 'a' :: 'n' :: rest => some (.float .nan, rest)
  | s => readDecimal? negative s

/-- The value of digits in a base. -/
def valueInBase (base : Nat) (digits : List Char) : Int :=
  digits.foldl (fun n c => base * n + ((Uuid.hexValue? c).getD 0 : Int)) 0

/-- Reads an integer in another base, given what follows the letter of the base. -/
def readInBase? (base : Nat) (s : List Char) : Option (Value × List Char) := do
  let isDigit (c : Char) : Bool := match Uuid.hexValue? c with
    | some value => value < base
    | none => false
  let (digits, rest) ← readRun? isDigit s
  return (← integer? (valueInBase base digits), rest)

def readNumber? : List Char → Option (Value × List Char)
  | '0' :: 'x' :: rest => readInBase? 16 rest
  | '0' :: 'o' :: rest => readInBase? 8 rest
  | '0' :: 'b' :: rest => readInBase? 2 rest
  | '-' :: rest => readSigned? true rest
  | '+' :: rest => readSigned? false rest
  | s => readSigned? false s

/-! ### Dates -/

/-- Reads a field of a fixed number of digits with a value between two bounds. -/
def readField? (width low high : Nat) (s : List Char) : Option (Nat × List Char) :=
  match Text.readDigits? (s.take width) with
  | some n => if width ≤ s.length ∧ low ≤ n ∧ n ≤ high then some (n, s.drop width) else none
  | none => none

def expect? (c : Char) : List Char → Option (List Char)
  | d :: rest => if d = c then some rest else none
  | [] => none

/-- Skips a fraction of a second, if there is one. -/
def skipSecondFraction (s : List Char) : List Char :=
  match s with
  | '.' :: rest => if (rest.head?.map Char.isDigit).getD false then rest.dropWhile Char.isDigit else s
  | _ => s

def readTime? (s : List Char) : Option (List Char) := do
  let (_, s) ← readField? 2 0 23 s
  let (_, s) ← readField? 2 0 59 (← expect? ':' s)
  let (_, s) ← readField? 2 0 60 (← expect? ':' s)
  return skipSecondFraction s

/-- Skips an offset, if there is one. -/
def skipOffset (s : List Char) : List Char :=
  match s with
  | 'Z' :: rest | 'z' :: rest => rest
  | '+' :: rest | '-' :: rest =>
    let after? : Option (List Char) := do
      let (_, rest) ← readField? 2 0 23 rest
      let (_, rest) ← readField? 2 0 59 (← expect? ':' rest)
      return rest
    after?.getD s
  | _ => s

def readDate? (s : List Char) : Option (List Char) := do
  let (year, s) ← readField? 4 0 9999 s
  let (month, s) ← readField? 2 1 12 (← expect? '-' s)
  let (_, s) ← readField? 2 1 (Timestamp.daysInMonth year month) (← expect? '-' s)
  return s

/-- Skips the time of day after a date, if there is one. -/
def skipTimeOfDate (s : List Char) : List Char :=
  match s with
  | 'T' :: rest | 't' :: rest | ' ' :: rest =>
    match readTime? rest with
    | some rest => skipOffset rest
    | none => s
  | _ => s

/-- Reads a date with or without a time, or a time alone. -/
def readDatetime? (s : List Char) : Option (List Char) :=
  match readDate? s with
  | some rest => some (skipTimeOfDate rest)
  | none => readTime? s

/-- Reads a value that is neither a string, an array nor a table. -/
def readScalar? : List Char → Option (Value × List Char)
  | 't' :: 'r' :: 'u' :: 'e' :: rest => some (.boolean true, rest)
  | 'f' :: 'a' :: 'l' :: 's' :: 'e' :: rest => some (.boolean false, rest)
  | s =>
    match readDatetime? s with
    | some rest => some (.datetime, rest)
    | none => readNumber? s

end RemoteJobs.Toml
