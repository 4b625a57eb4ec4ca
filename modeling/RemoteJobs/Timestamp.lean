import RemoteJobs.Text.Blank

/-! Points in time. They are read from RFC 3339 texts, a little more liberally than the standard asks,
and always written in UTC with the fewest of zero, three, six or nine fraction digits that keep the value. -/
namespace RemoteJobs

/-- Seconds since 1970 in UTC and nanoseconds within the second. A leap second is the 59th second with a
thousand million nanoseconds or more. -/
structure Timestamp where
  seconds : Int
  nanos : Nat
  deriving DecidableEq, Repr

namespace Timestamp

/-- Days from 1970-01-01 to a day of the Gregorian calendar. -/
def daysOfDate (year : Int) (month day : Nat) : Int :=
  let y := if month ≤ 2 then year - 1 else year
  let era := y.fdiv 400
  let yearOfEra := y - era * 400
  let shifted : Nat := if month > 2 then month - 3 else month + 9
  let dayOfYear : Nat := (153 * shifted + 2) / 5 + day - 1
  let dayOfEra := yearOfEra * 365 + yearOfEra.fdiv 4 - yearOfEra.fdiv 100 + dayOfYear
  era * 146097 + dayOfEra - 719468

/-- The calendar day that lies a number of days after 1970-01-01. -/
def dateOfDays (days : Int) : Int × Nat × Nat :=
  let z := days + 719468
  let era := z.fdiv 146097
  let dayOfEra := (z - era * 146097).toNat
  let yearOfEra := (dayOfEra - dayOfEra / 1460 + dayOfEra / 36524 - dayOfEra / 146096) / 365
  let dayOfYear := dayOfEra - (365 * yearOfEra + yearOfEra / 4 - yearOfEra / 100)
  let shifted := (5 * dayOfYear + 2) / 153
  let day := dayOfYear - (153 * shifted + 2) / 5 + 1
  let month := if shifted < 10 then shifted + 3 else shifted - 9
  let year : Int := yearOfEra + era * 400
  (if month ≤ 2 then year + 1 else year, month, day)

def isLeapYear (year : Int) : Bool :=
  year.fmod 4 == 0 && (year.fmod 100 != 0 || year.fmod 400 == 0)

def daysInMonth (year : Int) (month : Nat) : Nat :=
  if month = 2 then (if isLeapYear year then 29 else 28)
  else if month = 4 ∨ month = 6 ∨ month = 9 ∨ month = 11 then 30
  else 31

/-- A number with at least the given count of digits. -/
def padded (width n : Nat) : String :=
  let digits := toString n
  String.ofList (List.replicate (width - digits.length) '0') ++ digits

/-- Years of four digits are written plainly, all others with their sign. -/
def yearText (year : Int) : String :=
  if 0 ≤ year ∧ year ≤ 9999 then padded 4 year.toNat
  else (if year < 0 then "-" else "+") ++ padded 4 year.natAbs

def fractionText (nanos : Nat) : String :=
  if nanos = 0 then ""
  else if nanos % 1000000 = 0 then "." ++ padded 3 (nanos / 1000000)
  else if nanos % 1000 = 0 then "." ++ padded 6 (nanos / 1000)
  else "." ++ padded 9 nanos

def text (t : Timestamp) : String :=
  let days := t.seconds.fdiv 86400
  let ofDay := (t.seconds - days * 86400).toNat
  let (year, month, day) := dateOfDays days
  let second := ofDay % 60 + t.nanos / 1000000000
  yearText year ++ "-" ++ padded 2 month ++ "-" ++ padded 2 day ++ "T" ++ padded 2 (ofDay / 3600) ++
    ":" ++ padded 2 (ofDay / 60 % 60) ++ ":" ++ padded 2 second ++
    fractionText (t.nanos % 1000000000) ++ "Z"

/-! ### Reading -/

/-- Up to `width` digits and what follows them. -/
def number? (width : Nat) (s : List Char) : Option (Nat × List Char) :=
  let digits := (s.take width).takeWhile Char.isDigit
  if digits.isEmpty then none
  else some (digits.foldl (fun n c => 10 * n + (c.toNat - '0'.toNat)) 0, s.drop digits.length)

/-- A column of one or two digits, blanks before it skipped. -/
def column? (s : List Char) : Option (Nat × List Char) :=
  number? 2 (Text.trimStart s)

/-- One fixed character, blanks before it skipped. -/
def mark? (c : Char) (s : List Char) : Option (List Char) :=
  match Text.trimStart s with
  | d :: rest => if d = c then some rest else none
  | [] => none

/-- A year has up to four digits, or any number of them behind a sign. -/
def year? (s : List Char) : Option (Int × List Char) :=
  match Text.trimStart s with
  | '-' :: rest => (number? rest.length rest).map fun (n, rest) => (-(n : Int), rest)
  | '+' :: rest => (number? rest.length rest).map fun (n, rest) => ((n : Int), rest)
  | s => (number? 4 s).map fun (n, rest) => ((n : Int), rest)

/-- The first nine digits after a point count; a text without point has no fraction. -/
def fraction? : List Char → Option (Nat × List Char)
  | '.' :: rest =>
    match number? 9 rest with
    | some (n, after) =>
      some (n * Nat.pow 10 (9 - (rest.length - after.length)), after.dropWhile Char.isDigit)
    | none => none
  | s => some (0, s)

/-- An offset in seconds: `Z`, `UTC` or a sign with two digits of hours and two of minutes. -/
def offset? (s : List Char) : Option (Int × List Char) :=
  if (s.take 3).map Char.toUpper = ['U', 'T', 'C'] then some (0, s.drop 3)
  else
    match s with
    | 'Z' :: rest | 'z' :: rest => some (0, rest)
    | sign :: h1 :: h2 :: rest =>
      if (sign = '+' ∨ sign = '-' ∨ sign = '\u2212') ∧ h1.isDigit ∧ h2.isDigit then
        match rest.dropWhile fun c => c == ':' || Text.isBlank c with
        | m1 :: m2 :: rest =>
          if m1.isDigit ∧ m2.isDigit ∧ m1 ≤ '5' then
            let digit (c : Char) : Int := c.toNat - '0'.toNat
            let seconds := (10 * digit h1 + digit h2) * 3600 + (10 * digit m1 + digit m2) * 60
            if seconds < 86400 then some (if sign = '+' then seconds else -seconds, rest) else none
          else none
        | _ => none
      else none
    | _ => none

/-- The days on which a timestamp may fall. -/
def inCalendar (days : Int) : Bool :=
  daysOfDate (-262143) 1 1 ≤ days && days ≤ daysOfDate 262142 12 31

/-- Why a text is no timestamp. -/
inductive Fault where
  | malformed
  /-- The offset leads from the calendar's first or last day out of it. -/
  | outOfCalendar
  deriving DecidableEq, Repr

/-- Reads a date, one of `T`, `t` or a space, a time and an offset. Blanks may stand before each part. The
result is the time as if it were in UTC, and the offset in seconds. -/
def clockTime? (text : String) : Option (Timestamp × Int) := do
  let (year, s) ← year? text.toList
  let (month, s) ← column? (← mark? '-' s)
  let (day, s) ← column? (← mark? '-' s)
  let s ← match s with
    | 'T' :: rest | 't' :: rest | ' ' :: rest => some rest
    | _ => none
  let (hour, s) ← column? s
  let (minute, s) ← column? (← mark? ':' s)
  let (second, s) ← column? (← mark? ':' s)
  let (nanos, s) ← fraction? s
  let (offset, s) ← offset? (Text.trimStart s)
  if (Text.trimStart s).isEmpty ∧ 1 ≤ month ∧ month ≤ 12 ∧ 1 ≤ day ∧ day ≤ daysInMonth year month ∧
      hour < 24 ∧ minute < 60 ∧ second ≤ 60 then
    let days := daysOfDate year month day
    let leap : Nat := if second = 60 then 1 else 0
    let seconds := days * 86400 + (hour * 3600 + minute * 60 + (second - leap) : Nat)
    if inCalendar days then some (⟨seconds, nanos + leap * 1000000000⟩, offset) else none
  else none

/-- Reads a timestamp. -/
def ofText (text : String) : Except Fault Timestamp :=
  match clockTime? text with
  | none => .error .malformed
  | some (clock, offset) =>
    let seconds := clock.seconds - offset
    if inCalendar (seconds.fdiv 86400) then .ok { clock with seconds := seconds } else .error .outOfCalendar

end Timestamp

end RemoteJobs
