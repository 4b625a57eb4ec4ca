/-! Binary floating-point numbers of 64 bits: a decimal numeral becomes the nearest of them, and one of them is
written with the fewest digits that read back. All of it is exact arithmetic on natural numbers. -/
namespace RemoteJobs

/-- A finite number is `significand * 2 ^ exponent` with a significand below `2 ^ 53`, which is at least
`2 ^ 52` unless the exponent is the least one. -/
inductive Binary64 where
  | finite (negative : Bool) (significand : Nat) (exponent : Int)
  | infinite (negative : Bool)
  | nan
  deriving DecidableEq, Repr

namespace Binary64

def leastExponent : Int := -1074

/-- The least significand that takes all 53 bits. -/
def fullSignificand : Nat := 4503599627370496

def greatestExponent : Int := 971

/-- The quotient rounded to the nearest whole number, a half to the even one. -/
def roundDiv (num den : Nat) : Nat :=
  let floor := num / den
  let twice := 2 * (num % den)
  if twice < den ∨ (twice = den ∧ floor % 2 = 0) then floor else floor + 1

/-- The quotient divided by a power of two, as a quotient again. -/
def scaleDown (num den : Nat) (exponent : Int) : Nat × Nat :=
  if 0 ≤ exponent then (num, den * Nat.pow 2 exponent.toNat)
  else (num * Nat.pow 2 exponent.natAbs, den)

/-- The number nearest to a positive quotient. -/
def ofQuotient (negative : Bool) (num den : Nat) : Binary64 :=
  let guess := max leastExponent ((num.log2 : Int) - den.log2 - 53)
  let (n, d) := scaleDown num den guess
  let exponent := if 2 * fullSignificand ≤ n / d then guess + 1 else guess
  let (n, d) := scaleDown num den exponent
  let significand := roundDiv n d
  let (significand, exponent) :=
    if significand = 2 * fullSignificand then (fullSignificand, exponent + 1) else (significand, exponent)
  if greatestExponent < exponent then infinite negative else finite negative significand exponent

/-- The number nearest to `digits * 10 ^ power`. Powers far out of range are settled by size alone. -/
def ofDecimal (negative : Bool) (digits : Nat) (power : Int) : Binary64 :=
  let size := (toString digits).length + power
  if digits = 0 ∨ size < -330 then finite negative 0 leastExponent
  else if 330 < size then infinite negative
  else if 0 ≤ power then ofQuotient negative (digits * Nat.pow 10 power.toNat) 1
  else ofQuotient negative digits (Nat.pow 10 power.natAbs)

/-! ### Shortest text -/

/-- The numbers that read back as a positive number lie between two bounds, in units of
`2 ^ (exponent - 2)`. The bounds themselves read back when the significand is even. -/
structure Neighbourhood where
  low : Nat
  middle : Nat
  high : Nat
  closed : Bool

def neighbourhood (significand : Nat) (exponent : Int) : Neighbourhood where
  low :=
    if significand = fullSignificand ∧ exponent ≠ leastExponent then 4 * significand - 1
    else 4 * significand - 2
  middle := 4 * significand
  high := 4 * significand + 2
  closed := significand % 2 == 0

/-- A number of units of `2 ^ (exponent - 2)`, in steps of `10 ^ power`, as a quotient. -/
def inSteps (units : Nat) (exponent power : Int) : Nat × Nat :=
  let (n, d) := scaleDown units 1 (2 - exponent)
  if 0 ≤ power then (n, d * Nat.pow 10 power.toNat) else (n * Nat.pow 10 power.natAbs, d)

/-- The multiple of `10 ^ power` that reads back and is nearest, if one does. Of two that are equally near it is
the greater one. -/
def stepWithin? (around : Neighbourhood) (exponent power : Int) : Option Nat :=
  let (n, d) := inSteps around.middle exponent power
  let reads (count : Nat) : Bool :=
    let (low, d) := inSteps around.low exponent power
    let (high, _) := inSteps around.high exponent power
    if around.closed then low ≤ count * d && count * d ≤ high else low < count * d && count * d < high
  let below := n / d
  let lowerIsNearer := 2 * (n % d) < d
  match reads below, reads (below + 1) with
  | true, true => some (if lowerIsNearer then below else below + 1)
  | true, false => some below
  | false, true => some (below + 1)
  | false, false => none

/-- Tries finer and finer steps, a given number of them. -/
def firstStep? (around : Neighbourhood) (exponent : Int) : Nat → Int → Option (Nat × Int)
  | 0, _ => none
  | tries + 1, power =>
    match stepWithin? around exponent power with
    | some count => some (count, power)
    | none => firstStep? around exponent tries (power - 1)

/-- Digits without an exponent, with at least one of them on each side of the point. -/
def positional (count : Nat) (power : Int) : String :=
  if 0 ≤ power then toString count ++ String.ofList (List.replicate power.toNat '0') ++ ".0"
  else
    let places := power.natAbs
    let digits := (toString count).toList
    let digits := List.replicate (places + 1 - digits.length) '0' ++ digits
    String.ofList (digits.take (digits.length - places)) ++ "." ++
      String.ofList (digits.drop (digits.length - places))

def text : Binary64 → String
  | .nan => "NaN"
  | .infinite negative => if negative then "-inf" else "inf"
  | .finite negative significand exponent =>
    let digits :=
      if significand = 0 then "0.0"
      else
        match firstStep? (neighbourhood significand exponent) exponent 700 309 with
        | some (count, power) => positional count power
        | none => "0.0"
    if negative then "-" ++ digits else digits

end Binary64

end RemoteJobs
