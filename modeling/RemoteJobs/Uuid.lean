/-! Identifiers of jobs: 128 bits, written as five groups of lower-case hexadecimal digits. -/
namespace RemoteJobs

structure Uuid where
  bits : BitVec 128
  deriving DecidableEq, Repr

namespace Uuid

def nil : Uuid := ⟨0⟩

/-- The digit for a value below sixteen. -/
def hexDigit (n : Nat) : Char :=
  if n < 10 then Char.ofNat ('0'.toNat + n) else Char.ofNat ('a'.toNat + (n - 10))

/-- The thirty-two digits, most significant first. -/
def digits (u : Uuid) : List Char :=
  (List.range 32).map fun i => hexDigit (u.bits.extractLsb' (4 * (31 - i)) 4).toNat

/-- Puts a hyphen after the 8th, 12th, 16th and 20th digit. -/
def hyphenate (digits : List Char) : List Char :=
  digits.take 8 ++ '-' :: (digits.drop 8).take 4 ++ '-' :: (digits.drop 12).take 4 ++
    '-' :: (digits.drop 16).take 4 ++ '-' :: digits.drop 20

def text (u : Uuid) : String :=
  String.ofList (hyphenate u.digits)

instance : ToString Uuid := ⟨text⟩

def hexValue? (c : Char) : Option Nat :=
  if c.isDigit then some (c.toNat - '0'.toNat)
  else if 'a' ≤ c ∧ c ≤ 'f' then some (c.toNat - 'a'.toNat + 10)
  else if 'A' ≤ c ∧ c ≤ 'F' then some (c.toNat - 'A'.toNat + 10)
  else none

/-- Thirty-two digits of either case. -/
def ofDigits? (digits : List Char) : Option Uuid :=
  if digits.length = 32 then
    (digits.foldlM (fun n c => (hexValue? c).map (16 * n + ·)) 0).map fun n => ⟨BitVec.ofNat 128 n⟩
  else none

/-- Five groups of digits with hyphens between them. -/
def ofHyphenated? (s : List Char) : Option Uuid :=
  if s.length = 36 && s[8]? == some '-' && s[13]? == some '-' && s[18]? == some '-' &&
      s[23]? == some '-' then
    ofDigits? (s.take 8 ++ (s.drop 9).take 4 ++ (s.drop 14).take 4 ++ (s.drop 19).take 4 ++ s.drop 24)
  else none

/-- What stands before an identifier in its URN form, in letters of either case. -/
def urnLead : List Char := "urn:uuid:".toList

/-- Reads the plain, the hyphenated, the braced and the URN form. Only the hyphenated form may stand
in braces or behind `urn:uuid:`. -/
def ofText? (text : String) : Option Uuid :=
  let s := text.toList
  if s.length = 32 then ofDigits? s
  else if s.length = 36 then ofHyphenated? s
  else if s.length = 38 && s.head? == some '\x7b' && s.getLast? == some '\x7d' then
    ofHyphenated? ((s.drop 1).take 36)
  else if (s.take urnLead.length).map Char.toLower = urnLead then ofHyphenated? (s.drop urnLead.length)
  else none

/-- The identifier of sixteen octets, most significant first. -/
def ofOctets (octets : List Nat) : Uuid :=
  ⟨BitVec.ofNat 128 (octets.foldl (fun n octet => 256 * n + octet) 0)⟩

end Uuid

end RemoteJobs
