/-! Bytes of a remote command as text. The bytes need not be UTF-8: each longest run of bytes that
starts a character without completing it is replaced by one replacement character, and reading goes on
at the first byte that did not fit. -/
namespace RemoteJobs.Text.Utf8

/-- A character begun: the bits read so far, the range of the next byte, and how many more follow it. -/
structure Begun where
  bits : Nat
  low : Nat
  high : Nat
  owed : Nat

/-- What a byte between two characters does: it is a character, it begins one, or it fits nowhere. -/
inductive Lead where
  | character (c : Char)
  | begins (begun : Begun)
  | stray

def lead (b : Nat) : Lead :=
  if b ≤ 0x7F then .character (Char.ofNat b)
  else if 0xC2 ≤ b && b ≤ 0xDF then .begins ⟨b - 0xC0, 0x80, 0xBF, 0⟩
  else if b == 0xE0 then .begins ⟨0, 0xA0, 0xBF, 1⟩
  else if b == 0xED then .begins ⟨b - 0xE0, 0x80, 0x9F, 1⟩
  else if 0xE1 ≤ b && b ≤ 0xEF then .begins ⟨b - 0xE0, 0x80, 0xBF, 1⟩
  else if b == 0xF0 then .begins ⟨0, 0x90, 0xBF, 2⟩
  else if 0xF1 ≤ b && b ≤ 0xF3 then .begins ⟨b - 0xF0, 0x80, 0xBF, 2⟩
  else if b == 0xF4 then .begins ⟨4, 0x80, 0x8F, 2⟩
  else .stray

def replacement : Char := Char.ofNat 0xFFFD

/-- The text of the bytes, given the character begun before them. -/
def decodeFrom : Option Begun → List UInt8 → List Char
  | none, [] => []
  | some _, [] => [replacement]
  | none, b :: rest =>
    match lead b.toNat with
    | .character c => c :: decodeFrom none rest
    | .begins begun => decodeFrom (some begun) rest
    | .stray => replacement :: decodeFrom none rest
  | some begun, b :: rest =>
    if begun.low ≤ b.toNat && b.toNat ≤ begun.high then
      let bits := begun.bits * 64 + (b.toNat - 0x80)
      match begun.owed with
      | 0 => Char.ofNat bits :: decodeFrom none rest
      | owed + 1 => decodeFrom (some ⟨bits, 0x80, 0xBF, owed⟩) rest
    else
      match lead b.toNat with
      | .character c => replacement :: c :: decodeFrom none rest
      | .begins next => replacement :: decodeFrom (some next) rest
      | .stray => replacement :: replacement :: decodeFrom none rest

def decode (bytes : List UInt8) : String :=
  String.ofList (decodeFrom none bytes)

end RemoteJobs.Text.Utf8
