import RemoteJobs.Text.Blank
import RemoteJobs.Text.Layout
import RemoteJobs.Text.Numeral

/-! Records of a process listing. A line holds a process id, the id of its parent and a text, with ASCII
blanks before and between the columns. A line that is none of this is passed over. -/
namespace RemoteJobs.Listing

structure Record where
  pid : Nat
  ppid : Nat
  /-- State, user and command, as listed. -/
  rest : String
  deriving DecidableEq, Repr

/-- Process ids fit into 32 bits. -/
def pidLimit : Nat := 4294967296

/-- A column of digits with the blanks after it taken away; there must be at least one blank. -/
def column? (s : List Char) : Option (List Char × List Char) :=
  let digits := s.takeWhile Char.isDigit
  let after := s.dropWhile Char.isDigit
  let body := after.dropWhile Text.isAsciiBlank
  if digits.isEmpty || body.length = after.length then none else some (digits, body)

/-- Reads one line. The text must not be blank and cannot run past a line end. -/
def Record.ofLine? (line : List Char) : Option Record := do
  let (pid, afterPid) ← column? (line.dropWhile Text.isAsciiBlank)
  let (ppid, body) ← column? afterPid
  if body.contains '\n' then none
  else
    let pid ← Text.readUnsigned? pidLimit pid
    let ppid ← Text.readUnsigned? pidLimit ppid
    let rest := Text.trimEnd body
    if rest.isEmpty then none else some ⟨pid, ppid, String.ofList rest⟩

/-- Lines of a listing that are not blank. -/
def listedLines (listing : String) : List (List Char) :=
  (Text.lines listing.toList).filter fun line => !(Text.trim line).isEmpty

/-- Every record of a listing, in order. -/
def records (listing : String) : List Record :=
  (listedLines listing).filterMap Record.ofLine?

/-- Does a listing hold a line that is no record? -/
def hasStrayLine (listing : String) : Bool :=
  (listedLines listing).any fun line => (Record.ofLine? line).isNone

/-- The process that a remote id names, if it names one. -/
def pidOf? (remoteId : String) : Option Nat :=
  Text.readUnsigned? pidLimit (Text.trim remoteId.toList)

end RemoteJobs.Listing
