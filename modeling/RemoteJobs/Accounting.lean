import RemoteJobs.Text.Blank
import RemoteJobs.Text.Layout
import RemoteJobs.Text.Numeral

/-! Records of a batch scheduler's accounting: one line per allocation, with its id, its state and its
exit code between vertical bars. -/
namespace RemoteJobs.Accounting

/-- What a scheduler state means for a job that is watched. -/
inductive BatchState where
  /-- Waiting for resources, or held. -/
  | queued
  /-- Executing, or winding down. -/
  | running
  | completed
  /-- Any other end. -/
  | failed
  | unknown
  deriving DecidableEq, Repr

namespace BatchState

def queuedNames : List String :=
  ["PENDING", "CONFIGURING", "REQUEUED", "REQUEUE_HOLD", "REQUEUE_FED", "SUSPENDED", "RESV_DEL_HOLD"]

def runningNames : List String :=
  ["RUNNING", "COMPLETING", "STAGE_IN", "STAGE_OUT", "SIGNALING", "RESIZING", "STOPPED"]

def failedNames : List String :=
  ["CANCELLED", "FAILED", "TIMEOUT", "NODE_FAIL", "PREEMPTED", "BOOT_FAIL", "OUT_OF_MEMORY", "DEADLINE",
    "SPECIAL_EXIT", "REVOKED"]

/-- The state name in upper case, without what follows a plus sign, a parenthesis or a blank. -/
def token (raw : String) : String :=
  String.ofList ((raw.toList.takeWhile fun c => c != '+' && c != '(' && !Text.isBlank c).map Char.toUpper)

def ofRaw (raw : String) : BatchState :=
  let name := token raw
  if queuedNames.contains name then .queued
  else if runningNames.contains name then .running
  else if name = "COMPLETED" then .completed
  else if failedNames.contains name then .failed
  else .unknown

def isTerminal : BatchState → Bool
  | .completed | .failed => true
  | _ => false

end BatchState

/-- One allocation. The exit code is written `code:signal`. -/
structure Record where
  jobId : String
  rawState : String
  exitCode : String
  deriving DecidableEq, Repr

namespace Record

def state (r : Record) : BatchState :=
  BatchState.ofRaw r.rawState

/-- Reads one line. The first two columns are required, and blanks around a column do not count. -/
def ofLine? (line : List Char) : Option Record :=
  match (Text.fields '|' (Text.trim line)).map Text.trim with
  | jobId :: rawState :: more =>
    if jobId.isEmpty || rawState.isEmpty then none
    else some ⟨String.ofList jobId, String.ofList rawState, String.ofList (more.headD [])⟩
  | _ => none

/-- Every record of an accounting answer, in order. -/
def all (output : String) : List Record :=
  ((Text.lines output.toList).filter fun line => !(Text.trim line).isEmpty).filterMap ofLine?

/-- The record of the given id, or the first record where none has that id. -/
def find? (output jobId : String) : Option Record :=
  let records := all output
  match records.find? fun r => r.jobId == jobId with
  | some r => some r
  | none => records.head?

/-- The part of the exit code before the colon, if it is not blank. -/
def exitStatus? (r : Record) : Option String :=
  let code := Text.trim ((Text.fields ':' r.exitCode.toList).headD [])
  if code.isEmpty then none else some (String.ofList code)

/-- Completed, with every part of the exit code zero. -/
def succeeded (r : Record) : Bool :=
  r.state == .completed &&
    (Text.fields ':' r.exitCode.toList).all fun part => Text.readSigned32? (Text.trim part) == some 0

end Record

end RemoteJobs.Accounting
