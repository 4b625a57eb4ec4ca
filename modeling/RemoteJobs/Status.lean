import RemoteJobs.Text.Blank

/-! The thirteen statuses of a job. A job starts PENDING, walks towards FINISHED one stage at a time,
and ends in one of three terminal statuses. -/
namespace RemoteJobs

inductive Status where
  | pending
  | processingInputs
  | stagingInputs
  | stagingJob
  | submittingJob
  /-- Waiting in a batch scheduler's queue. -/
  | queued
  | running
  | archiving
  /-- Held for an operator. -/
  | blocked
  | paused
  | finished
  | cancelled
  | failed
  deriving DecidableEq, Repr

namespace Status

/-- Every status, in lifecycle order with the side states last. -/
def all : List Status :=
  [.pending, .processingInputs, .stagingInputs, .stagingJob, .submittingJob, .queued, .running,
    .archiving, .blocked, .paused, .finished, .cancelled, .failed]

def name : Status → String
  | .pending => "PENDING"
  | .processingInputs => "PROCESSING_INPUTS"
  | .stagingInputs => "STAGING_INPUTS"
  | .stagingJob => "STAGING_JOB"
  | .submittingJob => "SUBMITTING_JOB"
  | .queued => "QUEUED"
  | .running => "RUNNING"
  | .archiving => "ARCHIVING"
  | .blocked => "BLOCKED"
  | .paused => "PAUSED"
  | .finished => "FINISHED"
  | .cancelled => "CANCELLED"
  | .failed => "FAILED"

instance : ToString Status := ⟨name⟩

/-- A terminal status accepts no event, not even its own name. -/
def isTerminal : Status → Bool
  | .finished | .cancelled | .failed => true
  | _ => false

def isActive (s : Status) : Bool :=
  !s.isTerminal

def terminal : List Status :=
  all.filter isTerminal

def active : List Status :=
  all.filter isActive

/-- Reads a name typed by a person: blanks around it and the case of ASCII letters do not count. -/
def ofName? (text : String) : Option Status :=
  let wanted := (Text.trim text.toList).map Char.toUpper
  all.find? fun s => s.name.toList == wanted

theorem mem_all (s : Status) : s ∈ all := by
  cases s <;> simp [all]

end Status

end RemoteJobs
