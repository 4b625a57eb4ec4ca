import RemoteJobs.Status.Transition
import RemoteJobs.Timestamp
import RemoteJobs.Uuid

/-! The job record. Its status changes only through `Job.transition`, which asks the strict table; a
refused or repeated event leaves the whole record as it was. -/
namespace RemoteJobs

/-- How a job reaches its execution host. -/
inductive JobType where
  /-- Launched on the host itself and followed by its process id. -/
  | fork
  /-- Submitted to a batch scheduler and followed by the scheduler's id. -/
  | batch
  deriving DecidableEq, Repr

def JobType.name : JobType → String
  | .fork => "FORK"
  | .batch => "BATCH"

/-- How the remote side of a job ended. -/
inductive Outcome where
  | finished
  | failed
  /-- Completion is reported by another component; nothing was polled. -/
  | delegated
  deriving DecidableEq, Repr

namespace Outcome

/-- The name in a job record. -/
def name : Outcome → String
  | .finished => "FINISHED"
  | .failed => "FAILED"
  | .delegated => "DELEGATED"

/-- The word in a message to a person. -/
def word : Outcome → String
  | .finished => "Finished"
  | .failed => "Failed"
  | .delegated => "Delegated"

/-- The status a job moves to once its remote side has ended. -/
def nextStatus : Outcome → Status
  | .finished | .delegated => .archiving
  | .failed => .failed

end Outcome

structure Job where
  uuid : Uuid
  name : String
  tenant : String
  owner : String
  status : Status
  jobType : JobType
  /-- Process id or scheduler id; blank or missing until assigned. -/
  remoteJobId : Option String
  execSystemId : String
  /-- Relative to the root directory of the system unless absolute. -/
  execSystemOutputDir : String
  remoteOutcome : Option Outcome
  /-- The exit code text that the remote side reported. -/
  remoteResultInfo : Option String
  lastMessage : Option String
  created : Timestamp
  lastUpdated : Timestamp
  deriving DecidableEq, Repr

/-- Why a job record refused an event. -/
inductive JobError where
  | transition (job : Uuid) (cause : TransitionError)
  deriving DecidableEq, Repr

def JobError.message : JobError → String
  | .transition job cause => "Job " ++ job.text ++ ": " ++ cause.message

namespace Job

/-- A job as it is first recorded: PENDING and without any remote trace. -/
def initial (uuid : Uuid) (now : Timestamp) (jobType : JobType) (systemId outputDir : String) : Job where
  uuid := uuid
  name := ""
  tenant := ""
  owner := ""
  status := .pending
  jobType := jobType
  remoteJobId := none
  execSystemId := systemId
  execSystemOutputDir := outputDir
  remoteOutcome := none
  remoteResultInfo := none
  lastMessage := none
  created := now
  lastUpdated := now

/-- The remote id without the blanks around it, if one is assigned. -/
def remoteId? (job : Job) : Option String :=
  job.remoteJobId.bind Text.nonBlank?

def isTerminal (job : Job) : Bool :=
  job.status.isTerminal

/-- Moves the job to a status that the strict table allows, with a message and the time of the move. -/
def transition (now : Timestamp) (target : Status) (message : String) (job : Job) :
    Except JobError Fired × Job :=
  match Strictness.strict.fire job.status target with
  | (.ok (.moved source target), status) =>
    (.ok (.moved source target),
      { job with status := status, lastUpdated := now, lastMessage := some message })
  | (.ok fired, _) => (.ok fired, job)
  | (.error cause, _) => (.error (.transition job.uuid cause), job)

/-- Records how the remote side ended and which exit code it reported. -/
def recordResult (now : Timestamp) (outcome : Outcome) (exitCode : Option String) (job : Job) : Job :=
  { job with remoteOutcome := some outcome, remoteResultInfo := exitCode, lastUpdated := now }

end Job

end RemoteJobs
