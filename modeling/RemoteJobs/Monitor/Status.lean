import RemoteJobs.Job
import RemoteJobs.Poll.Schedule

/-! What one status query finds, and why watching a job can fail. -/
namespace RemoteJobs

namespace Monitor

/-- Result of one query, as it is shown. -/
inductive RemoteStatus where
  /-- Nothing could be determined. -/
  | null
  /-- The query ran but found nothing of the job. -/
  | empty
  | active
  | failed
  | done
  deriving DecidableEq, Repr

def RemoteStatus.name : RemoteStatus → String
  | .null => "Null"
  | .empty => "Empty"
  | .active => "Active"
  | .failed => "Failed"
  | .done => "Done"

/-- Result of one query together with the exit code it saw. Only a query that finds the job ended looks
for an exit code. -/
inductive Reading where
  | null
  | empty
  | active
  | failed (exitCode : Option String)
  | done (exitCode : Option String)
  deriving DecidableEq, Repr

def Reading.status : Reading → RemoteStatus
  | .null => .null
  | .empty => .empty
  | .active => .active
  | .failed _ => .failed
  | .done _ => .done

/-- Does the reading say that the job has ended? -/
def Reading.concludes : Reading → Bool
  | .failed _ | .done _ => true
  | _ => false

/-- The exit code known after a reading, given the one known before. -/
def Reading.exitCodeAfter (known : Option String) : Reading → Option String
  | .failed exitCode | .done exitCode => exitCode
  | _ => known

end Monitor

/-- Why watching a job was given up. -/
inductive MonitorError where
  | emptyResult (job : Uuid)
  | policyExhausted (job : Uuid) (attempts elapsedSeconds : Nat)
  | missingRemoteId (job : Uuid)
  deriving DecidableEq, Repr

def MonitorError.message : MonitorError → String
  | .emptyResult job => "Job " ++ job.text ++ ": remote status query returned no result"
  | .policyExhausted job attempts elapsedSeconds =>
    "Job " ++ job.text ++ ": gave up monitoring after " ++ toString attempts ++ " polls over " ++
      toString elapsedSeconds ++ "s"
  | .missingRemoteId job => "Job " ++ job.text ++ ": no remote job id assigned"

end RemoteJobs
