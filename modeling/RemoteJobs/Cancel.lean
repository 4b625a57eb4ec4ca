import RemoteJobs.Command
import RemoteJobs.Host
import RemoteJobs.Strategy

/-! Best-effort cancellation. A canceler has one command executed on the job's host. The job may be gone,
the host out of reach or the remote id never assigned, so a failure is noted and nothing more. -/
namespace RemoteJobs

/-- Why no cancel command came to its end. -/
inductive CancelError where
  | missingRemoteId (job : Uuid)
  | exec (job : Uuid) (cause : ExecError)
  deriving DecidableEq, Repr

def CancelError.message : CancelError → String
  | .missingRemoteId job => "Job " ++ job.text ++ ": no remote job id assigned, nothing to cancel"
  | .exec job cause => "Job " ++ job.text ++ ": cancel command failed: " ++ cause.message

namespace CancelStrategy

/-- The command that stops the job. A process or an allocation can only be named by its remote id. -/
def command (strategy : CancelStrategy) (target : Target) : Except CancelError String :=
  match strategy with
  | .dockerNative => .ok (Command.dockerRemove target.uuid)
  | .singularityStart => .ok (Command.instanceStop target.uuid)
  | .singularityRun =>
    match target.remoteId with
    | some remoteId => .ok (Command.kill remoteId)
    | none => .error (.missingRemoteId target.uuid)
  | .slurm =>
    match target.remoteId with
    | some remoteId => .ok (Command.slurmCancel remoteId)
    | none => .error (.missingRemoteId target.uuid)

variable {σ : Type} (host : Host σ)

open Session

/-- Has the cancel command executed over a fresh connection. Its exit code is noted and is no error. -/
def tryCancel (strategy : CancelStrategy) (target : Target) : Session σ (Except CancelError Unit) :=
  match strategy.command target with
  | .error e => return .error e
  | .ok command => do
    match ← connect host target.system with
    | .error e => return .error (.exec target.uuid e)
    | .ok () =>
      match ← execute host target.system command with
      | .error e => return .error (.exec target.uuid e)
      | .ok output =>
        if ← checkExit output then note .debug .canceler "job cancel command succeeded" ["job", "command"]
        return .ok ()

/-- Cancels and notes a failure in place of returning it. -/
def cancel (strategy : CancelStrategy) (target : Target) : Session σ Unit := do
  match ← strategy.tryCancel host target with
  | .ok () => note .debug .canceler "cancel command issued" ["canceler"]
  | .error _ => note .warn .canceler "cancel failed, continuing" ["canceler", "error"]

end CancelStrategy

end RemoteJobs
