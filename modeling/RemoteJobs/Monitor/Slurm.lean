import RemoteJobs.Accounting
import RemoteJobs.Command
import RemoteJobs.Monitor.Status
import RemoteJobs.Poll.Loop

/-! Watching batch jobs through the accounting of their scheduler. Accounting lags behind submission, so an
answer without a record means that the job is not known yet. -/
namespace RemoteJobs.Monitor.Slurm

open Accounting Poll

/-- What came of an accounting query. -/
inductive Answer where
  /-- The host could not be reached, or the query failed there. -/
  | unavailable
  | noRecord
  | record (r : Accounting.Record)
  deriving DecidableEq, Repr

/-- The answer as a reading of the running phase. A terminal state concludes; it means success only with
every part of the exit code zero. -/
def Answer.reading : Answer → Reading
  | .unavailable => .null
  | .noRecord => .empty
  | .record r =>
    if r.state.isTerminal then
      if r.succeeded then .done r.exitStatus? else .failed r.exitStatus?
    else .active

/-- The answer as a poll of the queued phase, which any state but a queued one ends. -/
def Answer.queuePoll : Answer → Finding Unit
  | .unavailable => .pending
  | .noRecord => .empty
  | .record r => if r.state = .queued then .pending else .ready ()

variable {σ : Type} (host : Host σ)

open Session

/-- Asks the accounting over a fresh connection. -/
def ask (target : Target) : Session σ (Except MonitorError Answer) :=
  match target.remoteId with
  | none => return .error (.missingRemoteId target.uuid)
  | some remoteId => do
    match ← connect host target.system with
    | .error _ =>
      note .warn .slurm "cannot reach execution host" ["job", "system", "error"]
      return .ok .unavailable
    | .ok () =>
      match ← execute host target.system (Command.slurmAccounting remoteId) with
      | .error _ =>
        note .warn .slurm "slurm accounting query failed" ["job", "error"]
        return .ok .unavailable
      | .ok output =>
        if ← checkExit output then
          note .debug .slurm "slurm accounting" ["job", "remote_id", "record"]
          match Record.find? output.text remoteId with
          | some r => return .ok (.record r)
          | none => return .ok .noRecord
        else return .ok .unavailable

/-- One status query of the running phase. -/
def query (target : Target) : Session σ (Except MonitorError Reading) := do
  match ← ask host target with
  | .error e => return .error e
  | .ok answer =>
    if let .record r := answer then
      if r.state = .unknown then note .warn .slurm "unrecognized slurm state" ["job", "state"]
      if r.state.isTerminal then note .info .slurm "slurm job finished" ["job", "state", "exit_code"]
    return .ok answer.reading

/-- One poll of the queued phase. -/
def queryQueue (target : Target) : Session σ (Except MonitorError (Finding Unit)) := do
  match ← ask host target with
  | .error e => return .error e
  | .ok answer =>
    if answer.queuePoll = .ready () then note .debug .slurm "slurm job left the queue" ["job", "state"]
    return .ok answer.queuePoll

end RemoteJobs.Monitor.Slurm
