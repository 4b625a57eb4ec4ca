import RemoteJobs.Cancel
import RemoteJobs.Monitor

/-! Following one job through its remote phases. The job is moved to QUEUED (batch jobs only) and RUNNING
as its monitor reports, its remote outcome is recorded, and it is moved on. Every change of status goes
through the strict table. -/
namespace RemoteJobs

open Monitor Poll

/-- Why a job could not be followed or cancelled. -/
inductive TrackError where
  | dispatch (cause : DispatchError)
  | monitor (cause : MonitorError)
  | job (cause : JobError)
  deriving DecidableEq, Repr

def TrackError.message : TrackError → String
  | .dispatch cause => cause.message
  | .monitor cause => cause.message
  | .job cause => cause.message

namespace Tracker

/-- The message that a job carries after its remote phase. -/
def endMessage (outcome : Outcome) (exitCode : Option String) : String :=
  match exitCode with
  | some code => "Remote phase ended: " ++ outcome.word ++ ", exit code " ++ code
  | none => "Remote phase ended: " ++ outcome.word

variable {σ : Type} (host : Host σ)

open Session

/-- Moves a job at the host's present date. -/
def move (target : Status) (message : String) (job : Job) : Session σ (Except JobError Fired × Job) := do
  let (answer, job) := job.transition (← date host) target message
  keepChange answer
  return (answer, job)

def tell (level : Log.Level) (text : String) (details : List String) : Watch σ Unit :=
  Watch.ofSession (note level .tracker text details)

/-- Brings a job to RUNNING. A batch job is QUEUED until its monitor sees it leave the queue. -/
def start (polls : Nat) (m : Monitor) (job : Job) : Watch σ (Except TrackError Unit × Monitor × Job) := do
  if job.status = .running then return (.ok (), m, job)
  match job.jobType with
  | .fork =>
    let (moved, job) ← move host .running "Job running on the execution system" job
    return (moved.mapError .job |>.map fun _ => (), m, job)
  | .batch =>
    match ← move host .queued "Job queued by the batch scheduler" job with
    | (.error e, job) => return (.error (.job e), m, job)
    | (.ok _, job) =>
      match ← m.awaitStart host polls with
      | (.error e, m) => return (.error (.monitor e), m, job)
      | (.ok (), m) =>
        let (moved, job) ← move host .running "Job running on the execution system" job
        return (moved.mapError .job |>.map fun _ => (), m, job)

/-- Waits for the end of a running job, records its outcome and moves it on. -/
def finish (polls : Nat) (m : Monitor) (job : Job) : Watch σ (Except TrackError Status × Monitor × Job) := do
  match ← m.awaitEnd host polls with
  | (.error e, m) => return (.error (.monitor e), m, job)
  | (.ok outcome, m) =>
    let recorded := job.recordResult (← date host) outcome m.exitCode
    tell .info "remote phase ended" ["job", "outcome", "exit_code"]
    match ← move host outcome.nextStatus (endMessage outcome m.exitCode) recorded with
    | (.error e, job) => return (.error (.job e), m, job)
    | (.ok _, job) => return (.ok job.status, m, job)

def follow (polls : Nat) (m : Monitor) (job : Job) : Watch σ (Except TrackError Status × Monitor × Job) := do
  match ← start host polls m job with
  | (.error e, m, job) => return (.error e, m, job)
  | (.ok (), m, job) => finish host polls m job

/-- Follows a submitted job until its remote phase ends. Whatever came of it the monitor cleans up; a job
that could not be watched to its end has FAILED. -/
def track (polls : Nat) (pacer : Pacer) (ctx : Context) : Watch σ (Except TrackError Status × Context) := do
  if ctx.job.isTerminal then
    tell .info "job already finished, nothing to track" ["job", "status"]
    return (.ok ctx.job.status, ctx)
  match Monitor.choose ctx pacer with
  | .error e => return (.error (.dispatch e), ctx)
  | .ok m =>
    tell .info "tracking job" ["job", "monitor", "status"]
    let (result, m, job) ← follow host polls m ctx.job
    m.cleanUp host
    match result with
    | .error (.monitor e) =>
      tell .warn "monitoring failed" ["job", "error"]
      match ← move host .failed e.message job with
      | (.error refused, job) => return (.error (.job refused), { ctx with job := job })
      | (.ok _, job) => return (.error (.monitor e), { ctx with job := job })
    | result => return (result, { ctx with job := job })

/-- Cancels a job on its host as well as that can be done, and marks it CANCELLED. A job that has ended
stays as it is. -/
def cancel (ctx : Context) : Session σ (Except TrackError Status × Context) := do
  if ctx.job.isTerminal then
    note .info .tracker "job already finished, not cancelling" ["job", "status"]
    return (.ok ctx.job.status, ctx)
  match CancelStrategy.choose ctx with
  | .error e => return (.error (.dispatch e), ctx)
  | .ok strategy =>
    note .info .tracker "cancelling job" ["job", "canceler"]
    strategy.cancel host ctx.target
    match ← move host .cancelled "Job cancelled" ctx.job with
    | (.error e, job) => return (.error (.job e), { ctx with job := job })
    | (.ok _, job) => return (.ok job.status, { ctx with job := job })

end Tracker

end RemoteJobs
