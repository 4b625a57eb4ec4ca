import RemoteJobs.Monitor.Singularity
import RemoteJobs.Monitor.Slurm
import RemoteJobs.Strategy

/-! A monitor watches one job until it has left the scheduler's queue and then until it has ended. It
connects afresh for every query, and all it remembers between queries is the exit code it saw last. -/
namespace RemoteJobs

open Monitor Poll

structure Monitor where
  strategy : MonitorStrategy
  target : Target
  pacer : Pacer
  /-- What the latest concluding query saw. -/
  exitCode : Option String := none

namespace Monitor

/-- A reading as a poll of the running phase. -/
def Reading.poll : Reading → Finding (Outcome × Option String)
  | .null | .active => .pending
  | .empty => .empty
  | .done exitCode => .ready (.finished, exitCode)
  | .failed exitCode => .ready (.failed, exitCode)

/-- The monitor for a job, chosen by the job's combination. -/
def choose (ctx : Context) (pacer : Pacer) : Except DispatchError Monitor :=
  (MonitorStrategy.choose ctx).map fun strategy => ⟨strategy, ctx.target, pacer, none⟩

variable {σ : Type} (host : Host σ)

/-- One look at the job. A container that is watched elsewhere is not looked at. -/
def look (strategy : MonitorStrategy) (target : Target) : Session σ (Except MonitorError Reading) :=
  match strategy with
  | .dockerNative => return .ok .null
  | .singularityStart => Singularity.query host .start target
  | .singularityRun => Singularity.query host .run target
  | .dockerSlurm => Slurm.query host target

/-- One status query. An inactive query leaves the host alone and finds nothing. -/
def query (active : Bool) (m : Monitor) : Session σ (Except MonitorError RemoteStatus × Monitor) := do
  if active then
    match ← look host m.strategy m.target with
    | .error e => return (.error e, m)
    | .ok reading =>
      return (.ok reading.status, { m with exitCode := reading.exitCodeAfter m.exitCode })
  else return (.ok .null, m)

/-- Waits until the job has left the queue. Only a batch job is ever queued. -/
def awaitStart (polls : Nat) (m : Monitor) : Watch σ (Except MonitorError Unit × Monitor) :=
  match m.strategy with
  | .dockerSlurm => do
    let (result, pacer) ← pollUntil host polls m.target.uuid m.strategy.allowsEmpty
      (Slurm.queryQueue host m.target) m.pacer
    return (result, { m with pacer := pacer })
  | _ => return (.ok (), m)

/-- A look at the job as a poll of the running phase. -/
def runningPoll (strategy : MonitorStrategy) (target : Target) :
    Session σ (Except MonitorError (Finding (Outcome × Option String))) := do
  match ← look host strategy target with
  | .error e => return .error e
  | .ok reading => return .ok reading.poll

/-- Waits until the job has ended on its host, or hands a container over at once. -/
def awaitEnd (polls : Nat) (m : Monitor) : Watch σ (Except MonitorError Outcome × Monitor) :=
  match m.strategy with
  | .dockerNative => Watch.ofSession do
    Session.note .debug .docker "docker container completion is tracked elsewhere" ["job"]
    return (.ok .delegated, m)
  | strategy => do
    let (result, pacer) ← pollUntil host polls m.target.uuid strategy.allowsEmpty
      (runningPoll host strategy m.target) m.pacer
    match result with
    | .error e => return (.error e, { m with pacer := pacer })
    | .ok (outcome, exitCode) => return (.ok outcome, { m with pacer := pacer, exitCode := exitCode })

/-- Removes what the job left behind on its host, if anything. Never fails. -/
def cleanUp (m : Monitor) : Session σ Unit :=
  match m.strategy with
  | .singularityStart => Singularity.cleanUp host .start m.target
  | .singularityRun => Singularity.cleanUp host .run m.target
  | .dockerNative | .dockerSlurm => return ()

end Monitor

end RemoteJobs
