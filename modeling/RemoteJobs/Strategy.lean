import RemoteJobs.Context

/-! Choice of a monitor and a canceler by job type, runtime, launch style and scheduler. A combination
without a strategy is an error that names the combination; a job never silently goes unwatched. -/
namespace RemoteJobs

/-- The combination that a strategy is chosen by. The mode is kept for Singularity applications only, the
scheduler for batch jobs only. -/
structure StrategyKey where
  job : Uuid
  jobType : JobType
  runtime : Runtime
  mode : Option SingularityMode
  scheduler : Option Scheduler
  deriving DecidableEq, Repr

def StrategyKey.text (key : StrategyKey) : String :=
  let mode := match key.mode with
    | some mode => " " ++ mode.name
    | none => ""
  let scheduler := match key.scheduler with
    | some scheduler => ", scheduler " ++ scheduler.name ++ ")"
    | none => ", no scheduler)"
  "job " ++ key.job.text ++ " (type " ++ key.jobType.name ++ ", runtime " ++ key.runtime.name ++ mode ++
    scheduler

/-- What a strategy is for. -/
inductive Role where
  | monitor
  | canceler
  deriving DecidableEq, Repr

def Role.name : Role → String
  | .monitor => "monitor"
  | .canceler => "canceler"

/-- Why no strategy was found. -/
inductive DispatchError where
  | unsupported (role : Role) (key : StrategyKey)
  | notImplemented (role : Role) (key : StrategyKey)
  | missingScheduler (job : Uuid) (system : String)
  | missingSingularityMode (job : Uuid) (app : String)
  deriving DecidableEq, Repr

def DispatchError.message : DispatchError → String
  | .unsupported role key => "Unsupported " ++ role.name ++ " combination for " ++ key.text
  | .notImplemented role key => role.name ++ " not implemented for " ++ key.text
  | .missingScheduler job system =>
    "Job " ++ job.text ++ ": batch execution system '" ++ system ++ "' has no scheduler assigned"
  | .missingSingularityMode job app =>
    "Job " ++ job.text ++ ": Singularity application '" ++ app ++
      "' declares neither start nor run mode"

/-- The key of a job. A batch job needs a scheduler, a directly launched Singularity job a mode. -/
def StrategyKey.resolve (ctx : Context) : Except DispatchError StrategyKey :=
  let mode := match ctx.app.runtime with
    | .docker => none
    | .singularity => ctx.app.singularityMode
  let key scheduler : StrategyKey := ⟨ctx.job.uuid, ctx.job.jobType, ctx.app.runtime, mode, scheduler⟩
  match ctx.job.jobType with
  | .batch =>
    match ctx.system.batchScheduler with
    | none => .error (.missingScheduler ctx.job.uuid ctx.system.id)
    | some scheduler => .ok (key (some scheduler))
  | .fork =>
    if ctx.app.runtime = .singularity ∧ mode = none then
      .error (.missingSingularityMode ctx.job.uuid ctx.app.id)
    else .ok (key none)

/-- Ways to watch a job. -/
inductive MonitorStrategy where
  /-- Completion of the container is seen elsewhere. -/
  | dockerNative
  | singularityStart
  | singularityRun
  | dockerSlurm
  deriving DecidableEq, Repr

def MonitorStrategy.name : MonitorStrategy → String
  | .dockerNative => "docker-native"
  | .singularityStart => "singularity-start"
  | .singularityRun => "singularity-run"
  | .dockerSlurm => "docker-slurm"

/-- Accounting records lag behind submission, so only the scheduler's monitor takes an empty answer for
"not yet". -/
def MonitorStrategy.allowsEmpty : MonitorStrategy → Bool
  | .dockerSlurm => true
  | _ => false

def MonitorStrategy.choose (ctx : Context) : Except DispatchError MonitorStrategy :=
  match StrategyKey.resolve ctx with
  | .error e => .error e
  | .ok key =>
    match key.jobType, key.runtime, key.mode, key.scheduler with
    | .fork, .docker, _, _ => .ok .dockerNative
    | .fork, .singularity, some .start, _ => .ok .singularityStart
    | .fork, .singularity, some .run, _ => .ok .singularityRun
    | .batch, .docker, _, some .slurm => .ok .dockerSlurm
    | _, _, _, _ => .error (.unsupported .monitor key)

/-- Ways to stop a job. -/
inductive CancelStrategy where
  | dockerNative
  | singularityStart
  | singularityRun
  | slurm
  deriving DecidableEq, Repr

def CancelStrategy.name : CancelStrategy → String
  | .dockerNative => "docker-native"
  | .singularityStart => "singularity-start"
  | .singularityRun => "singularity-run"
  | .slurm => "slurm"

def CancelStrategy.choose (ctx : Context) : Except DispatchError CancelStrategy :=
  match StrategyKey.resolve ctx with
  | .error e => .error e
  | .ok key =>
    match key.jobType, key.runtime, key.mode, key.scheduler with
    | .fork, .docker, _, _ => .ok .dockerNative
    | .fork, .singularity, some .start, _ => .ok .singularityStart
    | .fork, .singularity, some .run, _ => .ok .singularityRun
    | .batch, .singularity, _, some .slurm => .ok .slurm
    | .batch, .docker, _, some .slurm => .error (.notImplemented .canceler key)
    | _, _, _, _ => .error (.unsupported .canceler key)

end RemoteJobs
