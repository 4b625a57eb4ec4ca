import RemoteJobs.Job
import RemoteJobs.Text.Blank

/-! A job together with its application and its execution system, and the remote paths that follow from
the three. -/
namespace RemoteJobs

/-- Container runtime of an application. -/
inductive Runtime where
  | docker
  | singularity
  deriving DecidableEq, Repr

def Runtime.name : Runtime → String
  | .docker => "DOCKER"
  | .singularity => "SINGULARITY"

/-- Launch style of a Singularity application: an instance named after the job, or a plain run. -/
inductive SingularityMode where
  | start
  | run
  deriving DecidableEq, Repr

def SingularityMode.name : SingularityMode → String
  | .start => "START"
  | .run => "RUN"

/-- Batch scheduler of an execution system. -/
inductive Scheduler where
  | slurm
  | pbs
  | lsf
  | condor
  deriving DecidableEq, Repr

def Scheduler.name : Scheduler → String
  | .slurm => "SLURM"
  | .pbs => "PBS"
  | .lsf => "LSF"
  | .condor => "CONDOR"

structure App where
  id : String
  version : String
  runtime : Runtime
  /-- Only Singularity applications have one. -/
  singularityMode : Option SingularityMode
  deriving DecidableEq, Repr

structure ExecSystem where
  id : String
  host : String
  port : Nat
  /-- Login user on the host; the configured user stands in where it is blank. -/
  effectiveUser : Option String
  /-- Relative job directories hang off this one. -/
  rootDir : Option String
  batchScheduler : Option Scheduler
  deriving DecidableEq, Repr

namespace ExecSystem

def defaultPort : Nat := 22

end ExecSystem

structure Context where
  job : Job
  app : App
  system : ExecSystem
  deriving DecidableEq, Repr

/-- What a monitor or a canceler needs to know of a job. It stays as it is while the record changes. -/
structure Target where
  uuid : Uuid
  remoteId : Option String
  system : ExecSystem
  exitCodeFile : String
  deriving DecidableEq, Repr

namespace Path

/-- Joins a relative path to a base with exactly one slash between them; the base stands alone where
nothing is left of the relative path without its leading slashes. -/
def join (base rel : List Char) : List Char :=
  let rel := rel.dropWhile (· == '/')
  if rel.isEmpty then base else (base.reverse.dropWhile (· == '/')).reverse ++ '/' :: rel

end Path

namespace Context

/-- The file that a job's wrapper script leaves the application's exit code in. -/
def exitCodeFileName : String := "tapisjob.exitcode"

/-- The output directory on the execution host: as given where it is absolute, else under the root
directory of the system, or under `/` where the system names none. -/
def outputDir (ctx : Context) : String :=
  let dir := Text.trim ctx.job.execSystemOutputDir.toList
  if dir.head? = some '/' then String.ofList dir
  else
    match ctx.system.rootDir.bind Text.nonBlank? with
    | some root => String.ofList (Path.join root.toList dir)
    | none => String.ofList ('/' :: dir)

def exitCodeFile (ctx : Context) : String :=
  String.ofList (Path.join ctx.outputDir.toList exitCodeFileName.toList)

def target (ctx : Context) : Target where
  uuid := ctx.job.uuid
  remoteId := ctx.job.remoteId?
  system := ctx.system
  exitCodeFile := ctx.exitCodeFile

end Context

end RemoteJobs
