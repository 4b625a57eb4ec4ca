import RemoteJobs.Command
import RemoteJobs.Host
import RemoteJobs.Monitor.Status
import RemoteJobs.Listing.InstanceTree
import RemoteJobs.Listing.RunTree

/-! Watching Singularity jobs through the process listing of their host. Once the job's process is gone
its leftovers are removed, and the exit code file in the output directory decides between success and
failure; a file that is absent or holds no integer counts as success. -/
namespace RemoteJobs.Monitor.Singularity

open Listing

/-- What a listing says about a job. -/
inductive Verdict where
  /-- The process that the remote id names is not listed, and the listing decides nothing. -/
  | missing
  | running
  /-- The job has ended; a leftover process or instance is to be removed first. -/
  | ended (removal : Option String)
  deriving DecidableEq, Repr

/-- The command that removes what an ended job leaves behind. -/
def removal (mode : SingularityMode) (job : Uuid) (remoteId : String) : String :=
  match mode with
  | .start => Command.instanceStop job
  | .run => Command.kill remoteId

/-- An instance runs while sinit has its startscript and has ended when sinit stands alone. A plain run
lasts while its process has a runscript; it has ended when the process is alone or gone. -/
def judge (mode : SingularityMode) (job : Uuid) (remoteId listing : String) : Verdict :=
  match mode with
  | .start =>
    let tree := InstanceTree.scan listing remoteId job.text
    if tree.sinit.isNone then .missing
    else if tree.startscript.isSome then .running
    else .ended (some (removal mode job remoteId))
  | .run =>
    let tree := RunTree.scan listing remoteId
    if tree.parent.isNone then .ended none
    else if tree.runscript.isSome then .running
    else .ended (some (removal mode job remoteId))

/-- Is there something left of the job that no process of the job uses any more? -/
def hasLeftovers (mode : SingularityMode) (job : Uuid) (remoteId listing : String) : Bool :=
  match mode with
  | .start =>
    let tree := InstanceTree.scan listing remoteId job.text
    (tree.daemon.isSome || tree.sinit.isSome) && tree.startscript.isNone && tree.app.isNone
  | .run =>
    let tree := RunTree.scan listing remoteId
    tree.parent.isSome && tree.runscript.isNone && tree.app.isNone

/-- What an attempt to read the exit code file says. Only a readable integer other than zero means
failure. -/
def readingOfExitCode (answer : Except ExecError Output) : Reading :=
  match answer with
  | .error _ => .done none
  | .ok output =>
    if output.succeeded then
      match Text.readSigned32? output.text.toList with
      | some 0 => .done (some "0")
      | some code => .failed (some (toString code))
      | none => .done none
    else .done none

variable {σ : Type} (host : Host σ)

open Session

/-- A listing taken over a fresh connection, or nothing where the host could not be asked. -/
def takeListing (target : Target) : Session σ (Option String) := do
  match ← connect host target.system with
  | .error _ =>
    note .warn .singularity "cannot reach execution host" ["job", "system", "error"]
    return none
  | .ok () =>
    match ← execute host target.system Command.processListing with
    | .error _ =>
      note .warn .singularity "process listing failed" ["job", "error"]
      return none
    | .ok output =>
      discard (checkExit output)
      return some output.text

/-- Notices about a listing that is scanned for a remote id. -/
def noteScan (listing remoteId : String) : Session σ Unit := do
  if hasStrayLine listing then note .warn .listing "skipping unrecognized process listing line" ["line"]
  if (pidOf? remoteId).isNone then note .warn .listing "remote job id is not a process id" ["remote_id"]
  note .debug .listing "process scan" ["complete", "tree"]

/-- Runs a removal command. Its failure is noted and otherwise makes no difference. -/
def remove (target : Target) (command : String) : Session σ Unit := do
  match ← execute host target.system command with
  | .error _ => note .warn .singularity "job cleanup failed" ["job", "command", "error"]
  | .ok output =>
    if ← checkExit output then note .debug .singularity "removed job leftovers" ["job", "command"]

/-- Reads the exit code file and says how the job ended. -/
def conclude (target : Target) : Session σ Reading := do
  let answer ← execute host target.system (Command.printFile target.exitCodeFile)
  match answer with
  | .error _ => note .warn .singularity "cannot read exit code file, assuming success" ["error"]
  | .ok output =>
    if !output.succeeded then note .debug .singularity "no exit code file, assuming success" ["exit_code"]
    else if (Text.readSigned32? output.text.toList).isNone then
      note .warn .singularity "exit code file is not an integer, assuming success" ["content"]
  note .info .singularity "job process has terminated" ["job", "status", "exit_code"]
  return readingOfExitCode answer

/-- One status query: a listing, and where it shows that the job has ended, the removal of its leftovers
and the exit code, all over one connection. -/
def query (mode : SingularityMode) (target : Target) : Session σ (Except MonitorError Reading) :=
  match target.remoteId with
  | none => return .error (.missingRemoteId target.uuid)
  | some remoteId => do
    match ← takeListing host target with
    | none => return .ok .null
    | some listing =>
      if listing.isEmpty then return .ok .empty
      noteScan listing remoteId
      match judge mode target.uuid remoteId listing with
      | .missing =>
        note .warn .singularity "sinit process for singularity instance not found" ["job", "remote_id"]
        return .ok .empty
      | .running => return .ok .active
      | .ended none =>
        note .debug .singularity "singularity run parent is gone" ["job", "remote_id"]
        return .ok (← conclude host target)
      | .ended (some command) =>
        remove host target command
        return .ok (← conclude host target)

/-- Removes what an ended job left behind, if anything. Never fails. -/
def cleanUp (mode : SingularityMode) (target : Target) : Session σ Unit :=
  match target.remoteId with
  | none => note .debug .singularity "no remote id, nothing to clean up" ["job"]
  | some remoteId => do
    match ← takeListing host target with
    | none => return ()
    | some listing =>
      noteScan listing remoteId
      if hasLeftovers mode target.uuid remoteId listing then
        remove host target (removal mode target.uuid remoteId)
      else note .debug .singularity "job already gone or still present, nothing to remove" ["job"]

end RemoteJobs.Monitor.Singularity
