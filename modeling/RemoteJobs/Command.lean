import RemoteJobs.Shell.Word
import RemoteJobs.Uuid

/-! Command lines sent to an execution host. The words are fixed except for one argument at the end:
a job's identifier, its remote id, or a path. -/
namespace RemoteJobs.Command

/-- The process listing that a Singularity job is recognised in. -/
def processListing : String :=
  "ps --no-headers --sort=pid -eo pid,ppid,stat,euser,cmd"

/-- Removes the container named after the job. -/
def dockerRemove (job : Uuid) : String :=
  "docker rm -f " ++ job.text

/-- Stops the Singularity instance named after the job. -/
def instanceStop (job : Uuid) : String :=
  "singularity instance stop " ++ job.text

/-- Kills the process that a `singularity run` job was launched as. -/
def kill (remoteId : String) : String :=
  "kill -9 " ++ Shell.quote remoteId

def slurmCancel (remoteId : String) : String :=
  "scancel " ++ Shell.quote remoteId

/-- Asks the scheduler's accounting for one line per allocation. -/
def slurmAccounting (remoteId : String) : String :=
  "sacct --noheader --parsable2 --allocations --format=JobID,State,ExitCode --jobs " ++
    Shell.quote remoteId

def printFile (path : String) : String :=
  "cat " ++ Shell.quote path

end RemoteJobs.Command
