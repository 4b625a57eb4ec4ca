import RemoteJobs.Context
import RemoteJobs.Toml.Document
import RemoteJobs.Toml.Record

/-! The job file: one table each for the job, its application and its execution system. -/
namespace RemoteJobs.JobFile

open Toml

/-- Why a text is no job file. -/
inductive Fault where
  | syntaxError
  | misfit (cause : Misfit)

/-- Where and how a text departs from the format is not part of the message. -/
def Fault.message : Fault → String
  | .syntaxError | .misfit _ => "Failed to parse job file: TOML parse error"

/-- A job without dates of its own was made and changed at the time of reading. -/
def jobFields (now : Timestamp) : Fields Job :=
  Job.mk <$> .required "uuid" .uuid
    <*> .optional "name" .text ""
    <*> .optional "tenant" .text ""
    <*> .optional "owner" .text ""
    <*> .required "status" (.choice Status.all Status.name)
    <*> .required "job_type" (.choice [.fork, .batch] JobType.name)
    <*> .optional "remote_job_id" (.given .text) none
    <*> .required "exec_system_id" .text
    <*> .required "exec_system_output_dir" .text
    <*> .optional "remote_outcome" (.given (.choice [.finished, .failed, .delegated] Outcome.name)) none
    <*> .optional "remote_result_info" (.given .text) none
    <*> .optional "last_message" (.given .text) none
    <*> .optional "created" .timestamp now
    <*> .optional "last_updated" .timestamp now

def appFields : Fields App :=
  App.mk <$> .required "id" .text
    <*> .optional "version" .text ""
    <*> .required "runtime" (.choice [.docker, .singularity] Runtime.name)
    <*> .optional "singularity_mode" (.given (.choice [.start, .run] SingularityMode.name)) none

def systemFields : Fields ExecSystem :=
  ExecSystem.mk <$> .required "id" .text
    <*> .required "host" .text
    <*> .optional "port" (.natural 16) ExecSystem.defaultPort
    <*> .optional "effective_user" (.given .text) none
    <*> .optional "root_dir" (.given .text) none
    <*> .optional "batch_scheduler" (.given (.choice [.slurm, .pbs, .lsf, .condor] Scheduler.name)) none

def fields (now : Timestamp) : Fields Context :=
  Context.mk <$> .required "job" ((jobFields now).decoder "Job")
    <*> .required "app" (appFields.decoder "AppDescriptor")
    <*> .required "system" (systemFields.decoder "ExecSystem")

def parse (now : Timestamp) (text : String) : Except Fault Context :=
  match Toml.parse? text with
  | none => .error .syntaxError
  | some entries =>
    match (fields now).ofEntries entries with
    | .error misfit => .error (.misfit misfit)
    | .ok ctx => .ok ctx

end RemoteJobs.JobFile
