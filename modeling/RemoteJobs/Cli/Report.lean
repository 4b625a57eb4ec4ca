import RemoteJobs.Job
import RemoteJobs.Cli.Json
import RemoteJobs.Log.Filter

/-! What the commands print. -/
namespace RemoteJobs.Cli

/-- Lines of text, each with its line end. -/
def linesText (lines : List String) : String :=
  String.join (lines.map (· ++ "\n"))

def document (j : Json) : String :=
  linesText [j.pretty]

/-- The answer to whether a status change is legal. -/
def checkReport (source target : Status) (legal asJson : Bool) : String :=
  if asJson then
    document (.object [("from", .string source.name), ("legal", .boolean legal), ("to", .string target.name)])
  else linesText [source.name ++ " -> " ++ target.name ++ (if legal then ": legal" else ": not legal")]

/-- A name in a column of its own. -/
def column (width : Nat) (name : String) : String :=
  name ++ String.ofList (List.replicate (width - name.length) ' ')

/-- A line of the transition table. -/
def transitionsLine (source : Status) : String :=
  let targets := source.targets.map Status.name
  if targets.isEmpty then column 18 source.name ++ " (terminal)"
  else column 18 source.name ++ " -> " ++ ", ".intercalate targets

def transitionsReport (sources : List Status) (asJson : Bool) : String :=
  if asJson then
    document (.array (sources.map fun source =>
      .object [("from", .string source.name), ("to", .strings (source.targets.map Status.name))]))
  else linesText (sources.map transitionsLine)

/-- A job record with its fields in alphabetical order. -/
def jobJson (job : Job) : Json :=
  .object [("created", .string job.created.text), ("exec_system_id", .string job.execSystemId),
    ("exec_system_output_dir", .string job.execSystemOutputDir), ("job_type", .string job.jobType.name),
    ("last_message", .stringOrNull job.lastMessage), ("last_updated", .string job.lastUpdated.text),
    ("name", .string job.name), ("owner", .string job.owner),
    ("remote_job_id", .stringOrNull job.remoteJobId),
    ("remote_outcome", .stringOrNull (job.remoteOutcome.map Outcome.name)),
    ("remote_result_info", .stringOrNull job.remoteResultInfo), ("status", .string job.status.name),
    ("tenant", .string job.tenant), ("uuid", .string job.uuid.text)]

def jobReport (job : Job) (asJson : Bool) : String :=
  if asJson then document (jobJson job)
  else
    linesText (("Job " ++ job.uuid.text ++ ": " ++ job.status.name) ::
      (job.remoteOutcome.map ("  remote outcome: " ++ ·.word)).toList ++
      (job.remoteResultInfo.map ("  exit code: " ++ ·)).toList ++ (job.lastMessage.map ("  " ++ ·)).toList)

/-- A notice as it is written to the operator. -/
def noticeLine (format : Log.Format) (notice : Log.Notice) : String :=
  match format with
  | .json =>
    "\x7b\"level\":" ++ Json.quote notice.level.name ++ ",\"message\":" ++ Json.quote notice.text ++
      ",\"target\":" ++ Json.quote notice.component.path ++ "\x7d"
  | .pretty => "  " ++ notice.level.name ++ " " ++ notice.component.path ++ "\n    " ++ notice.text ++ "\n"
  | .compact => notice.level.name ++ " " ++ notice.component.path ++ ": " ++ notice.text

end RemoteJobs.Cli
