import RemoteJobs.Cli.Arguments
import RemoteJobs.Cli.Files
import RemoteJobs.Cli.Report
import RemoteJobs.Config
import RemoteJobs.JobFile
import RemoteJobs.Log.Filter
import RemoteJobs.Ssh.Client
import RemoteJobs.Tracker

/-! A run of the program, from its arguments to its exit code. -/
namespace RemoteJobs.Cli

/-- What a run finds around it. -/
structure Surroundings where
  /-- The home directory, where one is set. -/
  home : Option String
  read : String → Except FileError String
  /-- Does a path lead to something that can be looked at? A directory counts. -/
  present : String → Bool
  ssh : Ssh.Program
  today : Timestamp
  /-- The text that chooses the notices, where one is set. -/
  logFilter : Option String := none
  logFormat : Option String := none

/-- What a run leaves behind. -/
structure Finish where
  exitCode : Nat
  stdout : String := ""
  stderr : String := ""
  /-- Arguments of every `ssh` process that was started. -/
  calls : List (List String) := []
  notices : List Log.Notice := []

/-! ### Exit codes -/

def exitIllegal : Nat := 1

def exitDispatch : Nat := 2

def exitMisuse : Nat := 2

def exitConfig : Nat := 3

def exitMonitor : Nat := 4

/-- A run that breaks down. -/
def exitBroken : Nat := 101

def exitFor : TrackError → Nat
  | .dispatch _ => exitDispatch
  | .monitor _ => exitMonitor
  | .job _ => exitIllegal

/-! ### Files -/

/-- The path of the configuration that is used unless another one is named. A home that is empty or ends in a
slash has the name put right after it. -/
def standardConfigPath (home : String) : String :=
  let name := ".config/gateway-jobs/config.toml"
  if home.toList.getLast?.all (· = '/') then home ++ name else home ++ "/" ++ name

/-- Reads a configuration that must be there; an error is told by its text. -/
def readConfig (around : Surroundings) (path : String) : Except String Config :=
  if !around.present path then .error ("Config file not found: " ++ path)
  else
    match around.read path with
    | .error e => .error ("Failed to read config file: " ++ e.message)
    | .ok text => (Config.parse text).mapError ConfigError.message

/-- The configuration that was asked for, or the one in its usual place, or the standard one. -/
def findConfig (around : Surroundings) (path : Option String) : Except String Config :=
  match path, around.home with
  | some path, _ => readConfig around path
  | none, none => .error "HOME environment variable not set"
  | none, some home =>
    let path := standardConfigPath home
    if around.present path then readConfig around path else .ok Config.standard

def readJobFile (around : Surroundings) (path : String) : Except String Context :=
  match around.read path with
  | .error e => .error ("Failed to read job file: " ++ e.message)
  | .ok text => (JobFile.parse around.today text).mapError JobFile.Fault.message

/-- The paths that a run with the arguments may read. -/
def pathsOf (home : Option String) (arguments : List String) : List String :=
  let files (jobFile : String) (configFile : Option String) : List String :=
    jobFile :: (configFile.or (home.map standardConfigPath)).toList
  match Invocation.ofArguments arguments with
  | .ok ⟨_, .monitor jobFile configFile _⟩ | .ok ⟨_, .cancel jobFile configFile _⟩ => files jobFile configFile
  | _ => []

/-- The configuration and the job of a command, the configuration first; an error is told by its line. -/
def load (around : Surroundings) (jobFile : String) (configFile : Option String) :
    Except String (Config × Context) :=
  match findConfig around configFile with
  | .error e => .error ("Configuration error: " ++ e)
  | .ok config =>
    match readJobFile around jobFile with
    | .error e => .error ("Error loading job file " ++ jobFile ++ ": " ++ e)
    | .ok ctx => .ok (config, ctx)

/-! ### Commands -/

def runCheck (source target : String) (asJson : Bool) : Finish :=
  match Status.parse source, Status.parse target with
  | .error e, _ | .ok _, .error e => { exitCode := exitIllegal, stderr := linesText [e.message] }
  | .ok source, .ok target =>
    let legal := source.canBecome target
    { exitCode := if legal then 0 else exitIllegal, stdout := checkReport source target legal asJson }

def runTransitions (source : Option String) (asJson : Bool) : Finish :=
  match source with
  | none => { exitCode := 0, stdout := transitionsReport Status.all asJson }
  | some name =>
    match Status.parse name with
    | .error e => { exitCode := exitIllegal, stderr := linesText [e.message] }
    | .ok source => { exitCode := 0, stdout := transitionsReport [source] asJson }

/-- The end of a command that dealt with a host. A client that halted takes the whole run with it. -/
def close (world : World Ssh.Client) (finish : Finish) : Finish :=
  let calls := world.host.calls
  let notices := world.notices ++ Ssh.notices world.trace
  if world.host.halted then
    { exitCode := exitBroken
      stderr := linesText ["overflow when adding duration to instant"]
      calls := calls
      notices := notices }
  else { finish with calls := calls, notices := notices }

def begin (around : Surroundings) : World Ssh.Client where
  host := { today := around.today }

/-- Follows a job. The report is printed even where that fails. -/
def runMonitor (around : Surroundings) (polls : Nat) (config : Config) (ctx : Context) (asJson : Bool) :
    Option Finish := do
  let host := Ssh.host config.ssh around.ssh
  let ((result, ctx), world) ←
    (Tracker.track host polls (Poll.Pacer.ofSchedule config.monitor) ctx).run (begin around)
  let report := jobReport ctx.job asJson
  return close world (match result with
    | .ok _ => { exitCode := 0, stdout := report }
    | .error e =>
      { exitCode := exitFor e, stdout := report, stderr := linesText ["Monitoring failed: " ++ e.message] })

/-- Cancels a job. -/
def runCancel (around : Surroundings) (config : Config) (ctx : Context) (asJson : Bool) : Finish :=
  let host := Ssh.host config.ssh around.ssh
  let ((result, ctx), world) := (Tracker.cancel host ctx).run (begin around)
  close world (match result with
    | .ok _ => { exitCode := 0, stdout := jobReport ctx.job asJson }
    | .error e => { exitCode := exitFor e, stderr := linesText ["Cancel failed: " ++ e.message] })

def runAction (around : Surroundings) (polls : Nat) : Action → Option Finish
  | .check source target asJson => some (runCheck source target asJson)
  | .transitions source asJson => some (runTransitions source asJson)
  | .monitor jobFile configFile asJson =>
    match load around jobFile configFile with
    | .error e => some { exitCode := exitConfig, stderr := linesText [e] }
    | .ok (config, ctx) => runMonitor around polls config ctx asJson
  | .cancel jobFile configFile asJson =>
    match load around jobFile configFile with
    | .error e => some { exitCode := exitConfig, stderr := linesText [e] }
    | .ok (config, ctx) => some (runCancel around config ctx asJson)

def usage : String :=
  linesText ["Job lifecycle control plane", "", "Usage: gateway-jobs [OPTIONS] <COMMAND>", "", "Commands:",
    "  check        Check whether a status change is legal",
    "  transitions  Print the transition table",
    "  monitor      Follow a job on its execution host until it finishes",
    "  cancel       Cancel a job on its execution host",
    "  help         Print this message or the help of the given subcommand(s)", "", "Options:",
    "  -v, --verbose  Debug logging (GATEWAY_JOBS_LOG overrides)", "  -h, --help     Print help",
    "  -V, --version  Print version"]

def versionText : String :=
  linesText ["gateway-jobs 0.1.0"]

/-- A run with the notices that its filter lets through. Without a filter there is no run. Nothing comes of a
run that polls more often than it is granted. -/
def run (around : Surroundings) (polls : Nat) (arguments : List String) : Option Finish :=
  match Invocation.ofArguments arguments with
  | .error .help => some { exitCode := 0, stdout := usage }
  | .error .version => some { exitCode := 0, stdout := versionText }
  | .error .misuse => some { exitCode := exitMisuse, stderr := "error: " }
  | .ok invocation =>
    match Log.Filter.choose? around.logFilter invocation.verbose with
    | none => some { exitCode := exitBroken, stderr := linesText ["byte index is not a char boundary"] }
    | some filter => do
      let finish ← runAction around polls invocation.action
      return { finish with notices := finish.notices.filter filter.admits }

end RemoteJobs.Cli
