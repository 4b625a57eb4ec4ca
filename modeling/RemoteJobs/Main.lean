import RemoteJobs.Cli.Run
import RemoteJobs.Ssh.Script
import Std.Time.DateTime.Timestamp

/-! The command line: reads the files that a command names, runs it, and prints what it leaves behind. No
program is started from here, so a remote command ends as on a machine without `ssh`. -/
namespace RemoteJobs.Cli

/-- One poll more than a phase can count, so the grant never ends a run before its count does. -/
def pollsGranted : Nat := UInt32.size

def fileErrorOf : IO.Error → FileError
  | .noFileOrDirectory .. => .missing
  | .inappropriateType _ code _ =>
    if code = 20 then .notDirectory else .isDirectory
  | .invalidArgument _ code reason =>
    if code = 36 then .nameTooLong else .other (reason ++ " (os error " ++ toString code ++ ")")
  | .userError _ => .other "stream did not contain valid UTF-8"
  | e => .other (toString e)

def readText (path : String) : IO (Except FileError String) := do
  try
    return .ok (← IO.FS.readFile path)
  catch e =>
    return .error (fileErrorOf e)

def isPresent (path : String) : IO Bool := do
  try
    discard (IO.FS.realPath path)
    return true
  catch _ =>
    return false

def currentTime : IO Timestamp := do
  let now := (← Std.Time.Timestamp.now).val
  return ⟨now.second.val, now.nano.val.toNat⟩

/-- Everything a run with the arguments may look at. -/
def surroundings (arguments : List String) : IO Surroundings := do
  let home ← IO.getEnv "HOME"
  let paths := pathsOf home arguments
  let contents ← paths.mapM fun path => return (path, ← readText path)
  let found ← paths.filterM isPresent
  return {
    home := home
    read := fun path => (contents.lookup path).getD (.error .missing)
    present := found.contains
    ssh := Ssh.absent
    today := ← currentTime
    logFilter := ← IO.getEnv "GATEWAY_JOBS_LOG"
    logFormat := ← IO.getEnv "GATEWAY_JOBS_LOG_FORMAT" }

/-- Runs the program and prints the notices first. -/
def start (arguments : List String) : IO UInt32 := do
  let around ← surroundings arguments
  match run around pollsGranted arguments with
  | none => return UInt32.ofNat exitBroken
  | some finish =>
    for notice in finish.notices do
      IO.eprintln (noticeLine (Log.Format.choose around.logFormat) notice)
    IO.eprint finish.stderr
    IO.print finish.stdout
    return UInt32.ofNat finish.exitCode

end RemoteJobs.Cli

def main (arguments : List String) : IO UInt32 :=
  RemoteJobs.Cli.start arguments
