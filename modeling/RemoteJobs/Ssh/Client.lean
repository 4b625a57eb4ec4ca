import RemoteJobs.Host
import RemoteJobs.Ssh.Settings
import RemoteJobs.Text.Utf8

/-! Hosts reached through the `ssh` program, which is started once for every command and given a deadline
each time. `ssh` ends with 255 where it failed itself; any other exit code is the command's own. -/
namespace RemoteJobs.Ssh

/-- How a started process ends. -/
inductive Ending where
  | exited (code : Nat)
  | killed
  /-- Not before any deadline. -/
  | never
  deriving DecidableEq, Repr

/-- What a started process printed, and how it ended. -/
structure Reply where
  stdout : List UInt8 := []
  stderr : List UInt8 := []
  ending : Ending := .exited 0
  deriving DecidableEq, Repr

/-- What the program does for its arguments after the calls that went before; nothing where there is no such
program. -/
abbrev Program := List (List String) → List String → Option Reply

/-- The calling side. Its clock runs only while something is waited for. -/
structure Client where
  /-- Arguments of every process started so far. -/
  calls : List (List String) := []
  elapsed : Nat := 86400 * Poll.nanosPerSecond
  today : Timestamp
  /-- A deadline that the clock cannot tell ends the whole run. -/
  halted : Bool := false
  deriving DecidableEq, Repr

def connectionFailure : Nat := 255

/-- The time at which a command is given up, if the clock can tell it: its seconds have 63 bits. -/
def deadline? (now timeoutSeconds : Nat) : Option Nat :=
  if now / Poll.nanosPerSecond + timeoutSeconds < 9223372036854775808 then
    some (now + timeoutSeconds * Poll.nanosPerSecond)
  else none

/-- The result of a process that ended in time. -/
def Reply.answer (settings : Settings) (system : ExecSystem) (reply : Reply) (exitCode : Int) :
    Except ExecError Output :=
  if exitCode = connectionFailure then
    .error (.connectionFailed (settings.destination system ++ ":" ++ toString system.port ++ ": " ++
      Text.trimmed (Text.Utf8.decode reply.stderr)))
  else .ok ⟨Text.Utf8.decode reply.stdout, exitCode⟩

namespace Client

/-- A system without a host cannot be connected to; anything else shows with the first command. -/
def connect (system : ExecSystem) (client : Client) : Except ExecError Unit × Client :=
  if Text.isBlankText system.host then
    (.error (.connectionFailed ("execution system '" ++ system.id ++ "' has no host")), client)
  else (.ok (), client)

/-- Waits for a started process until its deadline. -/
def await (settings : Settings) (system : ExecSystem) (reply : Reply) (client : Client) :
    Except ExecError Output × Client :=
  match deadline? client.elapsed settings.commandTimeoutSeconds with
  | none => (.error (.timeout settings.commandTimeoutSeconds), { client with halted := true })
  | some deadline =>
    let late : Except ExecError Output × Client :=
      (.error (.timeout settings.commandTimeoutSeconds), { client with elapsed := deadline })
    if settings.commandTimeoutSeconds = 0 then late
    else
      match reply.ending with
      | .never => late
      | .killed => (reply.answer settings system (-1), client)
      | .exited code => (reply.answer settings system (code % 256 : Nat), client)

/-- Starts the program for one command. No argument can hold a NUL. -/
def execute (settings : Settings) (program : Program) (system : ExecSystem) (command : String)
    (client : Client) : Except ExecError Output × Client :=
  let arguments := settings.arguments system command
  if client.halted then (.error (.timeout settings.commandTimeoutSeconds), client)
  else if arguments.any fun argument => argument.toList.contains '\x00' then
    (.error (.spawn "nul byte found in provided data"), client)
  else
    match program client.calls arguments with
    | none => (.error (.spawn "No such file or directory (os error 2)"), client)
    | some reply => await settings system reply { client with calls := client.calls ++ [arguments] }

end Client

def host (settings : Settings) (program : Program) : Host Client where
  connect := Client.connect
  execute := Client.execute settings program
  uptime := Client.elapsed
  sleep nanos client := { client with elapsed := client.elapsed + nanos }
  date := Client.today

def begun : Log.Notice :=
  ⟨.trace, .ssh, "ssh exec", ["host", "command"]⟩

def ended : Log.Notice :=
  ⟨.debug, .ssh, "ssh command finished", ["host", "exit_code"]⟩

/-- Notices about the calls of a run: one for every command, one more for every output. -/
def notices (trace : List HostEvent) : List Log.Notice :=
  trace.flatMap fun
    | .connected _ => []
    | .executed _ (.error _) => [begun]
    | .executed _ (.ok _) => [begun, ended]

end RemoteJobs.Ssh
