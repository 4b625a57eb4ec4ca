import RemoteJobs.Context
import RemoteJobs.Log.Notice
import RemoteJobs.Poll.Pacer

/-! Execution hosts as the program meets them. A host is asked for a connection and given command lines;
what it answers is its own affair. Everything a run does to its host is kept in a trace, and so is every
status change it asks of a job record, so that a statement about a run can speak of the connections it
asked for, the commands it had executed and the statuses it went through. -/
namespace RemoteJobs

/-- Result of a remote command that ran to its end. -/
structure Output where
  stdout : String
  exitCode : Int
  deriving DecidableEq, Repr

namespace Output

/-- What the command printed, without the blanks around it. -/
def text (output : Output) : String :=
  Text.trimmed output.stdout

def succeeded (output : Output) : Bool :=
  output.exitCode == 0

end Output

/-- Why a connection or a command gave no output. -/
inductive ExecError where
  | connectionFailed (reason : String)
  | timeout (seconds : Nat)
  | spawn (reason : String)
  deriving DecidableEq, Repr

def ExecError.message : ExecError → String
  | .connectionFailed reason => "Connection failed: " ++ reason
  | .timeout seconds => "Command timed out after " ++ toString seconds ++ "s"
  | .spawn reason => "Failed to spawn ssh: " ++ reason

/-- A host with its own state. A command is executed on the system that the last connection was made to;
the uptime is in nanoseconds and tells durations, the date tells the time of day. -/
structure Host (σ : Type) where
  connect : ExecSystem → σ → Except ExecError Unit × σ
  execute : ExecSystem → String → σ → Except ExecError Output × σ
  uptime : σ → Nat
  sleep : Nat → σ → σ
  date : σ → Timestamp

/-- One dealing with a host, and the host's answer. -/
inductive HostEvent where
  | connected (answer : Except ExecError Unit)
  | executed (command : String) (answer : Except ExecError Output)

/-- The host's state, what was done to it so far, and the status changes and notices meanwhile. -/
structure World (σ : Type) where
  host : σ
  /-- The dealings with the host, the latest first. -/
  events : List HostEvent := []
  /-- What became of the status changes asked of a job record, the latest first. -/
  changed : List (Except JobError Fired) := []
  /-- The notices, the latest first. -/
  noted : List Log.Notice := []

namespace World

variable {σ : Type}

/-- The dealings with the host, in order. -/
def trace (w : World σ) : List HostEvent :=
  w.events.reverse

/-- What became of the status changes asked for, in order. -/
def changes (w : World σ) : List (Except JobError Fired) :=
  w.changed.reverse

/-- The notices, in order. -/
def notices (w : World σ) : List Log.Notice :=
  w.noted.reverse

/-- The command lines executed so far, in order, whatever became of them. -/
def commands (w : World σ) : List String :=
  w.trace.filterMap fun
    | .executed command _ => some command
    | .connected _ => none

/-- How many connections the host granted so far. -/
def opened (w : World σ) : Nat :=
  w.events.countP fun
    | .connected (.ok _) => true
    | _ => false

end World

/-- Dealings with a host that always come to an end. -/
abbrev Session (σ : Type) := StateM (World σ)

/-- Dealings that follow a job poll by poll. They have no result where the polls granted to them are used up
before the phase is over, or the phase has more polls than are counted. -/
abbrev Watch (σ : Type) := StateT (World σ) Option

namespace Session

variable {σ : Type} (host : Host σ)

def connect (system : ExecSystem) : Session σ (Except ExecError Unit) := fun w =>
  let (answer, state) := host.connect system w.host
  (answer, { w with host := state, events := .connected answer :: w.events })

def execute (system : ExecSystem) (command : String) : Session σ (Except ExecError Output) := fun w =>
  let (answer, state) := host.execute system command w.host
  (answer, { w with host := state, events := .executed command answer :: w.events })

def note (level : Log.Level) (component : Log.Component) (text : String) (details : List String) :
    Session σ Unit :=
  modify fun w => { w with noted := ⟨level, component, text, details⟩ :: w.noted }

/-- Keeps what became of a status change. -/
def keepChange (answer : Except JobError Fired) : Session σ Unit :=
  modify fun w => { w with changed := answer :: w.changed }

def date : Session σ Timestamp := do
  return host.date (← get).host

def uptime : Session σ Nat := do
  return host.uptime (← get).host

def sleep (nanos : Nat) : Session σ Unit :=
  modify fun w => { w with host := host.sleep nanos w.host }

/-- A command's exit code other than zero is worth a warning; the answer says whether it was zero. -/
def checkExit (output : Output) : Session σ Bool := do
  if output.succeeded then return true
  note .warn .remote "remote command exited non-zero" ["exit_code", "command", "output"]
  return false

end Session

/-- A session is a watch that needs no polls. -/
def Watch.ofSession {σ α : Type} (session : Session σ α) : Watch σ α := fun w =>
  some (session.run w)

instance {σ : Type} : MonadLift (Session σ) (Watch σ) := ⟨Watch.ofSession⟩

end RemoteJobs
