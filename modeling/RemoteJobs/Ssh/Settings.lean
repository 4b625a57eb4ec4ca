import RemoteJobs.Context

/-! Settings of the `ssh` connection, and the arguments that `ssh` is started with. -/
namespace RemoteJobs.Ssh

structure Settings where
  /-- Login user where the execution system names none. -/
  user : String := "tapis"
  /-- File of the private key. -/
  keyPath : Option String := none
  connectTimeoutSeconds : Nat := 30
  serverAliveInterval : Nat := 15
  serverAliveCountMax : Nat := 2
  /-- Deadline of one command, connecting included. -/
  commandTimeoutSeconds : Nat := 120
  deriving DecidableEq, Repr

/-- What is wrong with settings. -/
inductive SettingsError where
  | zero (setting : String)
  | blankUser
  deriving DecidableEq, Repr

def SettingsError.message : SettingsError → String
  | .zero setting => "[ssh] " ++ setting ++ " must be greater than 0"
  | .blankUser => "[ssh] user must not be blank"

namespace Settings

/-- The first fault of settings: no duration and no count may be zero, and the user must be named. -/
def fault? (settings : Settings) : Option SettingsError :=
  if settings.connectTimeoutSeconds = 0 then some (.zero "connect_timeout_seconds")
  else if settings.commandTimeoutSeconds = 0 then some (.zero "command_timeout_seconds")
  else if settings.serverAliveInterval = 0 then some (.zero "server_alive_interval")
  else if settings.serverAliveCountMax = 0 then some (.zero "server_alive_count_max")
  else if Text.isBlankText settings.user then some .blankUser
  else none

/-- The user to log in as: the one the system names, unless that is blank. -/
def loginUser (settings : Settings) (system : ExecSystem) : String :=
  match system.effectiveUser with
  | some user => if Text.isBlankText user then settings.user else user
  | none => settings.user

def destination (settings : Settings) (system : ExecSystem) : String :=
  settings.loginUser system ++ "@" ++ system.host

/-- The arguments for one command: options first, then the destination, and the command as one word. -/
def arguments (settings : Settings) (system : ExecSystem) (command : String) : List String :=
  let key := match settings.keyPath with
    | some path => ["-i", path]
    | none => []
  ["-o", "ConnectTimeout=" ++ toString settings.connectTimeoutSeconds,
    "-o", "ServerAliveInterval=" ++ toString settings.serverAliveInterval,
    "-o", "ServerAliveCountMax=" ++ toString settings.serverAliveCountMax,
    "-o", "BatchMode=yes", "-p", toString system.port] ++ key ++
    [settings.destination system, command]

end Settings

end RemoteJobs.Ssh
