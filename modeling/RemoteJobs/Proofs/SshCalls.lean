import RemoteJobs.Proofs.AcceptedSettings
import RemoteJobs.Ssh.Client
import RemoteJobs.Text.Layout

/-! How `ssh` reads the arguments that it is started with. Settings, port and key file are values of options, and
read as such whatever they are. But nothing marks where the options end: the destination is told from one by its
first character alone, which is the login user's. -/
namespace RemoteJobs.Proofs.SshCalls
open Ssh AcceptedSettings

variable {settings : Settings} {system : ExecSystem} {word user : String}

/-! ### Reading -/

/-- What a list of arguments is read as. Each option stands with the words that make it up. -/
structure Call where
  options : List (List String)
  /-- The destination, and the words of the command. -/
  operands : List String
  deriving DecidableEq

def Call.behind (call : Call) (option : List String) : Call :=
  { call with options := option :: call.options }

/-- Options whose value is the next word, however it begins. -/
def Apart (word : String) : Prop :=
  word ∈ ["-o", "-p", "-i"]

instance : Decidable (Apart word) :=
  inferInstanceAs (Decidable (word ∈ ["-o", "-p", "-i"]))

/-- Options are read up to the mark `--`, or else up to the first word without a dash at its front. Those whose
value is no word of its own stand alone. -/
def read : List String → Call
  | [] => ⟨[], []⟩
  | [word] =>
    if Text.begins "-" word = false then ⟨[], [word]⟩
    else if word = "--" then ⟨[], []⟩
    else ⟨[[word]], []⟩
  | word :: next :: rest =>
    if Text.begins "-" word = false then ⟨[], word :: next :: rest⟩
    else if word = "--" then ⟨[], next :: rest⟩
    else if Apart word then (read rest).behind [word, next]
    else (read (next :: rest)).behind [word]

theorem read_operands (plain : Text.begins "-" word = false) (rest : List String) :
    read (word :: rest) = ⟨[], word :: rest⟩ := by
  cases rest <;> simp [read, plain]

theorem read_apart (apart : Apart word) (value : String) (rest : List String) :
    read (word :: value :: rest) = (read rest).behind [word, value] := by
  have shape : Text.begins "-" word = true ∧ word ≠ "--" := by
    have each : ∀ option ∈ ["-o", "-p", "-i"], Text.begins "-" option = true ∧ option ≠ "--" := by decide
    exact each word apart
  simp [read, shape, apart]

theorem read_attached (dashed : Text.begins "-" word = true) (mark : word ≠ "--") (whole : ¬Apart word)
    (rest : List String) : read (word :: rest) = (read rest).behind [word] := by
  cases rest <;> simp [read, dashed, mark, whole, Call.behind]

theorem read_options {options : List (List String)}
    (apart : ∀ option ∈ options, ∃ word value, Apart word ∧ option = [word, value]) (rest : List String) :
    read (options.flatten ++ rest) = ⟨options ++ (read rest).options, (read rest).operands⟩ := by
  induction options with
  | nil => rfl
  | cons option options ih =>
    obtain ⟨⟨word, value, known, rfl⟩, others⟩ := List.forall_mem_cons.mp apart
    simp only [List.flatten_cons, List.cons_append, List.nil_append, read_apart known, ih others]
    rfl

/-! ### Arguments -/

/-- The options that the settings and the system ask for. -/
def configured (settings : Settings) (system : ExecSystem) : List (List String) :=
  [["-o", "ConnectTimeout=" ++ toString settings.connectTimeoutSeconds],
    ["-o", "ServerAliveInterval=" ++ toString settings.serverAliveInterval],
    ["-o", "ServerAliveCountMax=" ++ toString settings.serverAliveCountMax],
    ["-o", "BatchMode=yes"],
    ["-p", toString system.port]] ++ (settings.keyPath.map fun path => ["-i", path]).toList

/-- Whom to log in as: the user of the system, unless it names none or a blank one. -/
inductive Login (settings : Settings) (system : ExecSystem) : String → Prop where
  | own {user : String} (named : system.effectiveUser = some user) (filled : Text.isBlankText user = false) :
      Login settings system user
  | configured (unnamed : ∀ user, system.effectiveUser = some user → Text.isBlankText user = true) :
      Login settings system settings.user

theorem loginUser_login (settings : Settings) (system : ExecSystem) :
    Login settings system (settings.loginUser system) := by
  unfold Settings.loginUser
  cases named : system.effectiveUser with
  | none => exact .configured (by simp [named])
  | some user =>
    dsimp only
    cases filled : Text.isBlankText user with
    | false => exact .own named filled
    | true => exact .configured (by simp [named, filled])

theorem login_filled (faultless : settings.fault? = none) (login : Login settings system user) :
    Text.isBlankText user = false := by
  cases login with
  | own _ filled => exact filled
  | configured _ =>
    simp only [Settings.fault?] at faultless
    grind

theorem configured_apart (settings : Settings) (system : ExecSystem) :
    ∀ option ∈ configured settings system, ∃ word value, Apart word ∧ option = [word, value] := by
  have out : Apart "-o" := by decide
  have port : Apart "-p" := by decide
  have key : Apart "-i" := by decide
  cases path : settings.keyPath <;> simp [configured, path, out, port, key]

theorem arguments_read (settings : Settings) (system : ExecSystem) (command : String) :
    read (settings.arguments system command) =
      ⟨configured settings system ++ (read [settings.destination system, command]).options,
        (read [settings.destination system, command]).operands⟩ := by
  rw [← read_options (configured_apart settings system)]
  congr 1
  cases path : settings.keyPath <;> simp [Settings.arguments, configured, path]

/-- A destination is not the mark, and takes no further word: an `@` is in it. -/
theorem destination_whole (user host : String) :
    user ++ "@" ++ host ≠ "--" ∧ ¬Apart (user ++ "@" ++ host) := by
  have holds : '@' ∈ (user ++ "@" ++ host).toList := by simp
  have none : ∀ word ∈ ["--", "-o", "-p", "-i"], '@' ∉ word.toList := by decide
  constructor
  · intro same
    exact none "--" (by decide) (same ▸ holds)
  · intro apart
    exact none _ (List.mem_cons_of_mem _ apart) holds

theorem destination_begins (user host : String) :
    Text.begins "-" (user ++ "@" ++ host) = Text.begins "-" user := by
  cases first : user.toList with
  | nil => simp [Text.begins, first, List.isPrefixOf]
  | cons c rest => simp [Text.begins, first, List.isPrefixOf]

/-- The reading that is meant: the options as configured, and one word for the command. -/
def meant (settings : Settings) (system : ExecSystem) (user command : String) : Call :=
  ⟨configured settings system, [user ++ "@" ++ system.host, command]⟩

/-- The destination is one more option, and what should have been the command comes in its place. -/
def astray (settings : Settings) (system : ExecSystem) (user command : String) : Call :=
  ⟨configured settings system ++ [user ++ "@" ++ system.host] :: (read [command]).options, (read [command]).operands⟩

theorem arguments_meant (plain : Text.begins "-" (settings.loginUser system) = false) (command : String) :
    read (settings.arguments system command) = meant settings system (settings.loginUser system) command := by
  have begins := (destination_begins (settings.loginUser system) system.host).trans plain
  rw [arguments_read, Settings.destination, read_operands begins, List.append_nil]
  rfl

theorem arguments_astray (dashed : Text.begins "-" (settings.loginUser system) = true) (command : String) :
    read (settings.arguments system command) = astray settings system (settings.loginUser system) command := by
  have begins := (destination_begins (settings.loginUser system) system.host).trans dashed
  obtain ⟨mark, whole⟩ := destination_whole (settings.loginUser system) system.host
  rw [arguments_read, Settings.destination, read_attached begins mark whole]
  rfl

theorem astray_not_meant (settings : Settings) (system : ExecSystem) (user command : String) :
    astray settings system user command ≠ meant settings system user command := by
  intro same
  have options := congrArg Call.options same
  simp [astray, meant] at options

/-- Under an accepted configuration, and for a system that can be connected to, `ssh` is told the user and the host
that it should be told, and reads its arguments as they are meant unless that user begins with a dash. -/
theorem ssh_reads_as_meant_iff {config : Config} (accepted : config.fault? = none) {client : Client}
    (opened : (client.connect system).1 = .ok ()) :
    ∃ user, Login config.ssh system user ∧ Text.isBlankText user = false ∧ Text.isBlankText system.host = false ∧
      ∀ command,
        (read (config.ssh.arguments system command) = meant config.ssh system user command ↔
          Text.begins "-" user = false) ∧
        (read (config.ssh.arguments system command) = astray config.ssh system user command ↔
          Text.begins "-" user = true) := by
  have login := loginUser_login config.ssh system
  have hosted : Text.isBlankText system.host = false := by
    cases blank : Text.isBlankText system.host with
    | false => rfl
    | true => simp [Client.connect, blank] at opened
  refine ⟨_, login, login_filled (config_faultless accepted).1 login, hosted, fun command => ?_⟩
  have apart := astray_not_meant config.ssh system (config.ssh.loginUser system) command
  cases dashed : Text.begins "-" (config.ssh.loginUser system) with
  | false => simp [arguments_meant dashed, apart.symm]
  | true => simp [arguments_astray dashed, apart]

/-- A system with this user, or without one. -/
def clusterOf (user : Option String) : ExecSystem :=
  ⟨"cluster", "cluster.example.org", 22, user, none, none⟩

theorem clusterOf_opened (user : Option String) :
    (Client.connect (clusterOf user) { today := ⟨0, 0⟩ }).1 = .ok () := by
  have named : Text.isBlankText "cluster.example.org" = false := by decide
  simp [Client.connect, clusterOf, named]

theorem unnamed_user_is_configured :
    read (Config.standard.ssh.arguments (clusterOf none) "ps -e") =
      meant Config.standard.ssh (clusterOf none) "tapis" "ps -e" := by
  have accepted : Config.standard.fault? = none := by decide
  obtain ⟨user, login, _, _, law⟩ := ssh_reads_as_meant_iff accepted (clusterOf_opened none)
  cases login with
  | own named _ => cases named
  | configured _ => exact (law "ps -e").1.mpr (by decide)

/-- An option to start a program with, in place of a user. -/
theorem dashed_user_leads_astray :
    Config.standard.fault? = none ∧
      (Client.connect (clusterOf (some "-oProxyCommand=x")) { today := ⟨0, 0⟩ }).1 = .ok () ∧
      read (Config.standard.ssh.arguments (clusterOf (some "-oProxyCommand=x")) "ls") =
        ⟨configured Config.standard.ssh (clusterOf (some "-oProxyCommand=x")) ++
          [["-oProxyCommand=x@cluster.example.org"]], ["ls"]⟩ := by
  exact ⟨by decide, clusterOf_opened _, by decide⟩

end RemoteJobs.Proofs.SshCalls
