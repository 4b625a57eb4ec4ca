/-! Arguments of the command line. Flags and options may stand anywhere behind the command they belong to; two
dashes alone make everything after them positional. Arguments are read in order, and the first one that is
wrong, or asks for help, decides. -/
namespace RemoteJobs.Cli

/-- What the program is asked to do. -/
inductive Action where
  | check (source target : String) (json : Bool)
  | transitions (source : Option String) (json : Bool)
  | monitor (jobFile : String) (configFile : Option String) (json : Bool)
  | cancel (jobFile : String) (configFile : Option String) (json : Bool)
  deriving DecidableEq, Repr

structure Invocation where
  verbose : Bool
  action : Action
  deriving DecidableEq, Repr

/-- Why arguments ask for no action. -/
inductive Refusal where
  | help
  | version
  | misuse
  deriving DecidableEq, Repr

/-- A name for a flag or an option: a word behind two dashes, perhaps a letter behind one. -/
structure Switch where
  long : String
  short : Option Char := none
  deriving DecidableEq, Repr

/-- An option takes a value, which only some options allow to be empty. -/
structure ValueSwitch extends Switch where
  mayBeEmpty : Bool
  deriving DecidableEq, Repr

/-- What may follow a command. -/
structure Grammar where
  flags : List Switch
  options : List ValueSwitch
  positionals : Nat
  deriving DecidableEq, Repr

/-- What was given so far. Flags and options are known by their long names. -/
structure Given where
  flags : List String := []
  options : List (String × String) := []
  positionals : List String := []
  deriving DecidableEq, Repr

namespace Given

/-- No flag is given twice. -/
def addFlag (given : Given) (switch : Switch) : Except Refusal Given :=
  if given.flags.contains switch.long then .error .misuse
  else .ok { given with flags := given.flags ++ [switch.long] }

/-- No option is given twice. -/
def addOption (given : Given) (option : ValueSwitch) (value : String) : Except Refusal Given :=
  if (given.options.lookup option.long).isSome || (value.isEmpty && !option.mayBeEmpty) then .error .misuse
  else .ok { given with options := given.options ++ [(option.long, value)] }

def addPositional (given : Given) (limit : Nat) (value : String) : Except Refusal Given :=
  if given.positionals.length < limit then .ok { given with positionals := given.positionals ++ [value] }
  else .error .misuse

end Given

/-- What an argument is, by its first characters. -/
inductive Shape where
  | dashes
  | long (name : String) (value : Option String)
  | cluster (letters : List Char)
  | plain
  deriving DecidableEq, Repr

def Shape.ofArgument (argument : String) : Shape :=
  match argument.toList with
  | ['-', '-'] => .dashes
  | '-' :: '-' :: rest =>
    let name := String.ofList (rest.takeWhile (· != '='))
    match rest.dropWhile (· != '=') with
    | _ :: value => .long name (some (String.ofList value))
    | [] => .long name none
  | '-' :: c :: rest => .cluster (c :: rest)
  | _ => .plain

/-- What became of an argument: it is complete, or an option waits for its value. -/
inductive Reading where
  | complete (given : Given)
  | awaits (option : ValueSwitch) (given : Given)

namespace Grammar

variable (g : Grammar)

def readLong (given : Given) (name : String) (value : Option String) : Except Refusal Reading :=
  match g.flags.find? (·.long == name), g.options.find? (·.long == name) with
  | some flag, _ =>
    if value.isSome then .error .misuse
    else if name = "help" then .error .help
    else if name = "version" then .error .version
    else .complete <$> given.addFlag flag
  | none, some option =>
    match value with
    | some value => .complete <$> given.addOption option value
    | none => .ok (.awaits option given)
  | none, none => .error .misuse

/-- Reads the letters behind one dash. The rest of the letters is the value of the first one that takes one,
with or without an equals sign. -/
def readCluster (given : Given) : List Char → Except Refusal Reading
  | [] => .ok (.complete given)
  | c :: rest =>
    match g.flags.find? (·.short == some c), g.options.find? (·.short == some c) with
    | some flag, _ =>
      if flag.long = "help" then .error .help
      else if flag.long = "version" then .error .version
      else
        match given.addFlag flag with
        | .ok given => readCluster given rest
        | .error refusal => .error refusal
    | none, some option =>
      match rest with
      | [] => .ok (.awaits option given)
      | '=' :: value => .complete <$> given.addOption option (String.ofList value)
      | value => .complete <$> given.addOption option (String.ofList value)
    | none, none => .error .misuse

/-- Reads the arguments of a command. -/
def read (given : Given) : List String → Except Refusal Given
  | [] => .ok given
  | argument :: rest =>
    match Shape.ofArgument argument with
    | .dashes => rest.foldlM (fun given value => given.addPositional g.positionals value) given
    | .plain => do read (← given.addPositional g.positionals argument) rest
    | .long name value => do proceed (← g.readLong given name value) rest
    | .cluster letters => do proceed (← g.readCluster given letters) rest
where
  proceed : Reading → List String → Except Refusal Given
    | .complete given, rest => read given rest
    | .awaits _ _, [] => .error .misuse
    | .awaits option given, value :: rest =>
      if Shape.ofArgument value = .plain then do read (← given.addOption option value) rest
      else .error .misuse

end Grammar

/-! ### Commands -/

def verbose : Switch := ⟨"verbose", some 'v'⟩

def help : Switch := ⟨"help", some 'h'⟩

def json : Switch := ⟨"json", none⟩

def configOption : ValueSwitch := ⟨⟨"config", some 'c'⟩, false⟩

def jobOption : ValueSwitch := ⟨⟨"job", none⟩, false⟩

def fromOption : ValueSwitch := ⟨⟨"from", none⟩, true⟩

def checkGrammar : Grammar := ⟨[verbose, help, json], [], 2⟩

def transitionsGrammar : Grammar := ⟨[verbose, help, json], [fromOption], 0⟩

def jobGrammar : Grammar := ⟨[verbose, help, json], [jobOption, configOption], 0⟩

/-- Before the command only flags may stand. -/
def leadGrammar : Grammar := ⟨[verbose, help, ⟨"version", some 'V'⟩], [], 0⟩

def commandNames : List String := ["check", "transitions", "monitor", "cancel", "help"]

/-- Splits arguments before the first one that is no flag. -/
def splitCommand (arguments : List String) : List String × List String :=
  arguments.span fun argument => Shape.ofArgument argument != .plain

/-- Reads what follows a command; help may be asked for one command, or for help itself. -/
def readCommand (name : String) (arguments : List String) : Except Refusal (Given × Action) :=
  match name with
  | "check" => do
    let given ← checkGrammar.read {} arguments
    match given.positionals with
    | [source, target] => return (given, .check source target (given.flags.contains "json"))
    | _ => throw .misuse
  | "transitions" => do
    let given ← transitionsGrammar.read {} arguments
    return (given, .transitions (given.options.lookup "from") (given.flags.contains "json"))
  | "monitor" => do
    let given ← jobGrammar.read {} arguments
    match given.options.lookup "job" with
    | some file =>
      return (given, .monitor file (given.options.lookup "config") (given.flags.contains "json"))
    | none => throw .misuse
  | "cancel" => do
    let given ← jobGrammar.read {} arguments
    match given.options.lookup "job" with
    | some file =>
      return (given, .cancel file (given.options.lookup "config") (given.flags.contains "json"))
    | none => throw .misuse
  | "help" =>
    match arguments with
    | [] => throw .help
    | [name] => throw (if commandNames.contains name then .help else .misuse)
    | _ => throw .misuse
  | _ => throw .misuse

def Invocation.ofArguments (arguments : List String) : Except Refusal Invocation := do
  let (lead, rest) := splitCommand arguments
  let before ← leadGrammar.read {} lead
  if lead.contains "--" then throw .misuse
  match rest with
  | [] => throw .misuse
  | name :: rest =>
    let (after, action) ← readCommand name rest
    return ⟨before.flags.contains "verbose" || after.flags.contains "verbose", action⟩

end RemoteJobs.Cli
