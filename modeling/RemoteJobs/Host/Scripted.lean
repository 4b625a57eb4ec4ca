import RemoteJobs.Host.Fault

/-! A host that answers by script. Faults are asked first; a command let through by them is answered by the
first script whose lead begins it. A script's last output repeats, and a command without script ends well and
prints nothing. -/
namespace RemoteJobs.Scripted

structure Script where
  lead : String
  outputs : List Output
  deriving DecidableEq, Repr

structure Stage where
  scripts : List Script := []
  faults : List FaultRule := []
  /-- How many connections are still to be refused. -/
  refusals : Nat := 0
  /-- Every dealing with the host takes one nanosecond. -/
  elapsed : Nat := 0
  today : Timestamp
  deriving DecidableEq, Repr

/-- The output of a command that no script answers. -/
def silence : Output := ⟨"", 0⟩

/-- So many refusals that none is left to be granted. -/
def allConnections : Nat := 4294967295

/-- Answers a command by the first script that fits it, and uses that answer up unless it is the last. -/
def reply (command : String) : List Script → Output × List Script
  | [] => (silence, [])
  | script :: rest =>
    if Text.begins script.lead command then
      match script.outputs with
      | output :: next :: more => (output, { script with outputs := next :: more } :: rest)
      | [output] => (output, script :: rest)
      | [] => (silence, script :: rest)
    else
      let (output, rest) := reply command rest
      (output, script :: rest)

namespace Stage

/-- Puts a script last, in place of the script with the same lead. -/
def respond (lead : String) (outputs : List Output) (stage : Stage) : Stage :=
  { stage with scripts := stage.scripts.filter (·.lead != lead) ++ [⟨lead, outputs⟩] }

def fail (lead : String) (fault : Fault) (limit : Option Nat) (stage : Stage) : Stage :=
  { stage with faults := FaultRule.inject lead fault limit stage.faults }

def clearFaults (stage : Stage) : Stage :=
  { stage with faults := [] }

def refuse (connections : Nat) (stage : Stage) : Stage :=
  { stage with refusals := connections }

def tick (stage : Stage) : Stage :=
  { stage with elapsed := stage.elapsed + 1 }

def connect (stage : Stage) : Except ExecError Unit × Stage :=
  match stage.refusals with
  | 0 => (.ok (), stage.tick)
  | refusals + 1 =>
    (.error (.connectionFailed "injected open failure"), { stage.tick with refusals := refusals })

def execute (command : String) (stage : Stage) : Except ExecError Output × Stage :=
  match FaultRule.check command stage.faults with
  | (some fault, faults) => (fault.answer, { stage.tick with faults := faults })
  | (none, faults) =>
    let (output, scripts) := reply command stage.scripts
    (.ok output, { stage.tick with faults := faults, scripts := scripts })

end Stage

/-- The host that all connections of a session lead to, whatever system they were asked for. -/
def host : Host Stage where
  connect _ := Stage.connect
  execute _ := Stage.execute
  uptime := Stage.elapsed
  sleep nanos stage := { stage with elapsed := stage.elapsed + nanos }
  date := Stage.today

end RemoteJobs.Scripted
