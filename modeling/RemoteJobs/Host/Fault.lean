import RemoteJobs.Host
import RemoteJobs.Text.Layout

/-! Faults injected into a scripted host. A rule makes the commands that begin with its lead fail, always
or a number of times. Rules are asked in the order of their injection. -/
namespace RemoteJobs.Scripted

/-- What a command that is made to fail comes to. -/
inductive Fault where
  | connectionLost
  | timeout (seconds : Nat)
  /-- The command runs and ends badly. -/
  | ends (output : Output)
  deriving DecidableEq, Repr

def Fault.answer : Fault → Except ExecError Output
  | .connectionLost => .error (.connectionFailed "injected connection failure")
  | .timeout seconds => .error (.timeout seconds)
  | .ends output => .ok output

structure FaultRule where
  lead : String
  fault : Fault
  /-- How many commands fail; without a limit all of them do. -/
  limit : Option Nat
  /-- How many commands the rule has decided. -/
  uses : Nat := 0
  deriving DecidableEq, Repr

namespace FaultRule

/-- Has the rule decided more commands than it is to fail? -/
def isSpent (rule : FaultRule) : Bool :=
  match rule.limit with
  | some limit => limit < rule.uses
  | none => false

/-- Puts a rule last. It takes the place of the rule with the same lead, and starts unused. -/
def inject (lead : String) (fault : Fault) (limit : Option Nat) (rules : List FaultRule) : List FaultRule :=
  rules.filter (·.lead != lead) ++ [⟨lead, fault, limit, 0⟩]

/-- The fault that a command meets, if any, and the rules afterwards. The first rule whose lead begins the
command decides, even where it is spent. -/
def check (command : String) : List FaultRule → Option Fault × List FaultRule
  | [] => (none, [])
  | rule :: rest =>
    if Text.begins rule.lead command then
      let used := { rule with uses := rule.uses + 1 }
      (if used.isSpent then none else some used.fault, used :: rest)
    else
      let (fault, rest) := check command rest
      (fault, rule :: rest)

end FaultRule

end RemoteJobs.Scripted
