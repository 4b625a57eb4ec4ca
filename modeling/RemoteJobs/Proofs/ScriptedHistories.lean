import RemoteJobs.Host.Scripted
import RemoteJobs.Proofs.SessionRuns
import Mathlib.Data.List.Induction
import Mathlib.Data.List.Nodup

/-! A scripted host answers by its history. The host keeps counters and queues, and an entry that is laid down
anew moves last. Here no operation is forgotten or moved: an entry is the operation that laid it down, known by
its place in the history, and what it has been used for is counted over the commands since. -/
namespace RemoteJobs.Proofs.ScriptedHistories
open Scripted SessionRuns

/-! ### Operations -/

/-- What can be done with a scripted host. -/
inductive Operation where
  | respond (lead : String) (outputs : List Output)
  | fail (lead : String) (fault : Fault) (limit : Option Nat)
  | clearFaults
  | refuse (connections : Nat)
  | connect (system : ExecSystem)
  | execute (system : ExecSystem) (command : String)
  deriving DecidableEq

/-- The command line that the operation has executed. -/
def Operation.command? : Operation → Option String
  | .execute _ command => some command
  | _ => none

def perform : Operation → Session Stage Unit
  | .respond lead outputs => modify fun w => { w with host := w.host.respond lead outputs }
  | .fail lead fault limit => modify fun w => { w with host := w.host.fail lead fault limit }
  | .clearFaults => modify fun w => { w with host := w.host.clearFaults }
  | .refuse connections => modify fun w => { w with host := w.host.refuse connections }
  | .connect system => discard (Session.connect host system)
  | .execute system command => discard (Session.execute host system command)

/-- What a new host has become after the operations. -/
def after (today : Timestamp) (history : List Operation) : World Stage :=
  history.foldl (fun w operation => ((perform operation).run w).2) { host := { today } }

/-- The answers that commands were given, in order. -/
def answered (dealings : List HostEvent) : List (String × Except ExecError Output) :=
  dealings.filterMap fun
    | .executed command answer => some (command, answer)
    | .connected _ => none

/-! ### Readings of a history -/

/-- The commands of a history, each with the operations before it. -/
def commands (history : List Operation) : List (List Operation × String) :=
  history.zipIdx.filterMap fun (operation, place) => operation.command?.map (history.take place, ·)

/-- What an operation laid down for the commands that begin with a lead. -/
structure Entry (α : Type) where
  place : Nat
  lead : String
  content : α
  deriving DecidableEq

/-- A kind of entries: which operations lay one down, and which take away the one with some lead. -/
structure Register (α : Type) where
  entry? : Operation → Option (String × α)
  lifts : String → Operation → Bool

variable {α : Type} {register : Register α} {history past : List Operation} {operation : Operation}
  {command lead : String} {place : Nat} {entry : Entry α} {today : Timestamp} {w : World Stage}

namespace Register

/-- The entries that no later operation takes away, in the order in which they were laid down. -/
def standing (register : Register α) (history : List Operation) : List (Entry α) :=
  history.zipIdx.filterMap fun (operation, place) =>
    match register.entry? operation with
    | some (lead, content) =>
      if (history.drop (place + 1)).any (register.lifts lead) then none else some ⟨place, lead, content⟩
    | none => none

/-- The first standing entry whose lead begins the command. -/
def first (register : Register α) (history : List Operation) (command : String) : Option (Entry α) :=
  (register.standing history).find? fun entry => entry.lead.toList.isPrefixOf command.toList

end Register

/-- Faults, each with its limit. Clearing takes all of them away. -/
def injections : Register (Fault × Option Nat) where
  entry?
    | .fail lead fault limit => some (lead, fault, limit)
    | _ => none
  lifts lead
    | .fail other _ _ => lead == other
    | .clearFaults => true
    | _ => false

/-- Scripts with all their outputs. -/
def scripts : Register (List Output) where
  entry?
    | .respond lead outputs => some (lead, outputs)
    | _ => none
  lifts lead
    | .respond other _ => lead == other
    | _ => false

/-- How many commands of a history fell to the entry at the place. -/
def uses (falls : List Operation → String → Option Nat) (history : List Operation) (place : Nat) : Nat :=
  (commands history).countP fun (past, command) => falls past command == some place

/-- The injection that decides a command, whether or not it makes it fail. -/
def decider (past : List Operation) (command : String) : Option Nat :=
  (injections.first past command).map (·.place)

/-- The fault that a command meets. An injection with a limit makes no more commands fail than that. -/
def fault? (past : List Operation) (command : String) : Option Fault :=
  match injections.first past command with
  | none => none
  | some ⟨_, _, fault, none⟩ => some fault
  | some ⟨place, _, fault, some limit⟩ => if uses decider past place < limit then some fault else none

/-- The script that answers a command. Commands that meet a fault are not answered by any. -/
def responder (past : List Operation) (command : String) : Option Nat :=
  match fault? past command with
  | some _ => none
  | none => (scripts.first past command).map (·.place)

/-- The output whose turn it is of the script that answers the command; the last one repeats. Without any, the
command prints nothing and ends well. -/
def scripted (past : List Operation) (command : String) : Output :=
  match scripts.first past command with
  | some ⟨place, _, outputs⟩ => outputs.getD (min (uses responder past place) (outputs.length - 1)) ⟨"", 0⟩
  | none => ⟨"", 0⟩

/-- The answer to a command after some operations. The fault that it meets loses the connection, lets the time of
the command run out, or is the output that it ends with. -/
def foretold (past : List Operation) (command : String) : Except ExecError Output :=
  match fault? past command with
  | some .connectionLost => .error (.connectionFailed "injected connection failure")
  | some (.timeout seconds) => .error (.timeout seconds)
  | some (.ends output) => .ok output
  | none => .ok (scripted past command)

/-! ### Answers -/

/-- A command fails exactly where the fault that it meets loses the connection or lets the time run out. -/
theorem foretold_error_iff (past : List Operation) (command : String) (e : ExecError) :
    foretold past command = .error e ↔
      (fault? past command = some .connectionLost ∧ e = .connectionFailed "injected connection failure") ∨
        ∃ seconds, fault? past command = some (.timeout seconds) ∧ e = .timeout seconds := by
  unfold foretold
  cases fault? past command with
  | none => simp
  | some fault => cases fault <;> simp [eq_comm]

/-- A fault answers as it is foretold of the command that meets it. -/
theorem answer_foretold {past : List Operation} {command : String} {fault : Fault}
    (meets : fault? past command = some fault) : fault.answer = foretold past command := by
  unfold foretold
  rw [meets]
  cases fault <;> rfl

/-! ### One operation more -/

@[simp] theorem commands_snoc (history : List Operation) (operation : Operation) :
    commands (history ++ [operation]) = commands history ++ (operation.command?.map (history, ·)).toList := by
  unfold commands
  rw [List.zipIdx_append, List.filterMap_append, Nat.zero_add, List.zipIdx_singleton]
  congr 1
  · refine List.filterMap_congr fun (earlier, place) member => ?_
    have within := (List.mem_zipIdx' member).1
    simp only [List.take_append_of_le_length (Nat.le_of_lt within)]
  · cases made : operation.command? <;> simp [made]

theorem commands_past (member : (past, command) ∈ commands history) : past.length < history.length := by
  obtain ⟨⟨operation, place⟩, placed, made⟩ := List.mem_filterMap.mp member
  have within := (List.mem_zipIdx' placed).1
  obtain ⟨_, _, same⟩ := Option.map_eq_some_iff.mp made
  cases same
  rw [List.length_take]
  omega

/-- An operation takes away what it lifts, and what it lays down itself comes last. -/
@[simp] theorem standing_snoc (register : Register α) (history : List Operation) (operation : Operation) :
    register.standing (history ++ [operation]) =
      (register.standing history).filter (fun entry => !register.lifts entry.lead operation) ++
        ((register.entry? operation).map fun (lead, content) => ⟨history.length, lead, content⟩).toList := by
  unfold Register.standing
  rw [List.zipIdx_append, List.filterMap_append, Nat.zero_add, List.zipIdx_singleton, List.filter_filterMap]
  congr 1
  · refine List.filterMap_congr fun (earlier, place) member => ?_
    have within := (List.mem_zipIdx' member).1
    simp only [List.drop_append_of_le_length within, List.any_append, List.any_cons, List.any_nil]
    cases register.entry? earlier with
    | none => rfl
    | some laid =>
      dsimp only
      cases (history.drop (place + 1)).any (register.lifts laid.1) <;>
        cases lifted : register.lifts laid.1 operation <;> simp [Option.filter, lifted]
  · cases laid : register.entry? operation <;> simp [laid]

/-- An entry that is laid down anew comes last. -/
theorem standing_laid {content : α} (laid : register.entry? operation = some (lead, content))
    (lifts : ∀ other, register.lifts other operation = (other == lead)) :
    register.standing (history ++ [operation]) =
      (register.standing history).filter (·.lead != lead) ++ [⟨history.length, lead, content⟩] := by
  simp [laid, lifts, bne]

theorem standing_kept (idle : register.entry? operation = none)
    (lifts : ∀ other, register.lifts other operation = false) :
    register.standing (history ++ [operation]) = register.standing history := by
  simp [idle, lifts]

theorem standing_before (member : entry ∈ register.standing history) : entry.place < history.length := by
  obtain ⟨⟨operation, place⟩, placed, made⟩ := List.mem_filterMap.mp member
  have within := (List.mem_zipIdx' placed).1
  dsimp only at made
  split at made
  · split at made
    · cases made
    · cases made
      exact within
  · cases made

/-- No two standing entries were laid down by one operation. -/
theorem standing_apart (register : Register α) (history : List Operation) :
    ((register.standing history).map (·.place)).Nodup := by
  induction history using List.reverseRecOn with
  | nil => exact List.nodup_nil
  | append_singleton history operation ih =>
    rw [standing_snoc, List.map_append, List.nodup_append]
    refine ⟨ih.sublist (List.filter_sublist.map _), ?_, ?_⟩
    · cases register.entry? operation <;> simp
    · intro place member new laid
      obtain ⟨entry, kept, rfl⟩ := List.mem_map.mp member
      have earlier := standing_before (List.mem_filter.mp kept).1
      cases found : register.entry? operation <;> simp [found] at laid
      omega

theorem uses_quiet (falls : List Operation → String → Option Nat) (history : List Operation)
    (quiet : operation.command? = none) : uses falls (history ++ [operation]) = uses falls history := by
  funext place
  simp [uses, quiet]

@[simp] theorem uses_execute (falls : List Operation → String → Option Nat) (history : List Operation)
    (system : ExecSystem) (command : String) (place : Nat) :
    uses falls (history ++ [.execute system command]) place =
      uses falls history place + if falls history command = some place then 1 else 0 := by
  unfold uses
  rw [commands_snoc, List.countP_append]
  simp [Operation.command?, List.countP_cons]

/-- No command fell to an entry before it was laid down. -/
theorem uses_new {falls : List Operation → String → Option Nat}
    (earlier : ∀ past command place, falls past command = some place → place < past.length) :
    uses falls history history.length = 0 := by
  refine List.countP_eq_zero.mpr fun (past, command) member falling => ?_
  have before := commands_past member
  have within := earlier past command history.length (by simpa using falling)
  omega

theorem decider_earlier (past : List Operation) (command : String) (place : Nat)
    (decides : decider past command = some place) : place < past.length := by
  obtain ⟨entry, found, rfl⟩ := Option.map_eq_some_iff.mp decides
  exact standing_before (List.mem_of_find?_eq_some found)

theorem responder_earlier (past : List Operation) (command : String) (place : Nat)
    (responds : responder past command = some place) : place < past.length := by
  unfold responder at responds
  split at responds
  · cases responds
  · obtain ⟨entry, found, rfl⟩ := Option.map_eq_some_iff.mp responds
    exact standing_before (List.mem_of_find?_eq_some found)

/-! ### The first that fits -/

/-- To change the first element that fits is to change the image of the first one whose image fits. -/
theorem modify_first {β : Type} {fits : β → Bool} {change : β → β} {made : Entry α → β}
    {entries : List (Entry α)} (apart : (entries.map (·.place)).Nodup) :
    (entries.map made).modify ((entries.map made).findIdx fits) change =
      entries.map fun entry =>
        if (entries.find? (fits ∘ made)).map (·.place) = some entry.place then change (made entry)
        else made entry := by
  induction entries with
  | nil => rfl
  | cons entry entries ih =>
    obtain ⟨fresh, rest⟩ := List.nodup_cons.mp apart
    rw [List.map_cons, List.findIdx_cons, List.map_cons]
    cases fit : fits (made entry) with
    | true =>
      have others : ∀ other ∈ entries, other.place ≠ entry.place := fun other member same =>
        fresh (List.mem_map.mpr ⟨other, member, same⟩)
      rw [cond_true, List.modify_zero_cons, List.find?_cons_of_pos (by simpa using fit)]
      simp only [Option.map_some, Option.some.injEq, ↓reduceIte, List.cons.injEq, true_and]
      refine List.map_congr_left fun other member => ?_
      rw [if_neg fun same => others other member same.symm]
    | false =>
      rw [cond_false, List.modify_succ_cons, ih rest, List.find?_cons_of_neg (by simpa using fit)]
      have missed : (entries.find? (fits ∘ made)).map (·.place) ≠ some entry.place := by
        intro found
        obtain ⟨other, member, same⟩ := Option.map_eq_some_iff.mp found
        exact fresh (List.mem_map.mpr ⟨other, List.mem_of_find?_eq_some member, same⟩)
      rw [if_neg missed]

/-- What a rule has become when it has decided another command. -/
def used (rule : FaultRule) : FaultRule :=
  { rule with uses := rule.uses + 1 }

theorem check_eq (command : String) (rules : List FaultRule) :
    FaultRule.check command rules =
      ((rules.find? fun rule => Text.begins rule.lead command).bind fun rule =>
          if (used rule).isSpent then none else some rule.fault,
        rules.modify (rules.findIdx fun rule => Text.begins rule.lead command) used) := by
  induction rules with
  | nil => rfl
  | cons rule rules ih =>
    unfold FaultRule.check
    rw [List.findIdx_cons, ih]
    cases fits : Text.begins rule.lead command with
    | false => simp [fits]
    | true =>
      simp only [fits, ↓reduceIte, List.find?_cons_of_pos, cond_true, List.modify_zero_cons, Option.bind_some]
      rfl

/-- What is left of the outputs of a script when one of them has been used. -/
def leave : List Output → List Output
  | _ :: next :: more => next :: more
  | outputs => outputs

theorem reply_eq (command : String) (given : List Script) :
    reply command given =
      (((given.find? fun script => Text.begins script.lead command).bind (·.outputs.head?)).getD silence,
        given.modify (given.findIdx fun script => Text.begins script.lead command)
          fun script => { script with outputs := leave script.outputs }) := by
  induction given with
  | nil => rfl
  | cons script given ih =>
    unfold reply
    rw [List.findIdx_cons, ih]
    cases fits : Text.begins script.lead command with
    | false => simp [fits]
    | true =>
      obtain ⟨lead, outputs⟩ := script
      rcases outputs with _ | ⟨output, _ | ⟨next, more⟩⟩ <;> simp [fits, leave]

/-- The outputs of a script that are left after some uses. -/
def left (outputs : List Output) (turns : Nat) : List Output :=
  outputs.drop (min turns (outputs.length - 1))

theorem left_next (outputs : List Output) (turns : Nat) :
    left outputs (turns + 1) = leave (left outputs turns) := by
  unfold left
  by_cases last : outputs.length ≤ turns + 1
  · have stays : min (turns + 1) (outputs.length - 1) = min turns (outputs.length - 1) := by omega
    rw [stays]
    have short : (outputs.drop (min turns (outputs.length - 1))).length ≤ 1 := by
      rw [List.length_drop]
      omega
    generalize outputs.drop (min turns (outputs.length - 1)) = rest at short
    rcases rest with _ | ⟨output, _ | ⟨next, more⟩⟩
    · rfl
    · rfl
    · simp at short
  · have onward : min (turns + 1) (outputs.length - 1) = turns + 1 := by omega
    have here : min turns (outputs.length - 1) = turns := by omega
    rw [onward, here]
    have more : outputs.drop turns = outputs[turns] :: outputs[turns + 1] :: outputs.drop (turns + 2) := by
      rw [List.drop_eq_getElem_cons (by omega), List.drop_eq_getElem_cons (by omega)]
    rw [more, List.drop_eq_getElem_cons (by omega)]
    rfl

theorem left_head (outputs : List Output) (turns : Nat) :
    (left outputs turns).head?.getD silence = outputs.getD (min turns (outputs.length - 1)) silence := by
  rw [left, List.head?_drop, List.getD_eq_getElem?_getD]

/-! ### The state behind a history -/

/-- The rule that an injection has become. -/
def ruleOf (history : List Operation) (entry : Entry (Fault × Option Nat)) : FaultRule :=
  ⟨entry.lead, entry.content.1, entry.content.2, uses decider history entry.place⟩

/-- What a script has become. -/
def scriptOf (history : List Operation) (entry : Entry (List Output)) : Script :=
  ⟨entry.lead, left entry.content (uses responder history entry.place)⟩

/-- A new injection is an unused rule. -/
theorem rule_new (history : List Operation) (lead : String) (fault : Fault) (limit : Option Nat) :
    ruleOf history ⟨history.length, lead, fault, limit⟩ = ⟨lead, fault, limit, 0⟩ := by
  simp [ruleOf, uses_new decider_earlier]

/-- A new script has all its outputs. -/
theorem script_new (history : List Operation) (lead : String) (outputs : List Output) :
    scriptOf history ⟨history.length, lead, outputs⟩ = ⟨lead, outputs⟩ := by
  simp [scriptOf, uses_new responder_earlier, left]

theorem check_follows (history : List Operation) (system : ExecSystem) (command : String) :
    FaultRule.check command ((injections.standing history).map (ruleOf history)) =
      (fault? history command,
        (injections.standing history).map (ruleOf (history ++ [.execute system command]))) := by
  rw [check_eq, modify_first (standing_apart _ _), List.find?_map]
  have same : (injections.standing history).find?
      ((fun rule : FaultRule => Text.begins rule.lead command) ∘ ruleOf history) =
        injections.first history command := rfl
  rw [same]
  congr 1
  · unfold fault?
    cases injections.first history command with
    | none => rfl
    | some entry =>
      obtain ⟨place, lead, fault, limit⟩ := entry
      cases limit with
      | none => rfl
      | some limit =>
        have spent : (used (ruleOf history ⟨place, lead, fault, some limit⟩)).isSpent =
            decide (limit < uses decider history place + 1) := rfl
        by_cases spare : uses decider history place < limit
        · rw [decide_eq_false (by omega)] at spent
          simp [spent, spare]
          rfl
        · rw [decide_eq_true (by omega)] at spent
          simp [spent, spare]
  · refine List.map_congr_left fun entry _ => ?_
    unfold ruleOf
    rw [uses_execute, decider]
    split <;> rfl

theorem reply_follows (system : ExecSystem) (safe : fault? history command = none) :
    reply command ((scripts.standing history).map (scriptOf history)) =
      (scripted history command,
        (scripts.standing history).map (scriptOf (history ++ [.execute system command]))) := by
  rw [reply_eq, modify_first (standing_apart _ _), List.find?_map]
  have same : (scripts.standing history).find?
      ((fun script : Script => Text.begins script.lead command) ∘ scriptOf history) =
        scripts.first history command := rfl
  rw [same]
  congr 1
  · unfold scripted
    cases scripts.first history command with
    | none => rfl
    | some entry => exact left_head entry.content _
  · have responds : responder history command = (scripts.first history command).map (·.place) := by
      simp [responder, safe]
    refine List.map_congr_left fun entry _ => ?_
    unfold scriptOf
    rw [uses_execute, responds]
    split
    · rw [left_next]
    · rfl

/-- A command that meets a fault uses nothing of any script up. -/
theorem script_spared (system : ExecSystem) {fault : Fault} (meets : fault? history command = some fault) :
    scriptOf (history ++ [.execute system command]) = scriptOf history := by
  funext entry
  unfold scriptOf
  rw [uses_execute, if_neg (by simp [responder, meets])]
  rfl

/-- The host has the rules and scripts that its history makes of the standing entries, and every command was
answered as foretold. -/
structure Follows (history : List Operation) (w : World Stage) : Prop where
  faults : w.host.faults = (injections.standing history).map (ruleOf history)
  scripts : w.host.scripts = (scripts.standing history).map (scriptOf history)
  answers : answered w.trace = (commands history).map fun (past, command) => (command, foretold past command)

theorem answered_next {dealing : HostEvent} (after : World Stage) (next : after.events = dealing :: w.events) :
    answered after.trace = answered w.trace ++ answered [dealing] := by
  simp [World.trace, next, answered]

/-- An operation that executes nothing changes neither the uses of entries nor the answers given. -/
theorem follows_quiet (follows : Follows history w) (quiet : operation.command? = none)
    {after : World Stage} (silent : answered after.trace = answered w.trace)
    (faults : after.host.faults = (injections.standing (history ++ [operation])).map (ruleOf history))
    (scripts : after.host.scripts = (scripts.standing (history ++ [operation])).map (scriptOf history)) :
    Follows (history ++ [operation]) after := by
  have rules : ruleOf (history ++ [operation]) = ruleOf history := by
    funext entry
    simp [ruleOf, uses_quiet _ _ quiet]
  have given : scriptOf (history ++ [operation]) = scriptOf history := by
    funext entry
    simp [scriptOf, uses_quiet _ _ quiet]
  refine ⟨by rw [faults, rules], by rw [scripts, given], ?_⟩
  rw [silent, follows.answers, commands_snoc, quiet]
  simp

theorem connect_spares (stage : Stage) :
    stage.connect.2.faults = stage.faults ∧ stage.connect.2.scripts = stage.scripts := by
  unfold Stage.connect
  split <;> exact ⟨rfl, rfl⟩

/-- The answer to a command, and the host behind it. -/
theorem execute_follows (follows : Follows history w) (system : ExecSystem) (command : String) :
    w.host.execute command =
      (foretold history command,
        { w.host.tick with
          faults := (injections.standing history).map (ruleOf (history ++ [.execute system command]))
          scripts := (scripts.standing history).map (scriptOf (history ++ [.execute system command])) }) := by
  have checked := check_follows history system command
  rw [← follows.faults] at checked
  unfold Stage.execute
  rw [checked]
  cases met : fault? history command with
  | some fault =>
    simp only [script_spared system met, ← follows.scripts, answer_foretold met]
    rfl
  | none =>
    have told : foretold history command = .ok (scripted history command) := by simp [foretold, met]
    simp only [told, follows.scripts, reply_follows system met]

theorem follows_execute (follows : Follows history w) (system : ExecSystem) (command : String) :
    Follows (history ++ [.execute system command]) ((perform (.execute system command)).run w).2 := by
  have ran : ((perform (.execute system command)).run w).2 =
      { w with
        host := (w.host.execute command).2
        events := .executed command (w.host.execute command).1 :: w.events } := rfl
  have asked : commands (history ++ [.execute system command]) = commands history ++ [(history, command)] :=
    commands_snoc history _
  rw [ran, execute_follows follows system command]
  refine ⟨?_, ?_, ?_⟩
  · rw [standing_kept rfl fun _ => rfl]
  · rw [standing_kept rfl fun _ => rfl]
  · rw [asked, List.map_append, answered_next _ rfl, ← follows.answers]
    rfl

theorem follows_next (follows : Follows history w) (operation : Operation) :
    Follows (history ++ [operation]) ((perform operation).run w).2 := by
  have faults (entry : injections.entry? operation = none)
      (lifts : ∀ lead, injections.lifts lead operation = false) :
      w.host.faults = (injections.standing (history ++ [operation])).map (ruleOf history) := by
    rw [standing_kept entry lifts, follows.faults]
  have given (entry : scripts.entry? operation = none) (lifts : ∀ lead, scripts.lifts lead operation = false) :
      w.host.scripts = (scripts.standing (history ++ [operation])).map (scriptOf history) := by
    rw [standing_kept entry lifts, follows.scripts]
  cases operation with
  | respond lead outputs =>
    refine follows_quiet follows rfl rfl (faults rfl fun _ => rfl) ?_
    change w.host.scripts.filter (·.lead != lead) ++ [⟨lead, outputs⟩] = _
    rw [standing_laid rfl fun _ => rfl, List.map_append, List.map_singleton, script_new, follows.scripts,
      List.filter_map]
    rfl
  | fail lead fault limit =>
    refine follows_quiet follows rfl rfl ?_ (given rfl fun _ => rfl)
    change w.host.faults.filter (·.lead != lead) ++ [⟨lead, fault, limit, 0⟩] = _
    rw [standing_laid rfl fun _ => rfl, List.map_append, List.map_singleton, rule_new, follows.faults,
      List.filter_map]
    rfl
  | clearFaults =>
    have cleared : injections.standing (history ++ [.clearFaults]) = [] := by
      simp [injections]
    refine follows_quiet follows rfl rfl ?_ (given rfl fun _ => rfl)
    rw [cleared]
    rfl
  | refuse connections =>
    exact follows_quiet follows rfl rfl (faults rfl fun _ => rfl) (given rfl fun _ => rfl)
  | connect system =>
    obtain ⟨sameFaults, sameScripts⟩ := connect_spares w.host
    refine follows_quiet follows rfl ?_ (sameFaults.trans (faults rfl fun _ => rfl))
      (sameScripts.trans (given rfl fun _ => rfl))
    rw [answered_next ((perform (.connect system)).run w).2 rfl]
    exact List.append_nil _
  | execute system command => exact follows_execute follows system command

theorem after_snoc (today : Timestamp) (history : List Operation) (operation : Operation) :
    after today (history ++ [operation]) = ((perform operation).run (after today history)).2 := by
  simp [after, List.foldl_append]

theorem history_follows (today : Timestamp) (history : List Operation) :
    Follows history (after today history) := by
  induction history using List.reverseRecOn with
  | nil => exact ⟨rfl, rfl, rfl⟩
  | append_singleton history operation ih =>
    rw [after_snoc]
    exact follows_next ih operation

theorem commands_asked (history : List Operation) :
    (commands history).map (·.2) = history.filterMap Operation.command? := by
  induction history using List.reverseRecOn with
  | nil => rfl
  | append_singleton history operation ih =>
    rw [commands_snoc, List.map_append, ih, List.filterMap_append]
    cases made : operation.command? <;> simp [made]

theorem commands_answered (w : World Stage) : w.commands = (answered w.trace).map (·.1) := by
  unfold World.commands answered
  rw [List.map_filterMap]
  congr
  funext dealing
  cases dealing <;> rfl

/-- Whatever was done with a scripted host, the answer to a command is told by its history: by the first of the
standing injections that fit the command, else by the first of the standing scripts. It fails exactly where that
injection has it lose the connection or run out of time. Every command is kept once together with its answer, and
one that met a fault has used up no output. -/
theorem answers_follow_history (today : Timestamp) (history : List Operation) :
    (∀ system command,
      ((Session.execute host system command).run (after today history)).1 = foretold history command) ∧
    (∀ system command e,
      ((Session.execute host system command).run (after today history)).1 = .error e ↔
        (fault? history command = some .connectionLost ∧ e = .connectionFailed "injected connection failure") ∨
          ∃ seconds, fault? history command = some (.timeout seconds) ∧ e = .timeout seconds) ∧
    answered (after today history).trace =
      (commands history).map (fun (past, command) => (command, foretold past command)) ∧
    (after today history).commands = history.filterMap Operation.command? ∧
    ∀ system command fault, fault? history command = some fault →
      (after today (history ++ [.execute system command])).host.scripts = (after today history).host.scripts := by
  have follows := history_follows today history
  have answers system command :
      ((Session.execute host system command).run (after today history)).1 = foretold history command :=
    congrArg Prod.fst (execute_follows follows system command)
  refine ⟨answers, ?_, follows.answers, ?_, ?_⟩
  · intro system command e
    rw [answers, foretold_error_iff]
  · rw [commands_answered, follows.answers, List.map_map, ← commands_asked]
    rfl
  · intro system command fault met
    have later := history_follows today (history ++ [.execute system command])
    rw [later.scripts, follows.scripts, standing_kept rfl fun _ => rfl, script_spared system met]

/-- A spent injection still stands before later ones, and the command that it failed left the script alone. -/
example (system : ExecSystem) :
    foretold [.respond "ps" [⟨"a", 0⟩, ⟨"b", 0⟩], .fail "ps -e" .connectionLost (some 1), .fail "" (.timeout 5) none,
      .execute system "ps -e", .execute system "ps -e"] "ps -eo pid" = .ok ⟨"b", 0⟩ := by
  rfl

/-- A script, and faults of every kind, the first of them for one command only. -/
def guarded : List Operation :=
  [.respond "ps" [⟨"a", 0⟩, ⟨"b", 0⟩], .fail "ps -e" .connectionLost (some 1), .fail "cat" (.timeout 5) none,
    .fail "kill" (.ends ⟨"no such process", 1⟩) none]

def cluster : ExecSystem :=
  ⟨"cluster", "cluster.example.org", 22, none, none, none⟩

/-- The answer that a command gets after some operations. -/
def answerAfter (history : List Operation) (command : String) : Except ExecError Output :=
  ((Session.execute host cluster command).run (after ⟨0, 0⟩ history)).1

/-- The first listing is lost, and the second one is let through to an untouched script. -/
theorem lost_command_spares_its_script :
    fault? guarded "ps -eo pid" = some .connectionLost ∧
      answerAfter guarded "ps -eo pid" = .error (.connectionFailed "injected connection failure") ∧
      answerAfter guarded "cat /out/exit" = .error (.timeout 5) ∧
      answerAfter guarded "kill -9 7" = .ok ⟨"no such process", 1⟩ ∧
      (after ⟨0, 0⟩ (guarded ++ [.execute cluster "ps -eo pid"])).host.scripts =
        (after ⟨0, 0⟩ guarded).host.scripts ∧
      answerAfter (guarded ++ [.execute cluster "ps -eo pid"]) "ps -eo pid" = .ok ⟨"a", 0⟩ := by
  have met : fault? guarded "ps -eo pid" = some .connectionLost := by decide
  obtain ⟨answers, fails, _, _, spares⟩ := answers_follow_history ⟨0, 0⟩ guarded
  obtain ⟨later, _⟩ := answers_follow_history ⟨0, 0⟩ (guarded ++ [.execute cluster "ps -eo pid"])
  refine ⟨met, ?_, ?_, ?_, spares _ _ _ met, ?_⟩
  · exact (fails cluster _ _).mpr (.inl ⟨met, rfl⟩)
  · exact (fails cluster _ _).mpr (.inr ⟨5, by decide, rfl⟩)
  · exact answers cluster _
  · exact later cluster _

end RemoteJobs.Proofs.ScriptedHistories
