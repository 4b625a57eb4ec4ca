import RemoteJobs.Host.Scripted
import RemoteJobs.Monitor
import RemoteJobs.Proofs.SessionRuns

/-! What a Singularity monitor does to its host. A query takes one listing, and everything that follows is
fixed by the verdict on it: the reading, the commands issued after the listing, and their order. -/
namespace RemoteJobs.Proofs.SingularityQueries
open Listing Monitor Singularity SessionRuns

variable {σ : Type} {host : Host σ} {target : Target} {mode : SingularityMode} {before after : σ}
  {output : Output} {remoteId : String} {m : Monitor}

/-- The host grants a connection and answers the listing command. -/
structure Lists (host : Host σ) (system : ExecSystem) (before : σ) (output : Output) (after : σ) : Prop where
  granted : (host.connect system before).1 = .ok ()
  answered : host.execute system Command.processListing (host.connect system before).2 = (.ok output, after)

/-- The dealings that end with a listing. -/
def listingOf (output : Output) : List HostEvent :=
  [.connected (.ok ()), .executed Command.processListing (.ok output)]

/-- The dealings that follow a listing, and the state they leave the host in. -/
def closingOf (host : Host σ) (target : Target) (after : σ) : Verdict → List HostEvent × σ
  | .missing | .running => ([], after)
  | .ended none =>
    let (answer, last) := host.execute target.system (Command.printFile target.exitCodeFile) after
    ([.executed (Command.printFile target.exitCodeFile) answer], last)
  | .ended (some command) =>
    let (removed, between) := host.execute target.system command after
    let (answer, last) := host.execute target.system (Command.printFile target.exitCodeFile) between
    ([.executed command removed, .executed (Command.printFile target.exitCodeFile) answer], last)

/-- The reading that follows a listing. -/
def readingOf (host : Host σ) (target : Target) (after : σ) : Verdict → Reading
  | .missing => .empty
  | .running => .active
  | .ended none =>
    readingOfExitCode (host.execute target.system (Command.printFile target.exitCodeFile) after).1
  | .ended (some command) =>
    readingOfExitCode (host.execute target.system (Command.printFile target.exitCodeFile)
      (host.execute target.system command after).2).1

/-- The commands that a verdict calls for. -/
def followUp (target : Target) : Verdict → List String
  | .missing | .running => []
  | .ended removal => removal.toList ++ [Command.printFile target.exitCodeFile]

theorem commandsOf_closing (verdict : Verdict) :
    commandsOf (closingOf host target after verdict).1 = followUp target verdict := by
  cases verdict with
  | missing => rfl
  | running => rfl
  | ended removal => cases removal <;> rfl

theorem yields_takeListing (lists : Lists host target.system before output after) :
    Yields (takeListing host target) before (some output.text) (listingOf output) after := by
  have connected := yields_connect host target.system before
  have executed := yields_execute host target.system Command.processListing
    (host.connect target.system before).2
  rw [lists.granted] at connected
  rw [lists.answered] at executed
  have checked : Yields (discard (Session.checkExit output)) after () [] after := by
    change Yields (Session.checkExit output >>= fun _ => pure ()) after () [] after
    exact yields_after (yields_checkExit output after) (yields_pure () after)
  exact yields_bind connected (yields_bind executed (yields_after checked (yields_pure _ after)))

/-- A host that gives no listing refuses the connection or loses the listing command. -/
theorem yields_noListing (unlisted : ∀ output after, ¬Lists host target.system before output after) :
    ∃ dealings after, Yields (takeListing host target) before none dealings after ∧
      Fruitless Command.processListing dealings := by
  have connected := yields_connect host target.system before
  cases granted : (host.connect target.system before).1 with
  | error e =>
    rw [granted] at connected
    exact ⟨_, _, yields_bind connected (yields_after (yields_note _ _ _ _ _) (yields_pure _ _)), .refused e⟩
  | ok =>
    rw [granted] at connected
    have executed := yields_execute host target.system Command.processListing
      (host.connect target.system before).2
    cases answered : (host.execute target.system Command.processListing
        (host.connect target.system before).2).1 with
    | error e =>
      rw [answered] at executed
      exact ⟨_, _, yields_bind connected (yields_bind executed
        (yields_after (yields_note _ _ _ _ _) (yields_pure _ _))), .lost e⟩
    | ok output => exact absurd ⟨granted, Prod.ext answered rfl⟩ (unlisted output _)

theorem yields_noteScan (listing remoteId : String) (before : σ) :
    Yields (noteScan listing remoteId) before () [] before := by
  unfold noteScan
  have scanned := yields_note .debug .listing "process scan" ["complete", "tree"] before
  dsimp only
  split
  · refine yields_after (yields_note _ _ _ _ _) ?_
    split
    · exact yields_after (yields_note _ _ _ _ _) scanned
    · exact scanned
  · split
    · exact yields_after (yields_note _ _ _ _ _) scanned
    · exact scanned

theorem yields_remove (command : String) (before : σ) :
    Yields (remove host target command) before ()
      [.executed command (host.execute target.system command before).1]
      (host.execute target.system command before).2 := by
  refine yields_before (yields_execute host target.system command before) ?_
  cases (host.execute target.system command before).1 with
  | error e => exact yields_note _ _ _ _ _
  | ok output =>
    refine yields_after (yields_checkExit output _) ?_
    cases output.succeeded with
    | false => exact yields_pure _ _
    | true => exact yields_note _ _ _ _ _

theorem yields_conclude (before : σ) :
    Yields (conclude host target) before
      (readingOfExitCode (host.execute target.system (Command.printFile target.exitCodeFile) before).1)
      [.executed (Command.printFile target.exitCodeFile)
        (host.execute target.system (Command.printFile target.exitCodeFile) before).1]
      (host.execute target.system (Command.printFile target.exitCodeFile) before).2 := by
  refine yields_before (yields_execute host target.system (Command.printFile target.exitCodeFile) before) ?_
  generalize (host.execute target.system (Command.printFile target.exitCodeFile) before).1 = answer
  generalize (host.execute target.system (Command.printFile target.exitCodeFile) before).2 = state
  have told : Yields (do
      Session.note .info .singularity "job process has terminated" ["job", "status", "exit_code"]
      return readingOfExitCode answer) state (readingOfExitCode answer) [] state :=
    yields_after (yields_note _ _ _ _ _) (yields_pure _ _)
  cases answer with
  | error e => exact yields_after (yields_note _ _ _ _ _) told
  | ok output =>
    dsimp only
    split
    · exact yields_after (yields_note _ _ _ _ _) told
    · split
      · exact yields_after (yields_note _ _ _ _ _) told
      · exact told

/-- A query over a listing carries out the verdict on it. -/
theorem yields_query (assigned : target.remoteId = some remoteId)
    (lists : Lists host target.system before output after) (filled : output.text ≠ "") :
    Yields (Singularity.query host mode target) before
      (.ok (readingOf host target after (judge mode target.uuid remoteId output.text)))
      (listingOf output ++ (closingOf host target after (judge mode target.uuid remoteId output.text)).1)
      (closingOf host target after (judge mode target.uuid remoteId output.text)).2 := by
  unfold Singularity.query
  rw [assigned]
  refine yields_bind (yields_takeListing lists) ?_
  dsimp only
  rw [if_neg (by simpa using filled)]
  refine yields_after (yields_noteScan output.text remoteId after) ?_
  cases judge mode target.uuid remoteId output.text with
  | missing => exact yields_after (yields_note _ _ _ _ _) (yields_pure _ _)
  | running => exact yields_pure _ _
  | ended removal =>
    cases removal with
    | none =>
      exact yields_after (yields_note _ _ _ _ _) (yields_before (yields_conclude after) (yields_pure _ _))
    | some command =>
      exact yields_bind (yields_remove command after) (yields_before (yields_conclude _) (yields_pure _ _))

/-- A blank listing says nothing of the job. -/
theorem yields_blank (assigned : target.remoteId = some remoteId)
    (lists : Lists host target.system before output after) (blank : output.text = "") :
    Yields (Singularity.query host mode target) before (.ok .empty) (listingOf output) after := by
  unfold Singularity.query
  rw [assigned]
  refine yields_before (yields_takeListing lists) ?_
  dsimp only
  rw [if_pos (by simp [blank])]
  exact yields_pure _ _

/-- A query without a remote id leaves the host alone. -/
theorem yields_unassigned (unassigned : target.remoteId = none) (before : σ) :
    Yields (Singularity.query host mode target) before (.error (.missingRemoteId target.uuid)) [] before := by
  unfold Singularity.query
  rw [unassigned]
  exact yields_pure _ _

/-- A query that gets no listing finds nothing and does nothing more. -/
theorem yields_unlisted (assigned : target.remoteId = some remoteId)
    (unlisted : ∀ output after, ¬Lists host target.system before output after) :
    ∃ dealings after, Yields (Singularity.query host mode target) before (.ok .null) dealings after ∧
      Fruitless Command.processListing dealings := by
  obtain ⟨dealings, after, took, fruitless⟩ := yields_noListing unlisted
  refine ⟨dealings, after, ?_, fruitless⟩
  unfold Singularity.query
  rw [assigned]
  exact yields_before took (yields_pure _ _)

/-- What cleaning up does after a listing. -/
def tidyingOf (host : Host σ) (target : Target) (after : σ) (command : String) (leftovers : Bool) :
    List HostEvent × σ :=
  if leftovers then
    ([.executed command (host.execute target.system command after).1],
      (host.execute target.system command after).2)
  else ([], after)

theorem yields_cleanUp (assigned : target.remoteId = some remoteId)
    (lists : Lists host target.system before output after) :
    Yields (Singularity.cleanUp host mode target) before ()
      (listingOf output ++ (tidyingOf host target after (removal mode target.uuid remoteId)
        (hasLeftovers mode target.uuid remoteId output.text)).1)
      (tidyingOf host target after (removal mode target.uuid remoteId)
        (hasLeftovers mode target.uuid remoteId output.text)).2 := by
  unfold Singularity.cleanUp
  rw [assigned]
  refine yields_bind (yields_takeListing lists) ?_
  refine yields_after (yields_noteScan output.text remoteId after) ?_
  cases hasLeftovers mode target.uuid remoteId output.text with
  | false => exact yields_note _ _ _ _ _
  | true => exact yields_remove _ after

/-- Cleaning up without a remote id leaves the host alone. -/
theorem yields_cleanUp_unassigned (unassigned : target.remoteId = none) (before : σ) :
    Yields (Singularity.cleanUp host mode target) before () [] before := by
  unfold Singularity.cleanUp
  rw [unassigned]
  exact yields_note _ _ _ _ _

/-- Without a listing cleaning up does nothing but ask for one. -/
theorem yields_cleanUp_unlisted (assigned : target.remoteId = some remoteId)
    (unlisted : ∀ output after, ¬Lists host target.system before output after) :
    ∃ dealings after, Yields (Singularity.cleanUp host mode target) before () dealings after ∧
      Fruitless Command.processListing dealings := by
  obtain ⟨dealings, after, took, fruitless⟩ := yields_noListing unlisted
  refine ⟨dealings, after, ?_, fruitless⟩
  unfold Singularity.cleanUp
  rw [assigned]
  exact yields_before took (yields_pure _ _)

/-! ### The monitor -/

/-- The strategy that watches a launch style. -/
def watcher : SingularityMode → MonitorStrategy
  | .start => .singularityStart
  | .run => .singularityRun

/-- The answer to an active status query. -/
def queried (host : Host σ) (m : Monitor) (w : World σ) : Except MonitorError RemoteStatus :=
  ((m.query host true).run w).1.1

/-- The query finds the job ended. -/
def Concludes (answer : Except MonitorError RemoteStatus) : Prop :=
  answer = .ok .done ∨ answer = .ok .failed

@[simp] theorem concludes_iff {status : RemoteStatus} :
    Concludes (.ok status) ↔ status = .done ∨ status = .failed := by
  simp [Concludes]

variable {w : World σ}

theorem yields_monitorQuery {found : Except MonitorError Reading} {dealings : List HostEvent}
    (watched : m.strategy = watcher mode)
    (looked : Yields (Singularity.query host mode m.target) before found dealings after) :
    ∃ kept, Yields (m.query host true) before (found.map Reading.status, kept) dealings after := by
  have looking : look host m.strategy m.target = Singularity.query host mode m.target := by
    rw [watched]
    cases mode <;> rfl
  unfold Monitor.query
  rw [if_pos rfl, looking]
  cases found with
  | error e => exact ⟨_, yields_before looked (yields_pure _ _)⟩
  | ok reading => exact ⟨_, yields_before looked (yields_pure _ _)⟩

theorem queried_eq {found : Except MonitorError Reading} {dealings : List HostEvent}
    (watched : m.strategy = watcher mode)
    (looked : Yields (Singularity.query host mode m.target) w.host found dealings after) :
    queried host m w = found.map Reading.status ∧ issued (m.query host true) w = commandsOf dealings := by
  obtain ⟨kept, yields⟩ := yields_monitorQuery watched looked
  exact ⟨congrArg Prod.fst (yields w rfl).1, issued_eq yields rfl⟩

/-- A query that gets a listing which is not blank answers by the verdict on it. -/
theorem query_decides (watched : m.strategy = watcher mode) (assigned : m.target.remoteId = some remoteId)
    (lists : Lists host m.target.system w.host output after) (filled : output.text ≠ "") :
    queried host m w =
        .ok (readingOf host m.target after (judge mode m.target.uuid remoteId output.text)).status ∧
      issued (m.query host true) w =
        Command.processListing :: followUp m.target (judge mode m.target.uuid remoteId output.text) := by
  obtain ⟨answer, commands⟩ := queried_eq watched (yields_query assigned lists filled)
  rw [commandsOf_append, commandsOf_closing] at commands
  exact ⟨answer, commands⟩

theorem readingOfExitCode_concludes (answer : Except ExecError Output) :
    Concludes (.ok (readingOfExitCode answer).status) := by
  unfold readingOfExitCode Concludes
  repeat' split
  all_goals simp [Reading.status]

/-- A verdict that the job has ended makes the query conclude, whatever the exit code file holds. -/
theorem ended_concludes (host : Host σ) (target : Target) (after : σ) (removal : Option String) :
    Concludes (.ok (readingOf host target after (.ended removal)).status) := by
  cases removal with
  | none => exact readingOfExitCode_concludes _
  | some command => exact readingOfExitCode_concludes _

theorem cleanUp_watched (watched : m.strategy = watcher mode) :
    m.cleanUp host = Singularity.cleanUp host mode m.target := by
  unfold Monitor.cleanUp
  rw [watched]
  cases mode <;> rfl

theorem cleanUp_decides (watched : m.strategy = watcher mode)
    (assigned : m.target.remoteId = some remoteId)
    (lists : Lists host m.target.system w.host output after) :
    issued (m.cleanUp host) w =
      Command.processListing ::
        if hasLeftovers mode m.target.uuid remoteId output.text then [removal mode m.target.uuid remoteId]
        else [] := by
  rw [cleanUp_watched watched, issued_eq (yields_cleanUp assigned lists) rfl, commandsOf_append]
  unfold tidyingOf
  split <;> rfl

/-! ### A host with one listing -/

/-- A scripted host that answers every listing command with this output and everything else with silence. -/
def showing (output : Output) : Scripted.Stage where
  scripts := [⟨"ps", [output]⟩]
  today := ⟨0, 0⟩

theorem showing_lists (system : ExecSystem) (output : Output) :
    Lists Scripted.host system (showing output) output (showing output).tick.tick := by
  have fits : Text.begins "ps" Command.processListing = true := by decide +kernel
  refine ⟨rfl, ?_⟩
  simp [Scripted.host, Scripted.Stage.connect, Scripted.Stage.execute, Scripted.Stage.tick, showing,
    Scripted.FaultRule.check, Scripted.reply, fits]

/-- The monitor of a job that was launched as process 4100. -/
def watching (strategy : MonitorStrategy) : Monitor where
  strategy := strategy
  target := ⟨.nil, some "4100", ⟨"cluster", "cluster.example.org", 22, none, none, none⟩,
    "/out/tapisjob.exitcode"⟩
  pacer := .immediate 1

end RemoteJobs.Proofs.SingularityQueries
