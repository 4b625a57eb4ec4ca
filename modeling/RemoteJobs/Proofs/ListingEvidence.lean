import RemoteJobs.Proofs.InstanceFamily
import RemoteJobs.Proofs.RunFamily
import RemoteJobs.Proofs.SingularityQueries

/-! What a Singularity query rests its conclusions on. A listing that the host ended badly, that holds no
process at all or that is scanned for an id which names none is no evidence that a job has ended. The exit
code of the listing command is looked at nowhere, and a plain run's query takes a missing process for an ended
one; the laws here say exactly where a query concludes without evidence. -/
namespace RemoteJobs.Proofs.ListingEvidence
open Listing Monitor Singularity SessionRuns SingularityQueries

variable {σ : Type} {host : Host σ} {mode : SingularityMode} {before after : σ} {output : Output}
  {remoteId : String} {job : Uuid} {listing : String} {m : Monitor} {w : World σ} {command : String}

/-- The listing that a query works on, unless it is blank. -/
structure Shown (host : Host σ) (m : Monitor) (before : σ) (remoteId : String) (output : Output)
    (after : σ) : Prop where
  assigned : m.target.remoteId = some remoteId
  lists : Lists host m.target.system before output after
  filled : output.text ≠ ""

/-- The listing command ended well, the listing tells of processes, and the remote id names one. -/
structure Usable (remoteId : String) (output : Output) : Prop where
  succeeded : output.succeeded = true
  parsed : records output.text ≠ []
  named : (pidOf? remoteId).isSome = true

/-- The query has a usable listing. -/
def Founded (host : Host σ) (m : Monitor) (before : σ) : Prop :=
  ∃ remoteId output after, Shown host m before remoteId output after ∧ Usable remoteId output

/-- A command that stops an instance or kills a process. -/
def IsRemoval (command : String) : Prop :=
  (∃ job, command = Command.instanceStop job) ∨ ∃ remoteId, command = Command.kill remoteId

/-- The query finds the job ended or removes something of it. -/
def Acts (host : Host σ) (m : Monitor) (w : World σ) : Prop :=
  Concludes (queried host m w) ∨ ∃ command ∈ issued (m.query host true) w, IsRemoval command

/-- The query leaves the job for another poll, or ends the phase with an error. -/
def Waits (host : Host σ) (m : Monitor) (w : World σ) : Prop :=
  queried host m w = .ok .null ∨ queried host m w = .ok .empty ∨
    queried host m w = .error (.missingRemoteId m.target.uuid)

theorem shown_unique {remoteId' : String} {output' : Output} {after' : σ}
    (shown : Shown host m before remoteId output after) (again : Shown host m before remoteId' output' after') :
    remoteId' = remoteId ∧ output' = output ∧ after' = after := by
  have id := again.assigned.symm.trans shown.assigned
  have listing := again.lists.answered.symm.trans shown.lists.answered
  simp only [Option.some.injEq, Prod.mk.injEq, Except.ok.injEq] at id listing
  exact ⟨id, listing⟩

/-! ### Commands told apart -/

/-- The first letter of a command line whose fixed words begin it. -/
theorem first_letter {words rest : String} {letter : Char} (begins : words.toList.head? = some letter) :
    (words ++ rest).toList.head? = some letter := by
  rw [String.toList_append, List.head?_append, begins]
  rfl

theorem removal_letter (removes : IsRemoval command) :
    command.toList.head? = some 's' ∨ command.toList.head? = some 'k' := by
  rcases removes with ⟨job, rfl⟩ | ⟨remoteId, rfl⟩
  · exact .inl (first_letter (by decide +kernel))
  · exact .inr (first_letter (by decide +kernel))

theorem listing_removes_nothing : ¬IsRemoval Command.processListing := by
  intro removes
  have letter : Command.processListing.toList.head? = some 'p' := by decide +kernel
  rcases removal_letter removes with other | other
  · rw [letter] at other
    cases other
  · rw [letter] at other
    cases other

theorem printing_removes_nothing (path : String) : ¬IsRemoval (Command.printFile path) := by
  intro removes
  have letter : (Command.printFile path).toList.head? = some 'c' := first_letter (by decide +kernel)
  rcases removal_letter removes with other | other
  · rw [letter] at other
    cases other
  · rw [letter] at other
    cases other

/-- What a verdict asks to be issued is a removal. -/
theorem judged_removal (judged : judge mode job remoteId listing = .ended (some command)) :
    IsRemoval command := by
  cases mode with
  | start =>
    simp only [judge] at judged
    split at judged
    · cases judged
    · split at judged
      · cases judged
      · cases judged
        exact .inl ⟨job, rfl⟩
  | run =>
    simp only [judge] at judged
    split at judged
    · cases judged
    · split at judged
      · cases judged
      · cases judged
        exact .inr ⟨remoteId, rfl⟩

/-! ### Verdicts without an anchor -/

/-- A listing without processes, or an id that names none, is a missing instance but an ended plain run. -/
theorem blind_verdict (mode : SingularityMode) (job : Uuid)
    (blind : records listing = [] ∨ pidOf? remoteId = none) :
    judge mode job remoteId listing = match mode with
      | .start => .missing
      | .run => .ended none := by
  cases mode with
  | start =>
    have empty : (InstanceTree.scanRecords (records listing) remoteId job.text).sinit = none := by
      rcases blind with nothing | unnamed
      · have sound := InstanceFamily.scan_sound (records listing) remoteId job.text
        refine Option.eq_none_iff_forall_ne_some.mpr fun s taken => ?_
        have member := sound.listed s (InstanceFamily.mem_members.mpr (.inr (.inl taken)))
        rw [nothing] at member
        cases member
      · exact InstanceFamily.unnamed_finds_nothing unnamed _ _
    simp only [judge, InstanceTree.scan, empty, Option.isNone_none, ↓reduceIte]
  | run =>
    have empty : (RunTree.scanRecords (records listing) remoteId).parent = none := by
      rcases blind with nothing | unnamed
      · have sound := RunFamily.scan_sound (records listing) remoteId
        refine Option.eq_none_iff_forall_ne_some.mpr fun p taken => ?_
        have member := sound.listed p (RunFamily.mem_members.mpr (.inl taken))
        rw [nothing] at member
        cases member
      · exact RunFamily.unnamed_finds_nothing unnamed
    simp only [judge, RunTree.scan, empty, Option.isNone_none, ↓reduceIte]

theorem removal_is_anchored (judged : judge mode job remoteId listing = .ended (some command)) :
    records listing ≠ [] ∧ (pidOf? remoteId).isSome = true := by
  by_contra unanchored
  have blind : records listing = [] ∨ pidOf? remoteId = none := by
    rw [Classical.not_and_iff_not_or_not] at unanchored
    simpa using unanchored
  rw [blind_verdict mode job blind] at judged
  cases mode <;> cases judged

/-! ### Conclusions -/

/-- A query has a listing to go by, or it waits and has asked the host for a listing at most. -/
theorem shown_or_waits (watched : m.strategy = watcher mode) :
    (∃ remoteId output after, Shown host m w.host remoteId output after) ∨
      (Waits host m w ∧
        (issued (m.query host true) w = [] ∨
          issued (m.query host true) w = [Command.processListing])) := by
  cases assigned : m.target.remoteId with
  | none =>
    obtain ⟨answer, commands⟩ := queried_eq watched (yields_unassigned assigned w.host)
    exact .inr ⟨.inr (.inr answer), .inl commands⟩
  | some remoteId =>
    by_cases lists : ∃ output after, Lists host m.target.system w.host output after
    · obtain ⟨output, after, lists⟩ := lists
      by_cases blank : output.text = ""
      · obtain ⟨answer, commands⟩ := queried_eq watched (yields_blank assigned lists blank)
        exact .inr ⟨.inr (.inl answer), .inr commands⟩
      · exact .inl ⟨remoteId, output, after, assigned, lists, blank⟩
    · have unlisted : ∀ output after, ¬Lists host m.target.system w.host output after :=
        fun output after shows => lists ⟨output, after, shows⟩
      obtain ⟨dealings, after, yields, fruitless⟩ := yields_unlisted assigned unlisted
      obtain ⟨answer, commands⟩ := queried_eq watched yields
      have asked := fruitless_commands fruitless
      rw [← commands] at asked
      exact .inr ⟨.inl answer, asked⟩

theorem shown_decides (watched : m.strategy = watcher mode)
    (shown : Shown host m w.host remoteId output after) :
    queried host m w =
        .ok (readingOf host m.target after (judge mode m.target.uuid remoteId output.text)).status ∧
      issued (m.query host true) w =
        Command.processListing :: followUp m.target (judge mode m.target.uuid remoteId output.text) :=
  query_decides watched shown.assigned shown.lists shown.filled

theorem waiting_stands_back (waits : Waits host m w) : ¬Concludes (queried host m w) := by
  rcases waits with null | empty | missing
  · rw [null, concludes_iff]
    decide
  · rw [empty, concludes_iff]
    decide
  · rw [missing, Concludes]
    simp

/-- A query issues a removal exactly on a verdict that asks for one. -/
theorem removes_iff (watched : m.strategy = watcher mode) :
    (∃ command ∈ issued (m.query host true) w, IsRemoval command) ↔
      ∃ remoteId output after command, Shown host m w.host remoteId output after ∧
        judge mode m.target.uuid remoteId output.text = .ended (some command) := by
  constructor
  · rintro ⟨command, member, removes⟩
    rcases shown_or_waits watched with ⟨remoteId, output, after, shown⟩ | ⟨_, nothing | listing⟩
    · rw [(shown_decides watched shown).2, List.mem_cons] at member
      rcases member with rfl | member
      · exact absurd removes listing_removes_nothing
      · cases judged : judge mode m.target.uuid remoteId output.text with
        | missing =>
          rw [judged] at member
          cases member
        | running =>
          rw [judged] at member
          cases member
        | ended removal =>
          cases removal with
          | some removal => exact ⟨remoteId, output, after, removal, shown, judged⟩
          | none =>
            rw [judged] at member
            rw [List.mem_singleton.mp member] at removes
            exact absurd removes (printing_removes_nothing _)
    · rw [nothing] at member
      cases member
    · rw [listing, List.mem_singleton] at member
      subst member
      exact absurd removes listing_removes_nothing
  · rintro ⟨remoteId, output, after, command, shown, judged⟩
    refine ⟨command, ?_, judged_removal judged⟩
    rw [(shown_decides watched shown).2, judged]
    simp [followUp]

/-- A query acts exactly on a verdict that the job has ended. -/
theorem acts_iff (watched : m.strategy = watcher mode) :
    Acts host m w ↔
      ∃ remoteId output after removal, Shown host m w.host remoteId output after ∧
        judge mode m.target.uuid remoteId output.text = .ended removal := by
  constructor
  · rintro (concludes | removes)
    · rcases shown_or_waits watched with ⟨remoteId, output, after, shown⟩ | ⟨waits, _⟩
      · have answer := (shown_decides watched shown).1
        cases judged : judge mode m.target.uuid remoteId output.text with
        | ended removal => exact ⟨remoteId, output, after, removal, shown, judged⟩
        | missing =>
          rw [judged] at answer
          exact absurd concludes (waiting_stands_back (.inr (.inl answer)))
        | running =>
          rw [judged] at answer
          rw [answer, concludes_iff] at concludes
          rcases concludes with done | failed
          · cases done
          · cases failed
      · exact absurd concludes (waiting_stands_back waits)
    · obtain ⟨remoteId, output, after, command, shown, judged⟩ := (removes_iff watched).mp removes
      exact ⟨remoteId, output, after, some command, shown, judged⟩
  · rintro ⟨remoteId, output, after, removal, shown, judged⟩
    left
    rw [(shown_decides watched shown).1, judged]
    exact ended_concludes host m.target after removal

/-- A query waits exactly where it has no listing to go by, or misses the instance in it. -/
theorem waits_iff (watched : m.strategy = watcher mode) :
    Waits host m w ↔
      ∀ remoteId output after, Shown host m w.host remoteId output after →
        judge mode m.target.uuid remoteId output.text = .missing := by
  constructor
  · intro waits remoteId output after shown
    have answer := (shown_decides watched shown).1
    cases judged : judge mode m.target.uuid remoteId output.text with
    | missing => rfl
    | running =>
      rw [judged] at answer
      rcases waits with null | empty | error
      · cases answer.symm.trans null
      · cases answer.symm.trans empty
      · cases answer.symm.trans error
    | ended removal =>
      have ended := ended_concludes host m.target after removal
      rw [← judged, ← answer] at ended
      exact absurd ended (waiting_stands_back waits)
  · intro missed
    rcases shown_or_waits watched with ⟨remoteId, output, after, shown⟩ | ⟨waits, _⟩
    · have answer := (shown_decides watched shown).1
      rw [missed remoteId output after shown] at answer
      exact .inr (.inl answer)
    · exact waits

/-- Where a query acts although it has no usable listing. The exit code of the listing command is never
looked at; beyond that only a plain run is concluded without evidence, and nothing is removed for a listing
without processes or for an id that names none. -/
theorem acts_unfounded_iff (watched : m.strategy = watcher mode) :
    (Acts host m w ∧ ¬Founded host m w.host ↔
      ∃ remoteId output after removal, Shown host m w.host remoteId output after ∧
        judge mode m.target.uuid remoteId output.text = .ended removal ∧
        (output.succeeded = false ∨
          mode = .run ∧ (records output.text = [] ∨ pidOf? remoteId = none))) ∧
    ((∃ command ∈ issued (m.query host true) w, IsRemoval command) →
      ∃ remoteId output after, Shown host m w.host remoteId output after ∧
        records output.text ≠ [] ∧ (pidOf? remoteId).isSome = true) ∧
    (Waits host m w ↔
      ∀ remoteId output after, Shown host m w.host remoteId output after →
        judge mode m.target.uuid remoteId output.text = .missing) := by
  refine ⟨⟨?_, ?_⟩, ?_, waits_iff watched⟩
  · rintro ⟨acts, unfounded⟩
    obtain ⟨remoteId, output, after, removal, shown, judged⟩ := (acts_iff watched).mp acts
    refine ⟨remoteId, output, after, removal, shown, judged, ?_⟩
    cases succeeded : output.succeeded with
    | false => exact .inl rfl
    | true =>
      right
      by_cases blind : records output.text = [] ∨ pidOf? remoteId = none
      · refine ⟨?_, blind⟩
        rw [blind_verdict mode m.target.uuid blind] at judged
        cases mode with
        | start => cases judged
        | run => rfl
      · rw [not_or, ← ne_eq, ← ne_eq, ← Option.isSome_iff_ne_none] at blind
        exact absurd ⟨remoteId, output, after, shown, succeeded, blind.1, blind.2⟩ unfounded
  · rintro ⟨remoteId, output, after, removal, shown, judged, lapse⟩
    refine ⟨(acts_iff watched).mpr ⟨remoteId, output, after, removal, shown, judged⟩, ?_⟩
    rintro ⟨_, _, _, again, usable⟩
    obtain ⟨rfl, rfl, rfl⟩ := shown_unique shown again
    rcases lapse with failed | ⟨_, nothing | unnamed⟩
    · rw [usable.succeeded] at failed
      cases failed
    · exact usable.parsed nothing
    · have named := usable.named
      rw [unnamed] at named
      cases named
  · intro removes
    obtain ⟨remoteId, output, after, command, shown, judged⟩ := (removes_iff watched).mp removes
    exact ⟨remoteId, output, after, shown, removal_is_anchored judged⟩

/-- Words in place of a listing. -/
def garbled : Output :=
  ⟨"ps: cannot read the process table", 0⟩

theorem garbled_listing_ends_plain_run :
    Acts Scripted.host (watching .singularityRun) { host := showing garbled } ∧
      ¬Founded Scripted.host (watching .singularityRun) (showing garbled) := by
  have shown : Shown Scripted.host (watching .singularityRun) (showing garbled) "4100" garbled
      (showing garbled).tick.tick :=
    ⟨rfl, showing_lists _ _, by decide +kernel⟩
  have nothing : records garbled.text = [] := by decide +kernel
  have watched : (watching .singularityRun).strategy = watcher .run := rfl
  exact (acts_unfounded_iff watched).1.mpr
    ⟨_, _, _, _, shown, blind_verdict .run _ (.inl nothing), .inr ⟨rfl, .inl nothing⟩⟩

/-- A listing that broke off before it came to the startscript. -/
def cutShort : Output :=
  ⟨"  4100  4099 Sl   u sinit", 1⟩

theorem failed_listing_stops_instance :
    Acts Scripted.host (watching .singularityStart) { host := showing cutShort } ∧
      ¬Founded Scripted.host (watching .singularityStart) (showing cutShort) := by
  have shown : Shown Scripted.host (watching .singularityStart) (showing cutShort) "4100" cutShort
      (showing cutShort).tick.tick :=
    ⟨rfl, showing_lists _ _, by decide +kernel⟩
  have stops : Command.instanceStop .nil ∈
      issued ((watching .singularityStart).query Scripted.host true) { host := showing cutShort } := by
    decide +kernel
  refine ⟨.inr ⟨_, stops, .inl ⟨_, rfl⟩⟩, ?_⟩
  rintro ⟨_, _, _, again, usable⟩
  obtain ⟨rfl, rfl, rfl⟩ := shown_unique shown again
  cases usable.succeeded

end RemoteJobs.Proofs.ListingEvidence
