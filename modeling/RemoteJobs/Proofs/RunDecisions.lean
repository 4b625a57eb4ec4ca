import RemoteJobs.Proofs.RunFamily
import RemoteJobs.Proofs.SingularityQueries

/-! What the monitor of a `singularity run` job makes of a listing. The process family alone decides: whether
the launching process is listed, and whether another process has it as its parent. A launcher is killed only
where it stands alone. -/
namespace RemoteJobs.Proofs.RunDecisions
open Listing Monitor Singularity ScanPasses SessionRuns SingularityQueries

variable {σ : Type} {host : Host σ} {after : σ} {output : Output} {remoteId : String} {pid : Nat}
  {listing : String} {job : Uuid} {m : Monitor} {w : World σ}

theorem running_of_child (named : pidOf? remoteId = some pid) (listed : Listed (records listing) pid)
    (child : HasChild (records listing) pid) : judge .run job remoteId listing = .running := by
  have parent := (RunFamily.parent_found_iff named).mpr listed
  have runscript := (RunFamily.runscript_found_iff named).mpr ⟨listed, child⟩
  simp only [judge, RunTree.scan, Option.isNone_eq_false_iff.mpr parent, Bool.false_eq_true, runscript,
    ↓reduceIte]

theorem ended_alone (named : pidOf? remoteId = some pid) (listed : Listed (records listing) pid)
    (childless : ¬HasChild (records listing) pid) :
    judge .run job remoteId listing = .ended (some (Command.kill remoteId)) := by
  have parent := (RunFamily.parent_found_iff named).mpr listed
  have barren : (RunTree.scanRecords (records listing) remoteId).runscript.isSome = false := by
    rw [Bool.eq_false_iff]
    exact fun found => childless ((RunFamily.runscript_found_iff named).mp found).2
  simp only [judge, RunTree.scan, Option.isNone_eq_false_iff.mpr parent, Bool.false_eq_true, barren,
    ↓reduceIte, removal]

theorem ended_gone (named : pidOf? remoteId = some pid) (gone : ¬Listed (records listing) pid) :
    judge .run job remoteId listing = .ended none := by
  have missing : (RunTree.scanRecords (records listing) remoteId).parent.isNone = true := by
    rw [Option.isNone_iff_eq_none, ← Option.not_isSome_iff_eq_none]
    exact fun found => gone ((RunFamily.parent_found_iff named).mp found)
  simp only [judge, RunTree.scan, missing, ↓reduceIte]

theorem leftovers_iff (named : pidOf? remoteId = some pid) :
    hasLeftovers .run job remoteId listing = true ↔
      Listed (records listing) pid ∧ ¬HasChild (records listing) pid := by
  have idle := RunFamily.app_needs_runscript (records listing) remoteId
  simp only [hasLeftovers, RunTree.scan, Bool.and_eq_true, RunFamily.parent_found_iff named,
    Option.isNone_iff_eq_none]
  constructor
  · rintro ⟨⟨listed, barren⟩, _⟩
    refine ⟨listed, fun child => ?_⟩
    have found := (RunFamily.runscript_found_iff named).mpr ⟨listed, child⟩
    rw [barren] at found
    cases found
  · rintro ⟨listed, childless⟩
    have barren : (RunTree.scanRecords (records listing) remoteId).runscript = none := by
      rw [← Option.not_isSome_iff_eq_none]
      exact fun found => childless ((RunFamily.runscript_found_iff named).mp found).2
    exact ⟨⟨listed, barren⟩, idle barren⟩

/-- The monitor does by its query and by its cleaning up what the family in the listing calls for. -/
structure FollowsFamily (host : Host σ) (m : Monitor) (w : World σ) (remoteId : String)
    (family : List Record) (pid : Nat) : Prop where
  active : (queried host m w = .ok .active ∧ issued (m.query host true) w = [Command.processListing]) ↔
    Listed family pid ∧ HasChild family pid
  concludes : Concludes (queried host m w) ↔ ¬(Listed family pid ∧ HasChild family pid)
  alone : issued (m.query host true) w =
      [Command.processListing, Command.kill remoteId, Command.printFile m.target.exitCodeFile] ↔
    Listed family pid ∧ ¬HasChild family pid
  gone : issued (m.query host true) w =
      [Command.processListing, Command.printFile m.target.exitCodeFile] ↔
    ¬Listed family pid
  removes : issued (m.cleanUp host) w = [Command.processListing, Command.kill remoteId] ↔
    Listed family pid ∧ ¬HasChild family pid
  leaves : issued (m.cleanUp host) w = [Command.processListing] ↔
    ¬(Listed family pid ∧ ¬HasChild family pid)

theorem query_answers (watched : m.strategy = .singularityRun) (assigned : m.target.remoteId = some remoteId)
    (lists : Lists host m.target.system w.host output after) (filled : output.text ≠ "") {verdict : Verdict}
    (judged : judge .run m.target.uuid remoteId output.text = verdict) :
    queried host m w = .ok (readingOf host m.target after verdict).status ∧
      issued (m.query host true) w = Command.processListing :: followUp m.target verdict := by
  subst judged
  exact query_decides watched assigned lists filled

theorem cleanUp_tidies (watched : m.strategy = .singularityRun) (assigned : m.target.remoteId = some remoteId)
    (lists : Lists host m.target.system w.host output after) :
    issued (m.cleanUp host) w = Command.processListing ::
      if hasLeftovers .run m.target.uuid remoteId output.text then [Command.kill remoteId] else [] :=
  cleanUp_decides watched assigned lists

theorem follows_family (watched : m.strategy = .singularityRun)
    (assigned : m.target.remoteId = some remoteId) (named : pidOf? remoteId = some pid)
    (lists : Lists host m.target.system w.host output after) (filled : output.text ≠ "") :
    FollowsFamily host m w remoteId (records output.text) pid := by
  have tidied := cleanUp_tidies watched assigned lists
  have leftovers : hasLeftovers .run m.target.uuid remoteId output.text = true ↔
      Listed (records output.text) pid ∧ ¬HasChild (records output.text) pid := leftovers_iff named
  by_cases listed : Listed (records output.text) pid
  · by_cases child : HasChild (records output.text) pid
    · obtain ⟨answer, commands⟩ :=
        query_answers watched assigned lists filled (running_of_child named listed child)
      have busy : hasLeftovers .run m.target.uuid remoteId output.text = false := by
        simpa [listed, child] using leftovers
      rw [busy] at tidied
      constructor <;>
        simp [answer, commands, tidied, listed, child, followUp, readingOf, Reading.status]
    · obtain ⟨answer, commands⟩ :=
        query_answers watched assigned lists filled (ended_alone named listed child)
      have ended := ended_concludes host m.target after (some (Command.kill remoteId))
      have alone : hasLeftovers .run m.target.uuid remoteId output.text = true := by
        simpa [listed, child] using leftovers
      rw [alone] at tidied
      rw [← answer] at ended
      constructor <;> simp [commands, tidied, listed, child, followUp, ended]
  · obtain ⟨answer, commands⟩ := query_answers watched assigned lists filled (ended_gone named listed)
    have ended := ended_concludes host m.target after none
    have nothing : hasLeftovers .run m.target.uuid remoteId output.text = false := by
      simpa [listed] using leftovers
    rw [nothing] at tidied
    rw [← answer] at ended
    constructor <;> simp [commands, tidied, listed, followUp, ended]

/-- Listings of the same records call for the same, in whatever order they have them. -/
theorem same_records_same_verdict (named : pidOf? remoteId = some pid) {listing other : String}
    (same : ∀ r, r ∈ records listing ↔ r ∈ records other) :
    judge .run job remoteId listing = judge .run job remoteId other ∧
      hasLeftovers .run job remoteId listing = hasLeftovers .run job remoteId other := by
  obtain ⟨listed, child⟩ := same_family same pid
  constructor
  · by_cases here : Listed (records listing) pid
    · by_cases children : HasChild (records listing) pid
      · rw [running_of_child named here children,
          running_of_child named (listed.mp here) (child.mp children)]
      · rw [ended_alone named here children,
          ended_alone named (listed.mp here) (mt child.mpr children)]
    · rw [ended_gone named here, ended_gone named (mt listed.mpr here)]
  · rw [Bool.eq_iff_iff, leftovers_iff named, leftovers_iff named, listed, child]

/-- The monitor of a `singularity run` job decides by the process family alone, and of the listing only the
records matter, not their order and not how often they are listed. -/
theorem run_monitor_follows_family (watched : m.strategy = .singularityRun)
    (assigned : m.target.remoteId = some remoteId) (named : pidOf? remoteId = some pid)
    (lists : Lists host m.target.system w.host output after) (filled : output.text ≠ "") :
    FollowsFamily host m w remoteId (records output.text) pid ∧
      ∀ (v : World σ) (other : Output), Lists host m.target.system v.host other after → other.text ≠ "" →
        (∀ r, r ∈ records output.text ↔ r ∈ records other.text) →
          queried host m v = queried host m w ∧
            issued (m.query host true) v = issued (m.query host true) w ∧
            issued (m.cleanUp host) v = issued (m.cleanUp host) w := by
  refine ⟨follows_family watched assigned named lists filled, fun v other shown inked same => ?_⟩
  obtain ⟨verdict, leftovers⟩ := same_records_same_verdict named same
  obtain ⟨answer, commands⟩ := query_answers (w := w) watched assigned lists filled verdict
  obtain ⟨answer', commands'⟩ := query_answers (w := v) watched assigned shown inked rfl
  refine ⟨answer'.trans answer.symm, commands'.trans commands.symm, ?_⟩
  rw [cleanUp_tidies watched assigned lists, cleanUp_tidies watched assigned shown, leftovers]

/-- A runscript that is listed before the process that launched it. -/
def wrapped : Output :=
  ⟨"  3100  4100 S    u /bin/sh /.singularity.d/runscript\n  4100     1 Ss   u starter-suid", 0⟩

theorem early_child_keeps_launcher :
    queried Scripted.host (watching .singularityRun) { host := showing wrapped } = .ok .active ∧
      issued ((watching .singularityRun).query Scripted.host true) { host := showing wrapped } =
        [Command.processListing] := by
  have named : pidOf? "4100" = some 4100 := by decide +kernel
  have family : Listed (records wrapped.text) 4100 ∧ HasChild (records wrapped.text) 4100 := by
    decide +kernel
  exact (run_monitor_follows_family rfl rfl named (showing_lists _ _) (by decide +kernel)).1.active.mpr family

end RemoteJobs.Proofs.RunDecisions
