import RemoteJobs.Proofs.InstanceFamily
import RemoteJobs.Proofs.SingularityQueries

/-! What the monitor of a `singularity instance start` job makes of a listing. It decides by the family that
the daemon's slot leaves over, and this is not always the whole family: a process whose text ends with the
job's tag is taken for the daemon even where it is sinit or sinit's only child. The monitor misreads exactly
those listings. -/
namespace RemoteJobs.Proofs.InstanceDecisions
open Listing Monitor Singularity ScanPasses SessionRuns SingularityQueries InstanceFamily

variable {σ : Type} {host : Host σ} {after : σ} {output : Output} {remoteId : String} {pid : Nat}
  {listing : String} {job : Uuid} {m : Monitor} {w : World σ} {all : List Record}

/-! ### The verdict -/

theorem missing_of_unlisted (distinct : Distinct (records listing)) (named : pidOf? remoteId = some pid)
    (unlisted : ¬Listed (kin job.text (records listing)) pid) :
    judge .start job remoteId listing = .missing := by
  have empty : (InstanceTree.scanRecords (records listing) remoteId job.text).sinit.isNone = true := by
    rw [Option.isNone_iff_eq_none, ← Option.not_isSome_iff_eq_none]
    exact fun found => unlisted ((sinit_found_iff distinct named).mp found)
  simp only [judge, InstanceTree.scan, empty, ↓reduceIte]

theorem running_of_child (distinct : Distinct (records listing)) (named : pidOf? remoteId = some pid)
    (listed : Listed (kin job.text (records listing)) pid)
    (child : HasChild (kin job.text (records listing)) pid) :
    judge .start job remoteId listing = .running := by
  have sinit := (sinit_found_iff distinct named).mpr listed
  have startscript := (startscript_found_iff distinct named).mpr child
  simp only [judge, InstanceTree.scan, Option.isNone_eq_false_iff.mpr sinit, Bool.false_eq_true,
    startscript, ↓reduceIte]

theorem ended_alone (distinct : Distinct (records listing)) (named : pidOf? remoteId = some pid)
    (listed : Listed (kin job.text (records listing)) pid)
    (childless : ¬HasChild (kin job.text (records listing)) pid) :
    judge .start job remoteId listing = .ended (some (Command.instanceStop job)) := by
  have sinit := (sinit_found_iff distinct named).mpr listed
  have barren : (InstanceTree.scanRecords (records listing) remoteId job.text).startscript.isSome = false := by
    rw [Bool.eq_false_iff]
    exact fun found => childless ((startscript_found_iff distinct named).mp found)
  simp only [judge, InstanceTree.scan, Option.isNone_eq_false_iff.mpr sinit, Bool.false_eq_true, barren,
    ↓reduceIte, removal]

/-- The monitor answers a query by this family of processes. -/
structure DecidesBy (host : Host σ) (m : Monitor) (w : World σ) (family : List Record) (pid : Nat) :
    Prop where
  absent : queried host m w = .ok .empty ↔ ¬Listed family pid
  active : (queried host m w = .ok .active ∧ issued (m.query host true) w = [Command.processListing]) ↔
    Listed family pid ∧ HasChild family pid
  alone : issued (m.query host true) w = [Command.processListing, Command.instanceStop m.target.uuid,
      Command.printFile m.target.exitCodeFile] ↔
    Listed family pid ∧ ¬HasChild family pid

/-- The family that decides is what the daemon's slot leaves over. -/
theorem decides_by_kin (watched : m.strategy = .singularityStart)
    (assigned : m.target.remoteId = some remoteId) (named : pidOf? remoteId = some pid)
    (lists : Lists host m.target.system w.host output after) (filled : output.text ≠ "")
    (distinct : Distinct (records output.text)) :
    DecidesBy host m w (kin m.target.uuid.text (records output.text)) pid := by
  have decided : queried host m w = .ok (readingOf host m.target after
        (judge .start m.target.uuid remoteId output.text)).status ∧
      issued (m.query host true) w =
        Command.processListing :: followUp m.target (judge .start m.target.uuid remoteId output.text) :=
    query_decides watched assigned lists filled
  obtain ⟨answer, commands⟩ := decided
  by_cases listed : Listed (kin m.target.uuid.text (records output.text)) pid
  · by_cases child : HasChild (kin m.target.uuid.text (records output.text)) pid
    · rw [running_of_child distinct named listed child] at answer commands
      constructor <;> simp [answer, commands, listed, child, followUp, readingOf, Reading.status]
    · rw [ended_alone distinct named listed child] at answer commands
      have ended := ended_concludes host m.target after (some (Command.instanceStop m.target.uuid))
      rw [← answer] at ended
      have waits : queried host m w ≠ .ok .empty := by
        intro empty
        rw [empty, concludes_iff] at ended
        rcases ended with done | failed
        · cases done
        · cases failed
      constructor <;> simp [commands, listed, child, followUp, waits]
  · rw [missing_of_unlisted distinct named listed] at answer commands
    constructor <;> simp [answer, commands, listed, followUp, readingOf, Reading.status]

/-! ### Misread listings -/

/-- A process is taken for the daemon that is sinit itself, or the only child of a listed sinit. -/
def Misread (job : String) (records : List Record) (pid : Nat) : Prop :=
  ∃ d, daemonOf job records = some d ∧
    (d.pid = pid ∨
      Listed records pid ∧ d.ppid = pid ∧ d.pid ≠ pid ∧
        ∀ r ∈ records, r.ppid = pid → r.pid ≠ pid → r = d)

theorem listed_kin_iff {job : String} (distinct : Distinct all) :
    Listed (kin job all) pid ↔ Listed all pid ∧ ∀ d, daemonOf job all = some d → d.pid ≠ pid := by
  constructor
  · rintro ⟨r, member, rfl⟩
    obtain ⟨listed, other⟩ := mem_kin.mp member
    refine ⟨⟨r, listed, rfl⟩, fun d found same => other ?_⟩
    rw [found, same_record distinct (List.mem_of_find?_eq_some found) listed same]
  · rintro ⟨⟨r, listed, rfl⟩, apart⟩
    exact ⟨r, mem_kin.mpr ⟨listed, fun found => apart r found rfl⟩, rfl⟩

theorem child_kin_iff {job : String} :
    HasChild (kin job all) pid ↔
      ∃ r ∈ all, r.ppid = pid ∧ r.pid ≠ pid ∧ daemonOf job all ≠ some r := by
  simp only [HasChild, mem_kin]
  constructor
  · rintro ⟨r, ⟨listed, other⟩, link, apart⟩
    exact ⟨r, listed, link, apart, other⟩
  · rintro ⟨r, listed, link, apart, other⟩
    exact ⟨r, ⟨listed, other⟩, link, apart⟩

/-- Outside the misread listings the daemon's slot takes nothing that matters. -/
theorem same_unless_misread {job : String} (distinct : Distinct all) :
    ((Listed (kin job all) pid ↔ Listed all pid) ∧
      (Listed all pid → (HasChild (kin job all) pid ↔ HasChild all pid))) ↔ ¬Misread job all pid := by
  constructor
  · rintro ⟨listed, child⟩ ⟨d, found, rfl | ⟨here, link, apart, only⟩⟩
    · have member := List.mem_of_find?_eq_some found
      exact ((listed_kin_iff distinct).mp (listed.mpr ⟨d, member, rfl⟩)).2 d found rfl
    · have member := List.mem_of_find?_eq_some found
      obtain ⟨r, inside, below, other, spare⟩ :=
        child_kin_iff.mp ((child here).mpr ⟨d, member, link, apart⟩)
      exact spare (only r inside below other ▸ found)
  · intro sound
    have apart : ∀ d, daemonOf job all = some d → d.pid ≠ pid :=
      fun d found same => sound ⟨d, found, .inl same⟩
    refine ⟨⟨fun left => ((listed_kin_iff distinct).mp left).1,
      fun here => (listed_kin_iff distinct).mpr ⟨here, apart⟩⟩, fun here => ⟨?_, ?_⟩⟩
    · intro child
      obtain ⟨r, inside, link, other, _⟩ := child_kin_iff.mp child
      exact ⟨r, inside, link, other⟩
    · rintro ⟨c, inside, link, other⟩
      by_contra childless
      have taken : ∀ r ∈ all, r.ppid = pid → r.pid ≠ pid → daemonOf job all = some r := by
        intro r member below strange
        by_contra spare
        exact childless (child_kin_iff.mpr ⟨r, member, below, strange, spare⟩)
      have found := taken c inside link other
      refine sound ⟨c, found, .inr ⟨here, link, other, fun r member below strange => ?_⟩⟩
      have again := taken r member below strange
      rw [found, Option.some.injEq] at again
      exact again.symm

/-- The monitor of a `singularity instance start` job decides by the records that the daemon's slot leaves
over. It decides by the whole family, whatever the order and the texts of a listing, exactly where the
listing is not misread. -/
theorem start_monitor_follows_family_iff (watched : m.strategy = .singularityStart)
    (assigned : m.target.remoteId = some remoteId) (named : pidOf? remoteId = some pid)
    (lists : Lists host m.target.system w.host output after) (filled : output.text ≠ "")
    (distinct : Distinct (records output.text)) :
    DecidesBy host m w (kin m.target.uuid.text (records output.text)) pid ∧
      (DecidesBy host m w (records output.text) pid ↔
        ¬Misread m.target.uuid.text (records output.text) pid) := by
  have byKin := decides_by_kin watched assigned named lists filled distinct
  refine ⟨byKin, ?_⟩
  rw [← same_unless_misread distinct]
  constructor
  · intro byAll
    have listed : Listed (kin m.target.uuid.text (records output.text)) pid ↔
        Listed (records output.text) pid := not_iff_not.mp (byKin.absent.symm.trans byAll.absent)
    refine ⟨listed, fun here => ?_⟩
    have both := byKin.active.symm.trans byAll.active
    rw [listed] at both
    simpa [here] using both
  · rintro ⟨listed, child⟩
    have both : Listed (kin m.target.uuid.text (records output.text)) pid ∧
        HasChild (kin m.target.uuid.text (records output.text)) pid ↔
          Listed (records output.text) pid ∧ HasChild (records output.text) pid := by
      rw [listed]
      exact and_congr_right child
    have none : Listed (kin m.target.uuid.text (records output.text)) pid ∧
        ¬HasChild (kin m.target.uuid.text (records output.text)) pid ↔
          Listed (records output.text) pid ∧ ¬HasChild (records output.text) pid := by
      rw [listed]
      exact and_congr_right fun here => not_congr (child here)
    exact ⟨byKin.absent.trans (not_congr listed), byKin.active.trans both, byKin.alone.trans none⟩

/-- A startscript whose text ends with the job's tag, listed without the daemon. -/
def tagged : Output :=
  ⟨"4100 4099 S sinit\n4200 4100 S startscript [00000000-0000-0000-0000-000000000000]", 0⟩

theorem tagged_records : records tagged.text = [⟨4100, 4099, "S sinit"⟩,
    ⟨4200, 4100, "S startscript [00000000-0000-0000-0000-000000000000]"⟩] := by
  decide +kernel

theorem tagged_startscript_is_stopped :
    Distinct (records tagged.text) ∧
      (Listed (records tagged.text) 4100 ∧ HasChild (records tagged.text) 4100) ∧
      ¬DecidesBy Scripted.host (watching .singularityStart) { host := showing tagged }
        (records tagged.text) 4100 := by
  have distinct : Distinct (records tagged.text) := by
    rw [tagged_records]
    unfold Distinct
    decide
  have family : Listed (records tagged.text) 4100 ∧ HasChild (records tagged.text) 4100 := by
    rw [tagged_records]
    decide
  refine ⟨distinct, family, fun law => ?_⟩
  have named : pidOf? "4100" = some 4100 := by decide +kernel
  have byKin : DecidesBy Scripted.host (watching .singularityStart) { host := showing tagged }
      (kin Uuid.nil.text (records tagged.text)) 4100 :=
    decides_by_kin rfl rfl named (showing_lists _ _) (by decide +kernel) distinct
  have left : ¬HasChild (kin Uuid.nil.text (records tagged.text)) 4100 := by
    rw [tagged_records]
    decide +kernel
  exact left (byKin.active.mp (law.active.mpr family)).2

/-- The daemon, sinit and the startscript of a running instance. -/
def running : Output :=
  ⟨"4099 1 S instance [00000000-0000-0000-0000-000000000000]\n4100 4099 S sinit\n4200 4100 S script", 0⟩

theorem running_records : records running.text =
    [⟨4099, 1, "S instance [00000000-0000-0000-0000-000000000000]"⟩, ⟨4100, 4099, "S sinit"⟩,
      ⟨4200, 4100, "S script"⟩] := by
  decide +kernel

theorem instance_with_startscript_is_active :
    queried Scripted.host (watching .singularityStart) { host := showing running } = .ok .active ∧
      issued ((watching .singularityStart).query Scripted.host true) { host := showing running } =
        [Command.processListing] := by
  have named : pidOf? "4100" = some 4100 := by decide +kernel
  have distinct : Distinct (records running.text) := by
    rw [running_records]
    unfold Distinct
    decide
  have family : Listed (records running.text) 4100 ∧ HasChild (records running.text) 4100 := by
    rw [running_records]
    decide
  have daemon : daemonOf Uuid.nil.text (records running.text) =
      some ⟨4099, 1, "S instance [00000000-0000-0000-0000-000000000000]"⟩ := by
    rw [running_records]
    decide +kernel
  have sound : ¬Misread Uuid.nil.text (records running.text) 4100 := by
    rintro ⟨d, found, itself | ⟨_, link, _⟩⟩
    · rw [daemon] at found
      cases found
      cases itself
    · rw [daemon] at found
      cases found
      cases link
  have law : DecidesBy Scripted.host (watching .singularityStart) { host := showing running }
      (records running.text) 4100 :=
    (start_monitor_follows_family_iff rfl rfl named (showing_lists _ _) (by decide +kernel) distinct).2.mpr
      sound
  exact law.active.mpr family

end RemoteJobs.Proofs.InstanceDecisions
