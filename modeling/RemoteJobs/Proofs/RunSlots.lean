import RemoteJobs.Proofs.InstanceFamily
import RemoteJobs.Proofs.RunFamily
import RemoteJobs.Proofs.ScanTurns

/-! Which record every slot of a plain run's family gets, for listings that tell their records apart by their
ids. Each slot waits for the one before it and then gets the next child behind that; the children listed before
it have their turn after the end of the listing. -/
namespace RemoteJobs.Proofs.RunSlots
open Listing RunTree ScanPasses ScanTurns RunFamily
open InstanceFamily (Distinct distinct_nodup same_record)

variable {records cycle : List Record} {remoteId : String} {named : Option Nat} {r p c : Record}
  {tree grown settled : RunTree}

/-- The process that the remote id names. -/
def parentOf (named : Option Nat) (records : List Record) : Option Record :=
  records.find? fun r => named = some r.pid

/-- The next child behind a parent. -/
def runscriptOf (p : Record) (records : List Record) : Option Record :=
  (following p records).find? fun r => r.ppid = p.pid

/-- The next child behind a runscript that is not the parent. -/
def appOf (parent : Option Record) (c : Record) (records : List Record) : Option Record :=
  (following c records).find? fun r => r.ppid = c.pid ∧ parent ≠ some r

/-- The family that a listing shows of a plain run. -/
def family (named : Option Nat) (records : List Record) : RunTree :=
  let parent := parentOf named records
  let runscript := parent.bind fun p => runscriptOf p records
  ⟨parent, runscript, runscript.bind fun c => appOf parent c records⟩

/-! ### Takings -/

theorem complete_refuses (tree : RunTree) (r : Record) (done : tree.isComplete = true) :
    offer named tree r = none := by
  cases offered : offer named tree r with
  | none => rfl
  | some grown =>
    obtain ⟨_, took⟩ := offer_accepts offered
    cases took <;> simp_all [isComplete, FitsParent, FitsRunscript, FitsApp]

theorem scan_fills (records : List Record) (remoteId : String) :
    Fills (offer (pidOf? remoteId)) records {} (scanRecords records remoteId) :=
  settle_fills complete_refuses (scan_ends records remoteId)

/-- Every slot that is filled in the one tree holds the same record in the other. -/
structure Extends (tree grown : RunTree) : Prop where
  parent : ∀ held, tree.parent = some held → grown.parent = some held
  runscript : ∀ held, tree.runscript = some held → grown.runscript = some held
  app : ∀ held, tree.app = some held → grown.app = some held

theorem offer_extends (offered : offer named tree r = some grown) : Extends tree grown := by
  obtain ⟨_, took⟩ := offer_accepts offered
  cases took with
  | parent fits => exact ⟨by simp [fits.1], fun _ => id, fun _ => id⟩
  | runscript _ fits => exact ⟨fun _ => id, by simp [fits.1], fun _ => id⟩
  | app _ _ fits => exact ⟨fun _ => id, fun _ => id, by simp [fits.1]⟩

/-! ### Slots -/

section Slots
variable (listed : ∀ r ∈ cycle, r ∈ records)
include listed

/-- The parent's slot gets the first record of the named process. -/
theorem parent_first (onward : Fills (offer named) cycle {} settled) :
    settled.parent = parentOf named cycle := by
  refine slot_first (P := Sound named records) onward (fun _ _ _ offered => (offer_extends offered).parent)
    ?refuses ?takes rfl sound_empty
  case refuses =>
    intro before r turned member _ sound vacant refused
    have barren := sound_barren sound vacant
    have nobody : before.holds r.pid = false := by
      simp [holds, members, vacant, barren, sound_idle sound barren]
    simpa [FitsParent, vacant] using (offer_refuses refused nobody).1
  case takes =>
    intro before r after turned member _ sound vacant taken
    refine ⟨sound_offer sound (listed r member) taken, ?_⟩
    obtain ⟨_, took⟩ := offer_accepts taken
    cases took with
    | parent fits => simp [fits.2]
    | runscript _ fits => simp [FitsRunscript, vacant] at fits
    | app _ _ fits => simp [FitsApp, sound_barren sound vacant] at fits

/-- Once the parent is known, the runscript's slot gets its first child. -/
theorem runscript_first (onward : Fills (offer named) cycle tree settled) (sound : Sound named records tree)
    (parent : tree.parent = some p) (vacant : tree.runscript = none) :
    settled.runscript = cycle.find? fun r => r.ppid = p.pid ∧ r.pid ≠ p.pid := by
  refine slot_first (P := fun tree => Sound named records tree ∧ tree.parent = some p) onward
    (fun _ _ _ offered => (offer_extends offered).runscript) ?refuses ?takes vacant ⟨sound, parent⟩
  case refuses =>
    rintro before r turned member _ ⟨sound, parent⟩ vacant refused
    have idle := sound_idle sound vacant
    by_contra fits
    obtain ⟨link, other⟩ : r.ppid = p.pid ∧ r.pid ≠ p.pid := by simpa using fits
    have stranger : before.holds r.pid = false := by
      simpa [holds, members, parent, vacant, idle] using other.symm
    exact (offer_refuses refused stranger).2.1 ⟨vacant, by simp [parent, link]⟩
  case takes =>
    rintro before r after turned member _ ⟨sound, parent⟩ vacant taken
    refine ⟨⟨sound_offer sound (listed r member) taken, (offer_extends taken).parent p parent⟩, ?_⟩
    obtain ⟨fresh, took⟩ := offer_accepts taken
    have other : r.pid ≠ p.pid := fun same =>
      holds_none_iff.mp fresh p (mem_members.mpr (.inl parent)) same.symm
    cases took with
    | parent fits => simp [FitsParent, parent] at fits
    | runscript _ fits =>
      have link : p.pid = r.ppid := by simpa [FitsRunscript, parent] using fits.2
      simp [← link, other]
    | app _ _ fits => simp [FitsApp, vacant] at fits

/-- Once the runscript is known, the application's slot gets its first child that is not the parent. -/
theorem app_first (onward : Fills (offer named) cycle tree settled) (sound : Sound named records tree)
    (parent : tree.parent = some p) (runscript : tree.runscript = some c) (vacant : tree.app = none) :
    settled.app = cycle.find? fun r => r.ppid = c.pid ∧ r.pid ≠ c.pid ∧ r.pid ≠ p.pid := by
  refine slot_first (P := fun tree => Sound named records tree ∧ tree.parent = some p ∧
      tree.runscript = some c) onward
    (fun _ _ _ offered => (offer_extends offered).app) ?refuses ?takes vacant ⟨sound, parent, runscript⟩
  case refuses =>
    rintro before r turned member _ ⟨sound, parent, runscript⟩ vacant refused
    by_contra fits
    obtain ⟨link, other, another⟩ : r.ppid = c.pid ∧ r.pid ≠ c.pid ∧ r.pid ≠ p.pid := by simpa using fits
    have stranger : before.holds r.pid = false := by
      simpa [holds, members, parent, runscript, vacant] using ⟨another.symm, other.symm⟩
    exact (offer_refuses refused stranger).2.2 ⟨vacant, by simp [runscript, link]⟩
  case takes =>
    rintro before r after turned member _ ⟨sound, parent, runscript⟩ vacant taken
    refine ⟨⟨sound_offer sound (listed r member) taken, (offer_extends taken).parent p parent,
      (offer_extends taken).runscript c runscript⟩, ?_⟩
    obtain ⟨fresh, took⟩ := offer_accepts taken
    have apart {m : Record} (inside : m ∈ before.members) : r.pid ≠ m.pid := fun same =>
      holds_none_iff.mp fresh m inside same.symm
    cases took with
    | parent fits => simp [FitsParent, parent] at fits
    | runscript _ fits => simp [FitsRunscript, runscript] at fits
    | app _ _ fits =>
      have link : c.pid = r.ppid := by simpa [FitsApp, runscript] using fits.2
      simp [← link, apart (mem_members.mpr (.inl parent)), apart (mem_members.mpr (.inr (.inl runscript)))]

end Slots

/-! ### The family -/

/-- An accepted record is the one in every slot that was open before and is filled now. -/
theorem offer_fills (offered : offer named tree r = some grown) :
    (tree.parent = none → grown.parent = none ∨ grown.parent = some r) ∧
      (tree.runscript = none → grown.runscript = none ∨ grown.runscript = some r) := by
  obtain ⟨_, took⟩ := offer_accepts offered
  cases took <;> simp_all

/-- From the moment at which the parent is found the scan goes on with what follows it. -/
theorem parent_taken (distinct : Distinct records)
    (above : (scanRecords records remoteId).parent = some p) :
    p ∈ records ∧ ∃ tree, Sound (pidOf? remoteId) records tree ∧ tree.parent = some p ∧
      tree.runscript = none ∧
      Fills (offer (pidOf? remoteId)) (following p records ++ [p]) tree (scanRecords records remoteId) := by
  obtain ⟨member, before, after, sound, vacant, taken, filled, kept, onward⟩ :=
    slot_taken (P := Sound (pidOf? remoteId) records) (scan_fills records remoteId) (distinct_nodup distinct)
      (fun _ _ _ offered => (offer_extends offered).parent) (fun _ _ _ offered => (offer_fills offered).1)
      (fun _ _ _ member sound taken => sound_offer sound member taken) rfl sound_empty above
  refine ⟨member, after, kept, filled, ?_, onward⟩
  have barren := sound_barren sound vacant
  obtain ⟨_, took⟩ := offer_accepts taken
  cases took with
  | parent => exact barren
  | runscript _ fits => simp [FitsRunscript, vacant] at fits
  | app _ _ fits => simp [FitsApp, barren] at fits

theorem runscript_found (distinct : Distinct records)
    (above : (scanRecords records remoteId).parent = some p) :
    (scanRecords records remoteId).runscript = runscriptOf p records := by
  obtain ⟨member, tree, sound, parent, vacant, onward⟩ := parent_taken distinct above
  rw [runscript_first (fun r => (turned_perm member).mem_iff.mp) onward sound parent vacant]
  refine find_following (distinct_nodup distinct) member (by simp) fun e listed other => ?_
  have apart : e.pid ≠ p.pid := fun same => other (same_record distinct listed member same)
  simp [apart]

theorem app_found (distinct : Distinct records) (above : (scanRecords records remoteId).parent = some p)
    (child : (scanRecords records remoteId).runscript = some c) :
    (scanRecords records remoteId).app = appOf (some p) c records := by
  obtain ⟨member, early, sound, parent, vacant, onward⟩ := parent_taken distinct above
  have turned := turned_perm member
  have unique := distinct_nodup distinct
  obtain ⟨taken, before, tree, ⟨held, known⟩, open_, offered, runscript, ⟨sound, parent⟩, later⟩ :=
    slot_taken (P := fun tree => Sound (pidOf? remoteId) records tree ∧ tree.parent = some p) onward
      (turned.nodup_iff.mpr unique)
      (fun _ _ _ offered => (offer_extends offered).runscript) (fun _ _ _ offered => (offer_fills offered).2)
      (fun _ r _ inside kept taken => ⟨sound_offer kept.1 (turned.mem_iff.mp inside) taken,
        (offer_extends taken).parent p kept.2⟩)
      vacant ⟨sound, parent⟩ child
  have listed := turned.mem_iff.mp taken
  rw [following_onward unique member listed] at later
  have empty : tree.app = none := by
    have idle := sound_idle held open_
    obtain ⟨_, took⟩ := offer_accepts offered
    cases took with
    | parent fits => simp [FitsParent, known] at fits
    | runscript => exact idle
    | app _ _ fits => simp [FitsApp, open_] at fits
  rw [app_first (fun r => (turned_perm listed).mem_iff.mp) later sound parent runscript empty]
  refine find_following unique listed (by simp) fun e inside other => ?_
  have apart : e.pid ≠ c.pid := fun same => other (same_record distinct inside listed same)
  have outside : e.pid ≠ p.pid ↔ some p ≠ some e :=
    not_congr ⟨fun same => congrArg some (same_record distinct member inside same.symm), by simp_all⟩
  simp [apart, outside]

/-- The scan finds exactly the family that the listing shows. -/
theorem scan_family (distinct : Distinct records) (remoteId : String) :
    scanRecords records remoteId = family (pidOf? remoteId) records := by
  have parent : (scanRecords records remoteId).parent = parentOf (pidOf? remoteId) records :=
    parent_first (fun _ => id) (scan_fills records remoteId)
  have sound := scan_sound records remoteId
  have runscript : (scanRecords records remoteId).runscript =
      (scanRecords records remoteId).parent.bind fun p => runscriptOf p records := by
    cases above : (scanRecords records remoteId).parent with
    | none => exact sound_barren sound above
    | some p => exact runscript_found distinct above
  have app : (scanRecords records remoteId).app = (scanRecords records remoteId).runscript.bind fun c =>
      appOf (scanRecords records remoteId).parent c records := by
    cases child : (scanRecords records remoteId).runscript with
    | none => exact sound_idle sound child
    | some c =>
      obtain ⟨p, above, _⟩ := sound.runscript c child
      rw [above]
      exact app_found distinct above child
  dsimp only [family]
  rw [← parent, ← runscript, ← app]

end RemoteJobs.Proofs.RunSlots
