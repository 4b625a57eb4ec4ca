import RemoteJobs.Listing.RunTree
import RemoteJobs.Proofs.ScanPasses

/-! The family that a scan finds of a `singularity run` job. Two slots decide every query: the parent is
found exactly where the named process is listed, and the runscript exactly where a listed process has it as
its parent. The order of the listing plays no part in either, and neither do ids listed twice. -/
namespace RemoteJobs.Proofs.RunFamily
open Listing RunTree ScanPasses

variable {remotePid : Option Nat} {tree grown : RunTree} {r : Record} {records : List Record}
  {remoteId : String} {pid : Nat}

/-! ### One offer -/

theorem mem_members :
    r ∈ tree.members ↔ tree.parent = some r ∨ tree.runscript = some r ∨ tree.app = some r := by
  simp [members, eq_comm]

theorem holds_none_iff : tree.holds pid = false ↔ ∀ held ∈ tree.members, held.pid ≠ pid := by
  simp [holds]

def FitsParent (remotePid : Option Nat) (tree : RunTree) (r : Record) : Prop :=
  tree.parent = none ∧ remotePid = some r.pid

def FitsRunscript (tree : RunTree) (r : Record) : Prop :=
  tree.runscript = none ∧ tree.parent.map (·.pid) = some r.ppid

def FitsApp (tree : RunTree) (r : Record) : Prop :=
  tree.app = none ∧ tree.runscript.map (·.pid) = some r.ppid

/-- What a tree becomes by a record that is new to it: the first open slot that the record fits is filled. -/
inductive Takes (remotePid : Option Nat) (tree : RunTree) (r : Record) : RunTree → Prop where
  | parent (fits : FitsParent remotePid tree r) : Takes remotePid tree r { tree with parent := some r }
  | runscript (unfit : ¬FitsParent remotePid tree r) (fits : FitsRunscript tree r) :
    Takes remotePid tree r { tree with runscript := some r }
  | app (unfit : ¬FitsParent remotePid tree r) (misfit : ¬FitsRunscript tree r) (fits : FitsApp tree r) :
    Takes remotePid tree r { tree with app := some r }

theorem offer_accepts (offered : offer remotePid tree r = some grown) :
    tree.holds r.pid = false ∧ Takes remotePid tree r grown := by
  simp only [offer, Bool.and_eq_true, Option.isNone_iff_eq_none, beq_iff_eq] at offered
  split at offered
  · cases offered
  · rename_i fresh
    refine ⟨by simpa using fresh, ?_⟩
    split at offered
    · rename_i fits
      cases offered
      exact .parent fits
    · rename_i unfit
      split at offered
      · rename_i fits
        cases offered
        exact .runscript unfit fits
      · rename_i misfit
        split at offered
        · rename_i fits
          cases offered
          exact .app unfit misfit fits
        · cases offered

/-- A record that is new to a tree is refused only where it fits no open slot. -/
theorem offer_refuses (refused : offer remotePid tree r = none) (fresh : tree.holds r.pid = false) :
    ¬FitsParent remotePid tree r ∧ ¬FitsRunscript tree r ∧ ¬FitsApp tree r := by
  simp only [offer, fresh, Bool.false_eq_true, ↓reduceIte, Bool.and_eq_true, Option.isNone_iff_eq_none,
    beq_iff_eq] at refused
  split at refused
  · cases refused
  · rename_i unfit
    split at refused
    · cases refused
    · rename_i misfit
      split at refused
      · cases refused
      · rename_i nowhere
        exact ⟨unfit, misfit, nowhere⟩

/-- The members of a grown tree are those it had and the record it took. -/
theorem offer_members (offered : offer remotePid tree r = some grown) :
    grown.members.Perm (r :: tree.members) := by
  obtain ⟨_, took⟩ := offer_accepts offered
  cases took with
  | parent fits =>
    simp only [members, fits.1]
    exact slot_filled r [] [_, _]
  | runscript _ fits =>
    simp only [members, fits.1]
    exact slot_filled r [_] [_]
  | app _ _ fits =>
    simp only [members, fits.1]
    exact slot_filled r [_, _] []

theorem members_grow (before : RunTree) (r : Record) (after : RunTree)
    (offered : offer remotePid before r = some after) : before.members.length < after.members.length := by
  rw [(offer_members offered).length_eq]
  exact Nat.lt_succ_self _

theorem members_bounded (tree : RunTree) : tree.members.length ≤ 3 :=
  List.length_filterMap_le _ _

/-! ### What every offer preserves -/

/-- Every filled slot holds a listed process that meets the slot's condition, and no two slots hold
processes of one id. -/
structure Sound (remotePid : Option Nat) (records : List Record) (tree : RunTree) : Prop where
  listed : ∀ r ∈ tree.members, r ∈ records
  parent : ∀ p, tree.parent = some p → remotePid = some p.pid
  runscript : ∀ c, tree.runscript = some c → ∃ p, tree.parent = some p ∧ p.pid = c.ppid
  app : ∀ a, tree.app = some a → ∃ c, tree.runscript = some c ∧ c.pid = a.ppid
  apart : (tree.members.map (·.pid)).Nodup

theorem sound_empty : Sound remotePid records {} := by
  constructor <;> simp [members]

theorem sound_offer (sound : Sound remotePid records tree) (member : r ∈ records)
    (offered : offer remotePid tree r = some grown) : Sound remotePid records grown := by
  obtain ⟨fresh, took⟩ := offer_accepts offered
  obtain ⟨listed, apart⟩ :=
    slots_joined (offer_members offered) member (holds_none_iff.mp fresh) sound.listed sound.apart
  cases took with
  | parent fits =>
    exact ⟨listed, by simpa using fits.2,
      fun c taken => by simpa [fits.1] using sound.runscript c taken, sound.app, apart⟩
  | runscript _ fits =>
    exact ⟨listed, sound.parent, by simpa using fits.2,
      fun a taken => by simpa [fits.1] using sound.app a taken, apart⟩
  | app _ _ fits => exact ⟨listed, sound.parent, sound.runscript, by simpa using fits.2, apart⟩

theorem sound_barren (sound : Sound remotePid records tree) (empty : tree.parent = none) :
    tree.runscript = none :=
  Option.eq_none_iff_forall_ne_some.mpr fun c taken => by simpa [empty] using sound.runscript c taken

theorem sound_idle (sound : Sound remotePid records tree) (empty : tree.runscript = none) :
    tree.app = none :=
  Option.eq_none_iff_forall_ne_some.mpr fun a taken => by simpa [empty] using sound.app a taken

/-! ### The settled scan -/

/-- The passes granted to a scan suffice. -/
theorem scan_ends (records : List Record) (remoteId : String) :
    settle (offer (pidOf? remoteId)) isComplete records 4 {} = some (scanRecords records remoteId) := by
  have ends : ∃ settled, settle (offer (pidOf? remoteId)) isComplete records 4 {} = some settled :=
    settle_ends members_bounded members_grow (by simp [members])
  obtain ⟨settled, ran⟩ := ends
  simp [scanRecords, ran]

theorem scan_sound (records : List Record) (remoteId : String) :
    Sound (pidOf? remoteId) records (scanRecords records remoteId) :=
  settle_preserves (scan_ends records remoteId) sound_empty fun _ member _ _ sound offered =>
    sound_offer sound member offered

/-- A scan ends with a tree that has no room for another record. -/
theorem scan_closed (records : List Record) (remoteId : String) :
    (scanRecords records remoteId).isComplete = true ∨
      ∀ r ∈ records, offer (pidOf? remoteId) (scanRecords records remoteId) r = none :=
  settle_closed (scan_ends records remoteId)

/-- An application is found only together with its runscript. -/
theorem app_needs_runscript (records : List Record) (remoteId : String)
    (empty : (scanRecords records remoteId).runscript = none) :
    (scanRecords records remoteId).app = none :=
  sound_idle (scan_sound records remoteId) empty

/-- The parent is found exactly where the named process is listed. -/
theorem parent_found_iff (named : pidOf? remoteId = some pid) :
    (scanRecords records remoteId).parent.isSome = true ↔ Listed records pid := by
  have sound := scan_sound records remoteId
  constructor
  · intro found
    obtain ⟨p, taken⟩ := Option.isSome_iff_exists.mp found
    have same := sound.parent p taken
    rw [named, Option.some.injEq] at same
    exact ⟨p, sound.listed p (mem_members.mpr (.inl taken)), same.symm⟩
  · rintro ⟨r, member, rfl⟩
    rw [Option.isSome_iff_ne_none]
    intro empty
    have barren := sound_barren sound empty
    have unused := sound_idle sound barren
    have nobody : (scanRecords records remoteId).holds r.pid = false := by
      simp [holds, members, empty, barren, unused]
    have refused := (scan_closed records remoteId).resolve_left (by simp [isComplete, unused]) r member
    exact (offer_refuses refused nobody).1 ⟨empty, named⟩

/-- The runscript is found exactly where the named process is listed with another one as its child. The
child may come first in the listing, since a further pass picks it up once the parent is known. -/
theorem runscript_found_iff (named : pidOf? remoteId = some pid) :
    (scanRecords records remoteId).runscript.isSome = true ↔
      Listed records pid ∧ HasChild records pid := by
  have sound := scan_sound records remoteId
  constructor
  · intro found
    obtain ⟨c, taken⟩ := Option.isSome_iff_exists.mp found
    obtain ⟨p, above, link⟩ := sound.runscript c taken
    have same := sound.parent p above
    rw [named, Option.some.injEq] at same
    refine ⟨(parent_found_iff named).mp (by simp [above]), c,
      sound.listed c (mem_members.mpr (.inr (.inl taken))), by rw [← link, same], ?_⟩
    have apart := sound.apart
    simp only [members, above, taken] at apart
    intro equal
    simp_all
  · rintro ⟨listed, c, member, link, other⟩
    obtain ⟨p, above⟩ := Option.isSome_iff_exists.mp ((parent_found_iff named).mpr listed)
    have same := sound.parent p above
    rw [named, Option.some.injEq] at same
    rw [Option.isSome_iff_ne_none]
    intro empty
    have unused := sound_idle sound empty
    have stranger : (scanRecords records remoteId).holds c.pid = false := by
      simp only [holds, members, above, empty, unused]
      simpa [← same] using Ne.symm other
    have refused := (scan_closed records remoteId).resolve_left (by simp [isComplete, unused]) c member
    exact (offer_refuses refused stranger).2.1 ⟨empty, by simp [above, ← same, link]⟩

/-- An id that names no process anchors no family. -/
theorem unnamed_finds_nothing (unnamed : pidOf? remoteId = none) :
    (scanRecords records remoteId).parent = none := by
  have sound := scan_sound records remoteId
  exact Option.eq_none_iff_forall_ne_some.mpr fun p taken => by
    have same := sound.parent p taken
    rw [unnamed] at same
    cases same

end RemoteJobs.Proofs.RunFamily
