import RemoteJobs.Listing.InstanceTree
import RemoteJobs.Proofs.ScanPasses
import Mathlib.Data.List.Nodup

/-! The family that a scan finds of a `singularity instance start` job. The daemon's slot is offered every
record first and takes the first one whose text ends with the job's tag, whoever that process is. Sinit and
the startscript are found among what is left of the listing. -/
namespace RemoteJobs.Proofs.InstanceFamily
open Listing InstanceTree ScanPasses

variable {remotePid : Option Nat} {tagged : List Char} {tree grown : InstanceTree} {r : Record}
  {records : List Record} {remoteId job : String} {pid : Nat}

/-! ### One offer -/

theorem mem_members :
    r ∈ tree.members ↔
      tree.daemon = some r ∨ tree.sinit = some r ∨ tree.startscript = some r ∨ tree.app = some r := by
  simp [members, eq_comm]

theorem holds_none_iff : tree.holds pid = false ↔ ∀ held ∈ tree.members, held.pid ≠ pid := by
  simp [holds]

def FitsDaemon (tagged : List Char) (tree : InstanceTree) (r : Record) : Prop :=
  tree.daemon = none ∧ tagged.isSuffixOf r.rest.toList = true

def FitsSinit (remotePid : Option Nat) (tree : InstanceTree) (r : Record) : Prop :=
  tree.sinit = none ∧ remotePid = some r.pid

def FitsStartscript (remotePid : Option Nat) (tree : InstanceTree) (r : Record) : Prop :=
  tree.startscript = none ∧ remotePid = some r.ppid

def FitsApp (tree : InstanceTree) (r : Record) : Prop :=
  tree.app = none ∧ tree.startscript.map (·.pid) = some r.ppid

/-- What a tree becomes by a record that is new to it: the first open slot that the record fits is filled. -/
inductive Takes (remotePid : Option Nat) (tagged : List Char) (tree : InstanceTree) (r : Record) :
    InstanceTree → Prop where
  | daemon (fits : FitsDaemon tagged tree r) : Takes remotePid tagged tree r { tree with daemon := some r }
  | sinit (plain : ¬FitsDaemon tagged tree r) (fits : FitsSinit remotePid tree r) :
    Takes remotePid tagged tree r { tree with sinit := some r }
  | startscript (plain : ¬FitsDaemon tagged tree r) (other : ¬FitsSinit remotePid tree r)
    (fits : FitsStartscript remotePid tree r) :
    Takes remotePid tagged tree r { tree with startscript := some r }
  | app (plain : ¬FitsDaemon tagged tree r) (other : ¬FitsSinit remotePid tree r)
    (misfit : ¬FitsStartscript remotePid tree r) (fits : FitsApp tree r) :
    Takes remotePid tagged tree r { tree with app := some r }

theorem offer_accepts (offered : offer remotePid tagged tree r = some grown) :
    tree.holds r.pid = false ∧ Takes remotePid tagged tree r grown := by
  simp only [offer, Bool.and_eq_true, Option.isNone_iff_eq_none, beq_iff_eq] at offered
  split at offered
  · cases offered
  · rename_i fresh
    refine ⟨by simpa using fresh, ?_⟩
    split at offered
    · rename_i fits
      cases offered
      exact .daemon fits
    · rename_i plain
      split at offered
      · rename_i fits
        cases offered
        exact .sinit plain fits
      · rename_i other
        split at offered
        · rename_i fits
          cases offered
          exact .startscript plain other fits
        · rename_i misfit
          split at offered
          · rename_i fits
            cases offered
            exact .app plain other misfit fits
          · cases offered

/-- A record that is new to a tree is refused only where it fits no open slot. -/
theorem offer_refuses (refused : offer remotePid tagged tree r = none)
    (fresh : tree.holds r.pid = false) :
    ¬FitsDaemon tagged tree r ∧ ¬FitsSinit remotePid tree r ∧ ¬FitsStartscript remotePid tree r ∧
      ¬FitsApp tree r := by
  simp only [offer, fresh, Bool.false_eq_true, ↓reduceIte, Bool.and_eq_true, Option.isNone_iff_eq_none,
    beq_iff_eq] at refused
  split at refused
  · cases refused
  · rename_i plain
    split at refused
    · cases refused
    · rename_i other
      split at refused
      · cases refused
      · rename_i misfit
        split at refused
        · cases refused
        · rename_i nowhere
          exact ⟨plain, other, misfit, nowhere⟩

/-- The members of a grown tree are those it had and the record it took. -/
theorem offer_members (offered : offer remotePid tagged tree r = some grown) :
    grown.members.Perm (r :: tree.members) := by
  obtain ⟨_, took⟩ := offer_accepts offered
  cases took with
  | daemon fits =>
    simp only [members, fits.1]
    exact slot_filled r [] [_, _, _]
  | sinit _ fits =>
    simp only [members, fits.1]
    exact slot_filled r [_] [_, _]
  | startscript _ _ fits =>
    simp only [members, fits.1]
    exact slot_filled r [_, _] [_]
  | app _ _ _ fits =>
    simp only [members, fits.1]
    exact slot_filled r [_, _, _] []

theorem members_grow (before : InstanceTree) (r : Record) (after : InstanceTree)
    (offered : offer remotePid tagged before r = some after) :
    before.members.length < after.members.length := by
  rw [(offer_members offered).length_eq]
  exact Nat.lt_succ_self _

theorem members_bounded (tree : InstanceTree) : tree.members.length ≤ 4 :=
  List.length_filterMap_le _ _

/-! ### What every offer preserves -/

/-- Every filled slot holds a listed process that meets the slot's condition, and no two slots hold
processes of one id. Neither the startscript nor the application is the process that the remote id names,
even where that one is listed as its own parent. -/
structure Sound (remotePid : Option Nat) (tagged : List Char) (records : List Record)
    (tree : InstanceTree) : Prop where
  listed : ∀ r ∈ tree.members, r ∈ records
  daemon : ∀ d, tree.daemon = some d → tagged.isSuffixOf d.rest.toList = true
  sinit : ∀ s, tree.sinit = some s → remotePid = some s.pid
  startscript : ∀ c, tree.startscript = some c → remotePid = some c.ppid ∧ remotePid ≠ some c.pid
  app : ∀ a, tree.app = some a → remotePid ≠ some a.pid ∧ ∃ c, tree.startscript = some c ∧ c.pid = a.ppid
  apart : (tree.members.map (·.pid)).Nodup

theorem sound_empty : Sound remotePid tagged records {} := by
  constructor <;> simp [members]

/-- Past sinit's slot a new record is not the process that the remote id names. -/
theorem past_sinit (sound : Sound remotePid tagged records tree) (fresh : tree.holds r.pid = false)
    (other : ¬FitsSinit remotePid tree r) : remotePid ≠ some r.pid := by
  intro itself
  cases above : tree.sinit with
  | none => exact other ⟨above, itself⟩
  | some s =>
    have named := sound.sinit s above
    rw [itself, Option.some.injEq] at named
    exact holds_none_iff.mp fresh s (mem_members.mpr (.inr (.inl above))) named.symm

theorem sound_offer (sound : Sound remotePid tagged records tree) (member : r ∈ records)
    (offered : offer remotePid tagged tree r = some grown) : Sound remotePid tagged records grown := by
  obtain ⟨fresh, took⟩ := offer_accepts offered
  obtain ⟨listed, apart⟩ :=
    slots_joined (offer_members offered) member (holds_none_iff.mp fresh) sound.listed sound.apart
  cases took with
  | daemon fits =>
    exact ⟨listed, by simpa using fits.2, sound.sinit, sound.startscript, sound.app, apart⟩
  | sinit _ fits =>
    exact ⟨listed, sound.daemon, by simpa using fits.2, sound.startscript, sound.app, apart⟩
  | startscript _ other fits =>
    exact ⟨listed, sound.daemon, sound.sinit, by simpa using ⟨fits.2, past_sinit sound fresh other⟩,
      fun a taken => by simpa [fits.1] using (sound.app a taken).2, apart⟩
  | app _ other _ fits =>
    exact ⟨listed, sound.daemon, sound.sinit, sound.startscript,
      by simpa using And.intro (past_sinit sound fresh other) fits.2, apart⟩

theorem sound_idle (sound : Sound remotePid tagged records tree) (empty : tree.startscript = none) :
    tree.app = none :=
  Option.eq_none_iff_forall_ne_some.mpr fun a taken => by simpa [empty] using (sound.app a taken).2

/-! ### The settled scan -/

/-- The passes granted to a scan suffice. -/
theorem scan_ends (records : List Record) (remoteId job : String) :
    settle (offer (pidOf? remoteId) (tag job)) isComplete records 5 {} =
      some (scanRecords records remoteId job) := by
  have ends : ∃ settled, settle (offer (pidOf? remoteId) (tag job)) isComplete records 5 {} = some settled :=
    settle_ends members_bounded members_grow (by simp [members])
  obtain ⟨settled, ran⟩ := ends
  simp [scanRecords, ran]

theorem scan_sound (records : List Record) (remoteId job : String) :
    Sound (pidOf? remoteId) (tag job) records (scanRecords records remoteId job) :=
  settle_preserves (scan_ends records remoteId job) sound_empty fun _ member _ _ sound offered =>
    sound_offer sound member offered

/-- A scan ends with a tree that has no room for another record. -/
theorem scan_closed (records : List Record) (remoteId job : String) :
    (scanRecords records remoteId job).isComplete = true ∨
      ∀ r ∈ records, offer (pidOf? remoteId) (tag job) (scanRecords records remoteId job) r = none :=
  settle_closed (scan_ends records remoteId job)

/-! ### The daemon -/

/-- The record that the daemon's slot takes: the first whose text ends with the job's tag. -/
def daemonOf (job : String) (records : List Record) : Option Record :=
  records.find? fun r => (tag job).isSuffixOf r.rest.toList

/-- The records left to the other slots. -/
def kin (job : String) (records : List Record) : List Record :=
  records.filter fun r => daemonOf job records ≠ some r

@[simp] theorem mem_kin : r ∈ kin job records ↔ r ∈ records ∧ daemonOf job records ≠ some r := by
  simp [kin]

/-- Records of a listing that are told apart by their ids. -/
def Distinct (records : List Record) : Prop :=
  (records.map (·.pid)).Nodup

theorem distinct_nodup (distinct : Distinct records) : records.Nodup :=
  List.Nodup.of_map _ distinct

theorem same_record (distinct : Distinct records) {other : Record} (member : r ∈ records)
    (another : other ∈ records) (same : r.pid = other.pid) : r = other :=
  List.inj_on_of_nodup_map distinct member another same

private theorem new_record (distinct : Distinct records) {seen : List Record}
    (upto : seen ++ [r] <+: records) {other : Record} (before : other ∈ seen) : other.pid ≠ r.pid := by
  have unique : ((seen ++ [r]).map (·.pid)).Nodup := distinct.sublist (upto.sublist.map _)
  rw [List.map_append, List.nodup_append] at unique
  exact unique.2.2 _ (List.mem_map_of_mem before) _ (by simp)

theorem daemonOf_append (seen : List Record) (r : Record) :
    daemonOf job (seen ++ [r]) =
      (daemonOf job seen).or (if (tag job).isSuffixOf r.rest.toList then some r else none) := by
  simp only [daemonOf, List.find?_append, List.find?_cons, List.find?_nil]
  split <;> simp_all

/-- A later pass finds the daemon's slot as the listing has it. -/
theorem daemon_stays (member : r ∈ records) (settled : tree.daemon = daemonOf job records)
    (offered : offer remotePid (tag job) tree r = some grown) : grown.daemon = daemonOf job records := by
  obtain ⟨_, took⟩ := offer_accepts offered
  cases took with
  | daemon fits =>
    rw [fits.1] at settled
    exact absurd fits.2 (List.find?_eq_none.mp settled.symm r member)
  | sinit => exact settled
  | startscript => exact settled
  | app => exact settled

/-- A tree of the first pass over a listing, when it has gone through some of the records. -/
structure Follows (job : String) (seen : List Record) (tree : InstanceTree) : Prop where
  daemon : tree.daemon = daemonOf job seen
  inside : ∀ m ∈ tree.members, m ∈ seen

/-- A record that the first pass comes to is new to the tree, so only its text decides whether it is the
daemon. -/
theorem follows_next (distinct : Distinct records) {seen : List Record} (upto : seen ++ [r] <+: records)
    (follows : Follows job seen tree) :
    tree.holds r.pid = false ∧
      (¬FitsDaemon (tag job) tree r → tree.daemon = daemonOf job (seen ++ [r])) := by
  constructor
  · exact holds_none_iff.mpr fun m member => new_record distinct upto (follows.inside m member)
  · intro plain
    rw [daemonOf_append, ← follows.daemon]
    cases taken : tree.daemon with
    | some d => rfl
    | none =>
      rw [if_neg fun fits => plain ⟨taken, fits⟩]
      rfl

theorem follows_accepted (distinct : Distinct records) {seen : List Record}
    (upto : seen ++ [r] <+: records) (follows : Follows job seen tree)
    (offered : offer remotePid (tag job) tree r = some grown) : Follows job (seen ++ [r]) grown := by
  constructor
  · obtain ⟨_, passed⟩ := follows_next distinct upto follows
    obtain ⟨_, took⟩ := offer_accepts offered
    cases took with
    | daemon fits =>
      rw [daemonOf_append, ← follows.daemon, fits.1, if_pos fits.2]
      rfl
    | sinit plain => exact passed plain
    | startscript plain => exact passed plain
    | app plain => exact passed plain
  · intro m member
    rw [List.mem_append, List.mem_singleton]
    rcases List.mem_cons.mp ((offer_members offered).mem_iff.mp member) with rfl | member
    · exact .inr rfl
    · exact .inl (follows.inside m member)

theorem follows_refused (distinct : Distinct records) {seen : List Record}
    (upto : seen ++ [r] <+: records) (follows : Follows job seen tree)
    (refused : offer remotePid (tag job) tree r = none) : Follows job (seen ++ [r]) tree := by
  obtain ⟨fresh, passed⟩ := follows_next distinct upto follows
  exact ⟨passed (offer_refuses refused fresh).1,
    fun m member => List.mem_append_left _ (follows.inside m member)⟩

theorem daemonOf_prefix {seen : List Record} {d : Record} (upto : seen <+: records)
    (found : daemonOf job seen = some d) : daemonOf job records = some d := by
  obtain ⟨later, rfl⟩ := upto
  simp only [daemonOf, List.find?_append] at found ⊢
  rw [found]
  rfl

theorem first_pass (distinct : Distinct records) (remotePid : Option Nat) (job : String) :
    (pass (offer remotePid (tag job)) isComplete records {} false).1.daemon = daemonOf job records := by
  have walked : ∃ seen, seen <+: records ∧
      Follows job seen (pass (offer remotePid (tag job)) isComplete records {} false).1 ∧
      (seen = records ∨ (pass (offer remotePid (tag job)) isComplete records {} false).1.isComplete = true) :=
    pass_prefix (P := Follows job) ⟨rfl, by simp [members]⟩
      (fun _ _ _ _ upto follows offered => follows_accepted distinct upto follows offered)
      (fun _ _ _ upto follows refused => follows_refused distinct upto follows refused)
  obtain ⟨seen, upto, follows, rfl | full⟩ := walked
  · exact follows.daemon
  · simp only [isComplete, Bool.and_eq_true, follows.daemon] at full
    obtain ⟨d, found⟩ := Option.isSome_iff_exists.mp full.1.1.1
    rw [follows.daemon, found, daemonOf_prefix upto found]

/-- The scan recognises the first tagged record as the daemon. -/
theorem daemon_found (distinct : Distinct records) (remoteId job : String) :
    (scanRecords records remoteId job).daemon = daemonOf job records :=
  settle_first (P := fun tree => tree.daemon = daemonOf job records)
    (scan_ends records remoteId job) (first_pass distinct _ job)
    fun _ member _ _ settled offered => daemon_stays member settled offered

/-! ### Sinit and the startscript -/

/-- A filled slot other than the daemon's holds a record that is left to it. -/
theorem member_kin (distinct : Distinct records) {c : Record}
    (inside : c ∈ (scanRecords records remoteId job).members)
    (apart : ∀ d, (scanRecords records remoteId job).daemon = some d → d.pid ≠ c.pid) :
    c ∈ kin job records := by
  refine mem_kin.mpr ⟨(scan_sound records remoteId job).listed c inside, fun taken => ?_⟩
  rw [← daemon_found distinct remoteId job] at taken
  exact apart c taken rfl

/-- A record left to the other slots is none of the daemon's. -/
theorem daemon_apart (distinct : Distinct records) {d c : Record}
    (taken : (scanRecords records remoteId job).daemon = some d) (member : c ∈ kin job records) :
    d.pid ≠ c.pid := by
  rw [daemon_found distinct] at taken
  obtain ⟨listed, other⟩ := mem_kin.mp member
  intro same
  have equal := same_record distinct (List.mem_of_find?_eq_some taken) listed same
  subst equal
  exact other taken

/-- Sinit is found exactly where the named process is listed and is not the daemon. -/
theorem sinit_found_iff (distinct : Distinct records) (named : pidOf? remoteId = some pid) :
    (scanRecords records remoteId job).sinit.isSome = true ↔ Listed (kin job records) pid := by
  have sound := scan_sound records remoteId job
  rw [named] at sound
  constructor
  · intro found
    obtain ⟨s, taken⟩ := Option.isSome_iff_exists.mp found
    refine ⟨s, member_kin distinct (mem_members.mpr (.inr (.inl taken))) ?_,
      (Option.some.inj (sound.sinit s taken)).symm⟩
    intro d above equal
    have apart := sound.apart
    simp only [members, above, taken] at apart
    simp_all
  · rintro ⟨r, member, rfl⟩
    rw [Option.isSome_iff_ne_none]
    intro empty
    have stranger : (scanRecords records remoteId job).holds r.pid = false := by
      refine holds_none_iff.mpr fun m inside same => ?_
      rcases mem_members.mp inside with taken | taken | taken | taken
      · exact daemon_apart distinct taken member same
      · rw [empty] at taken
        cases taken
      · exact (sound.startscript m taken).2 (congrArg some same.symm)
      · exact (sound.app m taken).1 (congrArg some same.symm)
    have refused := (scan_closed records remoteId job).resolve_left (by simp [isComplete, empty]) r
      (mem_kin.mp member).1
    exact (offer_refuses refused stranger).2.1 ⟨empty, named⟩

/-- The startscript is found exactly where a child of the named process is listed that is not the daemon. -/
theorem startscript_found_iff (distinct : Distinct records) (named : pidOf? remoteId = some pid) :
    (scanRecords records remoteId job).startscript.isSome = true ↔ HasChild (kin job records) pid := by
  have sound := scan_sound records remoteId job
  rw [named] at sound
  constructor
  · intro found
    obtain ⟨c, taken⟩ := Option.isSome_iff_exists.mp found
    obtain ⟨link, other⟩ := sound.startscript c taken
    refine ⟨c, member_kin distinct (mem_members.mpr (.inr (.inr (.inl taken)))) ?_,
      (Option.some.inj link).symm, fun itself => other (congrArg some itself.symm)⟩
    intro d above equal
    have apart := sound.apart
    simp only [members, above, taken] at apart
    cases sinit : (scanRecords records remoteId job).sinit <;> simp_all
  · rintro ⟨c, member, rfl, other⟩
    rw [Option.isSome_iff_ne_none]
    intro empty
    have unused := sound_idle sound empty
    have stranger : (scanRecords records remoteId job).holds c.pid = false := by
      refine holds_none_iff.mpr fun m inside same => ?_
      rcases mem_members.mp inside with taken | taken | taken | taken
      · exact daemon_apart distinct taken member same
      · exact other (same.symm.trans (Option.some.inj (sound.sinit m taken)).symm)
      · rw [empty] at taken
        cases taken
      · rw [unused] at taken
        cases taken
    have refused := (scan_closed records remoteId job).resolve_left (by simp [isComplete, unused]) c
      (mem_kin.mp member).1
    exact (offer_refuses refused stranger).2.2.1 ⟨empty, named⟩

/-- An id that names no process anchors no instance. -/
theorem unnamed_finds_nothing (unnamed : pidOf? remoteId = none) (records : List Record) (job : String) :
    (scanRecords records remoteId job).sinit = none := by
  have sound := scan_sound records remoteId job
  exact Option.eq_none_iff_forall_ne_some.mpr fun s taken => by
    have same := sound.sinit s taken
    rw [unnamed] at same
    cases same

end RemoteJobs.Proofs.InstanceFamily
