import RemoteJobs.Proofs.InstanceSlots
import RemoteJobs.Proofs.RunSlots

/-! How soon a scan settles. A pass closes the slots whose anchor was in place when it began: what it refused for
them is never taken later, since slots only fill up. A slot therefore waits one pass for its anchor, and three
passes settle either tree, whatever processes are listed. -/
namespace RemoteJobs.Proofs.SettledScans
open Listing ScanPasses

variable {records seen : List Record} {r e : Record} {remotePid : Option Nat} {tagged : List Char} {pid : Nat}
  {remoteId job : String}

/-! ### Passes -/

section Passes

variable {Tree : Type} {offer : Tree → Record → Option Tree} {complete : Tree → Bool} {settled : Tree}

/-- More passes than a scan takes make no difference to it. -/
theorem settle_more {tree : Tree} {passes : Nat} (more : Nat)
    (ran : settle offer complete records passes tree = some settled) :
    settle offer complete records (passes + more) tree = some settled := by
  induction passes generalizing tree with
  | zero => cases ran
  | succ passes ih =>
    rw [Nat.succ_add]
    unfold settle at ran ⊢
    dsimp only at ran ⊢
    split at ran
    · rename_i stop
      rw [if_pos stop]
      exact ran
    · rename_i goes
      rw [if_neg goes]
      exact ih ran

/-- A pass that can only take a record which completes the tree takes one at most. -/
theorem pass_ends {tree : Tree} (added : Bool)
    (last : ∀ r ∈ records, ∀ grown, offer tree r = some grown → complete grown = true) :
    complete (pass offer complete records tree added).1 = true ∨
      (pass offer complete records tree added).2 = added := by
  induction records with
  | nil => exact .inr rfl
  | cons r rest ih =>
    unfold Listing.pass
    cases offered : offer tree r with
    | none =>
      simp only
      split
      · exact .inr rfl
      · exact ih fun later member => last later (List.mem_cons_of_mem r member)
    | some grown =>
      have done := last r List.mem_cons_self grown offered
      simp only [done, ↓reduceIte]
      exact .inl trivial

/-- A scan that is brought one stage nearer to its end by every pass settles one pass after the last stage. -/
theorem settle_staged (near : Nat → Tree → Prop)
    (last : ∀ tree, near 0 tree → ∀ r ∈ records, ∀ grown, offer tree r = some grown → complete grown = true)
    (nearer : ∀ stage tree, near (stage + 1) tree →
      complete (pass offer complete records tree false).1 = true ∨
        near stage (pass offer complete records tree false).1)
    (stage : Nat) {tree : Tree} (begun : near stage tree) :
    ∃ settled, settle offer complete records (stage + 1) tree = some settled := by
  induction stage generalizing tree with
  | zero =>
    unfold settle
    rcases pass_ends false (last tree begun) with done | idle
    · exact ⟨_, if_pos (by simp [done])⟩
    · exact ⟨_, if_pos (by simp [idle])⟩
  | succ stage ih =>
    unfold settle
    dsimp only
    split
    · exact ⟨_, rfl⟩
    · rename_i goes
      rcases nearer stage tree begun with done | near
      · simp [done] at goes
      · exact ih near

/-- None of the records is left over. -/
def Spent (left : Tree → Record → Prop) (records : List Record) (tree : Tree) : Prop :=
  ∀ r ∈ records, ¬left tree r

/-- A pass leaves no record over, where none is left over when it has had its turn and a record that is taken
leaves no more over than before. -/
theorem pass_spends (kept : Tree → Prop) {left : Tree → Record → Prop} {tree : Tree} (begun : kept tree)
    (accepts : ∀ r ∈ records, ∀ before after, kept before → offer before r = some after →
      kept after ∧ ¬left after r ∧ ∀ e, left after e → left before e)
    (refuses : ∀ r ∈ records, ∀ before, kept before → offer before r = none → ¬left before r) :
    complete (pass offer complete records tree false).1 = true ∨
      (kept (pass offer complete records tree false).1 ∧
        Spent left records (pass offer complete records tree false).1) := by
  have walked : ∃ seen, seen <+: records ∧
      (kept (pass offer complete records tree false).1 ∧ Spent left seen (pass offer complete records tree false).1) ∧
      (seen = records ∨ complete (pass offer complete records tree false).1 = true) :=
    pass_prefix (P := fun seen tree => kept tree ∧ Spent left seen tree) ⟨begun, nofun⟩ ?accepts ?refuses
  case accepts =>
    rintro seen r before after upto ⟨holds, spent⟩ offered
    obtain ⟨stays, taken, onward⟩ := accepts r (upto.subset (by simp)) before after holds offered
    refine ⟨stays, fun e member remains => ?_⟩
    rcases List.mem_append.mp member with earlier | last
    · exact spent e earlier (onward e remains)
    · rw [List.mem_singleton.mp last] at remains
      exact taken remains
  case refuses =>
    rintro seen r before upto ⟨holds, spent⟩ refused
    refine ⟨holds, fun e member remains => ?_⟩
    rcases List.mem_append.mp member with earlier | last
    · exact spent e earlier remains
    · rw [List.mem_singleton.mp last] at remains
      exact refuses r (upto.subset (by simp)) before holds refused remains
  obtain ⟨seen, _, both, rfl | full⟩ := walked
  · exact .inr both
  · exact .inl full

/-- A process that is new to a grown tree was new before, and it is not the one that was taken. -/
theorem stranger_before {members grown : List Record} (gained : grown.Perm (r :: members))
    (stranger : ∀ held ∈ grown, held.pid ≠ pid) : r.pid ≠ pid ∧ ∀ held ∈ members, held.pid ≠ pid :=
  List.forall_mem_cons.mp fun held inside => stranger held (gained.mem_iff.mpr inside)

theorem vacant_before {slot after : Option Record} (keeps : ∀ held, slot = some held → after = some held)
    (vacant : after = none) : slot = none :=
  Option.eq_none_iff_forall_ne_some.mpr fun held filled => by simp [keeps held filled] at vacant

/-- What a scan ends with, and how: it needs no more than three passes, leaves no record behind that would find
room, and never lets go of what a slot holds. -/
structure Settles (offer : Tree → Record → Option Tree) (complete : Tree → Bool)
    (keeps : Tree → Tree → Prop) (records : List Record) (start settled : Tree) : Prop where
  ends : settle offer complete records 3 start = some settled
  closed : ∀ r ∈ records, offer settled r = none
  offers : ∀ tree r grown, offer tree r = some grown → keeps tree grown
  passes : ∀ passes tree later, settle offer complete records passes tree = some later → keeps tree later

theorem settles_within {keeps : Tree → Tree → Prop} {start : Tree} (more : Nat)
    (soon : ∃ settled, settle offer complete records 3 start = some settled)
    (ends : settle offer complete records (3 + more) start = some settled)
    (full : ∀ tree r, complete tree = true → offer tree r = none)
    (offers : ∀ tree r grown, offer tree r = some grown → keeps tree grown) (refl : ∀ tree, keeps tree tree)
    (trans : ∀ first second third, keeps first second → keeps second third → keeps first third) :
    Settles offer complete keeps records start settled := by
  obtain ⟨sooner, ran⟩ := soon
  have same := (settle_more more ran).symm.trans ends
  refine ⟨by rw [ran, same], fun r member => ?_, offers, fun passes tree later ran => ?_⟩
  · rcases settle_closed ends with done | closed
    · exact full _ r done
    · exact closed r member
  · exact settle_preserves (P := keeps tree) ran (refl tree) fun r _ before after earlier offered =>
      trans tree before after earlier (offers before r after offered)

end Passes

/-! ### Instances -/

section Instance
open InstanceTree InstanceFamily InstanceSlots

variable {tree grown : InstanceTree}

theorem instance_stranger (offered : offer remotePid tagged tree r = some grown)
    (stranger : grown.holds pid = false) : r.pid ≠ pid ∧ tree.holds pid = false := by
  rw [holds_none_iff] at stranger ⊢
  exact stranger_before (offer_members offered) stranger

/-- The record is new to the tree and fits an open slot that needs no anchor. -/
def FitsAnyway (remotePid : Option Nat) (tagged : List Char) (tree : InstanceTree) (r : Record) : Prop :=
  tree.holds r.pid = false ∧
    (FitsDaemon tagged tree r ∨ FitsSinit remotePid tree r ∨ FitsStartscript remotePid tree r)

theorem anyway_earlier (offered : offer remotePid tagged tree r = some grown)
    (left : FitsAnyway remotePid tagged grown e) : FitsAnyway remotePid tagged tree e := by
  obtain ⟨stranger, fits⟩ := left
  have onward := offer_extends offered
  refine ⟨(instance_stranger offered stranger).2, ?_⟩
  rcases fits with fits | fits | fits
  · exact .inl ⟨vacant_before onward.daemon fits.1, fits.2⟩
  · exact .inr (.inl ⟨vacant_before onward.sinit fits.1, fits.2⟩)
  · exact .inr (.inr ⟨vacant_before onward.startscript fits.1, fits.2⟩)

/-- Where no record is left over for a slot without an anchor, only the application can still be taken. -/
theorem spent_takes (spent : Spent (FitsAnyway remotePid tagged) records tree) (member : r ∈ records)
    (offered : offer remotePid tagged tree r = some grown) :
    FitsApp tree r ∧ grown = { tree with app := some r } := by
  obtain ⟨fresh, took⟩ := offer_accepts offered
  have misfit := spent r member
  cases took with
  | daemon fits => exact absurd ⟨fresh, .inl fits⟩ misfit
  | sinit _ fits => exact absurd ⟨fresh, .inr (.inl fits)⟩ misfit
  | startscript _ _ fits => exact absurd ⟨fresh, .inr (.inr fits)⟩ misfit
  | app _ _ _ fits => exact ⟨fits, rfl⟩

/-- How near the scan of an instance is to its end, by what can still be taken. -/
def InstanceNear (remotePid : Option Nat) (tagged : List Char) (records : List Record) :
    Nat → InstanceTree → Prop
  | 0, tree => Spent (FitsAnyway remotePid tagged) records tree ∧
    Spent (fun tree r => tree.holds r.pid = false ∧ FitsApp tree r) records tree
  | 1, tree => Spent (FitsAnyway remotePid tagged) records tree
  | _, _ => True

theorem instance_nearer (stage : Nat) (tree : InstanceTree)
    (near : InstanceNear remotePid tagged records (stage + 1) tree) :
    (pass (offer remotePid tagged) isComplete records tree false).1.isComplete = true ∨
      InstanceNear remotePid tagged records stage
        (pass (offer remotePid tagged) isComplete records tree false).1 := by
  match stage with
  | 0 =>
    refine pass_spends _ near ?_ ?_
    · intro r member before after spent offered
      obtain ⟨_, rfl⟩ := spent_takes spent member offered
      exact ⟨fun e listed left => spent e listed (anyway_earlier offered left), nofun, nofun⟩
    · rintro r member before spent refused ⟨stranger, fits⟩
      exact (offer_refuses refused stranger).2.2.2 fits
  | 1 =>
    refine (pass_spends (fun _ => True) trivial ?_ ?_).imp_right And.right
    · intro r member before after _ offered
      exact ⟨trivial, fun left => (instance_stranger offered left.1).1 rfl,
        fun e left => anyway_earlier offered left⟩
    · rintro r member before _ refused ⟨stranger, fits⟩
      obtain ⟨plain, other, misfit, _⟩ := offer_refuses refused stranger
      tauto
  | _ + 2 => exact .inr trivial

theorem instance_settles (records : List Record) (remoteId job : String) :
    Settles (offer (pidOf? remoteId) (tag job)) isComplete Extends records {} (scanRecords records remoteId job) := by
  refine settles_within 2 ?soon (scan_ends records remoteId job) complete_refuses (fun _ _ _ => offer_extends)
    (fun _ => ⟨fun _ => id, fun _ => id, fun _ => id, fun _ => id⟩) ?trans
  case soon =>
    refine settle_staged (InstanceNear (pidOf? remoteId) (tag job) records) ?_ instance_nearer 2 trivial
    rintro tree ⟨spent, childless⟩ r member grown offered
    exact absurd ⟨(offer_accepts offered).1, (spent_takes spent member offered).1⟩ (childless r member)
  case trans =>
    intro first second third begun onward
    exact ⟨fun held => onward.daemon held ∘ begun.daemon held, fun held => onward.sinit held ∘ begun.sinit held,
      fun held => onward.startscript held ∘ begun.startscript held, fun held => onward.app held ∘ begun.app held⟩

end Instance

/-! ### Plain runs -/

section Run
open RunTree RunFamily RunSlots

variable {tree grown : RunTree}

theorem run_stranger (offered : offer remotePid tree r = some grown) (stranger : grown.holds pid = false) :
    r.pid ≠ pid ∧ tree.holds pid = false := by
  rw [holds_none_iff] at stranger ⊢
  exact stranger_before (offer_members offered) stranger

/-- The record is new to the tree and fits the parent's slot. -/
def NewParent (remotePid : Option Nat) (tree : RunTree) (r : Record) : Prop :=
  tree.holds r.pid = false ∧ FitsParent remotePid tree r

/-- The record is new to the tree and fits the runscript's slot. -/
def NewRunscript (tree : RunTree) (r : Record) : Prop :=
  tree.holds r.pid = false ∧ FitsRunscript tree r

theorem parent_earlier (offered : offer remotePid tree r = some grown) (left : NewParent remotePid grown e) :
    NewParent remotePid tree e :=
  ⟨(run_stranger offered left.1).2, vacant_before (offer_extends offered).parent left.2.1, left.2.2⟩

/-- How near the scan of a plain run is to its end, by what can still be taken. -/
def RunNear (remotePid : Option Nat) (records : List Record) : Nat → RunTree → Prop
  | 0, tree => Sound remotePid records tree ∧ Spent (NewParent remotePid) records tree ∧
    Spent NewRunscript records tree
  | 1, tree => Sound remotePid records tree ∧ Spent (NewParent remotePid) records tree
  | _, tree => Sound remotePid records tree

theorem run_nearer (stage : Nat) (tree : RunTree) (near : RunNear remotePid records (stage + 1) tree) :
    (pass (offer remotePid) isComplete records tree false).1.isComplete = true ∨
      RunNear remotePid records stage (pass (offer remotePid) isComplete records tree false).1 := by
  match stage with
  | 0 =>
    refine (pass_spends _ near ?_ ?_).imp_right and_assoc.mp
    · rintro r member before after ⟨sound, spent⟩ offered
      refine ⟨⟨sound_offer sound member offered, fun e listed left =>
        spent e listed (parent_earlier offered left)⟩, fun left => (run_stranger offered left.1).1 rfl, ?_⟩
      rintro e ⟨stranger, fits⟩
      refine ⟨(run_stranger offered stranger).2, vacant_before (offer_extends offered).runscript fits.1, ?_⟩
      obtain ⟨fresh, took⟩ := offer_accepts offered
      cases took with
      | parent unwanted => exact absurd ⟨fresh, unwanted⟩ (spent r member)
      | runscript => exact fits.2
      | app => exact fits.2
    · rintro r member before _ refused ⟨stranger, fits⟩
      exact (offer_refuses refused stranger).2.1 fits
  | 1 =>
    refine pass_spends _ near ?_ ?_
    · intro r member before after sound offered
      exact ⟨sound_offer sound member offered, fun left => (run_stranger offered left.1).1 rfl,
        fun e left => parent_earlier offered left⟩
    · rintro r member before _ refused ⟨stranger, fits⟩
      exact (offer_refuses refused stranger).1 fits
  | _ + 2 => exact .inr (pass_preserves near fun r member _ _ sound offered => sound_offer sound member offered)

/-- The application is taken last, since its slot waits for the others. -/
theorem app_completes (near : RunNear remotePid records 0 tree) (member : r ∈ records)
    (offered : offer remotePid tree r = some grown) : grown.isComplete = true := by
  obtain ⟨sound, parents, runscripts⟩ := near
  obtain ⟨fresh, took⟩ := offer_accepts offered
  cases took with
  | parent fits => exact absurd ⟨fresh, fits⟩ (parents r member)
  | runscript _ fits => exact absurd ⟨fresh, fits⟩ (runscripts r member)
  | app _ _ fits =>
    obtain ⟨c, taken, _⟩ := Option.map_eq_some_iff.mp fits.2
    obtain ⟨p, above, _⟩ := sound.runscript c taken
    simp [isComplete, taken, above]

theorem run_settles (records : List Record) (remoteId : String) :
    Settles (offer (pidOf? remoteId)) isComplete Extends records {} (scanRecords records remoteId) := by
  refine settles_within 1 ?soon (scan_ends records remoteId) complete_refuses (fun _ _ _ => offer_extends)
    (fun _ => ⟨fun _ => id, fun _ => id, fun _ => id⟩) ?trans
  case soon =>
    exact settle_staged (RunNear (pidOf? remoteId) records)
      (fun tree near r member grown => app_completes near member) run_nearer 2 sound_empty
  case trans =>
    intro first second third begun onward
    exact ⟨fun held => onward.parent held ∘ begun.parent held,
      fun held => onward.runscript held ∘ begun.runscript held, fun held => onward.app held ∘ begun.app held⟩

end Run

/-- Whatever processes are listed, the scans of both families settle within three passes. They end with trees
whose slots hold different listed processes, each meeting the condition of its slot, and no listed record finds
room any more. -/
theorem scans_settle_soundly (records : List Record) (remoteId job : String) :
    (Settles (InstanceTree.offer (pidOf? remoteId) (InstanceTree.tag job)) InstanceTree.isComplete
        InstanceSlots.Extends records {} (InstanceTree.scanRecords records remoteId job) ∧
      InstanceFamily.Sound (pidOf? remoteId) (InstanceTree.tag job) records
        (InstanceTree.scanRecords records remoteId job)) ∧
    (Settles (RunTree.offer (pidOf? remoteId)) RunTree.isComplete RunSlots.Extends records {}
        (RunTree.scanRecords records remoteId) ∧
      RunFamily.Sound (pidOf? remoteId) records (RunTree.scanRecords records remoteId)) :=
  ⟨⟨instance_settles records remoteId job, InstanceFamily.scan_sound records remoteId job⟩,
    ⟨run_settles records remoteId, RunFamily.scan_sound records remoteId⟩⟩

/-- Two passes do not settle a family that is listed from the bottom up. -/
example : settle (RunTree.offer (some 4100)) RunTree.isComplete
    [⟨4300, 4200, "R app"⟩, ⟨4200, 4100, "S runscript"⟩, ⟨4100, 4000, "S starter"⟩] 2 {} = none := by
  decide

end RemoteJobs.Proofs.SettledScans
