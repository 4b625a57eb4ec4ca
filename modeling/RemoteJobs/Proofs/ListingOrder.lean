import RemoteJobs.Proofs.InstanceSlots
import RemoteJobs.Proofs.RunSlots
import Mathlib.Data.List.Sort

/-! What the order of a listing decides. Several records may fit a slot, and the first of them in turn gets it.
So the scan of a listing and that of the same listing by ascending process ids find one family exactly where
every slot's record is also the first of its candidates by ascending ids. -/
namespace RemoteJobs.Proofs.ListingOrder
open Listing ScanTurns
open InstanceFamily (Distinct distinct_nodup same_record daemonOf)
open InstanceSlots (sinitOf startscriptOf)

variable {records listing ordered : List Record} {remoteId job : String} {named : Option Nat}
  {r x c p : Record} {fits : Record → Bool} {sooner : Record → Record → Prop}

/-! ### Slots of a listing -/

/-- Every slot of a family gets the first record in turn that fits it, and stays empty where there is none. Only
the daemon is recognised without a process id. -/
theorem slots_are_filled_in_turn (distinct : Distinct records) (remoteId job : String) :
    InstanceTree.scanRecords records remoteId job = InstanceSlots.family job (pidOf? remoteId) records ∧
    RunTree.scanRecords records remoteId = RunSlots.family (pidOf? remoteId) records ∧
    (pidOf? remoteId = none →
      InstanceTree.scanRecords records remoteId job = { daemon := daemonOf job records } ∧
      RunTree.scanRecords records remoteId = {}) := by
  have inst := InstanceSlots.scan_family distinct remoteId job
  have run := RunSlots.scan_family distinct remoteId
  refine ⟨inst, run, fun unnamed => ?_⟩
  have nobody : records.find? (fun _ => false) = none := List.find?_eq_none.mpr (by simp)
  rw [inst, run, unnamed]
  simp [InstanceSlots.family, RunSlots.family, sinitOf, startscriptOf, RunSlots.parentOf, nobody]

/-- A listing in disorder: the children of the startscript come before it, two processes bear the job's tag,
and sinit has two children, one on either side of it. -/
def disordered : List Record :=
  [⟨4300, 4200, "S helper"⟩, ⟨4310, 4200, "S app"⟩, ⟨4200, 4100, "S startscript"⟩, ⟨4100, 4099, "S sinit"⟩,
    ⟨4210, 4100, "S second"⟩, ⟨4099, 1, "S instance [job]"⟩, ⟨4001, 1, "S shell [job]"⟩]

theorem disordered_slots :
    Distinct disordered ∧
      InstanceTree.scanRecords disordered " 4100 " "job" = {
        daemon := some ⟨4099, 1, "S instance [job]"⟩
        sinit := some ⟨4100, 4099, "S sinit"⟩
        startscript := some ⟨4200, 4100, "S startscript"⟩
        app := some ⟨4300, 4200, "S helper"⟩ } ∧
      RunTree.scanRecords disordered " 4100 " = {
        parent := some ⟨4100, 4099, "S sinit"⟩
        runscript := some ⟨4210, 4100, "S second"⟩ } := by
  have distinct : Distinct disordered := by
    unfold Distinct
    decide
  obtain ⟨inst, run, _⟩ := slots_are_filled_in_turn distinct " 4100 " "job"
  rw [inst, run]
  exact ⟨distinct, by decide +kernel, by decide +kernel⟩

/-! ### First by an order -/

/-- The record comes before every other record of the listing that meets the condition. -/
def FirstBy (sooner : Record → Record → Prop) (meets : Record → Prop) (records : List Record) (x : Record) :
    Prop :=
  ∀ r ∈ records, meets r → r = x ∨ sooner x r

theorem find_firstBy (sorted : records.Pairwise sooner) (found : records.find? fits = some x) :
    FirstBy sooner (fun r => fits r) records x := by
  obtain ⟨_, before, after, rfl, misfits⟩ := List.find?_eq_some_iff_append.mp found
  intro r member fit
  rcases List.mem_append.mp member with early | late
  · have misfit := misfits r early
    simp [fit] at misfit
  · rcases List.mem_cons.mp late with rfl | late
    · exact .inl rfl
    · have later := (List.pairwise_append.mp sorted).2.1
      exact .inr ((List.pairwise_cons.mp later).1 r late)

/-- Two orders of one listing put the same record first where the one that comes first in the listing is first
by the other order. -/
theorem find_agrees_iff (strict : ∀ a b, sooner a b → ¬sooner b a) (same : ∀ r, r ∈ ordered ↔ r ∈ listing)
    (sorted : ordered.Pairwise sooner) :
    listing.find? fits = ordered.find? fits ↔
      ∀ x, listing.find? fits = some x → FirstBy sooner (fun r => fits r) listing x := by
  constructor
  · intro agrees x found r member fit
    rw [agrees] at found
    exact find_firstBy sorted found r ((same r).mpr member) fit
  · intro first
    cases found : listing.find? fits with
    | none =>
      rw [eq_comm, List.find?_eq_none]
      intro r member
      exact List.find?_eq_none.mp found r ((same r).mp member)
    | some x =>
      have fit := List.find?_some found
      have member := List.mem_of_find?_eq_some found
      have somebody : (ordered.find? fits).isSome := by
        rw [List.find?_isSome]
        exact ⟨x, (same x).mpr member, fit⟩
      obtain ⟨y, other⟩ := Option.isSome_iff_exists.mp somebody
      have listed := (same y).mp (List.mem_of_find?_eq_some other)
      rcases first x found y listed (List.find?_some other) with equal | before
      · rw [other, equal]
      · rcases find_firstBy sorted other x ((same x).mpr member) fit with equal | after
        · rw [other, equal]
        · exact absurd after (strict x y before)

/-! ### Ascending ids -/

/-- The listing by ascending process ids. -/
def ascending (records : List Record) : List Record :=
  records.insertionSort fun a b => a.pid ≤ b.pid

def Below (a b : Record) : Prop :=
  a.pid < b.pid

/-- Counting up from an anchor, and on from the lowest id behind the highest, the one process comes before the
other. -/
def Sooner (anchor a b : Record) : Prop :=
  (anchor.pid < a.pid ∧ (b.pid < anchor.pid ∨ a.pid < b.pid)) ∨ (a.pid < b.pid ∧ b.pid < anchor.pid)

theorem below_strict (a b : Record) (before : Below a b) : ¬Below b a := by
  unfold Below at *
  omega

theorem sooner_strict (anchor a b : Record) (before : Sooner anchor a b) : ¬Sooner anchor b a := by
  unfold Sooner at *
  omega

theorem ascending_perm (records : List Record) : (ascending records).Perm records :=
  List.perm_insertionSort _ _

theorem mem_ascending (r : Record) : r ∈ ascending records ↔ r ∈ records :=
  (ascending_perm records).mem_iff

theorem ascending_distinct (distinct : Distinct records) : Distinct (ascending records) :=
  ((ascending_perm records).map _).nodup_iff.mpr distinct

theorem ascending_sorted (distinct : Distinct records) : (ascending records).Pairwise Below := by
  have weak : (ascending records).Pairwise fun a b => a.pid ≤ b.pid := by
    have : Std.Total fun a b : Record => a.pid ≤ b.pid := ⟨fun a b => Nat.le_total a.pid b.pid⟩
    have : IsTrans Record fun a b => a.pid ≤ b.pid := ⟨fun _ _ _ => Nat.le_trans⟩
    exact List.pairwise_insertionSort _ _
  have apart : (ascending records).Pairwise fun a b => a.pid ≠ b.pid :=
    List.pairwise_map.mp (ascending_distinct distinct)
  exact (weak.and apart).imp fun both => lt_of_le_of_ne both.1 both.2

/-- Behind a record of the sorted listing come the higher ids and then the lower ones. -/
theorem following_sorted (distinct : Distinct records) (member : c ∈ records) :
    (following c (ascending records)).Pairwise (Sooner c) := by
  have sorted := ascending_sorted distinct
  obtain ⟨before, after, shape, first⟩ := List.eq_append_cons_of_mem ((mem_ascending c).mpr member)
  rw [shape] at sorted ⊢
  rw [following_split first, List.pairwise_append]
  obtain ⟨low, high, across⟩ := List.pairwise_append.mp sorted
  obtain ⟨above, high⟩ := List.pairwise_cons.mp high
  have under {e : Record} (member : e ∈ before) : Below e c := across e member c (by simp)
  refine ⟨?ahead, ?around, fun a higher b lower => .inl ⟨above a higher, .inl (under lower)⟩⟩
  case ahead => exact high.imp_of_mem fun higher _ order => .inl ⟨above _ higher, .inr order⟩
  case around => exact low.imp_of_mem fun _ lower order => .inr ⟨order, under lower⟩

/-! ### Families of a listing and of the ascending listing -/

theorem daemon_agrees_iff (distinct : Distinct records) :
    daemonOf job records = daemonOf job (ascending records) ↔
      ∀ d, daemonOf job records = some d →
        FirstBy Below (fun r => (InstanceTree.tag job).isSuffixOf r.rest.toList) records d :=
  find_agrees_iff below_strict mem_ascending (ascending_sorted distinct)

/-- The order of the listing has no say in a slot that only the named process fits. -/
theorem named_agrees (distinct : Distinct records) (only : ∀ r, fits r = true → named = some r.pid) :
    records.find? fits = (ascending records).find? fits := by
  refine (find_agrees_iff below_strict mem_ascending (ascending_sorted distinct)).mpr ?_
  intro x found r member fit
  have itself := only x (List.find?_some found)
  rw [only r fit, Option.some.injEq] at itself
  exact .inl (same_record distinct member (List.mem_of_find?_eq_some found) itself)

theorem parent_agrees (distinct : Distinct records) :
    RunSlots.parentOf named records = RunSlots.parentOf named (ascending records) :=
  named_agrees distinct fun _ => of_decide_eq_true

theorem sinit_agrees (distinct : Distinct records)
    (daemon : daemonOf job records = daemonOf job (ascending records)) :
    sinitOf job named records = sinitOf job named (ascending records) := by
  rw [sinitOf, sinitOf, ← daemon]
  exact named_agrees distinct fun r fit => (of_decide_eq_true fit).1

theorem startscript_agrees_iff (distinct : Distinct records)
    (daemon : daemonOf job records = daemonOf job (ascending records)) :
    startscriptOf job named records = startscriptOf job named (ascending records) ↔
      ∀ c, startscriptOf job named records = some c → FirstBy Below (fun r => named = some r.ppid ∧
        daemonOf job records ≠ some r ∧ sinitOf job named records ≠ some r) records c := by
  rw [startscriptOf, startscriptOf, ← daemon, ← sinit_agrees distinct daemon]
  refine (find_agrees_iff below_strict mem_ascending (ascending_sorted distinct)).trans ?_
  simp only [decide_eq_true_eq]

/-- A slot that waits for another one. -/
theorem child_agrees_iff (anchor : Option Record) (fits : Record → Record → Bool) (distinct : Distinct records)
    (listed : ∀ c, anchor = some c → c ∈ records) :
    (anchor.bind fun c => (following c records).find? (fits c)) =
        (anchor.bind fun c => (following c (ascending records)).find? (fits c)) ↔
      ∀ c x, anchor = some c → (anchor.bind fun c => (following c records).find? (fits c)) = some x →
        FirstBy (Sooner c) (fun r => r ≠ c ∧ fits c r) records x := by
  cases anchor with
  | none => simp
  | some c =>
    have member := listed c rfl
    have inside (r : Record) : r ∈ following c records ↔ r ∈ records ∧ r ≠ c :=
      mem_following (distinct_nodup distinct) member
    have same (r : Record) : r ∈ following c (ascending records) ↔ r ∈ following c records := by
      rw [inside, mem_following (distinct_nodup (ascending_distinct distinct)) ((mem_ascending c).mpr member),
        mem_ascending]
    have others (x : Record) : FirstBy (Sooner c) (fun r => fits c r) (following c records) x ↔
        FirstBy (Sooner c) (fun r => r ≠ c ∧ fits c r) records x := by
      simp only [FirstBy, inside, and_imp]
    refine (find_agrees_iff (sooner_strict c) same (following_sorted distinct member)).trans ⟨?_, ?_⟩
    · rintro first _ x ⟨⟩ found
      exact (others x).mp (first x found)
    · exact fun first x found => (others x).mpr (first c x rfl found)

/-- Every slot of an instance's family holds the candidate that comes first by ascending ids; the application's
are counted up from the startscript. -/
structure InstanceInOrder (job : String) (named : Option Nat) (records : List Record) (tree : InstanceTree) :
    Prop where
  daemon : ∀ d, tree.daemon = some d →
    FirstBy Below (fun r => (InstanceTree.tag job).isSuffixOf r.rest.toList) records d
  startscript : ∀ c, tree.startscript = some c → FirstBy Below (fun r => named = some r.ppid ∧
    tree.daemon ≠ some r ∧ tree.sinit ≠ some r) records c
  app : ∀ c a, tree.startscript = some c → tree.app = some a → FirstBy (Sooner c) (fun r => r ≠ c ∧
    r.ppid = c.pid ∧ tree.daemon ≠ some r ∧ tree.sinit ≠ some r) records a

/-- Every slot of a plain run's family holds the candidate that comes first by ascending ids, counted up from
the process that the slot waits for. -/
structure RunInOrder (records : List Record) (tree : RunTree) : Prop where
  runscript : ∀ p c, tree.parent = some p → tree.runscript = some c →
    FirstBy (Sooner p) (fun r => r ≠ p ∧ r.ppid = p.pid) records c
  app : ∀ c a, tree.runscript = some c → tree.app = some a →
    FirstBy (Sooner c) (fun r => r ≠ c ∧ r.ppid = c.pid ∧ tree.parent ≠ some r) records a

theorem instance_agrees_iff (distinct : Distinct records) :
    InstanceSlots.family job named records = InstanceSlots.family job named (ascending records) ↔
      InstanceInOrder job named records (InstanceSlots.family job named records) := by
  have app := child_agrees_iff (startscriptOf job named records) (fun c r => r.ppid = c.pid ∧
    daemonOf job records ≠ some r ∧ sinitOf job named records ≠ some r) distinct
    fun _ => List.mem_of_find?_eq_some
  simp only [decide_eq_true_eq] at app
  constructor
  · intro same
    obtain ⟨daemon, sinit, startscript, last⟩ := InstanceTree.mk.injEq .. ▸ same
    dsimp only [InstanceSlots.appOf] at last
    rw [← startscript, ← daemon, ← sinit] at last
    exact ⟨(daemon_agrees_iff distinct).mp daemon, (startscript_agrees_iff distinct daemon).mp startscript,
      app.mp last⟩
  · intro order
    have daemon := (daemon_agrees_iff distinct).mpr order.daemon
    have sinit : sinitOf job named records = _ := sinit_agrees distinct daemon
    have startscript := (startscript_agrees_iff distinct daemon).mpr order.startscript
    have last := app.mpr order.app
    dsimp only [InstanceSlots.family, InstanceSlots.appOf]
    rw [← startscript, ← daemon, ← sinit, last]

theorem run_agrees_iff (distinct : Distinct records) :
    RunSlots.family named records = RunSlots.family named (ascending records) ↔
      RunInOrder records (RunSlots.family named records) := by
  have parent : RunSlots.parentOf named records = _ := parent_agrees distinct
  let child := (RunSlots.parentOf named records).bind fun p => RunSlots.runscriptOf p records
  have listed (c : Record) (found : child = some c) : c ∈ records := by
    obtain ⟨p, above, found⟩ := Option.bind_eq_some_iff.mp found
    have later := List.mem_of_find?_eq_some found
    exact ((mem_following (distinct_nodup distinct) (List.mem_of_find?_eq_some above)).mp later).1
  have runscript := child_agrees_iff (RunSlots.parentOf named records) (fun p r => r.ppid = p.pid) distinct
    fun _ => List.mem_of_find?_eq_some
  have app := child_agrees_iff child (fun c r => r.ppid = c.pid ∧ RunSlots.parentOf named records ≠ some r)
    distinct listed
  simp only [decide_eq_true_eq] at runscript app
  constructor
  · intro same
    obtain ⟨_, second, last⟩ := RunTree.mk.injEq .. ▸ same
    rw [← parent] at second last
    dsimp only [RunSlots.appOf] at last
    rw [← second] at last
    exact ⟨runscript.mp second, app.mp last⟩
  · intro order
    have second := runscript.mpr order.runscript
    have last := app.mpr order.app
    dsimp only [RunSlots.family, RunSlots.appOf, RunSlots.runscriptOf]
    rw [← parent, ← second]
    exact congrArg (RunTree.mk _ _) last

/-! ### Order and competition -/

/-- A listing and the same listing by ascending ids show one family exactly where each slot's record is also the
first of its candidates by ascending ids. -/
theorem order_decides_contested_slots (distinct : Distinct records) (remoteId job : String) :
    (InstanceTree.scanRecords records remoteId job = InstanceTree.scanRecords (ascending records) remoteId job ↔
      InstanceInOrder job (pidOf? remoteId) records (InstanceTree.scanRecords records remoteId job)) ∧
    (RunTree.scanRecords records remoteId = RunTree.scanRecords (ascending records) remoteId ↔
      RunInOrder records (RunTree.scanRecords records remoteId)) := by
  rw [InstanceSlots.scan_family distinct, InstanceSlots.scan_family (ascending_distinct distinct),
    RunSlots.scan_family distinct, RunSlots.scan_family (ascending_distinct distinct)]
  exact ⟨instance_agrees_iff distinct, run_agrees_iff distinct⟩

/-- A family listed from the application up to the parent. -/
def upward : List Record :=
  [⟨4300, 4200, "S app"⟩, ⟨4200, 4100, "S startscript"⟩, ⟨4100, 4099, "S sinit"⟩, ⟨4099, 1, "S instance [job]"⟩]

theorem upward_in_order :
    Distinct upward ∧ InstanceInOrder "job" (some 4100) upward (InstanceTree.scanRecords upward "4100" "job") ∧
      RunInOrder upward (RunTree.scanRecords upward "4100") := by
  have distinct : Distinct upward := by
    unfold Distinct
    decide
  obtain ⟨inst, run⟩ := order_decides_contested_slots distinct "4100" "job"
  have named : pidOf? "4100" = some 4100 := by decide +kernel
  rw [named] at inst
  exact ⟨distinct, inst.mp (by decide +kernel), run.mp (by decide +kernel)⟩

/-- Two children of one process, the younger listed first. -/
def rivals : List Record :=
  [⟨4100, 4000, "S parent"⟩, ⟨4300, 4100, "S second"⟩, ⟨4200, 4100, "S first"⟩]

theorem rivals_by_order :
    Distinct rivals ∧
      (InstanceTree.scanRecords rivals "4100" "job").startscript = some ⟨4300, 4100, "S second"⟩ ∧
      (InstanceTree.scanRecords (ascending rivals) "4100" "job").startscript = some ⟨4200, 4100, "S first"⟩ ∧
      (RunTree.scanRecords rivals "4100").runscript = some ⟨4300, 4100, "S second"⟩ ∧
      (RunTree.scanRecords (ascending rivals) "4100").runscript = some ⟨4200, 4100, "S first"⟩ := by
  unfold Distinct
  decide +kernel

end RemoteJobs.Proofs.ListingOrder
