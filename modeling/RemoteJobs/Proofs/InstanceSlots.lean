import RemoteJobs.Proofs.InstanceFamily
import RemoteJobs.Proofs.ScanTurns

/-! Which record every slot of an instance's family gets, for listings that tell their records apart by their
ids. The daemon and the startscript are the first of their kind in the listing, and sinit is the named process;
only the application waits for another slot, and is the next child behind the startscript. -/
namespace RemoteJobs.Proofs.InstanceSlots
open Listing InstanceTree ScanPasses ScanTurns InstanceFamily

variable {records cycle : List Record} {remoteId job : String} {named : Option Nat} {r c d m : Record}
  {tree grown : InstanceTree}

/-- The process that the remote id names, unless it was taken for the daemon. -/
def sinitOf (job : String) (named : Option Nat) (records : List Record) : Option Record :=
  records.find? fun r => named = some r.pid ∧ daemonOf job records ≠ some r

/-- The first child of the named process that is neither the daemon nor sinit. -/
def startscriptOf (job : String) (named : Option Nat) (records : List Record) : Option Record :=
  records.find? fun r => named = some r.ppid ∧ daemonOf job records ≠ some r ∧
    sinitOf job named records ≠ some r

/-- The next child behind a startscript that is neither the daemon nor sinit. -/
def appOf (job : String) (named : Option Nat) (c : Record) (records : List Record) : Option Record :=
  (following c records).find? fun r => r.ppid = c.pid ∧ daemonOf job records ≠ some r ∧
    sinitOf job named records ≠ some r

/-- The family that a listing shows of an instance. -/
def family (job : String) (named : Option Nat) (records : List Record) : InstanceTree :=
  let startscript := startscriptOf job named records
  ⟨daemonOf job records, sinitOf job named records, startscript,
    startscript.bind fun c => appOf job named c records⟩

/-! ### Takings -/

theorem complete_refuses {tagged : List Char} (tree : InstanceTree) (r : Record)
    (done : tree.isComplete = true) : offer named tagged tree r = none := by
  cases offered : offer named tagged tree r with
  | none => rfl
  | some grown =>
    obtain ⟨_, took⟩ := offer_accepts offered
    cases took <;> simp_all [isComplete, FitsDaemon, FitsSinit, FitsStartscript, FitsApp]

theorem scan_fills (records : List Record) (remoteId job : String) :
    Fills (offer (pidOf? remoteId) (tag job)) records {} (scanRecords records remoteId job) :=
  settle_fills complete_refuses (scan_ends records remoteId job)

/-- Every slot that is filled in the one tree holds the same record in the other. -/
structure Extends (tree grown : InstanceTree) : Prop where
  daemon : ∀ held, tree.daemon = some held → grown.daemon = some held
  sinit : ∀ held, tree.sinit = some held → grown.sinit = some held
  startscript : ∀ held, tree.startscript = some held → grown.startscript = some held
  app : ∀ held, tree.app = some held → grown.app = some held

theorem offer_extends {tagged : List Char} (offered : offer named tagged tree r = some grown) :
    Extends tree grown := by
  obtain ⟨_, took⟩ := offer_accepts offered
  cases took with
  | daemon fits => exact ⟨by simp [fits.1], fun _ => id, fun _ => id, fun _ => id⟩
  | sinit _ fits => exact ⟨fun _ => id, by simp [fits.1], fun _ => id, fun _ => id⟩
  | startscript _ _ fits => exact ⟨fun _ => id, fun _ => id, by simp [fits.1], fun _ => id⟩
  | app _ _ _ fits => exact ⟨fun _ => id, fun _ => id, fun _ => id, by simp [fits.1]⟩

/-- A tree from which the scan of a listing reaches its end. -/
def OnTheWay (records : List Record) (remoteId job : String) (tree : InstanceTree) : Prop :=
  ∃ cycle, Fills (offer (pidOf? remoteId) (tag job)) cycle tree (scanRecords records remoteId job)

theorem way_extends (way : OnTheWay records remoteId job tree) :
    Extends tree (scanRecords records remoteId job) := by
  obtain ⟨cycle, onward⟩ := way
  exact ⟨fun _ filled => slot_stays (fun _ _ _ offered => (offer_extends offered).daemon) filled onward,
    fun _ filled => slot_stays (fun _ _ _ offered => (offer_extends offered).sinit) filled onward,
    fun _ filled => slot_stays (fun _ _ _ offered => (offer_extends offered).startscript) filled onward,
    fun _ filled => slot_stays (fun _ _ _ offered => (offer_extends offered).app) filled onward⟩

section Way
variable (distinct : Distinct records) (way : OnTheWay records remoteId job tree)
include distinct way

/-- At no time does the daemon's slot hold another record than the first tagged one. -/
theorem daemon_known (taken : tree.daemon = some d) : daemonOf job records = some d := by
  rw [← daemon_found distinct remoteId job]
  exact (way_extends way).daemon d taken

/-- The other slots never take that record. -/
theorem others_known (taken : tree.sinit = some m ∨ tree.startscript = some m ∨ tree.app = some m) :
    daemonOf job records ≠ some m := by
  rw [← daemon_found distinct remoteId job]
  intro above
  have further := way_extends way
  have again : m ∈ [(scanRecords records remoteId job).sinit,
      (scanRecords records remoteId job).startscript,
      (scanRecords records remoteId job).app].filterMap id := by
    rw [List.mem_filterMap]
    rcases taken with taken | taken | taken
    · exact ⟨some m, by simp [further.sinit m taken], rfl⟩
    · exact ⟨some m, by simp [further.startscript m taken], rfl⟩
    · exact ⟨some m, by simp [further.app m taken], rfl⟩
  have apart := (scan_sound records remoteId job).apart
  rw [members, above] at apart
  exact (List.nodup_cons.mp apart).1 (List.mem_map_of_mem again)

theorem daemon_stranger (sound : Sound named (tag job) records tree) (listed : r ∈ records)
    (other : daemonOf job records ≠ some r) (taken : tree.daemon = some d) : d.pid ≠ r.pid := by
  intro same
  have inside := sound.listed d (mem_members.mpr (.inl taken))
  rw [same_record distinct inside listed same] at taken
  exact other (daemon_known distinct way taken)

end Way

/-! ### Slots -/

section Slots
variable (distinct : Distinct records)
include distinct

/-- Sinit's slot gets the named process. -/
theorem sinit_first : (scanRecords records remoteId job).sinit = sinitOf job (pidOf? remoteId) records := by
  refine slot_first (P := Sound (pidOf? remoteId) (tag job) records) (scan_fills records remoteId job)
    (fun _ _ _ offered => (offer_extends offered).sinit) ?refuses ?takes rfl sound_empty
  case refuses =>
    intro before r turned listed onward sound vacant refused
    by_contra fits
    obtain ⟨itself, other⟩ : pidOf? remoteId = some r.pid ∧ daemonOf job records ≠ some r := by
      simpa using fits
    have stranger : before.holds r.pid = false := by
      refine holds_none_iff.mpr fun m inside same => ?_
      rcases mem_members.mp inside with taken | taken | taken | taken
      · exact daemon_stranger distinct ⟨turned, onward⟩ sound listed other taken same
      · simp [vacant] at taken
      · exact (sound.startscript m taken).2 (by rw [itself, same])
      · exact (sound.app m taken).1 (by rw [itself, same])
    exact (offer_refuses refused stranger).2.1 ⟨vacant, itself⟩
  case takes =>
    intro before r after turned listed onward sound vacant taken
    have kept := sound_offer sound listed taken
    refine ⟨kept, ?_⟩
    have way : OnTheWay records remoteId job after := ⟨turned, onward⟩
    obtain ⟨_, took⟩ := offer_accepts taken
    cases took with
    | daemon => simp [daemon_known distinct way rfl, vacant]
    | sinit _ fits => simp [others_known distinct way (.inl rfl), fits.2]
    | startscript => simp [(kept.startscript r rfl).2, vacant]
    | app => simp [(kept.app r rfl).1, vacant]

/-- A record that is not the daemon's fills sinit's slot where it is the named process. -/
theorem sinitOf_eq_iff (listed : r ∈ records) (other : daemonOf job records ≠ some r) :
    sinitOf job named records = some r ↔ named = some r.pid := by
  have fits {s : Record} (found : sinitOf job named records = some s) : named = some s.pid := by
    have decided := List.find?_some found
    simp only [decide_eq_true_eq] at decided
    exact decided.1
  constructor
  · exact fits
  · intro itself
    have somebody : (sinitOf job named records).isSome := by
      rw [sinitOf, List.find?_isSome]
      exact ⟨r, listed, by simp [itself, other]⟩
    obtain ⟨s, found⟩ := Option.isSome_iff_exists.mp somebody
    have same := fits found
    rw [itself, Option.some.injEq] at same
    rw [found, same_record distinct (List.mem_of_find?_eq_some found) listed same.symm]

/-- The startscript's slot gets the first child of the named process that is left to it. -/
theorem startscript_first : (scanRecords records remoteId job).startscript =
    records.find? fun r => pidOf? remoteId = some r.ppid ∧ pidOf? remoteId ≠ some r.pid ∧
      daemonOf job records ≠ some r := by
  refine slot_first (P := Sound (pidOf? remoteId) (tag job) records) (scan_fills records remoteId job)
    (fun _ _ _ offered => (offer_extends offered).startscript) ?refuses ?takes rfl sound_empty
  case refuses =>
    intro before r turned listed onward sound vacant refused
    by_contra fits
    obtain ⟨link, apart, other⟩ : pidOf? remoteId = some r.ppid ∧ pidOf? remoteId ≠ some r.pid ∧
        daemonOf job records ≠ some r := by simpa using fits
    have stranger : before.holds r.pid = false := by
      refine holds_none_iff.mpr fun m inside same => ?_
      rcases mem_members.mp inside with taken | taken | taken | taken
      · exact daemon_stranger distinct ⟨turned, onward⟩ sound listed other taken same
      · exact apart (by rw [sound.sinit m taken, same])
      · simp [vacant] at taken
      · simp [sound_idle sound vacant] at taken
    exact (offer_refuses refused stranger).2.2.1 ⟨vacant, link⟩
  case takes =>
    intro before r after turned listed onward sound vacant taken
    have kept := sound_offer sound listed taken
    refine ⟨kept, ?_⟩
    have way : OnTheWay records remoteId job after := ⟨turned, onward⟩
    obtain ⟨_, took⟩ := offer_accepts taken
    cases took with
    | daemon => simp [daemon_known distinct way rfl, vacant]
    | sinit _ fits => simp [fits.2, vacant]
    | startscript _ _ fits =>
      have apart := (kept.startscript r rfl).2
      simp only [ne_eq, fits.2] at apart
      simp [others_known distinct way (.inr (.inl rfl)), fits.2, apart]
    | app _ _ _ fits => simp [FitsApp, vacant] at fits

/-- Once the startscript is known, the application's slot gets its first child that is left to it. -/
theorem app_first (listed : ∀ r ∈ cycle, r ∈ records)
    (onward : Fills (offer (pidOf? remoteId) (tag job)) cycle tree (scanRecords records remoteId job))
    (sound : Sound (pidOf? remoteId) (tag job) records tree) (startscript : tree.startscript = some c)
    (vacant : tree.app = none) :
    (scanRecords records remoteId job).app = cycle.find? fun r => r.ppid = c.pid ∧ r.pid ≠ c.pid ∧
      pidOf? remoteId ≠ some r.pid ∧ daemonOf job records ≠ some r := by
  refine slot_first (P := fun tree => Sound (pidOf? remoteId) (tag job) records tree ∧
      tree.startscript = some c) onward
    (fun _ _ _ offered => (offer_extends offered).app) ?refuses ?takes vacant ⟨sound, startscript⟩
  case refuses =>
    rintro before r turned member onward ⟨sound, startscript⟩ vacant refused
    by_contra fits
    obtain ⟨link, apart, stray, other⟩ : r.ppid = c.pid ∧ r.pid ≠ c.pid ∧ pidOf? remoteId ≠ some r.pid ∧
        daemonOf job records ≠ some r := by simpa using fits
    have stranger : before.holds r.pid = false := by
      refine holds_none_iff.mpr fun m inside same => ?_
      rcases mem_members.mp inside with taken | taken | taken | taken
      · exact daemon_stranger distinct ⟨turned, onward⟩ sound (listed r member) other taken same
      · exact stray (by rw [sound.sinit m taken, same])
      · rw [startscript, Option.some.injEq] at taken
        exact apart (by rw [taken, same])
      · simp [vacant] at taken
    exact (offer_refuses refused stranger).2.2.2 ⟨vacant, by simp [startscript, link]⟩
  case takes =>
    rintro before r after turned member onward ⟨sound, startscript⟩ vacant taken
    have kept := sound_offer sound (listed r member) taken
    have way : OnTheWay records remoteId job after := ⟨turned, onward⟩
    refine ⟨⟨kept, (offer_extends taken).startscript c startscript⟩, ?_⟩
    obtain ⟨fresh, took⟩ := offer_accepts taken
    cases took with
    | daemon => simp [daemon_known distinct way rfl, vacant]
    | sinit _ fits => simp [fits.2, vacant]
    | startscript _ _ fits => simp [FitsStartscript, startscript] at fits
    | app _ _ _ fits =>
      have link : c.pid = r.ppid := by simpa [FitsApp, startscript] using fits.2
      have apart : r.pid ≠ c.pid := fun same =>
        holds_none_iff.mp fresh c (mem_members.mpr (.inr (.inr (.inl startscript)))) same.symm
      simp [← link, apart, (kept.app r rfl).1, others_known distinct way (.inr (.inr rfl))]

end Slots

/-! ### The family -/

/-- From the moment at which the startscript is found the scan goes on with what follows it. -/
theorem startscript_taken (distinct : Distinct records)
    (child : (scanRecords records remoteId job).startscript = some c) :
    c ∈ records ∧ ∃ tree, Sound (pidOf? remoteId) (tag job) records tree ∧ tree.startscript = some c ∧
      tree.app = none ∧ Fills (offer (pidOf? remoteId) (tag job)) (following c records ++ [c]) tree
        (scanRecords records remoteId job) := by
  have fills (before : InstanceTree) (r : Record) (after : InstanceTree)
      (offered : offer (pidOf? remoteId) (tag job) before r = some after) (vacant : before.startscript = none) :
      after.startscript = none ∨ after.startscript = some r := by
    obtain ⟨_, took⟩ := offer_accepts offered
    cases took <;> simp [vacant]
  obtain ⟨member, before, after, sound, vacant, taken, filled, kept, onward⟩ :=
    slot_taken (P := Sound (pidOf? remoteId) (tag job) records) (scan_fills records remoteId job)
      (distinct_nodup distinct) (fun _ _ _ offered => (offer_extends offered).startscript) fills
      (fun _ _ _ member sound taken => sound_offer sound member taken) rfl sound_empty child
  refine ⟨member, after, kept, filled, ?_, onward⟩
  have idle := sound_idle sound vacant
  obtain ⟨_, took⟩ := offer_accepts taken
  cases took with
  | daemon | sinit | startscript => exact idle
  | app _ _ _ fits => simp [FitsApp, vacant] at fits

theorem startscript_found (distinct : Distinct records) :
    (scanRecords records remoteId job).startscript = startscriptOf job (pidOf? remoteId) records := by
  rw [startscript_first distinct, startscriptOf]
  refine List.find?_congr fun r listed => ?_
  by_cases taken : daemonOf job records = some r
  · simp [taken]
  · simp [taken, sinitOf_eq_iff distinct listed taken]

theorem app_found (distinct : Distinct records)
    (child : (scanRecords records remoteId job).startscript = some c) :
    (scanRecords records remoteId job).app = appOf job (pidOf? remoteId) c records := by
  obtain ⟨member, tree, sound, startscript, vacant, onward⟩ := startscript_taken distinct child
  rw [app_first distinct (fun r => (turned_perm member).mem_iff.mp) onward sound startscript vacant]
  refine find_following (distinct_nodup distinct) member (by simp) fun e listed other => ?_
  have apart : e.pid ≠ c.pid := fun same => other (same_record distinct listed member same)
  by_cases taken : daemonOf job records = some e
  · simp [taken]
  · simp [taken, apart, sinitOf_eq_iff distinct listed taken]

/-- The scan finds exactly the family that the listing shows. -/
theorem scan_family (distinct : Distinct records) (remoteId job : String) :
    scanRecords records remoteId job = family job (pidOf? remoteId) records := by
  have daemon := daemon_found distinct remoteId job
  have sinit : (scanRecords records remoteId job).sinit = sinitOf job (pidOf? remoteId) records :=
    sinit_first distinct
  have startscript : (scanRecords records remoteId job).startscript =
      startscriptOf job (pidOf? remoteId) records := startscript_found distinct
  have app : (scanRecords records remoteId job).app = (scanRecords records remoteId job).startscript.bind
      fun c => appOf job (pidOf? remoteId) c records := by
    cases child : (scanRecords records remoteId job).startscript with
    | none => exact sound_idle (scan_sound records remoteId job) child
    | some c => exact app_found distinct child
  dsimp only [family]
  rw [← startscript, ← app, ← daemon, ← sinit]

end RemoteJobs.Proofs.InstanceSlots
