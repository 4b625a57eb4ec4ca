import RemoteJobs.Proofs.InstanceDecisions
import RemoteJobs.Proofs.ListingEvidence

/-! What cleaning up after a `singularity instance start` job rests on. The instance is stopped where the scan
found some trace of it and no startscript, but a startscript is only ever looked for under the process that the
remote id names, and the daemon's slot may have taken it. So an instance can be stopped while processes of the
job are listed; the laws here say for which listings. -/
namespace RemoteJobs.Proofs.CleanUpDecisions
open Listing Monitor Singularity ScanPasses SessionRuns SingularityQueries InstanceFamily InstanceDecisions
  ListingEvidence

variable {σ : Type} {host : Host σ} {after : σ} {output : Output} {remoteId listing job : String}
  {named : Option Nat} {pid depth : Nat} {m : Monitor} {w : World σ} {all : List Record} {r : Record}

/-! ### Processes of a job -/

/-- The record's text ends with the job's tag. -/
def Tagged (job : String) (r : Record) : Prop :=
  (InstanceTree.tag job).isSuffixOf r.rest.toList = true

/-- The listing has the record as a child of the process. -/
def Child (all : List Record) (pid : Nat) (r : Record) : Prop :=
  r ∈ all ∧ r.ppid = pid ∧ r.pid ≠ pid

/-- The record is listed so many links below the process. -/
inductive Beneath (all : List Record) (pid : Nat) : Nat → Record → Prop where
  | child {r : Record} (link : Child all pid r) : Beneath all pid 1 r
  | deeper {depth : Nat} {parent r : Record} (above : Beneath all pid depth parent)
    (link : Child all parent.pid r) : Beneath all pid (depth + 1) r

/-- A process of the job itself: a child of the process that the remote id names, or whatever is two links or
more below a tagged one, which leaves out the daemon and its sinit. -/
def JobProcess (job : String) (all : List Record) (named : Option Nat) (r : Record) : Prop :=
  (∃ pid, named = some pid ∧ Child all pid r) ∨
    ∃ t ∈ all, Tagged job t ∧ ∃ depth, 2 ≤ depth ∧ Beneath all t.pid depth r

/-- The listing has a child of a child of the process. -/
def HasGrandchild (all : List Record) (pid : Nat) : Prop :=
  ∃ c, Child all pid c ∧ HasChild all c.pid

/-- A chain of two links or more begins with two. -/
theorem beneath_two (beneath : Beneath all pid depth r) (deep : 2 ≤ depth) : HasGrandchild all pid := by
  -- Lengthening a chain keeps its first two links, so only the chain of exactly two is looked at.
  induction beneath with
  | child => omega
  | @deeper depth parent r above link ih =>
    cases above with
    | child first => exact ⟨parent, first, r, link⟩
    | deeper higher _ =>
      refine ih ?_
      cases higher <;> omega

/-- The listing has a process of the job. -/
theorem occupied_iff :
    (∃ r, JobProcess job all named r) ↔
      (∃ pid, named = some pid ∧ HasChild all pid) ∨ ∃ t ∈ all, Tagged job t ∧ HasGrandchild all t.pid := by
  constructor
  · rintro ⟨r, ⟨pid, names, child⟩ | ⟨t, member, tagged, depth, deep, beneath⟩⟩
    · exact .inl ⟨pid, names, r, child⟩
    · exact .inr ⟨t, member, tagged, beneath_two beneath deep⟩
  · rintro (⟨pid, names, r, child⟩ | ⟨t, member, tagged, c, child, g, grandchild⟩)
    · exact ⟨r, .inl ⟨pid, names, child⟩⟩
    · exact ⟨g, .inr ⟨t, member, tagged, 2, Nat.le_refl 2, .deeper (.child child) grandchild⟩⟩

/-! ### Leftovers -/

/-- The listing shows the job's instance: a tagged record, or the process that the remote id names. -/
def Traced (job : String) (all : List Record) (named : Option Nat) : Prop :=
  (∃ t ∈ all, Tagged job t) ∨ ∃ pid, named = some pid ∧ Listed all pid

/-- The named process has no child but the one that is taken for the daemon. -/
def Unaccompanied (job : String) (all : List Record) (named : Option Nat) : Prop :=
  ∀ pid, named = some pid → ∀ r, Child all pid r → daemonOf job all = some r

theorem daemonOf_isSome_iff : (daemonOf job all).isSome = true ↔ ∃ t ∈ all, Tagged job t := by
  simp [daemonOf, Tagged]

theorem traced_iff (distinct : Distinct all) :
    ((InstanceTree.scanRecords all remoteId job).daemon.isSome = true ∨
      (InstanceTree.scanRecords all remoteId job).sinit.isSome = true) ↔
        Traced job all (pidOf? remoteId) := by
  rw [daemon_found distinct, daemonOf_isSome_iff, Traced]
  cases named : pidOf? remoteId with
  | none => simp [unnamed_finds_nothing named]
  | some pid =>
    rw [sinit_found_iff distinct named, listed_kin_iff distinct]
    constructor
    · rintro (tagged | ⟨listed, _⟩)
      · exact .inl tagged
      · exact .inr ⟨pid, rfl, listed⟩
    · rintro (tagged | ⟨_, same, listed⟩)
      · exact .inl tagged
      · cases same
        by_cases taken : ∃ t ∈ all, Tagged job t
        · exact .inl taken
        · refine .inr ⟨listed, fun d found => absurd ?_ taken⟩
          rw [← daemonOf_isSome_iff, found]
          rfl

theorem unaccompanied_iff (distinct : Distinct all) :
    (InstanceTree.scanRecords all remoteId job).startscript = none ↔
      Unaccompanied job all (pidOf? remoteId) := by
  rw [← Option.not_isSome_iff_eq_none]
  cases named : pidOf? remoteId with
  | none =>
    have empty : (InstanceTree.scanRecords all remoteId job).startscript.isSome ≠ true := by
      intro found
      obtain ⟨c, taken⟩ := Option.isSome_iff_exists.mp found
      have anchored := ((scan_sound all remoteId job).startscript c taken).1
      rw [named] at anchored
      cases anchored
    simp [Unaccompanied, empty]
  | some pid =>
    rw [startscript_found_iff distinct named, child_kin_iff]
    constructor
    · intro alone _ same r child
      cases same
      obtain ⟨member, link, other⟩ := child
      by_contra spare
      exact alone ⟨r, member, link, other, spare⟩
    · rintro alone ⟨r, member, link, other, spare⟩
      exact spare (alone pid rfl r ⟨member, link, other⟩)

/-- Without a startscript the scan has no application either, so that slot decides nothing. -/
theorem leftovers_iff {uuid : Uuid} (distinct : Distinct (records listing)) :
    hasLeftovers .start uuid remoteId listing = true ↔
      Traced uuid.text (records listing) (pidOf? remoteId) ∧
        Unaccompanied uuid.text (records listing) (pidOf? remoteId) := by
  rw [← traced_iff distinct, ← unaccompanied_iff distinct]
  have sound := scan_sound (records listing) remoteId uuid.text
  simp only [hasLeftovers, InstanceTree.scan, Bool.and_eq_true, Bool.or_eq_true, Option.isNone_iff_eq_none]
  constructor
  · rintro ⟨⟨traced, alone⟩, _⟩
    exact ⟨traced, alone⟩
  · rintro ⟨traced, alone⟩
    exact ⟨⟨traced, alone⟩, sound_idle sound alone⟩

/-! ### Cleaning up -/

/-- The listing that cleaning up works on. -/
structure Sighted (host : Host σ) (m : Monitor) (before : σ) (remoteId : String) (output : Output)
    (after : σ) : Prop where
  assigned : m.target.remoteId = some remoteId
  lists : Lists host m.target.system before output after

/-- Cleaning up stops the job's instance. -/
def Stops (host : Host σ) (m : Monitor) (w : World σ) : Prop :=
  Command.instanceStop m.target.uuid ∈ issued (m.cleanUp host) w

/-- The only child of the named process was taken for the daemon. -/
def Swallowed (job : String) (all : List Record) (named : Option Nat) : Prop :=
  ∃ pid d, named = some pid ∧ daemonOf job all = some d ∧ Child all pid d ∧ ∀ r, Child all pid r → r = d

/-- The named process, if there is any, has no child, and the job's processes hang below a tagged record. -/
def Stray (job : String) (all : List Record) (named : Option Nat) : Prop :=
  (∀ pid, named = some pid → ¬HasChild all pid) ∧ ∃ t ∈ all, Tagged job t ∧ HasGrandchild all t.pid

theorem stop_is_no_listing (uuid : Uuid) : Command.instanceStop uuid ≠ Command.processListing := by
  intro same
  exact listing_removes_nothing (.inl ⟨uuid, same.symm⟩)

theorem stops_iff (watched : m.strategy = .singularityStart)
    (sighted : Sighted host m w.host remoteId output after) :
    Stops host m w ↔ hasLeftovers .start m.target.uuid remoteId output.text = true := by
  have mode : m.strategy = watcher .start := watched
  rw [Stops, cleanUp_decides mode sighted.assigned sighted.lists]
  cases hasLeftovers .start m.target.uuid remoteId output.text with
  | false => simp [stop_is_no_listing]
  | true => simp [removal]

/-- Where processes of the job are listed, a stop is issued on the swallowed and the stray families. -/
theorem overlooked_iff :
    ((Traced job all named ∧ Unaccompanied job all named) ∧ ∃ r, JobProcess job all named r) ↔
      Swallowed job all named ∨ Stray job all named := by
  rw [occupied_iff]
  constructor
  · rintro ⟨⟨_, alone⟩, occupied⟩
    -- All children of the named process are the one daemon, so having one tells the two families apart.
    by_cases accompanied : ∃ pid, named = some pid ∧ HasChild all pid
    · obtain ⟨pid, names, d, child⟩ := accompanied
      have taken := alone pid names d child
      refine .inl ⟨pid, d, names, taken, child, fun r other => ?_⟩
      have again := alone pid names r other
      rw [taken, Option.some.injEq] at again
      exact again.symm
    · exact .inr ⟨fun pid names child => accompanied ⟨pid, names, child⟩,
        occupied.resolve_left accompanied⟩
  · rintro (⟨pid, d, rfl, taken, child, only⟩ | ⟨childless, t, member, tagged, grandchild⟩)
    · have tagged : ∃ t ∈ all, Tagged job t := daemonOf_isSome_iff.mp (by rw [taken]; rfl)
      refine ⟨⟨.inl tagged, ?_⟩, .inl ⟨pid, rfl, d, child⟩⟩
      intro _ same r other
      cases same
      rw [only r other]
      exact taken
    · refine ⟨⟨.inl ⟨t, member, tagged⟩, ?_⟩, .inr ⟨t, member, tagged, grandchild⟩⟩
      exact fun pid names r child => absurd ⟨r, child⟩ (childless pid names)

/-- Without a listing cleaning up does nothing but ask for one. -/
theorem unsighted_asks {before : σ}
    (unsighted : ∀ remoteId output after, ¬Sighted host m before remoteId output after) :
    ∃ dealings after, Yields (Singularity.cleanUp host .start m.target) before () dealings after ∧
      (commandsOf dealings = [] ∨ commandsOf dealings = [Command.processListing]) := by
  cases assigned : m.target.remoteId with
  | none => exact ⟨[], before, yields_cleanUp_unassigned assigned before, .inl rfl⟩
  | some remoteId =>
    have unlisted : ∀ output after, ¬Lists host m.target.system before output after :=
      fun output after lists => unsighted remoteId output after ⟨assigned, lists⟩
    obtain ⟨dealings, after, yields, fruitless⟩ := yields_cleanUp_unlisted assigned unlisted
    exact ⟨dealings, after, yields, fruitless_commands fruitless⟩

theorem stops_on_sight (watched : m.strategy = .singularityStart) (stops : Stops host m w) :
    ∃ remoteId output after, Sighted host m w.host remoteId output after := by
  by_contra blind
  have unsighted : ∀ remoteId output after, ¬Sighted host m w.host remoteId output after :=
    fun remoteId output after sighted => blind ⟨remoteId, output, after, sighted⟩
  obtain ⟨dealings, after, yields, asked⟩ := unsighted_asks unsighted
  have mode : m.strategy = watcher .start := watched
  rw [Stops, cleanUp_watched mode, issued_eq yields rfl] at stops
  rcases asked with nothing | listing
  · rw [nothing] at stops
    cases stops
  · rw [listing, List.mem_singleton] at stops
    exact stop_is_no_listing _ stops

/-- Cleaning up stops an instance only on a listing that shows a trace of it and no child of the named process
beside the daemon. This leaves processes of the job listed exactly where the only child of the named process
was taken for the daemon, or where it has no child and the job's processes hang below a tagged record. -/
theorem cleanUp_stops_live_instance_iff (watched : m.strategy = .singularityStart) :
    (Stops host m w → ∃ remoteId output after, Sighted host m w.host remoteId output after) ∧
    ∀ remoteId output after, Sighted host m w.host remoteId output after →
      Distinct (records output.text) →
      (Stops host m w ↔
        Traced m.target.uuid.text (records output.text) (pidOf? remoteId) ∧
          Unaccompanied m.target.uuid.text (records output.text) (pidOf? remoteId)) ∧
      (Stops host m w ∧
          (∃ r, JobProcess m.target.uuid.text (records output.text) (pidOf? remoteId) r) ↔
        Swallowed m.target.uuid.text (records output.text) (pidOf? remoteId) ∨
          Stray m.target.uuid.text (records output.text) (pidOf? remoteId)) := by
  refine ⟨stops_on_sight watched, fun remoteId output after sighted distinct => ?_⟩
  have law := (stops_iff watched sighted).trans (leftovers_iff distinct)
  exact ⟨law, by rw [law, overlooked_iff]⟩

/-- The daemon and sinit of an instance whose startscript has gone. -/
def idle : Output :=
  ⟨"4099 1 S instance [00000000-0000-0000-0000-000000000000]\n4100 4099 S sinit", 0⟩

theorem idle_records : records idle.text =
    [⟨4099, 1, "S instance [00000000-0000-0000-0000-000000000000]"⟩, ⟨4100, 4099, "S sinit"⟩] := by
  decide +kernel

theorem idle_instance_is_stopped :
    Stops Scripted.host (watching .singularityStart) { host := showing idle } ∧
      ¬∃ r, JobProcess Uuid.nil.text (records idle.text) (some 4100) r := by
  have named : pidOf? "4100" = some 4100 := by decide +kernel
  have distinct : Distinct (records idle.text) := by
    rw [idle_records]
    unfold Distinct
    decide
  have sighted : Sighted Scripted.host (watching .singularityStart) (showing idle) "4100" idle
      (showing idle).tick.tick := ⟨rfl, showing_lists _ _⟩
  obtain ⟨stops, live⟩ := (cleanUp_stops_live_instance_iff (w := { host := showing idle }) rfl).2
    _ _ _ sighted distinct
  rw [named] at stops live
  have childless : ¬HasChild (records idle.text) 4100 := by
    rw [idle_records]
    decide
  have traced : Traced Uuid.nil.text (records idle.text) (some 4100) := by
    refine .inr ⟨4100, rfl, ?_⟩
    rw [idle_records]
    decide
  have alone : Unaccompanied Uuid.nil.text (records idle.text) (some 4100) := by
    intro _ same r child
    cases same
    exact absurd ⟨r, child⟩ childless
  have stopped := stops.mpr ⟨traced, alone⟩
  refine ⟨stopped, fun occupied => ?_⟩
  have shallow : ∀ t ∈ records idle.text, ∀ c ∈ records idle.text, c.ppid = t.pid →
      ¬HasChild (records idle.text) c.pid := by
    rw [idle_records]
    decide
  rcases live.mp ⟨stopped, occupied⟩ with ⟨_, d, same, _, child, _⟩ | ⟨_, t, member, _, c, child, deeper⟩
  · cases same
    exact childless ⟨d, child⟩
  · exact shallow t member c child.1 child.2.1 deeper

/-- The daemon, sinit, the startscript and the application of an instance. -/
def busy : Output :=
  ⟨"4099 1 S instance [00000000-0000-0000-0000-000000000000]\n4100 4099 S sinit\n4200 4100 S script\n" ++
    "4300 4200 R app", 0⟩

theorem busy_records : records busy.text =
    [⟨4099, 1, "S instance [00000000-0000-0000-0000-000000000000]"⟩, ⟨4100, 4099, "S sinit"⟩,
      ⟨4200, 4100, "S script"⟩, ⟨4300, 4200, "R app"⟩] := by
  decide +kernel

/-- The monitor of a job that was given an id which is no process id. -/
def misnamed : Monitor :=
  { watching .singularityStart with
    target := { (watching .singularityStart).target with remoteId := some "job-17" } }

theorem misnamed_live_instance_is_stopped :
    Distinct (records busy.text) ∧ Stops Scripted.host misnamed { host := showing busy } ∧
      ∃ r, JobProcess Uuid.nil.text (records busy.text) (pidOf? "job-17") r := by
  have distinct : Distinct (records busy.text) := by
    rw [busy_records]
    unfold Distinct
    decide
  have named : pidOf? "job-17" = none := by decide +kernel
  have sighted : Sighted Scripted.host misnamed (showing busy) "job-17" busy (showing busy).tick.tick :=
    ⟨rfl, showing_lists _ _⟩
  have daemon : ∃ t ∈ records busy.text, Tagged Uuid.nil.text t ∧
      HasGrandchild (records busy.text) t.pid := by
    rw [busy_records]
    refine ⟨_, List.mem_cons_self, by unfold Tagged; decide +kernel, ⟨4100, 4099, "S sinit"⟩, ?_, ?_⟩
    · unfold Child
      decide
    · decide
  have left : hasLeftovers .start misnamed.target.uuid "job-17" busy.text = true :=
    (leftovers_iff distinct).mpr (overlooked_iff.mpr
      (.inr ⟨by simp [named], daemon⟩)).1
  exact ⟨distinct, (stops_iff rfl sighted).mpr left, occupied_iff.mpr (.inr daemon)⟩

end RemoteJobs.Proofs.CleanUpDecisions
