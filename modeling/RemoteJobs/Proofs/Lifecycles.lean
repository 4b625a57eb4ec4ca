import Mathlib.Data.List.Destutter
import RemoteJobs.Proofs.StatusWalks

/-! Runs of events on a job record. What a run makes of the record is what its single events make of it: a
refused or repeated event is as good as none, and a job that has ended stays as it is. So the statuses that a run
visits form a path along the edges of the strict table, and without the side states such a path from PENDING is
the lifecycle itself, up to some stage, left by at most one failure or cancellation. -/
namespace RemoteJobs.Proofs.Lifecycles
open StatusWalks

/-! ### Runs -/

/-- An event asked of a job record. -/
structure Event where
  target : Status
  message : String
  now : Timestamp

/-- One event of a run: the record that it met, what became of it and the record that it left. -/
structure Passage where
  event : Event
  before : Job
  answer : Except JobError Fired
  after : Job

/-- The events of a run, each asked of the record that the one before it left. -/
def course : Job → List Event → List Passage
  | _, [] => []
  | job, event :: later =>
    let (answer, after) := job.transition event.now event.target event.message
    ⟨event, job, answer, after⟩ :: course after later

/-- The record at first and after every event. -/
def records (job : Job) (events : List Event) : List Job :=
  job :: (course job events).map Passage.after

/-- The statuses that a run goes through, each named once for as long as it lasts. -/
def visited (job : Job) (events : List Event) : List Status :=
  ((records job events).map Job.status).destutter (· ≠ ·)

/-- The same events asked of a bare status: the effect of each, and the status after it. -/
def machine (strictness : Strictness) : Status → List Status → List (Except TransitionError Fired × Status)
  | _, [] => []
  | current, event :: later =>
    let fired := strictness.fire current event
    fired :: machine strictness fired.2 later

/-- A refusal as a lenient machine reports it. -/
def tolerated : Except JobError Fired → Except TransitionError Fired
  | .ok fired => .ok fired
  | .error _ => .ok .ignored

variable {job : Job} {event : Event} {later : List Event}

/-- The record after an event. -/
def left (job : Job) (event : Event) : Job :=
  (job.transition event.now event.target event.message).2

@[simp] theorem course_cons (job : Job) (event : Event) (later : List Event) :
    course job (event :: later) =
      ⟨event, job, (job.transition event.now event.target event.message).1, left job event⟩ ::
        course (left job event) later := rfl

@[simp] theorem records_cons (job : Job) (event : Event) (later : List Event) :
    records job (event :: later) = job :: records (left job event) later := rfl

/-! ### One event -/

/-- What one event may make of a record. -/
structure Lawful (passage : Passage) : Prop where
  refused : ∀ e, passage.answer = .error e → passage.after = passage.before
  repeated : passage.answer = .ok .unchanged → passage.after = passage.before
  moved : ∀ source target, passage.answer = .ok (.moved source target) →
    source = passage.before.status ∧ target = passage.event.target ∧
      passage.after = { passage.before with
        status := passage.event.target, lastMessage := some passage.event.message,
        lastUpdated := passage.event.now }
  settled : passage.before.isTerminal = true → passage.after = passage.before

theorem left_terminal (terminal : job.isTerminal = true) (event : Event) : left job event = job := by
  have illegal : job.status.canBecome event.target = false := by
    have ended : job.status.isTerminal = true := terminal
    simp [Status.canBecome, ended]
  rw [left, transition_refused _ _ _ _ illegal]

theorem lawful_passage (job : Job) (event : Event) :
    Lawful ⟨event, job, (job.transition event.now event.target event.message).1, left job event⟩ := by
  have settled : job.isTerminal = true → left job event = job := fun terminal =>
    left_terminal terminal event
  unfold left at settled ⊢
  obtain ⟨_, moves⟩ | ⟨_, repeats⟩ | ⟨_, refuses⟩ :=
    transition_cases event.now event.target event.message job
  · rw [moves] at settled ⊢
    refine ⟨by simp, by simp, ?_, settled⟩
    intro source target same
    cases same
    exact ⟨rfl, rfl, rfl⟩
  · rw [repeats]
    exact ⟨by simp, by simp, by simp, by simp⟩
  · rw [refuses]
    exact ⟨by simp, by simp, by simp, by simp⟩

/-- An event moves the record along an edge of the strict table or leaves it as it was. -/
theorem left_cases (job : Job) (event : Event) :
    (left job event).status ∈ job.status.targets ∨ left job event = job := by
  unfold left
  obtain ⟨edge, moves⟩ | ⟨_, repeats⟩ | ⟨_, refuses⟩ :=
    transition_cases event.now event.target event.message job
  · rw [moves]
    exact .inl edge
  · rw [repeats]
    exact .inr rfl
  · rw [refuses]
    exact .inr rfl

/-- A lenient machine answers and moves as the strict record does, but for the refusals. -/
theorem fire_tolerated (job : Job) (event : Event) :
    Strictness.lenient.fire job.status event.target =
      (tolerated (job.transition event.now event.target event.message).1, (left job event).status) := by
  unfold left
  cases legal : job.status.canBecome event.target with
  | false => simp [Strictness.fire, legal, tolerated]
  | true =>
    obtain ⟨active, same | edge⟩ := canBecome_iff.mp legal
    · rw [transition_repeats _ _ _ _ active same]
      simp only [Strictness.fire, legal, if_pos same, tolerated]
      rfl
    · rw [transition_moves _ _ _ _ edge]
      simp [Strictness.fire, legal, edge_leaves edge, tolerated]

/-! ### Whole runs -/

theorem course_lawful (job : Job) (events : List Event) : ∀ passage ∈ course job events, Lawful passage := by
  induction events generalizing job with
  | nil => simp [course]
  | cons event later ih =>
    intro passage member
    rw [course_cons] at member
    rcases List.mem_cons.mp member with rfl | member
    · exact lawful_passage job event
    · exact ih _ passage member

theorem records_terminal (terminal : job.isTerminal = true) (events : List Event) :
    ∀ record ∈ records job events, record = job := by
  induction events with
  | nil => simp [records, course]
  | cons event later ih =>
    intro record member
    rw [records_cons, left_terminal terminal event] at member
    rcases List.mem_cons.mp member with rfl | member
    · rfl
    · exact ih record member

/-- Once a record is terminal, every later one is the same record. -/
theorem records_settle (job : Job) (events : List Event) :
    (records job events).Pairwise fun earlier later => earlier.isTerminal = true → later = earlier := by
  induction events generalizing job with
  | nil => simp [records, course]
  | cons event later ih =>
    rw [records_cons]
    apply List.pairwise_cons.mpr
    refine ⟨?_, ih _⟩
    intro record member terminal
    apply records_terminal terminal (event :: later)
    rw [records_cons]
    exact List.mem_cons_of_mem _ member

theorem machine_tolerates (job : Job) (events : List Event) :
    machine .lenient job.status (events.map Event.target) =
      (course job events).map fun passage => (tolerated passage.answer, passage.after.status) := by
  induction events generalizing job with
  | nil => rfl
  | cons event later ih =>
    simp only [List.map_cons, machine, course_cons]
    rw [fire_tolerated, ih]

/-! ### Visited statuses -/

/-- One event of the strict table leads from the first status to the second. -/
def Edge (source target : Status) : Prop :=
  target ∈ source.targets

theorem visited_nil (job : Job) : visited job [] = [job.status] := rfl

theorem visited_moved (edge : (left job event).status ∈ job.status.targets) (later : List Event) :
    visited job (event :: later) = job.status :: visited (left job event) later := by
  unfold visited
  rw [records_cons]
  simp only [records, List.map_cons, List.destutter_cons']
  exact List.destutter'_cons_pos _ (edge_leaves edge)

theorem visited_idle (idle : left job event = job) (later : List Event) :
    visited job (event :: later) = visited job later := by
  unfold visited
  rw [records_cons, idle]
  simp only [records, List.map_cons, List.destutter_cons']
  exact List.destutter'_cons_neg _ (by simp)

/-- A run begins where the record is and goes on along edges of the strict table. -/
theorem visited_edges (job : Job) (events : List Event) :
    ∃ onward, visited job events = job.status :: onward ∧ (job.status :: onward).IsChain Edge := by
  induction events generalizing job with
  | nil => exact ⟨[], visited_nil job, List.isChain_singleton _⟩
  | cons event later ih =>
    rcases left_cases job event with edge | idle
    · obtain ⟨onward, path, chain⟩ := ih (left job event)
      refine ⟨(left job event).status :: onward, ?_, List.isChain_cons_cons.mpr ⟨edge, chain⟩⟩
      rw [visited_moved edge, path]
    · rw [visited_idle idle]
      exact ih job

/-! ### The lifecycle -/

/-- The stages of a job that is not interrupted. Only a batch job is QUEUED on its way. -/
def stages (queued : Bool) : List Status :=
  [.pending, .processingInputs, .stagingInputs, .stagingJob, .submittingJob] ++
    (if queued then [.queued] else []) ++ [.running, .archiving, .finished]

/-- The stages from one of them on. -/
def ahead (queued : Bool) (s : Status) : List Status :=
  (stages queued).dropWhile (· ≠ s)

/-- What may follow the stages that a job has reached: nothing, or the one event that cut its life short. -/
inductive Ending (reached : List Status) : List Status → Prop where
  | none : Ending reached []
  | failed (early : .finished ∉ reached) : Ending reached [.failed]
  | cancelled (early : .finished ∉ reached) : Ending reached [.cancelled]

/-- The statuses are the stages of a lifecycle from PENDING up to some stage, in order and without a gap, and
then at most one failure or cancellation. -/
def Orderly (statuses : List Status) : Prop :=
  ∃ queued reached ending, statuses = reached ++ ending ∧ reached ≠ [] ∧ reached <+: stages queued ∧
    Ending reached ending

/-- Neither held for an operator nor paused. -/
def Plain (s : Status) : Prop :=
  s ≠ .blocked ∧ s ≠ .paused

/-- Every edge out of a stage leads to a stage, to a side state, or out of an unfinished life. -/
theorem edge_cases : ∀ s ∈ stages true, ∀ t ∈ s.targets,
    t ∈ stages true ∨ t = .blocked ∨ t = .paused ∨ t = .failed ∨ t = .cancelled := by
  decide

/-- An edge between stages leads to the next one; whether QUEUED is among those ahead, the stages from the
second one on decide. -/
theorem edge_proceeds : ∀ s ∈ stages true, ∀ t ∈ s.targets, ∀ queued, t ∈ stages queued →
    ∃ longer, ahead longer s = s :: ahead queued t := by
  decide

theorem ahead_begins : ∀ s ∈ stages true, ∃ queued, [s] <+: ahead queued s := by
  decide

theorem unfinished_of_edge {s t : Status} (edge : t ∈ s.targets) : s ≠ .finished := by
  rintro rfl
  cases edge

/-- A path without side states walks the stages one by one from where it begins. Induction on the path. -/
theorem path_proceeds {s : Status} {path : List Status} (stage : s ∈ stages true)
    (chain : (s :: path).IsChain Edge) (plain : ∀ t ∈ path, Plain t) :
    ∃ queued reached ending, path = reached ++ ending ∧ s :: reached <+: ahead queued s ∧
      Ending (s :: reached) ending := by
  induction path generalizing s with
  | nil =>
    obtain ⟨queued, begins⟩ := ahead_begins s stage
    exact ⟨queued, [], [], rfl, begins, .none⟩
  | cons t path ih =>
    obtain ⟨edge, onward⟩ := List.isChain_cons_cons.mp chain
    have unfinished := unfinished_of_edge edge
    have plainHere := plain t List.mem_cons_self
    -- A status without edges ends the path.
    have last (terminal : t.targets = []) : path = [] := by
      cases path with
      | nil => rfl
      | cons u path =>
        have further : u ∈ t.targets := (List.isChain_cons_cons.mp onward).1
        rw [terminal] at further
        cases further
    obtain ⟨queued, begins⟩ := ahead_begins s stage
    have cut : .finished ∉ [s] := by simpa using unfinished.symm
    rcases edge_cases s stage t edge with next | rfl | rfl | rfl | rfl
    · obtain ⟨queued, reached, ending, rfl, walked, ended⟩ :=
        ih next onward fun u member => plain u (List.mem_cons_of_mem _ member)
      have among : t ∈ stages queued := by
        have member : t ∈ ahead queued t := walked.subset List.mem_cons_self
        exact (List.dropWhile_sublist _).subset member
      obtain ⟨longer, joined⟩ := edge_proceeds s stage t edge queued among
      refine ⟨longer, t :: reached, ending, rfl, ?_, ?_⟩
      · rw [joined]
        exact List.cons_prefix_cons.mpr ⟨rfl, walked⟩
      · have earlier : .finished ∉ t :: reached → .finished ∉ s :: t :: reached := by
          intro early member
          rcases List.mem_cons.mp member with here | member
          · exact unfinished here.symm
          · exact early member
        cases ended with
        | none => exact .none
        | failed early => exact .failed (earlier early)
        | cancelled early => exact .cancelled (earlier early)
    · exact absurd rfl plainHere.1
    · exact absurd rfl plainHere.2
    · exact ⟨queued, [], [.failed], by rw [last rfl]; rfl, begins, .failed cut⟩
    · exact ⟨queued, [], [.cancelled], by rw [last rfl]; rfl, begins, .cancelled cut⟩

theorem visited_orderly (pending : job.status = .pending) (events : List Event)
    (plain : ∀ s ∈ visited job events, Plain s) : Orderly (visited job events) := by
  obtain ⟨onward, path, chain⟩ := visited_edges job events
  rw [path, pending] at plain ⊢
  rw [pending] at chain
  obtain ⟨queued, reached, ending, rfl, walked, ended⟩ :=
    path_proceeds (by decide) chain fun s member => plain s (List.mem_cons_of_mem _ member)
  have whole : ahead queued .pending = stages queued := rfl
  rw [whole] at walked
  exact ⟨queued, .pending :: reached, ending, rfl, by simp, walked, ended⟩

/-- Whatever events a pending job is put through: each does to the record what the strict table allows, and
nothing where it is refused or repeated; once the job has ended its record stays the same; unless the job is
BLOCKED or PAUSED on the way it goes through the stages of its life in order, without leaving one out, up to
where it stands or is cut short; and a lenient machine goes through the same statuses, ignoring what the record
refuses. -/
theorem lifecycle_is_walked_in_order (pending : job.status = .pending) (events : List Event) :
    (∀ passage ∈ course job events, Lawful passage) ∧
    ((records job events).Pairwise fun earlier later => earlier.isTerminal = true → later = earlier) ∧
    ((∀ s ∈ visited job events, s ≠ .blocked ∧ s ≠ .paused) → Orderly (visited job events)) ∧
    machine .lenient .pending (events.map Event.target) =
      (course job events).map fun passage => (tolerated passage.answer, passage.after.status) := by
  refine ⟨course_lawful job events, records_settle job events, visited_orderly pending events, ?_⟩
  rw [← pending]
  exact machine_tolerates job events

/-- Events that repeat a status, leave stages out, turn back, and go on after the end. -/
def hurried : List Event :=
  [.processingInputs, .processingInputs, .running, .stagingInputs, .stagingJob, .submittingJob, .archiving,
    .running, .queued, .archiving, .cancelled, .cancelled, .finished].map fun target => ⟨target, "next", ⟨1, 0⟩⟩

/-- A launched job as it is first recorded. -/
def fresh : Job :=
  .initial .nil ⟨0, 0⟩ .fork "cluster" "/out"

theorem hurried_job_is_cancelled_while_archiving :
    fresh.status = .pending ∧
      visited fresh hurried =
        [.pending, .processingInputs, .stagingInputs, .stagingJob, .submittingJob, .running, .archiving,
          .cancelled] ∧
      Orderly (visited fresh hurried) ∧ ∀ passage ∈ course fresh hurried, Lawful passage := by
  have pending : fresh.status = .pending := rfl
  have way : visited fresh hurried =
      [.pending, .processingInputs, .stagingInputs, .stagingJob, .submittingJob, .running, .archiving,
        .cancelled] := by
    decide
  obtain ⟨lawful, _, orderly, _⟩ := lifecycle_is_walked_in_order pending hurried
  refine ⟨pending, way, orderly ?_, lawful⟩
  rw [way]
  decide

end RemoteJobs.Proofs.Lifecycles
