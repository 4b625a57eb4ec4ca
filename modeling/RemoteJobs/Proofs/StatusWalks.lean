import RemoteJobs.Job

/-! What one event does to a job record, and where a sequence of events leads. The strict table is the only
source of moves: a record whose event is refused or repeated is the same record afterwards. -/
namespace RemoteJobs.Proofs.StatusWalks

theorem canBecome_iff {source target : Status} :
    source.canBecome target = true ↔
      source.isTerminal = false ∧ (source = target ∨ target ∈ source.targets) := by
  simp [Status.canBecome]

/-- A terminal status has no edges, so an edge leads out of an active one. -/
theorem active_of_edge {source target : Status} (edge : target ∈ source.targets) :
    source.isTerminal = false := by
  cases source <;> first | rfl | cases edge

/-- No edge leads back to where it began; the table has no loops. -/
theorem edge_leaves {source target : Status} (edge : target ∈ source.targets) : source ≠ target := by
  rintro rfl
  revert edge
  cases source <;> decide

/-- Every active status can fail. -/
theorem failed_edge {source : Status} (active : source.isTerminal = false) :
    .failed ∈ source.targets := by
  cases source <;> first | decide | cases active

/-- Every active status can be cancelled. -/
theorem cancelled_edge {source : Status} (active : source.isTerminal = false) :
    .cancelled ∈ source.targets := by
  cases source <;> first | decide | cases active

section Transition
variable (now : Timestamp) (target : Status) (message : String) (job : Job)

theorem transition_moves (edge : target ∈ job.status.targets) :
    job.transition now target message =
      (.ok (.moved job.status target),
        { job with status := target, lastUpdated := now, lastMessage := some message }) := by
  have legal : job.status.canBecome target = true :=
    canBecome_iff.mpr ⟨active_of_edge edge, .inr edge⟩
  simp [Job.transition, Strictness.fire, legal, edge_leaves edge]

theorem transition_repeats (active : job.status.isTerminal = false) (same : job.status = target) :
    job.transition now target message = (.ok .unchanged, job) := by
  subst same
  have legal : job.status.canBecome job.status = true := canBecome_iff.mpr ⟨active, .inl rfl⟩
  simp [Job.transition, Strictness.fire, legal]

@[simp] theorem transition_refused (illegal : job.status.canBecome target = false) :
    job.transition now target message =
      (.error (.transition job.uuid (.undefined job.status target)), job) := by
  simp [Job.transition, Strictness.fire, illegal]

/-- An event either follows an edge of the strict table, repeats the present status, or is refused. -/
theorem transition_cases :
    (target ∈ job.status.targets ∧
      job.transition now target message =
        (.ok (.moved job.status target),
          { job with status := target, lastUpdated := now, lastMessage := some message })) ∨
    (job.status = target ∧ job.transition now target message = (.ok .unchanged, job)) ∨
    (job.status.canBecome target = false ∧
      job.transition now target message =
        (.error (.transition job.uuid (.undefined job.status target)), job)) := by
  cases legal : job.status.canBecome target with
  | false => exact .inr (.inr ⟨rfl, transition_refused now target message job legal⟩)
  | true =>
    obtain ⟨active, same | edge⟩ := canBecome_iff.mp legal
    · exact .inr (.inl ⟨same, transition_repeats now target message job active same⟩)
    · exact .inl ⟨edge, transition_moves now target message job edge⟩

variable {now target message job}

/-- An accepted event leaves the record in the status that it names. -/
theorem transition_accepted {fired : Fired}
    (accepted : (job.transition now target message).1 = .ok fired) :
    (job.transition now target message).2.status = target := by
  obtain ⟨_, moved⟩ | ⟨same, repeated⟩ | ⟨_, refused⟩ := transition_cases now target message job
  · rw [moved]
  · rw [repeated, same]
  · rw [refused] at accepted
    cases accepted

/-- A refused event leaves the whole record as it was. -/
theorem transition_rejected {e : JobError}
    (rejected : (job.transition now target message).1 = .error e) :
    (job.transition now target message).2 = job := by
  obtain ⟨_, moved⟩ | ⟨_, repeated⟩ | ⟨_, refused⟩ := transition_cases now target message job
  · rw [moved] at rejected
    cases rejected
  · rw [repeated]
  · rw [refused]

end Transition

/-! ### Sequences of events -/

/-- The way of a status through what became of a sequence of events. Every change on it is an edge of the
strict table, and each begins where the one before it ended. -/
inductive Walk : Status → List (Except JobError Fired) → Status → Prop where
  | rest (s : Status) : Walk s [] s
  | moved {s t u : Status} {later} (edge : t ∈ s.targets) (onward : Walk t later u) :
    Walk s (.ok (.moved s t) :: later) u
  | unchanged {s u : Status} {later} (onward : Walk s later u) : Walk s (.ok .unchanged :: later) u
  | refused {s u : Status} {later} {e : JobError} (onward : Walk s later u) : Walk s (.error e :: later) u

theorem walk_append {s t u : Status} {first second : List (Except JobError Fired)}
    (begun : Walk s first t) (onward : Walk t second u) : Walk s (first ++ second) u := by
  induction begun with
  | rest => exact onward
  | moved edge _ ih => exact .moved edge (ih onward)
  | unchanged _ ih => exact .unchanged (ih onward)
  | refused _ ih => exact .refused (ih onward)

theorem walk_transition (now : Timestamp) (target : Status) (message : String) (job : Job) :
    Walk job.status [(job.transition now target message).1]
      (job.transition now target message).2.status := by
  obtain ⟨edge, moved⟩ | ⟨_, repeated⟩ | ⟨_, refused⟩ := transition_cases now target message job
  · rw [moved]
    exact .moved edge (.rest _)
  · rw [repeated]
    exact .unchanged (.rest _)
  · rw [refused]
    exact .refused (.rest _)

/-- No event of the sequence was refused. -/
def Unrefused (events : List (Except JobError Fired)) : Prop :=
  ∀ e, .error e ∉ events

theorem unrefused_append {first second : List (Except JobError Fired)} (begun : Unrefused first)
    (onward : Unrefused second) : Unrefused (first ++ second) := by
  intro e member
  rcases List.mem_append.mp member with member | member
  · exact begun e member
  · exact onward e member

theorem unrefused_ok (fired : Fired) : Unrefused [.ok fired] := by
  simp [Unrefused]

/-! ### The record around its status -/

/-- The later record differs at most in its status and in the message and the time of its latest move. -/
def SameButStatus (job later : Job) : Prop :=
  later = { job with
    status := later.status, lastMessage := later.lastMessage, lastUpdated := later.lastUpdated }

theorem same_refl (job : Job) : SameButStatus job job := rfl

theorem same_trans {first second third : Job} (begun : SameButStatus first second)
    (onward : SameButStatus second third) : SameButStatus first third := by
  unfold SameButStatus at *
  rw [begun] at onward
  exact onward

theorem same_outcome {job later : Job} (same : SameButStatus job later) :
    later.remoteOutcome = job.remoteOutcome := by
  rw [same]

theorem same_info {job later : Job} (same : SameButStatus job later) :
    later.remoteResultInfo = job.remoteResultInfo := by
  rw [same]

theorem same_transition (now : Timestamp) (target : Status) (message : String) (job : Job) :
    SameButStatus job (job.transition now target message).2 := by
  obtain ⟨_, moved⟩ | ⟨_, repeated⟩ | ⟨_, refused⟩ := transition_cases now target message job
  · rw [moved]
    rfl
  · rw [repeated]
    rfl
  · rw [refused]
    rfl

end RemoteJobs.Proofs.StatusWalks
