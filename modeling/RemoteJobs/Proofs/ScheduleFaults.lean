import RemoteJobs.Poll.Schedule

/-! What is wrong with a schedule. A step is checked against the end of the one before it alone, which settles how
it stands to all the others, since the ends of the steps so far increase. A schedule passes exactly where its caps
leave room for a poll and its steps can be followed in turn. Where only the steps are at fault, the first one that
cannot come after those before it is blamed. -/
namespace RemoteJobs.Proofs.ScheduleFaults
open Poll Schedule

variable {steps rest : List Step} {step : Step} {fault : ScheduleError} {index ended i : Nat}

/-! ### Orderly steps -/

/-- The steps can be followed in turn: each waits and lasts, and each ends later than every one before it. -/
structure Orderly (steps : List Step) : Prop where
  waits : ∀ step ∈ steps, 0 < step.intervalSeconds
  lasts : ∀ step ∈ steps, 0 < step.untilSeconds
  increasing : steps.Pairwise fun step later => step.untilSeconds < later.untilSeconds

/-- A step can come after the earlier ones: it waits and lasts, and ends later than all of them. -/
structure Follows (earlier : List Step) (step : Step) : Prop where
  waits : 0 < step.intervalSeconds
  lasts : 0 < step.untilSeconds
  later : ∀ other ∈ earlier, other.untilSeconds < step.untilSeconds

theorem orderly_last (orderly : Orderly (steps ++ [step])) : Follows steps step := by
  obtain ⟨waits, lasts, increasing⟩ := orderly
  have member : step ∈ steps ++ [step] := List.mem_append_right steps (List.mem_singleton_self step)
  obtain ⟨_, _, across⟩ := List.pairwise_append.mp increasing
  exact ⟨waits step member, lasts step member, fun other earlier =>
    across other earlier step (List.mem_singleton_self step)⟩

theorem orderly_take (orderly : Orderly steps) (i : Nat) : Orderly (steps.take i) where
  waits step member := orderly.waits step (List.mem_of_mem_take member)
  lasts step member := orderly.lasts step (List.mem_of_mem_take member)
  increasing := orderly.increasing.sublist (List.take_sublist i steps)

/-- Each of the steps can come after those before it. -/
theorem orderly_follows (orderly : Orderly steps) (there : steps[i]? = some step) :
    Follows (steps.take i) step := by
  have upTo := orderly_take orderly (i + 1)
  rw [List.take_add_one, there] at upTo
  exact orderly_last upTo

/-- Steps are orderly where all of them wait and their ends, with zero put in front, increase. -/
theorem orderly_iff :
    Orderly steps ↔ (∀ step ∈ steps, 0 < step.intervalSeconds) ∧
      (0 :: steps.map Step.untilSeconds).Pairwise (· < ·) := by
  rw [List.pairwise_cons, List.pairwise_map, List.forall_mem_map]
  exact ⟨fun ⟨waits, lasts, increasing⟩ => ⟨waits, lasts, increasing⟩,
    fun ⟨waits, lasts, increasing⟩ => ⟨waits, lasts, increasing⟩⟩

/-! ### The check of one step -/

/-- What a step is blamed for at its place, given where the one before it ends. That it does not wait comes before
that it ends too early. -/
inductive Blamed (index ended : Nat) (step : Step) : ScheduleError → Prop where
  | idle (still : step.intervalSeconds = 0) : Blamed index ended step (.zeroInterval index)
  | early (waits : 0 < step.intervalSeconds) (passed : step.untilSeconds ≤ ended) :
    Blamed index ended step (.stepsNotIncreasing index step.untilSeconds ended)

theorem passes_or_blamed (index ended : Nat) (step : Step) :
    (0 < step.intervalSeconds ∧ ended < step.untilSeconds) ∨ ∃ fault, Blamed index ended step fault := by
  by_cases still : step.intervalSeconds = 0
  · exact .inr ⟨_, .idle still⟩
  · have waits := Nat.pos_of_ne_zero still
    by_cases passed : step.untilSeconds ≤ ended
    · exact .inr ⟨_, .early waits passed⟩
    · exact .inl ⟨waits, Nat.lt_of_not_le passed⟩

theorem stepFault_passes (waits : 0 < step.intervalSeconds) (lasts : ended < step.untilSeconds) :
    stepFault? index ended (step :: rest) = stepFault? (index + 1) step.untilSeconds rest := by
  rw [stepFault?, if_neg (Nat.pos_iff_ne_zero.mp waits), if_neg (Nat.not_le.mpr lasts)]

theorem stepFault_stops (blamed : Blamed index ended step fault) :
    stepFault? index ended (step :: rest) = some fault := by
  cases blamed with
  | idle still => rw [stepFault?, if_pos still]
  | early waits passed => rw [stepFault?, if_neg (Nat.pos_iff_ne_zero.mp waits), if_pos passed]

/-! ### Schedules without faults -/

/-- The steps have no fault where each has an interval and ends later than the ones before. -/
theorem stepFault_none_iff (index previous : Nat) (steps : List Step) :
    stepFault? index previous steps = none ↔
      (∀ step ∈ steps, 0 < step.intervalSeconds) ∧
        (previous :: steps.map Step.untilSeconds).Pairwise (· < ·) := by
  induction steps generalizing index previous with
  | nil => simp [stepFault?]
  | cons step rest ih =>
    rw [List.forall_mem_cons, List.map_cons, List.pairwise_cons, List.forall_mem_cons]
    obtain ⟨waits, lasts⟩ | ⟨fault, blamed⟩ := passes_or_blamed index previous step
    · rw [stepFault_passes waits lasts, ih]
      constructor
      · rintro ⟨positive, increasing⟩
        refine ⟨⟨waits, positive⟩, ⟨lasts, ?_⟩, increasing⟩
        intro later member
        -- All later steps end after this one, and this one after the one before it.
        exact Nat.lt_trans lasts ((List.pairwise_cons.mp increasing).1 later member)
      · rintro ⟨⟨_, positive⟩, _, increasing⟩
        exact ⟨positive, increasing⟩
    · rw [stepFault_stops blamed]
      simp only [reduceCtorEq, false_iff]
      rintro ⟨⟨waits, _⟩, ⟨lasts, _⟩, _⟩
      cases blamed with
      | idle still => omega
      | early _ passed => omega

theorem stepFault_none_orderly (index : Nat) (steps : List Step) :
    stepFault? index 0 steps = none ↔ Orderly steps :=
  (stepFault_none_iff index 0 steps).trans orderly_iff.symm

theorem fault_none_iff (schedule : Schedule) :
    schedule.fault? = none ↔ 0 < schedule.maxElapsedSeconds ∧ schedule.maxAttempts ≠ some 0 ∧
      schedule.steps ≠ [] ∧ Orderly schedule.steps := by
  unfold fault?
  rw [Nat.pos_iff_ne_zero]
  split
  · simp_all
  · split
    · simp_all
    · split
      · simp_all
      · rw [stepFault_none_orderly]
        simp_all

/-! ### The step that is blamed -/

/-- The step at the place is the first one that cannot come after those before it. -/
structure FirstMisfit (steps : List Step) (i : Nat) (step : Step) : Prop where
  there : steps[i]? = some step
  misfit : ¬Follows (steps.take i) step
  before : Orderly (steps.take i)
  least : ∀ j other, steps[j]? = some other → ¬Follows (steps.take j) other → i ≤ j

theorem firstMisfit_of_orderly (there : steps[i]? = some step) (misfit : ¬Follows (steps.take i) step)
    (before : Orderly (steps.take i)) : FirstMisfit steps i step := by
  refine ⟨there, misfit, before, ?_⟩
  intro j other found stray
  apply Nat.le_of_not_lt
  intro sooner
  have follows : Follows ((steps.take i).take j) other :=
    orderly_follows before (by rw [List.getElem?_take_of_lt sooner, found])
  rw [List.take_take, Nat.min_eq_left (Nat.le_of_lt sooner)] at follows
  exact stray follows

/-- A step that does not pass beside the one before it cannot come after all of them. -/
theorem blamed_misfit (ends : (0 :: steps.map Step.untilSeconds)[i]? = some ended)
    (blamed : Blamed index ended step fault) : ¬Follows (steps.take i) step := by
  rintro ⟨waits, lasts, later⟩
  cases blamed with
  | idle still => omega
  | early _ passed =>
    cases i with
    | zero =>
      cases ends
      omega
    | succ i =>
      rw [List.getElem?_cons_succ, List.getElem?_map, Option.map_eq_some_iff] at ends
      obtain ⟨last, found, rfl⟩ := ends
      -- The step just before is one of those it would have to come after.
      have member : last ∈ steps.take (i + 1) :=
        List.mem_of_getElem? (by rw [List.getElem?_take_of_lt (Nat.lt_succ_self i), found])
      have exceeds := later last member
      omega

/-- The check reports what the step at some place is blamed for, and finds no fault before it. Induction on the
steps, for any end of the one before them. -/
theorem stepFault_some_iff (index previous : Nat) (steps : List Step) :
    stepFault? index previous steps = some fault ↔
      ∃ i step ended, steps[i]? = some step ∧ (previous :: steps.map Step.untilSeconds)[i]? = some ended ∧
        stepFault? index previous (steps.take i) = none ∧ Blamed (index + i) ended step fault := by
  induction steps generalizing index previous with
  | nil => simp [stepFault?]
  | cons first rest ih =>
    constructor
    · intro reported
      obtain ⟨waits, lasts⟩ | ⟨other, blamed⟩ := passes_or_blamed index previous first
      · rw [stepFault_passes waits lasts] at reported
        obtain ⟨i, step, ended, there, ends, before, blamed⟩ := (ih _ _).mp reported
        rw [Nat.add_right_comm] at blamed
        refine ⟨i + 1, step, ended, there, ends, ?_, blamed⟩
        rw [List.take_succ_cons, stepFault_passes waits lasts, before]
      · rw [stepFault_stops blamed] at reported
        cases reported
        exact ⟨0, first, previous, rfl, rfl, rfl, blamed⟩
    · rintro ⟨i, step, ended, there, ends, before, blamed⟩
      cases i with
      | zero =>
        cases there
        cases ends
        exact stepFault_stops blamed
      | succ i =>
        rw [List.take_succ_cons] at before
        obtain ⟨waits, lasts⟩ | ⟨other, stopped⟩ := passes_or_blamed index previous first
        · rw [stepFault_passes waits lasts] at before ⊢
          rw [← Nat.add_assoc, Nat.add_right_comm] at blamed
          exact (ih _ _).mpr ⟨i, step, ended, there, ends, before, blamed⟩
        · rw [stepFault_stops stopped] at before
          cases before

/-- The fault of steps is what their first misfit is blamed for beside the step before it. -/
theorem stepFault_blames (steps : List Step) (fault : ScheduleError) :
    stepFault? 0 0 steps = some fault ↔
      ∃ i step ended, FirstMisfit steps i step ∧ (0 :: steps.map Step.untilSeconds)[i]? = some ended ∧
        Blamed i ended step fault := by
  rw [stepFault_some_iff]
  simp only [Nat.zero_add, stepFault_none_orderly]
  constructor
  · rintro ⟨i, step, ended, there, ends, before, blamed⟩
    exact ⟨i, step, ended, firstMisfit_of_orderly there (blamed_misfit ends blamed) before, ends, blamed⟩
  · rintro ⟨i, step, ended, first, ends, blamed⟩
    exact ⟨i, step, ended, first.there, ends, first.before, blamed⟩

/-- A schedule passes exactly where it lasts, allows a poll and has steps that are orderly, however far apart any two
of them stand. Otherwise, where nothing else is at fault, the report names the first step that cannot come after
those before it: for not waiting if it does not, else for ending no later than the step just before, or than zero
where it is the first. -/
theorem first_misfit_is_reported (schedule : Schedule) :
    (schedule.fault? = none ↔ 0 < schedule.maxElapsedSeconds ∧ schedule.maxAttempts ≠ some 0 ∧
      schedule.steps ≠ [] ∧ Orderly schedule.steps) ∧
    (0 < schedule.maxElapsedSeconds → schedule.maxAttempts ≠ some 0 → schedule.steps ≠ [] →
      ∀ fault, schedule.fault? = some fault ↔
        ∃ i step ended, FirstMisfit schedule.steps i step ∧
          (0 :: schedule.steps.map Step.untilSeconds)[i]? = some ended ∧ Blamed i ended step fault) := by
  refine ⟨fault_none_iff schedule, ?_⟩
  intro timed allowed staged fault
  have checked : schedule.fault? = stepFault? 0 0 schedule.steps := by
    unfold fault?
    rw [if_neg (Nat.pos_iff_ne_zero.mp timed), if_neg allowed, if_neg (by simpa using staged)]
  rw [checked]
  exact stepFault_blames schedule.steps fault

/-- The third step ends before the second, though after the first, and the fourth does not wait. -/
def tangled : Schedule :=
  ⟨3600, some 100, [⟨5, 60⟩, ⟨10, 600⟩, ⟨30, 300⟩, ⟨0, 3600⟩]⟩

theorem shortened_step_is_reported :
    0 < tangled.maxElapsedSeconds ∧ tangled.maxAttempts ≠ some 0 ∧ tangled.steps ≠ [] ∧
      tangled.fault? = some (.stepsNotIncreasing 2 300 600) ∧ FirstMisfit tangled.steps 2 ⟨30, 300⟩ := by
  have reported : tangled.fault? = some (.stepsNotIncreasing 2 300 600) := by decide
  obtain ⟨i, ⟨interval, ends⟩, ended, first, _, blamed⟩ :=
    ((first_misfit_is_reported tangled).2 (by decide) (by decide) (by decide) _).mp reported
  cases blamed
  cases first.there
  exact ⟨by decide, by decide, by decide, reported, first⟩

/-- A step that neither waits nor ends later than the one before it is reported for not waiting. -/
example : Schedule.fault? ⟨3600, none, [⟨5, 60⟩, ⟨0, 60⟩]⟩ = some (.zeroInterval 1) := by
  decide

end RemoteJobs.Proofs.ScheduleFaults
