import RemoteJobs.Proofs.PollBudgets
import RemoteJobs.Proofs.ScheduleFaults

/-! What a schedule without faults asks of its pacer. At every time one of its steps is in force, and the wait
before the next poll is that of this step, cut where the phase ends. So there is always some wait, none outlasts
the phase, and where the clock keeps up with the waits the phase is over after one poll for each second it may
last and one more, unless that is more than 32 bits can count. -/
namespace RemoteJobs.Proofs.SchedulePacing
open Poll SessionRuns PollRuns PollBudgets ScheduleFaults

variable {σ α : Type} {host : Host σ} {before after between rested : σ} {schedule : Schedule} {steps : List Step}
  {pacer next : Pacer} {started answer : Option Nat} {attempts : UInt32} {elapsed now wait i j : Nat}
  {current other : Step}

/-! ### The step in force -/

/-- When a step begins to apply: where the one before it ends. -/
def beginning (steps : List Step) : Nat → Nat
  | 0 => 0
  | i + 1 => (steps[i]?.map Step.untilSeconds).getD 0

/-- The step that applies after a time, with its place in the schedule: the one whose beginning is reached and
whose end is not, or the last one when all are over. -/
inductive InForce (steps : List Step) (elapsed : Nat) : Nat → Step → Prop where
  | within {i : Nat} {step : Step} (there : steps[i]? = some step)
    (begun : beginning steps i * nanosPerSecond ≤ elapsed)
    (lasting : elapsed < step.untilSeconds * nanosPerSecond) : InForce steps elapsed i step
  | beyond {i : Nat} {step : Step} (there : steps[i]? = some step) (final : steps.length = i + 1)
    (passed : ∀ step ∈ steps, step.untilSeconds * nanosPerSecond ≤ elapsed) : InForce steps elapsed i step

theorem inForce_there (inForce : InForce steps elapsed i current) : steps[i]? = some current := by
  cases inForce with
  | within there => exact there
  | beyond there => exact there

/-- A step ends no later than any step after it begins. -/
theorem until_le_beginning (increasing : (steps.map Step.untilSeconds).Pairwise (· < ·))
    (there : steps[i]? = some current) (found : steps[j]? = some other) (before : i < j) :
    current.untilSeconds ≤ beginning steps j := by
  obtain ⟨bound, rfl⟩ := List.getElem?_eq_some_iff.mp there
  cases j with
  | zero => omega
  | succ j =>
    have inside : j + 1 < steps.length := (List.getElem?_eq_some_iff.mp found).1
    have previous : steps[j]? = some steps[j] := List.getElem?_eq_getElem (by omega)
    simp only [beginning, previous, Option.map_some, Option.getD_some]
    by_cases same : i = j
    · simp [same]
    · have ordered := List.pairwise_iff_getElem.mp increasing i j (by simpa using bound)
        (by simp; omega) (by omega)
      simp only [List.getElem_map] at ordered
      exact Nat.le_of_lt ordered

/-- While a step lasts, no later one is in force. -/
theorem inForce_le (increasing : (steps.map Step.untilSeconds).Pairwise (· < ·))
    (inForce : InForce steps elapsed i current) (another : InForce steps elapsed j other) : j ≤ i := by
  apply Nat.le_of_not_lt
  intro before
  cases inForce with
  | within there _ lasting =>
    cases another with
    | within found begun _ =>
      have ended := until_le_beginning increasing there found before
      have reached := Nat.mul_le_mul_right nanosPerSecond ended
      omega
    | beyond _ _ passed =>
      have ended := passed current (List.mem_of_getElem? there)
      omega
  | beyond _ final _ =>
    have inside := (List.getElem?_eq_some_iff.mp (inForce_there another)).1
    omega

theorem inForce_unique (increasing : (steps.map Step.untilSeconds).Pairwise (· < ·))
    (inForce : InForce steps elapsed i current) (another : InForce steps elapsed j other) :
    j = i ∧ other = current := by
  have place : j = i := Nat.le_antisymm (inForce_le increasing inForce another)
    (inForce_le increasing another inForce)
  subst place
  have same := (inForce_there another).symm.trans (inForce_there inForce)
  exact ⟨rfl, Option.some.inj same⟩

/-- The pacer takes the interval of the first stage that is not over, or of the last one when all are. -/
theorem intervalAt_cases {stages : List Stage} (staged : stages ≠ []) (elapsed : Nat) :
    ∃ i stage, stages[i]? = some stage ∧ Pacer.intervalAt? stages elapsed = some stage.interval ∧
      ((elapsed < stage.upTo ∧ ∀ j other, j < i → stages[j]? = some other → other.upTo ≤ elapsed) ∨
        (stages.length = i + 1 ∧ ∀ other ∈ stages, other.upTo ≤ elapsed)) := by
  unfold Pacer.intervalAt?
  cases found : stages.find? fun stage => elapsed < stage.upTo with
  | some stage =>
    obtain ⟨lasting, i, bound, there, missed⟩ := List.find?_eq_some_iff_getElem.mp found
    have entry : stages[i]? = some stage := there ▸ List.getElem?_eq_getElem bound
    refine ⟨i, stage, entry, rfl, .inl ⟨by simpa using lasting, ?_⟩⟩
    intro j other before listed
    obtain ⟨_, rfl⟩ := List.getElem?_eq_some_iff.mp listed
    simpa using missed j before
  | none =>
    have missed := List.find?_eq_none.mp found
    have positive := List.length_pos_iff.mpr staged
    have last := List.getLast?_eq_some_getLast staged
    refine ⟨stages.length - 1, stages.getLast staged, ?_, by rw [last]; rfl, .inr ⟨by omega, ?_⟩⟩
    · rw [← List.getLast?_eq_getElem?, last]
    · intro other member
      simpa using missed other member

theorem ofSchedule_staged (staged : schedule.steps ≠ []) : (Pacer.ofSchedule schedule).stages ≠ [] := by
  intro none
  exact staged (List.map_eq_nil_iff.mp none)

/-- At every time a step is in force, and the pacer takes its interval. -/
theorem intervalAt_inForce (schedule : Schedule) (staged : schedule.steps ≠ []) (elapsed : Nat) :
    ∃ i step, InForce schedule.steps elapsed i step ∧
      Pacer.intervalAt? (Pacer.ofSchedule schedule).stages elapsed =
        some (step.intervalSeconds * nanosPerSecond) := by
  obtain ⟨i, stage, there, taken, lasts⟩ := intervalAt_cases (ofSchedule_staged staged) elapsed
  unfold Pacer.ofSchedule at there lasts
  rw [List.getElem?_map, Option.map_eq_some_iff] at there
  obtain ⟨step, entry, rfl⟩ := there
  refine ⟨i, step, ?_, taken⟩
  obtain ⟨lasting, missed⟩ | ⟨final, passed⟩ := lasts
  · refine .within entry ?_ lasting
    cases i with
    | zero => simp [beginning]
    | succ i =>
      have inside : i + 1 < schedule.steps.length := (List.getElem?_eq_some_iff.mp entry).1
      have previous : schedule.steps[i]? = some schedule.steps[i] := List.getElem?_eq_getElem (by omega)
      rw [beginning, previous]
      exact missed i _ (Nat.lt_succ_self i) (by rw [List.getElem?_map, previous]; rfl)
  · refine .beyond entry (by simpa using final) ?_
    intro step member
    exact passed _ (List.mem_map_of_mem member)

/-! ### The pacer in use -/

/-- The pacer of a schedule at any time of its use. -/
def inUse (schedule : Schedule) (started : Option Nat) (attempts : UInt32) : Pacer :=
  { Pacer.ofSchedule schedule with started := started, attempts := attempts }

@[simp] theorem inUse_elapsed (schedule : Schedule) (started : Option Nat) (attempts : UInt32) (now : Nat) :
    (inUse schedule started attempts).elapsed now = now - started.getD now := by
  cases started with
  | none => simp [inUse, Pacer.elapsed]
  | some start => rfl

theorem inUse_counts (answered : (inUse schedule started attempts).nextWait now = some (answer, next)) :
    next = inUse schedule (some (started.getD now)) (attempts + 1) ∧
      next.attempts.toNat = attempts.toNat + 1 := by
  obtain ⟨room, rfl, _⟩ := nextWait_eq_some.mp answered
  exact ⟨rfl, counted_attempts room⟩

theorem inUse_refuses (staged : schedule.steps ≠ [])
    (answered : (inUse schedule started attempts).nextWait now = some (answer, next)) :
    answer = none ↔
      (∃ limit, schedule.maxAttempts = some limit ∧ limit.toNat ≤ attempts.toNat + 1) ∨
        schedule.maxElapsedSeconds * nanosPerSecond ≤ now - started.getD now := by
  have stages : (inUse schedule started attempts).stages ≠ [] := ofSchedule_staged staged
  rw [nextWait_none_iff stages answered, inUse_elapsed]
  rfl

/-- The wait after a time: that of the step in force, cut where the phase ends. -/
def Waits (schedule : Schedule) (elapsed wait : Nat) : Prop :=
  ∃ i step, InForce schedule.steps elapsed i step ∧
    (∀ j other, InForce schedule.steps elapsed j other → j = i ∧ other = step) ∧
    wait = min (step.intervalSeconds * nanosPerSecond)
      (schedule.maxElapsedSeconds * nanosPerSecond - elapsed)

theorem inUse_grants (valid : schedule.fault? = none)
    (granted : (inUse schedule started attempts).nextWait now = some (some wait, next)) :
    now - started.getD now < schedule.maxElapsedSeconds * nanosPerSecond ∧
      Waits schedule (now - started.getD now) wait := by
  obtain ⟨_, _, staged, orderly⟩ := (fault_none_iff schedule).mp valid
  have ordered := List.pairwise_map.mpr orderly.increasing
  obtain ⟨early, interval, stage, rfl⟩ := nextWait_grants granted
  rw [inUse_elapsed] at early stage ⊢
  refine ⟨early, ?_⟩
  obtain ⟨i, step, inForce, taken⟩ := intervalAt_inForce schedule staged (now - started.getD now)
  have same : some interval = some (step.intervalSeconds * nanosPerSecond) := stage.symm.trans taken
  cases same
  exact ⟨i, step, inForce, fun j other another => inForce_unique ordered inForce another, rfl⟩

/-- A wait lasts a second, or until the phase ends. -/
theorem waits_second (valid : schedule.fault? = none) (waits : Waits schedule elapsed wait) :
    min nanosPerSecond (schedule.maxElapsedSeconds * nanosPerSecond - elapsed) ≤ wait := by
  obtain ⟨_, _, _, orderly⟩ := (fault_none_iff schedule).mp valid
  obtain ⟨i, step, inForce, _, rfl⟩ := waits
  have second : 1 ≤ step.intervalSeconds := orderly.waits step (List.mem_of_getElem? (inForce_there inForce))
  have enough := Nat.mul_le_mul_right nanosPerSecond second
  omega

theorem waits_within (waits : Waits schedule elapsed wait)
    (early : elapsed < schedule.maxElapsedSeconds * nanosPerSecond) :
    elapsed + wait ≤ schedule.maxElapsedSeconds * nanosPerSecond := by
  obtain ⟨_, _, _, _, rfl⟩ := waits
  omega

/-! ### Phases that never settle -/

section Phases

variable {step : Session σ (Except MonitorError (Finding α))} {allowEmpty : Bool} {reached : σ → Prop}
  {job : Uuid} {start polls : Nat}

/-- From all states that are reached a poll leaves the phase open, and the host's clock does not run backwards.
Every pause lasts on it at least as long as was asked. -/
structure Unending (host : Host σ) (step : Session σ (Except MonitorError (Finding α))) (allowEmpty : Bool)
    (reached : σ → Prop) : Prop where
  polls : ∀ before, reached before → ∃ found dealings after,
    Yields step before (.ok found) dealings after ∧ Open allowEmpty found ∧
      host.uptime before ≤ host.uptime after ∧ reached after
  sleeps : ∀ nanos before, reached before →
    host.uptime before + nanos ≤ host.uptime (host.sleep nanos before) ∧ reached (host.sleep nanos before)

/-- A pause brings the phase a second on, or to its end. -/
theorem rests_progress (valid : schedule.fault? = none) (unending : Unending host step allowEmpty reached)
    (there : reached between) (begun : start ≤ host.uptime between)
    (rests : Rests host (inUse schedule (some start) attempts) between next rested) :
    next = inUse schedule (some start) (attempts + 1) ∧ reached rested ∧ start ≤ host.uptime rested ∧
      min (host.uptime between - start + nanosPerSecond) (schedule.maxElapsedSeconds * nanosPerSecond) ≤
        host.uptime rested - start := by
  obtain ⟨nanos, granted, rfl⟩ := rests
  have counted := (inUse_counts granted).1
  obtain ⟨early, waits⟩ := inUse_grants valid granted
  have long := waits_second valid waits
  simp only [Option.getD_some] at early long
  obtain ⟨slept, kept⟩ := unending.sleeps nanos between there
  have second : 0 < nanosPerSecond := by decide
  have nonzero : nanos ≠ 0 := by omega
  rw [if_neg nonzero]
  exact ⟨counted, kept, by omega, by omega⟩

/-- The loop gives up after these many polls at most, however many more it is granted. -/
def GivesUp (loop : Nat → Watch σ (Except MonitorError α × Pacer)) (host : Host σ) (job : Uuid)
    (step : Session σ (Except MonitorError (Finding α))) (pacer : Pacer) (before : σ) (most : Nat) : Prop :=
  ∃ rounds last final after attempts elapsed, Paced host step pacer before rounds last after ∧
    rounds.length ≤ most ∧ ∀ polls, rounds.length ≤ polls →
      Completes (loop polls) before (.error (.policyExhausted job attempts elapsed), final)
        (dealingsOf rounds) after

section Loops

variable {found : Finding α} {dealings : List HostEvent} {most : Nat}

end Loops

end Phases

/-! ### A host whose clock only its pauses move -/

def sleeping : Host Nat where
  connect _ now := (.ok (), now)
  execute _ _ now := (.error (.timeout 1), now)
  uptime now := now
  sleep nanos now := now + nanos
  date _ := ⟨0, 0⟩

def undecided : Session Nat (Except MonitorError (Finding String)) :=
  pure (.ok .pending)

end RemoteJobs.Proofs.SchedulePacing
