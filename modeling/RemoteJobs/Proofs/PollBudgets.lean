import RemoteJobs.Proofs.PollRuns

/-! What a phase makes of the answers to its polls. A phase ends with the first answer that does not leave it
open, or with its last poll: it has as many polls as the limit says, though never none. The count of the pacer is
the number of polls that left the phase open, so neither earlier use of the pacer nor anything but the answers
makes a difference, as long as the time lasts. -/
namespace RemoteJobs.Proofs.PollBudgets
open Poll SessionRuns PollRuns

variable {σ α : Type} {host : Host σ} {before after between rested : σ} {pacer next : Pacer} {job : Uuid}
  {allowEmpty : Bool} {limit : UInt32} {polls now wait : Nat}

/-! ### Answers -/

/-- The answer to a poll does not end the phase. -/
def LeavesOpen (allowEmpty : Bool) (answer : Except MonitorError (Finding α)) : Prop :=
  ∃ found, answer = .ok found ∧ Open allowEmpty found

/-- The answer to a poll ends the phase with this result. -/
inductive Closes (job : Uuid) (allowEmpty : Bool) :
    Except MonitorError (Finding α) → Except MonitorError α → Prop where
  | ready (value : α) : Closes job allowEmpty (.ok (.ready value)) (.ok value)
  | failed (e : MonitorError) : Closes job allowEmpty (.error e) (.error e)
  | barren (refused : allowEmpty = false) : Closes job allowEmpty (.ok .empty) (.error (.emptyResult job))

theorem open_or_closes (job : Uuid) (allowEmpty : Bool) (answer : Except MonitorError (Finding α)) :
    LeavesOpen allowEmpty answer ∨ ∃ result, Closes job allowEmpty answer result := by
  cases answer with
  | error e => exact .inr ⟨_, .failed e⟩
  | ok found =>
    cases found with
    | pending => exact .inl ⟨_, rfl, .pending⟩
    | ready value => exact .inr ⟨_, .ready value⟩
    | empty =>
      cases allowed : allowEmpty with
      | true => exact .inl ⟨_, rfl, .empty rfl⟩
      | false => exact .inr ⟨_, .barren rfl⟩

/-- Among the first answers there is a first one that ends the phase, or all of them leave it open. -/
theorem first_closing (job : Uuid) (allowEmpty : Bool) (script : Nat → Except MonitorError (Finding α))
    (count : Nat) :
    (∃ k result, k < count ∧ (∀ i < k, LeavesOpen allowEmpty (script i)) ∧
      Closes job allowEmpty (script k) result) ∨
    ∀ i < count, LeavesOpen allowEmpty (script i) := by
  induction count with
  | zero => exact .inr (by simp)
  | succ count ih =>
    rcases ih with ⟨k, result, below, earlier, closes⟩ | allOpen
    · exact .inl ⟨k, result, by omega, earlier, closes⟩
    · rcases open_or_closes job allowEmpty (script count) with leaves | ⟨result, closes⟩
      · right
        intro i below
        by_cases newest : i = count
        · rw [newest]
          exact leaves
        · exact allOpen i (by omega)
      · exact .inl ⟨count, result, by omega, allOpen, closes⟩

/-! ### The pacer's grants -/

theorem intervalAt_isSome {stages : List Stage} (staged : stages ≠ []) (elapsed : Nat) :
    ∃ interval, Pacer.intervalAt? stages elapsed = some interval := by
  unfold Pacer.intervalAt?
  cases stages.find? fun stage => elapsed < stage.upTo with
  | some stage => exact ⟨stage.interval, rfl⟩
  | none => exact ⟨_, by simp only [List.getLast?_eq_some_getLast staged]; rfl⟩

/-- Beginning a phase and counting a poll at one moment takes no time. -/
@[simp] theorem counted_elapsed (pacer : Pacer) (now : Nat) :
    (pacer.counted now).elapsed now = pacer.elapsed now := by
  unfold Pacer.elapsed Pacer.counted
  cases pacer.started with
  | none => simp
  | some start => rfl

/-- There is no wait exactly where the polls or the time are used up. -/
theorem wait_none_iff (staged : pacer.stages ≠ []) :
    pacer.wait? now = none ↔
      (∃ limit, pacer.maxAttempts = some limit ∧ limit ≤ pacer.attempts) ∨
        pacer.maxElapsed ≤ pacer.elapsed now := by
  obtain ⟨interval, stage⟩ := intervalAt_isSome staged (pacer.elapsed now)
  unfold Pacer.wait? Pacer.outOfPolls
  simp only [stage, Option.map_some]
  cases pacer.maxAttempts with
  | none => simp
  | some limit => simp [Classical.or_iff_not_imp_left, UInt32.not_le]

/-- Another poll is refused exactly where this one used up the polls or the time. -/
theorem nextWait_none_iff {answer : Option Nat} (staged : pacer.stages ≠ [])
    (answered : pacer.nextWait now = some (answer, next)) :
    answer = none ↔
      (∃ limit, pacer.maxAttempts = some limit ∧ limit.toNat ≤ pacer.attempts.toNat + 1) ∨
        pacer.maxElapsed ≤ pacer.elapsed now := by
  obtain ⟨room, rfl, rfl⟩ := nextWait_eq_some.mp answered
  have kept : (pacer.counted now).stages ≠ [] := staged
  rw [wait_none_iff kept, counted_elapsed]
  simp only [UInt32.le_iff_toNat_le, counted_attempts room, counted_maxAttempts]
  rfl

/-- The wait that is granted is that of the stage, cut where the phase ends. -/
theorem nextWait_grants (granted : pacer.nextWait now = some (some wait, next)) :
    pacer.elapsed now < pacer.maxElapsed ∧ ∃ interval,
      Pacer.intervalAt? pacer.stages (pacer.elapsed now) = some interval ∧
        wait = min interval (pacer.maxElapsed - pacer.elapsed now) := by
  obtain ⟨_, rfl, waits⟩ := nextWait_eq_some.mp granted
  unfold Pacer.wait? at waits
  simp only [counted_elapsed] at waits
  split at waits
  · cases waits
  · rename_i within
    obtain ⟨interval, stage, rfl⟩ := Option.map_eq_some_iff.mp waits
    refine ⟨?_, interval, stage, rfl⟩
    simp only [Bool.or_eq_true, decide_eq_true_eq, not_or] at within
    exact Nat.lt_of_not_le within.2

/-! ### Scripts -/

section Scripts

variable {step : Session σ (Except MonitorError (Finding α))}
  {script : Nat → Except MonitorError (Finding α)} {made : σ → Nat} {answer : Except MonitorError (Finding α)}
  {result : Except MonitorError α} {dealings : List HostEvent} {count : Nat}

/-- The polls are answered by the script, one entry each. The state of the host tells how many were made, and
none is made by waiting. -/
structure Plays (host : Host σ) (step : Session σ (Except MonitorError (Finding α)))
    (script : Nat → Except MonitorError (Finding α)) (made : σ → Nat) : Prop where
  polls : ∀ before, ∃ dealings after,
    Yields step before (script (made before)) dealings after ∧ made after = made before + 1
  waits : ∀ nanos before, made (host.sleep nanos before) = made before

/-- The limit on time is not reached at the end of any poll that leaves the phase open. -/
def Unhurried (host : Host σ) (step : Session σ (Except MonitorError (Finding α))) (allowEmpty : Bool)
    (pacer : Pacer) (before : σ) : Prop :=
  ∀ rounds last after, Paced host step pacer before rounds last after →
    (∀ round ∈ rounds, LeavesOpen allowEmpty round.found) →
    last.elapsed (host.uptime after) < last.maxElapsed

/-- The loop in the middle of a phase: the pacer has counted the polls made so far, and it has its limit, its
stages and time enough. -/
structure Underway (host : Host σ) (step : Session σ (Except MonitorError (Finding α))) (allowEmpty : Bool)
    (made : σ → Nat) (limit : UInt32) (pacer : Pacer) (before : σ) : Prop where
  counted : pacer.attempts.toNat = made before
  limited : pacer.maxAttempts = some limit
  staged : pacer.stages ≠ []
  unhurried : Unhurried host step allowEmpty pacer before

/-- Between two polls the loop stays underway. -/
theorem underway_next (plays : Plays host step script made)
    (underway : Underway host step allowEmpty made limit pacer before)
    (polled : Yields step before answer dealings between) (leaves : LeavesOpen allowEmpty answer)
    (rests : Rests host pacer between next rested) :
    Underway host step allowEmpty made limit next rested ∧ made rested = made before + 1 := by
  have one : made between = made before + 1 := by
    obtain ⟨_, after, yields, more⟩ := plays.polls before
    rw [(yields_unique polled yields).2.2, more]
  have none : made rested = made between := by
    obtain ⟨nanos, _, rfl⟩ := rests
    split
    · rfl
    · exact plays.waits nanos between
  obtain ⟨counted, limited, same⟩ := rests_next rests
  refine ⟨⟨?_, limited.trans underway.limited, ?_, ?_⟩, none.trans one⟩
  · rw [counted, underway.counted, none, one]
  · have stages : (next.restart 0).stages = (pacer.restart 0).stages := by rw [same]
    intro none
    exact underway.staged (stages.symm.trans none)
  · intro rounds last after paced open_
    apply underway.unhurried _ last after (.next polled rests paced)
    intro round member
    rcases List.mem_cons.mp member with rfl | member
    · exact leaves
    · exact open_ round member

/-- Below the limit another poll is granted. -/
theorem underway_rests (underway : Underway host step allowEmpty made limit pacer before)
    (polled : Yields step before answer dealings between) (leaves : LeavesOpen allowEmpty answer)
    (below : made before + 1 < limit.toNat) : ∃ next rested, Rests host pacer between next rested := by
  have early := underway.unhurried _ _ _ (.last polled) (by simpa using leaves)
  have counted := underway.counted
  cases granted : pacer.nextWait (host.uptime between) with
  | none =>
    have full := nextWait_eq_none.mp granted
    have narrow := limit.toNat_lt
    omega
  | some answer =>
    obtain ⟨wait, next⟩ := answer
    cases wait with
    | some nanos => exact ⟨next, _, nanos, granted, rfl⟩
    | none =>
      obtain ⟨other, limited, reached⟩ | late := (nextWait_none_iff underway.staged granted).mp rfl
      · rw [underway.limited] at limited
        cases limited
        omega
      · omega

/-- At the limit no further poll is granted. -/
theorem underway_spent (underway : Underway host step allowEmpty made limit pacer before)
    (reached : limit.toNat ≤ made before + 1) (room : made before + 1 < 2 ^ 32) (now : Nat) :
    ∃ next, pacer.nextWait now = some (none, next) ∧ next.attempts.toNat = made before + 1 ∧
      ∀ now, next.restart now = pacer.restart now := by
  rw [← underway.counted] at reached room ⊢
  refine ⟨pacer.counted now, ?_, counted_attempts room, fun _ => rfl⟩
  have answered : pacer.nextWait now = some ((pacer.counted now).wait? now, pacer.counted now) :=
    nextWait_eq_some.mpr ⟨room, rfl, rfl⟩
  rw [answered, (nextWait_none_iff underway.staged answered).mpr (.inl ⟨limit, underway.limited, reached⟩)]

theorem repeatPoll_closes (polled : Yields step before answer dealings after)
    (closes : Closes job allowEmpty answer result) :
    Completes (repeatPoll host job allowEmpty step (polls + 1) pacer) before (result, pacer) dealings after := by
  cases closes with
  | ready value => exact completes_before (completes_lift polled) (completes_pure _ _)
  | failed e => exact completes_before (completes_lift polled) (completes_pure _ _)
  | barren refused =>
    subst refused
    exact completes_before (completes_lift polled) (completes_pure _ _)

/-- However many polls it is granted beyond these, the loop makes this many and ends with this result. The pacer
has counted as many polls as said and is otherwise as good as new. -/
def Ends (loop : Nat → Watch σ (Except MonitorError α × Pacer)) (made : σ → Nat) (pacer : Pacer) (before : σ)
    (count : Nat) (result : Except MonitorError α) (attempts : Nat) : Prop :=
  ∃ final dealings after,
    (∀ polls, count ≤ polls → Completes (loop polls) before (result, final) dealings after) ∧
    made after = made before + count ∧ final.attempts.toNat = attempts ∧ ∀ now, final.restart now = pacer.restart now

/-- The loop from this pacer on, by the polls granted to it. -/
def onward (host : Host σ) (job : Uuid) (allowEmpty : Bool) (step : Session σ (Except MonitorError (Finding α)))
    (pacer : Pacer) (polls : Nat) : Watch σ (Except MonitorError α × Pacer) :=
  repeatPoll host job allowEmpty step polls pacer

/-- After a poll that leaves the phase open and a pause, the loop ends as it does from there. -/
theorem ends_next {attempts : Nat} (polled : Yields step before answer dealings between)
    (leaves : LeavesOpen allowEmpty answer) (rests : Rests host pacer between next rested)
    (one : made rested = made before + 1)
    (ends : Ends (onward host job allowEmpty step next) made next rested count result attempts) :
    Ends (onward host job allowEmpty step pacer) made pacer before (count + 1) result attempts := by
  obtain ⟨final, later, after, completes, polls, counted, same⟩ := ends
  obtain ⟨found, rfl, unsettled⟩ := leaves
  refine ⟨final, dealings ++ later, after, ?_, by omega, counted, ?_⟩
  · intro granted enough
    cases granted with
    | zero => omega
    | succ granted => exact repeatPoll_rests polled unsettled rests (completes granted (by omega))
  · intro now
    rw [same, (rests_next rests).2.2]

/-- The loop ends with the first answer that does not leave the phase open, if that comes within the limit.
Induction on the polls before it. -/
theorem loop_closes (plays : Plays host step script made)
    (underway : Underway host step allowEmpty made limit pacer before) {gap : Nat}
    (within : made before + gap < max limit.toNat 1)
    (earlier : ∀ i, made before ≤ i → i < made before + gap → LeavesOpen allowEmpty (script i))
    (closes : Closes job allowEmpty (script (made before + gap)) result) :
    Ends (onward host job allowEmpty step pacer) made pacer before (gap + 1) result (made before + gap) := by
  induction gap generalizing pacer before with
  | zero =>
    obtain ⟨dealings, after, polled, one⟩ := plays.polls before
    refine ⟨pacer, dealings, after, ?_, one, underway.counted, fun _ => rfl⟩
    intro granted enough
    cases granted with
    | zero => omega
    | succ granted => exact repeatPoll_closes polled closes
  | succ gap ih =>
    obtain ⟨dealings, between, polled, _⟩ := plays.polls before
    have leaves := earlier (made before) (by omega) (by omega)
    obtain ⟨next, rested, rests⟩ := underway_rests underway polled leaves (by omega)
    obtain ⟨still, one⟩ := underway_next plays underway polled leaves rests
    have shift : made before + (gap + 1) = made rested + gap := by omega
    rw [shift] at closes within ⊢
    have ends := ih still within (fun i above below => earlier i (by omega) (by omega)) closes
    exact ends_next polled leaves rests one ends

/-- Without such an answer the loop ends with the last poll of its budget. Induction on the polls left. -/
theorem loop_exhausted (plays : Plays host step script made)
    (underway : Underway host step allowEmpty made limit pacer before) {gap : Nat}
    (budget : made before + gap + 1 = max limit.toNat 1)
    (allOpen : ∀ i, made before ≤ i → i < max limit.toNat 1 → LeavesOpen allowEmpty (script i)) :
    ∃ elapsed, Ends (onward host job allowEmpty step pacer) made pacer before (gap + 1)
      (.error (.policyExhausted job (max limit.toNat 1) elapsed)) (max limit.toNat 1) := by
  induction gap generalizing pacer before with
  | zero =>
    obtain ⟨dealings, after, polled, one⟩ := plays.polls before
    obtain ⟨found, answered, unsettled⟩ := allOpen (made before) (by omega) (by omega)
    have narrow := limit.toNat_lt
    obtain ⟨next, spent, counted, same⟩ := underway_spent underway (by omega) (by omega) (host.uptime after)
    have full : next.attempts.toNat = max limit.toNat 1 := by omega
    rw [answered] at polled
    refine ⟨next.elapsed (host.uptime after) / nanosPerSecond, next, dealings, after, ?_, one, full, same⟩
    intro granted enough
    cases granted with
    | zero => omega
    | succ granted =>
      rw [← full]
      exact repeatPoll_exhausted polled unsettled spent
  | succ gap ih =>
    obtain ⟨dealings, between, polled, _⟩ := plays.polls before
    have leaves := allOpen (made before) (by omega) (by omega)
    obtain ⟨next, rested, rests⟩ := underway_rests underway polled leaves (by omega)
    obtain ⟨still, one⟩ := underway_next plays underway polled leaves rests
    obtain ⟨elapsed, ends⟩ := ih still (by omega) fun i above below => allOpen i (by omega) below
    exact ⟨elapsed, ends_next polled leaves rests one ends⟩

/-- What the loop comes to from a fresh count, the whole phase comes to. -/
theorem ends_phase {attempts : Nat}
    (ends : Ends (onward host job allowEmpty step (pacer.restart (host.uptime before))) made
      (pacer.restart (host.uptime before)) before count result attempts) :
    Ends (fun polls => pollUntil host polls job allowEmpty step pacer) made pacer before count result
      attempts := by
  obtain ⟨final, dealings, after, completes, polls, counted, same⟩ := ends
  exact ⟨final, dealings, after, fun granted enough => pollUntil_completes (completes granted enough), polls,
    counted, same⟩

/-- However the pacer was used before: a phase ends with the first answer among as many as its limit allows, and
always one, that does not leave it open, after exactly the polls up to that answer, of which the pacer has
counted all but the last. Where there is no such answer it is given up after exactly as many polls as the limit
allows, and says so. -/
theorem phase_follows_script (plays : Plays host step script made) (fresh : made before = 0)
    (limited : pacer.maxAttempts = some limit) (staged : pacer.stages ≠ [])
    (unhurried : Unhurried host step allowEmpty (pacer.restart (host.uptime before)) before) (job : Uuid) :
    (∀ k result, k < max limit.toNat 1 → (∀ i < k, LeavesOpen allowEmpty (script i)) →
      Closes job allowEmpty (script k) result →
      Ends (fun polls => pollUntil host polls job allowEmpty step pacer) made pacer before (k + 1) result k) ∧
    ((∀ i < max limit.toNat 1, LeavesOpen allowEmpty (script i)) →
      ∃ elapsed, Ends (fun polls => pollUntil host polls job allowEmpty step pacer) made pacer before
        (max limit.toNat 1) (.error (.policyExhausted job (max limit.toNat 1) elapsed)) (max limit.toNat 1)) ∧
    ((∃ k result, k < max limit.toNat 1 ∧ (∀ i < k, LeavesOpen allowEmpty (script i)) ∧
        Closes job allowEmpty (script k) result) ∨
      ∀ i < max limit.toNat 1, LeavesOpen allowEmpty (script i)) := by
  have underway : Underway host step allowEmpty made limit (pacer.restart (host.uptime before)) before :=
    ⟨fresh.symm, limited, staged, unhurried⟩
  refine ⟨?_, ?_, first_closing job allowEmpty script _⟩
  · intro k result within earlier closes
    have position : made before + k = k := by omega
    rw [← position] at closes within
    have ends := loop_closes plays underway within (fun i _ below => earlier i (by omega)) closes
    rw [position] at ends
    exact ends_phase ends
  · intro allOpen
    obtain ⟨gap, budget⟩ : ∃ gap, max limit.toNat 1 = gap + 1 := ⟨max limit.toNat 1 - 1, by omega⟩
    have left : made before + gap + 1 = max limit.toNat 1 := by omega
    obtain ⟨elapsed, ends⟩ := loop_exhausted plays underway left fun i _ below => allOpen i below
    rw [← budget] at ends
    exact ⟨elapsed, ends_phase ends⟩

/-- Every round of a phase is one poll. -/
theorem paced_made (plays : Plays host step script made) {last : Pacer}
    {rounds : List (Round (Except MonitorError (Finding α)))}
    (paced : Paced host step pacer before rounds last after) : made after = made before + rounds.length := by
  induction paced with
  | last polled =>
    obtain ⟨_, _, yields, one⟩ := plays.polls _
    rw [(yields_unique polled yields).2.2, one]
    rfl
  | next polled rests _ ih =>
    obtain ⟨_, _, yields, one⟩ := plays.polls _
    obtain ⟨nanos, _, rfl⟩ := rests
    rw [ih, List.length_cons]
    split
    · rw [(yields_unique polled yields).2.2, one]
      omega
    · rw [plays.waits, (yields_unique polled yields).2.2, one]
      omega

end Scripts

/-! ### A host that is only polled -/

/-- Its state is the number of polls made. Each takes a second, and waiting takes no time on its clock. -/
def counting : Host Nat where
  connect _ made := (.ok (), made)
  execute _ _ made := (.error (.timeout 1), made)
  uptime made := made * nanosPerSecond
  sleep _ made := made
  date _ := ⟨0, 0⟩

/-- The poll that reads the next entry of a script. -/
def reading (script : Nat → Except MonitorError (Finding String)) :
    Session Nat (Except MonitorError (Finding String)) :=
  fun w => (script w.host, { w with host := w.host + 1 })

theorem reading_plays (script : Nat → Except MonitorError (Finding String)) :
    Plays counting (reading script) script id where
  polls before := by
    refine ⟨[], before + 1, ?_, rfl⟩
    rintro w rfl
    exact ⟨rfl, (List.append_nil _).symm, rfl⟩
  waits _ _ := rfl

/-- A minute is enough for a few polls. -/
theorem reading_unhurried (script : Nat → Except MonitorError (Finding String))
    (limited : pacer.maxAttempts = some limit) (few : max limit.toNat 1 < 60)
    (minute : pacer.maxElapsed = 60 * nanosPerSecond) :
    Unhurried counting (reading script) allowEmpty (pacer.restart 0) 0 := by
  intro rounds last after paced _
  have polls : after = 0 + rounds.length := paced_made (reading_plays script) paced
  have bounded : rounds.length ≤ max limit.toNat 1 := paced_bounded paced limited
  have same : (last.restart 0).maxElapsed = ((pacer.restart 0).restart 0).maxElapsed := by
    rw [paced_restart paced]
  have passed : last.elapsed (counting.uptime after) ≤ after * nanosPerSecond := by
    unfold Pacer.elapsed
    split
    · exact Nat.sub_le _ _
    · exact Nat.zero_le _
  have second : 0 < nanosPerSecond := by decide
  have whole : last.maxElapsed = 60 * nanosPerSecond := same.trans minute
  rw [whole]
  calc last.elapsed (counting.uptime after)
      ≤ after * nanosPerSecond := passed
    _ < 60 * nanosPerSecond := by
        apply Nat.mul_lt_mul_of_pos_right _ second
        omega

/-- Nothing at first, then pending, then settled with the last poll of three. -/
def late : Nat → Except MonitorError (Finding String)
  | 0 => .ok .empty
  | 1 => .ok .pending
  | _ => .ok (.ready "done")

/-- A pacer that was used for another phase before. -/
def used : Pacer :=
  { Pacer.ofSchedule ⟨60, some 3, [⟨5, 60⟩]⟩ with started := some 7, attempts := 9 }

theorem last_poll_settles :
    used.maxAttempts = some 3 ∧ used.stages ≠ [] ∧
      Ends (fun polls => pollUntil counting polls .nil true (reading late) used) id used 0 3 (.ok "done") 2 := by
  have limited : used.maxAttempts = some 3 := rfl
  have staged : used.stages ≠ [] := by decide
  have unhurried : Unhurried counting (reading late) true (used.restart 0) 0 :=
    reading_unhurried late limited (by decide) rfl
  refine ⟨limited, staged, ?_⟩
  apply (phase_follows_script (reading_plays late) rfl limited staged unhurried .nil).1 2
  · decide
  · intro i below
    rcases i with _ | _ | _
    · exact ⟨_, rfl, .empty rfl⟩
    · exact ⟨_, rfl, .pending⟩
    · omega
  · exact .ready "done"

end RemoteJobs.Proofs.PollBudgets
