import RemoteJobs.Cli.Run
import RemoteJobs.Proofs.AcceptedSettings
import RemoteJobs.Proofs.SchedulePacing
import RemoteJobs.Proofs.TrackingRuns

/-! What an accepted configuration asks of the clock and of the count of polls. The clock tells seconds of 63
bits, and a deadline beyond them ends the run; so does a poll that the count of 32 bits has no room for. No setting
is checked against either, so the laws here say which settings stay below them. The time that is left of a phase is
never less than nothing. -/
namespace RemoteJobs.Proofs.ClockBounds
open Poll Monitor SessionRuns PollRuns PollBudgets ScheduleFaults SchedulePacing WatchFrames TrackingRuns
open AcceptedSettings

variable {σ β : Type} {host : Host σ} {poll : Session σ β} {text : String}
  {config : Config} {schedule : Schedule} {settings : Ssh.Settings} {program : Ssh.Program} {client : Ssh.Client}
  {system : ExecSystem} {command : String} {strategy : MonitorStrategy} {target : Target}
  {before after between rested : σ} {next last : Pacer} {rounds : List (Round β)}
  {attempts : UInt32} {start now wait k : Nat}

/-! ### Deadlines -/

/-- The clock cannot tell a deadline exactly where the seconds of its reading and of the timeout come to more
than it has bits for. -/
theorem deadline_none_iff (now timeout : Nat) :
    Ssh.deadline? now timeout = none ↔ 2 ^ 63 ≤ now / nanosPerSecond + timeout := by
  have limit : (2 ^ 63 : Nat) = 9223372036854775808 := rfl
  rw [limit, ← Nat.not_lt]
  unfold Ssh.deadline?
  split <;> simp_all

/-- A command for which `ssh` is started: no argument holds a NUL, and there is such a program. -/
def Starts (settings : Ssh.Settings) (program : Ssh.Program) (system : ExecSystem) (command : String)
    (client : Ssh.Client) : Prop :=
  (∀ argument ∈ settings.arguments system command, '\x00' ∉ argument.toList) ∧
    (program client.calls (settings.arguments system command)).isSome = true

theorem await_halts_iff (reply : Ssh.Reply) (running : client.halted = false) :
    (Ssh.Client.await settings system reply client).2.halted = true ↔
      Ssh.deadline? client.elapsed settings.commandTimeoutSeconds = none := by
  unfold Ssh.Client.await
  generalize Ssh.deadline? client.elapsed settings.commandTimeoutSeconds = told
  cases told with
  | none => exact ⟨fun _ => rfl, fun _ => rfl⟩
  | some deadline =>
    dsimp only
    repeat' split
    all_goals simp [running]

/-- A command ends the run exactly where `ssh` is started for it and the clock cannot tell its deadline. -/
theorem execute_halts_iff (running : client.halted = false) :
    (Ssh.Client.execute settings program system command client).2.halted = true ↔
      Starts settings program system command client ∧
        2 ^ 63 ≤ client.elapsed / nanosPerSecond + settings.commandTimeoutSeconds := by
  rw [← deadline_none_iff]
  unfold Ssh.Client.execute Starts
  dsimp only
  rw [if_neg (by simp [running])]
  split
  · rename_i holdsNul
    obtain ⟨argument, member, nul⟩ := List.any_eq_true.mp holdsNul
    have marked : '\x00' ∈ argument.toList := by simpa using nul
    simp only [running, Bool.false_eq_true, false_iff]
    rintro ⟨⟨free, _⟩, _⟩
    exact free argument member marked
  · rename_i plain
    have free : ∀ argument ∈ settings.arguments system command, '\x00' ∉ argument.toList := by
      simpa using plain
    split
    · rename_i missing
      simp [running, missing]
    · rename_i reply found
      refine (await_halts_iff reply ?_).trans ?_
      · exact running
      · simp only [found, Option.isSome_some, and_true, iff_and_self]
        exact fun _ => free

/-! ### Clocks -/

/-- The host's clock runs forward: no dealing turns it back, and a pause lasts at least as long as was asked. -/
structure Timely (host : Host σ) : Prop where
  connects : ∀ system before, host.uptime before ≤ host.uptime (host.connect system before).2
  executes : ∀ system command before, host.uptime before ≤ host.uptime (host.execute system command before).2
  sleeps : ∀ nanos before, host.uptime before + nanos ≤ host.uptime (host.sleep nanos before)

/-- No poll turns the clock back. -/
def Forward (host : Host σ) (poll : Session σ β) : Prop :=
  ∀ before found dealings after, Yields poll before found dealings after → host.uptime before ≤ host.uptime after

/-- The second world is no earlier than the first. -/
def NotBefore (host : Host σ) (w w' : World σ) : Prop :=
  host.uptime w.host ≤ host.uptime w'.host

theorem forward_frame (timely : Timely host) (granted : String → Prop) :
    Frame host granted (NotBefore host) where
  refl _ := Nat.le_refl _
  trans := Nat.le_trans
  note _ _ _ _ _ := Nat.le_refl _
  connect system w := timely.connects system w.host
  execute system command _ w := timely.executes system command w.host
  sleep nanos w := Nat.le_trans (Nat.le_add_right _ _) (timely.sleeps nanos w.host)

theorem forward_stays (stays : Stays (NotBefore host) poll) : Forward host poll := by
  intro before found dealings after yields
  have onward : host.uptime before ≤ host.uptime (poll.run { host := before }).2.host :=
    stays { host := before }
  rwa [(yields { host := before } rfl).2.2] at onward

/-- On a host whose clock runs forward the polls of both phases do not turn it back. -/
theorem forward_phases (timely : Timely host) (strategy : MonitorStrategy) (target : Target) :
    Forward host (runningPoll host strategy target) ∧ Forward host (Slurm.queryQueue host target) :=
  ⟨forward_stays (stays_runningPoll (forward_frame timely (Own strategy target))),
    forward_stays (stays_slurmQueue (forward_frame timely (Own .dockerSlurm target)) rfl)⟩

theorem deadline_later {deadline timeout : Nat} (told : Ssh.deadline? now timeout = some deadline) :
    now ≤ deadline := by
  unfold Ssh.deadline? at told
  split at told
  · cases told
    omega
  · cases told

theorem await_forward (settings : Ssh.Settings) (system : ExecSystem) (reply : Ssh.Reply) (client : Ssh.Client) :
    client.elapsed ≤ (Ssh.Client.await settings system reply client).2.elapsed := by
  unfold Ssh.Client.await
  split
  · exact Nat.le_refl _
  · rename_i deadline told
    have later := deadline_later told
    dsimp only
    repeat' split
    all_goals first | exact Nat.le_refl _ | exact later

/-- The clock of the calling side runs forward. -/
theorem ssh_timely (settings : Ssh.Settings) (program : Ssh.Program) : Timely (Ssh.host settings program) where
  connects system client := by
    change client.elapsed ≤ (Ssh.Client.connect system client).2.elapsed
    unfold Ssh.Client.connect
    split <;> exact Nat.le_refl _
  executes system command client := by
    change client.elapsed ≤ (Ssh.Client.execute settings program system command client).2.elapsed
    unfold Ssh.Client.execute
    dsimp only
    repeat' split
    · exact Nat.le_refl _
    · exact Nat.le_refl _
    · exact Nat.le_refl _
    · rename_i reply _
      exact await_forward settings system reply
        { client with calls := client.calls ++ [settings.arguments system command] }
  sleeps _ _ := Nat.le_refl _

/-! ### Counts -/

/-- What pauses come to does not depend on the polls between them: they are those of a phase that never settles. -/
theorem idle_unending (timely : Timely host) :
    Unending host (pure (.ok .pending) : Session σ (Except MonitorError (Finding Unit))) false fun _ => True where
  polls before _ := ⟨.pending, [], before, yields_pure _ _, .pending, Nat.le_refl _, trivial⟩
  sleeps nanos before _ := ⟨timely.sleeps nanos before, trivial⟩

/-- While a second has passed for every poll that was counted, another second passes before the next one, and
the phase has not ended yet. -/
theorem rests_counted (valid : schedule.fault? = none) (timely : Timely host) (begun : start ≤ host.uptime between)
    (kept : attempts.toNat * nanosPerSecond ≤ host.uptime between - start)
    (rests : Rests host (inUse schedule (some start) attempts) between next rested) :
    next = inUse schedule (some start) (attempts + 1) ∧ start ≤ host.uptime rested ∧
      (attempts + 1).toNat * nanosPerSecond ≤ host.uptime rested - start ∧
      (attempts + 1).toNat ≤ schedule.maxElapsedSeconds := by
  obtain ⟨counted, _, since, progress⟩ := rests_progress valid (idle_unending timely) trivial begun rests
  obtain ⟨nanos, granted, _⟩ := rests
  have early := (inUse_grants valid granted).1
  rw [Option.getD_some] at early
  have room : attempts.toNat + 1 < 2 ^ 32 := (nextWait_eq_some.mp granted).1
  rw [succ_toNat room]
  generalize attempts.toNat = count at kept
  have below : count < schedule.maxElapsedSeconds :=
    Nat.lt_of_mul_lt_mul_right (Nat.lt_of_le_of_lt kept early)
  have within := Nat.mul_le_mul_right nanosPerSecond (Nat.succ_le_of_lt below)
  rw [Nat.succ_mul] at within
  refine ⟨counted, since, ?_, below⟩
  rw [Nat.succ_mul]
  omega

/-- Over rounds on a forward clock a second passes for each poll that the pacer counts. -/
theorem paced_counted (valid : schedule.fault? = none) (timely : Timely host) (forward : Forward host poll)
    (paced : Paced host poll (inUse schedule (some start) attempts) before rounds last after)
    (begun : start ≤ host.uptime before) (kept : attempts.toNat * nanosPerSecond ≤ host.uptime before - start)
    (within : attempts.toNat ≤ schedule.maxElapsedSeconds) :
    last.attempts.toNat ≤ schedule.maxElapsedSeconds := by
  generalize used : inUse schedule (some start) attempts = pacer at paced
  induction paced generalizing attempts with
  | last =>
    subst used
    exact within
  | next polled rests _ ih =>
    subst used
    have later := forward _ _ _ _ polled
    obtain ⟨rfl, since, passed, early⟩ := rests_counted valid timely (by omega) (by omega) rests
    exact ih since passed early rfl

/-- The rounds of a phase on the schedule, however far it has got, come to this count with the last of them. -/
def Counts (schedule : Schedule) (host : Host σ) (poll : Session σ β) (k : Nat) : Prop :=
  ∃ before rounds last after,
    Paced host poll ((Pacer.ofSchedule schedule).restart (host.uptime before)) before rounds last after ∧
      last.attempts.toNat + 1 = k

/-- One poll for each second that a phase may last and one more, and none beyond the limit. -/
def Bounded (schedule : Schedule) (k : Nat) : Prop :=
  k ≤ schedule.maxElapsedSeconds + 1 ∧ ∀ limit, schedule.maxAttempts = some limit → k ≤ limit.toNat

theorem counts_bounded (valid : schedule.fault? = none) (timely : Timely host) (forward : Forward host poll)
    (counts : Counts schedule host poll k) : Bounded schedule k := by
  obtain ⟨before, rounds, last, after, paced, rfl⟩ := counts
  have fresh : (Pacer.ofSchedule schedule).restart (host.uptime before) =
      inUse schedule (some (host.uptime before)) 0 := rfl
  rw [fresh] at paced
  have zero : (0 : UInt32).toNat * nanosPerSecond ≤ host.uptime before - host.uptime before := by simp
  have within := paced_counted valid timely forward paced (Nat.le_refl _) zero (Nat.zero_le _)
  refine ⟨Nat.succ_le_succ within, fun limit limited => ?_⟩
  have counted : last.attempts.toNat + 1 = 0 + rounds.length := paced_attempts paced
  have bounded : rounds.length ≤ max (limit.toNat - 0) 1 := paced_bounded paced limited
  have positive : 0 < limit.toNat := by
    apply Nat.pos_of_ne_zero
    intro zero
    obtain rfl : limit = 0 := UInt32.toNat_inj.mp zero
    exact ((fault_none_iff schedule).mp valid).2.1 limited
  omega

section Runs

variable {α : Type} {step : Session σ (Except MonitorError (Finding α))} {job : Uuid} {allowEmpty : Bool}
  {polls : Nat} {pacer final : Pacer} {result : Except MonitorError α} {w w' : World σ}
  {lawful : Except MonitorError (Finding α) → List HostEvent → Prop} {found : Finding α}
  {dealings : List HostEvent}

/-- A loop that goes on after an open poll goes on from where the pause ends. -/
theorem repeatPoll_onward (polled : Yields step w.host (.ok found) dealings between)
    (unsettled : Open allowEmpty found) (rests : Rests host pacer between next rested)
    (ran : (repeatPoll host job allowEmpty step (polls + 1) pacer).run w = some ((result, final), w')) :
    ∃ later, later.host = rested ∧
      (repeatPoll host job allowEmpty step polls next).run later = some ((result, final), w') := by
  obtain ⟨proceed, loop, paused⟩ := repeatPoll_open host job step polls pacer unsettled
  rw [loop] at ran
  obtain ⟨answer, middle, asked, rest⟩ := watch_bind.mp ran
  obtain ⟨rfl, _, here⟩ := completes_ran (completes_lift polled) asked rfl
  rw [paused] at rest
  obtain ⟨waited, later, waits, onward⟩ := watch_bind.mp rest
  obtain ⟨rfl, _, there⟩ := completes_ran (completes_rest job rests) waits here
  exact ⟨later, there, onward⟩

/-- There are rounds from here on whose count is not below that of the pacer in the end. -/
def Covered (host : Host σ) (step : Session σ (Except MonitorError (Finding α))) (pacer : Pacer) (before : σ)
    (final : Pacer) : Prop :=
  ∃ rounds last after, Paced host step pacer before rounds last after ∧
    final.attempts.toNat ≤ last.attempts.toNat + 1

/-- A loop that ends has gone through rounds that cover its count. Induction on the polls granted. -/
theorem repeatPoll_covered (polling : Polls step lawful)
    (ran : (repeatPoll host job allowEmpty step polls pacer).run w = some ((result, final), w')) :
    Covered host step pacer w.host final := by
  induction polls generalizing pacer w with
  | zero => cases ran
  | succ polls ih =>
    obtain ⟨found, dealings, between, polled, _⟩ := polling w.host
    have ends {value : Except MonitorError α} (completes : Completes
        (repeatPoll host job allowEmpty step (polls + 1) pacer) w.host (value, pacer) dealings between) :
        Covered host step pacer w.host final := by
      obtain ⟨same, _, _⟩ := completes_ran completes ran rfl
      cases same
      exact ⟨_, final, between, .last polled, Nat.le_succ _⟩
    have goes {finding : Finding α} (polled : Yields step w.host (.ok finding) dealings between)
        (unsettled : Open allowEmpty finding) : Covered host step pacer w.host final := by
      cases answered : pacer.nextWait (host.uptime between) with
      | none =>
        rw [repeatPoll_overflows polled unsettled answered w rfl] at ran
        cases ran
      | some answer =>
        obtain ⟨wait, next⟩ := answer
        cases wait with
        | none =>
          obtain ⟨same, _, _⟩ := completes_ran (repeatPoll_exhausted polled unsettled answered) ran rfl
          cases same
          obtain ⟨room, rfl, _⟩ := nextWait_eq_some.mp answered
          exact ⟨_, pacer, between, .last polled, Nat.le_of_eq (counted_attempts room)⟩
        | some nanos =>
          have rests : Rests host pacer between next _ := ⟨nanos, answered, rfl⟩
          obtain ⟨later, there, onward⟩ := repeatPoll_onward polled unsettled rests ran
          obtain ⟨rounds, last, after, paced, counted⟩ := ih onward
          rw [there] at paced
          exact ⟨_, last, after, .next polled rests paced, counted⟩
    cases found with
    | error e => exact ends (completes_before (completes_lift polled) (completes_pure _ _))
    | ok found =>
      cases found with
      | ready value => exact ends (completes_before (completes_lift polled) (completes_pure _ _))
      | pending => exact goes polled .pending
      | empty =>
        cases allowed : allowEmpty with
        | true => exact goes polled (.empty allowed)
        | false =>
          subst allowed
          exact ends (completes_before (completes_lift polled) (completes_pure _ _))

theorem run_bounded (valid : schedule.fault? = none) (timely : Timely host) (forward : Forward host step)
    (polling : Polls step lawful) {started : Option Nat}
    (ran : (pollUntil host polls job allowEmpty step (inUse schedule started attempts)).run w =
      some ((result, final), w')) : Bounded schedule final.attempts.toNat := by
  rw [pollUntil_begins] at ran
  obtain ⟨rounds, last, after, paced, counted⟩ := repeatPoll_covered polling ran
  have counts : Counts schedule host step _ := ⟨_, _, _, _, paced, rfl⟩
  obtain ⟨few, below⟩ := counts_bounded valid timely forward counts
  exact ⟨Nat.le_trans counted few, fun limit limited => Nat.le_trans counted (below limit limited)⟩

end Runs

/-- On every forward clock the count of a phase fits into 32 bits. -/
def CountFits (schedule : Schedule) : Prop :=
  ∀ (σ β : Type) (host : Host σ) (poll : Session σ β) (k : Nat), Timely host → Forward host poll →
    Counts schedule host poll k → k < 2 ^ 32

/-- A poll every second, and no limit on polls. -/
def everySecond (seconds : Nat) : Schedule :=
  ⟨seconds, none, [⟨1, 1⟩]⟩

theorem everySecond_valid {seconds : Nat} (lasts : 0 < seconds) : (everySecond seconds).fault? = none :=
  (fault_none_iff _).mpr ⟨lasts, by simp [everySecond], by simp [everySecond], by simp [everySecond],
    by simp [everySecond], by simp [everySecond]⟩

theorem sleeping_timely : Timely sleeping where
  connects _ _ := Nat.le_refl _
  executes _ _ _ := Nat.le_refl _
  sleeps _ _ := Nat.le_refl _

theorem undecided_forward : Forward sleeping undecided := by
  intro before found dealings after yields
  obtain ⟨_, _, rfl⟩ := yields_unique yields (yields_pure _ before)
  exact Nat.le_refl _

theorem everySecond_rests {seconds : Nat} (early : attempts.toNat < seconds)
    (room : attempts.toNat + 1 < 2 ^ 32) :
    Rests sleeping (inUse (everySecond seconds) (some 0) attempts) (attempts.toNat * nanosPerSecond)
      (inUse (everySecond seconds) (some 0) (attempts + 1)) ((attempts + 1).toNat * nanosPerSecond) := by
  have valid := everySecond_valid (Nat.zero_lt_of_lt early)
  have second : 0 < nanosPerSecond := by decide
  have left := Nat.mul_le_mul_right nanosPerSecond (Nat.succ_le_of_lt early)
  rw [Nat.succ_mul] at left
  rw [succ_toNat room, Nat.succ_mul]
  cases answered : (inUse (everySecond seconds) (some 0) attempts).nextWait (attempts.toNat * nanosPerSecond) with
  | none => exact absurd (nextWait_eq_none.mp answered) (Nat.not_le_of_lt room)
  | some answer =>
    obtain ⟨wait, next⟩ := answer
    obtain ⟨rfl, _⟩ := inUse_counts answered
    generalize attempts.toNat * nanosPerSecond = passed at answered left ⊢
    cases wait with
    | none =>
      have spent := (inUse_refuses (by simp [everySecond]) answered).mp rfl
      simp only [everySecond, reduceCtorEq, false_and, exists_false, Option.getD_some, false_or] at spent
      omega
    | some nanos =>
      obtain ⟨_, i, step, inForce, _, cut⟩ := inUse_grants valid answered
      have member : step ∈ (everySecond seconds).steps := List.mem_of_getElem? (inForce_there inForce)
      have only : step = ⟨1, 1⟩ := by simpa [everySecond] using member
      simp only [only, everySecond, Option.getD_some] at cut
      refine ⟨nanos, answered, ?_⟩
      rw [if_neg (by omega)]
      change _ = passed + nanos
      omega

/-- Polls that take no time come at every full second. Induction on how many there still are. -/
theorem everySecond_paced {seconds : Nat} (attempts : UInt32) (k : Nat) (within : attempts.toNat + k ≤ seconds)
    (room : attempts.toNat + k < 2 ^ 32) :
    ∃ rounds last after,
      Paced sleeping undecided (inUse (everySecond seconds) (some 0) attempts) (attempts.toNat * nanosPerSecond)
        rounds last after ∧ last.attempts.toNat = attempts.toNat + k := by
  induction k generalizing attempts with
  | zero => exact ⟨_, _, _, .last (yields_pure _ _), rfl⟩
  | succ k ih =>
    have one : (attempts + 1).toNat = attempts.toNat + 1 := succ_toNat (by omega)
    obtain ⟨rounds, last, after, paced, counted⟩ := ih (attempts + 1) (by omega) (by omega)
    exact ⟨_, last, after, .next (yields_pure _ _) (everySecond_rests (by omega) (by omega)) paced, by omega⟩

/-- With seconds enough the polls of a phase come to more than the count has room for. -/
theorem everySecond_fills {seconds : Nat} (long : 2 ^ 32 ≤ seconds + 1) :
    ∃ rounds last after,
      Paced sleeping undecided ((Pacer.ofSchedule (everySecond seconds)).restart 0) 0 rounds last after ∧
        last.attempts.toNat + 1 = 2 ^ 32 := by
  have zero : (0 : UInt32).toNat = 0 := rfl
  obtain ⟨k, full⟩ : ∃ k, k + 1 = 2 ^ 32 := ⟨_, Nat.sub_add_cancel Nat.one_le_two_pow⟩
  have within : (0 : UInt32).toNat + k ≤ seconds := by omega
  obtain ⟨rounds, last, after, paced, counted⟩ := everySecond_paced 0 k within (by omega)
  rw [zero, Nat.zero_mul] at paced
  exact ⟨rounds, last, after, paced, by omega⟩

theorem everySecond_counts {seconds : Nat} (long : 2 ^ 32 ≤ seconds + 1) :
    Counts (everySecond seconds) sleeping undecided (2 ^ 32) := by
  obtain ⟨rounds, last, after, paced, counted⟩ := everySecond_fills long
  exact ⟨0, rounds, last, after, paced, counted⟩

/-- Whatever the steps, the count fits exactly where polls are limited or the phase is short enough. -/
theorem countFits_iff (valid : schedule.fault? = none) :
    (∀ steps, Schedule.fault? { schedule with steps := steps } = none →
      CountFits { schedule with steps := steps }) ↔
        schedule.maxAttempts ≠ none ∨ schedule.maxElapsedSeconds + 1 < 2 ^ 32 := by
  constructor
  · intro fits
    by_cases unlimited : schedule.maxAttempts = none
    · right
      have lasts := ((fault_none_iff schedule).mp valid).1
      have same : everySecond schedule.maxElapsedSeconds = { schedule with steps := [⟨1, 1⟩] } := by
        rw [everySecond, unlimited]
      have fitting := fits [⟨1, 1⟩]
      rw [← same] at fitting
      refine Nat.lt_of_not_le fun long => ?_
      exact Nat.lt_irrefl _
        (fitting (everySecond_valid lasts) _ _ _ _ _ sleeping_timely undecided_forward (everySecond_counts long))
    · exact .inl unlimited
  · intro bounded steps valid σ β host poll k timely forward counts
    obtain ⟨few, below⟩ := counts_bounded valid timely forward counts
    obtain given | short := bounded
    · obtain ⟨limit, same⟩ := Option.ne_none_iff_exists'.mp given
      exact Nat.lt_of_le_of_lt (below limit same) limit.toNat_lt
    · exact Nat.lt_of_le_of_lt few short

/-! ### Results -/

/-- For an accepted configuration the clock can tell the deadline of every command that is started exactly while
the seconds of its reading and of the timeout stay below 2^63; beyond that the run ends with the command. A wait is
granted only while the phase lasts, and never outlasts it. On a forward clock a phase counts one poll for each
second it may last and one more at most, and none beyond the limit, however far it has got and when it ends; so
whatever the steps, the count fits into 32 bits exactly where polls are limited or the phase is short enough. A
phase whose open polls come to more than 32 bits has no result, however many polls are granted. -/
theorem clock_and_count_have_their_bounds (accepted : Config.parse text = .ok config) :
    (∀ now, Ssh.deadline? now config.ssh.commandTimeoutSeconds = none ↔
      2 ^ 63 ≤ now / nanosPerSecond + config.ssh.commandTimeoutSeconds) ∧
    (∀ program system command (client : Ssh.Client), client.halted = false →
      ((Ssh.Client.execute config.ssh program system command client).2.halted = true ↔
        Starts config.ssh program system command client ∧
          2 ^ 63 ≤ client.elapsed / nanosPerSecond + config.ssh.commandTimeoutSeconds)) ∧
    (∀ started attempts now wait next,
      (inUse config.monitor started attempts).nextWait now = some (some wait, next) →
      now - started.getD now < config.monitor.maxElapsedSeconds * nanosPerSecond ∧
        now - started.getD now + wait ≤ config.monitor.maxElapsedSeconds * nanosPerSecond) ∧
    (∀ (σ β : Type) (host : Host σ) (poll : Session σ β) (k : Nat), Timely host → Forward host poll →
      Counts config.monitor host poll k → Bounded config.monitor k) ∧
    (∀ (σ α : Type) (host : Host σ) (step : Session σ (Except MonitorError (Finding α)))
      (lawful : Except MonitorError (Finding α) → List HostEvent → Prop) polls job allowEmpty started attempts w
      result final w', Timely host → Forward host step → Polls step lawful →
        (pollUntil host polls job allowEmpty step (inUse config.monitor started attempts)).run w =
          some ((result, final), w') → Bounded config.monitor final.attempts.toNat) ∧
    ((∀ steps, Schedule.fault? { config.monitor with steps := steps } = none →
        CountFits { config.monitor with steps := steps }) ↔
      config.monitor.maxAttempts ≠ none ∨ config.monitor.maxElapsedSeconds + 1 < 2 ^ 32) ∧
    (∀ (σ α : Type) (host : Host σ) (step : Session σ (Except MonitorError (Finding α))) job allowEmpty started
      attempts before rounds last after,
        Paced host step ((inUse config.monitor started attempts).restart (host.uptime before)) before rounds last
          after → (∀ round ∈ rounds, LeavesOpen allowEmpty round.found) → 2 ^ 32 ≤ last.attempts.toNat + 1 →
        ∀ polls, Unfinished (pollUntil host polls job allowEmpty step (inUse config.monitor started attempts))
          before) := by
  have valid := accepted_schedule accepted
  refine ⟨fun now => deadline_none_iff now _, ?_, ?_, ?_, ?_, countFits_iff valid, ?_⟩
  · exact fun program system command client running => execute_halts_iff running
  · intro started attempts now wait next granted
    obtain ⟨early, waits⟩ := inUse_grants valid granted
    exact ⟨early, waits_within waits early⟩
  · exact fun σ β host poll k timely forward counts => counts_bounded valid timely forward counts
  · intro σ α host step lawful polls job allowEmpty started attempts w result final w' timely forward polling ran
    exact run_bounded valid timely forward polling ran
  · intro σ α host step job allowEmpty started attempts before rounds last after paced allOpen full polls
    exact pollUntil_unfinished (repeatPoll_breaks paced allOpen (nextWait_eq_none.mpr full) polls)

/-- A machine where every command prints nothing and ends well. -/
def obliging : Cli.Surroundings where
  home := none
  read _ := .error .missing
  present _ := false
  ssh _ _ := some {}
  today := ⟨86400, 0⟩

/-- Without any settings of its own a run has its commands end in time, and polls for a week at most. -/
theorem standard_stays_below :
    Ssh.deadline? (86400 * nanosPerSecond) 120 ≠ none ∧
      ¬Counts Schedule.standard (Ssh.host {} obliging.ssh)
        (runningPoll (Ssh.host {} obliging.ssh) .singularityRun launched.target) 604802 := by
  have accepted : Config.parse "" = .ok Config.standard := rfl
  obtain ⟨deadlines, _, _, counted, _, _, _⟩ := clock_and_count_have_their_bounds accepted
  constructor
  · intro untold
    have late := (deadlines _).mp untold
    revert late
    decide
  · intro counts
    have timely := ssh_timely {} obliging.ssh
    have few := (counted _ _ _ _ _ timely (forward_phases timely .singularityRun launched.target).1 counts).1
    revert few
    decide

/-- A timeout of as many seconds as a document can hold. -/
def endless : String :=
  "[ssh]\ncommand_timeout_seconds = 9223372036854775807"

/-- A poll every second, for as many seconds as 32 bits can count. -/
def tireless : String :=
  "[monitor]\nmax_elapsed_seconds = 4294967295\nstep = [[1, 1]]"

theorem endless_timeout_breaks_the_run :
    (∃ config, Config.parse endless = .ok config ∧
      Ssh.deadline? (86400 * nanosPerSecond) config.ssh.commandTimeoutSeconds = none ∧
      (Cli.runCancel obliging config launched false).exitCode = Cli.exitBroken) ∧
    ∃ config, Config.parse tireless = .ok config ∧ ¬CountFits config.monitor := by
  refine ⟨⟨_, rfl, ?_, ?_⟩, ⟨_, rfl, fun fits => ?_⟩⟩
  · decide
  · decide +kernel
  · have long : 2 ^ 32 ≤ 4294967295 + 1 := by decide
    exact Nat.lt_irrefl _ (fits _ _ _ _ _ sleeping_timely undecided_forward (everySecond_counts long))

end RemoteJobs.Proofs.ClockBounds
