import RemoteJobs.Tracker
import RemoteJobs.Proofs.CancelAttempts
import RemoteJobs.Proofs.PollAnswers

/-! Following a job forward. Once it is known what the polls of each phase come to, it is known what the
phase, the monitor and the whole run come to: which record is left, which dealings the host sees, and that
there is a result at all. -/
namespace RemoteJobs.Proofs.TrackingCourses
open Tracker Session Monitor Poll SessionRuns SingularityQueries PollRuns PollAnswers CancelAttempts

variable {σ : Type} {host : Host σ} {polls : Nat} {pacer last : Pacer} {m m' : Monitor} {job job' : Job}
  {ctx : Context} {before after tidied : σ} {dealings tidying : List HostEvent} {w w' : World σ}

/-! ### Dispatch -/

/-- Batch jobs, and only these, are watched through their scheduler. -/
theorem batch_iff {strategy : MonitorStrategy} (dispatched : MonitorStrategy.choose ctx = .ok strategy) :
    ctx.job.jobType = .batch ↔ strategy = .dockerSlurm := by
  unfold MonitorStrategy.choose at dispatched
  cases resolved : StrategyKey.resolve ctx with
  | error e =>
    rw [resolved] at dispatched
    cases dispatched
  | ok key =>
    have kind : key.jobType = ctx.job.jobType := by
      unfold StrategyKey.resolve at resolved
      dsimp only at resolved
      repeat' split at resolved
      all_goals cases resolved <;> simp_all
    rw [resolved] at dispatched
    obtain ⟨job, jobType, runtime, mode, scheduler⟩ := key
    obtain rfl : jobType = ctx.job.jobType := kind
    dsimp only at dispatched
    split at dispatched <;> cases dispatched <;> simp_all

theorem choose_monitor {strategy : MonitorStrategy} (dispatched : MonitorStrategy.choose ctx = .ok strategy)
    (pacer : Pacer) : Monitor.choose ctx pacer = .ok ⟨strategy, ctx.target, pacer, none⟩ := by
  unfold Monitor.choose
  rw [dispatched]
  rfl

/-! ### Phases of a monitor -/

/-- The monitor after a running phase: it knows the exit code that the last poll saw. -/
def watchedTo (m : Monitor) (found : Except MonitorError (Outcome × Option String)) (pacer : Pacer) : Monitor :=
  { m with
    pacer := pacer
    exitCode := match found with
      | .ok (_, exitCode) => exitCode
      | .error _ => m.exitCode }

/-- Unless a container is watched elsewhere, a running phase is a loop of looks at the job. -/
theorem awaitEnd_polls (polled : m.strategy ≠ .dockerNative) :
    m.awaitEnd host polls = (do
      let (found, pacer) ← pollUntil host polls m.target.uuid m.strategy.allowsEmpty
        (runningPoll host m.strategy m.target) m.pacer
      return (found.map Prod.fst, watchedTo m found pacer)) := by
  obtain ⟨strategy, target, pacer, exitCode⟩ := m
  cases strategy with
  | dockerNative => exact absurd rfl polled
  | singularityStart | singularityRun | dockerSlurm =>
    refine bind_congr fun ended => ?_
    obtain ⟨found, last⟩ := ended
    cases found <;> rfl

theorem completes_awaitEnd {found : Except MonitorError (Outcome × Option String)}
    (polled : m.strategy ≠ .dockerNative)
    (phase : Completes (pollUntil host polls m.target.uuid m.strategy.allowsEmpty
      (runningPoll host m.strategy m.target) m.pacer) before (found, last) dealings after) :
    Completes (m.awaitEnd host polls) before (found.map Prod.fst, watchedTo m found last) dealings after := by
  rw [awaitEnd_polls polled]
  exact completes_before phase (completes_pure _ _)

/-- A running phase that comes to an end is a loop that does. -/
theorem awaitEnd_ran {result : Except MonitorError Outcome} (polled : m.strategy ≠ .dockerNative)
    (ran : (m.awaitEnd host polls).run w = some ((result, m'), w')) :
    ∃ found pacer, (pollUntil host polls m.target.uuid m.strategy.allowsEmpty
        (runningPoll host m.strategy m.target) m.pacer).run w = some ((found, pacer), w') ∧
      result = found.map Prod.fst ∧ m' = watchedTo m found pacer := by
  rw [awaitEnd_polls polled] at ran
  obtain ⟨⟨found, pacer⟩, middle, phase, rest⟩ := watch_bind.mp ran
  cases rest
  exact ⟨found, pacer, phase, rfl, rfl⟩

/-- Only a batch job's queued phase asks the host anything. -/
theorem awaitStart_polls (batch : m.strategy = .dockerSlurm) :
    m.awaitStart host polls = (do
      let (result, pacer) ← pollUntil host polls m.target.uuid m.strategy.allowsEmpty
        (Slurm.queryQueue host m.target) m.pacer
      return (result, { m with pacer := pacer })) := by
  unfold awaitStart
  rw [batch]

theorem completes_awaitStart {left : Except MonitorError Unit} (batch : m.strategy = .dockerSlurm)
    (phase : Completes (pollUntil host polls m.target.uuid m.strategy.allowsEmpty
      (Slurm.queryQueue host m.target) m.pacer) before (left, last) dealings after) :
    Completes (m.awaitStart host polls) before (left, { m with pacer := last }) dealings after := by
  rw [awaitStart_polls batch]
  exact completes_before phase (completes_pure _ _)

theorem awaitStart_ran {result : Except MonitorError Unit} (batch : m.strategy = .dockerSlurm)
    (ran : (m.awaitStart host polls).run w = some ((result, m'), w')) :
    ∃ pacer, (pollUntil host polls m.target.uuid m.strategy.allowsEmpty
        (Slurm.queryQueue host m.target) m.pacer).run w = some ((result, pacer), w') ∧
      m' = { m with pacer := pacer } := by
  rw [awaitStart_polls batch] at ran
  obtain ⟨⟨left, pacer⟩, middle, phase, rest⟩ := watch_bind.mp ran
  cases rest
  exact ⟨pacer, phase, rfl⟩

/-- Without a remote id a phase ends before the host is asked anything. -/
theorem awaitEnd_nameless {result : Except MonitorError Outcome} (polled : m.strategy ≠ .dockerNative)
    (unassigned : m.target.remoteId = none)
    (ran : (m.awaitEnd host polls).run w = some ((result, m'), w')) :
    result = .error (.missingRemoteId m.target.uuid) ∧ w'.trace = w.trace ∧ m'.exitCode = m.exitCode := by
  obtain ⟨found, pacer, phase, rfl, rfl⟩ := awaitEnd_ran polled ran
  obtain ⟨rounds, lawful, ended, trace⟩ := pollUntil_rounds (runningPoll_nameless polled unassigned) phase
  obtain ⟨rfl, nothing⟩ := nameless_ended lawful ended
  exact ⟨rfl, by rw [trace, nothing, List.append_nil], rfl⟩

theorem awaitStart_nameless {result : Except MonitorError Unit} (batch : m.strategy = .dockerSlurm)
    (unassigned : m.target.remoteId = none)
    (ran : (m.awaitStart host polls).run w = some ((result, m'), w')) :
    result = .error (.missingRemoteId m.target.uuid) ∧ w'.trace = w.trace ∧ m'.exitCode = m.exitCode := by
  obtain ⟨pacer, phase, rfl⟩ := awaitStart_ran batch ran
  obtain ⟨rounds, lawful, ended, trace⟩ := pollUntil_rounds (queryQueue_nameless unassigned) phase
  obtain ⟨rfl, nothing⟩ := nameless_ended lawful ended
  exact ⟨rfl, by rw [trace, nothing, List.append_nil], rfl⟩

/-- Cleaning up asks for one connection at most, and for none where there is no remote id. -/
theorem cleanUp_yields (host : Host σ) (m : Monitor) (before : σ) :
    ∃ dealings after, Yields (m.cleanUp host) before () dealings after ∧ attempts dealings ≤ 1 ∧
      (m.target.remoteId = none → dealings = []) := by
  have watching (mode : SingularityMode) : ∃ dealings after,
      Yields (Singularity.cleanUp host mode m.target) before () dealings after ∧ attempts dealings ≤ 1 ∧
        (m.target.remoteId = none → dealings = []) := by
    cases assigned : m.target.remoteId with
    | none => exact ⟨[], before, yields_cleanUp_unassigned assigned before, Nat.zero_le 1, fun _ => rfl⟩
    | some id =>
      by_cases lists : ∃ output after, Lists host m.target.system before output after
      · obtain ⟨output, after, lists⟩ := lists
        refine ⟨_, _, yields_cleanUp assigned lists, ?_, by simp⟩
        unfold tidyingOf
        split <;> simp [attempts, listingOf]
      · have unlisted : ∀ output after, ¬Lists host m.target.system before output after :=
          fun output after shows => lists ⟨output, after, shows⟩
        obtain ⟨dealings, after, yields, fruitless⟩ := yields_cleanUp_unlisted assigned unlisted
        exact ⟨dealings, after, yields, by cases fruitless <;> simp [attempts], by simp⟩
  unfold Monitor.cleanUp
  cases m.strategy with
  | dockerNative => exact ⟨[], before, yields_pure _ _, Nat.zero_le 1, fun _ => rfl⟩
  | singularityStart => exact watching .start
  | singularityRun => exact watching .run
  | dockerSlurm => exact ⟨[], before, yields_pure _ _, Nat.zero_le 1, fun _ => rfl⟩

/-! ### Moves -/

theorem completes_tell (level : Log.Level) (text : String) (details : List String) (before : σ) :
    Completes (tell level text details) before () [] before :=
  completes_lift (yields_note _ _ _ _ _)

theorem completes_move (host : Host σ) (target : Status) (message : String) (job : Job) (before : σ) :
    Completes (liftM (move host target message job) : Watch σ (Except JobError Fired × Job)) before
      (job.transition (host.date before) target message) [] before :=
  completes_lift (yields_move host target message job before)

/-! ### Following -/

/-- The message that a job carries while it runs. -/
def runningMessage : String := "Job running on the execution system"

/-- What a move comes to for a job that is being started. -/
def moveResult (m : Monitor) (moved : Except JobError Fired × Job) : Except TrackError Unit × Monitor × Job :=
  ((moved.1.mapError .job).map fun _ => (), m, moved.2)

theorem start_running (running : job.status = .running) (before : σ) :
    Completes (start host polls m job) before (.ok (), m, job) [] before := by
  unfold start
  rw [if_pos running]
  exact completes_pure _ _

theorem start_fork (waiting : job.status ≠ .running) (fork : job.jobType = .fork) (before : σ) :
    Completes (start host polls m job) before
      (moveResult m (job.transition (host.date before) .running runningMessage)) [] before := by
  unfold start
  rw [if_neg waiting, fork]
  exact completes_after (completes_move host .running runningMessage job before) (completes_pure _ _)

theorem start_batch {queued : Job} {fired : Fired} (waiting : job.status ≠ .running)
    (batch : job.jobType = .batch)
    (entered : job.transition (host.date before) .queued "Job queued by the batch scheduler" =
      (.ok fired, queued))
    (left : Completes (m.awaitStart host polls) before (.ok (), m') dealings after) :
    Completes (start host polls m job) before
      (moveResult m' (queued.transition (host.date after) .running runningMessage)) dealings after := by
  have moved := completes_move host .queued "Job queued by the batch scheduler" job before
  rw [entered] at moved
  unfold start
  rw [if_neg waiting, batch]
  refine completes_after moved (completes_before left ?_)
  exact completes_after (completes_move host .running runningMessage queued after) (completes_pure _ _)

/-- What the end of a running phase comes to: the outcome is recorded, and then the job is moved on. -/
def concluded (m : Monitor) (now : Timestamp) (job : Job) :
    Except MonitorError Outcome → Except TrackError Status × Monitor × Job
  | .error e => (.error (.monitor e), m, job)
  | .ok outcome =>
    match (job.recordResult now outcome m.exitCode).transition now outcome.nextStatus
        (endMessage outcome m.exitCode) with
    | (.error e, job) => (.error (.job e), m, job)
    | (.ok _, job) => (.ok job.status, m, job)

theorem finish_completes {ended : Except MonitorError Outcome}
    (awaited : Completes (m.awaitEnd host polls) before (ended, m') dealings after) (job : Job) :
    Completes (finish host polls m job) before (concluded m' (host.date after) job ended) dealings after := by
  refine completes_before awaited ?_
  cases ended with
  | error e => exact completes_pure _ _
  | ok outcome =>
    refine completes_after (completes_lift (yields_date host after)) (completes_after (completes_tell _ _ _ _)
      (completes_after (completes_move host _ _ _ after) ?_))
    simp only [concluded]
    cases (job.recordResult (host.date after) outcome m'.exitCode).transition (host.date after)
        outcome.nextStatus (endMessage outcome m'.exitCode) with
    | mk answer job' => cases answer <;> exact completes_pure _ _

theorem follow_refused {e : TrackError}
    (begun : Completes (start host polls m job) before (.error e, m', job') dealings after) :
    Completes (follow host polls m job) before (.error e, m', job') dealings after :=
  completes_before begun (completes_pure _ _)

theorem follow_completes {middle : σ} {opening : List HostEvent}
    {answer : Except TrackError Status × Monitor × Job}
    (begun : Completes (start host polls m job) before (.ok (), m', job') opening middle)
    (ended : Completes (finish host polls m' job') middle answer dealings after) :
    Completes (follow host polls m job) before answer (opening ++ dealings) after :=
  completes_bind begun ended

theorem follow_unfinished {middle : σ} {opening : List HostEvent}
    (begun : Completes (start host polls m job) before (.ok (), m', job') opening middle)
    (unfinished : Unfinished (m'.awaitEnd host polls) middle) :
    Unfinished (follow host polls m job) before :=
  unfinished_later begun (unfinished_bind unfinished)

/-! ### Tracking -/

theorem track_terminal (terminal : ctx.job.isTerminal = true) (before : σ) :
    Completes (track host polls pacer ctx) before (.ok ctx.job.status, ctx) [] before := by
  unfold track
  rw [if_pos terminal]
  exact completes_after (completes_tell _ _ _ _) (completes_pure _ _)

/-- Whatever following comes to, the monitor cleans up behind it. -/
theorem track_closes {result : Except TrackError Status} {answer : Except TrackError Status × Context}
    (active : ctx.job.isTerminal = false) (choice : Monitor.choose ctx pacer = .ok m)
    (closing : Completes (match result with
      | .error (.monitor e) => do
        tell .warn "monitoring failed" ["job", "error"]
        match ← move host .failed e.message job' with
        | (.error refused, job) => return (.error (.job refused), { ctx with job := job })
        | (.ok _, job) => return (.error (.monitor e), { ctx with job := job })
      | result => return (result, { ctx with job := job' })) tidied answer [] tidied)
    (followed : Completes (follow host polls m ctx.job) before (result, m', job') dealings after)
    (cleaned : Yields (m'.cleanUp host) after () tidying tidied) :
    Completes (track host polls pacer ctx) before answer (dealings ++ tidying) tidied := by
  unfold track
  rw [if_neg (by simp [active]), choice]
  exact completes_after (completes_tell _ _ _ _)
    (completes_bind followed (completes_before (completes_lift cleaned) closing))

/-- A run comes to an end once following does, and a good end is its result. -/
theorem track_followed {result : Except TrackError Status} (active : ctx.job.isTerminal = false)
    (choice : Monitor.choose ctx pacer = .ok m)
    (followed : Completes (follow host polls m ctx.job) before (result, m', job') dealings after)
    (cleaned : Yields (m'.cleanUp host) after () tidying tidied) :
    ∃ answer, Completes (track host polls pacer ctx) before answer (dealings ++ tidying) tidied ∧
      ∀ status, result = .ok status → answer = (.ok status, { ctx with job := job' }) := by
  cases result with
  | ok status =>
    exact ⟨_, track_closes active choice (completes_pure _ _) followed cleaned, fun _ same => by cases same; rfl⟩
  | error e =>
    cases e with
    | dispatch e =>
      exact ⟨_, track_closes active choice (completes_pure _ _) followed cleaned, fun _ same => by cases same⟩
    | job e =>
      exact ⟨_, track_closes active choice (completes_pure _ _) followed cleaned, fun _ same => by cases same⟩
    | monitor e =>
      have failing := completes_move host .failed e.message job' tidied
      have closing : ∃ answer, Completes (do
          tell .warn "monitoring failed" ["job", "error"]
          match ← move host .failed e.message job' with
          | (.error refused, job) => return (.error (.job refused), { ctx with job := job })
          | (.ok _, job) => return (.error (.monitor e), { ctx with job := job }) :
            Watch σ (Except TrackError Status × Context)) tidied answer [] tidied := by
        cases moved : job'.transition (host.date tidied) .failed e.message with
        | mk accepted failed =>
          rw [moved] at failing
          cases accepted <;>
            exact ⟨_, completes_after (completes_tell _ _ _ _) (completes_after failing (completes_pure _ _))⟩
      obtain ⟨answer, closing⟩ := closing
      refine ⟨answer, track_closes active choice ?_ followed cleaned, fun _ same => by cases same⟩
      exact closing

theorem track_unfinished (active : ctx.job.isTerminal = false) (choice : Monitor.choose ctx pacer = .ok m)
    (unfinished : Unfinished (follow host polls m ctx.job) before) :
    Unfinished (track host polls pacer ctx) before := by
  unfold track
  rw [if_neg (by simp [active]), choice]
  exact unfinished_later (completes_tell _ _ _ _) (unfinished_bind unfinished)

end RemoteJobs.Proofs.TrackingCourses
