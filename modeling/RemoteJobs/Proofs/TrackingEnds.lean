import RemoteJobs.Proofs.TrackingRuns
import RemoteJobs.Proofs.TransientFailures

/-! What a followed job comes to, foretold from its record and its host. The status alone says whether the first
move is allowed; then each phase of the monitor comes to an end in its own way, or to none. Since a phase is
fixed by the state of the host that it begins with, a run ends in the one way foretold. -/
namespace RemoteJobs.Proofs.TrackingEnds
open Tracker Monitor Poll SessionRuns StatusWalks PollRuns PollAnswers TrackingCourses
open TransientFailures (Waits Followable entry admitted_move concluded_ok start_direct start_waiting)

variable {σ α : Type} {host : Host σ} {polls : Nat} {pacer : Pacer} {m m' : Monitor} {job job' : Job}
  {ctx ctx' : Context} {before middle after : σ} {dealings : List HostEvent} {w w' : World σ}
  {e : MonitorError}

/-! ### Phases -/

/-- From this state of the host the watch comes to an end, or does not with the polls granted to it. -/
def Foretold (s : Watch σ α) (before : σ) : Prop :=
  (∃ a dealings after, Completes s before a dealings after) ∨ Unfinished s before

theorem foretold_phase {step : Session σ (Except MonitorError (Finding α))}
    {lawful : Except MonitorError (Finding α) → List HostEvent → Prop} (polling : Polls step lawful)
    (host : Host σ) (polls : Nat) (job : Uuid) (allowEmpty : Bool) (pacer : Pacer) (before : σ) :
    Foretold (pollUntil host polls job allowEmpty step pacer) before := by
  obtain ⟨_, _, _, _, _, _, _, completes⟩ | ⟨unfinished, _⟩ :=
    pollUntil_ends polling host polls job allowEmpty pacer before
  · exact .inl ⟨_, _, _, completes⟩
  · exact .inr unfinished

theorem queryQueue_foretold (host : Host σ) (target : Target) :
    ∃ lawful, Polls (Slurm.queryQueue host target) lawful := by
  cases assigned : target.remoteId with
  | none => exact ⟨_, queryQueue_nameless assigned⟩
  | some id => exact ⟨_, queryQueue_polls assigned⟩

theorem runningPoll_foretold (host : Host σ) (strategy : MonitorStrategy) (target : Target) :
    Polls (runningPoll host strategy target) fun _ _ => True := by
  intro before
  obtain ⟨_, _, _, looks, _⟩ := look_yields host strategy target before
  exact ⟨_, _, _, yields_runningPoll looks, trivial⟩

theorem awaitStart_foretold (host : Host σ) (polls : Nat) (m : Monitor) (before : σ) :
    Foretold (m.awaitStart host polls) before := by
  by_cases batch : m.strategy = .dockerSlurm
  · obtain ⟨lawful, polling⟩ := queryQueue_foretold host m.target
    obtain ⟨_, _, _, phase⟩ | unfinished :=
      foretold_phase polling host polls m.target.uuid m.strategy.allowsEmpty m.pacer before
    · exact .inl ⟨_, _, _, completes_awaitStart batch phase⟩
    · rw [awaitStart_polls batch]
      exact .inr (unfinished_bind unfinished)
  · have idle : m.awaitStart host polls = pure (.ok (), m) := by
      obtain ⟨strategy, target, pacer, exitCode⟩ := m
      cases strategy <;> first | rfl | exact absurd rfl batch
    rw [idle]
    exact .inl ⟨_, _, _, completes_pure _ _⟩

theorem awaitEnd_foretold (host : Host σ) (polls : Nat) (m : Monitor) (before : σ) :
    Foretold (m.awaitEnd host polls) before := by
  by_cases delegated : m.strategy = .dockerNative
  · obtain ⟨strategy, target, pacer, exitCode⟩ := m
    cases delegated
    exact .inl ⟨_, _, _, completes_lift (yields_after (yields_note _ _ _ _ _) (yields_pure _ _))⟩
  · obtain ⟨_, _, _, phase⟩ | unfinished :=
      foretold_phase (runningPoll_foretold host m.strategy m.target) host polls m.target.uuid
        m.strategy.allowsEmpty m.pacer before
    · exact .inl ⟨_, _, _, completes_awaitEnd delegated phase⟩
    · rw [awaitEnd_polls delegated]
      exact .inr (unfinished_bind unfinished)

/-! ### Ways of a followed job -/

/-- Where the running phase begins: at once, or when a batch job has left its queue. -/
inductive Reaches (host : Host σ) (polls : Nat) (m : Monitor) (job : Job) (before : σ) :
    Monitor → σ → Prop where
  | direct (direct : ¬Waits job) : Reaches host polls m job before m before
  | queued {m' : Monitor} {dealings : List HostEvent} {middle : σ} (waits : Waits job)
    (left : Completes (m.awaitStart host polls) before (.ok (), m') dealings middle) :
    Reaches host polls m job before m' middle

/-- A monitor error ends the following of a job: its monitor gives up on it in the queue or while it runs. -/
inductive GivesUp (host : Host σ) (polls : Nat) (m : Monitor) (job : Job) (before : σ) (e : MonitorError) :
    Prop where
  | queued {m' : Monitor} {dealings : List HostEvent} {after : σ} (waits : Waits job)
    (gaveUp : Completes (m.awaitStart host polls) before (.error e, m') dealings after)
  | running {m' m'' : Monitor} {middle after : σ} {dealings : List HostEvent}
    (reached : Reaches host polls m job before m' middle)
    (gaveUp : Completes (m'.awaitEnd host polls) middle (.error e, m'') dealings after)

/-- The statuses from which a job can be followed. -/
def trackable : List Status :=
  [.submittingJob, .queued, .running, .blocked, .paused]

theorem followable_iff : Followable job ↔ job.status ∈ trackable := by
  unfold Followable trackable
  cases job.jobType <;> cases job.status <;> decide

/-- A status that does not allow the first move leaves the job as it is, and its host alone. -/
theorem start_refused (barred : ¬Followable job) (host : Host σ) (polls : Nat) (m : Monitor) (before : σ) :
    ∃ e, Completes (start host polls m job) before (.error (.job e), m, job) [] before := by
  obtain ⟨waiting, illegal⟩ := not_or.mp barred
  rw [Bool.not_eq_true] at illegal
  cases kind : job.jobType with
  | fork =>
    rw [kind, entry] at illegal
    have started : Completes (start host polls m job) before _ [] before := start_fork waiting kind before
    rw [transition_refused _ _ _ _ illegal] at started
    exact ⟨_, started⟩
  | batch =>
    rw [kind, entry] at illegal
    have moved := completes_move host .queued "Job queued by the batch scheduler" job before
    rw [transition_refused _ _ _ _ illegal] at moved
    unfold start
    rw [if_neg waiting, kind]
    exact ⟨_, completes_after moved (completes_pure _ _)⟩

theorem start_reaches (followable : Followable job) (reaches : Reaches host polls m job before m' middle) :
    ∃ job' dealings, Completes (start host polls m job) before (.ok (), m', job') dealings middle ∧
      job'.status = .running := by
  cases reaches with
  | direct direct =>
    obtain ⟨job', started, running, _⟩ := start_direct followable direct host polls m before
    exact ⟨job', _, started, running⟩
  | queued waits left =>
    obtain ⟨job', started, running, _⟩ := start_waiting followable waits left
    exact ⟨job', _, started, running⟩

/-- A job that waits enters its queue first. -/
theorem queue_entered (followable : Followable job) (waits : Waits job) (host : Host σ) (before : σ) :
    ∃ fired queued, Completes (liftM (move host .queued "Job queued by the batch scheduler" job) :
      Watch σ (Except JobError Fired × Job)) before (.ok fired, queued) [] before := by
  obtain ⟨batch, waiting⟩ := waits
  have admitted : job.status.canBecome .queued = true := by
    simpa [Followable, waiting, batch, entry] using followable
  obtain ⟨fired, queued, entered, _⟩ :=
    admitted_move admitted (host.date before) "Job queued by the batch scheduler"
  have moved := completes_move host .queued "Job queued by the batch scheduler" job before
  rw [entered] at moved
  exact ⟨fired, queued, moved⟩

theorem start_givesUp (followable : Followable job) (waits : Waits job)
    (gaveUp : Completes (m.awaitStart host polls) before (.error e, m') dealings after) :
    ∃ job', Completes (start host polls m job) before (.error (.monitor e), m', job') dealings after := by
  obtain ⟨_, queued, moved⟩ := queue_entered followable waits host before
  refine ⟨queued, ?_⟩
  unfold start
  rw [if_neg waits.2, waits.1]
  exact completes_after moved (completes_before gaveUp (completes_pure _ _))

theorem start_unfinished (followable : Followable job) (waits : Waits job)
    (unfinished : Unfinished (m.awaitStart host polls) before) :
    Unfinished (start host polls m job) before := by
  obtain ⟨_, queued, moved⟩ := queue_entered followable waits host before
  unfold start
  rw [if_neg waits.2, waits.1]
  exact unfinished_later moved (unfinished_bind unfinished)

/-- The running phase is reached, or the monitor gives up before, or the queued phase has no end. -/
theorem reaches_or (host : Host σ) (polls : Nat) (m : Monitor) (job : Job) (before : σ) :
    (∃ m' middle, Reaches host polls m job before m' middle) ∨
    (∃ e, GivesUp host polls m job before e) ∨ (Waits job ∧ Unfinished (m.awaitStart host polls) before) := by
  by_cases waits : Waits job
  · obtain ⟨⟨result, m'⟩, _, _, phase⟩ | unfinished := awaitStart_foretold host polls m before
    · cases result with
      | error e => exact .inr (.inl ⟨e, .queued waits phase⟩)
      | ok _ => exact .inl ⟨_, _, .queued waits phase⟩
    · exact .inr (.inr ⟨waits, unfinished⟩)
  · exact .inl ⟨_, _, .direct waits⟩

/-! ### Following -/

theorem follow_givesUp (followable : Followable job) (givesUp : GivesUp host polls m job before e) :
    ∃ m' job' dealings after,
      Completes (follow host polls m job) before (.error (.monitor e), m', job') dealings after := by
  cases givesUp with
  | queued waits gaveUp =>
    obtain ⟨job', started⟩ := start_givesUp followable waits gaveUp
    exact ⟨_, job', _, _, follow_refused started⟩
  | running reached gaveUp =>
    obtain ⟨job', opening, started, _⟩ := start_reaches followable reached
    exact ⟨_, _, _, _, follow_completes started (finish_completes gaveUp job')⟩

/-- How the following of a job ends. -/
inductive Ending (host : Host σ) (polls : Nat) (m : Monitor) (job : Job) (before : σ) :
    Except TrackError Status → Prop where
  | refused (barred : ¬Followable job) (e : JobError) : Ending host polls m job before (.error (.job e))
  | gaveUp {e : MonitorError} (followable : Followable job) (givesUp : GivesUp host polls m job before e) :
    Ending host polls m job before (.error (.monitor e))
  | watched {outcome : Outcome} (followable : Followable job) :
    Ending host polls m job before (.ok outcome.nextStatus)

/-- The one way in which the following of a job ends, if it does. -/
theorem follow_foretold (host : Host σ) (polls : Nat) (m : Monitor) (job : Job) (before : σ) :
    (∃ result m' job' dealings after,
      Completes (follow host polls m job) before (result, m', job') dealings after ∧
        Ending host polls m job before result) ∨
    Unfinished (follow host polls m job) before := by
  by_cases followable : Followable job
  · obtain ⟨m', middle, reached⟩ | ⟨e, givesUp⟩ | ⟨waits, unfinished⟩ := reaches_or host polls m job before
    · obtain ⟨job', opening, started, running⟩ := start_reaches followable reached
      obtain ⟨⟨ended, m''⟩, dealings, after, awaited⟩ | unfinished := awaitEnd_foretold host polls m' middle
      · have followed := follow_completes started (finish_completes awaited job')
        cases ended with
        | error e => exact .inl ⟨_, _, _, _, _, followed, .gaveUp followable (.running reached awaited)⟩
        | ok outcome =>
          rw [concluded_ok running] at followed
          exact .inl ⟨_, _, _, _, _, followed, .watched followable⟩
      · exact .inr (follow_unfinished started unfinished)
    · obtain ⟨_, _, _, _, followed⟩ := follow_givesUp followable givesUp
      exact .inl ⟨_, _, _, _, _, followed, .gaveUp followable givesUp⟩
    · exact .inr (unfinished_bind (start_unfinished followable waits unfinished))
  · obtain ⟨e, started⟩ := start_refused followable host polls m before
    exact .inl ⟨_, _, _, _, _, follow_refused started, .refused followable e⟩

/-! ### Tracking -/

/-- A run that gets as far as its monitor has the result of following the job. -/
theorem track_follows {result : Except TrackError Status} (active : ctx.job.isTerminal = false)
    (choice : Monitor.choose ctx pacer = .ok m)
    (ran : (track host polls pacer ctx).run w = some ((result, ctx'), w')) :
    ∃ v m' job' v', v.host = w.host ∧ (follow host polls m ctx.job).run v = some ((result, m', job'), v') := by
  unfold track at ran
  rw [if_neg (by simp [active]), choice] at ran
  obtain ⟨_, v, noted, onward⟩ := watch_bind.mp ran
  obtain ⟨⟨ended, m', job'⟩, v', followed, closing⟩ := watch_bind.mp onward
  obtain ⟨_, tidied, _, rest⟩ := watch_bind.mp closing
  have same : v.host = w.host := by
    cases noted
    rfl
  obtain ⟨_, _, _, _, _, rfl, _⟩ | ⟨_, rfl, _⟩ | ⟨e, _, rfl, alive, _⟩ := TrackingRuns.follow_cases followed
  · cases rest
    exact ⟨v, m', job', v', same, followed⟩
  · cases rest
    exact ⟨v, m', job', v', same, followed⟩
  · obtain ⟨_, _, _, failing⟩ := watch_bind.mp rest
    obtain ⟨⟨answer, failed⟩, _, ended, rest⟩ := lift_bind.mp failing
    obtain ⟨rfl, rfl⟩ := Prod.mk.inj (TrackingRuns.move_along (failed_edge alive) ended)
    cases rest
    exact ⟨v, m', job', v', same, followed⟩

/-- The result of a run that gets as far as its monitor is decided by the status of its job and by what the
phases come to. -/
theorem track_decides {result : Except TrackError Status} (active : ctx.job.isTerminal = false)
    (choice : Monitor.choose ctx pacer = .ok m)
    (ran : (track host polls pacer ctx).run w = some ((result, ctx'), w')) :
    ((∃ e, result = .error (.job e)) ↔ ctx.job.status ∉ trackable) ∧
    (∀ e, result = .error (.monitor e) ↔
      ctx.job.status ∈ trackable ∧ GivesUp host polls m ctx.job w.host e) ∧
    ∀ e, result ≠ .error (.dispatch e) := by
  obtain ⟨v, _, _, _, same, followed⟩ := track_follows active choice ran
  have given {e : MonitorError} (allowed : ctx.job.status ∈ trackable)
      (givesUp : GivesUp host polls m ctx.job w.host e) : result = .error (.monitor e) := by
    obtain ⟨_, _, _, _, foreseen⟩ := follow_givesUp (followable_iff.mpr allowed) givesUp
    obtain ⟨met, _⟩ := completes_ran foreseen followed same
    exact congrArg Prod.fst met
  obtain ⟨foretold, _, _, _, _, foreseen, ending⟩ | unfinished :=
    follow_foretold host polls m ctx.job w.host
  · obtain ⟨met, _⟩ := completes_ran foreseen followed same
    obtain rfl : result = foretold := congrArg Prod.fst met
    cases ending with
    | refused barred e =>
      exact ⟨⟨fun _ => mt followable_iff.mpr barred, fun _ => ⟨e, rfl⟩⟩,
        fun _ => ⟨nofun, fun gaveUp => given gaveUp.1 gaveUp.2⟩, nofun⟩
    | gaveUp followable givesUp =>
      refine ⟨⟨nofun, fun barred => absurd (followable_iff.mp followable) barred⟩, fun e => ⟨?_, ?_⟩, nofun⟩
      · rintro ⟨⟩
        exact ⟨followable_iff.mp followable, givesUp⟩
      · exact fun gaveUp => given gaveUp.1 gaveUp.2
    | watched followable =>
      exact ⟨⟨nofun, fun barred => absurd (followable_iff.mp followable) barred⟩,
        fun _ => ⟨nofun, fun gaveUp => given gaveUp.1 gaveUp.2⟩, nofun⟩
  · rw [unfinished v same] at followed
    cases followed

end RemoteJobs.Proofs.TrackingEnds
