import RemoteJobs.Host.Scripted
import RemoteJobs.Proofs.StatusWalks
import RemoteJobs.Proofs.TrackingCourses

/-! Two runs that differ in failed polls only. A poll that fails says nothing of the job and leaves its phase
open, so a phase with failed polls in between settles as the same phase without them; and since the record
depends on what settled the phases alone, it is the same record in the end. -/
namespace RemoteJobs.Proofs.TransientFailures
open Tracker Monitor Poll SessionRuns SingularityQueries StatusWalks PollRuns PollAnswers TrackingCourses

variable {σ τ α β : Type} {host : Host σ} {polls : Nat} {pacer : Pacer} {strategy : MonitorStrategy}
  {target : Target} {id : String} {ctx : Context} {job : Job} {m m' : Monitor} {before after : σ}
  {dealings : List HostEvent}

/-! ### Failed polls -/

/-- A poll that fails: the connection is refused, or the query itself gives no output. -/
inductive FailedPoll (strategy : MonitorStrategy) (target : Target) : List HostEvent → Prop where
  | listing {mode : SingularityMode} {dealings : List HostEvent} (watched : strategy = watcher mode)
    (fruitless : Fruitless Command.processListing dealings) : FailedPoll strategy target dealings
  | accounting {id : String} {dealings : List HostEvent} (batch : strategy = .dockerSlurm)
    (assigned : target.remoteId = some id) (fruitless : Fruitless (Command.slurmAccounting id) dealings) :
    FailedPoll strategy target dealings

/-- A failed poll of the running phase finds nothing. -/
theorem failed_running (assigned : target.remoteId = some id) (failed : FailedPoll strategy target dealings) :
    RunningPoll strategy target id .pending dealings := by
  cases failed with
  | listing watched fruitless =>
    have unlisted : RunningPoll strategy target id Reading.null.poll dealings :=
      .listed watched (.unlisted fruitless)
    exact unlisted
  | accounting batch known fruitless =>
    rw [assigned] at known
    cases known
    have unanswered : RunningPoll strategy target id Slurm.Answer.unavailable.reading.poll dealings :=
      .accounted batch (.unanswered fruitless)
    exact unanswered

/-- Nor does a failed poll of the queued phase. -/
theorem failed_queue (batch : strategy = .dockerSlurm) (assigned : target.remoteId = some id)
    (failed : FailedPoll strategy target dealings) : QueuePoll id .pending dealings := by
  cases failed with
  | listing watched => exact absurd (watched.symm.trans batch) (watcher_not_batch _)
  | accounting _ known fruitless =>
    rw [assigned] at known
    cases known
    have unanswered : QueuePoll id Slurm.Answer.unavailable.queuePoll dealings :=
      .accounted (.unanswered fruitless)
    exact unanswered

/-! ### Phases with failed polls in between -/

/-- The later rounds are answered like the former, with any number of failed ones before the last. What the
later rounds found is left open. -/
inductive Delayed (failed : List HostEvent → Prop) : List (Round β) → List (Round β) → Prop where
  | last {round other : Round β} (same : other.dealings = round.dealings) : Delayed failed [round] [other]
  | same {round other : Round β} {rounds others : List (Round β)} (same : other.dealings = round.dealings)
    (onward : Delayed failed rounds others) : Delayed failed (round :: rounds) (other :: others)
  | failed {other : Round β} {rounds others : List (Round β)} (fails : failed other.dealings)
    (onward : Delayed failed rounds others) : Delayed failed rounds (other :: others)

theorem delayed_nonempty {failed : List HostEvent → Prop} {rounds others : List (Round β)}
    (delayed : Delayed failed rounds others) : rounds ≠ [] := by
  induction delayed with
  | last | same => nofun
  | failed _ _ ih => exact ih

section Phases

variable {finds : Finding α → List HostEvent → Prop} {failed : List HostEvent → Prop} {uuid : Uuid}
  {allowEmpty : Bool} {rounds others : List (Round (Except MonitorError (Finding α)))} {value : α}

/-- What a poll finds is fixed by its dealings, and failed polls leave the phase open. -/
structure Transient (finds : Finding α → List HostEvent → Prop) (failed : List HostEvent → Prop) : Prop where
  unique : ∀ finding another dealings, finds finding dealings → finds another dealings → finding = another
  idle : ∀ dealings, failed dealings → finds .pending dealings

theorem same_round {round other : Round (Except MonitorError (Finding α))} (transient : Transient finds failed)
    (same : other.dealings = round.dealings) (lawful : Finds finds round.found round.dealings)
    (again : Finds finds other.found other.dealings) : other = round := by
  obtain ⟨found, dealings⟩ := round
  obtain ⟨found', dealings'⟩ := other
  cases same
  cases lawful with
  | found allowed =>
    cases again with
    | found allowed' => rw [transient.unique _ _ _ allowed allowed']

theorem failed_round {round : Round (Except MonitorError (Finding α))} (transient : Transient finds failed)
    (fails : failed round.dealings) (lawful : Finds finds round.found round.dealings) :
    round = ⟨.ok .pending, round.dealings⟩ := by
  obtain ⟨found, dealings⟩ := round
  cases lawful with
  | found allowed => rw [transient.unique _ _ _ allowed (transient.idle _ fails)]

/-- A phase settles with the same value when failed polls come in between. Induction on where they do. -/
theorem delayed_settles (transient : Transient finds failed) (delayed : Delayed failed rounds others)
    (lawful : ∀ round ∈ rounds, Finds finds round.found round.dealings)
    (again : ∀ round ∈ others, Finds finds round.found round.dealings)
    (ended : Ended uuid allowEmpty rounds (.ok value)) : Ended uuid allowEmpty others (.ok value) := by
  induction delayed with
  | last same =>
    rwa [same_round transient same (lawful _ List.mem_cons_self) (again _ List.mem_cons_self)]
  | same same onward ih =>
    rw [same_round transient same (lawful _ List.mem_cons_self) (again _ List.mem_cons_self)]
    cases ended with
    | settled => exact absurd rfl (delayed_nonempty onward)
    | later unsettled ended =>
      exact .later unsettled (ih (fun round member => lawful round (List.mem_cons_of_mem _ member))
        (fun round member => again round (List.mem_cons_of_mem _ member)) ended)
  | failed fails _ ih =>
    rw [failed_round transient fails (again _ List.mem_cons_self)]
    exact .later .pending (ih lawful (fun round member => again round (List.mem_cons_of_mem _ member)) ended)

end Phases

theorem running_transient (assigned : target.remoteId = some id) :
    Transient (RunningPoll strategy target id) (FailedPoll strategy target) where
  unique _ _ _ polled repeated := runningPoll_unique polled repeated
  idle _ fails := failed_running assigned fails

theorem queue_transient (batch : strategy = .dockerSlurm) (assigned : target.remoteId = some id) :
    Transient (QueuePoll id) (FailedPoll strategy target) where
  unique _ _ _ polled repeated := queuePoll_unique polled repeated
  idle _ fails := failed_queue batch assigned fails

/-! ### Runs -/

/-- The job is still to leave its scheduler's queue. -/
def Waits (job : Job) : Prop :=
  job.jobType = .batch ∧ job.status ≠ .running

/-- The status that the first move of a job of this type asks for. -/
def entry : JobType → Status
  | .fork => .running
  | .batch => .queued

/-- The job is RUNNING, or its status allows the first move that following it asks for. -/
def Followable (job : Job) : Prop :=
  job.status = .running ∨ job.status.canBecome (entry job.jobType) = true

/-- The polls of the phases that following a job comes to. -/
structure Course where
  queued : List (Round (Except MonitorError (Finding Unit)))
  running : List (Round (Except MonitorError (Finding (Outcome × Option String))))

/-- On this host these are the polls of the job's phases, with every pause between them granted. -/
inductive Hears (host : Host σ) (strategy : MonitorStrategy) (pacer : Pacer) (ctx : Context) (before : σ) :
    Course → Prop where
  | direct {rounds : List (Round (Except MonitorError (Finding (Outcome × Option String))))} {last : Pacer}
    {after : σ} (direct : ¬Waits ctx.job)
    (running : Paced host (runningPoll host strategy ctx.target) (pacer.restart (host.uptime before)) before
      rounds last after) : Hears host strategy pacer ctx before ⟨[], rounds⟩
  | queued {queue : List (Round (Except MonitorError (Finding Unit)))}
    {rounds : List (Round (Except MonitorError (Finding (Outcome × Option String))))} {left last : Pacer}
    {middle after : σ} (waits : Waits ctx.job)
    (queued : Paced host (Slurm.queryQueue host ctx.target) (pacer.restart (host.uptime before)) before
      queue left middle)
    (running : Paced host (runningPoll host strategy ctx.target) (pacer.restart (host.uptime middle)) middle
      rounds last after) : Hears host strategy pacer ctx before ⟨queue, rounds⟩

/-- Every phase settles: only its last poll ends it, and that with a value. -/
structure Settles (strategy : MonitorStrategy) (ctx : Context) (course : Course)
    (value : Outcome × Option String) : Prop where
  queued : Waits ctx.job → Ended ctx.job.uuid strategy.allowsEmpty course.queued (.ok ())
  running : Ended ctx.job.uuid strategy.allowsEmpty course.running (.ok value)

/-- Phase by phase the later course is answered like the former, with failed polls in between. -/
structure DelayedCourse (strategy : MonitorStrategy) (ctx : Context) (course delayed : Course) : Prop where
  queued : Waits ctx.job → Delayed (FailedPoll strategy ctx.target) course.queued delayed.queued
  running : Delayed (FailedPoll strategy ctx.target) course.running delayed.running

/-- The polls granted are enough for every phase. -/
structure Enough (polls : Nat) (course : Course) : Prop where
  queued : course.queued.length ≤ polls
  running : course.running.length ≤ polls

/-- The job as it is left by phases that settled with this value. -/
def followed (ctx : Context) (value : Outcome × Option String) (now : Timestamp) : Context :=
  { ctx with
    job := { ctx.job with
      status := value.1.nextStatus
      remoteOutcome := some value.1
      remoteResultInfo := value.2
      lastMessage := some (endMessage value.1 value.2)
      lastUpdated := now } }

theorem followable_active (followable : Followable job) : job.isTerminal = false := by
  unfold Job.isTerminal
  obtain running | admitted := followable
  · rw [running]
    rfl
  · exact (canBecome_iff.mp admitted).1

/-- The end of a RUNNING job is recorded, and the last move is never refused. -/
theorem concluded_ok {outcome : Outcome} (running : job.status = .running) (m : Monitor) (now : Timestamp) :
    concluded m now job (.ok outcome) = (.ok outcome.nextStatus, m, { job with
      status := outcome.nextStatus
      remoteOutcome := some outcome
      remoteResultInfo := m.exitCode
      lastMessage := some (endMessage outcome m.exitCode)
      lastUpdated := now }) := by
  have edge : outcome.nextStatus ∈ (job.recordResult now outcome m.exitCode).status.targets := by
    simp only [Job.recordResult, running]
    cases outcome <;> decide
  simp only [concluded]
  rw [transition_moves now outcome.nextStatus _ _ edge]
  rfl

theorem admitted_move {status : Status} (admitted : job.status.canBecome status = true) (now : Timestamp)
    (message : String) :
    ∃ fired job', job.transition now status message = (.ok fired, job') ∧ job'.status = status ∧
      SameButStatus job job' := by
  have same := same_transition now status message job
  obtain ⟨_, moved⟩ | ⟨stays, repeated⟩ | ⟨refused, _⟩ := transition_cases now status message job
  · rw [moved] at same
    exact ⟨_, _, moved, rfl, same⟩
  · exact ⟨_, _, repeated, stays, same_refl job⟩
  · rw [admitted] at refused
    cases refused

/-- A job that need not wait is brought to RUNNING at once. -/
theorem start_direct (followable : Followable job) (direct : ¬Waits job) (host : Host σ) (polls : Nat)
    (m : Monitor) (before : σ) :
    ∃ job', Completes (start host polls m job) before (.ok (), m, job') [] before ∧ job'.status = .running ∧
      SameButStatus job job' := by
  by_cases running : job.status = .running
  · exact ⟨job, start_running running before, running, same_refl job⟩
  · have fork : job.jobType = .fork := by
      cases kind : job.jobType with
      | fork => rfl
      | batch => exact absurd ⟨kind, running⟩ direct
    have admitted : job.status.canBecome .running = true := by
      simpa [Followable, running, fork, entry] using followable
    obtain ⟨fired, job', moved, reached, same⟩ :=
      admitted_move admitted (host.date before) runningMessage
    have started : Completes (start host polls m job) before _ [] before := start_fork running fork before
    rw [moved] at started
    exact ⟨job', started, reached, same⟩

/-- A job that waits is brought to RUNNING once its monitor has seen it leave the queue. -/
theorem start_waiting {middle : σ} (followable : Followable job) (waits : Waits job)
    (left : Completes (m.awaitStart host polls) before (.ok (), m') dealings middle) :
    ∃ job', Completes (start host polls m job) before (.ok (), m', job') dealings middle ∧
      job'.status = .running ∧ SameButStatus job job' := by
  obtain ⟨batch, waiting⟩ := waits
  have admitted : job.status.canBecome .queued = true := by
    simpa [Followable, waiting, batch, entry] using followable
  obtain ⟨fired, queued, entered, inQueue, same⟩ :=
    admitted_move admitted (host.date before) "Job queued by the batch scheduler"
  have onward : queued.status.canBecome .running = true := by
    rw [inQueue]
    decide
  obtain ⟨fired', job', moved, reached, same'⟩ := admitted_move onward (host.date middle) runningMessage
  have started := start_batch waiting batch entered left
  rw [moved] at started
  exact ⟨job', started, reached, same_trans same same'⟩

theorem finish_settles {rounds : List (Round (Except MonitorError (Finding (Outcome × Option String))))}
    {value : Outcome × Option String} {last : Pacer} (polled : m.strategy ≠ .dockerNative)
    (running : job.status = .running) (same : SameButStatus ctx.job job)
    (paced : Paced host (runningPoll host m.strategy m.target) (m.pacer.restart (host.uptime before)) before
      rounds last after)
    (ended : Ended m.target.uuid m.strategy.allowsEmpty rounds (.ok value)) (enough : rounds.length ≤ polls) :
    ∃ now m', Completes (finish host polls m job) before
      (.ok value.1.nextStatus, m', (followed ctx value now).job) (dealingsOf rounds) after := by
  have awaited := completes_awaitEnd polled (pollUntil_settles paced ended enough)
  have finished := finish_completes awaited job
  rw [show (Except.ok value).map Prod.fst = (.ok value.1 : Except MonitorError Outcome) from rfl,
    concluded_ok running] at finished
  refine ⟨host.date after, watchedTo m (.ok value) last, ?_⟩
  have record : (followed ctx value (host.date after)).job = { job with
      status := value.1.nextStatus
      remoteOutcome := some value.1
      remoteResultInfo := value.2
      lastMessage := some (endMessage value.1 value.2)
      lastUpdated := host.date after } := by
    rw [same]
    rfl
  rw [record]
  exact finished

/-- A job whose phases settle is left with what settled them. -/
theorem track_settles {course : Course} {value : Outcome × Option String}
    (dispatched : MonitorStrategy.choose ctx = .ok strategy) (polled : strategy ≠ .dockerNative)
    (followable : Followable ctx.job) (heard : Hears host strategy pacer ctx before course)
    (settles : Settles strategy ctx course value) (enough : Enough polls course) :
    ∃ now dealings after, Completes (track host polls pacer ctx) before
      (.ok value.1.nextStatus, followed ctx value now) dealings after := by
  have choice := choose_monitor dispatched pacer
  have active := followable_active followable
  have closing {seen : Monitor} {now : Timestamp} {dealings : List HostEvent} {after : σ}
      (done : Completes (follow host polls ⟨strategy, ctx.target, pacer, none⟩ ctx.job) before
        (.ok value.1.nextStatus, seen, (followed ctx value now).job) dealings after) :
      ∃ now dealings after, Completes (track host polls pacer ctx) before
        (.ok value.1.nextStatus, followed ctx value now) dealings after := by
    obtain ⟨tidying, tidied, cleaned, _⟩ := cleanUp_yields host seen after
    obtain ⟨answer, completes, good⟩ := track_followed active choice done cleaned
    rw [good _ rfl] at completes
    exact ⟨now, _, tidied, completes⟩
  cases heard with
  | direct direct running =>
    obtain ⟨job', begun, status, same⟩ :=
      start_direct followable direct host polls ⟨strategy, ctx.target, pacer, none⟩ before
    obtain ⟨now, seen, finished⟩ := finish_settles (m := ⟨strategy, ctx.target, pacer, none⟩) polled status same
      running settles.running enough.running
    exact closing (follow_completes begun finished)
  | @queued queue rounds begun last middle after waits queued running =>
    have batch : strategy = .dockerSlurm := (batch_iff dispatched).mp waits.1
    have left := completes_awaitStart (m := ⟨strategy, ctx.target, pacer, none⟩) batch
      (pollUntil_settles queued (settles.queued waits) enough.queued)
    obtain ⟨job', started, status, same⟩ := start_waiting followable waits left
    -- the pacer has counted the polls of the queued phase, but the running phase starts it afresh
    have schedule : begun.restart (host.uptime middle) = pacer.restart (host.uptime middle) :=
      (paced_restart queued _).trans rfl
    rw [← schedule] at running
    obtain ⟨now, seen, finished⟩ := finish_settles (m := { strategy, target := ctx.target, pacer := begun })
      polled status same running settles.running enough.running
    exact closing (follow_completes started finished)

/-! ### Two hosts -/

theorem hears_running {course : Course}
    {lawful : Except MonitorError (Finding (Outcome × Option String)) → List HostEvent → Prop}
    (polling : Polls (runningPoll host strategy ctx.target) lawful)
    (heard : Hears host strategy pacer ctx before course) :
    ∀ round ∈ course.running, lawful round.found round.dealings := by
  cases heard with
  | direct _ running => exact paced_lawful polling running
  | queued _ _ running => exact paced_lawful polling running

theorem hears_queued {course : Course} {lawful : Except MonitorError (Finding Unit) → List HostEvent → Prop}
    (polling : Polls (Slurm.queryQueue host ctx.target) lawful)
    (heard : Hears host strategy pacer ctx before course) :
    ∀ round ∈ course.queued, lawful round.found round.dealings := by
  cases heard with
  | direct => exact nofun
  | queued _ queued _ => exact paced_lawful polling queued

/-- Phases settle only for a job that has a remote id. -/
theorem assigned_of_settles {course : Course} {value : Outcome × Option String}
    (polled : strategy ≠ .dockerNative) (heard : Hears host strategy pacer ctx before course)
    (settles : Settles strategy ctx course value) : ∃ id, ctx.target.remoteId = some id := by
  cases assigned : ctx.target.remoteId with
  | some id => exact ⟨id, rfl⟩
  | none =>
    have lawful := hears_running (runningPoll_nameless polled assigned) heard
    obtain ⟨missing, _⟩ := nameless_ended lawful settles.running
    cases missing

/-- Failed polls in between change nothing of what the phases of a job settle with. -/
theorem settles_delayed {A : Host σ} {B : Host τ} {b : τ} {course delayed : Course}
    {value : Outcome × Option String} (dispatched : MonitorStrategy.choose ctx = .ok strategy)
    (polled : strategy ≠ .dockerNative) (heard : Hears A strategy pacer ctx before course)
    (settles : Settles strategy ctx course value) (later : Hears B strategy pacer ctx b delayed)
    (inserted : DelayedCourse strategy ctx course delayed) : Settles strategy ctx delayed value := by
  obtain ⟨id, assigned⟩ := assigned_of_settles polled heard settles
  constructor
  case queued =>
    intro waits
    have batch := (batch_iff dispatched).mp waits.1
    exact delayed_settles (queue_transient batch assigned) (inserted.queued waits)
      (hears_queued (queryQueue_polls assigned) heard) (hears_queued (queryQueue_polls assigned) later)
      (settles.queued waits)
  case running =>
    exact delayed_settles (running_transient assigned) inserted.running
      (hears_running (runningPoll_polls polled assigned) heard)
      (hears_running (runningPoll_polls polled assigned) later) settles.running

/-- The two differ at most in the time of the record's latest change. -/
def SameButTime (ctx later : Context) : Prop :=
  later = { ctx with job := { ctx.job with lastUpdated := later.job.lastUpdated } }

/-- Where every phase of a job settles on one host, and another host answers alike but for failed polls in
between, all of them within the limits of the schedule, following the job comes to the same result on both and
leaves the same record. -/
theorem failed_polls_change_nothing {A : Host σ} {B : Host τ} {w : World σ} {v : World τ} {granted : Nat}
    {course delayed : Course} {value : Outcome × Option String}
    (dispatched : MonitorStrategy.choose ctx = .ok strategy) (polled : strategy ≠ .dockerNative)
    (followable : Followable ctx.job) (heard : Hears A strategy pacer ctx w.host course)
    (settles : Settles strategy ctx course value) (later : Hears B strategy pacer ctx v.host delayed)
    (inserted : DelayedCourse strategy ctx course delayed) (enough : Enough polls course)
    (more : Enough granted delayed) :
    ∃ left left' w' v', (track A polls pacer ctx).run w = some ((.ok value.1.nextStatus, left), w') ∧
      (track B granted pacer ctx).run v = some ((.ok value.1.nextStatus, left'), v') ∧
      SameButTime left left' := by
  have settles' := settles_delayed dispatched polled heard settles later inserted
  obtain ⟨now, _, _, completes⟩ := track_settles dispatched polled followable heard settles enough
  obtain ⟨now', _, _, completes'⟩ := track_settles dispatched polled followable later settles' more
  obtain ⟨w', ran, _⟩ := completes w rfl
  obtain ⟨v', ran', _⟩ := completes' v rfl
  exact ⟨_, _, w', v', ran, ran', rfl⟩

/-- A batch job that is about to be followed. -/
def submitted : Context where
  job := { Job.initial .nil ⟨0, 0⟩ .batch "cluster" "/out" with
    status := .submittingJob, remoteJobId := some "77" }
  app := ⟨"model", "0.1", .docker, none⟩
  system := ⟨"cluster", "cluster.example.org", 22, none, none, some .slurm⟩

/-- What the accounting says of the job. -/
def finished : Output :=
  ⟨"77|COMPLETED|0:0", 0⟩

/-- A host that refuses the connections listed and answers every command with the end of the job. -/
def ledger : Host (List Bool) where
  connect
    | _, true :: rest => (.error (.connectionFailed "refused"), rest)
    | _, false :: rest => (.ok (), rest)
    | _, [] => (.ok (), [])
  execute _ _ rest := (.ok finished, rest)
  uptime _ := 0
  sleep _ rest := rest
  date rest := ⟨86400 * rest.length, 0⟩

/-- The dealings of a poll that the ledger refuses. -/
def refusal : List HostEvent :=
  [.connected (.error (.connectionFailed "refused"))]

theorem ledger_refuses (rest : List Bool) :
    Yields (Slurm.ask ledger submitted.target) (true :: rest) (.ok .unavailable) refusal rest := by
  have assigned : submitted.target.remoteId = some "77" := rfl
  exact yields_refused assigned rfl

theorem ledger_answers (rest : List Bool) :
    Yields (Slurm.ask ledger submitted.target) (false :: rest) (.ok (answerOf "77" finished))
      (accountOf "77" finished) rest :=
  yields_asked rfl rfl rfl

theorem ledger_leaves (rest : List Bool) :
    Yields (Slurm.queryQueue ledger submitted.target) (false :: rest) (.ok (.ready ()))
      (accountOf "77" finished) rest := by
  have leaves : (answerOf "77" finished).queuePoll = .ready () := by decide +kernel
  have polled := yields_queryQueue (ledger_answers rest)
  rwa [Except.map, leaves] at polled

theorem ledger_closes (rest : List Bool) :
    Yields (runningPoll ledger .dockerSlurm submitted.target) (false :: rest)
      (.ok (.ready (.finished, some "0"))) (accountOf "77" finished) rest := by
  have ends : (answerOf "77" finished).reading.poll = .ready (.finished, some "0") := by decide +kernel
  have looked : Yields (look ledger .dockerSlurm submitted.target) (false :: rest)
      (.ok (answerOf "77" finished).reading) (accountOf "77" finished) rest :=
    yields_slurmQuery (ledger_answers rest)
  have polled := yields_runningPoll looked
  rwa [Except.map, ends] at polled

theorem ledger_idles (rest : List Bool) :
    Yields (runningPoll ledger .dockerSlurm submitted.target) (true :: rest) (.ok .pending) refusal rest := by
  have looked : Yields (look ledger .dockerSlurm submitted.target) (true :: rest) (.ok .null) refusal rest :=
    yields_slurmQuery (ledger_refuses rest)
  exact yields_runningPoll looked

/-- Polls back to back, at most five, of which so many are done. -/
def paced (done : UInt32) : Pacer :=
  { Pacer.immediate 5 with started := some 0, attempts := done }

theorem ledger_rests {done : UInt32} {rest : List Bool}
    (granted : (paced done).nextWait 0 = some (some 0, paced (done + 1))) :
    Rests ledger (paced done) rest (paced (done + 1)) rest :=
  ⟨0, granted, rfl⟩

/-- One connection is refused in the queue and two are while the job runs. -/
theorem refused_connections_make_no_difference :
    ∃ left left' w' v',
      (track ledger 1 (.immediate 5) submitted).run { host := [false, false] } =
        some ((.ok .archiving, left), w') ∧
      (track ledger 3 (.immediate 5) submitted).run { host := [true, false, true, true, false] } =
        some ((.ok .archiving, left'), v') ∧ SameButTime left left' := by
  have waits : Waits submitted.job := ⟨rfl, nofun⟩
  have first : (paced 0).nextWait 0 = some (some 0, paced 1) := by decide +kernel
  have second : (paced 1).nextWait 0 = some (some 0, paced 2) := by decide +kernel
  have fails : FailedPoll .dockerSlurm submitted.target refusal := .accounting rfl rfl (.refused _)
  let course : Course := ⟨[⟨.ok (.ready ()), accountOf "77" finished⟩],
    [⟨.ok (.ready (.finished, some "0")), accountOf "77" finished⟩]⟩
  let delayed : Course := ⟨⟨.ok .pending, refusal⟩ :: course.queued,
    ⟨.ok .pending, refusal⟩ :: ⟨.ok .pending, refusal⟩ :: course.running⟩
  have heard : Hears ledger .dockerSlurm (.immediate 5) submitted [false, false] course :=
    .queued waits (.last (ledger_leaves _)) (.last (ledger_closes _))
  have later : Hears ledger .dockerSlurm (.immediate 5) submitted [true, false, true, true, false] delayed :=
    .queued waits
      (.next (yields_queryQueue (ledger_refuses _)) (ledger_rests first) (.last (ledger_leaves _)))
      (.next (ledger_idles _) (ledger_rests first)
        (.next (ledger_idles _) (ledger_rests second) (.last (ledger_closes _))))
  have settles : Settles .dockerSlurm submitted course (.finished, some "0") := ⟨fun _ => .settled, .settled⟩
  have inserted : DelayedCourse .dockerSlurm submitted course delayed :=
    ⟨fun _ => .failed fails (.last rfl), .failed fails (.failed fails (.last rfl))⟩
  have enough : Enough 1 course := ⟨Nat.le_refl 1, Nat.le_refl 1⟩
  have more : Enough 3 delayed := ⟨Nat.le_succ 2, Nat.le_refl 3⟩
  have dispatched : MonitorStrategy.choose submitted = .ok .dockerSlurm := rfl
  have followable : Followable submitted.job := .inr (by decide)
  exact failed_polls_change_nothing (w := { host := [false, false] })
    (v := { host := [true, false, true, true, false] }) dispatched nofun followable heard settles later inserted
    enough more

end RemoteJobs.Proofs.TransientFailures
