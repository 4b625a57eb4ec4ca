import RemoteJobs.Proofs.CancelAttempts
import RemoteJobs.Proofs.TrackingRuns

/-! Histories of a job record. A job is tracked and cancelled any number of times, by calls that each meet
a host of their own; what holds of the record throughout is what every single call preserves. -/
namespace RemoteJobs.Proofs.CallHistories
open Tracker Poll SessionRuns StatusWalks CancelAttempts TrackingRuns

/-! ### Calls -/

inductive Request where
  | track (polls : Nat) (pacer : Pacer)
  | cancel

/-- A request to the tracker, and the host that it meets. -/
structure Call where
  σ : Type
  host : Host σ
  before : σ
  request : Request

/-- What came of a call: its answer, the record afterwards and the dealings with its host. -/
structure Reply where
  answer : Except TrackError Status
  after : Context
  dealings : List HostEvent

/-- Tracking has no reply where its polls are used up before a phase is over. -/
def Call.reply (call : Call) (ctx : Context) : Option Reply :=
  match call.request with
  | .track polls pacer =>
    ((track call.host polls pacer ctx).run { host := call.before }).map fun ((answer, after), w) =>
      ⟨answer, after, w.trace⟩
  | .cancel =>
    let ((answer, after), w) := (cancel call.host ctx).run { host := call.before }
    some ⟨answer, after, w.trace⟩

/-- The replies to a sequence of calls, each made on the record that the one before it left, and the record
that the last one leaves. -/
def history : List Call → Context → Option (List Reply × Context)
  | [], ctx => some ([], ctx)
  | call :: later, ctx => do
    let reply ← call.reply ctx
    let (replies, last) ← history later reply.after
    return (reply :: replies, last)

variable {σ : Type} {host : Host σ} {polls : Nat} {pacer : Pacer} {m : Monitor} {job later : Job}
  {ctx ctx' : Context} {w w' : World σ} {call : Call} {reply : Reply} {calls : List Call}
  {replies : List Reply}

theorem history_cons : history (call :: calls) ctx = some (replies, ctx') ↔
    ∃ reply rest, call.reply ctx = some reply ∧ history calls reply.after = some (rest, ctx') ∧
      replies = reply :: rest := by
  simp only [history, Option.bind_eq_bind, Option.bind_eq_some_iff]
  constructor
  · rintro ⟨reply, replied, ⟨rest, last⟩, onward, joined⟩
    cases joined
    exact ⟨reply, rest, replied, onward, rfl⟩
  · rintro ⟨reply, rest, replied, onward, rfl⟩
    exact ⟨reply, replied, (rest, ctx'), onward, rfl⟩

/-! ### Archiving jobs -/

theorem move_barred {target : Status} (host : Host σ) (message : String)
    (illegal : job.status.canBecome target = false) (w : World σ) :
    ∃ e w', (move host target message job).run w = ((.error e, job), w') := by
  rw [move_run, transition_refused _ target message job illegal]
  exact ⟨_, _, rfl⟩

/-- From ARCHIVING neither QUEUED nor RUNNING can be reached by one move, so the very first is refused. -/
theorem start_archiving (archiving : job.status = .archiving) (host : Host σ) (polls : Nat)
    (m : Monitor) (w : World σ) :
    ∃ e w', (start host polls m job).run w = some ((.error (.job e), m, job), w') := by
  unfold start
  rw [if_neg (by simp [archiving])]
  cases job.jobType with
  | fork =>
    have illegal : job.status.canBecome .running = false := by rw [archiving]; rfl
    obtain ⟨e, w', moved⟩ := move_barred host "Job running on the execution system" illegal w
    exact ⟨e, w', lift_bind.mpr ⟨(.error e, job), w', moved, rfl⟩⟩
  | batch =>
    have illegal : job.status.canBecome .queued = false := by rw [archiving]; rfl
    obtain ⟨e, w', moved⟩ := move_barred host "Job queued by the batch scheduler" illegal w
    exact ⟨e, w', lift_bind.mpr ⟨(.error e, job), w', moved, rfl⟩⟩

theorem follow_archiving (archiving : job.status = .archiving) (host : Host σ) (polls : Nat)
    (m : Monitor) (w : World σ) :
    ∃ e w', (follow host polls m job).run w = some ((.error (.job e), m, job), w') := by
  obtain ⟨e, w', started⟩ := start_archiving archiving host polls m w
  exact ⟨e, w', watch_bind.mpr ⟨_, w', started, rfl⟩⟩

/-- A job that is ARCHIVING cannot be tracked again; its record stays as it is. -/
theorem track_archiving {result : Except TrackError Status} (archiving : ctx.job.status = .archiving)
    (ran : (track host polls pacer ctx).run w = some ((result, ctx'), w')) : ctx' = ctx := by
  unfold track at ran
  rw [if_neg (by simp [Job.isTerminal, archiving, Status.isTerminal])] at ran
  cases choice : Monitor.choose ctx pacer with
  | error e =>
    simp only [choice] at ran
    cases ran
    rfl
  | ok m =>
    simp only [choice] at ran
    obtain ⟨_, before, _, onward⟩ := watch_bind.mp ran
    obtain ⟨_, followed, phases, closing⟩ := watch_bind.mp onward
    obtain ⟨e, _, refused⟩ := follow_archiving archiving host polls m before
    rw [refused] at phases
    cases phases
    obtain ⟨_, _, _, rest⟩ := watch_bind.mp closing
    cases rest
    rfl

/-! ### One call -/

/-- What one call can make of a record. -/
inductive Became (job : Job) : Job → Prop where
  | same : Became job job
  /-- The end of the remote side was seen, and the record carries it for the first time. -/
  | recorded {later : Job} {outcome : Outcome} (active : job.isTerminal = false)
    (early : job.status ≠ .archiving) (reported : later.remoteOutcome = some outcome)
    (status : later.status = outcome.nextStatus) : Became job later
  | failed {later : Job} (active : job.isTerminal = false) (early : job.status ≠ .archiving)
    (same : SameButStatus job later) (status : later.status = .failed) : Became job later
  | cancelled {later : Job} (active : job.isTerminal = false) (same : SameButStatus job later)
    (status : later.status = .cancelled) : Became job later

theorem became_track {result : Except TrackError Status}
    (ran : (track host polls pacer ctx).run w = some ((result, ctx'), w')) :
    Became ctx.job ctx'.job := by
  -- The ways in which a run can end do not say by themselves that an ARCHIVING job neither fails nor is
  -- recorded again.
  by_cases archiving : ctx.job.status = .archiving
  · rw [track_archiving archiving ran]
    exact .same
  · cases track_cases ran with
    | settled => exact .same
    | undispatched => exact .same
    | refused => exact .same
    | unwatched active _ moved failed _ => exact .failed active archiving moved.same failed
    | recorded active _ _ _ _ _ _ recorded _ =>
      exact .recorded active archiving recorded.reported recorded.status

theorem became_reply (replied : call.reply ctx = some reply) : Became ctx.job reply.after.job := by
  unfold Call.reply at replied
  cases request : call.request with
  | track polls pacer =>
    rw [request] at replied
    obtain ⟨⟨⟨answer, after⟩, w⟩, ran, rfl⟩ := Option.map_eq_some_iff.mp replied
    exact became_track ran
  | cancel =>
    rw [request] at replied
    cases ran : (cancel call.host ctx).run { host := call.before } with
    | mk result w =>
      obtain ⟨answer, after⟩ := result
      rw [ran] at replied
      cases replied
      obtain rfl | ⟨active, now, rfl⟩ := cancel_cases ran
      · exact .same
      · exact .cancelled active rfl rfl

/-- A job that has ended answers every call with its status, and neither record nor host is touched. -/
theorem reply_ended (terminal : ctx.job.isTerminal = true) (call : Call) :
    call.reply ctx = some ⟨.ok ctx.job.status, ctx, []⟩ := by
  unfold Call.reply
  cases call.request with
  | track polls pacer =>
    simp only [track, if_pos terminal]
    rfl
  | cancel =>
    simp only [cancel, if_pos terminal]
    rfl

/-! ### The record throughout -/

/-- The remote outcome, the exit code and the status of a record fit together. -/
structure Coherent (job : Job) : Prop where
  failed : job.remoteOutcome = some .failed → job.status = .failed
  ended : job.remoteOutcome = some .finished ∨ job.remoteOutcome = some .delegated →
    job.status = .archiving ∨ job.status = .cancelled
  informed : job.remoteResultInfo.isSome → job.remoteOutcome.isSome

/-- Nothing of the remote side is recorded yet. -/
structure Fresh (job : Job) : Prop where
  outcome : job.remoteOutcome = none
  info : job.remoteResultInfo = none

theorem coherent_fresh (fresh : Fresh job) : Coherent job where
  failed := by simp [fresh.outcome]
  ended := by simp [fresh.outcome]
  informed := by simp [fresh.info]

/-- With an outcome recorded, an active job is ARCHIVING: the other statuses that an outcome leads to are
terminal. -/
theorem archiving_of_outcome {outcome : Outcome} (coherent : Coherent job)
    (active : job.isTerminal = false) (reported : job.remoteOutcome = some outcome) :
    job.status = .archiving := by
  have moved (ended : job.remoteOutcome = some .finished ∨ job.remoteOutcome = some .delegated) :
      job.status = .archiving := by
    obtain archiving | cancelled := coherent.ended ended
    · exact archiving
    · rw [Job.isTerminal, cancelled] at active
      cases active
  cases outcome with
  | failed =>
    rw [Job.isTerminal, coherent.failed reported] at active
    cases active
  | finished => exact moved (.inl reported)
  | delegated => exact moved (.inr reported)

/-- So a job that can still be tracked has no outcome yet. -/
theorem unreported_of_early (coherent : Coherent job) (active : job.isTerminal = false)
    (early : job.status ≠ .archiving) : job.remoteOutcome = none := by
  cases reported : job.remoteOutcome with
  | none => rfl
  | some outcome => exact absurd (archiving_of_outcome coherent active reported) early

/-- One call keeps a recorded outcome. -/
theorem outcome_kept {outcome : Outcome} (coherent : Coherent job) (became : Became job later)
    (reported : job.remoteOutcome = some outcome) : later.remoteOutcome = some outcome := by
  cases became with
  | same => exact reported
  | recorded active early =>
    rw [unreported_of_early coherent active early] at reported
    cases reported
  | failed _ _ same => rw [same_outcome same, reported]
  | cancelled _ same => rw [same_outcome same, reported]

/-- One call keeps the record coherent. -/
theorem coherent_step (coherent : Coherent job) (became : Became job later) : Coherent later := by
  cases became with
  | same => exact coherent
  | @recorded _ outcome _ _ reported status =>
    constructor
    case failed =>
      intro failed
      rw [reported, Option.some.injEq] at failed
      rw [status, failed]
      rfl
    case ended =>
      rw [reported, status]
      rintro (finished | delegated)
      · cases finished
        exact .inl rfl
      · cases delegated
        exact .inl rfl
    case informed => simp [reported]
  | failed active early same status =>
    -- The job fails without a word of its remote side, so there must not be an outcome yet.
    have outcome : later.remoteOutcome = none := by
      rw [same_outcome same, unreported_of_early coherent active early]
    constructor
    case failed => simp [outcome]
    case ended => simp [outcome]
    case informed =>
      rw [same_info same, outcome, ← unreported_of_early coherent active early]
      exact coherent.informed
  | cancelled active same status =>
    constructor
    case failed =>
      intro failed
      rw [same_outcome same] at failed
      rw [Job.isTerminal, coherent.failed failed] at active
      cases active
    case ended => exact fun _ => .inr status
    case informed =>
      rw [same_outcome same, same_info same]
      exact coherent.informed

/-! ### Whole histories -/

/-- Along a history the record stays coherent and keeps the outcome that it has. -/
theorem history_coherent (coherent : Coherent ctx.job) (ran : history calls ctx = some (replies, ctx')) :
    Coherent ctx'.job ∧
      ∀ outcome, ctx.job.remoteOutcome = some outcome → ctx'.job.remoteOutcome = some outcome := by
  induction calls generalizing ctx replies with
  | nil =>
    cases ran
    exact ⟨coherent, fun _ reported => reported⟩
  | cons call calls ih =>
    obtain ⟨reply, rest, replied, onward, _⟩ := history_cons.mp ran
    have became := became_reply replied
    obtain ⟨last, kept⟩ := ih (coherent_step coherent became) onward
    exact ⟨last, fun outcome reported => kept outcome (outcome_kept coherent became reported)⟩

theorem history_ended (terminal : ctx.job.isTerminal = true) (calls : List Call) :
    history calls ctx = some (calls.map fun _ => ⟨.ok ctx.job.status, ctx, []⟩, ctx) := by
  induction calls with
  | nil => rfl
  | cons call calls ih =>
    exact history_cons.mpr ⟨_, _, reply_ended terminal call, ih, rfl⟩

/-- Whatever a job is put through after its remote side was unheard of: outcome, exit code and status fit
together, an outcome once recorded stays, and once the job has ended every call is answered with its status
while record and host are left alone. -/
theorem every_history_is_coherent (fresh : Fresh ctx.job)
    (ran : history calls ctx = some (replies, ctx')) :
    Coherent ctx'.job ∧
    (ctx'.job.isTerminal = true → ∀ further,
      history further ctx' = some (further.map fun _ => ⟨.ok ctx'.job.status, ctx', []⟩, ctx')) ∧
    ∀ outcome, ctx'.job.remoteOutcome = some outcome → ∀ further answers last,
      history further ctx' = some (answers, last) → last.job.remoteOutcome = some outcome := by
  have coherent := (history_coherent (coherent_fresh fresh) ran).1
  refine ⟨coherent, fun terminal further => history_ended terminal further, ?_⟩
  intro outcome reported further answers last onward
  exact (history_coherent coherent onward).2 outcome reported

/-- A host where the launcher has gone and left an exit code of zero. -/
def settled : Scripted.Stage where
  scripts := [⟨"ps", [⟨"4000     1 Ss   u bash", 0⟩]⟩, ⟨"cat", [⟨"0\n", 0⟩]⟩]
  today := ⟨86400, 0⟩

/-- A launched job is tracked to its end, tracked in vain from ARCHIVING, and cancelled over a line that
loses the kill. -/
def pursuit : List Call :=
  [⟨_, Scripted.host, settled, .track 1 (.immediate 1)⟩,
    ⟨_, Scripted.host, deserted, .track 3 (.immediate 3)⟩,
    ⟨_, Scripted.host, severed, .cancel⟩]

theorem cancelled_while_archiving_keeps_outcome :
    ∃ replies ctx', history pursuit launched = some (replies, ctx') ∧
      ctx'.job.status = .cancelled ∧ ctx'.job.remoteOutcome = some .finished ∧ Coherent ctx'.job ∧
      ∀ further, history further ctx' = some (further.map fun _ => ⟨.ok .cancelled, ctx', []⟩, ctx') := by
  have returns : (history pursuit launched).map
      (fun r => (r.2.job.status, r.2.job.remoteOutcome)) = some (.cancelled, some .finished) := by
    decide +kernel
  obtain ⟨⟨replies, ctx'⟩, ran, ends⟩ := Option.map_eq_some_iff.mp returns
  obtain ⟨status, outcome⟩ := Prod.mk.inj ends
  obtain ⟨coherent, ended, _⟩ := every_history_is_coherent ⟨rfl, rfl⟩ ran
  refine ⟨replies, ctx', ran, status, outcome, coherent, fun further => ?_⟩
  have answered := ended (by rw [Job.isTerminal, status]; rfl) further
  rwa [status] at answered

end RemoteJobs.Proofs.CallHistories
