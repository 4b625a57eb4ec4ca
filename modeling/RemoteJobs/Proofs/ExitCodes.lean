import RemoteJobs.Proofs.AccountingPhases
import RemoteJobs.Proofs.TrackingRuns

/-! What a monitor's exit code says. It is what the latest query saw that found the job ended, and it agrees with
what that query concluded, however often and in whatever order the monitor was used. So a job that is recorded as
FINISHED never carries the code of a failure. -/
namespace RemoteJobs.Proofs.ExitCodes
open Accounting Monitor Poll Tracker SessionRuns SingularityQueries PollRuns PollAnswers TrackingCourses
open AccountingPhases StatusWalks TrackingRuns WatchFrames

variable {σ : Type} {host : Host σ} {m m' : Monitor} {strategy : MonitorStrategy} {target : Target}
  {mode : SingularityMode} {reading : Reading} {status : RemoteStatus} {exitCode : Option String}
  {dealings : List HostEvent} {w w' : World σ}

/-! ### Conclusions -/

/-- The reading concludes that the job has ended, this way and with this exit code. -/
inductive Concluding : Reading → RemoteStatus → Option String → Prop where
  | done (exitCode : Option String) : Concluding (.done exitCode) .done exitCode
  | failed (exitCode : Option String) : Concluding (.failed exitCode) .failed exitCode

theorem toString_zero {n : Int} (same : toString n = "0") : n = 0 := by
  rw [Int.toString_eq_repr, Int.repr_eq_if] at same
  have letters := congrArg String.toList same
  split at letters
  · have digits : Nat.toDigits 10 n.toNat = ['0'] := by
      rw [← Nat.toList_repr, letters]
      rfl
    have value : Nat.ofDigitChars 10 (Nat.toDigits 10 n.toNat) 0 = n.toNat :=
      Nat.ofDigitChars_toDigits (by decide) (by decide)
    rw [digits] at value
    have zero : n.toNat = 0 := value.symm
    omega
  · rw [String.toList_append] at letters
    cases letters

theorem signed_bounds {s : List Char} {n : Int} (read : Text.readSigned32? s = some n) :
    Text.readInteger? s = some n ∧ -2147483648 ≤ n ∧ n < 2147483648 := by
  unfold Text.readSigned32? at read
  cases whole : Text.readInteger? s with
  | none => simp [whole] at read
  | some other =>
    simp only [whole, Option.ite_none_right_eq_some, Option.some.injEq] at read
    obtain ⟨bounds, rfl⟩ := read
    exact ⟨rfl, bounds⟩

/-- The decimal form of an integer other than zero that fits into 32 bits. -/
def ErrorCode (exitCode : Option String) : Prop :=
  ∃ code : Int, code ≠ 0 ∧ -2147483648 ≤ code ∧ code < 2147483648 ∧ exitCode = some (toString code)

theorem errorCode_apart (failing : ErrorCode exitCode) : ¬(exitCode = none ∨ exitCode = some "0") := by
  obtain ⟨code, nonzero, _, _, rfl⟩ := failing
  rintro (impossible | same)
  · cases impossible
  · exact nonzero (toString_zero (Option.some.inj same))

/-- The conclusion and the code that a query over a process listing comes to. -/
def Agrees (status : RemoteStatus) (exitCode : Option String) : Prop :=
  (status = .failed ∧ ErrorCode exitCode) ∨ (status = .done ∧ (exitCode = none ∨ exitCode = some "0"))

theorem agrees_iff (agrees : Agrees status exitCode) :
    (status = .failed ↔ ErrorCode exitCode) ∧ (status = .done ↔ exitCode = none ∨ exitCode = some "0") := by
  obtain ⟨rfl, failing⟩ | ⟨rfl, fine⟩ := agrees
  · have apart := errorCode_apart failing
    simp [failing, apart]
  · have apart : ¬ErrorCode exitCode := fun failing => errorCode_apart failing fine
    simp [fine, apart]

/-- An exit code file with an integer other than zero stands for a failure, and everything else does not. -/
theorem readingOfExitCode_agrees {answer : Except ExecError Output}
    (concluding : Concluding (Singularity.readingOfExitCode answer) status exitCode) :
    Agrees status exitCode := by
  unfold Singularity.readingOfExitCode at concluding
  split at concluding
  · cases concluding
    exact .inr ⟨rfl, .inl rfl⟩
  · split at concluding
    · split at concluding
      · cases concluding
        exact .inr ⟨rfl, .inr rfl⟩
      · rename_i code nonzero read
        cases concluding
        obtain ⟨_, low, high⟩ := signed_bounds read
        exact .inl ⟨rfl, code, fun zero => nonzero (by rw [zero]), low, high, rfl⟩
      · cases concluding
        exact .inr ⟨rfl, .inl rfl⟩
    · cases concluding
      exact .inr ⟨rfl, .inl rfl⟩

theorem listed_agrees (query : StatusQuery (watcher mode) target reading dealings)
    (concluding : Concluding reading status exitCode) : Agrees status exitCode := by
  cases query with
  | listed _ _ polled =>
    cases polled with
    | unlisted | blank | missing | running => cases concluding
    | gone | removed => exact readingOfExitCode_agrees concluding
  | accounted batch => exact absurd batch (watcher_not_batch mode)

/-- The exit code of a job that ended well is there, and it is zero. -/
theorem succeeded_exitStatus {r : Record} (succeeded : r.succeeded = true) :
    ∃ text, r.exitStatus? = some text ∧ Text.readSigned32? text.toList = some 0 := by
  obtain ⟨first, more, cut, _⟩ := fields_first ':' r.exitCode.toList
  have zero : Text.readSigned32? (Text.trim first) = some 0 := by
    simp only [Record.succeeded, cut, List.all_cons, Bool.and_eq_true, beq_iff_eq] at succeeded
    exact succeeded.2.1
  have filled : (Text.trim first).isEmpty = false := by
    cases shape : Text.trim first with
    | nil =>
      rw [shape] at zero
      cases zero
    | cons => rfl
  refine ⟨String.ofList (Text.trim first), ?_, by simpa using zero⟩
  unfold Record.exitStatus?
  simp [cut, filled]

theorem accounted_agrees (query : StatusQuery .dockerSlurm target reading dealings)
    (concluding : Concluding reading .done exitCode) :
    ∃ text, exitCode = some text ∧ Text.readSigned32? text.toList = some 0 := by
  cases query with
  | listed watched => exact absurd watched.symm (watcher_not_batch _)
  | @accounted _ answer _ _ _ polled =>
    cases answer with
    | unavailable => cases concluding
    | noRecord => cases concluding
    | record r =>
      simp only [Slurm.Answer.reading] at concluding
      split at concluding
      · split at concluding
        · rename_i succeeded
          cases concluding
          exact succeeded_exitStatus succeeded
        · cases concluding
      · cases concluding

/-- The exit code does not denote an integer other than zero. -/
def Harmless (exitCode : Option String) : Prop :=
  ∀ text, exitCode = some text → ∀ code, Text.readInteger? text.toList = some code → code = 0

/-- No query that concludes the job ended well sees the code of a failure. -/
theorem done_harmless (query : StatusQuery strategy target reading dealings)
    (concluding : Concluding reading .done exitCode) : Harmless exitCode := by
  intro text seen code read
  cases query with
  | @listed mode id reading dealings watched assigned polled =>
    obtain ⟨impossible, _⟩ | ⟨_, none | zero⟩ := listed_agrees (.listed rfl assigned polled) concluding
    · cases impossible
    · rw [none] at seen
      cases seen
    · rw [zero] at seen
      cases seen
      have value : Text.readInteger? "0".toList = some 0 := by decide
      rw [value] at read
      exact (Option.some.inj read).symm
  | accounted batch assigned polled =>
    obtain ⟨other, same, zero⟩ := accounted_agrees (.accounted rfl assigned polled) concluding
    rw [same] at seen
    cases seen
    rw [(signed_bounds zero).1] at read
    exact (Option.some.inj read).symm

/-! ### Calls -/

/-- What can be asked of a monitor. -/
inductive Call where
  | query (active : Bool)
  | awaitStart (polls : Nat)
  | awaitEnd (polls : Nat)
  | cleanUp

/-- The call asks for the status of the job, once or until it has ended. -/
def Call.asksStatus : Call → Bool
  | .query _ | .awaitEnd _ => true
  | .awaitStart _ | .cleanUp => false

inductive Answer where
  | status (found : Except MonitorError RemoteStatus)
  | left (result : Except MonitorError Unit)
  | ended (result : Except MonitorError Outcome)
  | cleaned

/-- What the answer concludes about a job that has ended. -/
def Answer.conclusion? : Answer → Option RemoteStatus
  | .status (.ok .done) | .ended (.ok .finished) => some .done
  | .status (.ok .failed) | .ended (.ok .failed) => some .failed
  | _ => none

/-- Carries out a call, and leaves the monitor as it is afterwards. -/
def respond (host : Host σ) (m : Monitor) : Call → Watch σ (Answer × Monitor)
  | .query active => do
    let (found, m) ← m.query host active
    return (.status found, m)
  | .awaitStart polls => do
    let (result, m) ← m.awaitStart host polls
    return (.left result, m)
  | .awaitEnd polls => do
    let (result, m) ← m.awaitEnd host polls
    return (.ended result, m)
  | .cleanUp => do
    m.cleanUp host
    return (.cleaned, m)

/-- What came of a call: its answer, its dealings with the host, and the monitor's exit code before and after. -/
structure Reply where
  call : Call
  answer : Answer
  dealings : List HostEvent
  known : Option String
  exitCode : Option String

/-- The replies to a sequence of calls, and the monitor and the world after the last. -/
def serve (host : Host σ) : List Call → Monitor → World σ → Option (List Reply × Monitor × World σ)
  | [], m, w => some ([], m, w)
  | call :: calls, m, w => do
    let ((answer, next), between) ← (respond host m call).run w
    let (replies, last, after) ← serve host calls next between
    return (⟨call, answer, between.trace.drop w.trace.length, m.exitCode, next.exitCode⟩ :: replies, last, after)

/-- The latest of some replies that concludes anything. -/
def latest? (replies : List Reply) : Option Reply :=
  (replies.filter fun reply => reply.answer.conclusion?.isSome).getLast?

/-- How the status queries behind a reply account for it. Either the last of them, and no other, found the job
ended: then the answer is what it concluded and the exit code what it saw. Or none did, and the exit code is the
one known before. -/
inductive Lawful (strategy : MonitorStrategy) (target : Target) : Reply → Prop where
  | concluded {reply : Reply} {earlier : List (Round Reading)} {last : Round Reading} {status : RemoteStatus}
    (dealt : reply.dealings = dealingsOf (earlier ++ [last]))
    (asked : ∀ query ∈ earlier ++ [last], StatusQuery strategy target query.found query.dealings)
    (unsettled : ∀ query ∈ earlier, query.found.concludes = false)
    (concluding : Concluding last.found status reply.exitCode)
    (conclusion : reply.answer.conclusion? = some status) : Lawful strategy target reply
  | idle {reply : Reply} {queries : List (Round Reading)}
    (dealt : reply.call.asksStatus = true → reply.dealings = dealingsOf queries)
    (asked : ∀ query ∈ queries, StatusQuery strategy target query.found query.dealings)
    (unsettled : ∀ query ∈ queries, query.found.concludes = false)
    (conclusion : reply.answer.conclusion? = none) (kept : reply.exitCode = reply.known) :
    Lawful strategy target reply

/-! ### One call -/

variable {call : Call} {answer : Answer} {reply : Reply} {replies : List Reply} {calls : List Call}
  {active : Bool} {polls : Nat}

/-- Without a status query a reply is lawful where it concludes nothing and leaves the exit code alone. -/
theorem lawful_unasked (dealt : reply.call.asksStatus = true → reply.dealings = [])
    (conclusion : reply.answer.conclusion? = none) (kept : reply.exitCode = reply.known) :
    Lawful strategy target reply := by
  have dealtByNone : reply.call.asksStatus = true → reply.dealings = dealingsOf ([] : List (Round Reading)) := dealt
  exact .idle dealtByNone (by simp) (by simp) conclusion kept

/-- The call leaves the monitor at the same job, and its reply is lawful. -/
structure Serves (m : Monitor) (call : Call) (w : World σ) (answer : Answer) (m' : Monitor) (w' : World σ) :
    Prop where
  strategy : m'.strategy = m.strategy
  target : m'.target = m.target
  lawful : ∃ dealings, w'.trace = w.trace ++ dealings ∧
    Lawful m.strategy m.target ⟨call, answer, dealings, m.exitCode, m'.exitCode⟩

theorem serves_query {found : Except MonitorError RemoteStatus}
    (ran : (m.query host active).run w = ((found, m'), w')) : Serves m (.query active) w (.status found) m' w' := by
  unfold Monitor.query at ran
  cases active with
  | false =>
    cases ran
    exact ⟨rfl, rfl, [], (List.append_nil _).symm, lawful_unasked (fun _ => rfl) rfl rfl⟩
  | true =>
    obtain ⟨read, dealings, after, yields, looked⟩ := look_yields host m.strategy m.target w.host
    obtain ⟨value, trace, _⟩ := yields w rfl
    rw [if_pos rfl, session_bind, value] at ran
    cases looked with
    | nameless | elsewhere =>
      cases ran
      exact ⟨rfl, rfl, [], trace, lawful_unasked (fun _ => rfl) rfl rfl⟩
    | @asked reading _ query =>
      cases ran
      refine ⟨rfl, rfl, dealings, trace, ?_⟩
      have alone : dealings = dealingsOf ([] ++ [(⟨reading, dealings⟩ : Round Reading)]) := by simp [dealingsOf]
      cases reading with
      | null | empty | active =>
        exact .idle (fun _ => alone) (by simpa using query) (by simp [Reading.concludes]) rfl rfl
      | done exitCode => exact .concluded alone (by simpa using query) (by simp) (.done exitCode) rfl
      | failed exitCode => exact .concluded alone (by simpa using query) (by simp) (.failed exitCode) rfl

theorem serves_awaitStart {result : Except MonitorError Unit}
    (ran : (m.awaitStart host polls).run w = some ((result, m'), w')) :
    Serves m (.awaitStart polls) w (.left result) m' w' := by
  obtain ⟨dealings, added, _⟩ := stays_awaitStart (sentOnly_frame host _) polls _ _ _ ran
  by_cases batch : m.strategy = .dockerSlurm
  · obtain ⟨pacer, _, rfl⟩ := awaitStart_ran batch ran
    exact ⟨rfl, rfl, dealings, added, lawful_unasked nofun rfl rfl⟩
  · unfold awaitStart at ran
    split at ran
    · contradiction
    · cases ran
      exact ⟨rfl, rfl, dealings, added, lawful_unasked nofun rfl rfl⟩

/-- A poll of the running phase reads the answer to a status query. -/
theorem runningPoll_reads (polled : strategy ≠ .dockerNative) :
    Polls (runningPoll host strategy target) (Reads (StatusQuery strategy target) Reading.poll) := by
  intro before
  obtain ⟨read, dealings, after, yields, looked⟩ := look_yields host strategy target before
  refine ⟨_, dealings, after, yields_runningPoll yields, ?_⟩
  cases looked with
  | nameless => exact .failed _
  | elsewhere delegated => contradiction
  | asked query => exact .answered query

theorem unready_open (unready : ∀ value, reading.poll ≠ .ready value) : reading.concludes = false := by
  cases reading with
  | null | empty | active => rfl
  | done | failed => exact absurd rfl (unready _)

theorem serves_awaitEnd {result : Except MonitorError Outcome}
    (ran : (m.awaitEnd host polls).run w = some ((result, m'), w')) :
    Serves m (.awaitEnd polls) w (.ended result) m' w' := by
  by_cases delegated : m.strategy = .dockerNative
  · unfold awaitEnd at ran
    rw [delegated] at ran
    cases ran
    exact ⟨rfl, rfl, [], (List.append_nil _).symm, lawful_unasked (fun _ => rfl) rfl rfl⟩
  · obtain ⟨found, pacer, phase, rfl, rfl⟩ := awaitEnd_ran delegated ran
    obtain ⟨rounds, reads, ended, trace⟩ := pollUntil_rounds (runningPoll_reads delegated) phase
    obtain ⟨queries, same, asked, decided⟩ := ended_answers reads ended
    refine ⟨rfl, rfl, dealingsOf queries, by rw [trace, same], ?_⟩
    cases decided with
    | abandoned e unready =>
      exact .idle (fun _ => rfl) asked (fun query member => unready_open (unready query member)) rfl rfl
    | @settled earlier last value unready ready =>
      -- An earlier query that concluded would have ended the phase.
      have unsettled : ∀ query ∈ earlier, query.found.concludes = false :=
        fun query member => unready_open (unready query member)
      obtain ⟨reading, dealings⟩ := last
      cases reading with
      | null | empty | active => cases ready
      | done exitCode =>
        cases ready
        exact .concluded rfl asked unsettled (.done exitCode) rfl
      | failed exitCode =>
        cases ready
        exact .concluded rfl asked unsettled (.failed exitCode) rfl

/-- Whatever the host answers, every call that ends is such a call. -/
theorem respond_serves (ran : (respond host m call).run w = some ((answer, m'), w')) :
    Serves m call w answer m' w' := by
  cases call with
  | query active =>
    obtain ⟨⟨found, next⟩, middle, queried, rest⟩ := lift_bind.mp ran
    cases rest
    exact serves_query queried
  | awaitStart polls =>
    obtain ⟨⟨result, next⟩, middle, waited, rest⟩ := watch_bind.mp ran
    cases rest
    exact serves_awaitStart waited
  | awaitEnd polls =>
    obtain ⟨⟨result, next⟩, middle, waited, rest⟩ := watch_bind.mp ran
    cases rest
    exact serves_awaitEnd waited
  | cleanUp =>
    obtain ⟨_, middle, tidied, rest⟩ := lift_bind.mp ran
    cases rest
    obtain ⟨dealings, added, _⟩ := stays_ran (stays_cleanUp (sentOnly_frame host _)) tidied
    exact ⟨rfl, rfl, dealings, added, lawful_unasked nofun rfl rfl⟩

/-! ### Sequences of calls -/

theorem serve_cons {after : World σ} (served : serve host (call :: calls) m w = some (replies, m', after)) :
    ∃ answer next between later, (respond host m call).run w = some ((answer, next), between) ∧
      serve host calls next between = some (later, m', after) ∧
      replies =
        ⟨call, answer, between.trace.drop w.trace.length, m.exitCode, next.exitCode⟩ :: later := by
  simp only [serve, Option.bind_eq_bind, Option.bind_eq_some_iff] at served
  obtain ⟨⟨⟨answer, next⟩, between⟩, ran, ⟨later, last, world⟩, onward, joined⟩ := served
  cases joined
  exact ⟨answer, next, between, later, ran, onward, rfl⟩

theorem latest_cons (reply : Reply) (replies : List Reply) :
    latest? (reply :: replies) =
      (latest? replies).or (if reply.answer.conclusion?.isSome then some reply else none) := by
  unfold latest?
  rw [List.filter_cons]
  split
  · rw [List.getLast?_cons]
    cases (replies.filter fun reply => reply.answer.conclusion?.isSome).getLast? <;> rfl
  · rw [Option.or_none]

theorem mem_latest (latest : latest? replies = some reply) : reply ∈ replies :=
  (List.mem_filter.mp (List.mem_of_getLast? latest)).1

theorem lawful_unconcluded (lawful : Lawful strategy target reply)
    (nothing : reply.answer.conclusion?.isSome = false) : reply.exitCode = reply.known := by
  cases lawful with
  | concluded _ _ _ _ conclusion =>
    rw [conclusion] at nothing
    cases nothing
  | idle _ _ _ _ kept => exact kept

/-- The replies are lawful, and the exit code in the end is that of the latest that concluded anything. Induction
on the calls. -/
theorem serve_lawful {after : World σ} (served : serve host calls m w = some (replies, m', after)) :
    (∀ reply ∈ replies, Lawful m.strategy m.target reply) ∧
      m'.exitCode = ((latest? replies).map Reply.exitCode).getD m.exitCode := by
  induction calls generalizing m w replies with
  | nil =>
    cases served
    exact ⟨by simp, rfl⟩
  | cons call calls ih =>
    obtain ⟨answer, next, between, later, ran, onward, rfl⟩ := serve_cons served
    obtain ⟨strategy, target, dealings, trace, lawful⟩ := respond_serves ran
    obtain ⟨rest, last⟩ := ih onward
    rw [strategy, target] at rest
    rw [trace, List.drop_left]
    refine ⟨List.forall_mem_cons.mpr ⟨lawful, rest⟩, ?_⟩
    rw [last, latest_cons]
    cases latest? later with
    | some reply => rfl
    | none =>
      dsimp only [Option.or, Option.map_none, Option.getD_none]
      split
      · rfl
      · rename_i nothing
        exact lawful_unconcluded lawful (by simpa using nothing)

/-- Behind a conclusion is a status query that came to it and saw the exit code. -/
theorem lawful_conclusion (lawful : Lawful strategy target reply)
    (conclusion : reply.answer.conclusion? = some status) :
    ∃ reading dealings, StatusQuery strategy target reading dealings ∧
      Concluding reading status reply.exitCode := by
  cases lawful with
  | @concluded earlier last _ _ asked _ concluding same =>
    rw [conclusion] at same
    cases same
    exact ⟨last.found, last.dealings, asked last (by simp), concluding⟩
  | idle _ _ _ nothing =>
    rw [conclusion] at nothing
    cases nothing

/-! ### Tracking -/

/-- Following a job leaves what is recorded of its remote side as it was, or records an outcome anew, and with
FINISHED no code of a failure. -/
theorem track_records {pacer : Pacer} {ctx ctx' : Context} {result : Except TrackError Status}
    (ran : (track host polls pacer ctx).run w = some ((result, ctx'), w')) :
    (ctx'.job.remoteOutcome = ctx.job.remoteOutcome ∧ ctx'.job.remoteResultInfo = ctx.job.remoteResultInfo) ∨
      ∃ outcome, ctx'.job.remoteOutcome = some outcome ∧
        (outcome = .finished → Harmless ctx'.job.remoteResultInfo) := by
  cases track_cases ran with
  | settled | undispatched | refused => exact .inl ⟨rfl, rfl⟩
  | unwatched _ _ moved => exact .inl ⟨same_outcome moved.same, same_info moved.same⟩
  | @recorded outcome _ _ _ _ _ _ _ _ _ _ _ _ _ _ _ recorded =>
    right
    refine ⟨outcome, recorded.reported, ?_⟩
    rintro rfl
    obtain ⟨seen, after, awaited, info⟩ := recorded.awaited
    obtain ⟨_, _, dealings, _, lawful⟩ := serves_awaitEnd awaited
    obtain ⟨reading, own, query, concluding⟩ := lawful_conclusion lawful rfl
    rw [info]
    exact done_harmless query concluding

/-! ### Results -/

/-- However a new monitor is used, its exit code is what the latest reply that concluded the end of the job says;
that reply has it from the query that came to the conclusion, and no other call changes it. Over a process listing
the job has failed exactly where the code is the decimal form of an integer other than zero, and ended well exactly
where there is no code or it is 0. Through the accounting a job that ended well has a code, and it is zero. So no
job that is followed is recorded as FINISHED with a code that denotes anything but zero. -/
theorem exit_code_agrees_with_conclusion (strategy : MonitorStrategy) (target : Target) (pacer : Pacer)
    (host : Host σ) :
    (∀ calls w replies m' w',
      serve host calls ⟨strategy, target, pacer, none⟩ w = some (replies, m', w') →
        m'.exitCode = (latest? replies).bind Reply.exitCode ∧
        (∀ reply ∈ replies, Lawful strategy target reply) ∧
        ∀ latest status, latest? replies = some latest → latest.answer.conclusion? = some status →
          (∀ mode, strategy = watcher mode →
            (status = .failed ↔ ErrorCode m'.exitCode) ∧
            (status = .done ↔ m'.exitCode = none ∨ m'.exitCode = some "0")) ∧
          (strategy = .dockerSlurm → status = .done →
            ∃ text, m'.exitCode = some text ∧ Text.readSigned32? text.toList = some 0)) ∧
    ∀ polls ctx result ctx' w w', (track host polls pacer ctx).run w = some ((result, ctx'), w') →
      (ctx'.job.remoteOutcome = ctx.job.remoteOutcome ∧ ctx'.job.remoteResultInfo = ctx.job.remoteResultInfo) ∨
        ∃ outcome, ctx'.job.remoteOutcome = some outcome ∧
          (outcome = .finished → Harmless ctx'.job.remoteResultInfo) := by
  refine ⟨?_, fun polls ctx result ctx' w w' ran => track_records ran⟩
  intro calls w replies m' w' served
  obtain ⟨lawful, last⟩ := serve_lawful served
  have exitCode : m'.exitCode = (latest? replies).bind Reply.exitCode := by
    rw [last]
    cases latest? replies <;> rfl
  refine ⟨exitCode, lawful, ?_⟩
  intro latest status found conclusion
  obtain ⟨reading, dealings, query, concluding⟩ := lawful_conclusion (lawful latest (mem_latest found)) conclusion
  have own : m'.exitCode = latest.exitCode := by rw [exitCode, found, Option.bind_some]
  rw [own]
  constructor
  · rintro mode rfl
    exact agrees_iff (listed_agrees query concluding)
  · rintro rfl rfl
    exact accounted_agrees query concluding

/-- A host where the launcher of a job is gone. Its exit code file can be read once and is lost then. -/
def forgetful (content : String) : Scripted.Stage where
  scripts := [⟨"ps", [⟨"4000     1 Ss   u bash", 0⟩]⟩, ⟨"cat", [⟨content, 0⟩, ⟨"", 1⟩]⟩]
  today := ⟨86400, 0⟩

theorem later_conclusion_forgets_the_code :
    (∃ replies m' w', serve Scripted.host [.query true, .cleanUp, .awaitEnd 2, .query false]
        (watching .singularityRun) { host := forgetful "3\n" } = some (replies, m', w') ∧
      replies.map Reply.exitCode = [some "3", some "3", none, none] ∧
      (∀ reply ∈ replies, Lawful .singularityRun (watching .singularityRun).target reply) ∧
      m'.exitCode = (latest? replies).bind Reply.exitCode) ∧
    ∃ ctx' w', (track Scripted.host 1 (.immediate 1) launched).run { host := forgetful "+0" } =
        some ((.ok .archiving, ctx'), w') ∧ ctx'.job.remoteOutcome = some .finished ∧
      Harmless ctx'.job.remoteResultInfo := by
  obtain ⟨used, followed⟩ := exit_code_agrees_with_conclusion .singularityRun (watching .singularityRun).target
    (.immediate 1) Scripted.host
  constructor
  · have returns : (serve Scripted.host [.query true, .cleanUp, .awaitEnd 2, .query false]
        (watching .singularityRun) { host := forgetful "3\n" }).map (fun r => r.1.map Reply.exitCode) =
          some [some "3", some "3", none, none] := by
      decide +kernel
    obtain ⟨⟨replies, m', w'⟩, served, codes⟩ := Option.map_eq_some_iff.mp returns
    obtain ⟨exitCode, lawful, _⟩ := used _ _ replies m' w' served
    exact ⟨replies, m', w', served, codes, lawful, exitCode⟩
  · have returns : ((track Scripted.host 1 (.immediate 1) launched).run { host := forgetful "+0" }).map
        (fun r => (r.1.1.toOption, r.1.2.job.remoteOutcome)) = some (some .archiving, some .finished) := by
      decide +kernel
    obtain ⟨⟨⟨result, ctx'⟩, w'⟩, ran, ends⟩ := Option.map_eq_some_iff.mp returns
    obtain ⟨settled, reported⟩ := Prod.mk.inj ends
    cases result with
    | error e => cases settled
    | ok status =>
      cases settled
      refine ⟨ctx', w', ran, reported, ?_⟩
      obtain ⟨unchanged, _⟩ | ⟨outcome, same, harmless⟩ := followed _ _ _ _ _ _ ran
      · rw [reported] at unchanged
        cases unchanged
      · rw [reported] at same
        cases same
        exact harmless rfl

end RemoteJobs.Proofs.ExitCodes
