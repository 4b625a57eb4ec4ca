import RemoteJobs.Proofs.TrackingCourses
import RemoteJobs.Proofs.TrackingRuns

/-! The order in which a Singularity monitor deals with its host. A running phase only takes listings until the
poll that concludes; the removal of what the job left behind and the reading of its exit code are that poll's
alone, in this order and over its one connection. How many connections are asked for is bounded by the limit on
polls, and by nothing else the host does. -/
namespace RemoteJobs.Proofs.CommandTraces
open Monitor Poll Tracker SessionRuns SingularityQueries WatchFrames CancelAttempts PollRuns PollAnswers
open TrackingCourses

variable {σ α : Type} {host : Host σ} {polls : Nat} {pacer last : Pacer} {mode : SingularityMode}
  {target : Target} {id : String} {m m' : Monitor} {ctx : Context} {before after : σ}
  {dealings : List HostEvent} {w w' : World σ}

/-! ### One poll -/

/-- A poll that leaves the job alone: one connection is asked for, and over it at most one listing. -/
inductive Inquiry : List HostEvent → Prop where
  | refused (e : ExecError) : Inquiry [.connected (.error e)]
  | asked (answer : Except ExecError Output) :
    Inquiry [.connected (.ok ()), .executed Command.processListing answer]

/-- A poll that concludes: a listing, then the removal if there is one, then the exit code file, all over one
connection and whatever becomes of the commands after the listing. -/
inductive Conclusion (mode : SingularityMode) (target : Target) (id : String) : List HostEvent → Prop where
  | gone (output : Output) (exitCode : Except ExecError Output) :
    Conclusion mode target id
      [.connected (.ok ()), .executed Command.processListing (.ok output),
        .executed (Command.printFile target.exitCodeFile) exitCode]
  | removed (output : Output) (removal exitCode : Except ExecError Output) :
    Conclusion mode target id
      [.connected (.ok ()), .executed Command.processListing (.ok output),
        .executed (Singularity.removal mode target.uuid id) removal,
        .executed (Command.printFile target.exitCodeFile) exitCode]

/-- The poll settles the phase exactly if it concludes. -/
inductive LawfulPoll (mode : SingularityMode) (target : Target) (id : String) :
    Except MonitorError (Finding (Outcome × Option String)) → List HostEvent → Prop where
  | settled {value : Outcome × Option String} {dealings : List HostEvent}
    (conclusion : Conclusion mode target id dealings) :
    LawfulPoll mode target id (.ok (.ready value)) dealings
  | unsettled {found : Finding (Outcome × Option String)} {dealings : List HostEvent}
    (pending : ∀ value, found ≠ .ready value) (inquiry : Inquiry dealings) :
    LawfulPoll mode target id (.ok found) dealings

/-- Every poll asks for one connection. -/
theorem lawful_attempts {found : Except MonitorError (Finding (Outcome × Option String))}
    (lawful : LawfulPoll mode target id found dealings) : attempts dealings = 1 := by
  cases lawful with
  | settled conclusion => cases conclusion <;> rfl
  | unsettled _ inquiry => cases inquiry <;> rfl

/-- An attempt to read the exit code file settles the phase, whatever it says. -/
theorem readingOfExitCode_settles (answer : Except ExecError Output) :
    ∃ value, (Singularity.readingOfExitCode answer).poll = .ready value := by
  unfold Singularity.readingOfExitCode
  repeat' split
  all_goals exact ⟨_, rfl⟩

theorem listing_lawful {reading : Reading} (polled : ListingPoll mode target id reading dealings) :
    LawfulPoll mode target id (.ok reading.poll) dealings := by
  cases polled with
  | unlisted fruitless =>
    refine .unsettled nofun ?_
    cases fruitless with
    | refused e => exact .refused e
    | lost e => exact .asked (.error e)
  | blank nothing => exact .unsettled nofun (.asked _)
  | missing filled judged => exact .unsettled nofun (.asked _)
  | running filled judged => exact .unsettled nofun (.asked _)
  | @gone output exitCode filled judged =>
    obtain ⟨value, settles⟩ := readingOfExitCode_settles exitCode
    rw [settles]
    exact .settled (.gone output exitCode)
  | @removed output removal exitCode command filled judged =>
    obtain ⟨value, settles⟩ := readingOfExitCode_settles exitCode
    obtain ⟨rfl, _⟩ := judged_calls judged
    rw [settles]
    exact .settled (.removed output removal exitCode)

theorem runningPoll_lawful (assigned : target.remoteId = some id) :
    Polls (runningPoll host (watcher mode) target) (LawfulPoll mode target id) := by
  intro before
  obtain ⟨reading, dealings, after, queried, polled⟩ := query_polls assigned before
  rw [← look_watched] at queried
  exact ⟨_, dealings, after, yields_runningPoll queried, listing_lawful polled⟩

/-! ### One phase -/

/-- What a running phase does to its host: it inquires until a poll concludes, and then it has come to an
outcome, or it gives up and has never done more than inquire. -/
inductive PhaseTrace (mode : SingularityMode) (target : Target) (id : String) :
    Except MonitorError α → List HostEvent → Prop where
  | concluded {value : α} {dealings : List HostEvent} (conclusion : Conclusion mode target id dealings) :
    PhaseTrace mode target id (.ok value) dealings
  | abandoned {e : MonitorError} {dealings : List HostEvent} (inquiry : Inquiry dealings) :
    PhaseTrace mode target id (.error e) dealings
  | later {result : Except MonitorError α} {dealings later : List HostEvent} (inquiry : Inquiry dealings)
    (onward : PhaseTrace mode target id result later) :
    PhaseTrace mode target id result (dealings ++ later)

theorem open_inquires {found : Finding (Outcome × Option String)} {allowEmpty : Bool}
    (lawful : LawfulPoll mode target id (.ok found) dealings) (unsettled : Open allowEmpty found) :
    Inquiry dealings := by
  cases lawful with
  | settled conclusion => cases unsettled
  | unsettled pending inquiry => exact inquiry

/-- Lawful polls make a phase of that order. Induction on how the phase ends. -/
theorem ended_trace {job : Uuid} {allowEmpty : Bool}
    {rounds : List (Round (Except MonitorError (Finding (Outcome × Option String))))}
    {result : Except MonitorError (Outcome × Option String)}
    (lawful : ∀ round ∈ rounds, LawfulPoll mode target id round.found round.dealings)
    (ended : Ended job allowEmpty rounds result) : PhaseTrace mode target id result (dealingsOf rounds) := by
  induction ended with
  | settled =>
    cases lawful _ List.mem_cons_self with
    | settled conclusion => simpa [dealingsOf] using PhaseTrace.concluded conclusion
    | unsettled pending _ => exact absurd rfl (pending _)
  | failed => cases lawful _ List.mem_cons_self
  | barren =>
    cases lawful _ List.mem_cons_self with
    | unsettled _ inquiry => simpa [dealingsOf] using PhaseTrace.abandoned inquiry
  | exhausted unsettled =>
    simpa [dealingsOf] using PhaseTrace.abandoned (open_inquires (lawful _ List.mem_cons_self) unsettled)
  | later unsettled _ ih =>
    have first := open_inquires (lawful _ List.mem_cons_self) unsettled
    exact .later first (ih fun round member => lawful round (List.mem_cons_of_mem _ member))

/-- The commands after the listings of a phase: none unless it came to an outcome, and then the exit code file,
with the removal before it if there is one. -/
inductive Closing (mode : SingularityMode) (target : Target) (id : String) :
    Except MonitorError α → List String → Prop where
  | gone {value : α} : Closing mode target id (.ok value) [Command.printFile target.exitCodeFile]
  | removed {value : α} : Closing mode target id (.ok value)
    [Singularity.removal mode target.uuid id, Command.printFile target.exitCodeFile]
  | abandoned {e : MonitorError} : Closing mode target id (.error e) []

theorem trace_commands {result : Except MonitorError α} (phase : PhaseTrace mode target id result dealings) :
    ∃ listings closing,
      commandsOf dealings = List.replicate listings Command.processListing ++ closing ∧
        Closing mode target id result closing := by
  induction phase with
  | concluded conclusion =>
    cases conclusion with
    | gone => exact ⟨1, _, rfl, .gone⟩
    | removed => exact ⟨1, _, rfl, .removed⟩
  | abandoned inquiry =>
    cases inquiry with
    | refused => exact ⟨0, _, rfl, .abandoned⟩
    | asked => exact ⟨1, _, rfl, .abandoned⟩
  | later inquiry _ ih =>
    obtain ⟨listings, closing, commands, closes⟩ := ih
    rw [commandsOf_append, commands]
    cases inquiry with
    | refused => exact ⟨listings, closing, rfl, closes⟩
    | asked => exact ⟨listings + 1, closing, rfl, closes⟩

theorem trace_map {β : Type} {result : Except MonitorError α} (f : α → β)
    (phase : PhaseTrace mode target id result dealings) :
    PhaseTrace mode target id (result.map f) dealings := by
  induction phase with
  | concluded conclusion => exact .concluded conclusion
  | abandoned inquiry => exact .abandoned inquiry
  | later inquiry _ ih => exact .later inquiry ih

theorem watcher_polls (watched : m.strategy = watcher mode) : m.strategy ≠ .dockerNative := by
  rw [watched]
  cases mode <;> nofun

/-- Every running phase that comes to an end keeps that order. -/
theorem awaitEnd_trace {result : Except MonitorError Outcome} (watched : m.strategy = watcher mode)
    (assigned : m.target.remoteId = some id)
    (ran : (m.awaitEnd host polls).run w = some ((result, m'), w')) :
    ∃ dealings, w'.trace = w.trace ++ dealings ∧ PhaseTrace mode m.target id result dealings := by
  obtain ⟨found, pacer, phase, rfl, _⟩ := awaitEnd_ran (watcher_polls watched) ran
  rw [watched] at phase
  obtain ⟨rounds, lawful, ended, trace⟩ := pollUntil_rounds (runningPoll_lawful assigned) phase
  exact ⟨_, trace, trace_map Prod.fst (ended_trace lawful ended)⟩

/-! ### Connections asked for -/

theorem attempts_append (dealings later : List HostEvent) :
    attempts (dealings ++ later) = attempts dealings + attempts later :=
  List.countP_append

/-- One connection at most is asked for by every poll. -/
theorem rounds_attempts {β : Type} {rounds : List (Round β)}
    (single : ∀ round ∈ rounds, attempts round.dealings ≤ 1) :
    attempts (dealingsOf rounds) ≤ rounds.length := by
  induction rounds with
  | nil => exact Nat.le_refl 0
  | cons round rounds ih =>
    have first := single round List.mem_cons_self
    have rest := ih fun other member => single other (List.mem_cons_of_mem _ member)
    have split : attempts (dealingsOf (round :: rounds)) =
        attempts round.dealings + attempts (dealingsOf rounds) :=
      attempts_append _ _
    rw [split, List.length_cons]
    omega

/-- No connection at all is asked for without a remote id, and else no more than the limit on polls and so many
to spare. -/
def Frugal (target : Target) (pacer : Pacer) (spare : Nat) (dealings : List HostEvent) : Prop :=
  (target.remoteId = none → dealings = []) ∧
    ∀ limit, pacer.maxAttempts = some limit → attempts dealings ≤ max limit.toNat 1 + spare

/-- The polls granted are fewer than the limit allows. -/
def Short (polls : Nat) (pacer : Pacer) : Prop :=
  ∀ limit, pacer.maxAttempts = some limit → polls < max limit.toNat 1

theorem awaitEnd_comes (host : Host σ) (polls : Nat) (watched : m.strategy = watcher mode) (before : σ) :
    (∃ ended m' dealings after, Completes (m.awaitEnd host polls) before (ended, m') dealings after ∧
      m'.target = m.target ∧ Frugal m.target m.pacer 0 dealings) ∨
    (Unfinished (m.awaitEnd host polls) before ∧ Short polls m.pacer) := by
  have polled := watcher_polls watched
  cases assigned : m.target.remoteId with
  | none =>
    obtain ⟨rounds, found, last, final, after, paced, ended, completes⟩ | ⟨unfinished, short⟩ :=
      pollUntil_ends (runningPoll_nameless polled assigned) host polls m.target.uuid
        m.strategy.allowsEmpty m.pacer before
    · obtain ⟨_, nothing⟩ := nameless_ended (paced_lawful (runningPoll_nameless polled assigned) paced) ended
      refine .inl ⟨_, _, _, after, completes_awaitEnd polled completes, rfl, fun _ => nothing, ?_⟩
      rw [nothing]
      exact fun _ _ => Nat.zero_le _
    · refine .inr ⟨?_, short⟩
      rw [awaitEnd_polls polled]
      exact unfinished_bind unfinished
  | some id =>
    have polling : Polls (runningPoll host m.strategy m.target) (LawfulPoll mode m.target id) := by
      rw [watched]
      exact runningPoll_lawful assigned
    obtain ⟨rounds, found, last, final, after, paced, ended, completes⟩ | ⟨unfinished, short⟩ :=
      pollUntil_ends polling host polls m.target.uuid m.strategy.allowsEmpty m.pacer before
    · refine .inl ⟨_, _, _, after, completes_awaitEnd polled completes, rfl, by simp [assigned], ?_⟩
      intro limit limited
      have single : ∀ round ∈ rounds, attempts round.dealings ≤ 1 := fun round member =>
        Nat.le_of_eq (lawful_attempts (paced_lawful polling paced round member))
      have bounded : rounds.length ≤ max (limit.toNat - 0) 1 := paced_bounded paced limited
      exact Nat.le_trans (rounds_attempts single) bounded
    · refine .inr ⟨?_, short⟩
      rw [awaitEnd_polls polled]
      exact unfinished_bind unfinished

/-- A job that is not a batch job is brought to RUNNING without its host. -/
theorem start_directly {job : Job} (host : Host σ) (polls : Nat) (m : Monitor) (fork : job.jobType = .fork)
    (before : σ) :
    ∃ answer job', Completes (start host polls m job) before (answer, m, job') [] before := by
  by_cases running : job.status = .running
  · exact ⟨_, _, start_running running before⟩
  · exact ⟨_, _, start_fork running fork before⟩

theorem follow_comes {job : Job} (host : Host σ) (polls : Nat) (watched : m.strategy = watcher mode)
    (fork : job.jobType = .fork) (before : σ) :
    (∃ answer m' job' dealings after,
      Completes (follow host polls m job) before (answer, m', job') dealings after ∧
      m'.target = m.target ∧ Frugal m.target m.pacer 0 dealings) ∨
    (Unfinished (follow host polls m job) before ∧ Short polls m.pacer) := by
  obtain ⟨answer, started, begun⟩ := start_directly host polls m fork before
  cases answer with
  | error e =>
    exact .inl ⟨_, m, started, [], before, follow_refused begun, rfl, fun _ => rfl, fun _ _ => Nat.zero_le _⟩
  | ok _ =>
    obtain ⟨ended, seen, dealings, after, awaited, same, frugal⟩ | ⟨unfinished, short⟩ :=
      awaitEnd_comes host polls watched before
    · have followed := follow_completes begun (finish_completes awaited started)
      have kept : (concluded seen (host.date after) started ended).2.1.target = m.target := by
        unfold concluded
        repeat' split
        all_goals exact same
      exact .inl ⟨_, _, _, dealings, after, followed, kept, frugal⟩
    · exact .inr ⟨follow_unfinished begun unfinished, short⟩

theorem track_comes (dispatched : MonitorStrategy.choose ctx = .ok (watcher mode)) (host : Host σ)
    (polls : Nat) (pacer : Pacer) (before : σ) :
    (∃ answer dealings after, Completes (track host polls pacer ctx) before answer dealings after ∧
      Frugal ctx.target pacer 1 dealings) ∨
    (Unfinished (track host polls pacer ctx) before ∧ Short polls pacer) := by
  have fork : ctx.job.jobType = .fork := by
    cases kind : ctx.job.jobType with
    | fork => rfl
    | batch => exact absurd ((batch_iff dispatched).mp kind) (watcher_not_batch mode)
  have choice := choose_monitor dispatched pacer
  have watched : (⟨watcher mode, ctx.target, pacer, none⟩ : Monitor).strategy = watcher mode := rfl
  cases ended : ctx.job.isTerminal with
  | true =>
    exact .inl ⟨_, [], before, track_terminal ended before, fun _ => rfl, fun _ _ => Nat.zero_le _⟩
  | false =>
    obtain ⟨answer, seen, job', dealings, after, followed, same, idle, bounded⟩ | ⟨unfinished, short⟩ :=
      follow_comes host polls watched fork before
    · obtain ⟨tidying, tidied, cleaned, once, untouched⟩ := cleanUp_yields host seen after
      obtain ⟨answer, completes, _⟩ := track_followed ended choice followed cleaned
      refine .inl ⟨answer, _, tidied, completes, ?_, fun limit limited => ?_⟩
      · intro unassigned
        rw [idle unassigned, untouched (by rw [same]; exact unassigned)]
        rfl
      · rw [attempts_append]
        exact Nat.add_le_add (bounded limit limited) once
    · exact .inr ⟨track_unfinished ended choice unfinished, short⟩

/-! ### Phases and runs -/

/-- Whatever the host answers, a running phase inquires until a poll concludes: the removal and the exit code
file are that poll's alone, in this order, and a phase that gives up sent listings only. A whole run asks for
one connection more than its limit on polls at most, comes to an end with as many polls, and leaves the host of
a job without a remote id alone. -/
theorem watching_keeps_order (host : Host σ) (polls : Nat) (mode : SingularityMode) :
    (∀ (m : Monitor) w result m' w', m.strategy = watcher mode →
      (m.awaitEnd host polls).run w = some ((result, m'), w') →
      ∃ dealings, w'.trace = w.trace ++ dealings ∧
        (m.target.remoteId = none → result = .error (.missingRemoteId m.target.uuid) ∧ dealings = []) ∧
        ∀ id, m.target.remoteId = some id → PhaseTrace mode m.target id result dealings ∧
          ∃ listings closing,
            commandsOf dealings = List.replicate listings Command.processListing ++ closing ∧
              Closing mode m.target id result closing) ∧
    ∀ ctx pacer, MonitorStrategy.choose ctx = .ok (watcher mode) →
      (∀ w answer w', (track host polls pacer ctx).run w = some (answer, w') →
        ∃ dealings, w'.trace = w.trace ++ dealings ∧ Frugal ctx.target pacer 1 dealings) ∧
      ∀ limit, pacer.maxAttempts = some limit → max limit.toNat 1 ≤ polls →
        ∀ w, ∃ answer w', (track host polls pacer ctx).run w = some (answer, w') := by
  refine ⟨fun m w result m' w' watched ran => ?_, fun ctx pacer dispatched => ⟨fun w answer w' ran => ?_, ?_⟩⟩
  · cases assigned : m.target.remoteId with
    | none =>
      obtain ⟨missing, trace, _⟩ := awaitEnd_nameless (watcher_polls watched) assigned ran
      exact ⟨[], by rw [trace, List.append_nil], fun _ => ⟨missing, rfl⟩, by simp⟩
    | some id =>
      obtain ⟨dealings, trace, phase⟩ := awaitEnd_trace watched assigned ran
      refine ⟨dealings, trace, by simp, ?_⟩
      rintro _ ⟨⟩
      exact ⟨phase, trace_commands phase⟩
  · obtain ⟨foreseen, dealings, after, completes, frugal⟩ | ⟨unfinished, _⟩ :=
      track_comes dispatched host polls pacer w.host
    · exact ⟨dealings, (completes_ran completes ran rfl).2.1, frugal⟩
    · rw [unfinished w rfl] at ran
      cases ran
  · intro limit limited enough w
    obtain ⟨answer, dealings, after, completes, _⟩ | ⟨_, short⟩ :=
      track_comes dispatched host polls pacer w.host
    · obtain ⟨w', ran, _⟩ := completes w rfl
      exact ⟨answer, w', ran⟩
    · exact absurd (short limit limited) (Nat.not_lt_of_le enough)

open TrackingRuns in
/-- One refused connection and a launcher that was left alone: two listings are asked for, one is taken, and the
launcher is killed before the exit code is read. -/
theorem deserted_launcher_is_killed_before_the_end :
    (∃ m' w', (Monitor.awaitEnd Scripted.host 3 ⟨.singularityRun, launched.target, .immediate 3, none⟩).run
        { host := deserted } = some ((.ok .failed, m'), w') ∧
      PhaseTrace .run launched.target "4100" (.ok Outcome.failed) w'.trace ∧
      w'.commands = [Command.processListing, "kill -9 4100", "cat /out/tapisjob.exitcode"]) ∧
    ∃ answer w', (track Scripted.host 3 (.immediate 3) launched).run { host := deserted } = some (answer, w') ∧
      attempts w'.trace ≤ 4 := by
  obtain ⟨phases, runs⟩ := watching_keeps_order Scripted.host 3 .run
  constructor
  · have returns : ((Monitor.awaitEnd Scripted.host 3 ⟨.singularityRun, launched.target, .immediate 3, none⟩).run
        { host := deserted }).map (fun r => (r.1.1.toOption, r.2.commands)) =
          some (some .failed, [Command.processListing, "kill -9 4100", "cat /out/tapisjob.exitcode"]) := by
      decide +kernel
    obtain ⟨⟨⟨result, m'⟩, w'⟩, ran, ends⟩ := Option.map_eq_some_iff.mp returns
    obtain ⟨settled, commands⟩ := Prod.mk.inj ends
    cases result with
    | error e => cases settled
    | ok outcome =>
      cases settled
      obtain ⟨dealings, trace, _, assigned⟩ := phases _ _ _ _ _ rfl ran
      have named : launched.target.remoteId = some "4100" := by decide +kernel
      have same : w'.trace = dealings := trace
      exact ⟨m', w', ran, same ▸ (assigned _ named).1, commands⟩
  · obtain ⟨spent, returns⟩ := runs launched (.immediate 3) rfl
    obtain ⟨answer, w', ran⟩ := returns 3 rfl (Nat.le_refl 3) { host := deserted }
    obtain ⟨dealings, trace, _, bounded⟩ := spent _ _ _ ran
    have same : w'.trace = dealings := trace
    exact ⟨answer, w', ran, same ▸ bounded 3 rfl⟩

end RemoteJobs.Proofs.CommandTraces
