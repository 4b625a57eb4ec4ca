import RemoteJobs.Host.Scripted
import RemoteJobs.Tracker
import RemoteJobs.Proofs.StatusWalks
import RemoteJobs.Proofs.WatchFrames

/-! Whole runs of following a job. Every way in which a run can end is found by inverting its phases one
after the other; each phase says what became of the record, which status changes it asked for and what it
left alone, so a statement about the whole run never looks into a phase again. -/
namespace RemoteJobs.Proofs.TrackingRuns
open Tracker Session Poll SessionRuns StatusWalks WatchFrames

variable {σ : Type} {host : Host σ} {polls : Nat} {pacer : Pacer} {m m' : Monitor} {job job' : Job}
  {w w' : World σ}

/-! ### Moves of a record -/

/-- Between two worlds a record was moved along the strict table by the given events, none of them refused,
and nothing but its status, message and time was touched. -/
structure Moved (w : World σ) (job : Job) (made : List (Except JobError Fired)) (w' : World σ)
    (job' : Job) : Prop where
  changes : w'.changes = w.changes ++ made
  walk : Walk job.status made job'.status
  accepted : Unrefused made
  same : SameButStatus job job'

theorem moved_nothing (kept : w'.changed = w.changed) : Moved w job [] w' job where
  changes := by simp [World.changes, kept]
  walk := .rest _
  accepted := by simp [Unrefused]
  same := same_refl job

theorem moved_trans {first second : List (Except JobError Fired)} {middle : World σ} {between : Job}
    (begun : Moved w job first middle between) (onward : Moved middle between second w' job') :
    Moved w job (first ++ second) w' job' where
  changes := by rw [onward.changes, begun.changes, List.append_assoc]
  walk := walk_append begun.walk onward.walk
  accepted := unrefused_append begun.accepted onward.accepted
  same := same_trans begun.same onward.same

theorem move_run (target : Status) (message : String) (job : Job) (w : World σ) :
    (move host target message job).run w =
      (job.transition (host.date w.host) target message,
        { w with changed := (job.transition (host.date w.host) target message).1 :: w.changed }) :=
  rfl

/-- An accepted move is one event on the record and brings it to the status that was asked for. -/
theorem move_accepted {target : Status} {message : String} {fired : Fired}
    (ran : (move host target message job).run w = ((.ok fired, job'), w')) :
    Moved w job [.ok fired] w' job' ∧ job'.status = target := by
  rw [move_run, Prod.mk.injEq] at ran
  obtain ⟨answer, rfl⟩ := ran
  have walked := walk_transition (host.date w.host) target message job
  have same := same_transition (host.date w.host) target message job
  have reached := transition_accepted (congrArg Prod.fst answer)
  rw [answer] at walked same reached
  exact ⟨⟨by simp [World.changes, answer], walked, unrefused_ok fired, same⟩, reached⟩

/-- A refused move leaves the record as it was, and no move deals with the host. -/
theorem move_refused {target : Status} {message : String} {e : JobError}
    (ran : (move host target message job).run w = ((.error e, job'), w')) :
    job' = job ∧ w'.host = w.host ∧ w'.events = w.events ∧ w'.changes = w.changes ++ [.error e] := by
  rw [move_run, Prod.mk.injEq] at ran
  obtain ⟨answer, rfl⟩ := ran
  have same := transition_rejected (congrArg Prod.fst answer)
  rw [answer] at same
  exact ⟨same, rfl, rfl, by simp [World.changes, answer]⟩

/-- Along an edge of the strict table no move is refused. -/
theorem move_along {target : Status} {message : String} {answer : Except JobError Fired × Job}
    (edge : target ∈ job.status.targets)
    (ran : (move host target message job).run w = (answer, w')) :
    answer = (.ok (.moved job.status target),
      { job with status := target, lastUpdated := host.date w.host, lastMessage := some message }) := by
  rw [move_run] at ran
  rw [← (Prod.mk.inj ran).1]
  exact transition_moves _ _ _ _ edge

/-! ### Phases -/

/-- A job is brought to RUNNING, or its very first move is refused before the monitor has asked the host
anything, or the monitor gives up while the job is QUEUED. -/
theorem start_cases {result : Except TrackError Unit}
    (ran : (start host polls m job).run w = some ((result, m', job'), w')) :
    (result = .ok () ∧ job'.status = .running ∧ ∃ made, Moved w job made w' job') ∨
    (∃ e, result = .error (.job e) ∧ job' = job ∧ m' = m ∧ w'.host = w.host ∧
      w'.events = w.events ∧ w'.changes = w.changes ++ [.error e]) ∨
    (∃ e, result = .error (.monitor e) ∧ job'.status = .queued ∧ ∃ made, Moved w job made w' job') := by
  unfold start at ran
  split at ran
  · rename_i running
    cases ran
    exact .inl ⟨rfl, running, [], moved_nothing rfl⟩
  · cases kind : job.jobType with
    | fork =>
      simp only [kind] at ran
      obtain ⟨⟨answer, moved⟩, middle, began, rest⟩ := lift_bind.mp ran
      cases answer with
      | error e =>
        cases rest
        obtain ⟨same, host, events, changes⟩ := move_refused began
        exact .inr (.inl ⟨e, rfl, same, rfl, host, events, changes⟩)
      | ok fired =>
        cases rest
        obtain ⟨made, running⟩ := move_accepted began
        exact .inl ⟨rfl, running, _, made⟩
    | batch =>
      simp only [kind] at ran
      obtain ⟨⟨answer, queued⟩, first, began, rest⟩ := lift_bind.mp ran
      cases answer with
      | error e =>
        cases rest
        obtain ⟨same, host, events, changes⟩ := move_refused began
        exact .inr (.inl ⟨e, rfl, same, rfl, host, events, changes⟩)
      | ok fired =>
        obtain ⟨made, inQueue⟩ := move_accepted began
        obtain ⟨⟨left, monitor⟩, second, waited, rest⟩ := watch_bind.mp rest
        have held : Moved first queued [] second queued :=
          moved_nothing (keeps_awaitStart polls m _ _ _ waited)
        cases left with
        | error e =>
          cases rest
          exact .inr (.inr ⟨e, rfl, inQueue, _, moved_trans made held⟩)
        | ok _ =>
          obtain ⟨⟨answer, running⟩, third, ended, rest⟩ := lift_bind.mp rest
          have edge : .running ∈ queued.status.targets := by
            rw [inQueue]
            decide
          obtain ⟨rfl, rfl⟩ := Prod.mk.inj (move_along edge ended)
          cases rest
          exact .inl ⟨rfl, rfl, _, moved_trans (moved_trans made held) (move_accepted ended).1⟩

/-- How the end of a running job was recorded: its monitor came to an outcome, and the record carries that
outcome, the exit code that the monitor then knows and the status that follows from the outcome. -/
structure Recorded (host : Host σ) (polls : Nat) (m : Monitor) (w : World σ) (outcome : Outcome)
    (job' : Job) : Prop where
  awaited : ∃ seen w', (m.awaitEnd host polls).run w = some ((.ok outcome, seen), w') ∧
    job'.remoteResultInfo = seen.exitCode
  reported : job'.remoteOutcome = some outcome
  status : job'.status = outcome.nextStatus

/-- A RUNNING job's end is recorded and its last move is never refused, or the monitor gives up and the
record is left as it was. -/
theorem finish_cases {result : Except TrackError Status} (running : job.status = .running)
    (ran : (finish host polls m job).run w = some ((result, m', job'), w')) :
    (∃ outcome, result = .ok outcome.nextStatus ∧ Recorded host polls m w outcome job' ∧
      w'.changes = w.changes ++ [.ok (.moved .running outcome.nextStatus)]) ∨
    (∃ e, result = .error (.monitor e) ∧ job' = job ∧ w'.changed = w.changed) := by
  unfold finish at ran
  obtain ⟨⟨ended, seen⟩, middle, waited, rest⟩ := watch_bind.mp ran
  have kept := keeps_awaitEnd polls m _ _ _ waited
  cases ended with
  | error e =>
    cases rest
    exact .inr ⟨e, rfl, rfl, kept⟩
  | ok outcome =>
    left
    obtain ⟨now, dated, read, rest⟩ := lift_bind.mp rest
    cases read
    obtain ⟨_, told, noted, rest⟩ := watch_bind.mp rest
    unfold Tracker.tell at noted
    rw [watch_ofSession, note_run] at noted
    cases noted
    obtain ⟨⟨answer, moved⟩, last, ended, rest⟩ := lift_bind.mp rest
    have edge : outcome.nextStatus ∈
        (job.recordResult (host.date middle.host) outcome seen.exitCode).status.targets := by
      simp only [Job.recordResult, running]
      cases outcome <;> decide
    obtain ⟨rfl, rfl⟩ := Prod.mk.inj (move_along edge ended)
    cases rest
    refine ⟨outcome, rfl, ⟨⟨_, middle, waited, rfl⟩, rfl, rfl⟩, ?_⟩
    have made := (move_accepted ended).1.changes
    simpa [World.changes, kept, Job.recordResult, running] using made

/-- The phases together: the end is recorded on a job that was brought to RUNNING, or the very first move
is refused, or the monitor gives up on a job that can still fail. -/
theorem follow_cases {result : Except TrackError Status}
    (ran : (follow host polls m job).run w = some ((result, m', job'), w')) :
    (∃ outcome made running middle between, result = .ok outcome.nextStatus ∧
      (start host polls m job).run w = some ((.ok (), running, between), middle) ∧
      between.status = .running ∧ Moved w job made middle between ∧
      Recorded host polls running middle outcome job' ∧
      w'.changes = middle.changes ++ [.ok (.moved .running outcome.nextStatus)]) ∨
    (∃ e, result = .error (.job e) ∧ job' = job ∧ m' = m ∧ w'.host = w.host ∧
      w'.events = w.events ∧ w'.changes = w.changes ++ [.error e]) ∨
    (∃ e made, result = .error (.monitor e) ∧ job'.status.isTerminal = false ∧
      Moved w job made w' job') := by
  unfold follow at ran
  obtain ⟨⟨begun, running, between⟩, middle, started, rest⟩ := watch_bind.mp ran
  obtain ⟨rfl, status, made, moved⟩ | ⟨e, rfl, refused⟩ | ⟨e, rfl, queued, made, moved⟩ :=
    start_cases started
  · obtain ⟨outcome, rfl, recorded, changes⟩ | ⟨e, rfl, rfl, kept⟩ := finish_cases status rest
    · exact .inl ⟨outcome, made, running, middle, between, rfl, started, status, moved, recorded,
        changes⟩
    · refine .inr (.inr ⟨e, made ++ [], rfl, by rw [status]; rfl, ?_⟩)
      exact moved_trans moved (moved_nothing kept)
  · cases rest
    exact .inr (.inl ⟨e, rfl, refused⟩)
  · cases rest
    exact .inr (.inr ⟨e, made, rfl, by rw [queued]; rfl, moved⟩)

/-! ### Whole runs -/

/-- Every way in which following a job can end. -/
inductive Tracked (host : Host σ) (polls : Nat) (pacer : Pacer) (ctx : Context) (w : World σ) :
    Except TrackError Status → Context → World σ → Prop where
  /-- A job that has ended is left alone. -/
  | settled {w' : World σ} (terminal : ctx.job.isTerminal = true) (still : w'.host = w.host)
    (events : w'.events = w.events) (changes : w'.changes = w.changes) :
    Tracked host polls pacer ctx w (.ok ctx.job.status) ctx w'
  | undispatched {e : DispatchError} (active : ctx.job.isTerminal = false)
    (choice : Monitor.choose ctx pacer = .error e) :
    Tracked host polls pacer ctx w (.error (.dispatch e)) ctx w
  /-- The status does not allow the first move, and all that follows is the monitor's cleaning up. -/
  | refused {e : JobError} {m : Monitor} {before : World σ} (active : ctx.job.isTerminal = false)
    (choice : Monitor.choose ctx pacer = .ok m) (still : before.host = w.host)
    (events : before.events = w.events) (changes : before.changes = w.changes ++ [.error e]) :
    Tracked host polls pacer ctx w (.error (.job e)) ctx ((m.cleanUp host).run before).2
  /-- The monitor gave up, wherever the job stood by then, and the job has FAILED for that. -/
  | unwatched {e : MonitorError} {m : Monitor} {job' : Job} {w' : World σ}
    {made : List (Except JobError Fired)} {source : Status} (active : ctx.job.isTerminal = false)
    (choice : Monitor.choose ctx pacer = .ok m)
    (moved : Moved w ctx.job (made ++ [.ok (.moved source .failed)]) w' job')
    (failed : job'.status = .failed) (reason : job'.lastMessage = some e.message) :
    Tracked host polls pacer ctx w (.error (.monitor e)) { ctx with job := job' } w'
  /-- The job was brought to RUNNING, and its end was awaited and recorded. -/
  | recorded {outcome : Outcome} {m running : Monitor} {before middle w' : World σ}
    {between job' : Job} {made : List (Except JobError Fired)} (active : ctx.job.isTerminal = false)
    (choice : Monitor.choose ctx pacer = .ok m)
    (still : before.host = w.host) (events : before.events = w.events)
    (started : (start host polls m ctx.job).run before = some ((.ok (), running, between), middle))
    (moved : Moved w ctx.job made middle between) (status : between.status = .running)
    (recorded : Recorded host polls running middle outcome job')
    (changes : w'.changes = middle.changes ++ [.ok (.moved .running outcome.nextStatus)]) :
    Tracked host polls pacer ctx w (.ok outcome.nextStatus) { ctx with job := job' } w'

private theorem moved_from {made : List (Except JobError Fired)} {before : World σ}
    (changes : before.changes = w.changes) (moved : Moved before job made w' job') :
    Moved w job made w' job' :=
  { moved with changes := by rw [moved.changes, changes] }

private theorem tell_run {level : Log.Level} {text : String} {details : List String}
    (ran : (tell level text details).run w = some ((), w')) :
    w'.host = w.host ∧ w'.events = w.events ∧ w'.changes = w.changes := by
  cases ran
  exact ⟨rfl, rfl, rfl⟩

/-- Inversion of a run: whatever the host answers, it ends in one of the ways above. -/
theorem track_cases {ctx ctx' : Context} {result : Except TrackError Status}
    (ran : (track host polls pacer ctx).run w = some ((result, ctx'), w')) :
    Tracked host polls pacer ctx w result ctx' w' := by
  unfold track at ran
  split at ran
  · rename_i terminal
    obtain ⟨_, told, noted, rest⟩ := watch_bind.mp ran
    obtain ⟨still, events, changes⟩ := tell_run noted
    cases rest
    exact .settled terminal still events changes
  · rename_i nonTerminal
    have active : ctx.job.isTerminal = false := by simpa using nonTerminal
    cases choice : Monitor.choose ctx pacer with
    | error e =>
      simp only [choice] at ran
      cases ran
      exact .undispatched active choice
    | ok m =>
      simp only [choice] at ran
      obtain ⟨_, before, noted, onward⟩ := watch_bind.mp ran
      obtain ⟨still, events, changes⟩ := tell_run noted
      obtain ⟨⟨ended, seen, job'⟩, followed, phases, closing⟩ := watch_bind.mp onward
      obtain ⟨_, cleaned, tidied, rest⟩ := lift_bind.mp closing
      have untouched : cleaned.changes = followed.changes := by
        have kept : ((seen.cleanUp host).run followed).2.changed = followed.changed :=
          keeps_cleanUp seen followed
        rw [tidied] at kept
        exact congrArg List.reverse kept
      obtain ⟨outcome, made, running, middle, between, rfl, started, status, moved, recorded, last⟩ |
        ⟨e, rfl, sameJob, sameMonitor, idle, silent, refusal⟩ | ⟨e, made, rfl, alive, moved⟩ :=
        follow_cases phases
      · cases rest
        exact .recorded active choice still events started (moved_from changes moved) status recorded
          (untouched.trans last)
      · cases rest
        subst sameJob sameMonitor
        have tidy : ((seen.cleanUp host).run followed).2 = w' := congrArg Prod.snd tidied
        rw [← tidy]
        exact .refused active choice (idle.trans still) (silent.trans events)
          (refusal.trans (by rw [changes]))
      · obtain ⟨_, warned, noted, failing⟩ := watch_bind.mp rest
        obtain ⟨_, _, unchanged⟩ := tell_run noted
        obtain ⟨⟨answer, failed⟩, last, ended, rest⟩ := lift_bind.mp failing
        obtain ⟨rfl, rfl⟩ := Prod.mk.inj (move_along (failed_edge alive) ended)
        cases rest
        have final := moved_from (unchanged.trans untouched) (move_accepted ended).1
        exact .unwatched active choice (moved_trans (moved_from changes moved) final) rfl rfl

/-- What the result of a run says about the record and the host. A job that had ended and a job without a
strategy were left alone with their host; a refused job is the same record, and its host only saw the
monitor clean up; a job that could not be watched has FAILED for the reason given, its remote result as it
was; and a job watched to its end carries its outcome, the status that follows from it and the monitor's
exit code. On the way the status only ever followed edges of the strict table, and no move was refused but
the very first one. -/
theorem every_run_ends_lawfully {ctx ctx' : Context} {result : Except TrackError Status}
    (ran : (track host polls pacer ctx).run w = some ((result, ctx'), w')) :
    (ctx.job.isTerminal = true → result = .ok ctx.job.status ∧ ctx' = ctx ∧
      w'.host = w.host ∧ w'.events = w.events) ∧
    (∀ e, result = .error (.dispatch e) → ctx' = ctx ∧ w'.host = w.host ∧ w'.events = w.events) ∧
    (∀ e, result = .error (.job e) → ctx' = ctx ∧
      ∃ m before, Monitor.choose ctx pacer = .ok m ∧ before.host = w.host ∧
        before.events = w.events ∧ w' = ((m.cleanUp host).run before).2) ∧
    (∀ e, result = .error (.monitor e) → ctx'.job.status = .failed ∧
      ctx'.job.lastMessage = some e.message ∧ ctx'.job.remoteOutcome = ctx.job.remoteOutcome ∧
      ctx'.job.remoteResultInfo = ctx.job.remoteResultInfo ∧
      ∃ source, w'.changes.getLast? = some (.ok (.moved source .failed))) ∧
    (∀ s, result = .ok s → ctx.job.isTerminal = false →
      s = ctx'.job.status ∧ (s = .archiving ∨ s = .failed) ∧
      ∃ outcome m before running between middle seen after,
        ctx'.job.remoteOutcome = some outcome ∧ s = outcome.nextStatus ∧
        Monitor.choose ctx pacer = .ok m ∧ before.host = w.host ∧ before.events = w.events ∧
        (start host polls m ctx.job).run before = some ((.ok (), running, between), middle) ∧
        (running.awaitEnd host polls).run middle = some ((.ok outcome, seen), after) ∧
        ctx'.job.remoteResultInfo = seen.exitCode ∧
        w'.changes.getLast? = some (.ok (.moved .running s))) ∧
    ∃ made, w'.changes = w.changes ++ made ∧ Walk ctx.job.status made ctx'.job.status ∧
      (Unrefused made ∨ ∃ e, result = .error (.job e) ∧ made = [.error e]) := by
  cases track_cases ran with
  | settled terminal still events changes =>
    refine ⟨fun _ => ⟨rfl, rfl, still, events⟩, by simp, by simp, by simp, ?_, ?_⟩
    · intro s _ active
      rw [terminal] at active
      cases active
    · exact ⟨[], by simp [changes], .rest _, .inl (by simp [Unrefused])⟩
  | undispatched active choice =>
    refine ⟨by simp [active], fun _ _ => ⟨rfl, rfl, rfl⟩, by simp, by simp, by simp, ?_⟩
    exact ⟨[], by simp, .rest _, .inl (by simp [Unrefused])⟩
  | @refused e m before active choice still events changes =>
    refine ⟨by simp [active], by simp, fun _ _ => ⟨rfl, m, before, choice, still, events, rfl⟩,
      by simp, by simp, [.error e], ?_, .refused (.rest _), .inr ⟨e, rfl, rfl⟩⟩
    rw [← changes]
    exact congrArg List.reverse (keeps_cleanUp m before)
  | @unwatched e m job' _ made source active choice moved failed reason =>
    refine ⟨by simp [active], by simp, by simp, ?_, by simp, _, moved.changes, moved.walk,
      .inl moved.accepted⟩
    intro e' same
    cases same
    have outcome := congrArg Job.remoteOutcome moved.same
    have info := congrArg Job.remoteResultInfo moved.same
    exact ⟨failed, reason, outcome, info, source, by rw [moved.changes]; simp⟩
  | @recorded outcome m running before middle _ between job' made active choice still events started
      moved status recorded changes =>
    obtain ⟨seen, after, awaited, info⟩ := recorded.awaited
    refine ⟨by simp [active], by simp, by simp, by simp, ?_, ?_⟩
    · intro s same _
      cases same
      refine ⟨recorded.status.symm, by cases outcome <;> simp [Outcome.nextStatus], outcome, m, before,
        running, between, middle, seen, after, recorded.reported, rfl, choice, still, events, started,
        awaited, info, by rw [changes]; simp⟩
    · refine ⟨made ++ [.ok (.moved .running outcome.nextStatus)], ?_, ?_, ?_⟩
      · rw [changes, moved.changes, List.append_assoc]
      · have edge : outcome.nextStatus ∈ Status.targets .running := by cases outcome <;> decide
        have last : Walk between.status [.ok (.moved .running outcome.nextStatus)] job'.status := by
          rw [status, recorded.status]
          exact .moved edge (.rest _)
        exact walk_append moved.walk last
      · exact .inl (unrefused_append moved.accepted (unrefused_ok _))

/-- A job launched with `singularity run` that is about to be followed. -/
def launched : Context where
  job := { Job.initial .nil ⟨0, 0⟩ .fork "cluster" "/out" with
    status := .submittingJob, remoteJobId := some " 4100 " }
  app := ⟨"sleeper", "0.1", .singularity, some .run⟩
  system := ⟨"cluster", "cluster.example.org", 22, none, none, none⟩

/-- A host where the launcher is left without a runscript, after one poll that the host refused. -/
def deserted : Scripted.Stage where
  scripts := [⟨"ps", [⟨"4000     1 Ss   u bash\n4100  4000 S    u singularity run sleeper.sif", 0⟩]⟩,
    ⟨"cat", [⟨"3\n", 0⟩]⟩]
  refusals := 1
  today := ⟨86400, 0⟩

theorem deserted_launcher_fails_its_job :
    ∃ ctx' w', (track Scripted.host 3 (.immediate 3) launched).run { host := deserted } =
        some ((.ok .failed, ctx'), w') ∧
      Status.failed = ctx'.job.status ∧ ctx'.job.remoteResultInfo = some "3" ∧
      ∃ made, w'.changes = made ∧ Walk .submittingJob made ctx'.job.status := by
  have returns : ((track Scripted.host 3 (.immediate 3) launched).run { host := deserted }).map
      (fun r => (r.1.1.toOption, r.1.2.job.remoteResultInfo)) = some (some .failed, some "3") := by
    decide +kernel
  obtain ⟨⟨⟨result, ctx'⟩, w'⟩, ran, ends⟩ := Option.map_eq_some_iff.mp returns
  obtain ⟨settled, info⟩ := Prod.mk.inj ends
  cases result with
  | error e => cases settled
  | ok status =>
    cases settled
    obtain ⟨_, _, _, _, ended, made, changes, walk, _⟩ := every_run_ends_lawfully ran
    exact ⟨ctx', w', ran, (ended _ rfl rfl).1, info, made, changes, walk⟩

end RemoteJobs.Proofs.TrackingRuns
