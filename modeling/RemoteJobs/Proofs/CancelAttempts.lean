import RemoteJobs.Host.Scripted
import RemoteJobs.Tracker
import RemoteJobs.Proofs.SessionRuns
import RemoteJobs.Proofs.StatusWalks

/-! Cancellation against any host. An attempt sends at most one command over at most one connection, and
whatever becomes of it the job is marked CANCELLED: the record never depends on the host's good will. -/
namespace RemoteJobs.Proofs.CancelAttempts
open Session SessionRuns StatusWalks

variable {σ : Type} {host : Host σ} {before after : σ} {strategy : CancelStrategy} {target : Target}
  {command : String} {ctx : Context} {job : Uuid} {remoteId : Option String}
  {answer : Except CancelError Unit} {dealings : List HostEvent}

/-! ### Commands -/

/-- The command line that stops a job in the way of its strategy. -/
inductive Stops (job : Uuid) (remoteId : Option String) : CancelStrategy → String → Prop where
  | container : Stops job remoteId .dockerNative ("docker rm -f " ++ job.text)
  | singularity : Stops job remoteId .singularityStart ("singularity instance stop " ++ job.text)
  | process {id : String} (assigned : remoteId = some id) :
    Stops job remoteId .singularityRun ("kill -9 " ++ Shell.quote id)
  | allocation {id : String} (assigned : remoteId = some id) :
    Stops job remoteId .slurm ("scancel " ++ Shell.quote id)

/-- Processes and allocations are known by their remote id only. -/
def NeedsId (strategy : CancelStrategy) : Prop :=
  strategy = .singularityRun ∨ strategy = .slurm

/-- The job has no remote id, or a blank one. -/
def Unassigned (job : Job) : Prop :=
  ∀ id, job.remoteJobId = some id → Text.isBlankText id = true

theorem unassigned_iff {job : Job} : job.remoteId? = none ↔ Unassigned job := by
  unfold Job.remoteId? Unassigned Text.nonBlank? Text.isBlankText
  cases job.remoteJobId with
  | none => simp
  | some id => simp

theorem stops_unique {other : String} (stops : Stops job remoteId strategy command)
    (again : Stops job remoteId strategy other) : other = command := by
  cases stops with
  | container => cases again; rfl
  | singularity => cases again; rfl
  | process assigned =>
    cases again with
    | process again =>
      rw [assigned, Option.some.injEq] at again
      rw [again]
  | allocation assigned =>
    cases again with
    | allocation again =>
      rw [assigned, Option.some.injEq] at again
      rw [again]

/-- A strategy has its one command, unless it needs an id that was never assigned. -/
theorem command_cases (strategy : CancelStrategy) (target : Target) :
    (∃ command, strategy.command target = .ok command ∧
      Stops target.uuid target.remoteId strategy command ∧
      ¬(NeedsId strategy ∧ target.remoteId = none)) ∨
    (strategy.command target = .error (.missingRemoteId target.uuid) ∧ NeedsId strategy ∧
      target.remoteId = none) := by
  cases assigned : target.remoteId with
  | none =>
    cases strategy with
    | dockerNative => exact .inl ⟨_, rfl, .container, by simp [NeedsId]⟩
    | singularityStart => exact .inl ⟨_, rfl, .singularity, by simp [NeedsId]⟩
    | singularityRun =>
      exact .inr ⟨by simp [CancelStrategy.command, assigned], .inl rfl, rfl⟩
    | slurm => exact .inr ⟨by simp [CancelStrategy.command, assigned], .inr rfl, rfl⟩
  | some id =>
    left
    cases strategy with
    | dockerNative => exact ⟨_, rfl, .container, by simp⟩
    | singularityStart => exact ⟨_, rfl, .singularity, by simp⟩
    | singularityRun =>
      exact ⟨Command.kill id, by simp [CancelStrategy.command, assigned], .process rfl, by simp⟩
    | slurm =>
      exact ⟨Command.slurmCancel id, by simp [CancelStrategy.command, assigned], .allocation rfl, by simp⟩

/-! ### One attempt -/

/-- How sending one command over a fresh connection comes out. -/
inductive Sent (host : Host σ) (target : Target) (command : String) (before : σ) :
    Except CancelError Unit → List HostEvent → σ → Prop where
  | refused {e : ExecError} {after : σ}
    (refusal : host.connect target.system before = (.error e, after)) :
    Sent host target command before (.error (.exec target.uuid e)) [.connected (.error e)] after
  | lost {e : ExecError} {between after : σ}
    (granted : host.connect target.system before = (.ok (), between))
    (failure : host.execute target.system command between = (.error e, after)) :
    Sent host target command before (.error (.exec target.uuid e))
      [.connected (.ok ()), .executed command (.error e)] after
  | carriedOut {output : Output} {between after : σ}
    (granted : host.connect target.system before = (.ok (), between))
    (answered : host.execute target.system command between = (.ok output, after)) :
    Sent host target command before (.ok ())
      [.connected (.ok ()), .executed command (.ok output)] after

/-- The host let the connection through and the command came back, whatever its exit code. -/
def CarriesOut (host : Host σ) (system : ExecSystem) (command : String) (before : σ) : Prop :=
  (host.connect system before).1 = .ok () ∧
    ∃ output, (host.execute system command (host.connect system before).2).1 = .ok output

theorem sent_ok_iff (sent : Sent host target command before answer dealings after) :
    answer = .ok () ↔ CarriesOut host target.system command before := by
  cases sent with
  | refused refusal => simp [CarriesOut, refusal]
  | lost granted failure => simp [CarriesOut, granted, failure]
  | carriedOut granted answered => simp [CarriesOut, granted, answered]

theorem yields_tryCancel (ordered : strategy.command target = .ok command) (host : Host σ) (before : σ) :
    ∃ answer dealings after, Yields (strategy.tryCancel host target) before answer dealings after ∧
      Sent host target command before answer dealings after := by
  unfold CancelStrategy.tryCancel
  rw [ordered]
  have connected := yields_connect host target.system before
  cases granted : host.connect target.system before with
  | mk reply between =>
    rw [granted] at connected
    cases reply with
    | error e =>
      exact ⟨_, _, _, yields_before connected (yields_pure _ _), .refused granted⟩
    | ok =>
      have executed := yields_execute host target.system command between
      cases answered : host.execute target.system command between with
      | mk reply last =>
        rw [answered] at executed
        cases reply with
        | error e =>
          exact ⟨_, _, _, yields_bind connected (yields_before executed (yields_pure _ _)),
            .lost granted answered⟩
        | ok output =>
          have noted : Yields (do
              if ← checkExit output then
                note .debug .canceler "job cancel command succeeded" ["job", "command"]
              return .ok ()) last (Except.ok () : Except CancelError Unit) [] last := by
            refine yields_after (yields_checkExit output last) ?_
            cases output.succeeded with
            | false => exact yields_pure _ _
            | true => exact yields_after (yields_note _ _ _ _ _) (yields_pure _ _)
          exact ⟨_, _, _, yields_bind connected (yields_before executed noted),
            .carriedOut granted answered⟩

theorem yields_missing (missing : strategy.command target = .error (.missingRemoteId target.uuid))
    (before : σ) : Yields (strategy.tryCancel host target) before
      (.error (.missingRemoteId target.uuid)) [] before := by
  unfold CancelStrategy.tryCancel
  rw [missing]
  exact yields_pure _ _

theorem sent_own (stops : Stops job remoteId strategy command)
    (sent : Sent host target command before answer dealings after) :
    ∀ issued ∈ commandsOf dealings, Stops job remoteId strategy issued := by
  cases sent <;> simp [commandsOf, stops]

/-- An attempt always comes to an end, and sends no other command than the strategy's own. -/
theorem attempt_yields (strategy : CancelStrategy) (host : Host σ) (target : Target) (before : σ) :
    ∃ answer dealings after, Yields (strategy.tryCancel host target) before answer dealings after ∧
      ∀ command ∈ commandsOf dealings, Stops target.uuid target.remoteId strategy command := by
  obtain ⟨command, ordered, stops, _⟩ | ⟨unnamed, _⟩ := command_cases strategy target
  · obtain ⟨answer, dealings, after, tried, sent⟩ :=
      yields_tryCancel ordered host before
    exact ⟨answer, dealings, after, tried, sent_own stops sent⟩
  · exact ⟨_, _, _, yields_missing unnamed before, by simp [commandsOf]⟩

/-- Cancelling does with the host what the attempt does and keeps its failure to itself. -/
theorem yields_cancel (tried : Yields (strategy.tryCancel host target) before answer dealings after) :
    Yields (strategy.cancel host target) before () dealings after := by
  refine yields_before tried ?_
  cases answer with
  | ok _ => exact yields_note _ _ _ _ _
  | error e => exact yields_note _ _ _ _ _

/-! ### The record -/

/-- The job as a cancellation leaves it. -/
def marked (ctx : Context) (now : Timestamp) : Context :=
  { ctx with job := { ctx.job with
    status := .cancelled, lastMessage := some "Job cancelled", lastUpdated := now } }

theorem yields_move (host : Host σ) (target : Status) (message : String) (job : Job) (before : σ) :
    Yields (Tracker.move host target message job) before
      (job.transition (host.date before) target message) [] before := by
  rintro w rfl
  exact ⟨rfl, (List.append_nil _).symm, rfl⟩

/-- A job that has ended is left alone together with its host. -/
theorem yields_ended (terminal : ctx.job.isTerminal = true) (before : σ) :
    Yields (Tracker.cancel host ctx) before (.ok ctx.job.status, ctx) [] before := by
  unfold Tracker.cancel
  rw [if_pos terminal]
  exact yields_after (yields_note _ _ _ _ _) (yields_pure _ _)

theorem yields_undispatched {e : DispatchError} (active : ctx.job.isTerminal = false)
    (choice : CancelStrategy.choose ctx = .error e) (before : σ) :
    Yields (Tracker.cancel host ctx) before (.error (.dispatch e), ctx) [] before := by
  unfold Tracker.cancel
  rw [if_neg (by simp [active]), choice]
  exact yields_pure _ _

/-- However the attempt came out, the job is CANCELLED afterwards: every active status has that edge. -/
theorem yields_marked (active : ctx.job.isTerminal = false)
    (choice : CancelStrategy.choose ctx = .ok strategy)
    (tried : Yields (strategy.tryCancel host ctx.target) before answer dealings after) :
    Yields (Tracker.cancel host ctx) before (.ok .cancelled, marked ctx (host.date after)) dealings
      after := by
  have edge : Status.cancelled ∈ ctx.job.status.targets := cancelled_edge active
  unfold Tracker.cancel
  rw [if_neg (by simp [active]), choice]
  refine yields_after (yields_note _ _ _ _ _) (yields_before (yields_cancel tried) ?_)
  have moved := yields_move host .cancelled "Job cancelled" ctx.job after
  rw [transition_moves _ _ _ _ edge] at moved
  exact yields_after moved (yields_pure _ _)

/-- A cancellation leaves the record as it is, or marks an active job CANCELLED. -/
theorem cancel_cases {w w' : World σ} {ctx' : Context} {answer : Except TrackError Status}
    (ran : (Tracker.cancel host ctx).run w = ((answer, ctx'), w')) :
    ctx' = ctx ∨ (ctx.job.isTerminal = false ∧ ∃ now, ctx' = marked ctx now) := by
  have came {result : Except TrackError Status × Context} {dealings : List HostEvent} {after : σ}
      (yields : Yields (Tracker.cancel host ctx) w.host result dealings after) : ctx' = result.2 := by
    rw [← (yields w rfl).1, ran]
  cases ended : ctx.job.isTerminal with
  | true => exact .inl (came (yields_ended ended w.host))
  | false =>
    cases choice : CancelStrategy.choose ctx with
    | error e => exact .inl (came (yields_undispatched ended choice w.host))
    | ok strategy =>
      obtain ⟨_, _, _, tried, _⟩ := attempt_yields strategy host ctx.target w.host
      exact .inr ⟨rfl, _, came (yields_marked ended choice tried)⟩

/-! ### Best effort -/

/-- How many connections were asked for. -/
def attempts (dealings : List HostEvent) : Nat :=
  dealings.countP fun
    | .connected _ => true
    | .executed .. => false

/-- What a cancellation comes to: the attempt by itself, the canceler and the tracker deal with the host in
one and the same way, by at most one connection and the strategy's own command at most. -/
structure BestEffort (host : Host σ) (ctx : Context) (strategy : CancelStrategy) (before : σ)
    (answer : Except CancelError Unit) (dealings : List HostEvent) (after : σ) : Prop where
  tried : Yields (strategy.tryCancel host ctx.target) before answer dealings after
  cancelled : Yields (strategy.cancel host ctx.target) before () dealings after
  tracked : Yields (Tracker.cancel host ctx) before (.ok .cancelled, marked ctx (host.date after))
    dealings after
  connects : attempts dealings ≤ 1
  sends : (commandsOf dealings).length ≤ 1
  own : ∀ command ∈ commandsOf dealings, Stops ctx.job.uuid ctx.job.remoteId? strategy command
  missing : (∃ job, answer = .error (.missingRemoteId job)) ↔ NeedsId strategy ∧ Unassigned ctx.job
  untouched : NeedsId strategy ∧ Unassigned ctx.job → dealings = [] ∧ after = before
  carriesOut : ¬(NeedsId strategy ∧ Unassigned ctx.job) →
    (answer = .ok () ↔ ∃ command, Stops ctx.job.uuid ctx.job.remoteId? strategy command ∧
      CarriesOut host ctx.system command before)

theorem best_effort_of_missing (active : ctx.job.isTerminal = false)
    (choice : CancelStrategy.choose ctx = .ok strategy)
    (unnamed : strategy.command ctx.target = .error (.missingRemoteId ctx.target.uuid))
    (needs : NeedsId strategy) (unassigned : Unassigned ctx.job) :
    BestEffort host ctx strategy before (.error (.missingRemoteId ctx.job.uuid)) [] before := by
  have tried : Yields (strategy.tryCancel host ctx.target) before
      (.error (.missingRemoteId ctx.job.uuid)) [] before := yields_missing unnamed before
  constructor
  case tried => exact tried
  case cancelled => exact yields_cancel tried
  case tracked => exact yields_marked active choice tried
  case missing => simp [needs, unassigned]
  case carriesOut => exact fun assigned => absurd ⟨needs, unassigned⟩ assigned
  all_goals simp [attempts, commandsOf]

theorem best_effort_of_sent (active : ctx.job.isTerminal = false)
    (choice : CancelStrategy.choose ctx = .ok strategy)
    (tried : Yields (strategy.tryCancel host ctx.target) before answer dealings after)
    (stops : Stops ctx.job.uuid ctx.job.remoteId? strategy command)
    (assigned : ¬(NeedsId strategy ∧ Unassigned ctx.job))
    (sent : Sent host ctx.target command before answer dealings after) :
    BestEffort host ctx strategy before answer dealings after := by
  constructor
  case tried => exact tried
  case cancelled => exact yields_cancel tried
  case tracked => exact yields_marked active choice tried
  case connects => cases sent <;> simp [attempts]
  case sends => cases sent <;> simp [commandsOf]
  case own => exact sent_own stops sent
  case missing =>
    rw [iff_false_right assigned]
    cases sent <;> simp
  case untouched => exact fun unassigned => absurd unassigned assigned
  case carriesOut =>
    intro _
    rw [sent_ok_iff sent]
    constructor
    · exact fun carried => ⟨command, stops, carried⟩
    · rintro ⟨other, again, carried⟩
      rw [stops_unique stops again] at carried
      exact carried

/-- Cancelling a job that has not ended marks it CANCELLED on every host, with one attempt to stop it at
most; only a job without a strategy is left as it is, together with its host. -/
theorem cancellation_is_best_effort (active : ctx.job.isTerminal = false) (host : Host σ) (before : σ) :
    (∀ strategy, CancelStrategy.choose ctx = .ok strategy →
      ∃ answer dealings after, BestEffort host ctx strategy before answer dealings after) ∧
    ∀ e, CancelStrategy.choose ctx = .error e →
      Yields (Tracker.cancel host ctx) before (.error (.dispatch e), ctx) [] before := by
  refine ⟨fun strategy choice => ?_, fun e choice => yields_undispatched active choice before⟩
  have assigned : NeedsId strategy ∧ ctx.target.remoteId = none ↔ NeedsId strategy ∧ Unassigned ctx.job :=
    and_congr_right fun _ => unassigned_iff
  obtain ⟨command, ordered, stops, named⟩ | ⟨unnamed, needs⟩ := command_cases strategy ctx.target
  · obtain ⟨answer, dealings, after, tried, sent⟩ := yields_tryCancel ordered host before
    exact ⟨answer, dealings, after,
      best_effort_of_sent active choice tried stops (mt assigned.mpr named) sent⟩
  · obtain ⟨needs, unassigned⟩ := assigned.mp needs
    exact ⟨_, _, _, best_effort_of_missing active choice unnamed needs unassigned⟩

/-- A running job launched with `singularity run`. -/
def running : Context where
  job := { Job.initial .nil ⟨0, 0⟩ .fork "cluster" "/out" with
    status := .running, remoteJobId := some " 4100 " }
  app := ⟨"sleeper", "0.1", .singularity, some .run⟩
  system := ⟨"cluster", "cluster.example.org", 22, none, none, none⟩

/-- A host that lets the connection through and loses it on every kill. -/
def severed : Scripted.Stage where
  scripts := []
  faults := [⟨"kill", .connectionLost, none, 0⟩]
  today := ⟨86400, 0⟩

theorem lost_kill_still_cancels :
    ∃ answer dealings after,
      BestEffort Scripted.host running .singularityRun severed answer dealings after ∧
      answer.toOption = none ∧ commandsOf dealings = ["kill -9 4100"] := by
  obtain ⟨dispatched, _⟩ := (cancellation_is_best_effort rfl Scripted.host severed :
    (∀ strategy, CancelStrategy.choose running = .ok strategy → _) ∧ _)
  obtain ⟨answer, dealings, after, best⟩ := dispatched .singularityRun rfl
  obtain ⟨failure, trace, _⟩ := best.tried { host := severed } rfl
  refine ⟨answer, dealings, after, best, ?_, ?_⟩
  · rw [← failure]
    decide +kernel
  · have sent : dealings = (((CancelStrategy.singularityRun).tryCancel Scripted.host
        running.target).run { host := severed }).2.trace := trace.symm
    rw [sent]
    decide +kernel

end RemoteJobs.Proofs.CancelAttempts
