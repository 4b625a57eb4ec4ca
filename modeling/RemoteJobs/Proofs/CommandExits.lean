import RemoteJobs.Cli.Run
import RemoteJobs.Proofs.ReportTexts
import RemoteJobs.Proofs.TrackingEnds

/-! What the exit code of a command on a job says, and what goes with it: the record that is shown, the text on
the error stream and the `ssh` processes that were started. Loading, dispatch and the phases of the monitor
fail in this order, each with a code of its own. -/
namespace RemoteJobs.Proofs.CommandExits
open Cli Tracker SessionRuns StatusWalks TrackingRuns TrackingEnds ReportTexts

variable {around : Surroundings} {polls : Nat} {jobFile : String} {configFile : Option String} {asJson : Bool}
  {config config' : Config} {ctx ctx' : Context} {finish done : Finish}
  {result : Except TrackError Status} {world : World Ssh.Client}

/-! ### Loading -/

/-- There is a file with a configuration that is accepted. -/
def HoldsConfig (around : Surroundings) (path : String) (config : Config) : Prop :=
  around.present path = true ∧ ∃ text, around.read path = .ok text ∧ Config.parse text = .ok config

/-- The configuration of a command is that of the file which is named. Without a name it is that of the file in its
usual place, and where there is none the standard one. -/
inductive Configured (around : Surroundings) : Option String → Config → Prop where
  | named {path : String} {config : Config} (held : HoldsConfig around path config) :
    Configured around (some path) config
  | usual {home : String} {config : Config} (lives : around.home = some home)
    (held : HoldsConfig around (standardConfigPath home) config) : Configured around none config
  | standard {home : String} (lives : around.home = some home)
    (missing : around.present (standardConfigPath home) = false) : Configured around none Config.standard

/-- There is a file with a job. -/
def HoldsJob (around : Surroundings) (path : String) (ctx : Context) : Prop :=
  ∃ text, around.read path = .ok text ∧ JobFile.parse around.today text = .ok ctx

theorem readConfig_iff {path : String} : readConfig around path = .ok config ↔ HoldsConfig around path config := by
  unfold readConfig HoldsConfig
  cases around.present path with
  | false => simp
  | true =>
    cases around.read path with
    | error e => simp
    | ok text => cases parsed : Config.parse text <;> simp [Except.mapError, parsed]

theorem findConfig_iff : findConfig around configFile = .ok config ↔ Configured around configFile config := by
  constructor
  · intro found
    unfold findConfig at found
    split at found
    · exact .named (readConfig_iff.mp found)
    · cases found
    · rename_i home lives
      dsimp only at found
      split at found
      · exact .usual lives (readConfig_iff.mp found)
      · rename_i missing
        cases found
        exact .standard lives (by simpa using missing)
  · rintro (held | ⟨lives, held⟩ | ⟨lives, missing⟩)
    · exact readConfig_iff.mpr held
    · simp [findConfig, lives, held.1, readConfig_iff.mpr held]
    · simp [findConfig, lives, missing]

theorem readJobFile_iff : readJobFile around jobFile = .ok ctx ↔ HoldsJob around jobFile ctx := by
  unfold readJobFile HoldsJob
  cases around.read jobFile with
  | error e => simp
  | ok text => cases parsed : JobFile.parse around.today text <;> simp [Except.mapError, parsed]

/-- The configuration and the job that a command works on. -/
structure Loaded (around : Surroundings) (jobFile : String) (configFile : Option String) (config : Config)
    (ctx : Context) : Prop where
  config : Configured around configFile config
  job : HoldsJob around jobFile ctx

/-- There is no configuration or no job to work on. -/
def Unloadable (around : Surroundings) (jobFile : String) (configFile : Option String) : Prop :=
  (∀ config, ¬Configured around configFile config) ∨ ∀ ctx, ¬HoldsJob around jobFile ctx

theorem load_cases (around : Surroundings) (jobFile : String) (configFile : Option String) :
    (∃ e, load around jobFile configFile = .error e ∧ Unloadable around jobFile configFile) ∨
    ∃ config ctx, load around jobFile configFile = .ok (config, ctx) ∧
      Loaded around jobFile configFile config ctx := by
  unfold load
  cases found : findConfig around configFile with
  | error e =>
    refine .inl ⟨_, rfl, .inl fun config configured => ?_⟩
    rw [findConfig_iff.mpr configured] at found
    cases found
  | ok config =>
    cases read : readJobFile around jobFile with
    | error e =>
      refine .inl ⟨_, rfl, .inr fun ctx held => ?_⟩
      rw [readJobFile_iff.mpr held] at read
      cases read
    | ok ctx => exact .inr ⟨config, ctx, rfl, findConfig_iff.mp found, readJobFile_iff.mp read⟩

theorem loaded_unique (loaded : Loaded around jobFile configFile config ctx)
    (again : Loaded around jobFile configFile config' ctx') : config' = config ∧ ctx' = ctx := by
  have found := (findConfig_iff.mpr loaded.config).symm.trans (findConfig_iff.mpr again.config)
  have read := (readJobFile_iff.mpr loaded.job).symm.trans (readJobFile_iff.mpr again.job)
  cases found
  cases read
  exact ⟨rfl, rfl⟩

theorem loaded_loadable (loaded : Loaded around jobFile configFile config ctx) :
    ¬Unloadable around jobFile configFile := by
  rintro (unconfigured | jobless)
  · exact unconfigured config loaded.config
  · exact jobless ctx loaded.job

/-! ### What a run leaves behind -/

/-- The host of a run. -/
abbrev hostOf (around : Surroundings) (config : Config) : Host Ssh.Client :=
  Ssh.host config.ssh around.ssh

/-- The code for what following a job came to. -/
def codeOf : Except TrackError Status → Nat
  | .ok _ => 0
  | .error e => exitFor e

/-- A run that did not break down returned the code for its result, and printed the job that it was done
with. -/
structure Leaves (asJson : Bool) (result : Except TrackError Status) (ctx' : Context) (world : World Ssh.Client)
    (finish : Finish) : Prop where
  code : finish.exitCode = codeOf result
  calls : finish.calls = world.host.calls
  printed : ∀ s, result = .ok s → finish.stdout = jobReport ctx'.job asJson

/-- Following a job, it printed the job also where it failed, and then it said why. -/
structure Complains (asJson : Bool) (result : Except TrackError Status) (ctx' : Context) (finish : Finish) :
    Prop where
  printed : ∀ e, result = .error e → finish.stdout = jobReport ctx'.job asJson
  reason : ∀ e, result = .error e → finish.stderr = linesText ["Monitoring failed: " ++ e.message]

theorem shows_named {job : Job} {name text : String} (printed : text = jobReport job asJson)
    (named : job.status.name = name) : Shows asJson job name text := by
  rw [printed, ← named]
  exact jobReport_shows job asJson

theorem close_whole (whole : (close world done).exitCode ≠ exitBroken) :
    (close world done).exitCode = done.exitCode ∧ (close world done).stdout = done.stdout ∧
      (close world done).stderr = done.stderr ∧ (close world done).calls = world.host.calls := by
  unfold close at *
  split at whole
  · exact absurd rfl whole
  · rename_i running
    simp [running]

theorem monitor_leaves (ran : runMonitor around polls config ctx asJson = some finish)
    (whole : finish.exitCode ≠ exitBroken) :
    ∃ result ctx' world, (track (hostOf around config) polls (Poll.Pacer.ofSchedule config.monitor) ctx).run
      (begin around) = some ((result, ctx'), world) ∧ Leaves asJson result ctx' world finish ∧
        Complains asJson result ctx' finish := by
  unfold runMonitor at ran
  obtain ⟨⟨⟨result, ctx'⟩, world⟩, tracked, closed⟩ := Option.bind_eq_some_iff.mp ran
  refine ⟨result, ctx', world, tracked, ?_⟩
  cases closed
  obtain ⟨code, stdout, stderr, calls⟩ := close_whole whole
  cases result with
  | ok _ => exact ⟨⟨code, calls, fun _ _ => stdout⟩, nofun, nofun⟩
  | error e =>
    refine ⟨⟨code, calls, nofun⟩, fun _ _ => stdout, ?_⟩
    rintro _ ⟨⟩
    exact stderr

/-! ### Following a job -/

/-- The monitor that a run sets on its job. -/
def monitorOf (config : Config) (ctx : Context) (strategy : MonitorStrategy) : Monitor :=
  ⟨strategy, ctx.target, Poll.Pacer.ofSchedule config.monitor, none⟩

/-- What the code of a run that follows a job says, and what goes with it. -/
structure Followed (around : Surroundings) (polls : Nat) (config : Config) (ctx : Context) (asJson : Bool)
    (finish : Finish) : Prop where
  codes : finish.exitCode ∈ [0, 1, 2, 4]
  dispatch : finish.exitCode = 2 ↔
    ctx.job.isTerminal = false ∧ ∃ e, MonitorStrategy.choose ctx = .error e
  barred : finish.exitCode = 1 ↔
    ctx.job.isTerminal = false ∧ (∃ strategy, MonitorStrategy.choose ctx = .ok strategy) ∧
      ctx.job.status ∉ trackable
  monitor : finish.exitCode = 4 ↔
    ∃ strategy e, MonitorStrategy.choose ctx = .ok strategy ∧ ctx.job.status ∈ trackable ∧
      GivesUp (hostOf around config) polls (monitorOf config ctx strategy) ctx.job (begin around).host e
  quiet : finish.exitCode = 2 → finish.calls = []
  unchanged : finish.exitCode = 1 ∨ finish.exitCode = 2 →
    Shows asJson ctx.job ctx.job.status.name finish.stdout
  failed : finish.exitCode = 4 → ∃ job' message, Shows asJson job' "FAILED" finish.stdout ∧
    SameButStatus ctx.job job' ∧ job'.status = .failed ∧ job'.lastMessage = some message ∧
    finish.stderr = "Monitoring failed: " ++ message ++ "\n"
  ended : finish.exitCode = 0 →
    (ctx.job.isTerminal = true ∧ Shows asJson ctx.job ctx.job.status.name finish.stdout ∧ finish.calls = []) ∨
    (ctx.job.isTerminal = false ∧ ∃ ctx' world,
      (track (hostOf around config) polls (Poll.Pacer.ofSchedule config.monitor) ctx).run (begin around) =
        some ((.ok ctx'.job.status, ctx'), world) ∧
      (ctx'.job.status = .archiving ∧ Shows asJson ctx'.job "ARCHIVING" finish.stdout ∨
        ctx'.job.status = .failed ∧ Shows asJson ctx'.job "FAILED" finish.stdout))

theorem trackable_active (allowed : ctx.job.status ∈ trackable) : ctx.job.isTerminal = false := by
  unfold Job.isTerminal
  revert allowed
  cases ctx.job.status <;> decide

theorem nextStatus_cases (outcome : Outcome) :
    outcome.nextStatus = .archiving ∨ outcome.nextStatus = .failed := by
  cases outcome <;> decide

theorem codeOf_iff (result : Except TrackError Status) :
    codeOf result ∈ [0, 1, 2, 4] ∧ (codeOf result = 0 ↔ ∃ s, result = .ok s) ∧
      (codeOf result = 1 ↔ ∃ e, result = .error (.job e)) ∧
      (codeOf result = 2 ↔ ∃ e, result = .error (.dispatch e)) ∧
      (codeOf result = 4 ↔ ∃ e, result = .error (.monitor e)) := by
  cases result with
  | ok s => simp [codeOf]
  | error e => cases e <;> simp [codeOf, exitFor, exitDispatch, exitMonitor, exitIllegal]

section Run
variable {pacer : Poll.Pacer} {host : Host Ssh.Client} {w : World Ssh.Client}

theorem terminal_result (terminal : ctx.job.isTerminal = true)
    (ran : (track host polls pacer ctx).run w = some ((result, ctx'), world)) :
    result = .ok ctx.job.status ∧ ctx' = ctx ∧ world.host = w.host := by
  obtain ⟨same, _, still⟩ := completes_ran (TrackingCourses.track_terminal terminal w.host) ran rfl
  exact ⟨congrArg Prod.fst same, congrArg Prod.snd same, still⟩

theorem undispatched_result {e : DispatchError} (active : ctx.job.isTerminal = false)
    (choice : MonitorStrategy.choose ctx = .error e)
    (ran : (track host polls pacer ctx).run w = some ((result, ctx'), world)) :
    result = .error (.dispatch e) ∧ ctx' = ctx ∧ world.host = w.host := by
  have unchosen : Monitor.choose ctx pacer = .error e := by
    rw [Monitor.choose, choice]
    rfl
  unfold track at ran
  rw [if_neg (by simp [active]), unchosen] at ran
  cases ran
  exact ⟨rfl, rfl, rfl⟩

/-- A job that was followed to its end has the status that its outcome leads to. -/
theorem ended_active {status : Status} (active : ctx.job.isTerminal = false)
    (ran : (track host polls pacer ctx).run w = some ((.ok status, ctx'), world)) :
    status = ctx'.job.status ∧ ∃ outcome : Outcome, ctx'.job.status = outcome.nextStatus := by
  generalize same : (Except.ok status : Except TrackError Status) = answered at ran
  cases track_cases ran with
  | settled terminal =>
    rw [active] at terminal
    cases terminal
  | recorded _ _ _ _ _ _ _ recorded =>
    cases same
    exact ⟨recorded.status.symm, _, recorded.status⟩
  | undispatched | refused | unwatched => cases same

end Run

/-- Each code but zero has its one cause. -/
theorem run_coded
    (ran : (track (hostOf around config) polls (Poll.Pacer.ofSchedule config.monitor) ctx).run
      (begin around) = some ((result, ctx'), world)) :
    (codeOf result = 1 ↔ ctx.job.isTerminal = false ∧
      (∃ strategy, MonitorStrategy.choose ctx = .ok strategy) ∧ ctx.job.status ∉ trackable) ∧
    (codeOf result = 2 ↔ ctx.job.isTerminal = false ∧ ∃ e, MonitorStrategy.choose ctx = .error e) ∧
    (codeOf result = 4 ↔ ∃ strategy e, MonitorStrategy.choose ctx = .ok strategy ∧
      ctx.job.status ∈ trackable ∧
      GivesUp (hostOf around config) polls (monitorOf config ctx strategy) ctx.job (begin around).host e) := by
  obtain ⟨_, _, job, dispatch, monitor⟩ := codeOf_iff result
  rw [job, dispatch, monitor]
  cases ended : ctx.job.isTerminal with
  | true =>
    have idle : ctx.job.status ∉ trackable := fun allowed => by simp [trackable_active allowed] at ended
    obtain ⟨rfl, _⟩ := terminal_result ended ran
    simp [idle]
  | false =>
    cases choice : MonitorStrategy.choose ctx with
    | error e =>
      obtain ⟨rfl, _⟩ := undispatched_result ended choice ran
      simp
    | ok strategy =>
      obtain ⟨barred, gaveUp, undispatched⟩ :=
        track_decides ended (TrackingCourses.choose_monitor choice _) ran
      simp [barred, gaveUp, undispatched, monitorOf]

theorem run_followed
    (ran : (track (hostOf around config) polls (Poll.Pacer.ofSchedule config.monitor) ctx).run
      (begin around) = some ((result, ctx'), world))
    (leaves : Leaves asJson result ctx' world finish) (complains : Complains asJson result ctx' finish) :
    Followed around polls config ctx asJson finish := by
  obtain ⟨barred, dispatch, monitor⟩ := run_coded ran
  obtain ⟨codes, ok, job, undispatched, gaveUp⟩ := codeOf_iff result
  obtain ⟨code, calls, printed⟩ := leaves
  rw [← code] at barred dispatch monitor codes ok job undispatched gaveUp
  refine ⟨codes, dispatch, barred, monitor, ?quiet, ?unchanged, ?failed, ?ended⟩
  case quiet =>
    intro two
    obtain ⟨active, e, choice⟩ := dispatch.mp two
    obtain ⟨_, _, still⟩ := undispatched_result active choice ran
    rw [calls, still]
    rfl
  case unchanged =>
    rintro (one | two)
    · obtain ⟨e, rfl⟩ := job.mp one
      cases track_cases ran with
      | refused => exact shows_named (complains.printed _ rfl) rfl
    · obtain ⟨e, rfl⟩ := undispatched.mp two
      cases track_cases ran with
      | undispatched => exact shows_named (complains.printed _ rfl) rfl
  case failed =>
    intro four
    obtain ⟨e, rfl⟩ := gaveUp.mp four
    cases track_cases ran with
    | unwatched _ _ moved failed message =>
      have told := complains.reason _ rfl
      simp only [TrackError.message, linesText_single] at told
      have shown := shows_named (complains.printed _ rfl) (congrArg Status.name failed)
      exact ⟨_, _, shown, moved.same, failed, message, told⟩
  case ended =>
    intro zero
    obtain ⟨status, rfl⟩ := ok.mp zero
    cases terminal : ctx.job.isTerminal with
    | true =>
      obtain ⟨_, rfl, still⟩ := terminal_result terminal ran
      refine .inl ⟨rfl, shows_named (printed _ rfl) rfl, ?_⟩
      rw [calls, still]
      rfl
    | false =>
      have shown := printed _ rfl
      obtain ⟨answered, outcome, next⟩ := ended_active terminal ran
      refine .inr ⟨rfl, ctx', world, answered ▸ ran, ?_⟩
      obtain archiving | failed := nextStatus_cases outcome
      · rw [archiving] at next
        exact .inl ⟨next, shows_named shown (congrArg Status.name next)⟩
      · rw [failed] at next
        exact .inr ⟨next, shows_named shown (congrArg Status.name next)⟩

/-! ### Cancelling a job -/

/-- What the code of a run that cancels a job says, and what goes with it. -/
structure Cancelled (ctx : Context) (asJson : Bool) (finish : Finish) : Prop where
  codes : finish.exitCode ∈ [0, 2]
  dispatch : finish.exitCode = 2 ↔
    ctx.job.isTerminal = false ∧ ∃ e, CancelStrategy.choose ctx = .error e
  quiet : finish.exitCode = 2 → finish.calls = []
  ended : finish.exitCode = 0 →
    (ctx.job.isTerminal = true ∧ Shows asJson ctx.job ctx.job.status.name finish.stdout ∧ finish.calls = []) ∨
    (ctx.job.isTerminal = false ∧ ∃ job', Shows asJson job' "CANCELLED" finish.stdout ∧
      SameButStatus ctx.job job' ∧ job'.status = .cancelled)

theorem cancel_leaves (whole : (runCancel around config ctx asJson).exitCode ≠ exitBroken) :
    ∃ result ctx' world,
      (Tracker.cancel (hostOf around config) ctx).run (begin around) = ((result, ctx'), world) ∧
      Leaves asJson result ctx' world (runCancel around config ctx asJson) := by
  obtain ⟨⟨⟨result, ctx'⟩, world⟩, ran⟩ :
    ∃ run, (Tracker.cancel (hostOf around config) ctx).run (begin around) = run := ⟨_, rfl⟩
  refine ⟨result, ctx', world, ran, ?_⟩
  unfold runCancel at *
  dsimp only at *
  rw [ran] at whole ⊢
  obtain ⟨code, stdout, _, calls⟩ := close_whole whole
  cases result with
  | ok _ => exact ⟨code, calls, fun _ _ => stdout⟩
  | error e => exact ⟨code, calls, nofun⟩

theorem run_cancelled
    (ran : (Tracker.cancel (hostOf around config) ctx).run (begin around) = ((result, ctx'), world))
    (leaves : Leaves asJson result ctx' world finish) : Cancelled ctx asJson finish := by
  obtain ⟨code, calls, printed⟩ := leaves
  have came {answer : Except TrackError Status × Context} {dealings : List HostEvent} {after : Ssh.Client}
      (yields : Yields (Tracker.cancel (hostOf around config) ctx) (begin around).host answer dealings after) :
      result = answer.1 ∧ ctx' = answer.2 ∧ world.host = after := by
    obtain ⟨same, _, still⟩ := yields (begin around) rfl
    rw [ran] at same still
    exact ⟨congrArg Prod.fst same, congrArg Prod.snd same, still⟩
  cases ended : ctx.job.isTerminal with
  | true =>
    obtain ⟨rfl, rfl, still⟩ := came (CancelAttempts.yields_ended ended _)
    have zero : finish.exitCode = 0 := code
    refine ⟨by simp [zero], by simp [zero, ended], by simp [zero], fun _ => .inl ⟨ended, ?_, ?_⟩⟩
    · exact shows_named (printed _ rfl) rfl
    · rw [calls, still]
      rfl
  | false =>
    cases choice : CancelStrategy.choose ctx with
    | error e =>
      obtain ⟨rfl, _, still⟩ := came (CancelAttempts.yields_undispatched ended choice _)
      have two : finish.exitCode = 2 := code
      refine ⟨by simp [two], by simp [two, ended, choice], fun _ => ?_, by simp [two]⟩
      rw [calls, still]
      rfl
    | ok strategy =>
      obtain ⟨_, _, _, tried, _⟩ :=
        CancelAttempts.attempt_yields strategy (hostOf around config) ctx.target (begin around).host
      obtain ⟨rfl, rfl, _⟩ := came (CancelAttempts.yields_marked ended choice tried)
      have zero : finish.exitCode = 0 := code
      refine ⟨by simp [zero], by simp [zero, choice], by simp [zero], fun _ => ?_⟩
      exact .inr ⟨ended, _, shows_named (printed _ rfl) rfl, rfl, rfl⟩

/-! ### Whole runs -/

/-- A run with arguments for an action is the run of that action, with fewer notices. -/
theorem run_action {arguments : List String} {invocation : Invocation}
    (asked : Invocation.ofArguments arguments = .ok invocation)
    (ran : run around polls arguments = some finish) (whole : finish.exitCode ≠ exitBroken) :
    ∃ done notices, runAction around polls invocation.action = some done ∧
      finish = { done with notices := notices } := by
  unfold run at ran
  rw [asked] at ran
  dsimp only at ran
  split at ran
  · cases ran
    exact absurd rfl whole
  · obtain ⟨done, acted, kept⟩ := Option.bind_eq_some_iff.mp ran
    cases kept
    exact ⟨done, _, acted, rfl⟩

/-- What the code of a command on a job says of loading, and of what follows it. Code 3 is for a failure to
load, with nothing started. -/
structure Told (around : Surroundings) (jobFile : String) (configFile : Option String) (finish : Finish)
    (later : Config → Context → Prop) : Prop where
  unloadable : finish.exitCode = 3 ↔ Unloadable around jobFile configFile
  quiet : finish.exitCode = 3 → finish.calls = []
  loaded : ∀ config ctx, Loaded around jobFile configFile config ctx → later config ctx

/-- A command loads first, and goes on only with what it has loaded. -/
theorem told_by_load {command : Config → Context → Option Finish} {later : Config → Context → Prop}
    (acted : (match load around jobFile configFile with
      | .error e => some { exitCode := exitConfig, stderr := linesText [e] }
      | .ok (config, ctx) => command config ctx) = some done)
    (code : finish.exitCode = done.exitCode) (calls : finish.calls = done.calls)
    (onward : ∀ config ctx, command config ctx = some done →
      finish.exitCode ∈ [0, 1, 2, 4] ∧ later config ctx) :
    Told around jobFile configFile finish later := by
  obtain ⟨e, failed, unloadable⟩ | ⟨config, ctx, read, loaded⟩ := load_cases around jobFile configFile
  · rw [failed] at acted
    cases acted
    have three : finish.exitCode = 3 := code
    refine ⟨by simp [three, unloadable], fun _ => calls, fun _ _ loaded => ?_⟩
    exact absurd unloadable (loaded_loadable loaded)
  · rw [read] at acted
    obtain ⟨codes, known⟩ := onward config ctx acted
    have other : finish.exitCode ≠ 3 := fun three => absurd (three ▸ codes) (by decide)
    refine ⟨by simp [other, loaded_loadable loaded], fun three => absurd three other, fun _ _ again => ?_⟩
    obtain ⟨rfl, rfl⟩ := loaded_unique loaded again
    exact known

/-- A command that ends by itself returns a code that says how far it came and why it came no further. -/
theorem exit_codes_tell_the_truth {arguments : List String} (ran : run around polls arguments = some finish)
    (whole : finish.exitCode ≠ exitBroken) :
    (∀ verbose jobFile configFile asJson,
      Invocation.ofArguments arguments = .ok ⟨verbose, .monitor jobFile configFile asJson⟩ →
      Told around jobFile configFile finish fun config ctx => Followed around polls config ctx asJson finish) ∧
    ∀ verbose jobFile configFile asJson,
      Invocation.ofArguments arguments = .ok ⟨verbose, .cancel jobFile configFile asJson⟩ →
      Told around jobFile configFile finish fun _ ctx => Cancelled ctx asJson finish := by
  constructor
  · intro verbose jobFile configFile asJson asked
    obtain ⟨done, notices, acted, rfl⟩ := run_action asked ran whole
    refine told_by_load acted rfl rfl fun config ctx monitored => ?_
    obtain ⟨result, ctx', world, tracked, leaves, complains⟩ := monitor_leaves monitored whole
    have followed : Followed around polls config ctx asJson { done with notices := notices } :=
      run_followed tracked ⟨leaves.code, leaves.calls, leaves.printed⟩ ⟨complains.printed, complains.reason⟩
    exact ⟨followed.codes, followed⟩
  · intro verbose jobFile configFile asJson asked
    obtain ⟨done, notices, acted, rfl⟩ := run_action asked ran whole
    refine told_by_load acted rfl rfl fun config ctx quit => ?_
    cases quit
    obtain ⟨result, ctx', world, ended, leaves⟩ := cancel_leaves whole
    have cancelled : Cancelled ctx asJson { runCancel around config ctx asJson with notices := notices } :=
      run_cancelled ended ⟨leaves.code, leaves.calls, leaves.printed⟩
    have covered : [0, 2] ⊆ [0, 1, 2, 4] := by decide
    exact ⟨covered cancelled.codes, cancelled⟩

/-! ### A job without a remote id -/

def namelessUuid : String :=
  "5b3c8d0e-8f5a-4c39-9d57-3f4c1b0e2a11"

def namelessFile : String :=
  "[job]\nuuid=\"" ++ namelessUuid ++ "\"\nstatus=\"RUNNING\"\njob_type=\"FORK\"\n" ++
    "exec_system_id=\"\"\nexec_system_output_dir=\"\"\n" ++
    "[app]\nid=\"\"\nruntime=\"SINGULARITY\"\nsingularity_mode=\"RUN\"\n[system]\nid=\"\"\nhost=\"host\"\n"

/-- A machine with that job file, without a configuration and without the program. -/
def desk : Surroundings where
  home := some "/home"
  read path := if path = "job" then .ok namelessFile else .error .missing
  present path := path = "job"
  ssh _ _ := none
  today := ⟨86400, 0⟩

theorem desk_asked :
    Invocation.ofArguments ["monitor", "--job=job"] = .ok ⟨false, .monitor "job" none false⟩ := by
  have shape : Shape.ofArgument "--job=job" = .long "job" (some "job") := by decide +kernel
  have taken : jobGrammar.readLong {} "job" (some "job") = .ok (.complete ⟨[], [("job", "job")], []⟩) := rfl
  have given : jobGrammar.read {} ["--job=job"] = .ok ⟨[], [("job", "job")], []⟩ := by
    rw [Grammar.read, shape]
    dsimp only
    rw [taken]
    show Grammar.read.proceed _ _ _ = _
    rw [Grammar.read.proceed, Grammar.read]
  have split : splitCommand ["monitor", "--job=job"] = ([], ["monitor", "--job=job"]) := by decide +kernel
  simp [Invocation.ofArguments, split, readCommand, given, Grammar.read]
  rfl

theorem nameless_job_fails :
    ∃ finish, run desk 1 ["monitor", "--job=job"] = some finish ∧ finish.exitCode = 4 ∧
      finish.stdout = "Job " ++ namelessUuid ++ ": FAILED\n" ++
        "  Job " ++ namelessUuid ++ ": no remote job id assigned\n" ∧
      finish.stderr = "Monitoring failed: Job " ++ namelessUuid ++ ": no remote job id assigned\n" ∧
      ∃ config ctx, Loaded desk "job" none config ctx ∧ Followed desk 1 config ctx false finish := by
  have filtered : (Log.Filter.choose? desk.logFilter false).isSome = true := by decide +kernel
  obtain ⟨filter, chosen⟩ := Option.isSome_iff_exists.mp filtered
  have acts : (runAction desk 1 (.monitor "job" none false)).map
      (fun finish => (finish.exitCode, finish.stdout, finish.stderr)) =
      some (4, "Job " ++ namelessUuid ++ ": FAILED\n" ++
        "  Job " ++ namelessUuid ++ ": no remote job id assigned\n",
        "Monitoring failed: Job " ++ namelessUuid ++ ": no remote job id assigned\n") := by decide +kernel
  obtain ⟨done, acted, left⟩ := Option.map_eq_some_iff.mp acts
  simp only [Prod.mk.injEq] at left
  obtain ⟨code, stdout, stderr⟩ := left
  have ran : run desk 1 ["monitor", "--job=job"] =
      some { done with notices := done.notices.filter filter.admits } := by
    simp [run, desk_asked, chosen, acted]
  have whole : done.exitCode ≠ exitBroken := by
    rw [code]
    decide
  obtain ⟨monitored, _⟩ := exit_codes_tell_the_truth ran whole
  have told := monitored _ _ _ _ desk_asked
  refine ⟨_, ran, code, stdout, stderr, ?_⟩
  obtain ⟨e, _, unloadable⟩ | ⟨config, ctx, _, loaded⟩ := load_cases desk "job" none
  · have three := told.unloadable.mpr unloadable
    rw [code] at three
    cases three
  · exact ⟨config, ctx, loaded, told.loaded config ctx loaded⟩

end RemoteJobs.Proofs.CommandExits
