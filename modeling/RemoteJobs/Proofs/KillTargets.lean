import RemoteJobs.Proofs.CancelAttempts
import RemoteJobs.Proofs.ListingEvidence
import RemoteJobs.Proofs.WatchFrames

/-! Whom the kills sent for a `singularity run` job can hit. The monitor sends one only after it has read the
remote id as a process id; the canceler takes any id that is not blank, and quoting keeps the shell from reading
more into it but not the kill command. -/
namespace RemoteJobs.Proofs.KillTargets
open Session Monitor Poll Listing SessionRuns SingularityQueries WatchFrames CancelAttempts

variable {σ : Type} {host : Host σ} {ctx : Context} {target : Target} {command id : String}
  {m m' : Monitor} {w w' : World σ} {pacer : Pacer}

/-! ### Kills -/

def IsKill (command : String) : Prop :=
  ∃ argument, command = "kill -9 " ++ argument

/-- Digits and nothing else, of a value that a process can have as its id. -/
def PositiveNumeral (text : String) : Prop :=
  ∃ n, Text.readDigits? text.toList = some n ∧ 1 ≤ n

/-- The command kills the one process that it names. Other arguments may be read as an option, or as a process
group, or as all processes of the user. -/
def NamesProcess (command : String) : Prop :=
  ∃ numeral, command = "kill -9 " ++ numeral ∧ PositiveNumeral numeral

theorem plain_of_digit {c : Char} (digit : c.isDigit = true) : Shell.isPlain c = true := by
  simp [Shell.isPlain, Char.isAlphanum, digit]

/-- Quoting neither makes a numeral nor spoils one. -/
theorem readDigits_quote (word : List Char) :
    Text.readDigits? (Shell.quoteWord word) = Text.readDigits? word := by
  unfold Shell.quoteWord
  split
  · rfl
  · rename_i quoted
    have quote : Text.readDigits? ('\'' :: Shell.escape word ++ ['\'']) = none := by
      simp [Text.readDigits?]
    rw [quote]
    unfold Text.readDigits?
    split
    · rfl
    · rename_i filled
      have stray : word.all Char.isDigit ≠ true := by
        intro digits
        refine quoted ?_
        simp only [filled, Bool.not_false, Bool.true_and, List.all_eq_true] at digits ⊢
        exact fun c member => plain_of_digit (digits c member)
      rw [if_neg stray]

theorem kill_names_iff : NamesProcess (Command.kill id) ↔ PositiveNumeral id := by
  have quoted : PositiveNumeral (Shell.quote id) ↔ PositiveNumeral id := by
    unfold PositiveNumeral Shell.quote
    rw [String.toList_ofList, readDigits_quote]
  rw [← quoted]
  constructor
  · rintro ⟨numeral, same, positive⟩
    have words := congrArg String.toList same
    simp only [Command.kill, String.toList_append, List.append_cancel_left_eq, String.toList_inj] at words
    rw [words]
    exact positive
  · exact fun positive => ⟨_, rfl, positive⟩

/-! ### Calls -/

/-- What can be asked of a job's canceler and its monitor. A running phase without an end has no result, and
is covered poll by poll. -/
inductive Call where
  | tryCancel
  | cancel
  | query (active : Bool)
  | awaitStart (polls : Nat)
  | awaitEnd (polls : Nat)
  | poll
  | cleanUp

/-- The call is one of the monitor's. -/
def Call.watches : Call → Bool
  | .tryCancel | .cancel => false
  | _ => true

/-- Carries out a call and returns the monitor as it is afterwards. -/
def perform (host : Host σ) (strategy : CancelStrategy) (target : Target) (m : Monitor) :
    Call → Watch σ Monitor
  | .tryCancel => do
    let _ ← strategy.tryCancel host target
    return m
  | .cancel => do
    strategy.cancel host target
    return m
  | .query active => do
    let (_, m) ← m.query host active
    return m
  | .awaitStart polls => do
    let (_, m) ← m.awaitStart host polls
    return m
  | .awaitEnd polls => do
    let (_, m) ← m.awaitEnd host polls
    return m
  | .poll => do
    let _ ← runningPoll host m.strategy m.target
    let (_, pacer) ← pause host m.target.uuid m.pacer
    return { m with pacer := pacer }
  | .cleanUp => do
    m.cleanUp host
    return m

def performAll (host : Host σ) (strategy : CancelStrategy) (target : Target) (calls : List Call)
    (m : Monitor) : Watch σ Monitor :=
  calls.foldlM (perform host strategy target) m

/-- Some host is sent the command in the course of the calls. -/
def EverSent (ctx : Context) (calls : List Call) (command : String) : Prop :=
  ∃ (σ : Type) (host : Host σ) (before : σ) (pacer : Pacer) (strategy : CancelStrategy) (m m' : Monitor)
    (w' : World σ), CancelStrategy.choose ctx = .ok strategy ∧ Monitor.choose ctx pacer = .ok m ∧
      (performAll host strategy ctx.target calls m).run { host := before } = some (m', w') ∧
      command ∈ w'.commands

/-! ### One call -/

/-- The monitor of a `singularity run` job with this target. -/
structure Aimed (target : Target) (m : Monitor) : Prop where
  strategy : m.strategy = .singularityRun
  target : m.target = target

/-- What a call may send. -/
def Allowed (target : Target) (call : Call) : String → Prop :=
  if call.watches then Own .singularityRun target
  else Stops target.uuid target.remoteId .singularityRun

theorem own_frame (aimed : Aimed target m) (host : Host σ) :
    Frame host (Own m.strategy m.target) (SentOnly (Own .singularityRun target) : World σ → World σ → Prop) := by
  rw [aimed.strategy, aimed.target]
  exact sentOnly_frame host _

theorem tryCancel_sends (strategy : CancelStrategy) (host : Host σ) (target : Target) :
    Stays (SentOnly (Stops target.uuid target.remoteId strategy)) (strategy.tryCancel host target) :=
  sentOnly_of_yields (attempt_yields strategy host target)

theorem cancel_sends (strategy : CancelStrategy) (host : Host σ) (target : Target) :
    Stays (SentOnly (Stops target.uuid target.remoteId strategy)) (strategy.cancel host target) := by
  refine sentOnly_of_yields fun before => ?_
  obtain ⟨answer, dealings, after, tried, own⟩ := attempt_yields strategy host target before
  exact ⟨(), dealings, after, yields_cancel tried, own⟩

theorem aimed_query {active : Bool} {result : Except MonitorError RemoteStatus} (aimed : Aimed target m)
    (ran : (m.query host active).run w = ((result, m'), w')) : Aimed target m' := by
  unfold Monitor.query at ran
  split at ran
  · rw [session_bind] at ran
    cases found : ((look host m.strategy m.target).run w).1 with
    | error e =>
      rw [found] at ran
      cases ran
      exact aimed
    | ok reading =>
      rw [found] at ran
      cases ran
      exact ⟨aimed.strategy, aimed.target⟩
  · cases ran
    exact aimed

theorem aimed_awaitStart {polls : Nat} {result : Except MonitorError Unit} (aimed : Aimed target m)
    (ran : (m.awaitStart host polls).run w = some ((result, m'), w')) : Aimed target m' := by
  unfold awaitStart at ran
  split at ran
  · obtain ⟨_, _, _, rest⟩ := watch_bind.mp ran
    cases rest
    exact ⟨aimed.strategy, aimed.target⟩
  · cases ran
    exact aimed

theorem aimed_awaitEnd {polls : Nat} {result : Except MonitorError Outcome} (aimed : Aimed target m)
    (ran : (m.awaitEnd host polls).run w = some ((result, m'), w')) : Aimed target m' := by
  unfold awaitEnd at ran
  split at ran
  · cases ran
    exact aimed
  · obtain ⟨⟨ended, _⟩, _, _, rest⟩ := watch_bind.mp ran
    cases ended <;>
    · cases rest
      exact ⟨aimed.strategy, aimed.target⟩

/-- One call sends what it may and leaves the monitor aimed at the same job. -/
theorem perform_sends {call : Call} (aimed : Aimed target m)
    (ran : (perform host .singularityRun target m call).run w = some (m', w')) :
    SentOnly (Allowed target call) w w' ∧ Aimed target m' := by
  have frame := own_frame aimed host
  cases call with
  | tryCancel =>
    obtain ⟨_, _, tried, rest⟩ := lift_bind.mp ran
    cases rest
    exact ⟨stays_ran (tryCancel_sends _ _ _) tried, aimed⟩
  | cancel =>
    obtain ⟨_, _, cancelled, rest⟩ := lift_bind.mp ran
    cases rest
    exact ⟨stays_ran (cancel_sends _ _ _) cancelled, aimed⟩
  | query active =>
    obtain ⟨⟨_, _⟩, _, queried, rest⟩ := lift_bind.mp ran
    cases rest
    exact ⟨stays_ran (stays_query frame active) queried, aimed_query aimed queried⟩
  | awaitStart polls =>
    obtain ⟨⟨_, _⟩, _, waited, rest⟩ := watch_bind.mp ran
    cases rest
    exact ⟨stays_awaitStart frame polls _ _ _ waited, aimed_awaitStart aimed waited⟩
  | awaitEnd polls =>
    obtain ⟨⟨_, _⟩, _, waited, rest⟩ := watch_bind.mp ran
    cases rest
    exact ⟨stays_awaitEnd frame polls _ _ _ waited, aimed_awaitEnd aimed waited⟩
  | poll =>
    obtain ⟨_, _, polled, onward⟩ := watch_bind.mp ran
    obtain ⟨_, _, paused, rest⟩ := watch_bind.mp onward
    cases rest
    exact ⟨frame.trans (staysWatch_lift (stays_runningPoll frame) _ _ _ polled)
      (stays_pause frame _ _ _ _ _ paused), aimed.strategy, aimed.target⟩
  | cleanUp =>
    obtain ⟨_, _, tidied, rest⟩ := lift_bind.mp ran
    cases rest
    exact ⟨stays_ran (stays_cleanUp frame) tidied, aimed⟩

/-! ### Sequences of calls -/

/-- Whatever is sent on the way is allowed to one of the calls. -/
theorem performAll_sends {calls : List Call} (aimed : Aimed target m)
    (ran : (performAll host .singularityRun target calls m).run w = some (m', w')) :
    SentOnly (fun command => ∃ call ∈ calls, Allowed target call command) w w' := by
  induction calls generalizing m w with
  | nil =>
    cases ran
    exact (sentOnly_frame host _).refl _
  | cons call calls ih =>
    unfold performAll at ran
    rw [List.foldlM_cons] at ran
    obtain ⟨between, middle, first, rest⟩ := watch_bind.mp ran
    obtain ⟨sent, aimed⟩ := perform_sends aimed first
    have begun : SentOnly (fun command => ∃ other ∈ call :: calls, Allowed target other command) w middle :=
      sentOnly_mono (fun _ allowed => ⟨call, List.mem_cons_self, allowed⟩) sent
    have onward : SentOnly (fun command => ∃ other ∈ call :: calls, Allowed target other command) middle w' := by
      refine sentOnly_mono ?_ (ih aimed rest)
      rintro _ ⟨other, member, allowed⟩
      exact ⟨other, List.mem_cons_of_mem _ member, allowed⟩
    exact (sentOnly_frame host _).trans begun onward

theorem canceler_of_monitor (dispatched : MonitorStrategy.choose ctx = .ok .singularityRun) :
    CancelStrategy.choose ctx = .ok .singularityRun := by
  unfold MonitorStrategy.choose at dispatched
  unfold CancelStrategy.choose
  cases resolved : StrategyKey.resolve ctx with
  | error e =>
    rw [resolved] at dispatched
    cases dispatched
  | ok key =>
    obtain ⟨job, jobType, runtime, mode, scheduler⟩ := key
    rw [resolved] at dispatched
    simp only at dispatched ⊢
    split at dispatched <;> first | rfl | cases dispatched

theorem everSent_allowed {calls : List Call} (dispatched : MonitorStrategy.choose ctx = .ok .singularityRun)
    (ever : EverSent ctx calls command) : ∃ call ∈ calls, Allowed ctx.target call command := by
  obtain ⟨σ, host, before, pacer, strategy, m, m', w', canceler, monitor, ran, member⟩ := ever
  rw [canceler_of_monitor dispatched] at canceler
  cases canceler
  unfold Monitor.choose at monitor
  rw [dispatched] at monitor
  cases monitor
  have aimed : Aimed ctx.target ⟨.singularityRun, ctx.target, pacer, none⟩ := ⟨rfl, rfl⟩
  exact sentOnly_commands (performAll_sends aimed ran) command member

/-! ### Kills on the way -/

/-- A kill that the monitor sends was called for by a listing, so the id was read as a process id. -/
theorem own_kill (own : Own .singularityRun target command) (kill : IsKill command) :
    ∃ id, target.remoteId = some id ∧ command = Command.kill id ∧ (pidOf? id).isSome = true := by
  have letter : command.toList.head? = some 'k' := by
    obtain ⟨argument, rfl⟩ := kill
    exact ListingEvidence.first_letter (by decide +kernel)
  -- The first letter tells a kill from the listing and from reading the exit code.
  cases own with
  | listing =>
    have other : Command.processListing.toList.head? = some 'p' := by decide +kernel
    rw [other] at letter
    cases letter
  | exitCode =>
    have other : (Command.printFile target.exitCodeFile).toList.head? = some 'c' :=
      ListingEvidence.first_letter (by decide +kernel)
    rw [other] at letter
    cases letter
  | @removal mode id listing watched assigned called =>
    cases mode with
    | start => cases watched
    | run =>
      refine ⟨id, assigned, rfl, ?_⟩
      rcases called with judged | leftovers
      · exact (ListingEvidence.removal_is_anchored judged).2
      · rw [Option.isSome_iff_ne_none]
        intro unnamed
        have empty : (RunTree.scanRecords (records listing) id).parent = none :=
          RunFamily.unnamed_finds_nothing unnamed
        simp [Singularity.hasLeftovers, RunTree.scan, empty] at leftovers
  | accounting watched => cases watched

theorem allowed_kill {call : Call} (allowed : Allowed target call command) (kill : IsKill command) :
    ∃ id, target.remoteId = some id ∧ command = Command.kill id ∧
      (call.watches = true → (pidOf? id).isSome = true) := by
  unfold Allowed at allowed
  split at allowed
  · obtain ⟨id, assigned, same, named⟩ := own_kill allowed kill
    exact ⟨id, assigned, same, fun _ => named⟩
  · rename_i cancels
    cases allowed with
    | process assigned => exact ⟨_, assigned, rfl, fun watches => absurd watches cancels⟩

/-- A host that lets everything through. -/
def quiet : Scripted.Stage where
  scripts := []
  today := ⟨0, 0⟩

/-- The canceler sends the kill of any id that is assigned. -/
theorem kill_everSent (dispatched : MonitorStrategy.choose ctx = .ok .singularityRun)
    (assigned : ctx.job.remoteId? = some id) : EverSent ctx [.tryCancel] (Command.kill id) := by
  have target : ctx.target.remoteId = some id := assigned
  have ordered : CancelStrategy.command .singularityRun ctx.target = .ok (Command.kill id) := by
    simp [CancelStrategy.command, target]
  obtain ⟨answer, dealings, after, tried, sent⟩ := yields_tryCancel ordered Scripted.host quiet
  have monitor : Monitor.choose ctx (.immediate 1) = .ok ⟨.singularityRun, ctx.target, .immediate 1, none⟩ := by
    unfold Monitor.choose
    rw [dispatched]
    rfl
  have issued : Command.kill id ∈ ((CancelStrategy.tryCancel Scripted.host .singularityRun
      ctx.target).run { host := quiet }).2.commands := by
    rw [commands_eq, (tried { host := quiet } rfl).2.1]
    cases sent with
    | refused refusal => cases refusal
    | lost => simp [World.trace, commandsOf]
    | carriedOut => simp [World.trace, commandsOf]
  exact ⟨_, Scripted.host, quiet, .immediate 1, .singularityRun, _, _, _,
    canceler_of_monitor dispatched, monitor, rfl, issued⟩

/-- Every kill sent for the job names one process, whatever its host does and in whatever order its canceler and
its monitor are used, exactly where the id that it was assigned, if any, is a positive numeral. The monitor
by itself never kills by an id that it cannot read as a process id. -/
theorem kills_one_process_iff (dispatched : MonitorStrategy.choose ctx = .ok .singularityRun) :
    ((∀ calls command, EverSent ctx calls command → IsKill command → NamesProcess command) ↔
      ∀ id, ctx.job.remoteId? = some id → PositiveNumeral id) ∧
    ∀ calls command, (∀ call ∈ calls, call.watches = true) → EverSent ctx calls command → IsKill command →
      ∃ id, ctx.job.remoteId? = some id ∧ command = Command.kill id ∧ (pidOf? id).isSome = true := by
  refine ⟨⟨fun law id assigned => ?_, fun numbered calls command ever kill => ?_⟩, ?_⟩
  · exact kill_names_iff.mp (law _ _ (kill_everSent dispatched assigned) ⟨_, rfl⟩)
  · obtain ⟨call, _, allowed⟩ := everSent_allowed dispatched ever
    obtain ⟨id, assigned, rfl, _⟩ := allowed_kill allowed kill
    exact kill_names_iff.mpr (numbered id assigned)
  · intro calls command watching ever kill
    obtain ⟨call, member, allowed⟩ := everSent_allowed dispatched ever
    obtain ⟨id, assigned, same, named⟩ := allowed_kill allowed kill
    exact ⟨id, assigned, same, named (watching call member)⟩

/-- A job launched with `singularity run`, with this id from its host. -/
def launchedAs (id : String) : Context :=
  { running with job := { running.job with remoteJobId := some id } }

theorem numbered_job_kills_its_process :
    EverSent (launchedAs " 4100 ") [.tryCancel] "kill -9 4100" ∧ NamesProcess "kill -9 4100" := by
  have assigned : (launchedAs " 4100 ").job.remoteId? = some "4100" := by decide +kernel
  have ever := kill_everSent rfl assigned
  have written : Command.kill "4100" = "kill -9 4100" := by decide +kernel
  rw [written] at ever
  refine ⟨ever, (kills_one_process_iff rfl).1.mpr ?_ _ _ ever ⟨"4100", rfl⟩⟩
  intro id same
  rw [assigned] at same
  cases same
  exact ⟨4100, by decide +kernel, by decide⟩

theorem negative_id_kills_everything :
    EverSent (launchedAs "-1") [.tryCancel] "kill -9 -1" ∧ IsKill "kill -9 -1" ∧
      ¬NamesProcess "kill -9 -1" := by
  have assigned : (launchedAs "-1").job.remoteId? = some "-1" := by decide +kernel
  have ever := kill_everSent rfl assigned
  have written : Command.kill "-1" = "kill -9 -1" := by decide +kernel
  rw [← written]
  refine ⟨ever, ⟨_, rfl⟩, fun named => ?_⟩
  obtain ⟨n, read, _⟩ := kill_names_iff.mp named
  cases read

end RemoteJobs.Proofs.KillTargets
