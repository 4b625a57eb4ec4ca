import RemoteJobs.Proofs.SingularityQueries

/-! What watching a job can do to the world. A monitor sends only commands of its own, and a relation that
these respect reaches across every query, every phase and every cleaning up, whatever the host answers and
however many polls it takes. Two such relations matter: no command but the monitor's own was sent, and no
status change was asked of a record. -/
namespace RemoteJobs.Proofs.WatchFrames
open Session Monitor Poll SessionRuns SingularityQueries

variable {σ α : Type} {host : Host σ} {within : World σ → World σ → Prop} {strategy : MonitorStrategy}
  {target : Target} {mode : SingularityMode} {granted : String → Prop}

/-! ### A monitor's own commands -/

/-- The listing calls for the removal of what the job left behind, by a query or by cleaning up. -/
def CallsFor (mode : SingularityMode) (job : Uuid) (remoteId listing : String) : Prop :=
  Singularity.judge mode job remoteId listing = .ended (some (Singularity.removal mode job remoteId)) ∨
    Singularity.hasLeftovers mode job remoteId listing = true

/-- The commands that a monitor ever sends. A removal is among them only for a listing that calls for it. -/
inductive Own (strategy : MonitorStrategy) (target : Target) : String → Prop where
  | listing {mode : SingularityMode} (watched : strategy = watcher mode) :
    Own strategy target Command.processListing
  | exitCode {mode : SingularityMode} (watched : strategy = watcher mode) :
    Own strategy target (Command.printFile target.exitCodeFile)
  | removal {mode : SingularityMode} {remoteId listing : String} (watched : strategy = watcher mode)
    (assigned : target.remoteId = some remoteId) (called : CallsFor mode target.uuid remoteId listing) :
    Own strategy target (Singularity.removal mode target.uuid remoteId)
  | accounting {remoteId : String} (watched : strategy = .dockerSlurm)
    (assigned : target.remoteId = some remoteId) :
    Own strategy target (Command.slurmAccounting remoteId)

/-- A verdict asks for no other command than the removal of its mode. -/
theorem judged_calls {job : Uuid} {remoteId listing command : String}
    (judged : Singularity.judge mode job remoteId listing = .ended (some command)) :
    command = Singularity.removal mode job remoteId ∧ CallsFor mode job remoteId listing := by
  have same : command = Singularity.removal mode job remoteId := by
    cases mode <;>
    · simp only [Singularity.judge] at judged
      split at judged
      · cases judged
      · split at judged
        · cases judged
        · exact (Option.some.inj (Singularity.Verdict.ended.inj judged)).symm
  exact ⟨same, .inl (same ▸ judged)⟩

/-! ### Process listings -/

private theorem stays_takeListing (frame : Frame host (Own strategy target) within)
    (watched : strategy = watcher mode) : Stays within (Singularity.takeListing host target) := by
  refine frame.stays_bind (frame.connect _) fun granted => ?_
  cases granted with
  | error e => exact frame.stays_bind (frame.note _ _ _ _) fun _ => frame.stays_pure _
  | ok _ =>
    refine frame.stays_bind (frame.execute _ _ (.listing watched)) fun answer => ?_
    cases answer with
    | error e => exact frame.stays_bind (frame.note _ _ _ _) fun _ => frame.stays_pure _
    | ok output =>
      exact frame.stays_bind (frame.stays_bind (frame.stays_checkExit output) fun _ => frame.stays_pure _)
        fun _ => frame.stays_pure _

private theorem stays_noteScan (frame : Frame host granted within) (listing remoteId : String) :
    Stays within (Singularity.noteScan listing remoteId) := by
  have scanned : Stays within (note .debug .listing "process scan" ["complete", "tree"]) :=
    frame.note _ _ _ _
  unfold Singularity.noteScan
  dsimp only
  split
  · refine frame.stays_bind (frame.note _ _ _ _) fun _ => ?_
    split
    · exact frame.stays_bind (frame.note _ _ _ _) fun _ => scanned
    · exact scanned
  · split
    · exact frame.stays_bind (frame.note _ _ _ _) fun _ => scanned
    · exact scanned

private theorem stays_remove (frame : Frame host granted within) {command : String}
    (allowed : granted command) : Stays within (Singularity.remove host target command) := by
  refine frame.stays_bind (frame.execute _ _ allowed) fun answer => ?_
  cases answer with
  | error e => exact frame.note _ _ _ _
  | ok output =>
    refine frame.stays_bind (frame.stays_checkExit output) fun succeeded => ?_
    cases succeeded with
    | false => exact frame.stays_pure _
    | true => exact frame.note _ _ _ _

private theorem stays_conclude (frame : Frame host (Own strategy target) within)
    (watched : strategy = watcher mode) : Stays within (Singularity.conclude host target) := by
  refine frame.stays_bind (frame.execute _ _ (.exitCode watched)) fun answer => ?_
  have told : Stays within (do
      note .info .singularity "job process has terminated" ["job", "status", "exit_code"]
      return Singularity.readingOfExitCode answer) :=
    frame.stays_bind (frame.note _ _ _ _) fun _ => frame.stays_pure _
  cases answer with
  | error e => exact frame.stays_bind (frame.note _ _ _ _) fun _ => told
  | ok output =>
    dsimp only
    split
    · exact frame.stays_bind (frame.note _ _ _ _) fun _ => told
    · split
      · exact frame.stays_bind (frame.note _ _ _ _) fun _ => told
      · exact told

theorem stays_singularityQuery (frame : Frame host (Own strategy target) within)
    (watched : strategy = watcher mode) : Stays within (Singularity.query host mode target) := by
  unfold Singularity.query
  cases assigned : target.remoteId with
  | none => exact frame.stays_pure _
  | some remoteId =>
    refine frame.stays_bind (stays_takeListing frame watched) fun listing => ?_
    cases listing with
    | none => exact frame.stays_pure _
    | some listing =>
      dsimp only
      split
      · exact frame.stays_pure _
      · refine frame.stays_bind (stays_noteScan frame listing remoteId) fun _ => ?_
        cases judged : Singularity.judge mode target.uuid remoteId listing with
        | missing => exact frame.stays_bind (frame.note _ _ _ _) fun _ => frame.stays_pure _
        | running => exact frame.stays_pure _
        | ended removal =>
          cases removal with
          | none =>
            exact frame.stays_bind (frame.note _ _ _ _) fun _ =>
              frame.stays_bind (stays_conclude frame watched) fun _ => frame.stays_pure _
          | some command =>
            obtain ⟨rfl, called⟩ := judged_calls judged
            exact frame.stays_bind (stays_remove frame (.removal watched assigned called)) fun _ =>
              frame.stays_bind (stays_conclude frame watched) fun _ => frame.stays_pure _

theorem stays_singularityCleanUp (frame : Frame host (Own strategy target) within)
    (watched : strategy = watcher mode) : Stays within (Singularity.cleanUp host mode target) := by
  unfold Singularity.cleanUp
  cases assigned : target.remoteId with
  | none => exact frame.note _ _ _ _
  | some remoteId =>
    refine frame.stays_bind (stays_takeListing frame watched) fun listing => ?_
    cases listing with
    | none => exact frame.stays_pure _
    | some listing =>
      refine frame.stays_bind (stays_noteScan frame listing remoteId) fun _ => ?_
      split
      · rename_i leftovers
        exact stays_remove frame (.removal watched assigned (.inr leftovers))
      · exact frame.note _ _ _ _

/-! ### Accounting -/

private theorem stays_ask (frame : Frame host (Own strategy target) within)
    (watched : strategy = .dockerSlurm) : Stays within (Slurm.ask host target) := by
  unfold Slurm.ask
  cases assigned : target.remoteId with
  | none => exact frame.stays_pure _
  | some remoteId =>
    refine frame.stays_bind (frame.connect _) fun granted => ?_
    cases granted with
    | error e => exact frame.stays_bind (frame.note _ _ _ _) fun _ => frame.stays_pure _
    | ok _ =>
      refine frame.stays_bind (frame.execute _ _ (.accounting watched assigned)) fun answer => ?_
      cases answer with
      | error e => exact frame.stays_bind (frame.note _ _ _ _) fun _ => frame.stays_pure _
      | ok output =>
        refine frame.stays_bind (frame.stays_checkExit output) fun succeeded => ?_
        cases succeeded with
        | false => exact frame.stays_pure _
        | true =>
          refine frame.stays_bind (frame.note _ _ _ _) fun _ => ?_
          split <;> exact frame.stays_pure _

theorem stays_slurmQuery (frame : Frame host (Own strategy target) within)
    (watched : strategy = .dockerSlurm) : Stays within (Slurm.query host target) := by
  refine frame.stays_bind (stays_ask frame watched) fun answer => ?_
  cases answer with
  | error e => exact frame.stays_pure _
  | ok answer =>
    have told : Stays within (pure (Except.ok answer.reading) : Session σ (Except MonitorError Reading)) :=
      frame.stays_pure _
    cases answer with
    | unavailable => exact told
    | noRecord => exact told
    | record r =>
      dsimp only
      split
      · refine frame.stays_bind (frame.note _ _ _ _) fun _ => ?_
        split
        · exact frame.stays_bind (frame.note _ _ _ _) fun _ => told
        · exact told
      · split
        · exact frame.stays_bind (frame.note _ _ _ _) fun _ => told
        · exact told

theorem stays_slurmQueue (frame : Frame host (Own strategy target) within)
    (watched : strategy = .dockerSlurm) : Stays within (Slurm.queryQueue host target) := by
  refine frame.stays_bind (stays_ask frame watched) fun answer => ?_
  cases answer with
  | error e => exact frame.stays_pure _
  | ok answer =>
    dsimp only
    split
    · exact frame.stays_bind (frame.note _ _ _ _) fun _ => frame.stays_pure _
    · exact frame.stays_pure _

/-! ### Poll loops -/

private theorem stays_uptime (frame : Frame host granted within) : Stays within (Session.uptime host) :=
  fun w => frame.refl w

private theorem stays_await (frame : Frame host granted within) (job : Uuid) (wait : Option Nat) (pacer : Pacer) :
    Stays within (await host job wait pacer) := by
  unfold await
  split
  · refine frame.stays_bind (frame.note _ _ _ _) fun _ => ?_
    split
    · exact frame.stays_bind (frame.sleep _) fun _ => frame.stays_pure _
    · exact frame.stays_pure _
  · exact frame.stays_bind (frame.note _ _ _ _) fun _ =>
      frame.stays_bind (stays_uptime frame) fun _ => frame.stays_pure _

theorem stays_pause (frame : Frame host granted within) (job : Uuid) (pacer : Pacer) :
    StaysWatch within (pause host job pacer) := by
  unfold pause
  refine frame.staysWatch_bind (staysWatch_lift (stays_uptime frame)) fun now => ?_
  split
  · exact nofun
  · refine frame.staysWatch_bind (staysWatch_lift (stays_await frame job _ _)) fun _ => ?_
    exact frame.staysWatch_pure _

/-- After a pause the phase is over, or it goes on. -/
private theorem stays_afterPause (frame : Frame host granted within) (job : Uuid) (pacer : Pacer)
    {next : Option MonitorError × Pacer → Watch σ α}
    (ends : ∀ e pacer, StaysWatch within (next (some e, pacer)))
    (onward : ∀ pacer, StaysWatch within (next (none, pacer))) :
    StaysWatch within (pause host job pacer >>= next) := by
  refine frame.staysWatch_bind (stays_pause frame job pacer) fun waited => ?_
  obtain ⟨failed, pacer⟩ := waited
  cases failed with
  | some e => exact ends e pacer
  | none => exact onward pacer

private theorem stays_repeatPoll (frame : Frame host granted within) (job : Uuid) (allowEmpty : Bool)
    {step : Session σ (Except MonitorError (Finding α))} (stays : Stays within step)
    (polls : Nat) (pacer : Pacer) :
    StaysWatch within (repeatPoll host job allowEmpty step polls pacer) := by
  induction polls generalizing pacer with
  | zero =>
    intro w a w' ran
    cases ran
  | succ polls ih =>
    refine frame.staysWatch_bind (staysWatch_lift stays) fun found => ?_
    cases found with
    | error e => exact frame.staysWatch_pure _
    | ok found =>
      cases found with
      | ready value => exact frame.staysWatch_pure _
      | pending => exact stays_afterPause frame job pacer (fun _ _ => frame.staysWatch_pure _) ih
      | empty =>
        dsimp only
        split
        · exact frame.staysWatch_pure _
        · exact stays_afterPause frame job pacer (fun _ _ => frame.staysWatch_pure _) ih

/-- What one step of a phase respects, the whole phase respects. -/
theorem stays_pollUntil (frame : Frame host granted within) (polls : Nat) (job : Uuid) (allowEmpty : Bool)
    {step : Session σ (Except MonitorError (Finding α))} (stays : Stays within step) (pacer : Pacer) :
    StaysWatch within (pollUntil host polls job allowEmpty step pacer) :=
  frame.staysWatch_bind (staysWatch_lift (stays_uptime frame)) fun _ =>
    stays_repeatPoll frame job allowEmpty stays polls _

/-! ### Monitors -/

theorem stays_look (frame : Frame host (Own strategy target) within) :
    Stays within (look host strategy target) := by
  cases strategy with
  | dockerNative => exact frame.stays_pure _
  | singularityStart =>
    have watched : MonitorStrategy.singularityStart = watcher .start := rfl
    exact stays_singularityQuery frame watched
  | singularityRun =>
    have watched : MonitorStrategy.singularityRun = watcher .run := rfl
    exact stays_singularityQuery frame watched
  | dockerSlurm => exact stays_slurmQuery frame rfl

theorem stays_runningPoll (frame : Frame host (Own strategy target) within) :
    Stays within (runningPoll host strategy target) := by
  refine frame.stays_bind (stays_look frame) fun found => ?_
  cases found <;> exact frame.stays_pure _

section Monitors

variable {m : Monitor} (frame : Frame host (Own m.strategy m.target) within)
include frame

theorem stays_query (active : Bool) : Stays within (m.query host active) := by
  unfold Monitor.query
  split
  · refine frame.stays_bind (stays_look frame) fun found => ?_
    cases found <;> exact frame.stays_pure _
  · exact frame.stays_pure _

theorem stays_awaitStart (polls : Nat) : StaysWatch within (m.awaitStart host polls) := by
  unfold awaitStart
  split
  · rename_i watched
    exact frame.staysWatch_bind
      (stays_pollUntil frame polls _ _ (stays_slurmQueue frame watched) m.pacer) fun _ =>
        frame.staysWatch_pure _
  · exact frame.staysWatch_pure _

theorem stays_awaitEnd (polls : Nat) : StaysWatch within (m.awaitEnd host polls) := by
  unfold awaitEnd
  split
  · exact staysWatch_lift (frame.stays_bind (frame.note _ _ _ _) fun _ => frame.stays_pure _)
  · refine frame.staysWatch_bind
      (stays_pollUntil frame polls _ _ (stays_runningPoll frame) m.pacer) fun ended => ?_
    obtain ⟨result, pacer⟩ := ended
    cases result <;> exact frame.staysWatch_pure _

theorem stays_cleanUp : Stays within (m.cleanUp host) := by
  unfold Monitor.cleanUp
  split
  · rename_i start
    have watched : m.strategy = watcher .start := start
    exact stays_singularityCleanUp frame watched
  · rename_i run
    have watched : m.strategy = watcher .run := run
    exact stays_singularityCleanUp frame watched
  · exact frame.stays_pure _
  · exact frame.stays_pure _

end Monitors

/-! ### Status changes -/

private theorem changes_frame (host : Host σ) (granted : String → Prop) :
    Frame host granted fun w w' : World σ => w'.changed = w.changed where
  refl _ := rfl
  trans begun onward := onward.trans begun
  note _ _ _ _ _ := rfl
  connect _ _ := rfl
  execute _ _ _ _ := rfl
  sleep _ _ := rfl

theorem keeps_awaitStart (polls : Nat) (m : Monitor) :
    KeepsWatch World.changed (m.awaitStart host polls) :=
  stays_awaitStart (changes_frame host _) polls

theorem keeps_awaitEnd (polls : Nat) (m : Monitor) :
    KeepsWatch World.changed (m.awaitEnd host polls) :=
  stays_awaitEnd (changes_frame host _) polls

theorem keeps_cleanUp (m : Monitor) : Keeps World.changed (m.cleanUp host) :=
  stays_cleanUp (changes_frame host _)

end RemoteJobs.Proofs.WatchFrames
