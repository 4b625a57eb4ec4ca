import RemoteJobs.Proofs.PollRuns
import RemoteJobs.Proofs.WatchFrames

/-! What the answers to one poll say of the job. A poll's dealings with the host fix its reading: they are one
connection and the commands sent over it, and two polls that are answered alike read alike, whatever the hosts
behind them. -/
namespace RemoteJobs.Proofs.PollAnswers
open Monitor Poll SessionRuns PollRuns SingularityQueries

variable {σ α : Type} {host : Host σ} {mode : SingularityMode} {target : Target} {id : String}
  {reading other : Reading} {dealings : List HostEvent} {answer again : Slurm.Answer}

/-- A command that gave its output came to something. -/
theorem not_fruitless {command sent : String} {output : Output} {more : List HostEvent} :
    ¬Fruitless command (.connected (.ok ()) :: .executed sent (.ok output) :: more) := by
  rintro ⟨⟩

/-! ### Process listings -/

/-- A poll over the process listing: the reading that it comes to, and its dealings with the host. -/
inductive ListingPoll (mode : SingularityMode) (target : Target) (id : String) :
    Reading → List HostEvent → Prop where
  | unlisted {dealings : List HostEvent} (fruitless : Fruitless Command.processListing dealings) :
    ListingPoll mode target id .null dealings
  | blank {output : Output} (nothing : output.text = "") :
    ListingPoll mode target id .empty (listingOf output)
  | missing {output : Output} (filled : output.text ≠ "")
    (judged : Singularity.judge mode target.uuid id output.text = .missing) :
    ListingPoll mode target id .empty (listingOf output)
  | running {output : Output} (filled : output.text ≠ "")
    (judged : Singularity.judge mode target.uuid id output.text = .running) :
    ListingPoll mode target id .active (listingOf output)
  | gone {output : Output} {exitCode : Except ExecError Output} (filled : output.text ≠ "")
    (judged : Singularity.judge mode target.uuid id output.text = .ended none) :
    ListingPoll mode target id (Singularity.readingOfExitCode exitCode)
      (listingOf output ++ [.executed (Command.printFile target.exitCodeFile) exitCode])
  | removed {output : Output} {removal exitCode : Except ExecError Output} {command : String}
    (filled : output.text ≠ "")
    (judged : Singularity.judge mode target.uuid id output.text = .ended (some command)) :
    ListingPoll mode target id (Singularity.readingOfExitCode exitCode)
      (listingOf output ++ [.executed command removal,
        .executed (Command.printFile target.exitCodeFile) exitCode])

theorem listingPoll_unique (polled : ListingPoll mode target id reading dealings)
    (repeated : ListingPoll mode target id other dealings) : reading = other := by
  cases polled <;> cases repeated <;> simp_all [listingOf, not_fruitless]

/-- Every poll of a job with a remote id is such a poll. -/
theorem query_polls (assigned : target.remoteId = some id) (before : σ) :
    ∃ reading dealings after,
      Yields (Singularity.query host mode target) before (.ok reading) dealings after ∧
        ListingPoll mode target id reading dealings := by
  by_cases lists : ∃ output after, Lists host target.system before output after
  · obtain ⟨output, after, lists⟩ := lists
    by_cases blank : output.text = ""
    · exact ⟨_, _, _, yields_blank assigned lists blank, .blank blank⟩
    · refine ⟨_, _, _, yields_query assigned lists blank, ?_⟩
      cases judged : Singularity.judge mode target.uuid id output.text with
      | missing =>
        simp only [closingOf, List.append_nil]
        exact .missing blank judged
      | running =>
        simp only [closingOf, List.append_nil]
        exact .running blank judged
      | ended removal =>
        cases removal with
        | none => exact .gone blank judged
        | some command =>
          exact .removed blank judged
  · have unlisted : ∀ output after, ¬Lists host target.system before output after :=
      fun output after shows => lists ⟨output, after, shows⟩
    obtain ⟨dealings, after, yields, fruitless⟩ := yields_unlisted assigned unlisted
    exact ⟨_, dealings, after, yields, .unlisted fruitless⟩

/-! ### Accounting -/

open Accounting

/-- The record that speaks for the job: the first one with its id, or the first of all where none has it. -/
inductive Selected (output id : String) (r : Record) : Prop where
  | own {before after : List Record} (listed : Record.all output = before ++ r :: after)
    (named : r.jobId = id) (first : ∀ other ∈ before, other.jobId ≠ id)
  | stranger {after : List Record} (listed : Record.all output = r :: after)
    (unnamed : ∀ other ∈ Record.all output, other.jobId ≠ id)

theorem selected_iff {output : String} {r : Record} :
    Selected output id r ↔ Record.find? output id = some r := by
  unfold Record.find?
  dsimp only
  constructor
  · rintro (⟨listed, named, first⟩ | ⟨listed, unnamed⟩)
    · have hit : (Record.all output).find? (fun other => other.jobId == id) = some r :=
        List.find?_eq_some_iff_append.mpr ⟨by simpa using named, _, _, listed, by simpa using first⟩
      rw [hit]
    · have miss : (Record.all output).find? (fun other => other.jobId == id) = none :=
        List.find?_eq_none.mpr (by simpa using unnamed)
      rw [miss]
      simp [listed]
  · intro found
    split at found
    · rename_i own named
      cases found
      obtain ⟨same, before, after, listed, first⟩ := List.find?_eq_some_iff_append.mp named
      exact .own listed (by simpa using same) (by simpa using first)
    · rename_i unnamed
      obtain ⟨after, listed⟩ := List.head?_eq_some_iff.mp found
      exact .stranger listed (by simpa using unnamed)

theorem find_none_iff {output : String} : Record.find? output id = none ↔ Record.all output = [] := by
  constructor
  · intro missed
    unfold Record.find? at missed
    dsimp only at missed
    split at missed
    · cases missed
    · exact List.head?_eq_none_iff.mp missed
  · intro nothing
    simp [Record.find?, nothing]

/-- The dealings of an accounting query that was answered. -/
def accountOf (id : String) (output : Output) : List HostEvent :=
  [.connected (.ok ()), .executed (Command.slurmAccounting id) (.ok output)]

/-- An accounting query: what came of it, and its dealings with the host. -/
inductive AccountingPoll (id : String) : Slurm.Answer → List HostEvent → Prop where
  | unanswered {dealings : List HostEvent} (fruitless : Fruitless (Command.slurmAccounting id) dealings) :
    AccountingPoll id .unavailable dealings
  | rejected {output : Output} (nonzero : output.exitCode ≠ 0) :
    AccountingPoll id .unavailable (accountOf id output)
  | unknown {output : Output} (zero : output.exitCode = 0) (nothing : Record.all output.text = []) :
    AccountingPoll id .noRecord (accountOf id output)
  | known {output : Output} {r : Record} (zero : output.exitCode = 0)
    (selected : Selected output.text id r) : AccountingPoll id (.record r) (accountOf id output)

theorem accountingPoll_unique (polled : AccountingPoll id answer dealings)
    (repeated : AccountingPoll id again dealings) : answer = again := by
  cases polled <;> cases repeated <;> simp_all [accountOf, not_fruitless, selected_iff, Record.find?]

/-- What an output of the accounting comes to. -/
def answerOf (id : String) (output : Output) : Slurm.Answer :=
  if output.succeeded then
    match Record.find? output.text id with
    | some r => .record r
    | none => .noRecord
  else .unavailable

theorem answerOf_polls (id : String) (output : Output) :
    AccountingPoll id (answerOf id output) (accountOf id output) := by
  unfold answerOf
  split
  · rename_i succeeded
    have zero : output.exitCode = 0 := by simpa [Output.succeeded] using succeeded
    cases found : Record.find? output.text id with
    | none => exact .unknown zero (find_none_iff.mp found)
    | some r => exact .known zero (selected_iff.mpr found)
  · rename_i failed
    exact .rejected (by simpa [Output.succeeded] using failed)

theorem yields_asked {before : σ} {output : Output} (assigned : target.remoteId = some id)
    (granted : (host.connect target.system before).1 = .ok ())
    (answered : (host.execute target.system (Command.slurmAccounting id)
      (host.connect target.system before).2).1 = .ok output) :
    Yields (Slurm.ask host target) before (.ok (answerOf id output)) (accountOf id output)
      (host.execute target.system (Command.slurmAccounting id) (host.connect target.system before).2).2 := by
  unfold Slurm.ask
  rw [assigned]
  have connected := yields_connect host target.system before
  have executed := yields_execute host target.system (Command.slurmAccounting id)
    (host.connect target.system before).2
  rw [granted] at connected
  rw [answered] at executed
  refine yields_bind connected (yields_before executed (yields_after (yields_checkExit output _) ?_))
  unfold answerOf
  cases output.succeeded with
  | false => exact yields_pure _ _
  | true =>
    refine yields_after (yields_note _ _ _ _ _) ?_
    cases Record.find? output.text id <;> exact yields_pure _ _

theorem yields_refused {before : σ} {e : ExecError} (assigned : target.remoteId = some id)
    (refused : (host.connect target.system before).1 = .error e) :
    Yields (Slurm.ask host target) before (.ok .unavailable) [.connected (.error e)]
      (host.connect target.system before).2 := by
  unfold Slurm.ask
  rw [assigned]
  have connected := yields_connect host target.system before
  rw [refused] at connected
  exact yields_before connected (yields_after (yields_note _ _ _ _ _) (yields_pure _ _))

theorem yields_lost {before : σ} {e : ExecError} (assigned : target.remoteId = some id)
    (granted : (host.connect target.system before).1 = .ok ())
    (lost : (host.execute target.system (Command.slurmAccounting id)
      (host.connect target.system before).2).1 = .error e) :
    Yields (Slurm.ask host target) before (.ok .unavailable)
      [.connected (.ok ()), .executed (Command.slurmAccounting id) (.error e)]
      (host.execute target.system (Command.slurmAccounting id) (host.connect target.system before).2).2 := by
  unfold Slurm.ask
  rw [assigned]
  have connected := yields_connect host target.system before
  have executed := yields_execute host target.system (Command.slurmAccounting id)
    (host.connect target.system before).2
  rw [granted] at connected
  rw [lost] at executed
  exact yields_bind connected (yields_before executed (yields_after (yields_note _ _ _ _ _) (yields_pure _ _)))

/-- Every accounting query of a job with a remote id is such a poll. -/
theorem ask_polls (assigned : target.remoteId = some id) (before : σ) :
    ∃ answer dealings after, Yields (Slurm.ask host target) before (.ok answer) dealings after ∧
      AccountingPoll id answer dealings := by
  cases granted : (host.connect target.system before).1 with
  | error e => exact ⟨_, _, _, yields_refused assigned granted, .unanswered (.refused e)⟩
  | ok =>
    cases answered : (host.execute target.system (Command.slurmAccounting id)
        (host.connect target.system before).2).1 with
    | error e => exact ⟨_, _, _, yields_lost assigned granted answered, .unanswered (.lost e)⟩
    | ok output => exact ⟨_, _, _, yields_asked assigned granted answered, answerOf_polls id output⟩

theorem ask_unassigned (unassigned : target.remoteId = none) (before : σ) :
    Yields (Slurm.ask host target) before (.error (.missingRemoteId target.uuid)) [] before := by
  unfold Slurm.ask
  rw [unassigned]
  exact yields_pure _ _

/-- The running phase reads the answer to an accounting query. -/
theorem yields_slurmQuery {before after : σ} {asked : Except MonitorError Slurm.Answer}
    (yields : Yields (Slurm.ask host target) before asked dealings after) :
    Yields (Slurm.query host target) before (asked.map Slurm.Answer.reading) dealings after := by
  refine yields_before yields ?_
  cases asked with
  | error e => exact yields_pure _ _
  | ok answer =>
    cases answer with
    | unavailable => exact yields_pure _ _
    | noRecord => exact yields_pure _ _
    | record r =>
      dsimp only
      split
      · refine yields_after (yields_note _ _ _ _ _) ?_
        split
        · exact yields_after (yields_note _ _ _ _ _) (yields_pure _ _)
        · exact yields_pure _ _
      · split
        · exact yields_after (yields_note _ _ _ _ _) (yields_pure _ _)
        · exact yields_pure _ _

/-- The queued phase makes its own of the same answer. -/
theorem yields_queryQueue {before after : σ} {asked : Except MonitorError Slurm.Answer}
    (yields : Yields (Slurm.ask host target) before asked dealings after) :
    Yields (Slurm.queryQueue host target) before (asked.map Slurm.Answer.queuePoll) dealings after := by
  refine yields_before yields ?_
  cases asked with
  | error e => exact yields_pure _ _
  | ok answer =>
    dsimp only
    split
    · exact yields_after (yields_note _ _ _ _ _) (yields_pure _ _)
    · exact yields_pure _ _

/-! ### Polls of a phase -/

/-- A poll of the running phase makes a finding of what a look at the job reads. -/
theorem yields_runningPoll {before after : σ} {strategy : MonitorStrategy} {read : Except MonitorError Reading}
    (looked : Yields (look host strategy target) before read dealings after) :
    Yields (runningPoll host strategy target) before (read.map Reading.poll) dealings after := by
  refine yields_before looked ?_
  cases read <;> exact yields_pure _ _

/-- What a poll of the running phase finds. -/
inductive RunningPoll (strategy : MonitorStrategy) (target : Target) (id : String) :
    Finding (Outcome × Option String) → List HostEvent → Prop where
  | listed {mode : SingularityMode} {reading : Reading} {dealings : List HostEvent}
    (watched : strategy = watcher mode) (polled : ListingPoll mode target id reading dealings) :
    RunningPoll strategy target id reading.poll dealings
  | accounted {answer : Slurm.Answer} {dealings : List HostEvent} (batch : strategy = .dockerSlurm)
    (polled : AccountingPoll id answer dealings) :
    RunningPoll strategy target id answer.reading.poll dealings

/-- What a poll of the queued phase finds. -/
inductive QueuePoll (id : String) : Finding Unit → List HostEvent → Prop where
  | accounted {answer : Slurm.Answer} {dealings : List HostEvent} (polled : AccountingPoll id answer dealings) :
    QueuePoll id answer.queuePoll dealings

/-- A poll that finds something finds what the law allows for its dealings. -/
inductive Finds (finds : Finding α → List HostEvent → Prop) :
    Except MonitorError (Finding α) → List HostEvent → Prop where
  | found {finding : Finding α} {dealings : List HostEvent} (allowed : finds finding dealings) :
    Finds finds (.ok finding) dealings

theorem look_watched (mode : SingularityMode) (host : Host σ) (target : Target) :
    look host (watcher mode) target = Singularity.query host mode target := by
  cases mode <;> rfl

/-- A strategy that asks the host watches a launch style or a batch job. -/
theorem polled_cases {strategy : MonitorStrategy} (polled : strategy ≠ .dockerNative) :
    (∃ mode, strategy = watcher mode) ∨ strategy = .dockerSlurm := by
  cases strategy with
  | dockerNative => exact absurd rfl polled
  | singularityStart => exact .inl ⟨.start, rfl⟩
  | singularityRun => exact .inl ⟨.run, rfl⟩
  | dockerSlurm => exact .inr rfl

/-- A query of the job's status: the reading that it comes to, and its dealings with the host. -/
inductive StatusQuery (strategy : MonitorStrategy) (target : Target) : Reading → List HostEvent → Prop where
  | listed {mode : SingularityMode} {id : String} {reading : Reading} {dealings : List HostEvent}
    (watched : strategy = watcher mode) (assigned : target.remoteId = some id)
    (polled : ListingPoll mode target id reading dealings) : StatusQuery strategy target reading dealings
  | accounted {id : String} {answer : Slurm.Answer} {dealings : List HostEvent}
    (batch : strategy = .dockerSlurm) (assigned : target.remoteId = some id)
    (polled : AccountingPoll id answer dealings) : StatusQuery strategy target answer.reading dealings

/-- A look at the job: none is taken without a remote id or at a container that is watched elsewhere. -/
inductive Looked (strategy : MonitorStrategy) (target : Target) :
    Except MonitorError Reading → List HostEvent → Prop where
  | nameless (unassigned : target.remoteId = none) :
    Looked strategy target (.error (.missingRemoteId target.uuid)) []
  | elsewhere (delegated : strategy = .dockerNative) : Looked strategy target (.ok .null) []
  | asked {reading : Reading} {dealings : List HostEvent} (query : StatusQuery strategy target reading dealings) :
    Looked strategy target (.ok reading) dealings

theorem look_yields (host : Host σ) (strategy : MonitorStrategy) (target : Target) (before : σ) :
    ∃ read dealings after, Yields (look host strategy target) before read dealings after ∧
      Looked strategy target read dealings := by
  by_cases delegated : strategy = .dockerNative
  · subst delegated
    exact ⟨_, _, _, yields_pure _ _, .elsewhere rfl⟩
  · cases assigned : target.remoteId with
    | none =>
      obtain ⟨mode, rfl⟩ | rfl := polled_cases delegated
      · rw [look_watched]
        exact ⟨_, _, _, yields_unassigned assigned before, .nameless assigned⟩
      · exact ⟨_, _, _, yields_slurmQuery (ask_unassigned assigned before), .nameless assigned⟩
    | some id =>
      obtain ⟨mode, rfl⟩ | rfl := polled_cases delegated
      · obtain ⟨reading, dealings, after, queried, polled⟩ := query_polls assigned before
        rw [look_watched]
        exact ⟨_, dealings, after, queried, .asked (.listed rfl assigned polled)⟩
      · obtain ⟨answer, dealings, after, asked, polled⟩ := ask_polls assigned before
        exact ⟨_, dealings, after, yields_slurmQuery asked, .asked (.accounted rfl assigned polled)⟩

theorem runningPoll_polls {strategy : MonitorStrategy} (polled : strategy ≠ .dockerNative)
    (assigned : target.remoteId = some id) :
    Polls (runningPoll host strategy target) (Finds (RunningPoll strategy target id)) := by
  intro before
  obtain ⟨read, dealings, after, looks, looked⟩ := look_yields host strategy target before
  refine ⟨_, dealings, after, yields_runningPoll looks, ?_⟩
  cases looked with
  | nameless unassigned =>
    rw [assigned] at unassigned
    cases unassigned
  | elsewhere delegated => contradiction
  | asked query =>
    cases query with
    | listed watched own polled =>
      cases assigned.symm.trans own
      exact .found (.listed watched polled)
    | accounted batch own polled =>
      cases assigned.symm.trans own
      exact .found (.accounted batch polled)

theorem queryQueue_polls (assigned : target.remoteId = some id) :
    Polls (Slurm.queryQueue host target) (Finds (QueuePoll id)) := by
  intro before
  obtain ⟨answer, dealings, after, asked, polled⟩ := ask_polls assigned before
  exact ⟨_, dealings, after, yields_queryQueue asked, .found (.accounted polled)⟩

theorem watcher_injective {mode other : SingularityMode} (same : watcher mode = watcher other) :
    mode = other := by
  cases mode <;> cases other <;> first | rfl | cases same

theorem watcher_not_batch (mode : SingularityMode) : watcher mode ≠ .dockerSlurm := by
  cases mode <;> nofun

/-- The same dealings, the same finding: nothing else that a host does counts. -/
theorem runningPoll_unique {strategy : MonitorStrategy} {finding another : Finding (Outcome × Option String)}
    (polled : RunningPoll strategy target id finding dealings)
    (repeated : RunningPoll strategy target id another dealings) : finding = another := by
  cases polled with
  | listed watched polled =>
    cases repeated with
    | listed rewatched repeated =>
      obtain rfl := watcher_injective (watched.symm.trans rewatched)
      rw [listingPoll_unique polled repeated]
    | accounted batch => exact absurd (watched.symm.trans batch) (watcher_not_batch _)
  | accounted batch polled =>
    cases repeated with
    | listed watched => exact absurd (watched.symm.trans batch) (watcher_not_batch _)
    | accounted _ repeated => rw [accountingPoll_unique polled repeated]

theorem queuePoll_unique {finding another : Finding Unit} (polled : QueuePoll id finding dealings)
    (repeated : QueuePoll id another dealings) : finding = another := by
  cases polled with
  | accounted polled =>
    cases repeated with
    | accounted repeated => rw [accountingPoll_unique polled repeated]

/-! ### Jobs without a remote id -/

/-- A poll of a job without a remote id fails before the host is asked anything. -/
def Nameless (target : Target) (found : Except MonitorError (Finding α)) (dealings : List HostEvent) : Prop :=
  found = .error (.missingRemoteId target.uuid) ∧ dealings = []

theorem runningPoll_nameless {strategy : MonitorStrategy} (polled : strategy ≠ .dockerNative)
    (unassigned : target.remoteId = none) :
    Polls (runningPoll host strategy target) (Nameless target) := by
  intro before
  obtain ⟨read, dealings, after, looks, looked⟩ := look_yields host strategy target before
  refine ⟨_, dealings, after, yields_runningPoll looks, ?_⟩
  cases looked with
  | nameless => exact ⟨rfl, rfl⟩
  | elsewhere delegated => contradiction
  | asked query =>
    cases query with
    | listed _ assigned | accounted _ assigned =>
      rw [unassigned] at assigned
      cases assigned

theorem queryQueue_nameless (unassigned : target.remoteId = none) :
    Polls (Slurm.queryQueue host target) (Nameless target) := fun before =>
  ⟨_, _, _, yields_queryQueue (ask_unassigned unassigned before), rfl, rfl⟩

/-- A phase of such polls ends with the first, and its host was left alone. -/
theorem nameless_ended {job : Uuid} {allowEmpty : Bool} {result : Except MonitorError α}
    {rounds : List (Round (Except MonitorError (Finding α)))}
    (lawful : ∀ round ∈ rounds, Nameless target round.found round.dealings)
    (ended : Ended job allowEmpty rounds result) :
    result = .error (.missingRemoteId target.uuid) ∧ dealingsOf rounds = [] := by
  cases ended with
  | failed =>
    obtain ⟨found, rfl⟩ := lawful _ List.mem_cons_self
    cases found
    exact ⟨rfl, rfl⟩
  | settled | barren | exhausted | later =>
    obtain ⟨found, _⟩ := lawful _ List.mem_cons_self
    cases found

end RemoteJobs.Proofs.PollAnswers
