import RemoteJobs.Host.Scripted
import RemoteJobs.Proofs.TrackingCourses

/-! Phases of a batch job. Both phases ask the accounting the same question and read the same answers; they
differ in which records settle them. What a record says is stated here in terms of its texts: which state it
names, which exit code it reports, and when that is a success. -/
namespace RemoteJobs.Proofs.AccountingPhases
open Accounting Monitor Poll SessionRuns PollRuns PollAnswers TrackingCourses

variable {σ α : Type} {host : Host σ} {polls : Nat} {m m' : Monitor} {id : String} {r : Record}
  {w w' : World σ} {text part other : List Char} {separator : Char} {parts : List (List Char)}

/-! ### Parts of a text -/

/-- The part of a text before the first character that ends it, or the whole text where none does. -/
structure UpTo (ends : Char → Prop) (text part : List Char) : Prop where
  free : ∀ c ∈ part, ¬ends c
  ended : part = text ∨ ∃ c rest, ends c ∧ text = part ++ c :: rest

theorem upTo_iff {ends : Char → Prop} {onward : Char → Bool} (ends_iff : ∀ c, ends c ↔ onward c = false) :
    UpTo ends text part ↔ part = text.takeWhile onward := by
  have goes (free : ∀ c ∈ part, ¬ends c) : ∀ c ∈ part, onward c = true := fun c member => by
    simpa [ends_iff] using free c member
  constructor
  · rintro ⟨free, rfl | ⟨c, rest, stops, rfl⟩⟩
    · have kept : (part ++ []).takeWhile onward = part ++ [].takeWhile onward :=
        List.takeWhile_append_of_pos (goes free)
      simpa using kept.symm
    · rw [List.takeWhile_append_of_pos (goes free),
        List.takeWhile_cons_of_neg (by simp [(ends_iff c).mp stops]), List.append_nil]
  · rintro rfl
    refine ⟨fun c member => ?_, ?_⟩
    · simpa [ends_iff] using List.all_eq_true.mp (List.all_takeWhile) c member
    · cases left : text.dropWhile onward with
      | nil => exact .inl (by simpa [left] using List.takeWhile_append_dropWhile (p := onward) (l := text))
      | cons c rest =>
        have stops : onward ((text.dropWhile onward).head (by simp [left])) = false :=
          List.head_dropWhile_not onward (by simp [left])
        refine .inr ⟨c, rest, (ends_iff c).mpr (by simpa [left] using stops), ?_⟩
        rw [← left, List.takeWhile_append_dropWhile]

/-- A text cut at every separator. -/
inductive Cut (separator : Char) : List Char → List (List Char) → Prop where
  | whole {part : List Char} (free : separator ∉ part) : Cut separator part [part]
  | next {part rest : List Char} {parts : List (List Char)} (free : separator ∉ part)
    (onward : Cut separator rest parts) : Cut separator (part ++ separator :: rest) (part :: parts)

theorem fields_cut (separator : Char) (text : List Char) : Cut separator text (Text.fields separator text) := by
  induction text with
  | nil => exact .whole (by simp)
  | cons c rest ih =>
    unfold Text.fields
    split
    · rename_i same
      subst same
      exact (.next (List.not_mem_nil) ih : Cut c ([] ++ c :: rest) _)
    · rename_i differs
      generalize Text.fields separator rest = parts at ih
      cases ih with
      | whole free => exact .whole (by simp [free, Ne.symm differs])
      | @next part rest parts free onward =>
        have extended : separator ∉ c :: part := by simp [free, Ne.symm differs]
        exact .next extended onward

theorem fields_free (free : separator ∉ part) : Text.fields separator part = [part] := by
  induction part with
  | nil => rfl
  | cons c part ih =>
    rw [List.mem_cons, not_or] at free
    unfold Text.fields
    rw [if_neg (Ne.symm free.1), ih free.2]

theorem fields_next {rest : List Char} (free : separator ∉ part) :
    Text.fields separator (part ++ separator :: rest) = part :: Text.fields separator rest := by
  induction part with
  | nil => simp [Text.fields]
  | cons c part ih =>
    rw [List.mem_cons, not_or] at free
    rw [List.cons_append]
    conv => lhs; unfold Text.fields
    rw [if_neg (Ne.symm free.1), ih free.2]

/-- There is one way to cut a text. -/
@[simp] theorem cut_iff : Cut separator text parts ↔ Text.fields separator text = parts := by
  constructor
  · intro cut
    induction cut with
    | whole free => exact fields_free free
    | next free _ ih => rw [fields_next free, ih]
  · rintro rfl
    exact fields_cut separator text

/-- The first part of a cut text is what stands before the first separator. -/
theorem fields_first (separator : Char) (text : List Char) :
    ∃ first more, Text.fields separator text = first :: more ∧ UpTo (· = separator) text first := by
  have cut := fields_cut separator text
  generalize Text.fields separator text = parts at cut
  cases cut with
  | whole free => exact ⟨_, _, rfl, fun c member same => free (same ▸ member), .inl rfl⟩
  | next free onward => exact ⟨_, _, rfl, fun c member same => free (same ▸ member), .inr ⟨_, _, rfl, rfl⟩⟩

/-! ### What a record says -/

/-- A state name ends at a plus sign, a parenthesis or a blank. -/
def EndsState (c : Char) : Prop :=
  c = '+' ∨ c = '(' ∨ Text.isBlank c = true

/-- The record names this state, in whatever case of ASCII letters. -/
def Names (r : Record) (state : String) : Prop :=
  ∃ part, UpTo EndsState r.rawState.toList part ∧ part.map Char.toUpper = state.toList

theorem names_iff {state : String} : Names r state ↔ BatchState.token r.rawState = state := by
  have ends_iff (c : Char) : EndsState c ↔ (c != '+' && c != '(' && !Text.isBlank c) = false := by
    by_cases plus : c = '+' <;> by_cases opening : c = '(' <;> simp [EndsState, plus, opening]
  unfold Names BatchState.token
  simp only [upTo_iff ends_iff]
  constructor
  · rintro ⟨_, rfl, same⟩
    rw [same, String.ofList_toList]
  · rintro rfl
    exact ⟨_, rfl, by simp⟩

/-- The record names a state in which a job waits for the scheduler. -/
def Queued (r : Record) : Prop :=
  ∃ state ∈ BatchState.queuedNames, Names r state

/-- The record names a state in which a job has ended, well or not. -/
def HasEnded (r : Record) : Prop :=
  Names r "COMPLETED" ∨ ∃ state ∈ BatchState.failedNames, Names r state

theorem queued_iff : Queued r ↔ r.state = .queued := by
  unfold Queued Record.state BatchState.ofRaw
  simp only [names_iff, exists_eq_right', List.contains_iff_mem]
  constructor
  · intro listed
    rw [if_pos listed]
  · intro queued
    repeat' split at queued
    all_goals first | assumption | cases queued

theorem completed_iff : Names r "COMPLETED" ↔ r.state = .completed := by
  unfold Record.state BatchState.ofRaw
  simp only [names_iff, List.contains_iff_mem]
  constructor
  · intro named
    simp [named, BatchState.queuedNames, BatchState.runningNames]
  · intro completed
    repeat' split at completed
    all_goals first | assumption | cases completed

/-- No state is in two of the lists. -/
theorem failed_apart : ∀ state ∈ BatchState.failedNames,
    state ∉ BatchState.queuedNames ∧ state ∉ BatchState.runningNames ∧ state ≠ "COMPLETED" := by
  decide

theorem failed_iff : (∃ state ∈ BatchState.failedNames, Names r state) ↔ r.state = .failed := by
  unfold Record.state BatchState.ofRaw
  simp only [names_iff, exists_eq_right', List.contains_iff_mem]
  constructor
  · intro listed
    obtain ⟨unqueued, idle, uncompleted⟩ := failed_apart _ listed
    rw [if_neg unqueued, if_neg idle, if_neg uncompleted, if_pos listed]
  · intro failed
    repeat' split at failed
    all_goals first | assumption | cases failed

theorem hasEnded_iff : HasEnded r ↔ r.state.isTerminal = true := by
  unfold HasEnded
  rw [completed_iff, failed_iff]
  cases r.state <;> simp [BatchState.isTerminal]

/-- The record is that of a job that ended well: COMPLETED, with zero between any two colons of its exit code. -/
def Succeeded (r : Record) : Prop :=
  Names r "COMPLETED" ∧ ∃ parts, Cut ':' r.exitCode.toList parts ∧
    ∀ part ∈ parts, Text.readSigned32? (Text.trim part) = some 0

theorem succeeded_iff : Succeeded r ↔ r.succeeded = true := by
  unfold Succeeded Record.succeeded
  simp [completed_iff]

/-- The exit code that the record reports: what stands before the first colon, without the blanks around it, if
anything is left of it. -/
def Reports (r : Record) (exitCode : Option String) : Prop :=
  ∃ part, UpTo (· = ':') r.exitCode.toList part ∧
    exitCode = if Text.trim part = [] then none else some (String.ofList (Text.trim part))

theorem reports_exitStatus (r : Record) : Reports r r.exitStatus? := by
  obtain ⟨first, more, cut, upTo⟩ := fields_first ':' r.exitCode.toList
  refine ⟨first, upTo, ?_⟩
  unfold Record.exitStatus?
  rw [cut]
  simp [List.isEmpty_iff]

/-- The outcome that a record of an ended job stands for. -/
def Judged (r : Record) (outcome : Outcome) : Prop :=
  (Succeeded r ∧ outcome = .finished) ∨ (¬Succeeded r ∧ outcome = .failed)

/-! ### What settles a phase -/

/-- A finding is ready exactly for the records that settle the phase. -/
structure Decides (finding : Slurm.Answer → Finding α) (settles : Record → Prop) : Prop where
  settled : ∀ answer value, finding answer = .ready value → ∃ r, answer = .record r ∧ settles r
  ready : ∀ r, settles r → ∃ value, finding (.record r) = .ready value

/-- Any state but a waiting one ends the queued phase, known or not. -/
def LeavesQueue (r : Record) : Prop :=
  ¬Queued r

theorem queuePoll_decides : Decides Slurm.Answer.queuePoll LeavesQueue where
  settled answer value ready := by
    cases answer with
    | unavailable => cases ready
    | noRecord => cases ready
    | record r =>
      refine ⟨r, rfl, fun queued => ?_⟩
      rw [queued_iff] at queued
      simp [Slurm.Answer.queuePoll, queued] at ready
  ready r leaves := by
    unfold LeavesQueue at leaves
    rw [queued_iff] at leaves
    exact ⟨(), if_neg leaves⟩

/-- Only a record of an ended job ends the running phase, and the outcome is the one it stands for. -/
theorem runningPoll_settles {answer : Slurm.Answer} {outcome : Outcome} {exitCode : Option String}
    (settles : answer.reading.poll = .ready (outcome, exitCode)) :
    ∃ r, answer = .record r ∧ HasEnded r ∧ Judged r outcome ∧ Reports r exitCode := by
  cases answer with
  | unavailable => cases settles
  | noRecord => cases settles
  | record r =>
    refine ⟨r, rfl, ?_⟩
    unfold Judged
    rw [hasEnded_iff, succeeded_iff]
    simp only [Slurm.Answer.reading] at settles
    split at settles
    · rename_i terminal
      split at settles
      · rename_i succeeded
        cases settles
        exact ⟨terminal, .inl ⟨succeeded, rfl⟩, reports_exitStatus r⟩
      · rename_i failed
        cases settles
        exact ⟨terminal, .inr ⟨failed, rfl⟩, reports_exitStatus r⟩
    · cases settles

theorem runningPoll_decides : Decides (fun answer => answer.reading.poll) HasEnded where
  settled answer value ready := by
    obtain ⟨r, same, ended, _⟩ := runningPoll_settles ready
    exact ⟨r, same, ended⟩
  ready r ended := by
    rw [hasEnded_iff] at ended
    simp only [Slurm.Answer.reading, if_pos ended]
    split <;> exact ⟨_, rfl⟩

/-! ### Queries of a phase -/

/-- A query of the accounting: what was answered, and the dealings with the host. -/
abbrev Query := Round Slurm.Answer

/-- None of the answers is a record that settles the phase. -/
def Unsettled (settles : Record → Prop) (queries : List Query) : Prop :=
  ∀ query ∈ queries, ∀ r, query.found = .record r → ¬settles r

/-- The last answer is this record, which settles the phase, and no answer before it does. -/
def SettledBy (settles : Record → Prop) (r : Record) (queries : List Query) : Prop :=
  ∃ earlier dealings, queries = earlier ++ [⟨.record r, dealings⟩] ∧ settles r ∧ Unsettled settles earlier

/-- The phase was given up because the pacer was exhausted. -/
def GivenUp (job : Uuid) (result : Except MonitorError α) : Prop :=
  ∃ attempts elapsed, result = .error (.policyExhausted job attempts elapsed)

/-- All that was done to the host between the two worlds are these queries for the job's own id. -/
structure Queried (id : String) (w : World σ) (queries : List Query) (w' : World σ) : Prop where
  trace : w'.trace = w.trace ++ dealingsOf queries
  answered : ∀ query ∈ queries, AccountingPoll id query.found query.dealings
  commands : ∀ command ∈ commandsOf (dealingsOf queries), command = Command.slurmAccounting id

theorem accounting_commands {answer : Slurm.Answer} {dealings : List HostEvent}
    (polled : AccountingPoll id answer dealings) :
    ∀ command ∈ commandsOf dealings, command = Command.slurmAccounting id := by
  cases polled with
  | unanswered fruitless =>
    obtain nothing | single := fruitless_commands fruitless
    · simp [nothing]
    · simp [single]
  | rejected | unknown | known => simp [accountOf, commandsOf]

theorem queried_of_answered {queries : List Query} (trace : w'.trace = w.trace ++ dealingsOf queries)
    (answered : ∀ query ∈ queries, AccountingPoll id query.found query.dealings) :
    Queried id w queries w' where
  trace := trace
  answered := answered
  commands := by
    intro command member
    obtain ⟨event, among, sent⟩ := List.mem_filterMap.mp member
    obtain ⟨query, listed, own⟩ := List.mem_flatMap.mp among
    exact accounting_commands (answered query listed) command (List.mem_filterMap.mpr ⟨event, own, sent⟩)

/-- The poll makes its finding of an answer to an accounting query. -/
def Answers (id : String) (finding : Slurm.Answer → Finding α) (found : Except MonitorError (Finding α))
    (dealings : List HostEvent) : Prop :=
  ∃ answer, found = .ok (finding answer) ∧ AccountingPoll id answer dealings

theorem queue_answers {found : Except MonitorError (Finding Unit)} {dealings : List HostEvent}
    (lawful : Finds (QueuePoll id) found dealings) : Answers id Slurm.Answer.queuePoll found dealings := by
  obtain ⟨⟨polled⟩⟩ := lawful
  exact ⟨_, rfl, polled⟩

theorem running_answers {target : Target} {found : Except MonitorError (Finding (Outcome × Option String))}
    {dealings : List HostEvent} (lawful : Finds (RunningPoll .dockerSlurm target id) found dealings) :
    Answers id (fun answer => answer.reading.poll) found dealings := by
  cases lawful with
  | found allowed =>
    cases allowed with
    | listed watched => exact absurd watched.symm (watcher_not_batch _)
    | accounted _ polled => exact ⟨_, rfl, polled⟩

section Ended

variable {job : Uuid} {finding : Slurm.Answer → Finding α} {settles : Record → Prop}
  {rounds : List (Round (Except MonitorError (Finding α)))} {result : Except MonitorError α}

theorem unready_unsettled {answers : List Query} (decides : Decides finding settles)
    (unready : ∀ answer ∈ answers, ∀ value, finding answer.found ≠ .ready value) : Unsettled settles answers := by
  intro query member r record settled
  obtain ⟨value, ready⟩ := decides.ready r settled
  rw [← record] at ready
  exact unready query member value ready

/-- A phase that allows empty answers and is answered every time fails only because the pacer is exhausted. -/
theorem ended_givenUp {e : MonitorError} (answered : ∀ round ∈ rounds, ∃ found, round.found = .ok found)
    (ended : Ended job true rounds result) (failed : result = .error e) : GivenUp job result := by
  induction ended with
  | settled => cases failed
  | failed =>
    obtain ⟨_, found⟩ := answered _ List.mem_cons_self
    cases found
  | barren refused => cases refused
  | exhausted => exact ⟨_, _, rfl⟩
  | later _ _ ih => exact ih (fun round member => answered round (List.mem_cons_of_mem _ member)) failed

/-- The answers that a phase went through which allows empty ones: the last settled it, and none before that
did, or none did at all and the pacer was exhausted. -/
theorem ended_queries (decides : Decides finding settles)
    (lawful : ∀ round ∈ rounds, Answers id finding round.found round.dealings)
    (ended : Ended job true rounds result) :
    ∃ queries : List Query, dealingsOf queries = dealingsOf rounds ∧
      (∀ query ∈ queries, AccountingPoll id query.found query.dealings) ∧
      ((∃ r value, SettledBy settles r queries ∧ finding (.record r) = .ready value ∧ result = .ok value) ∨
        (GivenUp job result ∧ Unsettled settles queries)) := by
  have reads : ∀ round ∈ rounds, Reads (AccountingPoll id) finding round.found round.dealings := by
    intro round member
    obtain ⟨answer, found, polled⟩ := lawful round member
    rw [found]
    exact .answered polled
  have answered : ∀ round ∈ rounds, ∃ found, round.found = .ok found := by
    intro round member
    obtain ⟨answer, found, _⟩ := lawful round member
    exact ⟨_, found⟩
  obtain ⟨queries, same, polled, decided⟩ := ended_answers reads ended
  refine ⟨queries, same, polled, ?_⟩
  cases decided with
  | @settled earlier last value unready ready =>
    obtain ⟨asked, dealings⟩ := last
    obtain ⟨r, rfl, settling⟩ := decides.settled asked value ready
    exact .inl ⟨r, value, ⟨earlier, dealings, rfl, settling, unready_unsettled decides unready⟩, ready, rfl⟩
  | abandoned e unready =>
    exact .inr ⟨ended_givenUp answered ended rfl, unready_unsettled decides unready⟩

end Ended

/-! ### Sessions -/

theorem batch_polls (batch : m.strategy = .dockerSlurm) : m.strategy ≠ .dockerNative := by
  rw [batch]
  nofun

theorem awaitStart_queries {result : Except MonitorError Unit} (batch : m.strategy = .dockerSlurm)
    (assigned : m.target.remoteId = some id)
    (ran : (m.awaitStart host polls).run w = some ((result, m'), w')) :
    m'.exitCode = m.exitCode ∧ ∃ queries, Queried id w queries w' ∧
      ((result = .ok () ∧ ∃ r, SettledBy LeavesQueue r queries) ∨
        (GivenUp m.target.uuid result ∧ Unsettled LeavesQueue queries)) := by
  obtain ⟨pacer, phase, rfl⟩ := awaitStart_ran batch ran
  rw [batch] at phase
  obtain ⟨rounds, lawful, ended, trace⟩ := pollUntil_rounds (queryQueue_polls assigned) phase
  obtain ⟨queries, same, answered, ending⟩ :=
    ended_queries queuePoll_decides (fun round member => queue_answers (lawful round member)) ended
  refine ⟨rfl, queries, queried_of_answered (by rw [trace, same]) answered, ?_⟩
  obtain ⟨r, _, settled, _, rfl⟩ | givenUp := ending
  · exact .inl ⟨rfl, r, settled⟩
  · exact .inr givenUp

theorem awaitEnd_queries {result : Except MonitorError Outcome} (batch : m.strategy = .dockerSlurm)
    (assigned : m.target.remoteId = some id)
    (ran : (m.awaitEnd host polls).run w = some ((result, m'), w')) :
    ∃ queries, Queried id w queries w' ∧
      ((∃ outcome r, result = .ok outcome ∧ SettledBy HasEnded r queries ∧ Judged r outcome ∧
          Reports r m'.exitCode) ∨
        (GivenUp m.target.uuid result ∧ Unsettled HasEnded queries ∧ m'.exitCode = m.exitCode)) := by
  have polled := batch_polls batch
  obtain ⟨found, pacer, phase, rfl, rfl⟩ := awaitEnd_ran polled ran
  rw [batch] at phase polled
  obtain ⟨rounds, lawful, ended, trace⟩ := pollUntil_rounds (runningPoll_polls polled assigned) phase
  obtain ⟨queries, same, answered, ending⟩ :=
    ended_queries runningPoll_decides (fun round member => running_answers (lawful round member)) ended
  refine ⟨queries, queried_of_answered (by rw [trace, same]) answered, ?_⟩
  obtain ⟨r, ⟨outcome, exitCode⟩, settled, ready, rfl⟩ | ⟨⟨attempts, elapsed, rfl⟩, unsettled⟩ := ending
  · obtain ⟨_, ⟨⟩, _, judged, reports⟩ := runningPoll_settles ready
    exact .inl ⟨outcome, r, rfl, settled, judged, reports⟩
  · exact .inr ⟨⟨attempts, elapsed, rfl⟩, unsettled, rfl⟩

/-- Whatever the host answers, the queued phase of a batch job ends with the first record that does not name a
waiting state, and leaves the exit code as it is; the running phase ends with the first record that names a
final state, as well or as badly as that record says, and takes its exit code from it. Else a phase ends only
because the pacer is exhausted, or before any query where there is no remote id. Nothing but the accounting of
the job's own id is ever asked. -/
theorem batch_phases_follow_accounting (batch : m.strategy = .dockerSlurm) (host : Host σ) (polls : Nat) :
    (∀ id, m.target.remoteId = some id →
      (∀ w result m' w', (m.awaitStart host polls).run w = some ((result, m'), w') →
        m'.exitCode = m.exitCode ∧ ∃ queries, Queried id w queries w' ∧
          ((result = .ok () ∧ ∃ r, SettledBy LeavesQueue r queries) ∨
            (GivenUp m.target.uuid result ∧ Unsettled LeavesQueue queries))) ∧
      ∀ w result m' w', (m.awaitEnd host polls).run w = some ((result, m'), w') →
        ∃ queries, Queried id w queries w' ∧
          ((∃ outcome r, result = .ok outcome ∧ SettledBy HasEnded r queries ∧ Judged r outcome ∧
              Reports r m'.exitCode) ∨
            (GivenUp m.target.uuid result ∧ Unsettled HasEnded queries ∧ m'.exitCode = m.exitCode))) ∧
    (m.target.remoteId = none →
      (∀ w result m' w', (m.awaitStart host polls).run w = some ((result, m'), w') →
        result = .error (.missingRemoteId m.target.uuid) ∧ w'.trace = w.trace ∧ m'.exitCode = m.exitCode) ∧
      ∀ w result m' w', (m.awaitEnd host polls).run w = some ((result, m'), w') →
        result = .error (.missingRemoteId m.target.uuid) ∧ w'.trace = w.trace ∧ m'.exitCode = m.exitCode) := by
  refine ⟨fun id assigned => ⟨?_, ?_⟩, fun unassigned => ⟨?_, ?_⟩⟩
  · exact fun w result m' w' ran => awaitStart_queries batch assigned ran
  · exact fun w result m' w' ran => awaitEnd_queries batch assigned ran
  · exact fun w result m' w' ran => awaitStart_nameless batch unassigned ran
  · exact fun w result m' w' ran => awaitEnd_nameless (batch_polls batch) unassigned ran

/-- The monitor of an array task that was submitted as job 77_1. -/
def submitted : Monitor where
  strategy := .dockerSlurm
  target := ⟨.nil, some "77_1", ⟨"cluster", "cluster.example.org", 22, none, none, some .slurm⟩,
    "/out/tapisjob.exitcode"⟩
  pacer := .immediate 5

/-- After a refused connection the array is pending, then an unknown state is named, and then the end. -/
def array : Scripted.Stage where
  scripts := [⟨"sacct", [⟨"77_2|COMPLETED|0:0\n77_1|PENDING|0:0\n", 0⟩, ⟨"77_1|THINKING|0:0", 0⟩,
    ⟨"77_2|FAILED|1:0\n77_1|completed by hand|00: 0", 0⟩]⟩]
  refusals := 1
  today := ⟨86400, 0⟩

theorem array_task_ends_by_its_own_record :
    (∃ m' w', (submitted.awaitStart Scripted.host 5).run { host := array } = some ((.ok (), m'), w') ∧
      ∃ queries r, Queried "77_1" { host := array } queries w' ∧ SettledBy LeavesQueue r queries) ∧
    ∃ m' w', (submitted.awaitEnd Scripted.host 5).run { host := array } = some ((.ok .finished, m'), w') ∧
      m'.exitCode = some "00" ∧
      ∃ queries r, Queried "77_1" { host := array } queries w' ∧ SettledBy HasEnded r queries ∧ Succeeded r := by
  obtain ⟨queued, running⟩ := (batch_phases_follow_accounting (m := submitted) rfl Scripted.host 5).1 "77_1" rfl
  constructor
  · have returns : ((submitted.awaitStart Scripted.host 5).run { host := array }).map
        (fun r => r.1.1.toOption) = some (some ()) := by
      decide +kernel
    obtain ⟨⟨⟨result, m'⟩, w'⟩, ran, ends⟩ := Option.map_eq_some_iff.mp returns
    cases result with
    | error e => cases ends
    | ok _ =>
      obtain ⟨_, queries, queried, ⟨_, r, settled⟩ | ⟨⟨_, _, givenUp⟩, _⟩⟩ := queued _ _ _ _ ran
      · exact ⟨m', w', ran, queries, r, queried, settled⟩
      · cases givenUp
  · have returns : ((submitted.awaitEnd Scripted.host 5).run { host := array }).map
        (fun r => (r.1.1.toOption, r.1.2.exitCode)) = some (some .finished, some "00") := by
      decide +kernel
    obtain ⟨⟨⟨result, m'⟩, w'⟩, ran, ends⟩ := Option.map_eq_some_iff.mp returns
    obtain ⟨settled, exitCode⟩ := Prod.mk.inj ends
    cases result with
    | error e => cases settled
    | ok outcome =>
      cases settled
      obtain ⟨queries, queried, ⟨_, r, same, settled, judged, _⟩ | ⟨⟨_, _, givenUp⟩, _⟩⟩ := running _ _ _ _ ran
      · cases same
        obtain ⟨succeeded, _⟩ | ⟨_, failed⟩ := judged
        · exact ⟨m', w', ran, exitCode, queries, r, queried, settled, succeeded⟩
        · cases failed
      · cases givenUp

end RemoteJobs.Proofs.AccountingPhases
