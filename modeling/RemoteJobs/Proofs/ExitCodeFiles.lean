import RemoteJobs.Proofs.ExitCodes
import RemoteJobs.Proofs.ListingEvidence
import RemoteJobs.Proofs.ProcessLines

/-! Exit code files. A file that denotes an integer is meant to decide how a job ended, and every other answer
to count as success. Integers that do not fit into 32 bits are taken for no integers: these laws say that no
other content is misread, and that such a failure is reported as a success without an exit code. -/
namespace RemoteJobs.Proofs.ExitCodeFiles
open Monitor SessionRuns SingularityQueries PollAnswers TrackingCourses ProcessLines ExitCodes ListingEvidence

variable {σ : Type} {host : Host σ} {m m' : Monitor} {w w' : World σ} {mode : SingularityMode} {target : Target}
  {id : String} {reading : Reading} {dealings : List HostEvent} {answer : Except ExecError Output}
  {status : RemoteStatus} {exitCode : Option String} {s : List Char} {n k : Int}

/-! ### Integers -/

/-- The text is an integer: digits, with one sign before them or none. -/
inductive Denotes : List Char → Int → Prop where
  | plain {digits : List Char} (numeral : Numeral digits) : Denotes digits (value digits)
  | plus {digits : List Char} (numeral : Numeral digits) : Denotes ('+' :: digits) (value digits)
  | minus {digits : List Char} (numeral : Numeral digits) : Denotes ('-' :: digits) (-(value digits))

theorem readDigits?_iff {v : Nat} : Text.readDigits? s = some v ↔ Numeral s ∧ value s = v := by
  simp only [Text.readDigits?, digitsValue_eq, Numeral, ← isDigit_iff, List.isEmpty_iff]
  split <;> simp_all

theorem signed_iff {signed : Int → Int} :
    (do let v ← Text.readDigits? s; pure (v : Int)).map signed = some n ↔
      Numeral s ∧ signed (value s) = n := by
  simp only [Option.map_eq_some_iff, Option.bind_eq_bind, Option.bind_eq_some_iff, readDigits?_iff]
  constructor
  · rintro ⟨_, ⟨_, ⟨numeral, rfl⟩, ⟨⟩⟩, rfl⟩
    exact ⟨numeral, rfl⟩
  · rintro ⟨numeral, rfl⟩
    exact ⟨_, ⟨_, ⟨numeral, rfl⟩, rfl⟩, rfl⟩

theorem unsigned {sign : Char} (other : sign = '+' ∨ sign = '-') (s : List Char) : ¬Numeral (sign :: s) := by
  intro numeral
  have digit := numeral.2 sign List.mem_cons_self
  obtain rfl | rfl := other <;> revert digit <;> decide

/-- A text is read as the integer that it denotes, and as nothing if it denotes none. -/
theorem readInteger?_iff : Text.readInteger? s = some n ↔ Denotes s n := by
  constructor
  · intro read
    unfold Text.readInteger? at read
    split at read
    · obtain ⟨numeral, rfl⟩ := signed_iff.mp read
      exact .minus numeral
    · obtain ⟨numeral, rfl⟩ := signed_iff.mp read
      exact .plus numeral
    · obtain ⟨numeral, rfl⟩ := signed_iff.mp read
      exact .plain numeral
  · intro denotes
    cases denotes with
    | plus numeral => exact signed_iff.mpr ⟨numeral, rfl⟩
    | minus numeral => exact signed_iff.mpr ⟨numeral, rfl⟩
    | plain numeral =>
      unfold Text.readInteger?
      split
      · exact absurd numeral (unsigned (.inr rfl) _)
      · exact absurd numeral (unsigned (.inl rfl) _)
      · exact signed_iff.mpr ⟨numeral, rfl⟩

theorem denotes_unique (denotes : Denotes s n) (again : Denotes s k) : n = k :=
  Option.some.inj ((readInteger?_iff.mpr denotes).symm.trans (readInteger?_iff.mpr again))

/-- The integer fits into 32 bits. -/
def Fits (n : Int) : Prop :=
  -2147483648 ≤ n ∧ n < 2147483648

instance (n : Int) : Decidable (Fits n) :=
  inferInstanceAs (Decidable (_ ∧ _))

theorem readSigned32?_iff : Text.readSigned32? s = some n ↔ Denotes s n ∧ Fits n := by
  rw [← readInteger?_iff]
  constructor
  · exact signed_bounds
  · rintro ⟨read, fits⟩
    unfold Text.readSigned32?
    rw [read]
    exact if_pos fits

theorem unread_iff : Text.readSigned32? s = none ↔ ∀ n, Denotes s n → ¬Fits n := by
  rw [Option.eq_none_iff_forall_ne_some]
  exact forall_congr' fun n => by rw [ne_eq, readSigned32?_iff, not_and]

/-! ### Answers -/

/-- The exit code file could be read and denotes the integer. -/
def Recorded (answer : Except ExecError Output) (n : Int) : Prop :=
  ∃ output, answer = .ok output ∧ output.exitCode = 0 ∧ Denotes output.text.toList n

/-- What the exit code file is meant to say of a job that has ended: an integer other than zero stands for a
failure and zero for a success, and any other answer for a success without an exit code. -/
inductive Meant (answer : Except ExecError Output) : RemoteStatus → Option String → Prop where
  | failed {n : Int} (recorded : Recorded answer n) (nonzero : n ≠ 0) : Meant answer .failed (some (toString n))
  | done (recorded : Recorded answer 0) : Meant answer .done (some "0")
  | silent (nothing : ∀ n, ¬Recorded answer n) : Meant answer .done none

theorem recorded_unique (recorded : Recorded answer n) (again : Recorded answer k) : n = k := by
  obtain ⟨output, rfl, _, denotes⟩ := recorded
  obtain ⟨_, ⟨⟩, _, other⟩ := again
  exact denotes_unique denotes other

/-- What the file says is read if it fits, and else it is as if there were no file. -/
theorem recorded_read (recorded : Recorded answer n) : Singularity.readingOfExitCode answer =
    if Fits n then (if n = 0 then .done (some "0") else .failed (some (toString n))) else .done none := by
  obtain ⟨output, rfl, zero, denotes⟩ := recorded
  have succeeded : output.succeeded = true := by simpa [Output.succeeded] using zero
  unfold Singularity.readingOfExitCode
  dsimp only
  rw [if_pos succeeded]
  by_cases fits : Fits n
  · rw [readSigned32?_iff.mpr ⟨denotes, fits⟩, if_pos fits]
    split
    · rename_i same
      rw [if_pos (Option.some.inj same)]
    · rename_i code nonzero same
      cases same
      rw [if_neg (fun zero => nonzero (by rw [zero]))]
    · rename_i impossible
      cases impossible
  · have oversized : ∀ k, Denotes output.text.toList k → ¬Fits k := fun k other => by
      rwa [← denotes_unique denotes other]
    rw [unread_iff.mpr oversized, if_neg fits]

/-- An integer that does not fit is passed over. -/
theorem oversized_concludes (recorded : Recorded answer n) (large : ¬Fits n)
    (concluding : Concluding (Singularity.readingOfExitCode answer) status exitCode) :
    status = .done ∧ exitCode = none := by
  rw [recorded_read recorded, if_neg large] at concluding
  cases concluding
  exact ⟨rfl, rfl⟩

theorem silent_read (nothing : ∀ n, ¬Recorded answer n) : Singularity.readingOfExitCode answer = .done none := by
  unfold Singularity.readingOfExitCode
  split
  · rfl
  · rename_i output
    split
    · rename_i succeeded
      have zero : output.exitCode = 0 := by simpa [Output.succeeded] using succeeded
      rw [unread_iff.mpr fun k denotes => absurd ⟨output, rfl, zero, denotes⟩ (nothing k)]
    · rfl

/-- The file is read as it is meant exactly where what it says, if anything, fits. -/
theorem reading_meant_iff (concluding : Concluding (Singularity.readingOfExitCode answer) status exitCode) :
    Meant answer status exitCode ↔ ∀ n, Recorded answer n → Fits n := by
  by_cases something : ∃ n, Recorded answer n
  · obtain ⟨n, recorded⟩ := something
    rw [recorded_read recorded] at concluding
    constructor
    · intro meant k other
      obtain rfl := recorded_unique recorded other
      by_contra large
      rw [if_neg large] at concluding
      cases concluding
      cases meant with
      | silent nothing => exact nothing n recorded
    · intro fits
      rw [if_pos (fits n recorded)] at concluding
      split at concluding
      · rename_i zero
        subst zero
        cases concluding
        exact .done recorded
      · rename_i nonzero
        cases concluding
        exact .failed recorded nonzero
  · have nothing : ∀ n, ¬Recorded answer n := fun n recorded => something ⟨n, recorded⟩
    rw [silent_read nothing] at concluding
    cases concluding
    exact ⟨fun _ n recorded => absurd recorded (nothing n), fun _ => .silent nothing⟩

/-! ### Queries -/

/-- The last of these dealings reads the exit code file, and this is the answer. -/
def EndsWithFile (target : Target) (answer : Except ExecError Output) (dealings : List HostEvent) : Prop :=
  dealings.getLast? = some (.executed (Command.printFile target.exitCodeFile) answer)

theorem listing_not_file (path : String) : Command.processListing ≠ Command.printFile path := by
  intro same
  have letter : (Command.printFile path).toList.head? = some 'c' := first_letter (by decide +kernel)
  rw [← same] at letter
  have other : Command.processListing.toList.head? = some 'p' := by decide +kernel
  rw [other] at letter
  cases letter

theorem listing_unended (output : Output) : ¬EndsWithFile target answer (listingOf output) := by
  simp [EndsWithFile, listingOf, listing_not_file]

theorem fruitless_unended (fruitless : Fruitless Command.processListing dealings) :
    ¬EndsWithFile target answer dealings := by
  cases fruitless <;> simp [EndsWithFile, listing_not_file]

/-- A poll that ends with the exit code file comes to what it says. -/
theorem poll_reads_file (polled : ListingPoll mode target id reading dealings)
    (ends : EndsWithFile target answer dealings) : reading = Singularity.readingOfExitCode answer := by
  cases polled with
  | unlisted fruitless => exact absurd ends (fruitless_unended fruitless)
  | blank | missing | running => exact absurd ends (listing_unended _)
  | gone | removed =>
    simp only [EndsWithFile, List.getLast?_append, List.getLast?_cons_cons, List.getLast?_singleton,
      Option.some_or, Option.some.injEq, HostEvent.executed.injEq, true_and] at ends
    rw [ends]

theorem reading_concludes (answer : Except ExecError Output) :
    (Singularity.readingOfExitCode answer).concludes = true := by
  unfold Singularity.readingOfExitCode
  repeat' split
  all_goals rfl

/-- A poll concludes exactly where it ends with the exit code file. -/
theorem poll_concludes_iff (polled : ListingPoll mode target id reading dealings) :
    reading.concludes = true ↔ ∃ answer, EndsWithFile target answer dealings := by
  constructor
  · intro concludes
    cases polled with
    | unlisted | blank | missing | running => cases concludes
    | @gone output exitCode => exact ⟨exitCode, by simp [EndsWithFile]⟩
    | @removed output removal exitCode command => exact ⟨exitCode, by simp [EndsWithFile]⟩
  · rintro ⟨answer, ends⟩
    rw [poll_reads_file polled ends]
    exact reading_concludes answer

theorem concludes_status : Concludes (.ok reading.status) ↔ reading.concludes = true := by
  cases reading <;> simp [Concludes, Reading.status, Reading.concludes]

theorem concluding_status (concludes : reading.concludes = true) (known : Option String) :
    Concluding reading reading.status (reading.exitCodeAfter known) := by
  cases reading with
  | null | empty | active => cases concludes
  | done exitCode => exact .done exitCode
  | failed exitCode => exact .failed exitCode

/-- A query over a process listing concludes exactly where its last dealing with the host reads the exit code
file, and then it concludes what is read. -/
theorem query_reads_file {active : Bool} {found : Except MonitorError RemoteStatus}
    (watched : m.strategy = watcher mode) (ran : (m.query host active).run w = ((found, m'), w')) :
    ∃ dealings, w'.trace = w.trace ++ dealings ∧
      (Concludes found ↔ ∃ answer, EndsWithFile m.target answer dealings) ∧
      ∀ answer, EndsWithFile m.target answer dealings → ∃ status, found = .ok status ∧
        Concluding (Singularity.readingOfExitCode answer) status m'.exitCode := by
  unfold Monitor.query at ran
  cases active with
  | false =>
    cases ran
    exact ⟨[], (List.append_nil _).symm, by simp [Concludes, EndsWithFile], nofun⟩
  | true =>
    obtain ⟨read, dealings, after, yields, looked⟩ := look_yields host m.strategy m.target w.host
    obtain ⟨value, trace, _⟩ := yields w rfl
    rw [if_pos rfl, session_bind, value] at ran
    cases looked with
    | nameless =>
      cases ran
      exact ⟨[], trace, by simp [Concludes, EndsWithFile], nofun⟩
    | elsewhere delegated =>
      rw [watched] at delegated
      cases mode <;> cases delegated
    | @asked reading _ query =>
      cases ran
      cases query with
      | accounted batch => exact absurd (watched.symm.trans batch) (watcher_not_batch mode)
      | listed _ _ polled =>
        refine ⟨dealings, trace, concludes_status.trans (poll_concludes_iff polled), ?_⟩
        intro answer ends
        refine ⟨_, rfl, ?_⟩
        rw [poll_reads_file polled ends]
        exact concluding_status (reading_concludes answer) m.exitCode

/-- A query over a process listing concludes that the job has ended exactly where it reads the exit code file
last. It then goes by that file as it is meant, except where the file denotes an integer of more than 32 bits: it
takes that for no integer, and the job to have ended well without an exit code. -/
theorem exit_code_files_hold_where_they_fit (host : Host σ) (mode : SingularityMode) (m : Monitor)
    (watched : m.strategy = watcher mode) (active : Bool) (w : World σ) :
    ∀ found m' w', (m.query host active).run w = ((found, m'), w') →
      ∃ dealings, w'.trace = w.trace ++ dealings ∧
        (Concludes found ↔ ∃ answer, EndsWithFile m.target answer dealings) ∧
        ∀ answer, EndsWithFile m.target answer dealings → ∃ status, found = .ok status ∧
          (Meant answer status m'.exitCode ↔ ∀ n, Recorded answer n → Fits n) ∧
          ∀ n, Recorded answer n → ¬Fits n → status = .done ∧ m'.exitCode = none := by
  intro found m' w' ran
  obtain ⟨dealings, trace, concludes, reads⟩ := query_reads_file watched ran
  refine ⟨dealings, trace, concludes, ?_⟩
  intro answer ends
  obtain ⟨status, rfl, concluding⟩ := reads answer ends
  refine ⟨status, rfl, reading_meant_iff concluding, ?_⟩
  exact fun n recorded large => oversized_concludes recorded large concluding

theorem negative_recorded : Recorded (.ok ⟨" -007\n", 0⟩) (-7) := by
  have numeral : Numeral ['0', '0', '7'] := ⟨by simp, by simp [Char.le_def]⟩
  have denotes : Denotes (['-', '0', '0', '7']) (-7) := .minus numeral
  exact ⟨_, rfl, rfl, denotes⟩

theorem padded_code_is_reported :
    ∃ m' w', ((watching .singularityRun).query Scripted.host true).run { host := forgetful " -007\n" } =
        ((.ok .failed, m'), w') ∧
      m'.exitCode = some "-7" ∧ Meant (.ok ⟨" -007\n", 0⟩) .failed (some "-7") := by
  refine ⟨_, _, rfl, rfl, ?_⟩
  obtain ⟨dealings, trace, _, reads⟩ := exit_code_files_hold_where_they_fit Scripted.host .run
    (watching .singularityRun) rfl true { host := forgetful " -007\n" } _ _ _ rfl
  have ends : EndsWithFile (watching .singularityRun).target (.ok ⟨" -007\n", 0⟩) dealings := by
    rw [World.trace, World.trace, List.reverse_nil, List.nil_append] at trace
    rw [← trace]
    rfl
  obtain ⟨status, same, meant, _⟩ := reads _ ends
  cases same
  refine meant.mpr fun n recorded => ?_
  rw [recorded_unique recorded negative_recorded]
  decide

/-- The least number that does not fit. -/
theorem oversized_recorded : Recorded (.ok ⟨"2147483648\n", 0⟩) 2147483648 := by
  have numeral : Numeral "2147483648".toList := ⟨by simp, by simp [Char.le_def]⟩
  have denotes : Denotes "2147483648".toList 2147483648 := .plain numeral
  exact ⟨_, rfl, rfl, denotes⟩

theorem oversized_failure_is_lost :
    ∃ m' w', ((watching .singularityRun).query Scripted.host true).run { host := forgetful "2147483648\n" } =
        ((.ok .done, m'), w') ∧
      EndsWithFile (watching .singularityRun).target (.ok ⟨"2147483648\n", 0⟩) w'.trace ∧ m'.exitCode = none ∧
      Recorded (.ok ⟨"2147483648\n", 0⟩) 2147483648 ∧ ¬Meant (.ok ⟨"2147483648\n", 0⟩) .done none := by
  refine ⟨_, _, rfl, rfl, rfl, oversized_recorded, ?_⟩
  intro meant
  cases meant with
  | silent nothing => exact nothing _ oversized_recorded

end RemoteJobs.Proofs.ExitCodeFiles
