import RemoteJobs.Proofs.AccountingPhases
import RemoteJobs.Proofs.TextLines

/-! Accounting answers as tables. A row is read by its first three columns, whatever blanks stand around them;
the row that speaks for a job is told by its id, and by its place only where no row has that id. -/
namespace RemoteJobs.Proofs.AccountingTables
open Accounting PollAnswers AccountingPhases TextLines

variable {separator : Char} {before after text line first : List Char} {more parts lines : List (List Char)}
  {r : Record} {entries : List Record} {id : String}

/-! ### Blanks around a row -/

theorem blank_apart (visible : Text.isBlank separator = false) (blank : ∀ c ∈ before, Text.isBlank c = true) :
    separator ∉ before := by
  intro member
  rw [blank separator member] at visible
  cases visible

/-- What is put before a text goes into its first part. -/
theorem fields_lead (apart : separator ∉ before) (cut : Text.fields separator text = first :: more) :
    Text.fields separator (before ++ text) = (before ++ first) :: more := by
  induction before with
  | nil => exact cut
  | cons c before ih =>
    rw [List.mem_cons, not_or] at apart
    rw [List.cons_append]
    unfold Text.fields
    rw [if_neg (Ne.symm apart.1), ih apart.2]
    rfl

/-- What is put behind a text goes into its last part. -/
theorem fields_end (apart : separator ∉ after) (cut : Cut separator text parts) :
    ∃ front last, parts = front ++ [last] ∧
      Text.fields separator (text ++ after) = front ++ [last ++ after] := by
  induction cut with
  | @whole part free => exact ⟨[], part, rfl, fields_free (by simp [free, apart])⟩
  | @next part rest parts free _ ih =>
    obtain ⟨front, last, rfl, same⟩ := ih
    refine ⟨part :: front, last, rfl, ?_⟩
    rw [List.append_assoc, List.cons_append, fields_next free, same, List.cons_append]

/-- Blanks around a text are no part of what stands in its columns. -/
theorem fields_padded (visible : Text.isBlank separator = false)
    (blankBefore : ∀ c ∈ before, Text.isBlank c = true) (blankAfter : ∀ c ∈ after, Text.isBlank c = true) :
    (Text.fields separator (before ++ text ++ after)).map Text.trim =
      (Text.fields separator text).map Text.trim := by
  have leads : (Text.fields separator (before ++ text)).map Text.trim =
      (Text.fields separator text).map Text.trim := by
    obtain ⟨first, more, cut, _⟩ := fields_first separator text
    rw [fields_lead (blank_apart visible blankBefore) cut, cut, List.map_cons, List.map_cons,
      trim_lead blankBefore]
  obtain ⟨front, last, cut, ends⟩ :=
    fields_end (blank_apart visible blankAfter) (fields_cut separator (before ++ text))
  rw [← leads, ends, cut, List.map_append, List.map_append, List.map_singleton, List.map_singleton,
    trim_end blankAfter]

/-! ### Reading a row -/

/-- A row is cut into its columns with the blanks around it or without them. -/
theorem ofLine?_columns (line : List Char) : Record.ofLine? line =
    match (Text.fields '|' line).map Text.trim with
    | jobId :: rawState :: more =>
      if jobId.isEmpty || rawState.isEmpty then none
      else some ⟨String.ofList jobId, String.ofList rawState, String.ofList (more.headD [])⟩
    | _ => none := by
  obtain ⟨before, after, whole, blankBefore, blankAfter⟩ := trim_split line
  have columns : (Text.fields '|' (before ++ Text.trim line ++ after)).map Text.trim =
      (Text.fields '|' (Text.trim line)).map Text.trim := fields_padded rfl blankBefore blankAfter
  rw [← whole] at columns
  rw [columns]
  unfold Record.ofLine?
  rfl

theorem ofLine?_indifferent : Indifferent Record.ofLine? where
  blank line blank := by
    unfold Record.ofLine?
    rw [blank]
    rfl
  returned line := by
    unfold Record.ofLine?
    rw [trim_end (by simp [Text.isBlank])]

/-- An accounting answer is read line by line. -/
theorem all_lines (output : String) : Record.all output = (Text.lines output.toList).filterMap Record.ofLine? :=
  ofLine?_indifferent.nonblank _

/-! ### The record that speaks -/

/-- Among these lines the record speaks for the job: it is on the first line that has the job's id or, where
none has it, on the first line that can be read. -/
inductive Speaks (lines : List (List Char)) (id : String) (r : Record) : Prop where
  | own {before after : List (List Char)} {line : List Char} (listed : lines = before ++ line :: after)
    (read : Record.ofLine? line = some r) (named : r.jobId = id)
    (first : ∀ earlier ∈ before, ∀ other, Record.ofLine? earlier = some other → other.jobId ≠ id)
  | stranger {before after : List (List Char)} {line : List Char} (listed : lines = before ++ line :: after)
    (read : Record.ofLine? line = some r) (first : ∀ earlier ∈ before, Record.ofLine? earlier = none)
    (unnamed : ∀ line ∈ lines, ∀ other, Record.ofLine? line = some other → other.jobId ≠ id)

theorem unnamed_iff : (∀ other ∈ lines.filterMap Record.ofLine?, other.jobId ≠ id) ↔
    ∀ line ∈ lines, ∀ other, Record.ofLine? line = some other → other.jobId ≠ id := by
  constructor
  · exact fun unnamed line member other read => unnamed other (List.mem_filterMap.mpr ⟨line, member, read⟩)
  · intro unnamed other member
    obtain ⟨line, listed, read⟩ := List.mem_filterMap.mp member
    exact unnamed line listed other read

theorem find?_speaks {output : String} :
    Record.find? output id = some r ↔ Speaks (Text.lines output.toList) id r := by
  rw [← selected_iff]
  constructor
  · rintro (⟨listed, named, first⟩ | ⟨listed, unnamed⟩)
    · rw [all_lines] at listed
      obtain ⟨front, back, whole, rfl, later⟩ := List.filterMap_eq_append_iff.mp listed
      obtain ⟨skipped, line, rest, rfl, unread, read, _⟩ := List.filterMap_eq_cons_iff.mp later
      rw [← List.append_assoc] at whole
      refine .own whole read named (List.forall_mem_append.mpr ⟨unnamed_iff.mp first, ?_⟩)
      intro earlier member other parsed
      rw [unread earlier member] at parsed
      cases parsed
    · rw [all_lines] at listed unnamed
      obtain ⟨skipped, line, rest, whole, unread, read, _⟩ := List.filterMap_eq_cons_iff.mp listed
      exact .stranger whole read unread (unnamed_iff.mp unnamed)
  · rintro (⟨listed, read, named, first⟩ | ⟨listed, read, first, unnamed⟩)
    · have records := all_lines output
      rw [listed, List.filterMap_append, List.filterMap_cons_some read] at records
      exact .own records named (unnamed_iff.mpr first)
    · have records := all_lines output
      rw [← unnamed_iff, ← records] at unnamed
      have skipped := List.filterMap_eq_nil_iff.mpr first
      rw [listed, List.filterMap_append, skipped, List.filterMap_cons_some read] at records
      exact .stranger records unnamed

theorem find?_none {output : String} : Record.find? output id = none ↔
    ∀ line ∈ Text.lines output.toList, Record.ofLine? line = none := by
  rw [find_none_iff, all_lines, List.filterMap_eq_nil_iff]

/-! ### Round trips -/

/-- The record can stand in a row: its texts are trimmed and hold no vertical bar, and only the exit code may be
empty. -/
structure Tabular (r : Record) : Prop where
  trimmed : ∀ text ∈ [r.jobId, r.rawState, r.exitCode], Text.trim text.toList = text.toList
  undivided : ∀ text ∈ [r.jobId, r.rawState, r.exitCode], '|' ∉ text.toList
  named : r.jobId ≠ ""
  stated : r.rawState ≠ ""

/-- The column holds the text, with blanks around it. -/
def Holds (text : String) (column : List Char) : Prop :=
  ∃ before after, column = before ++ text.toList ++ after ∧ (∀ c ∈ before, Text.isBlank c = true) ∧
    ∀ c ∈ after, Text.isBlank c = true

theorem holds_bare (text : String) : Holds text text.toList :=
  ⟨[], [], by simp, by simp, by simp⟩

/-- A record as one row of an answer: its three columns, and any further ones behind them. -/
inductive Row (r : Record) : List Char → Prop where
  | intro {jobId state code more : List Char} (id : Holds r.jobId jobId) (stated : Holds r.rawState state)
    (coded : Holds r.exitCode code) (further : more = [] ∨ more.head? = some '|') :
    Row r (jobId ++ '|' :: (state ++ '|' :: (code ++ more)))

/-- A column that holds a text without bars has none itself, and the text is what is left of it. -/
theorem holds_read {text : String} {column : List Char} (holds : Holds text column)
    (trimmed : Text.trim text.toList = text.toList) (undivided : '|' ∉ text.toList) :
    '|' ∉ column ∧ Text.trim column = text.toList := by
  obtain ⟨before, after, rfl, blankBefore, blankAfter⟩ := holds
  refine ⟨?_, (trim_padded blankBefore blankAfter).trans trimmed⟩
  simp only [List.mem_append, not_or]
  exact ⟨⟨blank_apart rfl blankBefore, undivided⟩, blank_apart rfl blankAfter⟩

theorem fields_further {column more : List Char} (free : separator ∉ column)
    (further : more = [] ∨ more.head? = some separator) :
    ∃ later, Text.fields separator (column ++ more) = column :: later := by
  obtain rfl | further := further
  · exact ⟨[], by rw [List.append_nil, fields_free free]⟩
  · obtain ⟨rest, rfl⟩ := List.head?_eq_some_iff.mp further
    exact ⟨_, fields_next free⟩

theorem row_read (tabular : Tabular r) (row : Row r line) : Record.ofLine? line = some r := by
  obtain ⟨trimmed, undivided, named, stated⟩ := tabular
  simp only [List.forall_mem_cons] at trimmed undivided
  cases row with
  | @intro jobId state code more id rawState exitCode further =>
    obtain ⟨idFree, idText⟩ := holds_read id trimmed.1 undivided.1
    obtain ⟨stateFree, stateText⟩ := holds_read rawState trimmed.2.1 undivided.2.1
    obtain ⟨codeFree, codeText⟩ := holds_read exitCode trimmed.2.2.1 undivided.2.2.1
    obtain ⟨later, columns⟩ := fields_further codeFree further
    rw [ofLine?_columns, fields_next idFree, fields_next stateFree, columns]
    simp [idText, stateText, codeText, named, stated]

/-- Whatever the accounting puts out, the record of a job is that of the first line with its id, and where no
line has it that of the first line that can be read; there is none only where no line can be read. Records that
are written as rows, among any lines that are none, are read back as they were: the job gets the first with
its id, and where none has it the first of all. -/
theorem answers_tell_the_first_of_their_job :
    (∀ output id : String,
      (∀ r, Record.find? output id = some r ↔ Speaks (Text.lines output.toList) id r) ∧
      (Record.find? output id = none ↔ ∀ line ∈ Text.lines output.toList, Record.ofLine? line = none)) ∧
    ∀ (entries : List Record) (lines : List (List Char)) (output id : String), (∀ r ∈ entries, Tabular r) →
      Among Record.ofLine? Row entries lines → Written lines output.toList →
      (∀ before r after, entries = before ++ r :: after → r.jobId = id → (∀ other ∈ before, other.jobId ≠ id) →
        Record.find? output id = some r) ∧
      ((∀ r ∈ entries, r.jobId ≠ id) → Record.find? output id = entries.head?) := by
  refine ⟨fun output id => ⟨fun r => find?_speaks, find?_none⟩, ?_⟩
  intro entries lines output id tabular among written
  have listed : Record.all output = entries := by
    rw [all_lines, ofLine?_indifferent.written written]
    exact among_read among fun r member line row => row_read (tabular r member) row
  constructor
  · rintro before r after rfl named first
    exact selected_iff.mp (.own listed named first)
  · intro unnamed
    cases entries with
    | nil => exact find_none_iff.mpr listed
    | cons r later => exact selected_iff.mp (.stranger listed (by rwa [listed]))

/-- Two tasks of an array between a heading and an empty line, the second in a row with further columns. -/
def arrayLines : List (List Char) :=
  ["JobID State".toList, " 77_2 |COMPLETED|0:0".toList, [], "77_1\t| CANCELLED by 5 ||node1|".toList]

theorem padded_row_is_read_back :
    Record.find? "JobID State\n 77_2 |COMPLETED|0:0\r\n\n77_1\t| CANCELLED by 5 ||node1|\r\n" "77_1" =
      some ⟨"77_1", "CANCELLED by 5", ""⟩ := by
  have written : Written arrayLines
      "JobID State\n 77_2 |COMPLETED|0:0\r\n\n77_1\t| CANCELLED by 5 ||node1|\r\n".toList :=
    .ended (by decide) (.returned (by decide) (.ended (by decide) (.returned (by decide) .done)))
  have space : ∀ c ∈ [' '], Text.isBlank c = true := by simp [Text.isBlank]
  have tab : ∀ c ∈ ['\t'], Text.isBlank c = true := by simp [Text.isBlank]
  have among : Among Record.ofLine? Row [⟨"77_2", "COMPLETED", "0:0"⟩, ⟨"77_1", "CANCELLED by 5", ""⟩]
      arrayLines := by
    refine .stray (by decide +kernel) (.entry ?_ (.stray rfl (.entry ?_ .done)))
    · have row : Row ⟨"77_2", "COMPLETED", "0:0"⟩
          (" 77_2 ".toList ++ '|' :: ("COMPLETED".toList ++ '|' :: ("0:0".toList ++ []))) :=
        .intro ⟨[' '], [' '], rfl, space, space⟩ (holds_bare _) (holds_bare _) (.inl rfl)
      exact row
    · have row : Row ⟨"77_1", "CANCELLED by 5", ""⟩
          ("77_1\t".toList ++ '|' :: (" CANCELLED by 5 ".toList ++ '|' :: ("".toList ++ "|node1|".toList))) :=
        .intro ⟨[], ['\t'], rfl, by simp, tab⟩ ⟨[' '], [' '], rfl, space, space⟩ (holds_bare _) (.inr rfl)
      exact row
  have tabular : ∀ r ∈ ([⟨"77_2", "COMPLETED", "0:0"⟩, ⟨"77_1", "CANCELLED by 5", ""⟩] : List Record),
      Tabular r := by
    simp only [List.forall_mem_cons]
    refine ⟨⟨by decide +kernel, by decide +kernel, by decide, by decide⟩,
      ⟨by decide +kernel, by decide +kernel, by decide, by decide⟩, by simp⟩
  exact (answers_tell_the_first_of_their_job.2 _ _ _ "77_1" tabular among written).1 [_] _ [] rfl rfl (by simp)

end RemoteJobs.Proofs.AccountingTables
