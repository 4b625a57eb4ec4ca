import RemoteJobs.Listing.Record
import Mathlib.Data.Nat.Digits.Defs

/-! The lines that hold a process record. Columns of digits and runs of blanks cannot be mistaken for each
other, so a line falls into columns in one way at most, and reading it from the left finds that way. -/
namespace RemoteJobs.Proofs.ProcessLines
open Listing

variable {line s digits body kept a b a' b' : List Char} {p : Char → Bool} {limit n : Nat} {r : Record}

/-! ### Runs of characters -/

/-- The text does not begin with a character of the kind. -/
def Stops (p : Char → Bool) (s : List Char) : Prop :=
  ∀ c ∈ s.head?, p c = false

theorem stops_append (nonempty : a ≠ []) (others : ∀ c ∈ a, p c = false) : Stops p (a ++ b) := by
  obtain ⟨first, more, rfl⟩ := List.exists_cons_of_ne_nil nonempty
  simpa [Stops] using others first

theorem stops_dropWhile (s : List Char) : Stops p (s.dropWhile p) := by
  intro c first
  have stop := List.head?_dropWhile_not p s
  rw [first] at stop
  exact stop

theorem run_taken (s : List Char) : ∀ c ∈ s.takeWhile p, p c = true :=
  List.all_eq_true.mp List.all_takeWhile

theorem dropWhile_stopped (stop : Stops p b) : b.dropWhile p = b ∧ b.takeWhile p = [] := by
  cases b with
  | nil => exact ⟨rfl, rfl⟩
  | cons c rest =>
    have other : p c = false := stop c rfl
    simp [other]

theorem run_split (run : ∀ c ∈ a, p c = true) (stop : Stops p b) :
    (a ++ b).takeWhile p = a ∧ (a ++ b).dropWhile p = b := by
  obtain ⟨kept, cut⟩ := dropWhile_stopped stop
  rw [List.takeWhile_append_of_pos run, List.dropWhile_append_of_pos run, kept, cut, List.append_nil]
  exact ⟨rfl, rfl⟩

/-- A text is cut in one way into a run and what stops the run. -/
theorem run_unique (run : ∀ c ∈ a, p c = true) (stop : Stops p b) (run' : ∀ c ∈ a', p c = true)
    (stop' : Stops p b') (same : a ++ b = a' ++ b') : a = a' ∧ b = b' := by
  obtain ⟨taken, left⟩ := run_split run stop
  obtain ⟨taken', left'⟩ := run_split run' stop'
  rw [same] at taken left
  exact ⟨taken.symm.trans taken', left.symm.trans left'⟩

/-! ### Columns -/

def asciiBlanks : List Char :=
  ['\t', '\n', '\x0b', '\x0c', '\r', ' ']

def Blank (s : List Char) : Prop :=
  ∀ c ∈ s, c ∈ asciiBlanks

def Numeral (s : List Char) : Prop :=
  s ≠ [] ∧ ∀ c ∈ s, '0' ≤ c ∧ c ≤ '9'

/-- The number that a run of digits denotes. -/
def value (numeral : List Char) : Nat :=
  Nat.ofDigits 10 (numeral.reverse.map fun c => c.toNat - '0'.toNat)

@[simp] theorem isAsciiBlank_iff (c : Char) : Text.isAsciiBlank c = true ↔ c ∈ asciiBlanks := by
  simp only [Text.isAsciiBlank, asciiBlanks, Bool.or_eq_true, Bool.and_eq_true, decide_eq_true_eq, beq_iff_eq,
    List.mem_cons, ← Char.toNat_inj, Char.reduceToNat, List.not_mem_nil, or_false]
  omega

theorem isDigit_iff (c : Char) : c.isDigit = true ↔ '0' ≤ c ∧ c ≤ '9' := by
  simp [Char.isDigit, Char.le_def]

theorem numeral_run (numeral : Numeral s) : ∀ c ∈ s, c.isDigit = true :=
  fun c member => (isDigit_iff c).mpr (numeral.2 c member)

@[simp] theorem digitsValue_eq (numeral : List Char) : Text.digitsValue numeral = value numeral := by
  rw [value, Nat.ofDigits_eq_foldr, List.foldr_map, List.foldr_reverse, Text.digitsValue]
  congr 1
  funext n c
  exact Nat.add_comm ..

/-- A run of digits is read as the number it denotes, if that is below the limit. -/
theorem readUnsigned?_iff (numeral : Numeral s) :
    Text.readUnsigned? limit s = some n ↔ value s = n ∧ n < limit := by
  have unsigned : ∀ rest, s ≠ '+' :: rest := by
    rintro rest rfl
    have sign := numeral.2 '+' (by simp)
    revert sign
    decide
  have digits : Text.readDigits? s = some (value s) := by
    simpa [Text.readDigits?, numeral.1] using numeral_run numeral
  have plain : Text.readUnsigned? limit s = if value s < limit then some (value s) else none := by
    unfold Text.readUnsigned?
    split
    · exact absurd rfl (unsigned _)
    · dsimp only
      rw [digits]
  rw [plain, Option.ite_none_right_eq_some, Option.some.injEq, and_comm]
  exact and_congr_right fun same => by rw [same]

theorem blank_run (blank : Blank s) : ∀ c ∈ s, Text.isAsciiBlank c = true :=
  fun c member => (isAsciiBlank_iff c).mpr (blank c member)

theorem digit_not_blank {c : Char} (digit : c.isDigit = true) : Text.isAsciiBlank c = false := by
  rw [Bool.eq_false_iff, ne_eq, isAsciiBlank_iff]
  intro blank
  simp only [asciiBlanks, List.mem_cons, List.not_mem_nil, or_false] at blank
  rcases blank with rfl | rfl | rfl | rfl | rfl | rfl <;> cases digit

theorem numeral_stops (numeral : Numeral a) : Stops Text.isAsciiBlank (a ++ b) :=
  stops_append numeral.1 fun c member => digit_not_blank (numeral_run numeral c member)

theorem blank_stops (nonempty : a ≠ []) (blank : Blank a) : Stops Char.isDigit (a ++ b) := by
  refine stops_append nonempty fun c member => ?_
  by_contra digit
  have stays := digit_not_blank (Bool.not_eq_false _ ▸ digit)
  rw [blank_run blank c member] at stays
  cases stays

/-- Digits, then at least one blank, then a text that does not go on with a blank. -/
structure Column (s digits gap rest : List Char) : Prop where
  whole : s = digits ++ (gap ++ rest)
  numeral : Numeral digits
  blank : gap ≠ [] ∧ Blank gap
  lead : Stops Text.isAsciiBlank rest

theorem column_unique {gap rest digits' gap' rest' : List Char} (column : Column s digits gap rest)
    (other : Column s digits' gap' rest') : digits = digits' ∧ gap = gap' ∧ rest = rest' := by
  have same := column.whole.symm.trans other.whole
  obtain ⟨digits, same⟩ := run_unique (numeral_run column.numeral)
    (blank_stops column.blank.1 column.blank.2) (numeral_run other.numeral)
    (blank_stops other.blank.1 other.blank.2) same
  exact ⟨digits, run_unique (blank_run column.blank.2) column.lead (blank_run other.blank.2) other.lead same⟩

theorem column?_iff : column? s = some (digits, body) ↔ ∃ gap, Column s digits gap body := by
  constructor
  · intro read
    unfold column? at read
    dsimp only at read
    split at read
    · cases read
    · rename_i room
      cases read
      simp only [Bool.or_eq_true, List.isEmpty_iff, decide_eq_true_eq, not_or] at room
      refine ⟨(s.dropWhile Char.isDigit).takeWhile Text.isAsciiBlank, ?_, ⟨room.1, ?_⟩, ⟨?_, ?_⟩,
        stops_dropWhile _⟩
      · rw [List.takeWhile_append_dropWhile, List.takeWhile_append_dropWhile]
      · exact fun c member => (isDigit_iff c).mp (run_taken s c member)
      · intro missing
        have whole := List.takeWhile_append_dropWhile (p := Text.isAsciiBlank) (l := s.dropWhile Char.isDigit)
        rw [missing, List.nil_append] at whole
        exact room.2 (congrArg List.length whole)
      · exact fun c member => (isAsciiBlank_iff c).mp (run_taken _ c member)
  · rintro ⟨gap, rfl, numeral, blank, lead⟩
    obtain ⟨taken, left⟩ := run_split (numeral_run numeral) (blank_stops (b := body) blank.1 blank.2)
    obtain ⟨_, rest⟩ := run_split (blank_run blank.2) lead
    simp [column?, taken, left, rest, numeral.1, blank.1]

/-! ### The text of a record -/

/-- The run at the end of a text is taken off, and no more. -/
theorem endRun_iff : (s.reverse.dropWhile p).reverse = kept ↔
    (∃ run, s = kept ++ run ∧ ∀ c ∈ run, p c = true) ∧ ∀ c ∈ kept.getLast?, p c = false := by
  constructor
  · rintro rfl
    have whole : s = (s.reverse.dropWhile p).reverse ++ (s.reverse.takeWhile p).reverse := by
      rw [← List.reverse_append, List.takeWhile_append_dropWhile, List.reverse_reverse]
    refine ⟨⟨_, whole, fun c member => run_taken _ c (List.mem_reverse.mp member)⟩, ?_⟩
    rw [List.getLast?_reverse]
    exact stops_dropWhile _
  · rintro ⟨⟨run, rfl, taken⟩, stop⟩
    rw [← List.head?_reverse] at stop
    have cut := (run_split (fun c member => taken c (List.mem_reverse.mp member)) stop).2
    rw [List.reverse_append, cut, List.reverse_reverse]

/-- Trimming takes the blanks off the end and no more. -/
theorem trimEnd_iff : Text.trimEnd s = kept ↔
    (∃ blanks, s = kept ++ blanks ∧ ∀ c ∈ blanks, Text.isBlank c = true) ∧
      ∀ c ∈ kept.getLast?, Text.isBlank c = false :=
  endRun_iff

/-! ### Lines -/

/-- A line in columns: an indent, two runs of digits, each with a gap behind it, and the text that is left. -/
@[ext]
structure Columns (line : List Char) where
  indent : List Char
  pid : List Char
  gap : List Char
  ppid : List Char
  space : List Char
  body : List Char
  whole : line = indent ++ pid ++ gap ++ ppid ++ space ++ body
  indent_blank : Blank indent
  pid_numeral : Numeral pid
  gap_blank : gap ≠ [] ∧ Blank gap
  ppid_numeral : Numeral ppid
  space_blank : space ≠ [] ∧ Blank space
  body_lead : ∀ c ∈ body.head?, c ∉ asciiBlanks
  body_line : '\n' ∉ body

/-- The columns hold the record: its ids in digits, and its text without the blanks at its end. -/
structure Columns.Hold (columns : Columns line) (r : Record) : Prop where
  pid : value columns.pid = r.pid ∧ r.pid < 2 ^ 32
  ppid : value columns.ppid = r.ppid ∧ r.ppid < 2 ^ 32
  rest : ∃ blanks, columns.body = r.rest.toList ++ blanks ∧ ∀ c ∈ blanks, Text.isBlank c = true
  trimmed : ∀ c ∈ r.rest.toList.getLast?, Text.isBlank c = false
  filled : r.rest ≠ ""

namespace Columns

theorem indented (columns : Columns line) : line = columns.indent ++
    (columns.pid ++ (columns.gap ++ (columns.ppid ++ (columns.space ++ columns.body)))) := by
  simpa using columns.whole

theorem first (columns : Columns line) :
    Column (columns.pid ++ (columns.gap ++ (columns.ppid ++ (columns.space ++ columns.body)))) columns.pid
      columns.gap (columns.ppid ++ (columns.space ++ columns.body)) :=
  ⟨rfl, columns.pid_numeral, columns.gap_blank, numeral_stops columns.ppid_numeral⟩

theorem second (columns : Columns line) :
    Column (columns.ppid ++ (columns.space ++ columns.body)) columns.ppid columns.space columns.body :=
  ⟨rfl, columns.ppid_numeral, columns.space_blank, fun c lead =>
    Bool.eq_false_iff.mpr fun blank => columns.body_lead c lead ((isAsciiBlank_iff c).mp blank)⟩

end Columns

theorem columns_unique (columns other : Columns line) : columns = other := by
  have same := columns.indented.symm.trans other.indented
  obtain ⟨indent, same⟩ := run_unique (blank_run columns.indent_blank) (numeral_stops columns.pid_numeral)
    (blank_run other.indent_blank) (numeral_stops other.pid_numeral) same
  have first := columns.first
  rw [same] at first
  obtain ⟨pid, gap, same⟩ := column_unique first other.first
  have second := columns.second
  rw [same] at second
  obtain ⟨ppid, space, body⟩ := column_unique second other.second
  exact Columns.ext indent pid gap ppid space body

/-- The steps in which a line is read. -/
theorem ofLine?_steps : Record.ofLine? line = some r ↔ ∃ pid later ppid body,
    column? (line.dropWhile Text.isAsciiBlank) = some (pid, later) ∧ column? later = some (ppid, body) ∧
      '\n' ∉ body ∧ Text.readUnsigned? pidLimit pid = some r.pid ∧
      Text.readUnsigned? pidLimit ppid = some r.ppid ∧ Text.trimEnd body = r.rest.toList ∧ r.rest ≠ "" := by
  simp only [Record.ofLine?, Option.bind_eq_bind, Option.bind_eq_some_iff, Prod.exists,
    Option.ite_none_left_eq_some, Option.some.injEq, List.contains_iff_mem, List.isEmpty_iff]
  constructor
  · rintro ⟨pid, later, first, ppid, body, second, single, _, pidRead, _, ppidRead, filled, rfl⟩
    exact ⟨pid, later, ppid, body, first, second, single, pidRead, ppidRead, by simp, by simpa using filled⟩
  · rintro ⟨pid, later, ppid, body, first, second, single, pidRead, ppidRead, trimmed, filled⟩
    refine ⟨pid, later, first, ppid, body, second, single, _, pidRead, _, ppidRead, ?_, ?_⟩
    · rw [trimmed]
      simpa using filled
    · rw [trimmed, String.ofList_toList]

theorem ofLine?_iff : Record.ofLine? line = some r ↔ ∃ columns : Columns line, columns.Hold r := by
  rw [ofLine?_steps]
  constructor
  · rintro ⟨pid, later, ppid, body, first, second, single, pidRead, ppidRead, trimmed, filled⟩
    obtain ⟨gap, first⟩ := column?_iff.mp first
    obtain ⟨space, second⟩ := column?_iff.mp second
    obtain ⟨blanks, ends⟩ := trimEnd_iff.mp trimmed
    have whole := List.takeWhile_append_dropWhile (p := Text.isAsciiBlank) (l := line)
    rw [first.whole, second.whole] at whole
    refine ⟨⟨_, pid, gap, ppid, space, body, by simpa using whole.symm, ?_, first.numeral, first.blank,
      second.numeral, second.blank, ?_, single⟩, ?_⟩
    · exact fun c member => (isAsciiBlank_iff c).mp (run_taken _ c member)
    · intro c lead blank
      rw [← isAsciiBlank_iff, second.lead c lead] at blank
      cases blank
    · exact ⟨(readUnsigned?_iff first.numeral).mp pidRead, (readUnsigned?_iff second.numeral).mp ppidRead,
        blanks, ends, filled⟩
  · rintro ⟨columns, hold⟩
    have left : line.dropWhile Text.isAsciiBlank =
        columns.pid ++ (columns.gap ++ (columns.ppid ++ (columns.space ++ columns.body))) :=
      (congrArg _ columns.indented).trans
        (run_split (blank_run columns.indent_blank) (numeral_stops columns.pid_numeral)).2
    rw [left]
    exact ⟨columns.pid, _, columns.ppid, columns.body, column?_iff.mpr ⟨_, columns.first⟩,
      column?_iff.mpr ⟨_, columns.second⟩, columns.body_line,
      (readUnsigned?_iff columns.pid_numeral).mpr hold.pid,
      (readUnsigned?_iff columns.ppid_numeral).mpr hold.ppid, trimEnd_iff.mpr ⟨hold.rest, hold.trimmed⟩,
      hold.filled⟩

/-- A line is read as a record exactly where it falls into columns that hold the record, which it does in one
way at most. -/
theorem lines_follow_grammar (line : List Char) :
    (∀ r, Record.ofLine? line = some r ↔ ∃ columns : Columns line, columns.Hold r) ∧
      (∀ columns other : Columns line, columns = other) ∧
      (Record.ofLine? line = none ↔ ∀ (columns : Columns line) (r : Record), ¬columns.Hold r) := by
  refine ⟨fun r => ofLine?_iff, columns_unique, ?_⟩
  simp only [Option.eq_none_iff_forall_ne_some, ne_eq, ofLine?_iff, not_exists]
  exact forall_comm

example : Record.ofLine? "\t007\x0b 1  S  a b\u00a0 ".toList = some ⟨7, 1, "S  a b"⟩ := by decide +kernel

end RemoteJobs.Proofs.ProcessLines
