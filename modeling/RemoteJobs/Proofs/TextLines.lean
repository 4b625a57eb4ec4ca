import RemoteJobs.Text.Blank
import RemoteJobs.Text.Layout
import Mathlib.Data.List.TakeWhile

/-! Texts that are read line by line. A reader that passes over blank lines and takes no notice of a carriage
return at the end of a line gets the same from a text however its lines are ended, and a line that it cannot
read makes no difference to the others. -/
namespace RemoteJobs.Proofs.TextLines

variable {α : Type} {read : List Char → Option α} {writes : α → List Char → Prop} {entries : List α}
  {lines : List (List Char)} {line text rest before after s : List Char}

/-! ### Blanks around a text -/

theorem trimEnd_blank_iff : Text.trimEnd s = [] ↔ ∀ c ∈ s, Text.isBlank c = true := by
  simp [Text.trimEnd, List.dropWhile_eq_nil_iff]

theorem trim_blank_iff : Text.trim s = [] ↔ ∀ c ∈ s, Text.isBlank c = true := by
  rw [Text.trim, trimEnd_blank_iff, Text.trimStart]
  constructor
  · intro blank
    cases left : s.dropWhile Text.isBlank with
    | nil => exact List.dropWhile_eq_nil_iff.mp left
    | cons c more =>
      have stop := List.head?_dropWhile_not Text.isBlank s
      rw [left] at blank stop
      have other : Text.isBlank c = false := stop
      rw [blank c List.mem_cons_self] at other
      cases other
  · exact fun blank c member => blank c ((List.dropWhile_suffix _).subset member)

theorem trimEnd_append (blank : ∀ c ∈ after, Text.isBlank c = true) :
    Text.trimEnd (s ++ after) = Text.trimEnd s := by
  rw [Text.trimEnd, List.reverse_append,
    List.dropWhile_append_of_pos fun c member => blank c (List.mem_reverse.mp member), Text.trimEnd]

/-- Blanks on either side of a text are trimmed away with its own. -/
theorem trim_padded (blankBefore : ∀ c ∈ before, Text.isBlank c = true)
    (blankAfter : ∀ c ∈ after, Text.isBlank c = true) : Text.trim (before ++ s ++ after) = Text.trim s := by
  have start : Text.trimStart (before ++ s ++ after) = Text.trimStart (s ++ after) := by
    rw [Text.trimStart, List.append_assoc, List.dropWhile_append_of_pos blankBefore, Text.trimStart]
  rw [Text.trim, start, Text.trimStart, List.dropWhile_append]
  split
  · rename_i nothing
    have blank : Text.trim s = [] := trim_blank_iff.mpr (List.dropWhile_eq_nil_iff.mp (by simpa using nothing))
    have left : after.dropWhile Text.isBlank = [] := List.dropWhile_eq_nil_iff.mpr blankAfter
    rw [left, blank]
    rfl
  · exact trimEnd_append blankAfter

theorem trim_lead (blank : ∀ c ∈ before, Text.isBlank c = true) :
    Text.trim (before ++ s) = Text.trim s := by
  have padded : Text.trim (before ++ s ++ []) = Text.trim s := trim_padded blank (by simp)
  rwa [List.append_nil] at padded

theorem trim_end (blank : ∀ c ∈ after, Text.isBlank c = true) : Text.trim (s ++ after) = Text.trim s := by
  have padded : Text.trim ([] ++ s ++ after) = Text.trim s := trim_padded (by simp) blank
  rwa [List.nil_append] at padded

/-- A text is what trimming leaves of it, with blanks around. -/
theorem trim_split (s : List Char) : ∃ before after, s = before ++ Text.trim s ++ after ∧
    (∀ c ∈ before, Text.isBlank c = true) ∧ ∀ c ∈ after, Text.isBlank c = true := by
  refine ⟨s.takeWhile Text.isBlank, ((Text.trimStart s).reverse.takeWhile Text.isBlank).reverse, ?_, ?_, ?_⟩
  · rw [Text.trim, Text.trimEnd, List.append_assoc, ← List.reverse_append, List.takeWhile_append_dropWhile,
      List.reverse_reverse, Text.trimStart, List.takeWhile_append_dropWhile]
  · exact List.all_eq_true.mp List.all_takeWhile
  · intro c member
    exact List.all_eq_true.mp List.all_takeWhile c (List.mem_reverse.mp member)

/-! ### Lines -/

/-- A line without the carriage return at its end, if there is one. -/
def shorn (line : List Char) : List Char :=
  if line.getLast? = some '\r' then line.dropLast else line

theorem shorn_cons (c d : Char) (line : List Char) : shorn (c :: d :: line) = c :: shorn (d :: line) := by
  unfold shorn
  rw [List.getLast?_cons_cons]
  split <;> rfl

/-- A newline ends the first line of a text. -/
theorem lines_ended (single : '\n' ∉ line) :
    Text.lines (line ++ '\n' :: rest) = shorn line :: Text.lines rest := by
  induction line with
  | nil => rfl
  | cons c line ih =>
    rw [List.mem_cons, not_or] at single
    have later := ih single.2
    cases line with
    | nil =>
      by_cases returned : c = '\r'
      · subst returned
        rfl
      · rw [List.cons_append, Text.lines.eq_4 _ _ (Ne.symm single.1) (by rintro _ rfl; exact absurd rfl returned)]
        rw [later]
        simp [shorn, returned]
    | cons d line =>
      have onward : d ≠ '\n' := fun same => single.2 (by simp [same])
      rw [shorn_cons, List.cons_append,
        Text.lines.eq_4 _ _ (Ne.symm single.1) (by rintro _ _ same; exact onward (List.cons.inj same).1)]
      rw [later]

theorem lines_single (single : '\n' ∉ line) : Text.lines line = if line = [] then [] else [line] := by
  induction line with
  | nil => rfl
  | cons c line ih =>
    rw [List.mem_cons, not_or] at single
    rw [Text.lines.eq_4 _ _ (Ne.symm single.1) (by rintro rest _ rfl; simp at single), ih single.2]
    cases line <;> rfl

/-- A text written line by line. A newline ends a line, with or without a carriage return before it, and the
last line may have no end. -/
inductive Written : List (List Char) → List Char → Prop where
  | done : Written [] []
  | unended {line : List Char} (single : '\n' ∉ line) : Written [line] line
  | ended {line rest : List Char} {lines : List (List Char)} (single : '\n' ∉ line)
    (later : Written lines rest) : Written (line :: lines) (line ++ '\n' :: rest)
  | returned {line rest : List Char} {lines : List (List Char)} (single : '\n' ∉ line)
    (later : Written lines rest) : Written (line :: lines) (line ++ '\r' :: '\n' :: rest)

/-- Every text is written line by line. -/
theorem exists_written (text : List Char) : ∃ lines, Written lines text := by
  induction text with
  | nil => exact ⟨[], .done⟩
  | cons c text ih =>
    obtain ⟨lines, written⟩ := ih
    by_cases newline : c = '\n'
    · subst newline
      exact ⟨[] :: lines, (.ended List.not_mem_nil written : Written ([] :: lines) ([] ++ '\n' :: text))⟩
    · have longer {line : List Char} (single : '\n' ∉ line) : '\n' ∉ c :: line := by
        simp [single, Ne.symm newline]
      cases written with
      | done => exact ⟨[[c]], .unended (longer List.not_mem_nil)⟩
      | unended single => exact ⟨_, .unended (longer single)⟩
      | @ended line rest lines single later =>
        exact ⟨(c :: line) :: lines, .ended (longer single) later⟩
      | @returned line rest lines single later =>
        exact ⟨(c :: line) :: lines, .returned (longer single) later⟩

/-! ### Readers -/

/-- The reader passes over blank lines and takes no notice of a carriage return at the end of a line. -/
structure Indifferent (read : List Char → Option α) : Prop where
  blank : ∀ line, Text.trim line = [] → read line = none
  returned : ∀ line, read (line ++ ['\r']) = read line

namespace Indifferent

theorem shorn (indifferent : Indifferent read) (line : List Char) : read (shorn line) = read line := by
  unfold TextLines.shorn
  split
  · rename_i last
    obtain ⟨kept, rfl⟩ := List.getLast?_eq_some_iff.mp last
    rw [List.dropLast_concat, indifferent.returned]
  · rfl

theorem empty (indifferent : Indifferent read) : read [] = none :=
  indifferent.blank [] rfl

theorem single (indifferent : Indifferent read) (single : '\n' ∉ line) :
    (Text.lines line).filterMap read = [line].filterMap read := by
  rw [lines_single single]
  split
  · rename_i nothing
    simp [nothing, indifferent.empty]
  · rfl

theorem ended (indifferent : Indifferent read) (single : '\n' ∉ line) :
    (Text.lines (line ++ '\n' :: rest)).filterMap read =
      [line].filterMap read ++ (Text.lines rest).filterMap read := by
  rw [lines_ended single, ← List.singleton_append, List.filterMap_append]
  simp only [List.filterMap_cons, indifferent.shorn]

theorem carriage (indifferent : Indifferent read) (single : '\n' ∉ line) :
    (Text.lines (line ++ '\r' :: '\n' :: rest)).filterMap read =
      [line].filterMap read ++ (Text.lines rest).filterMap read := by
  have whole : line ++ '\r' :: '\n' :: rest = (line ++ ['\r']) ++ '\n' :: rest := by simp
  rw [whole, indifferent.ended (by simp [single])]
  simp only [List.filterMap_cons, indifferent.returned]

/-- Whatever ends the lines of a text, the reader gets what it would get from the lines alone. -/
theorem written (indifferent : Indifferent read) (written : Written lines text) :
    (Text.lines text).filterMap read = lines.filterMap read := by
  induction written with
  | done => rfl
  | unended single => exact indifferent.single single
  | ended single _ ih =>
    rw [indifferent.ended single, ih, ← List.filterMap_append]
    rfl
  | returned single _ ih =>
    rw [indifferent.carriage single, ih, ← List.filterMap_append]
    rfl

/-- What stands before a newline and what stands behind it are read apart. Induction on the lines before. -/
theorem split (indifferent : Indifferent read) (text rest : List Char) :
    (Text.lines (text ++ '\n' :: rest)).filterMap read =
      (Text.lines text).filterMap read ++ (Text.lines rest).filterMap read := by
  obtain ⟨lines, written⟩ := exists_written text
  induction written with
  | done =>
    have first : (Text.lines ([] ++ '\n' :: rest)).filterMap read =
        [[]].filterMap read ++ (Text.lines rest).filterMap read := indifferent.ended List.not_mem_nil
    rwa [List.filterMap_cons_none indifferent.empty] at first
  | unended single => rw [indifferent.ended single, indifferent.single single]
  | ended single _ ih =>
    rw [List.append_assoc, List.cons_append, indifferent.ended single, ih, indifferent.ended single,
      List.append_assoc]
  | returned single _ ih =>
    rw [List.append_assoc, List.cons_append, List.cons_append, indifferent.carriage single, ih,
      indifferent.carriage single, List.append_assoc]

/-- To leave out blank lines first makes no difference. -/
theorem nonblank (indifferent : Indifferent read) (lines : List (List Char)) :
    (lines.filter fun line => !(Text.trim line).isEmpty).filterMap read = lines.filterMap read := by
  induction lines with
  | nil => rfl
  | cons line lines ih =>
    by_cases blank : Text.trim line = []
    · rw [List.filter_cons_of_neg (by simp [blank]), List.filterMap_cons_none (indifferent.blank line blank), ih]
    · rw [List.filter_cons_of_pos (by simpa using blank), List.filterMap_cons, List.filterMap_cons, ih]

end Indifferent

/-! ### Entries among other lines -/

/-- The lines hold the entries in order, one to a line, among lines that cannot be read. -/
inductive Among (read : List Char → Option α) (writes : α → List Char → Prop) :
    List α → List (List Char) → Prop where
  | done : Among read writes [] []
  | entry {entry : α} {entries : List α} {line : List Char} {lines : List (List Char)}
    (holds : writes entry line) (later : Among read writes entries lines) :
    Among read writes (entry :: entries) (line :: lines)
  | stray {entries : List α} {line : List Char} {lines : List (List Char)} (rejected : read line = none)
    (later : Among read writes entries lines) : Among read writes entries (line :: lines)

/-- Lines that cannot be read make no difference to the entries among them. -/
theorem among_read (among : Among read writes entries lines)
    (reads : ∀ entry ∈ entries, ∀ line, writes entry line → read line = some entry) :
    lines.filterMap read = entries := by
  induction among with
  | done => rfl
  | entry holds _ ih =>
    rw [List.forall_mem_cons] at reads
    rw [List.filterMap_cons_some (reads.1 _ holds), ih reads.2]
  | stray rejected _ ih => rw [List.filterMap_cons_none rejected, ih reads]

end RemoteJobs.Proofs.TextLines
