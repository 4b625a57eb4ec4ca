import RemoteJobs.Proofs.ProcessLines
import RemoteJobs.Proofs.TextLines

/-! Listings that are written and read back. A record that a line can show at all comes back as it was, whatever
spaces and tabs stand around its columns, however the lines are ended and whatever else is listed. -/
namespace RemoteJobs.Proofs.ListingRoundTrips
open Listing TextLines ProcessLines

variable {line lead blanks : List Char} {r : Record} {n : Nat}

/-! ### Lines that show a record -/

/-- The record can stand on a line: its ids are process ids, and its text is neither empty nor broken, and does
not begin or end with a blank that belongs to no text. -/
structure Listable (r : Record) : Prop where
  pid : r.pid < 2 ^ 32
  ppid : r.ppid < 2 ^ 32
  filled : r.rest ≠ ""
  single : '\n' ∉ r.rest.toList
  lead : ∀ c ∈ r.rest.toList.head?, c ∉ asciiBlanks
  last : ∀ c ∈ r.rest.toList.getLast?, Text.isBlank c = false

/-- What stands before the text of a record: an indent and its two ids, with blanks behind each. -/
structure Leads (r : Record) (indent pid gap ppid space : List Char) : Prop where
  indent : Blank indent
  pid : Numeral pid ∧ value pid = r.pid
  gap : gap ≠ [] ∧ Blank gap
  ppid : Numeral ppid ∧ value ppid = r.ppid
  space : space ≠ [] ∧ Blank space

/-- The line shows the record, with blanks behind its text. -/
inductive Shows (r : Record) : List Char → Prop where
  | intro {indent pid gap ppid space blanks : List Char} (leads : Leads r indent pid gap ppid space)
    (blank : ∀ c ∈ blanks, Text.isBlank c = true) (single : '\n' ∉ blanks) :
    Shows r (indent ++ pid ++ gap ++ ppid ++ space ++ (r.rest.toList ++ blanks))

theorem head_append {first : List Char} (filled : first ≠ []) (later : List Char) :
    (first ++ later).head? = first.head? := by
  obtain ⟨c, more, rfl⟩ := List.exists_cons_of_ne_nil filled
  rfl

theorem rest_filled (filled : r.rest ≠ "") : r.rest.toList ≠ [] :=
  fun nothing => filled (String.toList_eq_nil_iff.mp nothing)

/-- A line is read as a record exactly where it shows it. -/
theorem ofLine?_shows : Record.ofLine? line = some r ↔ Listable r ∧ Shows r line := by
  rw [ofLine?_iff]
  constructor
  · rintro ⟨columns, hold⟩
    obtain ⟨blanks, body, blank⟩ := hold.rest
    have single := columns.body_line
    rw [body, List.mem_append, not_or] at single
    have begun := columns.body_lead
    rw [body, head_append (rest_filled hold.filled)] at begun
    refine ⟨⟨hold.pid.2, hold.ppid.2, hold.filled, single.1, begun, hold.trimmed⟩, ?_⟩
    rw [columns.whole, body]
    exact .intro ⟨columns.indent_blank, ⟨columns.pid_numeral, hold.pid.1⟩, columns.gap_blank,
      ⟨columns.ppid_numeral, hold.ppid.1⟩, columns.space_blank⟩ blank single.2
  · rintro ⟨listable, shows⟩
    cases shows with
    | @intro indent pid gap ppid space blanks leads blank single =>
      refine ⟨⟨indent, pid, gap, ppid, space, r.rest.toList ++ blanks, rfl, leads.indent, leads.pid.1,
        leads.gap, leads.ppid.1, leads.space, ?_, by simp [listable.single, single]⟩, ?_⟩
      · rw [head_append (rest_filled listable.filled)]
        exact listable.lead
      · exact ⟨⟨leads.pid.2, listable.pid⟩, ⟨leads.ppid.2, listable.ppid⟩, ⟨blanks, rfl, blank⟩, listable.last,
          listable.filled⟩

/-! ### What the reading of a listing takes no notice of -/

theorem digit_visible {c : Char} (digit : c.isDigit = true) : Text.isBlank c = false := by
  obtain ⟨low, high⟩ := (isDigit_iff c).mp digit
  have low : 48 ≤ c.toNat := low
  have high : c.toNat ≤ 57 := high
  simp only [Text.isBlank, Bool.or_eq_false_iff, Bool.and_eq_false_iff, decide_eq_false_iff_not,
    beq_eq_false_iff_ne]
  omega

theorem blank_rejected (line : List Char) (blank : Text.trim line = []) : Record.ofLine? line = none := by
  rw [Option.eq_none_iff_forall_ne_some]
  intro r read
  obtain ⟨_, shows⟩ := ofLine?_shows.mp read
  cases shows with
  | @intro indent pid gap ppid space blanks leads =>
    obtain ⟨c, more, rfl⟩ := List.exists_cons_of_ne_nil leads.pid.1.1
    have visible := digit_visible (numeral_run leads.pid.1 c List.mem_cons_self)
    rw [trim_blank_iff.mp blank c (by simp)] at visible
    cases visible

/-- A carriage return behind a record is one more blank. -/
theorem shows_return (listable : Listable r) : Shows r (line ++ ['\r']) ↔ Shows r line := by
  constructor
  · generalize whole : line ++ ['\r'] = long
    rintro @⟨indent, pid, gap, ppid, space, blanks, leads, blank, single⟩
    rcases List.eq_nil_or_concat blanks with rfl | ⟨kept, last, rfl⟩
    · -- the text would end with the carriage return, which is a blank
      have last := List.getLast?_eq_some_getLast (rest_filled listable.filled)
      have ends := congrArg List.getLast? whole
      rw [List.append_nil, List.getLast?_concat, List.getLast?_append, last] at ends
      have visible := listable.last '\r' (last.trans ends.symm)
      cases visible
    · rw [List.concat_eq_append, ← List.append_assoc, ← List.append_assoc] at whole
      obtain ⟨rfl, _⟩ := List.append_inj' whole rfl
      rw [List.append_assoc]
      rw [List.concat_eq_append, List.mem_append, not_or] at single
      exact .intro leads (fun c member => blank c (by simp [member])) single.1
  · rintro @⟨indent, pid, gap, ppid, space, blanks, leads, blank, single⟩
    have longer : '\n' ∉ blanks ++ ['\r'] := by simp [single]
    rw [List.append_assoc, List.append_assoc r.rest.toList]
    refine .intro leads (fun c member => ?_) longer
    obtain member | member := List.mem_append.mp member
    · exact blank c member
    · rw [List.mem_singleton.mp member]
      rfl

theorem return_ignored (line : List Char) : Record.ofLine? (line ++ ['\r']) = Record.ofLine? line := by
  refine Option.ext fun r => ?_
  rw [ofLine?_shows, ofLine?_shows]
  exact and_congr_right shows_return

theorem ofLine?_indifferent : Indifferent Record.ofLine? where
  blank := blank_rejected
  returned := return_ignored

/-- A listing is read line by line. -/
theorem records_lines (listing : String) :
    records listing = (Text.lines listing.toList).filterMap Record.ofLine? :=
  ofLine?_indifferent.nonblank _

/-! ### Round trips -/

theorem decimal_numeral (n : Nat) : Numeral (toString n).toList ∧ value (toString n).toList = n := by
  have digits : (toString n).toList = Nat.toDigits 10 n := Nat.toList_repr
  rw [digits, ← digitsValue_eq]
  refine ⟨⟨Nat.toDigits_ne_nil, fun c member => ?_⟩, Nat.ofDigitChars_toDigits (by decide) (by decide)⟩
  exact (isDigit_iff c).mp (Nat.isDigit_of_mem_toDigits (by decide) (by decide) member)

/-- Spaces and tabs. -/
def Padding (s : List Char) : Prop :=
  ∀ c ∈ s, c = ' ' ∨ c = '\t'

theorem padding_blank {s : List Char} (padding : Padding s) : Blank s := by
  intro c member
  obtain rfl | rfl := padding c member <;> decide

/-- A record as one line of a listing: both ids in decimal and the text, with spaces and tabs between them and
any others around. -/
def Row (r : Record) (line : List Char) : Prop :=
  ∃ indent gap space margin, Padding indent ∧ (gap ≠ [] ∧ Padding gap) ∧ (space ≠ [] ∧ Padding space) ∧
    Padding margin ∧ line = indent ++ (toString r.pid).toList ++ gap ++ (toString r.ppid).toList ++ space ++
      (r.rest.toList ++ margin)

theorem row_read (listable : Listable r) (row : Row r line) : Record.ofLine? line = some r := by
  obtain ⟨indent, gap, space, margin, padded, apart, behind, around, rfl⟩ := row
  refine ofLine?_shows.mpr ⟨listable, .intro ⟨padding_blank padded, decimal_numeral _,
    ⟨apart.1, padding_blank apart.2⟩, decimal_numeral _, ⟨behind.1, padding_blank behind.2⟩⟩ ?_ ?_⟩
  · intro c member
    obtain rfl | rfl := around c member <;> rfl
  · intro newline
    obtain same | same := around _ newline <;> cases same

/-- Records written one to a line, among any lines that are no records, are read back as they were and in their
order; and what is listed before a newline is read apart from what is listed behind it. -/
theorem listings_round_trip :
    (∀ (listed : List Record) (lines : List (List Char)) (listing : String), (∀ r ∈ listed, Listable r) →
      Among Record.ofLine? Row listed lines → Written lines listing.toList → records listing = listed) ∧
    ∀ before after : String, records (before ++ "\n" ++ after) = records before ++ records after := by
  constructor
  · intro listed lines listing listable among written
    rw [records_lines, ofLine?_indifferent.written written]
    exact among_read among fun r member line row => row_read (listable r member) row
  · intro before after
    have split := ofLine?_indifferent.split before.toList after.toList
    simpa [records_lines] using split

/-- Two records, each in a layout of its own, among a heading, a broken line and an empty one. -/
def noisyLines : List (List Char) :=
  ["PID PPID STAT".toList, "\t 7  1\tS  a b ".toList, "12 x broken".toList, [], "4200 7 S [x] y".toList]

theorem noisy_listing_is_read_back :
    records "PID PPID STAT\r\n\t 7  1\tS  a b \r\n12 x broken\n\n4200 7 S [x] y" =
      [⟨7, 1, "S  a b"⟩, ⟨4200, 7, "S [x] y"⟩] := by
  have written : Written noisyLines
      "PID PPID STAT\r\n\t 7  1\tS  a b \r\n12 x broken\n\n4200 7 S [x] y".toList :=
    .returned (by decide) (.returned (by decide) (.ended (by decide) (.ended (by decide) (.unended (by decide)))))
  refine listings_round_trip.1 _ noisyLines _ ?_ ?_ written
  · simp only [List.forall_mem_cons]
    refine ⟨⟨by decide, by decide, by decide, by decide, ?_, ?_⟩,
      ⟨by decide, by decide, by decide, by decide, ?_, ?_⟩, by simp⟩
    all_goals
      rintro c ⟨⟩
      decide
  · refine .stray (by decide +kernel) (.entry ?_ (.stray (by decide +kernel) (.stray rfl (.entry ?_ .done))))
    · exact ⟨['\t', ' '], [' ', ' '], ['\t'], [' '], by simp [Padding], by simp [Padding], by simp [Padding],
        by simp [Padding], by decide +kernel⟩
    · exact ⟨[], [' '], [' '], [], by simp [Padding], by simp [Padding], by simp [Padding], by simp [Padding],
        by decide +kernel⟩

end RemoteJobs.Proofs.ListingRoundTrips
