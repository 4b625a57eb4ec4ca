import RemoteJobs.Command

/-! Quoting against a shell's reading of words. Whatever an argument holds, the shell reads it back as one
word, and behind the fixed words of a command line it is the last one. -/
namespace RemoteJobs.Proofs.ShellWords
open Shell

variable {c : Char} {word rest : List Char}

/-! ### Plain characters -/

theorem plain_not_meta (plain : isPlain c = true) : isMeta c = false := by
  have none : "|&;<>()$\x60\"*?[]#~!^\x7b\x7d\n\r".toList.all (fun d => !isPlain d) = true := by decide
  have special (d : Char) (member : isMeta d = true) : isPlain d = false := by
    simp only [isMeta, List.contains_iff_mem] at member
    simpa using List.all_eq_true.mp none d member
  cases reads : isMeta c with
  | false => rfl
  | true =>
    rw [special c reads] at plain
    cases plain

/-- A plain character is no blank, opens no quote and quotes no other character. -/
theorem plain_ordinary (plain : isPlain c = true) : isGap c = false ∧ c ≠ '\'' ∧ c ≠ '\\' := by
  have apart (d : Char) (odd : isPlain d = false) : c ≠ d := by
    rintro rfl
    rw [odd] at plain
    cases plain
  exact ⟨by simp [isGap, apart ' ' rfl, apart '\t' rfl], apart _ rfl, apart _ rfl⟩

theorem read_plain_first (plain : isPlain c = true) :
    splitFrom .between (c :: rest) = splitFrom (.plain [c]) rest := by
  obtain ⟨gap, quote, backslash⟩ := plain_ordinary plain
  rw [splitFrom]
  · simp [gap, quote, backslash, plain_not_meta plain]
  · simp [backslash]

theorem read_plain_next (plain : isPlain c = true) :
    splitFrom (.plain word) (c :: rest) = splitFrom (.plain (word ++ [c])) rest := by
  obtain ⟨gap, quote, backslash⟩ := plain_ordinary plain
  rw [splitFrom]
  · simp [gap, quote, backslash, plain_not_meta plain]
  · simp [backslash]

/-! ### Words -/

/-- A word that may be written as it is. -/
def Plain (word : List Char) : Prop :=
  word ≠ [] ∧ ∀ c ∈ word, isPlain c = true

instance (word : List Char) : Decidable (Plain word) :=
  decidable_of_iff (word ≠ [] ∧ word.all isPlain = true) (by rw [Plain, List.all_eq_true])

theorem quoteWord_plain (plain : Plain word) : quoteWord word = word := by
  simp [quoteWord, plain.1, List.all_eq_true.mpr plain.2]

theorem quoteWord_other (other : ¬Plain word) : quoteWord word = '\'' :: escape word ++ ['\''] := by
  unfold quoteWord
  rw [if_neg]
  simpa [Plain] using other

/-- The plain characters after the beginning of a word belong to it. -/
theorem read_plain (more : List Char) (plain : ∀ c ∈ more, isPlain c = true) :
    splitFrom (.plain word) (more ++ rest) = splitFrom (.plain (word ++ more)) rest := by
  induction more generalizing word with
  | nil => simp
  | cons c more ih =>
    obtain ⟨first, others⟩ := List.forall_mem_cons.mp plain
    rw [List.cons_append, read_plain_next first, ih others, List.append_assoc]
    rfl

theorem read_plain_word (plain : Plain word) :
    splitFrom .between (word ++ rest) = splitFrom (.plain word) rest := by
  obtain ⟨filled, ordinary⟩ := plain
  cases word with
  | nil => exact absurd rfl filled
  | cons c word =>
    obtain ⟨first, others⟩ := List.forall_mem_cons.mp ordinary
    rw [List.cons_append, read_plain_first first, read_plain word others]
    rfl

/-- Reading takes the escapes of a text away up to the quote that closes it. Induction on the text: at a quote
the reader leaves the quoted part, takes the quote behind the backslash along and enters the next one. -/
theorem read_escaped (text : List Char) :
    splitFrom (.quoted word) (escape text ++ '\'' :: rest) = splitFrom (.plain (word ++ text)) rest := by
  induction text generalizing word with
  | nil => simp [escape, splitFrom]
  | cons c text ih =>
    by_cases quote : c = '\''
    · subst quote
      simp [escape, splitFrom, isGap, ih]
    · simp [escape, splitFrom, quote, ih]

/-- Whatever the text, its written form is one word of the line. -/
theorem read_quoteWord (text rest : List Char) :
    splitFrom .between (quoteWord text ++ rest) = splitFrom (.plain text) rest := by
  by_cases plain : Plain text
  · rw [quoteWord_plain plain, read_plain_word plain]
  · rw [quoteWord_other plain]
    simp only [List.cons_append, List.append_assoc, List.nil_append]
    rw [splitFrom]
    · simp [isGap, read_escaped]
    · simp

/-! ### Command lines -/

/-- Fixed words, each with a blank after it. -/
def lead (fixed : List String) : List Char :=
  fixed.flatMap fun word => word.toList ++ [' ']

theorem read_lead {fixed : List String} (plain : ∀ word ∈ fixed, Plain word.toList) (rest : List Char) :
    splitFrom .between (lead fixed ++ rest) =
      (splitFrom .between rest).map (fixed.map String.toList ++ ·) := by
  induction fixed with
  | nil => simp [lead]
  | cons word fixed ih =>
    obtain ⟨first, others⟩ := List.forall_mem_cons.mp plain
    have blank (rest : List Char) :
        splitFrom (.plain word.toList) (' ' :: rest) =
          (splitFrom .between rest).map (word.toList :: ·) := by
      rw [splitFrom]
      · simp [isGap]
      · simp
    have line : lead (word :: fixed) ++ rest = word.toList ++ ' ' :: (lead fixed ++ rest) := by
      simp [lead]
    rw [line, read_plain_word first, blank, ih others, Option.map_map]
    rfl

theorem split_quote (argument : String) : split (quote argument) = some [argument] := by
  have read := read_quoteWord argument.toList []
  rw [List.append_nil] at read
  simp [split, quote, read, splitFrom]

/-- Behind plain words a quoted argument is read as itself, in a word of its own. -/
theorem split_behind (opening : String) (fixed : List String) (same : opening.toList = lead fixed)
    (plain : ∀ word ∈ fixed, Plain word.toList) (argument : String) :
    split (opening ++ quote argument) = some (fixed ++ [argument]) := by
  have alone : (splitFrom .between (quote argument).toList).map (·.map String.ofList) = some [argument] :=
    split_quote argument
  obtain ⟨words, read, texts⟩ := Option.map_eq_some_iff.mp alone
  rw [split, String.toList_append, same, read_lead plain, read]
  simp [texts, Function.comp_def]

/-! ### Identifiers -/

theorem hexDigit_plain {n : Nat} (digit : n < 16) : isPlain (Uuid.hexDigit n) = true := by
  have each : ∀ m < 16, isPlain (Uuid.hexDigit m) = true := by decide
  exact each n digit

/-- An identifier is written with hexadecimal digits and hyphens only. -/
theorem text_plain (job : Uuid) : Plain job.text.toList := by
  have digits : ∀ c ∈ job.digits, isPlain c = true := by
    intro c member
    obtain ⟨i, _, rfl⟩ := List.mem_map.mp member
    exact hexDigit_plain (BitVec.isLt _)
  have hyphen : isPlain '-' = true := rfl
  simp only [Uuid.text, Uuid.hyphenate, String.toList_ofList]
  refine ⟨by simp, fun c member => ?_⟩
  simp only [List.mem_append, List.mem_cons] at member
  grind [List.mem_of_mem_take, List.mem_of_mem_drop]

theorem quote_text (job : Uuid) : quote job.text = job.text := by
  simp [quote, quoteWord_plain (text_plain job)]

/-- No argument escapes its word: a shell reads a quoted text as that text alone, and a command line as its
fixed words and the whole argument behind them, whatever characters the argument holds. -/
theorem arguments_stay_words :
    (∀ argument, split (quote argument) = some [argument]) ∧
    (∀ job : Uuid, split (Command.dockerRemove job) = some ["docker", "rm", "-f", job.text]) ∧
    (∀ job : Uuid, split (Command.instanceStop job) =
      some ["singularity", "instance", "stop", job.text]) ∧
    (∀ id, split (Command.kill id) = some ["kill", "-9", id]) ∧
    (∀ id, split (Command.slurmCancel id) = some ["scancel", id]) ∧
    (∀ id, split (Command.slurmAccounting id) =
      some ["sacct", "--noheader", "--parsable2", "--allocations", "--format=JobID,State,ExitCode",
        "--jobs", id]) ∧
    ∀ path, split (Command.printFile path) = some ["cat", path] := by
  refine ⟨split_quote, fun job => ?_, fun job => ?_, ?_, ?_, ?_, ?_⟩
  · have removal : Command.dockerRemove job = "docker rm -f " ++ quote job.text := by
      rw [quote_text]
      rfl
    rw [removal]
    exact split_behind _ ["docker", "rm", "-f"] (by decide) (by decide) _
  · have stop : Command.instanceStop job = "singularity instance stop " ++ quote job.text := by
      rw [quote_text]
      rfl
    rw [stop]
    exact split_behind _ ["singularity", "instance", "stop"] (by decide) (by decide) _
  · exact split_behind _ ["kill", "-9"] (by decide) (by decide)
  · exact split_behind _ ["scancel"] (by decide) (by decide)
  · exact split_behind _ ["sacct", "--noheader", "--parsable2", "--allocations",
      "--format=JobID,State,ExitCode", "--jobs"] (by decide +kernel) (by decide +kernel)
  · exact split_behind _ ["cat"] (by decide) (by decide)

end RemoteJobs.Proofs.ShellWords
