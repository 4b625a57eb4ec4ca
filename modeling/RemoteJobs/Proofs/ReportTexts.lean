import RemoteJobs.Cli.Report
import Mathlib.Data.List.DropRight

/-! What a reader takes from a report. The reader of JSON knows nothing of how reports are written: it passes over
gaps wherever the format allows them, and undoes every escape. What it reads of a written value is that value, so
the report of a job shows the fields of its record, and in words it shows them line by line. -/
namespace RemoteJobs.Proofs.ReportTexts
open Cli

/-! ### The reader -/

def isGap (c : Char) : Bool :=
  c = ' ' || c = '\n' || c = '\r' || c = '\t'

def skip (s : List Char) : List Char :=
  s.dropWhile isGap

def hexDigit? (c : Char) : Option Nat :=
  if '0' ≤ c ∧ c ≤ '9' then some (c.toNat - '0'.toNat)
  else if 'a' ≤ c ∧ c ≤ 'f' then some (c.toNat - 'a'.toNat + 10)
  else if 'A' ≤ c ∧ c ≤ 'F' then some (c.toNat - 'A'.toNat + 10)
  else none

/-- The character that a letter behind a backslash stands for. -/
def meant? : Char → Option Char
  | '"' => some '"'
  | '\\' => some '\\'
  | '/' => some '/'
  | 'b' => some '\x08'
  | 'f' => some '\x0c'
  | 'n' => some '\n'
  | 'r' => some '\r'
  | 't' => some '\t'
  | _ => none

/-- Where a reader stands in a string: between two characters, behind a backslash, or among the digits of a
character, with how many of them are owed and the value of the others. -/
inductive Place where
  | between
  | escaped
  | digits (owed value : Nat)

/-- A character more at the beginning of what was read. -/
def put (c : Char) (read : List Char × List Char) : List Char × List Char :=
  (c :: read.1, read.2)

/-- Reads the rest of a string, its closing quote included. Control characters stand in it only as escapes. -/
def readString : Place → List Char → Option (List Char × List Char)
  | _, [] => none
  | .between, c :: rest =>
    if c = '"' then some ([], rest)
    else if c = '\\' then readString .escaped rest
    else if c < ' ' then none
    else (readString .between rest).map (put c)
  | .escaped, c :: rest =>
    if c = 'u' then readString (.digits 4 0) rest
    else
      match meant? c with
      | some meant => (readString .between rest).map (put meant)
      | none => none
  | .digits owed value, c :: rest =>
    match hexDigit? c with
    | some digit =>
      if owed = 1 then (readString .between rest).map (put (Char.ofNat (16 * value + digit)))
      else readString (.digits (owed - 1) (16 * value + digit)) rest
    | none => none

/-- Reads a key with the colon behind it. -/
def readKey : List Char → Option (String × List Char)
  | '"' :: rest =>
    match readString .between rest with
    | some (key, rest) =>
      match skip rest with
      | ':' :: rest => some (String.ofList key, rest)
      | _ => none
    | none => none
  | _ => none

/-- Reads a key and the value behind it. -/
def readEntry (value : List Char → Option (Json × List Char)) (s : List Char) :
    Option ((String × Json) × List Char) :=
  match readKey (skip s) with
  | some (key, rest) => (value rest).map fun (j, rest) => ((key, j), rest)
  | none => none

/-- Reads items, at least one of them, up to the bracket that closes their row. -/
def readRow {α : Type} (item : List Char → Option (α × List Char)) (bracket : Char) :
    Nat → List Char → Option (List α × List Char)
  | 0, _ => none
  | fuel + 1, s =>
    match item s with
    | some (first, rest) =>
      match skip rest with
      | c :: rest =>
        if c = ',' then (readRow item bracket fuel rest).map fun (more, rest) => (first :: more, rest)
        else if c = bracket then some ([first], rest)
        else none
      | [] => none
    | none => none

/-- Reads a value and says what follows it. No value needs more fuel than it has characters. -/
def readValue : Nat → List Char → Option (Json × List Char)
  | 0, _ => none
  | fuel + 1, s =>
    match skip s with
    | 'n' :: 'u' :: 'l' :: 'l' :: rest => some (.null, rest)
    | 't' :: 'r' :: 'u' :: 'e' :: rest => some (.boolean true, rest)
    | 'f' :: 'a' :: 'l' :: 's' :: 'e' :: rest => some (.boolean false, rest)
    | '"' :: rest => (readString .between rest).map fun (text, rest) => (.string (String.ofList text), rest)
    | '[' :: rest =>
      match skip rest with
      | ']' :: rest => some (.array [], rest)
      | items => (readRow (readValue fuel) ']' fuel items).map fun (elements, rest) => (.array elements, rest)
    | '\x7b' :: rest =>
      match skip rest with
      | '\x7d' :: rest => some (.object [], rest)
      | items =>
        (readRow (readEntry (readValue fuel)) '\x7d' fuel items).map fun (entries, rest) => (.object entries, rest)
    | _ => none

/-- The value that a text stands for, with gaps around it at most. -/
def read? (text : String) : Option Json :=
  match readValue text.length text.toList with
  | some (j, rest) => if skip rest = [] then some j else none
  | none => none

/-! ### Strings -/

theorem readString_plain {c : Char} (quote : c ≠ '"') (backslash : c ≠ '\\') (shows : ¬c < ' ')
    (rest : List Char) : readString .between (c :: rest) = (readString .between rest).map (put c) := by
  rw [readString, if_neg quote, if_neg backslash, if_neg shows]

/-- The four digits of a control character. -/
theorem controlDigits_small : ∀ n < 32,
    List.replicate (4 - (Nat.toDigits 16 n).length) '0' ++ Nat.toDigits 16 n =
      ['0', '0', Nat.digitChar (n / 16), Nat.digitChar (n % 16)] := by
  decide

theorem hexDigit_digitChar : ∀ n < 16, hexDigit? (Nat.digitChar n) = some n := by
  decide

theorem readString_control {c : Char} (control : c < ' ') (rest : List Char) :
    readString .between (("\\u" ++ Json.controlDigits c).toList ++ rest) =
      (readString .between rest).map (put c) := by
  have small : c.toNat < 32 := control
  have digits : (Json.controlDigits c).toList =
      ['0', '0', Nat.digitChar (c.toNat / 16), Nat.digitChar (c.toNat % 16)] := by
    simp only [Json.controlDigits, Text.hexText, String.toList_append, String.toList_ofList, String.length_ofList]
    exact controlDigits_small c.toNat small
  have value : 16 * (c.toNat / 16) + c.toNat % 16 = c.toNat := Nat.div_add_mod _ _
  have high := hexDigit_digitChar (c.toNat / 16) (by omega)
  have low := hexDigit_digitChar (c.toNat % 16) (by omega)
  have zero : hexDigit? '0' = some 0 := by decide
  rw [String.toList_append, digits]
  show readString .between ('\\' :: 'u' :: '0' :: '0' :: _ :: _ :: rest) = _
  simp [readString, zero, high, low, value, Char.ofNat_toNat]

/-- An escape is undone. -/
theorem readString_escape (c : Char) (rest : List Char) :
    readString .between ((Json.escapeChar c).toList ++ rest) = (readString .between rest).map (put c) := by
  unfold Json.escapeChar
  split
  iterate 7 rfl
  · rename_i quote backslash _ _ _ _ _
    split
    · rename_i control
      exact readString_control control rest
    · rename_i shows
      rw [String.toList_singleton]
      exact readString_plain quote backslash shows rest

theorem readString_quote (text : String) (rest : List Char) :
    ∃ behind, (Json.quote text).toList ++ rest = '"' :: behind ∧
      readString .between behind = some (text.toList, rest) := by
  have closed : ∀ chars : List Char,
      readString .between (chars.flatMap (fun c => (Json.escapeChar c).toList) ++ '"' :: rest) =
        some (chars, rest) := by
    intro chars
    induction chars with
    | nil => rfl
    | cons c chars ih =>
      rw [List.flatMap_cons, List.append_assoc, readString_escape, ih]
      rfl
  refine ⟨_, ?_, closed text.toList⟩
  simp [Json.quote, String.toList_join, List.flatMap_map]

/-! ### Gaps -/

theorem skip_gap {gap s : List Char} (blank : ∀ c ∈ gap, isGap c = true) : skip (gap ++ s) = skip s :=
  List.dropWhile_append_of_pos blank

theorem skip_mark {c : Char} (mark : isGap c = false) (s : List Char) : skip (c :: s) = c :: s :=
  List.dropWhile_cons_of_neg (by simp [mark])

theorem skip_newline (s : List Char) : skip ('\n' :: s) = skip s := rfl

theorem margin_blank (level : Nat) : ∀ c ∈ (Json.margin level).toList, isGap c = true := by
  intro c member
  rw [Json.margin, String.toList_ofList] at member
  rw [List.eq_of_mem_replicate member]
  rfl

theorem skip_skip (s : List Char) : skip (skip s) = skip s :=
  List.dropWhile_idempotent isGap s

/-- A reader that passes over the gap before what it reads. -/
def Skips {α : Type} (reader : List Char → Option (α × List Char)) : Prop :=
  ∀ s t, skip s = skip t → reader s = reader t

theorem readValue_skips (fuel : Nat) : Skips (readValue fuel) := by
  intro s t same
  cases fuel with
  | zero => simp [readValue]
  | succ fuel => simp only [readValue, same]

theorem readEntry_skips (value : List Char → Option (Json × List Char)) : Skips (readEntry value) := by
  intro s t same
  simp only [readEntry, same]

theorem readRow_skips {α : Type} {item : List Char → Option (α × List Char)} (skips : Skips item) (bracket : Char)
    (fuel : Nat) : Skips (readRow item bracket fuel) := by
  intro s t same
  cases fuel with
  | zero => simp [readRow]
  | succ fuel => simp only [readRow, skips s t same]

/-! ### Rows -/

/-- The texts of the items of a block, each on a line of its own behind its margin. -/
def body (level : Nat) (texts : List (List Char)) : List Char :=
  [',', '\n'].intercalate (texts.map ((Json.margin level).toList ++ ·))

/-- What stands between the last item of a block and its bracket. -/
def closing (level : Nat) : List Char :=
  '\n' :: (Json.margin level).toList

theorem block_toList {items : List String} (level : Nat) (first last : String) (filled : items ≠ []) :
    (Json.block level first items last).toList =
      first.toList ++ '\n' :: (body (level + 1) (items.map String.toList) ++ (closing level ++ last.toList)) := by
  have separator : ",\n".toList = [',', '\n'] := rfl
  have newline : "\n".toList = ['\n'] := rfl
  have full : items.isEmpty = false := by simpa using filled
  simp [Json.block, full, String.toList_intercalate, body, closing, separator, newline, Function.comp_def]

@[simp] theorem body_single (level : Nat) (text : List Char) :
    body level [text] = (Json.margin level).toList ++ text := by
  simp [body]

theorem body_cons (level : Nat) (text next : List Char) (more : List (List Char)) :
    body level (text :: next :: more) =
      (Json.margin level).toList ++ (text ++ ',' :: '\n' :: body level (next :: more)) := by
  simp [body]

/-- A block is longer than every item in it, and than it has items. -/
theorem body_length (level : Nat) (texts : List (List Char)) :
    (∀ text ∈ texts, text.length ≤ (body level texts).length) ∧ texts.length ≤ (body level texts).length + 1 := by
  induction texts with
  | nil => simp
  | cons text texts ih =>
    cases texts with
    | nil => simp
    | cons next more =>
      obtain ⟨longer, count⟩ := ih
      simp only [body_cons, List.length_append, List.length_cons] at count ⊢
      refine ⟨fun other member => ?_, by omega⟩
      obtain rfl | later := List.mem_cons.mp member
      · omega
      · have bound := longer other later
        omega

/-- Where every text of a row is read as its item, the row is read as these items. Induction on the items. -/
theorem readRow_body {α : Type} {item : List Char → Option (α × List Char)} {text : α → List Char} {items : List α}
    {level fuel : Nat} {gap rest : List Char} {bracket : Char} (skips : Skips item)
    (reads : ∀ one ∈ items, ∀ behind, item (text one ++ behind) = some (one, behind)) (filled : items ≠ [])
    (enough : items.length ≤ fuel) (blank : ∀ c ∈ gap, isGap c = true) (mark : isGap bracket = false)
    (apart : bracket ≠ ',') :
    readRow item bracket fuel (body level (items.map text) ++ (gap ++ bracket :: rest)) = some (items, rest) := by
  induction items generalizing fuel with
  | nil => exact absurd rfl filled
  | cons one items ih =>
    obtain ⟨fuel, rfl⟩ : ∃ less, fuel = less + 1 := ⟨fuel - 1, by simp at enough; omega⟩
    have margin (s : List Char) : item ((Json.margin level).toList ++ s) = item s :=
      skips _ _ (skip_gap (margin_blank level))
    have first := reads one List.mem_cons_self
    cases items with
    | nil =>
      rw [List.map_singleton, body_single, List.append_assoc, readRow, margin, first]
      simp only [skip_gap blank, skip_mark mark, if_neg apart, if_true]
    | cons next more =>
      have comma : ∀ s, skip (',' :: s) = ',' :: s := skip_mark rfl
      have newline : ∀ s, readRow item bracket fuel ('\n' :: s) = readRow item bracket fuel s :=
        fun s => readRow_skips skips bracket fuel _ _ (skip_newline s)
      have onward := ih (fun other member => reads other (List.mem_cons_of_mem _ member)) (List.cons_ne_nil _ _)
        (Nat.le_of_succ_le_succ enough)
      rw [List.map_cons] at onward
      rw [List.map_cons, List.map_cons, body_cons, List.append_assoc, List.append_assoc, readRow, margin, first]
      simp only [List.cons_append, comma, if_true, newline, onward, Option.map_some]

/-- A block begins with its first item, behind a gap. -/
theorem skip_body {c : Char} {tail : List Char} (level : Nat) (mark : isGap c = false) (more : List (List Char))
    (s : List Char) : (skip ('\n' :: (body level ((c :: tail) :: more) ++ s))).head? = some c := by
  have begun (rest : List Char) : (skip ('\n' :: ((Json.margin level).toList ++ c :: rest))).head? = some c := by
    rw [skip_newline, skip_gap (margin_blank level), skip_mark mark, List.head?_cons]
  cases more with
  | nil => simpa using begun (tail ++ s)
  | cons next more => simpa [body_cons] using begun (tail ++ ',' :: '\n' :: (body level (next :: more) ++ s))

theorem closing_blank (level : Nat) : ∀ c ∈ closing level, isGap c = true :=
  List.forall_mem_cons.mpr ⟨rfl, margin_blank level⟩

/-! ### Values -/

theorem renderElements_eq (level : Nat) (elements : List Json) :
    Json.renderElements level elements = elements.map (Json.render level) := by
  induction elements with
  | nil => simp [Json.renderElements]
  | cons element more ih => simp [Json.renderElements, ih]

theorem renderEntries_eq (level : Nat) (entries : List (String × Json)) :
    Json.renderEntries level entries =
      entries.map fun entry => Json.quote entry.1 ++ ": " ++ entry.2.render level := by
  induction entries with
  | nil => simp [Json.renderEntries]
  | cons entry more ih => simp [Json.renderEntries, ih]

/-- No value begins with a gap or a closing bracket. -/
theorem render_head (level : Nat) (j : Json) :
    ∃ c tail, (j.render level).toList = c :: tail ∧ isGap c = false ∧ c ≠ ']' := by
  cases j with
  | null => exact ⟨'n', ['u', 'l', 'l'], by rw [Json.render]; rfl, rfl, by decide⟩
  | boolean b =>
    cases b with
    | true => exact ⟨'t', ['r', 'u', 'e'], by rw [Json.render]; rfl, rfl, by decide⟩
    | false => exact ⟨'f', ['a', 'l', 's', 'e'], by rw [Json.render]; rfl, rfl, by decide⟩
  | string text =>
    obtain ⟨behind, same, _⟩ := readString_quote text []
    exact ⟨'"', behind, by simpa [Json.render] using same, rfl, by decide⟩
  | array elements =>
    refine ⟨'[', ((Json.array elements).render level).toList.tail, ?_, rfl, by decide⟩
    simp only [Json.render, Json.block]
    split <;> simp
  | object entries =>
    refine ⟨'\x7b', ((Json.object entries).render level).toList.tail, ?_, rfl, by decide⟩
    simp only [Json.render, Json.block]
    split <;> simp

@[simp] theorem readKey_quote (key : String) (s : List Char) :
    readKey (skip ((Json.quote key).toList ++ ':' :: s)) = some (key, s) := by
  obtain ⟨inside, same, ends⟩ := readString_quote key (':' :: s)
  have colon : skip (':' :: s) = ':' :: s := skip_mark rfl s
  rw [same, skip_mark rfl, readKey, ends]
  simp only [colon, String.ofList_toList]

/-- How a key is written with its value. -/
def entryText (level : Nat) (entry : String × Json) : List Char :=
  (Json.quote entry.1).toList ++ ':' :: ' ' :: (entry.2.render level).toList

theorem readEntry_text {value : List Char → Option (Json × List Char)} {level : Nat} {entry : String × Json}
    (skips : Skips value)
    (reads : ∀ behind, value ((entry.2.render level).toList ++ behind) = some (entry.2, behind))
    (behind : List Char) : readEntry value (entryText level entry ++ behind) = some (entry, behind) := by
  have space : ∀ s, value (' ' :: s) = value s := fun s => skips _ _ rfl
  rw [entryText, List.append_assoc, readEntry]
  simp only [List.cons_append, readKey_quote, space, reads, Option.map_some]

/-! ### Lists and objects -/

section Blocks

variable {fuel level : Nat} {s rest : List Char}

theorem readValue_array (filled : (skip s).head? ≠ some ']') :
    readValue (fuel + 1) ('[' :: s) =
      (readRow (readValue fuel) ']' fuel s).map fun (elements, rest) => (.array elements, rest) := by
  rw [readValue, skip_mark rfl]
  show (match skip s with
    | ']' :: rest => some (Json.array [], rest)
    | items => (readRow (readValue fuel) ']' fuel items).map fun (elements, rest) => (.array elements, rest)) = _
  split
  · rename_i closed
    rw [closed] at filled
    exact absurd rfl filled
  · rw [readRow_skips (readValue_skips fuel) _ _ _ s (skip_skip s)]

theorem readValue_object (filled : (skip s).head? ≠ some '\x7d') :
    readValue (fuel + 1) ('\x7b' :: s) =
      (readRow (readEntry (readValue fuel)) '\x7d' fuel s).map fun (entries, rest) => (.object entries, rest) := by
  rw [readValue, skip_mark rfl]
  show (match skip s with
    | '\x7d' :: rest => some (Json.object [], rest)
    | items =>
      (readRow (readEntry (readValue fuel)) '\x7d' fuel items).map fun (entries, rest) =>
        (.object entries, rest)) = _
  split
  · rename_i closed
    rw [closed] at filled
    exact absurd rfl filled
  · rw [readRow_skips (readEntry_skips _) _ _ _ s (skip_skip s)]

theorem array_toList {elements : List Json} (filled : elements ≠ []) :
    ((Json.array elements).render level).toList =
      '[' :: '\n' :: (body (level + 1) (elements.map fun element => (element.render (level + 1)).toList) ++
        (closing level ++ [']'])) := by
  have items : elements.map (Json.render (level + 1)) ≠ [] := by simpa using filled
  rw [Json.render, renderElements_eq, block_toList level _ _ items, List.map_map]
  rfl

theorem object_toList {entries : List (String × Json)} (filled : entries ≠ []) :
    ((Json.object entries).render level).toList =
      '\x7b' :: '\n' :: (body (level + 1) (entries.map (entryText (level + 1))) ++ (closing level ++ ['\x7d'])) := by
  have items : (entries.map fun entry => Json.quote entry.1 ++ ": " ++ entry.2.render (level + 1)) ≠ [] := by
    simpa using filled
  have texts : (String.toList ∘ fun entry : String × Json =>
      Json.quote entry.1 ++ ": " ++ entry.2.render (level + 1)) = entryText (level + 1) := by
    funext entry
    simp [entryText]
  rw [Json.render, renderEntries_eq, block_toList level _ _ items, List.map_map, texts]
  rfl

/-- A list is read where its elements are. -/
theorem readValue_elements {elements : List Json} (filled : elements ≠ []) (enough : elements.length ≤ fuel)
    (reads : ∀ element ∈ elements, ∀ behind,
      readValue fuel ((element.render (level + 1)).toList ++ behind) = some (element, behind)) (rest : List Char) :
    readValue (fuel + 1) (((Json.array elements).render level).toList ++ rest) = some (.array elements, rest) := by
  have row : readRow (readValue fuel) ']' fuel (body (level + 1) (elements.map fun element =>
      (element.render (level + 1)).toList) ++ (closing level ++ ']' :: rest)) = some (elements, rest) :=
    readRow_body (readValue_skips fuel) reads filled enough (closing_blank level) rfl (by decide)
  obtain ⟨element, more, rfl⟩ := List.exists_cons_of_ne_nil filled
  obtain ⟨c, tail, begun, mark, apart⟩ := render_head (level + 1) element
  simp only [array_toList filled, List.cons_append, List.append_assoc, List.nil_append]
  rw [readValue_array, readRow_skips (readValue_skips fuel) _ _ _ _ (skip_newline _), row]
  · rfl
  · rw [List.map_cons, begun, skip_body _ mark]
    simpa using apart

/-- An object is read where its values are. -/
theorem readValue_entries {entries : List (String × Json)} (filled : entries ≠ []) (enough : entries.length ≤ fuel)
    (reads : ∀ entry ∈ entries, ∀ behind,
      readValue fuel ((entry.2.render (level + 1)).toList ++ behind) = some (entry.2, behind)) (rest : List Char) :
    readValue (fuel + 1) (((Json.object entries).render level).toList ++ rest) = some (.object entries, rest) := by
  have row : readRow (readEntry (readValue fuel)) '\x7d' fuel
      (body (level + 1) (entries.map (entryText (level + 1))) ++ (closing level ++ '\x7d' :: rest)) =
      some (entries, rest) :=
    readRow_body (readEntry_skips _)
      (fun entry member => readEntry_text (readValue_skips fuel) (reads entry member))
      filled enough (closing_blank level) rfl (by decide)
  obtain ⟨entry, more, rfl⟩ := List.exists_cons_of_ne_nil filled
  obtain ⟨inside, begun, _⟩ := readString_quote entry.1 (':' :: ' ' :: (entry.2.render (level + 1)).toList)
  simp only [object_toList filled, List.cons_append, List.append_assoc, List.nil_append]
  rw [readValue_object, readRow_skips (readEntry_skips _) _ _ _ _ (skip_newline _), row]
  · rfl
  · rw [List.map_cons, entryText, begun, skip_body _ rfl]
    simp

end Blocks

/-! ### Whole texts -/

/-- What is read of a written value is that value, whatever follows it. Every text is fuel enough for itself, and
the induction is on the fuel. -/
theorem readValue_render (j : Json) (level fuel : Nat) (rest : List Char)
    (enough : (j.render level).toList.length ≤ fuel) :
    readValue fuel ((j.render level).toList ++ rest) = some (j, rest) := by
  induction fuel generalizing j level rest with
  | zero =>
    obtain ⟨c, tail, begun, _⟩ := render_head level j
    simp [begun] at enough
  | succ fuel ih =>
    cases j with
    | null =>
      rw [Json.render]
      rfl
    | boolean b =>
      cases b <;> rw [Json.render] <;> rfl
    | string text =>
      obtain ⟨behind, begun, ends⟩ := readString_quote text rest
      rw [Json.render, begun, readValue, skip_mark rfl]
      show (readString .between behind).map _ = _
      simp [ends]
    | array elements =>
      by_cases filled : elements = []
      · rw [filled, Json.render, Json.renderElements]
        show readValue _ (("[" ++ "]").toList ++ rest) = _
        rw [String.toList_append]
        rfl
      · rw [array_toList filled] at enough
        simp only [List.length_append, List.length_cons, List.length_nil] at enough
        obtain ⟨longer, count⟩ := body_length (level + 1) (elements.map fun element =>
          (element.render (level + 1)).toList)
        rw [List.length_map] at count
        refine readValue_elements filled (by omega) (fun element member behind => ?_) rest
        have bound := longer _ (List.mem_map_of_mem member)
        exact ih element (level + 1) behind (by omega)
    | object entries =>
      by_cases filled : entries = []
      · rw [filled, Json.render, Json.renderEntries]
        show readValue _ (("\x7b" ++ "\x7d").toList ++ rest) = _
        rw [String.toList_append]
        rfl
      · rw [object_toList filled] at enough
        simp only [List.length_append, List.length_cons, List.length_nil] at enough
        obtain ⟨longer, count⟩ := body_length (level + 1) (entries.map (entryText (level + 1)))
        rw [List.length_map] at count
        refine readValue_entries filled (by omega) (fun entry member behind => ?_) rest
        have bound := longer _ (List.mem_map_of_mem member)
        simp only [entryText, List.length_append, List.length_cons] at bound
        exact ih entry.2 (level + 1) behind (by omega)

@[simp] theorem linesText_single (line : String) : linesText [line] = line ++ "\n" := by
  simp [linesText]

/-- A report is read back as what it was written of. -/
@[simp] theorem read_document (j : Json) : read? (document j) = some j := by
  have text : (document j).toList = (j.render 0).toList ++ ['\n'] := by
    simp [document, Json.pretty]
  have enough : (j.render 0).toList.length ≤ (document j).length := by
    rw [← String.length_toList, text, List.length_append]
    exact Nat.le_add_right _ _
  rw [read?, text, readValue_render j 0 _ _ enough]
  rfl

/-! ### Job records -/

/-- The entries of a job record, in the order in which a report has them, with the name of its status. -/
def entriesOf (job : Job) (status : String) : List (String × Json) :=
  [("created", .string job.created.text),
    ("exec_system_id", .string job.execSystemId),
    ("exec_system_output_dir", .string job.execSystemOutputDir),
    ("job_type", .string job.jobType.name),
    ("last_message", job.lastMessage.elim .null .string),
    ("last_updated", .string job.lastUpdated.text),
    ("name", .string job.name),
    ("owner", .string job.owner),
    ("remote_job_id", job.remoteJobId.elim .null .string),
    ("remote_outcome", job.remoteOutcome.elim .null fun outcome => .string outcome.name),
    ("remote_result_info", job.remoteResultInfo.elim .null .string),
    ("status", .string status),
    ("tenant", .string job.tenant),
    ("uuid", .string job.uuid.text)]

/-- A job record in words: its id and the name of its status, then what is known of its end, then its message. -/
def linesOf (job : Job) (status : String) : String :=
  "Job " ++ job.uuid.text ++ ": " ++ status ++ "\n" ++
    (job.remoteOutcome.elim "" fun outcome => "  remote outcome: " ++ outcome.word ++ "\n") ++
    (job.remoteResultInfo.elim "" fun code => "  exit code: " ++ code ++ "\n") ++
    job.lastMessage.elim "" fun message => "  " ++ message ++ "\n"

/-- A text shows a job with a status of this name. -/
def Shows (asJson : Bool) (job : Job) (status text : String) : Prop :=
  if asJson then read? text = some (.object (entriesOf job status)) else text = linesOf job status

@[simp] theorem stringOrNull_eq (text : Option String) : Json.stringOrNull text = text.elim .null .string := by
  cases text <;> rfl

/-- The report of a job shows it. -/
theorem jobReport_shows (job : Job) (asJson : Bool) : Shows asJson job job.status.name (jobReport job asJson) := by
  cases asJson with
  | true =>
    have same : jobJson job = .object (entriesOf job job.status.name) := by
      simp [jobJson, entriesOf, Option.elim_map, Function.comp_def]
    simp [Shows, jobReport, same]
  | false =>
    simp only [Shows, jobReport, linesOf, Bool.false_eq_true, if_false]
    cases job.remoteOutcome <;> cases job.remoteResultInfo <;> cases job.lastMessage <;>
      simp [linesText, String.append_assoc]

end RemoteJobs.Proofs.ReportTexts
