import RemoteJobs.Toml.Quotation
import RemoteJobs.Toml.Scalar
import RemoteJobs.Toml.Table

/-! Reading a document. Every line holds a header, a pair of key and value, or nothing; a value may run over
several lines inside an array or a string. Keys have fewer than eighty parts, and arrays and inline tables are
nested less than eighty deep. -/
namespace RemoteJobs.Toml

/-! ### Keys -/

def isBareKeyChar (c : Char) : Bool :=
  c.isAlphanum || c == '-' || c == '_'

/-- Reads one part of a key: a quoted string on one line, or bare characters. -/
def readKeyPart? (s : List Char) : Option (String × List Char) :=
  match s with
  | '"' :: rest => (readQuoted? '"' rest).map fun (text, rest) => (String.ofList text, rest)
  | '\'' :: rest => (readQuoted? '\'' rest).map fun (text, rest) => (String.ofList text, rest)
  | _ =>
    let bare := s.takeWhile isBareKeyChar
    if bare.isEmpty then none else some (String.ofList bare, s.dropWhile isBareKeyChar)

/-- Reads a key of at most the given number of parts: the path to its table, and the last part. -/
def readKey? : Nat → List Char → Option (List String × String × List Char)
  | 0, _ => none
  | parts + 1, s => do
    let (part, rest) ← readKeyPart? (skipGap s)
    match skipGap rest with
    | '.' :: rest =>
      let (path, key, rest) ← readKey? parts rest
      return (part :: path, key, rest)
    | rest => return ([], part, rest)

/-- The number of parts of a key and the depth of nesting stay below this. -/
def depthLimit : Nat := 80

/-! ### Values -/

/-- Reads a key, an equals sign and a value. -/
def readPair? (readValue : List Char → Option (Value × List Char)) (s : List Char) :
    Option ((List String × String × Value) × List Char) := do
  let (path, key, rest) ← readKey? (depthLimit - 1) s
  match rest with
  | '=' :: rest =>
    let (value, rest) ← readValue (skipGap rest)
    return ((path, key, value), rest)
  | _ => none

/-- Reads the elements of an array up to its bracket, at most the given number of them. A comma may follow
the last one. -/
def readElements? (readValue : List Char → Option (Value × List Char)) :
    Nat → List Char → Option (List Value × List Char)
  | 0, _ => none
  | count + 1, s => do
    match ← skipFiller false s with
    | ']' :: rest => return ([], rest)
    | s =>
      let (value, rest) ← readValue s
      match ← skipFiller false rest with
      | ',' :: rest =>
        let (values, rest) ← readElements? readValue count rest
        return (value :: values, rest)
      | ']' :: rest => return ([value], rest)
      | _ => none

/-- Reads the pairs of an inline table up to its brace, at most the given number of them. No comma follows
the last one. -/
def readPairs? (readValue : List Char → Option (Value × List Char)) :
    Nat → List Char → Option (List (List String × String × Value) × List Char)
  | 0, _ => none
  | count + 1, s => do
    let (pair, rest) ← readPair? readValue s
    match skipGap rest with
    | ',' :: rest =>
      let (pairs, rest) ← readPairs? readValue count rest
      return (pair :: pairs, rest)
    | '\x7d' :: rest => return ([pair], rest)
    | _ => none

/-- Reads an inline table, given what follows its first brace. -/
def readInlineTable? (readValue : List Char → Option (Value × List Char)) (s : List Char) :
    Option (Value × List Char) := do
  let (pairs, rest) ← match skipGap s with
    | '\x7d' :: rest => some ([], rest)
    | s => readPairs? readValue (s.length + 1) s
  return (.table .inline (← Entries.ofPairs? pairs), rest)

/-- Reads a value that nests at most the given number of levels. -/
def readValue? : Nat → List Char → Option (Value × List Char)
  | _, '"' :: rest => (readString? '"' rest).map fun (text, rest) => (.string (String.ofList text), rest)
  | _, '\'' :: rest => (readString? '\'' rest).map fun (text, rest) => (.string (String.ofList text), rest)
  | levels + 1, '[' :: rest =>
    (readElements? (readValue? levels) (rest.length + 1) rest).map fun (values, rest) => (.array values, rest)
  | levels + 1, '\x7b' :: rest => readInlineTable? (readValue? levels) rest
  | _, s => readScalar? s

/-! ### Lines -/

/-- Reads a header, given what follows its first bracket. -/
def readHeader? (s : List Char) : Option (Line × List Char) :=
  match s with
  | '[' :: rest => do
    let (path, key, rest) ← readKey? (depthLimit - 1) rest
    match rest with
    | ']' :: ']' :: rest => return (.arrayHeader path key, rest)
    | _ => none
  | _ => do
    let (path, key, rest) ← readKey? (depthLimit - 1) s
    match rest with
    | ']' :: rest => return (.header path key, rest)
    | _ => none

/-- Reads the beginning of a line. Nothing is said by a line that holds a comment or no character at all. -/
def readLine? (s : List Char) : Option (Option Line × List Char) :=
  match s with
  | [] | '#' :: _ | '\n' :: _ | '\r' :: _ => some (none, s)
  | '[' :: rest => (readHeader? rest).map fun (line, rest) => (some line, rest)
  | _ =>
    (readPair? (readValue? (depthLimit - 1)) s).map fun ((path, key, value), rest) =>
      (some (.pair path key value), rest)

/-- Reads the lines of a text, at most the given number of them. -/
def readLines? : Nat → List Char → Option (List Line)
  | 0, _ => none
  | count + 1, s => do
    let (line, rest) ← readLine? (skipGap s)
    let rest ← closeLine? rest
    if rest.isEmpty then return line.toList
    return line.toList ++ (← readLines? count rest)

/-- The entries of a document, or nothing where the text is none. A byte order mark before it does not
count. -/
def parse? (text : String) : Option Entries := do
  let s := match text.toList with
    | '\ufeff' :: rest => rest
    | s => s
  Entries.ofLines? (← readLines? (s.length + 1) s)

end RemoteJobs.Toml
