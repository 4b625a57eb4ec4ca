/-! Layout of a document: gaps within a line, comments, and line ends. -/
namespace RemoteJobs.Toml

def isGap (c : Char) : Bool :=
  c == ' ' || c == '\t'

/-- Characters that comments and strings may hold: no control character but the tab. -/
def isTextChar (c : Char) : Bool :=
  c == '\t' || (' ' ≤ c && c != '\x7f')

def skipGap (s : List Char) : List Char :=
  s.dropWhile isGap

/-- What follows a line end, which is a newline with or without a carriage return before it. -/
def lineEnd? : List Char → Option (List Char)
  | '\n' :: rest | '\r' :: '\n' :: rest => some rest
  | _ => none

/-- What follows the rest of a line that holds nothing more than a comment. -/
def closeLine? (s : List Char) : Option (List Char) :=
  let rest := match skipGap s with
    | '#' :: comment => comment.dropWhile isTextChar
    | rest => rest
  if rest.isEmpty then some [] else lineEnd? rest

/-- Skips gaps, line ends and comments between the elements of an array. A comment must end with its
line. -/
def skipFiller (inComment : Bool) : List Char → Option (List Char)
  | [] => if inComment then none else some []
  | c :: rest =>
    if c = '\n' then skipFiller false rest
    else if c = '\r' ∧ rest.head? = some '\n' then skipFiller inComment rest
    else if inComment then if isTextChar c then skipFiller true rest else none
    else if isGap c then skipFiller false rest
    else if c = '#' then skipFiller true rest
    else some (c :: rest)

end RemoteJobs.Toml
