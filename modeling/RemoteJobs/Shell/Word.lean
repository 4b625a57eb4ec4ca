/-! Words of a POSIX shell command line. An argument made only of harmless characters is written as it
is, any other inside single quotes; reading splits a line at unquoted blanks and takes the quotes away. -/
namespace RemoteJobs.Shell

/-- Characters that no shell gives a meaning to inside a word. -/
def isPlain (c : Char) : Bool :=
  c.isAlphanum || c == '-' || c == '_' || c == '.' || c == '/' || c == ':' || c == '=' || c == '@' ||
    c == '%' || c == '+' || c == ','

/-- A single quote cannot stand inside single quotes: they are closed, the quote is written behind a
backslash, and they are opened again. -/
def escape : List Char → List Char
  | [] => []
  | c :: rest => if c = '\'' then '\'' :: '\\' :: '\'' :: '\'' :: escape rest else c :: escape rest

def quoteWord (word : List Char) : List Char :=
  if !word.isEmpty && word.all isPlain then word else '\'' :: escape word ++ ['\'']

def quote (argument : String) : String :=
  String.ofList (quoteWord argument.toList)

/-! ### Reading -/

/-- Unquoted characters that end a word's plain reading: operators, expansions, double quotes, patterns,
comments and line ends. -/
def isMeta (c : Char) : Bool :=
  "|&;<>()$`\"*?[]#~!^\x7b\x7d\n\r".toList.contains c

/-- Blanks between words. -/
def isGap (c : Char) : Bool :=
  c == ' ' || c == '\t'

/-- Where the reader stands: between words, in the plain part of a word, or inside its single quotes.
The word read so far is kept in order. -/
inductive Reading where
  | between
  | plain (word : List Char)
  | quoted (word : List Char)

/-- The words of a line, or nothing where a quote stays open, a backslash ends the line or an unquoted
character has a meaning of its own. -/
def splitFrom : Reading → List Char → Option (List (List Char))
  | .between, [] => some []
  | .plain word, [] => some [word]
  | .quoted _, [] => none
  | .quoted word, c :: rest =>
    if c = '\'' then splitFrom (.plain word) rest else splitFrom (.quoted (word ++ [c])) rest
  | .between, '\\' :: c :: rest => splitFrom (.plain [c]) rest
  | .plain word, '\\' :: c :: rest => splitFrom (.plain (word ++ [c])) rest
  | .between, c :: rest =>
    if isGap c then splitFrom .between rest
    else if c = '\'' then splitFrom (.quoted []) rest
    else if c = '\\' ∨ isMeta c then none
    else splitFrom (.plain [c]) rest
  | .plain word, c :: rest =>
    if isGap c then (splitFrom .between rest).map (word :: ·)
    else if c = '\'' then splitFrom (.quoted word) rest
    else if c = '\\' ∨ isMeta c then none
    else splitFrom (.plain (word ++ [c])) rest

def split (line : String) : Option (List String) :=
  (splitFrom .between line.toList).map (·.map String.ofList)

end RemoteJobs.Shell
