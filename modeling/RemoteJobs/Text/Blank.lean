/-! Blank characters and trimming. Every free-form text of a job record, a settings file or a remote
answer is trimmed by the Unicode White_Space property; the columns of a process listing are separated
by the six blanks of ASCII only. -/
namespace RemoteJobs.Text

/-- The Unicode White_Space property. -/
def isBlank (c : Char) : Bool :=
  let n := c.toNat
  (9 ≤ n && n ≤ 13) || n == 0x20 || n == 0x85 || n == 0xA0 || n == 0x1680 ||
    (0x2000 ≤ n && n ≤ 0x200A) || n == 0x2028 || n == 0x2029 || n == 0x202F || n == 0x205F ||
    n == 0x3000

/-- Tab, newline, vertical tab, form feed, carriage return and space. -/
def isAsciiBlank (c : Char) : Bool :=
  let n := c.toNat
  (9 ≤ n && n ≤ 13) || n == 0x20

def trimStart (s : List Char) : List Char :=
  s.dropWhile isBlank

def trimEnd (s : List Char) : List Char :=
  (s.reverse.dropWhile isBlank).reverse

def trim (s : List Char) : List Char :=
  trimEnd (trimStart s)

/-- A text without the blanks around it. -/
def trimmed (s : String) : String :=
  String.ofList (trim s.toList)

/-- A text is blank when nothing is left of it after trimming. -/
def isBlankText (s : String) : Bool :=
  (trim s.toList).isEmpty

/-- The trimmed text, or nothing where the text is blank. -/
def nonBlank? (s : String) : Option String :=
  let kept := trim s.toList
  if kept.isEmpty then none else some (String.ofList kept)

end RemoteJobs.Text
