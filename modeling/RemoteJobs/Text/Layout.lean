import RemoteJobs.Text.Printable

/-! How a text is laid out: what it begins with, the fields and lines it falls into, and how a message quotes
it. -/
namespace RemoteJobs.Text

/-- Does the text begin with the lead? Every text begins with the empty lead. -/
def begins (lead text : String) : Bool :=
  lead.toList.isPrefixOf text.toList

/-- The fields that a single character separates. There is always one field more than there are separators, so a
text without separator is its own only field. -/
def fields (separator : Char) : List Char → List (List Char)
  | [] => [[]]
  | c :: rest =>
    if c = separator then [] :: fields separator rest
    else
      match fields separator rest with
      | [] => [[c]]
      | field :: more => (c :: field) :: more

/-- A newline ends a line and takes one carriage return before it along; no other character ends a line, and a
text that ends in a newline has no empty line after it. -/
def lines : List Char → List (List Char)
  | [] => []
  | '\n' :: rest => [] :: lines rest
  | '\r' :: '\n' :: rest => [] :: lines rest
  | c :: rest =>
    match lines rest with
    | [] => [[c]]
    | line :: more => (c :: line) :: more

/-- The hexadecimal digits of a number, without leading zeros. -/
def hexText (n : Nat) : String :=
  String.ofList (Nat.toDigits 16 n)

/-- What does not print is written by its code point. -/
def escapeChar (c : Char) : String :=
  match c with
  | '\x00' => "\\0"
  | '\t' => "\\t"
  | '\n' => "\\n"
  | '\r' => "\\r"
  | '"' => "\\\""
  | '\\' => "\\\\"
  | _ => if isPrintable c then String.singleton c else "\\u\x7b" ++ hexText c.toNat ++ "\x7d"

/-- A text in double quotes, as messages quote it. -/
def quoted (text : String) : String :=
  "\"" ++ String.join (text.toList.map escapeChar) ++ "\""

end RemoteJobs.Text
