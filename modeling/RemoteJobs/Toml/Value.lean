import RemoteJobs.Binary64

/-! Values of a TOML document. A table remembers how it came to be, since that decides what may still be
added to it; the entries of a table keep the order in which their keys first appeared. -/
namespace RemoteJobs.Toml

/-- How a table came to be. -/
inductive Origin where
  /-- By a header of its own; the document itself counts as one. -/
  | header
  /-- By standing on the way to the table of a header. -/
  | implied
  /-- By standing on the way to a dotted key. -/
  | dotted
  /-- Written between braces, which close it. -/
  | inline
  deriving DecidableEq, Repr

inductive Value where
  | string (text : String)
  | integer (n : Int)
  | float (x : Binary64)
  | boolean (b : Bool)
  /-- A date, a time or both; no record asks for one. -/
  | datetime
  | array (elements : List Value)
  | table (origin : Origin) (entries : List (String × Value))
  /-- Tables that headers in double brackets added to one array. There is always a last one. -/
  | tables (earlier : List Value) (last : List (String × Value))

abbrev Entries := List (String × Value)

end RemoteJobs.Toml
