import RemoteJobs.Toml.Value

/-! Growth of a document, line by line. A header opens a table, and a pair adds a value to the table opened
last. No key is given twice, no table is opened twice, and what is written between braces or brackets stays as
it is. -/
namespace RemoteJobs.Toml

/-- One line of a document that says something. -/
inductive Line where
  | header (path : List String) (key : String)
  | arrayHeader (path : List String) (key : String)
  | pair (path : List String) (key : String) (value : Value)

namespace Entries

/-- Changes the value of a key, or adds one behind all others. -/
def alter? (key : String) (change : Option Value → Option Value) : Entries → Option Entries
  | [] => (change none).map fun value => [(key, value)]
  | (k, value) :: rest =>
    if k = key then (change (some value)).map fun value => (k, value) :: rest
    else (alter? key change rest).map ((k, value) :: ·)

/-- May a key lead through a table? A dotted key may not reach into a table with a header of its own. -/
def leadsThrough (dotted : Bool) : Origin → Bool
  | .header => !dotted
  | .implied | .dotted => true
  | .inline => false

/-- Changes the table at the end of a path. Tables missing on the way are made; an array of tables stands for
its last one. -/
def within? (dotted : Bool) (change : Origin → Entries → Option Entries) :
    List String → Origin → Entries → Option Entries
  | [], origin, entries => change origin entries
  | key :: path, _, entries =>
    alter? key
      (fun
        | none =>
          let origin := if dotted then Origin.dotted else .implied
          (within? dotted change path origin []).map (.table origin)
        | some (.table origin inner) =>
          if leadsThrough dotted origin then (within? dotted change path origin inner).map (.table origin)
          else none
        | some (.tables earlier last) => (within? dotted change path .header last).map (.tables earlier)
        | some _ => none)
      entries

/-- Adds a new key. -/
def add? (key : String) (value : Value) : Entries → Option Entries :=
  alter? key fun
    | none => some value
    | some _ => none

/-- Adds a pair. Behind a dotted key stands a table that dotted keys made. -/
def addPair? (path : List String) (key : String) (value : Value) (entries : Entries) : Option Entries :=
  within? true
    (fun origin inner => if path ≠ [] ∧ origin ≠ .dotted then none else add? key value inner)
    path .header entries

/-- Opens a table. A table that was only implied so far is moved behind all others. -/
def openTable? (key : String) (entries : Entries) : Option Entries :=
  let others := entries.filter fun entry => entry.1 != key
  match entries.lookup key with
  | none => some (entries ++ [(key, .table .header [])])
  | some (.table .implied inner) => some (others ++ [(key, .table .header inner)])
  | some _ => none

/-- Opens one more table of an array. -/
def openElement? (key : String) : Entries → Option Entries :=
  alter? key fun
    | none => some (.tables [] [])
    | some (.tables earlier last) => some (.tables (earlier ++ [.table .header last]) [])
    | some _ => none

end Entries

/-- A document so far, and the path of the table opened last. -/
structure Growth where
  root : Entries
  opened : List String

def Growth.add? (growth : Growth) : Line → Option Growth
  | .header path key =>
    (Entries.within? false (fun _ => Entries.openTable? key) path .header growth.root).map
      (⟨·, path ++ [key]⟩)
  | .arrayHeader path key =>
    (Entries.within? false (fun _ => Entries.openElement? key) path .header growth.root).map
      (⟨·, path ++ [key]⟩)
  | .pair path key value =>
    (Entries.within? false (fun _ => Entries.addPair? path key value) growth.opened .header growth.root).map
      (⟨·, growth.opened⟩)

/-- The document that lines make up. -/
def Entries.ofLines? (lines : List Line) : Option Entries :=
  (lines.foldlM Growth.add? ⟨[], []⟩).map (·.root)

/-- The table that pairs between braces make up. -/
def Entries.ofPairs? (pairs : List (List String × String × Value)) : Option Entries :=
  pairs.foldlM (fun entries (path, key, value) => entries.addPair? path key value) []

end RemoteJobs.Toml
