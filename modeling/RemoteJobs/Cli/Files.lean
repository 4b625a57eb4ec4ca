import RemoteJobs.Text.Layout

/-! Files as a run meets them: reading one gives its text or says why there is none. A file tree answers for
the files of a machine, so that a run can be tried out without one. -/
namespace RemoteJobs.Cli

/-- Why a file could not be read. -/
inductive FileError where
  | missing
  | isDirectory
  /-- Some part of the path before the last one is no directory. -/
  | notDirectory
  /-- The path is too long, or one of its names. -/
  | nameTooLong
  | other (reason : String)
  deriving DecidableEq, Repr

namespace FileError

def message : FileError → String
  | .missing => "No such file or directory (os error 2)"
  | .isDirectory => "Is a directory (os error 21)"
  | .notDirectory => "Not a directory (os error 20)"
  | .nameTooLong => "File name too long (os error 36)"
  | .other reason => reason

end FileError

/-- Files by the names on the way to them from the root, and the directory that paths without a leading slash
start from. All that is known of a directory is what lies in it. -/
structure FileTree where
  files : List (List String × String)
  working : List String
  deriving DecidableEq, Repr

namespace FileTree

/-- The bytes a name may have. -/
def maxName : Nat := 255

/-- The bytes a path may have. -/
def maxPath : Nat := 4095

def isDirectory (tree : FileTree) (place : List String) : Bool :=
  place.isPrefixOf tree.working ||
    tree.files.any fun (file, _) => place.isPrefixOf file && place.length < file.length

def isFile (tree : FileTree) (place : List String) : Bool :=
  (tree.files.lookup place).isSome

/-- Follows names from a place. Every step starts from a directory, also one that stays there or goes up; above
the root is the root. -/
def walk (tree : FileTree) : List String → List String → Except FileError (List String)
  | [], place => .ok place
  | name :: rest, place =>
    if !tree.isDirectory place then .error .notDirectory
    else if name = "" ∨ name = "." then tree.walk rest place
    else if name = ".." then tree.walk rest place.dropLast
    else if maxName < name.utf8ByteSize then .error .nameTooLong
    else
      let next := place ++ [name]
      if tree.isDirectory next || tree.isFile next then tree.walk rest next else .error .missing

/-- Where a path leads. -/
def find (tree : FileTree) (path : String) : Except FileError (List String) :=
  if path.isEmpty then .error .missing
  else if maxPath < path.utf8ByteSize then .error .nameTooLong
  else
    let names := (Text.fields '/' path.toList).map String.ofList
    tree.walk names (if path.toList.head? = some '/' then [] else tree.working)

/-- Does a path lead anywhere? A directory counts. -/
def present (tree : FileTree) (path : String) : Bool :=
  (tree.find path).isOk

/-- Reads the file that a path leads to. -/
def read (tree : FileTree) (path : String) : Except FileError String := do
  match tree.files.lookup (← tree.find path) with
  | some contents => return contents
  | none => throw .isDirectory

/-- Adds a file under a path of plain names from the working directory. -/
def add (tree : FileTree) (path contents : String) : FileTree :=
  let names := (Text.fields '/' path.toList).map String.ofList
  { tree with files := tree.files ++ [(tree.working ++ names.filter (fun name => name ≠ "" ∧ name ≠ "."), contents)] }

end FileTree

end RemoteJobs.Cli
