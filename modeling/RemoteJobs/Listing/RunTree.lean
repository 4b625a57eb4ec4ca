import RemoteJobs.Listing.Scan

/-! Process family of a job started with `singularity run`. Its remote id names the launching process,
the runscript is a child of that and the application a child of the runscript. -/
namespace RemoteJobs.Listing

structure RunTree where
  parent : Option Record := none
  runscript : Option Record := none
  app : Option Record := none
  deriving DecidableEq, Repr

namespace RunTree

/-- The records in the filled slots. -/
def members (tree : RunTree) : List Record :=
  [tree.parent, tree.runscript, tree.app].filterMap id

/-- No process fills two slots. -/
def holds (tree : RunTree) (pid : Nat) : Bool :=
  tree.members.any fun r => r.pid == pid

def isComplete (tree : RunTree) : Bool :=
  tree.parent.isSome && tree.runscript.isSome && tree.app.isSome

/-- The tree with the record in the first open slot it fits, if there is one. -/
def offer (remotePid : Option Nat) (tree : RunTree) (r : Record) : Option RunTree :=
  if tree.holds r.pid then none
  else if tree.parent.isNone && remotePid == some r.pid then some { tree with parent := some r }
  else if tree.runscript.isNone && tree.parent.map (·.pid) == some r.ppid then
    some { tree with runscript := some r }
  else if tree.app.isNone && tree.runscript.map (·.pid) == some r.ppid then
    some { tree with app := some r }
  else none

/-- A pass that adds something fills a slot, so one pass more than there are slots always settles. -/
def scanRecords (records : List Record) (remoteId : String) : RunTree :=
  (settle (offer (pidOf? remoteId)) isComplete records 4 {}).getD {}

def scan (listing remoteId : String) : RunTree :=
  scanRecords (records listing) remoteId

end RunTree

end RemoteJobs.Listing
