import RemoteJobs.Listing.Scan

/-! Process family of a job started with `singularity instance start`. Its remote id names sinit. The
instance daemon is recognised by the job's identifier in brackets at the end of its command, the
startscript is a child of sinit and the application a child of the startscript. -/
namespace RemoteJobs.Listing

structure InstanceTree where
  daemon : Option Record := none
  sinit : Option Record := none
  startscript : Option Record := none
  app : Option Record := none
  deriving DecidableEq, Repr

namespace InstanceTree

/-- The records in the filled slots. -/
def members (tree : InstanceTree) : List Record :=
  [tree.daemon, tree.sinit, tree.startscript, tree.app].filterMap id

/-- No process fills two slots. -/
def holds (tree : InstanceTree) (pid : Nat) : Bool :=
  tree.members.any fun r => r.pid == pid

def isComplete (tree : InstanceTree) : Bool :=
  tree.daemon.isSome && tree.sinit.isSome && tree.startscript.isSome && tree.app.isSome

/-- The text that ends the command of the job's daemon. -/
def tag (job : String) : List Char :=
  '[' :: job.toList ++ [']']

/-- The tree with the record in the first open slot it fits, if there is one. -/
def offer (remotePid : Option Nat) (tag : List Char) (tree : InstanceTree) (r : Record) :
    Option InstanceTree :=
  if tree.holds r.pid then none
  else if tree.daemon.isNone && tag.isSuffixOf r.rest.toList then some { tree with daemon := some r }
  else if tree.sinit.isNone && remotePid == some r.pid then some { tree with sinit := some r }
  else if tree.startscript.isNone && remotePid == some r.ppid then
    some { tree with startscript := some r }
  else if tree.app.isNone && tree.startscript.map (·.pid) == some r.ppid then
    some { tree with app := some r }
  else none

/-- A pass that adds something fills a slot, so one pass more than there are slots always settles. -/
def scanRecords (records : List Record) (remoteId job : String) : InstanceTree :=
  (settle (offer (pidOf? remoteId) (tag job)) isComplete records 5 {}).getD {}

def scan (listing remoteId job : String) : InstanceTree :=
  scanRecords (records listing) remoteId job

end InstanceTree

end RemoteJobs.Listing
