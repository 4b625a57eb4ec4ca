import RemoteJobs.Listing.Record

/-! Scanning a listing for the members of a family. Every record is offered in turn to a partly filled
tree, which takes it into the first open slot it fits. A slot, once filled, keeps its record. Records
whose anchor comes later in the listing are picked up by a further pass, until a pass adds nothing. -/
namespace RemoteJobs.Listing

variable {Tree : Type}

/-- One pass over the records: the tree afterwards and whether anything was added. A complete tree ends
the pass at once. -/
def pass (offer : Tree → Record → Option Tree) (complete : Tree → Bool) :
    List Record → Tree → Bool → Tree × Bool
  | [], tree, added => (tree, added)
  | record :: rest, tree, added =>
    match offer tree record with
    | some grown => if complete grown then (grown, true) else pass offer complete rest grown true
    | none => if complete tree then (tree, added) else pass offer complete rest tree added

/-- Passes until the tree is complete or a pass adds nothing; nothing is returned where the given number
of passes does not get there. -/
def settle (offer : Tree → Record → Option Tree) (complete : Tree → Bool) (records : List Record) :
    Nat → Tree → Option Tree
  | 0, _ => none
  | passes + 1, tree =>
    let (grown, added) := pass offer complete records tree false
    if complete grown || !added then some grown else settle offer complete records passes grown

end RemoteJobs.Listing
