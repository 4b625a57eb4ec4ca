import RemoteJobs.Status

/-! Legal status changes. The table lists, for every status, the statuses one event can reach. An event
names its target; naming the present status again changes nothing while the job is active. Terminal
statuses accept no event. -/
namespace RemoteJobs

/-- Why a status change was refused. -/
inductive TransitionError where
  | undefined (source target : Status)
  | unknownStatus (text : String)
  deriving DecidableEq, Repr

def TransitionError.message : TransitionError → String
  | .undefined source target => "No transition defined from " ++ source.name ++ " to " ++ target.name
  | .unknownStatus text => "Unknown job status: '" ++ text ++ "'"

namespace Status

/-- The statuses that one event reaches from a status, in table order, the status itself left out. -/
def targets : Status → List Status
  | .pending => [.processingInputs, .blocked, .paused, .failed, .cancelled]
  | .processingInputs => [.stagingInputs, .blocked, .paused, .failed, .cancelled]
  | .stagingInputs => [.stagingJob, .blocked, .paused, .failed, .cancelled]
  | .stagingJob => [.submittingJob, .blocked, .paused, .failed, .cancelled]
  | .submittingJob => [.queued, .running, .blocked, .paused, .failed, .cancelled]
  | .queued => [.running, .blocked, .paused, .failed, .cancelled]
  | .running => [.archiving, .blocked, .paused, .failed, .cancelled]
  | .archiving => [.finished, .blocked, .paused, .failed, .cancelled]
  | .blocked =>
    [.pending, .processingInputs, .stagingInputs, .stagingJob, .submittingJob, .queued, .running,
      .archiving, .paused, .failed, .cancelled, .finished]
  | .paused =>
    [.pending, .processingInputs, .stagingInputs, .stagingJob, .submittingJob, .queued, .running,
      .archiving, .failed, .cancelled, .finished]
  | .finished | .cancelled | .failed => []

/-- An event is legal when the status is active and the event names it or an edge of the table. -/
def canBecome (source target : Status) : Bool :=
  !source.isTerminal && (source == target || source.targets.contains target)

/-- The same question asked by name. A missing or unknown name is never legal. -/
def canBecomeNamed (source target : Option String) : Bool :=
  match source, target with
  | some source, some target =>
    match ofName? source, ofName? target with
    | some source, some target => canBecome source target
    | _, _ => false
  | _, _ => false

/-- Reads a status name, keeping the text for the report where it names none. -/
def parse (text : String) : Except TransitionError Status :=
  match ofName? text with
  | some status => .ok status
  | none => .error (.unknownStatus text)

end Status

/-- What becomes of an event that the table does not list. -/
inductive Strictness where
  | strict
  | lenient
  deriving DecidableEq, Repr, Inhabited

/-- The effect of an event. -/
inductive Fired where
  | moved (source target : Status)
  | unchanged
  | ignored
  deriving DecidableEq, Repr

/-- Applies an event to a status: the effect and the status afterwards. -/
def Strictness.fire (strictness : Strictness) (current event : Status) :
    Except TransitionError Fired × Status :=
  if current.canBecome event then
    if current = event then (.ok .unchanged, current) else (.ok (.moved current event), event)
  else
    match strictness with
    | .strict => (.error (.undefined current event), current)
    | .lenient => (.ok .ignored, current)

end RemoteJobs
