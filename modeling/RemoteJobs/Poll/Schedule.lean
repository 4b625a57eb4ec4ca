/-! How often and how long a job is polled, as configured. A schedule is a list of steps, each with the
wait between polls that applies until a total time has passed, a cap on the total time, and optionally a
cap on the number of polls, which are counted in 32 bits. -/
namespace RemoteJobs.Poll

structure Step where
  intervalSeconds : Nat
  untilSeconds : Nat
  deriving DecidableEq, Repr

structure Schedule where
  maxElapsedSeconds : Nat
  maxAttempts : Option UInt32
  steps : List Step
  deriving DecidableEq, Repr

/-- What is wrong with a schedule. Steps are counted from zero. -/
inductive ScheduleError where
  | zeroMaxElapsed
  | zeroMaxAttempts
  | noSteps
  | zeroInterval (index : Nat)
  | stepsNotIncreasing (index upTo previous : Nat)
  deriving DecidableEq, Repr

def ScheduleError.message : ScheduleError → String
  | .zeroMaxElapsed => "max_elapsed_seconds must be greater than 0"
  | .zeroMaxAttempts => "max_attempts must be greater than 0 when set"
  | .noSteps => "at least one [[monitor.step]] is required"
  | .zeroInterval index => "step " ++ toString index ++ ": interval_seconds must be greater than 0"
  | .stepsNotIncreasing index upTo previous =>
    "step " ++ toString index ++ ": until_seconds must exceed " ++ toString previous ++ ", got " ++
      toString upTo

namespace Schedule

/-- Seven days, every second at first and every five minutes in the end. -/
def standard : Schedule where
  maxElapsedSeconds := 604800
  maxAttempts := none
  steps := [⟨1, 60⟩, ⟨10, 600⟩, ⟨30, 3600⟩, ⟨60, 86400⟩, ⟨300, 604800⟩]

/-- The first fault of the steps from an index on, given the end of the step before. -/
def stepFault? : Nat → Nat → List Step → Option ScheduleError
  | _, _, [] => none
  | index, previous, step :: rest =>
    if step.intervalSeconds = 0 then some (.zeroInterval index)
    else if step.untilSeconds ≤ previous then
      some (.stepsNotIncreasing index step.untilSeconds previous)
    else stepFault? (index + 1) step.untilSeconds rest

/-- The first fault of a schedule: the caps come first, then the steps in order. -/
def fault? (schedule : Schedule) : Option ScheduleError :=
  if schedule.maxElapsedSeconds = 0 then some .zeroMaxElapsed
  else if schedule.maxAttempts = some 0 then some .zeroMaxAttempts
  else if schedule.steps.isEmpty then some .noSteps
  else stepFault? 0 0 schedule.steps

end Schedule

end RemoteJobs.Poll
