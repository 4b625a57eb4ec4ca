import RemoteJobs.Poll.Schedule

/-! A schedule at work. The pacer counts the polls of a phase that did not settle it and says how long to
wait before the next one. Times are nanoseconds on a clock that never runs backwards; polls are counted in 32
bits. -/
namespace RemoteJobs.Poll

def nanosPerSecond : Nat := 1000000000

/-- A wait and the time since the start of the phase until which it applies. -/
structure Stage where
  interval : Nat
  upTo : Nat
  deriving DecidableEq, Repr

structure Pacer where
  stages : List Stage
  maxElapsed : Nat
  maxAttempts : Option UInt32
  /-- When the phase began; it begins with the first count where it was not begun before. -/
  started : Option Nat
  attempts : UInt32
  deriving DecidableEq, Repr

namespace Pacer

def ofSchedule (schedule : Schedule) : Pacer where
  stages := schedule.steps.map fun step =>
    ⟨step.intervalSeconds * nanosPerSecond, step.untilSeconds * nanosPerSecond⟩
  maxElapsed := schedule.maxElapsedSeconds * nanosPerSecond
  maxAttempts := schedule.maxAttempts
  started := none
  attempts := 0

/-- The longest time the clock can tell: 64 bits of seconds and all nanoseconds after them. -/
def forever : Nat := 18446744073709551616 * nanosPerSecond - 1

/-- Polls back to back, at most the given number of times. -/
def immediate (maxAttempts : UInt32) : Pacer where
  stages := [⟨0, forever⟩]
  maxElapsed := forever
  maxAttempts := some maxAttempts
  started := none
  attempts := 0

/-- Begins a phase: clock and count go back to zero. -/
def restart (now : Nat) (pacer : Pacer) : Pacer :=
  { pacer with started := some now, attempts := 0 }

/-- The wait that applies after a time: that of the first stage not over yet, else that of the last. -/
def intervalAt? (stages : List Stage) (elapsed : Nat) : Option Nat :=
  match stages.find? fun stage => elapsed < stage.upTo with
  | some stage => some stage.interval
  | none => stages.getLast?.map (·.interval)

/-- Time since the phase began. -/
def elapsed (now : Nat) (pacer : Pacer) : Nat :=
  match pacer.started with
  | some start => now - start
  | none => 0

/-- Has the count reached the limit on polls? -/
def outOfPolls (pacer : Pacer) : Bool :=
  match pacer.maxAttempts with
  | some limit => limit ≤ pacer.attempts
  | none => false

/-- One poll more that did not settle the phase. -/
def counted (now : Nat) (pacer : Pacer) : Pacer :=
  { pacer with started := some (pacer.started.getD now), attempts := pacer.attempts + 1 }

/-- The wait before the next poll. There is none where the number of polls or the time is used up, and it never
outlasts the phase. -/
def wait? (now : Nat) (pacer : Pacer) : Option Nat :=
  let elapsed := pacer.elapsed now
  if pacer.outOfPolls || pacer.maxElapsed ≤ elapsed then none
  else (intervalAt? pacer.stages elapsed).map (min · (pacer.maxElapsed - elapsed))

/-- Counts a poll and tells the wait after it. Nothing comes of a poll that overflows the count. -/
def nextWait (now : Nat) (pacer : Pacer) : Option (Option Nat × Pacer) :=
  if pacer.attempts.toNat + 1 < UInt32.size then
    let pacer := pacer.counted now
    some (pacer.wait? now, pacer)
  else none

end Pacer

end RemoteJobs.Poll
