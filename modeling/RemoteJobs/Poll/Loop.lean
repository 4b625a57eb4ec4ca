import RemoteJobs.Host
import RemoteJobs.Monitor.Status

/-! The poll loop. A step is repeated until it settles or fails, with the pacer's waits in between. -/
namespace RemoteJobs.Poll

open Monitor

/-- What one poll comes to. -/
inductive Finding (α : Type) where
  /-- Not settled yet. -/
  | pending
  /-- The query found nothing at all. -/
  | empty
  | ready (value : α)
  deriving DecidableEq, Repr

variable {σ α : Type} (host : Host σ)

/-- Waits for the next poll. Without a wait the pacer is exhausted, and the phase ends with the error that says
so. -/
def await (job : Uuid) (wait : Option Nat) (pacer : Pacer) : Session σ (Option MonitorError) := do
  match wait with
  | some nanos =>
    Session.note .trace .poller "job not settled, waiting" ["job", "attempt", "wait"]
    if nanos ≠ 0 then Session.sleep host nanos
    return none
  | none =>
    Session.note .debug .poller "monitoring policy exhausted" ["job", "attempts"]
    let elapsed := pacer.elapsed (← Session.uptime host) / nanosPerSecond
    return some (.policyExhausted job pacer.attempts.toNat elapsed)

/-- Counts a poll that settled nothing and waits for the next one. The run breaks down with a poll that the count
has no room for. -/
def pause (job : Uuid) (pacer : Pacer) : Watch σ (Option MonitorError × Pacer) := do
  match pacer.nextWait (← Session.uptime host) with
  | none => failure
  | some (wait, pacer) => return (← await host job wait pacer, pacer)

/-- Polls until the step settles, an error or an empty result ends the phase, or the pacer is exhausted;
at most the given number of times. -/
def repeatPoll (job : Uuid) (allowEmpty : Bool) (step : Session σ (Except MonitorError (Finding α))) :
    Nat → Pacer → Watch σ (Except MonitorError α × Pacer)
  | 0, _ => failure
  | polls + 1, pacer => do
    match ← step with
    | .error e => return (.error e, pacer)
    | .ok (.ready value) => return (.ok value, pacer)
    | .ok found =>
      if found matches .empty && !allowEmpty then return (.error (.emptyResult job), pacer)
      match ← pause host job pacer with
      | (some e, pacer) => return (.error e, pacer)
      | (none, pacer) => repeatPoll job allowEmpty step polls pacer

/-- One phase: the pacer starts afresh, so earlier use of it makes no difference. -/
def pollUntil (polls : Nat) (job : Uuid) (allowEmpty : Bool)
    (step : Session σ (Except MonitorError (Finding α))) (pacer : Pacer) :
    Watch σ (Except MonitorError α × Pacer) := do
  let now ← Session.uptime host
  repeatPoll host job allowEmpty step polls (pacer.restart now)

end RemoteJobs.Poll
