import RemoteJobs.Poll.Loop
import RemoteJobs.Proofs.SessionRuns
import Mathlib.Algebra.Group.Nat.Defs

/-! Phases of polling, round by round. A phase is a list of polls with pauses in between, each granted by the
pacer; what its last poll found decides how it ends. Every phase that ends is such a list, and with enough
polls granted every such list is a phase. -/
namespace RemoteJobs.Proofs.PollRuns
open Session Poll SessionRuns

variable {σ α β : Type} {host : Host σ} {before after : σ} {pacer next last : Pacer} {job : Uuid}
  {allowEmpty : Bool} {polls : Nat}

/-! ### The count -/

section Counts

variable {now : Nat} {wait : Option Nat}

theorem size_eq : UInt32.size = 2 ^ 32 := rfl

/-- The count overflows with the poll after the last one that it has room for. -/
@[simp] theorem nextWait_eq_none : pacer.nextWait now = none ↔ 2 ^ 32 ≤ pacer.attempts.toNat + 1 := by
  rw [Pacer.nextWait, size_eq]
  split <;> simp <;> omega

@[simp] theorem nextWait_eq_some :
    pacer.nextWait now = some (wait, next) ↔
      pacer.attempts.toNat + 1 < 2 ^ 32 ∧ pacer.counted now = next ∧ next.wait? now = wait := by
  rw [Pacer.nextWait, size_eq]
  split
  · rename_i room
    simp only [room, Option.some.injEq, Prod.mk.injEq, true_and]
    constructor
    · rintro ⟨rfl, rfl⟩
      exact ⟨rfl, rfl⟩
    · rintro ⟨rfl, rfl⟩
      exact ⟨rfl, rfl⟩
  · rename_i full
    exact ⟨nofun, fun ⟨room, _⟩ => absurd room full⟩

@[simp] theorem counted_maxAttempts : (pacer.counted now).maxAttempts = pacer.maxAttempts := rfl

theorem succ_toNat {count : UInt32} (room : count.toNat + 1 < 2 ^ 32) : (count + 1).toNat = count.toNat + 1 := by
  have sum : (count + 1).toNat = (count.toNat + 1) % 2 ^ 32 := UInt32.toNat_add _ _
  rw [sum, Nat.mod_eq_of_lt room]

theorem counted_attempts (room : pacer.attempts.toNat + 1 < 2 ^ 32) :
    (pacer.counted now).attempts.toNat = pacer.attempts.toNat + 1 :=
  succ_toNat room

/-- A limit that the count has reached leaves no wait. -/
theorem wait_reached {limit : UInt32} (limited : pacer.maxAttempts = some limit)
    (reached : limit ≤ pacer.attempts) : pacer.wait? now = none := by
  simp [Pacer.wait?, Pacer.outOfPolls, limited, reached]

end Counts

/-! ### Pauses -/

/-- The pacer grants another poll, and the wait before it is over. -/
def Rests (host : Host σ) (pacer : Pacer) (before : σ) (next : Pacer) (after : σ) : Prop :=
  ∃ nanos, pacer.nextWait (host.uptime before) = some (some nanos, next) ∧
    after = if nanos = 0 then before else host.sleep nanos before

/-- A pause counts one poll and leaves the schedule as it is. -/
theorem rests_next (rests : Rests host pacer before next after) :
    next.attempts.toNat = pacer.attempts.toNat + 1 ∧ next.maxAttempts = pacer.maxAttempts ∧
      ∀ now, next.restart now = pacer.restart now := by
  obtain ⟨nanos, granted, _⟩ := rests
  obtain ⟨room, rfl, _⟩ := nextWait_eq_some.mp granted
  exact ⟨counted_attempts room, rfl, fun _ => rfl⟩

/-- Another poll is granted only below the limit. -/
theorem rests_below {limit : UInt32} (limited : pacer.maxAttempts = some limit)
    (rests : Rests host pacer before next after) : pacer.attempts.toNat + 1 < limit.toNat := by
  obtain ⟨nanos, granted, _⟩ := rests
  obtain ⟨room, rfl, wait⟩ := nextWait_eq_some.mp granted
  rw [← counted_attempts room]
  refine Nat.lt_of_not_le fun reached => ?_
  rw [wait_reached (counted_maxAttempts.trans limited) (UInt32.le_iff_toNat_le.mpr reached)] at wait
  cases wait

theorem yields_await (job : Uuid) (nanos : Nat) (pacer : Pacer) (before : σ) :
    Yields (await host job (some nanos) pacer) before none []
      (if nanos = 0 then before else host.sleep nanos before) := by
  unfold await
  refine yields_after (yields_note _ _ _ _ _) ?_
  by_cases idle : nanos = 0
  · subst idle
    exact yields_pure _ _
  · rw [if_pos idle, if_neg idle]
    exact yields_before (yields_sleep host nanos before) (yields_pure _ _)

theorem completes_rest (job : Uuid) (rests : Rests host pacer before next after) :
    Completes (pause host job pacer) before (none, next) [] after := by
  obtain ⟨nanos, granted, rfl⟩ := rests
  unfold pause
  refine completes_after (completes_lift (yields_uptime host before)) ?_
  rw [granted]
  exact completes_after (completes_lift (yields_await job nanos next before)) (completes_pure _ _)

/-- A pause without a wait ends the phase. -/
theorem completes_exhaustion (job : Uuid) (spent : pacer.nextWait (host.uptime before) = some (none, next)) :
    Completes (pause host job pacer) before
      (some (.policyExhausted job next.attempts.toNat (next.elapsed (host.uptime before) / nanosPerSecond)),
        next) [] before := by
  unfold pause
  refine completes_after (completes_lift (yields_uptime host before)) ?_
  rw [spent]
  refine completes_after (completes_lift ?_) (completes_pure _ _)
  exact yields_after (yields_note _ _ _ _ _) (yields_after (yields_uptime host before) (yields_pure _ _))

/-- A poll that overflows the count breaks the run down. -/
theorem unfinished_overflow (job : Uuid) (full : pacer.nextWait (host.uptime before) = none) :
    Unfinished (pause host job pacer) before := by
  unfold pause
  refine unfinished_later (completes_lift (yields_uptime host before)) ?_
  rw [full]
  exact fun _ _ => rfl

/-! ### Rounds -/

/-- One poll: what it found, and its dealings with the host. -/
structure Round (β : Type) where
  found : β
  dealings : List HostEvent

def dealingsOf (rounds : List (Round β)) : List HostEvent :=
  rounds.flatMap Round.dealings

/-- Polls with a pause between each and the next, all of them granted. Whether an earlier poll should have ended
the phase is not asked. -/
inductive Paced (host : Host σ) (poll : Session σ β) :
    Pacer → σ → List (Round β) → Pacer → σ → Prop where
  | last {pacer : Pacer} {before after : σ} {found : β} {dealings : List HostEvent}
    (polled : Yields poll before found dealings after) :
    Paced host poll pacer before [⟨found, dealings⟩] pacer after
  | next {pacer next last : Pacer} {before between rested after : σ} {found : β}
    {dealings : List HostEvent} {rounds : List (Round β)}
    (polled : Yields poll before found dealings between) (rests : Rests host pacer between next rested)
    (later : Paced host poll next rested rounds last after) :
    Paced host poll pacer before (⟨found, dealings⟩ :: rounds) last after

/-- Pauses leave the schedule as it is. -/
theorem paced_restart {poll : Session σ β} {rounds : List (Round β)}
    (paced : Paced host poll pacer before rounds last after) (now : Nat) :
    last.restart now = pacer.restart now := by
  induction paced with
  | last => rfl
  | next _ rests _ ih => rw [ih, (rests_next rests).2.2]

/-- Every round but the last is counted. -/
theorem paced_attempts {poll : Session σ β} {rounds : List (Round β)}
    (paced : Paced host poll pacer before rounds last after) :
    last.attempts.toNat + 1 = pacer.attempts.toNat + rounds.length := by
  induction paced with
  | last => rfl
  | next _ rests _ ih =>
    rw [ih, (rests_next rests).1, List.length_cons]
    omega

/-- No more polls than the limit leaves, but always one. -/
theorem paced_bounded {poll : Session σ β} {rounds : List (Round β)} {limit : UInt32}
    (paced : Paced host poll pacer before rounds last after) (limited : pacer.maxAttempts = some limit) :
    rounds.length ≤ max (limit.toNat - pacer.attempts.toNat) 1 := by
  induction paced with
  | last => exact Nat.le_max_right _ _
  | next _ rests _ ih =>
    obtain ⟨counted, kept, _⟩ := rests_next rests
    have below := rests_below limited rests
    have rest := ih (kept.trans limited)
    rw [counted] at rest
    simp only [List.length_cons]
    omega

/-- From every state of the host the poll comes to a finding, by dealings that the law allows for it. -/
def Polls (poll : Session σ β) (lawful : β → List HostEvent → Prop) : Prop :=
  ∀ before, ∃ found dealings after, Yields poll before found dealings after ∧ lawful found dealings

theorem polls_lawful {poll : Session σ β} {lawful : β → List HostEvent → Prop} {found : β}
    {dealings : List HostEvent} (polling : Polls poll lawful)
    (polled : Yields poll before found dealings after) : lawful found dealings := by
  obtain ⟨foreseen, expected, _, yields, allowed⟩ := polling before
  obtain ⟨rfl, rfl, _⟩ := yields_unique polled yields
  exact allowed

/-- What the law allows for every poll holds of every round. -/
theorem paced_lawful {poll : Session σ β} {rounds : List (Round β)} {lawful : β → List HostEvent → Prop}
    (polling : Polls poll lawful) (paced : Paced host poll pacer before rounds last after) :
    ∀ round ∈ rounds, lawful round.found round.dealings := by
  induction paced with
  | last polled => simpa using polls_lawful polling polled
  | next polled _ _ ih => simpa using ⟨polls_lawful polling polled, ih⟩

/-! ### Phases -/

/-- The finding does not end a phase. -/
inductive Open (allowEmpty : Bool) : Finding α → Prop where
  | pending : Open allowEmpty .pending
  | empty (allowed : allowEmpty = true) : Open allowEmpty .empty

theorem open_unready {found : Finding α} (unsettled : Open allowEmpty found) (value : α) :
    found ≠ .ready value := by
  cases unsettled <;> nofun

/-- How the rounds of a phase end it: all but the last leave it open, and what the last one found is the
result, unless the pacer was exhausted after it. -/
inductive Ended (job : Uuid) (allowEmpty : Bool) :
    List (Round (Except MonitorError (Finding α))) → Except MonitorError α → Prop where
  | settled {value : α} {dealings : List HostEvent} :
    Ended job allowEmpty [⟨.ok (.ready value), dealings⟩] (.ok value)
  | failed {e : MonitorError} {dealings : List HostEvent} :
    Ended job allowEmpty [⟨.error e, dealings⟩] (.error e)
  | barren {dealings : List HostEvent} (refused : allowEmpty = false) :
    Ended job allowEmpty [⟨.ok .empty, dealings⟩] (.error (.emptyResult job))
  | exhausted {found : Finding α} {dealings : List HostEvent} {attempts elapsed : Nat}
    (unsettled : Open allowEmpty found) :
    Ended job allowEmpty [⟨.ok found, dealings⟩] (.error (.policyExhausted job attempts elapsed))
  | later {found : Finding α} {dealings : List HostEvent}
    {rounds : List (Round (Except MonitorError (Finding α)))} {result : Except MonitorError α}
    (unsettled : Open allowEmpty found) (ended : Ended job allowEmpty rounds result) :
    Ended job allowEmpty (⟨.ok found, dealings⟩ :: rounds) result

/-- A poll makes its finding of an answer, or fails before it has asked anything. -/
inductive Reads (asked : β → List HostEvent → Prop) (finding : β → Finding α) :
    Except MonitorError (Finding α) → List HostEvent → Prop where
  | answered {answer : β} {dealings : List HostEvent} (allowed : asked answer dealings) :
    Reads asked finding (.ok (finding answer)) dealings
  | failed (e : MonitorError) : Reads asked finding (.error e) []

theorem reads_found {asked : β → List HostEvent → Prop} {finding : β → Finding α} {found : Finding α}
    {dealings : List HostEvent} (reads : Reads asked finding (.ok found) dealings) :
    ∃ answer, finding answer = found ∧ asked answer dealings := by
  cases reads with
  | answered allowed => exact ⟨_, rfl, allowed⟩

/-- How the answers to its polls end a phase: only the last one settles it, or none does. -/
inductive Decided (finding : β → Finding α) : List (Round β) → Except MonitorError α → Prop where
  | settled {earlier : List (Round β)} {last : Round β} {value : α}
    (unsettled : ∀ answer ∈ earlier, ∀ other, finding answer.found ≠ .ready other)
    (ready : finding last.found = .ready value) : Decided finding (earlier ++ [last]) (.ok value)
  | abandoned {answers : List (Round β)} (e : MonitorError)
    (unsettled : ∀ answer ∈ answers, ∀ value, finding answer.found ≠ .ready value) :
    Decided finding answers (.error e)

theorem decided_later {finding : β → Finding α} {answers : List (Round β)} {first : Round β}
    {result : Except MonitorError α} (unsettled : ∀ value, finding first.found ≠ .ready value)
    (decided : Decided finding answers result) : Decided finding (first :: answers) result := by
  cases decided with
  | @settled earlier last value later ready =>
    exact (.settled (List.forall_mem_cons.mpr ⟨unsettled, later⟩) ready :
      Decided finding ((first :: earlier) ++ [last]) (.ok value))
  | abandoned e later => exact .abandoned e (List.forall_mem_cons.mpr ⟨unsettled, later⟩)

/-- The answers that a phase went through are all its dealings with the host. Induction on how it ends. -/
theorem ended_answers {asked : β → List HostEvent → Prop} {finding : β → Finding α}
    {rounds : List (Round (Except MonitorError (Finding α)))} {result : Except MonitorError α}
    (reads : ∀ round ∈ rounds, Reads asked finding round.found round.dealings)
    (ended : Ended job allowEmpty rounds result) :
    ∃ answers : List (Round β), dealingsOf answers = dealingsOf rounds ∧
      (∀ answer ∈ answers, asked answer.found answer.dealings) ∧ Decided finding answers result := by
  induction ended with
  | @settled value dealings =>
    obtain ⟨answer, ready, allowed⟩ := reads_found (reads _ List.mem_cons_self)
    refine ⟨[⟨answer, dealings⟩], rfl, by simpa using allowed, ?_⟩
    exact (.settled (by simp) ready : Decided finding ([] ++ [(⟨answer, dealings⟩ : Round β)]) (.ok value))
  | @failed e dealings =>
    obtain rfl : dealings = [] := by
      cases reads _ List.mem_cons_self
      rfl
    exact ⟨[], rfl, by simp, .abandoned e (by simp)⟩
  | @barren dealings refused =>
    obtain ⟨answer, empty, allowed⟩ := reads_found (reads _ List.mem_cons_self)
    refine ⟨[⟨answer, dealings⟩], rfl, by simpa using allowed, .abandoned _ ?_⟩
    simp [empty]
  | @exhausted found dealings _ _ unsettled =>
    obtain ⟨answer, rfl, allowed⟩ := reads_found (reads _ List.mem_cons_self)
    refine ⟨[⟨answer, dealings⟩], rfl, by simpa using allowed, .abandoned _ ?_⟩
    simpa using open_unready unsettled
  | @later found dealings rounds result unsettled ended ih =>
    obtain ⟨answer, rfl, allowed⟩ := reads_found (reads _ List.mem_cons_self)
    obtain ⟨answers, same, lawful, decided⟩ := ih fun round member => reads round (List.mem_cons_of_mem _ member)
    refine ⟨⟨answer, dealings⟩ :: answers, ?_, by simpa using ⟨allowed, lawful⟩,
      decided_later (open_unready unsettled) decided⟩
    simpa [dealingsOf] using same

section Loops

variable {step : Session σ (Except MonitorError (Finding α))}
  {rounds : List (Round (Except MonitorError (Finding α)))} {found : Finding α} {dealings : List HostEvent}

/-- A poll that leaves the phase open is followed by a pause, and by another poll if that is granted. -/
theorem repeatPoll_open (host : Host σ) (job : Uuid)
    (step : Session σ (Except MonitorError (Finding α))) (polls : Nat) (pacer : Pacer)
    (unsettled : Open allowEmpty found) :
    ∃ proceed, repeatPoll host job allowEmpty step (polls + 1) pacer = liftM step >>= proceed ∧
      proceed (.ok found) = (do
        match ← pause host job pacer with
        | (some e, pacer) => return (.error e, pacer)
        | (none, pacer) => repeatPoll host job allowEmpty step polls pacer) := by
  refine ⟨_, rfl, ?_⟩
  cases unsettled with
  | pending => rfl
  | empty allowed =>
    subst allowed
    rfl

theorem repeatPoll_rests {result : Except MonitorError α × Pacer} {later : List HostEvent} {between rested : σ}
    (polled : Yields step before (.ok found) dealings between) (unsettled : Open allowEmpty found)
    (rests : Rests host pacer between next rested)
    (onward : Completes (repeatPoll host job allowEmpty step polls next) rested result later after) :
    Completes (repeatPoll host job allowEmpty step (polls + 1) pacer) before result (dealings ++ later)
      after := by
  obtain ⟨proceed, loop, paused⟩ := repeatPoll_open host job step polls pacer unsettled
  rw [loop]
  refine completes_bind (completes_lift polled) ?_
  rw [paused]
  exact completes_after (completes_rest job rests) onward

theorem repeatPoll_unfinished {between rested : σ}
    (polled : Yields step before (.ok found) dealings between) (unsettled : Open allowEmpty found)
    (rests : Rests host pacer between next rested)
    (onward : Unfinished (repeatPoll host job allowEmpty step polls next) rested) :
    Unfinished (repeatPoll host job allowEmpty step (polls + 1) pacer) before := by
  obtain ⟨proceed, loop, paused⟩ := repeatPoll_open host job step polls pacer unsettled
  rw [loop]
  refine unfinished_later (completes_lift polled) ?_
  rw [paused]
  exact unfinished_later (completes_rest job rests) onward

theorem repeatPoll_exhausted (polled : Yields step before (.ok found) dealings after)
    (unsettled : Open allowEmpty found) (spent : pacer.nextWait (host.uptime after) = some (none, next)) :
    Completes (repeatPoll host job allowEmpty step (polls + 1) pacer) before
      (.error (.policyExhausted job next.attempts.toNat (next.elapsed (host.uptime after) / nanosPerSecond)), next)
      dealings after := by
  obtain ⟨proceed, loop, paused⟩ := repeatPoll_open host job step polls pacer unsettled
  rw [loop]
  refine completes_before (completes_lift polled) ?_
  rw [paused]
  exact completes_after (completes_exhaustion job spent) (completes_pure _ _)

/-- A poll that overflows the count leaves the loop without a result. -/
theorem repeatPoll_overflows {between : σ} (polled : Yields step before (.ok found) dealings between)
    (unsettled : Open allowEmpty found) (full : pacer.nextWait (host.uptime between) = none) :
    Unfinished (repeatPoll host job allowEmpty step (polls + 1) pacer) before := by
  obtain ⟨proceed, loop, paused⟩ := repeatPoll_open host job step polls pacer unsettled
  rw [loop]
  refine unfinished_later (completes_lift polled) ?_
  rw [paused]
  exact unfinished_bind (unfinished_overflow job full)

/-- A phase that none of its polls settles breaks down where its count overflows, however many polls are
granted. -/
theorem repeatPoll_breaks (paced : Paced host step pacer before rounds last after)
    (unsettled : ∀ round ∈ rounds, ∃ found, round.found = .ok found ∧ Open allowEmpty found)
    (full : last.nextWait (host.uptime after) = none) (polls : Nat) :
    Unfinished (repeatPoll host job allowEmpty step polls pacer) before := by
  induction paced generalizing polls with
  | last polled =>
    obtain ⟨found, rfl, first⟩ := unsettled _ List.mem_cons_self
    cases polls with
    | zero => exact fun _ _ => rfl
    | succ polls => exact repeatPoll_overflows polled first full
  | next polled rests later ih =>
    obtain ⟨found, rfl, first⟩ := unsettled _ List.mem_cons_self
    cases polls with
    | zero => exact fun _ _ => rfl
    | succ polls =>
      have onward := ih (fun round member => unsettled round (List.mem_cons_of_mem _ member)) full polls
      exact repeatPoll_unfinished polled first rests onward

/-- With enough polls granted a phase whose last answer settles it comes to that value. -/
theorem repeatPoll_settles {value : α} (paced : Paced host step pacer before rounds last after)
    (ended : Ended job allowEmpty rounds (.ok value)) (enough : rounds.length ≤ polls) :
    Completes (repeatPoll host job allowEmpty step polls pacer) before (.ok value, last)
      (dealingsOf rounds) after := by
  induction paced generalizing polls with
  | last polled =>
    cases polls with
    | zero => cases enough
    | succ polls =>
      cases ended with
      | settled => exact completes_bind (completes_lift polled) (completes_pure _ _)
      | later _ ended => cases ended
  | next polled rests later ih =>
    cases polls with
    | zero => cases enough
    | succ polls =>
      cases ended with
      | settled => cases later
      | later unsettled ended =>
        exact repeatPoll_rests polled unsettled rests (ih ended (Nat.le_of_succ_le_succ enough))

/-- From this state the loop comes to an end: its rounds are those of a phase, and so is its result. -/
def Finishes (host : Host σ) (job : Uuid) (allowEmpty : Bool)
    (step : Session σ (Except MonitorError (Finding α))) (polls : Nat) (pacer : Pacer) (before : σ) : Prop :=
  ∃ rounds result last final after, Paced host step pacer before rounds last after ∧
    Ended job allowEmpty rounds result ∧
    Completes (repeatPoll host job allowEmpty step polls pacer) before (result, final)
      (dealingsOf rounds) after

/-- The loop has no result, and that is not for want of polls where the limit still allows some: then the polls
granted are fewer than the limit allows. -/
def FallsShort (host : Host σ) (job : Uuid) (allowEmpty : Bool)
    (step : Session σ (Except MonitorError (Finding α))) (polls : Nat) (pacer : Pacer) (before : σ) : Prop :=
  Unfinished (repeatPoll host job allowEmpty step polls pacer) before ∧
    ∀ limit, pacer.maxAttempts = some limit → pacer.attempts.toNat < max limit.toNat 1 →
      polls < max (limit.toNat - pacer.attempts.toNat) 1

/-- After an open poll the loop ends at once, or it ends as it does from there on. -/
theorem ends_open {between : σ} (polled : Yields step before (.ok found) dealings between)
    (unsettled : Open allowEmpty found)
    (onward : ∀ next rested, Finishes host job allowEmpty step polls next rested ∨
      FallsShort host job allowEmpty step polls next rested) :
    Finishes host job allowEmpty step (polls + 1) pacer before ∨
      FallsShort host job allowEmpty step (polls + 1) pacer before := by
  cases granted : pacer.nextWait (host.uptime between) with
  | none =>
    refine .inr ⟨repeatPoll_overflows polled unsettled granted, fun limit limited below => ?_⟩
    have full := nextWait_eq_none.mp granted
    have narrow := limit.toNat_lt
    omega
  | some answer =>
    obtain ⟨wait, next⟩ := answer
    cases wait with
    | none =>
      have completes : Completes (repeatPoll host job allowEmpty step (polls + 1) pacer) before _ dealings between :=
        repeatPoll_exhausted polled unsettled granted
      exact .inl ⟨_, _, _, _, _, .last polled, .exhausted unsettled, by simpa [dealingsOf] using completes⟩
    | some nanos =>
      have rests : Rests host pacer between next _ := ⟨nanos, granted, rfl⟩
      obtain ⟨rounds, result, last, final, after, paced, ended, completes⟩ | ⟨unfinished, short⟩ :=
        onward _ _
      · exact .inl ⟨_, result, last, final, after, .next polled rests paced, .later unsettled ended,
          repeatPoll_rests polled unsettled rests completes⟩
      · refine .inr ⟨repeatPoll_unfinished polled unsettled rests unfinished, fun limit limited _ => ?_⟩
        obtain ⟨counted, kept, _⟩ := rests_next rests
        have below := rests_below limited rests
        have less := short limit (kept.trans limited) (by omega)
        omega

/-- A poll loop comes to an end as a phase does, or it falls short. Induction on the polls granted. -/
theorem repeatPoll_ends {lawful : Except MonitorError (Finding α) → List HostEvent → Prop}
    (polling : Polls step lawful) (host : Host σ) (job : Uuid) (allowEmpty : Bool) (polls : Nat)
    (pacer : Pacer) (before : σ) :
    Finishes host job allowEmpty step polls pacer before ∨
      FallsShort host job allowEmpty step polls pacer before := by
  induction polls generalizing pacer before with
  | zero => exact .inr ⟨fun _ _ => rfl, fun _ _ _ => Nat.lt_of_lt_of_le Nat.one_pos (Nat.le_max_right _ _)⟩
  | succ polls ih =>
    obtain ⟨found, dealings, between, polled, _⟩ := polling before
    have alone : dealingsOf [(⟨found, dealings⟩ : Round (Except MonitorError (Finding α)))] = dealings := by
      simp [dealingsOf]
    have ends {result : Except MonitorError α} (ended : Ended job allowEmpty [⟨found, dealings⟩] result)
        (completes : Completes (repeatPoll host job allowEmpty step (polls + 1) pacer) before
          (result, pacer) dealings between) : Finishes host job allowEmpty step (polls + 1) pacer before :=
      ⟨_, result, _, pacer, between, .last polled, ended, by rwa [alone]⟩
    cases found with
    | error e =>
      exact .inl (ends .failed (completes_before (completes_lift polled) (completes_pure _ _)))
    | ok found =>
      cases found with
      | ready value =>
        exact .inl (ends .settled (completes_before (completes_lift polled) (completes_pure _ _)))
      | pending => exact ends_open polled .pending ih
      | empty =>
        cases allowed : allowEmpty with
        | true =>
          subst allowed
          exact ends_open polled (.empty rfl) ih
        | false =>
          subst allowed
          exact .inl (ends (.barren rfl) (completes_before (completes_lift polled) (completes_pure _ _)))

end Loops

/-! ### Whole phases -/

section Phases

variable {step : Session σ (Except MonitorError (Finding α))}
  {rounds : List (Round (Except MonitorError (Finding α)))} {result : Except MonitorError α}
  {lawful : Except MonitorError (Finding α) → List HostEvent → Prop}

/-- A phase is a loop that begins with a fresh count. -/
theorem pollUntil_begins (host : Host σ) (polls : Nat) (job : Uuid) (allowEmpty : Bool)
    (step : Session σ (Except MonitorError (Finding α))) (pacer : Pacer) (w : World σ) :
    (pollUntil host polls job allowEmpty step pacer).run w =
      (repeatPoll host job allowEmpty step polls (pacer.restart (host.uptime w.host))).run w := rfl

theorem pollUntil_completes {a : Except MonitorError α × Pacer} {dealings : List HostEvent}
    (completes : Completes (repeatPoll host job allowEmpty step polls (pacer.restart (host.uptime before)))
      before a dealings after) :
    Completes (pollUntil host polls job allowEmpty step pacer) before a dealings after := by
  rintro w rfl
  rw [pollUntil_begins]
  exact completes w rfl

theorem pollUntil_unfinished
    (unfinished : Unfinished (repeatPoll host job allowEmpty step polls (pacer.restart (host.uptime before)))
      before) : Unfinished (pollUntil host polls job allowEmpty step pacer) before := by
  rintro w rfl
  rw [pollUntil_begins]
  exact unfinished w rfl

/-- With enough polls granted a phase whose last answer settles it comes to that value. -/
theorem pollUntil_settles {value : α}
    (paced : Paced host step (pacer.restart (host.uptime before)) before rounds last after)
    (ended : Ended job allowEmpty rounds (.ok value)) (enough : rounds.length ≤ polls) :
    Completes (pollUntil host polls job allowEmpty step pacer) before (.ok value, last)
      (dealingsOf rounds) after :=
  pollUntil_completes (repeatPoll_settles paced ended enough)

/-- A phase comes to an end with its rounds, or it has no result; with a limit that is only for want of polls
granted. -/
theorem pollUntil_ends (polling : Polls step lawful) (host : Host σ) (polls : Nat) (job : Uuid)
    (allowEmpty : Bool) (pacer : Pacer) (before : σ) :
    (∃ rounds result last final after,
      Paced host step (pacer.restart (host.uptime before)) before rounds last after ∧
      Ended job allowEmpty rounds result ∧
      Completes (pollUntil host polls job allowEmpty step pacer) before (result, final) (dealingsOf rounds)
        after) ∨
    (Unfinished (pollUntil host polls job allowEmpty step pacer) before ∧
      ∀ limit, pacer.maxAttempts = some limit → polls < max limit.toNat 1) := by
  obtain ⟨rounds, result, last, final, after, paced, ended, completes⟩ | ⟨unfinished, short⟩ :=
    repeatPoll_ends polling host job allowEmpty polls (pacer.restart (host.uptime before)) before
  · exact .inl ⟨rounds, result, last, final, after, paced, ended, pollUntil_completes completes⟩
  · refine .inr ⟨pollUntil_unfinished unfinished, fun limit limited => ?_⟩
    exact short limit limited (Nat.lt_of_lt_of_le Nat.one_pos (Nat.le_max_right _ _))

/-- Every phase that comes to an end has its rounds, and all it did to the host is what they did. -/
theorem pollUntil_rounds {w w' : World σ} {final : Pacer} (polling : Polls step lawful)
    (ran : (pollUntil host polls job allowEmpty step pacer).run w = some ((result, final), w')) :
    ∃ rounds, (∀ round ∈ rounds, lawful round.found round.dealings) ∧ Ended job allowEmpty rounds result ∧
      w'.trace = w.trace ++ dealingsOf rounds := by
  obtain ⟨rounds, foreseen, _, _, after, paced, ended, completes⟩ | ⟨unfinished, _⟩ :=
    pollUntil_ends polling host polls job allowEmpty pacer w.host
  · obtain ⟨same, trace, _⟩ := completes_ran completes ran rfl
    cases same
    exact ⟨rounds, paced_lawful polling paced, ended, trace⟩
  · rw [unfinished w rfl] at ran
    cases ran

end Phases

end RemoteJobs.Proofs.PollRuns
