import RemoteJobs.Host

/-! Runs of sessions and watches, one step at a time. A step's effect on the world is either computed
outright or bounded by a view that it leaves alone; both are then facts about whole programs, since a
program is nothing but its steps. -/
namespace RemoteJobs.Proofs.SessionRuns
open Session

variable {σ α β γ : Type} {host : Host σ} {w w' : World σ}

/-! ### Single steps -/

theorem session_bind (first : Session σ α) (next : α → Session σ β) (w : World σ) :
    (first >>= next).run w = (next (first.run w).1).run (first.run w).2 := rfl

@[simp] theorem watch_lift (s : Session σ α) (w : World σ) :
    (liftM s : Watch σ α).run w = some (s.run w) := rfl

@[simp] theorem watch_ofSession (s : Session σ α) (w : World σ) :
    (Watch.ofSession s).run w = some (s.run w) := rfl

/-- A watch that comes to an end has come through its first step. -/
theorem watch_bind {first : Watch σ α} {next : α → Watch σ β} {b : β} :
    (first >>= next).run w = some (b, w') ↔
      ∃ a middle, first.run w = some (a, middle) ∧ (next a).run middle = some (b, w') := by
  simp [StateT.run_bind, Option.bind_eq_some_iff]

/-- One that begins with a session has come through that. -/
theorem lift_bind {first : Session σ α} {next : α → Watch σ β} {b : β} :
    (liftM first >>= next).run w = some (b, w') ↔
      ∃ a middle, first.run w = (a, middle) ∧ (next a).run middle = some (b, w') := by
  simp only [watch_bind, watch_lift, Option.some.injEq]

@[simp] theorem connect_run (system : ExecSystem) (w : World σ) :
    (connect host system).run w =
      ((host.connect system w.host).1,
        { w with
          host := (host.connect system w.host).2
          events := .connected (host.connect system w.host).1 :: w.events }) := rfl

@[simp] theorem execute_run (system : ExecSystem) (command : String) (w : World σ) :
    (execute host system command).run w =
      ((host.execute system command w.host).1,
        { w with
          host := (host.execute system command w.host).2
          events := .executed command (host.execute system command w.host).1 :: w.events }) := rfl

@[simp] theorem note_run (level : Log.Level) (component : Log.Component) (text : String)
    (details : List String) (w : World σ) :
    (note level component text details).run w =
      ((), { w with noted := ⟨level, component, text, details⟩ :: w.noted }) := rfl

/-! ### Relations that a run respects -/

/-- Wherever the session begins, it ends in a world that stands in the relation to the one it began in. -/
def Stays (within : World σ → World σ → Prop) (s : Session σ α) : Prop :=
  ∀ w, within w (s.run w).2

/-- The same of a watch that comes to an end. -/
def StaysWatch (within : World σ → World σ → Prop) (s : Watch σ α) : Prop :=
  ∀ w a w', s.run w = some (a, w') → within w w'

/-- The session ends with the same view of the world that it began with. -/
def Keeps (view : World σ → γ) (s : Session σ α) : Prop :=
  ∀ w, view (s.run w).2 = view w

/-- The same of a watch that comes to an end. -/
def KeepsWatch (view : World σ → γ) (s : Watch σ α) : Prop :=
  ∀ w a w', s.run w = some (a, w') → view w' = view w

/-- A relation between worlds that reaches across programs: it chains, and every single step respects it,
whatever the host answers, as long as only granted commands are sent. -/
structure Frame (host : Host σ) (granted : String → Prop) (within : World σ → World σ → Prop) :
    Prop where
  refl : ∀ w, within w w
  trans : ∀ {first second third}, within first second → within second third → within first third
  note : ∀ level component text details, Stays within (note level component text details)
  connect : ∀ system, Stays within (connect host system)
  execute : ∀ system command, granted command → Stays within (execute host system command)
  sleep : ∀ nanos, Stays within (sleep host nanos)

namespace Frame

variable {granted : String → Prop} {within : World σ → World σ → Prop}
  (frame : Frame host granted within)
include frame

theorem stays_pure (a : α) : Stays within (pure a : Session σ α) :=
  fun w => frame.refl w

theorem stays_bind {first : Session σ α} {next : α → Session σ β} (begun : Stays within first)
    (onward : ∀ a, Stays within (next a)) : Stays within (first >>= next) := by
  intro w
  rw [session_bind]
  exact frame.trans (begun w) (onward _ _)

theorem stays_checkExit (output : Output) : Stays within (checkExit output) := by
  unfold checkExit
  split
  · exact frame.stays_pure _
  · exact frame.stays_bind (frame.note _ _ _ _) fun _ => frame.stays_pure _

theorem staysWatch_pure (a : α) : StaysWatch within (pure a : Watch σ α) := by
  intro w b w' ran
  cases ran
  exact frame.refl w

theorem staysWatch_bind {first : Watch σ α} {next : α → Watch σ β} (begun : StaysWatch within first)
    (onward : ∀ a, StaysWatch within (next a)) : StaysWatch within (first >>= next) := by
  intro w b w' ran
  obtain ⟨a, middle, began, ended⟩ := watch_bind.mp ran
  exact frame.trans (begun w a middle began) (onward a middle b w' ended)

end Frame

theorem stays_ran {within : World σ → World σ → Prop} {s : Session σ α} {a : α} (stays : Stays within s)
    (ran : s.run w = (a, w')) : within w w' := by
  have reached := stays w
  rwa [ran] at reached

theorem staysWatch_lift {within : World σ → World σ → Prop} {s : Session σ α} (stays : Stays within s) :
    StaysWatch within (liftM s : Watch σ α) :=
  fun _ _ _ ran => stays_ran stays (Option.some.inj ran)

/-! ### What a session yields -/

/-- From this state of the host the session ends with this value, has these dealings with the host and
leaves it in that state, whatever was done and noted before. -/
def Yields (s : Session σ α) (before : σ) (a : α) (dealings : List HostEvent) (after : σ) : Prop :=
  ∀ w, w.host = before →
    (s.run w).1 = a ∧ (s.run w).2.trace = w.trace ++ dealings ∧ (s.run w).2.host = after

/-- The command lines among some dealings. -/
def commandsOf (dealings : List HostEvent) : List String :=
  dealings.filterMap fun
    | .executed command _ => some command
    | .connected _ => none

@[simp] theorem commandsOf_append (dealings later : List HostEvent) :
    commandsOf (dealings ++ later) = commandsOf dealings ++ commandsOf later :=
  List.filterMap_append

theorem commands_eq (w : World σ) : w.commands = commandsOf w.trace := rfl

/-- The command lines that a session issues, in order. -/
def issued (s : Session σ α) (w : World σ) : List String :=
  (s.run w).2.commands.drop w.commands.length

variable {before middle after : σ} {dealings later : List HostEvent} {a : α} {b : β}

theorem yields_pure (a : α) (before : σ) : Yields (pure a : Session σ α) before a [] before := by
  rintro w rfl
  exact ⟨rfl, (List.append_nil _).symm, rfl⟩

theorem yields_bind {first : Session σ α} {next : α → Session σ β}
    (began : Yields first before a dealings middle) (ended : Yields (next a) middle b later after) :
    Yields (first >>= next) before b (dealings ++ later) after := by
  intro w start
  obtain ⟨value, trace, host⟩ := began w start
  obtain ⟨value', trace', host'⟩ := ended _ host
  rw [session_bind, value]
  exact ⟨value', by rw [trace', trace, List.append_assoc], host'⟩

/-- A step without dealings adds none to those of what follows it. -/
theorem yields_after {first : Session σ α} {next : α → Session σ β}
    (quiet : Yields first before a [] middle) (ended : Yields (next a) middle b later after) :
    Yields (first >>= next) before b later after :=
  yields_bind quiet ended

theorem yields_before {first : Session σ α} {next : α → Session σ β}
    (began : Yields first before a dealings middle) (quiet : Yields (next a) middle b [] after) :
    Yields (first >>= next) before b dealings after := by
  simpa using yields_bind began quiet

theorem yields_note (level : Log.Level) (component : Log.Component) (text : String)
    (details : List String) (before : σ) :
    Yields (note level component text details) before () [] before := by
  rintro w rfl
  exact ⟨rfl, by simp [World.trace], rfl⟩

theorem yields_connect (host : Host σ) (system : ExecSystem) (before : σ) :
    Yields (connect host system) before (host.connect system before).1
      [.connected (host.connect system before).1] (host.connect system before).2 := by
  rintro w rfl
  exact ⟨rfl, by simp [World.trace], rfl⟩

theorem yields_execute (host : Host σ) (system : ExecSystem) (command : String) (before : σ) :
    Yields (execute host system command) before (host.execute system command before).1
      [.executed command (host.execute system command before).1]
      (host.execute system command before).2 := by
  rintro w rfl
  exact ⟨rfl, by simp [World.trace], rfl⟩

theorem yields_uptime (host : Host σ) (before : σ) :
    Yields (Session.uptime host) before (host.uptime before) [] before := by
  rintro w rfl
  exact ⟨rfl, (List.append_nil _).symm, rfl⟩

theorem yields_date (host : Host σ) (before : σ) :
    Yields (date host) before (host.date before) [] before := by
  rintro w rfl
  exact ⟨rfl, (List.append_nil _).symm, rfl⟩

theorem yields_sleep (host : Host σ) (nanos : Nat) (before : σ) :
    Yields (sleep host nanos) before () [] (host.sleep nanos before) := by
  rintro w rfl
  exact ⟨rfl, (List.append_nil _).symm, rfl⟩

theorem yields_checkExit (output : Output) (before : σ) :
    Yields (checkExit output) before output.succeeded [] before := by
  unfold checkExit
  cases output.succeeded with
  | true => exact yields_pure true before
  | false => exact yields_after (yields_note _ _ _ _ before) (yields_pure false before)

theorem issued_eq {s : Session σ α} (yields : Yields s before a dealings after) (start : w.host = before) :
    issued s w = commandsOf dealings := by
  obtain ⟨_, trace, _⟩ := yields w start
  rw [issued, commands_eq, commands_eq, trace, commandsOf_append]
  exact List.drop_left

/-- Two accounts of one session from one state are the same account. -/
theorem yields_unique {other : α} {others : List HostEvent} {last : σ} {s : Session σ α}
    (yields : Yields s before a dealings after) (again : Yields s before other others last) :
    a = other ∧ dealings = others ∧ after = last := by
  obtain ⟨value, trace, host⟩ := yields { host := before } rfl
  obtain ⟨value', trace', host'⟩ := again { host := before } rfl
  exact ⟨value.symm.trans value', List.append_cancel_left (trace.symm.trans trace'), host.symm.trans host'⟩

/-- Dealings that come to nothing: the connection is refused, or the one command sent gives no output. -/
inductive Fruitless (command : String) : List HostEvent → Prop where
  | refused (e : ExecError) : Fruitless command [.connected (.error e)]
  | lost (e : ExecError) : Fruitless command [.connected (.ok ()), .executed command (.error e)]

theorem fruitless_commands {command : String} (fruitless : Fruitless command dealings) :
    commandsOf dealings = [] ∨ commandsOf dealings = [command] := by
  cases fruitless with
  | refused => exact .inl rfl
  | lost => exact .inr rfl

/-! ### What a watch comes to -/

/-- From this state of the host the watch comes to an end with this value, has these dealings with the host
and leaves it in that state, whatever was done and noted before. -/
def Completes (s : Watch σ α) (before : σ) (a : α) (dealings : List HostEvent) (after : σ) : Prop :=
  ∀ w, w.host = before →
    ∃ w', s.run w = some (a, w') ∧ w'.trace = w.trace ++ dealings ∧ w'.host = after

theorem completes_pure (a : α) (before : σ) : Completes (pure a : Watch σ α) before a [] before := by
  rintro w rfl
  exact ⟨w, rfl, (List.append_nil _).symm, rfl⟩

theorem completes_lift {s : Session σ α} (yields : Yields s before a dealings after) :
    Completes (liftM s : Watch σ α) before a dealings after := by
  intro w start
  obtain ⟨rfl, trace, host⟩ := yields w start
  exact ⟨(s.run w).2, watch_lift s w, trace, host⟩

theorem completes_bind {first : Watch σ α} {next : α → Watch σ β}
    (began : Completes first before a dealings middle) (ended : Completes (next a) middle b later after) :
    Completes (first >>= next) before b (dealings ++ later) after := by
  intro w start
  obtain ⟨between, ran, trace, host⟩ := began w start
  obtain ⟨w', ran', trace', host'⟩ := ended between host
  exact ⟨w', watch_bind.mpr ⟨a, between, ran, ran'⟩, by rw [trace', trace, List.append_assoc], host'⟩

/-- A step without dealings adds none to those of what follows it. -/
theorem completes_after {first : Watch σ α} {next : α → Watch σ β}
    (quiet : Completes first before a [] middle) (ended : Completes (next a) middle b later after) :
    Completes (first >>= next) before b later after :=
  completes_bind quiet ended

theorem completes_before {first : Watch σ α} {next : α → Watch σ β}
    (began : Completes first before a dealings middle) (quiet : Completes (next a) middle b [] after) :
    Completes (first >>= next) before b dealings after := by
  simpa using completes_bind began quiet

/-- A run that comes to an end is the one that was foreseen. -/
theorem completes_ran {s : Watch σ α} {b : α} (completes : Completes s before a dealings after)
    (ran : s.run w = some (b, w')) (start : w.host = before) :
    b = a ∧ w'.trace = w.trace ++ dealings ∧ w'.host = after := by
  obtain ⟨foreseen, same, trace, host⟩ := completes w start
  rw [ran] at same
  cases same
  exact ⟨rfl, trace, host⟩

/-- From this state of the host the watch does not come to an end with the polls granted to it. -/
def Unfinished (s : Watch σ α) (before : σ) : Prop :=
  ∀ w, w.host = before → s.run w = none

theorem unfinished_bind {first : Watch σ α} {next : α → Watch σ β} (unfinished : Unfinished first before) :
    Unfinished (first >>= next) before := by
  intro w start
  rw [StateT.run_bind, unfinished w start]
  rfl

theorem unfinished_later {first : Watch σ α} {next : α → Watch σ β}
    (began : Completes first before a dealings middle) (unfinished : Unfinished (next a) middle) :
    Unfinished (first >>= next) before := by
  intro w start
  obtain ⟨between, ran, _, host⟩ := began w start
  rw [StateT.run_bind, ran]
  exact unfinished between host

/-! ### Commands sent on the way -/

/-- Between the two worlds the host was sent such commands only. -/
def SentOnly (allowed : String → Prop) (w w' : World σ) : Prop :=
  ∃ dealings, w'.trace = w.trace ++ dealings ∧ ∀ command ∈ commandsOf dealings, allowed command

theorem sentOnly_frame (host : Host σ) (allowed : String → Prop) : Frame host allowed (SentOnly allowed) where
  refl w := ⟨[], (List.append_nil _).symm, by simp [commandsOf]⟩
  trans := by
    rintro first second third ⟨dealings, trace, sent⟩ ⟨later, trace', sent'⟩
    refine ⟨dealings ++ later, by rw [trace', trace, List.append_assoc], fun command member => ?_⟩
    rw [commandsOf_append, List.mem_append] at member
    exact member.elim (sent command) (sent' command)
  note _ _ _ _ w := ⟨[], (List.append_nil _).symm, by simp [commandsOf]⟩
  connect system w := ⟨[.connected _], by simp [World.trace]; rfl, by simp [commandsOf]⟩
  execute system command granted w :=
    ⟨[.executed command _], by simp [World.trace]; rfl, by simpa [commandsOf] using granted⟩
  sleep _ w := ⟨[], (List.append_nil _).symm, by simp [commandsOf]⟩

theorem sentOnly_mono {allowed wider : String → Prop} (widens : ∀ command, allowed command → wider command)
    (sent : SentOnly allowed w w') : SentOnly wider w w' := by
  obtain ⟨dealings, trace, own⟩ := sent
  exact ⟨dealings, trace, fun command member => widens command (own command member)⟩

/-- What was sent since the beginning is all there is. -/
theorem sentOnly_commands {allowed : String → Prop} {before : σ} (sent : SentOnly allowed { host := before } w) :
    ∀ command ∈ w.commands, allowed command := by
  obtain ⟨dealings, trace, own⟩ := sent
  rw [commands_eq, trace]
  exact own

theorem sentOnly_of_yields {allowed : String → Prop} {s : Session σ α}
    (yields : ∀ before, ∃ a dealings after, Yields s before a dealings after ∧
      ∀ command ∈ commandsOf dealings, allowed command) : Stays (SentOnly allowed) s := by
  intro w
  obtain ⟨a, dealings, after, yields, sent⟩ := yields w.host
  exact ⟨dealings, (yields w rfl).2.1, sent⟩

end RemoteJobs.Proofs.SessionRuns
