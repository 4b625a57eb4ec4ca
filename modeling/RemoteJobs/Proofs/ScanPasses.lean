import RemoteJobs.Listing.Scan

/-! Passes over a listing, for any tree that offers can only fill. What every accepted offer preserves holds
of the settled tree, and a settled tree is complete or refuses every record of the listing. -/
namespace RemoteJobs.Proofs.ScanPasses
open Listing

variable {Tree : Type} {offer : Tree → Record → Option Tree} {complete : Tree → Bool}
  {records : List Record} {tree settled : Tree} {added : Bool} {passes : Nat}

/-- The listing holds the process. -/
def Listed (records : List Record) (pid : Nat) : Prop :=
  ∃ r ∈ records, r.pid = pid

/-- The listing holds a child of the process. A process that is listed as its own parent is no child. -/
def HasChild (records : List Record) (pid : Nat) : Prop :=
  ∃ r ∈ records, r.ppid = pid ∧ r.pid ≠ pid

instance {pid : Nat} : Decidable (Listed records pid) :=
  inferInstanceAs (Decidable (∃ r ∈ records, r.pid = pid))

instance {pid : Nat} : Decidable (HasChild records pid) :=
  inferInstanceAs (Decidable (∃ r ∈ records, r.ppid = pid ∧ r.pid ≠ pid))

/-- Which processes are listed depends neither on the order of a listing nor on repetitions in it. -/
theorem same_family {other : List Record} (same : ∀ r, r ∈ records ↔ r ∈ other) (pid : Nat) :
    (Listed records pid ↔ Listed other pid) ∧ (HasChild records pid ↔ HasChild other pid) :=
  ⟨exists_congr fun r => and_congr_left fun _ => same r,
    exists_congr fun r => and_congr_left fun _ => same r⟩

theorem pass_preserves {P : Tree → Prop} (holds : P tree)
    (step : ∀ r ∈ records, ∀ before after, P before → offer before r = some after → P after) :
    P (pass offer complete records tree added).1 := by
  induction records generalizing tree added with
  | nil => exact holds
  | cons r rest ih =>
    have onward := fun later member => step later (List.mem_cons_of_mem r member)
    unfold Listing.pass
    cases offered : offer tree r with
    | none =>
      simp only
      split
      · exact holds
      · exact ih holds onward
    | some grown =>
      have kept := step r List.mem_cons_self tree grown holds offered
      simp only
      split
      · exact kept
      · exact ih kept onward

private theorem pass_onward {P : List Record → Tree → Prop} {earlier later : List Record}
    (holds : P earlier tree)
    (accepts : ∀ seen r before after, seen ++ [r] <+: earlier ++ later → P seen before →
      offer before r = some after → P (seen ++ [r]) after)
    (refuses : ∀ seen r before, seen ++ [r] <+: earlier ++ later → P seen before →
      offer before r = none → P (seen ++ [r]) before) :
    ∃ seen, seen <+: earlier ++ later ∧ P seen (pass offer complete later tree added).1 ∧
      (seen = earlier ++ later ∨ complete (pass offer complete later tree added).1 = true) := by
  induction later generalizing earlier tree added with
  | nil => exact ⟨earlier, by simp, holds, .inl (by simp)⟩
  | cons r rest ih =>
    have split : earlier ++ r :: rest = (earlier ++ [r]) ++ rest := by simp
    have next : earlier ++ [r] <+: earlier ++ r :: rest := by
      rw [split]
      exact List.prefix_append _ _
    rw [split] at accepts refuses
    unfold Listing.pass
    cases offered : offer tree r with
    | none =>
      have kept := refuses earlier r tree (split ▸ next) holds offered
      simp only
      split
      · rename_i full
        exact ⟨earlier ++ [r], next, kept, .inr full⟩
      · rw [split]
        exact ih kept accepts refuses
    | some grown =>
      have kept := accepts earlier r tree grown (split ▸ next) holds offered
      simp only
      split
      · rename_i full
        exact ⟨earlier ++ [r], next, kept, .inr full⟩
      · rw [split]
        exact ih kept accepts refuses

/-- A pass that goes through the records in order from an invariant of what it has seen so far stops with
that invariant, either behind the last record or early because the tree is complete. -/
theorem pass_prefix {P : List Record → Tree → Prop} (holds : P [] tree)
    (accepts : ∀ seen r before after, seen ++ [r] <+: records → P seen before →
      offer before r = some after → P (seen ++ [r]) after)
    (refuses : ∀ seen r before, seen ++ [r] <+: records → P seen before →
      offer before r = none → P (seen ++ [r]) before) :
    ∃ seen, seen <+: records ∧ P seen (pass offer complete records tree added).1 ∧
      (seen = records ∨ complete (pass offer complete records tree added).1 = true) :=
  pass_onward holds accepts refuses

/-- A pass that adds nothing leaves the tree alone, and it only skipped records of a complete tree. -/
theorem pass_idle (idle : (pass offer complete records tree added).2 = false) :
    (pass offer complete records tree added).1 = tree ∧
      (complete tree = true ∨ ∀ r ∈ records, offer tree r = none) ∧ added = false := by
  induction records generalizing tree added with
  | nil => exact ⟨rfl, .inr (by simp), idle⟩
  | cons r rest ih =>
    unfold Listing.pass at idle ⊢
    cases offered : offer tree r with
    | none =>
      simp only [offered] at idle ⊢
      split at idle
      · rename_i full
        simp only [full, ↓reduceIte]
        exact ⟨trivial, .inl trivial, idle⟩
      · rename_i open_
        rw [if_neg open_]
        obtain ⟨same, closed, fresh⟩ := ih idle
        refine ⟨same, closed.imp_right fun refused => ?_, fresh⟩
        intro later member
        rcases List.mem_cons.mp member with rfl | member
        · exact offered
        · exact refused later member
    | some grown =>
      simp only [offered] at idle
      split at idle
      · cases idle
      · cases (ih idle).2.2

/-- What the first pass reaches and every later offer preserves holds of the settled tree. -/
theorem settle_first {P : Tree → Prop} (ran : settle offer complete records passes tree = some settled)
    (first : P (pass offer complete records tree false).1)
    (step : ∀ r ∈ records, ∀ before after, P before → offer before r = some after → P after) :
    P settled := by
  induction passes generalizing tree with
  | zero => cases ran
  | succ passes ih =>
    unfold settle at ran
    dsimp only at ran
    split at ran
    · cases ran
      exact first
    · exact ih ran (pass_preserves first step)

theorem settle_preserves {P : Tree → Prop}
    (ran : settle offer complete records passes tree = some settled) (holds : P tree)
    (step : ∀ r ∈ records, ∀ before after, P before → offer before r = some after → P after) :
    P settled :=
  settle_first ran (pass_preserves holds step) step

/-- A settled tree has no room left for any record of the listing. -/
theorem settle_closed (ran : settle offer complete records passes tree = some settled) :
    complete settled = true ∨ ∀ r ∈ records, offer settled r = none := by
  induction passes generalizing tree with
  | zero => cases ran
  | succ passes ih =>
    unfold settle at ran
    dsimp only at ran
    split at ran
    · rename_i stop
      cases ran
      rcases Bool.or_eq_true _ _ ▸ stop with full | idle
      · exact .inl full
      · obtain ⟨same, closed, _⟩ := pass_idle (by simpa using idle)
        rw [same]
        exact closed
    · exact ih ran

section Slots

variable {filled : Tree → Nat} {slots : Nat}

/-- The records in some slots after an open one among them is filled. -/
theorem slot_filled (r : Record) (before after : List (Option Record)) :
    ((before ++ some r :: after).filterMap id).Perm (r :: (before ++ none :: after).filterMap id) := by
  simp

/-- A record of the listing that is new to the filled slots joins them, and they still hold different
processes of the listing. -/
theorem slots_joined {before after : List Record} {r : Record} (gained : after.Perm (r :: before))
    (member : r ∈ records) (fresh : ∀ held ∈ before, held.pid ≠ r.pid)
    (listed : ∀ held ∈ before, held ∈ records) (apart : (before.map (·.pid)).Nodup) :
    (∀ held ∈ after, held ∈ records) ∧ (after.map (·.pid)).Nodup := by
  constructor
  · intro held inside
    rcases List.mem_cons.mp (gained.mem_iff.mp inside) with rfl | inside
    · exact member
    · exact listed held inside
  · rw [(gained.map _).nodup_iff, List.map_cons, List.nodup_cons]
    refine ⟨?_, apart⟩
    rw [List.mem_map]
    rintro ⟨held, inside, same⟩
    exact fresh held inside same

/-- A pass that adds something fills a slot. -/
theorem pass_fills (grows : ∀ before r after, offer before r = some after → filled before < filled after)
    (adds : (pass offer complete records tree false).2 = true) :
    filled tree < filled (pass offer complete records tree false).1 := by
  induction records with
  | nil => cases adds
  | cons r rest ih =>
    unfold Listing.pass at adds ⊢
    cases offered : offer tree r with
    | none =>
      simp only [offered] at adds ⊢
      split at adds
      · cases adds
      · rename_i open_
        rw [if_neg open_]
        exact ih adds
    | some grown =>
      have more := grows tree r grown offered
      simp only
      split
      · exact more
      · exact pass_preserves (P := fun later => filled tree < filled later) more
          fun r _ before after less accepted => Nat.lt_trans less (grows before r after accepted)

/-- Offers that each fill one of finitely many slots settle, given a pass for every open slot and one more
to find that nothing is left to add. -/
theorem settle_ends (bound : ∀ tree, filled tree ≤ slots)
    (grows : ∀ before r after, offer before r = some after → filled before < filled after)
    (enough : slots < filled tree + passes) :
    ∃ settled, settle offer complete records passes tree = some settled := by
  induction passes generalizing tree with
  | zero =>
    have := bound tree
    omega
  | succ passes ih =>
    unfold settle
    dsimp only
    split
    · exact ⟨_, rfl⟩
    · rename_i goes
      have adds : (pass offer complete records tree false).2 = true := by
        simp_all
      have more := pass_fills grows adds
      exact ih (by omega)

end Slots

end RemoteJobs.Proofs.ScanPasses
