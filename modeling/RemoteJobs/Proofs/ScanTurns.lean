import RemoteJobs.Proofs.ScanPasses
import Mathlib.Data.List.Find
import Mathlib.Data.List.Nodup
import Mathlib.Data.List.Rotate

/-! A scan goes round its listing. What a pass refused on its way to the record that it took is offered again
only behind that record, so a scan is a sequence of takings, each from the listing turned to begin behind the
record taken before. Which record a slot gets is then read off a single turn of the listing. -/
namespace RemoteJobs.Proofs.ScanTurns
open Listing ScanPasses

variable {Tree : Type} {offer : Tree → Record → Option Tree} {complete : Tree → Bool}
  {records cycle : List Record} {tree settled : Tree} {added : Bool} {passes : Nat} {r : Record}

/-! ### Turning a listing -/

/-- The other records of a listing in the order in which they follow a record: those behind it up to the
end, and then those from the start. -/
def following (r : Record) (records : List Record) : List Record :=
  (records.rotate (records.idxOf r)).tail

@[simp] theorem following_split {before after : List Record} (first : r ∉ before) :
    following r (before ++ r :: after) = after ++ before := by
  have place : (before ++ r :: after).idxOf r = before.length := by
    simp [List.idxOf_append, first]
  rw [following, place, List.rotate_append_length_eq]
  rfl

/-- Where a listing is turned to plays no part in what follows a record. -/
theorem following_turned {before after : List Record} (unique : (before ++ after).Nodup)
    (member : r ∈ before ++ after) : following r (after ++ before) = following r (before ++ after) := by
  rcases List.mem_append.mp member with here | here
  · obtain ⟨left, right, rfl⟩ := List.append_of_mem here
    have apart : r ∉ left ∧ r ∉ after := by
      simp only [List.nodup_append, List.nodup_cons, List.mem_append, List.mem_cons] at unique
      grind
    have turned : after ++ (left ++ r :: right) = (after ++ left) ++ r :: right := by simp
    have plain : (left ++ r :: right) ++ after = left ++ r :: (right ++ after) := by simp
    rw [turned, plain, following_split (by simp [apart]), following_split apart.1, List.append_assoc]
  · obtain ⟨left, right, rfl⟩ := List.append_of_mem here
    have apart : r ∉ left ∧ r ∉ before := by
      simp only [List.nodup_append, List.nodup_cons, List.mem_append, List.mem_cons] at unique
      grind
    have turned : (left ++ r :: right) ++ before = left ++ r :: (right ++ before) := by simp
    have plain : before ++ (left ++ r :: right) = (before ++ left) ++ r :: right := by simp
    rw [turned, plain, following_split apart.1, following_split (by simp [apart]), List.append_assoc]

/-- The listing turned to begin behind one of its records. -/
theorem turned_perm (member : r ∈ records) : (following r records ++ [r]).Perm records := by
  obtain ⟨before, after, rfl, first⟩ := List.eq_append_cons_of_mem member
  rw [following_split first, List.append_assoc]
  exact List.perm_append_comm.trans (by simp)

theorem following_onward {other : Record} (unique : records.Nodup) (member : r ∈ records)
    (another : other ∈ records) :
    following other (following r records ++ [r]) = following other records := by
  obtain ⟨before, after, rfl, first⟩ := List.eq_append_cons_of_mem member
  have split : before ++ r :: after = (before ++ [r]) ++ after := by simp
  rw [following_split first, List.append_assoc, split]
  exact following_turned (by simpa using unique) (by simpa using another)

theorem mem_following {other : Record} (unique : records.Nodup) (member : r ∈ records) :
    other ∈ following r records ↔ other ∈ records ∧ other ≠ r := by
  have same := turned_perm member
  have apart := same.nodup_iff.mpr unique
  rw [← same.mem_iff]
  grind

/-- A turn behind a record looks in vain at the record itself. -/
theorem find_following {fits also : Record → Bool} (unique : records.Nodup) (member : r ∈ records)
    (own : fits r = false) (others : ∀ e ∈ records, e ≠ r → fits e = also e) :
    (following r records ++ [r]).find? fits = (following r records).find? also := by
  have same : ∀ e ∈ following r records, fits e = also e := fun e later => by
    obtain ⟨listed, other⟩ := (mem_following unique member).mp later
    exact others e listed other
  rw [List.find?_append, List.find?_cons_of_neg (by simp [own]), List.find?_nil, Option.or_none]
  exact List.find?_congr same

theorem mem_turned {before after : List Record} {e : Record} :
    e ∈ after ++ before ++ [r] ↔ e ∈ before ++ r :: after := by
  simp only [List.mem_append, List.mem_cons, List.not_mem_nil]
  tauto

/-! ### Takings -/

/-- How a scan goes on from a tree: every record of the listing is refused and the tree is settled, or the
first record that is not refused is taken and the scan goes on behind it. -/
inductive Fills (offer : Tree → Record → Option Tree) : List Record → Tree → Tree → Prop where
  | closed {cycle : List Record} {tree : Tree} (refused : ∀ r ∈ cycle, offer tree r = none) :
    Fills offer cycle tree tree
  | takes {before after : List Record} {r : Record} {tree grown settled : Tree}
    (passed : ∀ e ∈ before, offer tree e = none) (taken : offer tree r = some grown)
    (onward : Fills offer (after ++ before ++ [r]) grown settled) :
    Fills offer (before ++ r :: after) tree settled

/-- A refused record may as well be passed over. -/
theorem fills_refused (refused : offer tree r = none) (onward : Fills offer (cycle ++ [r]) tree settled) :
    Fills offer (r :: cycle) tree settled := by
  generalize shape : cycle ++ [r] = turned at onward
  cases onward with
  | closed closed =>
    subst shape
    exact .closed fun e member => closed e (by simpa [or_comm] using member)
  | @takes before after taker _ grown _ passed taken later =>
    rcases List.eq_nil_or_concat after with rfl | ⟨rest, last, rfl⟩
    · obtain ⟨_, same⟩ := List.append_inj' shape rfl
      cases same
      rw [refused] at taken
      cases taken
    · have split : cycle ++ [r] = (before ++ taker :: rest) ++ [last] := by simpa using shape
      obtain ⟨rfl, same⟩ := List.append_inj' split rfl
      cases same
      have sooner : ∀ e ∈ r :: before, offer tree e = none := by
        intro e member
        rcases List.mem_cons.mp member with rfl | member
        · exact refused
        · exact passed e member
      have shape : r :: (before ++ taker :: rest) = (r :: before) ++ taker :: rest := rfl
      rw [shape]
      exact .takes sooner taken (by simpa using later)

section Settling
variable (full : ∀ tree r, complete tree = true → offer tree r = none)
include full

/-- A complete tree is settled. -/
theorem fills_complete (done : complete tree = true) : Fills offer cycle tree tree :=
  .closed fun r _ => full tree r done

theorem fills_stops (done : complete tree = true) (onward : Fills offer cycle tree settled) :
    settled = tree := by
  cases onward with
  | closed => rfl
  | takes _ taken _ =>
    rw [full _ _ done] at taken
    cases taken

/-- From the middle of a pass a scan goes round to where the pass began. -/
theorem fills_pass {earlier later : List Record}
    (onward : Fills offer (earlier ++ later) (pass offer complete later tree added).1 settled) :
    Fills offer (later ++ earlier) tree settled := by
  induction later generalizing earlier tree added with
  | nil => simpa [Listing.pass] using onward
  | cons r rest ih =>
    have turned : earlier ++ r :: rest = (earlier ++ [r]) ++ rest := by simp
    unfold Listing.pass at onward
    cases offered : offer tree r with
    | none =>
      simp only [offered] at onward
      split at onward
      · rename_i done
        rw [fills_stops full done onward]
        exact fills_complete full done
      · rw [turned] at onward
        exact fills_refused offered (by simpa using ih onward)
    | some grown =>
      have taken : Fills offer ((rest ++ earlier) ++ [] ++ [r]) grown settled := by
        simp only [offered] at onward
        split at onward
        · rename_i done
          rw [fills_stops full done onward]
          exact fills_complete full done
        · rw [turned] at onward
          simpa using ih onward
      exact List.nil_append (r :: (rest ++ earlier)) ▸ .takes (by simp) offered taken

/-- A scan that settles is a sequence of takings. -/
theorem settle_fills (ran : settle offer complete records passes tree = some settled) :
    Fills offer records tree settled := by
  induction passes generalizing tree with
  | zero => cases ran
  | succ passes ih =>
    have whole {later : Tree}
        (onward : Fills offer records (pass offer complete records tree false).1 later) :
        Fills offer records tree later := by
      rw [← List.append_nil records]
      exact fills_pass full onward
    unfold settle at ran
    dsimp only at ran
    split at ran
    · rename_i stop
      cases ran
      rcases Bool.or_eq_true _ _ ▸ stop with done | idle
      · exact whole (fills_complete full done)
      · obtain ⟨same, closed, _⟩ := pass_idle (by simpa using idle)
        rw [same]
        exact .closed (closed.elim (fun done r _ => full tree r done) id)
    · exact whole (ih ran)

end Settling

/-! ### One slot -/

section Slot
variable {slot : Tree → Option Record} {fits : Record → Bool} {P : Tree → Prop}

/-- A slot that keeps what it holds is found in the settled tree as it was filled. -/
theorem slot_stays (keeps : ∀ before r after, offer before r = some after →
      ∀ held, slot before = some held → slot after = some held)
    {held : Record} (filled : slot tree = some held) (onward : Fills offer cycle tree settled) :
    slot settled = some held := by
  induction onward with
  | closed => exact filled
  | takes _ taken _ ih => exact ih (keeps _ _ _ taken _ filled)

/-- An open slot gets the first record of the turn that fits it, where every record that fits it is taken
into it and no other record is. -/
theorem slot_first (onward : Fills offer cycle tree settled)
    (keeps : ∀ before r after, offer before r = some after →
      ∀ held, slot before = some held → slot after = some held)
    (refuses : ∀ before r turned, r ∈ cycle → Fills offer turned before settled → P before →
      slot before = none → offer before r = none → fits r = false)
    (takes : ∀ before r after turned, r ∈ cycle → Fills offer turned after settled → P before →
      slot before = none → offer before r = some after →
        P after ∧ slot after = if fits r then some r else none)
    (vacant : slot tree = none) (holds : P tree) :
    slot settled = cycle.find? fits := by
  induction onward with
  | closed refused =>
    rw [vacant, eq_comm, List.find?_eq_none]
    intro r member
    simp [refuses _ r _ member (.closed refused) holds vacant (refused r member)]
  | @takes before after r tree grown settled passed taken onward ih =>
    have misfits : ∀ e ∈ before, fits e = false := fun e member =>
      refuses tree e _ (by simp [member]) (.takes passed taken onward) holds vacant (passed e member)
    have none : before.find? fits = none := List.find?_eq_none.mpr fun e member => by simp [misfits e member]
    obtain ⟨kept, filled⟩ := takes tree r grown _ (by simp) onward holds vacant taken
    cases decided : fits r with
    | true =>
      rw [decided, if_pos rfl] at filled
      rw [slot_stays keeps filled onward]
      simp [List.find?_append, none, decided]
    | false =>
      rw [decided, if_neg (by simp)] at filled
      rw [ih (fun t e w member => refuses t e w (mem_turned.mp member))
        (fun t e t' w member => takes t e t' w (mem_turned.mp member)) filled kept]
      simp [List.find?_append, none, decided]

/-- A slot that was filled on the way was filled by an offer, and behind the record that it holds the scan
went on with what follows that record. -/
theorem slot_taken (onward : Fills offer cycle tree settled) (unique : cycle.Nodup)
    (keeps : ∀ before r after, offer before r = some after →
      ∀ held, slot before = some held → slot after = some held)
    (fills : ∀ before r after, offer before r = some after → slot before = none →
      slot after = none ∨ slot after = some r)
    (step : ∀ before r after, r ∈ cycle → P before → offer before r = some after → P after)
    (vacant : slot tree = none) (holds : P tree) {held : Record} (found : slot settled = some held) :
    held ∈ cycle ∧ ∃ before after, P before ∧ slot before = none ∧ offer before held = some after ∧
      slot after = some held ∧ P after ∧ Fills offer (following held cycle ++ [held]) after settled := by
  induction onward with
  | closed =>
    rw [vacant] at found
    cases found
  | @takes before after r tree grown settled passed taken onward ih =>
    have kept := step tree r grown (by simp) holds taken
    rcases fills tree r grown taken vacant with still | filled
    · have whole : ((before ++ [r]) ++ after).Nodup := by simpa using unique
      have turned : (after ++ before ++ [r]).Nodup := by
        rw [List.append_assoc]
        exact List.nodup_append_comm.mp whole
      obtain ⟨member, way⟩ := ih turned (fun t e t' member => step t e t' (mem_turned.mp member)) still kept
        found
      have member' := mem_turned.mp member
      have same := following_turned whole (by simpa using member')
      rw [← List.append_assoc, List.append_assoc before, List.singleton_append] at same
      rw [same] at way
      exact ⟨member', way⟩
    · have same := slot_stays keeps filled onward
      rw [found, Option.some.injEq] at same
      subst same
      have first : held ∉ before := by
        simp only [List.nodup_append, List.nodup_cons, List.mem_cons] at unique
        grind
      rw [following_split first]
      exact ⟨by simp, tree, grown, holds, vacant, taken, filled, kept, onward⟩

end Slot

end RemoteJobs.Proofs.ScanTurns
