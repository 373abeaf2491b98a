import Mathlib
import ScanMatrix.Proofs.Designator

/-!
# The search for a free ordinal

An ordinal is found by trying one after another from the counter on. A round that does not end the search meets a
name in use, and no two rounds meet the same. So there are no more such rounds than names in use, and the search
ends on the least ordinal that is free (`ordinal_search_ends`).
-/

namespace ScanMatrix

namespace Designators

def freeOrdinals (d : Designators) : Set Nat := {n | d.next ≤ n ∧ ordinal n ∉ d.used}

theorem isLeast_leastFree (d : Designators) : IsLeast d.freeOrdinals (leastFree d.used d.next) := by
  obtain ⟨hle, hfree, htaken⟩ := search_eq_some d.used (search_leastFree d.used d.next)
  refine ⟨⟨hle, hfree⟩, fun j hj => ?_⟩
  by_contra hlt
  exact hj.2 (htaken j hj.1 (by omega))

/-! ## Rounds -/

/-- The search from a state, with the number of its rounds and what it gives. A round ends the search if the
ordinal at the counter is free, and it moves the counter on by one either way. -/
inductive Search : Designators → Nat → String × Designators → Prop where
  | free {d : Designators} (h : ordinal d.next ∉ d.used) :
      Search d 1 (ordinal d.next, ⟨d.next + 1, ordinal d.next :: d.used⟩)
  | taken {d : Designators} {rounds : Nat} {result : String × Designators} (h : ordinal d.next ∈ d.used)
      (rest : Search { d with next := d.next + 1 } rounds result) : Search d (rounds + 1) result

section
variable {d : Designators}

theorem isLeast_next (h : ordinal d.next ∉ d.used) : IsLeast d.freeOrdinals d.next :=
  ⟨⟨Nat.le_refl _, h⟩, fun _ hj => hj.1⟩

theorem freeOrdinals_taken (h : ordinal d.next ∈ d.used) :
    { d with next := d.next + 1 }.freeOrdinals = d.freeOrdinals := by
  ext j
  refine ⟨fun hj => ⟨Nat.le_of_succ_le hj.1, hj.2⟩, fun hj => ⟨Nat.lt_of_le_of_ne hj.1 fun heq => ?_, hj.2⟩⟩
  exact hj.2 (heq ▸ h)

theorem eq_of_search {rounds m : Nat} {result : String × Designators} (h : Search d rounds result) :
    IsLeast d.freeOrdinals m →
      rounds = m - d.next + 1 ∧ result = (ordinal m, ⟨m + 1, ordinal m :: d.used⟩) := by
  induction h with
  | free hfree =>
    intro hm
    obtain rfl := hm.unique (isLeast_next hfree)
    simp
  | taken htaken _ ih =>
    intro hm
    rw [← freeOrdinals_taken htaken] at hm
    obtain ⟨hrounds, hresult⟩ := ih hm
    have hle := hm.1.1
    dsimp only at hrounds hle
    exact ⟨by omega, hresult⟩

theorem search_of_isLeast {m : Nat} : ∀ (k : Nat) {d : Designators}, m - d.next = k → IsLeast d.freeOrdinals m →
    Search d (k + 1) (ordinal m, ⟨m + 1, ordinal m :: d.used⟩)
  | 0, d, hk, hm => by
    obtain rfl : m = d.next := Nat.le_antisymm (Nat.sub_eq_zero_iff_le.mp hk) hm.1.1
    exact .free hm.1.2
  | k + 1, d, hk, hm => by
    have htaken : ordinal d.next ∈ d.used := by
      by_contra hfree
      have hle := hm.2 (isLeast_next hfree).1
      omega
    refine .taken htaken (search_of_isLeast k ?_ ?_)
    · dsimp only; omega
    · rwa [freeOrdinals_taken htaken]

end

/-- **The search for an ordinal ends.** From any state it takes at most one round more than there are names in
use, whatever they are. It gives the least ordinal from the counter on that is free, adds this name to those in
use and leaves the counter after it. -/
theorem ordinal_search_ends (d : Designators) : ∃ m, IsLeast d.freeOrdinals m ∧
    d.assignOrdinal = (ordinal m, ⟨m + 1, ordinal m :: d.used⟩) ∧
    ∃ last ≤ d.used.toFinset.card + 1,
      ∀ rounds result, Search d rounds result ↔ rounds = last ∧ result = d.assignOrdinal := by
  have hm := isLeast_leastFree d
  refine ⟨leastFree d.used d.next, hm, rfl, leastFree d.used d.next - d.next + 1, ?_, fun rounds result => ?_⟩
  · have htaken := (search_eq_some d.used (search_leastFree d.used d.next)).2.2
    exact Nat.succ_le_succ (sub_le_card_used htaken)
  · refine ⟨fun h => eq_of_search h hm, fun h => ?_⟩
    obtain ⟨rfl, rfl⟩ := h
    exact search_of_isLeast _ rfl hm

example : (⟨3, ["K5", "K3", "K_A", "K4"]⟩ : Designators).assignOrdinal =
    ("K6", ⟨7, ["K6", "K5", "K3", "K_A", "K4"]⟩) := rfl

end Designators

end ScanMatrix
