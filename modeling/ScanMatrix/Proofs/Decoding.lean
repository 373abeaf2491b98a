import Mathlib
import ScanMatrix.Decoder
import ScanMatrix.Proofs.Reading

/-!
# Decoders and values

A decoder reads a text from front to back. Decoders of scalars, of values that may be `null` and of lists take
what the reader of values takes, if that has the form they want.
-/

namespace ScanMatrix

open Json

namespace Json

/-! ## Scalars and null -/

theorem skipBlanks_skipBlanks (s : List Char) : skipBlanks (skipBlanks s) = skipBlanks s := by
  induction s with
  | nil => rfl
  | cons c s ih =>
    by_cases hc : isBlank c = true
    · simpa [skipBlanks, hc] using ih
    · simp [skipBlanks, hc]

theorem value_skipBlanks (room : Nat) (s : List Char) : value room (skipBlanks s) = value room s := by
  cases room with
  | zero => rw [value, value, skipBlanks_skipBlanks]
  | succ room => rw [value, value, skipBlanks_skipBlanks]

theorem value_eq_scalar {s r : List Char} {c : Char} (h : skipBlanks s = c :: r) (hlist : c ≠ '[')
    (hobject : c ≠ '\x7b') (room : Nat) : value room s = scalar (c :: r) := by
  cases room with
  | zero => rw [value, h]; simp [hlist, hobject]
  | succ room => rw [value, h]; simp [hlist, hobject]

theorem scalar_ne_null {c : Char} (hc : c ≠ 'n') (t r : List Char) : scalar (c :: t) ≠ .ok .null r := by
  unfold scalar
  split
  all_goals try split
  all_goals simp_all

theorem scalar_eq_null {s r : List Char} :
    scalar s = .ok .null r ↔ ∃ t, s = 'n' :: t ∧ word ['u', 'l', 'l'] t = .ok () r := by
  cases s with
  | nil => simp [scalar]
  | cons c s =>
    by_cases hc : c = 'n'
    · subst hc
      simp [scalar, Unique.exists_iff]
    · simp [scalar_ne_null hc, hc]

theorem value_eq_null {room : Nat} {s r : List Char} :
    value room s = .ok .null r ↔ ∃ t, skipBlanks s = 'n' :: t ∧ word ['u', 'l', 'l'] t = .ok () r := by
  cases room with
  | zero =>
    rw [value]
    split <;> simp [*, scalar_eq_null]
  | succ room =>
    rw [value]
    split <;> simp [*, scalar_eq_null]

/-- What begins like a container is none of the scalars. -/
theorem accept_eq_none_of_value {β : Type} {accept : Json → Option β} (harray : ∀ items, accept (.array items) = none)
    (hobject : ∀ ms, accept (.object ms) = none) {room : Nat} {s t r : List Char} {c : Char} {v : Json}
    (hs : skipBlanks s = c :: t) (hc : c = '[' ∨ c = '\x7b') (hv : value room s = .ok v r) : accept v = none := by
  cases room with
  | zero =>
    rw [value, hs] at hv
    rcases hc with rfl | rfl
    · simp at hv
    · simp at hv
  | succ room =>
    rw [value, hs] at hv
    rcases hc with rfl | rfl
    · obtain ⟨items, -, rfl⟩ := Outcome.map_eq_ok.mp hv
      exact harray items
    · obtain ⟨ms, -, rfl⟩ := Outcome.map_eq_ok.mp hv
      exact hobject _

theorem through_scalarOf (wanted : String) {β : Type} {accept : Json → Option β}
    (harray : ∀ items, accept (.array items) = none) (hobject : ∀ ms, accept (.object ms) = none) (room : Nat) :
    Through accept (value room) (scalarOf wanted accept) := by
  intro s b r
  unfold scalarOf atToken
  cases hs : skipBlanks s with
  | nil =>
    have hvalue : value room s = Outcome.peek .endInValue [] := by
      rw [← value_skipBlanks, hs]
      cases room <;> rfl
    simp [hvalue]
  | cons c t =>
    by_cases hc : c = '[' ∨ c = '\x7b'
    · simp only [hc, if_true, refuse_ne_ok, false_iff, not_exists, not_and]
      intro v hv hb
      rw [accept_eq_none_of_value harray hobject hs hc hv] at hb
      cases hb
    · obtain ⟨hlist, hobject'⟩ := not_or.mp hc
      simp only [hc, if_false, Outcome.settled_eq_ok, Outcome.andThen_eq_ok, value_eq_scalar hs hlist hobject']
      constructor
      · rintro ⟨v, s', hv, hb⟩
        cases ha : accept v with
        | none => simp [ha] at hb
        | some a =>
          rw [ha] at hb
          cases hb
          exact ⟨v, hv, ha⟩
      · rintro ⟨v, hv, hb⟩; exact ⟨v, r, hv, by rw [hb]⟩

end Json

namespace Decoder

variable {β : Type}

/-- `null`, or what `f` takes. -/
def orNull (f : Json → Option β) : Json → Option (Option β)
  | .null => some none
  | v => (f v).map some

theorem through_optional {f : Json → Option β} {d : Decoder β} {room : Nat} (h : Through f (value room) (d.json room)) :
    Through (orNull f) (value room) ((optional d).json room) := by
  intro s slot r
  unfold optional
  dsimp only
  split
  · rename_i t hs
    rw [value_eq_scalar hs (by decide) (by decide), scalar]
    simp only [Outcome.map_eq_ok]
    constructor
    · rintro ⟨u, hu, rfl⟩; exact ⟨.null, ⟨u, hu, rfl⟩, rfl⟩
    · rintro ⟨v, ⟨u, hu, rfl⟩, hv⟩; exact ⟨u, hu, Option.some.inj hv⟩
  · rename_i hs
    have hnull : ∀ v, value room s = .ok v r → orNull f v = (f v).map some := by
      intro v hv
      cases v with
      | null =>
        obtain ⟨t, ht, -⟩ := value_eq_null.mp hv
        exact absurd ht (hs t)
      | _ => rfl
    simp only [Outcome.map_eq_ok, h _ _ _, value_skipBlanks]
    constructor
    · rintro ⟨b, ⟨v, hv, hb⟩, rfl⟩; exact ⟨v, hv, by rw [hnull v hv, hb]; rfl⟩
    · rintro ⟨v, hv, hslot⟩
      rw [hnull v hv] at hslot
      obtain ⟨b, hb, hslot⟩ := Option.map_eq_some_iff.mp hslot
      exact ⟨b, ⟨v, hv, hb⟩, hslot⟩

end Decoder

end ScanMatrix
