import Mathlib
import ScanMatrix.Proofs.Grid

/-!
# Layouts that are alike

Two layouts are alike if their rows have cells of the same kinds, their modifiers agree in the seven fields
that place a key, and their labels are related in some way. Their cursors are then at the same places at
every label (`Layout.Alike.cursors`), so what their keys differ in can only come from the labels.
-/

namespace ScanMatrix

variable {α : Type}

/-- The modifiers place keys alike, whatever else is set in them. -/
structure Modifier.Agree (m m' : Modifier α) : Prop where
  x : m.x = m'.x
  y : m.y = m'.y
  w : m.w = m'.w
  h : m.h = m'.h
  r : m.r = m'.r
  rx : m.rx = m'.rx
  ry : m.ry = m'.ry

inductive Cell.Alike (texts : String → String → Prop) : Cell α → Cell α → Prop where
  | label {a b : String} : texts a b → Alike texts (.label a) (.label b)
  | modifier {m m' : Modifier α} : m.Agree m' → Alike texts (.modifier m) (.modifier m')

def Layout.Alike (texts : String → String → Prop) (l l' : Layout α) : Prop :=
  List.Forall₂ (List.Forall₂ (Cell.Alike texts)) l.rows l'.rows

section
variable [Scalar α] {texts : String → String → Prop}

/-! ## Cursors -/

namespace Cursor

theorem apply_agree {m m' : Modifier α} (h : m.Agree m') (c : Cursor α) : c.apply m = c.apply m' := by
  simp only [apply, h.x, h.y, h.w, h.h, h.r, h.rx, h.ry]

theorem step_alike {cell cell' : Cell α} (h : cell.Alike texts cell') (c : Cursor α) : c.step cell = c.step cell' := by
  cases h with
  | label _ => rfl
  | modifier h => exact apply_agree h c

theorem pastRow_alike {row row' : Row α} (h : List.Forall₂ (Cell.Alike texts) row row') (c : Cursor α) :
    c.pastRow row = c.pastRow row' := by
  have hfold : row.foldl step c = row'.foldl step c := by
    induction h generalizing c with
    | nil => rfl
    | cons hcell _ ih => rw [List.foldl_cons, List.foldl_cons, step_alike hcell, ih]
  unfold pastRow
  rw [hfold]

end Cursor

/-! ## Slots -/

/-- At one place of the cursor, with labels that are related. -/
def SlotAlike (texts : String → String → Prop) (s s' : Cursor α × String) : Prop := s.1 = s'.1 ∧ texts s.2 s'.2

theorem Row.slots_alike {row row' : Row α} (h : List.Forall₂ (Cell.Alike texts) row row') : ∀ c : Cursor α,
    List.Forall₂ (SlotAlike texts) (row.slots c) (row'.slots c) := by
  induction h with
  | nil => intro c; exact .nil
  | cons hcell _ ih =>
    intro c
    cases hcell with
    | label htext => exact .cons ⟨rfl, htext⟩ (ih _)
    | modifier hm =>
      rw [slots, slots, Cursor.apply_agree hm]
      exact ih _

namespace Layout

theorem slotsFrom_alike {rows rows' : List (Row α)} (h : List.Forall₂ (List.Forall₂ (Cell.Alike texts)) rows rows') :
    ∀ c : Cursor α, List.Forall₂ (SlotAlike texts) (slotsFrom c rows) (slotsFrom c rows') := by
  induction h with
  | nil => intro c; exact .nil
  | cons hrow _ ih =>
    intro c
    rw [slotsFrom, slotsFrom, Cursor.pastRow_alike hrow]
    exact List.rel_append (Row.slots_alike hrow c) (ih _)

namespace Alike

variable {l l' : Layout α}

theorem slots (h : l.Alike texts l') : List.Forall₂ (SlotAlike texts) l.slots l'.slots := slotsFrom_alike h .start

theorem cursors (h : l.Alike texts l') : l.slots.map (·.1) = l'.slots.map (·.1) := by
  rw [← List.forall₂_eq_eq_eq, List.forall₂_map_left_iff, List.forall₂_map_right_iff]
  exact h.slots.imp fun _ _ hs => hs.1

theorem labels (h : l.Alike texts l') : List.Forall₂ texts l.labels l'.labels := by
  rw [← map_snd_slots, ← map_snd_slots, List.forall₂_map_left_iff, List.forall₂_map_right_iff]
  exact h.slots.imp fun _ _ hs => hs.2

theorem keys (h : l.Alike Eq l') : l.keys = l'.keys := by
  have hslots : l.slots = l'.slots := by
    rw [← List.forall₂_eq_eq_eq]
    exact h.slots.imp fun _ _ hs => Prod.ext hs.1 hs.2
  have hlabels : l.labels = l'.labels := by
    rw [← List.forall₂_eq_eq_eq]
    exact h.labels
  unfold Layout.keys Layout.names
  rw [hslots, hlabels]

end Alike

end Layout

end

end ScanMatrix
