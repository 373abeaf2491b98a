import Mathlib
import ScanMatrix.Layout.Keys
import ScanMatrix.Proofs.Sites

/-!
# What the last modifier says

Some quantities of the cursor are set by modifiers and do not add up. A size holds for one key, a
rotation until it is set again, and the end of a row changes neither, so each key has the last value
that was set in the cells that still count (`last_setting_counts`).
-/

namespace ScanMatrix

variable {α : Type}

def Cell.modifier? : Cell α → Option (Modifier α)
  | .label _ => none
  | .modifier m => some m

namespace Row

def modifiers (cells : Row α) : List (Modifier α) := cells.filterMap Cell.modifier?

@[simp] theorem modifiers_append (cells cells' : Row α) :
    modifiers (cells ++ cells') = cells.modifiers ++ cells'.modifiers := List.filterMap_append

@[simp] theorem modifiers_label (text : String) (cells : Row α) :
    modifiers (.label text :: cells) = cells.modifiers := rfl

@[simp] theorem modifiers_modifier (m : Modifier α) (cells : Row α) :
    modifiers (.modifier m :: cells) = m :: cells.modifiers := rfl

@[simp] theorem modifiers_nil : modifiers ([] : Row α) = [] := rfl

/-- The cells after the last label. -/
def sinceLabel (cells : Row α) : Row α := cells.rtakeWhile fun cell => cell.label?.isNone

theorem sinceLabel_label (cells : Row α) (text : String) : sinceLabel (cells ++ [Cell.label text]) = [] :=
  List.rtakeWhile_concat_neg _ _ _ (by simp [Cell.label?])

theorem sinceLabel_modifier (cells : Row α) (m : Modifier α) :
    sinceLabel (cells ++ [Cell.modifier m]) = cells.sinceLabel ++ [Cell.modifier m] :=
  List.rtakeWhile_concat_pos _ _ _ rfl

end Row

namespace Site

/-- The cells of the layout before the label, row by row. -/
def read (s : Site α) : Row α := s.above.flatten ++ s.before

end Site

/-- The value that a field has in the last of the modifiers that set it. -/
def lastSet (field : Modifier α → Option α) (ms : List (Modifier α)) : Option α :=
  (ms.filterMap field).getLast?

theorem lastSet_concat (field : Modifier α → Option α) (ms : List (Modifier α)) (m : Modifier α) :
    lastSet field (ms ++ [m]) = (field m).or (lastSet field ms) := by
  unfold lastSet
  rw [List.filterMap_append, List.getLast?_append]
  cases h : field m <;> simp [h]

/-! ## Quantities set by modifiers -/

def setBy (field : Modifier α → Option α) (after : α → α) (v : α) : Cell α → α
  | .modifier m => (field m).getD v
  | .label _ => after v

/-- The quantity follows the field of the modifiers, each key leaves it at the value `after`, and the end
of a row does not change it. -/
structure Carried [Scalar α] (held : Cursor α → α) (field : Modifier α → Option α) (after : α → α) :
    Prop where
  apply : ∀ c m, held (c.apply m) = (field m).getD (held c)
  advance : ∀ c, held c.advance = after (held c)
  nextRow : ∀ c, held c.nextRow = held c

namespace Carried

variable [Scalar α] {held : Cursor α → α} {field : Modifier α → Option α} {after : α → α}

theorem foldl_step (h : Carried held field after) (cells : Row α) (c : Cursor α) :
    held (cells.foldl Cursor.step c) = cells.foldl (setBy field after) (held c) := by
  symm
  apply List.foldl_hom held; intro c cell
  cases cell with
  | label text => exact (h.advance c).symm
  | modifier m => exact (h.apply c m).symm

theorem foldl_pastRow (h : Carried held field after) (rows : List (Row α)) : ∀ c : Cursor α,
    held (rows.foldl Cursor.pastRow c) = rows.flatten.foldl (setBy field after) (held c) := by
  induction rows with
  | nil => intro c; rfl
  | cons row rows ih =>
    intro c
    have hrow : held (c.pastRow row) = row.foldl (setBy field after) (held c) := by
      rw [← h.foldl_step]
      exact h.nextRow _
    rw [List.foldl_cons, ih, hrow, List.flatten_cons, List.foldl_append]

theorem cursor (h : Carried held field after) (s : Site α) :
    held s.cursor = s.read.foldl (setBy field after) (held .start) := by
  unfold Site.cursor Site.read
  rw [h.foldl_step, h.foldl_pastRow, List.foldl_append]

end Carried

section
variable (field : Modifier α → Option α)

-- The last cell decides first, so both inductions take the cells from the end.

theorem foldl_setBy_kept (v : α) (cells : Row α) :
    cells.foldl (setBy field id) v = (lastSet field cells.modifiers).getD v := by
  induction cells using List.reverseRecOn with
  | nil => rfl
  | append_singleton cells cell ih =>
    rw [List.foldl_concat, ih]
    cases cell with
    | label text => simp [setBy]
    | modifier m => simp [setBy, lastSet_concat]

theorem foldl_setBy_reset (v : α) (cells : Row α) :
    cells.foldl (setBy field fun _ => v) v = (lastSet field cells.sinceLabel.modifiers).getD v := by
  induction cells using List.reverseRecOn with
  | nil => rfl
  | append_singleton cells cell ih =>
    rw [List.foldl_concat, ih]
    cases cell with
    | label text => rw [Row.sinceLabel_label]; rfl
    | modifier m => simp [setBy, Row.sinceLabel_modifier, lastSet_concat]

end

/-! ## Keys -/

section
variable [Scalar α]

open Scalar

theorem Carried.cursor_kept {held : Cursor α → α} {field : Modifier α → Option α}
    (h : Carried held field id) (s : Site α) :
    held s.cursor = (lastSet field s.read.modifiers).getD (held .start) := by
  rw [h.cursor, foldl_setBy_kept]

theorem Carried.cursor_reset {held : Cursor α → α} {field : Modifier α → Option α}
    (h : Carried held field fun _ => held .start) (s : Site α) :
    held s.cursor = (lastSet field s.read.sinceLabel.modifiers).getD (held .start) := by
  rw [h.cursor, foldl_setBy_reset]

theorem carried_width : Carried (α := α) (·.width) (·.w) fun _ => one :=
  ⟨fun _ _ => rfl, fun _ => rfl, fun _ => rfl⟩

theorem carried_height : Carried (α := α) (·.height) (·.h) fun _ => one :=
  ⟨fun _ _ => rfl, fun _ => rfl, fun _ => rfl⟩

theorem carried_rotation : Carried (α := α) (·.rotation) (·.r) id :=
  ⟨fun _ _ => rfl, fun _ => rfl, fun _ => rfl⟩

theorem carried_pivot_x : Carried (α := α) (·.pivot.x) (·.rx) id :=
  ⟨fun _ _ => rfl, fun _ => rfl, fun _ => rfl⟩

theorem carried_pivot_y : Carried (α := α) (·.pivot.y) (·.ry) id :=
  ⟨fun _ _ => rfl, fun _ => rfl, fun _ => rfl⟩

/-- **The last setting counts.** A key has the width and the height last set since the label before it
in the whole layout, row ends or not, and the rotation and the pivot last set before it at all, each
chosen by itself; what was not set is one for a size and zero for the others. -/
theorem last_setting_counts (layout : Layout α) :
    List.Forall₂ (fun s k =>
      k.width = (lastSet (·.w) s.read.sinceLabel.modifiers).getD one * pitch ∧
      k.height = (lastSet (·.h) s.read.sinceLabel.modifiers).getD one * pitch ∧
      k.rotation = (lastSet (·.r) s.read.modifiers).getD zero ∧
      k.pivot.x = (lastSet (·.rx) s.read.modifiers).getD zero * pitch ∧
      k.pivot.y = (lastSet (·.ry) s.read.modifiers).getD zero * pitch) layout.sites layout.keys := by
  refine layout.forall₂_keys.imp fun s k hk => ?_
  have hwidth := carried_width.cursor_reset s
  have hheight := carried_height.cursor_reset s
  have hrotation := carried_rotation.cursor_kept s
  have hx := carried_pivot_x.cursor_kept s
  have hy := carried_pivot_y.cursor_kept s
  rw [hk]
  exact ⟨congrArg (· * pitch) hwidth, congrArg (· * pitch) hheight, hrotation,
    congrArg (· * pitch) hx, congrArg (· * pitch) hy⟩

end

end ScanMatrix
