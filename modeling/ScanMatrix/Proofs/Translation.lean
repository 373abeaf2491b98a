import Mathlib
import ScanMatrix.Proofs.Bounds
import ScanMatrix.Proofs.Rendering

/-!
# Layouts elsewhere on the grid

With exact numbers, a layout that stands further right and further down on the grid has the same keys, all
moved by one vector. Centring takes the vector away, so the matrix is the same (`compile_moved`).
-/

namespace ScanMatrix

open Scalar

variable {dx dy : Rat}

/-! ## The cursor -/

namespace Cursor

/-- Further right and further down. -/
def moved (dx dy : Rat) (c : Cursor Rat) : Cursor Rat := { c with x := c.x + dx, y := c.y + dy }

variable (c : Cursor Rat)

theorem moved_zero : c.moved 0 0 = c := by
  unfold moved
  rw [add_zero, add_zero]

theorem apply_right : (c.moved 0 dy).apply { x := some dx } = c.moved dx dy := by
  unfold apply moved
  simp [zero]

theorem apply_down : c.apply { y := some dy } = c.moved 0 dy := by
  unfold apply moved
  simp [zero]

theorem apply_moved (m : Modifier Rat) : (c.moved dx dy).apply m = (c.apply m).moved dx dy := by
  unfold apply moved
  congr 1
  · exact add_right_comm ..
  · exact add_right_comm ..

theorem advance_moved : (c.moved dx dy).advance = c.advance.moved dx dy := by
  unfold advance moved
  congr 1
  exact add_right_comm ..

theorem step_moved (cell : Cell Rat) : (c.moved dx dy).step cell = (c.step cell).moved dx dy := by
  cases cell with
  | modifier m => exact c.apply_moved m
  | label text => exact c.advance_moved

/-- The next row begins at the left, wherever the cursor was. -/
theorem nextRow_moved : (c.moved dx dy).nextRow = c.nextRow.moved 0 dy := by
  unfold nextRow moved
  congr 1
  · exact (add_zero _).symm
  · exact add_right_comm ..

theorem pastRow_moved (row : Row Rat) : (c.moved dx dy).pastRow row = (c.pastRow row).moved 0 dy := by
  have hrow : row.foldl step (c.moved dx dy) = (row.foldl step c).moved dx dy :=
    List.foldl_hom (moved dx dy) fun c cell => step_moved c cell
  unfold pastRow
  rw [hrow, nextRow_moved]

theorem key_moved (name label : String) : (c.moved dx dy).key name label =
    (c.key name label).shiftedBack ⟨-(dx * pitch), dy * pitch⟩ := by
  unfold key moved Key.shiftedBack
  congr 2
  · ring
  · ring

end Cursor

/-! ## Rows -/

namespace Row

theorem slots_moved (row : Row Rat) : ∀ c : Cursor Rat,
    slots (c.moved dx dy) row = (slots c row).map (Prod.map (Cursor.moved dx dy) id) := by
  induction row with
  | nil => intro c; rfl
  | cons cell row ih =>
    intro c
    cases cell with
    | modifier m => rw [slots, Cursor.apply_moved, ih]; rfl
    | label text => rw [slots, Cursor.advance_moved, ih]; rfl

/-- A modifier in front of a row, whether the row has cells or not. -/
def lead (m : Modifier Rat) (row : Row Rat) : Row Rat := .modifier m :: row

/-- A modifier in front of the first cell of a row, if there is one. -/
def leadCell (m : Modifier Rat) : Row Rat → Row Rat
  | [] => []
  | cell :: row => .modifier m :: cell :: row

/-- A modifier is put in front of every row, but perhaps not where there are no cells. -/
def Leads (put : Modifier Rat → Row Rat → Row Rat) : Prop :=
  ∀ m row, put m row = .modifier m :: row ∨ row = [] ∧ put m row = []

theorem leads_lead : Leads lead := fun _ _ => .inl rfl

theorem leads_leadCell : Leads leadCell := by
  intro m row
  cases row with
  | nil => exact .inr ⟨rfl, rfl⟩
  | cons cell row => exact .inl rfl

end Row

/-! ## Layouts -/

namespace Layout

/-- The layout with a modifier put in front of each row that moves it to the right, and one more in front of
the first row that moves the layout down. -/
def moved (put : Modifier Rat → Row Rat → Row Rat) (dx dy : Rat) (layout : Layout Rat) : Layout Rat :=
  ⟨(layout.rows.map (put { x := some dx })).modifyHead (put { y := some dy })⟩

section
variable {put : Modifier Rat → Row Rat → Row Rat} (h : Row.Leads put)
include h

theorem slots_put (row : Row Rat) (c : Cursor Rat) : Row.slots (c.moved 0 dy) (put { x := some dx } row) =
    (Row.slots c row).map (Prod.map (Cursor.moved dx dy) id) := by
  rcases h { x := some dx } row with hput | ⟨rfl, hput⟩
  · rw [hput, Row.slots, Cursor.apply_right, Row.slots_moved]
  · rw [hput]; rfl

theorem pastRow_put (row : Row Rat) (c : Cursor Rat) :
    (c.moved 0 dy).pastRow (put { x := some dx } row) = (c.pastRow row).moved 0 dy := by
  rcases h { x := some dx } row with hput | ⟨rfl, hput⟩
  · have hcell : (c.moved 0 dy).pastRow (.modifier { x := some dx } :: row) = (c.moved dx dy).pastRow row :=
      congrArg (fun c => Cursor.pastRow c row) c.apply_right
    rw [hput, hcell, Cursor.pastRow_moved]
  · rw [hput, Cursor.pastRow_moved]

theorem slotsFrom_put (rows : List (Row Rat)) : ∀ c : Cursor Rat,
    slotsFrom (c.moved 0 dy) (rows.map (put { x := some dx })) =
      (slotsFrom c rows).map (Prod.map (Cursor.moved dx dy) id) := by
  induction rows with
  | nil => intro c; rfl
  | cons row rows ih =>
    intro c
    rw [List.map_cons, slotsFrom, slots_put h, pastRow_put h, ih, slotsFrom, List.map_append]

/-- All slots are moved by one vector, down only if something is put in front of the first row. -/
theorem exists_slots_moved (layout : Layout Rat) (dx dy : Rat) : ∃ dy',
    (layout.moved put dx dy).slots = layout.slots.map (Prod.map (Cursor.moved dx dy') id) := by
  obtain ⟨rows⟩ := layout
  unfold slots moved
  cases rows with
  | nil => exact ⟨dy, rfl⟩
  | cons row rows =>
    rw [List.map_cons, List.modifyHead_cons]
    rcases h { y := some dy } (put { x := some dx } row) with hput | ⟨hrow, hput⟩
    · refine ⟨dy, ?_⟩
      rw [← slotsFrom_put h, ← Cursor.apply_down, hput]; rfl
    · refine ⟨0, ?_⟩
      rw [← slotsFrom_put h, Cursor.moved_zero, hput, ← hrow]; rfl

/-! ## Keys -/

theorem exists_keys_moved (layout : Layout Rat) (dx dy : Rat) : ∃ d,
    (layout.moved put dx dy).keys = layout.keys.map (·.shiftedBack d) := by
  obtain ⟨dy', hslots⟩ := exists_slots_moved h layout dx dy
  have hlabels : (layout.moved put dx dy).labels = layout.labels := by
    rw [← map_snd_slots, hslots, List.map_map, ← map_snd_slots]; rfl
  refine ⟨⟨-(dx * pitch), dy' * pitch⟩, ?_⟩
  unfold keys names
  rw [hslots, hlabels, List.zipWith_map_left, List.map_zipWith]
  congr 1; funext s name
  exact s.1.key_moved name s.2

theorem compile_eq_of_leads (layout : Layout Rat) (config : MatrixConfig Rat) (dx dy : Rat) :
    (layout.moved put dx dy).compile config = layout.compile config := by
  obtain ⟨d, hkeys⟩ := exists_keys_moved h layout dx dy
  rw [compile_eq_elim, compile_eq_elim, hkeys, centered?_map_shiftedBack]

end

/-- **Layouts elsewhere.** With an offset to the right in front of every row and one downwards in front of the
first, a layout is compiled to the same matrix or to the same error, whether or not rows without cells take
them. -/
theorem compile_moved (layout : Layout Rat) (config : MatrixConfig Rat) (dx dy : Rat) :
    (layout.moved Row.lead dx dy).compile config = layout.compile config ∧
    (layout.moved Row.leadCell dx dy).compile config = layout.compile config :=
  ⟨compile_eq_of_leads Row.leads_lead layout config dx dy,
    compile_eq_of_leads Row.leads_leadCell layout config dx dy⟩

end Layout

end ScanMatrix
