import Mathlib
import ScanMatrix.Layout.Keys
import ScanMatrix.Proofs.Designator
import ScanMatrix.Proofs.Lists

/-!
# Keys and labels

Every label is a key, in reading order, under a name of its own. The keys of a row of the layout
are in the row of the grid with the same index, in columns counted from zero, so no two keys have
both indices in common (`grid_keys_pairwise`).
-/

namespace ScanMatrix

variable {α : Type}

namespace Row

def labels (row : Row α) : List String := row.filterMap Cell.label?

end Row

namespace Cursor

variable [Scalar α]

@[simp] theorem apply_row (c : Cursor α) (m : Modifier α) : (c.apply m).row = c.row := rfl
@[simp] theorem apply_col (c : Cursor α) (m : Modifier α) : (c.apply m).col = c.col := rfl
@[simp] theorem advance_row (c : Cursor α) : c.advance.row = c.row := rfl
@[simp] theorem advance_col (c : Cursor α) : c.advance.col = c.col + 1 := rfl

theorem foldl_step_row (row : Row α) : ∀ c : Cursor α, (row.foldl step c).row = c.row := by
  induction row with
  | nil => intro c; rfl
  | cons cell row ih =>
    intro c
    rw [List.foldl_cons, ih]
    cases cell <;> rfl

@[simp] theorem pastRow_row (c : Cursor α) (row : Row α) : (c.pastRow row).row = c.row + 1 := by
  show (row.foldl step c).row + 1 = c.row + 1
  rw [foldl_step_row]

@[simp] theorem pastRow_col (c : Cursor α) (row : Row α) : (c.pastRow row).col = 0 := rfl

theorem foldl_step_col (cells : Row α) : ∀ c : Cursor α,
    (cells.foldl step c).col = c.col + cells.labels.length := by
  induction cells with
  | nil => intro c; rfl
  | cons cell cells ih =>
    intro c
    rw [List.foldl_cons, ih]
    cases cell with
    | modifier m => rfl
    | label text => show c.col + 1 + _ = c.col + (Row.labels cells).length.succ; omega

theorem foldl_pastRow_row (rows : List (Row α)) : ∀ c : Cursor α,
    (rows.foldl pastRow c).row = c.row + rows.length := by
  induction rows with
  | nil => intro c; rfl
  | cons row rows ih =>
    intro c
    rw [List.foldl_cons, ih, pastRow_row, List.length_cons]; omega

theorem foldl_pastRow_col (rows : List (Row α)) : ∀ c : Cursor α, c.col = 0 →
    (rows.foldl pastRow c).col = 0 := by
  induction rows with
  | nil => intro c h; exact h
  | cons row rows ih => intro c _; exact ih _ (c.pastRow_col row)

end Cursor

/-! ## Slots -/

/-- The row and the column of a slot. -/
def slotCell (s : Cursor α × String) : Nat × Nat := (s.1.row, s.1.col)

section
variable [Scalar α]

theorem Row.map_snd_slots (row : Row α) : ∀ c : Cursor α, (Row.slots c row).map (·.2) = row.labels := by
  induction row with
  | nil => intro c; rfl
  | cons cell row ih =>
    intro c
    cases cell with
    | label text => rw [slots, List.map_cons, ih]; rfl
    | modifier m => rw [slots, ih]; rfl

theorem Row.map_slotCell_slots (row : Row α) : ∀ c : Cursor α,
    (Row.slots c row).map slotCell = (List.range' c.col row.labels.length).map (Prod.mk c.row) := by
  induction row with
  | nil => intro c; rfl
  | cons cell row ih =>
    intro c
    cases cell with
    | label text =>
      rw [slots, List.map_cons, ih, c.advance_row, c.advance_col]
      rfl
    | modifier m =>
      rw [slots, ih, c.apply_row, c.apply_col]
      rfl

theorem Row.row_of_mem_slots {c : Cursor α} {cells : Row α} {e : Cursor α × String} (h : e ∈ cells.slots c) :
    e.1.row = c.row := by
  have hcell := List.mem_map_of_mem (f := slotCell) h
  rw [map_slotCell_slots] at hcell
  obtain ⟨j, _, hj⟩ := List.mem_map.mp hcell
  exact (congrArg Prod.fst hj).symm

namespace Layout

theorem map_snd_slotsFrom (rows : List (Row α)) : ∀ c : Cursor α,
    (slotsFrom c rows).map (·.2) = rows.flatMap Row.labels := by
  induction rows with
  | nil => intro c; rfl
  | cons row rows ih =>
    intro c
    rw [slotsFrom, List.map_append, Row.map_snd_slots, ih]; rfl

theorem map_slotCell_slotsFrom (rows : List (Row α)) : ∀ c : Cursor α, c.col = 0 →
    (slotsFrom c rows).map slotCell =
      (rows.zipIdx c.row).flatMap fun r => (List.range r.1.labels.length).map (Prod.mk r.2) := by
  induction rows with
  | nil => intro c _; rfl
  | cons row rows ih =>
    intro c hc
    rw [slotsFrom, List.map_append, Row.map_slotCell_slots, ih _ (c.pastRow_col row), hc, c.pastRow_row,
      ← List.range_eq_range']
    rfl

theorem row_lt_of_mem_slotsFrom {rows : List (Row α)} {e : Cursor α × String}
    (h : e ∈ slotsFrom .start rows) : e.1.row < rows.length := by
  have hcell := List.mem_map_of_mem (f := slotCell) h
  rw [map_slotCell_slotsFrom _ _ rfl] at hcell
  obtain ⟨r, hr, hcell⟩ := List.mem_flatMap.mp hcell
  obtain ⟨j, _, hj⟩ := List.mem_map.mp hcell
  have hrow : r.2 = e.1.row := congrArg Prod.fst hj
  rw [← hrow]
  exact List.snd_lt_of_mem_zipIdx hr

theorem map_snd_slots (layout : Layout α) : layout.slots.map (·.2) = layout.labels :=
  map_snd_slotsFrom layout.rows .start

theorem length_slots (layout : Layout α) : layout.slots.length = layout.labels.length := by
  rw [← map_snd_slots, List.length_map]

end Layout

end

namespace Layout

theorem length_names (layout : Layout α) : layout.names.length = layout.labels.length :=
  Designators.length_assignAll layout.labels .empty

theorem names_nodup (layout : Layout α) : layout.names.Nodup := Designators.assignAll_nodup layout.labels .empty

/-! ## Keys -/

section
variable [Scalar α] (layout : Layout α)

/-- What a key takes from its slot alone can be read off the slots. -/
theorem map_keys_of_slot {β : Type} {f : Key α → β} {g : Cursor α × String → β}
    (h : ∀ s name, f (s.1.key name s.2) = g s) : layout.keys.map f = layout.slots.map g := by
  have hlen : layout.slots.length ≤ layout.names.length := by rw [length_slots, length_names]
  have hslots : layout.slots.map g = ((layout.slots.zip layout.names).map Prod.fst).map g := by
    rw [List.map_fst_zip hlen]
  unfold keys
  rw [hslots, ← List.map_uncurry_zip_eq_zipWith, List.map_map, List.map_map]
  apply List.map_congr_left; intro s _
  exact h s.1 s.2

theorem map_name_keys : layout.keys.map (·.name) = layout.names := by
  have hlen : layout.names.length ≤ layout.slots.length := by rw [length_slots, length_names]
  unfold keys
  rw [← List.map_uncurry_zip_eq_zipWith, List.map_map]
  exact List.map_snd_zip hlen

theorem map_label_keys : layout.keys.map (·.label) = layout.labels := by
  rw [layout.map_keys_of_slot (g := (·.2)) fun _ _ => rfl, map_snd_slots]

theorem keys_eq_nil : layout.keys = [] ↔ layout.labels = [] := by
  rw [← map_label_keys, List.map_eq_nil_iff]

/-- The keys of the row with some index fill its columns from the left without a gap. -/
theorem map_grid_keys : layout.keys.map (fun k => (k.row, k.col)) =
    layout.rows.zipIdx.flatMap fun r => (List.range r.1.labels.length).map (Prod.mk r.2) := by
  rw [layout.map_keys_of_slot (g := slotCell) fun _ _ => rfl]
  exact map_slotCell_slotsFrom layout.rows .start rfl

theorem filter_row_keys (r : Nat) :
    (layout.keys.filter fun k => k.row = r).map (·.col) =
      List.range (Row.labels (layout.rows.getD r [])).length := by
  have hpairs : (layout.keys.filter fun k => k.row = r).map (·.col) =
      ((layout.keys.map fun k => (k.row, k.col)).filter fun e => e.1 = r).map (·.2) := by
    rw [List.filter_map, List.map_map]; rfl
  have hrow : ∀ e : Row α × Nat,
      (((List.range e.1.labels.length).map (Prod.mk e.2)).filter fun e => e.1 = r).map (·.2) =
        if e.2 = r then List.range e.1.labels.length else [] := by
    intro e
    by_cases he : e.2 = r <;> simp [List.filter_map, Function.comp_def, he]
  rw [hpairs, map_grid_keys, List.filter_flatMap, List.map_flatMap]
  simp only [hrow]
  exact List.flatMap_zipIdx_of_index (fun row => List.range (Row.labels row).length) rfl r _

theorem grid_keys_pairwise :
    (layout.keys.map fun k => (k.row, k.col)).Pairwise (Prod.Lex (· < ·) (· < ·)) := by
  rw [map_grid_keys, List.pairwise_flatMap]
  constructor
  · intro r _
    rw [List.pairwise_map]
    exact List.pairwise_lt_range.imp fun h => Prod.Lex.right _ h
  · have hidx : (layout.rows.zipIdx.map (·.2)).Pairwise (· < ·) := by
      rw [List.zipIdx_map_snd]
      exact List.pairwise_lt_range'
    rw [List.pairwise_map] at hidx
    refine hidx.imp fun {r r'} hr a ha b hb => ?_
    obtain ⟨i, _, rfl⟩ := List.mem_map.mp ha
    obtain ⟨j, _, rfl⟩ := List.mem_map.mp hb
    exact Prod.Lex.left _ _ hr

theorem grid_keys_nodup : (layout.keys.map fun k => (k.row, k.col)).Nodup := by
  refine layout.grid_keys_pairwise.imp fun {a b} h heq => ?_
  subst heq
  rcases Prod.lex_def.mp h with h | h
  · exact Nat.lt_irrefl _ h
  · exact Nat.lt_irrefl _ h.2

theorem isDesignator_of_mem_keys {k : Key α} (h : k ∈ layout.keys) : Designators.IsDesignator k.name := by
  have hname : k.name ∈ layout.names := by
    rw [← map_name_keys]; exact List.mem_map_of_mem h
  exact Designators.isDesignator_assignAll _ _ _ hname

end

end Layout

end ScanMatrix
