import Mathlib
import ScanMatrix.Layout.Keys
import ScanMatrix.Proofs.Grid

/-!
# Sites of labels

A site is a place of a label in the layout as written: the rows above it and the cells before it in
its row. The keys are made at the sites, one at each, in reading order, and each takes its place in
the grid from its site (`keys_match_labels`).
-/

namespace ScanMatrix

variable {α : Type}

structure Site (α : Type) where
  above : List (Row α)
  before : Row α
  text : String

def Row.sites (above : List (Row α)) (row : Row α) : List (Site α) :=
  row.zipIdx.filterMap fun (cell, i) => cell.label?.map (Site.mk above (row.take i))

/-- The sites of the labels, in reading order. -/
def Layout.sites (layout : Layout α) : List (Site α) :=
  layout.rows.zipIdx.flatMap fun (row, r) => row.sites (layout.rows.take r)

/-! ## Cell by cell, row by row -/

namespace Site

def after (cell : Cell α) (s : Site α) : Site α := { s with before := cell :: s.before }

def below (row : Row α) (s : Site α) : Site α := { s with above := row :: s.above }

def cursor [Scalar α] (s : Site α) : Cursor α :=
  s.before.foldl Cursor.step (s.above.foldl Cursor.pastRow .start)

end Site

namespace Row

theorem sites_later (above : List (Row α)) (cell : Cell α) (row : Row α) :
    ((row.zipIdx 1).filterMap fun (c, i) => c.label?.map (Site.mk above ((cell :: row).take i))) =
      (row.sites above).map (Site.after cell) := by
  unfold sites
  rw [List.zipIdx_succ, List.filterMap_map, List.map_filterMap]
  apply List.filterMap_congr; intro e _
  rw [Option.map_map]; rfl

theorem sites_label (above : List (Row α)) (text : String) (row : Row α) :
    sites above (.label text :: row) = ⟨above, [], text⟩ :: (row.sites above).map (Site.after (.label text)) := by
  rw [← sites_later]; rfl

theorem sites_modifier (above : List (Row α)) (m : Modifier α) (row : Row α) :
    sites above (.modifier m :: row) = (row.sites above).map (Site.after (.modifier m)) := by
  rw [← sites_later]; rfl

theorem sites_below (above : List (Row α)) (row first : Row α) :
    row.sites (first :: above) = (row.sites above).map (Site.below first) := by
  unfold sites
  rw [List.map_filterMap]
  apply List.filterMap_congr; intro e _
  rw [Option.map_map]; rfl

theorem above_of_mem_sites {above : List (Row α)} {row : Row α} {s : Site α} (h : s ∈ row.sites above) :
    s.above = above := by
  obtain ⟨e, _, he⟩ := List.mem_filterMap.mp h
  obtain ⟨text, _, rfl⟩ := Option.map_eq_some_iff.mp he
  rfl

end Row

theorem Layout.sites_cons (row : Row α) (rows : List (Row α)) :
    Layout.sites ⟨row :: rows⟩ = row.sites [] ++ (Layout.sites ⟨rows⟩).map (Site.below row) := by
  unfold Layout.sites
  rw [List.zipIdx_cons, List.zipIdx_succ, List.flatMap_cons, List.flatMap_map, List.map_flatMap]
  congr 2; funext e
  exact Row.sites_below _ _ _

/-! ## Slots -/

section
variable [Scalar α]

namespace Row

theorem slots_eq (row : Row α) (above : List (Row α)) : ∀ c : Cursor α,
    row.slots c = (row.sites above).map fun s => (s.before.foldl Cursor.step c, s.text) := by
  induction row with
  | nil => intro c; rfl
  | cons cell row ih =>
    intro c
    cases cell with
    | label text => rw [slots, ih, sites_label, List.map_cons, List.map_map]; rfl
    | modifier m => rw [slots, ih, sites_modifier, List.map_map]; rfl

theorem take_slots {above : List (Row α)} {row : Row α} : ∀ {i : Nat} {s : Site α} (c : Cursor α),
    (row.sites above)[i]? = some s → (row.slots c).take i = s.before.slots c := by
  induction row with
  | nil => intro i s c h; cases h
  | cons cell row ih =>
    intro i s c h
    cases cell with
    | modifier m =>
      rw [sites_modifier, List.getElem?_map] at h
      obtain ⟨s, hs, rfl⟩ := Option.map_eq_some_iff.mp h
      exact ih _ hs
    | label text =>
      rw [sites_label] at h
      cases i with
      | zero => cases h; rfl
      | succ i =>
        rw [List.getElem?_cons_succ, List.getElem?_map] at h
        obtain ⟨s, hs, rfl⟩ := Option.map_eq_some_iff.mp h
        rw [slots, List.take_succ_cons, ih _ hs]; rfl

end Row

namespace Layout

theorem slotsFrom_eq (rows : List (Row α)) : ∀ c : Cursor α, slotsFrom c rows =
    (sites ⟨rows⟩).map fun s => (s.before.foldl Cursor.step (s.above.foldl Cursor.pastRow c), s.text) := by
  induction rows with
  | nil => intro c; rfl
  | cons row rows ih =>
    intro c
    have hrow : row.slots c =
        (row.sites []).map fun s => (s.before.foldl Cursor.step (s.above.foldl Cursor.pastRow c), s.text) := by
      rw [Row.slots_eq row []]
      apply List.map_congr_left; intro s hs
      rw [Row.above_of_mem_sites hs]; rfl
    rw [slotsFrom, hrow, ih, sites_cons, List.map_append, List.map_map]; rfl

theorem slots_eq (layout : Layout α) : layout.slots = layout.sites.map fun s => (s.cursor, s.text) :=
  slotsFrom_eq layout.rows .start

/-- The slots before a site are those of the rows above it and of the cells before it. -/
theorem take_slotsFrom {rows : List (Row α)} : ∀ {i : Nat} {s : Site α} (c : Cursor α),
    (sites ⟨rows⟩)[i]? = some s →
      (slotsFrom c rows).take i = slotsFrom c s.above ++ s.before.slots (s.above.foldl Cursor.pastRow c) := by
  induction rows with
  | nil => intro i s c h; cases h
  | cons row rows ih =>
    intro i s c h
    have hlen : (row.slots c).length = (row.sites []).length := by
      rw [Row.slots_eq row [], List.length_map]
    rw [sites_cons] at h
    rw [slotsFrom]
    -- a site of the first row has nothing above it, a later one has all slots of that row before it
    by_cases hi : i < (row.sites []).length
    · rw [List.getElem?_append_left hi] at h
      rw [List.take_append_of_le_length (by omega), Row.take_slots c h,
        Row.above_of_mem_sites (List.mem_of_getElem? h)]
      rfl
    · rw [List.getElem?_append_right (by omega), List.getElem?_map] at h
      obtain ⟨s, hs, rfl⟩ := Option.map_eq_some_iff.mp h
      rw [List.take_append, List.take_of_length_le (by omega), hlen, ih _ hs, ← List.append_assoc]
      rfl

/-! ## Keys -/

variable (layout : Layout α)

theorem forall₂_keys : List.Forall₂ (fun s k => k = s.cursor.key k.name s.text) layout.sites layout.keys := by
  -- without its name, a key depends on its slot alone
  have hmap : layout.sites.map (fun s => s.cursor.key "" s.text) =
      layout.keys.map fun k => { k with name := "" } := by
    rw [layout.map_keys_of_slot (g := fun s => s.1.key "" s.2) fun _ _ => rfl, slots_eq, List.map_map]; rfl
  rw [← List.forall₂_eq_eq_eq, List.forall₂_map_left_iff, List.forall₂_map_right_iff] at hmap
  refine hmap.imp fun s k h => ?_
  have hname := congrArg (fun e => { e with name := k.name }) h
  exact hname.symm

theorem getElem?_keys {i : Nat} {k : Key α} (h : layout.keys[i]? = some k) :
    ∃ s, layout.sites[i]? = some s ∧ k = s.cursor.key k.name s.text := by
  have hkeys := layout.forall₂_keys
  obtain ⟨hi, rfl⟩ := List.getElem?_eq_some_iff.mp h
  have hs : i < layout.sites.length := by rw [hkeys.length_eq]; exact hi
  exact ⟨layout.sites[i], List.getElem?_eq_getElem hs, hkeys.get hs hi⟩

end Layout

/-! ## The grid -/

namespace Site

theorem row_cursor (s : Site α) : s.cursor.row = s.above.length := by
  unfold cursor
  rw [Cursor.foldl_step_row, Cursor.foldl_pastRow_row]
  exact Nat.zero_add _

theorem col_cursor (s : Site α) : s.cursor.col = s.before.labels.length := by
  unfold cursor
  rw [Cursor.foldl_step_col, Cursor.foldl_pastRow_col _ _ rfl, Nat.zero_add]

end Site

/-- **Keys and labels.** Each label is one key, and there are no others. The row of a key is the number
of rows above, its column the number of labels before it in its row; so the places of the keys go up
strictly, and the keys of a row fill its columns from zero without a gap. -/
theorem keys_match_labels (layout : Layout α) :
    List.Forall₂ (fun s k => k.label = s.text ∧ k.row = s.above.length ∧ k.col = s.before.labels.length)
      layout.sites layout.keys ∧
    layout.keys.map (·.label) = layout.rows.flatten.filterMap Cell.label? ∧
    (layout.keys.map fun k => (k.row, k.col)).Pairwise (Prod.Lex (· < ·) (· < ·)) ∧
    (layout.keys.map fun k => (k.row, k.col)).Nodup ∧
    ∀ r, (layout.keys.filter fun k => k.row = r).map (·.col) =
      List.range (Row.labels (layout.rows.getD r [])).length := by
  refine ⟨layout.forall₂_keys.imp ?_, ?_, layout.grid_keys_pairwise, layout.grid_keys_nodup,
    layout.filter_row_keys⟩
  · intro s k hk
    rw [hk]
    exact ⟨rfl, s.row_cursor, s.col_cursor⟩
  · rw [layout.map_label_keys, Layout.labels, List.filterMap_flatten, List.flatMap_def]

end

end ScanMatrix
