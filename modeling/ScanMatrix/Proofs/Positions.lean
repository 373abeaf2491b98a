import Mathlib
import ScanMatrix.Layout.Keys
import ScanMatrix.Proofs.Settings
import ScanMatrix.Proofs.Sites

/-!
# Where keys are

With exact numbers, a key is as far right as the offsets and the keys before it in its row make it,
and as far down as its row and all the offsets before it in the layout (`key_edges`).
-/

namespace ScanMatrix

open Scalar

/-- What a field of the modifiers among the cells adds up to. A modifier that leaves it unset adds
nothing. -/
def Row.total (field : Modifier Rat → Option Rat) (cells : Row Rat) : Rat :=
  (cells.modifiers.map fun m => (field m).getD 0).sum

theorem Row.total_append (field : Modifier Rat → Option Rat) (cells cells' : Row Rat) :
    Row.total field (cells ++ cells') = cells.total field + cells'.total field := by
  simp [total]

/-! ## The cursor -/

namespace Cursor

theorem foldl_step_x (cells : Row Rat) : ∀ c : Cursor Rat, (cells.foldl step c).x =
    c.x + (cells.total (·.x) + ((cells.slots c).map fun s => s.1.width).sum) := by
  induction cells with
  | nil => intro c; simp [Row.total, Row.slots]
  | cons cell cells ih =>
    intro c
    rw [List.foldl_cons, ih]
    cases cell with
    | modifier m =>
      have hx : (c.apply m).x = c.x + m.x.getD 0 := rfl
      simp only [step, Row.slots, Row.total, Row.modifiers_modifier, List.map_cons, List.sum_cons, hx]
      ring
    | label text =>
      have hx : c.advance.x = c.x + c.width := rfl
      simp only [step, Row.slots, Row.total, Row.modifiers_label, List.map_cons, List.sum_cons, hx]
      ring

theorem foldl_step_y (cells : Row Rat) : ∀ c : Cursor Rat,
    (cells.foldl step c).y = c.y + cells.total (·.y) := by
  induction cells with
  | nil => intro c; simp [Row.total]
  | cons cell cells ih =>
    intro c
    rw [List.foldl_cons, ih]
    cases cell with
    | modifier m =>
      have hy : (c.apply m).y = c.y + m.y.getD 0 := rfl
      simp only [step, Row.total, Row.modifiers_modifier, List.map_cons, List.sum_cons, hy]
      ring
    | label text => rfl

theorem foldl_pastRow_x (rows : List (Row Rat)) : ∀ c : Cursor Rat, c.x = 0 →
    (rows.foldl pastRow c).x = 0 := by
  induction rows with
  | nil => intro c h; exact h
  | cons row rows ih => intro c _; exact ih _ rfl

theorem foldl_pastRow_y (rows : List (Row Rat)) : ∀ c : Cursor Rat,
    (rows.foldl pastRow c).y = c.y + (rows.length + Row.total (·.y) rows.flatten) := by
  induction rows with
  | nil => intro c; simp [Row.total]
  | cons row rows ih =>
    intro c
    have hy : (c.pastRow row).y = c.y + row.total (·.y) + 1 := by
      rw [← foldl_step_y]; rfl
    rw [List.foldl_cons, ih, hy, List.flatten_cons, Row.total_append, List.length_cons]
    push_cast
    ring

variable (c : Cursor Rat) (name label : String)

theorem left_key : (c.key name label).left = pitch * c.x := by
  unfold key Key.left
  simp only [half, pitch]
  ring

theorem top_key : (c.key name label).top = -pitch * c.y := by
  unfold key Key.top
  simp only [half, pitch]
  ring

theorem width_key : (c.key name label).width / pitch = c.width := by
  unfold key
  simp only [pitch]
  ring

end Cursor

/-! ## Sites -/

theorem Site.x_cursor (s : Site Rat) : s.cursor.x = s.before.total (·.x) +
    ((s.before.slots (s.above.foldl Cursor.pastRow .start)).map fun e => e.1.width).sum := by
  unfold Site.cursor
  rw [Cursor.foldl_step_x, Cursor.foldl_pastRow_x _ _ rfl, zero_add]

theorem Site.y_cursor (s : Site Rat) : s.cursor.y = s.above.length + s.read.total (·.y) := by
  unfold Site.cursor Site.read
  rw [Cursor.foldl_step_y, Cursor.foldl_pastRow_y, Row.total_append]
  show (0 : Rat) + _ + _ = _
  ring

namespace Layout

variable {layout : Layout Rat} {i : Nat}

theorem widths_before {s : Site Rat} (h : layout.sites[i]? = some s) :
    (((layout.keys.take i).filter fun e => e.row = s.above.length).map fun e => e.width / pitch) =
      (s.before.slots (s.above.foldl Cursor.pastRow .start)).map fun e => e.1.width := by
  have hkeys : layout.keys.map (fun e => (e.row, e.width / pitch)) =
      layout.slots.map fun e => (e.1.row, e.1.width) :=
    layout.map_keys_of_slot fun e name => congrArg (Prod.mk e.1.row) (e.1.width_key name e.2)
  -- the keys before a label are made at the slots of the rows above, none of which is in its row, and at
  -- those of the cells before it, all of which are
  have habove : (slotsFrom .start s.above).filter (fun e => e.1.row = s.above.length) = [] := by
    rw [List.filter_eq_nil_iff]; intro e he
    have hlt := row_lt_of_mem_slotsFrom he
    simp only [decide_eq_true_eq]
    omega
  have hbefore : (s.before.slots (s.above.foldl Cursor.pastRow .start)).filter
      (fun e => e.1.row = s.above.length) = s.before.slots (s.above.foldl Cursor.pastRow .start) := by
    rw [List.filter_eq_self]; intro e he
    rw [Row.row_of_mem_slots he, Cursor.foldl_pastRow_row]
    simp [Cursor.start]
  calc (((layout.keys.take i).filter fun e => e.row = s.above.length).map fun e => e.width / pitch)
      = (((layout.keys.map fun e => (e.row, e.width / pitch)).take i).filter
          fun e => e.1 = s.above.length).map (·.2) := by
        rw [← List.map_take, List.filter_map, List.map_map]; rfl
    _ = ((layout.slots.take i).filter fun e => e.1.row = s.above.length).map fun e => e.1.width := by
        rw [hkeys, ← List.map_take, List.filter_map, List.map_map]; rfl
    _ = (s.before.slots (s.above.foldl Cursor.pastRow .start)).map fun e => e.1.width := by
        rw [slots, take_slotsFrom _ h, List.filter_append, habove, hbefore, List.nil_append]

end Layout

/-- **Positions.** In grid units, the left edge of a key is at the sum of the offsets before it in its row
and of the widths of the keys before it there, and its top edge is as far down as there are rows above and
as the offsets before it in the whole layout add. -/
theorem key_edges {layout : Layout Rat} {i : Nat} {k : Key Rat} (h : layout.keys[i]? = some k) :
    ∃ s, layout.sites[i]? = some s ∧
      k.left = pitch * (s.before.total (·.x) +
        (((layout.keys.take i).filter fun e => e.row = s.above.length).map fun e => e.width / pitch).sum) ∧
      k.top = -pitch * (s.above.length + s.read.total (·.y)) := by
  obtain ⟨s, hs, hk⟩ := layout.getElem?_keys h
  refine ⟨s, hs, ?_, ?_⟩
  · rw [hk, Cursor.left_key, s.x_cursor, Layout.widths_before hs]
  · rw [hk, Cursor.top_key, s.y_cursor]

/-- The last modifier of the first row waits for the second one, where a key is upside down, to the left
of the one before it. -/
def staggeredLayout : Layout Rat :=
  ⟨[[.label "Esc", .modifier { y := some (1 / 2), w := some 3 }],
    [.modifier { x := some (1 / 4), h := some 2 }, .label "A",
      .modifier { x := some (-5), h := some (-1) }, .label "B"]]⟩

theorem key_edges_staggered : ∃ k : Key Rat, staggeredLayout.keys[2]? = some k ∧ k.name = "K_B" ∧
    ∃ s : Site Rat, staggeredLayout.sites[2]? = some s ∧
      k.left = pitch * (s.before.total (·.x) +
        (((staggeredLayout.keys.take 2).filter fun e => e.row = s.above.length).map fun e =>
          e.width / pitch).sum) ∧
      k.top = -pitch * (s.above.length + s.read.total (·.y)) := by
  have hthird : ∃ k : Key Rat, staggeredLayout.keys[2]? = some k ∧ k.name = "K_B" := ⟨_, rfl, rfl⟩
  obtain ⟨k, hk, hname⟩ := hthird
  exact ⟨k, hk, hname, key_edges hk⟩

end ScanMatrix
