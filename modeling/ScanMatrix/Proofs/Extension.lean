import Mathlib
import ScanMatrix.Matrix.Wiring
import ScanMatrix.Proofs.Grid

/-!
# Layouts that are cut short

A key comes from the cells up to its label and from nothing behind it. So the keys of a layout that is cut
short at some cell are the first keys of the whole layout, with the same names and places, and they are
wired as before (`keys_cut`).
-/

namespace ScanMatrix

variable {α : Type}

namespace Layout

/-- The layout without the cells of a row from some place on, and without the rows below. -/
def cut (layout : Layout α) (row cells : Nat) : Layout α :=
  ⟨layout.rows.take row ++ (layout.rows[row]?.map fun r => r.take cells).toList⟩

end Layout

/-! ## Names -/

theorem names_extend {l l' : Layout α} (h : l.labels <+: l'.labels) : l.names <+: l'.names := by
  obtain ⟨more, hmore⟩ := h
  unfold Layout.names
  rw [← hmore, Designators.assignAll_append]
  exact List.prefix_append _ _

section
variable [Scalar α]

/-! ## Slots -/

theorem Row.slots_append (row more : Row α) : ∀ c : Cursor α,
    slots c (row ++ more) = slots c row ++ slots (row.foldl Cursor.step c) more := by
  induction row with
  | nil => intro c; rfl
  | cons cell row ih =>
    intro c
    cases cell with
    | modifier m => exact ih _
    | label text => exact congrArg (List.cons (c, text)) (ih _)

namespace Layout

theorem slotsFrom_append (rows more : List (Row α)) : ∀ c : Cursor α,
    slotsFrom c (rows ++ more) = slotsFrom c rows ++ slotsFrom (rows.foldl Cursor.pastRow c) more := by
  induction rows with
  | nil => intro c; rfl
  | cons row rows ih =>
    intro c
    rw [List.cons_append, slotsFrom, ih, slotsFrom, List.append_assoc]; rfl

theorem slotsFrom_cut (rows : List (Row α)) (cells : Nat) (c : Cursor α) :
    slotsFrom c (rows.head?.map fun r => r.take cells).toList <+: slotsFrom c rows := by
  cases rows with
  | nil => exact List.prefix_refl _
  | cons row rows =>
    have hrow : row.slots c = Row.slots c (row.take cells) ++
        Row.slots ((row.take cells).foldl Cursor.step c) (row.drop cells) := by
      rw [← Row.slots_append, List.take_append_drop]
    show Row.slots c (row.take cells) ++ [] <+: row.slots c ++ slotsFrom (c.pastRow row) rows
    rw [List.append_nil, hrow, List.append_assoc]
    exact List.prefix_append _ _

theorem slots_cut (layout : Layout α) (row cells : Nat) : (layout.cut row cells).slots <+: layout.slots := by
  have hrows : layout.rows = layout.rows.take row ++ layout.rows.drop row :=
    (List.take_append_drop row layout.rows).symm
  unfold slots cut
  rw [slotsFrom_append, ← List.head?_drop]
  conv_rhs => rw [hrows, slotsFrom_append]
  exact (List.prefix_append_right_inj _).mpr (slotsFrom_cut _ _ _)

/-! ## Keys -/

theorem keys_extend {l l' : Layout α} (h : l.slots <+: l'.slots) : l.keys <+: l'.keys := by
  have hlabels : l.labels <+: l'.labels := by
    rw [← map_snd_slots, ← map_snd_slots]
    exact h.map _
  have hnames := names_extend hlabels
  obtain ⟨slots, hslots⟩ := h
  obtain ⟨names, hnames⟩ := hnames
  have hlen : l.slots.length = l.names.length := by rw [length_slots, length_names]
  unfold keys
  rw [← hslots, ← hnames, List.zipWith_append hlen]
  exact List.prefix_append _ _

/-- **Longer layouts.** Wherever a layout is cut, its keys up to there are the first keys of the whole layout,
and for all pins and both ways of wiring their connections are the first connections. -/
theorem keys_cut (layout : Layout α) (row cells : Nat) :
    (layout.cut row cells).keys <+: layout.keys ∧
    ∀ (rows cols : PinMap) (mode : WiringMode),
      wiring (layout.cut row cells).keys rows cols mode <+: wiring layout.keys rows cols mode := by
  have hkeys : (layout.cut row cells).keys <+: layout.keys := keys_extend (layout.slots_cut row cells)
  exact ⟨hkeys, fun rows cols mode => hkeys.map _⟩

end Layout

end

end ScanMatrix
