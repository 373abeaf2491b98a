import Mathlib
import ScanMatrix.Proofs.Alike
import ScanMatrix.Proofs.Extension
import ScanMatrix.Proofs.Settings

/-!
# Changes split over modifiers

With exact numbers, what modifiers do to the cursor one after another comes from the sums of their offsets
and from the last setting of each other quantity (`Cursor.foldl_apply`). So however a change is split over
modifiers that stand next to each other, the keys are the same (`keys_split`).
-/

namespace ScanMatrix

/-! ## Modifiers one after another -/

namespace Modifier

/-- The modifier does at once what `m₁` and then `m₂` do: its offsets are the sums of theirs, and of the rest
it has what `m₂` sets, or else what `m₁` sets. -/
structure Joins (m m₁ m₂ : Modifier Rat) : Prop where
  x : m.x.getD 0 = m₁.x.getD 0 + m₂.x.getD 0
  y : m.y.getD 0 = m₁.y.getD 0 + m₂.y.getD 0
  w : m.w = m₂.w.or m₁.w
  h : m.h = m₂.h.or m₁.h
  r : m.r = m₂.r.or m₁.r
  rx : m.rx = m₂.rx.or m₁.rx
  ry : m.ry = m₂.ry.or m₁.ry

/-- The modifier sets none of the fields that place a key. -/
def Idle (m : Modifier Rat) : Prop := m.Agree {}

/-- One after another, the modifiers make the same change. -/
structure SameChange (ms ms' : List (Modifier Rat)) : Prop where
  x : (ms.map fun m => m.x.getD 0).sum = (ms'.map fun m => m.x.getD 0).sum
  y : (ms.map fun m => m.y.getD 0).sum = (ms'.map fun m => m.y.getD 0).sum
  w : lastSet (·.w) ms = lastSet (·.w) ms'
  h : lastSet (·.h) ms = lastSet (·.h) ms'
  r : lastSet (·.r) ms = lastSet (·.r) ms'
  rx : lastSet (·.rx) ms = lastSet (·.rx) ms'
  ry : lastSet (·.ry) ms = lastSet (·.ry) ms'

theorem lastSet_one {α : Type} (field : Modifier α → Option α) (m : Modifier α) : lastSet field [m] = field m := by
  unfold lastSet
  cases h : field m <;> simp [h]

theorem lastSet_two {α : Type} (field : Modifier α → Option α) (m₁ m₂ : Modifier α) :
    lastSet field [m₁, m₂] = (field m₂).or (field m₁) := by
  rw [← lastSet_one field m₁]
  exact lastSet_concat field [m₁] m₂

theorem Joins.sameChange {m m₁ m₂ : Modifier Rat} (h : m.Joins m₁ m₂) : SameChange [m₁, m₂] [m] := by
  constructor
  · simp [h.x]
  · simp [h.y]
  · rw [lastSet_two, lastSet_one, h.w]
  · rw [lastSet_two, lastSet_one, h.h]
  · rw [lastSet_two, lastSet_one, h.r]
  · rw [lastSet_two, lastSet_one, h.rx]
  · rw [lastSet_two, lastSet_one, h.ry]

theorem Idle.sameChange {m : Modifier Rat} (h : m.Idle) : SameChange [m] [] := by
  constructor
  · simp [Agree.x h]
  · simp [Agree.y h]
  · rw [lastSet_one, Agree.w h]; rfl
  · rw [lastSet_one, Agree.h h]; rfl
  · rw [lastSet_one, Agree.r h]; rfl
  · rw [lastSet_one, Agree.rx h]; rfl
  · rw [lastSet_one, Agree.ry h]; rfl

end Modifier

namespace Cursor

/-- Offsets add up over all modifiers, everything else is what was set last. -/
theorem foldl_apply (c : Cursor Rat) (ms : List (Modifier Rat)) : ms.foldl apply c =
    { c with
      x := c.x + (ms.map fun m => m.x.getD 0).sum
      y := c.y + (ms.map fun m => m.y.getD 0).sum
      width := (lastSet (·.w) ms).getD c.width
      height := (lastSet (·.h) ms).getD c.height
      rotation := (lastSet (·.r) ms).getD c.rotation
      pivot := ⟨(lastSet (·.rx) ms).getD c.pivot.x, (lastSet (·.ry) ms).getD c.pivot.y⟩ } := by
  induction ms using List.reverseRecOn with
  | nil => simp [lastSet]
  | append_singleton ms m ih =>
    rw [List.foldl_concat, ih]
    unfold apply
    simp only [lastSet_concat, List.map_append, List.sum_append, List.map_singleton, List.sum_singleton,
      Option.getD_or]
    congr 1
    · exact add_assoc ..
    · exact add_assoc ..

theorem foldl_apply_congr {ms ms' : List (Modifier Rat)} (h : Modifier.SameChange ms ms') (c : Cursor Rat) :
    ms.foldl apply c = ms'.foldl apply c := by
  rw [foldl_apply, foldl_apply, h.x, h.y, h.w, h.h, h.r, h.rx, h.ry]

end Cursor

/-! ## A gap in a layout -/

/-- A layout with a gap between two cells of a row. -/
structure Gap (α : Type) where
  above : List (Row α)
  before : Row α
  after : Row α
  below : List (Row α)

def Gap.fill {α : Type} (g : Gap α) (cells : Row α) : Layout α :=
  ⟨g.above ++ (g.before ++ cells ++ g.after) :: g.below⟩

section
variable {α : Type} [Scalar α]

theorem Row.slots_modifiers (ms : List (Modifier α)) : ∀ c : Cursor α, Row.slots c (ms.map .modifier) = [] := by
  induction ms with
  | nil => intro c; rfl
  | cons m ms ih => intro c; exact ih _

theorem Layout.keys_congr {l l' : Layout α} (h : l.slots = l'.slots) : l.keys = l'.keys := by
  have hlabels : l.labels = l'.labels := by rw [← map_snd_slots, h, map_snd_slots]
  unfold keys names
  rw [h, hlabels]

/-- Modifiers stand for others that take the cursor to the same state, wherever it is. -/
theorem Gap.keys_fill_congr (g : Gap α) {ms ms' : List (Modifier α)}
    (h : ∀ c : Cursor α, ms.foldl Cursor.apply c = ms'.foldl Cursor.apply c) :
    (g.fill (ms.map .modifier)).keys = (g.fill (ms'.map .modifier)).keys := by
  have hstep : ∀ c : Cursor α,
      (ms.map Cell.modifier).foldl Cursor.step c = (ms'.map Cell.modifier).foldl Cursor.step c := by
    intro c
    rw [List.foldl_map, List.foldl_map]
    exact h c
  have hslots : ∀ c : Cursor α, Row.slots c (g.before ++ ms.map .modifier ++ g.after) =
      Row.slots c (g.before ++ ms'.map .modifier ++ g.after) := by
    intro c
    simp only [Row.slots_append, Row.slots_modifiers, List.foldl_append, hstep]
  have hpast : ∀ c : Cursor α, c.pastRow (g.before ++ ms.map .modifier ++ g.after) =
      c.pastRow (g.before ++ ms'.map .modifier ++ g.after) := by
    intro c
    simp only [Cursor.pastRow, List.foldl_append, hstep]
  apply Layout.keys_congr
  unfold Layout.slots fill
  rw [Layout.slotsFrom_append, Layout.slotsFrom_append, Layout.slotsFrom, Layout.slotsFrom, hslots, hpast]

end

open Modifier in
/-- **Split changes.** Two modifiers that stand next to each other may be joined into one, and a modifier
that sets nothing may be left out. Modifiers next to each other may be replaced by any others that make the same
change, and the keys of the layout are the same. -/
theorem keys_split (g : Gap Rat) :
    (∀ m m₁ m₂, m.Joins m₁ m₂ → (g.fill [.modifier m₁, .modifier m₂]).keys = (g.fill [.modifier m]).keys) ∧
    (∀ m, m.Idle → (g.fill [.modifier m]).keys = (g.fill []).keys) ∧
    ∀ ms ms', SameChange ms ms' → (g.fill (ms.map .modifier)).keys = (g.fill (ms'.map .modifier)).keys := by
  have hsame : ∀ ms ms', SameChange ms ms' →
      (g.fill (ms.map .modifier)).keys = (g.fill (ms'.map .modifier)).keys :=
    fun ms ms' h => g.keys_fill_congr (Cursor.foldl_apply_congr h)
  exact ⟨fun m m₁ m₂ h => hsame [m₁, m₂] [m] h.sameChange, fun m h => hsame [m] [] h.sameChange, hsame⟩

/-- Between two keys, with a row above and a row below. -/
def sampleGap : Gap Rat := ⟨[[.label "A"]], [.label "B"], [.label "C"], [[.modifier { x := some 1 }, .label "D"]]⟩

open Modifier in
theorem keys_split_sample :
    let m₁ : Modifier Rat := { x := some (1 / 4), w := some 2, r := some 15 }
    let m₂ : Modifier Rat := { x := some (1 / 4), y := some 1, w := some (3 / 2) }
    let m : Modifier Rat := { x := some (1 / 2), y := some 1, w := some (3 / 2), r := some 15 }
    let idle : Modifier Rat := { w2 := some 2, a := some 4 }
    m.Joins m₁ m₂ ∧
    (sampleGap.fill [.modifier m₁, .modifier m₂]).keys = (sampleGap.fill [.modifier m]).keys ∧
    idle.Idle ∧
    (sampleGap.fill [.modifier idle]).keys = (sampleGap.fill []).keys ∧
    SameChange [m₁, m₂, idle] [idle, m] ∧
    (sampleGap.fill [.modifier m₁, .modifier m₂, .modifier idle]).keys =
      (sampleGap.fill [.modifier idle, .modifier m]).keys := by
  intro m₁ m₂ m idle
  have hjoins : m.Joins m₁ m₂ := by
    refine ⟨?_, ?_, rfl, rfl, rfl, rfl, rfl⟩
    · norm_num [m, m₁, m₂]
    · norm_num [m, m₁, m₂]
  have hidle : idle.Idle := by constructor <;> rfl
  have hsame : SameChange [m₁, m₂, idle] [idle, m] := by
    refine ⟨?_, ?_, rfl, rfl, rfl, rfl, rfl⟩
    · norm_num [m, m₁, m₂, idle]
    · norm_num [m, m₁, m₂, idle]
  obtain ⟨hjoin, hleave, hchange⟩ := keys_split sampleGap
  exact ⟨hjoins, hjoin m m₁ m₂ hjoins, hidle, hleave idle hidle, hsame,
    hchange [m₁, m₂, idle] [idle, m] hsame⟩

end ScanMatrix
