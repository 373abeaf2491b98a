import Mathlib
import ScanMatrix.Layout.Bounds

/-!
# The least box

With exact numbers, each side of the bounds of some keys is the outermost of their edges on that side
(`of?_eq_some`). Bounds move with the keys, so that keys are centred alike wherever they are, and least and
greatest numbers move with the list.
-/

namespace ScanMatrix

namespace Scalar

theorem lesser_eq_min (a b : Rat) : lesser a b = min a b := by
  show (if a < b then a else b) = min a b
  by_cases h : a < b
  · rw [if_pos h, min_eq_left h.le]
  · rw [if_neg h, min_eq_right (not_lt.mp h)]

theorem greater_eq_max (a b : Rat) : greater a b = max a b := by
  show (if b < a then a else b) = max a b
  by_cases h : b < a
  · rw [if_pos h, max_eq_left h.le]
  · rw [if_neg h, max_eq_right (not_lt.mp h)]

end Scalar

namespace Bounds

/-- A side that joining takes by `op` is taken by `op` over the edges of all keys. -/
theorem foldl_join (side : Bounds Rat → Rat) (edge : Key Rat → Rat) {op : Rat → Rat → Rat}
    (hjoin : ∀ a b, side (a.join b) = op (side a) (side b)) (hedge : ∀ k, side (ofKey k) = edge k)
    (keys : List (Key Rat)) : ∀ b : Bounds Rat,
    side (keys.foldl (fun b k => b.join (ofKey k)) b) = (keys.map edge).foldl op (side b) := by
  induction keys with
  | nil => intro b; rfl
  | cons k keys ih =>
    intro b
    rw [List.foldl_cons, ih, List.map_cons, List.foldl_cons, hjoin, hedge]

theorem of?_eq_some {keys : List (Key Rat)} {b : Bounds Rat} (h : of? keys = some b) :
    (keys.map Key.left).min? = some b.minX ∧ (keys.map Key.right).max? = some b.maxX ∧
      (keys.map Key.bottom).min? = some b.minY ∧ (keys.map Key.top).max? = some b.maxY := by
  cases keys with
  | nil => cases h
  | cons k keys =>
    obtain rfl := Option.some.inj h
    simp only [List.map_cons, List.min?_cons', List.max?_cons', Option.some.injEq]
    refine ⟨?_, ?_, ?_, ?_⟩
    · exact (foldl_join minX Key.left (fun _ _ => Scalar.lesser_eq_min _ _) (fun _ => rfl) keys (ofKey k)).symm
    · exact (foldl_join maxX Key.right (fun _ _ => Scalar.greater_eq_max _ _) (fun _ => rfl) keys (ofKey k)).symm
    · exact (foldl_join minY Key.bottom (fun _ _ => Scalar.lesser_eq_min _ _) (fun _ => rfl) keys (ofKey k)).symm
    · exact (foldl_join maxY Key.top (fun _ _ => Scalar.greater_eq_max _ _) (fun _ => rfl) keys (ofKey k)).symm

/-! ## Moved keys -/

def shiftedBack (b : Bounds Rat) (d : Point Rat) : Bounds Rat :=
  ⟨b.minX - d.x, b.maxX - d.x, b.minY - d.y, b.maxY - d.y⟩

section
variable (d : Point Rat)

theorem ofKey_shiftedBack (k : Key Rat) : ofKey (k.shiftedBack d) = (ofKey k).shiftedBack d := by
  unfold ofKey shiftedBack
  congr 1
  · exact sub_right_comm ..
  · exact sub_add_eq_add_sub ..
  · exact sub_right_comm ..
  · exact sub_add_eq_add_sub ..

theorem join_shiftedBack (b b' : Bounds Rat) :
    (b.shiftedBack d).join (b'.shiftedBack d) = (b.join b').shiftedBack d := by
  simp only [join, shiftedBack, Scalar.lesser_eq_min, Scalar.greater_eq_max, min_sub_sub_right,
    max_sub_sub_right]

theorem of?_map_shiftedBack (keys : List (Key Rat)) :
    of? (keys.map (·.shiftedBack d)) = (of? keys).map (·.shiftedBack d) := by
  cases keys with
  | nil => rfl
  | cons k keys =>
    simp only [List.map_cons, of?, List.foldl_map, ofKey_shiftedBack, Option.map_some]
    congr 1
    apply List.foldl_hom fun b : Bounds Rat => b.shiftedBack d; intro b k
    exact join_shiftedBack d b (ofKey k)

theorem center_shiftedBack (b : Bounds Rat) :
    (b.shiftedBack d).center = ⟨b.center.x - d.x, b.center.y - d.y⟩ := by
  unfold center shiftedBack
  simp only [Scalar.half]
  congr 1 <;> ring

end

end Bounds

theorem Key.shiftedBack_shiftedBack (k : Key Rat) (d e : Point Rat) :
    (k.shiftedBack d).shiftedBack ⟨e.x - d.x, e.y - d.y⟩ = k.shiftedBack e := by
  unfold shiftedBack
  simp only [sub_sub_sub_cancel_right]

/-- Keys that are all moved alike are centred alike. -/
theorem centered?_map_shiftedBack (keys : List (Key Rat)) (d : Point Rat) :
    centered? (keys.map (·.shiftedBack d)) = centered? keys := by
  unfold centered?
  rw [Bounds.of?_map_shiftedBack, Option.map_map]
  congr 1; funext b
  rw [Function.comp_apply, List.map_map, Bounds.center_shiftedBack]
  exact List.map_congr_left fun k _ => k.shiftedBack_shiftedBack d b.center

end ScanMatrix
