import Mathlib
import ScanMatrix.Matrix.Compiled
import ScanMatrix.Proofs.Extent
import ScanMatrix.Proofs.Rendering

/-!
# Centred keys

With exact numbers, centring moves all keys by one vector, so that their bounds keep their size and lie
about the origin. Keys that are centred stay where they are, and keys in another order are centred to the
same places (`centered_rigid`).
-/

namespace ScanMatrix

namespace Bounds

variable (b : Bounds Rat) (d : Point Rat)

theorem width_shiftedBack : (b.shiftedBack d).width = b.width := sub_sub_sub_cancel_right ..

theorem height_shiftedBack : (b.shiftedBack d).height = b.height := sub_sub_sub_cancel_right ..

theorem center_shiftedBack_center : (b.shiftedBack b.center).center = ⟨0, 0⟩ := by
  rw [center_shiftedBack, sub_self, sub_self]

end Bounds

/-- The second keys are the first ones, all moved by one vector. They lie about the origin and are not moved by
centring again, and in another order the first ones become the second ones in that order. -/
structure Recentered (keys keys' : List (Key Rat)) : Prop where
  moved : ∃ d : Point Rat, keys' = keys.map fun k => { k with center := ⟨k.center.x - d.x, k.center.y - d.y⟩ }
  box : ∃ b b', Bounds.of? keys = some b ∧ Bounds.of? keys' = some b' ∧
    b'.center = ⟨0, 0⟩ ∧ b'.width = b.width ∧ b'.height = b.height
  again : centered? keys' = some keys'
  reordered : ∀ pairs : List (Key Rat × Key Rat), pairs.Perm (keys.zip keys') →
    centered? (pairs.map (·.1)) = some (pairs.map (·.2))

section
variable {keys : List (Key Rat)} {b : Bounds Rat}

theorem centered?_eq_some (h : Bounds.of? keys = some b) :
    centered? keys = some (keys.map (·.shiftedBack b.center)) := by
  unfold centered?
  rw [h]; rfl

theorem centered?_reordered (h : Bounds.of? keys = some b) {pairs : List (Key Rat × Key Rat)}
    (hpairs : pairs.Perm (keys.zip (keys.map (·.shiftedBack b.center)))) :
    centered? (pairs.map (·.1)) = some (pairs.map (·.2)) := by
  rw [← List.map_prod_left_eq_zip] at hpairs
  have hfirst : (pairs.map (·.1)).Perm keys := by
    simpa [Function.comp_def] using hpairs.map (·.1)
  -- wherever a pair stands now, it still holds a key and where that key is moved
  have hsecond : pairs.map (·.2) = (pairs.map (·.1)).map (·.shiftedBack b.center) := by
    rw [List.map_map]
    apply List.map_congr_left; intro p hp
    obtain ⟨k, -, rfl⟩ := List.mem_map.mp (hpairs.mem_iff.mp hp)
    rfl
  rw [hsecond, centered?_eq_some ((Bounds.of?_perm hfirst).trans h)]

theorem recentered (h : Bounds.of? keys = some b) : Recentered keys (keys.map (·.shiftedBack b.center)) where
  moved := ⟨b.center, rfl⟩
  box := by
    refine ⟨b, b.shiftedBack b.center, h, ?_, b.center_shiftedBack_center, b.width_shiftedBack _,
      b.height_shiftedBack _⟩
    rw [Bounds.of?_map_shiftedBack, h]; rfl
  again := by rw [centered?_map_shiftedBack, centered?_eq_some h]
  reordered _ hpairs := centered?_reordered h hpairs

end

/-- **Centred keys.** Keys are centred unless there are none, which is the only reason why a layout is not
compiled. Centring moves them rigidly, once and for all, and in whatever order they come. -/
theorem centered_rigid (keys : List (Key Rat)) :
    (centered? keys = none ↔ keys = []) ∧
    (∀ (layout : Layout Rat) (config : MatrixConfig Rat) (e : LayoutError),
      layout.compile config = .error e ↔ e = .empty ∧ layout.keys = []) ∧
    (keys ≠ [] → ∃ keys', centered? keys = some keys' ∧ Recentered keys keys') := by
  refine ⟨centered?_eq_none, fun _ _ _ => compile_eq_error, fun h => ?_⟩
  obtain ⟨b, hb⟩ := Bounds.exists_of? h
  exact ⟨_, centered?_eq_some hb, recentered hb⟩

theorem centered_rigid_scattered : scatteredKeys ≠ [] ∧
    ∃ keys', centered? scatteredKeys = some keys' ∧ Recentered scatteredKeys keys' ∧
      keys'.map (·.center) = [⟨-1, 1⟩, ⟨2, 2⟩, ⟨0, 6⟩, ⟨-2, -6⟩] := by
  have hne : scatteredKeys ≠ [] := List.cons_ne_nil _ _
  have hcenters : (centered? scatteredKeys).map (·.map (·.center)) =
      some [⟨-1, 1⟩, ⟨2, 2⟩, ⟨0, 6⟩, ⟨-2, -6⟩] := by cbv
  obtain ⟨keys', hkeys', hrecentered⟩ := (centered_rigid scatteredKeys).2.2 hne
  rw [hkeys', Option.map_some] at hcenters
  exact ⟨hne, keys', hkeys', hrecentered, Option.some.inj hcenters⟩

end ScanMatrix
