import Mathlib
import ScanMatrix.Proofs.Bounds

/-!
# The tightest box

With exact numbers, the bounds of some keys are the one box whose sides are edges of keys and which
no edge passes (`of?_eq_some_iff`). So they do not depend on the order of the keys, and the bounds of two
lists of keys together come from the bounds of each (`bounds_tight`).
-/

namespace ScanMatrix

namespace Bounds

/-! ## Edges -/

/-- Where the edges of some keys on one side are. -/
def edges (edge : Key Rat → Rat) (keys : List (Key Rat)) : Set Rat := {x | ∃ k ∈ keys, edge k = x}

section
variable {edge : Key Rat → Rat} {keys keys' : List (Key Rat)} {x : Rat}

theorem edges_append : edges edge (keys ++ keys') = edges edge keys ∪ edges edge keys' := by
  ext x
  simp [edges, or_and_right, exists_or]

theorem edges_perm (h : keys.Perm keys') : edges edge keys = edges edge keys' := by
  ext x
  simp [edges, h.mem_iff]

theorem isLeast_of_min? (h : (keys.map edge).min? = some x) : IsLeast (edges edge keys) x := by
  obtain ⟨hmem, hle⟩ := List.min?_eq_some_iff.mp h
  refine ⟨List.mem_map.mp hmem, ?_⟩
  rintro _ ⟨k, hk, rfl⟩
  exact hle _ (List.mem_map_of_mem hk)

theorem isGreatest_of_max? (h : (keys.map edge).max? = some x) : IsGreatest (edges edge keys) x := by
  obtain ⟨hmem, hle⟩ := List.max?_eq_some_iff.mp h
  refine ⟨List.mem_map.mp hmem, ?_⟩
  rintro _ ⟨k, hk, rfl⟩
  exact hle _ (List.mem_map_of_mem hk)

end

/-! ## Boxes -/

/-- No edge passes a side of the box, and each side is the edge of some key. -/
structure Tight (b : Bounds Rat) (keys : List (Key Rat)) : Prop where
  minX : IsLeast (edges Key.left keys) b.minX
  maxX : IsGreatest (edges Key.right keys) b.maxX
  minY : IsLeast (edges Key.bottom keys) b.minY
  maxY : IsGreatest (edges Key.top keys) b.maxY

namespace Tight

variable {b b' : Bounds Rat} {keys keys' : List (Key Rat)}

theorem unique (h : b.Tight keys) (h' : b'.Tight keys) : b = b' := by
  cases b; cases b'
  simp only [Bounds.mk.injEq]
  exact ⟨h.minX.unique h'.minX, h.maxX.unique h'.maxX, h.minY.unique h'.minY, h.maxY.unique h'.maxY⟩

theorem perm (h : b.Tight keys) (hperm : keys.Perm keys') : b.Tight keys' where
  minX := edges_perm hperm ▸ h.minX
  maxX := edges_perm hperm ▸ h.maxX
  minY := edges_perm hperm ▸ h.minY
  maxY := edges_perm hperm ▸ h.maxY

theorem append (h : b.Tight keys) (h' : b'.Tight keys') :
    Tight ⟨min b.minX b'.minX, max b.maxX b'.maxX, min b.minY b'.minY, max b.maxY b'.maxY⟩ (keys ++ keys') where
  minX := edges_append ▸ h.minX.union h'.minX
  maxX := edges_append ▸ h.maxX.union h'.maxX
  minY := edges_append ▸ h.minY.union h'.minY
  maxY := edges_append ▸ h.maxY.union h'.maxY

theorem ne_nil (h : b.Tight keys) : keys ≠ [] := by
  obtain ⟨k, hk, -⟩ := h.minX.1
  exact List.ne_nil_of_mem hk

end Tight

theorem exists_of? {keys : List (Key Rat)} (h : keys ≠ []) : ∃ b, of? keys = some b := by
  cases keys with
  | nil => exact absurd rfl h
  | cons k keys => exact ⟨_, rfl⟩

theorem tight_of? {keys : List (Key Rat)} {b : Bounds Rat} (h : of? keys = some b) : b.Tight keys := by
  obtain ⟨hleft, hright, hbottom, htop⟩ := of?_eq_some h
  exact ⟨isLeast_of_min? hleft, isGreatest_of_max? hright, isLeast_of_min? hbottom, isGreatest_of_max? htop⟩

theorem of?_eq_some_iff {keys : List (Key Rat)} {b : Bounds Rat} : of? keys = some b ↔ b.Tight keys := by
  refine ⟨tight_of?, fun h => ?_⟩
  -- the fold finds a tight box too, and there is only one
  obtain ⟨b', hb'⟩ := exists_of? h.ne_nil
  rw [hb', h.unique (tight_of? hb')]

theorem of?_perm {keys keys' : List (Key Rat)} (h : keys.Perm keys') : of? keys = of? keys' := by
  apply Option.ext; intro b
  rw [of?_eq_some_iff, of?_eq_some_iff]
  exact ⟨fun hb => hb.perm h, fun hb => hb.perm h.symm⟩

end Bounds

/-- **Bounds.** Some keys have bounds, and these are tight. With more keys, each side of the bounds is the
outer one of the two. -/
theorem bounds_tight {keys : List (Key Rat)} (h : keys ≠ []) :
    ∃ b, Bounds.of? keys = some b ∧ b.Tight keys ∧
      ∀ keys', keys' ≠ [] → ∃ b', Bounds.of? keys' = some b' ∧
        Bounds.of? (keys ++ keys') =
          some ⟨min b.minX b'.minX, max b.maxX b'.maxX, min b.minY b'.minY, max b.maxY b'.maxY⟩ := by
  obtain ⟨b, hb⟩ := Bounds.exists_of? h
  refine ⟨b, hb, Bounds.tight_of? hb, fun keys' h' => ?_⟩
  obtain ⟨b', hb'⟩ := Bounds.exists_of? h'
  have htight := (Bounds.tight_of? hb).append (Bounds.tight_of? hb')
  exact ⟨b', hb', Bounds.of?_eq_some_iff.mpr htight⟩

/-- Four keys, each of them outermost on one side only. The first is upside down, and the third one has its
right edge left of its left one. -/
def scatteredKeys : List (Key Rat) :=
  let key (name : String) (x y width height : Rat) : Key Rat := ⟨name, "", ⟨x, y⟩, width, height, 0, .origin, 0, 0⟩
  [key "K1" 0 0 4 (-2), key "K2" 3 1 2 2, key "K3" 1 5 (-2) 2, key "K4" (-1) (-7) 1 2]

theorem bounds_tight_scattered : scatteredKeys ≠ [] ∧
    ∃ b, Bounds.of? scatteredKeys = some b ∧ b = ⟨-2, 4, -8, 6⟩ ∧ b.Tight scatteredKeys ∧
      ∀ keys', keys' ≠ [] → ∃ b', Bounds.of? keys' = some b' ∧
        Bounds.of? (scatteredKeys ++ keys') =
          some ⟨min b.minX b'.minX, max b.maxX b'.maxX, min b.minY b'.minY, max b.maxY b'.maxY⟩ := by
  have hne : scatteredKeys ≠ [] := List.cons_ne_nil _ _
  have hbox : Bounds.of? scatteredKeys = some ⟨-2, 4, -8, 6⟩ := by cbv
  obtain ⟨b, hb, htight, hmore⟩ := bounds_tight hne
  exact ⟨hne, b, hb, Option.some.inj (hb.symm.trans hbox), htight, hmore⟩

end ScanMatrix
