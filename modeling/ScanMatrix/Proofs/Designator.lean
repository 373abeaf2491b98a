import Mathlib
import ScanMatrix.Designator

/-!
# Names are handed out once

The search for an ordinal ends on a free one, because fewer names are in use than ordinals are
looked at. A name that is handed out was free before, so no two labels get the same name
(`assignAll_nodup`), and every name is of one of three forms (`IsDesignator`).
-/

namespace ScanMatrix

namespace Designators

/-! ## Ordinals -/

theorem toList_ordinal (n : Nat) : (ordinal n).toList = 'K' :: Nat.toDigits 10 n := by
  unfold ordinal
  rw [String.toList_append, Nat.toString_eq_repr, Nat.toList_repr]
  rfl

theorem ordinal_injective {m n : Nat} (h : ordinal m = ordinal n) : m = n := by
  have hdigits : Nat.toDigits 10 m = Nat.toDigits 10 n := by
    have := congrArg String.toList h
    simpa only [toList_ordinal, List.cons.injEq, true_and] using this
  have hvalue := congrArg (fun ds => Nat.ofDigitChars 10 ds 0) hdigits
  simpa only [Nat.ofDigitChars_ten_toDigits] using hvalue

section
variable (used : List String)

theorem search_eq_some : ∀ {rounds n m : Nat}, search used rounds n = some m →
    n ≤ m ∧ ordinal m ∉ used ∧ ∀ j, n ≤ j → j < m → ordinal j ∈ used
  | 0, n, m, h => by cases h
  | rounds + 1, n, m, h => by
    rw [search] at h
    split at h
    · rename_i hn
      obtain ⟨hle, hfree, htaken⟩ := search_eq_some h
      refine ⟨by omega, hfree, fun j hj hjm => ?_⟩
      by_cases hjn : j = n
      · subst hjn; exact hn
      · exact htaken j (by omega) hjm
    · rename_i hn
      cases h
      exact ⟨Nat.le_refl _, hn, fun j hj hjm => absurd hj (by omega)⟩

theorem search_eq_none : ∀ {rounds n : Nat}, search used rounds n = none →
    ∀ j, n ≤ j → j < n + rounds → ordinal j ∈ used
  | 0, n, _, j, hj, hjn => absurd hj (by omega)
  | rounds + 1, n, h, j, hj, hjn => by
    rw [search] at h
    split at h
    · rename_i hn
      by_cases hjeq : j = n
      · subst hjeq; exact hn
      · exact search_eq_none h j (by omega) (by omega)
    · cases h

variable {used} in
/-- Ordinals differ, so those in use are no more than the names in use. -/
theorem sub_le_card_used {n m : Nat} (h : ∀ j, n ≤ j → j < m → ordinal j ∈ used) : m - n ≤ used.toFinset.card := by
  have hsub : (Finset.Ico n m).image ordinal ⊆ used.toFinset := by
    intro name hname
    obtain ⟨j, hj, rfl⟩ := Finset.mem_image.mp hname
    rw [Finset.mem_Ico] at hj
    exact List.mem_toFinset.mpr (h j hj.1 hj.2)
  have hcard := Finset.card_le_card hsub
  rwa [Finset.card_image_of_injective _ fun _ _ => ordinal_injective, Nat.card_Ico] at hcard

theorem exists_search (n : Nat) : ∃ m, search used (used.length + 1) n = some m := by
  cases h : search used (used.length + 1) n with
  | some m => exact ⟨m, rfl⟩
  | none =>
    have hused := sub_le_card_used (search_eq_none used h)
    have hlen := used.toFinset_card_le
    omega

theorem search_leastFree (n : Nat) : search used (used.length + 1) n = some (leastFree used n) := by
  obtain ⟨m, hm⟩ := exists_search used n
  unfold leastFree
  rw [hm]; rfl

theorem ordinal_leastFree_not_mem (n : Nat) : ordinal (leastFree used n) ∉ used :=
  (search_eq_some used (search_leastFree used n)).2.1

end

/-! ## One label -/

theorem assign_not_mem (d : Designators) (label : String) : (d.assign label).1 ∉ d.used := by
  unfold assign
  split
  · split
    · exact ordinal_leastFree_not_mem _ _
    · rename_i hfree; exact hfree
  · exact ordinal_leastFree_not_mem _ _

theorem used_assign (d : Designators) (label : String) :
    (d.assign label).2.used = (d.assign label).1 :: d.used := by
  unfold assign
  split
  · split <;> rfl
  · rfl

/-- The names there are: after a letter, after a digit, or an ordinal. -/
inductive IsDesignator : String → Prop where
  | letter (c : Char) (h : c.isUpper) : IsDesignator ("K_" ++ c.toString)
  | digit (c : Char) (h : c.isDigit) : IsDesignator ("K_N" ++ c.toString)
  | ordinal (n : Nat) : IsDesignator (ordinal n)

theorem isDesignator_ofLegend? {label name : String} (h : ofLegend? label = some name) : IsDesignator name := by
  unfold ofLegend? at h
  split at h
  · split at h
    · rename_i c _ hc
      cases h; exact .letter _ (by rwa [Char.isUpper_toUpper_eq_isAlpha])
    · split at h
      · rename_i c _ _ hc
        cases h; exact .digit c hc
      · cases h
  · cases h

theorem isDesignator_assign (d : Designators) (label : String) : IsDesignator (d.assign label).1 := by
  unfold assign
  split
  · rename_i name hlegend
    split
    · exact .ordinal _
    · exact isDesignator_ofLegend? hlegend
  · exact .ordinal _

/-! ## All labels -/

theorem assignAll_cons (d : Designators) (label : String) (labels : List String) :
    (d.assignAll (label :: labels)).1 = (d.assign label).1 :: ((d.assign label).2.assignAll labels).1 := rfl

/-- The labels that follow find the state that the labels before them leave. -/
theorem assignAll_append (labels more : List String) : ∀ d : Designators, d.assignAll (labels ++ more) =
    ((d.assignAll labels).1 ++ ((d.assignAll labels).2.assignAll more).1,
      ((d.assignAll labels).2.assignAll more).2) := by
  induction labels with
  | nil => intro d; rfl
  | cons label labels ih =>
    intro d
    simp only [List.cons_append, assignAll, ih]

theorem length_assignAll : ∀ (labels : List String) (d : Designators),
    (d.assignAll labels).1.length = labels.length
  | [], _ => rfl
  | label :: labels, d => by
    rw [assignAll_cons, List.length_cons, length_assignAll labels, List.length_cons]

theorem isDesignator_assignAll : ∀ (labels : List String) (d : Designators),
    ∀ name ∈ (d.assignAll labels).1, IsDesignator name
  | [], _, name, h => by cases h
  | label :: labels, d, name, h => by
    rw [assignAll_cons] at h
    cases h with
    | head => exact isDesignator_assign d label
    | tail _ h => exact isDesignator_assignAll labels _ name h

theorem assignAll_not_mem : ∀ (labels : List String) (d : Designators),
    ∀ name ∈ (d.assignAll labels).1, name ∉ d.used
  | [], _, name, h => by cases h
  | label :: labels, d, name, h => by
    rw [assignAll_cons] at h
    cases h with
    | head => exact assign_not_mem d label
    | tail _ h =>
      have hfree := assignAll_not_mem labels _ name h
      rw [used_assign] at hfree
      exact fun hused => hfree (List.mem_cons_of_mem _ hused)

theorem assignAll_nodup : ∀ (labels : List String) (d : Designators), (d.assignAll labels).1.Nodup
  | [], _ => List.nodup_nil
  | label :: labels, d => by
    rw [assignAll_cons]
    refine List.nodup_cons.mpr ⟨fun h => ?_, assignAll_nodup labels _⟩
    have hfree := assignAll_not_mem labels _ _ h
    rw [used_assign] at hfree
    exact hfree (List.mem_cons_self ..)

end Designators

end ScanMatrix
