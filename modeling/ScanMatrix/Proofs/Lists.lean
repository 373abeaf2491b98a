import Mathlib.Algebra.Order.Monoid.Unbundled.MinMax
import Mathlib.Data.List.DropRight
import Mathlib.Data.List.Forall2
import Mathlib.Data.List.Sort

/-!
# Lists

General facts, in which nothing of layouts or netlists occurs: where a list is cut, its order, lists with
different keys (`Nodup`) and related lists (`Forall₂`), and one about results that may be errors.
-/

namespace List

variable {α β γ : Type*}

/-! ## Ends, ranges and indices -/

theorem rtakeWhile_cons_of_exists {p : α → Bool} {a : α} {l : List α} (h : ∃ b ∈ a :: l, ¬ p b) :
    (a :: l).rtakeWhile p = l.rtakeWhile p := by
  induction l using reverseRecOn with
  | nil => simpa using h
  | append_singleton l c ih =>
    rw [← cons_append, rtakeWhile_concat, rtakeWhile_concat]
    by_cases hc : p c
    · have hl : ∃ b ∈ a :: l, ¬ p b := by
        obtain ⟨b, hb, hpb⟩ := h
        rcases mem_append.mp (cons_append ▸ hb) with hb | hb
        · exact ⟨b, hb, hpb⟩
        · exact absurd (mem_singleton.mp hb ▸ hc) hpb
      rw [if_pos hc, if_pos hc, ih hl]
    · rw [if_neg hc, if_neg hc]

/-- A list is cut behind the last `a` in it, if there is one. -/
theorem rdropWhile_ne_cases [DecidableEq α] (a : α) (l : List α) : l.rdropWhile (· ≠ a) = [] ∧ a ∉ l ∨
    ∃ front rest, l.rdropWhile (· ≠ a) = front ++ [a] ∧ l = front ++ a :: rest ∧ a ∉ rest := by
  have hl : l.rdropWhile (· ≠ a) ++ l.rtakeWhile (· ≠ a) = l := rdropWhile_append_rtakeWhile
  have hrest : a ∉ l.rtakeWhile (· ≠ a) := fun hmem => by simpa using mem_rtakeWhile_imp hmem
  rcases eq_nil_or_concat (l.rdropWhile (· ≠ a)) with hcut | ⟨front, b, hcut⟩
  · rw [hcut, nil_append] at hl
    exact .inl ⟨hcut, hl ▸ hrest⟩
  · have hlast := rdropWhile_last_not (· ≠ a) l (by rw [hcut]; simp)
    simp only [hcut, concat_eq_append, getLast_concat] at hlast
    obtain rfl : b = a := by simpa using hlast
    rw [concat_eq_append] at hcut
    rw [hcut, append_assoc] at hl
    exact .inr ⟨front, _, hcut, hl.symm, hrest⟩

theorem flatMap_zipIdx_of_index {d : α} (f : α → List β) (h : f d = []) (i : Nat) (l : List α) :
    (l.zipIdx.flatMap fun e => if e.2 = i then f e.1 else []) = f (l.getD i d) := by
  induction l generalizing i with
  | nil => simp [h]
  | cons a l ih =>
    rw [zipIdx_cons, zipIdx_succ, flatMap_cons, flatMap_map]
    cases i with
    | zero => simp
    | succ i => simpa using ih i

/-! ## Order -/

theorem mergeSort_congr [LinearOrder α] {l l' : List α} (h : l.Perm l') : l.mergeSort = l'.mergeSort := by
  refine Perm.eq_of_pairwise' (r := (· ≤ ·)) (pairwise_mergeSort' _ l) (pairwise_mergeSort' _ l') ?_
  exact (mergeSort_perm _ _).trans (h.trans (mergeSort_perm _ _).symm)

section
variable [Add α] [LinearOrder α] [AddRightMono α]

theorem min?_map_add (d : α) (l : List α) : (l.map (· + d)).min? = l.min?.map (· + d) := by
  cases l with
  | nil => rfl
  | cons a l =>
    rw [map_cons, min?_cons', min?_cons', foldl_map, Option.map_some]
    congr 1
    exact foldl_hom (· + d) fun x y => min_add_add_right x y d

theorem max?_map_add (d : α) (l : List α) : (l.map (· + d)).max? = l.max?.map (· + d) := by
  cases l with
  | nil => rfl
  | cons a l =>
    rw [map_cons, max?_cons', max?_cons', foldl_map, Option.map_some]
    congr 1
    exact foldl_hom (· + d) fun x y => max_add_add_right x y d

end

/-! ## Keys -/

section
variable [DecidableEq α]

theorem find?_of_nodup_map (key : β → α) {l : List β} (h : (l.map key).Nodup) {b : β} (hb : b ∈ l) :
    l.find? (fun x => key x == key b) = some b := by
  induction l with
  | nil => cases hb
  | cons x l ih =>
    obtain ⟨hx, hl⟩ := nodup_cons.mp h
    cases hb with
    | head => simp
    | tail _ hb =>
      have hne : key x ≠ key b := fun e => hx (e ▸ mem_map_of_mem hb)
      rw [find?_cons_of_neg (by simpa using hne), ih hl hb]

theorem lookup_cons_eq_ite (e : α × β) (es : List (α × β)) (a : α) :
    (e :: es).lookup a = if a = e.1 then some e.2 else es.lookup a := by
  obtain ⟨k, v⟩ := e
  rw [lookup_cons]
  by_cases h : a = k
  · subst h; simp
  · have hb : (a == k) = false := beq_eq_false_iff_ne.mpr h
    simp [hb, h]

theorem lookup_eq_some_iff_mem {es : List (α × β)} (h : (es.map (·.1)).Nodup) {a : α} {b : β} :
    es.lookup a = some b ↔ (a, b) ∈ es := by
  induction es with
  | nil => simp
  | cons e es ih =>
    obtain ⟨k, v⟩ := e
    obtain ⟨hk, hes⟩ := nodup_cons.mp h
    rw [lookup_cons_eq_ite, mem_cons]
    by_cases ha : a = k
    · subst ha
      have hout : (a, b) ∉ es := fun hm => hk (mem_map.mpr ⟨_, hm, rfl⟩)
      simp [hout, eq_comm]
    · simp [ha, ih hes]

end

theorem map_filterMap_sublist {f : α → Option β} {g : β → γ} {key : α → γ}
    (h : ∀ a b, f a = some b → g b = key a) (l : List α) : ((l.filterMap f).map g).Sublist (l.map key) := by
  induction l with
  | nil => exact Sublist.refl _
  | cons a l ih =>
    rw [filterMap_cons, map_cons]
    cases ha : f a with
    | none => exact ih.cons _
    | some b =>
      rw [map_cons, h a b ha]
      exact ih.cons_cons _

/-! ## Related lists -/

theorem mapM_cons_eq_some {f : α → Option β} {a : α} {as : List α} {bs : List β} :
    (a :: as).mapM f = some bs ↔ ∃ b bs', f a = some b ∧ as.mapM f = some bs' ∧ bs = b :: bs' := by
  rw [mapM_cons]
  simp [Option.bind_eq_some_iff, @eq_comm _ bs]

theorem mapM_eq_some {f : α → Option β} {as : List α} : ∀ {bs : List β},
    as.mapM f = some bs ↔ Forall₂ (fun a b => f a = some b) as bs := by
  induction as with
  | nil => intro bs; simp [eq_comm]
  | cons a as ih => intro bs; simp only [mapM_cons_eq_some, ih, forall₂_cons_left_iff]

theorem exists_forall₂ {R : α → β → Prop} {as : List α} : (∃ bs, Forall₂ R as bs) ↔ ∀ a ∈ as, ∃ b, R a b := by
  induction as with
  | nil => simp
  | cons a as ih =>
    rw [forall_mem_cons, ← ih]
    simp only [forall₂_cons_left_iff]
    constructor
    · rintro ⟨_, b, bs, hb, hbs, rfl⟩; exact ⟨⟨b, hb⟩, bs, hbs⟩
    · rintro ⟨⟨b, hb⟩, bs, hbs⟩; exact ⟨_, b, bs, hb, hbs, rfl⟩

/-- Lists read from related lists are related, if what is read from related members is. -/
theorem forall₂_of_forall₂ {S : α → α → Prop} {R : α → β → Prop} {T : β → β → Prop}
    (h : ∀ a a' b b', S a a' → R a b → R a' b' → T b b') {as as' : List α} (hs : Forall₂ S as as') :
    ∀ {bs bs' : List β}, Forall₂ R as bs → Forall₂ R as' bs' → Forall₂ T bs bs' := by
  induction hs with
  | nil => intro bs bs' hbs hbs'; cases hbs; cases hbs'; exact .nil
  | cons ha _ ih =>
    intro bs bs' hbs hbs'
    cases hbs with
    | cons hb hbs =>
      cases hbs' with
      | cons hb' hbs' => exact .cons (h _ _ _ _ ha hb hb') (ih hbs hbs')

end List

namespace Except

theorem mapError_eq_ok {ε ε' α : Type*} {f : ε → ε'} {r : Except ε α} {a : α} : r.mapError f = .ok a ↔ r = .ok a := by
  cases r <;> simp [Except.mapError]

end Except
