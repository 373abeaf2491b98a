import Mathlib.Data.List.Sort
import Mathlib.Data.String.Basic
import ScanMatrix.NameMap
import ScanMatrix.Proofs.Lists

/-!
# Looking up names

A map is seen through `get?`. `ext_get?`: two maps that give every name the same value are equal,
because their entries are sorted.
-/

namespace ScanMatrix

namespace NameMap

variable {β γ : Type}

def get? (m : NameMap β) (name : String) : Option β := m.entries.lookup name

theorem nodup_names (m : NameMap β) : m.names.Nodup := by
  unfold names List.Nodup
  rw [List.pairwise_map]
  exact m.sorted.imp fun h => ne_of_lt h

theorem mem_entries {m : NameMap β} {name : String} {value : β} :
    (name, value) ∈ m.entries ↔ m.get? name = some value :=
  (List.lookup_eq_some_iff_mem m.nodup_names).symm

theorem mem_names {m : NameMap β} {name : String} : name ∈ m.names ↔ (m.get? name).isSome := by
  rw [Option.isSome_iff_exists]
  simp only [names, List.mem_map, ← mem_entries]
  constructor
  · rintro ⟨e, he, rfl⟩; exact ⟨e.2, he⟩
  · rintro ⟨v, hv⟩; exact ⟨(name, v), hv, rfl⟩

theorem ext_get? {m m' : NameMap β} (h : ∀ name, m.get? name = m'.get? name) : m = m' := by
  have hirrefl : Std.Irrefl fun a b : String × β => a.1 < b.1 := ⟨fun a => lt_irrefl a.1⟩
  have hasymm : Std.Antisymm fun a b : String × β => a.1 < b.1 := ⟨fun a b hab hba => absurd hba hab.asymm⟩
  have hmem : m.entries = m'.entries := by
    refine List.Pairwise.eq_of_mem_iff m.sorted m'.sorted fun e => ?_
    obtain ⟨n, v⟩ := e
    rw [mem_entries, mem_entries, h]
  cases m; cases m'
  cases hmem; rfl

/-! ## Building a map -/

theorem lookup_insertInto (name : String) (value : β) (es : List (String × β)) (n : String) :
    (insertInto name value es).lookup n = if n = name then some value else es.lookup n := by
  induction es with
  | nil => rw [insertInto, List.lookup_cons_eq_ite]
  | cons e es ih =>
    rw [insertInto]
    split
    · rw [List.lookup_cons_eq_ite]
    · split
      · rename_i heq
        rw [List.lookup_cons_eq_ite, List.lookup_cons_eq_ite, heq]
        by_cases hn : n = e.1 <;> simp [hn]
      · rename_i hne
        rw [List.lookup_cons_eq_ite, List.lookup_cons_eq_ite, ih]
        by_cases hn : n = e.1
        · simp [hn, Ne.symm hne]
        · simp [hn]

theorem get?_insert (m : NameMap β) (name : String) (value : β) (n : String) :
    (m.insert name value).get? n = if n = name then some value else m.get? n :=
  lookup_insertInto name value m.entries n

theorem get?_foldl_insert (es : List (String × β)) (n : String) : ∀ m : NameMap β,
    (es.foldl (fun m e => m.insert e.1 e.2) m).get? n = (es.reverse.lookup n).or (m.get? n) := by
  induction es with
  | nil => intro m; rfl
  | cons e es ih =>
    intro m
    rw [List.foldl_cons, ih, get?_insert, List.reverse_cons, List.lookup_append, Option.or_assoc, List.lookup_cons_eq_ite]
    by_cases hn : n = e.1 <;> simp [hn]

theorem get?_ofList (es : List (String × β)) (n : String) : (ofList es).get? n = es.reverse.lookup n := by
  unfold ofList
  rw [get?_foldl_insert]
  exact Option.or_none

theorem mem_names_ofList {es : List (String × β)} {n : String} : n ∈ (ofList es).names ↔ n ∈ es.map (·.1) := by
  rw [mem_names, get?_ofList, List.lookup_isSome_iff]
  simp only [List.mem_reverse, beq_iff_eq, List.mem_map, @eq_comm _ n]

theorem get?_ofList_of_nodup {es : List (String × β)} (h : (es.map (·.1)).Nodup) {n : String} {value : β} :
    (ofList es).get? n = some value ↔ (n, value) ∈ es := by
  have hrev : (es.reverse.map (·.1)).Nodup := by rwa [List.map_reverse, List.nodup_reverse]
  rw [get?_ofList, List.lookup_eq_some_iff_mem hrev, List.mem_reverse]

theorem get?_mapNamed (m : NameMap β) (f : String → β → γ) (n : String) :
    (m.mapNamed f).get? n = (m.get? n).map (f n) := by
  suffices h : ∀ es : List (String × β),
      (es.map fun e => (e.1, f e.1 e.2)).lookup n = (es.lookup n).map (f n) from h m.entries
  intro es
  induction es with
  | nil => rfl
  | cons e es ih =>
    rw [List.map_cons, List.lookup_cons_eq_ite, List.lookup_cons_eq_ite]
    by_cases hn : n = e.1
    · simp [hn]
    · simp [hn, ih]

/-- The entries of a map with other values are collected into a map unchanged. -/
theorem ofList_map (m : NameMap β) (f : β → γ) :
    ofList (m.entries.map fun e => (e.1, f e.2)) = m.mapNamed fun _ v => f v := by
  have hnodup : ((m.entries.map fun e => (e.1, f e.2)).map (·.1)).Nodup := by
    rw [List.map_map]; exact m.nodup_names
  apply ext_get?; intro n
  apply Option.ext; intro v
  rw [get?_ofList_of_nodup hnodup, ← mem_entries]
  rfl

theorem entries_ofList_map (m : NameMap β) (f : β → γ) :
    (ofList (m.entries.map fun e => (e.1, f e.2))).entries = m.entries.map fun e => (e.1, f e.2) := by
  rw [ofList_map]; rfl

end NameMap

end ScanMatrix
