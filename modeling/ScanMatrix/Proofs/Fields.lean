import Mathlib
import ScanMatrix.Layout.Basic
import ScanMatrix.Proofs.Lists
import ScanMatrix.Proofs.NameMap

/-!
# Fields of a modifier

The members of an object may be taken one by one, each setting the field of its name. What comes of it is the
modifier that is read from the object, whatever the order of the members, because each field depends only on
the member of its own name (`fields_exact`).
-/

namespace ScanMatrix

namespace Json

/-! ## Members by name -/

theorem lookup_concat (name : String) (ms : List (String × Json)) (e : String × Json) :
    lookup name (ms ++ [e]) = if e.1 = name then some e.2 else lookup name ms := by
  unfold lookup
  rw [List.reverse_append, List.reverse_singleton, List.singleton_append, List.find?_cons]
  by_cases h : e.1 = name
  · simp [h]
  · have hb : (e.1 == name) = false := beq_eq_false_iff_ne.mpr h
    simp [hb, h]

theorem lookup_eq_lookup (name : String) (ms : List (String × Json)) :
    lookup name ms = ms.reverse.lookup name := by
  induction ms using List.reverseRecOn with
  | nil => rfl
  | append_singleton ms e ih =>
    rw [lookup_concat, ih, List.reverse_append, List.reverse_singleton, List.singleton_append,
      List.lookup_cons_eq_ite]
    simp only [eq_comm]

theorem lookup_eq_some {ms : List (String × Json)} (h : (ms.map (·.1)).Nodup) {name : String} {v : Json} :
    lookup name ms = some v ↔ (name, v) ∈ ms := by
  have hrev : (ms.reverse.map (·.1)).Nodup := by rwa [List.map_reverse, List.nodup_reverse]
  rw [lookup_eq_lookup, List.lookup_eq_some_iff_mem hrev, List.mem_reverse]

/-! ## Values of a kind -/

theorem number?_eq_some {v : Json} {x : Float} : v.number? = some x ↔ ∃ n : Number, v = .number n ∧ n.toFloat = x := by
  cases v <;> simp [number?]

theorem bool?_eq_some {v : Json} {b : Bool} : v.bool? = some b ↔ v = .bool b := by
  cases v <;> simp [bool?]

theorem string?_eq_some {v : Json} {s : String} : v.string? = some s ↔ v = .string s := by
  cases v <;> simp [string?]

theorem bind_lookup_eq_some {β : Type} {kind? : Json → Option β} {ms : List (String × Json)}
    (h : (ms.map (·.1)).Nodup) {name : String} {b : β} :
    (lookup name ms).bind kind? = some b ↔ ∃ v, (name, v) ∈ ms ∧ kind? v = some b := by
  simp only [Option.bind_eq_some_iff, lookup_eq_some h]

end Json

open Json

namespace Modifier

/-! ## Fields by name -/

section
variable {α : Type}

def number? (m : Modifier α) : String → Option α
  | "x" => m.x
  | "y" => m.y
  | "w" => m.w
  | "h" => m.h
  | "x2" => m.x2
  | "y2" => m.y2
  | "w2" => m.w2
  | "h2" => m.h2
  | "r" => m.r
  | "rx" => m.rx
  | "ry" => m.ry
  | "a" => m.a
  | _ => none

def flag? (m : Modifier α) : String → Option Bool
  | "n" => m.n
  | "l" => m.l
  | "d" => m.d
  | "g" => m.g
  | _ => none

def text? (m : Modifier α) : String → Option String
  | "sm" => m.sm
  | "sb" => m.sb
  | "st" => m.st
  | _ => none

theorem ext_fields {m m' : Modifier α} (hnumber : ∀ name ∈ numberNames, m.number? name = m'.number? name)
    (hflag : ∀ name ∈ flagNames, m.flag? name = m'.flag? name)
    (htext : ∀ name ∈ textNames, m.text? name = m'.text? name) : m = m' := by
  cases m
  cases m'
  simp only [numberNames, flagNames, textNames, List.forall_mem_cons, number?, flag?, text?] at hnumber hflag htext
  simp only [hnumber, hflag, htext]

end

variable {ms ms' : List (String × Json)}

theorem number?_ofMembers {name : String} (h : name ∈ numberNames) :
    (ofMembers ms).number? name = (lookup name ms).bind Json.number? := by
  fin_cases h <;> rfl

theorem flag?_ofMembers {name : String} (h : name ∈ flagNames) :
    (ofMembers ms).flag? name = (lookup name ms).bind Json.bool? := by
  fin_cases h <;> rfl

theorem text?_ofMembers {name : String} (h : name ∈ textNames) :
    (ofMembers ms).text? name = (lookup name ms).bind Json.string? := by
  fin_cases h <;> rfl

/-! ## Member by member -/

/-- Takes a member: the field of its name becomes what the value gives for it, whatever it was. -/
def take (m : Modifier Float) (name : String) (value : Json) : Modifier Float :=
  match name with
  | "x" => { m with x := value.number? }
  | "y" => { m with y := value.number? }
  | "w" => { m with w := value.number? }
  | "h" => { m with h := value.number? }
  | "x2" => { m with x2 := value.number? }
  | "y2" => { m with y2 := value.number? }
  | "w2" => { m with w2 := value.number? }
  | "h2" => { m with h2 := value.number? }
  | "r" => { m with r := value.number? }
  | "rx" => { m with rx := value.number? }
  | "ry" => { m with ry := value.number? }
  | "a" => { m with a := value.number? }
  | "n" => { m with n := value.bool? }
  | "l" => { m with l := value.bool? }
  | "d" => { m with d := value.bool? }
  | "g" => { m with g := value.bool? }
  | "sm" => { m with sm := value.string? }
  | "sb" => { m with sb := value.string? }
  | "st" => { m with st := value.string? }
  | _ => m

def takeAll (ms : List (String × Json)) : Modifier Float := ms.foldl (fun m e => m.take e.1 e.2) {}

theorem ofMembers_concat (ms : List (String × Json)) (e : String × Json) :
    ofMembers (ms ++ [e]) = (ofMembers ms).take e.1 e.2 := by
  unfold take
  split <;> simp_all [ofMembers, lookup_concat]

theorem takeAll_eq (ms : List (String × Json)) : takeAll ms = ofMembers ms := by
  unfold takeAll
  induction ms using List.reverseRecOn with
  | nil => rfl
  | append_singleton ms e ih => rw [List.foldl_concat, ih, ofMembers_concat]

/-! ## The members that count -/

def fieldNames : List String := numberNames ++ flagNames ++ textNames

theorem ofMembers_congr (h : ∀ name ∈ fieldNames, lookup name ms = lookup name ms') :
    ofMembers ms = ofMembers ms' := by
  simp only [fieldNames, List.forall_mem_append] at h
  obtain ⟨⟨hnumber, hflag⟩, htext⟩ := h
  apply ext_fields
  · intro name hname
    rw [number?_ofMembers hname, number?_ofMembers hname, hnumber name hname]
  · intro name hname
    rw [flag?_ofMembers hname, flag?_ofMembers hname, hflag name hname]
  · intro name hname
    rw [text?_ofMembers hname, text?_ofMembers hname, htext name hname]

theorem ofMembers_eq_of_mem_iff (h : (ms.map (·.1)).Nodup) (h' : (ms'.map (·.1)).Nodup)
    (hmem : ∀ name ∈ fieldNames, ∀ v, (name, v) ∈ ms ↔ (name, v) ∈ ms') : ofMembers ms = ofMembers ms' := by
  apply ofMembers_congr; intro name hname
  apply Option.ext; intro v
  rw [lookup_eq_some h, lookup_eq_some h', hmem name hname v]

section
variable (h : (ms.map (·.1)).Nodup) {name : String}
include h

theorem number?_ofMembers_eq_some (hname : name ∈ numberNames) {x : Float} :
    (ofMembers ms).number? name = some x ↔ ∃ n, (name, .number n) ∈ ms ∧ n.toFloat = x := by
  rw [number?_ofMembers hname, bind_lookup_eq_some h]
  simp only [Json.number?_eq_some]
  constructor
  · rintro ⟨v, hv, n, rfl, hn⟩; exact ⟨n, hv, hn⟩
  · rintro ⟨n, hv, hn⟩; exact ⟨_, hv, n, rfl, hn⟩

theorem flag?_ofMembers_eq_some (hname : name ∈ flagNames) {b : Bool} :
    (ofMembers ms).flag? name = some b ↔ (name, .bool b) ∈ ms := by
  rw [flag?_ofMembers hname, bind_lookup_eq_some h]
  simp only [bool?_eq_some, exists_eq_right]

theorem text?_ofMembers_eq_some (hname : name ∈ textNames) {s : String} :
    (ofMembers ms).text? name = some s ↔ (name, .string s) ∈ ms := by
  rw [text?_ofMembers hname, bind_lookup_eq_some h]
  simp only [string?_eq_some, exists_eq_right]

end

/-! ## The fields that are set -/

/-- The fields that have a value, as members. -/
def members {β : Type} (names : List String) (field? : String → Option β) (value : β → Json) :
    List (String × Json) := names.filterMap fun name => (field? name).map fun b => (name, value b)

section
variable {β : Type} {names : List String} {field? : String → Option β} {value : β → Json}

theorem mem_members {name : String} {v : Json} :
    (name, v) ∈ members names field? value ↔ name ∈ names ∧ ∃ b, field? name = some b ∧ value b = v := by
  simp only [members, List.mem_filterMap, Option.map_eq_some_iff, Prod.mk.injEq]
  constructor
  · rintro ⟨_, hname, b, hb, rfl, hv⟩; exact ⟨hname, b, hb, hv⟩
  · rintro ⟨hname, b, hb, hv⟩; exact ⟨name, hname, b, hb, rfl, hv⟩

theorem names_members_sublist : ((members names field? value).map (·.1)).Sublist names := by
  unfold members
  induction names with
  | nil => exact List.Sublist.refl _
  | cons name names ih =>
    rw [List.filterMap_cons]
    cases field? name with
    | none => exact ih.cons _
    | some b => exact ih.cons_cons _

end

section
variable (m : Modifier Float)

theorem toMembers_eq : m.toMembers = members numberNames m.number? Json.float ++
    members flagNames m.flag? .bool ++ members textNames m.text? .string := by
  unfold toMembers
  dsimp only
  simp only [members, List.filterMap_eq_flatMap_toList, numberNames, flagNames, textNames, List.flatMap_cons,
    List.flatMap_nil, List.append_nil, List.append_assoc, number?, flag?, text?]

theorem nodup_names_toMembers : (m.toMembers.map (·.1)).Nodup := by
  have hsub : (m.toMembers.map (·.1)).Sublist fieldNames := by
    rw [toMembers_eq, List.map_append, List.map_append]
    exact (names_members_sublist.append names_members_sublist).append names_members_sublist
  exact hsub.nodup (by decide)

theorem mem_toMembers {name : String} {v : Json} : (name, v) ∈ m.toMembers ↔
    (name ∈ numberNames ∧ ∃ x, m.number? name = some x ∧ Json.float x = v) ∨
    (name ∈ flagNames ∧ ∃ b, m.flag? name = some b ∧ .bool b = v) ∨
    (name ∈ textNames ∧ ∃ s, m.text? name = some s ∧ .string s = v) := by
  rw [toMembers_eq, List.mem_append, List.mem_append, mem_members, mem_members, mem_members, or_assoc]

theorem ofMembers_toMembers : ofMembers m.toMembers = m := by
  have hnodup := m.nodup_names_toMembers
  apply ext_fields
  · intro name hname
    apply Option.ext; intro x
    rw [number?_ofMembers_eq_some hnodup hname]
    constructor
    · rintro ⟨n, hn, rfl⟩
      rcases m.mem_toMembers.mp hn with ⟨_, x, hx, hv⟩ | ⟨_, b, _, hv⟩ | ⟨_, s, _, hv⟩
      · cases hv; exact hx
      · cases hv
      · cases hv
    · intro hx; exact ⟨.decimal x, m.mem_toMembers.mpr (.inl ⟨hname, x, hx, rfl⟩), rfl⟩
  · intro name hname
    apply Option.ext; intro b
    rw [flag?_ofMembers_eq_some hnodup hname]
    simp [mem_toMembers, hname, Json.float]
  · intro name hname
    apply Option.ext; intro s
    rw [text?_ofMembers_eq_some hnodup hname]
    simp [mem_toMembers, hname, Json.float]

end

end Modifier

open Modifier in
/-- **Fields of an object.** An object that has each name once sets the field of a name to the value of the
member of that name, if that is of the field's kind, and sets nothing else. The members may be taken one by one
in any order, and those without a field do not count. So a modifier is read back from its own members. -/
theorem fields_exact {ms : List (String × Json)} (h : (ms.map (·.1)).Nodup) :
    (∀ name ∈ numberNames, ∀ x,
      (ofMembers ms).number? name = some x ↔ ∃ n, (name, .number n) ∈ ms ∧ n.toFloat = x) ∧
    (∀ name ∈ flagNames, ∀ b, (ofMembers ms).flag? name = some b ↔ (name, .bool b) ∈ ms) ∧
    (∀ name ∈ textNames, ∀ s, (ofMembers ms).text? name = some s ↔ (name, .string s) ∈ ms) ∧
    (∀ ms', ms.Perm ms' → takeAll ms' = ofMembers ms) ∧
    (∀ ms' : List (String × Json), (ms'.map (·.1)).Nodup → (∀ name ∈ fieldNames, ∀ v, (name, v) ∈ ms' ↔ (name, v) ∈ ms) →
      ofMembers ms' = ofMembers ms) ∧
    ∀ m : Modifier Float, ofMembers m.toMembers = m := by
  refine ⟨fun name hname x => number?_ofMembers_eq_some h hname, fun name hname b => flag?_ofMembers_eq_some h hname,
    fun name hname s => text?_ofMembers_eq_some h hname, fun ms' hperm => ?_,
    fun ms' h' hmem => ofMembers_eq_of_mem_iff h' h hmem, ofMembers_toMembers⟩
  have h' : (ms'.map (·.1)).Nodup := (hperm.map _).nodup_iff.mp h
  rw [takeAll_eq]
  exact ofMembers_eq_of_mem_iff h' h fun name _ v => hperm.symm.mem_iff

/-- Numbers, a flag, a name without a field, and values of the wrong kind. -/
def sampleMembers : List (String × Json) := [("x2", .number (.integer 3)), ("w", .string "wide"),
  ("h", .number (.integer 2)), ("c", .string "#cccccc"), ("n", .bool true), ("sm", .number (.integer 3))]

open Modifier in
theorem fields_exact_sample : (sampleMembers.map (·.1)).Nodup ∧
    (ofMembers sampleMembers).number? "h" = some (Number.integer 2).toFloat ∧
    (ofMembers sampleMembers).number? "x" = none ∧ (ofMembers sampleMembers).number? "w" = none ∧
    (ofMembers sampleMembers).flag? "n" = some true ∧ (ofMembers sampleMembers).text? "sm" = none ∧
    takeAll sampleMembers.reverse = ofMembers sampleMembers := by
  have hnodup : (sampleMembers.map (·.1)).Nodup := by decide
  obtain ⟨hnumber, hflag, htext, horder, -⟩ := fields_exact hnodup
  refine ⟨hnodup, (hnumber "h" (by decide) _).mpr ⟨_, by simp [sampleMembers], rfl⟩, ?_, ?_,
    (hflag "n" (by decide) true).mpr (by simp [sampleMembers]), ?_, horder _ (List.reverse_perm _).symm⟩
  · refine Option.eq_none_iff_forall_ne_some.mpr fun x hx => ?_
    obtain ⟨n, hn, -⟩ := (hnumber "x" (by decide) x).mp hx
    simp [sampleMembers] at hn
  · refine Option.eq_none_iff_forall_ne_some.mpr fun x hx => ?_
    obtain ⟨n, hn, -⟩ := (hnumber "w" (by decide) x).mp hx
    simp [sampleMembers] at hn
  · refine Option.eq_none_iff_forall_ne_some.mpr fun s hs => ?_
    have hmem := (htext "sm" (by decide) s).mp hs
    simp [sampleMembers] at hmem

end ScanMatrix
