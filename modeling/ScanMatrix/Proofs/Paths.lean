import Mathlib
import ScanMatrix.Files.Path
import ScanMatrix.Proofs.Lists

/-!
# Paths and their names

A path is a list of components, and it has a name if the last of them is one. A new extension changes this name
alone (`components_withExtension`): it takes the place of what follows the last dot of the name, where a dot at
the start is none.
-/

namespace ScanMatrix.Path

/-! ## Parts -/

theorem parts_eq_splitOn (path : List Char) : parts path = path.splitOn '/' := by
  induction path with
  | nil => rfl
  | cons c path ih =>
    rw [parts, ih, List.splitOn_cons_eq_if_modifyHead]
    by_cases hc : c = '/'
    · simp [hc]
    · cases h : path.splitOn '/' with
      | nil => exact absurd h (List.splitOn_ne_nil _ _)
      | cons p ps => simp [hc]

theorem join_eq_intercalate : ∀ ps : List (List Char), join ps = ['/'].intercalate ps
  | [] => rfl
  | [p] => (List.intercalate_singleton ..).symm
  | p :: q :: ps => by
    rw [List.intercalate_cons_cons, ← join_eq_intercalate (q :: ps)]
    simp [join]

theorem slash_not_mem {path p : List Char} (h : p ∈ parts path) : '/' ∉ p := by
  rw [parts_eq_splitOn] at h
  induction path generalizing p with
  | nil => simp_all
  | cons c path ih =>
    rw [List.splitOn_cons_eq_if_modifyHead] at h
    cases hps : path.splitOn '/' with
    | nil => exact absurd hps (List.splitOn_ne_nil _ _)
    | cons q ps =>
      simp only [hps, List.mem_cons, forall_eq_or_imp] at ih
      by_cases hc : c = '/'
      · simp only [hps, hc, beq_self_eq_true, if_true, List.mem_cons] at h
        rcases h with rfl | h
        · simp
        · rcases h with rfl | h
          · exact ih.1
          · exact ih.2 p h
      · simp [hps, hc] at h
        rcases h with rfl | h
        · simp [Ne.symm hc, ih.1]
        · exact ih.2 p h

theorem parts_join {ps : List (List Char)} (h : ∀ p ∈ ps, '/' ∉ p) (hne : ps ≠ []) : parts (join ps) = ps := by
  rw [parts_eq_splitOn, join_eq_intercalate, List.splitOn_intercalate _ h hne]

theorem head?_eq_slash {path : List Char} : path.head? = some '/' ↔ ∃ p ps, parts path = [] :: p :: ps := by
  cases path with
  | nil => simp [parts]
  | cons c path =>
    rw [parts]
    by_cases hc : c = '/'
    · cases h : parts path with
      | nil => exact absurd (parts_eq_splitOn path ▸ h) (List.splitOn_ne_nil _ _)
      | cons p ps => simp [hc]
    · cases h : parts path <;> simp [hc]

/-! ## Components -/

inductive Component where
  | root
  | here
  | up
  | name (text : List Char)

/-- What a part says. An empty part says nothing, and neither does a dot. -/
def Component.ofPart? (part : List Char) : Option Component :=
  if part = [] ∨ part = ['.'] then none else if part = ['.', '.'] then some .up else some (.name part)

/-- Where a path starts, if it says so: at the root after a slash, in the working directory after a dot. -/
def start (path : List Char) : List Component :=
  if path.head? = some '/' then [.root] else if (path.splitOn '/').head? = some ['.'] then [.here] else []

def components (path : List Char) : List Component :=
  start path ++ (path.splitOn '/').filterMap Component.ofPart?

theorem components_eq (path : List Char) :
    components path = start path ++ (parts path).filterMap Component.ofPart? := by
  rw [components, parts_eq_splitOn]

/-- What is left of a path without its last component. -/
def parent (path : List Char) : List Component := (components path).dropLast

/-- The name of a file that a path ends in. A root, `..` and a dot alone are none. -/
def name? (path : List Char) : Option (List Char) :=
  match (components path).getLast? with
  | some (.name text) => some text
  | _ => none

/-- The last component comes from a part, unless no part says anything. -/
theorem name?_eq_some {path name : List Char} :
    name? path = some name ↔ ((parts path).filterMap Component.ofPart?).getLast? = some (.name name) := by
  have hstart : ∀ text, (start path).getLast? ≠ some (.name text) := by
    intro text
    unfold start
    split_ifs <;> simp
  unfold name?
  rw [components_eq, List.getLast?_append]
  cases ((parts path).filterMap Component.ofPart?).getLast? with
  | some c => cases c <;> simp
  | none =>
    cases h : (start path).getLast? with
    | none => simp
    | some c =>
      cases c with
      | name text => exact absurd h (hstart text)
      | _ => simp

theorem ofPart?_eq_name {part : List Char} (hne : part ≠ []) (hdot : part ≠ ['.']) (hdots : part ≠ ['.', '.']) :
    Component.ofPart? part = some (.name part) := by
  simp [Component.ofPart?, hne, hdot, hdots]

/-! ## The last part that says something -/

theorem dropIdle_singleton (p : List Char) : dropIdle [p] = if p = [] then [] else [p] := rfl

theorem dropIdle_cons_cons (p q : List Char) (ps : List (List Char)) :
    dropIdle (p :: q :: ps) = if p = [] ∨ p = ['.'] then dropIdle (q :: ps) else p :: q :: ps := rfl

theorem exists_dropIdle (ps : List (List Char)) :
    ∃ idle, ps = idle ++ dropIdle ps ∧ idle.filterMap Component.ofPart? = [] := by
  induction ps with
  | nil => exact ⟨[], rfl, rfl⟩
  | cons p ps ih =>
    cases ps with
    | nil =>
      by_cases hp : p = []
      · exact ⟨[p], by simp [dropIdle_singleton, hp], by simp [Component.ofPart?, hp]⟩
      · exact ⟨[], by simp [dropIdle_singleton, hp], rfl⟩
    | cons q ps =>
      rw [dropIdle_cons_cons]
      by_cases hp : p = [] ∨ p = ['.']
      · obtain ⟨idle, hps, hidle⟩ := ih
        refine ⟨p :: idle, ?_, by simp [Component.ofPart?, hp, hidle]⟩
        rw [if_pos hp, List.cons_append, ← hps]
      · exact ⟨[], by rw [if_neg hp, List.nil_append], rfl⟩

theorem dropIdle_eq_cons {ps : List (List Char)} {p : List Char} {rest : List (List Char)}
    (h : dropIdle ps = p :: rest) : p ≠ [] ∧ (p = ['.'] → rest = []) := by
  induction ps with
  | nil => cases h
  | cons q ps ih =>
    cases ps with
    | nil =>
      rw [dropIdle_singleton] at h
      split_ifs at h with hq
      cases h
      exact ⟨hq, fun _ => rfl⟩
    | cons q' ps =>
      rw [dropIdle_cons_cons] at h
      split_ifs at h with hq
      · exact ih h
      · cases h
        exact ⟨fun hp => hq (.inl hp), fun hp => absurd (.inr hp) hq⟩

theorem splitName?_eq_some {path name : List Char} {before : List (List Char)}
    (h : splitName? path = some (before, name)) : ∃ idle, parts path = before ++ name :: idle ∧
      idle.filterMap Component.ofPart? = [] ∧ Component.ofPart? name = some (.name name) := by
  obtain ⟨idle, hparts, hidle⟩ := exists_dropIdle (parts path).reverse
  unfold splitName? at h
  split at h
  · cases h
  · rename_i name' before' hdrop
    split_ifs at h with hdots
    cases h
    rw [not_or] at hdots
    rw [hdrop, List.reverse_eq_iff] at hparts
    refine ⟨idle.reverse, by simp [hparts], by simp [List.filterMap_reverse, hidle], ?_⟩
    exact ofPart?_eq_name (dropIdle_eq_cons hdrop).1 hdots.1 hdots.2

theorem splitName?_eq_none {path : List Char} (h : splitName? path = none) (text : List Char) :
    ((parts path).filterMap Component.ofPart?).getLast? ≠ some (.name text) := by
  obtain ⟨idle, hparts, hidle⟩ := exists_dropIdle (parts path).reverse
  unfold splitName? at h
  split at h
  · rename_i hdrop
    rw [hdrop, List.append_nil, List.reverse_eq_iff] at hparts
    simp [hparts, List.filterMap_reverse, hidle]
  · rename_i last before hdrop
    rw [hdrop, List.reverse_eq_iff] at hparts
    have hlast : last = ['.'] ∨ last = ['.', '.'] := by
      by_contra hno
      rw [if_neg hno] at h
      cases h
    rcases hlast with rfl | rfl
    · -- A dot is left only where nothing is before it, so that no part says anything.
      obtain rfl := (dropIdle_eq_cons hdrop).2 rfl
      simp [hparts, List.filterMap_reverse, hidle, Component.ofPart?]
    · simp [hparts, List.filterMap_reverse, hidle, Component.ofPart?]

theorem name?_eq (path : List Char) : name? path = (splitName? path).map (·.2) := by
  cases h : splitName? path with
  | some split =>
    obtain ⟨before, name⟩ := split
    obtain ⟨idle, hparts, hidle, hname⟩ := splitName?_eq_some h
    rw [Option.map_some, name?_eq_some, hparts]
    simp [hidle, hname]
  | none =>
    rw [Option.map_none, Option.eq_none_iff_forall_ne_some]
    intro name
    rw [ne_eq, name?_eq_some]
    exact splitName?_eq_none h name

/-! ## Extensions -/

/-- The second text is the first up to its last dot, where a dot at the start is none. -/
inductive Stem : List Char → List Char → Prop where
  | cut {text rest : List Char} (htext : text ≠ []) (hrest : '.' ∉ rest) : Stem (text ++ '.' :: rest) text
  | whole {text : List Char} (h : '.' ∉ text.tail) : Stem text text

theorem stem_stem (name : List Char) : Stem name (stem name) := by
  have hdrop : (name.reverse.dropWhile (· ≠ '.')).reverse = name.rdropWhile (· ≠ '.') := rfl
  unfold stem
  rw [hdrop]
  rcases List.rdropWhile_ne_cases '.' name with ⟨hcut, hdot⟩ | ⟨text, rest, hcut, hname, hrest⟩
  · rw [hcut]
    exact .whole fun hmem => hdot (List.mem_of_mem_tail hmem)
  · rw [hcut, hname]
    cases text with
    | nil => exact .whole hrest
    | cons d text =>
      have hlast : (d :: text ++ ['.']).dropLast = d :: text := List.dropLast_concat
      split
      · simp_all
      · simp_all
      · rw [hlast]
        exact .cut (List.cons_ne_nil _ _) hrest

theorem ne_of_stem {name text extension : List Char} (h : Stem name text) (hdot : '.' ∈ extension) :
    text ++ '.' :: extension ≠ name := by
  intro heq
  cases h with
  | cut _ hrest =>
    simp at heq
    exact hrest (heq ▸ hdot)
  | whole _ => simp at heq

theorem mem_of_stem {name text : List Char} (h : Stem name text) {c : Char} (hc : c ∈ text) : c ∈ name := by
  cases h with
  | cut _ _ => simp [hc]
  | whole _ => exact hc

theorem stem_ne_nil {name text : List Char} (h : Stem name text) (hne : name ≠ []) : text ≠ [] := by
  cases h with
  | cut htext _ => exact htext
  | whole _ => exact hne

section
variable {path name extension : List Char} (h : name? path = some name)
include h

theorem parts_withExtension (hslash : '/' ∉ extension) : ∃ before idle, parts path = before ++ name :: idle ∧
    idle.filterMap Component.ofPart? = [] ∧ Component.ofPart? name = some (.name name) ∧
    parts (withExtension extension path) = before ++ [stem name ++ '.' :: extension] := by
  rw [name?_eq] at h
  obtain ⟨⟨before, name⟩, hsplit, rfl⟩ := Option.map_eq_some_iff.mp h
  obtain ⟨idle, hparts, hidle, hname⟩ := splitName?_eq_some hsplit
  have hold : ∀ p ∈ before ++ name :: idle, '/' ∉ p := fun p hp => slash_not_mem (hparts ▸ hp)
  have hnew : '/' ∉ stem name ++ '.' :: extension := by
    have hstem : '/' ∉ stem name := fun hc => hold name (by simp) (mem_of_stem (stem_stem name) hc)
    simp [hstem, hslash]
  refine ⟨before, idle, hparts, hidle, hname, ?_⟩
  unfold withExtension
  rw [hsplit]
  refine parts_join (fun p hp => ?_) (by simp)
  rcases List.mem_append.mp hp with hp | hp
  · exact hold p (by simp [hp])
  · rwa [List.mem_singleton.mp hp]

theorem components_withExtension (hslash : '/' ∉ extension) (hne : extension ≠ []) :
    components (withExtension extension path) = parent path ++ [.name (stem name ++ '.' :: extension)] := by
  obtain ⟨before, idle, hparts, hidle, hname, hout⟩ := parts_withExtension h hslash
  have hkept : name ≠ [] ∧ name ≠ ['.'] := by
    rw [← not_or]
    intro hno
    simp [Component.ofPart?, hno] at hname
  have hlong : 2 < (stem name ++ '.' :: extension).length := by
    have hstem := List.length_pos_iff.mpr (stem_ne_nil (stem_stem name) hkept.1)
    have hext := List.length_pos_iff.mpr hne
    simp only [List.length_append, List.length_cons]
    omega
  have hnew : Component.ofPart? (stem name ++ '.' :: extension) = some (.name (stem name ++ '.' :: extension)) := by
    apply ofPart?_eq_name <;> intro heq <;> simp [heq] at hlong
  -- Where a path starts is decided by its first part, which is another only if it is the name.
  have hroot : (withExtension extension path).head? = some '/' ↔ path.head? = some '/' := by
    rw [head?_eq_slash, head?_eq_slash, hparts, hout]
    cases before with
    | nil => simp [hkept]
    | cons b bs => cases bs <;> simp
  have hhere : (parts (withExtension extension path)).head? = some ['.'] ↔ (parts path).head? = some ['.'] := by
    rw [hparts, hout]
    cases before with
    | nil =>
      have hdot : stem name ++ '.' :: extension ≠ ['.'] := fun heq => by simp [heq] at hlong
      simp [hkept, hdot]
    | cons b bs => simp
  have hstart : start (withExtension extension path) = start path := by
    unfold start
    simp only [← parts_eq_splitOn, hroot, hhere]
  unfold parent
  rw [components_eq, components_eq, hstart, hparts, hout]
  simp [hidle, hname, hnew]

end

/-- The output has the parent of the input. Its name is the stem of the input's name with the extension, and it
is another than the input's. -/
structure Renamed (input output name extension : List Char) : Prop where
  parent_eq : parent output = parent input
  exists_stem : ∃ stem, Stem name stem ∧ name? output = some (stem ++ '.' :: extension)
  name?_ne : name? output ≠ some name

theorem renamed_withExtension {path name extension : List Char} (h : name? path = some name)
    (hslash : '/' ∉ extension) (hdot : '.' ∈ extension) :
    Renamed path (withExtension extension path) name extension := by
  have hout := components_withExtension h hslash (List.ne_nil_of_mem hdot)
  have hname : name? (withExtension extension path) = some (stem name ++ '.' :: extension) := by
    unfold name?
    simp [hout]
  refine ⟨?_, ⟨stem name, stem_stem name, hname⟩, ?_⟩
  · rw [parent, hout, List.dropLast_concat]
  · rw [hname, ne_eq, Option.some_inj]
    exact ne_of_stem (stem_stem name) hdot

example : String.ofList (withExtension "netlist.json".toList "./a//.kb.v2.json/./".toList) =
    "./a//.kb.v2.netlist.json" := by decide

end ScanMatrix.Path
