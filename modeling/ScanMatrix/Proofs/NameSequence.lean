import Mathlib
import ScanMatrix.Proofs.Designator
import ScanMatrix.Proofs.Legends

/-!
# The sequence of names

A label is named after its legend if it is the first with that legend, and by the next ordinal otherwise.
No legend takes an ordinal, so the search for a free one ends where it begins, and the ordinals count up from
one without a gap (`names_in_sequence`).
-/

namespace ScanMatrix

/-! ## Legends -/

/-- What a label is named after: a letter, in upper case, or a digit. -/
inductive Legend where
  | letter (c : Char)
  | digit (c : Char)
  deriving DecidableEq

namespace Legend

/-- The legend of a label whose final line is one letter or one digit. -/
def ofLabel? (label : String) : Option Legend :=
  match finalLine label with
  | [c] => if c.isAlpha then some (.letter c.toUpper) else if c.isDigit then some (.digit c) else none
  | _ => none

def name : Legend → String
  | .letter c => "K_" ++ c.toString
  | .digit c => "K_N" ++ c.toString

/-- The legend of a label, unless a label before it has the same. -/
def new? (earlier : List String) (label : String) : Option Legend :=
  (ofLabel? label).filter fun l => some l ∉ earlier.map ofLabel?

theorem new?_eq_some {earlier : List String} {label : String} {l : Legend} :
    new? earlier label = some l ↔ ofLabel? label = some l ∧ some l ∉ earlier.map ofLabel? := by
  unfold new?
  rw [Option.filter_eq_some_iff, decide_eq_true_eq]

theorem mem_of_new?_eq_none {earlier : List String} {label : String} {l : Legend}
    (h : new? earlier label = none) (hl : ofLabel? label = some l) : some l ∈ earlier.map ofLabel? := by
  by_contra hnew
  rw [new?_eq_some.mpr ⟨hl, hnew⟩] at h
  cases h

theorem name_inj {l l' : Legend} : l.name = l'.name ↔ l = l' := by
  rw [← String.toList_inj]
  cases l <;> cases l' <;> simp [name]

end Legend

namespace Designators

theorem ofLegend?_eq (label : String) : ofLegend? label = (Legend.ofLabel? label).map Legend.name := by
  unfold ofLegend? Legend.ofLabel?
  rw [lastLine_toList]
  rcases finalLine label with _ | ⟨c, _ | ⟨d, s⟩⟩
  · rfl
  · dsimp only
    split_ifs <;> rfl
  · rfl

/-! ## Ordinals -/

/-- A name that counts, in place of one made from a legend. -/
def isOrdinal (name : String) : Bool := name.toList[1]?.any Char.isDigit

theorem isOrdinal_ordinal (n : Nat) : isOrdinal (ordinal n) = true := by
  unfold isOrdinal
  rw [toList_ordinal, List.getElem?_cons_succ]
  cases h : Nat.toDigits 10 n with
  | nil => exact absurd h Nat.toDigits_ne_nil
  | cons c cs =>
    have hmem : c ∈ Nat.toDigits 10 n := by rw [h]; exact List.mem_cons_self ..
    exact Nat.isDigit_of_mem_toDigits (by decide) (by decide) hmem

theorem isOrdinal_legend (l : Legend) : isOrdinal l.name = false := by
  cases l <;> simp [isOrdinal, Legend.name]

theorem legend_ne_ordinal (l : Legend) (n : Nat) : l.name ≠ ordinal n := by
  intro h
  have hl := isOrdinal_legend l
  rw [h, isOrdinal_ordinal] at hl
  cases hl

/-! ## Names of a list of labels -/

/-- The names that a list of labels gets when no name is taken. -/
def namesOf (labels : List String) : List String := (empty.assignAll labels).1

def after (labels : List String) : Designators := (empty.assignAll labels).2

theorem namesOf_append (labels more : List String) :
    namesOf (labels ++ more) = namesOf labels ++ ((after labels).assignAll more).1 := by
  unfold namesOf
  rw [assignAll_append]; rfl

theorem length_namesOf (labels : List String) : (namesOf labels).length = labels.length :=
  length_assignAll labels .empty

theorem take_namesOf (labels : List String) (i : Nat) : (namesOf labels).take i = namesOf (labels.take i) := by
  have hpre : namesOf (labels.take i) <+: namesOf labels := by
    have happ := namesOf_append (labels.take i) (labels.drop i)
    rw [List.take_append_drop] at happ
    exact ⟨_, happ.symm⟩
  rw [List.prefix_iff_eq_take.mp hpre, length_namesOf, List.length_take, ← length_namesOf labels,
    ← List.take_eq_take_min]

theorem namesOf_concat (labels : List String) (label : String) :
    namesOf (labels ++ [label]) = namesOf labels ++ [((after labels).assign label).1] := namesOf_append labels [label]

theorem after_concat (labels : List String) (label : String) :
    after (labels ++ [label]) = ((after labels).assign label).2 := by
  unfold after
  rw [assignAll_append]; rfl

theorem getElem?_namesOf (labels : List String) (i : Nat) :
    (namesOf labels)[i]? = labels[i]?.map fun label => ((after (labels.take i)).assign label).1 := by
  rw [← List.getElem?_take_of_succ, take_namesOf, List.take_add_one]
  cases h : labels[i]? with
  | none =>
    rw [Option.toList_none, List.append_nil, Option.map_none, List.getElem?_eq_none_iff, length_namesOf]
    exact List.length_take_le i labels
  | some label =>
    have hi := (List.getElem?_eq_some_iff.mp h).1
    have hlen : (namesOf (labels.take i)).length = i := by
      rw [length_namesOf, List.length_take, min_eq_left hi.le]
    rw [Option.toList_some, namesOf_concat, List.getElem?_append_right hlen.le, hlen, Nat.sub_self]; rfl

/-! ## The names that are taken -/

theorem leastFree_of_not_mem {used : List String} {n : Nat} (h : ordinal n ∉ used) : leastFree used n = n := by
  unfold leastFree search
  rw [if_neg h]; rfl

/-- The names in use are those of the legends there were and the ordinals up to the next one. -/
structure InSequence (labels : List String) : Prop where
  legend : ∀ l : Legend, l.name ∈ (after labels).used ↔ some l ∈ labels.map Legend.ofLabel?
  ordinal : ∀ n, ordinal n ∈ (after labels).used ↔ 0 < n ∧ n < (after labels).next
  next : (after labels).next = (namesOf labels).countP isOrdinal + 1

namespace InSequence

variable {labels : List String} {label : String} (h : InSequence labels)
include h

theorem assign_new {l : Legend} (hnew : Legend.new? labels label = some l) :
    (after labels).assign label = (l.name, { after labels with used := l.name :: (after labels).used }) := by
  obtain ⟨hl, hfirst⟩ := Legend.new?_eq_some.mp hnew
  have hfree : l.name ∉ (after labels).used := fun hused => hfirst ((h.legend l).mp hused)
  unfold assign
  rw [ofLegend?_eq, hl]
  exact if_neg hfree

theorem assign_old (hold : Legend.new? labels label = none) :
    (after labels).assign label = (Designators.ordinal (after labels).next,
      ⟨(after labels).next + 1, Designators.ordinal (after labels).next :: (after labels).used⟩) := by
  have hfree : Designators.ordinal (after labels).next ∉ (after labels).used := fun hused =>
    Nat.lt_irrefl _ ((h.ordinal _).mp hused).2
  have hordinal : (after labels).assign label = (after labels).assignOrdinal := by
    unfold assign
    rw [ofLegend?_eq]
    cases hl : Legend.ofLabel? label with
    | none => rfl
    | some l => exact if_pos ((h.legend l).mpr (Legend.mem_of_new?_eq_none hold hl))
  rw [hordinal, assignOrdinal, leastFree_of_not_mem hfree]

theorem concat (label : String) : InSequence (labels ++ [label]) := by
  have hpos : 0 < (after labels).next := by rw [h.next]; exact Nat.succ_pos _
  cases hnew : Legend.new? labels label with
  | some l =>
    have hassign := h.assign_new hnew
    have hl := (Legend.new?_eq_some.mp hnew).1
    constructor
    · intro l'
      rw [after_concat, hassign, List.mem_cons, Legend.name_inj, h.legend]
      simp [hl, or_comm]
    · intro n
      rw [after_concat, hassign, List.mem_cons, h.ordinal]
      simp [(legend_ne_ordinal l n).symm]
    · rw [after_concat, namesOf_concat, hassign, List.countP_append, h.next]
      simp [isOrdinal_legend]
  | none =>
    have hassign := h.assign_old hnew
    constructor
    · intro l'
      -- The label adds an ordinal to the names and no legend that was not there.
      have hold : Legend.ofLabel? label = some l' → some l' ∈ labels.map Legend.ofLabel? :=
        Legend.mem_of_new?_eq_none hnew
      rw [after_concat, hassign, List.mem_cons, h.legend, List.map_append, List.mem_append]
      simp only [legend_ne_ordinal, false_or, List.map_cons, List.map_nil, List.mem_singleton]
      exact ⟨.inl, fun hor => hor.elim id fun heq => hold heq.symm⟩
    · intro n
      have hinj : Designators.ordinal n = Designators.ordinal (after labels).next ↔ n = (after labels).next :=
        ⟨ordinal_injective, fun heq => heq ▸ rfl⟩
      rw [after_concat, hassign, List.mem_cons, h.ordinal, hinj]
      dsimp only
      omega
    · rw [after_concat, namesOf_concat, hassign, List.countP_append, h.next]
      simp [isOrdinal_ordinal]

end InSequence

theorem inSequence (labels : List String) : InSequence labels := by
  induction labels using List.reverseRecOn with
  | nil =>
    constructor
    · intro l; simp [after, assignAll, empty]
    · intro n; simp [after, assignAll, empty]; omega
    · rfl
  | append_singleton labels label ih => exact ih.concat label

/-- The name of a label, given the labels before it and how many of them have an ordinal. -/
def nameAfter (earlier : List String) (ordinals : Nat) (label : String) : String :=
  match Legend.new? earlier label with
  | some l => l.name
  | none => ordinal (ordinals + 1)

theorem assign_after (labels : List String) (label : String) :
    ((after labels).assign label).1 = nameAfter labels ((namesOf labels).countP isOrdinal) label := by
  have h := inSequence labels
  unfold nameAfter
  cases hnew : Legend.new? labels label with
  | some l => rw [h.assign_new hnew]
  | none => rw [h.assign_old hnew, h.next]

theorem filter_isOrdinal_namesOf (labels : List String) : (namesOf labels).filter isOrdinal =
    (List.range' 1 ((namesOf labels).countP isOrdinal)).map ordinal := by
  induction labels using List.reverseRecOn with
  | nil => rfl
  | append_singleton labels label ih =>
    rw [namesOf_concat, assign_after, List.filter_append, List.countP_append, ih]
    unfold nameAfter
    cases Legend.new? labels label with
    | some l => simp [isOrdinal_legend]
    | none =>
      simp [isOrdinal_ordinal, List.range'_concat]
      rw [Nat.add_comm]

/-- **The sequence of names.** A label whose final line is one letter or one digit is named after it if no label
before ends in the same, a letter's case aside. Any other label gets the ordinal after those given out
before it, so the ordinals are one, two, three and so on, and as many are counted as used as there are. -/
theorem names_in_sequence (labels : List String) :
    (∀ i, (namesOf labels)[i]? = labels[i]?.map
      (nameAfter (labels.take i) (((namesOf labels).take i).countP isOrdinal))) ∧
    (namesOf labels).filter isOrdinal = (List.range' 1 (after labels).ordinalsUsed).map ordinal ∧
    (after labels).ordinalsUsed = (namesOf labels).countP isOrdinal := by
  have hcount : (after labels).ordinalsUsed = (namesOf labels).countP isOrdinal := by
    rw [ordinalsUsed, (inSequence labels).next, Nat.add_sub_cancel]
  refine ⟨fun i => ?_, ?_, hcount⟩
  · rw [getElem?_namesOf, take_namesOf]
    simp only [assign_after]
  · rw [hcount, filter_isOrdinal_namesOf]

example : namesOf ["A", "Esc", "a", "!\n1", "", "1"] = ["K_A", "K1", "K2", "K_N1", "K3", "K4"] := rfl

end Designators

end ScanMatrix
