import Mathlib
import ScanMatrix.Proofs.Lists
import ScanMatrix.Proofs.Reading
import ScanMatrix.Proofs.Rendering

/-!
# Which texts compile

A text compiles if it is a JSON array of arrays of strings and objects with a string among them. A text
of another form is refused as JSON, and one of that form without a string as empty; the configuration has
no part in this (`compileText_cases`).
-/

namespace ScanMatrix

namespace Json

def IsCell (v : Json) : Prop := (∃ text, v = .string text) ∨ ∃ members, v = .object members

/-- The text is a document with the given rows of cells, each of which is a string or an object. -/
structure IsLayoutText (text : String) (rows : List (List Json)) : Prop where
  document : Json.parse text = .ok (.array (rows.map .array))
  cells : ∀ row ∈ rows, ∀ v ∈ row, v.IsCell

def strings (rows : List (List Json)) : List String := rows.flatten.filterMap string?

end Json

open Json

/-! ## Cells and rows -/

def Cell.ReadFrom (v : Json) (cell : Cell Float) : Prop := Cell.ofJson? v = some cell

theorem exists_readFrom {v : Json} : (∃ cell, Cell.ReadFrom v cell) ↔ v.IsCell := by
  unfold Cell.ReadFrom IsCell
  cases v <;> simp [Cell.ofJson?]

theorem Cell.label?_readFrom {v : Json} {cell : Cell Float} (h : Cell.ReadFrom v cell) :
    v.string? = cell.label? := by
  unfold Cell.ReadFrom at h
  cases v with
  | string text => cases h; rfl
  | object members => cases h; rfl
  | _ => cases h

theorem rows_readFrom {vs : List Json} {rows : List (Row Float)} : vs.mapM Row.ofJson? = some rows ↔
    ∃ cells : List (List Json), vs = cells.map .array ∧ List.Forall₂ (List.Forall₂ Cell.ReadFrom) cells rows := by
  rw [List.mapM_eq_some]
  constructor
  · intro h
    induction h with
    | nil => exact ⟨[], rfl, .nil⟩
    | @cons v row _ _ hv _ ih =>
      obtain ⟨cells, rfl, hcells⟩ := ih
      cases v with
      | array items => exact ⟨items :: cells, rfl, .cons (List.mapM_eq_some.mp hv) hcells⟩
      | _ => cases hv
  · rintro ⟨cells, rfl, h⟩
    rw [List.forall₂_map_left_iff]
    exact h.imp fun _ _ hrow => List.mapM_eq_some.mpr hrow

namespace Layout

theorem ofJson?_eq_some {v : Json} {layout : Layout Float} : Layout.ofJson? v = some layout ↔
    ∃ cells : List (List Json), v = .array (cells.map .array) ∧
      List.Forall₂ (List.Forall₂ Cell.ReadFrom) cells layout.rows := by
  obtain ⟨rows⟩ := layout
  cases v with
  | array vs => simp [Layout.ofJson?, rows_readFrom]
  | _ => simp [Layout.ofJson?]

theorem labels_eq (layout : Layout α) : layout.labels = layout.rows.flatten.filterMap Cell.label? := by
  rw [labels, List.filterMap_flatten, List.flatMap_def]

theorem labels_readFrom {cells : List (List Json)} {layout : Layout Float}
    (h : List.Forall₂ (List.Forall₂ Cell.ReadFrom) cells layout.rows) : layout.labels = strings cells := by
  have hflat : List.Forall₂ Cell.ReadFrom cells.flatten layout.rows.flatten := List.rel_flatten h
  have hlabels : List.Forall₂ Eq (cells.flatten.filterMap string?) (layout.rows.flatten.filterMap Cell.label?) := by
    refine List.rel_filterMap (fun v cell hv => ?_) hflat
    rw [Cell.label?_readFrom hv]
    cases cell.label? with
    | none => exact .none
    | some text => exact .some rfl
  rw [List.forall₂_eq_eq_eq] at hlabels
  rw [labels_eq, ← hlabels]; rfl

/-! ## Texts -/

variable {text : String} {layout : Layout Float}

theorem isLayoutText_read (h : Layout.read text = .ok layout) :
    ∃ rows, IsLayoutText text rows ∧ layout.labels = strings rows := by
  obtain ⟨v, hv, hlayout⟩ := read_eq_ok.mp h
  obtain ⟨rows, rfl, hrows⟩ := ofJson?_eq_some.mp hlayout
  refine ⟨rows, ⟨hv, fun row hrow cell hcell => ?_⟩, labels_readFrom hrows⟩
  obtain ⟨row', hrow'⟩ := List.exists_forall₂.mp ⟨_, hrows⟩ row hrow
  exact exists_readFrom.mp (List.exists_forall₂.mp ⟨_, hrow'⟩ cell hcell)

theorem exists_read {rows : List (List Json)} (h : IsLayoutText text rows) :
    ∃ layout, Layout.read text = .ok layout ∧ List.Forall₂ (List.Forall₂ Cell.ReadFrom) rows layout.rows := by
  have hrows : ∀ row ∈ rows, ∃ row', List.Forall₂ Cell.ReadFrom row row' := fun row hrow =>
    List.exists_forall₂.mpr fun v hv => exists_readFrom.mpr (h.cells row hrow v hv)
  obtain ⟨rows', hrows'⟩ := List.exists_forall₂.mpr hrows
  refine ⟨⟨rows'⟩, read_eq_ok.mpr ⟨_, h.document, ?_⟩, hrows'⟩
  exact ofJson?_eq_some.mpr ⟨rows, rfl, hrows'⟩

theorem compile_of_labels_eq_nil (config : MatrixConfig Float) (h : layout.labels = []) :
    layout.compile config = .error .empty :=
  compile_eq_error.mpr ⟨rfl, layout.keys_eq_nil.mpr h⟩

end Layout

section
variable {text : String} (config : MatrixConfig Float)

theorem compileText_of_not (h : ¬ ∃ rows, IsLayoutText text rows) :
    ∃ e, compileText text config = .error (.json e) := by
  unfold compileText
  cases hread : Layout.read text with
  | error e => exact ⟨e, rfl⟩
  | ok layout =>
    obtain ⟨rows, hrows, _⟩ := Layout.isLayoutText_read hread
    exact absurd ⟨rows, hrows⟩ h

theorem compileText_of_read {layout : Layout Float} (h : Layout.read text = .ok layout) :
    compileText text config = layout.compile config := by
  unfold compileText
  rw [h]

variable {rows : List (List Json)}

theorem compileText_of_strings_eq_nil (h : IsLayoutText text rows) (hnil : strings rows = []) :
    compileText text config = .error .empty := by
  obtain ⟨layout, hread, hrows⟩ := Layout.exists_read h
  rw [compileText_of_read config hread]
  exact layout.compile_of_labels_eq_nil config ((Layout.labels_readFrom hrows).trans hnil)

theorem exists_compileText (h : IsLayoutText text rows) (hne : strings rows ≠ []) :
    ∃ m, compileText text config = .ok m := by
  obtain ⟨layout, hread, hrows⟩ := Layout.exists_read h
  rw [compileText_of_read config hread]
  exact exists_compile config (Layout.labels_readFrom hrows ▸ hne)

variable {config} {m : CompiledMatrix Float}

theorem compileText_eq_ok (h : compileText text config = .ok m) :
    ∃ layout, Layout.read text = .ok layout ∧ layout.compile config = .ok m := by
  cases hread : Layout.read text with
  | error e => rw [compileText, hread] at h; cases h
  | ok layout => exact ⟨layout, rfl, compileText_of_read config hread ▸ h⟩

theorem keys_compileText (h : compileText text config = .ok m) : ∃ rows, IsLayoutText text rows ∧
    m.keys.map (·.label) = strings rows ∧ m.wiring.map (·.key) = m.keys.map (·.name) := by
  obtain ⟨layout, hread, hm⟩ := compileText_eq_ok h
  obtain ⟨rows, hrows, hlabels⟩ := Layout.isLayoutText_read hread
  refine ⟨rows, hrows, ?_, ?_⟩
  · rw [map_keys_compile (fun _ _ => rfl) hm, layout.map_label_keys, hlabels]
  · rw [wiring_compile hm, List.map_map]; rfl

end

/-- **Which texts compile.** Either the text has not the form of a layout, or it has and there is no string
in it, or it has and there is; the outcome tells which. A matrix has a key for each string, in order, and a
wiring for each key. -/
theorem compileText_cases (text : String) (config : MatrixConfig Float) :
    ((∃ m, compileText text config = .ok m) ↔ ∃ rows, IsLayoutText text rows ∧ strings rows ≠ []) ∧
    ((∃ e, compileText text config = .error (.json e)) ↔ ¬ ∃ rows, IsLayoutText text rows) ∧
    (compileText text config = .error .empty ↔ ∃ rows, IsLayoutText text rows ∧ strings rows = []) ∧
    ∀ m, compileText text config = .ok m → ∃ rows, IsLayoutText text rows ∧
      m.keys.map (·.label) = strings rows ∧ m.keys.length = (strings rows).length ∧
      m.wiring.length = (strings rows).length ∧ m.wiring.map (·.key) = m.keys.map (·.name) := by
  -- The cases exclude one another, so an outcome leads back to the case that has it.
  refine ⟨⟨?_, ?_⟩, ⟨?_, compileText_of_not config⟩, ⟨?_, ?_⟩, ?_⟩
  · rintro ⟨m, hm⟩
    obtain ⟨rows, hrows, _, _⟩ := keys_compileText hm
    refine ⟨rows, hrows, fun hnil => ?_⟩
    rw [compileText_of_strings_eq_nil config hrows hnil] at hm
    cases hm
  · rintro ⟨rows, hrows, hne⟩
    exact exists_compileText config hrows hne
  · rintro ⟨e, he⟩ ⟨rows, hrows⟩
    by_cases hnil : strings rows = []
    · rw [compileText_of_strings_eq_nil config hrows hnil] at he
      cases he
    · obtain ⟨m, hm⟩ := exists_compileText config hrows hnil
      rw [hm] at he
      cases he
  · intro he
    by_cases h : ∃ rows, IsLayoutText text rows
    · obtain ⟨rows, hrows⟩ := h
      refine ⟨rows, hrows, by_contra fun hne => ?_⟩
      obtain ⟨m, hm⟩ := exists_compileText config hrows hne
      rw [hm] at he
      cases he
    · obtain ⟨e, hjson⟩ := compileText_of_not config h
      rw [hjson] at he
      cases he
  · rintro ⟨rows, hrows, hnil⟩
    exact compileText_of_strings_eq_nil config hrows hnil
  · intro m hm
    obtain ⟨rows, hrows, hkeys, hwiring⟩ := keys_compileText hm
    have hlength := congrArg List.length hkeys
    have hwirings := congrArg List.length hwiring
    simp only [List.length_map] at hlength hwirings
    exact ⟨rows, hrows, hkeys, hlength, hwirings.trans hlength, hwiring⟩

/-- A key, a wide key in a row of its own, and a row without keys. -/
def sampleText : String := "[[\"A\"], [], [\x7b\"w\": 2\x7d, \"a\"]]"

theorem isLayoutText_sample : IsLayoutText sampleText
    [[.string "A"], [], [.object [("w", .number (.integer 2))], .string "a"]] := by
  refine ⟨rfl, ?_⟩
  simp [IsCell]

theorem compileText_cases_sample : ∃ m, compileText sampleText .standard = .ok m ∧
    ∃ rows, IsLayoutText sampleText rows ∧
      m.keys.map (·.label) = strings rows ∧ m.keys.length = (strings rows).length ∧
      m.wiring.length = (strings rows).length ∧ m.wiring.map (·.key) = m.keys.map (·.name) := by
  have hcases := compileText_cases sampleText .standard
  obtain ⟨m, hm⟩ := hcases.1.mpr ⟨_, isLayoutText_sample, by simp [strings, string?]⟩
  exact ⟨m, hm, hcases.2.2.2 m hm⟩

end ScanMatrix
