import Mathlib
import ScanMatrix.Matrix.Document
import ScanMatrix.Proofs.Acceptance
import ScanMatrix.Proofs.Alike
import ScanMatrix.Proofs.Lists

/-!
# Fields without a meaning

Of the members of an object in a layout, only the numbers under seven names count. Two texts with the same
strings, whose objects have the same numbers under these names, are compiled to the same matrix, whatever
else stands in the objects and in which order (`compileText_uninterpreted`).
-/

namespace ScanMatrix

namespace Json

def numberAt (name : String) (members : List (String × Json)) : Option Float := (lookup name members).bind number?

/-- The names of the numbers that place a key. -/
def placingNames : List String := ["x", "y", "w", "h", "r", "rx", "ry"]

/-- The cells are one string, or objects with the same numbers under the names that count. -/
inductive SameCell : Json → Json → Prop where
  | string (text : String) : SameCell (.string text) (.string text)
  | object {ms ms' : List (String × Json)} (h : ∀ name ∈ placingNames, numberAt name ms = numberAt name ms') :
      SameCell (.object ms) (.object ms')

end Json

open Json

theorem Modifier.agree_ofMembers {ms ms' : List (String × Json)}
    (h : ∀ name ∈ placingNames, numberAt name ms = numberAt name ms') : (ofMembers ms).Agree (ofMembers ms') := by
  simp only [placingNames, List.forall_mem_cons] at h
  obtain ⟨hx, hy, hw, hh, hr, hrx, hry, _⟩ := h
  exact ⟨hx, hy, hw, hh, hr, hrx, hry⟩

/-! ## Cells and layouts -/

theorem Cell.alike_readFrom {v v' : Json} {cell cell' : Cell Float} (hsame : v.SameCell v')
    (h : Cell.ReadFrom v cell) (h' : Cell.ReadFrom v' cell') : Cell.Alike Eq cell cell' := by
  cases hsame with
  | string text => cases h; cases h'; exact .label rfl
  | object hms => cases h; cases h'; exact .modifier (Modifier.agree_ofMembers hms)

theorem Layout.alike_readFrom {rows rows' : List (List Json)} {layout layout' : Layout Float}
    (hsame : List.Forall₂ (List.Forall₂ SameCell) rows rows')
    (h : List.Forall₂ (List.Forall₂ Cell.ReadFrom) rows layout.rows)
    (h' : List.Forall₂ (List.Forall₂ Cell.ReadFrom) rows' layout'.rows) : layout.Alike Eq layout' := by
  refine List.forall₂_of_forall₂ (fun _ _ _ _ hs hrow hrow' => ?_) hsame h h'
  refine List.forall₂_of_forall₂ (fun _ _ _ _ hcell h h' => ?_) hs hrow hrow'
  exact Cell.alike_readFrom hcell h h'

section
variable {text text' : String} {rows rows' : List (List Json)}

theorem compileText_congr (h : IsLayoutText text rows) (h' : IsLayoutText text' rows')
    (hsame : List.Forall₂ (List.Forall₂ SameCell) rows rows') (config : MatrixConfig Float) :
    compileText text config = compileText text' config := by
  obtain ⟨layout, hread, hrows⟩ := Layout.exists_read h
  obtain ⟨layout', hread', hrows'⟩ := Layout.exists_read h'
  have hkeys : layout.keys = layout'.keys := (Layout.alike_readFrom hsame hrows hrows').keys
  rw [compileText_of_read config hread, compileText_of_read config hread', compile_eq_elim, compile_eq_elim, hkeys]

/-- **Fields without a meaning.** Texts whose cells are the same strings, and objects with the same numbers
under the names that count, give the same matrix or the same error, and on every board the same netlist, the
same nets and the same document. -/
theorem compileText_uninterpreted (h : IsLayoutText text rows) (h' : IsLayoutText text' rows')
    (hsame : List.Forall₂ (List.Forall₂ SameCell) rows rows') (config : MatrixConfig Float) :
    compileText text config = compileText text' config ∧
    ∀ board : Board Float,
      (compileText text config).map board.netlist = (compileText text' config).map board.netlist ∧
      (compileText text config).map (fun m => (board.netlist m).nets) =
        (compileText text' config).map (fun m => (board.netlist m).nets) ∧
      (compileText text config).map (fun m => (board.netlist m).document) =
        (compileText text' config).map (fun m => (board.netlist m).document) := by
  rw [compileText_congr h h' hsame config]
  exact ⟨rfl, fun board => ⟨rfl, rfl, rfl⟩⟩

end

/-- The small text with a width among fields without a meaning, and with a name that is no number. -/
def crowdedText : String :=
  "[[\"A\"], [], [\x7b\"x\": \"1\", \"w2\": 3, \"w\": 2, \"n\": true\x7d, \"a\"]]"

theorem compileText_uninterpreted_crowded : ∃ rows rows', IsLayoutText sampleText rows ∧
    IsLayoutText crowdedText rows' ∧ List.Forall₂ (List.Forall₂ SameCell) rows rows' ∧
    compileText sampleText .standard = compileText crowdedText .standard := by
  have hcrowded : IsLayoutText crowdedText [[.string "A"], [], [.object [("n", .bool true),
      ("w", .number (.integer 2)), ("w2", .number (.integer 3)), ("x", .string "1")], .string "a"]] := by
    refine ⟨rfl, ?_⟩
    simp [IsCell]
  have hsame : List.Forall₂ (List.Forall₂ SameCell)
      [[.string "A"], [], [.object [("w", .number (.integer 2))], .string "a"]]
      [[.string "A"], [], [.object [("n", .bool true), ("w", .number (.integer 2)),
        ("w2", .number (.integer 3)), ("x", .string "1")], .string "a"]] := by
    refine .cons (.cons (.string "A") .nil) (.cons .nil (.cons (.cons (.object ?_) (.cons (.string "a") .nil)) .nil))
    simp [placingNames, numberAt, lookup, number?]
  exact ⟨_, _, isLayoutText_sample, hcrowded, hsame,
    (compileText_uninterpreted isLayoutText_sample hcrowded hsame .standard).1⟩

end ScanMatrix
