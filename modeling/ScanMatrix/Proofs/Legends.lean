import Mathlib
import ScanMatrix.Matrix.Board
import ScanMatrix.Proofs.Alike
import ScanMatrix.Proofs.Lists
import ScanMatrix.Proofs.Rendering

/-!
# Only the legend of a label counts

A label enters a matrix twice: as it is, into the key, and by its legend, into the name of the key. So two
layouts whose labels have the same legends give matrices that differ in nothing but the labels of the keys,
and what is rendered from them is the same (`compile_legends`).
-/

namespace ScanMatrix

/-! ## Legends -/

/-- The text after the last line break. -/
def finalLine (text : String) : List Char := text.toList.rtakeWhile (· ≠ '\n')

/-- The final lines are the same letter up to case, or the same digit, or neither is a letter or a digit
alone. -/
inductive SameLegend (a b : String) : Prop where
  | letter (c d : Char) (ha : finalLine a = [c]) (hb : finalLine b = [d]) (hc : c.isAlpha) (hd : d.isAlpha)
      (h : c.toUpper = d.toUpper)
  | digit (c : Char) (ha : finalLine a = [c]) (hb : finalLine b = [c]) (hc : c.isDigit)
  | other (ha : ∀ c, finalLine a = [c] → ¬ c.isAlphanum) (hb : ∀ c, finalLine b = [c] → ¬ c.isAlphanum)

namespace Designators

theorem lastLine_eq_rtakeWhile (s : List Char) : lastLine s = s.rtakeWhile (· ≠ '\n') := by
  induction s with
  | nil => rfl
  | cons c s ih =>
    rw [lastLine]
    by_cases h : '\n' ∈ c :: s
    · rw [if_pos (by simpa using h), ih, List.rtakeWhile_cons_of_exists ⟨'\n', h, by simp⟩]
    · rw [if_neg (by simpa using h), eq_comm, List.rtakeWhile_eq_self_iff]
      intro d hd
      simpa using fun e : d = '\n' => h (e ▸ hd)

theorem lastLine_toList (text : String) : lastLine text.toList = finalLine text := lastLine_eq_rtakeWhile _

theorem ofLegend?_letter {text : String} {c : Char} (h : finalLine text = [c]) (hc : c.isAlpha) :
    ofLegend? text = some ("K_" ++ c.toUpper.toString) := by
  unfold ofLegend?
  rw [lastLine_toList, h]
  simp [hc]

theorem ofLegend?_other {text : String} (h : ∀ c, finalLine text = [c] → ¬ c.isAlphanum) : ofLegend? text = none := by
  unfold ofLegend?
  rw [lastLine_toList]
  split
  · rename_i c hc
    have hno := h c hc
    simp only [Char.isAlphanum, Bool.or_eq_true, not_or] at hno
    simp [hno.1, hno.2]
  · rfl

theorem ofLegend?_congr {a b : String} (h : SameLegend a b) : ofLegend? a = ofLegend? b := by
  cases h with
  | letter c d ha hb hc hd h => rw [ofLegend?_letter ha hc, ofLegend?_letter hb hd, h]
  | digit c ha hb _ => unfold ofLegend?; rw [lastLine_toList, lastLine_toList, ha, hb]
  | other ha hb => rw [ofLegend?_other ha, ofLegend?_other hb]

theorem assignAll_congr {labels labels' : List String} (h : List.Forall₂ SameLegend labels labels') :
    ∀ d : Designators, d.assignAll labels = d.assignAll labels' := by
  induction h with
  | nil => intro d; rfl
  | @cons a b _ _ hlegend _ ih =>
    intro d
    have hassign : d.assign a = d.assign b := by
      unfold assign
      rw [ofLegend?_congr hlegend]
    simp only [assignAll, hassign, ih]

end Designators

/-! ## Matrices without their labels -/

variable {α : Type}

def Key.unlabelled (k : Key α) : Key α := { k with label := "" }

def CompiledMatrix.unlabelled (m : CompiledMatrix α) : CompiledMatrix α :=
  { m with keys := m.keys.map Key.unlabelled }

theorem wiring_map_unlabelled (keys : List (Key α)) (rows cols : PinMap) (mode : WiringMode) :
    wiring (keys.map Key.unlabelled) rows cols mode = wiring keys rows cols mode := by
  unfold wiring
  rw [List.map_map]; rfl

theorem map_eq_of_unlabelled {β : Type} {f : CompiledMatrix α → β} (hf : ∀ m, f m.unlabelled = f m)
    {r r' : Except LayoutError (CompiledMatrix α)}
    (h : r.map CompiledMatrix.unlabelled = r'.map CompiledMatrix.unlabelled) : r.map f = r'.map f := by
  have hmap : ∀ r : Except LayoutError (CompiledMatrix α), (r.map CompiledMatrix.unlabelled).map f = r.map f := by
    intro r
    cases r with
    | error e => rfl
    | ok m => exact congrArg Except.ok (hf m)
  rw [← hmap r, h, hmap r']

theorem MatrixConfig.unlabelled_matrix (config : MatrixConfig α) (keys : List (Key α)) :
    (config.matrix keys).unlabelled = config.matrix (keys.map Key.unlabelled) := by
  unfold matrix CompiledMatrix.unlabelled
  rw [wiring_map_unlabelled]

section
variable [Scalar α]

theorem of?_map_unlabelled (keys : List (Key α)) : Bounds.of? (keys.map Key.unlabelled) = Bounds.of? keys := by
  cases keys with
  | nil => rfl
  | cons k keys => simp only [List.map_cons, Bounds.of?, List.foldl_map]; rfl

theorem centered?_map_unlabelled (keys : List (Key α)) :
    centered? (keys.map Key.unlabelled) = (centered? keys).map (List.map Key.unlabelled) := by
  unfold centered?
  rw [of?_map_unlabelled, Option.map_map]
  congr 1; funext b
  simp only [Function.comp_apply, List.map_map]; rfl

/-- What a matrix is without its labels follows from what the keys of the layout are without theirs. -/
theorem map_unlabelled_compile (l : Layout α) (config : MatrixConfig α) :
    (l.compile config).map CompiledMatrix.unlabelled =
      (centered? (l.keys.map Key.unlabelled)).elim (.error .empty) fun keys => .ok (config.matrix keys) := by
  rw [compile_eq_elim, centered?_map_unlabelled]
  cases centered? l.keys with
  | none => rfl
  | some keys => exact congrArg Except.ok (config.unlabelled_matrix keys)

/-! ## What is rendered -/

theorem requests_unlabelled (m : CompiledMatrix α) : m.unlabelled.requests = m.requests := by
  unfold CompiledMatrix.requests CompiledMatrix.unlabelled
  rw [List.zip_map_left, List.flatMap_map]; rfl

theorem render_unlabelled (m : CompiledMatrix α) (n : Netlist α) : m.unlabelled.render n = m.render n := by
  unfold CompiledMatrix.render
  rw [requests_unlabelled]

theorem netlist_unlabelled (board : Board α) (m : CompiledMatrix α) : board.netlist m.unlabelled = board.netlist m := by
  unfold Board.netlist
  rw [render_unlabelled]

/-! ## Layouts with the same legends -/

theorem Layout.Alike.keys_unlabelled {l l' : Layout α} (h : l.Alike SameLegend l') :
    l.keys.map Key.unlabelled = l'.keys.map Key.unlabelled := by
  have hnames : l.names = l'.names := congrArg Prod.fst (Designators.assignAll_congr h.labels .empty)
  have hkeys : ∀ l : Layout α, l.keys.map Key.unlabelled =
      List.zipWith (fun c name => c.key name "") (l.slots.map (·.1)) l.names := by
    intro l
    unfold Layout.keys
    rw [List.map_zipWith, List.zipWith_map_left]; rfl
  rw [hkeys, hkeys, h.cursors, hnames]

/-- **Only legends count.** Of two layouts that are alike up to labels with the same legends, either both
compile or both fail in the same way; the matrices are the same but for the labels of their keys, and
everything rendered from them is the same. -/
theorem compile_legends {l l' : Layout α} (h : l.Alike SameLegend l') (config : MatrixConfig α) :
    (l.compile config).map CompiledMatrix.unlabelled = (l'.compile config).map CompiledMatrix.unlabelled ∧
    (∀ n : Netlist α, (l.compile config).map (·.render n) = (l'.compile config).map (·.render n)) ∧
    ∀ board : Board α, (l.compile config).map board.netlist = (l'.compile config).map board.netlist := by
  have hmatrix : (l.compile config).map CompiledMatrix.unlabelled =
      (l'.compile config).map CompiledMatrix.unlabelled := by
    rw [map_unlabelled_compile, h.keys_unlabelled, map_unlabelled_compile]
  exact ⟨hmatrix, fun n => map_eq_of_unlabelled (fun m => render_unlabelled m n) hmatrix,
    fun board => map_eq_of_unlabelled (netlist_unlabelled board) hmatrix⟩

end

/-- A letter, a word and a digit. -/
def plainLayout : Layout Rat := ⟨[[.label "A", .label "Esc"], [.modifier { x := some 1 }, .label "1"]]⟩

/-- The same letter, no text and the same digit, below other texts. -/
def linedLayout : Layout Rat := ⟨[[.label "Q\na", .label ""], [.modifier { x := some 1 }, .label "!\n1"]]⟩

theorem alike_lined : plainLayout.Alike SameLegend linedLayout := by
  have hletter : SameLegend "A" "Q\na" := .letter 'A' 'a' rfl rfl rfl rfl rfl
  have hother : SameLegend "Esc" "" := by
    have hword : finalLine "Esc" = ['E', 's', 'c'] := rfl
    have hnone : finalLine "" = [] := rfl
    exact .other (by simp [hword]) (by simp [hnone])
  have hdigit : SameLegend "1" "!\n1" := .digit '1' rfl rfl rfl
  exact .cons (.cons (.label hletter) (.cons (.label hother) .nil))
    (.cons (.cons (.modifier ⟨rfl, rfl, rfl, rfl, rfl, rfl, rfl⟩) (.cons (.label hdigit) .nil)) .nil)

theorem compile_legends_lined : plainLayout.Alike SameLegend linedLayout ∧
    (plainLayout.compile sampleConfig).map CompiledMatrix.unlabelled =
      (linedLayout.compile sampleConfig).map CompiledMatrix.unlabelled ∧
    (∀ n : Netlist Rat, (plainLayout.compile sampleConfig).map (·.render n) =
      (linedLayout.compile sampleConfig).map (·.render n)) ∧
    ∀ board : Board Rat, (plainLayout.compile sampleConfig).map board.netlist =
      (linedLayout.compile sampleConfig).map board.netlist :=
  ⟨alike_lined, compile_legends alike_lined sampleConfig⟩

end ScanMatrix
