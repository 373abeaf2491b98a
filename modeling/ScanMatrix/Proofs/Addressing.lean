import Mathlib
import ScanMatrix.Matrix.Compiled
import ScanMatrix.Proofs.Grid
import ScanMatrix.Proofs.Rendering

/-!
# Addresses of keys

A key is addressed by the line of its row and the line of its column. Two keys have the same
address only if a pin map has one pin in two places (`addresses_separate`).
-/

namespace ScanMatrix

/-- The line that a row connection leads to. -/
def RowConnection.line : RowConnection → Endpoint
  | .direct t => t.target
  | .diode d => d.cathode

/-- The lines of the row and the column, if the key is joined to both. -/
def KeyWiring.address? (w : KeyWiring) : Option (Endpoint × Endpoint) :=
  match w.row, w.column with
  | some r, some c => some (r.line, c.target)
  | _, _ => none

/-- The address of the key at a place of the matrix. -/
def CompiledMatrix.address? {α : Type} (m : CompiledMatrix α) (i : Nat) : Option (Endpoint × Endpoint) :=
  (m.keys.zip m.wiring)[i]?.bind fun e => e.2.address?

namespace PinMap

/-- The pin stands at two different indices. -/
def Repeats (m : PinMap) (pin : String) : Prop :=
  ∃ i j, i ≠ j ∧ m.get? i = some pin ∧ m.get? j = some pin

end PinMap

variable {α : Type}

theorem address?_wiring (rows cols : PinMap) (mode : WiringMode) (k : Key α) :
    (k.wiring rows cols mode).address? =
      match rows.get? k.row, cols.get? k.col with
      | some row, some col => some (.net row, .net col)
      | _, _ => none := by
  unfold Key.wiring KeyWiring.address?
  cases rows.get? k.row <;> cases cols.get? k.col <;> cases mode <;> rfl

theorem address?_eq_some {rows cols : PinMap} {mode : WiringMode} {k : Key α} {a : Endpoint × Endpoint}
    (h : (k.wiring rows cols mode).address? = some a) :
    ∃ row col, rows.get? k.row = some row ∧ cols.get? k.col = some col ∧ a = (.net row, .net col) := by
  rw [address?_wiring] at h
  cases hrow : rows.get? k.row with
  | none => simp [hrow] at h
  | some row =>
    cases hcol : cols.get? k.col with
    | none => simp [hrow, hcol] at h
    | some col =>
      simp only [hrow, hcol, Option.some.injEq] at h
      exact ⟨row, col, rfl, rfl, h.symm⟩

section
variable [Scalar α] {layout : Layout α} {config : MatrixConfig α} {m : CompiledMatrix α}

theorem grid_compile_ne (h : layout.compile config = .ok m) {i j : Nat} (hij : i ≠ j) {k k' : Key α}
    (hk : m.keys[i]? = some k) (hk' : m.keys[j]? = some k') : k.row ≠ k'.row ∨ k.col ≠ k'.col := by
  have hnodup : (m.keys.map fun k => (k.row, k.col)).Nodup := by
    rw [map_keys_compile (fun _ _ => rfl) h]; exact layout.grid_keys_nodup
  by_contra hsame
  simp only [not_or, not_not] at hsame
  have hi : (m.keys.map fun k => (k.row, k.col))[i]? = some (k.row, k.col) := by
    rw [List.getElem?_map, hk]; rfl
  have hj : (m.keys.map fun k => (k.row, k.col))[j]? = some (k.row, k.col) := by
    rw [List.getElem?_map, hk', hsame.1, hsame.2]; rfl
  obtain ⟨hlt, _⟩ := List.getElem?_eq_some_iff.mp hi
  exact hij ((List.getElem?_inj hlt hnodup).mp (hi.trans hj.symm))

theorem address?_compile (h : layout.compile config = .ok m) {i : Nat} {a : Endpoint × Endpoint}
    (ha : m.address? i = some a) : ∃ k row col, m.keys[i]? = some k ∧
      config.rows.get? k.row = some row ∧ config.cols.get? k.col = some col ∧ a = (.net row, .net col) := by
  unfold CompiledMatrix.address? at ha
  rw [wiring_compile h, ← List.map_prod_left_eq_zip, List.getElem?_map] at ha
  cases hk : m.keys[i]? with
  | none => simp [hk] at ha
  | some k =>
    rw [hk] at ha
    obtain ⟨row, col, hrow, hcol, heq⟩ := address?_eq_some ha
    exact ⟨k, row, col, rfl, hrow, hcol, heq⟩

theorem repeats_of_address (h : layout.compile config = .ok m) {i j : Nat} (hij : i ≠ j)
    {a : Endpoint × Endpoint} (hi : m.address? i = some a) (hj : m.address? j = some a) :
    ∃ row col, a = (.net row, .net col) ∧ (config.rows.Repeats row ∨ config.cols.Repeats col) := by
  obtain ⟨k, row, col, hk, hrow, hcol, rfl⟩ := address?_compile h hi
  obtain ⟨k', row', col', hk', hrow', hcol', heq⟩ := address?_compile h hj
  cases heq
  refine ⟨row, col, rfl, ?_⟩
  rcases grid_compile_ne h hij hk hk' with hne | hne
  · exact Or.inl ⟨k.row, k'.row, hne, hrow, hrow'⟩
  · exact Or.inr ⟨k.col, k'.col, hne, hcol, hcol'⟩

/-- **Separate addresses.** Two keys have the same address only where one of its pins is repeated;
where no pin is, addresses tell the keys apart. -/
theorem addresses_separate (h : layout.compile config = .ok m) :
    (∀ i j a, i ≠ j → m.address? i = some a → m.address? j = some a →
      ∃ row col, a = (.net row, .net col) ∧ (config.rows.Repeats row ∨ config.cols.Repeats col)) ∧
    ((∀ pin, ¬ config.rows.Repeats pin) → (∀ pin, ¬ config.cols.Repeats pin) →
      ∀ i j a, m.address? i = some a → m.address? j = some a → i = j) := by
  refine ⟨fun i j a hij hi hj => repeats_of_address h hij hi hj, fun hrows hcols i j a hi hj => ?_⟩
  by_contra hij
  obtain ⟨row, col, _, hrep | hrep⟩ := repeats_of_address h hij hi hj
  · exact hrows row hrep
  · exact hcols col hrep

end

theorem addresses_separate_sample : ∃ m, sampleLayout.compile sampleConfig = .ok m ∧
    m.address? 0 = some (.net "R0", .net "C0") ∧ m.address? 2 = some (.net "R0", .net "C0") ∧
    ∃ row col, (Endpoint.net "R0", Endpoint.net "C0") = (.net row, .net col) ∧
      (sampleConfig.rows.Repeats row ∨ sampleConfig.cols.Repeats col) := by
  have hsample : ∃ m, sampleLayout.compile sampleConfig = .ok m ∧
      m.address? 0 = some (.net "R0", .net "C0") ∧ m.address? 2 = some (.net "R0", .net "C0") :=
    ⟨_, rfl, rfl, rfl⟩
  obtain ⟨m, hm, hfirst, hlast⟩ := hsample
  exact ⟨m, hm, hfirst, hlast, (addresses_separate hm).1 0 2 _ (by decide) hfirst hlast⟩

end ScanMatrix
