import Mathlib
import ScanMatrix.Matrix.Board
import ScanMatrix.Proofs.Grid
import ScanMatrix.Proofs.NameMap

/-!
# What is rendered

A netlist takes each request into the list of its kind and leaves the rest as it is
(`recordAll_eq`). So a compiled matrix adds its keys and, key by key, the traces and diodes that
its pin maps ask for.
-/

namespace ScanMatrix

variable {α : Type}

/-! ## Requests by kind -/

namespace Request

def group? : Request α → Option (Group α)
  | .group name pcb sch => some ⟨name, pcb, sch⟩
  | _ => none

def placed? : Request α → Option (PlacedKey α)
  | .place key => some key
  | _ => none

def trace? : Request α → Option Trace
  | .connect source target => some ⟨source, target⟩
  | _ => none

def component? : Request α → Option (Component α)
  | .component kind name placement connections => some ⟨name, kind, placement, .ofList connections⟩
  | _ => none

end Request

namespace Netlist

theorem recordAll_cons (n : Netlist α) (r : Request α) (rs : List (Request α)) :
    n.recordAll (r :: rs) = (n.record r).recordAll rs := rfl

theorem recordAll_eq (rs : List (Request α)) : ∀ n : Netlist α, n.recordAll rs =
    ⟨n.groups ++ rs.filterMap Request.group?, n.keys ++ rs.filterMap Request.placed?,
      n.traces ++ rs.filterMap Request.trace?, n.components ++ rs.filterMap Request.component?⟩ := by
  induction rs with
  | nil => intro n; simp [recordAll]
  | cons r rs ih =>
    intro n
    rw [recordAll_cons, ih]
    cases r <;> simp [record, List.filterMap_cons, Request.group?, Request.placed?, Request.trace?,
      Request.component?]

end Netlist

/-! ## Compiled matrices -/

@[simp] theorem MatrixConfig.keys_matrix (config : MatrixConfig α) (keys : List (Key α)) :
    (config.matrix keys).keys = keys := rfl

section
variable [Scalar α] {layout : Layout α} {config : MatrixConfig α} {m : CompiledMatrix α}

theorem of?_eq_none {keys : List (Key α)} : Bounds.of? keys = none ↔ keys = [] := by
  cases keys <;> simp [Bounds.of?]

theorem centered?_eq_none {keys : List (Key α)} : centered? keys = none ↔ keys = [] := by
  unfold centered?
  rw [Option.map_eq_none_iff, of?_eq_none]

theorem compile_eq_elim (layout : Layout α) (config : MatrixConfig α) : layout.compile config =
    (centered? layout.keys).elim (.error .empty) fun keys => .ok (config.matrix keys) := by
  unfold Layout.compile
  cases centered? layout.keys <;> rfl

theorem compile_eq_error {e : LayoutError} :
    layout.compile config = .error e ↔ e = .empty ∧ layout.keys = [] := by
  rw [compile_eq_elim, ← centered?_eq_none]
  cases centered? layout.keys <;> simp [eq_comm]

/-- A matrix is compiled from the keys of the layout, all shifted by the centre of their bounds, and
from nothing else but its configuration. -/
theorem compile_eq_ok : layout.compile config = .ok m ↔
    ∃ b, Bounds.of? layout.keys = some b ∧ m = config.matrix (layout.keys.map (·.shiftedBack b.center)) := by
  rw [compile_eq_elim]
  unfold centered?
  cases Bounds.of? layout.keys <;> simp [eq_comm]

theorem exists_compile (config : MatrixConfig α) (h : layout.labels ≠ []) :
    ∃ m, layout.compile config = .ok m := by
  cases hcompile : layout.compile config with
  | error e => exact absurd (layout.keys_eq_nil.mp (compile_eq_error.mp hcompile).2) h
  | ok m => exact ⟨m, rfl⟩

theorem map_keys_compile {β : Type} {f : Key α → β} (hf : ∀ k d, f (k.shiftedBack d) = f k)
    (h : layout.compile config = .ok m) : m.keys.map f = layout.keys.map f := by
  obtain ⟨b, _, rfl⟩ := compile_eq_ok.mp h
  rw [config.keys_matrix, List.map_map]
  exact List.map_congr_left fun k _ => hf k b.center

theorem filterMap_keys_compile {β : Type} {f : Key α → Option β} (hf : ∀ k d, f (k.shiftedBack d) = f k)
    (h : layout.compile config = .ok m) : m.keys.filterMap f = layout.keys.filterMap f := by
  obtain ⟨b, _, rfl⟩ := compile_eq_ok.mp h
  rw [config.keys_matrix, List.filterMap_map]
  exact List.filterMap_congr fun k _ => hf k b.center

theorem wiring_compile (h : layout.compile config = .ok m) :
    m.wiring = m.keys.map (Key.wiring config.rows config.cols config.wiringMode) := by
  obtain ⟨b, _, rfl⟩ := compile_eq_ok.mp h; rfl

theorem map_name_compile (h : layout.compile config = .ok m) : m.keys.map (·.name) = layout.names := by
  rw [map_keys_compile (fun _ _ => rfl) h, layout.map_name_keys]

theorem isDesignator_compile (h : layout.compile config = .ok m) {k : Key α} (hk : k ∈ m.keys) :
    Designators.IsDesignator k.name := by
  obtain ⟨b, _, rfl⟩ := compile_eq_ok.mp h
  obtain ⟨k', hk', rfl⟩ := List.mem_map.mp (config.keys_matrix _ ▸ hk)
  have hname := layout.isDesignator_of_mem_keys hk'
  exact hname

end

/-! ## Rendered keys -/

namespace Key

def rowTrace? (rows : PinMap) (k : Key α) : Option Trace :=
  (rows.get? k.row).map fun pin => ⟨.rowPin k.name, .net pin⟩

def columnTrace? (cols : PinMap) (k : Key α) : Option Trace :=
  (cols.get? k.col).map fun pin => ⟨.columnPin k.name, .net pin⟩

def rowTraces (rows : PinMap) (mode : WiringMode) (k : Key α) : List Trace :=
  match mode with
  | .direct => (k.rowTrace? rows).toList
  | .diodePerKey => []

end Key

namespace CompiledMatrix

variable [Scalar α]

/-- The diode of a key, on its way to a pin. -/
def diodeTo (m : CompiledMatrix α) (k : Key α) (pin : String) : Component α where
  name := diodeName k.name
  kind := .diode .standard
  placement := ⟨(m.keyPosition k).offset m.diode.offset, Scalar.zero, m.diode.side⟩
  connections := .ofList [(DiodePart.anode, .rowPin k.name), (DiodePart.cathode, .net pin)]

def diodes (m : CompiledMatrix α) (rows : PinMap) (mode : WiringMode) (k : Key α) : List (Component α) :=
  match mode with
  | .direct => []
  | .diodePerKey => ((rows.get? k.row).map (m.diodeTo k)).toList

section
variable (m : CompiledMatrix α) (rows cols : PinMap) (mode : WiringMode) (k : Key α)

theorem filterMap_group?_keyRequests :
    (m.keyRequests k (k.wiring rows cols mode)).filterMap Request.group? = [] := by
  unfold keyRequests Key.wiring
  cases rows.get? k.row <;> cases cols.get? k.col <;> cases mode <;> rfl

theorem filterMap_placed?_keyRequests :
    (m.keyRequests k (k.wiring rows cols mode)).filterMap Request.placed? = [m.placeKey k] := by
  unfold keyRequests Key.wiring
  cases rows.get? k.row <;> cases cols.get? k.col <;> cases mode <;> rfl

theorem filterMap_trace?_keyRequests :
    (m.keyRequests k (k.wiring rows cols mode)).filterMap Request.trace? =
      k.rowTraces rows mode ++ (k.columnTrace? cols).toList := by
  unfold keyRequests Key.wiring Key.rowTraces Key.rowTrace? Key.columnTrace?
  cases rows.get? k.row <;> cases cols.get? k.col <;> cases mode <;> rfl

theorem filterMap_component?_keyRequests :
    (m.keyRequests k (k.wiring rows cols mode)).filterMap Request.component? = m.diodes rows mode k := by
  unfold keyRequests Key.wiring diodes
  cases rows.get? k.row <;> cases cols.get? k.col <;> cases mode <;> rfl

end

variable {layout : Layout α} {config : MatrixConfig α} {m : CompiledMatrix α}

theorem requests_compile (h : layout.compile config = .ok m) : m.requests =
    .group m.name m.pcbOffset m.schOffset ::
      m.keys.flatMap fun k => m.keyRequests k (k.wiring config.rows config.cols config.wiringMode) := by
  unfold requests
  rw [wiring_compile h, ← List.map_prod_left_eq_zip, List.flatMap_map]

theorem render_compile (h : layout.compile config = .ok m) (n : Netlist α) : m.render n =
    ⟨n.groups ++ [⟨m.name, m.pcbOffset, m.schOffset⟩],
      n.keys ++ m.keys.map m.placeKey,
      n.traces ++ m.keys.flatMap fun k =>
        k.rowTraces config.rows config.wiringMode ++ (k.columnTrace? config.cols).toList,
      n.components ++ m.keys.flatMap (m.diodes config.rows config.wiringMode)⟩ := by
  unfold render
  rw [Netlist.recordAll_eq, requests_compile h]
  simp only [List.filterMap_cons, Request.group?, Request.placed?, Request.trace?, Request.component?,
    List.filterMap_flatMap, filterMap_group?_keyRequests, filterMap_placed?_keyRequests,
    filterMap_trace?_keyRequests, filterMap_component?_keyRequests]
  simp [List.map_eq_flatMap]

theorem keys_render (h : layout.compile config = .ok m) : (m.render .empty).keys = m.keys.map m.placeKey := by
  rw [render_compile h]; rfl

theorem components_render (h : layout.compile config = .ok m) : (m.render .empty).components =
    if config.diodes then m.keys.filterMap fun k => (config.rows.get? k.row).map (m.diodeTo k) else [] := by
  rw [render_compile h]
  unfold MatrixConfig.wiringMode
  cases config.diodes with
  | false => simp [Netlist.empty, diodes]
  | true =>
    simp only [Netlist.empty, List.nil_append, if_true]
    rw [List.filterMap_eq_flatMap_toList]; rfl

end CompiledMatrix

/-! ## A small board -/

/-- Three keys in two rows, whose first and last stand in one column. -/
def sampleLayout : Layout Rat := ⟨[[.label "A", .label "1"], [.modifier { x := some 1 }, .label "a"]]⟩

/-- Both rows lead to one net, and the second column has no pin. -/
def sampleConfig : MatrixConfig Rat :=
  { MatrixConfig.unset ⟨.origin, .bottom⟩ with
    rows := .ofNames ["R0", "R0"]
    cols := .ofNames ["C0", ""]
    diodes := true }

def sampleBoard : Board Rat :=
  ⟨sampleConfig, some { Controller.unset with connections := .ofList [("GP0", "R0")] }⟩

theorem compile_sample : ∃ m, sampleLayout.compile sampleConfig = .ok m ∧
    m.keys.map (·.name) = ["K_A", "K_N1", "K1"] := ⟨_, rfl, rfl⟩

end ScanMatrix
