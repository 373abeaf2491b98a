import Mathlib
import ScanMatrix.Proofs.Lists
import ScanMatrix.Proofs.Nets
import ScanMatrix.Proofs.Rendering

/-!
# Matrices with and without diodes

A matrix with diodes is the one without them, with a diode between each key and the line of its
row: where the one has a trace from the key to that line, the other has a diode
(`diodes_refine_direct`).
-/

namespace ScanMatrix

/-! ## What is compared -/

namespace Trace

/-- The trace starts at a pin of that name. -/
def startsAt (pin : String) (t : Trace) : Bool :=
  match t.source with
  | .port _ p => p == pin
  | .net _ => false

end Trace

/-- The component is the diode that takes the place of a trace between a key and a net. -/
def Component.Replaces {α : Type} (c : Component α) (t : Trace) : Prop :=
  ∃ key net, t = ⟨.port key "pin1", .net net⟩ ∧ c.name = diodeName key ∧ c.kind = .diode .standard ∧
    c.connections.entries = [("A", .port key "pin1"), ("C", .net net)]

/-- The pin of the key in place of the cathode of its diode. -/
def behindDiode (keys : List String) (member : String) : String :=
  match keys.find? fun key => member == "." ++ key ++ "_DIO .C" with
  | some key => "." ++ key ++ " .pin1"
  | none => member

theorem behindDiode_cathode {keys : List String} {key : String} (h : key ∈ keys) :
    behindDiode keys (WiringMode.diodePerKey.rowTerminal key).text = (Endpoint.rowPin key).text := by
  unfold behindDiode
  rw [text_rowPin]
  cases hfind : keys.find? fun k => (WiringMode.diodePerKey.rowTerminal key).text == "." ++ k ++ "_DIO .C" with
  | none =>
    have hne := List.find?_eq_none.mp hfind key h
    simp [text_cathode] at hne
  | some k =>
    have heq := List.find?_some hfind
    rw [← text_cathode, beq_iff_eq] at heq
    rw [WiringMode.rowTerminal_injective heq]

theorem behindDiode_columnPin (keys : List String) (key : String) :
    behindDiode keys (Endpoint.columnPin key).text = (Endpoint.columnPin key).text := by
  unfold behindDiode
  cases hfind : keys.find? fun k => (Endpoint.columnPin key).text == "." ++ k ++ "_DIO .C" with
  | none => rfl
  | some k =>
    have heq := List.find?_some hfind
    rw [← text_cathode, beq_iff_eq] at heq
    exact absurd heq.symm (WiringMode.diodePerKey.rowTerminal_ne_columnPin _ _)

namespace Netlist

/-! ## Members replaced -/

theorem joined_map (f : String → String) (net : String) (ms : List Membership) :
    joined net (ms.map fun m => (m.1, f m.2)) = (joined net ms).map f := by
  unfold joined
  rw [List.filter_map, List.map_map, List.map_map]; rfl

variable {α : Type}

/-- Nets whose memberships differ by a replacement of members differ by it. -/
theorem nets_replace {n n' : Netlist α} (f : String → String)
    (h : (n.memberships.map fun m => (m.1, f m.2)).Perm n'.memberships) :
    (n.nets.mapNamed fun _ members => (members.map f).mergeSort) = n'.nets := by
  apply NameMap.ext_get?; intro net
  have hjoined := joined_perm net h
  rw [joined_map] at hjoined
  rw [NameMap.get?_mapNamed, get?_nets, get?_nets]
  by_cases hnil : joined net n.memberships = []
  · rw [hnil] at hjoined
    simp [hnil, hjoined.nil_eq.symm]
  · have hnil' : joined net n'.memberships ≠ [] := by
      intro h'
      rw [h'] at hjoined
      exact hnil (List.map_eq_nil_iff.mp hjoined.eq_nil)
    rw [if_neg hnil, if_neg hnil', Option.map_some]
    congr 1
    exact List.mergeSort_congr (((membersOf_perm_joined net _).map f).trans hjoined)

end Netlist

/-! ## Traces by the pin they start at -/

section
variable {α : Type}

theorem filter_startsAt_rowTrace? (rows : PinMap) (k : Key α) :
    (k.rowTrace? rows).toList.filter (Trace.startsAt "pin2") = [] ∧
      (k.rowTrace? rows).toList.filter (Trace.startsAt "pin1") = (k.rowTrace? rows).toList := by
  unfold Key.rowTrace?
  cases rows.get? k.row <;> exact ⟨rfl, rfl⟩

theorem filter_startsAt_columnTrace? (cols : PinMap) (k : Key α) :
    (k.columnTrace? cols).toList.filter (Trace.startsAt "pin2") = (k.columnTrace? cols).toList ∧
      (k.columnTrace? cols).toList.filter (Trace.startsAt "pin1") = [] := by
  unfold Key.columnTrace?
  cases cols.get? k.col <;> exact ⟨rfl, rfl⟩

theorem filter_traces_direct {rows cols : PinMap} {p : Trace → Bool} {f g : Key α → List Trace}
    (hrow : ∀ k, (k.rowTrace? rows).toList.filter p = f k)
    (hcolumn : ∀ k, (k.columnTrace? cols).toList.filter p = g k) (ks : List (Key α)) :
    (ks.flatMap fun k => k.rowTraces rows .direct ++ (k.columnTrace? cols).toList).filter p =
      ks.flatMap fun k => f k ++ g k := by
  rw [List.filter_flatMap]
  refine congrArg ks.flatMap (funext fun k => ?_)
  rw [List.filter_append, hcolumn, ← hrow]; rfl

end

section
variable {α : Type} [Scalar α] {layout : Layout α} {config : MatrixConfig α} {m : CompiledMatrix α}

/-! ## The two matrices -/

/-- Whether there are diodes decides about the wiring only. -/
theorem compile_diodes (h : layout.compile config = .ok m) (on : Bool) :
    layout.compile { config with diodes := on } = .ok { m with
      wiring := wiring m.keys config.rows config.cols (if on then .diodePerKey else .direct) } := by
  obtain ⟨b, hb, rfl⟩ := compile_eq_ok.mp h
  exact compile_eq_ok.mpr ⟨b, hb, rfl⟩

theorem replaces_diodeTo (m : CompiledMatrix α) (k : Key α) (pin : String) :
    (m.diodeTo k pin).Replaces ⟨.rowPin k.name, .net pin⟩ :=
  ⟨k.name, pin, rfl, rfl, rfl, entries_diode _ _⟩

theorem forall₂_replaces (m : CompiledMatrix α) (rows : PinMap) (ks : List (Key α)) :
    List.Forall₂ Component.Replaces (ks.filterMap fun k => (rows.get? k.row).map (m.diodeTo k))
      (ks.flatMap fun k => (k.rowTrace? rows).toList) := by
  induction ks with
  | nil => exact .nil
  | cons k ks ih =>
    rw [List.filterMap_cons, List.flatMap_cons]
    unfold Key.rowTrace? at *
    cases rows.get? k.row with
    | none => exact ih
    | some pin => exact .cons (replaces_diodeTo m k pin) ih

theorem memberships_behindDiode {md mp : CompiledMatrix α}
    (hd : layout.compile { config with diodes := true } = .ok md)
    (hp : layout.compile { config with diodes := false } = .ok mp) :
    ((md.render .empty).memberships.map fun e => (e.1, behindDiode layout.names e.2)).Perm
      (mp.render .empty).memberships := by
  refine ((memberships_render hd).map _).trans (List.Perm.trans ?_ (memberships_render hp).symm)
  rw [List.map_append, List.map_filterMap, List.map_filterMap]
  refine List.Perm.of_eq (congrArg₂ _ (List.filterMap_congr fun k _ => ?_) (List.filterMap_congr fun k hk => ?_))
  · show ((config.cols.get? k.col).map _).map _ = (config.cols.get? k.col).map _
    rw [Option.map_map]
    congr 1; funext pin
    exact congrArg _ (behindDiode_columnPin _ _)
  · show ((config.rows.get? k.row).map _).map _ = (config.rows.get? k.row).map _
    rw [Option.map_map]
    congr 1; funext pin
    have hname : k.name ∈ layout.names := by
      rw [← layout.map_name_keys]; exact List.mem_map_of_mem hk
    exact congrArg _ (behindDiode_cathode hname)

/-! ## Rendered without a controller -/

theorem traces_diodes (hd : layout.compile { config with diodes := true } = .ok m) :
    (m.render .empty).traces = m.keys.flatMap fun k => (k.columnTrace? config.cols).toList := by
  rw [CompiledMatrix.render_compile hd]; rfl

theorem column_traces_diodes (hd : layout.compile { config with diodes := true } = .ok m) :
    m.wiring.filterMap (·.column) = (m.render .empty).traces := by
  rw [traces_diodes hd, wiring_compile hd, List.filterMap_map, List.filterMap_eq_flatMap_toList]; rfl

theorem traces_direct (hp : layout.compile { config with diodes := false } = .ok m) :
    (m.render .empty).traces =
      m.keys.flatMap fun k => k.rowTraces config.rows .direct ++ (k.columnTrace? config.cols).toList := by
  rw [CompiledMatrix.render_compile hp]; rfl

/-- **Diodes refine direct wiring.** With diodes, the keys and the traces from their columns are those of
the matrix without, each trace from a row gives way to a diode between the same two ends, and the nets are
the same as soon as each cathode is read as the pin of its key. -/
theorem diodes_refine_direct (h : layout.compile config = .ok m) :
    ∃ md mp, layout.compile { config with diodes := true } = .ok md ∧
      layout.compile { config with diodes := false } = .ok mp ∧
      (md.render .empty).keys = (mp.render .empty).keys ∧
      md.wiring.filterMap (·.column) = (md.render .empty).traces ∧
      (md.render .empty).traces = (mp.render .empty).traces.filter (Trace.startsAt "pin2") ∧
      List.Forall₂ Component.Replaces (md.render .empty).components
        ((mp.render .empty).traces.filter (Trace.startsAt "pin1")) ∧
      ((md.render .empty).nets.mapNamed fun _ members => (members.map (behindDiode layout.names)).mergeSort) =
        (mp.render .empty).nets := by
  have hd := compile_diodes h true
  have hp := compile_diodes h false
  refine ⟨_, _, hd, hp, ?_, column_traces_diodes hd, ?_, ?_, ?_⟩
  · rw [CompiledMatrix.keys_render hd, CompiledMatrix.keys_render hp]; rfl
  · rw [traces_diodes hd, traces_direct hp]
    exact (filter_traces_direct (fun k => (filter_startsAt_rowTrace? _ k).1)
      (fun k => (filter_startsAt_columnTrace? _ k).1) _).symm
  · have hrows := filter_traces_direct (fun k => (filter_startsAt_rowTrace? config.rows k).2)
      (fun k => (filter_startsAt_columnTrace? config.cols k).2) m.keys
    simp only [List.append_nil] at hrows
    rw [CompiledMatrix.components_render hd, traces_direct hp, hrows]
    exact forall₂_replaces _ _ _
  · exact Netlist.nets_replace _ (memberships_behindDiode hd hp)

end

theorem diodes_refine_direct_sample : ∃ m, sampleLayout.compile sampleConfig = .ok m ∧
    ∃ md mp, sampleLayout.compile { sampleConfig with diodes := true } = .ok md ∧
      sampleLayout.compile { sampleConfig with diodes := false } = .ok mp ∧
      (md.render .empty).keys = (mp.render .empty).keys ∧
      md.wiring.filterMap (·.column) = (md.render .empty).traces ∧
      (md.render .empty).traces = (mp.render .empty).traces.filter (Trace.startsAt "pin2") ∧
      List.Forall₂ Component.Replaces (md.render .empty).components
        ((mp.render .empty).traces.filter (Trace.startsAt "pin1")) ∧
      ((md.render .empty).nets.mapNamed fun _ members =>
        (members.map (behindDiode sampleLayout.names)).mergeSort) = (mp.render .empty).nets := by
  obtain ⟨m, hm, _⟩ := compile_sample
  exact ⟨m, hm, diodes_refine_direct hm⟩

end ScanMatrix
