import Mathlib
import ScanMatrix.Proofs.Centering

/-!
# Names on a board

The keys and the diodes of a matrix have names of their own, but the name of the controller is
free. A board has no two records of one name exactly when the name of the controller is not taken
by a key or a diode. Then the controller is found under its name and has its terminals to itself
(`names_netlist`). A controller named like a diode is hidden behind it and shares its terminal
(`names_hidden`).
-/

namespace ScanMatrix

variable {α : Type}

/-! ## Records and their terminals -/

def PlacedKey.terminals (k : PlacedKey α) : List Endpoint := [.rowPin k.name, .columnPin k.name]

def Component.terminals (c : Component α) : List Endpoint := c.connections.names.map (.port c.name)

namespace Netlist

/-- The names of all records, first those of the keys. -/
def names (n : Netlist α) : List String := n.keys.map (·.name) ++ n.components.map (·.name)

def terminals (n : Netlist α) : List Endpoint :=
  n.keys.flatMap PlacedKey.terminals ++ n.components.flatMap Component.terminals

end Netlist

/-! ## The record of a controller -/

def Controller.component (u : Controller α) : Component α where
  name := u.name
  kind := .controller u.part
  placement := ⟨u.position, u.rotation, u.side⟩
  connections := u.connections.mapNamed fun _ net => .net net

theorem Controller.render_eq (u : Controller α) (n : Netlist α) :
    u.render n = { n with components := n.components ++ [u.component] } := by
  unfold render request Netlist.record component
  rw [← NameMap.ofList_map]

section
variable [Scalar α] {board : Board α} {u : Controller α} (hu : board.controller = some u) (m : CompiledMatrix α)
include hu

theorem Board.netlist_eq : board.netlist m =
    { m.render .empty with components := (m.render .empty).components ++ [u.component] } := by
  unfold netlist
  rw [hu]; exact u.render_eq _

theorem Board.names_eq : (board.netlist m).names = (m.render .empty).names ++ [u.name] := by
  rw [board.netlist_eq hu]
  simp [Netlist.names, Controller.component]

end

/-! ## Texts -/

/-- A text that has no blank is read back from the text of a terminal. -/
theorem eq_of_text_port_eq {a b p q : String} (hb : ' ' ∉ b.toList) (hq : ' ' ∉ q.toList)
    (h : (Endpoint.port a p).text = (Endpoint.port b q).text) : a = b ∧ p = q := by
  have hl := congrArg String.toList h
  rw [text_port, text_port, List.cons.injEq] at hl
  have hq' : ' ' ∉ '.' :: q.toList := by simp [hq]
  obtain ⟨hba, -, hqp⟩ := (List.append_cons_inj_of_notMem hb hq').mp hl.2.symm
  rw [List.cons.injEq] at hqp
  exact ⟨(String.toList_inj.mp hba).symm, (String.toList_inj.mp hqp.2).symm⟩

open Designators in
theorem blank_not_mem_of_isDesignator {name : String} (h : IsDesignator name) : ' ' ∉ name.toList := by
  cases h with
  | letter c hc =>
    have hne : ' ' ≠ c := fun e => absurd (e ▸ hc) (by decide)
    simp [hne]
  | digit c hc =>
    have hne : ' ' ≠ c := fun e => absurd (e ▸ hc) (by decide)
    simp [hne]
  | ordinal n =>
    rw [toList_ordinal]
    intro hmem
    cases hmem with
    | tail _ hmem => exact absurd (Nat.isDigit_of_mem_toDigits (b := 10) (by decide) (by decide) hmem) (by decide)

theorem blank_not_mem_diodeName {key : String} (h : ' ' ∉ key.toList) : ' ' ∉ (diodeName key).toList := by
  simp [toList_diodeName, h]

section
variable [Scalar α] {layout : Layout α} {config : MatrixConfig α} {m : CompiledMatrix α}

namespace CompiledMatrix

theorem terminals_diodeTo (m : CompiledMatrix α) (k : Key α) (pin : String) : (m.diodeTo k pin).terminals =
    [.port (diodeName k.name) DiodePart.anode, .port (diodeName k.name) DiodePart.cathode] := by
  unfold Component.terminals diodeTo NameMap.names
  rw [entries_diode]; rfl

/-- A terminal of a matrix is a pin of a named record, and there is no blank in its names. -/
theorem exists_of_mem_terminals (h : layout.compile config = .ok m) {t : Endpoint}
    (ht : t ∈ (m.render .empty).terminals) : ∃ name ∈ (m.render .empty).names, ∃ pin,
      t = .port name pin ∧ ' ' ∉ name.toList ∧ ' ' ∉ pin.toList := by
  rcases List.mem_append.mp ht with ht | ht
  · obtain ⟨p, hp, ht⟩ := List.mem_flatMap.mp ht
    have hname : p.name ∈ (m.render .empty).names := List.mem_append_left _ (List.mem_map_of_mem hp)
    rw [keys_render h] at hp
    obtain ⟨k, hk, rfl⟩ := List.mem_map.mp hp
    have hblank := blank_not_mem_of_isDesignator (isDesignator_compile h hk)
    simp only [PlacedKey.terminals, List.mem_cons, List.not_mem_nil, or_false] at ht
    rcases ht with rfl | rfl
    · exact ⟨k.name, hname, "pin1", rfl, hblank, by decide⟩
    · exact ⟨k.name, hname, "pin2", rfl, hblank, by decide⟩
  · obtain ⟨c, hc, ht⟩ := List.mem_flatMap.mp ht
    have hname : c.name ∈ (m.render .empty).names := List.mem_append_right _ (List.mem_map_of_mem hc)
    obtain ⟨k, hk, pin, rfl⟩ := mem_components_render h hc
    have hblank := blank_not_mem_diodeName (blank_not_mem_of_isDesignator (isDesignator_compile h hk))
    simp only [terminals_diodeTo, List.mem_cons, List.not_mem_nil, or_false] at ht
    rcases ht with rfl | rfl
    · exact ⟨diodeName k.name, hname, DiodePart.anode, rfl, hblank, by decide⟩
    · exact ⟨diodeName k.name, hname, DiodePart.cathode, rfl, hblank, by decide⟩

theorem mem_names_of_text_mem (h : layout.compile config = .ok m) {name pin : String}
    (ht : (Endpoint.port name pin).text ∈ (m.render .empty).terminals.map Endpoint.text) :
    name ∈ (m.render .empty).names := by
  obtain ⟨t, ht, htext⟩ := List.mem_map.mp ht
  obtain ⟨name', hname, pin', rfl, hblank, hblank'⟩ := exists_of_mem_terminals h ht
  obtain ⟨rfl, -⟩ := eq_of_text_port_eq hblank hblank' htext.symm
  exact hname

end CompiledMatrix

/-! ## The whole board -/

variable {board : Board α} {u : Controller α}

theorem nodup_names_netlist (h : layout.compile config = .ok m) (hu : board.controller = some u) :
    (board.netlist m).names.Nodup ↔ u.name ∉ (m.render .empty).names := by
  have hnodup : (m.render .empty).names.Nodup := CompiledMatrix.nodup_names_render h
  rw [Board.names_eq hu, ← List.concat_eq_append, List.nodup_concat]
  exact and_iff_left hnodup

/-- The controller is found under its name unless a diode has that name, for the diodes stand first. -/
theorem component?_netlist (h : layout.compile config = .ok m) (hu : board.controller = some u) :
    (board.netlist m).component? u.name = some u.component ↔
      u.name ∉ (m.render .empty).components.map (·.name) := by
  unfold Netlist.component?
  rw [Board.netlist_eq hu, List.find?_append]
  cases hfound : (m.render .empty).components.find? fun c => c.name == u.name with
  | none =>
    have hfree : u.name ∉ (m.render .empty).components.map (·.name) := by
      simpa [List.find?_eq_none] using hfound
    have hself : [u.component].find? (fun c => c.name == u.name) = some u.component := by
      simp [Controller.component]
    simpa only [Option.none_or, hself, true_iff] using hfree
  | some c =>
    have hc := List.mem_of_find?_eq_some hfound
    have hname : c.name = u.name := by simpa using List.find?_some hfound
    have htaken : u.name ∈ (m.render .empty).components.map (·.name) := hname ▸ List.mem_map_of_mem hc
    obtain ⟨k, -, pin, rfl⟩ := mem_components_render h hc
    have hne : m.diodeTo k pin ≠ u.component := fun e => nomatch congrArg Component.kind e
    simp [htaken, hne]

/-- **Names on a board.** All names are different exactly when the controller does not have the
name of a key or a diode, and then none of its pins has the text of a terminal of the matrix. It is
found under its name exactly when no diode has that name. -/
theorem names_netlist (h : layout.compile config = .ok m) (hu : board.controller = some u) :
    ((board.netlist m).names.Nodup ↔ u.name ∉ (m.render .empty).names) ∧
    (u.name ∉ (m.render .empty).names → ∀ pin,
      (Endpoint.port u.name pin).text ∉ (m.render .empty).terminals.map Endpoint.text) ∧
    ((board.netlist m).component? u.name = some u.component ↔
      u.name ∉ (m.render .empty).components.map (·.name)) :=
  ⟨nodup_names_netlist h hu, fun hfree _ ht => hfree (CompiledMatrix.mem_names_of_text_mem h ht),
    component?_netlist h hu⟩

end

theorem names_netlist_sample : ∃ m u, sampleLayout.compile sampleConfig = .ok m ∧
    sampleBoard.controller = some u ∧ u.name ∉ (m.render .empty).names ∧
    (sampleBoard.netlist m).names.Nodup ∧
    (∀ pin, (Endpoint.port u.name pin).text ∉ (m.render .empty).terminals.map Endpoint.text) ∧
    (sampleBoard.netlist m).component? u.name = some u.component := by
  have hsample : ∃ m, sampleLayout.compile sampleConfig = .ok m ∧
      (m.render .empty).names = ["K_A", "K_N1", "K1", "K_A_DIO", "K_N1_DIO", "K1_DIO"] := ⟨_, rfl, rfl⟩
  obtain ⟨m, hm, hnames⟩ := hsample
  have hu : sampleBoard.controller = some _ := rfl
  have hfree : "U1" ∉ (m.render .empty).names := by rw [hnames]; decide
  obtain ⟨hnodup, hpins, hself⟩ := names_netlist hm hu
  exact ⟨m, _, hm, hu, hfree, hnodup.mpr hfree, hpins hfree,
    hself.mpr fun hdiode => hfree (List.mem_append_right _ hdiode)⟩

/-! ## A controller named like a diode -/

def hiddenLayout : Layout Float := ⟨[[.label "A"]]⟩

/-- The controller has the name that the diode of the only key has. -/
def hiddenBoard : Board Float where
  matrix := { MatrixConfig.standard with rows := .ofNames ["R0"], diodes := true }
  controller := some { Controller.unset with name := "K_A_DIO", connections := .ofList [("C", "R1")] }

theorem names_hidden : ∃ m u, hiddenLayout.compile hiddenBoard.matrix = .ok m ∧ hiddenBoard.controller = some u ∧
    ¬ (hiddenBoard.netlist m).names.Nodup ∧
    (hiddenBoard.netlist m).component? u.name ≠ some u.component ∧
    ∃ t ∈ u.component.terminals, t.text ∈ (m.render .empty).terminals.map Endpoint.text := by
  refine ⟨_, _, rfl, rfl, fun hnodup => ?_, fun hself => ?_, .port "K_A_DIO" "C", ?_, ?_⟩
  · have hnames : ["K_A", "K_A_DIO", "K_A_DIO"].Nodup := hnodup
    exact absurd hnames (by decide)
  · exact nomatch congrArg (Option.map Component.kind) hself
  · exact List.mem_singleton_self _
  · show ".K_A_DIO .C" ∈ [".K_A .pin1", ".K_A .pin2", ".K_A_DIO .A", ".K_A_DIO .C"]
    decide

end ScanMatrix
