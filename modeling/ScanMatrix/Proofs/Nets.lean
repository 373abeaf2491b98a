import Mathlib
import ScanMatrix.Matrix.Board
import ScanMatrix.Proofs.ByteOrder
import ScanMatrix.Proofs.Lists
import ScanMatrix.Proofs.NameMap
import ScanMatrix.Proofs.Rendering
import ScanMatrix.Proofs.Terminal

/-!
# Membership in nets

A net lists what was joined to it, each member as often as it was joined, in byte order
(`get?_nets`). On a board these are the terminals of the keys whose row or column is wired to the
net and the pins of the controller that lead to it (`nets_netlist`).
-/

namespace ScanMatrix

variable {α : Type}

namespace Netlist

/-! ## One net -/

/-- The members of one net, in the order in which they were joined. -/
def joined (net : String) (ms : List Membership) : List String := (ms.filter fun m => m.1 == net).map (·.2)

theorem joined_append (net : String) (ms ms' : List Membership) :
    joined net (ms ++ ms') = joined net ms ++ joined net ms' := by
  unfold joined
  rw [List.filter_append, List.map_append]

theorem joined_perm (net : String) {ms ms' : List Membership} (h : ms.Perm ms') :
    (joined net ms).Perm (joined net ms') := (h.filter _).map _

theorem joined_eq_nil {net : String} {ms : List Membership} : joined net ms = [] ↔ net ∉ ms.map (·.1) := by
  unfold joined
  rw [List.map_eq_nil_iff, List.filter_eq_nil_iff]
  simp only [beq_iff_eq, List.mem_map, not_exists, not_and]

theorem joined_filter_ne {net net' : String} (h : net' ≠ net) (ms : List Membership) :
    joined net' (ms.filter fun m => !(m.1 == net)) = joined net' ms := by
  unfold joined
  rw [List.filter_filter]
  congr 1
  apply List.filter_congr; intro m _
  by_cases hm : m.1 = net'
  · simp [hm, h]
  · simp [hm]

theorem membersOf_perm_joined (net : String) (ms : List Membership) :
    (membersOf net ms).Perm (joined net ms) := List.mergeSort_perm _ _

theorem membersOf_pairwise (net : String) (ms : List Membership) : (membersOf net ms).Pairwise (· ≤ ·) :=
  List.pairwise_mergeSort' (· ≤ ·) (joined net ms)

theorem membersOf_sorted (net : String) (ms : List Membership) :
    (membersOf net ms).Pairwise fun a b => utf8 a ≤ utf8 b :=
  (membersOf_pairwise net ms).imp fun hle => utf8_le_utf8.mpr hle

theorem get?_nets (n : Netlist α) (net : String) :
    n.nets.get? net = if joined net n.memberships = [] then none else some (membersOf net n.memberships) := by
  unfold nets
  rw [NameMap.get?_mapNamed]
  by_cases h : joined net n.memberships = []
  · rw [if_pos h]
    have hnone : ¬ ((NameMap.ofList n.memberships).get? net).isSome := by
      rw [← NameMap.mem_names, NameMap.mem_names_ofList]
      exact joined_eq_nil.mp h
    simpa using hnone
  · rw [if_neg h]
    have hsome : ((NameMap.ofList n.memberships).get? net).isSome := by
      rw [← NameMap.mem_names, NameMap.mem_names_ofList]
      exact not_not.mp fun hm => h (joined_eq_nil.mpr hm)
    obtain ⟨v, hv⟩ := Option.isSome_iff_exists.mp hsome
    rw [hv]; rfl

theorem get?_nets_eq_filter (n : Netlist α) (net : String) :
    n.nets.get? net = (some (membersOf net n.memberships)).filter (· ≠ []) := by
  have hperm := membersOf_perm_joined net n.memberships
  rw [get?_nets]
  by_cases h : joined net n.memberships = []
  · have hnone : membersOf net n.memberships = [] := (h ▸ hperm).eq_nil
    simp [h, hnone, Option.filter_some]
  · have hsome : membersOf net n.memberships ≠ [] := fun h' => h (h' ▸ hperm).nil_eq.symm
    simp [h, hsome, Option.filter_some]

/-! ## All nets -/

theorem flatMap_joined_perm {names : List String} (hnames : names.Nodup) : ∀ {ms : List Membership},
    (∀ m ∈ ms, m.1 ∈ names) → (names.flatMap fun net => joined net ms).Perm (ms.map (·.2)) := by
  induction names with
  | nil =>
    intro ms hms
    cases ms with
    | nil => exact List.Perm.refl _
    | cons m ms => cases hms m (List.mem_cons_self ..)
  | cons net names ih =>
    intro ms hms
    obtain ⟨hnet, hrest⟩ := List.nodup_cons.mp hnames
    -- what is not on the first net is all that the other nets see
    have hothers : (names.flatMap fun n => joined n ms) =
        names.flatMap fun n => joined n (ms.filter fun m => !(m.1 == net)) := by
      apply List.flatMap_congr; intro n hn
      have hne : n ≠ net := fun e => hnet (e ▸ hn)
      rw [joined_filter_ne hne]
    have hcovered : ∀ m ∈ ms.filter (fun m => !(m.1 == net)), m.1 ∈ names := by
      intro m hm
      obtain ⟨hm, hmne⟩ := List.mem_filter.mp hm
      cases hms m hm with
      | head => simp at hmne
      | tail _ h => exact h
    rw [List.flatMap_cons, hothers]
    refine ((ih hrest hcovered).append_left _).trans ?_
    unfold joined
    rw [← List.map_append]
    exact (List.filter_append_perm _ ms).map _

/-- Nothing that was joined is lost or listed twice. -/
theorem flatMap_nets_perm (n : Netlist α) :
    (n.nets.entries.flatMap (·.2)).Perm (n.memberships.map (·.2)) := by
  have hentries : n.nets.entries.flatMap (·.2) =
      (NameMap.ofList n.memberships).names.flatMap fun net => membersOf net n.memberships := by
    unfold nets NameMap.mapNamed NameMap.names
    rw [List.flatMap_map, List.flatMap_map]
  rw [hentries]
  refine (List.Perm.flatMap_left _ fun net _ => membersOf_perm_joined net _).trans ?_
  refine flatMap_joined_perm (NameMap.nodup_names _) fun m hm => ?_
  exact NameMap.mem_names_ofList.mpr (List.mem_map_of_mem hm)

end Netlist

/-! ## What a matrix joins -/

namespace Key

def rowMembership? (rows : PinMap) (mode : WiringMode) (k : Key α) : Option Membership :=
  (rows.get? k.row).map fun pin => (pin, (mode.rowTerminal k.name).text)

def columnMembership? (cols : PinMap) (k : Key α) : Option Membership :=
  (cols.get? k.col).map fun pin => (pin, (Endpoint.columnPin k.name).text)

theorem filterMap_columnTrace? (cols : PinMap) (k : Key α) :
    (k.columnTrace? cols).toList.filterMap Trace.membership? = (k.columnMembership? cols).toList := by
  unfold columnTrace? columnMembership?
  cases cols.get? k.col <;> rfl

theorem filterMap_rowTraces (rows : PinMap) (k : Key α) :
    (k.rowTraces rows .direct).filterMap Trace.membership? = (k.rowMembership? rows .direct).toList := by
  unfold rowTraces rowTrace? rowMembership?
  cases rows.get? k.row <;> rfl

end Key

theorem entries_diode (a c : Endpoint) :
    (NameMap.ofList [(DiodePart.anode, a), (DiodePart.cathode, c)]).entries =
      [(DiodePart.anode, a), (DiodePart.cathode, c)] := by
  have hlt : ¬ DiodePart.cathode < DiodePart.anode := by decide
  have hne : ¬ DiodePart.cathode = DiodePart.anode := by decide
  show NameMap.insertInto DiodePart.cathode c [(DiodePart.anode, a)] = _
  rw [NameMap.insertInto, if_neg hlt, if_neg hne]; rfl

section
variable [Scalar α] (m : CompiledMatrix α) (rows : PinMap) (k : Key α)

theorem memberships_diodeTo (pin : String) :
    (m.diodeTo k pin).memberships = [(pin, (WiringMode.diodePerKey.rowTerminal k.name).text)] := by
  unfold Component.memberships CompiledMatrix.diodeTo
  rw [entries_diode]; rfl

theorem memberships_diodes : (m.diodes rows .diodePerKey k).flatMap Component.memberships =
    (k.rowMembership? rows .diodePerKey).toList := by
  unfold CompiledMatrix.diodes Key.rowMembership?
  cases rows.get? k.row with
  | none => rfl
  | some pin =>
    simp only [Option.map_some, Option.toList_some, List.flatMap_singleton]
    exact memberships_diodeTo m k pin

end

section
variable [Scalar α] {layout : Layout α} {config : MatrixConfig α} {m : CompiledMatrix α}

theorem memberships_render (h : layout.compile config = .ok m) : (m.render .empty).memberships.Perm
    (layout.keys.filterMap (·.columnMembership? config.cols) ++
      layout.keys.filterMap (·.rowMembership? config.rows config.wiringMode)) := by
  rw [← filterMap_keys_compile (fun _ _ => rfl) h, ← filterMap_keys_compile (fun _ _ => rfl) h,
    CompiledMatrix.render_compile h, List.filterMap_eq_flatMap_toList, List.filterMap_eq_flatMap_toList]
  simp only [Netlist.memberships, Netlist.empty, List.nil_append, List.filterMap_flatMap,
    List.filterMap_append, Key.filterMap_columnTrace?]
  cases config.wiringMode with
  | direct =>
    have hnone : m.keys.flatMap (m.diodes config.rows .direct) = [] := by simp [CompiledMatrix.diodes]
    simp only [Key.filterMap_rowTraces, hnone, List.flatMap_nil, List.append_nil]
    exact (List.flatMap_append_perm ..).symm.trans List.perm_append_comm
  | diodePerKey =>
    simp only [Key.rowTraces, List.filterMap_nil, List.nil_append, List.flatMap_assoc, memberships_diodes]
    exact List.Perm.refl _

end

/-! ## What a controller joins -/

namespace Controller

def memberships (c : Controller α) : List Membership :=
  c.connections.entries.map fun e => (e.2, (Endpoint.port c.name e.1).text)

theorem memberships_render (c : Controller α) (n : Netlist α) :
    (c.render n).memberships = n.memberships ++ c.memberships := by
  unfold render request Netlist.record Netlist.memberships Component.memberships
  simp only [List.flatMap_append, List.flatMap_singleton, NameMap.entries_ofList_map, List.filterMap_map,
    ← List.append_assoc]
  congr 1
  unfold memberships
  rw [← List.filterMap_eq_map]; rfl

end Controller

theorem Board.memberships_netlist [Scalar α] (b : Board α) (m : CompiledMatrix α) :
    (b.netlist m).memberships =
      (m.render .empty).memberships ++ b.controller.toList.flatMap Controller.memberships := by
  unfold netlist
  cases b.controller with
  | none => simp
  | some c => simp [Controller.memberships_render]

/-! ## The nets of a board -/

/-- The terminals on a net: of each key whose column or row has the pin of that name, and of the
controller where it leads to that net. -/
def terminals (keys : List (Key α)) (config : MatrixConfig α) (controller : Option (Controller α))
    (net : String) : List String :=
  (keys.filter fun k => config.cols.get? k.col = some net).map (fun k => "." ++ k.name ++ " .pin2") ++
  (keys.filter fun k => config.rows.get? k.row = some net).map (fun k =>
    if config.diodes then "." ++ k.name ++ "_DIO .C" else "." ++ k.name ++ " .pin1") ++
  controller.toList.flatMap fun u =>
    (u.connections.entries.filter fun e => e.2 = net).map fun e => "." ++ u.name ++ " ." ++ e.1

theorem text_rowTerminal (config : MatrixConfig α) (key : String) :
    (config.wiringMode.rowTerminal key).text =
      if config.diodes then "." ++ key ++ "_DIO .C" else "." ++ key ++ " .pin1" := by
  unfold MatrixConfig.wiringMode
  cases config.diodes with
  | false => exact text_rowPin key
  | true => exact text_cathode key

open Netlist in
theorem joined_filterMap {κ : Type} (net : String) (pin? : κ → Option String) (text : κ → String) (ks : List κ) :
    joined net (ks.filterMap fun k => (pin? k).map fun pin => (pin, text k)) =
      (ks.filter fun k => pin? k = some net).map text := by
  induction ks with
  | nil => rfl
  | cons k ks ih =>
    unfold joined at *
    rw [List.filterMap_cons, List.filter_cons]
    cases hp : pin? k with
    | none => simp [ih]
    | some pin =>
      by_cases hn : pin = net
      · simp [hn, ih]
      · simp [hn, ih]

open Netlist in
theorem joined_memberships (c : Controller α) (net : String) : joined net c.memberships =
    (c.connections.entries.filter fun e => e.2 = net).map fun e => "." ++ c.name ++ " ." ++ e.1 := by
  have h := joined_filterMap net (fun e : String × String => some e.2)
    (fun e => (Endpoint.port c.name e.1).text) c.connections.entries
  simp only [Option.map_some, List.filterMap_eq_map', Option.some.injEq] at h
  exact h

section
variable [Scalar α] {layout : Layout α} {config : MatrixConfig α} {m : CompiledMatrix α}

theorem joined_netlist (h : layout.compile config = .ok m) (board : Board α) (net : String) :
    (Netlist.joined net (board.netlist m).memberships).Perm
      (terminals layout.keys config board.controller net) := by
  have hrow := joined_filterMap net (fun k : Key α => config.rows.get? k.row)
    (fun k => (config.wiringMode.rowTerminal k.name).text) layout.keys
  have hcol := joined_filterMap net (fun k : Key α => config.cols.get? k.col)
    (fun k => (Endpoint.columnPin k.name).text) layout.keys
  have hboard : Netlist.joined net (board.controller.toList.flatMap Controller.memberships) =
      board.controller.toList.flatMap fun u =>
        (u.connections.entries.filter fun e => e.2 = net).map fun e => "." ++ u.name ++ " ." ++ e.1 := by
    cases board.controller with
    | none => rfl
    | some u => simpa using joined_memberships u net
  simp only [text_rowTerminal, text_columnPin] at hrow hcol
  rw [Board.memberships_netlist, Netlist.joined_append, hboard]
  unfold terminals
  refine List.Perm.append_right _ ((Netlist.joined_perm net (memberships_render h)).trans ?_)
  rw [Netlist.joined_append, ← hrow, ← hcol]
  simp only [← text_rowTerminal, ← text_columnPin]
  exact List.Perm.refl _

/-- **Net membership.** A layout with a label compiles, and the nets of its board are exactly the
ones that have a terminal, each with its terminals in byte order. -/
theorem nets_netlist (layout : Layout α) (config : MatrixConfig α) (board : Board α)
    (hlabel : layout.labels ≠ []) : ∃ m, layout.compile config = .ok m ∧ ∀ net,
      (net ∈ (board.netlist m).nets.names ↔ terminals layout.keys config board.controller net ≠ []) ∧
      (terminals layout.keys config board.controller net ≠ [] →
        ∃ members, (board.netlist m).nets.get? net = some members ∧
          members.Perm (terminals layout.keys config board.controller net) ∧
          members.Pairwise fun a b => utf8 a ≤ utf8 b) := by
  obtain ⟨m, hm⟩ := exists_compile config hlabel
  refine ⟨m, hm, fun net => ?_⟩
  have hjoined := joined_netlist hm board net
  have hne : terminals layout.keys config board.controller net ≠ [] ↔
      Netlist.joined net (board.netlist m).memberships ≠ [] := by
    rw [← List.length_pos_iff, ← List.length_pos_iff, hjoined.length_eq]
  rw [NameMap.mem_names, Netlist.get?_nets, hne]
  by_cases h : Netlist.joined net (board.netlist m).memberships = []
  · simp [h]
  · rw [if_neg h]
    refine ⟨by simp [h], fun _ => ⟨_, rfl, (Netlist.membersOf_perm_joined _ _).trans hjoined, ?_⟩⟩
    exact (Netlist.membersOf_pairwise _ _).imp fun hle => utf8_le_utf8.mpr hle

theorem nets_netlist_sample : sampleLayout.labels ≠ [] ∧ ∃ m, sampleLayout.compile sampleConfig = .ok m ∧
    ∃ members, (sampleBoard.netlist m).nets.get? "R0" = some members ∧
      members.Perm [".K_A_DIO .C", ".K_N1_DIO .C", ".K1_DIO .C", ".U1 .GP0"] ∧
      members.Pairwise fun a b => utf8 a ≤ utf8 b := by
  have hlabel : sampleLayout.labels ≠ [] := by decide
  have hterminals : terminals sampleLayout.keys sampleConfig sampleBoard.controller "R0" =
      [".K_A_DIO .C", ".K_N1_DIO .C", ".K1_DIO .C", ".U1 .GP0"] := by rfl
  obtain ⟨m, hm, hnets⟩ := nets_netlist sampleLayout sampleConfig sampleBoard hlabel
  have hR0 := (hnets "R0").2
  rw [hterminals] at hR0
  exact ⟨hlabel, m, hm, hR0 (by simp)⟩

end

end ScanMatrix
