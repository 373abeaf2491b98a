import Mathlib
import ScanMatrix.Proofs.Reordering

/-!
# Rendering one after another

Whatever a netlist holds, a matrix or a controller is added to its end, as it is rendered onto an empty
netlist (`render_eq_append`). So the nets of several of them are put together from the nets that
each of them has alone (`rendering_appends`).
-/

namespace ScanMatrix

variable {α : Type}

namespace Netlist

instance : Append (Netlist α) where
  append n n' :=
    ⟨n.groups ++ n'.groups, n.keys ++ n'.keys, n.traces ++ n'.traces, n.components ++ n'.components⟩

theorem recordAll_eq_append (n : Netlist α) (rs : List (Request α)) : n.recordAll rs = n ++ empty.recordAll rs := by
  rw [recordAll_eq, recordAll_eq rs empty]; rfl

theorem recordAll_recordAll (n : Netlist α) (rs rs' : List (Request α)) :
    (n.recordAll rs).recordAll rs' = n.recordAll (rs ++ rs') := List.foldl_append.symm

/-- The members of a net, of which an absent one has none. -/
def members (n : Netlist α) (net : String) : List String := (n.nets.get? net).getD []

theorem members_eq (n : Netlist α) (net : String) : n.members net = membersOf net n.memberships := by
  unfold members
  rw [get?_nets_eq_filter]
  by_cases h : membersOf net n.memberships = []
  · simp [h, Option.filter_some]
  · simp [h, Option.filter_some]

theorem members_perm (n : Netlist α) (net : String) : (n.members net).Perm (joined net n.memberships) := by
  rw [members_eq]; exact membersOf_perm_joined net _

theorem joined_flatMap {κ : Type} (net : String) (f : κ → List Membership) (ks : List κ) :
    joined net (ks.flatMap f) = ks.flatMap fun k => joined net (f k) := by
  unfold joined
  rw [List.filter_flatMap, List.map_flatMap]

end Netlist

/-! ## Matrices and controllers -/

/-- What is rendered at once. -/
inductive Block (α : Type) where
  | matrix (m : CompiledMatrix α)
  | controller (c : Controller α)

section
variable [Scalar α]

namespace Block

def render (n : Netlist α) : Block α → Netlist α
  | matrix m => m.render n
  | controller c => c.render n

def requests : Block α → List (Request α)
  | matrix m => m.requests
  | controller c => [c.request]

theorem render_eq (n : Netlist α) (b : Block α) : b.render n = n.recordAll b.requests := by
  cases b <;> rfl

theorem render_eq_append (n : Netlist α) (b : Block α) : b.render n = n ++ b.render .empty := by
  rw [render_eq, render_eq, Netlist.recordAll_eq_append]

theorem memberships_alone (b : Block α) :
    (b.render .empty).memberships.Perm (b.requests.flatMap Request.memberships) := by
  rw [render_eq]; exact Netlist.memberships_requested _

end Block

namespace Netlist

def renderAll (n : Netlist α) (bs : List (Block α)) : Netlist α := bs.foldl Block.render n

theorem renderAll_eq (bs : List (Block α)) : ∀ n : Netlist α,
    n.renderAll bs = n.recordAll (bs.flatMap Block.requests) := by
  induction bs with
  | nil => intro n; rfl
  | cons b bs ih =>
    intro n
    show (b.render n).renderAll bs = _
    rw [ih, Block.render_eq, recordAll_recordAll, List.flatMap_cons]

theorem memberships_renderAll (n : Netlist α) (bs : List (Block α)) : (n.renderAll bs).memberships.Perm
    (n.memberships ++ bs.flatMap fun b => (b.render .empty).memberships) := by
  have hblocks : (bs.flatMap fun b => (b.render empty).memberships).Perm
      (bs.flatMap fun b => b.requests.flatMap Request.memberships) :=
    List.Perm.flatMap_left _ fun b _ => b.memberships_alone
  rw [renderAll_eq]
  refine (memberships_recordAll _ n).trans ?_
  rw [List.flatMap_assoc]
  exact hblocks.symm.append_left _

theorem mem_names_renderAll {n : Netlist α} {bs : List (Block α)} {net : String} :
    net ∈ (n.renderAll bs).nets.names ↔
      net ∈ n.nets.names ∨ ∃ b ∈ bs, net ∈ (b.render .empty).nets.names := by
  simp only [mem_names_nets, ((memberships_renderAll n bs).map _).mem_iff, List.map_append, List.mem_append,
    List.map_flatMap, List.mem_flatMap]

theorem members_renderAll (n : Netlist α) (bs : List (Block α)) (net : String) :
    ((n.renderAll bs).members net).Perm
      (n.members net ++ bs.flatMap fun b => (b.render .empty).members net) := by
  have hblocks : (bs.flatMap fun b => (b.render empty).members net).Perm
      (bs.flatMap fun b => joined net (b.render empty).memberships) :=
    List.Perm.flatMap_left _ fun b _ => members_perm _ net
  have hjoined := joined_perm net (memberships_renderAll n bs)
  rw [joined_append, joined_flatMap] at hjoined
  exact (members_perm _ net).trans (hjoined.trans ((members_perm n net).append hblocks).symm)

end Netlist

/-! ## One matrix -/

variable {layout : Layout α} {config : MatrixConfig α} {m : CompiledMatrix α}

/-- The netlist has one group, the keys of the matrix in their order, and for each of them at most one trace
or diode towards its row and at most one trace towards its column. -/
structure Netlist.Lists (n : Netlist α) (m : CompiledMatrix α) (config : MatrixConfig α) : Prop where
  groups : n.groups = [⟨m.name, m.pcbOffset, m.schOffset⟩]
  keys : n.keys = m.keys.map m.placeKey
  traces : n.traces = m.keys.flatMap fun k =>
    k.rowTraces config.rows config.wiringMode ++ (k.columnTrace? config.cols).toList
  components : n.components = m.keys.flatMap (m.diodes config.rows config.wiringMode)
  row : ∀ k ∈ m.keys, (k.rowTraces config.rows config.wiringMode).length +
    (m.diodes config.rows config.wiringMode k).length ≤ 1

theorem length_rowTraces_add_diodes (m : CompiledMatrix α) (rows : PinMap) (mode : WiringMode) (k : Key α) :
    (k.rowTraces rows mode).length + (m.diodes rows mode k).length ≤ 1 := by
  unfold Key.rowTraces CompiledMatrix.diodes Key.rowTrace?
  cases rows.get? k.row with
  | none => cases mode <;> simp
  | some pin => cases mode <;> simp

theorem lists_render (h : layout.compile config = .ok m) : (m.render .empty).Lists m config := by
  rw [CompiledMatrix.render_compile h]
  exact ⟨rfl, rfl, rfl, rfl, fun k _ => length_rowTraces_add_diodes m _ _ k⟩

/-- **Rendering appends.** Onto any netlist, a matrix is rendered behind what is there, as it is onto the empty
one. The nets of any matrices and controllers rendered one after another are those of each of them alone, put
together. -/
theorem rendering_appends (h : layout.compile config = .ok m) (n : Netlist α) (bs : List (Block α)) :
    m.render n = n ++ m.render .empty ∧ (m.render .empty).Lists m config ∧
    ∀ net,
      (net ∈ (n.renderAll bs).nets.names ↔
        net ∈ n.nets.names ∨ ∃ b ∈ bs, net ∈ (b.render .empty).nets.names) ∧
      ((n.renderAll bs).members net).Pairwise (fun a b => utf8 a ≤ utf8 b) ∧
      ((n.renderAll bs).members net).Perm
        (n.members net ++ bs.flatMap fun b => (b.render .empty).members net) := by
  have happend : m.render n = n ++ m.render .empty := Block.render_eq_append n (.matrix m)
  refine ⟨happend, lists_render h, fun net => ⟨Netlist.mem_names_renderAll, ?_, ?_⟩⟩
  · rw [Netlist.members_eq]; exact Netlist.membersOf_sorted net _
  · exact Netlist.members_renderAll n bs net

def sampleController : Controller Rat := { Controller.unset with connections := .ofList [("GP0", "R0")] }

theorem rendering_appends_sample : ∃ m, sampleLayout.compile sampleConfig = .ok m ∧
    m.render (sampleController.render .empty) = sampleController.render .empty ++ m.render .empty ∧
    (m.render .empty).Lists m sampleConfig ∧
    ∀ net, let n := (sampleController.render .empty).renderAll [.matrix m, .matrix m]
      (net ∈ n.nets.names ↔ net ∈ (sampleController.render .empty).nets.names ∨
        ∃ b ∈ [Block.matrix m, .matrix m], net ∈ (b.render .empty).nets.names) ∧
      (n.members net).Pairwise (fun a b => utf8 a ≤ utf8 b) ∧
      (n.members net).Perm ((sampleController.render .empty).members net ++
        [Block.matrix m, .matrix m].flatMap fun b => (b.render .empty).members net) := by
  obtain ⟨m, hm, -⟩ := compile_sample
  exact ⟨m, hm, rendering_appends hm _ _⟩

end

end ScanMatrix
