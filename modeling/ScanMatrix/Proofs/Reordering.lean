import Mathlib
import ScanMatrix.Proofs.Lists
import ScanMatrix.Proofs.Nets

/-!
# Nets and the order of requests

What a request joins does not depend on the requests before it (`memberships_record`). So the nets
are the same in whatever order the requests come, and list each member as often as it was joined
(`nets_reordered`).
-/

namespace ScanMatrix

variable {α : Type}

/-- The membership of an endpoint in another one, if that is a net. -/
def Endpoint.memberOf? (member : Endpoint) : Endpoint → Option Membership
  | .net name => some (name, member.text)
  | .port _ _ => none

namespace Request

/-- What a request joins to nets. A pin of a part is joined where the last of its connections leads. -/
def memberships : Request α → List Membership
  | .group _ _ _ => []
  | .place _ => []
  | .connect source target => (Trace.membership? ⟨source, target⟩).toList
  | .component _ name _ connections =>
    (connections.map (·.1)).dedup.filterMap fun pin =>
      (connections.reverse.lookup pin).bind (Endpoint.port name pin).memberOf?

end Request

namespace NameMap

variable {β γ : Type}

theorem names_ofList_perm (es : List (String × β)) : (ofList es).names.Perm (es.map (·.1)).dedup := by
  refine (List.perm_ext_iff_of_nodup (nodup_names _) (List.nodup_dedup _)).mpr fun n => ?_
  rw [mem_names_ofList, List.mem_dedup]

theorem filterMap_entries (m : NameMap β) (f : String → β → Option γ) :
    (m.entries.filterMap fun e => f e.1 e.2) = m.names.filterMap fun n => (m.get? n).bind (f n) := by
  unfold names
  rw [List.filterMap_map]
  apply List.filterMap_congr; intro e he
  have hget : m.get? e.1 = some e.2 := mem_entries.mp he
  rw [Function.comp_apply, hget, Option.bind_some]

end NameMap

/-! ## One request -/

theorem memberships_component (kind : PartKind) (name : String) (placement : Placement α)
    (connections : List (String × Endpoint)) :
    (Component.memberships ⟨name, kind, placement, .ofList connections⟩).Perm
      (Request.component kind name placement connections).memberships := by
  have hnames := NameMap.names_ofList_perm connections
  have hentries := (NameMap.ofList connections).filterMap_entries fun pin => (Endpoint.port name pin).memberOf?
  simp only [NameMap.get?_ofList] at hentries
  exact (List.Perm.of_eq hentries).trans (hnames.filterMap _)

namespace Netlist

theorem memberships_record (n : Netlist α) (r : Request α) :
    (n.record r).memberships.Perm (n.memberships ++ r.memberships) := by
  cases r with
  | group name pcb sch => simp [record, memberships, Request.memberships]
  | place key => simp [record, memberships, Request.memberships]
  | connect source target =>
    -- the new trace comes before the components
    simp only [record, memberships, Request.memberships, List.filterMap_append, List.append_assoc,
      List.filterMap_eq_flatMap_toList _ [_], List.flatMap_singleton]
    exact List.perm_append_comm.append_left _
  | component kind name placement connections =>
    have h := (memberships_component kind name placement connections).append_left n.memberships
    simpa [record, memberships] using h

/-! ## One after another -/

theorem memberships_recordAll (rs : List (Request α)) : ∀ n : Netlist α,
    (n.recordAll rs).memberships.Perm (n.memberships ++ rs.flatMap Request.memberships) := by
  induction rs with
  | nil => intro n; simp [recordAll]
  | cons r rs ih =>
    intro n
    rw [recordAll_cons, List.flatMap_cons, ← List.append_assoc]
    exact (ih (n.record r)).trans ((memberships_record n r).append_right _)

theorem nets_congr {n n' : Netlist α} (h : n.memberships.Perm n'.memberships) : n.nets = n'.nets := by
  apply NameMap.ext_get?; intro net
  have hmembers : membersOf net n.memberships = membersOf net n'.memberships :=
    List.mergeSort_congr (joined_perm net h)
  rw [get?_nets_eq_filter, get?_nets_eq_filter, hmembers]

theorem count_joined (net member : String) (ms : List Membership) :
    (joined net ms).count member = ms.count (net, member) := by
  unfold joined
  induction ms with
  | nil => rfl
  | cons m ms ih =>
    obtain ⟨n, t⟩ := m
    by_cases hn : n = net
    · simp [hn, List.count_cons, ih]
    · simp [hn, ih]

theorem count_membersOf (net member : String) (ms : List Membership) :
    (membersOf net ms).count member = ms.count (net, member) := by
  rw [(membersOf_perm_joined net ms).count_eq, count_joined]

theorem mem_names_nets {n : Netlist α} {net : String} :
    net ∈ n.nets.names ↔ net ∈ n.memberships.map (·.1) := by
  have hnames : n.nets.names = (NameMap.ofList n.memberships).names := by
    simp [nets, NameMap.names, NameMap.mapNamed]
  rw [hnames, NameMap.mem_names_ofList]

/-! ## From the empty netlist -/

theorem memberships_requested (rs : List (Request α)) :
    (empty.recordAll rs).memberships.Perm (rs.flatMap Request.memberships) := memberships_recordAll rs empty

theorem mem_names_requested {rs : List (Request α)} {net : String} :
    net ∈ (empty.recordAll rs).nets.names ↔ ∃ r ∈ rs, ∃ member, (net, member) ∈ r.memberships := by
  rw [mem_names_nets, ((memberships_requested rs).map _).mem_iff]
  simp only [List.map_flatMap, List.mem_flatMap, List.mem_map, Prod.exists, exists_and_right, exists_eq_right]

theorem get?_requested {rs : List (Request α)} {net : String} {members : List String}
    (h : (empty.recordAll rs).nets.get? net = some members) :
    (members.Pairwise fun a b => utf8 a ≤ utf8 b) ∧
      ∀ member, members.count member = (rs.map fun r => r.memberships.count (net, member)).sum := by
  rw [get?_nets_eq_filter, Option.filter_eq_some_iff, Option.some.injEq] at h
  obtain ⟨rfl, -⟩ := h
  refine ⟨membersOf_sorted _ _, fun member => ?_⟩
  rw [count_membersOf, (memberships_requested rs).count_eq, List.count_flatMap]; rfl

end Netlist

open Netlist in
/-- **Order of requests.** In whatever order they come, requests make the same nets. A net is one that
some request joins a member to, and it lists its members in byte order, each as often as the requests join
it. Groups and keys leave the nets of any netlist as they are. -/
theorem nets_reordered {rs rs' : List (Request α)} (h : rs.Perm rs') :
    (empty.recordAll rs).nets = (empty.recordAll rs').nets ∧
    (∀ net, net ∈ (empty.recordAll rs).nets.names ↔ ∃ r ∈ rs, ∃ member, (net, member) ∈ r.memberships) ∧
    (∀ net members, (empty.recordAll rs).nets.get? net = some members →
      (members.Pairwise fun a b => utf8 a ≤ utf8 b) ∧
        ∀ member, members.count member = (rs.map fun r => r.memberships.count (net, member)).sum) ∧
    (∀ (n : Netlist α) name pcb sch, (n.record (.group name pcb sch)).nets = n.nets) ∧
    (∀ (n : Netlist α) key, (n.record (.place key)).nets = n.nets) := by
  have hjoined : (rs.flatMap Request.memberships).Perm (rs'.flatMap Request.memberships) := h.flatMap_right _
  refine ⟨nets_congr ?_, fun _ => mem_names_requested, fun _ _ hget => get?_requested hget,
    fun _ _ _ _ => rfl, fun _ _ => rfl⟩
  exact (memberships_requested rs).trans (hjoined.trans (memberships_requested rs').symm)

/-- A key joined twice to its row, and a part with two connections of one pin. -/
def sampleRequests : List (Request Rat) := [
  .group "KB" .origin .origin,
  .connect (.rowPin "K1") (.net "R0"),
  .component (.controller "PICO") "U1" ⟨.origin, 0, .top⟩ [("GP0", .net "C0"), ("GP0", .net "R0")],
  .connect (.net "R0") (.rowPin "K1")]

open Netlist in
theorem nets_reordered_sample : sampleRequests.Perm sampleRequests.reverse ∧
    (empty.recordAll sampleRequests).nets = (empty.recordAll sampleRequests.reverse).nets ∧
    (empty.recordAll sampleRequests).nets.names = ["R0"] ∧
    ∀ members, (empty.recordAll sampleRequests).nets.get? "R0" = some members →
      (members.Pairwise fun a b => utf8 a ≤ utf8 b) ∧
        members.count ".K1 .pin1" = 2 ∧ members.count ".U1 .GP0" = 1 := by
  have hperm : sampleRequests.Perm sampleRequests.reverse := (List.reverse_perm _).symm
  obtain ⟨hnets, -, hmembers, -⟩ := nets_reordered hperm
  refine ⟨hperm, hnets, by decide, fun members hget => ?_⟩
  obtain ⟨hsorted, hcount⟩ := hmembers "R0" members hget
  exact ⟨hsorted, (hcount _).trans (by decide), (hcount _).trans (by decide)⟩

end ScanMatrix
