import Mathlib
import ScanMatrix.Proofs.Appending

/-!
# The direction of a trace

A trace from a pin to a net joins the same member as the trace from that net to the pin. A trace from one net
to another joins its source to its target, and not the other way round. So the nets tell the direction of the
traces between two nets and of no others (`nets_turned`).
-/

namespace ScanMatrix

namespace Trace

def turned (t : Trace) : Trace := ⟨t.target, t.source⟩

/-- The trace leads from one net to another. -/
def Bridges (t : Trace) : Prop := ∃ a b, a ≠ b ∧ t = ⟨.net a, .net b⟩

theorem membership?_turned {t : Trace} (h : ¬ t.Bridges) : t.turned.membership? = t.membership? := by
  obtain ⟨source, target⟩ := t
  cases source with
  | port component pin => cases target <;> rfl
  | net a =>
    cases target with
    | port component pin => rfl
    | net b =>
      by_cases hab : a = b
      · subst hab; rfl
      · exact absurd ⟨a, b, hab, rfl⟩ h

/-- The same trace, or the trace turned around where it does not lead from net to net. -/
def Alike (t t' : Trace) : Prop := t' = t ∨ ¬ t.Bridges ∧ t' = t.turned

theorem Alike.membership?_eq {t t' : Trace} (h : t.Alike t') : t'.membership? = t.membership? := by
  rcases h with rfl | ⟨ht, rfl⟩
  · rfl
  · exact membership?_turned ht

end Trace

namespace Netlist

variable {α : Type}

/-- Netlists have the same nets if and only if the same members were joined, each as often. -/
theorem nets_eq_iff {n n' : Netlist α} : n.nets = n'.nets ↔ n.memberships.Perm n'.memberships := by
  refine ⟨fun h => List.perm_iff_count.mpr fun m => ?_, nets_congr⟩
  obtain ⟨net, member⟩ := m
  have hmembers : n.members net = n'.members net := by unfold members; rw [h]
  rw [members_eq, members_eq] at hmembers
  rw [← count_membersOf, ← count_membersOf, hmembers]

variable (n : Netlist α)

def withTraces (ts : List Trace) : Netlist α := { n with traces := ts }

theorem nets_withTraces_eq_iff {ts ts' : List Trace} : (n.withTraces ts').nets = (n.withTraces ts).nets ↔
    (ts'.filterMap Trace.membership?).Perm (ts.filterMap Trace.membership?) := by
  rw [nets_eq_iff]
  exact List.perm_append_right_iff _

theorem nets_alike {ts ts' : List Trace} (h : List.Forall₂ Trace.Alike ts ts') :
    (n.withTraces ts').nets = (n.withTraces ts).nets := by
  have hjoined : ts'.filterMap Trace.membership? = ts.filterMap Trace.membership? := by
    induction h with
    | nil => rfl
    | cons ht _ ih => rw [List.filterMap_cons, List.filterMap_cons, ht.membership?_eq, ih]
  exact n.nets_withTraces_eq_iff.mpr (List.Perm.of_eq hjoined)

theorem nets_turned_iff (ts ts' : List Trace) (t : Trace) :
    (n.withTraces (ts ++ t.turned :: ts')).nets = (n.withTraces (ts ++ t :: ts')).nets ↔ ¬ t.Bridges := by
  rw [nets_withTraces_eq_iff, List.filterMap_append, List.filterMap_append, List.perm_append_left_iff]
  constructor
  · rintro h ⟨a, b, hab, rfl⟩
    -- the one joins `b` to `a`, the other `a` to `b`, and the rest is the same
    have hperm : ((a, b) :: ts'.filterMap Trace.membership?).Perm ((b, a) :: ts'.filterMap Trace.membership?) := h
    have hcount := hperm.count_eq (a, b)
    rw [List.count_cons_self, List.count_cons_of_ne (by simp [Ne.symm hab])] at hcount
    omega
  · intro h
    rw [List.filterMap_cons, List.filterMap_cons, Trace.membership?_turned h]

end Netlist

open Netlist in
/-- **Directions.** Whatever netlist it belongs to, a trace may be turned around without a change of the nets
if and only if it does not lead from one net to another. So may any traces at once that do not. -/
theorem nets_turned (n : Netlist α) :
    (∀ ts t ts', (n.withTraces (ts ++ t.turned :: ts')).nets = (n.withTraces (ts ++ t :: ts')).nets ↔ ¬ t.Bridges) ∧
    ∀ ts', List.Forall₂ Trace.Alike n.traces ts' → (n.withTraces ts').nets = n.nets :=
  ⟨fun ts t ts' => n.nets_turned_iff ts ts' t, fun _ h => n.nets_alike h⟩

/-- A trace to a net, a trace between two nets, and a trace between two pins. -/
def sampleTraces : List Trace :=
  [⟨.rowPin "K1", .net "R0"⟩, ⟨.net "R0", .net "C0"⟩, ⟨.rowPin "K1", .columnPin "K2"⟩]

open Netlist in
theorem nets_turned_sample :
    let n : Netlist Rat := empty.withTraces sampleTraces
    let ts : List Trace := [⟨.net "R0", .rowPin "K1"⟩, ⟨.net "R0", .net "C0"⟩, ⟨.columnPin "K2", .rowPin "K1"⟩]
    List.Forall₂ Trace.Alike n.traces ts ∧ (n.withTraces ts).nets = n.nets := by
  intro n ts
  have halike : List.Forall₂ Trace.Alike n.traces ts := by
    refine .cons (.inr ⟨?_, rfl⟩) (.cons (.inl rfl) (.cons (.inr ⟨?_, rfl⟩) .nil))
    · rintro ⟨a, b, _, h⟩; cases h
    · rintro ⟨a, b, _, h⟩; cases h
  exact ⟨halike, (nets_turned n).2 ts halike⟩

open Netlist in
/-- The nets of a trace between two nets are not those of the trace turned around. -/
theorem nets_turned_between :
    ((empty : Netlist Rat).record (.connect (.net "B") (.net "A"))).nets ≠
      ((empty : Netlist Rat).record (.connect (.net "A") (.net "B"))).nets := by
  intro h
  have hnames := congrArg NameMap.names h
  exact absurd hnames (by decide)

end ScanMatrix
