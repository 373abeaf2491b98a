import ScanMatrix.NameMap
import ScanMatrix.Matrix.Parts
import ScanMatrix.Matrix.Wiring

/-!
# Netlists

A netlist records what it is asked to render, each kind of request in its own list and in the
order of the requests. The nets are read off the record: which terminals meet under which name.
-/

namespace ScanMatrix

structure Group (α : Type) where
  name : String
  pcbOrigin : Point α
  schOrigin : Point α

structure PlacedKey (α : Type) where
  name : String
  position : Point α
  /-- Degrees. -/
  rotation : α
  width : α
  height : α

/-- A part on the board. Of several connections of one pin the last one counts. -/
structure Component (α : Type) where
  name : String
  kind : PartKind
  placement : Placement α
  connections : NameMap Endpoint

inductive Request (α : Type) where
  | group (name : String) (pcbOrigin schOrigin : Point α)
  | place (key : PlacedKey α)
  | connect (source target : Endpoint)
  | component (kind : PartKind) (name : String) (placement : Placement α)
      (connections : List (String × Endpoint))

structure Netlist (α : Type) where
  groups : List (Group α)
  keys : List (PlacedKey α)
  traces : List Trace
  components : List (Component α)

namespace Netlist

variable {α : Type}

def empty : Netlist α := ⟨[], [], [], []⟩

def record (n : Netlist α) : Request α → Netlist α
  | .group name pcb sch => { n with groups := n.groups ++ [⟨name, pcb, sch⟩] }
  | .place key => { n with keys := n.keys ++ [key] }
  | .connect source target => { n with traces := n.traces ++ [⟨source, target⟩] }
  | .component kind name placement connections =>
    { n with components := n.components ++ [⟨name, kind, placement, .ofList connections⟩] }

def recordAll (n : Netlist α) (requests : List (Request α)) : Netlist α := requests.foldl record n

/-- The first key of a name. -/
def key? (n : Netlist α) (name : String) : Option (PlacedKey α) :=
  n.keys.find? fun k => k.name == name

/-- The first component of a name. -/
def component? (n : Netlist α) (name : String) : Option (Component α) :=
  n.components.find? fun c => c.name == name

end Netlist

/-- A net and the text of one of its members. -/
abbrev Membership := String × String

/-- What a trace adds to a net. A trace between two nets makes its source a member of its target;
a trace between two pins adds nothing. -/
def Trace.membership? (t : Trace) : Option Membership :=
  match t.source, t.target with
  | source, .net net => some (net, source.text)
  | .net net, target => some (net, target.text)
  | _, _ => none

/-- What the pins of a component add to nets. -/
def Component.memberships {α : Type} (c : Component α) : List Membership :=
  c.connections.entries.filterMap fun (pin, endpoint) =>
    match endpoint with
    | .net net => some (net, (Endpoint.port c.name pin).text)
    | .port _ _ => none

namespace Netlist

variable {α : Type}

def memberships (n : Netlist α) : List Membership :=
  n.traces.filterMap Trace.membership? ++ n.components.flatMap Component.memberships

/-- The members of one net, in byte order, each as often as it was joined. -/
def membersOf (net : String) (memberships : List Membership) : List String :=
  ((memberships.filter fun m => m.1 == net).map (·.2)).mergeSort

/-- Every net with its members. -/
def nets (n : Netlist α) : NameMap (List String) :=
  (NameMap.ofList n.memberships).mapNamed fun net _ => membersOf net n.memberships

end Netlist

end ScanMatrix
