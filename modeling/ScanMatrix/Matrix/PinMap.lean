import ScanMatrix.Json.Basic

/-!
# Pin maps

Which pin or net each row or column of the grid is wired to. A slot may be unset, and beyond the
last slot nothing is set. An empty name counts as unset, so no slot holds one.
-/

namespace ScanMatrix

structure PinMap where
  pins : List (Option String)
  named : some "" ∉ pins

namespace PinMap

theorem named_ofList (pins : List (Option String)) :
    some "" ∉ pins.map (Option.filter (· ≠ "")) := by
  simp

def ofList (pins : List (Option String)) : PinMap :=
  ⟨pins.map (Option.filter (· ≠ "")), named_ofList pins⟩

def ofNames (names : List String) : PinMap := ofList (names.map some)

def empty : PinMap := ofList []

def get? (m : PinMap) (index : Nat) : Option String := m.pins[index]?.join

def size (m : PinMap) : Nat := m.pins.length

def isEmpty (m : PinMap) : Bool := m.pins.isEmpty

/-- How many slots name a pin. -/
def assigned (m : PinMap) : Nat := m.pins.countP Option.isSome

def slotOfJson? : Json → Option (Option String)
  | .null => some none
  | .string s => some (some s)
  | _ => none

def ofJson? : Json → Option PinMap
  | .array items => (items.mapM slotOfJson?).map ofList
  | _ => none

def toJson (m : PinMap) : Json :=
  .array (m.pins.map fun pin => match pin with
    | some name => .string name
    | none => .null)

end PinMap

end ScanMatrix
