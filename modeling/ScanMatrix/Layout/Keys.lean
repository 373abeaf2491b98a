import ScanMatrix.Designator
import ScanMatrix.Layout.Cursor

/-!
# The keys of a layout

Each label is one key. Its place comes from the cells before it, its name from the labels before
it; the two do not depend on each other.
-/

namespace ScanMatrix

variable {α : Type} [Scalar α]

/-- The labels of a row, each with the cursor at it. -/
def Row.slots (c : Cursor α) : Row α → List (Cursor α × String)
  | [] => []
  | .modifier m :: cells => slots (c.apply m) cells
  | .label text :: cells => (c, text) :: slots c.advance cells

namespace Layout

/-- The cursor at the start of each row. -/
def rowStarts (c : Cursor α) : List (Row α) → List (Cursor α)
  | [] => []
  | row :: rows => c :: rowStarts (c.pastRow row) rows

def slotsFrom (c : Cursor α) : List (Row α) → List (Cursor α × String)
  | [] => []
  | row :: rows => Row.slots c row ++ slotsFrom (c.pastRow row) rows

def slots (layout : Layout α) : List (Cursor α × String) := slotsFrom .start layout.rows

def names (layout : Layout α) : List String := (Designators.empty.assignAll layout.labels).1

/-- One key per label, in reading order. -/
def keys (layout : Layout α) : List (Key α) :=
  List.zipWith (fun slot name => slot.1.key name slot.2) layout.slots layout.names

/-- How many keys are named by an ordinal. -/
def ordinalCount (layout : Layout α) : Nat :=
  (Designators.empty.assignAll layout.labels).2.ordinalsUsed

end Layout

end ScanMatrix
