import ScanMatrix.Key
import ScanMatrix.Layout.Basic

/-!
# The cursor

Where the next key goes, in grid units. Offsets add up, a size holds for one key only, and a
rotation holds until it is changed.
-/

namespace ScanMatrix

structure Cursor (α : Type) where
  x : α
  y : α
  rotation : α
  pivot : Point α
  width : α
  height : α
  row : Nat
  col : Nat

namespace Cursor

variable {α : Type} [Scalar α]

open Scalar

def start : Cursor α where
  x := zero
  y := zero
  rotation := zero
  pivot := .origin
  width := one
  height := one
  row := 0
  col := 0

def apply (c : Cursor α) (m : Modifier α) : Cursor α :=
  { c with
    x := c.x + m.x.getD zero
    y := c.y + m.y.getD zero
    width := m.w.getD c.width
    height := m.h.getD c.height
    rotation := m.r.getD c.rotation
    pivot := ⟨m.rx.getD c.pivot.x, m.ry.getD c.pivot.y⟩ }

/-- The key at the cursor. -/
def key (c : Cursor α) (name label : String) : Key α where
  name := name
  label := label
  center := ⟨(c.x + half c.width) * pitch, -(c.y + half c.height) * pitch⟩
  width := c.width * pitch
  height := c.height * pitch
  rotation := c.rotation
  pivot := ⟨c.pivot.x * pitch, c.pivot.y * pitch⟩
  row := c.row
  col := c.col

/-- Past a key. -/
def advance (c : Cursor α) : Cursor α :=
  { c with x := c.x + c.width, col := c.col + 1, width := one, height := one }

/-- One grid unit down, however high the keys of the row are. -/
def nextRow (c : Cursor α) : Cursor α :=
  { c with x := zero, y := c.y + one, row := c.row + 1, col := 0 }

def step (c : Cursor α) : Cell α → Cursor α
  | .modifier m => c.apply m
  | .label _ => c.advance

def pastRow (c : Cursor α) (row : Row α) : Cursor α := (row.foldl step c).nextRow

end Cursor

end ScanMatrix
