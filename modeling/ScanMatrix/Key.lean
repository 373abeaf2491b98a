import ScanMatrix.Scalar

/-!
# Keys on the board

A key has its place in millimetres, its y axis growing upward, and its place in the grid of rows
and columns that the matrix is wired by.
-/

namespace ScanMatrix

structure Key (α : Type) where
  name : String
  label : String
  center : Point α
  width : α
  height : α
  /-- Degrees. -/
  rotation : α
  pivot : Point α
  row : Nat
  col : Nat

namespace Key

variable {α : Type} [Scalar α]

def left (k : Key α) : α := k.center.x - Scalar.half k.width

def right (k : Key α) : α := k.center.x + Scalar.half k.width

def bottom (k : Key α) : α := k.center.y - Scalar.half k.height

def top (k : Key α) : α := k.center.y + Scalar.half k.height

def shiftedBack (k : Key α) (d : Point α) : Key α :=
  { k with center := ⟨k.center.x - d.x, k.center.y - d.y⟩ }

end Key

end ScanMatrix
