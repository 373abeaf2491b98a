/-!
# Coordinates

The arithmetic that the geometry of a layout needs. The same definitions run on doubles, where
every operation rounds, and on exact rationals, where laws of position and shape can be stated.
-/

namespace ScanMatrix

class Scalar (α : Type) extends Add α, Sub α, Mul α, Neg α where
  zero : α
  one : α
  half : α → α
  /-- Millimetres per grid unit, the standard keycap pitch of three quarters of an inch. -/
  pitch : α
  /-- The lesser of two numbers; of a number and none, the number. Of two that are equal, such as
  zeros of either sign, the second. -/
  lesser : α → α → α
  /-- The greater of two numbers; of a number and none, the number. Of two that are equal, the
  second. -/
  greater : α → α → α

namespace Scalar

instance : Scalar Float where
  zero := 0.0
  one := 1.0
  half x := x / 2.0
  pitch := 19.05
  lesser a b := if a < b ∨ b.isNaN then a else b
  greater a b := if b < a ∨ b.isNaN then a else b

instance : Scalar Rat where
  zero := 0
  one := 1
  half x := x / 2
  pitch := 1905 / 100
  lesser a b := if a < b then a else b
  greater a b := if b < a then a else b

end Scalar

/-- A point of the plane, in millimetres. The y axis grows upward. -/
structure Point (α : Type) where
  x : α
  y : α

namespace Point

variable {α : Type} [Scalar α]

def origin : Point α := ⟨Scalar.zero, Scalar.zero⟩

def offset (p d : Point α) : Point α := ⟨p.x + d.x, p.y + d.y⟩

end Point

end ScanMatrix
