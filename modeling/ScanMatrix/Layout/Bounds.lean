import ScanMatrix.Key

/-!
# Bounds

The least box around some keys, and the keys moved so that its centre is the origin. No keys have
no bounds.
-/

namespace ScanMatrix

structure Bounds (α : Type) where
  minX : α
  maxX : α
  minY : α
  maxY : α

namespace Bounds

variable {α : Type} [Scalar α]

open Scalar

def ofKey (k : Key α) : Bounds α := ⟨k.left, k.right, k.bottom, k.top⟩

def join (a b : Bounds α) : Bounds α :=
  ⟨lesser a.minX b.minX, greater a.maxX b.maxX, lesser a.minY b.minY, greater a.maxY b.maxY⟩

def of? : List (Key α) → Option (Bounds α)
  | [] => none
  | k :: keys => some (keys.foldl (fun b k => b.join (ofKey k)) (ofKey k))

def width (b : Bounds α) : α := b.maxX - b.minX

def height (b : Bounds α) : α := b.maxY - b.minY

def center (b : Bounds α) : Point α := ⟨half (b.minX + b.maxX), half (b.minY + b.maxY)⟩

end Bounds

/-- The keys with the centre of their bounds at the origin. -/
def centered? {α : Type} [Scalar α] (keys : List (Key α)) : Option (List (Key α)) :=
  (Bounds.of? keys).map fun b => keys.map (·.shiftedBack b.center)

end ScanMatrix
