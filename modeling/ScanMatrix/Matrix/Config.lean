import ScanMatrix.Matrix.Parts
import ScanMatrix.Matrix.Wiring

/-!
# Configuration of a matrix
-/

namespace ScanMatrix

/-- Where the diode of a key stands, seen from the centre of the key. -/
structure DiodeConfig (α : Type) where
  offset : Point α
  side : Side

structure MatrixConfig (α : Type) where
  name : String
  rows : PinMap
  cols : PinMap
  /-- Whether a diode stands between every key and the line of its row. -/
  diodes : Bool
  pcbOffset : Point α
  schOffset : Point α
  diode : DiodeConfig α

namespace MatrixConfig

variable {α : Type}

def wiringMode (c : MatrixConfig α) : WiringMode := if c.diodes then .diodePerKey else .direct

/-- The configuration in which nothing is set, given where diodes stand. -/
def unset [Scalar α] (diode : DiodeConfig α) : MatrixConfig α where
  name := "KB"
  rows := .empty
  cols := .empty
  diodes := false
  pcbOffset := .origin
  schOffset := .origin
  diode := diode

end MatrixConfig

namespace DiodeConfig

/-- Half a millimetre right of the centre and 13.5 below it, on the bottom. -/
def standard : DiodeConfig Float := ⟨⟨0.5, -13.5⟩, .bottom⟩

end DiodeConfig

namespace MatrixConfig

def standard : MatrixConfig Float := unset .standard

end MatrixConfig

end ScanMatrix
