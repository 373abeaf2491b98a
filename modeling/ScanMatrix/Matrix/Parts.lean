import ScanMatrix.Scalar

/-!
# Parts

What stands on the board besides the keys: the diodes of the matrix and a controller.
-/

namespace ScanMatrix

inductive Side where
  | top
  | bottom
  deriving DecidableEq

/-- Catalogue data of a diode. The pads tell which pin of the footprint is which terminal. -/
structure DiodePart where
  partNumber : String
  supplierPart : String
  footprint : String
  cathodePad : String
  anodePad : String
  deriving DecidableEq

namespace DiodePart

def cathode : String := "C"

def anode : String := "A"

/-- The switching diode put at every key. -/
def standard : DiodePart where
  partNumber := "A_1N4148WS"
  supplierPart := "C57759"
  footprint := "SOD-323"
  cathodePad := "pin1"
  anodePad := "pin2"

end DiodePart

inductive PartKind where
  | diode (part : DiodePart)
  | controller (part : String)
  deriving DecidableEq

/-- Where a part stands. The rotation is in degrees. -/
structure Placement (α : Type) where
  position : Point α
  rotation : α
  side : Side

end ScanMatrix
