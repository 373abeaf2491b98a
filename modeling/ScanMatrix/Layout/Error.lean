import ScanMatrix.Json.Fault

/-!
# Why a layout is refused
-/

namespace ScanMatrix

inductive LayoutError where
  | json (error : Json.Error)
  | empty

namespace LayoutError

def message : LayoutError → String
  | .json e => "Invalid layout JSON: " ++ e.message
  | .empty => "Cannot compute bounds of an empty layout"

end LayoutError

end ScanMatrix
