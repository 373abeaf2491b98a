import ScanMatrix.NameMap

/-!
# JSON values

An integer is kept exact, every other number is a double. An object is the list of its members
in the order in which they are written. The objects that are read have each name once, in byte
order, with the last value given to it.
-/

namespace ScanMatrix

namespace Json

inductive Number where
  | integer (value : Int)
  | decimal (value : Float)

namespace Number

def toFloat : Number → Float
  | .integer n => Float.ofInt n
  | .decimal x => x

end Number

end Json

inductive Json where
  | null
  | bool (value : Bool)
  | number (value : Json.Number)
  | string (value : String)
  | array (items : List Json)
  | object (members : List (String × Json))

namespace Json

def number? : Json → Option Float
  | .number n => some n.toFloat
  | _ => none

def bool? : Json → Option Bool
  | .bool b => some b
  | _ => none

def string? : Json → Option String
  | .string s => some s
  | _ => none

def float (x : Float) : Json := .number (.decimal x)

def nat (n : Nat) : Json := .number (.integer n)

/-- The value under a name. Of several members of that name the last one counts. -/
def lookup (name : String) (members : List (String × Json)) : Option Json :=
  (members.reverse.find? fun m => m.1 == name).map (·.2)

end Json

end ScanMatrix
