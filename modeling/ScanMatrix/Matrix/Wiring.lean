import ScanMatrix.Key
import ScanMatrix.Matrix.PinMap

/-!
# Wiring

How each key is joined to the line of its row and to the line of its column. A key whose row or
column has no pin stays open on that side.
-/

namespace ScanMatrix

/-- One side of a connection: a pin of a part, or a net. -/
inductive Endpoint where
  | port (component pin : String)
  | net (name : String)
  deriving DecidableEq

namespace Endpoint

/-- The terminal of a switch that faces its row. -/
def rowPin (key : String) : Endpoint := .port key "pin1"

/-- The terminal of a switch that faces its column. -/
def columnPin (key : String) : Endpoint := .port key "pin2"

def text : Endpoint → String
  | .port component pin => "." ++ component ++ " ." ++ pin
  | .net name => name

end Endpoint

structure Trace where
  source : Endpoint
  target : Endpoint
  deriving DecidableEq

/-- The diode between a key and the line of its row. -/
structure KeyDiode where
  name : String
  anode : Endpoint
  cathode : Endpoint
  deriving DecidableEq

inductive RowConnection where
  | direct (trace : Trace)
  | diode (diode : KeyDiode)
  deriving DecidableEq

inductive WiringMode where
  | direct
  | diodePerKey
  deriving DecidableEq

structure KeyWiring where
  key : String
  row : Option RowConnection
  column : Option Trace
  deriving DecidableEq

/-- The name of the diode of a key. -/
def diodeName (key : String) : String := key ++ "_DIO"

namespace WiringMode

def connect (mode : WiringMode) (key pin : String) : RowConnection :=
  match mode with
  | .direct => .direct ⟨.rowPin key, .net pin⟩
  | .diodePerKey => .diode ⟨diodeName key, .rowPin key, .net pin⟩

end WiringMode

variable {α : Type}

def Key.wiring (rows cols : PinMap) (mode : WiringMode) (k : Key α) : KeyWiring where
  key := k.name
  row := (rows.get? k.row).map (mode.connect k.name)
  column := (cols.get? k.col).map fun pin => ⟨.columnPin k.name, .net pin⟩

/-- The wiring of each key, in the order of the keys. -/
def wiring (keys : List (Key α)) (rows cols : PinMap) (mode : WiringMode) : List KeyWiring :=
  keys.map (Key.wiring rows cols mode)

end ScanMatrix
