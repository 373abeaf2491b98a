import ScanMatrix.Layout.Bounds
import ScanMatrix.Layout.Error
import ScanMatrix.Layout.Keys
import ScanMatrix.Layout.Reader
import ScanMatrix.Matrix.Config
import ScanMatrix.Matrix.Netlist

/-!
# Compiled matrices

The keys of a layout, centred, with the wiring of each, and how they are rendered.
-/

namespace ScanMatrix

structure CompiledMatrix (α : Type) where
  name : String
  keys : List (Key α)
  /-- In the order of the keys. -/
  wiring : List KeyWiring
  pcbOffset : Point α
  schOffset : Point α
  diode : DiodeConfig α

variable {α : Type}

/-- The matrix with the given keys. -/
def MatrixConfig.matrix (config : MatrixConfig α) (keys : List (Key α)) : CompiledMatrix α where
  name := config.name
  keys := keys
  wiring := wiring keys config.rows config.cols config.wiringMode
  pcbOffset := config.pcbOffset
  schOffset := config.schOffset
  diode := config.diode

variable [Scalar α]

def Layout.compile (layout : Layout α) (config : MatrixConfig α) :
    Except LayoutError (CompiledMatrix α) :=
  match centered? layout.keys with
  | none => .error .empty
  | some keys => .ok (config.matrix keys)

/-- The matrix of a layout given as text. -/
def compileText (text : String) (config : MatrixConfig Float) :
    Except LayoutError (CompiledMatrix Float) :=
  match Layout.read text with
  | .error e => .error (.json e)
  | .ok layout => layout.compile config

namespace CompiledMatrix

def keyPosition (m : CompiledMatrix α) (k : Key α) : Point α := k.center.offset m.pcbOffset

def placeKey (m : CompiledMatrix α) (k : Key α) : PlacedKey α where
  name := k.name
  position := m.keyPosition k
  rotation := k.rotation
  width := k.width
  height := k.height

def rowRequest (m : CompiledMatrix α) (k : Key α) : RowConnection → Request α
  | .direct t => .connect t.source t.target
  | .diode d =>
    .component (.diode .standard) d.name
      ⟨(m.keyPosition k).offset m.diode.offset, Scalar.zero, m.diode.side⟩
      [(DiodePart.anode, d.anode), (DiodePart.cathode, d.cathode)]

/-- What is rendered for one key: the key, its row connection, its column trace. -/
def keyRequests (m : CompiledMatrix α) (k : Key α) (w : KeyWiring) : List (Request α) :=
  .place (m.placeKey k) ::
    ((w.row.map (m.rowRequest k)).toList ++
      (w.column.map fun t => Request.connect t.source t.target).toList)

def requests (m : CompiledMatrix α) : List (Request α) :=
  .group m.name m.pcbOffset m.schOffset ::
    (m.keys.zip m.wiring).flatMap fun (k, w) => m.keyRequests k w

def render (m : CompiledMatrix α) (n : Netlist α) : Netlist α := n.recordAll m.requests

end CompiledMatrix

end ScanMatrix
