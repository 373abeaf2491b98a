import ScanMatrix.Matrix.Compiled

/-!
# Boards

A board is a key matrix and, if it has one, the controller whose pins its nets lead to.
-/

namespace ScanMatrix

structure Controller (α : Type) where
  name : String
  part : String
  position : Point α
  /-- Degrees. -/
  rotation : α
  side : Side
  /-- The net at each pin. -/
  connections : NameMap String

structure Board (α : Type) where
  matrix : MatrixConfig α
  controller : Option (Controller α)

namespace Controller

variable {α : Type}

def unset [Scalar α] : Controller α where
  name := "U1"
  part := "PICO"
  position := .origin
  rotation := Scalar.zero
  side := .top
  connections := .empty

def request (c : Controller α) : Request α :=
  .component (.controller c.part) c.name ⟨c.position, c.rotation, c.side⟩
    (c.connections.entries.map fun (pin, net) => (pin, .net net))

def render (c : Controller α) (n : Netlist α) : Netlist α := n.record c.request

end Controller

namespace Board

def standard : Board Float := ⟨.standard, none⟩

/-- Renders the matrix, then the controller. -/
def netlist {α : Type} [Scalar α] (board : Board α) (matrix : CompiledMatrix α) : Netlist α :=
  let n := matrix.render .empty
  match board.controller with
  | none => n
  | some c => c.render n

end Board

end ScanMatrix
