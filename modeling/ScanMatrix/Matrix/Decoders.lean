import ScanMatrix.Decoder
import ScanMatrix.Matrix.Board
import ScanMatrix.Matrix.Document

/-!
# Reading configurations

The matrix of a board is configured in JSON, a whole board in TOML. What is not given keeps its
standard value, except that a point has both its coordinates. Unknown fields are passed over.
-/

namespace ScanMatrix

open Decoder

/-- A point some of whose coordinates are known. -/
structure PartialPoint where
  x : Option Float
  y : Option Float

def Point.decoder : Decoder (Point Float) := record {
  title := "Point"
  fields := [
    field "x" number fun x p => { p with x := some x },
    field "y" number fun y p => { p with y := some y }]
  blank := ⟨none, none⟩
  complete := fun (p : PartialPoint) =>
    match p.x, p.y with
    | some x, some y => .ok ⟨x, y⟩
    | none, _ => .error 0
    | some _, none => .error 1 }

def Side.decoder : Decoder Side := choice [(Side.top.name, .top), (Side.bottom.name, .bottom)]

def PinMap.decoder : Decoder PinMap := (list (optional text)).map PinMap.ofList

def DiodeConfig.decoder : Decoder (DiodeConfig Float) := record {
  title := "DiodeConfig"
  fields := [
    field "offset" Point.decoder fun p c => { c with offset := p },
    field "side" Side.decoder fun s c => { c with side := s }]
  blank := DiodeConfig.standard
  complete := .ok }

def MatrixConfig.decoder : Decoder (MatrixConfig Float) := record {
  title := "MatrixConfig"
  fields := [
    field "name" text fun s c => { c with name := s },
    field "rows" PinMap.decoder fun m c => { c with rows := m },
    field "cols" PinMap.decoder fun m c => { c with cols := m },
    field "diodes" flag fun b c => { c with diodes := b },
    field "pcb_offset" Point.decoder fun p c => { c with pcbOffset := p },
    field "sch_offset" Point.decoder fun p c => { c with schOffset := p },
    field "diode" DiodeConfig.decoder fun d c => { c with diode := d }]
  blank := MatrixConfig.standard
  complete := .ok }

def Controller.decoder : Decoder (Controller Float) := record {
  title := "ControllerConfig"
  fields := [
    field "name" text fun s c => { c with name := s },
    field "part" text fun s c => { c with part := s },
    field "position" Point.decoder fun p c => { c with position := p },
    field "rotation" number fun x c => { c with rotation := x },
    field "side" Side.decoder fun s c => { c with side := s },
    field "connections" (names text) fun m c => { c with connections := m }]
  blank := Controller.unset
  complete := .ok }

def Board.decoder : Decoder (Board Float) := record {
  title := "BoardConfig"
  fields := [
    field "matrix" MatrixConfig.decoder fun m b => { b with matrix := m },
    field "controller" (optional Controller.decoder) fun c b => { b with controller := c }]
  blank := Board.standard
  complete := .ok }

def PinMap.read : String → Except Json.Error PinMap := PinMap.decoder.readJson

def MatrixConfig.read : String → Except Json.Error (MatrixConfig Float) :=
  MatrixConfig.decoder.readJson

def Board.read : String → Except Toml.Error (Board Float) := Board.decoder.readToml

end ScanMatrix
