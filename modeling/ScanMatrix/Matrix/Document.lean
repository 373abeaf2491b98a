import ScanMatrix.Json.Printer
import ScanMatrix.Matrix.Compiled

/-!
# Documents

The JSON form of keys, wirings, compiled matrices and netlists, members in a fixed order.
-/

namespace ScanMatrix

def Point.toJson (p : Point Float) : Json := .object [("x", .float p.x), ("y", .float p.y)]

def Key.toJson (k : Key Float) : Json := .object [
  ("name", .string k.name),
  ("label", .string k.label),
  ("x", .float k.center.x),
  ("y", .float k.center.y),
  ("width", .float k.width),
  ("height", .float k.height),
  ("rotation", .float k.rotation),
  ("rotation_origin_x", .float k.pivot.x),
  ("rotation_origin_y", .float k.pivot.y),
  ("row", .nat k.row),
  ("col", .nat k.col)]

def Endpoint.toJson (e : Endpoint) : Json := .string e.text

def Trace.members (t : Trace) : List (String × Json) :=
  [("from", t.source.toJson), ("to", t.target.toJson)]

def Trace.toJson (t : Trace) : Json := .object t.members

def RowConnection.toJson : RowConnection → Json
  | .direct t => .object (("kind", .string "direct") :: t.members)
  | .diode d => .object [
      ("kind", .string "diode"),
      ("name", .string d.name),
      ("anode", d.anode.toJson),
      ("cathode", d.cathode.toJson)]

def KeyWiring.toJson (w : KeyWiring) : Json := .object [
  ("key", .string w.key),
  ("row", (w.row.map RowConnection.toJson).getD .null),
  ("column", (w.column.map Trace.toJson).getD .null)]

def Side.name : Side → String
  | .top => "top"
  | .bottom => "bottom"

def Side.toJson (s : Side) : Json := .string s.name

def DiodeConfig.toJson (d : DiodeConfig Float) : Json :=
  .object [("offset", d.offset.toJson), ("side", d.side.toJson)]

def CompiledMatrix.toJson (m : CompiledMatrix Float) : Json := .object [
  ("name", .string m.name),
  ("keys", .array (m.keys.map Key.toJson)),
  ("wiring", .array (m.wiring.map KeyWiring.toJson)),
  ("pcb_offset", m.pcbOffset.toJson),
  ("sch_offset", m.schOffset.toJson),
  ("diode", m.diode.toJson)]

def Group.toJson (g : Group Float) : Json := .object [
  ("name", .string g.name),
  ("pcb_origin", g.pcbOrigin.toJson),
  ("sch_origin", g.schOrigin.toJson)]

def PlacedKey.toJson (k : PlacedKey Float) : Json := .object [
  ("name", .string k.name),
  ("position", k.position.toJson),
  ("rotation", .float k.rotation),
  ("width", .float k.width),
  ("height", .float k.height)]

def DiodePart.toJson (p : DiodePart) : Json := .object [
  ("part_number", .string p.partNumber),
  ("supplier_part", .string p.supplierPart),
  ("footprint", .string p.footprint),
  ("cathode_pad", .string p.cathodePad),
  ("anode_pad", .string p.anodePad)]

def PartKind.toJson : PartKind → Json
  | .diode part => .object [("type", .string "diode"), ("part", part.toJson)]
  | .controller part => .object [("type", .string "controller"), ("part", .string part)]

def Placement.toJson (p : Placement Float) : Json := .object [
  ("position", p.position.toJson),
  ("rotation", .float p.rotation),
  ("side", p.side.toJson)]

def Component.toJson (c : Component Float) : Json := .object [
  ("name", .string c.name),
  ("kind", c.kind.toJson),
  ("placement", c.placement.toJson),
  ("connections", .object (c.connections.entries.map fun (pin, e) => (pin, e.toJson)))]

namespace Netlist

def toJson (n : Netlist Float) : Json := .object [
  ("groups", .array (n.groups.map Group.toJson)),
  ("keys", .array (n.keys.map PlacedKey.toJson)),
  ("traces", .array (n.traces.map Trace.toJson)),
  ("components", .array (n.components.map Component.toJson))]

/-- The text of a netlist, which is the same when it is asked for and when it is written to a file. -/
def document (n : Netlist Float) : String := n.toJson.pretty 0

end Netlist

end ScanMatrix
