import ScanMatrix.Decimal.Style
import ScanMatrix.Json.Printer
import ScanMatrix.Matrix.Compiled
import ScanMatrix.Text.Quoted

/-!
# The log of a compilation

What a compilation has to say on its way, line by line: fields it does not use, where each row and
key goes, names that are taken, and pins that are missing.
-/

namespace ScanMatrix.Log

inductive Level where
  | trace
  | debug
  | info

structure Line where
  level : Level
  text : String

namespace Line

def levelName : Level → String
  | .trace => "TRACE"
  | .debug => "DEBUG"
  | .info => "INFO"

def render (l : Line) : String := levelName l.level ++ " " ++ l.text

end Line

def debug (text : String) : Line := ⟨.debug, text⟩

/-! ## Reading and placing -/

def ignoredField (m : String × Json) : Line :=
  debug ("Ignoring modifier field " ++ Text.quoted m.1 ++ " = " ++ m.2.compact)

def ignoredFields (text : String) : List Line :=
  (Layout.modifiersRead text).flatMap fun members => (Modifier.ignored members).map ignoredField

def rowLine (c : Cursor Float) : Line :=
  debug ("Row " ++ toString c.row ++ " starts at y=" ++ Decimal.Style.plain.write c.y)

def pair (x y : Float) : String := "(" ++ Decimal.fixed 3 x ++ ", " ++ Decimal.fixed 3 y ++ ")"

def takenLine (name : String) : Line :=
  debug ("Designator " ++ name ++ " already taken, using ordinal")

def keyLine (k : Key Float) : Line :=
  ⟨.trace, k.name ++ " at " ++ pair k.center.x k.center.y ++ " row=" ++ toString k.row ++
    " col=" ++ toString k.col⟩

/-- A key whose legend asks for another name than it has got that name taken by a key before. -/
def keyLines (k : Key Float) : List Line :=
  match Designators.ofLegend? k.label with
  | some name => if name = k.name then [keyLine k] else [takenLine name, keyLine k]
  | none => [keyLine k]

def rowLines : List (Cursor Float) → List (Row Float) → List (Key Float) → List Line
  | c :: starts, row :: rows, keys =>
    let count := (row.filterMap Cell.label?).length
    rowLine c :: ((keys.take count).flatMap keyLines ++ rowLines starts rows (keys.drop count))
  | _, _, _ => []

def layoutLines (layout : Layout Float) : List Line :=
  rowLines (Layout.rowStarts .start layout.rows) layout.rows layout.keys ++
  [⟨.info, "Parsed " ++ toString layout.keys.length ++ " keys from " ++
    toString layout.rows.length ++ " rows (" ++ toString layout.ordinalCount ++
    " ordinal names)"⟩]

/-! ## Wiring -/

def centeringLine (keys : List (Key Float)) : List Line :=
  ((Bounds.of? keys).map fun b =>
    debug ("Centering offset " ++ pair b.center.x b.center.y)).toList

def openLines (k : Key Float) (w : KeyWiring) : List Line :=
  (if w.column.isNone then [debug (k.name ++ ": no column pin for col " ++ toString k.col)] else []) ++
  (if w.row.isNone then [debug (k.name ++ ": no row pin for row " ++ toString k.row)] else [])

def modeName : WiringMode → String
  | .direct => "Direct"
  | .diodePerKey => "DiodePerKey"

def matrixLines (config : MatrixConfig Float) (m : CompiledMatrix Float) : List Line :=
  (m.keys.zip m.wiring).flatMap (fun (k, w) => openLines k w) ++
  [⟨.info, "Compiled matrix " ++ m.name ++ ": " ++ toString m.keys.length ++ " keys, " ++
    toString config.rows.assigned ++ " row pins, " ++ toString config.cols.assigned ++
    " column pins, " ++ modeName config.wiringMode⟩]

/-- The log of compiling a layout given as text. -/
def compileText (text : String) (config : MatrixConfig Float) : List Line :=
  ignoredFields text ++
  match Layout.read text with
  | .error _ => []
  | .ok layout =>
    layoutLines layout ++ centeringLine layout.keys ++
    match layout.compile config with
    | .error _ => []
    | .ok m => matrixLines config m

end ScanMatrix.Log
