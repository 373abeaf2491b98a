import ScanMatrix.Files.Store
import ScanMatrix.Matrix.Decoders

/-!
# Conversions

From the file of a layout to the file of a netlist. The output is made only after the layout has
been compiled.
-/

namespace ScanMatrix

inductive ConversionError where
  | file (path : String) (cause : FileError)
  | layout (error : LayoutError)
  | board (error : Toml.Error)

namespace ConversionError

def boardDetail (e : Toml.Error) : String := e.detail.getD "TOML parse error\n"

def message : ConversionError → String
  | .file path cause => "IO error on " ++ path ++ ": " ++ cause.message
  | .layout e => e.message
  | .board e => "Invalid board config: " ++ boardDetail e

end ConversionError

def LayoutError.causes : LayoutError → List String
  | .json e => [e.message]
  | .empty => []

/-- What lies behind an error, outermost first. -/
def ConversionError.causes : ConversionError → List String
  | .file _ cause => [cause.message]
  | .layout e => e.causes
  | .board e => [boardDetail e]

section
variable {m : Type → Type} [Monad m] [Files m]

/-- The text of a file, without a byte order mark at its start. -/
def readSource (path : String) : m (Except ConversionError String) := do
  match ← Files.read path with
  | .error e => return .error (.file path e)
  | .ok content =>
    match String.fromUTF8? content with
    | none => return .error (.file path .notText)
    | some text =>
      match text.toList with
      | '\uFEFF' :: s => return .ok (String.ofList s)
      | _ => return .ok text

def loadBoard (path : String) : m (Except ConversionError (Board Float)) := do
  match ← readSource path with
  | .error e => return .error e
  | .ok text => return (Board.read text).mapError .board

def compileFile (path : String) (config : MatrixConfig Float) :
    m (Except ConversionError (CompiledMatrix Float)) := do
  match ← readSource path with
  | .error e => return .error e
  | .ok text => return (compileText text config).mapError .layout

/-- Compiles the layout in one file and writes its netlist to another. -/
def convertFile (input output : String) (board : Board Float) :
    m (Except ConversionError (Netlist Float)) := do
  match ← compileFile input board.matrix with
  | .error e => return .error e
  | .ok matrix =>
    let netlist := board.netlist matrix
    match ← Files.create output with
    | .error e => return .error (.file output e)
    | .ok handle =>
      match ← Files.append handle (netlist.document ++ "\n") with
      | .error e => return .error (.file output e)
      | .ok _ => return .ok netlist

end

end ScanMatrix
