import ScanMatrix.Program.Conversion
import ScanMatrix.Program.Options
import ScanMatrix.Program.Report

/-!
# The converter

Reads a layout and, if one is given, the description of a board, and writes the netlist. Without
an output path the netlist goes beside the layout.
-/

namespace ScanMatrix.Program

namespace Options

/-- The board with what the options say put over it. -/
def override (o : Options) (board : Board Float) : Board Float :=
  let c := board.matrix
  { board with
    matrix := { c with
      name := o.name.getD c.name
      rows := (o.rows.map PinMap.ofNames).getD c.rows
      cols := (o.cols.map PinMap.ofNames).getD c.cols
      diodes := o.diodes || c.diodes } }

end Options

/-- Where the netlist of a layout goes by default. -/
def defaultOutput (input : String) : String :=
  String.ofList (Path.withExtension "netlist.json".toList input.toList)

def versionText : String := "kle2matrix 0.1.0\n"

def usageText : String :=
  "Usage: kle2matrix [-c CONFIG] [-n NAME] [--rows PINS] [--cols PINS] [-d] [-v] INPUT [OUTPUT]\n"

def summary (n : Netlist Float) (output : String) : String :=
  "Wrote " ++ toString n.keys.length ++ " keys, " ++ toString n.traces.length ++ " traces, " ++
    toString n.components.length ++ " components to " ++ output ++ "\n"

section
variable {m : Type → Type} [Monad m] [Files m]

/-- Converts with a board that is known. -/
def convertWith (o : Options) (input : String) (board : Board Float) : m Outcome := do
  let output := o.output.getD (defaultOutput input)
  match ← convertFile input output (o.override board) with
  | .error e => return failure ("Failed to convert " ++ input) (e.message :: e.causes)
  | .ok netlist => return ⟨0, if o.verbose then summary netlist output else "", ""⟩

def convert (o : Options) (input : String) : m Outcome := do
  match o.config with
  | none => convertWith o input .standard
  | some path =>
    match ← loadBoard path with
    | .error e => return failure ("Failed to load board config " ++ path) (e.message :: e.causes)
    | .ok board => convertWith o input board

/-- Runs the converter on the words of a command line. -/
def runConverter (words : List String) : m Outcome :=
  match Invocation.ofWords words with
  | .refused => return ⟨2, "", usageText⟩
  | .help => return ⟨0, usageText, ""⟩
  | .version => return ⟨0, versionText, ""⟩
  | .convert o =>
    match o.input with
    | none => return ⟨2, "", usageText⟩
    | some input => convert o input

end

end ScanMatrix.Program
