import ScanMatrix.Program.Conversion
import ScanMatrix.Program.Report

/-!
# The key table

Shows the keys of a layout, one a line, as they are before centring.
-/

namespace ScanMatrix.Program

def padLeft (width : Nat) (s : String) : String :=
  String.ofList (List.replicate (width - s.length) ' ') ++ s

def padRight (width : Nat) (s : String) : String :=
  s ++ String.ofList (List.replicate (width - s.length) ' ')

def tableHead : String :=
  " ".intercalate [padRight 8 "name", padLeft 3 "row", padLeft 3 "col", padLeft 9 "x",
    padLeft 9 "y", padLeft 7 "w", padLeft 7 "h", padLeft 6 "rot"] ++ "  label\n"

def tableLine (k : Key Float) : String :=
  " ".intercalate [padRight 8 k.name, padLeft 3 (toString k.row), padLeft 3 (toString k.col),
    padLeft 9 (Decimal.fixed 3 k.center.x), padLeft 9 (Decimal.fixed 3 k.center.y),
    padLeft 7 (Decimal.fixed 2 k.width), padLeft 7 (Decimal.fixed 2 k.height),
    padLeft 6 (Decimal.fixed 1 k.rotation)] ++ "  " ++ Text.quoted k.label ++ "\n"

def sizeLine (b : Bounds Float) : String :=
  "Size: " ++ Decimal.fixed 2 b.width ++ " x " ++ Decimal.fixed 2 b.height ++ " mm (" ++
    Decimal.fixed 2 (b.width / Scalar.pitch) ++ " x " ++
    Decimal.fixed 2 (b.height / Scalar.pitch) ++ " u)\n"

def keyTable (layout : Layout Float) : String :=
  let keys := layout.keys
  "Rows: " ++ toString layout.rows.length ++ "\n" ++
  "Keys: " ++ toString keys.length ++ "\n" ++
  ((Bounds.of? keys).map sizeLine).getD "" ++
  "\n=== KEYS ===\n" ++ tableHead ++ String.join (keys.map tableLine)

/-- The name of the program that shows the table. -/
def tableProgram : String := "kle_dump"

def tableUsage : String := "Usage: " ++ tableProgram ++ " <layout.json>\n"

/-- Shows the keys of the layout that the only word names. -/
def runKeyTable {m : Type → Type} [Monad m] [Files m] (words : List String) : m Outcome := do
  match words with
  | [path] =>
    match ← readSource path with
    | .error e => return failure e.message e.causes
    | .ok text =>
      match Layout.read text with
      | .error e =>
        let e : LayoutError := .json e
        return failure ("Failed to parse " ++ path) (e.message :: e.causes)
      | .ok layout => return ⟨0, keyTable layout, ""⟩
  | _ => return ⟨1, "", tableUsage⟩

end ScanMatrix.Program
