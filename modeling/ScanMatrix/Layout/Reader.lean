import ScanMatrix.Json.Reader
import ScanMatrix.Layout.Basic

/-!
# Reading a layout

The text of a layout is a JSON array of arrays of cells. A cell that is no string or object, or
that is not JSON at all, is refused as a whole, where its row ends or would have to go on.
-/

namespace ScanMatrix

open Json (Reader)

/-- What is said of a cell that is refused. -/
def Cell.refusal : String := "layout cell must be a label string or a modifier object"

def Cell.reader (room : Nat) : Reader (Cell Float) := fun s =>
  match Json.value room s with
  | .fail _ r => .fail ⟨.refused refusal, none⟩ r
  | .ok v r =>
    match Cell.ofJson? v with
    | some cell => .ok cell r
    | none => .fail ⟨.refused refusal, none⟩ r

def Cell.read (text : String) : Except Json.Error (Cell Float) :=
  Json.readAll (Cell.reader Json.deepest) text

def Row.reader : Nat → Reader (Row Float) := Json.list Cell.reader

namespace Layout

def reader : Reader (Layout Float) := fun s => (Json.list Row.reader Json.deepest s).map Layout.mk

def read (text : String) : Except Json.Error (Layout Float) := Json.readAll reader text

/-! ## Modifiers met on the way -/

/-- The members of each modifier in a row, as far as the row can be read, and whether it can be
read to its end. -/
def rowModifiers : Nat → Bool → List Char → List (List (String × Json)) × Option (List Char)
  | 0, _, _ => ([], none)
  | fuel + 1, first, s =>
    match Json.nextItem first s with
    | .fail _ _ => ([], none)
    | .ok false r =>
      match Json.endArray r with
      | .ok _ r' => ([], some r')
      | .fail _ _ => ([], none)
    | .ok true r =>
      match Json.value (Json.deepest - 2) r with
      | .ok (.object members) r' =>
        let (more, rest) := rowModifiers fuel false r'
        (members :: more, rest)
      | .ok (.string _) r' => rowModifiers fuel false r'
      | _ => ([], none)

def modifiersFrom : Nat → Bool → List Char → List (List (String × Json))
  | 0, _, _ => []
  | fuel + 1, first, s =>
    match Json.nextItem first s with
    | .ok true r =>
      match Json.skipBlanks r with
      | '[' :: r' =>
        let (found, rest) := rowModifiers (r'.length + 1) true r'
        match rest with
        | some r'' => found ++ modifiersFrom fuel false r''
        | none => found
      | _ => []
    | _ => []

/-- The members of each modifier that is read before the reading of a layout ends or fails. -/
def modifiersRead (text : String) : List (List (String × Json)) :=
  match Json.skipBlanks text.toList with
  | '[' :: r => modifiersFrom (r.length + 1) true r
  | _ => []

end Layout

end ScanMatrix
