import ScanMatrix.Json.Basic

/-!
# Layouts as written

A layout is a list of rows, a row a list of cells. A cell is the label of a key, or a modifier
that changes how the keys after it are placed.
-/

namespace ScanMatrix

/-- The fields of a modifier that are set. Only `x`, `y`, `w`, `h`, `r`, `rx` and `ry` have a
meaning for the matrix; the others are kept as they are. -/
structure Modifier (α : Type) where
  x : Option α := none
  y : Option α := none
  w : Option α := none
  h : Option α := none
  x2 : Option α := none
  y2 : Option α := none
  w2 : Option α := none
  h2 : Option α := none
  r : Option α := none
  rx : Option α := none
  ry : Option α := none
  a : Option α := none
  n : Option Bool := none
  l : Option Bool := none
  d : Option Bool := none
  g : Option Bool := none
  sm : Option String := none
  sb : Option String := none
  st : Option String := none

namespace Modifier

/-- Takes each field from the member of its name, if that has a value of its kind. Every other
member is passed over. -/
def ofMembers (members : List (String × Json)) : Modifier Float :=
  let number (name : String) := (Json.lookup name members).bind Json.number?
  let flag (name : String) := (Json.lookup name members).bind Json.bool?
  let text (name : String) := (Json.lookup name members).bind Json.string?
  { x := number "x", y := number "y", w := number "w", h := number "h"
    x2 := number "x2", y2 := number "y2", w2 := number "w2", h2 := number "h2"
    r := number "r", rx := number "rx", ry := number "ry", a := number "a"
    n := flag "n", l := flag "l", d := flag "d", g := flag "g"
    sm := text "sm", sb := text "sb", st := text "st" }

/-- The fields that are set, as members. -/
def toMembers (m : Modifier Float) : List (String × Json) :=
  let number (name : String) (v : Option Float) := (v.map fun x => (name, Json.float x)).toList
  let flag (name : String) (v : Option Bool) := (v.map fun b => (name, Json.bool b)).toList
  let text (name : String) (v : Option String) := (v.map fun s => (name, Json.string s)).toList
  number "x" m.x ++ number "y" m.y ++ number "w" m.w ++ number "h" m.h ++
  number "x2" m.x2 ++ number "y2" m.y2 ++ number "w2" m.w2 ++ number "h2" m.h2 ++
  number "r" m.r ++ number "rx" m.rx ++ number "ry" m.ry ++ number "a" m.a ++
  flag "n" m.n ++ flag "l" m.l ++ flag "d" m.d ++ flag "g" m.g ++
  text "sm" m.sm ++ text "sb" m.sb ++ text "st" m.st

def numberNames : List String := ["x", "y", "w", "h", "x2", "y2", "w2", "h2", "r", "rx", "ry", "a"]

def flagNames : List String := ["n", "l", "d", "g"]

def textNames : List String := ["sm", "sb", "st"]

/-- Whether a member sets a field. -/
def sets (name : String) (value : Json) : Bool :=
  if name ∈ numberNames then value.number?.isSome
  else if name ∈ flagNames then value.bool?.isSome
  else if name ∈ textNames then value.string?.isSome
  else false

/-- The members that are passed over, by name. -/
def ignored (members : List (String × Json)) : List (String × Json) :=
  (NameMap.ofList members).entries.filter fun m => !sets m.1 m.2

end Modifier

inductive Cell (α : Type) where
  | label (text : String)
  | modifier (fields : Modifier α)

abbrev Row (α : Type) := List (Cell α)

structure Layout (α : Type) where
  rows : List (Row α)

namespace Cell

variable {α : Type}

def label? : Cell α → Option String
  | label text => some text
  | modifier _ => none

def ofJson? : Json → Option (Cell Float)
  | .string s => some (.label s)
  | .object members => some (.modifier (.ofMembers members))
  | _ => none

end Cell

namespace Row

def ofJson? : Json → Option (Row Float)
  | .array cells => cells.mapM Cell.ofJson?
  | _ => none

end Row

namespace Layout

variable {α : Type}

/-- The labels in reading order. -/
def labels (layout : Layout α) : List String :=
  layout.rows.flatMap fun row => row.filterMap Cell.label?

def ofJson? : Json → Option (Layout Float)
  | .array rows => (rows.mapM Row.ofJson?).map Layout.mk
  | _ => none

end Layout

end ScanMatrix
