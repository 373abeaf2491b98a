import ScanMatrix.Json.Numeral
import ScanMatrix.Decimal.Style
import ScanMatrix.Text.Quoted

/-!
# Reading JSON: values

At most 127 containers stand inside one another. `room` is the number that may still be opened.
-/

namespace ScanMatrix.Json

open Outcome

/-- How many containers may stand inside one another. -/
def deepest : Nat := 127

/-- A value that is not a container, from its first character on. -/
def scalar : Reader Json
  | 'n' :: s => (word ['u', 'l', 'l'] s).map fun _ => .null
  | 't' :: s => (word ['r', 'u', 'e'] s).map fun _ => .bool true
  | 'f' :: s => (word ['a', 'l', 's', 'e'] s).map fun _ => .bool false
  | '"' :: s => (quotedText s).map .string
  | c :: s =>
    if c = '-' ∨ c.isDigit then (numeral (c :: s)).map .number else peek .expectedValue (c :: s)
  | [] => peek .endInValue []

def value : Nat → Reader Json
  | 0, s =>
    match skipBlanks s with
    | '[' :: r => peek .tooDeep ('[' :: r)
    | '\x7b' :: r => peek .tooDeep ('\x7b' :: r)
    | r => scalar r
  | room + 1, s =>
    match skipBlanks s with
    | '[' :: r => (arrayOf (value room) ('[' :: r)).map .array
    | '\x7b' :: r => (objectOf (value room) ('\x7b' :: r)).map fun ms => .object (NameMap.ofList ms).entries
    | r => scalar r

def parse (text : String) : Except Error Json := readAll (value deepest) text

/-! ## Values of a given form -/

/-- The description of a value in the report of a mismatch. -/
def describe : Json → String
  | .null => "null"
  | .bool b => "boolean `" ++ (if b then "true" else "false") ++ "`"
  | .number (.integer n) => "integer `" ++ toString n ++ "`"
  | .number (.decimal x) => "floating point `" ++ Decimal.Style.document.write x ++ "`"
  | .string s => "string " ++ Text.quoted s
  | .array _ => "sequence"
  | .object _ => "map"

/-- Refuses a value of the wrong form. A scalar is taken first, a container is not. -/
def refuse {α : Type} (wanted : String) : Reader α
  | '[' :: s => settled (amiss (.wrongKind "sequence" wanted) ('[' :: s))
  | '\x7b' :: s => settled (amiss (.wrongKind "map" wanted) ('\x7b' :: s))
  | s => settled ((scalar s).andThen fun v => amiss (.wrongKind (describe v) wanted))

/-- Takes blanks, then goes by the character that follows, if there is one. -/
def atToken {α : Type} (reader : Char → Reader α) : Reader α := fun s =>
  match skipBlanks s with
  | [] => peek .endInValue []
  | c :: r => reader c (c :: r)

/-- A scalar that `accept` takes for what is wanted. -/
def scalarOf {α : Type} (wanted : String) (accept : Json → Option α) : Reader α :=
  atToken fun c s =>
    if c = '[' ∨ c = '\x7b' then refuse wanted s
    else settled ((scalar s).andThen fun v =>
      match accept v with
      | some a => .ok a
      | none => amiss (.wrongKind (describe v) wanted))

/-- A list whose items are read by `item`, given the room left inside it. -/
def list {α : Type} (item : Nat → Reader α) (room : Nat) : Reader (List α) := atToken fun c s =>
  if c ≠ '[' then refuse "a sequence" s
  else match room with
    | 0 => peek .tooDeep s
    | room + 1 => arrayOf (item room) s

/-- The members of an object, each name once. -/
def members (room : Nat) : Reader (List (String × Json)) := atToken fun c s =>
  if c ≠ '\x7b' then refuse "a map" s
  else match room with
    | 0 => peek .tooDeep s
    | room + 1 => (objectOf (value room) s).map fun ms => (NameMap.ofList ms).entries

end ScanMatrix.Json
