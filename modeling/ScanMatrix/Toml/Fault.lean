import ScanMatrix.Decimal.Style
import ScanMatrix.Json.Fault
import ScanMatrix.Text.Position
import ScanMatrix.Text.Quoted
import ScanMatrix.Toml.Item

/-!
# What can be wrong with a TOML text

A text that is not TOML is refused without a reason. A value that is not of the form asked for is
shown in its line, with a mark under it.
-/

namespace ScanMatrix.Toml

/-- What is amiss, if there are words for it, and where. -/
structure Fault where
  what : Option Mismatch
  span : Option Span

namespace Fault

/-- Places a fault that has no place yet. -/
def within (f : Fault) (span : Option Span) : Fault :=
  match f.span with
  | some _ => f
  | none => { f with span := span }

end Fault

/-- The description of a value in the report of a mismatch. -/
def describe : Item → String
  | .atom _ (.string s) => "string " ++ Text.quoted s
  | .atom _ (.integer n) => "integer `" ++ toString n ++ "`"
  | .atom _ (.float x) => "floating point `" ++ Decimal.Style.pointed.write x ++ "`"
  | .atom _ (.boolean b) => "boolean `" ++ (if b then "true" else "false") ++ "`"
  | .atom _ (.datetime _) => "map"
  | .array _ _ => "sequence"
  | .table _ _ _ => "map"
  | .tables _ => "sequence"

def wrongKind (item : Item) (wanted : String) : Fault :=
  ⟨some (.wrongKind (describe item) wanted), item.span?⟩

def blanks (n : Nat) : String := String.ofList (List.replicate n ' ')

/-- The line of a place, the lines before it, and the number of characters before it on the line. -/
def lineAt (text : List Char) (offset : Nat) : List Char × Nat × Nat := go text offset 0 0 text
where
  go : List Char → Nat → Nat → Nat → List Char → List Char × Nat × Nat
    | [], _, number, column, line => (line.takeWhile (· ≠ '\n'), number, column)
    | c :: s, left, number, column, line =>
      if left < c.utf8Size then (line.takeWhile (· ≠ '\n'), number, column)
      else if c = '\n' then go s (left - 1) (number + 1) 0 s
      else go s (left - c.utf8Size) number (column + 1) line

/-- The words for a mismatch: the line it is on, with a mark under the value. The mark is as long as
the value, but on a line of `n` bytes it ends after `n` places at the latest. -/
def report (text : List Char) (span : Span) (what : Mismatch) : String :=
  let size := Text.bytes text
  let start := size - span.fromStart
  let stop := size - span.fromEnd
  let (line, before, column) := lineAt text start
  let number := toString (before + 1)
  let margin := blanks (number.length + 1)
  let mark := max 1 (min (stop - start) (Text.bytes line - column))
  "TOML parse error at line " ++ number ++ ", column " ++ toString (column + 1) ++ "\n" ++
  margin ++ "|\n" ++
  number ++ " | " ++ String.ofList line ++ "\n" ++
  margin ++ "|" ++ blanks (column + 1) ++ String.ofList (List.replicate mark '^') ++ "\n" ++
  what.message ++ "\n"

/-- Why a text is refused, with the words for it if there are any. -/
structure Error where
  detail : Option String

def errorOf (text : List Char) (f : Fault) : Error :=
  match f.what, f.span with
  | some what, some span => ⟨some (report text span what)⟩
  | some what, none => ⟨some (what.message ++ "\n")⟩
  | none, _ => ⟨none⟩

end ScanMatrix.Toml
