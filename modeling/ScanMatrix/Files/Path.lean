/-!
# Paths

A path is a text whose parts stand between slashes. Empty parts count for nothing, and so does a
part `.` unless it comes first.
-/

namespace ScanMatrix.Path

/-- The parts between slashes, empty ones included. -/
def parts : List Char → List (List Char)
  | [] => [[]]
  | c :: s =>
    if c = '/' then [] :: parts s
    else match parts s with
      | [] => [[c]]
      | p :: ps => (c :: p) :: ps

/-- The parts put back together. -/
def join : List (List Char) → List Char
  | [] => []
  | [p] => p
  | p :: ps => p ++ '/' :: join ps

/-- Drops the parts at the end that count for nothing. The parts are given last first. -/
def dropIdle : List (List Char) → List (List Char)
  | [] => []
  | [p] => if p = [] then [] else [p]
  | p :: ps => if p = [] ∨ p = ['.'] then dropIdle ps else p :: ps

/-- The parts before the last one that counts, and that one, if it is the name of a file. -/
def splitName? (path : List Char) : Option (List (List Char) × List Char) :=
  match dropIdle (parts path).reverse with
  | [] => none
  | name :: before => if name = ['.'] ∨ name = ['.', '.'] then none else some (before.reverse, name)

/-- A name up to its last dot. A dot at the start of a name does not count. -/
def stem (name : List Char) : List Char :=
  match (name.reverse.dropWhile (· ≠ '.')).reverse with
  | [] => name
  | ['.'] => name
  | cut => cut.dropLast

/-- The path with the end of its last name, from the last dot on, replaced. A path without a name
stays as it is. -/
def withExtension (extension path : List Char) : List Char :=
  match splitName? path with
  | none => path
  | some (before, name) => join (before ++ [stem name ++ '.' :: extension])

end ScanMatrix.Path
