/-!
# Designators

Every key gets a name of its own. A label whose last line is one letter or one digit gives the
key a name after it, if that name is free. Every other key gets the next ordinal that is free.
-/

namespace ScanMatrix

/-- The names that are taken, and the ordinal to try next. -/
structure Designators where
  next : Nat
  used : List String

namespace Designators

def empty : Designators := ⟨1, []⟩

/-- The last of the lines of a label. -/
def lastLine : List Char → List Char
  | [] => []
  | c :: s => if '\n' ∈ c :: s then lastLine s else c :: s

/-- The name that the legend of a label asks for. -/
def ofLegend? (label : String) : Option String :=
  match lastLine label.toList with
  | [c] =>
    if c.isAlpha then some ("K_" ++ c.toUpper.toString)
    else if c.isDigit then some ("K_N" ++ c.toString)
    else none
  | _ => none

def ordinal (n : Nat) : String := "K" ++ toString n

/-- The first free ordinal from `n` on, looking at no more than `rounds` of them. -/
def search (used : List String) : Nat → Nat → Option Nat
  | 0, _ => none
  | rounds + 1, n => if ordinal n ∈ used then search used rounds (n + 1) else some n

/-- The first free ordinal from `n` on. One more than the names in use are enough to look at. -/
def leastFree (used : List String) (n : Nat) : Nat := (search used (used.length + 1) n).getD n

def assignOrdinal (d : Designators) : String × Designators :=
  let n := leastFree d.used d.next
  (ordinal n, ⟨n + 1, ordinal n :: d.used⟩)

def assign (d : Designators) (label : String) : String × Designators :=
  match ofLegend? label with
  | some name =>
    if name ∈ d.used then d.assignOrdinal else (name, { d with used := name :: d.used })
  | none => d.assignOrdinal

/-- How many ordinals have been given out. -/
def ordinalsUsed (d : Designators) : Nat := d.next - 1

/-- The names of some labels, in order, and what is taken after them. -/
def assignAll (d : Designators) : List String → List String × Designators
  | [] => ([], d)
  | label :: labels =>
    let (name, d) := d.assign label
    let (names, d) := d.assignAll labels
    (name :: names, d)

end Designators

end ScanMatrix
