/-!
# TOML items

What a TOML text says, with the stretch of text that says it. A stretch is kept as the number of
bytes from each of its ends to the end of the text.
-/

namespace ScanMatrix.Toml

structure Span where
  fromStart : Nat
  fromEnd : Nat

/-- From the start of one stretch to the end of another. -/
def Span.through (a b : Span) : Span := ⟨a.fromStart, b.fromEnd⟩

structure Key where
  name : String
  span : Span

/-- How a table came to be. -/
inductive Origin where
  /-- Under a header of its own. -/
  | header
  /-- On the way to a table with a longer header. -/
  | passage
  /-- On the way along a dotted key. -/
  | dotted
  /-- Between braces. -/
  | inline
  deriving DecidableEq

inductive Atom where
  | string (value : String)
  | integer (value : Int)
  | float (value : Float)
  | boolean (value : Bool)
  | datetime (text : String)

inductive Item where
  | atom (span : Span) (value : Atom)
  | array (span : Span) (items : List Item)
  | table (origin : Origin) (span : Option Span) (entries : List (Key × Item))
  /-- Tables under one repeated header. -/
  | tables (elements : List Item)

abbrev Entries := List (Key × Item)

namespace Item

def tableSpan? : Item → Option Span
  | .table _ span _ => span
  | _ => none

def span? : Item → Option Span
  | .atom span _ => some span
  | .array span _ => some span
  | .table _ span _ => span
  | .tables elements => do
    let first ← elements.head?.bind tableSpan?
    let last ← elements.getLast?.bind tableSpan?
    return first.through last

end Item

namespace Entries

/-- The entry of a name, with what stands before and after it. -/
def split (name : String) : Entries → Option (Entries × (Key × Item) × Entries)
  | [] => none
  | e :: rest =>
    if e.1.name = name then some ([], e, rest)
    else (split name rest).map fun (before, found, after) => (e :: before, found, after)

/-- Goes down a path of tables and changes the entries of the last one, given how that table came
to be. Tables that are missing are put at the end. A dotted key does not enter a table that has a
header of its own, and nothing enters a table between braces. -/
def update {β : Type} (dotted : Bool) (change : Origin → Entries → Option (β × Entries)) :
    List Key → Origin → Entries → Option (β × Entries)
  | [], origin, entries => change origin entries
  | key :: path, _, entries =>
    let fresh : Origin := if dotted then .dotted else .passage
    match split key.name entries with
    | none => do
      let (b, inner) ← update dotted change path fresh []
      return (b, entries ++ [(key, .table fresh none inner)])
    | some (before, (k, .table origin span inner), after) => do
      if origin = .inline ∨ (dotted ∧ origin = .header) then none
      else
        let (b, inner) ← update dotted change path origin inner
        return (b, before ++ (k, .table origin span inner) :: after)
    | some (before, (k, .tables elements), after) =>
      match elements.getLast? with
      | some (.table origin span inner) => do
        let (b, inner) ← update dotted change path origin inner
        return (b, before ++ (k, .tables (elements.dropLast ++ [.table origin span inner])) :: after)
      | _ => none
    | some _ => none

/-- Gives a value to a key, dotted or not. No key gets two values, and a dotted key ends in a
table that dotted keys have made. -/
def assign (path : List Key) (key : Key) (value : Item) (entries : Entries) : Option Entries :=
  (update true (fun origin entries =>
    if !path.isEmpty ∧ origin ≠ .dotted then none
    else match split key.name entries with
      | some _ => none
      | none => some ((), entries ++ [(key, value)])) path .inline entries).map (·.2)

end Entries

end ScanMatrix.Toml
