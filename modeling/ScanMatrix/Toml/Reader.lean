import ScanMatrix.Toml.Scan

/-!
# Reading TOML: documents

Lines are read from top to bottom. The table under the latest header is kept apart from the
document until the next header, and is then put at the end of the table around it.
-/

namespace ScanMatrix.Toml

/-- How many arrays and braced tables may stand inside one another. -/
def deepest : Nat := 79

/-- The values of an array up to its bracket. -/
def arrayItems (item : Parser Item) : Nat → Parser (List Item)
  | 0, _ => none
  | fuel + 1, s => do
    match ← skipLines (s.length + 1) s with
    | ']' :: r => return ([], r)
    | r =>
      let (v, r) ← item r
      match ← skipLines (r.length + 1) r with
      | ']' :: r => return ([v], r)
      | ',' :: r =>
        let (vs, r) ← arrayItems item fuel r
        return (v :: vs, r)
      | _ => none

/-- A key, an equals sign and a value. -/
def assignment (item : Parser Item) (s : List Char) :
    Option ((List Key × Key × Item) × List Char) := do
  let ((path, k), r) ← key s
  let (_, r) ← expect '=' r
  let (v, r) ← item (skipBlanks r)
  return ((path, k, v), r)

/-- The entries of a table between braces, up to its closing brace. -/
def inlineEntries (item : Parser Item) : Nat → Entries → Parser Entries
  | 0, _, _ => none
  | fuel + 1, entries, s => do
    let ((path, k, v), r) ← assignment item s
    let entries ← entries.assign path k v
    match skipBlanks r with
    | ',' :: r => inlineEntries item fuel entries r
    | '\x7d' :: r => return (entries, r)
    | _ => none

def inlineTable (item : Parser Item) (s : List Char) : Option (Entries × List Char) :=
  match skipBlanks s with
  | '\x7d' :: r => some ([], r)
  | r => inlineEntries item (r.length + 1) [] r

def plainScalar (s : List Char) : Option (Item × List Char) :=
  (atom s).map fun (v, r) => (.atom (spanOf s r) v, r)

/-- A value, from its first character on. `room` containers may still be opened. -/
def value : Nat → Parser Item
  | 0, s => plainScalar s
  | room + 1, s =>
    match s with
    | '[' :: r => do
      let (items, r') ← arrayItems (value room) (r.length + 1) r
      return (.array (spanOf s r') items, r')
    | '\x7b' :: r => do
      let (entries, r') ← inlineTable (value room) r
      return (.table .inline (some (spanOf s r')) entries, r')
    | _ => plainScalar s

/-! ## Lines -/

/-- The document as far as it has been read. -/
structure Draft where
  /-- What is under earlier headers. -/
  finished : Entries
  /-- The latest header; none before the first. -/
  header : Option (List Key × Key)
  /-- Whether the latest header is one that may be repeated. -/
  repeated : Bool
  span : Option Span
  /-- What is under the latest header. -/
  entries : Entries

namespace Draft

def start : Draft := ⟨[], none, false, none, []⟩

def latest (d : Draft) : Item := .table .header d.span d.entries

/-- Puts the table under the latest header into the document. -/
def finish (d : Draft) : Option Entries :=
  match d.header with
  | none => some d.entries
  | some (path, key) =>
    (Entries.update false (fun _ around =>
      match Entries.split key.name around with
      | none => some ((), around ++ [(key, if d.repeated then .tables [d.latest] else d.latest)])
      | some (before, (k, .tables elements), after) =>
        if d.repeated then some ((), before ++ (k, .tables (elements ++ [d.latest])) :: after)
        else none
      | some _ => none) path .header d.finished).map (·.2)

/-- Takes out of a table what headers below the given one have put under it. -/
def takeOpen (key : Key) (around : Entries) : Option (Entries × Entries) :=
  match Entries.split key.name around with
  | none => some ([], around)
  | some (before, (_, .table .passage _ inner), after) => some (inner, before ++ after)
  | some _ => none

/-- Opens the table under a new header. -/
def openTable (d : Draft) (path : List Key) (key : Key) (span : Span) : Option Draft := do
  let finished ← d.finish
  let (entries, finished) ← Entries.update false (fun _ => takeOpen key) path .header finished
  return ⟨finished, some (path, key), false, some span, entries⟩

/-- Opens another table under a header that may be repeated. -/
def openElement (d : Draft) (path : List Key) (key : Key) (span : Span) : Option Draft := do
  let finished ← d.finish
  let (_, finished) ← Entries.update false (fun _ around =>
    match Entries.split key.name around with
    | none => some ((), around ++ [(key, .tables [])])
    | some (_, (_, .tables _), _) => some ((), around)
    | some _ => none) path .header finished
  return ⟨finished, some (path, key), true, some span, []⟩

def assign (d : Draft) (path : List Key) (key : Key) (v : Item) : Option Draft := do
  let entries ← d.entries.assign path key v
  let span := match d.span, v.span? with
    | some a, some b => some (a.through b)
    | a, _ => a
  return { d with entries, span }

end Draft

/-- Reads the line of a header: how it changes the document, and the rest of the text. -/
def headerLine (d : Draft) (s : List Char) : Option (Draft × List Char) :=
  match s with
  | '[' :: '[' :: r => do
    let ((path, k), r) ← key r
    let (_, r) ← expect ']' r
    let (_, r) ← expect ']' r
    let rest ← endLine r
    return (← d.openElement path k (spanOf s r), rest)
  | '[' :: r => do
    let ((path, k), r) ← key r
    let (_, r) ← expect ']' r
    let rest ← endLine r
    return (← d.openTable path k (spanOf s r), rest)
  | _ => none

def assignmentLine (d : Draft) (s : List Char) : Option (Draft × List Char) := do
  let ((path, k, v), r) ← assignment (value deepest) s
  let rest ← endLine r
  return (← d.assign path k v, rest)

def lines : Nat → Draft → List Char → Option Draft
  | 0, _, _ => none
  | fuel + 1, d, s =>
    match skipBlanks s with
    | [] => some d
    | '#' :: r => do lines fuel d (← endLine ('#' :: r))
    | '[' :: r => do
      let (d, rest) ← headerLine d ('[' :: r)
      lines fuel d rest
    | r =>
      match newline r with
      | some (_, r') => lines fuel d r'
      | none => do
        let (d, rest) ← assignmentLine d r
        lines fuel d rest

/-- The entries of a document. A byte order mark at its start is passed over. -/
def parse (text : List Char) : Option Entries :=
  let s := match text with
    | '\uFEFF' :: s => s
    | s => s
  (lines (s.length + 1) .start s).bind Draft.finish

end ScanMatrix.Toml
