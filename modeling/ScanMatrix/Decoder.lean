import ScanMatrix.Json.Skip
import ScanMatrix.NameMap
import ScanMatrix.Toml.Fault
import ScanMatrix.Toml.Reader

/-!
# Decoders

A decoder reads a value of one form, from the text of a JSON document or from an item of a TOML
document. Records are described once, by their fields, and are read from both.
-/

namespace ScanMatrix

structure Decoder (α : Type) where
  /-- Reads from a JSON text, given how many containers may still be opened. -/
  json : Nat → Json.Reader α
  toml : Toml.Item → Except Toml.Fault α

namespace Decoder

open Json.Outcome

variable {α β ρ : Type}

def map (f : α → β) (d : Decoder α) : Decoder β where
  json room s := (d.json room s).map f
  toml item := (d.toml item).map f

/-! ## Scalars -/

def text : Decoder String where
  json _ := Json.scalarOf "a string" Json.string?
  toml
    | .atom _ (.string s) => .ok s
    | item => .error (Toml.wrongKind item "a string")

def flag : Decoder Bool where
  json _ := Json.scalarOf "a boolean" Json.bool?
  toml
    | .atom _ (.boolean b) => .ok b
    | item => .error (Toml.wrongKind item "a boolean")

def number : Decoder Float where
  json _ := Json.scalarOf "f64" Json.number?
  toml
    | .atom _ (.float x) => .ok x
    | .atom _ (.integer n) => .ok (Float.ofInt n)
    | item => .error (Toml.wrongKind item "f64")

/-- A value that may be `null` in JSON. -/
def optional (d : Decoder α) : Decoder (Option α) where
  json room s :=
    match Json.skipBlanks s with
    | 'n' :: r => (Json.word ['u', 'l', 'l'] r).map fun _ => none
    | r => (d.json room r).map some
  toml item := (d.toml item).map some

/-! ## Containers -/

def list (d : Decoder α) : Decoder (List α) where
  json := Json.list d.json
  toml
    | .array _ items => items.mapM d.toml
    | .tables elements => elements.mapM d.toml
    | item => .error (Toml.wrongKind item "a sequence")

/-- The name under which a date or time gives its text where a table is asked for. -/
def datetimeName : String := "$__toml_private_datetime"

def tomlEntry (d : Decoder α) (entry : Toml.Key × Toml.Item) : Except Toml.Fault (String × α) :=
  match d.toml entry.2 with
  | .ok a => .ok (entry.1.name, a)
  | .error f => .error (f.within entry.1.span)

def names (d : Decoder α) : Decoder (NameMap α) where
  json room := Json.atToken fun c s =>
    if c ≠ '\x7b' then Json.refuse "a map" s
    else match room with
      | 0 => peek .tooDeep s
      | room + 1 => (Json.objectOf (d.json room) s).map NameMap.ofList
  toml
    | .table _ _ entries => (entries.mapM (tomlEntry d)).map NameMap.ofList
    | .atom span (.datetime t) =>
      (d.toml (.atom span (.string t))).map fun a => NameMap.empty.insert datetimeName a
    | item => .error (Toml.wrongKind item "a map")

/-! ## Choices -/

def choose (choices : List (String × α)) (name : String) : Except Mismatch α :=
  match choices.find? fun c => c.1 == name with
  | some c => .ok c.2
  | none => .error (.unknownChoice name (choices.map (·.1)))

def jsonChoice (choices : List (String × α)) (name : String) : Json.Reader α := fun s =>
  match choose choices name with
  | .ok a => .ok a s
  | .error what => settled (amiss what s)

/-- The end of a choice that is written as an object with one member. -/
def endChoice (a : α) : Json.Reader α := fun s =>
  match Json.skipBlanks s with
  | '\x7d' :: r => .ok a r
  | [] => here .endInObject []
  | r => here .expectedValue r

/-- The name of the only member of an object. -/
def memberName : Json.Reader String := fun s =>
  (Json.nextName true s).andThen fun name =>
  match name with
  | some name => .ok name
  | none => peek .expectedValue

/-- A choice that is written as an object: its name, and `null` for its value. -/
def memberChoice (choices : List (String × α)) : Json.Reader α := fun s =>
  (memberName s).andThen fun name s =>
  (jsonChoice choices name s).andThen fun a s =>
  (Json.colon s).andThen fun _ s =>
  (Json.scalarOf "unit" (fun v => match v with | .null => some () | _ => none) s).andThen fun _ =>
  endChoice a

def isEmptyItem : Toml.Item → Bool
  | .array _ items => items.isEmpty
  | .table _ _ entries => entries.isEmpty
  | .tables elements => elements.isEmpty
  | .atom _ _ => false

/-- One of some names. -/
def choice (choices : List (String × α)) : Decoder α where
  json room := Json.atToken fun c s =>
    if c = '"' then
      (Json.quotedText (s.drop 1)).andThen fun name => jsonChoice choices name
    else if c = '\x7b' then
      match room with
      | 0 => peek .tooDeep s
      | _ + 1 => memberChoice choices (s.drop 1)
    else peek .expectedValue s
  toml
    | .atom span (.string name) =>
      (choose choices name).mapError fun what => ⟨some what, some span⟩
    | .table _ span [(key, item)] =>
      match choose choices key.name with
      | .error what => .error ⟨some what, some key.span⟩
      | .ok a => if isEmptyItem item then .ok a else .error ⟨none, span⟩
    | item => .error ⟨none, item.span?⟩

/-- A choice given as a value: a name, or an object whose only member has that name and no
value. -/
def chosen (choices : List (String × α)) : Json → Except Mismatch α
  | .string name => choose choices name
  | .object [(name, v)] => do
    let a ← choose choices name
    match v with
    | .null => .ok a
    | v => .error (.wrongKind (Json.describe v) "unit")
  | .object _ => .error .notSingleMember
  | v => .error (.wrongKind (Json.describe v) "string or map")

/-! ## Records -/

/-- A field of a record that is being put together in `ρ`. -/
structure Field (ρ : Type) where
  name : String
  json : Nat → ρ → Json.Reader ρ
  toml : ρ → Toml.Item → Except Toml.Fault ρ

/-- A field that is read by a decoder. -/
def field (name : String) (d : Decoder α) (set : α → ρ → ρ) : Field ρ where
  name := name
  json room draft s := (d.json room s).map fun a => set a draft
  toml draft item := (d.toml item).map fun a => set a draft

/-- A record: its fields in order, the record without any of them, and how it is completed. What
cannot be completed lacks the field of the given index. -/
structure Record (ρ α : Type) where
  title : String
  fields : List (Field ρ)
  blank : ρ
  complete : ρ → Except Nat α

namespace Record

variable (r : Record ρ α)

def wanted : String := "struct " ++ r.title

def find? (name : String) : Option (Field ρ) := r.fields.find? fun f => f.name == name

/-- Completes a record whose fields were given by name. -/
def completeNamed (draft : ρ) : Except Mismatch α :=
  (r.complete draft).mapError fun i => .missingField ((r.fields[i]?.map (·.name)).getD "")

/-- Completes a record whose fields were given in order. -/
def completeOrdered (draft : ρ) : Except Mismatch α :=
  let count := r.fields.length
  (r.complete draft).mapError fun i =>
    .wrongLength i (r.wanted ++ " with " ++ toString count ++
      (if count = 1 then " element" else " elements"))

def jsonComplete (result : Except Mismatch α) : Json.Reader α := fun s =>
  match result with
  | .ok a => .ok a s
  | .error what => amiss what s

/-- The fields of a record that is written as an array. -/
def jsonOrdered (room : Nat) : List (Field ρ) → Bool → ρ → Json.Reader α
  | [], _, draft, s => jsonComplete (r.completeOrdered draft) s
  | f :: fields, first, draft, s =>
    match Json.nextItem first s with
    | .fail stop s => .fail stop s
    | .ok false s => jsonComplete (r.completeOrdered draft) s
    | .ok true s => (f.json room draft s).andThen (jsonOrdered room fields false)

/-- The fields of a record that is written as an object. `seen` holds the names met before. -/
def jsonNamed (room : Nat) : Nat → Bool → List String → ρ → Json.Reader α
  | 0, _, _, _, s => here .endInObject s
  | fuel + 1, first, seen, draft, s =>
    match Json.nextName first s with
    | .fail stop s => .fail stop s
    | .ok none s => jsonComplete (r.completeNamed draft) s
    | .ok (some name) s =>
      match r.find? name with
      | none =>
        ((Json.colon s).andThen fun _ => Json.skip).andThen fun _ =>
          jsonNamed room fuel false seen draft
      | some f =>
        if name ∈ seen then amiss (.duplicateField name) s
        else
          ((Json.colon s).andThen fun _ => f.json room draft).andThen
            (jsonNamed room fuel false (name :: seen))

def json (room : Nat) : Json.Reader α := Json.atToken fun c s =>
  if c = '[' then
    match room with
    | 0 => peek .tooDeep s
    | room + 1 =>
      Json.enclosed (r.jsonOrdered room r.fields true r.blank) Json.endArray (s.drop 1)
  else if c = '\x7b' then
    match room with
    | 0 => peek .tooDeep s
    | room + 1 =>
      Json.enclosed (r.jsonNamed room (s.length + 1) true [] r.blank) Json.endObject (s.drop 1)
  else Json.refuse r.wanted s

def tomlOrdered : List (Field ρ) → List Toml.Item → ρ → Except Toml.Fault ρ
  | f :: fields, item :: items, draft => do tomlOrdered fields items (← f.toml draft item)
  | _, _, draft => .ok draft

def tomlNamed : Toml.Entries → ρ → Except Toml.Fault ρ
  | [], draft => .ok draft
  | (key, item) :: entries, draft =>
    match r.find? key.name with
    | none => tomlNamed entries draft
    | some f =>
      match f.toml draft item with
      | .error fault => .error (fault.within key.span)
      | .ok draft => tomlNamed entries draft

def tomlComplete (span : Option Toml.Span) (result : Except Mismatch α) : Except Toml.Fault α :=
  result.mapError fun what => ⟨some what, span⟩

/-- Reads a record from a table or, with its fields in order, from an array. -/
def toml : Toml.Item → Except Toml.Fault α
  | .table _ span entries => do
    let draft ← r.tomlNamed entries r.blank
    tomlComplete span (r.completeNamed draft)
  | .array span items => do
    let draft ← tomlOrdered r.fields items r.blank
    tomlComplete (some span) (r.completeOrdered draft)
  | .tables elements => do
    let draft ← tomlOrdered r.fields elements r.blank
    tomlComplete (Toml.Item.tables elements).span? (r.completeOrdered draft)
  | .atom span (.datetime _) => tomlComplete (some span) (r.completeNamed r.blank)
  | item => .error (Toml.wrongKind item r.wanted)

end Record

def record (r : Record ρ α) : Decoder α where
  json := r.json
  toml := r.toml

/-! ## Whole texts -/

def readJson (d : Decoder α) (text : String) : Except Json.Error α :=
  Json.readAll (d.json Json.deepest) text

def readToml (d : Decoder α) (text : String) : Except Toml.Error α :=
  let s := text.toList
  match Toml.parse s with
  | none => .error ⟨none⟩
  | some entries =>
    (d.toml (.table .header none entries)).mapError (Toml.errorOf s)

end Decoder

end ScanMatrix
