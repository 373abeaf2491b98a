import ScanMatrix.Json.Fault
import ScanMatrix.Text.Digit

/-!
# Reading JSON: tokens

A reader takes the front of a text and leaves the rest. It leaves a rest also when it fails,
because an enclosing array or object still looks for its own end there before the fault is
placed. A place is kept as the number of bytes after it.
-/

namespace ScanMatrix.Json

open Text

/-- Why reading stopped, and how many bytes of the text lie after the place of the fault.
A fault in what the text says gets its place from the nearest enclosing reader. -/
structure Stop where
  fault : Fault
  after : Option Nat

inductive Outcome (α : Type) where
  | ok (value : α) (rest : List Char)
  | fail (stop : Stop) (rest : List Char)

abbrev Reader (α : Type) := List Char → Outcome α

namespace Stop

/-- Places a fault that has no place yet where the rest begins. -/
def settle (stop : Stop) (rest : List Char) : Stop :=
  match stop.after with
  | some _ => stop
  | none => { stop with after := some (bytes rest) }

end Stop

namespace Outcome

variable {α β : Type}

/-- A fault placed where the rest begins. -/
def here (fault : Fault) (rest : List Char) : Outcome α := .fail ⟨fault, some (bytes rest)⟩ rest

/-- A fault placed after the next byte, which is looked at but not taken. -/
def peek (fault : Fault) (rest : List Char) : Outcome α :=
  .fail ⟨fault, some (bytes rest - 1)⟩ rest

/-- A fault placed after the next bytes, which are taken. -/
def past (count : Nat) (fault : Fault) (rest : List Char) : Outcome α :=
  here fault (dropBytes count rest)

/-- A fault in what the text says. -/
def amiss (what : Mismatch) (rest : List Char) : Outcome α := .fail ⟨.mismatch what, none⟩ rest

def rest : Outcome α → List Char
  | .ok _ r => r
  | .fail _ r => r

def map (f : α → β) : Outcome α → Outcome β
  | .ok a r => .ok (f a) r
  | .fail s r => .fail s r

def andThen (o : Outcome α) (f : α → Reader β) : Outcome β :=
  match o with
  | .ok a r => f a r
  | .fail s r => .fail s r

/-- Places a fault that has no place yet where reading has come to. -/
def settled : Outcome α → Outcome α
  | .ok a r => .ok a r
  | .fail s r => .fail (s.settle r) r

end Outcome

open Outcome

def isBlank (c : Char) : Bool := c = ' ' || c = '\n' || c = '\t' || c = '\r'

def skipBlanks : List Char → List Char
  | [] => []
  | c :: s => if isBlank c then skipBlanks s else c :: s

/-! ## Words -/

/-- Takes the letters of a word. Its first letter has been taken already. -/
def word : List Char → List Char → Outcome Unit
  | [], s => .ok () s
  | _, [] => here .endInValue []
  | c :: w, d :: s => if c = d then word w s else past 1 .expectedWord (d :: s)

/-! ## Strings -/

def hex4? (a b c d : Char) : Option Nat := do
  return (((← hexDigit? a) * 16 + (← hexDigit? b)) * 16 + (← hexDigit? c)) * 16 + (← hexDigit? d)

/-- Why the four bytes that have to follow a `\u` are no four hexadecimal digits. -/
def badHex {α : Type} (s : List Char) : Outcome α :=
  if bytes s < 4 then here .endInString [] else past 4 .badEscape s

def simpleEscape? : Char → Option Char
  | '"' => some '"'
  | '\\' => some '\\'
  | '/' => some '/'
  | 'b' => some '\x08'
  | 'f' => some '\x0c'
  | 'n' => some '\n'
  | 'r' => some '\r'
  | 't' => some '\t'
  | _ => none

def isHighSurrogate (n : Nat) : Bool := 0xD800 ≤ n && n < 0xDC00

def isLowSurrogate (n : Nat) : Bool := 0xDC00 ≤ n && n < 0xE000

def pairSurrogates (high low : Nat) : Char :=
  Char.ofNat (0x10000 + (high - 0xD800) * 0x400 + (low - 0xDC00))

/-- The fault of a high surrogate that no second escape follows. -/
def unpaired {α : Type} : Reader α
  | [] => here .endInString []
  | '\\' :: [] => here .endInString []
  | '\\' :: 'u' :: s => badHex s
  | '\\' :: s => past 1 .unpairedSurrogate s
  | s => past 1 .unpairedSurrogate s

/-- The characters of a string up to the closing quote. `taken` holds those before, reversed. -/
def characters (taken : List Char) : List Char → Outcome String
  | [] => here .endInString []
  | '"' :: s => .ok (String.ofList taken.reverse) s
  | '\\' :: [] => here .endInString []
  | '\\' :: e :: s =>
    match simpleEscape? e with
    | some c => characters (c :: taken) s
    | none =>
      if e ≠ 'u' then past 1 .badEscape (e :: s)
      else match s with
        | a :: b :: c :: d :: s' =>
          match hex4? a b c d with
          | none => badHex s
          | some n =>
            if isLowSurrogate n then here .loneSurrogate s'
            else if isHighSurrogate n then
              match s' with
              | '\\' :: 'u' :: a' :: b' :: c' :: d' :: s'' =>
                match hex4? a' b' c' d' with
                | none => unpaired s'
                | some m =>
                  if isLowSurrogate m then characters (pairSurrogates n m :: taken) s''
                  else here .loneSurrogate s''
              | _ => unpaired s'
            else characters (Char.ofNat n :: taken) s'
        | _ => badHex s
  | c :: s => if c < ' ' then here .controlCharacter s else characters (c :: taken) s

/-- A string, whose opening quote has been taken. -/
def quotedText : Reader String := characters []

/-! ## Containers

The rules by which the items of an array and the members of an object follow one another. -/

/-- Moves to the next item of an array; `false` when the array ends. -/
def nextItem (first : Bool) (s : List Char) : Outcome Bool :=
  match skipBlanks s with
  | [] => peek .endInList []
  | ']' :: r => .ok false (']' :: r)
  | ',' :: r =>
    if first then .ok true (',' :: r)
    else match skipBlanks r with
      | [] => peek .endInValue []
      | ']' :: r' => peek .trailingComma (']' :: r')
      | r' => .ok true r'
  | r => if first then .ok true r else peek .expectedCommaOrBracket r

/-- Takes the bracket that ends an array. -/
def endArray (s : List Char) : Outcome Unit :=
  match skipBlanks s with
  | [] => peek .endInList []
  | ']' :: r => .ok () r
  | ',' :: r =>
    match skipBlanks r with
    | ']' :: r' => peek .trailingComma (']' :: r')
    | r' => peek .trailingCharacters r'
  | r => peek .trailingCharacters r

/-- Takes the name of the next member of an object; `none` when the object ends. -/
def nextName (first : Bool) (s : List Char) : Outcome (Option String) :=
  match skipBlanks s with
  | [] => peek .endInObject []
  | '\x7d' :: r => .ok none ('\x7d' :: r)
  | ',' :: r =>
    if first then peek .nameNotString (',' :: r)
    else match skipBlanks r with
      | [] => peek .endInValue []
      | '\x7d' :: r' => peek .trailingComma ('\x7d' :: r')
      | '"' :: r' => (quotedText r').map some
      | r' => peek .nameNotString r'
  | '"' :: r =>
    if first then (quotedText r).map some else peek .expectedCommaOrBrace ('"' :: r)
  | r => if first then peek .nameNotString r else peek .expectedCommaOrBrace r

/-- Takes the colon between a name and its value. -/
def colon (s : List Char) : Outcome Unit :=
  match skipBlanks s with
  | [] => peek .endInObject []
  | ':' :: r => .ok () r
  | r => peek .expectedColon r

/-- Takes the brace that ends an object. -/
def endObject (s : List Char) : Outcome Unit :=
  match skipBlanks s with
  | [] => peek .endInObject []
  | '\x7d' :: r => .ok () r
  | ',' :: r => peek .trailingComma (',' :: r)
  | r => peek .trailingCharacters r

/-- Reads the inside of a container, then its end. The end is looked for also after a fault, and
a fault without a place gets the one where that search has come to. -/
def enclosed {α : Type} (inside : Reader α) (finish : Reader Unit) : Reader α := fun s =>
  match inside s with
  | .ok a r =>
    match finish r with
    | .ok _ r' => .ok a r'
    | .fail stop r' => .fail (stop.settle r') r'
  | .fail stop r =>
    let r' := (finish r).rest
    .fail (stop.settle r') r'

/-- The items of an array after its bracket, each read by `item`. `fuel` bounds their number. -/
def itemsFrom {α : Type} (item : Reader α) : Nat → Bool → List Char → Outcome (List α)
  | 0, _, s => here .endInList s
  | fuel + 1, first, s =>
    match nextItem first s with
    | .fail stop r => .fail stop r
    | .ok false r => .ok [] r
    | .ok true r =>
      match item r with
      | .fail stop r' => .fail stop r'
      | .ok a r' => (itemsFrom item fuel false r').map (a :: ·)

/-- An array, from its bracket on. -/
def arrayOf {α : Type} (item : Reader α) : Reader (List α) := fun s =>
  enclosed (itemsFrom item (s.length + 1) true) endArray (s.drop 1)

/-- The members of an object after its brace. -/
def membersFrom {α : Type} (value : Reader α) :
    Nat → Bool → List Char → Outcome (List (String × α))
  | 0, _, s => here .endInObject s
  | fuel + 1, first, s =>
    match nextName first s with
    | .fail stop r => .fail stop r
    | .ok none r => .ok [] r
    | .ok (some name) r =>
      match (colon r).andThen fun _ => value with
      | .fail stop r' => .fail stop r'
      | .ok a r' => (membersFrom value fuel false r').map ((name, a) :: ·)

/-- An object, from its brace on. -/
def objectOf {α : Type} (value : Reader α) : Reader (List (String × α)) := fun s =>
  enclosed (membersFrom value (s.length + 1) true) endObject (s.drop 1)

/-- Reads a whole text: a value, then nothing but blanks. -/
def readAll {α : Type} (reader : Reader α) (text : String) : Except Error α :=
  let s := text.toList
  let place (stop : Stop) : Error :=
    ⟨stop.fault, stop.after.map fun n => lineAndColumn s (bytes s - n)⟩
  match reader s with
  | .fail stop _ => .error (place stop)
  | .ok a r =>
    match skipBlanks r with
    | [] => .ok a
    | r' => .error (place ⟨.trailingCharacters, some (bytes r' - 1)⟩)

end ScanMatrix.Json
