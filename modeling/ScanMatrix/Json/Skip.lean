import ScanMatrix.Json.Reader

/-!
# Passing over JSON values

A value that nobody asks for is passed over. Less is refused then: containers may stand inside
one another to any depth, and numbers may be of any size.
-/

namespace ScanMatrix.Json

open Outcome

/-- Passes over a string, whose opening quote has been taken. -/
def skipText : Reader Unit
  | [] => here .endInString []
  | '"' :: s => .ok () s
  | '\\' :: [] => here .endInString []
  | '\\' :: e :: s =>
    if (simpleEscape? e).isSome then skipText s
    else if e ≠ 'u' then past 1 .badEscape (e :: s)
    else match s with
      | a :: b :: c :: d :: s' => if (hex4? a b c d).isSome then skipText s' else badHex s
      | _ => badHex s
  | c :: s => if c < ' ' then here .controlCharacter (c :: s) else skipText s

def skipExponent (s : List Char) : Outcome Unit :=
  let s := match s with
    | '+' :: r => r
    | '-' :: r => r
    | r => r
  if s.head?.any Char.isDigit then .ok () (s.dropWhile Char.isDigit) else past 1 .badNumber s

def skipFraction (s : List Char) : Outcome Unit :=
  if s.head?.any Char.isDigit then
    match s.dropWhile Char.isDigit with
    | 'e' :: r => skipExponent r
    | 'E' :: r => skipExponent r
    | r => .ok () r
  else peek .badNumber s

def skipAfterInteger : Reader Unit
  | '.' :: s => skipFraction s
  | 'e' :: s => skipExponent s
  | 'E' :: s => skipExponent s
  | s => .ok () s

def skipUnsigned : Reader Unit
  | '0' :: s =>
    if s.head?.any Char.isDigit then peek .badNumber s else skipAfterInteger s
  | c :: s =>
    if c.isDigit then skipAfterInteger (s.dropWhile Char.isDigit) else past 1 .badNumber (c :: s)
  | [] => here .badNumber []

def skipScalar : Reader Unit
  | '"' :: s => skipText s
  | '-' :: s => skipUnsigned s
  | c :: s => if c.isDigit then skipUnsigned (c :: s) else (scalar (c :: s)).map fun _ => ()
  | [] => peek .endInValue []

inductive Container where
  | array
  | object

namespace Container

def closing : Container → Char
  | array => ']'
  | object => '\x7d'

def unfinished : Container → Fault
  | array => .endInList
  | object => .endInObject

def unseparated : Container → Fault
  | array => .expectedCommaOrBracket
  | object => .expectedCommaOrBrace

end Container

/-- Takes what stands before a value in a container: nothing, or a name and a colon. -/
def skipName : Container → Reader Unit
  | .array, s => .ok () s
  | .object, s =>
    match skipBlanks s with
    | [] => peek .endInObject []
    | '"' :: r => (skipText r).andThen fun _ => colon
    | r => peek .nameNotString r

mutual

/-- Passes over a value, then over the rest of the containers that are open around it. -/
def skipFrom : Nat → List Container → Reader Unit
  | 0, _, s => here .endInValue s
  | fuel + 1, around, s =>
    match skipBlanks s with
    | [] => peek .endInValue []
    | '[' :: r => skipNext fuel false (.array :: around) r
    | '\x7b' :: r => skipNext fuel false (.object :: around) r
    | r => (skipScalar r).andThen fun _ => skipNext fuel true around

/-- Goes on in the innermost open container, `started` when a value stands before. -/
def skipNext : Nat → Bool → List Container → Reader Unit
  | _, _, [], s => .ok () s
  | 0, _, _, s => here .endInValue s
  | fuel + 1, started, inner :: around, s =>
    match skipBlanks s with
    | [] => peek inner.unfinished []
    | c :: r =>
      if c = ',' ∧ started then (skipName inner r).andThen fun _ => skipFrom fuel (inner :: around)
      else if c = inner.closing then skipNext fuel true around r
      else if started then peek inner.unseparated (c :: r)
      else (skipName inner (c :: r)).andThen fun _ => skipFrom fuel (inner :: around)

end

def skip : Reader Unit := fun s => skipFrom (2 * s.length + 2) [] s

end ScanMatrix.Json
