import ScanMatrix.Decimal.Nearest
import ScanMatrix.Text.Digit
import ScanMatrix.Text.Position
import ScanMatrix.Toml.Item

/-!
# Reading TOML: tokens

A parser takes the front of a text, or fails. Why it fails is not kept, because a text that is
not TOML is refused without a reason.
-/

namespace ScanMatrix.Toml

open Text

abbrev Parser (α : Type) := List Char → Option (α × List Char)

/-- The stretch between two places, given what is left at each. -/
def spanOf (start stop : List Char) : Span := ⟨bytes start, bytes stop⟩

def isBlank (c : Char) : Bool := c = ' ' || c = '\t'

def skipBlanks (s : List Char) : List Char := s.dropWhile isBlank

def expect (c : Char) : Parser Unit
  | d :: s => if c = d then some ((), s) else none
  | [] => none

def newline : Parser Unit
  | '\n' :: s => some ((), s)
  | '\r' :: '\n' :: s => some ((), s)
  | _ => none

/-- A character that a comment may hold: no control character but the tab. -/
def isPlain (c : Char) : Bool := c = '\t' || (' ' ≤ c && c ≠ '\x7f')

def skipComment : List Char → List Char
  | '#' :: s => s.dropWhile isPlain
  | s => s

/-- The end of a line: blanks, a comment, then a line break or the end of the text. -/
def endLine (s : List Char) : Option (List Char) :=
  match skipComment (skipBlanks s) with
  | [] => some []
  | s => (newline s).map (·.2)

/-- Blanks, comments and line breaks, as they stand between the values of an array. -/
def skipLines : Nat → List Char → Option (List Char)
  | 0, s => some s
  | fuel + 1, s =>
    match skipBlanks s with
    | '#' :: r => do
      let (_, r) ← newline (r.dropWhile isPlain)
      skipLines fuel r
    | r =>
      match newline r with
      | some (_, r') => skipLines fuel r'
      | none => some r

/-! ## Strings -/

/-- The character with a code of exactly `count` hexadecimal digits. -/
def hexCharacter (count : Nat) (s : List Char) : Option (Char × List Char) := do
  let ds := s.take count
  if ds.length < count then none
  let n ← ds.foldlM (fun n c => (hexDigit? c).map (n * 16 + ·)) 0
  if n < 0xD800 ∨ (0xDFFF < n ∧ n < 0x110000) then some (Char.ofNat n, s.drop count) else none

/-- An escape, after its backslash. -/
def escape : Parser Char
  | 'b' :: s => some ('\x08', s)
  | 't' :: s => some ('\t', s)
  | 'n' :: s => some ('\n', s)
  | 'f' :: s => some ('\x0c', s)
  | 'r' :: s => some ('\r', s)
  | '"' :: s => some ('"', s)
  | '\\' :: s => some ('\\', s)
  | 'u' :: s => hexCharacter 4 s
  | 'U' :: s => hexCharacter 8 s
  | _ => none

/-- The characters of a string on one line up to its closing quote. -/
def lineString : Nat → List Char → Parser String
  | 0, _, _ => none
  | _, _, [] => none
  | _, taken, '"' :: s => some (String.ofList taken.reverse, s)
  | fuel + 1, taken, '\\' :: s => do
    let (c, s) ← escape s
    lineString fuel (c :: taken) s
  | fuel + 1, taken, c :: s => if isPlain c then lineString fuel (c :: taken) s else none

/-- The characters of a literal string up to its closing quote. -/
def literalString (taken : List Char) : Parser String
  | [] => none
  | '\'' :: s => some (String.ofList taken.reverse, s)
  | c :: s => if isPlain c then literalString (c :: taken) s else none

/-- Passes over the blanks and line breaks after a line break that is escaped. -/
def skipSpace : Nat → List Char → List Char
  | 0, s => s
  | fuel + 1, s =>
    let r := skipBlanks s
    match newline r with
    | some (_, r') => skipSpace fuel r'
    | none => r

/-- The characters of a string over several lines. Up to two quotes may stand anywhere in it, also
right before the three that close it. `escapes` tells whether a backslash has a meaning. -/
def longString (quote : Char) (escapes : Bool) : Nat → List Char → Parser String
  | 0, _, _ => none
  | _, _, [] => none
  | fuel + 1, taken, c :: s =>
    if c = quote then
      let run := (c :: s).takeWhile (· = quote)
      let rest := (c :: s).dropWhile (· = quote)
      if run.length < 3 then longString quote escapes fuel (run ++ taken) rest
      else
        let extra := min 2 (run.length - 3)
        some (String.ofList (List.replicate extra quote ++ taken).reverse, (c :: s).drop (extra + 3))
    else if c = '\\' ∧ escapes then
      match newline (skipBlanks s) with
      | some (_, r) => longString quote escapes fuel taken (skipSpace (r.length + 1) r)
      | none => do
        let (e, r) ← escape s
        longString quote escapes fuel (e :: taken) r
    else
      match newline (c :: s) with
      | some (_, r) => longString quote escapes fuel ('\n' :: taken) r
      | none => if isPlain c then longString quote escapes fuel (c :: taken) s else none

def skipFirstNewline (s : List Char) : List Char :=
  match newline s with
  | some (_, r) => r
  | none => s

/-- A string of any kind. -/
def string : Parser String
  | '"' :: '"' :: '"' :: s => longString '"' true (s.length + 1) [] (skipFirstNewline s)
  | '\'' :: '\'' :: '\'' :: s => longString '\'' false (s.length + 1) [] (skipFirstNewline s)
  | '"' :: s => lineString (s.length + 1) [] s
  | '\'' :: s => literalString [] s
  | _ => none

/-! ## Numbers -/

/-- Digits of some kind, with single underscores between them. -/
def digitRun (ok : Char → Bool) : Parser (List Char)
  | [] => none
  | c :: s => if ok c then go [c] s else none
where
  go (taken : List Char) : Parser (List Char)
    | [] => some (taken.reverse, [])
    | '_' :: d :: s => if ok d then go (d :: taken) s else none
    | c :: s =>
      if ok c then go (c :: taken) s
      else if c = '_' then none
      else some (taken.reverse, c :: s)

/-- A sign, `true` for minus. -/
def sign : List Char → Bool × List Char
  | '-' :: s => (true, s)
  | '+' :: s => (false, s)
  | s => (false, s)

def isRadixDigit (base : Nat) (c : Char) : Bool := match hexDigit? c with
  | some n => n < base
  | none => false

def inRange (n : Int) : Bool := -(Nat.pow 2 63) ≤ n && n < Nat.pow 2 63

def radixInteger (base : Nat) (s : List Char) : Option (Atom × List Char) := do
  let (ds, s) ← digitRun (isRadixDigit base) s
  let n := natOf base ds
  if inRange n then some (.integer n, s) else none

/-- The digits of a decimal integer, which begins with a zero only if it is zero. -/
def decimalDigits : Parser (List Char)
  | '0' :: s => some (['0'], s)
  | s => digitRun Char.isDigit s

/-- The exponent of a number, after its letter. -/
def exponent (s : List Char) : Option (Int × List Char) := do
  let (negative, s) := sign s
  let (ds, s) ← digitRun Char.isDigit s
  let n : Int := natOf 10 ds
  return (if negative then -n else n, s)

/-- The float with the given digits. One that is too large is infinite, which only a negative
number may be. -/
def floatOf (negative : Bool) (ds : List Char) (e : Int) : Option Atom :=
  let x := Decimal.nearest (natOf 10 ds) e
  if negative then some (.float (-x)) else if x.isInf then none else some (.float x)

/-- A decimal integer or float. -/
def decimal (s : List Char) : Option (Atom × List Char) := do
  let (negative, s) := sign s
  let (whole, s) ← decimalDigits s
  match s with
  | '.' :: s =>
    let (part, s) ← digitRun Char.isDigit s
    let scale : Int := -(part.length : Int)
    match s with
    | c :: r =>
      if c = 'e' ∨ c = 'E' then
        let (e, r) ← exponent r
        return (← floatOf negative (whole ++ part) (scale + e), r)
      else return (← floatOf negative (whole ++ part) scale, c :: r)
    | [] => return (← floatOf negative (whole ++ part) scale, [])
  | c :: r =>
    if c = 'e' ∨ c = 'E' then
      let (e, r) ← exponent r
      return (← floatOf negative whole e, r)
    else integer negative whole (c :: r)
  | [] => integer negative whole []
where
  integer (negative : Bool) (ds : List Char) (s : List Char) : Option (Atom × List Char) :=
    let n : Int := natOf 10 ds
    let n := if negative then -n else n
    if inRange n then some (.integer n, s) else none

def infinity : Float := Float.ofBits 0x7ff0000000000000

def notNumber : Float := Float.ofBits 0x7ff8000000000000

/-- Infinity or no number, with or without a sign. -/
def specialFloat (s : List Char) : Option (Atom × List Char) :=
  let (negative, s) := sign s
  match s with
  | 'i' :: 'n' :: 'f' :: r => some (.float (if negative then -infinity else infinity), r)
  | 'n' :: 'a' :: 'n' :: r => some (.float notNumber, r)
  | _ => none

def number (s : List Char) : Option (Atom × List Char) :=
  match s with
  | '0' :: 'x' :: r => radixInteger 16 r
  | '0' :: 'o' :: r => radixInteger 8 r
  | '0' :: 'b' :: r => radixInteger 2 r
  | _ =>
    match specialFloat s with
    | some found => some found
    | none => decimal s

/-! ## Dates and times -/

/-- A number of exactly `count` digits within bounds. -/
def fixedDigits (count low high : Nat) (s : List Char) : Option (Nat × List Char) :=
  let ds := s.take count
  let n := natOf 10 ds
  if ds.length = count ∧ ds.all Char.isDigit ∧ low ≤ n ∧ n ≤ high then some (n, s.drop count) else none

def daysIn (year month : Nat) : Nat :=
  if month = 2 then
    if year % 4 = 0 ∧ (year % 100 ≠ 0 ∨ year % 400 = 0) then 29 else 28
  else if month ∈ [4, 6, 9, 11] then 30
  else 31

/-- The number with zeros in front up to a width. -/
def padded (width n : Nat) : String :=
  let ds := Nat.toDigits 10 n
  String.ofList (List.replicate (width - ds.length) '0' ++ ds)

def date (s : List Char) : Option (String × List Char) := do
  let (year, s) ← fixedDigits 4 0 9999 s
  let (_, s) ← expect '-' s
  let (month, s) ← fixedDigits 2 1 12 s
  let (_, s) ← expect '-' s
  let (day, s) ← fixedDigits 2 1 (daysIn year month) s
  return (padded 4 year ++ "-" ++ padded 2 month ++ "-" ++ padded 2 day, s)

/-- The digits of a fraction of a second, of which nine count, without the zeros at the end. -/
def secondFraction : List Char → String × List Char
  | '.' :: s =>
    let ds := s.takeWhile Char.isDigit
    if ds.isEmpty then ("", '.' :: s)
    else
      let kept := ((ds.take 9).reverse.dropWhile (· = '0')).reverse
      (if kept.isEmpty then "" else "." ++ String.ofList kept, s.dropWhile Char.isDigit)
  | s => ("", s)

def time (s : List Char) : Option (String × List Char) := do
  let (hour, s) ← fixedDigits 2 0 23 s
  let (_, s) ← expect ':' s
  let (minute, s) ← fixedDigits 2 0 59 s
  let (_, s) ← expect ':' s
  let (second, s) ← fixedDigits 2 0 60 s
  let (part, s) := secondFraction s
  return (padded 2 hour ++ ":" ++ padded 2 minute ++ ":" ++ padded 2 second ++ part, s)

/-- The offset of a time from universal time, empty when there is none. -/
def timeOffset (s : List Char) : Option (String × List Char) :=
  match s with
  | 'Z' :: r => some ("Z", r)
  | 'z' :: r => some ("Z", r)
  | c :: r =>
    if c = '+' ∨ c = '-' then do
      let (hour, r) ← fixedDigits 2 0 23 r
      let (_, r) ← expect ':' r
      let (minute, r) ← fixedDigits 2 0 59 r
      let zero := hour = 0 ∧ minute = 0
      let mark := if c = '-' ∧ ¬zero then "-" else "+"
      return (mark ++ padded 2 hour ++ ":" ++ padded 2 minute, r)
    else some ("", s)
  | [] => some ("", [])

def isTimeMark (c : Char) : Bool := c = 'T' || c = 't' || c = ' '

/-- A date, a time, or both, in its normal form. -/
def datetime (s : List Char) : Option (Atom × List Char) :=
  match date s with
  | none => (time s).map fun (t, r) => (.datetime t, r)
  | some (d, r) =>
    match r with
    | c :: r' =>
      match (if isTimeMark c then time r' else none) with
      | none => some (.datetime d, r)
      | some (t, r'') => (timeOffset r'').map fun (o, r''') => (.datetime (d ++ "T" ++ t ++ o), r''')
    | [] => some (.datetime d, [])

def word (letters : List Char) (value : Atom) (s : List Char) : Option (Atom × List Char) :=
  if letters.isPrefixOf s then some (value, s.drop letters.length) else none

/-- A value that holds no other values. -/
def atom (s : List Char) : Option (Atom × List Char) :=
  match s with
  | [] => none
  | c :: _ =>
    if c = '"' ∨ c = '\'' then (string s).map fun (t, r) => (.string t, r)
    else if c = 't' then word ['t', 'r', 'u', 'e'] (.boolean true) s
    else if c = 'f' then word ['f', 'a', 'l', 's', 'e'] (.boolean false) s
    else if c = 'i' ∨ c = 'n' then specialFloat s
    else if c = '+' ∨ c = '-' ∨ c.isDigit then
      match datetime s with
      | some found => some found
      | none => number s
    else none

/-! ## Keys -/

def isBareKey (c : Char) : Bool :=
  c.isAlphanum || c = '-' || c = '_'

/-- One part of a key. -/
def keyPart (s : List Char) : Option (Key × List Char) := do
  let (name, r) ← match s with
    | '"' :: r => lineString (r.length + 1) [] r
    | '\'' :: r => literalString [] r
    | _ =>
      let bare := s.takeWhile isBareKey
      if bare.isEmpty then none else some (String.ofList bare, s.dropWhile isBareKey)
  return (⟨name, spanOf s r⟩, r)

def keyParts : Nat → Parser (List Key)
  | 0, _ => none
  | fuel + 1, s => do
    let (key, r) ← keyPart (skipBlanks s)
    match skipBlanks r with
    | '.' :: r' =>
      let (keys, r'') ← keyParts fuel r'
      return (key :: keys, r'')
    | r' => return ([key], r')

/-- A key: the tables on its way and its last part. It has less than eighty parts. -/
def key (s : List Char) : Option ((List Key × Key) × List Char) := do
  let (keys, r) ← keyParts (s.length + 1) s
  if 80 ≤ keys.length then none
  let last ← keys.getLast?
  return ((keys.dropLast, last), r)

end ScanMatrix.Toml
