import ScanMatrix.Decimal.Style
import ScanMatrix.Json.Basic

/-!
# Writing JSON

Either on one line without blanks, or with every item and member on a line of its own, two
spaces deeper than its container. A number that is not finite is written `null`.
-/

namespace ScanMatrix.Json

def hexDigit (n : Nat) : Char := Nat.digitChar n

def escape (c : Char) : List Char :=
  if c = '"' then ['\\', '"']
  else if c = '\\' then ['\\', '\\']
  else if c = '\x08' then ['\\', 'b']
  else if c = '\t' then ['\\', 't']
  else if c = '\n' then ['\\', 'n']
  else if c = '\x0c' then ['\\', 'f']
  else if c = '\r' then ['\\', 'r']
  else if c < ' ' then ['\\', 'u', '0', '0', hexDigit (c.toNat / 16), hexDigit (c.toNat % 16)]
  else [c]

def writeString (s : String) : String :=
  "\"" ++ String.ofList (s.toList.flatMap escape) ++ "\""

def writeNumber : Number → String
  | .integer n => toString n
  | .decimal x => Decimal.Style.document.write x

mutual

def compact : Json → String
  | .null => "null"
  | .bool b => if b then "true" else "false"
  | .number n => writeNumber n
  | .string s => writeString s
  | .array items => "[" ++ compactItems items ++ "]"
  | .object members => "\x7b" ++ compactMembers members ++ "\x7d"

def compactItems : List Json → String
  | [] => ""
  | [v] => compact v
  | v :: items => compact v ++ "," ++ compactItems items

def compactMembers : List (String × Json) → String
  | [] => ""
  | [(name, v)] => writeString name ++ ":" ++ compact v
  | (name, v) :: members => writeString name ++ ":" ++ compact v ++ "," ++ compactMembers members

end

def newLine (depth : Nat) : String := String.ofList ('\n' :: List.replicate (2 * depth) ' ')

mutual

/-- The text of a value that stands `depth` containers deep. -/
def pretty (depth : Nat) : Json → String
  | .null => "null"
  | .bool b => if b then "true" else "false"
  | .number n => writeNumber n
  | .string s => writeString s
  | .array [] => "[]"
  | .array (v :: items) => "[" ++ prettyItems (depth + 1) (v :: items) ++ newLine depth ++ "]"
  | .object [] => "\x7b\x7d"
  | .object (m :: members) =>
    "\x7b" ++ prettyMembers (depth + 1) (m :: members) ++ newLine depth ++ "\x7d"

def prettyItems (depth : Nat) : List Json → String
  | [] => ""
  | [v] => newLine depth ++ pretty depth v
  | v :: items => newLine depth ++ pretty depth v ++ "," ++ prettyItems depth items

def prettyMembers (depth : Nat) : List (String × Json) → String
  | [] => ""
  | [(name, v)] => newLine depth ++ writeString name ++ ": " ++ pretty depth v
  | (name, v) :: members =>
    newLine depth ++ writeString name ++ ": " ++ pretty depth v ++ "," ++
      prettyMembers depth members

end

end ScanMatrix.Json
