import ScanMatrix.Text.Position

/-!
# What can be wrong with a JSON text

A fault is either in the notation itself or in what the text says: a `Mismatch` between the value
found and the value asked for.
-/

namespace ScanMatrix

/-- A value that is not of the form asked for. `found` and `wanted` are descriptions. -/
inductive Mismatch where
  | wrongKind (found wanted : String)
  | wrongLength (count : Nat) (wanted : String)
  | missingField (name : String)
  | duplicateField (name : String)
  | unknownChoice (name : String) (choices : List String)
  | notSingleMember

namespace Mismatch

private def quoted (s : String) : String := "`" ++ s ++ "`"

def choiceText : List String → String
  | [] => "there are no variants"
  | [a] => "expected " ++ quoted a
  | [a, b] => "expected " ++ quoted a ++ " or " ++ quoted b
  | choices => "expected one of " ++ ", ".intercalate (choices.map quoted)

def message : Mismatch → String
  | .wrongKind found wanted => "invalid type: " ++ found ++ ", expected " ++ wanted
  | .wrongLength count wanted => "invalid length " ++ toString count ++ ", expected " ++ wanted
  | .missingField name => "missing field " ++ quoted name
  | .duplicateField name => "duplicate field " ++ quoted name
  | .unknownChoice name choices => "unknown variant " ++ quoted name ++ ", " ++ choiceText choices
  | .notSingleMember => "invalid value: map, expected map with a single key"

end Mismatch

namespace Json

inductive Fault where
  | endInValue
  | endInList
  | endInObject
  | endInString
  | expectedValue
  | expectedWord
  | expectedColon
  | expectedCommaOrBracket
  | expectedCommaOrBrace
  | nameNotString
  | trailingComma
  | trailingCharacters
  | tooDeep
  | badNumber
  | numberOutOfRange
  | controlCharacter
  | badEscape
  | loneSurrogate
  | unpairedSurrogate
  /-- A value that the reader of a document does not take. -/
  | refused (why : String)
  | mismatch (what : Mismatch)

namespace Fault

def message : Fault → String
  | .endInValue => "EOF while parsing a value"
  | .endInList => "EOF while parsing a list"
  | .endInObject => "EOF while parsing an object"
  | .endInString => "EOF while parsing a string"
  | .expectedValue => "expected value"
  | .expectedWord => "expected ident"
  | .expectedColon => "expected `:`"
  | .expectedCommaOrBracket => "expected `,` or `]`"
  | .expectedCommaOrBrace => "expected `,` or `\x7d`"
  | .nameNotString => "key must be a string"
  | .trailingComma => "trailing comma"
  | .trailingCharacters => "trailing characters"
  | .tooDeep => "recursion limit exceeded"
  | .badNumber => "invalid number"
  | .numberOutOfRange => "number out of range"
  | .controlCharacter => "control character (\\u0000-\\u001F) found while parsing a string"
  | .badEscape => "invalid escape"
  | .loneSurrogate => "lone leading surrogate in hex escape"
  | .unpairedSurrogate => "unexpected end of hex escape"
  | .refused why => why
  | .mismatch what => what.message

end Fault

/-- A fault and, where it is known, the line and column at which it is reported. -/
structure Error where
  fault : Fault
  place : Option (Nat × Nat)

namespace Error

def message (e : Error) : String :=
  match e.place with
  | none => e.fault.message
  | some (line, column) =>
    e.fault.message ++ " at line " ++ toString line ++ " column " ++ toString column

end Error

end Json

end ScanMatrix
