/-!
# Places in a text

A place is counted in bytes from the start of a text. It is shown as a line, counted from one,
and a column: the bytes, or the characters, since the last line break.
-/

namespace ScanMatrix.Text

/-- The length of a text in bytes of UTF-8. -/
def bytes (s : List Char) : Nat := s.foldl (fun n c => n + c.utf8Size) 0

/-- The text from the given byte on. A character that is cut leaves as many stand-ins as bytes
of it remain, of a kind that no token starts with. -/
def dropBytes : Nat → List Char → List Char
  | 0, s => s
  | _, [] => []
  | n + 1, c :: s =>
    if c.utf8Size ≤ n + 1 then dropBytes (n + 1 - c.utf8Size) s
    else List.replicate (c.utf8Size - (n + 1)) '\x7f' ++ s

/-- The line of a place, and the number of bytes before it on that line. -/
def lineAndColumn (text : List Char) (offset : Nat) : Nat × Nat := go text offset 1 0
where
  go : List Char → Nat → Nat → Nat → Nat × Nat
    | [], left, line, column => (line, column + left)
    | c :: s, left, line, column =>
      if left < c.utf8Size then (line, column + left)
      else if c = '\n' then go s (left - 1) (line + 1) 0
      else go s (left - c.utf8Size) line (column + c.utf8Size)

end ScanMatrix.Text
