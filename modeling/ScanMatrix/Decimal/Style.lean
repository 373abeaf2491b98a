import ScanMatrix.Decimal.Shortest

/-!
# Decimal texts of doubles

Two families: the shortest digits that read back, laid out by a `Style`, and a fixed number
of decimal places, where the exact binary value is rounded and a half goes to the even neighbour.
-/

namespace ScanMatrix.Decimal

/-- How shortest digits are laid out. -/
structure Style where
  /-- Which of two shortest decimals that are equally near is written. -/
  tie : Tie
  /-- Whether a number whose first digit stands at this power of ten is written without one. -/
  positional : Int → Bool
  /-- Whether a whole number keeps `.0`. -/
  keepsPoint : Bool
  nan : String
  infinity : String

namespace Style

/-- The notation of documents: an exponent is written from `1e16` on and below `0.00001`. -/
def document : Style where
  tie := .toEven
  positional e := -5 ≤ e && e ≤ 15
  keepsPoint := true
  nan := "null"
  infinity := "null"

/-- The notation of messages: never an exponent, and no point in whole numbers. -/
def plain : Style where
  tie := .away
  positional _ := true
  keepsPoint := false
  nan := "NaN"
  infinity := "inf"

/-- As `plain`, but a whole number keeps its point. -/
def pointed : Style := { plain with keepsPoint := true }

private def zeros (n : Nat) : String := String.ofList (List.replicate n '0')

private def signed (negative : Bool) (s : String) : String := if negative then "-" ++ s else s

def writeDigits (style : Style) (d : Digits) : String :=
  let ds := (Nat.toDigits 10 d.coefficient)
  let text := String.ofList ds
  let count := ds.length
  let whole := if style.keepsPoint then ".0" else ""
  if style.positional d.exponent then
    match d.exponent with
    | .ofNat e =>
      if count ≤ e + 1 then text ++ zeros (e + 1 - count) ++ whole
      else String.ofList (ds.take (e + 1)) ++ "." ++ String.ofList (ds.drop (e + 1))
    | .negSucc e => "0." ++ zeros e ++ text
  else
    let mantissa :=
      if count == 1 then text else String.ofList (ds.take 1) ++ "." ++ String.ofList (ds.drop 1)
    let power := toString d.exponent.natAbs
    mantissa ++ (if d.exponent < 0 then "e-" else "e+") ++ power

def write (style : Style) (x : Float) : String :=
  match Binary.ofFloat x with
  | .nan => style.nan
  | .infinite negative =>
    if style.infinity == style.nan then style.nan else signed negative style.infinity
  | .finite negative m q =>
    signed negative <|
      if m == 0 then (if style.keepsPoint then "0.0" else "0")
      else style.writeDigits (Shortest.digits style.tie m q)

end Style

/-- The text with exactly `places` digits after the point. A negative zero keeps its sign. -/
def fixed (places : Nat) (x : Float) : String :=
  match Binary.ofFloat x with
  | .nan => "NaN"
  | .infinite negative => if negative then "-inf" else "inf"
  | .finite negative m q =>
    let n := ((Ratio.ofBinary m q).scale places).round .toEven
    let ds := Nat.toDigits 10 n
    let ds := List.replicate (places + 1 - ds.length) '0' ++ ds
    let whole := String.ofList (ds.take (ds.length - places))
    let part := if places == 0 then "" else "." ++ String.ofList (ds.drop (ds.length - places))
    (if negative then "-" else "") ++ whole ++ part

end ScanMatrix.Decimal
