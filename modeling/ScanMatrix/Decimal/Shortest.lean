import ScanMatrix.Decimal.Binary

/-!
# The shortest decimal that reads back

Of the decimals that round to a given double the one with the fewest digits is chosen, and of
those the nearest; of two equally near a `Tie` chooses one. With a given number of digits only
the two neighbours of the double on that decimal grid can be nearest, so each length is decided
by two comparisons.
-/

namespace ScanMatrix.Decimal

/-- The decimal `d₁.d₂d₃… * 10 ^ exponent`, where `coefficient` holds all its digits. -/
structure Digits where
  coefficient : Nat
  exponent : Int

namespace Shortest

/-- The exponent `e` with `10 ^ e ≤ m * 2 ^ q < 10 ^ (e + 1)`, for a positive `m`.
The logarithm of the leading power of two gives it or the number below it. -/
def magnitude (m : Nat) (q : Int) : Int :=
  let low := ((m.log2 : Int) + q) * 30103 / 100000 - 1
  let reaches (e : Int) : Bool :=
    let r := (Ratio.ofBinary m q).scale (-e)
    r.den ≤ r.num
  if reaches (low + 2) then low + 2 else if reaches (low + 1) then low + 1 else low

/-- The decimal with `count` digits nearest to `m * 2 ^ q`, if one of that length lies among
the numbers that round to it. `e` is the magnitude, `gap` a quarter of the space below. -/
def ofLength (tie : Tie) (m : Nat) (q : Int) (e : Int) (count : Nat) : Option Nat :=
  let below := if m == Nat.pow 2 52 && q > -1074 then 1 else 2
  let shift : Int := (count : Int) - 1 - e
  let scaled (k : Nat) : Ratio := (Ratio.ofBinary k (q - 2)).scale shift
  let value := scaled (4 * m)
  let low := scaled (4 * m - below)
  let high := scaled (4 * m + 2)
  let inside (n : Nat) : Bool :=
    if m % 2 == 0 then low.num ≤ n * low.den && n * high.den ≤ high.num
    else low.num < n * low.den && n * high.den < high.num
  let floor := value.num / value.den
  let nearest := value.round tie
  let other := if nearest == floor then floor + 1 else floor
  if inside nearest then some nearest else if inside other then some other else none

def search (tie : Tie) (m : Nat) (q : Int) (e : Int) : Nat → Nat → Digits
  | 0, count => ⟨((Ratio.ofBinary m q).scale ((count : Int) - 1 - e)).round tie, e⟩
  | tries + 1, count =>
    match ofLength tie m q e count with
    | some n => if n == Nat.pow 10 count then ⟨1, e + 1⟩ else ⟨n, e⟩
    | none => search tie m q e tries (count + 1)

/-- The shortest digits of the positive number `m * 2 ^ q`. Seventeen always suffice. -/
def digits (tie : Tie) (m : Nat) (q : Int) : Digits := search tie m q (magnitude m q) 17 1

end Shortest

end ScanMatrix.Decimal
