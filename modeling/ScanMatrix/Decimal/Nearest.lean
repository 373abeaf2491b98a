import ScanMatrix.Decimal.Binary

/-!
# The nearest double

The double nearest to a quotient of naturals; of two equally near, the one with an even mantissa.
-/

namespace ScanMatrix.Decimal

namespace Ratio

/-- The quotient times `2 ^ -q`. -/
def shift (r : Ratio) (q : Int) : Ratio :=
  match q with
  | .ofNat k => ⟨r.num, r.den * Nat.pow 2 k⟩
  | .negSucc k => ⟨r.num * Nat.pow 2 (k + 1), r.den⟩

/-- The exponent of the last bit that a double near the quotient has room for. -/
def lastBit (r : Ratio) : Int :=
  let q : Int := (r.num.log2 : Int) - r.den.log2 - 53
  let fits (q : Int) : Bool :=
    let s := r.shift q
    s.num < Nat.pow 2 53 * s.den
  max (-1074) (if fits q then q else if fits (q + 1) then q + 1 else q + 2)

/-- The bits of the nearest double. A rounding up to the next power of two carries into the
exponent field, as does one past the largest double, which gives infinity. -/
def nearestBits (r : Ratio) : Nat :=
  if r.num = 0 then 0
  else
    let q := r.lastBit
    let m := (r.shift q).round .toEven
    let bits := (q + 1074).toNat * Nat.pow 2 52 + m
    min bits (2047 * Nat.pow 2 52)

def toFloat (r : Ratio) : Float := Float.ofBits (UInt64.ofNat r.nearestBits)

end Ratio

/-- The double nearest to `coefficient * 10 ^ e`. Outside the range of doubles the power is not
computed. -/
def nearest (coefficient : Nat) (e : Int) : Float :=
  let size : Int := (Nat.toDigits 10 coefficient).length
  if coefficient = 0 ∨ e + size < -400 then 0.0
  else if 400 < e + size then Float.ofBits 0x7ff0000000000000
  else (Ratio.scale ⟨coefficient, 1⟩ e).toFloat

end ScanMatrix.Decimal
