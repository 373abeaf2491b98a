/-!
# Doubles as exact binary fractions

A finite double is `± m * 2 ^ q` with `m` below `2 ^ 53`. Everything that writes a double as
decimal text starts from this form and stays within the natural numbers.
-/

namespace ScanMatrix.Decimal

inductive Binary where
  | nan
  | infinite (negative : Bool)
  | finite (negative : Bool) (mantissa : Nat) (exponent : Int)

namespace Binary

def ofBits (bits : Nat) : Binary :=
  let negative := bits / Nat.pow 2 63 == 1
  let field : Nat := bits / Nat.pow 2 52 % Nat.pow 2 11
  let fraction := bits % Nat.pow 2 52
  if field == 2047 then
    if fraction == 0 then .infinite negative else .nan
  else if field == 0 then .finite negative fraction (-1074)
  else .finite negative (Nat.pow 2 52 + fraction) ((field : Int) - 1075)

def ofFloat (x : Float) : Binary := ofBits x.toBits.toNat

end Binary

/-- A non-negative number as a quotient of naturals. -/
structure Ratio where
  num : Nat
  den : Nat

/-- Where a number goes that lies half way between two neighbours. -/
inductive Tie where
  | toEven
  /-- To the neighbour farther from zero. -/
  | away

namespace Ratio

/-- The quotient `m * 2 ^ q`. -/
def ofBinary (m : Nat) (q : Int) : Ratio :=
  match q with
  | .ofNat k => ⟨m * Nat.pow 2 k, 1⟩
  | .negSucc k => ⟨m, Nat.pow 2 (k + 1)⟩

/-- The quotient times `10 ^ e`. -/
def scale (r : Ratio) (e : Int) : Ratio :=
  match e with
  | .ofNat k => ⟨r.num * Nat.pow 10 k, r.den⟩
  | .negSucc k => ⟨r.num, r.den * Nat.pow 10 (k + 1)⟩

/-- The nearest natural; `tie` chooses between two that are equally near. -/
def round (r : Ratio) (tie : Tie) : Nat :=
  let n := r.num / r.den
  let rest := r.num % r.den
  if 2 * rest < r.den then n
  else if r.den < 2 * rest then n + 1
  else match tie with
    | .toEven => if n % 2 == 0 then n else n + 1
    | .away => n + 1

end Ratio

end ScanMatrix.Decimal
