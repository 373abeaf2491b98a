import ScanMatrix.Decimal.Nearest
import ScanMatrix.Json.Basic
import ScanMatrix.Json.Scan

/-!
# Reading JSON: numbers

An integer that fits in 64 bits is kept exact. Every other number is a double that is computed
from a significand and a power of ten. The significand takes the leading digits for as long as
it stays below `2 ^ 64`; the digits after them only count places. One multiplication or division
by a power of ten follows, so the result may be a neighbour of the nearest double.
-/

namespace ScanMatrix.Json

open Outcome Text

def significandLimit : Nat := Nat.pow 2 64

def powerOfTen (k : Nat) : Float := Decimal.nearest 1 k

/-- Takes digits into a significand; tells how many were taken and how many did not fit. The
first that does not fit ends it. -/
def absorb (m : Nat) : List Char → Nat × Nat × Nat
  | [] => (m, 0, 0)
  | c :: ds =>
    if m * 10 + digitValue c < significandLimit then
      let (n, taken, spare) := absorb (m * 10 + digitValue c) ds
      (n, taken + 1, spare)
    else (m, 0, ds.length + 1)

/-- Divides by `10 ^ e`, in steps that a double can express. -/
def scaleDown (x : Float) (e : Nat) : Float :=
  if e ≤ 308 then x / powerOfTen e
  else if x == 0.0 then x
  else scaleDown (x / powerOfTen 308) (e - 308)
termination_by e

/-- The double for `m * 10 ^ e`; `none` when it is too large. -/
def scaled? (m : Nat) (e : Int) : Option Float :=
  let x := Float.ofNat m
  match e with
  | .negSucc k => some (scaleDown x (k + 1))
  | .ofNat k =>
    if k ≤ 308 then
      let y := x * powerOfTen k
      if y.isInf then none else some y
    else if x == 0.0 then some x
    else none

def signedDecimal (negative : Bool) (x : Float) : Number := .decimal (if negative then -x else x)

def decimal (negative : Bool) (m : Nat) (e : Int) : Reader Number := fun s =>
  match scaled? m e with
  | some x => .ok (signedDecimal negative x) s
  | none => here .numberOutOfRange s

def largestExponent : Nat := Nat.pow 2 31 - 1

/-- Keeps a power of ten within 32 bits. -/
def clampExponent (e : Int) : Int := max (-(Nat.pow 2 31)) (min largestExponent e)

/-- The digits of an exponent, the first of which has been taken into `e`. `none` when it passes
the largest exponent; the rest then begins after the digit that made it so. -/
def exponentDigits (e : Nat) : List Char → Option Nat × List Char
  | [] => (some e, [])
  | c :: s =>
    if c.isDigit then
      if e * 10 + digitValue c ≤ largestExponent then exponentDigits (e * 10 + digitValue c) s
      else (none, s)
    else (some e, c :: s)

/-- The exponent after its letter. -/
def exponent (negative : Bool) (m : Nat) (e : Int) : Reader Number := fun s =>
  let (down, s) : Bool × List Char := match s with
    | '+' :: r => (false, r)
    | '-' :: r => (true, r)
    | r => (false, r)
  match s with
  | [] => here .endInValue []
  | c :: r =>
    if c.isDigit then
      match exponentDigits (digitValue c) r with
      | (some k, r') =>
        decimal negative m (clampExponent (if down then e - k else e + k)) r'
      | (none, r') =>
        if m ≠ 0 ∧ !down then here .numberOutOfRange r'
        else .ok (signedDecimal negative 0.0) (r'.dropWhile Char.isDigit)
    else past 1 .badNumber (c :: r)

/-- What follows the digits of a fraction. -/
def afterFraction (negative : Bool) (m : Nat) (e : Int) : Reader Number
  | 'e' :: s => exponent negative m e s
  | 'E' :: s => exponent negative m e s
  | s => decimal negative m e s

/-- The fraction after its point. -/
def fraction (negative : Bool) (m : Nat) (e : Nat) : Reader Number := fun s =>
  let ds := s.takeWhile Char.isDigit
  if ds.isEmpty then
    if s.isEmpty then peek .endInValue s else peek .badNumber s
  else
    let (m, taken, _) := absorb m ds
    afterFraction negative m ((e : Int) - taken) (s.dropWhile Char.isDigit)

/-- What follows the integer part, `spare` digits of which did not fit into `m`. -/
def afterInteger (negative : Bool) (m spare : Nat) : Reader Number
  | '.' :: s => fraction negative m spare s
  | 'e' :: s => exponent negative m spare s
  | 'E' :: s => exponent negative m spare s
  | s =>
    if spare ≠ 0 then decimal negative m spare s
    else if !negative then .ok (.integer m) s
    else if m = 0 ∨ Nat.pow 2 63 < m then .ok (signedDecimal true (Float.ofNat m)) s
    else .ok (.integer (-m)) s

def unsigned (negative : Bool) : Reader Number
  | [] => here .endInValue []
  | '0' :: [] => afterInteger negative 0 0 []
  | '0' :: c :: s => if c.isDigit then peek .badNumber (c :: s) else afterInteger negative 0 0 (c :: s)
  | c :: s =>
    if c.isDigit then
      let (m, _, spare) := absorb 0 ((c :: s).takeWhile Char.isDigit)
      afterInteger negative m spare (s.dropWhile Char.isDigit)
    else past 1 .badNumber (c :: s)

/-- A number, from its sign or first digit on. -/
def numeral : Reader Number
  | '-' :: s => unsigned true s
  | s => unsigned false s

end ScanMatrix.Json
