/-!
Binary64 numbers as exact quotients. A finite number is `± m · 2 ^ e`; reading goes the other way, from a quotient to the
nearest number, with ties to the even significand.
-/

namespace Easel

/-- `base ^ e`, and one if `e` is below zero: a quotient times `base ^ e` is its numerator times this over its denominator times
`power base (-e)`. -/
def power (base : Nat) (e : Int) : Nat :=
  base.pow e.toNat

namespace Binary64

inductive Parts
  | nan
  | infinite (negative : Bool)
  | finite (negative : Bool) (significand : Nat) (exponent : Int)
  deriving Repr, DecidableEq

def parts (x : Float) : Parts :=
  let bits := x.toBits.toNat
  let negative : Bool := 0x8000000000000000 ≤ bits
  let exponent : Nat := bits / 0x10000000000000 % 0x800
  let fraction := bits % 0x10000000000000
  if exponent = 2047 then if fraction = 0 then .infinite negative else .nan
  else if exponent = 0 then .finite negative fraction (-1074)
  else .finite negative (0x10000000000000 + fraction) ((exponent : Int) - 1075)

def isFinite (x : Float) : Bool :=
  match parts x with
  | .finite .. => true
  | _ => false

/-- `n / d` rounded to the nearest whole number, a half to the even one. -/
def roundHalfEven (n d : Nat) : Nat :=
  let q := n / d
  let r := n % d
  if d < 2 * r ∨ (2 * r = d ∧ q % 2 = 1) then q + 1 else q

def ofBits (negative : Bool) (magnitude : Nat) : Float :=
  Float.ofBits (UInt64.ofNat (magnitude + if negative then 0x8000000000000000 else 0))

def infinityBits : Nat := 2047 * 0x10000000000000

/-- The exponent `e` for which `n / (d · 2 ^ e)` has 53 bits, or the least one there is. -/
def exponentOf (n d : Nat) : Int :=
  let e : Int := (n.log2 : Int) - d.log2 - 52
  let short : Bool := n * power 2 (-e) < 0x10000000000000 * (d * power 2 e)
  max (if short then e - 1 else e) (-1074)

def ofQuotient (negative : Bool) (n d : Nat) : Float :=
  if n = 0 then ofBits negative 0
  else
    let e := exponentOf n d
    let q := roundHalfEven (n * power 2 (-e)) (d * power 2 e)
    ofBits negative (min infinityBits ((e + 1074).toNat * 0x10000000000000 + q))

def infinity (negative : Bool) : Float :=
  ofBits negative infinityBits

def nan : Float :=
  ofBits false (infinityBits + 0x8000000000000)

/-- A whole number as binary64, unless it is beyond the largest. -/
def ofInt? (n : Int) : Option Float :=
  let x := ofQuotient (n < 0) n.natAbs 1
  if isFinite x then some x else none

/-- `± m · 10 ^ e`. Exponents far outside the range are settled by the number of digits. -/
def ofDecimal (negative : Bool) (m : Nat) (e : Int) : Float :=
  if m = 0 then ofBits negative 0
  else
    let magnitude := (m.log2 : Int) * 30103 / 100000 + e
    if 320 < magnitude then infinity negative
    else if magnitude < -400 then ofBits negative 0
    else ofQuotient negative (m * power 10 e) (power 10 (-e))

end Binary64

end Easel
