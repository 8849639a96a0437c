import Easel.Binary64

/-!
Decimal numerals `digits · 10 ^ exponent` and the ways to write them out.
-/

namespace Easel.Decimal

structure Scientific where
  digits : Nat
  exponent : Int
  deriving Repr, DecidableEq

/-- The digits of a natural number, most significant first. -/
def digitsOf (n : Nat) : List Char :=
  Nat.toDigits 10 n

def dropTrailingZeros (ds : List Char) : List Char :=
  (ds.reverse.dropWhile (· = '0')).reverse

/-- Which numerals are written without an exponent, and whether whole ones then keep a zero after the point. -/
structure Layout where
  lowest : Int
  limit : Int
  wholeMark : Bool

def exponentMark (e : Int) : List Char :=
  let ds := digitsOf e.natAbs
  ['e', if e < 0 then '-' else '+'] ++ (if ds.length < 2 then '0' :: ds else ds)

/-- Writes `d₀.d₁d₂… · 10 ^ place`. -/
def Layout.write (layout : Layout) (ds : List Char) (place : Int) : List Char :=
  if layout.lowest ≤ place ∧ place < layout.limit then
    if place < 0 then ['0', '.'] ++ List.replicate (-place - 1).toNat '0' ++ ds
    else
      let whole := place.toNat + 1
      let fraction := ds.drop whole
      ds.take whole ++ List.replicate (whole - ds.length) '0' ++
        (if fraction.isEmpty then if layout.wholeMark then ['.', '0'] else [] else '.' :: fraction)
  else
    match ds with
    | [] => []
    | [d] => d :: exponentMark place
    | d :: fraction => d :: '.' :: fraction ++ exponentMark place

/-- Writes a numeral without its trailing zeros. -/
def Scientific.write (layout : Layout) (s : Scientific) : List Char :=
  if s.digits = 0 then layout.write ['0'] 0
  else
    let ds := digitsOf s.digits
    layout.write (dropTrailingZeros ds) (s.exponent + ds.length - 1)

/-- The exponent of the leading decimal digit of `n / d`. -/
def leadingPlace (n d : Nat) : Int :=
  let reaches (p : Int) : Bool := d * power 10 p ≤ n * power 10 (-p)
  -- A binary digit is 0.30103 decimal ones, so the guess is at most one off.
  let guess : Int := ((n.log2 : Int) - d.log2) * 30103 / 100000
  if reaches (guess + 1) then guess + 1
  else if reaches guess then guess
  else guess - 1

end Easel.Decimal
