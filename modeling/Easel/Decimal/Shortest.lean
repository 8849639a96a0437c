import Easel.Decimal.Scientific

/-!
The shortest decimal numeral that reads back as a given binary64 number, and of those the nearest.

The numbers that read back as `m · 2 ^ e` are those between the midpoints to its two neighbours, the midpoints included when
`m` is even. On a decimal grid only the two points next to the number itself can be in that interval, if any are.
-/

namespace Easel.Decimal

/-- Everything in units of `2 ^ (e - 2)`: the number, and the ends of the interval around it. -/
structure Interval where
  value : Nat
  low : Nat
  high : Nat
  closed : Bool
  unit : Int

def intervalOf (m : Nat) (e : Int) : Interval where
  value := 4 * m
  low := if m = 0x10000000000000 ∧ -1074 < e then 4 * m - 1 else 4 * m - 2
  high := 4 * m + 2
  closed := m % 2 = 0
  unit := e - 2

/-- Whether `c · 10 ^ g` is in the interval. -/
def Interval.contains (i : Interval) (c : Nat) (g : Int) : Bool :=
  let scaled := c * power 10 g * power 2 (-i.unit)
  let scale := power 10 (-g) * power 2 i.unit
  if i.closed then i.low * scale ≤ scaled && scaled ≤ i.high * scale
  else i.low * scale < scaled && scaled < i.high * scale

/-- The best point of the grid `10 ^ g` in the interval: the nearer of two, and the even one at equal distance. -/
def Interval.pick? (i : Interval) (g : Int) : Option Nat :=
  let n := i.value * power 10 (-g) * power 2 i.unit
  let d := power 10 g * power 2 (-i.unit)
  let below := n / d
  let nearest := Binary64.roundHalfEven n d
  let other := if nearest = below then below + 1 else below
  if i.contains nearest g then some nearest
  else if i.contains other g then some other
  else none

/-- The first grid with a point in the interval, trying `count` grids from `10 ^ g` on downwards. -/
def Interval.search (i : Interval) : (count : Nat) → (g : Int) → Scientific
  | 0, g => ⟨(i.pick? g).getD 0, g⟩
  | count + 1, g =>
    match i.pick? g with
    | some c => ⟨c, g⟩
    | none => i.search count (g - 1)

/-- Seventeen digits always suffice. -/
def shortest (m : Nat) (e : Int) : Scientific :=
  if m = 0 then ⟨0, 0⟩
  else (intervalOf m e).search 16 (leadingPlace (m * power 2 e) (power 2 (-e)))

end Easel.Decimal
