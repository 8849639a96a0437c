import Easel.Decimal.Scientific

/-!
Rounding to a number of significant digits.
-/

namespace Easel.Decimal

/-- `m · 2 ^ e` to `count` significant digits, a half going to the even digit. -/
def toSignificant (count m : Nat) (e : Int) : Scientific :=
  if m = 0 then ⟨0, 0⟩
  else
    let n := m * power 2 e
    let d := power 2 (-e)
    let g := leadingPlace n d + 1 - count
    ⟨Binary64.roundHalfEven (n * power 10 (-g)) (d * power 10 g), g⟩

end Easel.Decimal
