/-!
Hexadecimal digits, in small letters when they are written and in both when they are read.
-/

namespace Easel.Text

def hexDigit (n : Nat) : Char :=
  (n % 16).digitChar

/-- The last `width` hexadecimal digits of `n`. -/
def hex : (width : Nat) → (n : Nat) → List Char
  | 0, _ => []
  | width + 1, n => hex width (n / 16) ++ [hexDigit n]

def hexValue? (c : Char) : Option Nat :=
  if '0' ≤ c ∧ c ≤ '9' then some (c.toNat - 48)
  else if 'a' ≤ c ∧ c ≤ 'f' then some (c.toNat - 87)
  else if 'A' ≤ c ∧ c ≤ 'F' then some (c.toNat - 55)
  else none

end Easel.Text
