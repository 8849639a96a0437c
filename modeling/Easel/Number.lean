import Easel.Binary64
import Easel.Decimal.Shortest
import Easel.Decimal.Significant

/-!
Numbers as documents carry them: whole numbers of any size and binary64 numbers, which stay apart. Arithmetic on whole
numbers is exact, and binary64 as soon as one operand is. Comparison is always exact, so nothing is below, above or equal to
a number that is not a number.
-/

namespace Easel

inductive Number
  | int (value : Int)
  | float (value : Float)
  deriving Repr

namespace Number

inductive Fault
  | tooLarge
  | roundInfinity
  | roundNaN
  deriving Repr, DecidableEq

def Fault.message : Fault → String
  | .tooLarge => "int too large to convert to float"
  | .roundInfinity => "cannot convert float infinity to integer"
  | .roundNaN => "cannot convert float NaN to integer"

instance : Inhabited Number := ⟨.int 0⟩

instance (n : Nat) : OfNat Number n := ⟨.int n⟩

/-- The exact value, for comparison. -/
inductive Extent
  | nan
  | below
  | above
  | exact (significand exponent : Int)

def extent : Number → Extent
  | .int v => .exact v 0
  | .float x =>
    match Binary64.parts x with
    | .nan => .nan
    | .infinite negative => if negative then .below else .above
    | .finite negative m e => .exact (if negative then -(m : Int) else m) e

def compare? (a b : Number) : Option Ordering :=
  match a.extent, b.extent with
  | .nan, _ => none
  | _, .nan => none
  | .below, .below => some .eq
  | .below, _ => some .lt
  | _, .below => some .gt
  | .above, .above => some .eq
  | .above, _ => some .gt
  | _, .above => some .lt
  | .exact m e, .exact n f => some (compare (m * power 2 (e - f)) (n * power 2 (f - e)))

def lt (a b : Number) : Bool :=
  a.compare? b = some .lt

def le (a b : Number) : Bool :=
  a.compare? b = some .lt || a.compare? b = some .eq

instance : LT Number := ⟨fun a b => a.lt b = true⟩
instance : LE Number := ⟨fun a b => a.le b = true⟩
instance (a b : Number) : Decidable (a < b) := inferInstanceAs (Decidable (a.lt b = true))
instance (a b : Number) : Decidable (a ≤ b) := inferInstanceAs (Decidable (a.le b = true))

/-- As binary64; a whole number beyond the largest becomes infinite. -/
def toFloat : Number → Float
  | .int v => (Binary64.ofInt? v).getD (Binary64.infinity (v < 0))
  | .float x => x

def arith (onInt : Int → Int → Int) (onFloat : Float → Float → Float) : Number → Number → Number
  | .int a, .int b => .int (onInt a b)
  | a, b => .float (onFloat a.toFloat b.toFloat)

instance : Add Number := ⟨arith (· + ·) (· + ·)⟩
instance : Sub Number := ⟨arith (· - ·) (· - ·)⟩
instance : Mul Number := ⟨arith (· * ·) (· * ·)⟩

/-- Whether two numbers can be added or subtracted: a whole number has to become binary64 if the other one is. -/
def combines : Number → Number → Bool
  | .int a, .float _ | .float _, .int a => (Binary64.ofInt? a).isSome
  | _, _ => true

def plus? (a b : Number) : Except Fault Number :=
  if a.combines b then .ok (a + b) else .error .tooLarge

def isZero (a : Number) : Bool :=
  a.compare? 0 = some .eq

/-- The nearest whole number, a half going to the even one. -/
def round : Number → Except Fault Int
  | .int v => .ok v
  | .float x =>
    match Binary64.parts x with
    | .nan => .error .roundNaN
    | .infinite _ => .error .roundInfinity
    | .finite negative m e =>
      let n : Nat := Binary64.roundHalfEven (m * power 2 e) (power 2 (-e))
      .ok (if negative then -(n : Int) else n)

/-- The greatest whole number that is not above, if there is one. -/
def floor? (a : Number) : Option Int :=
  match a.extent with
  | .exact m e => some (m * power 2 e / power 2 (-e))
  | _ => none

/-- The least whole number that is not below, if there is one. -/
def ceiling? (a : Number) : Option Int :=
  match a.extent with
  | .exact m e => some (-(-m * power 2 e / power 2 (-e)))
  | _ => none

/-- Binary64 numbers in full are positional from `0.0001` up to, not including, `10 ^ 16`. -/
def fullLayout : Decimal.Layout := ⟨-4, 16, true⟩

/-- Brief numbers have six digits at most and no point without need. -/
def briefLayout : Decimal.Layout := ⟨-4, 6, false⟩

def writeFloat (finite : Nat → Int → List Char) (x : Float) : String :=
  match Binary64.parts x with
  | .nan => "nan"
  | .infinite negative => if negative then "-inf" else "inf"
  | .finite negative m e => String.ofList ((if negative then ['-'] else []) ++ finite m e)

def floatText (x : Float) : String :=
  writeFloat (fun m e => (Decimal.shortest m e).write fullLayout) x

def text : Number → String
  | .int v => toString v
  | .float x => floatText x

def brief (a : Number) : Except Fault String :=
  let write := writeFloat fun m e => (Decimal.toSignificant 6 m e).write briefLayout
  match a with
  | .float x => .ok (write x)
  | .int v =>
    match Binary64.ofInt? v with
    | some x => .ok (write x)
    | none => .error .tooLarge

end Number

end Easel
