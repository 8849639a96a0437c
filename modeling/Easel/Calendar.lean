import Easel.Number

/-!
Moments of the calendar and the spans between them, in microseconds. Moments are counted from noon of 1 January 2026; there
are none before the year 1 or after the year 9999.
-/

namespace Easel.Calendar

def second : Int := 1000000

def minute : Int := 60 * second

def hour : Int := 60 * minute

def day : Int := 24 * hour

/-- The first and the last day there are, counted from 1 January 2026. -/
def firstDay : Int := -739616

def lastDay : Int := 2912442

inductive Fault
  | number (fault : Number.Fault)
  | daysTooLarge
  | tooManyDays (days : Int)
  | noSuchDay
  deriving Repr, DecidableEq

def Fault.message : Fault → String
  | .number fault => fault.message
  | .daysTooLarge => "Python int too large to convert to C int"
  | .tooManyDays days => s!"days={days}; must have magnitude <= 999999999"
  | .noSuchDay => "date value out of range"

/-- So many units in microseconds. Of a binary64 number the part behind the point is multiplied in binary64, and a half of a
microsecond goes to the even one. -/
def microseconds (unit : Int) : Number → Except Number.Fault Int
  | .int v => .ok (v * unit)
  | .float x =>
    match Binary64.parts x with
    | .nan => .error .roundNaN
    | .infinite _ => .error .roundInfinity
    | .finite negative m e =>
      let unit := unit.toNat
      let n := m * power 2 e
      let d := power 2 (-e)
      match Binary64.parts (Binary64.ofQuotient false (n % d * unit) d) with
      | .finite _ p q =>
        let size : Nat :=
          Binary64.roundHalfEven (n / d * unit * power 2 (-q) + p * power 2 q) (power 2 (-q))
        .ok (if negative then -(size : Int) else size)
      | _ => .error .roundInfinity

/-- A span holds less than a thousand million days. -/
def span (unit : Int) (amount : Number) : Except Fault Int := do
  let size ← (microseconds unit amount).mapError .number
  let days := size / day
  if days < -0x80000000 || 0x80000000 ≤ days then throw .daysTooLarge
  if 999999999 < days.natAbs then throw (.tooManyDays days)
  return size

def isMoment (t : Int) : Bool :=
  let today := (t + 12 * hour) / day
  firstDay ≤ today && today ≤ lastDay

def moment (t : Int) : Except Fault Int :=
  if isMoment t then .ok t else .error .noSuchDay

end Easel.Calendar
