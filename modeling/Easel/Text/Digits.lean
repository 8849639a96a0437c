import Easel.Text.Blank
import Easel.Text.Quoted

/-!
Whole numbers as people write them in settings: white space around, a sign, decimal digits of any script, single
underscores between the digits.
-/

namespace Easel.Text

/-- The zero digits of all scripts; each is followed by its one to nine. -/
def zeroDigits : List Nat :=
  [48, 1632, 1776, 1984, 2406, 2534, 2662, 2790, 2918, 3046, 3174, 3302, 3430, 3558, 3664, 3792, 3872, 4160, 4240, 6112,
    6160, 6470, 6608, 6784, 6800, 6992, 7088, 7232, 7248, 42528, 43216, 43264, 43472, 43504, 43600, 44016, 65296, 66720,
    68912, 69734, 69872, 69942, 70096, 70384, 70736, 70864, 71248, 71360, 71472, 71904, 72016, 72784, 73040, 73120, 92768,
    92864, 93008, 120782, 120792, 120802, 120812, 120822, 123200, 123632, 125264, 130032]

def digitValue? (c : Char) : Option Nat :=
  (zeroDigits.find? fun z => z ≤ c.toNat && c.toNat < z + 10).map (c.toNat - ·)

/-- Longer numerals are refused. -/
def digitLimit : Nat := 4300

inductive IntegerError
  | malformed (text : String)
  | tooLong (digits : Nat)
  deriving Repr, DecidableEq

def tooLongMessage (digits : Nat) : String :=
  s!"Exceeds the limit ({digitLimit} digits) for integer string conversion: value has {digits} digits; " ++
    "use sys.set_int_max_str_digits() to increase the limit"

/-- At most 200 characters of the refused text are shown. -/
def IntegerError.message : IntegerError → String
  | .malformed text => "invalid literal for int() with base 10: " ++ String.ofList ((quote text.toList).take 200)
  | .tooLong digits => tooLongMessage digits

/-- The values of digits that may have single underscores between them. -/
def digitRun : List Char → Option (List Nat)
  | [] => none
  | [c] => (digitValue? c).map ([·])
  | c :: '_' :: rest => do return (← digitValue? c) :: (← digitRun rest)
  | c :: rest => do return (← digitValue? c) :: (← digitRun rest)

/-- The four information separators are no white space around a number. -/
def isNumeralBlank (c : Char) : Bool :=
  isBlank c && !(28 ≤ c.toNat && c.toNat ≤ 31)

def splitSign : List Char → Bool × List Char
  | '-' :: rest => (true, rest)
  | '+' :: rest => (false, rest)
  | rest => (false, rest)

def readInteger (text : String) : Except IntegerError Int :=
  let core := ((text.toList.dropWhile isNumeralBlank).reverse.dropWhile isNumeralBlank).reverse
  let (negative, body) := splitSign core
  match digitRun body with
  | none => .error (.malformed text)
  | some digits =>
    if digits.length > digitLimit then .error (.tooLong digits.length)
    else
      let n : Nat := digits.foldl (fun n d => 10 * n + d) 0
      .ok (if negative then -(n : Int) else n)

end Easel.Text
