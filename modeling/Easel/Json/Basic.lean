import Easel.Keyed
import Easel.Number

/-!
JSON values. Objects keep their fields in order; a field is found by its first entry, and setting one keeps its place.
-/

namespace Easel

inductive Json
  | null
  | bool (value : Bool)
  | num (value : Number)
  | str (value : String)
  | arr (items : List Json)
  | obj (fields : List (String × Json))
  deriving Inhabited

abbrev Fields := Keyed Json

namespace Fields

/-- The value of a field, null if there is none. -/
def value (fields : Fields) (name : String) : Json :=
  (fields.lookup name).getD .null

end Fields

namespace Json

def ofInt (n : Int) : Json := .num (.int n)

def ofNat (n : Nat) : Json := .num (.int n)

def strings (ss : List String) : Json := .arr (ss.map .str)

def ofOption (f : α → Json) : Option α → Json
  | none => .null
  | some a => f a

def isNull : Json → Bool
  | .null => true
  | _ => false

def isString : Json → Bool
  | .str _ => true
  | _ => false

def number? : Json → Option Number
  | .num n => some n
  | _ => none

def string? : Json → Option String
  | .str s => some s
  | _ => none

def items? : Json → Option (List Json)
  | .arr xs => some xs
  | _ => none

def fields? : Json → Option Fields
  | .obj fs => some fs
  | _ => none

/-- What a value holds, one after the other: the characters of a text, the names in an object. -/
def members? : Json → Option (List Json)
  | .arr items => some items
  | .str s => some (s.toList.map fun c => .str (String.ofList [c]))
  | .obj fields => some (fields.map fun (name, _) => .str name)
  | _ => none

/-- Null, false, zero and everything empty count as not given. -/
def isGiven : Json → Bool
  | .null => false
  | .bool b => b
  | .num n => !n.isZero
  | .str s => !s.isEmpty
  | .arr xs => !xs.isEmpty
  | .obj fs => !fs.isEmpty

mutual

/-- Puts `f x` in place of each number `x` that is not finite. -/
def mapNonFinite (f : Float → Json) : Json → Json
  | .num (.float x) => if Binary64.isFinite x then .num (.float x) else f x
  | .arr items => .arr (mapNonFiniteItems f items)
  | .obj fields => .obj (mapNonFiniteFields f fields)
  | v => v

def mapNonFiniteItems (f : Float → Json) : List Json → List Json
  | [] => []
  | x :: rest => x.mapNonFinite f :: mapNonFiniteItems f rest

def mapNonFiniteFields (f : Float → Json) : List (String × Json) → List (String × Json)
  | [] => []
  | (name, x) :: rest => (name, x.mapNonFinite f) :: mapNonFiniteFields f rest

end

mutual

/-- Whether all numbers in a value are finite. -/
def isFinite : Json → Bool
  | .num (.float x) => Binary64.isFinite x
  | .arr items => isFiniteItems items
  | .obj fields => isFiniteFields fields
  | _ => true

def isFiniteItems : List Json → Bool
  | [] => true
  | x :: rest => x.isFinite && isFiniteItems rest

def isFiniteFields : List (String × Json) → Bool
  | [] => true
  | (_, x) :: rest => x.isFinite && isFiniteFields rest

end

mutual

/-- How deep a value goes: one more than the deepest value inside it. -/
def height : Json → Nat
  | .arr items => heightOfItems items + 1
  | .obj fields => heightOfFields fields + 1
  | _ => 1

def heightOfItems : List Json → Nat
  | [] => 0
  | x :: rest => max x.height (heightOfItems rest)

def heightOfFields : List (String × Json) → Nat
  | [] => 0
  | (_, x) :: rest => max x.height (heightOfFields rest)

end

end Json

end Easel
