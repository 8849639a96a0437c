import Easel.Json.Basic
import Easel.Text.Quoted

/-!
JSON as text, in ASCII alone: every other character is written as its UTF-16 units. Numbers that are not finite are written
by name, as the reader accepts them.
-/

namespace Easel.Json

def unitEscape (n : Nat) : List Char :=
  '\\' :: 'u' :: Text.hex 4 n

/-- A character above the sixteen-bit range is written as two surrogate units. -/
def escapeChar (c : Char) : List Char :=
  if c = '\x22' then ['\\', '\x22']
  else if c = '\\' then ['\\', '\\']
  else if c = '\n' then ['\\', 'n']
  else if c = '\r' then ['\\', 'r']
  else if c = '\t' then ['\\', 't']
  else if c = '\x0c' then ['\\', 'f']
  else if c = '\x08' then ['\\', 'b']
  else if 32 ≤ c.toNat ∧ c.toNat < 127 then [c]
  else if c.toNat < 0x10000 then unitEscape c.toNat
  else
    unitEscape (0xD800 + (c.toNat - 0x10000) / 0x400) ++ unitEscape (0xDC00 + (c.toNat - 0x10000) % 0x400)

def stringText (s : List Char) : List Char :=
  '\x22' :: s.flatMap escapeChar ++ ['\x22']

def numberText : Number → String
  | .int v => toString v
  | .float x =>
    match Binary64.parts x with
    | .nan => "NaN"
    | .infinite negative => if negative then "-Infinity" else "Infinity"
    | .finite .. => Number.floatText x

/-- What stands between two items and after a field name. -/
structure Spacing where
  item : String
  field : String

def spaced : Spacing := ⟨", ", ": "⟩

def compact : Spacing := ⟨",", ":"⟩

mutual

def write (sp : Spacing) : Json → String
  | .null => "null"
  | .bool b => toString b
  | .num n => numberText n
  | .str s => String.ofList (stringText s.toList)
  | .arr items => "[" ++ sp.item.intercalate (writeItems sp items) ++ "]"
  | .obj fields => "\x7b" ++ sp.item.intercalate (writeFields sp fields) ++ "\x7d"

def writeItems (sp : Spacing) : List Json → List String
  | [] => []
  | x :: rest => x.write sp :: writeItems sp rest

def writeFields (sp : Spacing) : List (String × Json) → List String
  | [] => []
  | (name, x) :: rest =>
    (String.ofList (stringText name.toList) ++ sp.field ++ x.write sp) :: writeFields sp rest

end

end Easel.Json
