import Easel.Json.Basic
import Easel.Text.Hex
import Easel.Text.Quoted

/-!
Colours: six hexadecimal digits as text, three channels from zero to one as numbers.
-/

namespace Easel

structure Rgb where
  r : Number
  g : Number
  b : Number
  deriving Repr

namespace Rgb

def black : Rgb := ⟨.float 0.0, .float 0.0, .float 0.0⟩

def channel (high low : Nat) : Number :=
  .float (Float.ofNat (16 * high + low) / 255.0)

/-- Six hexadecimal digits of either case. -/
def ofDigits? : List Char → Option Rgb
  | [a, b, c, d, e, f] => do
    let r := channel (← Text.hexValue? a) (← Text.hexValue? b)
    let g := channel (← Text.hexValue? c) (← Text.hexValue? d)
    let b := channel (← Text.hexValue? e) (← Text.hexValue? f)
    return ⟨r, g, b⟩
  | _ => none

/-- A number sign may stand before the digits. -/
def ofHex? (text : String) : Option Rgb :=
  match text.toList with
  | '#' :: digits => ofDigits? digits
  | digits => ofDigits? digits

/-- Anything but a text has no colour. -/
def ofJson? (v : Json) : Option Rgb :=
  v.string?.bind ofHex?

/-- Black stands in for a colour that cannot be read. -/
def ofJson (v : Json) : Rgb :=
  (ofJson? v).getD black

/-- The byte nearest to a channel; a channel outside zero to one goes to the nearer end. -/
def byte (channel : Number) : Except Number.Fault Nat := do
  return (min 255 (← (channel * 255).round)).toNat

def byteText (n : Nat) : String :=
  String.ofList ((Text.hex 2 n).map Char.toUpper)

def hex (c : Rgb) : Except Number.Fault String := do
  let r ← byte c.r
  let g ← byte c.g
  let b ← byte c.b
  return "#" ++ byteText r ++ byteText g ++ byteText b

def toFields (c : Rgb) : Fields :=
  [("r", .num c.r), ("g", .num c.g), ("b", .num c.b)]

end Rgb

end Easel
