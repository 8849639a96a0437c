import Easel.Text.Hex

/-!
Texts as bytes. The bytes of a document are taken for units of eight bits, unless zeros among the first four show wider
units: a document starts with ASCII characters, so the place of the zeros gives the width and the order. Characters beyond
the first plane take two units of sixteen bits.
-/

namespace Easel.Text

/-- The character that an unpaired surrogate unit stands for. -/
def replacement : Char := '\uFFFD'

def charOfUnit (n : Nat) : Char :=
  if 0xD800 ≤ n ∧ n < 0xE000 then replacement else Char.ofNat n

def isHighSurrogate (n : Nat) : Bool :=
  0xD800 ≤ n && n < 0xDC00

def isLowSurrogate (n : Nat) : Bool :=
  0xDC00 ≤ n && n < 0xE000

def charOfPair (high low : Nat) : Char :=
  Char.ofNat (0x10000 + (high - 0xD800) * 0x400 + (low - 0xDC00))

/-- The characters of units of sixteen bits. -/
def charsOfUnits : List Nat → List Char
  | [] => []
  | [u] => [charOfUnit u]
  | high :: low :: rest =>
    if isHighSurrogate high && isLowSurrogate low then charOfPair high low :: charsOfUnits rest
    else charOfUnit high :: charsOfUnits (low :: rest)

/-- How many bytes follow a first byte in UTF-8, and the least and the greatest value of the second. -/
def followers? (b : Nat) : Option (Nat × Nat × Nat) :=
  if b < 0xC2 then none
  else if b < 0xE0 then some (1, 0x80, 0xBF)
  else if b < 0xF0 then some (2, if b = 0xE0 then 0xA0 else 0x80, if b = 0xED then 0x9F else 0xBF)
  else if b < 0xF5 then some (3, if b = 0xF0 then 0x90 else 0x80, if b = 0xF4 then 0x8F else 0xBF)
  else none

/-- As many of the next bytes as go on with a character. -/
def takeFollowers : Nat → Nat → Nat → List Nat → List Nat
  | n + 1, least, most, b :: rest =>
    if least ≤ b ∧ b ≤ most then b :: takeFollowers n 0x80 0xBF rest else []
  | _, _, _, _ => []

/-- The characters of bytes in UTF-8. The replacement character stands for each beginning of a character that does not go on,
and for each byte that begins none. -/
def charsOfBytes (bytes : List Nat) : List Char :=
  match bytes with
  | [] => []
  | b :: rest =>
    if b < 0x80 then Char.ofNat b :: charsOfBytes rest
    else
      match followers? b with
      | none => replacement :: charsOfBytes rest
      | some (n, least, most) =>
        let found := takeFollowers n least most rest
        let c := if found.length = n then Char.ofNat (found.foldl (fun v b => v * 64 + b % 64) (b % (0x40 >>> n))) else replacement
        c :: charsOfBytes (rest.drop found.length)
termination_by bytes.length
decreasing_by
  all_goals simp only [List.length_cons, List.length_drop]
  all_goals omega

/-- Units of one, two or four bytes; wide units have their high byte first or last. -/
inductive Encoding
  | single
  | double (highFirst : Bool)
  | quadruple (highFirst : Bool)
  deriving Repr, DecidableEq

def Encoding.name : Encoding → String
  | .single => "utf-8"
  | .double highFirst => if highFirst then "utf-16-be" else "utf-16-le"
  | .quadruple highFirst => if highFirst then "utf-32-be" else "utf-32-le"

def Encoding.detect : List UInt8 → Encoding
  | a :: b :: c :: d :: _ =>
    if a = 0 then if b = 0 then .quadruple true else .double true
    else if b = 0 then if c = 0 && d = 0 then .quadruple false else .double false
    else .single
  | [a, b] => if a = 0 then .double true else if b = 0 then .double false else .single
  | _ => .single

/-- Bytes that are no unit, and where they start. -/
structure DecodeFault where
  encoding : Encoding
  position : Nat
  bytes : List UInt8
  reason : String
  deriving Repr, DecidableEq

def DecodeFault.message (f : DecodeFault) : String :=
  let place :=
    match f.bytes with
    | [b] => s!"byte 0x{String.ofList (hex 2 b.toNat)} in position {f.position}"
    | bytes => s!"bytes in position {f.position}-{f.position + bytes.length - 1}"
  s!"'{f.encoding.name}' codec can't decode {place}: {f.reason}"

def truncatedReason : String := "truncated data"

def beyondReason : String := "code point not in range(0x110000)"

/-- The number that bytes stand for. -/
def unitOf (highFirst : Bool) (bytes : List UInt8) : Nat :=
  (if highFirst then bytes else bytes.reverse).foldl (fun n b => 256 * n + b.toNat) 0

def doubles (highFirst : Bool) (position : Nat) : List UInt8 → Except DecodeFault (List Nat)
  | [] => .ok []
  | a :: b :: rest => do
    return unitOf highFirst [a, b] :: (← doubles highFirst (position + 2) rest)
  | bytes => .error ⟨.double highFirst, position, bytes, truncatedReason⟩

def quadruples (highFirst : Bool) (position : Nat) : List UInt8 → Except DecodeFault (List Nat)
  | [] => .ok []
  | a :: b :: c :: d :: rest => do
    let u := unitOf highFirst [a, b, c, d]
    if 0x110000 ≤ u then throw ⟨.quadruple highFirst, position, [a, b, c, d], beyondReason⟩
    return u :: (← quadruples highFirst (position + 4) rest)
  | bytes => .error ⟨.quadruple highFirst, position, bytes, truncatedReason⟩

/-- Reads the bytes of `s` anew, in the units that they show. In units of eight bits a mark of the byte order may come
first, which says nothing. -/
def decoded (s : String) : Except DecodeFault String :=
  let bytes := s.toUTF8.toList
  match Encoding.detect bytes with
  | .single =>
    match s.toList with
    | '\uFEFF' :: rest => .ok (String.ofList rest)
    | _ => .ok s
  | .double highFirst => do
    return String.ofList (charsOfUnits (← doubles highFirst 0 bytes))
  | .quadruple highFirst => do
    return String.ofList ((← quadruples highFirst 0 bytes).map charOfUnit)

end Easel.Text
