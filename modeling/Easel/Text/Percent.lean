import Easel.Text.Case
import Easel.Text.Encoding
import Easel.Text.Hex

/-!
Percent notation, in which an address writes the bytes of characters that it cannot hold.
-/

namespace Easel.Text

def isUnreserved (c : Char) : Bool :=
  isAscii c && (c.isAlphanum || c = '-' || c = '.' || c = '_' || c = '~')

def percentByte (b : UInt8) : List Char :=
  '%' :: (hex 2 b.toNat).map Char.toUpper

def percentBytes (c : Char) : List Char :=
  (String.ofList [c]).toUTF8.toList.flatMap percentByte

/-- Letters, digits and a few marks are always safe. -/
def percentChar (isSafe : Char → Bool) (c : Char) : List Char :=
  if isUnreserved c || isSafe c then [c] else percentBytes c

/-- Writes what is not safe in percent notation, and leaves what is already written so. -/
def percentEncode (isSafe : Char → Bool) : List Char → List Char
  | '%' :: a :: b :: rest =>
    if (hexValue? a).isSome && (hexValue? b).isSome then '%' :: a :: b :: percentEncode isSafe rest
    else percentChar isSafe '%' ++ percentEncode isSafe (a :: b :: rest)
  | c :: rest => percentChar isSafe c ++ percentEncode isSafe rest
  | [] => []

def bytesOfPercent : List Char → List Nat
  | '%' :: a :: b :: rest =>
    match hexValue? a, hexValue? b with
    | some high, some low => (16 * high + low) :: bytesOfPercent rest
    | _, _ => 0x25 :: bytesOfPercent (a :: b :: rest)
  | c :: rest => (String.ofList [c]).toUTF8.toList.map UInt8.toNat ++ bytesOfPercent rest
  | [] => []

def percentDecode (s : List Char) : String :=
  String.ofList (charsOfBytes (bytesOfPercent s))

end Easel.Text
