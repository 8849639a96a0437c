import Easel.Text.Case

/-!
Punycode: a name with any characters as one with letters, digits and hyphens. The ASCII characters come first; the others
follow in the order of their numbers, each as the distance from the one before, in digits whose weights adapt to the
distances seen so far.
-/

namespace Easel.Text.Punycode

def digit (n : Nat) : Char :=
  if n < 26 then Char.ofNat (97 + n) else Char.ofNat (22 + n)

/-- A digit below the threshold of its place is the last one. -/
def threshold (place bias : Nat) : Nat :=
  max 1 (min 26 (place - bias))

/-- The place counts up by 36, the number of digits. -/
def number (bias place n : Nat) : List Char :=
  let t := threshold place bias
  if n < t then [digit n]
  else digit (t + (n - t) % (36 - t)) :: number bias (place + 36) ((n - t) / (36 - t))
termination_by n
decreasing_by
  have : 1 ≤ threshold place bias := Nat.le_max_left ..
  have := Nat.div_le_self (n - threshold place bias) (36 - threshold place bias)
  omega

def settle (bias delta : Nat) : Nat :=
  if 455 < delta then settle (bias + 36) (delta / 35) else bias + 36 * delta / (delta + 38)
termination_by delta
decreasing_by exact Nat.div_lt_self (by omega) (by decide)

/-- The bias after a distance, of which the first one weighs less; `count` is the number of characters written so far. -/
def adapt (delta count : Nat) (isFirst : Bool) : Nat :=
  let delta := if isFirst then delta / 700 else delta / 2
  settle 0 (delta + delta / count)

structure State where
  written : List Char
  count : Nat
  delta : Nat := 0
  bias : Nat := 72
  isFirst : Bool := true

/-- One character of the name, while the characters of number `n` are written. -/
def visit (n : Nat) (s : State) (c : Char) : State :=
  if c.toNat < n then { s with delta := s.delta + 1 }
  else if c.toNat = n then
    { written := s.written ++ number s.bias 36 s.delta
      count := s.count + 1
      bias := adapt s.delta (s.count + 1) s.isFirst
      isFirst := false }
  else s

/-- Writes the characters of the numbers listed, which rise from `next`. -/
def writeFrom (name : List Char) (next : Nat) : List Nat → State → State
  | [], s => s
  | n :: rest, s =>
    let s := name.foldl (visit n) { s with delta := s.delta + (n - next) * (s.count + 1) }
    writeFrom name (n + 1) rest { s with delta := s.delta + 1 }

def encode (name : List Char) : List Char :=
  let plain := name.filter isAscii
  let others := ((name.filter (!isAscii ·)).map Char.toNat).mergeSort.eraseDups
  (writeFrom name 128 others { written := if plain.isEmpty then [] else plain ++ ['-'], count := plain.length }).written

end Easel.Text.Punycode
