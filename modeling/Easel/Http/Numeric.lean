import Easel.Text.Hex
import Easel.Text.Search

/-!
Hosts that are given as numbers: four decimal ones with points between them, or eight hexadecimal ones with colons, of
which two colons side by side leave out a run of zeros.
-/

namespace Easel.Http.Numeric

def isDigit (c : Char) : Bool :=
  '0' ≤ c && c ≤ '9'

/-- How far a text is four runs of digits with any one character between them: `inRun k` within the run of number `k`,
`before k` where it has to start. -/
inductive Progress
  | before (run : Nat)
  | inRun (run : Nat)
  deriving Repr, DecidableEq

def Progress.next (c : Char) : Progress → List Progress
  | .before k => if isDigit c then [.inRun k] else []
  | .inRun k => (if isDigit c then [.inRun k] else []) ++ (if k < 3 then [.before (k + 1)] else [])

/-- A host of this look must be four numbers, and is no name. -/
def looksDecimal (s : List Char) : Bool :=
  (s.foldl (fun ps c => (ps.flatMap (·.next c)).eraseDups) [Progress.before 0]).contains (.inRun 3)

def decimalValue (s : List Char) : Nat :=
  s.foldl (fun n c => 10 * n + (c.toNat - 48)) 0

/-- A number up to 255, without zeros in front. -/
def isOctet (s : List Char) : Bool :=
  !s.isEmpty && s.all isDigit && s.length ≤ 3 && (s = ['0'] || s.head? ≠ some '0') && decimalValue s ≤ 255

def isDecimal (s : List Char) : Bool :=
  match Text.pieces (· = '.') s with
  | [a, b, c, d] => isOctet a && isOctet b && isOctet c && isOctet d
  | _ => false

def isGroup (s : List Char) : Bool :=
  !s.isEmpty && s.length ≤ 4 && s.all fun c => (Text.hexValue? c).isSome

/-- The last of the eight may be written as a decimal host, which stands for two of them. -/
def groupsOf (s : List Char) : Option (List (List Char)) :=
  let parts := Text.pieces (· = ':') s
  match parts.getLast? with
  | some last =>
    if last.contains '.' then if isDecimal last then some (parts.dropLast ++ [['0'], ['0']]) else none
    else some parts
  | none => none

/-- Eight groups, or fewer around one place that leaves some out. -/
def areGroups (parts : List (List Char)) : Bool :=
  let inner := (parts.drop 1).dropLast
  match inner.findIdx? (·.isEmpty) with
  | none => parts.length = 8 && parts.all isGroup
  | some k =>
    let front := parts.take (k + 1)
    let back := parts.drop (k + 2)
    let front := if front = [[]] then [] else front
    let back := if back = [[]] then [] else back
    inner.countP (·.isEmpty) = 1 && front.all isGroup && back.all isGroup && front.length + back.length < 8

/-- A zone may follow after a percent sign. -/
def isHexadecimal (s : List Char) : Bool :=
  let zoneFits :=
    match s.dropWhile (· ≠ '%') with
    | [] => true
    | _ :: zone => !zone.isEmpty && !zone.contains '%'
  !s.contains '/' && zoneFits &&
    match groupsOf (Text.beforeMark '%' s) with
    | some parts => 3 ≤ parts.length && parts.length ≤ 9 && areGroups parts
    | none => false

end Easel.Http.Numeric
