import Easel.Http.Numeric
import Easel.Text.HostTable
import Easel.Text.Percent
import Easel.Text.Punycode
import Easel.Text.Quoted

/-!
The host of an address. A host of numbers must be one that exists; a name in ASCII is taken as it is, in small letters, and a
name in other letters is checked label by label and written in ASCII.
-/

namespace Easel.Http.Domain

inductive Fault
  | decimal (host : String)
  | hexadecimal (host : String)
  | name (host : String)
  deriving Repr, DecidableEq

def Fault.message : Fault → String
  | .decimal host => s!"Invalid IPv4 address: {quoted host}"
  | .hexadecimal host => s!"Invalid IPv6 address: {quoted host}"
  | .name host => s!"Invalid IDNA hostname: {quoted host}"

def isSafe (c : Char) : Bool :=
  "!$&'()*+,;=\"`\x7b\x7d%|\\".toList.contains c

/-! Labels beyond ASCII -/

def isMark (c : Char) : Bool :=
  Text.inRanges Text.hostMarkRanges c

def isRightToLeft (c : Char) : Bool :=
  Text.inRanges Text.rightToLeftRanges c

def isArabicDigit (c : Char) : Bool :=
  0x660 ≤ c.toNat && c.toNat ≤ 0x669

def isExtendedDigit (c : Char) : Bool :=
  0x6F0 ≤ c.toNat && c.toNat ≤ 0x6F9

/-- A middle dot needs an `l` on both sides. -/
def dotsFit : List Char → Bool
  | 'l' :: '·' :: 'l' :: rest => dotsFit ('l' :: rest)
  | '·' :: _ => false
  | _ :: '·' :: _ => false
  | _ :: rest => dotsFit rest
  | [] => true

/-- Some characters are allowed by what stands elsewhere in the label. -/
def isAllowed (label : List Char) (c : Char) : Bool :=
  if Text.inRanges Text.hostRanges c then true
  else if c = '·' then true
  else if c = '・' then label.any (Text.inRanges Text.ideographRanges)
  else if isArabicDigit c then !label.any isExtendedDigit
  else if isExtendedDigit c then !label.any isArabicDigit
  else false

/-- A letter and a mark that are one character must be written as that character. -/
def isComposed : List Char → Bool
  | a :: b :: rest =>
    !((Text.composedRanges.lookup b.toNat).any (Text.inRanges · a)) && isComposed (b :: rest)
  | _ => true

def hyphensFit (label : List Char) : Bool :=
  (label.drop 2).take 2 ≠ ['-', '-'] && label.head? ≠ some '-' && label.getLast? ≠ some '-'

/-- A label with letters from right to left starts with one, has none in the other direction, ends in a letter or a digit,
and has digits of one kind. -/
def directionFits (label : List Char) : Bool :=
  let isDigit (c : Char) : Bool := Numeric.isDigit c || isExtendedDigit c
  let counts (c : Char) : Bool := isRightToLeft c || isArabicDigit c || isDigit c
  if label.any fun c => isRightToLeft c || isArabicDigit c then
    label.head?.any isRightToLeft && label.all (fun c => counts c || c = '-' || isMark c) &&
      ((label.reverse.dropWhile isMark).head?).any counts && !(label.any isDigit && label.any isArabicDigit)
  else true

def isLabel (label : List Char) : Bool :=
  !label.isEmpty && isComposed label && hyphensFit label && !label.head?.any isMark && label.all (isAllowed label) &&
    dotsFit label && directionFits label

/-- The longest label, and the longest name without a point at its end. -/
def labelLimit : Nat := 63

def nameLimit : Nat := 253

def acePrefix : List Char := ['x', 'n', '-', '-']

def writeLabel? (label : List Char) : Option (List Char) :=
  if label.all Text.isAscii then
    if label.length ≤ labelLimit && (acePrefix.isPrefixOf label || isLabel label) then some label else none
  else
    let written := acePrefix ++ Text.Punycode.encode label
    if isLabel label && written.length ≤ labelLimit then some written else none

/-- The points of other scripts divide labels too. -/
def isPoint (c : Char) : Bool :=
  c = '.' || c = '。' || c = '．' || c = '｡'

/-- A point at the end of a name stays. -/
def writeName? (name : List Char) : Option (List Char) :=
  let labels := Text.pieces isPoint name
  let ended := labels.getLast? = some []
  let labels := if ended then labels.dropLast else labels
  match labels.mapM writeLabel? with
  | none => none
  | some written =>
    let text := ['.'].intercalate (if ended then written ++ [[]] else written)
    if written.isEmpty || (if ended then nameLimit + 1 else nameLimit) < text.length then none else some text

/-- A host as an address holds it; a hexadecimal one is given in brackets. -/
def encode (host : List Char) : Except Fault (List Char) :=
  if Numeric.looksDecimal host then
    if Numeric.isDecimal host then .ok host else .error (.decimal (String.ofList host))
  else if host.head? = some '[' && 2 ≤ host.length && host.getLast? = some ']' then
    let inner := (host.drop 1).dropLast
    if Numeric.isHexadecimal inner then .ok inner else .error (.hexadecimal (String.ofList host))
  else
    let small := Text.lower host
    if host.all Text.isAscii then .ok (Text.percentEncode isSafe small)
    else
      match writeName? small with
      | some name => .ok name
      | none => .error (.name (String.ofList host))

end Easel.Http.Domain
