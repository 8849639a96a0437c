import Easel.Text.CaseTable

/-!
Lower and upper case over the whole character set. Three characters need more than a table: the dotted capital I becomes
two characters, the capital sigma takes its final form at the end of a word, and some small letters have an upper case of
several characters.
-/

namespace Easel.Text

/-- Where a run sends the character `n`, if it is in the run. -/
def CaseRun.image? (n : Nat) : CaseRun → Option Nat
  | (first, last, step, image) =>
    if first ≤ n ∧ n ≤ last ∧ (n - first) % step = 0 then some (image + (n - first)) else none

def mapCase (runs : List CaseRun) (c : Char) : Char :=
  match runs.findSome? (CaseRun.image? c.toNat) with
  | some n => Char.ofNat n
  | none => c

def inRanges (ranges : List (Nat × Nat)) (c : Char) : Bool :=
  ranges.any fun (first, last) => first ≤ c.toNat && c.toNat ≤ last

def isAscii (c : Char) : Bool :=
  c.toNat < 128

def lowerChar (c : Char) : Char :=
  if isAscii c then c.toLower else mapCase lowerRuns c

/-- Letters, and what belongs to them, as far as the rule of the final sigma is concerned. -/
def isCased (c : Char) : Bool :=
  if isAscii c then c.isAlpha else inRanges casedRanges c

def isCaseIgnorable (c : Char) : Bool :=
  if isAscii c then c = '\x27' || c = '.' || c = ':' || c = '^' || c = '\x60' else inRanges caseIgnorableRanges c

def startsCased (s : List Char) : Bool :=
  match s.dropWhile isCaseIgnorable with
  | [] => false
  | c :: _ => isCased c

def capitalSigma : Char := 'Σ'

/-- A capital sigma is final if a letter stands before it and none after it. `before` is read backwards. -/
def lowerSigma (before after : List Char) : Char :=
  if startsCased before && !startsCased after then 'ς' else 'σ'

def lowerFrom (before : List Char) : List Char → List Char
  | [] => []
  | c :: rest =>
    (if c = capitalSigma then [lowerSigma before rest]
      else if c = 'İ' then ['i', '\u0307']
      else [lowerChar c]) ++ lowerFrom (c :: before) rest

def lower (s : List Char) : List Char :=
  lowerFrom [] s

def upperChar (c : Char) : List Char :=
  if isAscii c then [c.toUpper]
  else
    match upperExpansions.lookup c.toNat with
    | some ns => ns.map Char.ofNat
    | none => [mapCase upperRuns c]

def upper (s : List Char) : List Char :=
  s.flatMap upperChar

end Easel.Text

namespace Easel

def lowered (s : String) : String :=
  String.ofList (Text.lower s.toList)

def uppered (s : String) : String :=
  String.ofList (Text.upper s.toList)

end Easel
