/-!
White space at the ends of a text and between its words. The class is the full set of separators of the character
standard, so it holds the no-break space and the ideographic space, and not the zero-width characters.
-/

namespace Easel.Text

def isBlank (c : Char) : Bool :=
  let n := c.toNat
  (9 ≤ n && n ≤ 13) || (28 ≤ n && n ≤ 32) || n = 0x85 || n = 0xA0 || n = 0x1680 || (0x2000 ≤ n && n ≤ 0x200A)
    || n = 0x2028 || n = 0x2029 || n = 0x202F || n = 0x205F || n = 0x3000

def trimLeft (s : List Char) : List Char :=
  s.dropWhile isBlank

def trimRight (s : List Char) : List Char :=
  (s.reverse.dropWhile isBlank).reverse

def trim (s : List Char) : List Char :=
  trimRight (trimLeft s)

/-- The first word and what follows the blanks after it. -/
def firstWord (s : List Char) : List Char × List Char :=
  ((trimLeft s).takeWhile (!isBlank ·), trimLeft ((trimLeft s).dropWhile (!isBlank ·)))

def isBlankText (s : List Char) : Bool :=
  s.all isBlank

theorem trimLeft_eq_nil_iff {s : List Char} : trimLeft s = [] ↔ isBlankText s = true := by
  unfold trimLeft isBlankText
  induction s with
  | nil => simp
  | cons c rest ih => by_cases h : isBlank c = true <;> simp_all

@[simp] theorem trim_nil : trim [] = [] := rfl

end Easel.Text

namespace Easel

/-- The text without the white space at its ends. -/
def trimmed (s : String) : String :=
  String.ofList (Text.trim s.toList)

end Easel
