import Easel.Text.Percent
import Easel.Text.Search

/-!
Form encoding of the parameters in an address: a space becomes a plus, and all but the plainest characters become their
bytes in percent notation.
-/

namespace Easel.Text

def formChar (c : Char) : List Char :=
  if c = ' ' then ['+']
  else if isUnreserved c then [c]
  else percentBytes c

def formText (s : String) : String :=
  String.ofList (s.toList.flatMap formChar)

def formQuery (parameters : List (String × String)) : String :=
  "&".intercalate (parameters.map fun (name, v) => formText name ++ "=" ++ formText v)

def ofFormText (s : List Char) : String :=
  percentDecode (s.map fun c => if c = '+' then ' ' else c)

/-- The parameters that a query names, in order. One without an equals sign is empty. -/
def parametersOf (query : String) : List (String × String) :=
  ((pieces (· = '&') query.toList).filter (!·.isEmpty)).map fun p =>
    (ofFormText (beforeMark '=' p), ofFormText ((p.dropWhile (· ≠ '=')).drop 1))

end Easel.Text
