import Easel.Text.Case
import Easel.Text.Hex
import Easel.Text.PrintableTable

/-!
Quoted text, as names and values appear inside messages and outlines. The quotes are single, or double when the text holds
a single quote and no double one; what cannot be printed is escaped, so a quoted text is always one line.
-/

namespace Easel.Text

def isPrintable (c : Char) : Bool :=
  if isAscii c then 32 ≤ c.toNat && c.toNat < 127 else inRanges printableRanges c

def quoteMark (s : List Char) : Char :=
  if s.contains '\x27' && !s.contains '\x22' then '\x22' else '\x27'

def escapeIn (quote c : Char) : List Char :=
  if c = quote || c = '\\' then ['\\', c]
  else if c = '\t' then ['\\', 't']
  else if c = '\n' then ['\\', 'n']
  else if c = '\r' then ['\\', 'r']
  else if isPrintable c then [c]
  else if c.toNat < 0x100 then ['\\', 'x'] ++ hex 2 c.toNat
  else if c.toNat < 0x10000 then ['\\', 'u'] ++ hex 4 c.toNat
  else ['\\', 'U'] ++ hex 8 c.toNat

def quote (s : List Char) : List Char :=
  quoteMark s :: s.flatMap (escapeIn (quoteMark s)) ++ [quoteMark s]

end Easel.Text

namespace Easel

def quoted (s : String) : String :=
  String.ofList (Text.quote s.toList)

end Easel
