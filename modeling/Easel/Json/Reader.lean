import Easel.Json.Basic
import Easel.Text.Digits
import Easel.Text.Encoding

/-!
Reading JSON text. Besides the standard's values the reader takes the names of the numbers that are not finite. A text that
cannot be read is reported with the place where reading stopped; a whole number of too many digits is an error of its own.

The reader works on the rest of the text, and a fault carries the rest at which it arose, so its position is known from the
two lengths.
-/

namespace Easel.Json

inductive SyntaxFault
  | expectedValue
  | expectedName
  | expectedColon
  | expectedComma
  | unterminated
  | controlCharacter
  | badEscape
  | badUnit
  | extraData
  | byteOrderMark
  deriving Repr, DecidableEq

def SyntaxFault.message : SyntaxFault → String
  | .expectedValue => "Expecting value"
  | .expectedName => "Expecting property name enclosed in double quotes"
  | .expectedColon => "Expecting ':' delimiter"
  | .expectedComma => "Expecting ',' delimiter"
  | .unterminated => "Unterminated string starting at"
  | .controlCharacter => "Invalid control character at"
  | .badEscape => "Invalid \\escape"
  | .badUnit => "Invalid \\uXXXX escape"
  | .extraData => "Extra data"
  | .byteOrderMark => "Unexpected UTF-8 BOM (decode using utf-8-sig)"

/-- A fault and the text that remained when it arose. -/
inductive Stop
  | fault (cause : SyntaxFault) (rest : List Char)
  | tooLong (digits : Nat)

def isSpace (c : Char) : Bool :=
  c = ' ' || c = '\t' || c = '\n' || c = '\r'

def skipSpace (s : List Char) : List Char :=
  s.dropWhile isSpace

/-- A number of four hexadecimal digits. -/
def unit? : List Char → Option Nat
  | [a, b, c, d] => do
    return 4096 * (← Text.hexValue? a) + 256 * (← Text.hexValue? b) + 16 * (← Text.hexValue? c) + (← Text.hexValue? d)
  | _ => none

/-- Reads what follows the `u` of an escape. Four digits must not be the end of the text; a high surrogate looks for a low
one behind it. `start` is the text from the `u` on. -/
def readUnit (start s : List Char) : Except Stop (Char × List Char) :=
  if (s.drop 4).isEmpty then .error (.fault .badUnit start)
  else
    match unit? (s.take 4) with
    | none => .error (.fault .badUnit start)
    | some high =>
      match s.drop 4 with
      | '\\' :: 'u' :: more =>
        if Text.isHighSurrogate high && !(more.drop 4).isEmpty then
          match unit? (more.take 4) with
          | none => .error (.fault .badUnit ('u' :: more))
          | some low =>
            if Text.isLowSurrogate low then .ok (Text.charOfPair high low, more.drop 4)
            else .ok (Text.charOfUnit high, s.drop 4)
        else .ok (Text.charOfUnit high, s.drop 4)
      | rest => .ok (Text.charOfUnit high, rest)

def simpleEscape? : Char → Option Char
  | '\x22' => some '\x22'
  | '\\' => some '\\'
  | '/' => some '/'
  | 'b' => some '\x08'
  | 'f' => some '\x0c'
  | 'n' => some '\n'
  | 'r' => some '\r'
  | 't' => some '\t'
  | _ => none

/-- Reads a string after its opening quote. `start` is the text from that quote on. -/
def readString (start : List Char) : (fuel : Nat) → List Char → Except Stop (List Char × List Char)
  | 0, _ => .error (.fault .unterminated start)
  | _, [] => .error (.fault .unterminated start)
  | fuel + 1, c :: rest =>
    if c = '\x22' then .ok ([], rest)
    else if c = '\\' then
      match rest with
      | [] => .error (.fault .unterminated start)
      | 'u' :: digits => do
        let (d, rest) ← readUnit ('u' :: digits) digits
        let (ds, rest) ← readString start fuel rest
        return (d :: ds, rest)
      | e :: rest =>
        match simpleEscape? e with
        | none => .error (.fault .badEscape ('\\' :: e :: rest))
        | some d => do
          let (ds, rest) ← readString start fuel rest
          return (d :: ds, rest)
    else if c.toNat < 32 then .error (.fault .controlCharacter (c :: rest))
    else do
      let (ds, rest) ← readString start fuel rest
      return (c :: ds, rest)

def isDigit (c : Char) : Bool :=
  '0' ≤ c && c ≤ '9'

def digitsValue (ds : List Char) : Nat :=
  ds.foldl (fun n c => 10 * n + (c.toNat - 48)) 0

def splitMinus : List Char → Bool × List Char
  | '-' :: rest => (true, rest)
  | s => (false, s)

/-- A zero in front stands alone. -/
def wholePart : List Char → List Char
  | '0' :: _ => ['0']
  | body => body.takeWhile isDigit

/-- A point counts only with a digit behind it. -/
def fractionPart : List Char → List Char × List Char
  | '.' :: rest => if (rest.takeWhile isDigit).isEmpty then ([], '.' :: rest) else rest.span isDigit
  | s => ([], s)

/-- An exponent counts only with a digit in it. -/
def exponentPart (s : List Char) : Option Int × List Char :=
  match s with
  | [] => (none, s)
  | e :: rest =>
    if e = 'e' ∨ e = 'E' then
      let (negative, body) := Text.splitSign rest
      if (body.takeWhile isDigit).isEmpty then (none, s)
      else
        let n : Nat := digitsValue (body.takeWhile isDigit)
        (some (if negative then -(n : Int) else n), body.dropWhile isDigit)
    else (none, s)

def readNumber (s : List Char) : Except Stop (Number × List Char) :=
  let (negative, body) := splitMinus s
  let whole := wholePart body
  if whole.isEmpty then .error (.fault .expectedValue s)
  else
    let (fraction, rest) := fractionPart (body.drop whole.length)
    let (exponent, rest) := exponentPart rest
    if fraction.isEmpty && exponent.isNone then
      if whole.length > Text.digitLimit then .error (.tooLong whole.length)
      else
        let n : Nat := digitsValue whole
        .ok (.int (if negative then -(n : Int) else n), rest)
    else
      .ok (.float (Binary64.ofDecimal negative (digitsValue (whole ++ fraction)) (exponent.getD 0 - fraction.length)), rest)

mutual

def readValue : (fuel : Nat) → List Char → Except Stop (Json × List Char)
  | 0, s => .error (.fault .expectedValue s)
  | fuel + 1, s =>
    match s with
    | '\x22' :: rest => do
      let (cs, rest) ← readString s rest.length.succ rest
      return (.str (String.ofList cs), rest)
    | '\x7b' :: rest =>
      match skipSpace rest with
      | '\x7d' :: rest => .ok (.obj [], rest)
      | rest => do
        let (fields, rest) ← readFields fuel [] rest
        return (.obj fields, rest)
    | '[' :: rest =>
      match skipSpace rest with
      | ']' :: rest => .ok (.arr [], rest)
      | rest => do
        let (items, rest) ← readItems fuel rest
        return (.arr items, rest)
    | 'n' :: 'u' :: 'l' :: 'l' :: rest => .ok (.null, rest)
    | 't' :: 'r' :: 'u' :: 'e' :: rest => .ok (.bool true, rest)
    | 'f' :: 'a' :: 'l' :: 's' :: 'e' :: rest => .ok (.bool false, rest)
    | 'N' :: 'a' :: 'N' :: rest => .ok (.num (.float Binary64.nan), rest)
    | 'I' :: 'n' :: 'f' :: 'i' :: 'n' :: 'i' :: 't' :: 'y' :: rest => .ok (.num (.float (Binary64.infinity false)), rest)
    | '-' :: 'I' :: 'n' :: 'f' :: 'i' :: 'n' :: 'i' :: 't' :: 'y' :: rest =>
      .ok (.num (.float (Binary64.infinity true)), rest)
    | s => do
      let (n, rest) ← readNumber s
      return (.num n, rest)

def readItems : (fuel : Nat) → List Char → Except Stop (List Json × List Char)
  | 0, s => .error (.fault .expectedValue s)
  | fuel + 1, s => do
    let (x, rest) ← readValue fuel s
    match skipSpace rest with
    | ']' :: rest => return ([x], rest)
    | ',' :: rest =>
      let (xs, rest) ← readItems fuel (skipSpace rest)
      return (x :: xs, rest)
    | rest => throw (.fault .expectedComma rest)

/-- Of fields with one name the last one counts, at the place of the first. -/
def readFields : (fuel : Nat) → Fields → List Char → Except Stop (Fields × List Char)
  | 0, _, s => .error (.fault .expectedValue s)
  | fuel + 1, fields, s =>
    match s with
    | '\x22' :: rest => do
      let (name, rest) ← readString s rest.length.succ rest
      match skipSpace rest with
      | ':' :: rest =>
        let (x, rest) ← readValue fuel (skipSpace rest)
        let fields := fields.put (String.ofList name) x
        match skipSpace rest with
        | '\x7d' :: rest => return (fields, rest)
        | ',' :: rest => readFields fuel fields (skipSpace rest)
        | rest => throw (.fault .expectedComma rest)
      | rest => throw (.fault .expectedColon rest)
    | s => throw (.fault .expectedName s)

end

/-- A whole text: one value with white space around it. An opening bracket takes two steps, one for the list or object and
one for its first member, and no other step leaves the rest as long as it was, so two steps a character are enough. -/
def readText (s : List Char) : Except Stop Json := do
  let (v, rest) ← readValue (2 * s.length + 2) (skipSpace s)
  match skipSpace rest with
  | [] => return v
  | rest => throw (.fault .extraData rest)

/-- Why a text is no JSON document. -/
inductive ReadError
  | malformed (cause : SyntaxFault) (line column position : Nat)
  | tooLong (digits : Nat)
  deriving Repr, DecidableEq

def ReadError.message : ReadError → String
  | .malformed cause line column position => s!"{cause.message}: line {line} column {column} (char {position})"
  | .tooLong digits => Text.tooLongMessage digits

/-- Lines are counted by line feeds alone. -/
def ReadError.of (text : List Char) : Stop → ReadError
  | .fault cause rest =>
    let before := text.take (text.length - rest.length)
    let column := (before.reverse.takeWhile (· ≠ '\n')).length + 1
    .malformed cause (before.count '\n' + 1) column before.length
  | .tooLong digits => .tooLong digits

/-- Reads a text whose bytes were read before. -/
def readDecoded (text : String) : Except ReadError Json :=
  (readText text.toList).mapError (ReadError.of text.toList)

/-- Reads a text. A mark of the byte order has no place in front of it. -/
def read (text : String) : Except ReadError Json :=
  if text.toList.head? = some '\uFEFF' then .error (ReadError.of text.toList (.fault .byteOrderMark text.toList))
  else readDecoded text

end Easel.Json
