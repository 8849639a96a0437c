import Easel.Http.Domain
import Easel.Text.Digits

/-!
Addresses of resources: a scheme, an authority, a path, a query and a fragment. Reading one puts it into its usual form, in
which the scheme and the host are small, a port that goes without saying is left out, dots in the path are followed, and
what an address cannot hold is in percent notation.
-/

namespace Easel.Http

structure Address where
  scheme : String := ""
  user : String := ""
  host : String := ""
  port : Option Int := none
  path : String := ""
  query : Option String := none
  fragment : Option String := none
  deriving Repr, DecidableEq

namespace Address

inductive Fault
  | tooLong
  | partTooLong (name : String)
  | controlCharacter (c : Char) (position : Nat)
  | host (fault : Domain.Fault)
  | port (text : String)
  | slashes
  | colon
  deriving Repr, DecidableEq

def Fault.message : Fault → String
  | .tooLong => "URL too long"
  | .partTooLong name => s!"URL component '{name}' too long"
  | .controlCharacter c position =>
    s!"Invalid non-printable ASCII character in URL, {quoted (String.ofList [c])} at position {position}."
  | .host fault => fault.message
  | .port text => s!"Invalid port: {quoted text}"
  | .slashes => "Relative URLs cannot have a path starting with '//'"
  | .colon => "Relative URLs cannot have a path starting with ':'"

/-- The most characters of an address, and of each of its parts. -/
def limit : Nat := 65536

/-! The parts of an address as they are written -/

structure Parts where
  scheme : List Char := []
  authority : List Char := []
  path : List Char := []
  query : Option (List Char) := none
  fragment : Option (List Char) := none

def isSchemeChar (c : Char) : Bool :=
  Text.isAscii c && (c.isAlphanum || c = '+' || c = '.' || c = '-')

/-- A scheme ends in a colon, and may be empty before it. -/
def splitScheme (s : List Char) : List Char × List Char :=
  let name := s.takeWhile isSchemeChar
  match s.dropWhile isSchemeChar with
  | ':' :: rest => if name.head?.all Char.isAlpha then (name, rest) else ([], s)
  | _ => ([], s)

def endsAuthority (c : Char) : Bool :=
  c = '/' || c = '?' || c = '#'

def splitAuthority : List Char → List Char × List Char
  | '/' :: '/' :: rest => rest.span (!endsAuthority ·)
  | s => ([], s)

/-- What follows a mark, if the text starts with it, up to where `isEnd` holds. -/
def splitAfter (mark : Char) (isEnd : Char → Bool) : List Char → Option (List Char) × List Char
  | [] => (none, [])
  | c :: rest => if c = mark then (some (rest.takeWhile (!isEnd ·)), rest.dropWhile (!isEnd ·)) else (none, c :: rest)

def Parts.ofText (s : List Char) : Parts :=
  let (scheme, rest) := splitScheme s
  let (authority, rest) := splitAuthority rest
  let (path, rest) := rest.span fun c => c ≠ '?' && c ≠ '#'
  let (query, rest) := splitAfter '?' (· = '#') rest
  { scheme, authority, path, query, fragment := (splitAfter '#' (fun _ => false) rest).1 }

/-- What stands before the last mark, if there is one, and what after it. -/
def splitLast (mark : Char) (s : List Char) : List Char × List Char :=
  let after := (s.reverse.takeWhile (· ≠ mark)).reverse
  ((s.take (s.length - after.length)).dropLast, after)

/-- A host in brackets goes up to the last bracket, and another one to the first colon. -/
def splitHost (s : List Char) : List Char × List Char :=
  if s.head? = some '[' && s.contains ']' then
    let after := (splitLast ']' s).2
    (s.take (s.length - after.length), after)
  else s.span (· ≠ ':')

/-! The usual form -/

def isQuerySafe (c : Char) : Bool :=
  32 < c.toNat && c.toNat < 127 && c ≠ '\x22' && c ≠ '#' && c ≠ '<' && c ≠ '>'

def isPathSafe (c : Char) : Bool :=
  isQuerySafe c && c ≠ '?' && c ≠ '\x60' && c ≠ '\x7b' && c ≠ '\x7d'

def isUserSafe (c : Char) : Bool :=
  isPathSafe c && !"/;=@[\\]^|".toList.contains c

def isFragmentSafe (c : Char) : Bool :=
  32 < c.toNat && c.toNat < 127 && c ≠ '\x22' && c ≠ '<' && c ≠ '>' && c ≠ '\x60'

/-- A double dot takes back the segment before it, but not the empty one at the start. -/
def followDots (segments : List (List Char)) : List (List Char) :=
  let follow (back : List (List Char)) (s : List Char) : List (List Char) :=
    if s = ['.'] then back
    else if s = ['.', '.'] then if back = [[]] then back else back.tail
    else s :: back
  (segments.foldl follow []).reverse

def cleanPath (path : List Char) : List Char :=
  ['/'].intercalate (followDots (Text.pieces (· = '/') path))

def standardPort? (scheme : List Char) : Option Int :=
  [("ftp", 21), ("http", 80), ("https", 443), ("ws", 80), ("wss", 443)].lookup (String.ofList scheme)

/-- The port that is said, unless it goes without saying. -/
def readPort (scheme text : List Char) : Except Fault (Option Int) :=
  if text.isEmpty then .ok none
  else
    match Text.readInteger (String.ofList text) with
    | .ok n => .ok (if standardPort? scheme = some n then none else some n)
    | .error _ => .error (.port (String.ofList text))

def checkLengths (p : Parts) : Except Fault Unit := do
  let check (name : String) (s : List Char) : Except Fault Unit :=
    if limit < s.length then .error (.partTooLong name) else .ok ()
  check "path" p.path
  check "query" (p.query.getD [])

def ofParts (p : Parts) : Except Fault Address := do
  let (user, rest) := splitLast '@' p.authority
  let (host, rest) := splitHost rest
  let host ← (Domain.encode host).mapError .host
  let port ← readPort p.scheme (if rest.head? = some ':' then rest.drop 1 else rest)
  let user := Text.percentEncode isUserSafe user
  let scheme := Text.lower p.scheme
  let isBare := scheme.isEmpty && user.isEmpty && host.isEmpty && port.isNone
  if isBare && ['/', '/'].isPrefixOf p.path then throw .slashes
  if isBare && p.path.head? = some ':' then throw .colon
  let write (isSafe : Char → Bool) (s : List Char) : String := String.ofList (Text.percentEncode isSafe s)
  return {
    scheme := String.ofList scheme, user := String.ofList user, host := String.ofList host, port
    path := write isPathSafe (if isBare then p.path else cleanPath p.path)
    query := p.query.map (write isQuerySafe)
    fragment := p.fragment.map (write isFragmentSafe) }

def isControl (c : Char) : Bool :=
  c.toNat < 32 || c.toNat = 127

def read (text : String) : Except Fault Address :=
  let s := text.toList
  if limit < s.length then .error .tooLong
  else
    match s.find? isControl with
    | some c => .error (.controlCharacter c (s.takeWhile (!isControl ·)).length)
    | none => ofParts (Parts.ofText s)

def authority (a : Address) : String :=
  (if a.user.isEmpty then "" else a.user ++ "@") ++ (if a.host.contains ':' then s!"[{a.host}]" else a.host) ++
    ((a.port.map fun n => s!":{n}").getD "")

def text (a : Address) : String :=
  (if a.scheme.isEmpty then "" else a.scheme ++ ":") ++ (if a.authority.isEmpty then "" else "//" ++ a.authority) ++ a.path ++
    ((a.query.map ("?" ++ ·)).getD "") ++ ((a.fragment.map ("#" ++ ·)).getD "")

def parts (a : Address) : Parts :=
  { scheme := a.scheme.toList, authority := a.authority.toList, path := a.path.toList, query := a.query.map (·.toList)
    fragment := a.fragment.map (·.toList) }

/-- Puts a query in the place of the one that is there. -/
def withQuery (a : Address) (query : Option String) : Except Fault Address := do
  let p := { a.parts with query := query.map (·.toList) }
  checkLengths p
  ofParts p

/-- An address that says from whom to get the resource. -/
def isAbsolute (a : Address) : Bool :=
  !a.scheme.isEmpty && !a.host.isEmpty

/-- An address that does not say it is looked up from the root of another. -/
def under (root a : Address) : Except Fault Address := do
  if a.isAbsolute then return a
  let p := { root.parts with path := '/' :: (a.path.toList.dropWhile (· = '/')), query := a.query.map (·.toList) }
  checkLengths p
  ofParts p

end Address

end Easel.Http
