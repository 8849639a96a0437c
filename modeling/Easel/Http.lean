import Easel.Http.Address
import Easel.Http.Parameters
import Easel.Text.Blank

/-!
Requests and responses, as far as the service and its clients look at them. Names of headers are read without regard to case.
-/

namespace Easel.Http

/-- A path or address without the slashes at its end. -/
def withoutSlashes (path : String) : String :=
  String.ofList (path.toList.reverse.dropWhile (· = '/')).reverse

/-- Why a request is not sent at all. -/
inductive Unsendable
  | address (fault : Address.Fault)
  | parameters (fault : ParameterFault)
  | notAscii (text : String)

/-- The first characters of a text that a header cannot hold, and where they are. -/
def notAsciiMessage (s : List Char) : String :=
  let start := (s.takeWhile Text.isAscii).length
  let run := (s.drop start).takeWhile (!Text.isAscii ·)
  let reason := "ordinal not in range(128)"
  match run with
  | [c] =>
    let shown := String.ofList (if c.toNat < 0x100 then ['\\', 'x'] ++ Text.hex 2 c.toNat
      else if c.toNat < 0x10000 then ['\\', 'u'] ++ Text.hex 4 c.toNat
      else ['\\', 'U'] ++ Text.hex 8 c.toNat)
    s!"'ascii' codec can't encode character '{shown}' in position {start}: {reason}"
  | run => s!"'ascii' codec can't encode characters in position {start}-{start + run.length - 1}: {reason}"

def Unsendable.message : Unsendable → String
  | .address fault => fault.message
  | .parameters fault => fault.message
  | .notAscii text => notAsciiMessage text.toList

/-- Headers hold ASCII characters only. -/
def checkHeaders (texts : List String) : Except Unsendable Unit :=
  match texts.find? fun t => !t.toList.all Text.isAscii with
  | some t => .error (.notAscii t)
  | none => .ok ()

/-- The address to send a request to: one that names no host is looked up from the root of another, and parameters, if any
are given, take the place of its query. -/
def target (root : Address) (address : String) (headers : List String) (parameters : Option Json) :
    Except Unsendable Address := do
  let a ← (Address.read address >>= root.under).mapError .address
  checkHeaders headers
  match parameters with
  | none => return a
  | some v =>
    let query ← (Parameters.query v).mapError .parameters
    (a.withQuery query).mapError .address

/-- A request as it reaches the service. -/
structure Request where
  method : String
  path : String
  query : Keyed String := []
  headers : Keyed String := []
  body : String := ""
  /-- The address of the peer, if it is known. -/
  client : Option String := none

inductive Content
  | json (value : Json)
  | text (text : String)

structure Response where
  status : Nat
  content : Content
  headers : Keyed String := []

namespace Request

/-- `name` is in lower case. -/
def header? (r : Request) (name : String) : Option String :=
  (r.headers.find? fun (n, _) => lowered n = name).map (·.2)

/-- The type of the body without its parameters, in lower case. -/
def contentType? (r : Request) : Option String :=
  (r.header? "content-type").map fun t => lowered (trimmed (String.ofList (Text.beforeMark ';' t.toList)))

/-- A body is read as JSON only if its type says that it is. -/
def hasJson (r : Request) : Bool :=
  match r.contentType?.map fun t => Text.pieces (· = '/') t.toList with
  | some [main, sub] => main = "application".toList && (sub = "json".toList || "+json".toList.isSuffixOf sub)
  | _ => false

/-- Where the service is, for those who do not say. -/
def home : Address :=
  { scheme := "http", host := "localhost" }

/-- Sends a request to the service. The method may be written in letters of either size. -/
def ofCall (method address : String) (parameters : Option Json) (headers : Keyed String) (body : String)
    (client : Option String) : Except Unsendable Request := do
  let a ← target home address (headers.flatMap fun (name, v) => [name, v]) parameters
  return {
    method := uppered method, headers, body, client
    path := Text.percentDecode (if a.path.isEmpty then ['/'] else a.path.toList)
    query := Text.parametersOf (a.query.getD "") }

end Request

namespace Response

/-- JSON has no numbers that are not finite, so they are sent as null. -/
def ofJson (status : Nat) (v : Json) : Response :=
  ⟨status, .json (v.mapNonFinite fun _ => .null), []⟩

def ofText (status : Nat) (text : String) : Response :=
  ⟨status, .text text, []⟩

/-- An error that nobody provided for. -/
def internalError : Response :=
  ofText 500 "Internal Server Error"

/-- An error with what is to be said about it. -/
def detail (status : Nat) (v : Json) : Response :=
  ofJson status (.obj [("detail", v)])

end Response

end Easel.Http
