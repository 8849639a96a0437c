import Easel.Http
import Easel.Json.Encoded

/-!
The service seen from outside: a client that compiles transcripts on a server and leaves commands there for plugins. What
the server answers is given as a list, which is used up request by request.
-/

namespace Easel

open Http

/-- A request as it left the client. -/
structure Sent where
  method : String
  url : String
  plugin : Option String
  body : Json := .null

/-- An answer is a response, or the reason why the server could not be reached. -/
structure Remote where
  url : String
  plugin : Option String := none
  answers : List (Except String Response) := []
  sent : List Sent := []

namespace Remote

inductive Fault
  | unreachable (reason : String)
  | refused (answer : Response)
  | unreadable (error : Json.EncodedError)
  | missing (field : String)
  | notObject (found : Json)
  | unsendable (cause : Unsendable)
  | nowhere (address : String)

abbrev RemoteM := ExceptT Fault (StateM Remote)

def contentJson : Content → Except Json.EncodedError Json
  | .json v => .ok v
  | .text s => Json.readEncoded s

def isSuccess (status : Nat) : Bool :=
  200 ≤ status && status < 300

/-- What the server says about a refusal, else the status alone. -/
def detail (r : Response) : String :=
  match contentJson r.content with
  | .ok (.obj fields) =>
    match fields.lookup "detail" with
    | some v => v.display
    | none => s!"HTTP {r.status}"
  | _ => s!"HTTP {r.status}"

/-- Why a value other than an object has no fields. -/
def noFieldsMessage (v : Json) : String :=
  match v with
  | .arr _ => "list indices must be integers or slices, not str"
  | .str _ => "string indices must be integers, not 'str'"
  | v => s!"'{v.kindName}' object is not subscriptable"

def Fault.message : Fault → String
  | .unreachable reason => reason
  | .refused answer => detail answer
  | .unreadable error => error.message
  | .missing field => quoted field
  | .notObject found => noFieldsMessage found
  | .unsendable cause => cause.message
  | .nowhere address => s!"unknown url type: {quoted address}"

/-- What the user is told if the server refused or could not be reached; any other fault is nobody's plan. -/
def Fault.report? : Fault → Option String
  | .unreachable reason => some s!"could not reach server: {reason}"
  | .refused answer => some (detail answer)
  | _ => none

def outOfAnswers : String := "no scripted response"

/-- An empty name of a plugin is no name. -/
def pluginHeader (r : Remote) : Option String :=
  r.plugin.filter (!·.isEmpty)

def answer (m : Sent) : StateM Remote (Except String Response) := fun r =>
  match r.answers with
  | [] => (.error outOfAnswers, { r with sent := r.sent ++ [m] })
  | a :: rest => (a, { r with answers := rest, sent := r.sent ++ [m] })

/-- Sends a request to a path of the server; any status but success is a fault. An address that names no host is found out
only when an answer is there. -/
def send (method path : String) (body : Json) (parameters : Option Json) : RemoteM Json := do
  let r ← get
  match target {} (withoutSlashes r.url ++ path) r.pluginHeader.toList parameters with
  | .error cause => throw (.unsendable cause)
  | .ok address =>
    match ← answer { method, url := address.text, plugin := r.pluginHeader, body } with
    | .error reason => throw (.unreachable reason)
    | .ok a =>
      if !address.isAbsolute then throw (.nowhere address.text)
      if !isSuccess a.status then throw (.refused a)
      match contentJson a.content with
      | .ok v => return v
      | .error e => throw (.unreadable e)

def field (v : Json) (name : String) : RemoteM Json := do
  match v with
  | .obj fields =>
    match fields.lookup name with
    | some w => return w
    | none => throw (.missing name)
  | v => throw (.notObject v)

/-- Parameters always take the place of a query in the path, even if there are none. -/
def fetch (path : String) (parameters : Json) : RemoteM Json :=
  send "GET" path .null (some parameters)

def post (path : String) (data : Json) : RemoteM Json :=
  send "POST" path data none

/-- The actions of a transcript, as the server compiled it. -/
def compile (transcript : Json) : RemoteM Json := do
  field (← post "/api/claude" (.obj [("transcript", transcript)])) "actions"

/-- Leaves a transcript for a plugin. -/
def sendCommand (plugin transcript : Json) : RemoteM Json :=
  post "/api/commands" (.obj [("pluginId", plugin), ("transcript", transcript)])

def pluginStatus : RemoteM Json :=
  fetch "/api/plugin-status" .null

end Remote

end Easel
