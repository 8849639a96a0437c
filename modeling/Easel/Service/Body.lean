import Easel.Http
import Easel.Json.Encoded

/-!
The bodies of requests, read into what the service needs. All problems of a body are reported at once, in the order of its
fields.
-/

namespace Easel.Service

open Http

inductive Problem
  | missingBody
  | notJson (cause : Json.SyntaxFault) (position : Nat)
  | notObject (found : Json)
  | notString (field : String) (found : Json)
  | notList (field : String) (found : Json)
  | notDictionary (field : String) (index : Nat) (found : Json)
  | notBoolean (parameter : String)

namespace Problem

def kind : Problem → String
  | .missingBody => "missing"
  | .notJson .. => "json_invalid"
  | .notObject _ => "model_attributes_type"
  | .notString .. => "string_type"
  | .notList .. => "list_type"
  | .notDictionary .. => "dict_type"
  | .notBoolean _ => "bool_parsing"

/-- Where in the request the problem is. -/
def location : Problem → List Json
  | .missingBody => [.str "body"]
  | .notJson _ position => [.str "body", Json.ofNat position]
  | .notObject _ => [.str "body"]
  | .notString field _ => [.str "body", .str field]
  | .notList field _ => [.str "body", .str field]
  | .notDictionary field index _ => [.str "body", .str field, Json.ofNat index]
  | .notBoolean parameter => [.str "query", .str parameter]

def message : Problem → String
  | .missingBody => "Field required"
  | .notJson .. => "JSON decode error"
  | .notObject _ => "Input should be a valid dictionary or object to extract fields from"
  | .notString .. => "Input should be a valid string"
  | .notList .. => "Input should be a valid list"
  | .notDictionary .. => "Input should be a valid dictionary"
  | .notBoolean _ => "Input should be a valid boolean, unable to interpret input"

def context : Problem → Fields
  | .notJson cause _ => [("ctx", .obj [("error", .str cause.message)])]
  | _ => []

/-- What was found instead, if the service speaks of it. -/
def found : Problem → Json
  | .notObject v | .notString _ v | .notList _ v | .notDictionary _ _ v => v
  | .missingBody | .notJson .. | .notBoolean _ => .null

def toJson (p : Problem) : Json :=
  .obj ([("type", .str p.kind), ("loc", .arr p.location), ("msg", .str p.message)] ++ p.context)

end Problem

/-- Why a request is refused before it is looked at: it has problems, or cannot be read at all. -/
inductive BodyFault
  | problems (ps : List Problem)
  | unreadable

/-- Nothing can be said of numbers that are not finite, so a body refused for one of them is an error of the service. -/
def BodyFault.response : BodyFault → Response
  | .problems ps => if ps.all (·.found.isFinite) then .detail 422 (.arr (ps.map Problem.toJson)) else .internalError
  | .unreadable => .detail 400 (.str "There was an error parsing the body")

def readObject (r : Request) : Except BodyFault Fields :=
  if r.body.isEmpty then .error (.problems [.missingBody])
  else if !r.hasJson then .error (.problems [.notObject (.str r.body)])
  else
    match Json.readEncoded r.body with
    | .ok (.obj fields) => .ok fields
    | .ok v => .error (.problems [.notObject v])
    | .error (.document (.malformed cause _ _ position)) => .error (.problems [.notJson cause position])
    | .error _ => .error .unreadable

/-- A command as it is posted. Only what is there must have the right type. -/
structure Posting where
  plugin : Option String
  transcript : Option String
  actions : Option (List Json)

namespace Posting

def pluginName : String := "pluginId"

/-- The plugin may also be named in the other spelling, if it is not in the first. -/
def otherPluginName : String := "plugin_id"

def pluginField (fields : Fields) : String :=
  if (fields.lookup pluginName).isSome then pluginName else otherPluginName

def textProblems (fields : Fields) (name : String) : List Problem :=
  let v := fields.value name
  if v.isNull || v.isString then [] else [.notString name v]

def itemProblems (items : List Json) : List Problem :=
  items.zipIdx.filterMap fun (item, index) =>
    if item.fields?.isSome then none else some (.notDictionary "actions" index item)

def actionProblems : Json → List Problem
  | .null => []
  | .arr items => itemProblems items
  | v => [.notList "actions" v]

def problems (fields : Fields) : List Problem :=
  textProblems fields (pluginField fields) ++ textProblems fields "transcript" ++ actionProblems (fields.value "actions")

def ofFields (fields : Fields) : Except BodyFault Posting :=
  match problems fields with
  | [] =>
    .ok ⟨(fields.value (pluginField fields)).string?, (fields.value "transcript").string?, (fields.value "actions").items?⟩
  | ps => .error (.problems ps)

end Posting

/-- The spellings of the two truth values, in lower case. -/
def trueWords : List String := ["1", "on", "t", "true", "y", "yes"]

def falseWords : List String := ["0", "off", "f", "false", "n", "no"]

def asciiLower (s : String) : String :=
  String.ofList (s.toList.map Char.toLower)

/-- A switch in the query, which is off if it is not there. If it is there several times the last one counts. -/
def readSwitch (r : Request) (name : String) : Except BodyFault Bool :=
  match r.query.reverse.lookup name with
  | none => .ok false
  | some s =>
    if asciiLower s ∈ trueWords then .ok true
    else if asciiLower s ∈ falseWords then .ok false
    else .error (.problems [.notBoolean name])

end Easel.Service
