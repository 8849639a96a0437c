import Easel.Service.Endpoint

/-!
The description of the service for programs: which endpoints there are, what they take and what they answer. The types of
bodies are given by the shapes of their fields.
-/

namespace Easel.Service

inductive Shape
  | anything
  | text
  | whole
  | truth
  | instant
  | record
  | labelled
  | reference (schema : String)
  | listOf (item : Shape)
  | oneOf (first second : Shape)
  | nothing

namespace Shape

def optional (s : Shape) : Shape :=
  .oneOf s .nothing

def pathOf (schema : String) : String :=
  "#/components/schemas/" ++ schema

def typed (name : String) : String × Json :=
  ("type", .str name)

def toFields : Shape → Fields
  | .anything => []
  | .text => [typed "string"]
  | .whole => [typed "integer"]
  | .truth => [typed "boolean"]
  | .instant => [typed "string", ("format", .str "date-time")]
  | .record => [typed "object"]
  | .labelled => [typed "object", ("additionalProperties", .bool true)]
  | .reference schema => [("$ref", .str (pathOf schema))]
  | .listOf item => [typed "array", ("items", .obj item.toFields)]
  | .oneOf first second => [("anyOf", .arr [.obj first.toFields, .obj second.toFields])]
  | .nothing => [typed "null"]

end Shape

/-- Letters in words: the first of each is written large, the others small. Underscores become blanks. -/
def titleChars (inWord : Bool) : List Char → List Char
  | [] => []
  | c :: rest =>
    let shown := if c = '_' then ' ' else if inWord then c.toLower else c.toUpper
    shown :: titleChars c.isAlpha rest

def titleOf (name : String) : String :=
  String.ofList (titleChars false name.toList)

/-- A field of a body. `initial` is what it holds when it is not given, as far as that is told. -/
structure Property where
  name : String
  shape : Shape
  title : String := titleOf name
  initial : Option Json := none
  isRequired : Bool := true

namespace Property

def initially (p : Property) (v : Json) : Property :=
  { p with initial := some v, isRequired := false }

/-- The field need not be given. -/
def free (p : Property) : Property :=
  { p with isRequired := false }

def toFields (p : Property) : Fields :=
  p.shape.toFields ++ [("title", .str p.title)] ++ (p.initial.map fun v => ("default", v)).toList

end Property

structure BodySchema where
  name : String
  about : Option String := none
  properties : List Property

namespace BodySchema

def toFields (s : BodySchema) : Fields :=
  let required := (s.properties.filter (·.isRequired)).map (·.name)
  (s.about.map fun t => ("description", Json.str t)).toList ++
    [("properties", .obj (s.properties.map fun p => (p.name, .obj p.toFields)))] ++
    (if required.isEmpty then [] else [("required", Json.strings required)]) ++
    [("title", .str s.name), Shape.typed "object"]

def actionList : Shape := .listOf .labelled

def success : Property := Property.initially ⟨"success", .truth, "Success", none, true⟩ (.bool true)

def compileRequest : BodySchema where
  name := "CompileRequest"
  about := some ("Body of POST /api/claude.\n\ntranscript is left untyped so that missing, empty and non-string values\n" ++
    "all reach the compiler's own validation and get its 400 message.")
  properties := [Property.free { name := "transcript", shape := .anything }]

def compileResponse : BodySchema where
  name := "CompileResponse"
  properties := [{ name := "actions", shape := actionList },
    Property.free { name := "warnings", shape := .listOf .text }]

def postCommandRequest : BodySchema where
  name := "PostCommandRequest"
  about := some "Body of POST /api/commands: a transcript or pre-compiled actions for one plugin."
  properties := [Property.free { name := "pluginId", shape := Shape.optional .text },
    Property.free { name := "transcript", shape := Shape.optional .text },
    Property.free { name := "actions", shape := actionList.optional }]

def postCommandResponse : BodySchema where
  name := "PostCommandResponse"
  properties := [success, { name := "id", shape := .text }, { name := "pending", shape := .whole }]

def pendingCommandResponse : BodySchema where
  name := "PendingCommandResponse"
  about := some "What a polling plugin receives. command is null when nothing is pending."
  properties := [Property.free { name := "command", shape := Shape.optional .labelled },
    Property.initially { name := "pending", shape := .whole } (Json.ofNat 0)]

def clearCommandResponse : BodySchema where
  name := "ClearCommandResponse"
  properties := [success, { name := "cleared", shape := .whole }]

def pluginStatusResponse : BodySchema where
  name := "PluginStatusResponse"
  properties := [{ name := "connected", shape := .truth }, { name := "activePlugins", shape := .whole },
    { name := "timestamp", shape := .instant }]

def healthResponse : BodySchema where
  name := "HealthResponse"
  properties := [Property.initially { name := "status", shape := .text } (.str "ok"),
    { name := "timestamp", shape := .instant }, { name := "environment", shape := .text }]

def problem : BodySchema where
  name := "ValidationError"
  properties := [{ name := "loc", shape := .listOf (.oneOf .text .whole), title := "Location" },
    { name := "msg", shape := .text, title := "Message" }, { name := "type", shape := .text, title := "Error Type" },
    Property.free { name := "input", shape := .anything },
    Property.free { name := "ctx", shape := .record, title := "Context" }]

def problems : BodySchema where
  name := "HTTPValidationError"
  properties := [Property.free { name := "detail", shape := .listOf (.reference problem.name) }]

def all : List BodySchema :=
  [clearCommandResponse, compileRequest, compileResponse, problems, healthResponse, pendingCommandResponse,
    pluginStatusResponse, postCommandRequest, postCommandResponse, problem]

end BodySchema

/-- What an endpoint takes beside its body. -/
structure Parameter where
  property : Property
  place : String

def Parameter.toJson (p : Parameter) : Json :=
  .obj [("in", .str p.place), ("name", .str p.property.name), ("required", .bool p.property.isRequired),
    ("schema", .obj p.property.toFields)]

namespace Endpoint

/-- What an endpoint does, in two or three words. -/
def action : Endpoint → String
  | .compile => "compile_transcript"
  | .postCommand => "post_command"
  | .pollCommand => "poll_command"
  | .clearCommands => "clear_commands"
  | .pluginStatus => "plugin_status"
  | .health => "health"
  | .description => "description"

def about : Endpoint → String
  | .compile => "Compile a transcript into an action batch.\n\nRate limited per client IP (per minute and per day)."
  | .postCommand => "Queue a voice command for a plugin."
  | .pollCommand => "Next pending command for the polling plugin. Registers the plugin as connected."
  | .clearCommands => "Acknowledge the oldest pending command, or drop them all with ?all=true."
  | .pluginStatus => "How many plugins polled within the connection TTL."
  | .health => "Health check endpoint for uptime monitoring."
  | .description => "What the service offers."

def request? : Endpoint → Option BodySchema
  | .compile => some .compileRequest
  | .postCommand => some .postCommandRequest
  | _ => none

def answer? : Endpoint → Option BodySchema
  | .compile => some .compileResponse
  | .postCommand => some .postCommandResponse
  | .pollCommand => some .pendingCommandResponse
  | .clearCommands => some .clearCommandResponse
  | .pluginStatus => some .pluginStatusResponse
  | .health => some .healthResponse
  | .description => none

def pluginParameter : Parameter :=
  ⟨Property.free { name := "x-plugin-id", shape := Shape.optional .text }, "header"⟩

def allParameter : Parameter :=
  ⟨Property.initially { name := "all", shape := .truth } (.bool false), "query"⟩

def parameters : Endpoint → List Parameter
  | .pollCommand => [pluginParameter]
  | .clearCommands => [allParameter, pluginParameter]
  | _ => []

def tags : Endpoint → List String
  | .health | .description => []
  | _ => ["commands"]

/-- The name of an endpoint among all: what it does, where, and with which method. -/
def operationId (e : Endpoint) : String :=
  let plain (c : Char) : Char := if c.isAlphanum then c else '_'
  e.action ++ String.ofList (e.path.toList.map plain) ++ "_" ++ e.method.map Char.toLower

def contentOf (schema : BodySchema) : String × Json :=
  ("content", .obj [("application/json", .obj [("schema", .obj (Shape.reference schema.name).toFields)])])

def answers (e : Endpoint) : Fields :=
  (e.answer?.map fun s => ("200", Json.obj [contentOf s, ("description", .str "Successful Response")])).toList ++
    if e.request?.isSome || !e.parameters.isEmpty then
      [("422", .obj [contentOf .problems, ("description", .str "Validation Error")])]
    else []

def toFields (e : Endpoint) : Fields :=
  (if e.tags.isEmpty then [] else [("tags", Json.strings e.tags)]) ++
    [("summary", .str (titleOf e.action)), ("description", .str e.about), ("operationId", .str e.operationId)] ++
    (if e.parameters.isEmpty then [] else [("parameters", .arr (e.parameters.map Parameter.toJson))]) ++
    (e.request?.map fun s => ("requestBody", Json.obj [contentOf s, ("required", .bool true)])).toList ++
    [("responses", .obj e.answers)]

/-- The endpoints that the description speaks of: all but itself. -/
def described : List Endpoint :=
  all.filter (· ≠ .description)

def paths : Fields :=
  (described.map (·.path)).eraseDups.map fun path =>
    (path, .obj ((described.filter (·.path = path)).map fun e => (e.method.map Char.toLower, .obj e.toFields)))

end Endpoint

def description : Json :=
  .obj [("openapi", .str "3.1.0"), ("info", .obj [("title", .str "Voice Canvas"), ("version", .str "0.1.0")]),
    ("paths", .obj Endpoint.paths),
    ("components", .obj [("schemas", .obj (BodySchema.all.map fun s => (s.name, .obj s.toFields)))])]

end Easel.Service
