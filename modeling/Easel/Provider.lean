import Easel.Model
import Easel.Settings

/-!
Completion services: what is sent to them and how their answers are read. Each service has its own form of request and of
answer; one call sends at most one request.
-/

namespace Easel

inductive Vendor
  | anthropic
  | openai
  deriving Repr, DecidableEq

namespace Vendor

def name : Vendor → String
  | .anthropic => "anthropic"
  | .openai => "openai"

/-- What users know the service as. -/
def serviceName : Vendor → String
  | .anthropic => "Claude"
  | .openai => "OpenAI"

/-- Any other name means the first service. -/
def ofName (name : String) : Vendor :=
  if name = "openai" then .openai else .anthropic

end Vendor

structure ServiceRequest where
  vendor : Vendor
  fields : Fields

/-- What a service answers: blocks of content from one, choices from the other, and how much was used. -/
structure ServiceAnswer where
  blocks : List Fields := []
  choices : List Json := []
  usage : Fields := []

structure Completion where
  content : Json
  inputTokens : Json
  outputTokens : Json

def Completion.toFields (c : Completion) : Fields :=
  [("content", c.content), ("usage", .obj [("input_tokens", c.inputTokens), ("output_tokens", c.outputTokens)])]

namespace Provider

inductive Fault
  | unknownOption (name : String)
  | messagesNotList
  | textNotString
  | noChoice
  | service (error : ModelError)

/-- What a caller may set. -/
structure Options where
  system : Json := .null
  maxTokens : Json := Json.ofInt 400
  temperature : Json := .num (.float 0.0)

def Options.ofFields (fields : Fields) : Except Fault Options :=
  match fields.find? fun (name, _) => name ∉ ["system", "max_tokens", "temperature"] with
  | some (name, _) => .error (.unknownOption name)
  | none =>
    let standard : Options := {}
    .ok ⟨fields.value "system", (fields.lookup "max_tokens").getD standard.maxTokens,
      (fields.lookup "temperature").getD standard.temperature⟩

def message (role : String) (content : Json) : Json :=
  .obj [("role", .str role), ("content", content)]

/-- One service has a field for the system's words, for the other they are the first message. -/
def request (v : Vendor) (model messages : Json) (o : Options) : Except Fault ServiceRequest :=
  let settings : Fields := [("max_tokens", o.maxTokens), ("temperature", o.temperature)]
  match v with
  | .anthropic =>
    let system := if o.system.isGiven then [("system", o.system)] else []
    .ok ⟨v, [("model", model), ("messages", messages)] ++ settings ++ system⟩
  | .openai =>
    match messages with
    | .arr items =>
      let system := if o.system.isGiven then [message "system" o.system] else []
      .ok ⟨v, [("model", model), ("messages", .arr (system ++ items))] ++ settings⟩
    | _ => .error .messagesNotList

/-- A block without text counts as empty. -/
def blockText (block : Fields) : Except Fault String :=
  match block.lookup "text" with
  | none => .ok ""
  | some (.str s) => .ok s
  | some _ => .error .textNotString

def orElse (v fallback : Json) : Json :=
  if v.isGiven then v else fallback

/-- What is not counted is zero. -/
def tokens (usage : Fields) (name : String) : Json :=
  orElse (usage.value name) (Json.ofInt 0)

def completion (v : Vendor) (a : ServiceAnswer) : Except Fault Completion :=
  match v with
  | .anthropic => do
    let texts ← a.blocks.mapM blockText
    return ⟨.str (String.join texts), tokens a.usage "input_tokens", tokens a.usage "output_tokens"⟩
  | .openai =>
    match a.choices with
    | [] => .error .noChoice
    | content :: _ =>
      .ok ⟨orElse content (.str ""), tokens a.usage "prompt_tokens", tokens a.usage "completion_tokens"⟩

/-- The request that was sent, if it came to that, and the outcome. -/
def call (v : Vendor) (model messages : Json) (options : Fields) (api : ServiceRequest → Except ModelError ServiceAnswer) :
    Option ServiceRequest × Except Fault Completion :=
  match (Options.ofFields options).bind (request v model messages) with
  | .error e => (none, .error e)
  | .ok r => (some r, ((api r).mapError .service).bind (completion v))

def modelOf (s : Settings) : Vendor → String
  | .anthropic => s.compilerModel
  | .openai => s.openaiModel

/-- Completes a prompt with the model in the settings. A limit of zero tokens is no limit of its own. -/
def complete (v : Vendor) (s : Settings) (prompt : Json) (options : Fields)
    (api : ServiceRequest → Except ModelError ServiceAnswer) : Option ServiceRequest × Except Fault Json :=
  match options.find? (·.1 ≠ "max_tokens") with
  | some (name, _) => (none, .error (.unknownOption name))
  | none =>
    let maxTokens := orElse (options.value "max_tokens") (Json.ofInt s.maxTokens)
    let (sent, outcome) := call v (.str (modelOf s v)) (.arr [message "user" prompt]) [("max_tokens", maxTokens)] api
    (sent, outcome.map (·.content))

end Provider

end Easel
