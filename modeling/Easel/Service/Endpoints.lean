import Easel.Channel
import Easel.Compiler
import Easel.RateLimit
import Easel.Service.Body
import Easel.Service.Description
import Easel.Service.Sharing
import Easel.Settings

/-!
The service: it compiles transcripts, within limits for each client, and keeps commands for plugins that poll. A plugin reads
its oldest command and then acknowledges it, so nothing is lost when an answer does not arrive.
-/

namespace Easel

open Http

/-- The time on two clocks: the channel's own, and the day's in microseconds. -/
structure Moment (τ : Type) where
  channel : τ
  day : Int

structure Service (τ : Type) where
  settings : Settings
  channel : Channel τ
  limiter : RateLimiter := {}
  model : Model
  limit : Int

namespace Service

/-- The first address that the request is said to come from, else that of the peer. -/
def clientOf (r : Request) : String :=
  let peer := r.client.getD "unknown"
  match r.header? "x-forwarded-for" with
  | none => peer
  | some s => if s.isEmpty then peer else trimmed (String.ofList (Text.beforeMark ',' s.toList))

def nameless : String := "unknown"

/-- Plugins without a name share one queue. -/
def pluginOf (r : Request) : String :=
  match r.header? "x-plugin-id" with
  | none => nameless
  | some name => if name.isEmpty then nameless else name

def unusableReply : String :=
  "The AI service returned a response that could not be understood. Please try again."

/-- An unusable reply is not shown to the user. -/
def commandErrorText : CommandError → String
  | .reply .. => unusableReply
  | e => e.message

/-- Values that go deeper than this are not written. -/
def heightLimit : Nat := 255

/-- An answer about records of which one holds a value that is not written is an error. -/
def withinHeight (records : List Fields) (a : Response) : Response :=
  if records.all fun fields => fields.all fun (_, v) => v.height ≤ heightLimit then a else .internalError

def compileResponse : Except CompileError Batch → Response
  | .ok b =>
    withinHeight (b.actions.map Action.toFields) (.ofJson 200 (.obj (b.toFields ++ [("warnings", Json.strings b.warnings)])))
  | .error (.command e) => .detail e.status (.str (commandErrorText e))
  | .error _ => .internalError

variable {τ : Type}

/-- A request counts against the limits of its client before its transcript is looked at. On the first day of the calendar
no limit can be told. -/
def compile (now : Moment τ) (r : Request) : StateM (Service τ) Response := do
  match readObject r with
  | .error f => return f.response
  | .ok fields =>
    if !Calendar.isMoment (now.day - Calendar.day) then return .internalError
    let s ← get
    let (refusal, limiter) :=
      s.limiter.checkClient now.day (clientOf r) s.settings.requestsPerMinute s.settings.requestsPerDay
    set { s with limiter }
    match refusal with
    | some refusal => return .detail 429 (.str refusal.message)
    | none =>
      let (result, model) := (Compiler.compile s.limit (fields.value "transcript")).run s.model
      modify ({ · with model })
      return compileResponse result

inductive PostRefusal
  | noPlugin
  | noTranscript
  | tooLong

def PostRefusal.message : PostRefusal → String
  | .noPlugin => "pluginId is required"
  | .noTranscript => TranscriptFault.missing.message
  | .tooLong => TranscriptFault.tooLong.message

/-- A blank transcript is as good as none, and needs actions beside it. -/
def refusal? (limit : Int) (p : Posting) : Option PostRefusal :=
  if (p.plugin.getD "").isEmpty then some .noPlugin
  else if Text.isBlankText (p.transcript.getD "").toList && p.actions.isNone then some .noTranscript
  else if limit < (p.transcript.getD "").length && p.transcript.isSome then some .tooLong
  else none

def post (now : Moment τ) (p : Posting) : StateM (Service τ) Response := do
  let s ← get
  match refusal? s.settings.transcriptLimit p with
  | some refusal => return .detail 400 (.str refusal.message)
  | none =>
    let plugin := p.plugin.getD ""
    match s.channel.post now.channel plugin (Json.ofOption .str p.transcript) (Json.ofOption .arr p.actions) with
    | .error _ => return .internalError
    | .ok (command, channel) =>
      set { s with channel }
      return .ofJson 200 (.obj [("success", .bool true), ("id", .str command.id),
        ("pending", Json.ofNat (channel.pendingCount plugin))])

def postCommand (now : Moment τ) (r : Request) : StateM (Service τ) Response := do
  match (readObject r).bind Posting.ofFields with
  | .error f => return f.response
  | .ok p => post now p

section Time

variable [Clock τ] [Sub τ] [LT τ] [DecidableLT τ] [LE τ] [DecidableLE τ]

/-- The oldest command of a plugin, which is left where it is. -/
def pollCommand (now : Moment τ) (plugin : String) : StateM (Service τ) Response := do
  modify fun s => { s with channel := s.channel.touch now.channel plugin }
  let s ← get
  if !s.channel.tellsExpiry now.channel plugin then return .internalError
  let (command, channel) := s.channel.peek now.channel plugin
  set { s with channel }
  let shown := command.map (·.toFields)
  return withinHeight shown.toList (.ofJson 200 (.obj [("command", Json.ofOption .obj shown),
    ("pending", Json.ofNat (channel.pendingCount plugin))]))

def cleared (n : Nat) : Response :=
  .ofJson 200 (.obj [("success", .bool true), ("cleared", Json.ofNat n)])

/-- Acknowledges the oldest command of a plugin, or drops them all. -/
def clearCommands (now : Moment τ) (r : Request) : StateM (Service τ) Response := do
  match readSwitch r "all" with
  | .error f => return f.response
  | .ok true =>
    let s ← get
    let (n, channel) := s.channel.clear (pluginOf r)
    set { s with channel }
    return cleared n
  | .ok false =>
    let s ← get
    if !s.channel.tellsExpiry now.channel (pluginOf r) then return .internalError
    let (command, channel) := s.channel.pop now.channel (pluginOf r)
    set { s with channel }
    return cleared (if command.isSome then 1 else 0)

/-- How many plugins polled lately. -/
def pluginStatus (now : Moment τ) : StateM (Service τ) Response := do
  let c := (← get).channel
  if !c.tellsConnections now.channel then return .internalError
  let active := c.connectedCount now.channel
  return .ofJson 200 (.obj [("connected", .bool (0 < active)), ("activePlugins", Json.ofNat active)])

def health : StateM (Service τ) Response := do
  return .ofJson 200 (.obj [("status", .str "ok"), ("environment", .str (← get).settings.environment)])

def serve (now : Moment τ) (r : Request) : Endpoint → StateM (Service τ) Response
  | .compile => compile now r
  | .postCommand => postCommand now r
  | .pollCommand => pollCommand now (pluginOf r)
  | .clearCommands => clearCommands now r
  | .pluginStatus => pluginStatus now
  | .health => health
  | .description => return .ofJson 200 description

def dispatch (now : Moment τ) (r : Request) : StateM (Service τ) Response := do
  match endpoint r with
  | .ok e => serve now r e
  | .error a => return a

/-- An error that nobody provided for is answered without a word to other origins. -/
def shared (now : Moment τ) (r : Request) : StateM (Service τ) Response := do
  match r.header? "origin" with
  | none => dispatch now r
  | some _ =>
    match Sharing.askedMethod r with
    | some method => return Sharing.preflight method (r.header? "access-control-request-headers")
    | none =>
      let a ← dispatch now r
      return if a.status = 500 then a else Sharing.mark a

/-- Whoever asks for the head of an answer only gets no content. -/
def respond (now : Moment τ) (r : Request) : StateM (Service τ) Response := do
  let a ← shared now r
  return if r.method = "HEAD" then { a with content := .text "" } else a

/-- How long requests are kept: a day and an hour. -/
def keepingSpan : Int := Calendar.day + Calendar.hour

/-- What is kept about requests and commands is swept now and then, as far as it can be told what is out of date. -/
def sweep (now : Moment τ) (s : Service τ) : Service τ :=
  let (channel, isWhole) := s.channel.evictTold now.channel
  { s with
    channel
    limiter :=
      if isWhole && Calendar.isMoment (now.day - keepingSpan) then s.limiter.cleanUp now.day keepingSpan else s.limiter }

end Time

end Service

end Easel
