import Easel.Diagnostic
import Easel.Model
import Easel.Reply

/-!
Compiling a transcript to a batch of actions. The model is called once for a transcript that is neither blank nor too long,
and not at all for another. Actions that the table does not allow stay in the batch, with warnings.
-/

namespace Easel

inductive TranscriptFault
  | missing
  | tooLong
  deriving Repr, DecidableEq

def TranscriptFault.message : TranscriptFault → String
  | .missing => "Transcript is required"
  | .tooLong => "Transcript too long"

structure ServiceFault where
  message : String
  service : String
  status : Option Int := none
  rateLimited : Bool := false

/-- What the user is told about when a command comes to nothing. -/
inductive CommandError
  | transcript (fault : TranscriptFault)
  | service (fault : ServiceFault)
  | reply (fault : Reply.Fault) (text : String)
  | refused (event : Event)

namespace CommandError

def message : CommandError → String
  | .transcript fault => fault.message
  | .service fault => fault.message
  | .reply fault _ => fault.message
  | .refused event => event.message

/-- The status with which a server answers. -/
def status : CommandError → Nat
  | .transcript _ => 400
  | .service fault => if fault.rateLimited then 429 else 502
  | .reply .. => 502
  | .refused _ => 502

end CommandError

/-- How compiling can fail: with an error for the user, or with one that nobody provided for. -/
inductive CompileError
  | command (error : CommandError)
  | numeralTooLong (digits : Nat)
  | model (fault : ModelFault)

def CompileError.message : CompileError → String
  | .command error => error.message
  | .numeralTooLong digits => Text.tooLongMessage digits
  | .model fault => fault.message

namespace Compiler

def given? (v : Json) : Option String :=
  if v.isGiven then some v.display else none

/-- The most specific message in what a service said. -/
def serviceMessage? : Json → Option String
  | .obj fields =>
    ((Fields.value fields "error").fields?.bind fun inner => given? (inner.value "message")).or
      (given? (Fields.value fields "message"))
  | _ => none

def serviceFault (service : String) : ServiceError → ServiceFault
  | .rateLimited _ body =>
    { message := (serviceMessage? body).getD s!"{service} rate limit exceeded", service, status := some 429,
      rateLimited := true }
  | .status _ code body =>
    { message := (serviceMessage? body).getD s!"{service} request failed with status {code}", service,
      status := some code }
  | .unreachable text => { message := s!"Could not reach {service}: {text}", service }

/-- The transcript without the white space around it, which counts towards the length. -/
def checkTranscript (limit : Int) : Json → Except TranscriptFault String
  | .str s =>
    if Text.isBlankText s.toList then .error .missing
    else if limit < s.length then .error .tooLong
    else .ok (trimmed s)
  | _ => .error .missing

def errorOf (service : String) : ModelError → CompileError
  | .service error => .command (.service (serviceFault service error))
  | .fault fault => .model fault

def warnings (actions : List Action) : List String :=
  actions.zipIdx.flatMap fun (a, index) => a.objections.map fun o => s!"action {index}: {o.message}"

def batchOf (transcript reply : String) : Except CompileError Batch :=
  match Reply.actions reply with
  | .ok found =>
    let actions := found.map Action.ofFields
    .ok { actions, transcript := some transcript, warnings := warnings actions, reply := some reply }
  | .error (.shape fault) => .error (.command (.reply fault reply))
  | .error (.numeralTooLong digits) => .error (.numeralTooLong digits)

def compile (limit : Int) (transcript : Json) : StateM Model (Except CompileError Batch) := do
  match checkTranscript limit transcript with
  | .error fault => return .error (.command (.transcript fault))
  | .ok text =>
    let service := (← get).serviceName
    match ← Model.complete (Prompt.ofTranscript text) with
    | .error e => return .error (errorOf service e)
    | .ok reply => return batchOf text reply

/-- A limit of zero is no limit of its own. -/
def limitOf (given : Option Int) (standard : Int) : Int :=
  match given with
  | none => standard
  | some limit => if limit = 0 then standard else limit

end Compiler

end Easel
