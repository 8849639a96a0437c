import Easel.Json.Reader
import Easel.Text.Blank
import Easel.Text.Search

/-!
The reply of a language model, read as a list of actions. A reply is a JSON object, as it stands or in a code block; it
holds a list of actions, or is one action, or holds one.
-/

namespace Easel.Reply

def fence : List Char := "```".toList

def jsonFence : List Char := "```json".toList

/-- What stands between an opening fence and the next fence, unless there is nothing. -/
def block? (opening s : List Char) : Option (List Char) := do
  let (_, after) ← Text.cut? opening s
  let (inside, _) ← Text.cut? fence after
  if inside.isEmpty then none else some (Text.trim inside)

/-- The first code block of the reply, one marked as JSON before others; without a block the reply itself. -/
def unfenceChars (reply : List Char) : List Char :=
  let s := Text.trim reply
  (block? (if Text.occurs jsonFence s then jsonFence else fence) s).getD s

def unfence (reply : String) : String :=
  String.ofList (unfenceChars reply.toList)

/-- Why a reply is no list of actions. -/
inductive Fault
  | notJson (error : Json.ReadError)
  | notObject
  | actionsNotList
  | noActions
  | actionNotObject (index : Nat)
  deriving Repr, DecidableEq

def Fault.message : Fault → String
  | .notJson error => s!"Model reply is not valid JSON: {error.message}"
  | .notObject => "Model reply is not a JSON object"
  | .actionsNotList => "'actions' must be a list"
  | .noActions => "Model reply has no 'actions' list"
  | .actionNotObject index => s!"Action {index} is not an object"

/-- A numeral of too many digits is no fault of the reply's form and ends the reading at once. -/
inductive Error
  | shape (fault : Fault)
  | numeralTooLong (digits : Nat)
  deriving Repr, DecidableEq

def readFenced (reply : String) : Except Error Json :=
  match Json.read (unfence reply) with
  | .ok v => .ok v
  | .error (.tooLong digits) => .error (.numeralTooLong digits)
  | .error e => .error (.shape (.notJson e))

/-- A code block is looked for only if the reply is not a JSON document already. -/
def read (reply : String) : Except Error Json :=
  match Json.read reply with
  | .ok .null => readFenced reply
  | .ok v => .ok v
  | .error (.tooLong digits) => .error (.numeralTooLong digits)
  | .error _ => readFenced reply

/-- The items that a document offers as actions. -/
def items : Json → Except Fault (List Json)
  | .obj fields =>
    match fields.lookup "actions" with
    | some (.arr items) => .ok items
    | some _ => .error .actionsNotList
    | none =>
      if (Fields.value fields "op").isString || (Fields.value fields "action").isString then .ok [.obj fields]
      else
        match Fields.value fields "action" with
        | .obj inner => .ok [.obj inner]
        | _ => .error .noActions
  | _ => .error .notObject

/-- All items must be objects; the first that is none is named. -/
def objects : (index : Nat) → List Json → Except Fault (List Fields)
  | _, [] => .ok []
  | index, .obj fields :: rest => do return fields :: (← objects (index + 1) rest)
  | index, _ :: _ => .error (.actionNotObject index)

def actions (reply : String) : Except Error (List Fields) := do
  let v ← read reply
  ((items v).bind (objects 0)).mapError .shape

end Easel.Reply
