import Easel.Golden
import Easel.Prompt

/-!
Language models as the compiler sees them: a prompt goes in, a reply or an error comes out. A model answers with golden
replies or from a script; it remembers its prompts.
-/

namespace Easel

/-- What a service can report instead of a reply: too many requests, another failure with its status, or that it was not
reached at all. The body is what the service said about it. -/
inductive ServiceError
  | rateLimited (text : String) (body : Json)
  | status (text : String) (code : Int) (body : Json)
  | unreachable (text : String)

def ServiceError.text : ServiceError → String
  | .rateLimited text _ => text
  | .status text _ _ => text
  | .unreachable text => text

/-- What can go wrong in the model itself. -/
inductive ModelFault
  | prompt (fault : Prompt.Fault)
  | golden (fault : Golden.Fault)
  | other (text : String)

def ModelFault.message : ModelFault → String
  | .prompt fault => fault.message
  | .golden fault => fault.message
  | .other text => text

inductive ModelError
  | service (error : ServiceError)
  | fault (fault : ModelFault)

namespace Model

/-- Where replies come from: a directory of golden ones, or a script that is used up from its start. -/
inductive Source
  | golden (directory : Golden.Directory)
  | script (replies : List (Except ModelError String))

end Model

structure Model where
  source : Model.Source
  service : Option String := none
  prompts : List String := []

namespace Model

def anonymous : String := "language model"

def serviceName (m : Model) : String :=
  m.service.getD anonymous

def usedUp : ModelError :=
  .fault (.other "no scripted reply")

def goldenReply (directory : Golden.Directory) (prompt : String) : Except ModelError String :=
  match Prompt.transcript prompt with
  | .error e => .error (.fault (.prompt e))
  | .ok transcript => (Golden.reply directory (Golden.scenarioOf transcript)).mapError fun e => .fault (.golden e)

/-- The answer of a source, and the source without it. -/
def Source.answer (prompt : String) : Source → Except ModelError String × Source
  | .golden directory => (goldenReply directory prompt, .golden directory)
  | .script [] => (.error usedUp, .script [])
  | .script (reply :: rest) => (reply, .script rest)

def complete (prompt : String) : StateM Model (Except ModelError String) := fun m =>
  let (answer, source) := m.source.answer prompt
  (answer, { m with source, prompts := m.prompts ++ [prompt] })

/-- The number of calls so far. -/
def calls (m : Model) : Nat :=
  m.prompts.length

end Model

end Easel
