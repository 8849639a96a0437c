import Easel.Channel
import Easel.Compiler
import Easel.Execution

/-!
From spoken command to edited document. A transcript that cannot be compiled leaves the document as it is, but for one
notification; one that compiles to nothing is answered by another.
-/

namespace Easel

/-- The document at hand, the model that compiles commands, and the longest transcript it takes. -/
structure Desk where
  host : Host
  model : Model
  limit : Int

structure Outcome where
  batch : Option Batch := none
  report : Option Report := none
  error : Option String := none

def Outcome.toJson (o : Outcome) : Json :=
  .obj [("batch", Json.ofOption (fun b => .obj b.toNotedFields) o.batch), ("result", Json.ofOption Report.toJson o.report),
    ("error", Json.ofOption .str o.error)]

namespace Assistant

/-- What ends the handling of a command without an outcome. -/
inductive Failure
  | host (error : HostError)
  | compile (error : CompileError)
  | notActions
  | notItems (found : Json)
  | unknownOption
  | clock

def Failure.message : Failure → String
  | .host error => error.message
  | .compile error => error.message
  | .notActions => "not a list of actions"
  | .notItems found => s!"'{found.kindName}' object is not iterable"
  | .unknownOption => "no such option"
  | .clock => Number.Fault.tooLarge.message

abbrev DeskM := ExceptT Failure (StateM Desk)

def onHost (m : HostM α) : DeskM α := do
  let d ← get
  let (result, host) := m.run d.host
  set { d with host }
  match result with
  | .ok a => return a
  | .error e => throw (.host e)

def compile (transcript : Json) : DeskM (Except CompileError Batch) := do
  let d ← get
  let (result, model) := (Compiler.compile d.limit transcript).run d.model
  set { d with model }
  return result

def errorMessage (e : CommandError) : String :=
  s!"Error processing voice command: {e.message}"

def nothingToDo : String := "No actions generated from command"

def execute (options : ExecutionOptions) (batch : Batch) : DeskM Report :=
  onHost (Execution.execute options batch.actions)

/-- Compiles a transcript and lets `run` carry out what came of it, unless that is nothing. -/
def processBy (run : Batch → DeskM Report) (transcript : Json) : DeskM Outcome := do
  match ← compile transcript with
  | .ok batch =>
    if batch.actions.isEmpty then
      onHost (Host.notify nothingToDo)
      return { batch := some batch }
    else
      let report ← run batch
      return { batch := some batch, report := some report }
  | .error (.command e) =>
    onHost (Host.notify (errorMessage e))
    return { error := some e.message }
  | .error e => throw (.compile e)

def process (options : ExecutionOptions) (transcript : Json) : DeskM Outcome :=
  processBy (execute options) transcript

/-- Carries out a batch with options that are asked for by name. -/
def executeAsked (options : Fields) (batch : Batch) : DeskM Report :=
  match ExecutionOptions.ofFields? options with
  | some options => execute options batch
  | none => throw .unknownOption

/-- These are no options, though they go with a transcript. -/
def takenNames : List String := ["self", "transcript", "host"]

/-- An option that does not exist is noticed when it is needed. -/
def processAsked (options : Fields) (transcript : Json) : DeskM Outcome :=
  if options.any fun (name, _) => takenNames.contains name then throw .unknownOption
  else processBy (executeAsked options) transcript

variable {τ : Type}

/-- Commands that come with actions need no compiling. -/
def handle (command : Command τ) : DeskM Outcome := do
  if command.actions.isNull then process {} command.transcript
  else
    match command.actions.members? with
    | none => throw (.notItems command.actions)
    | some items =>
      match Batch.ofItems? items command.transcript.string? with
      | none => throw .notActions
      | some batch =>
        let report ← execute {} batch
        return { batch := some batch, report := some report }

section Drain

variable [Clock τ] [Sub τ] [LT τ] [DecidableLT τ]

/-- Takes commands from the channel one after the other. A failure ends it with its command gone and the later ones still
waiting; if it cannot be told which ones have expired, all wait. -/
def drainUpTo (now : τ) (plugin : String) :
    (most : Nat) → List Outcome → Channel τ → Desk → Except Failure (List Outcome) × Channel τ × Desk
  | 0, done, c, d => (.ok done, c, d)
  | most + 1, done, c, d =>
    if !c.tellsExpiry now plugin then (.error .clock, c, d)
    else
      match c.pop now plugin with
      | (none, c) => (.ok done, c, d)
      | (some command, c) =>
        match (handle command).run d with
        | (.ok outcome, d) => drainUpTo now plugin most (done ++ [outcome]) c d
        | (.error e, d) => (.error e, c, d)

/-- Handles all that is pending for a plugin, which counts as a poll. -/
def drain (now : τ) (plugin : String) (c : Channel τ) (d : Desk) : Except Failure (List Outcome) × Channel τ × Desk :=
  let c := c.touch now plugin
  drainUpTo now plugin (c.pendingCount plugin + 1) [] c d

end Drain

end Assistant

end Easel
