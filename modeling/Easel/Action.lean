import Easel.Json.Basic

/-!
Actions and batches of them. An action names an operation and carries its arguments and, if the operation acts on one layer,
the target that tells which; a batch is what one spoken command was compiled to.
-/

namespace Easel

structure Action where
  op : String
  args : Fields
  target : Json
  deriving Inhabited

namespace Action

/-- An action without an operation; what is no object counts as one. -/
def empty : Action := ⟨"", [], .null⟩

/-- The operation may also stand under `action`. What has the wrong type counts as not there, a target excepted. -/
def ofFields (fields : Fields) : Action where
  op := (((fields.lookup "op").getD (fields.value "action")).string?).getD ""
  args := (fields.value "args").fields?.getD []
  target := fields.value "target"

def ofJson? (v : Json) : Option Action :=
  v.fields?.map ofFields

def ofJson (v : Json) : Action :=
  (ofJson? v).getD empty

/-- No target and no arguments are left out. -/
def toFields (a : Action) : Fields :=
  [("op", .str a.op)] ++ (if a.target.isNull then [] else [("target", a.target)]) ++
    (if a.args.isEmpty then [] else [("args", .obj a.args)])

def toJson (a : Action) : Json :=
  .obj a.toFields

@[simp] theorem ofJson_toJson (a : Action) : ofJson a.toJson = a := by
  obtain ⟨op, args, target⟩ := a
  cases args <;> cases target <;>
    simp [ofJson, ofJson?, toJson, toFields, ofFields, Json.fields?, Json.isNull, Json.string?, Fields.value, List.lookup_cons]

end Action

structure Batch where
  actions : List Action
  transcript : Option String
  warnings : List String := []
  reply : Option String := none

namespace Batch

/-- Only objects make a batch. -/
def ofItems? (items : List Json) (transcript : Option String) : Option Batch :=
  (items.mapM Action.ofJson?).map fun actions => { actions, transcript }

def toFields (b : Batch) : Fields :=
  [("actions", .arr (b.actions.map Action.toJson))]

/-- The actions with what was noted about them. -/
def toNotedFields (b : Batch) : Fields :=
  b.toFields ++ [("warnings", Json.strings b.warnings), ("transcript", Json.ofOption .str b.transcript)]

end Batch

end Easel
