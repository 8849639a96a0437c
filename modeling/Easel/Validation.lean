import Easel.Action
import Easel.Json.Display
import Easel.Schema

/-!
The check of one action against the table of operations. It looks at the form alone: whether the target exists, and whether
a colour can be read, shows when the action is carried out.
-/

namespace Easel

inductive Objection
  | unknownOp (op : Json)
  | argsNotObject
  | targetNotText
  | missing (op field : String)
  | notNumber (field : String)
  | belowMinimum (field : String) (bound : Number)
  | aboveMaximum (field : String) (bound : Number)
  | notText (field : String)
  | negative (field : String)

namespace Objection

def message : Objection → String
  | .unknownOp op => "Unknown action: " ++ op.display
  | .argsNotObject => "'args' must be an object"
  | .targetNotText => "'target' must be a string"
  | .missing op field => s!"{op} requires '{field}'"
  | .notNumber field => s!"'{field}' must be a number"
  | .belowMinimum field bound => s!"'{field}' must be >= {bound.text}"
  | .aboveMaximum field bound => s!"'{field}' must be <= {bound.text}"
  | .notText field => s!"'{field}' must be a string"
  | .negative field => s!"'{field}' must not be negative"

end Objection

namespace Validation

/-- A field that is not there, or null, is fine; colours are not looked at. -/
def checkField (f : FieldSpec) (v : Json) : List Objection :=
  if v.isNull then []
  else
    match f.type, v with
    | .color, _ => []
    | .string, v => if v.isString then [] else [.notText f.name]
    | _, .num n =>
      (match f.minimum with
        | some bound => if n < bound then [.belowMinimum f.name bound] else []
        | none => []) ++
      (match f.maximum with
        | some bound => if bound < n then [.aboveMaximum f.name bound] else []
        | none => [])
    | _, _ => [.notNumber f.name]

def checkSign (args : Fields) (name : String) : List Objection :=
  match args.value name with
  | .num n => if n < 0 then [.negative name] else []
  | _ => []

def checkArgs (spec : OpSpec) (args : Fields) : List Objection :=
  spec.required.flatMap (fun name => if (args.value name).isNull then [.missing spec.name name] else []) ++
    spec.fields.flatMap (fun f => checkField f (args.value f.name)) ++ spec.nonNegative.flatMap (checkSign args)

def opOf? (op : Json) : Option Op :=
  op.string?.bind Op.ofName?

/-- No arguments at all are as good as an empty object. -/
def check (op args target : Json) : List Objection :=
  match opOf? op with
  | none => [.unknownOp op]
  | some known =>
    match args with
    | .null => checkTarget ++ checkArgs known.spec []
    | .obj fields => checkTarget ++ checkArgs known.spec fields
    | _ => [.argsNotObject]
where
  checkTarget : List Objection :=
    if target.isNull || target.isString then [] else [.targetNotText]

end Validation

def Action.objections (a : Action) : List Objection :=
  Validation.check (.str a.op) (.obj a.args) a.target

end Easel
