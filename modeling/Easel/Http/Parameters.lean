import Easel.Json.Display
import Easel.Text.Form

/-!
The parameters of a request, given as JSON: an object of names, a list of pairs, or a query in its written form. Truth
values are written small and null is empty; a list under a name stands for several parameters of that name.
-/

namespace Easel.Http

/-- Why a value does not stand for parameters: it holds none, or one of what it holds is no pair of a name and a value. -/
inductive ParameterFault
  | noItems (found : Json)
  | noPair (found : Json)
  | noName (found : Json)

def ParameterFault.message : ParameterFault → String
  | .noItems found => s!"'{found.kindName}' object has no attribute 'items'"
  | .noPair (.str _) => "string index out of range"
  | .noPair (.arr _) => "list index out of range"
  | .noPair (.obj _) => "0"
  | .noPair found => s!"'{found.kindName}' object is not subscriptable"
  | .noName found => s!"unhashable type: '{found.kindName}'"

namespace Parameters

def text : Json → String
  | .null => ""
  | .bool b => toString b
  | v => v.display

def texts : Json → List String
  | .arr items => items.map text
  | v => [text v]

/-- Parameters of one name stand together, where the first of them is. -/
def grouped (pairs : List (String × String)) : List (String × String) :=
  let add (groups : Keyed (List String)) (pair : String × String) : Keyed (List String) :=
    groups.put pair.1 ((groups.lookup pair.1).getD [] ++ [pair.2])
  (pairs.foldl add []).flatMap fun (name, vs) => vs.map (name, ·)

/-- A name is neither a list nor an object. Of a text the first two characters are a name and a value. -/
def pair : Json → Except ParameterFault (String × String)
  | .arr (.arr name :: _) => .error (.noName (.arr name))
  | .arr (.obj name :: _) => .error (.noName (.obj name))
  | .arr (name :: v :: _) => .ok (name.display, text v)
  | .str s =>
    match s.toList with
    | name :: v :: _ => .ok (String.ofList [name], String.ofList [v])
    | _ => .error (.noPair (.str s))
  | v => .error (.noPair v)

def ofJson (v : Json) : Except ParameterFault (List (String × String)) :=
  match v with
  | .obj fields => .ok (fields.flatMap fun (name, v) => (texts v).map (name, ·))
  | .arr items => (items.mapM pair).map grouped
  | .str s => .ok (grouped (Text.parametersOf s))
  | v => .error (.noItems v)

/-- The query that parameters make. An empty value makes none, and neither does a written form without parameters. -/
def query (v : Json) : Except ParameterFault (Option String) := do
  let ps ← if v.isGiven then ofJson v else pure []
  return if ps.isEmpty && v.fields?.all (·.isEmpty) then none else some (Text.formQuery ps)

end Parameters

end Easel.Http
