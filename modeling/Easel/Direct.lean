import Easel.Document.Attribute
import Easel.Execution

/-!
Direct work on a document: on any node with any values. Where a node cannot do what it is told, that fails, and what was done
before it failed stays done.
-/

namespace Easel.Direct

def layerOf : Node → HostM LayerId
  | .page => throw .notLayer
  | .layer id => return id

def requireContainer (p : Node) : HostM Unit := do
  if !(← Host.view).isContainer p then throw .notContainer

/-- The layer that a node is, if it has what is asked for. -/
def capable (trait : Look → Bool) (node : Node) : HostM LayerId := do
  let id ← layerOf node
  if ((← Host.view).layer? id).any fun l => trait l.look then return id else throw .notCapable

def adjust (id : LayerId) (f : Look → Look) : HostM Unit :=
  Host.edit (·.updateLook id f)

def append (p node : Node) : HostM Unit := do
  requireContainer p
  let id ← layerOf node
  Host.edit (·.append p id)

/-- An index has to fit into 64 bits. If it does not, the layer hangs nowhere afterwards. -/
def insert (p : Node) (index : Json) (node : Node) : HostM Unit := do
  requireContainer p
  let id ← layerOf node
  match index with
  | .num (.int n) =>
    if -0x8000000000000000 ≤ n ∧ n < 0x8000000000000000 then Host.edit (·.insert p n id)
    else
      Host.edit (·.detach id)
      throw .indexTooLarge
  | .bool b => Host.edit (·.insert p (if b then 1 else 0) id)
  | _ =>
    Host.edit (·.detach id)
    throw .unfit

def remove (node : Node) : HostM Unit := do
  let id ← layerOf node
  Host.edit (·.remove id)

/-- A page is never removed, so its mark means nothing. -/
def markRemoved (node : Node) : HostM Unit :=
  Host.edit (·.markRemoved node.layer?.toList)

def rename (node : Node) (name : Json) : HostM Unit :=
  match node with
  | .page => Host.edit ({ · with pageName := name.display })
  | .layer id => adjust id (·.put "name" name)

def resize (node : Node) (width height : Json) : HostM Unit := do
  let id ← capable Execution.canResize node
  adjust id fun l => (l.put "width" width).put "height" height

def fill (node : Node) (c : Rgb) : HostM Unit := do
  let id ← capable Execution.canFill node
  adjust id (·.fill c)

/-- Without a weight the old one stays. -/
def stroke (node : Node) (c : Rgb) (weight : Json) : HostM Unit := do
  let id ← capable Execution.canStroke node
  adjust id (·.outline c none)
  if !weight.isNull then adjust id (·.put "stroke_weight" weight)

def clone (node : Node) : HostM LayerId := do
  Host.clone (← layerOf node)

def layersBefore : List Node → List LayerId
  | .layer id :: rest => id :: layersBefore rest
  | _ => []

/-- A page cannot be in a group, but what stands before it is. -/
def group (nodes : List Node) (p : Node) : HostM LayerId := do
  match nodes.mapM Node.layer? with
  | some ids => Host.group ids p
  | none =>
    Host.enter .group
    let g ← Host.createKind .group
    requireContainer p
    Host.edit (·.gather g (layersBefore nodes) p)
    throw .notLayer

def ungroup (node : Node) : HostM (List LayerId) := do
  Host.ungroup (← layerOf node)

/-- What is told of a new layer otherwise than as an attribute. -/
def takenNames : List String := ["self", "kind", "name", "parent"]

def setAttribute (id : LayerId) (name : String) (v : Json) : HostM Unit := do
  let isContainer := (← Host.view).isContainer (.layer id)
  if name = "removed" || (name = "children" && isContainer) then throw (.readOnly name)
  adjust id (·.put name v)

/-- A new layer with a name and attributes. If one of these cannot be set the layer hangs nowhere. -/
def add (kind : String) (name : Json) (attributes : Fields) (p : Node) : HostM LayerId := do
  if attributes.any fun (name, _) => takenNames.contains name then throw .unfit
  let id ← Host.createNamed kind
  if !name.isNull then adjust id (·.put "name" name)
  attributes.forM fun (name, v) => setAttribute id name v
  append p (.layer id)
  return id

end Easel.Direct
