import Easel.Color
import Easel.Json.Basic

/-!
Layers: what is drawn, and where it hangs in the tree. What a layer can do is what it has: a layer with a size can be resized,
one with fills can be filled. Each kind starts with its own set. Beside it a layer may be given anything under any name; that is
kept and shown, but only what the layer has is worked with.
-/

namespace Easel

inductive Kind
  | rectangle
  | ellipse
  | polygon
  | star
  | line
  | text
  | frame
  | group
  deriving Repr, DecidableEq

namespace Kind

def all : List Kind :=
  [.rectangle, .ellipse, .polygon, .star, .line, .text, .frame, .group]

/-- The name a new layer gets. -/
def label : Kind → String
  | .rectangle => "Rectangle"
  | .ellipse => "Ellipse"
  | .polygon => "Polygon"
  | .star => "Star"
  | .line => "Line"
  | .text => "Text"
  | .frame => "Frame"
  | .group => "Group"

def name (k : Kind) : String :=
  match k with
  | .rectangle => "RECTANGLE"
  | .ellipse => "ELLIPSE"
  | .polygon => "POLYGON"
  | .star => "STAR"
  | .line => "LINE"
  | .text => "TEXT"
  | .frame => "FRAME"
  | .group => "GROUP"

def ofName? (name : String) : Option Kind :=
  all.find? (·.name = name)

/-- Frames and groups hold other layers. -/
def isContainer : Kind → Bool
  | .frame | .group => true
  | _ => false

end Kind

/-- The position of a layer in the order of creation. -/
abbrev LayerId := Nat

def LayerId.text (id : LayerId) : String :=
  s!"1:{id + 1}"

structure Size where
  width : Number
  height : Number

structure Stroke where
  colors : List Rgb
  weight : Number

structure Caption where
  characters : String
  fontSize : Number
  autoResize : String

/-- Everything about a layer that a copy of it shares. -/
structure Look where
  kind : Kind
  name : String
  x : Number := .float 0.0
  y : Number := .float 0.0
  rotation : Number := .float 0.0
  opacity : Number := .float 1.0
  size : Option Size := none
  fills : Option (List Rgb) := none
  stroke : Option Stroke := none
  cornerRadius : Option Number := none
  caption : Option Caption := none
  /-- What stands in the place of attributes, or beside them. -/
  extras : Fields := []

namespace Look

/-- The value of an attribute, where `own` is what the layer has. -/
def valueOf (l : Look) (name : String) (own : Json) : Json :=
  (l.extras.lookup name).getD own

/-- Whoever sets attributes takes off what stood in their place. -/
def forget (l : Look) (names : List String) : Look :=
  { l with extras := l.extras.filter fun (name, _) => !names.contains name }

def plainSize : Size := ⟨.float 100.0, .float 100.0⟩

def plainStroke : Stroke := ⟨[], .float 1.0⟩

def initial (k : Kind) : Look :=
  let bare : Look := { kind := k, name := k.label }
  let painted : Look := { bare with size := some plainSize, fills := some [], stroke := some plainStroke }
  match k with
  | .rectangle | .frame => { painted with cornerRadius := some (.float 0.0) }
  | .ellipse | .polygon | .star => painted
  | .text => { painted with caption := some ⟨"", .float 12.0, "NONE"⟩ }
  | .line => { bare with size := some ⟨.float 100.0, .float 0.0⟩, stroke := some plainStroke }
  | .group => bare

@[simp] theorem initial_kind (k : Kind) : (initial k).kind = k := by
  cases k <;> rfl

/-- The names of what is given. -/
def given (values : List (String × Option Number)) : List String :=
  (values.filter (·.2.isSome)).map (·.1)

def rename (l : Look) (name : String) : Look :=
  { l.forget ["name"] with name }

/-- What is not given stays. -/
def moveTo (l : Look) (x y : Option Number) : Look :=
  { l.forget (given [("x", x), ("y", y)]) with x := x.getD l.x, y := y.getD l.y }

def turn (l : Look) (rotation : Option Number) : Look :=
  { l.forget (given [("rotation", rotation)]) with rotation := rotation.getD l.rotation }

def fade (l : Look) (opacity : Option Number) : Look :=
  { l.forget (given [("opacity", opacity)]) with opacity := opacity.getD l.opacity }

def fill (l : Look) (c : Rgb) : Look :=
  { l.forget ["fills"] with fills := l.fills.map fun _ => [c] }

/-- Without a weight the old one stays. -/
def outline (l : Look) (c : Rgb) (weight : Option Number) : Look :=
  { l.forget ("strokes" :: given [("stroke_weight", weight)]) with
    stroke := l.stroke.map fun s => ⟨[c], weight.getD s.weight⟩ }

def setStrokeWeight (l : Look) (weight : Number) : Look :=
  { l with stroke := l.stroke.map ({ · with weight }) }

/-- What is not given stays. -/
def resizeTo (l : Look) (width height : Option Number) : Look :=
  { l.forget (given [("width", width), ("height", height)]) with
    size := l.size.map fun s => ⟨width.getD s.width, height.getD s.height⟩ }

def resize (l : Look) (width height : Number) : Look :=
  l.resizeTo width height

end Look

/-- The page, or a layer. -/
inductive Node
  | page
  | layer (id : LayerId)
  deriving Repr, DecidableEq

namespace Node

def text : Node → String
  | .page => "0:1"
  | .layer id => id.text

def layer? : Node → Option LayerId
  | .page => none
  | .layer id => some id

end Node


/-- `parent` is where the layer hangs. -/
structure Layer where
  look : Look
  parent : Option Node := none
  children : List LayerId := []
  removed : Bool := false

namespace Layer

def kind (l : Layer) : Kind := l.look.kind

def isContainer (l : Layer) : Bool := l.kind.isContainer

/-- The layer as messages show it. -/
def shown (l : Layer) (id : LayerId) : String :=
  s!"<{l.kind.label}Node {LayerId.text id} {quoted l.look.name}>"

end Layer

end Easel
