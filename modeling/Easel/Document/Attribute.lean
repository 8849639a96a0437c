import Easel.Document.Layer

/-!
Attributes of a layer by name. An attribute takes a value of its own kind only; any other value stands in its place.
-/

namespace Easel.Look

/-- Sets an attribute that the layer has to a value that it takes. -/
def set? (l : Look) (name : String) (v : Json) : Option Look :=
  match name, v with
  | "name", .str name => some { l with name }
  | "x", .num x => some { l with x }
  | "y", .num y => some { l with y }
  | "rotation", .num rotation => some { l with rotation }
  | "opacity", .num opacity => some { l with opacity }
  | "width", .num width => l.size.map fun s => { l with size := some { s with width } }
  | "height", .num height => l.size.map fun s => { l with size := some { s with height } }
  | "corner_radius", .num r => l.cornerRadius.map fun _ => { l with cornerRadius := some r }
  | "fills", .arr [] => l.fills.map fun _ => { l with fills := some [] }
  | "strokes", .arr [] => l.stroke.map fun s => { l with stroke := some { s with colors := [] } }
  | "stroke_weight", .num weight => l.stroke.map fun s => { l with stroke := some { s with weight } }
  | "characters", .str characters => l.caption.map fun t => { l with caption := some { t with characters } }
  | "font_size", .num fontSize => l.caption.map fun t => { l with caption := some { t with fontSize } }
  | "text_auto_resize", .str autoResize => l.caption.map fun t => { l with caption := some { t with autoResize } }
  | _, _ => none

/-- Sets an attribute to any value. -/
def put (l : Look) (name : String) (v : Json) : Look :=
  let l := l.forget [name]
  (l.set? name v).getD { l with extras := l.extras ++ [(name, v)] }

end Easel.Look
