import Easel.Document.Basic
import Easel.Json.Basic

/-!
A document as JSON. A layer is written with what it has, and a container with all below it.
-/

namespace Easel

def Rgb.toJson (c : Rgb) : Json :=
  .obj c.toFields

def LayerId.toJson (ids : List LayerId) : Json :=
  Json.strings (ids.map LayerId.text)

def Node.toJson (nodes : List Node) : Json :=
  Json.strings (nodes.map Node.text)

namespace Look

def paints (colors : List Rgb) : Json :=
  .arr (colors.map fun c => .obj [("type", .str "SOLID"), ("color", c.toJson)])

def sizeFields (s : Size) : Fields :=
  [("width", .num s.width), ("height", .num s.height)]

def strokeFields (s : Stroke) : Fields :=
  [("strokes", paints s.colors), ("stroke_weight", .num s.weight)]

def captionFields (t : Caption) : Fields :=
  [("characters", .str t.characters), ("font_size", .num t.fontSize), ("text_auto_resize", .str t.autoResize)]

/-- The names of everything that is shown of a layer. -/
def shownNames : List String :=
  ["type", "name", "x", "y", "rotation", "opacity", "width", "height", "corner_radius", "fills", "strokes", "stroke_weight",
    "characters", "font_size", "text_auto_resize"]

def ownFields (l : Look) : Fields :=
  [("type", .str l.kind.name), ("name", .str l.name), ("x", .num l.x), ("y", .num l.y), ("rotation", .num l.rotation),
    ("opacity", .num l.opacity)] ++ (l.size.map sizeFields).getD [] ++
    (l.cornerRadius.map fun r => [("corner_radius", .num r)]).getD [] ++
    (l.fills.map fun cs => [("fills", paints cs)]).getD [] ++ (l.stroke.map strokeFields).getD [] ++
    (l.caption.map captionFields).getD []

def toFields (l : Look) : Fields :=
  (l.extras.filter fun (name, _) => shownNames.contains name).foldl (fun fields (name, v) => fields.put name v) l.ownFields

end Look

namespace Document

/-- A layer and all below it, down to `depth` levels. -/
def layerJsonTo (d : Document) : (depth : Nat) → LayerId → Json
  | 0, _ => .null
  | depth + 1, id =>
    match d.layer? id with
    | none => .null
    | some l =>
      let children := if l.isContainer then [("children", Json.arr (l.children.map (d.layerJsonTo depth)))] else []
      .obj ([("id", .str (LayerId.text id))] ++ l.look.toFields ++ children)

def layerJson (d : Document) (id : LayerId) : Json :=
  d.layerJsonTo (d.layers.length + 1) id

/-- All layers there ever were of which `p` holds, in the order of their creation. -/
def layersWhere (d : Document) (p : Layer → Bool) : List LayerId :=
  (List.range d.layers.length).filter fun id => (d.layer? id).any p

def fontLe (a b : String × String) : Bool :=
  a.1 < b.1 || (a.1 = b.1 && !(b.2 < a.2))

/-- The page, what the editor keeps beside it, the layers taken off and those that hang nowhere. -/
def toFields (d : Document) : Fields :=
  [("children", .arr (d.pageChildren.map d.layerJson)), ("selection", Node.toJson d.selection),
    ("viewport", Node.toJson d.viewport), ("notifications", Json.strings d.notifications),
    ("plugin_data", .obj (d.pluginData.map fun (key, v) => (key, .str v))),
    ("fonts", .arr ((d.fonts.mergeSort fontLe).map fun (family, style) => Json.strings [family, style])),
    ("removed", LayerId.toJson (d.layersWhere (·.removed))),
    ("orphans", LayerId.toJson (d.layersWhere fun l => l.parent.isNone && !l.removed))]

end Document

end Easel
