import Easel.Json.Basic

/-!
The operations that an action can ask for: their categories, fields and limits, and whether they need a target. The
instructions to the language model and the check of actions are both made from this table.
-/

namespace Easel

inductive FieldType
  | int
  | float
  | string
  | color
  deriving Repr, DecidableEq

namespace FieldType

def name : FieldType → String
  | .int => "int"
  | .float => "float"
  | .string => "string"
  | .color => "color"

def isNumeric : FieldType → Bool
  | .int | .float => true
  | .string | .color => false

def placeholder : FieldType → String
  | .int => "int"
  | .float => "float"
  | .string => "\"string\""
  | .color => "\"#hex\""

end FieldType

structure FieldSpec where
  name : String
  type : FieldType
  minimum : Option Number := none
  maximum : Option Number := none

/-- What an operation does with the target: ignore it, need it, fall back on the selection or on a name. -/
inductive TargetMode
  | none
  | required
  | selection
  | lookup
  deriving Repr, DecidableEq

def TargetMode.name : TargetMode → String
  | .none => "none"
  | .required => "required"
  | .selection => "selection"
  | .lookup => "lookup"

inductive Category
  | create
  | style
  | transform
  | select
  | layer
  | delete
  | group
  | zoom
  deriving Repr, DecidableEq

namespace Category

def all : List Category :=
  [.create, .style, .transform, .select, .layer, .delete, .group, .zoom]

def name : Category → String
  | .create => "CREATE"
  | .style => "STYLE"
  | .transform => "TRANSFORM"
  | .select => "SELECT"
  | .layer => "LAYER"
  | .delete => "DELETE"
  | .group => "GROUP"
  | .zoom => "ZOOM"

end Category

inductive Op
  | createRectangle
  | createCircle
  | createEllipse
  | createLine
  | createPolygon
  | createStar
  | createText
  | createFrame
  | setFill
  | setStroke
  | setOpacity
  | move
  | resize
  | rotate
  | select
  | selectAll
  | deselect
  | findByName
  | selectLast
  | bringToFront
  | sendToBack
  | delete
  | deleteSelection
  | group
  | ungroup
  | zoomToFit
  | zoomToSelection
  deriving Repr, DecidableEq

/-- `nonNegative` names numbers that must not be below zero, whether or not they are fields of the operation. -/
structure OpSpec where
  name : String
  category : Category
  fields : List FieldSpec := []
  target : TargetMode := .none
  required : List String := []
  nonNegative : List String := []

namespace Op

def all : List Op :=
  [.createRectangle, .createCircle, .createEllipse, .createLine, .createPolygon, .createStar, .createText, .createFrame,
    .setFill, .setStroke, .setOpacity, .move, .resize, .rotate, .select, .selectAll, .deselect, .findByName, .selectLast,
    .bringToFront, .sendToBack, .delete, .deleteSelection, .group, .ungroup, .zoomToFit, .zoomToSelection]

def xField : FieldSpec := ⟨"x", .int, none, none⟩
def yField : FieldSpec := ⟨"y", .int, none, none⟩
def widthField : FieldSpec := ⟨"width", .int, none, none⟩
def heightField : FieldSpec := ⟨"height", .int, none, none⟩
def colorField : FieldSpec := ⟨"color", .color, none, none⟩
def cornerField : FieldSpec := ⟨"borderRadius", .int, none, none⟩
def nameField : FieldSpec := ⟨"name", .string, none, none⟩
def parentField : FieldSpec := ⟨"parentId", .string, none, none⟩
def weightField : FieldSpec := ⟨"strokeWeight", .int, none, none⟩

def boxFields : List FieldSpec := [xField, yField, widthField, heightField, colorField]

def boxSides : List String := ["width", "height"]

def spec : Op → OpSpec
  | .createRectangle =>
    { name := "create_rectangle", category := .create, fields := boxFields ++ [cornerField, nameField, parentField],
      nonNegative := boxSides }
  | .createCircle =>
    { name := "create_circle", category := .create,
      fields := [xField, yField, ⟨"radius", .int, none, none⟩, colorField, nameField, parentField],
      nonNegative := ["radius"] }
  | .createEllipse =>
    { name := "create_ellipse", category := .create, fields := boxFields ++ [nameField, parentField],
      nonNegative := boxSides }
  | .createLine =>
    { name := "create_line", category := .create,
      fields := [xField, yField, widthField, colorField, weightField, nameField, parentField], nonNegative := boxSides }
  | .createPolygon =>
    { name := "create_polygon", category := .create, fields := boxFields ++ [nameField, parentField],
      nonNegative := boxSides }
  | .createStar =>
    { name := "create_star", category := .create, fields := boxFields ++ [nameField, parentField],
      nonNegative := boxSides }
  | .createText =>
    { name := "create_text", category := .create,
      fields := [xField, yField, ⟨"text", .string, none, none⟩, ⟨"fontSize", .int, none, none⟩, colorField, nameField,
        parentField] }
  | .createFrame =>
    { name := "create_frame", category := .create, fields := boxFields ++ [cornerField, nameField, parentField],
      nonNegative := boxSides }
  | .setFill => { name := "set_fill", category := .style, fields := [colorField], target := .selection }
  | .setStroke => { name := "set_stroke", category := .style, fields := [colorField, weightField], target := .selection }
  | .setOpacity =>
    { name := "set_opacity", category := .style,
      fields := [⟨"opacity", .float, some (.float 0.0), some (.float 1.0)⟩], target := .selection,
      required := ["opacity"] }
  | .move => { name := "move", category := .transform, fields := [xField, yField], target := .required }
  | .resize =>
    { name := "resize", category := .transform, fields := [widthField, heightField], target := .required,
      nonNegative := boxSides }
  | .rotate =>
    { name := "rotate", category := .transform, fields := [⟨"rotation", .float, none, none⟩], target := .required }
  | .select => { name := "select", category := .select, fields := [nameField], target := .lookup }
  | .selectAll => { name := "select_all", category := .select }
  | .deselect => { name := "deselect", category := .select }
  | .findByName => { name := "find_by_name", category := .select, fields := [nameField] }
  | .selectLast => { name := "select_last", category := .select }
  | .bringToFront => { name := "bring_to_front", category := .layer, target := .required }
  | .sendToBack => { name := "send_to_back", category := .layer, target := .required }
  | .delete => { name := "delete", category := .delete, target := .required }
  | .deleteSelection => { name := "delete_selection", category := .delete }
  | .group => { name := "group", category := .group, fields := [nameField] }
  | .ungroup => { name := "ungroup", category := .group }
  | .zoomToFit => { name := "zoom_to_fit", category := .zoom }
  | .zoomToSelection => { name := "zoom_to_selection", category := .zoom }

def name (op : Op) : String :=
  op.spec.name

def ofName? (name : String) : Option Op :=
  all.find? (·.name = name)

theorem mem_all (op : Op) : op ∈ all := by
  cases op <;> decide

/-- The operations of a category, in the order of the table. -/
def inCategory (c : Category) : List Op :=
  all.filter (·.spec.category = c)

end Op

namespace OpSpec

def field? (spec : OpSpec) (name : String) : Option FieldSpec :=
  spec.fields.find? (·.name = name)

def fieldText (f : FieldSpec) : String :=
  "\"" ++ f.name ++ "\":" ++ f.type.placeholder

/-- One line of the schema: the shape of the operation's actions. -/
def describe (spec : OpSpec) : String :=
  let op := "\"op\":\"" ++ spec.name ++ "\""
  let target := if spec.target = .none then [] else ["\"target\":\"nodeId-or-name\""]
  let args :=
    if spec.fields.isEmpty then []
    else ["\"args\":\x7b" ++ ",".intercalate (spec.fields.map fieldText) ++ "\x7d"]
  "\x7b" ++ ",".intercalate (op :: target ++ args) ++ "\x7d"

end OpSpec

namespace Schema

def describeCategories : String :=
  "\n".intercalate (Category.all.map fun c => "- " ++ c.name ++ ": " ++ ", ".intercalate ((Op.inCategory c).map Op.name))

def describe : String :=
  "\x7b\n  \"actions\":[\n" ++ ",\n".intercalate (Op.all.map fun op => "    " ++ op.spec.describe) ++ "\n  ]\n\x7d"

end Schema

end Easel
