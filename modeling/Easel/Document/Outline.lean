import Easel.Document.Basic
import Easel.Json.Display

/-!
The outline of a page: its name, then one line per layer, indented by depth. Names and texts are quoted, so a layer never
takes more than its line.
-/

namespace Easel

namespace Outline

/-- Why a value cannot be written as a number. -/
inductive Fault
  | number (fault : Number.Fault)
  | notNumber (found : Json)

def Fault.message : Fault → String
  | .number fault => fault.message
  | .notNumber (.str _) => "Unknown format code 'g' for object of type 'str'"
  | .notNumber found => s!"unsupported format string passed to {found.kindName}.__format__"

/-- The truth values are written as one and zero. -/
def brief : Json → Except Fault String
  | .num n => n.brief.mapError .number
  | .bool b => .ok (if b then "1" else "0")
  | v => .error (.notNumber v)

end Outline

namespace Layer

open Outline

def line (l : Layer) (id : LayerId) (depth : Nat) : Except Fault String := do
  let look := l.look
  let x ← brief (look.valueOf "x" (.num look.x))
  let y ← brief (look.valueOf "y" (.num look.y))
  let size ← match look.size with
    | none => pure ""
    | some s => do
      let width ← brief (look.valueOf "width" (.num s.width))
      let height ← brief (look.valueOf "height" (.num s.height))
      pure s!" {width}x{height}"
  let fill ← match look.fills with
    | some (c :: _) => do pure (" fill " ++ (← c.hex.mapError .number))
    | _ => pure ""
  let caption := match look.caption with
    | some t =>
      let v := look.valueOf "characters" (.str t.characters)
      if v.isGiven then " text " ++ v.quoted else ""
    | none => ""
  let name := look.valueOf "name" (.str look.name)
  let indent := String.ofList (List.replicate (2 * depth) ' ')
  return s!"{indent}{l.kind.name} {LayerId.text id} {name.quoted} at ({x}, {y}){size}{fill}{caption}"

end Layer

namespace Document

def outlineTo (d : Document) : (levels : Nat) → (depth : Nat) → LayerId → Except Outline.Fault (List String)
  | 0, _, _ => .ok []
  | levels + 1, depth, id =>
    match d.layer? id with
    | none => .ok []
    | some l => do
      let line ← l.line id depth
      let below ← (d.childrenOf (.layer id)).mapM (d.outlineTo levels (depth + 1))
      return line :: below.flatten

def outline (d : Document) : Except Outline.Fault String := do
  let tops ← d.pageChildren.mapM (d.outlineTo d.layers.length 1)
  return "\n".intercalate (d.pageName :: tops.flatten)

end Document

end Easel
