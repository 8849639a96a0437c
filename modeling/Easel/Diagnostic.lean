import Easel.Host
import Easel.Validation

/-!
What can be said about an action that was not simply carried out, and the report on a batch. Every remark has a code for
programs, a message for people and details; some of them are shown to the user at once.
-/

namespace Easel

inductive Event
  | colorFallback (value : Json)
  | unknownOperation (op : Json)
  | invalidAction (op : String) (objections : List Objection)
  | actionFailed (op : String) (error : HostError)
  | missingTarget (op : String)
  | targetNotFound (op : String) (target : String)
  | unsupported (op : String) (kind : Kind) (id : LayerId)
  | skipped (op : String) (ids : List LayerId)
  | staleLayer (id : LayerId)
  | noLayerNamed (name : Json)
  | nothingFound (name : String)
  | severalMatches (name : String) (count : Nat)
  | parentNotFound (parent : String)
  | parentNotContainer (name : String) (id : LayerId)
  | severalParents (parent : String) (count : Nat)
  | fontFailed (error : HostError)
  | emptySelection (op : String)
  | groupNeedsTwo (count : Nat)
  | nothingRemembered
  | other (code message : String)

def defaultFontFamily : String := "Inter"

def defaultFontStyle : String := "Regular"

namespace Event

def code : Event → String
  | .colorFallback .. => "COLOR_FALLBACK"
  | .unknownOperation .. => "UNKNOWN_OPERATION"
  | .invalidAction .. => "INVALID_ACTION"
  | .actionFailed .. => "ACTION_FAILED"
  | .missingTarget .. => "MISSING_TARGET"
  | .targetNotFound .. => "TARGET_NOT_FOUND"
  | .unsupported .. => "UNSUPPORTED_CAPABILITY"
  | .skipped .. => "UNSUPPORTED_CAPABILITY"
  | .staleLayer .. => "STALE_NODE"
  | .noLayerNamed .. => "NO_MATCHING_LAYERS"
  | .nothingFound .. => "NO_MATCHING_LAYERS"
  | .severalMatches .. => "MULTIPLE_MATCHES"
  | .parentNotFound .. => "PARENT_NOT_FOUND"
  | .parentNotContainer .. => "PARENT_NOT_CONTAINER"
  | .severalParents .. => "MULTIPLE_PARENTS"
  | .fontFailed .. => "FONT_LOAD_FAILED"
  | .emptySelection .. => "EMPTY_SELECTION"
  | .groupNeedsTwo .. => "GROUP_NEEDS_TWO"
  | .nothingRemembered => "NOTHING_REMEMBERED"
  | .other code _ => code

def message : Event → String
  | .colorFallback value => s!"Invalid color {value.quoted}, using black"
  | .unknownOperation op => s!"Unknown action: {op.display}"
  | .invalidAction _ objections => "; ".intercalate (objections.map Objection.message)
  | .actionFailed _ error => error.describe
  | .missingTarget op => s!"{op} requires a target"
  | .targetNotFound _ target => s!"No node matches target '{target}'"
  | .unsupported op kind id => s!"{kind.name} node {LayerId.text id} does not support {op}"
  | .skipped op ids => s!"{op} skipped {ids.length} selected node(s)"
  | .staleLayer id => s!"Node {LayerId.text id} no longer exists"
  | .noLayerNamed _ => "No matching layers found with the specified name."
  | .nothingFound name => s!"No objects found matching \"{name}\""
  | .severalMatches name count => s!"Selected {count} layers named '{name}'."
  | .parentNotFound _ => "Parent not found, created at root instead."
  | .parentNotContainer name _ => s!"'{name}' cannot contain children, created at root instead."
  | .severalParents parent count => s!"Added element inside {count} parents named '{parent}'."
  | .fontFailed error => s!"Font loading failed: {error.message}"
  | .emptySelection op => s!"{op}: nothing selected"
  | .groupNeedsTwo count => s!"Grouping needs at least two selected layers, found {count}."
  | .nothingRemembered => "No previously found layer to select."
  | .other _ message => message

def details : Event → Fields
  | .colorFallback value => [("value", value)]
  | .unknownOperation op => [("op", op)]
  | .invalidAction op objections => [("op", .str op), ("errors", Json.strings (objections.map Objection.message))]
  | .actionFailed op _ => [("op", .str op)]
  | .missingTarget op => [("op", .str op)]
  | .targetNotFound op target => [("op", .str op), ("target", .str target)]
  | .unsupported op _ id => [("op", .str op), ("node_id", .str (LayerId.text id))]
  | .skipped _ ids => [("node_ids", Json.strings (ids.map LayerId.text))]
  | .staleLayer id => [("node_id", .str (LayerId.text id))]
  | .noLayerNamed name => [("name", name)]
  | .nothingFound name => [("name", .str name)]
  | .severalMatches name count => [("name", .str name), ("count", Json.ofNat count)]
  | .parentNotFound parent => [("parent", .str parent)]
  | .parentNotContainer _ id => [("parent_id", .str (LayerId.text id))]
  | .severalParents parent count => [("parent", .str parent), ("count", Json.ofNat count)]
  | .fontFailed _ => [("font", .obj [("family", .str defaultFontFamily), ("style", .str defaultFontStyle)])]
  | .emptySelection _ => []
  | .groupNeedsTwo count => [("count", Json.ofNat count)]
  | .nothingRemembered => []
  | .other .. => []

/-- The user is told of unknown operations, of names that fit nothing or too much, and of elements that did not land where
they were meant to. -/
def isUserFacing : Event → Bool
  | .unknownOperation .. | .noLayerNamed .. | .nothingFound .. | .severalMatches .. | .parentNotFound ..
  | .severalParents .. => true
  | _ => false

end Event

/-- An event and the position of its action in the batch. -/
structure Diagnostic where
  index : Option Int
  event : Event

namespace Diagnostic

def code (d : Diagnostic) : String := d.event.code

def message (d : Diagnostic) : String := d.event.message

def toJson (d : Diagnostic) : Json :=
  .obj [("code", .str d.code), ("message", .str d.message), ("index", Json.ofOption Json.ofInt d.index),
    ("details", .obj d.event.details)]

end Diagnostic

/-- A report is kept for its user as it was given, so positions may be any whole numbers. -/
structure Report where
  attempted : Int := 0
  succeeded : List Int := []
  failed : List Int := []
  unknown : List Int := []
  diagnostics : List Diagnostic := []

namespace Report

def codes (r : Report) : List String :=
  r.diagnostics.map (·.code)

def diagnosticsFor (r : Report) (code : String) : List Diagnostic :=
  r.diagnostics.filter (·.code = code)

/-- Positions are counted from one for the user. -/
def summary (r : Report) : String :=
  s!"Executed {r.attempted} actions on canvas!" ++
    (if r.unknown.isEmpty then ""
      else " Skipped unknown action(s) at position " ++ ", ".intercalate (r.unknown.map fun i => toString (i + 1)) ++ ".") ++
    (if r.failed.isEmpty then "" else s!" {r.failed.length} failed.")

def toJson (r : Report) : Json :=
  let positions (l : List Int) : Json := .arr (l.map Json.ofInt)
  .obj [("attempted", Json.ofInt r.attempted), ("succeeded", positions r.succeeded), ("failed", positions r.failed),
    ("unknown", positions r.unknown), ("diagnostics", .arr (r.diagnostics.map Diagnostic.toJson)),
    ("summary", .str r.summary)]

end Report

end Easel
