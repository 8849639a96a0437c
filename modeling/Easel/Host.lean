import Easel.Document.Basic

/-!
The host: a document in an editor that may refuse any call. Which call fails with which message is laid down in advance, by
the number of the call; a call that fails does nothing, but what was done before it stays done.
-/

namespace Easel

inductive HostCall
  | currentPage
  | createNode
  | getSelection
  | setSelection
  | zoomTo
  | group
  | ungroup
  | findAll
  | notify
  | getData
  | setData
  | loadFont
  deriving Repr, DecidableEq

namespace HostCall

def all : List HostCall :=
  [.currentPage, .createNode, .getSelection, .setSelection, .zoomTo, .group, .ungroup, .findAll, .notify, .getData,
    .setData, .loadFont]

def name : HostCall → String
  | .currentPage => "current_page"
  | .createNode => "create_node"
  | .getSelection => "get_selection"
  | .setSelection => "set_selection"
  | .zoomTo => "scroll_and_zoom_into_view"
  | .group => "group"
  | .ungroup => "ungroup"
  | .findAll => "find_all"
  | .notify => "notify"
  | .getData => "get_plugin_data"
  | .setData => "set_plugin_data"
  | .loadFont => "load_font"

def ofName? (name : String) : Option HostCall :=
  all.find? (·.name = name)

end HostCall

inductive HostError
  | failed (message : String)
  | fontUnavailable (family style : String)
  | unknownKind (kind : String)
  | nothingToGroup
  | notGroup (shown : String)
  | notContainer
  | notLayer
  | notCapable
  | readOnly (name : String)
  | pageSelected
  | indexTooLarge
  | unfit

namespace HostError

def message : HostError → String
  | .failed message => message
  | .fontUnavailable family style => s!"Font {family} {style} could not be loaded"
  | .unknownKind kind => s!"Cannot create node of type {kind}"
  | .nothingToGroup => "Cannot group an empty list of nodes"
  | .notGroup shown => s!"{shown} is not a group"
  | .notContainer => "not a container"
  | .notLayer => "not a layer"
  | .notCapable => "not a layer of the right kind"
  | .readOnly name => s!"{name} cannot be set"
  | .pageSelected => "'PageNode' object has no attribute 'removed'"
  | .indexTooLarge => "Python int too large to convert to C ssize_t"
  | .unfit => "not a fitting value"

/-- An error without a message goes by its name. -/
def describe (e : HostError) : String :=
  if e.message.isEmpty then "RuntimeError" else e.message

end HostError

/-- The message with which the call of a given number fails, if it does. -/
abbrev Faults := Nat → HostCall → Option String

namespace Faults

def none : Faults := fun _ _ => .none

/-- The listed calls always fail. -/
def always (messages : List (HostCall × String)) : Faults :=
  fun _ call => messages.lookup call

end Faults

structure Host where
  document : Document := {}
  faults : Faults := Faults.none
  calls : Nat := 0

abbrev HostM := ExceptT HostError (StateM Host)

namespace Host

/-- Counts the call and lets it fail if that is laid down. -/
def enter (call : HostCall) : HostM Unit := do
  let h ← get
  set { h with calls := h.calls + 1 }
  match h.faults h.calls call with
  | some message => throw (.failed message)
  | none => pure ()

/-- Looking at the document is no call. -/
def view : HostM Document := do
  return (← get).document

def edit (f : Document → Document) : HostM Unit :=
  modify fun h => { h with document := f h.document }

def currentPage : HostM Unit :=
  enter .currentPage

def create (look : Look) : HostM LayerId := do
  enter .createNode
  let (id, d) := (← view).create look
  edit fun _ => d
  return id

def createKind (k : Kind) : HostM LayerId :=
  create (Look.initial k)

def createNamed (kind : String) : HostM LayerId := do
  match Kind.ofName? kind with
  | some k => createKind k
  | none =>
    enter .createNode
    throw (.unknownKind kind)

/-- Copies a layer and all below it, down to `depth` levels; the copy hangs nowhere. -/
def cloneTo : (depth : Nat) → LayerId → HostM LayerId
  | 0, id => pure id
  | depth + 1, id => do
    let d ← view
    match d.layer? id with
    | none => pure id
    | some l => do
      let twin ← create l.look
      (d.childrenOf (.layer id)).forM fun child => do
        let copy ← cloneTo depth child
        edit (·.append (.layer twin) copy)
      return twin

def clone (id : LayerId) : HostM LayerId := do
  cloneTo (← view).layers.length id

/-- Removed layers drop out of the selection when it is read. A selection with the page in it cannot be read. -/
def getSelection : HostM (List LayerId) := do
  enter .getSelection
  match (← view).liveSelection? with
  | none => throw .pageSelected
  | some ids =>
    edit ({ · with selection := ids.map .layer })
    return ids

def setSelection (nodes : List Node) : HostM Unit := do
  enter .setSelection
  edit ({ · with selection := nodes })

def zoomTo (nodes : List Node) : HostM Unit := do
  enter .zoomTo
  edit ({ · with viewport := nodes })

def group (ids : List LayerId) (p : Node) : HostM LayerId := do
  enter .group
  if ids.isEmpty then throw .nothingToGroup
  let g ← createKind .group
  if !(← view).isContainer p then throw .notContainer
  edit (·.gather g ids p)
  return g

/-- The released layers. A group that hangs nowhere releases nothing. -/
def ungroup (id : LayerId) : HostM (List LayerId) := do
  enter .ungroup
  let d ← view
  match d.layer? id with
  | none => return []
  | some l =>
    if l.kind ≠ .group then throw (.notGroup (l.shown id))
    match l.parent with
    | none => return []
    | some p =>
      edit (·.dissolve id p)
      return l.children

def findAll : HostM (List LayerId) := do
  enter .findAll
  return (← view).all

def notify (message : String) : HostM Unit := do
  enter .notify
  edit (·.notify message)

def getData (key : String) : HostM String := do
  enter .getData
  return (← view).data key

def setData (key value : String) : HostM Unit := do
  enter .setData
  edit (·.putData key value)

def loadFont (family style : String) : HostM Unit := do
  enter .loadFont
  if (← view).fontsFail then throw (.fontUnavailable family style)
  edit (·.addFont family style)

end Host

end Easel
