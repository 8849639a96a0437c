import Easel.Diagnostic
import Easel.Lookup

/-!
Carrying out a batch, one action after the other. An action that cannot be carried out leaves a remark in the report and does
not stop those behind it; what it had done before it failed stays done.
-/

namespace Easel

structure ExecutionOptions where
  /-- Select every new layer and bring it into view. -/
  focusCreated : Bool := false
  /-- Tell the user the summary at the end. -/
  notifySummary : Bool := true

namespace ExecutionOptions

/-- Options as they are asked for by name, unless one of them does not exist. -/
def ofFields? (fields : Fields) : Option ExecutionOptions :=
  fields.foldlM (fun o (name, v) =>
    match name with
    | "auto_focus_created" => some { o with focusCreated := v.isGiven }
    | "notify_summary" => some { o with notifySummary := v.isGiven }
    | _ => none) {}

end ExecutionOptions

/-- Why an action ended early: it could not be applied, or a call of the host failed. -/
inductive Halt
  | refused (event : Event)
  | failed (error : HostError)

/-- The host and the events of the action so far. -/
structure Run where
  host : Host
  events : List Event := []

abbrev Handler := ExceptT Halt (StateM Run)

namespace Handler

def emit (e : Event) : Handler Unit :=
  modify fun r => { r with events := r.events ++ [e] }

def refuse (e : Event) : Handler α :=
  throw (.refused e)

/-- A call of the host, whose error is an answer. -/
def attempt (m : HostM α) : Handler (Except HostError α) := do
  let r ← get
  let (result, host) := m.run r.host
  set { r with host }
  return result

instance : MonadLift HostM Handler where
  monadLift m := do
    match ← attempt m with
    | .ok a => return a
    | .error e => throw (.failed e)

end Handler

namespace Execution

open Handler

def defaultX : Number := 100

def defaultY : Number := 100

def defaultSide : Number := 100

def defaultFrameSide : Number := 200

def defaultRadius : Number := 50

def defaultText : String := "Hello"

def fittingText : String := "WIDTH_AND_HEIGHT"

/-- The key under which the layer last found by name is remembered. -/
def lastFoundKey : String := "lastSelectedNodeId"

/-- The action at hand. -/
structure Task where
  op : String
  args : Fields
  target : Json
  options : ExecutionOptions

namespace Task

def number? (t : Task) (name : String) : Option Number :=
  (t.args.value name).number?

def number (t : Task) (name : String) (fallback : Number) : Number :=
  (t.number? name).getD fallback

/-- A text argument, unless it is empty. -/
def text? (t : Task) (name : String) : Option String :=
  Lookup.wanted? (t.args.value name)

/-- A colour that cannot be read is black, with a remark. -/
def color (t : Task) : Handler Rgb := do
  let v := t.args.value "color"
  match Rgb.ofJson? v with
  | some c => return c
  | none =>
    emit (.colorFallback v)
    return Rgb.black

def hasColor (t : Task) : Bool :=
  !(t.args.value "color").isNull

end Task

def lookOf (id : LayerId) : Handler Look := do
  return (((← Host.view).layer? id).map (·.look)).getD (Look.initial .group)

def adjust (id : LayerId) (f : Look → Look) : Handler Unit := do
  Host.edit (·.updateLook id f)

/-- A layer that was taken off is left alone, with a remark. -/
def ifAlive (id : LayerId) (act : Handler Unit) : Handler Unit := do
  if (← Host.view).isRemoved id then emit (.staleLayer id) else act

def requireTarget (t : Task) : Handler LayerId := do
  match Lookup.wanted? t.target with
  | none => refuse (.missingTarget t.op)
  | some name =>
    match ← Lookup.target t.target with
    | none => refuse (.targetNotFound t.op name)
    | some id => return id

def requireTrait (t : Task) (trait : Look → Bool) (id : LayerId) : Handler LayerId := do
  let look ← lookOf id
  if trait look then return id else refuse (.unsupported t.op look.kind id)

/-- The target if one is given, else what is selected, as far as it has the trait. -/
def subjects (t : Task) (trait : Look → Bool) : Handler (List LayerId) := do
  if (Lookup.wanted? t.target).isSome then
    return [← requireTrait t trait (← requireTarget t)]
  let selection ← Host.getSelection
  if selection.isEmpty then
    emit (.emptySelection t.op)
    return []
  let d ← Host.view
  let capable (id : LayerId) : Bool := (d.layer? id).any fun l => trait l.look
  let unfit := selection.filter (!capable ·)
  if !unfit.isEmpty then emit (.skipped t.op unfit)
  return selection.filter capable

def canFill (l : Look) : Bool := l.fills.isSome

def canStroke (l : Look) : Bool := l.stroke.isSome

def canResize (l : Look) : Bool := l.size.isSome

def anyLook (_ : Look) : Bool := true

def focus (ids : List LayerId) : Handler Unit := do
  Host.setSelection (ids.map .layer)
  Host.zoomTo (ids.map .layer)

/-! Creating -/

def applyName (t : Task) (id : LayerId) : Handler Unit := do
  match t.text? "name" with
  | none => return
  | some name => adjust id (·.rename name)

def applyFill (t : Task) (id : LayerId) : Handler Unit := do
  if t.hasColor && canFill (← lookOf id) then
    let c ← t.color
    adjust id (·.fill c)

def applyCorner (t : Task) (id : LayerId) : Handler Unit := do
  match t.number? "borderRadius" with
  | none => return
  | some r => adjust id fun l => { l with cornerRadius := l.cornerRadius.map fun _ => r }

def place (t : Task) (id : LayerId) : Handler Unit :=
  adjust id (·.moveTo (t.number "x" defaultX) (t.number "y" defaultY))

def attachOne (parent copy : LayerId) : Handler Unit := do
  let d ← Host.view
  if d.isContainer (.layer parent) && !d.isRemoved parent then
    Host.edit (·.append (.layer parent) copy)
  else
    Host.edit (·.append .page copy)
    emit (.parentNotContainer (d.nameOf parent) parent)

/-- Hangs a new layer where `parentId` says: on the page if nothing is said or nothing fits, and one copy in each of several
that fit. -/
def attach (t : Task) (id : LayerId) : Handler (List LayerId) := do
  Host.currentPage
  match t.text? "parentId" with
  | none =>
    Host.edit (·.append .page id)
    return [id]
  | some parent =>
    match ← Lookup.parent (.str parent) with
    | none =>
      Host.edit (·.append .page id)
      emit (.parentNotFound parent)
      return [id]
    | some found =>
      let parents := found.ids
      let twins ← parents.tail.mapM fun _ => Host.clone id
      let copies := id :: twins
      (parents.zip copies).forM fun (p, copy) => attachOne p copy
      if 1 < parents.length then emit (.severalParents parent parents.length)
      return copies

def finish (t : Task) (id : LayerId) : Handler Unit := do
  let created ← attach t id
  if t.options.focusCreated then focus created

def createBox (t : Task) (k : Kind) (side : Number) : Handler Unit := do
  let id ← Host.createKind k
  place t id
  adjust id (·.resize (t.number "width" side) (t.number "height" side))
  applyFill t id
  applyCorner t id
  applyName t id
  finish t id

def createCircle (t : Task) : Handler Unit := do
  let id ← Host.createKind .ellipse
  place t id
  let diameter := t.number "radius" defaultRadius * 2
  adjust id (·.resize diameter diameter)
  applyFill t id
  applyName t id
  finish t id

def createLine (t : Task) : Handler Unit := do
  let id ← Host.createKind .line
  place t id
  adjust id (·.resize (t.number "width" defaultSide) 0)
  let weight := t.number? "strokeWeight"
  if t.hasColor then
    let c ← t.color
    adjust id (·.outline c weight)
  else
    match weight with
    | some w => adjust id (·.setStrokeWeight w)
    | none => pure ()
  applyName t id
  finish t id

/-- Without its font a text still comes into being, but its box keeps its size. -/
def createText (t : Task) : Handler Unit := do
  let id ← Host.createKind .text
  place t id
  let loaded ← attempt (Host.loadFont defaultFontFamily defaultFontStyle)
  match loaded with
  | .ok _ => pure ()
  | .error e => emit (.fontFailed e)
  let characters := (t.text? "text").getD defaultText
  adjust id fun l => { l with caption := l.caption.map ({ · with characters }) }
  match t.number? "fontSize" with
  | some fontSize => adjust id fun l => { l with caption := l.caption.map ({ · with fontSize }) }
  | none => pure ()
  applyFill t id
  applyName t id
  if loaded.isOk then
    adjust id fun l => { l with caption := l.caption.map ({ · with autoResize := fittingText }) }
  finish t id

/-! Style -/

def setFill (t : Task) : Handler Unit := do
  let ids ← subjects t canFill
  if !ids.isEmpty then
    let c ← t.color
    ids.forM fun id => ifAlive id (adjust id (·.fill c))

def setStroke (t : Task) : Handler Unit := do
  let ids ← subjects t canStroke
  if !ids.isEmpty then
    let c ← t.color
    ids.forM fun id => ifAlive id (adjust id (·.outline c (t.number? "strokeWeight")))

def setOpacity (t : Task) : Handler Unit := do
  let ids ← subjects t anyLook
  ids.forM fun id => ifAlive id (adjust id (·.fade (t.number? "opacity")))

/-! Position and size -/

def move (t : Task) : Handler Unit := do
  let id ← requireTarget t
  ifAlive id (adjust id (·.moveTo (t.number? "x") (t.number? "y")))

def resize (t : Task) : Handler Unit := do
  let id ← requireTrait t canResize (← requireTarget t)
  ifAlive id (adjust id (·.resizeTo (t.number? "width") (t.number? "height")))

def rotate (t : Task) : Handler Unit := do
  let id ← requireTarget t
  ifAlive id (adjust id (·.turn (t.number? "rotation")))

/-! Selecting -/

def selectByName (name : Json) : Handler Unit := do
  match ← Lookup.byName name with
  | [] => emit (.noLayerNamed name)
  | ids =>
    focus ids
    if 1 < ids.length then emit (.severalMatches name.display ids.length)

def select (t : Task) : Handler Unit := do
  match ← Lookup.byId t.target with
  | some id => focus [id]
  | none => selectByName (if (t.args.value "name").isGiven then t.args.value "name" else t.target)

def findByName (t : Task) : Handler Unit := do
  let name := (t.text? "name").getD ""
  match ← Lookup.byName (.str name) with
  | [] => emit (.nothingFound name)
  | best :: _ =>
    focus [best]
    Host.setData lastFoundKey (LayerId.text best)
    Host.notify s!"Found and selected: {(← Host.view).nameOf best}"

def selectLast : Handler Unit := do
  match ← Lookup.byId (.str (← Host.getData lastFoundKey)) with
  | none => emit .nothingRemembered
  | some id => focus [id]

def selectAll : Handler Unit := do
  Host.currentPage
  Host.setSelection ((← Host.view).pageChildren.map .layer)

/-! Order, deletion, groups and view -/

/-- The container of a layer, or else the page. -/
def containerOf (id : LayerId) : Handler Node := do
  match (← Host.view).parentOf id with
  | some p => return p
  | none =>
    Host.currentPage
    return .page

def bringToFront (t : Task) : Handler Unit := do
  let id ← requireTarget t
  ifAlive id do
    let p ← containerOf id
    Host.edit (·.append p id)

def sendToBack (t : Task) : Handler Unit := do
  let id ← requireTarget t
  ifAlive id do
    let p ← containerOf id
    Host.edit (·.insert p 0 id)

def delete (t : Task) : Handler Unit := do
  let id ← requireTarget t
  ifAlive id (Host.edit (·.remove id))

/-- A layer that went with another selected one is not removed again. -/
def deleteSelection : Handler Unit := do
  (← Host.getSelection).forM fun id => Host.edit fun d => if d.isRemoved id then d else d.remove id

def groupSelection (t : Task) : Handler Unit := do
  match ← Host.getSelection with
  | first :: second :: rest =>
    let g ← Host.group (first :: second :: rest) (← containerOf first)
    applyName t g
  | few => emit (.groupNeedsTwo few.length)

def ungroupSelection : Handler Unit := do
  (← Host.getSelection).forM fun id => do
    if (← lookOf id).kind = .group then
      ifAlive id do
        let _ ← Host.ungroup id

def zoomToFit : Handler Unit := do
  Host.currentPage
  Host.zoomTo ((← Host.view).pageChildren.map .layer)

def zoomToSelection (t : Task) : Handler Unit := do
  let selection ← Host.getSelection
  if selection.isEmpty then emit (.emptySelection t.op) else Host.zoomTo (selection.map .layer)

def handle (op : Op) (t : Task) : Handler Unit :=
  match op with
  | .createRectangle => createBox t .rectangle defaultSide
  | .createCircle => createCircle t
  | .createEllipse => createBox t .ellipse defaultSide
  | .createLine => createLine t
  | .createPolygon => createBox t .polygon defaultSide
  | .createStar => createBox t .star defaultSide
  | .createText => createText t
  | .createFrame => createBox t .frame defaultFrameSide
  | .setFill => setFill t
  | .setStroke => setStroke t
  | .setOpacity => setOpacity t
  | .move => move t
  | .resize => resize t
  | .rotate => rotate t
  | .select => select t
  | .selectAll => selectAll
  | .deselect => Host.setSelection []
  | .findByName => findByName t
  | .selectLast => selectLast
  | .bringToFront => bringToFront t
  | .sendToBack => sendToBack t
  | .delete => delete t
  | .deleteSelection => deleteSelection
  | .group => groupSelection t
  | .ungroup => ungroupSelection
  | .zoomToFit => zoomToFit
  | .zoomToSelection => zoomToSelection t

/-- One action: an operation the table does not have, or arguments it does not allow, are refused before anything is done. -/
def apply (options : ExecutionOptions) (a : Action) : Handler Unit :=
  match Op.ofName? a.op with
  | none => refuse (.unknownOperation (.str a.op))
  | some op =>
    match a.objections with
    | [] => handle op ⟨a.op, a.args, a.target, options⟩
    | objections => refuse (.invalidAction a.op objections)

/-- How an action ended. -/
inductive Outcome
  | succeeded
  | failed (event : Event)
  | unknown (event : Event)

def Outcome.event? : Outcome → Option Event
  | .succeeded => none
  | .failed e => some e
  | .unknown e => some e

def outcomeOf (a : Action) : Except Halt Unit → Outcome
  | .ok _ => .succeeded
  | .error (.refused (.unknownOperation op)) => .unknown (.unknownOperation op)
  | .error (.refused e) => .failed e
  | .error (.failed e) => .failed (.actionFailed a.op e)

/-- The outcome of an action, all its events in order, and the host after it. -/
def perform (options : ExecutionOptions) (a : Action) (h : Host) : Outcome × List Event × Host :=
  let (result, r) := (apply options a).run ⟨h, []⟩
  let outcome := outcomeOf a result
  (outcome, r.events ++ outcome.event?.toList, r.host)

def record (report : Report) (outcome : Outcome) (events : List Event) : Report :=
  let index := report.attempted
  let base :=
    { report with
      attempted := index + 1
      diagnostics := report.diagnostics ++ events.map (Diagnostic.mk (some index)) }
  match outcome with
  | .succeeded => { base with succeeded := base.succeeded ++ [index] }
  | .failed _ => { base with failed := base.failed ++ [index] }
  | .unknown _ => { base with unknown := base.unknown ++ [index] }

/-- One action of a batch. Only a failing notification ends the batch. -/
def step (options : ExecutionOptions) (report : Report) (a : Action) : HostM Report := do
  let (outcome, events, h) := perform options a (← get)
  set h
  (events.filter (·.isUserFacing)).forM fun e => Host.notify e.message
  return record report outcome events

def runActions (options : ExecutionOptions) (actions : List Action) : HostM Report :=
  actions.foldlM (step options) ({} : Report)

def execute (options : ExecutionOptions) (actions : List Action) : HostM Report := do
  let report ← runActions options actions
  if options.notifySummary then Host.notify report.summary
  return report

end Execution

end Easel
