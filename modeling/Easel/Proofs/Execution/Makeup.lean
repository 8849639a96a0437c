import Easel.Execution

/-!
What handlers are made of. Each is put together from calls of the host, single edits of the document, remarks, and refusals that
blame the target; a property of all these parts that chaining keeps is a property of every handler.
-/

namespace Easel

namespace Document

/-- A single edit that a handler makes. -/
inductive Edit : (Document → Document) → Prop
  | look (id : LayerId) (f : Look → Look) : Edit (·.updateLook id f)
  | append (p : Node) (id : LayerId) : Edit (·.append p id)
  | insert (p : Node) (index : Int) (id : LayerId) : Edit (·.insert p index id)
  | remove (id : LayerId) : Edit (·.remove id)
  | removeLive (id : LayerId) : Edit fun d => if d.isRemoved id then d else d.remove id
  | gather (g : LayerId) (ids : List LayerId) (p : Node) : Edit (·.gather g ids p)
  | dissolve (g : LayerId) (p : Node) : Edit (·.dissolve g p)
  | select (nodes : List Node) : Edit ({ · with selection := nodes })
  | zoom (nodes : List Node) : Edit ({ · with viewport := nodes })
  | notify (message : String) : Edit (·.notify message)
  | putData (key value : String) : Edit (·.putData key value)
  | addFont (family style : String) : Edit (·.addFont family style)

end Document

namespace Host

/-- Programs on the host that are made of calls, looks at the document, new layers, edits and errors. -/
inductive Plain : {α : Type} → HostM α → Prop
  | pure {α : Type} (a : α) : Plain (Pure.pure a)
  | bind {α β : Type} {m : HostM α} {k : α → HostM β} : Plain m → (∀ a, Plain (k a)) → Plain (m >>= k)
  | enter (call : HostCall) : Plain (enter call)
  | view : Plain view
  | create (look : Look) : Plain (create look)
  | edit {f : Document → Document} : Document.Edit f → Plain (edit f)
  | throw {α : Type} (e : HostError) : Plain (throw e : HostM α)

namespace Plain

theorem forM {f : α → HostM PUnit} (h : ∀ a, Plain (f a)) : ∀ l : List α, Plain (l.forM f)
  | [] => .pure _
  | a :: l => .bind (h a) fun _ => forM h l

theorem cloneTo : ∀ depth id, Plain (Host.cloneTo depth id)
  | 0, id => .pure id
  | depth + 1, id => by
    rw [Host.cloneTo]
    refine .bind .view fun d => ?_
    split
    · exact .pure _
    · refine .bind (.create _) fun twin => .bind (.forM (fun child => ?_) _) fun _ => .pure _
      exact .bind (cloneTo depth child) fun copy => .edit (.append _ _)

theorem clone (id : LayerId) : Plain (Host.clone id) :=
  .bind .view fun d => cloneTo d.layers.length id

theorem getSelection : Plain Host.getSelection := by
  refine .bind (.enter _) fun _ => .bind .view fun d => ?_
  split
  · exact .throw _
  · exact .bind (.edit (.select _)) fun _ => .pure _

theorem setSelection (nodes : List Node) : Plain (Host.setSelection nodes) :=
  .bind (.enter _) fun _ => .edit (.select nodes)

theorem zoomTo (nodes : List Node) : Plain (Host.zoomTo nodes) :=
  .bind (.enter _) fun _ => .edit (.zoom nodes)

theorem group (ids : List LayerId) (p : Node) : Plain (Host.group ids p) := by
  have hmake : Plain (do
      let g ← createKind .group
      if !(← Host.view).isContainer p then MonadExcept.throw .notContainer
      Host.edit (·.gather g ids p)
      return g) := by
    refine .bind (.create _) fun g => .bind .view fun d => ?_
    split
    · exact .bind (.throw _) fun _ => .bind (.edit (.gather g ids p)) fun _ => .pure _
    · exact .bind (.edit (.gather g ids p)) fun _ => .pure _
  refine .bind (.enter _) fun _ => ?_
  dsimp only
  split
  · exact .bind (.throw _) fun _ => hmake
  · exact hmake

theorem ungroup (id : LayerId) : Plain (Host.ungroup id) := by
  refine .bind (.enter _) fun _ => .bind .view fun d => ?_
  split
  · exact .pure _
  · rename_i l hl
    cases l.parent with
    | none =>
      dsimp only
      split
      · exact .bind (.throw _) fun _ => .pure _
      · exact .pure _
    | some p =>
      have hrelease := (edit (.dissolve id p)).bind fun _ => pure l.children
      dsimp only
      split
      · exact .bind (.throw _) fun _ => hrelease
      · exact hrelease

theorem findAll : Plain Host.findAll :=
  .bind (.enter _) fun _ => .bind .view fun _ => .pure _

theorem notify (message : String) : Plain (Host.notify message) :=
  .bind (.enter _) fun _ => .edit (.notify message)

theorem getData (key : String) : Plain (Host.getData key) :=
  .bind (.enter _) fun _ => .bind .view fun _ => .pure _

theorem setData (key value : String) : Plain (Host.setData key value) :=
  .bind (.enter _) fun _ => .edit (.putData key value)

theorem loadFont (family style : String) : Plain (Host.loadFont family style) := by
  refine .bind (.enter _) fun _ => .bind .view fun d => ?_
  dsimp only
  split
  · exact .bind (.throw _) fun _ => .edit (.addFont _ _)
  · exact .edit (.addFont _ _)

end Plain

end Host

/-- Refusals for the target: there is none, it fits no layer, or it fits a layer that cannot do what is asked. -/
def Event.blamesTarget : Event → Prop
  | .missingTarget _ | .targetNotFound .. | .unsupported .. => True
  | _ => False

/-- What is said of an action while it goes on. -/
def Event.isRemark : Event → Prop
  | .unknownOperation _ | .invalidAction .. | .actionFailed .. | .missingTarget _ | .targetNotFound .. | .unsupported ..
  | .other .. => False
  | _ => True

namespace Lookup

theorem byId_plain (v : Json) : Host.Plain (byId v) := by
  unfold byId
  split
  · exact .pure _
  · exact .bind .findAll fun _ => .pure _

theorem byName_plain (v : Json) : Host.Plain (byName v) := by
  unfold byName
  split
  · exact .pure _
  · exact .bind .findAll fun _ => .bind .view fun _ => .pure _

theorem parent_plain (v : Json) : Host.Plain (parent v) := by
  refine .bind (byId_plain v) fun found => ?_
  split
  · exact .pure _
  · refine .bind (byName_plain v) fun ids => ?_
    split <;> exact .pure _

theorem target_plain (v : Json) : Host.Plain (target v) := by
  refine .bind (byId_plain v) fun found => ?_
  split
  · exact .pure _
  · exact .bind (byName_plain v) fun _ => .pure _

end Lookup

namespace Execution

inductive Plain : {α : Type} → Handler α → Prop
  | pure {α : Type} (a : α) : Plain (Pure.pure a)
  | bind {α β : Type} {m : Handler α} {k : α → Handler β} : Plain m → (∀ a, Plain (k a)) → Plain (m >>= k)
  | emit (e : Event) (he : e.isRemark) : Plain (Handler.emit e)
  | refuse {α : Type} {e : Event} : e.blamesTarget → Plain (Handler.refuse e : Handler α)
  | call {α : Type} {m : HostM α} : Host.Plain m → Plain (liftM m)
  | attempt {α : Type} {m : HostM α} : Host.Plain m → Plain (Handler.attempt m)

namespace Plain

variable {t : Task}

protected theorem forM {f : α → Handler PUnit} (h : ∀ a, Plain (f a)) : ∀ l : List α, Plain (l.forM f)
  | [] => .pure _
  | a :: l => .bind (h a) fun _ => .forM h l

protected theorem mapM {f : α → Handler β} (h : ∀ a, Plain (f a)) : ∀ l : List α, Plain (l.mapM f)
  | [] => .pure _
  | a :: l => by
    rw [List.mapM_cons]
    exact .bind (h a) fun _ => .bind (.mapM h l) fun _ => .pure _

theorem view : Plain (liftM Host.view) := .call .view

theorem edit {f : Document → Document} (h : Document.Edit f) : Plain (liftM (Host.edit f)) := .call (.edit h)

theorem adjust (id : LayerId) (f : Look → Look) : Plain (adjust id f) := edit (.look id f)

theorem lookOf (id : LayerId) : Plain (lookOf id) := .bind view fun _ => .pure _

theorem ifAlive {id : LayerId} {act : Handler Unit} (h : Plain act) : Plain (ifAlive id act) := by
  refine .bind view fun d => ?_
  split
  · exact .emit _ trivial
  · exact h

theorem requireTarget : Plain (requireTarget t) := by
  unfold Execution.requireTarget
  split
  · exact .refuse trivial
  · refine .bind (.call (Lookup.target_plain _)) fun found => ?_
    split
    · exact .refuse trivial
    · exact .pure _

theorem requireTrait (trait : Look → Bool) (id : LayerId) : Plain (requireTrait t trait id) := by
  refine .bind (lookOf id) fun look => ?_
  split
  · exact .pure _
  · exact .refuse trivial

theorem subjects (trait : Look → Bool) : Plain (subjects t trait) := by
  unfold Execution.subjects
  split
  · exact .bind requireTarget fun id => .bind (requireTrait trait id) fun _ => .pure _
  · refine .bind (.call .getSelection) fun selection => ?_
    split
    · exact .bind (.emit _ trivial) fun _ => .pure _
    · refine .bind view fun d => ?_
      dsimp only
      split
      · exact .bind (.emit _ trivial) fun _ => .pure _
      · exact .pure _

theorem focus (ids : List LayerId) : Plain (focus ids) :=
  .bind (.call (.setSelection _)) fun _ => .call (.zoomTo _)

theorem color : Plain t.color := by
  unfold Task.color
  dsimp only
  split
  · exact .pure _
  · exact .bind (.emit _ trivial) fun _ => .pure _

theorem applyName (id : LayerId) : Plain (applyName t id) := by
  unfold Execution.applyName
  split
  · exact .pure _
  · exact adjust id _

theorem applyFill (id : LayerId) : Plain (applyFill t id) := by
  refine .bind (lookOf id) fun look => ?_
  split
  · exact .bind color fun c => adjust id _
  · exact .pure _

theorem applyCorner (id : LayerId) : Plain (applyCorner t id) := by
  unfold Execution.applyCorner
  split
  · exact .pure _
  · exact adjust id _

theorem attachOne (parent copy : LayerId) : Plain (attachOne parent copy) := by
  refine .bind view fun d => ?_
  split
  · exact edit (.append _ _)
  · exact .bind (edit (.append _ _)) fun _ => .emit _ trivial

theorem attach (id : LayerId) : Plain (attach t id) := by
  have hroot : Plain (liftM (Host.edit (·.append .page id)) : Handler Unit) := edit (.append _ _)
  refine .bind (.call (.enter _)) fun _ => ?_
  split
  · exact .bind hroot fun _ => .pure _
  · refine .bind (.call (Lookup.parent_plain _)) fun found => ?_
    split
    · exact .bind hroot fun _ => .bind (.emit _ trivial) fun _ => .pure _
    · refine .bind (.mapM (fun _ => .call (.clone id)) _) fun twins => ?_
      refine .bind (.forM (fun (p, copy) => attachOne p copy) _) fun _ => ?_
      dsimp only
      split
      · exact .bind (.emit _ trivial) fun _ => .pure _
      · exact .pure _

theorem finish (id : LayerId) : Plain (finish t id) := by
  refine .bind (attach id) fun created => ?_
  split
  · exact focus created
  · exact .pure _

theorem place (id : LayerId) : Plain (place t id) := adjust id _

theorem createBox (k : Kind) (side : Number) : Plain (createBox t k side) :=
  .bind (.call (.create _)) fun id => .bind (place id) fun _ => .bind (adjust id _) fun _ =>
    .bind (applyFill id) fun _ => .bind (applyCorner id) fun _ => .bind (applyName id) fun _ => finish id

theorem createCircle : Plain (createCircle t) :=
  .bind (.call (.create _)) fun id => .bind (place id) fun _ => .bind (adjust id _) fun _ =>
    .bind (applyFill id) fun _ => .bind (applyName id) fun _ => finish id

theorem createLine : Plain (createLine t) := by
  refine .bind (.call (.create _)) fun id => .bind (place id) fun _ => .bind (adjust id _) fun _ => ?_
  have hrest : Plain (do Execution.applyName t id; Execution.finish t id) := .bind (applyName id) fun _ => finish id
  dsimp only
  split
  · exact .bind color fun c => .bind (adjust id _) fun _ => hrest
  · split
    · exact .bind (adjust id _) fun _ => hrest
    · exact hrest

theorem createText : Plain (createText t) := by
  refine .bind (.call (.create _)) fun id => .bind (place id) fun _ => ?_
  refine .bind (.attempt (.loadFont _ _)) fun loaded => ?_
  have hnamed : Plain (do
      Execution.applyFill t id
      Execution.applyName t id
      if loaded.isOk then
        Execution.adjust id fun l => { l with caption := l.caption.map ({ · with autoResize := fittingText }) }
      Execution.finish t id) := by
    refine .bind (applyFill id) fun _ => .bind (applyName id) fun _ => ?_
    dsimp only
    split
    · exact .bind (adjust id _) fun _ => finish id
    · exact finish id
  cases t.number? "fontSize" with
  | none =>
    dsimp only
    split
    · exact .bind (adjust id _) fun _ => hnamed
    · exact .bind (.emit _ trivial) fun _ => .bind (adjust id _) fun _ => hnamed
  | some fontSize =>
    have hsized := (adjust id fun l => { l with caption := l.caption.map ({ · with fontSize }) }).bind fun _ => hnamed
    dsimp only
    split
    · exact .bind (adjust id _) fun _ => hsized
    · exact .bind (.emit _ trivial) fun _ => .bind (adjust id _) fun _ => hsized

theorem setFill : Plain (setFill t) := by
  refine .bind (subjects _) fun ids => ?_
  split
  · exact .bind color fun c => .forM (fun id => ifAlive (adjust id _)) ids
  · exact .pure _

theorem setStroke : Plain (setStroke t) := by
  refine .bind (subjects _) fun ids => ?_
  split
  · exact .bind color fun c => .forM (fun id => ifAlive (adjust id _)) ids
  · exact .pure _

theorem setOpacity : Plain (setOpacity t) :=
  .bind (subjects _) fun ids => .forM (fun id => ifAlive (adjust id _)) ids

theorem move : Plain (move t) := .bind requireTarget fun id => ifAlive (adjust id _)

theorem resize : Plain (resize t) :=
  .bind requireTarget fun id => .bind (requireTrait _ id) fun id => ifAlive (adjust id _)

theorem rotate : Plain (rotate t) := .bind requireTarget fun id => ifAlive (adjust id _)

theorem selectByName (name : Json) : Plain (selectByName name) := by
  refine .bind (.call (Lookup.byName_plain name)) fun ids => ?_
  split
  · exact .emit _ trivial
  · refine .bind (focus _) fun _ => ?_
    split
    · exact .emit _ trivial
    · exact .pure _

theorem select : Plain (select t) := by
  refine .bind (.call (Lookup.byId_plain _)) fun found => ?_
  split
  · exact focus _
  · exact selectByName _

theorem findByName : Plain (findByName t) := by
  refine .bind (.call (Lookup.byName_plain _)) fun ids => ?_
  split
  · exact .emit _ trivial
  · exact .bind (focus _) fun _ => .bind (.call (.setData _ _)) fun _ => .bind view fun d => .call (.notify _)

theorem selectLast : Plain selectLast := by
  refine .bind (.call (.getData _)) fun text => .bind (.call (Lookup.byId_plain _)) fun found => ?_
  split
  · exact .emit _ trivial
  · exact focus _

theorem selectAll : Plain selectAll :=
  .bind (.call (.enter _)) fun _ => .bind view fun _ => .call (.setSelection _)

theorem containerOf (id : LayerId) : Plain (containerOf id) := by
  refine .bind view fun d => ?_
  split
  · exact .pure _
  · exact .bind (.call (.enter _)) fun _ => .pure _

theorem bringToFront : Plain (bringToFront t) :=
  .bind requireTarget fun id => ifAlive (.bind (containerOf id) fun p => edit (.append p id))

theorem sendToBack : Plain (sendToBack t) :=
  .bind requireTarget fun id => ifAlive (.bind (containerOf id) fun p => edit (.insert p 0 id))

theorem delete : Plain (delete t) := .bind requireTarget fun id => ifAlive (edit (.remove id))

theorem deleteSelection : Plain deleteSelection :=
  .bind (.call .getSelection) fun ids => .forM (fun id => edit (.removeLive id)) ids

theorem groupSelection : Plain (groupSelection t) := by
  refine .bind (.call .getSelection) fun ids => ?_
  split
  · exact .bind (containerOf _) fun p => .bind (.call (.group _ p)) fun g => applyName g
  · exact .emit _ trivial

theorem ungroupSelection : Plain ungroupSelection := by
  refine .bind (.call .getSelection) fun ids => .forM (fun id => .bind (lookOf id) fun look => ?_) ids
  split
  · exact ifAlive (.bind (.call (.ungroup id)) fun _ => .pure _)
  · exact .pure _

theorem zoomToFit : Plain zoomToFit :=
  .bind (.call (.enter _)) fun _ => .bind view fun _ => .call (.zoomTo _)

theorem zoomToSelection : Plain (zoomToSelection t) := by
  refine .bind (.call .getSelection) fun ids => ?_
  split
  · exact .emit _ trivial
  · exact .call (.zoomTo _)

end Plain

theorem handle_plain (op : Op) (t : Task) : Plain (handle op t) := by
  cases op with
  | createRectangle | createEllipse | createPolygon | createStar | createFrame => exact .createBox _ _
  | createCircle => exact .createCircle
  | createLine => exact .createLine
  | createText => exact .createText
  | setFill => exact .setFill
  | setStroke => exact .setStroke
  | setOpacity => exact .setOpacity
  | move => exact .move
  | resize => exact .resize
  | rotate => exact .rotate
  | select => exact .select
  | selectAll => exact .selectAll
  | deselect => exact .call (.setSelection _)
  | findByName => exact .findByName
  | selectLast => exact .selectLast
  | bringToFront => exact .bringToFront
  | sendToBack => exact .sendToBack
  | delete => exact .delete
  | deleteSelection => exact .deleteSelection
  | group => exact .groupSelection
  | ungroup => exact .ungroupSelection
  | zoomToFit => exact .zoomToFit
  | zoomToSelection => exact .zoomToSelection

end Execution

end Easel
