import Easel.Proofs.Document.Aside
import Easel.Proofs.Execution.Runs

/-!
Handlers that neither tell the user anything nor have plugins remember anything. On two documents that differ only in what the user
was told they do the same, and plugin data stay as they are. All handlers are of this kind but the one that finds a layer by name.
-/

namespace Easel

namespace Host

open Document

variable {α β : Type} {data : List (String × String)}

/-- Two hosts that differ in nothing but what the user was told, and whether that fails; `data` is their plugin data. -/
structure Twins (data : List (String × String)) (h g : Host) : Prop where
  calls : g.calls = h.calls
  document : ∃ notes, g.document = h.document.aside notes data
  data : h.document.pluginData = data
  faults : ∀ n call, call ≠ .notify → g.faults n call = h.faults n call

/-- A program that has nothing to do with notifications and plugin data. -/
def Discreet (data : List (String × String)) (m : HostM α) : Prop := Parallel (Twins data) m

namespace Discreet

theorem pure (a : α) : Discreet data (Pure.pure a : HostM α) := Parallel.pure a

theorem throw (e : HostError) : Discreet data (throw e : HostM α) := Parallel.throw e

theorem bind {m : HostM α} {k : α → HostM β} (hm : Discreet data m) (hk : ∀ a, Discreet data (k a)) :
    Discreet data (m >>= k) :=
  Parallel.bind hm hk

theorem forM {f : α → HostM PUnit} (h : ∀ a, Discreet data (f a)) (l : List α) : Discreet data (l.forM f) :=
  Parallel.forM h l

theorem view {k : Document → HostM β} (hk : ∀ d notes data, k (d.aside notes data) = k d) (h : ∀ d, Discreet data (k d)) :
    Discreet data (Host.view >>= k) := by
  intro s t hst
  obtain ⟨notes, hn⟩ := hst.document
  show ((k t.document).run t).1 = ((k s.document).run s).1 ∧ Twins data ((k s.document).run s).2 ((k t.document).run t).2
  rw [hn, hk]
  exact h s.document s t hst

theorem edit {f : Document → Document} (hf : Apart f) : Discreet data (Host.edit f) := by
  intro s t hst
  obtain ⟨notes, hn⟩ := hst.document
  refine ⟨rfl, hst.calls, ⟨notes, ?_⟩, (hf.pluginData _).trans hst.data, hst.faults⟩
  show f t.document = (f s.document).aside notes data
  rw [hn, hf]

theorem enter {call : HostCall} (hc : call ≠ .notify) : Discreet data (Host.enter call) := by
  intro s t hst
  rw [Host.enter_run, Host.enter_run, hst.calls, hst.faults _ _ hc]
  exact ⟨rfl, rfl, hst.document, hst.data, hst.faults⟩

theorem create (look : Look) : Discreet data (Host.create look) := by
  intro s t hst
  obtain ⟨ha, h'⟩ := enter (by decide : HostCall.createNode ≠ .notify) s t hst
  -- The call fails on both hosts or on none, and both count the same layers.
  rw [Host.create_run, Host.create_run]
  rcases hs : (Host.enter .createNode).run s with ⟨e | a, s'⟩ <;>
    rcases ht : (Host.enter .createNode).run t with ⟨e' | a', t'⟩ <;> rw [hs, ht] at ha h' <;> cases ha
  · exact ⟨rfl, h'⟩
  · obtain ⟨notes, hn⟩ := h'.document
    refine ⟨?_, h'.calls, ⟨notes, ?_⟩, h'.data, h'.faults⟩
    · show Except.ok t'.document.layers.length = _
      rw [hn]
      rfl
    · show (t'.document.create look).2 = _
      rw [hn]
      rfl

theorem cloneTo : ∀ depth id, Discreet data (Host.cloneTo depth id)
  | 0, id => .pure id
  | depth + 1, id => by
    rw [Host.cloneTo]
    refine .view (fun _ _ _ => rfl) fun d => ?_
    split
    · exact .pure _
    · refine .bind (.create _) fun twin => .bind (.forM (fun child => ?_) _) fun _ => .pure _
      exact .bind (cloneTo depth child) fun copy => .edit (apart_append _ _)

theorem clone (id : LayerId) : Discreet data (Host.clone id) := .view (fun _ _ _ => rfl) fun d => cloneTo d.layers.length id

theorem getSelection : Discreet data Host.getSelection := by
  refine .bind (.enter (by decide)) fun _ => .view (fun _ _ _ => rfl) fun d => ?_
  split
  · exact .throw _
  · exact .bind (.edit fun _ _ _ => rfl) fun _ => .pure _

theorem setSelection (nodes : List Node) : Discreet data (Host.setSelection nodes) :=
  .bind (.enter (by decide)) fun _ => .edit fun _ _ _ => rfl

theorem zoomTo (nodes : List Node) : Discreet data (Host.zoomTo nodes) :=
  .bind (.enter (by decide)) fun _ => .edit fun _ _ _ => rfl

/-- Plugin data are read here, so both hosts have to have the same. -/
theorem getData (key : String) : Discreet data (Host.getData key) := by
  refine .bind (.enter (by decide)) fun _ s t hst => ?_
  obtain ⟨notes, hn⟩ := hst.document
  refine ⟨?_, hst⟩
  show Except.ok (t.document.data key) = Except.ok (s.document.data key)
  rw [hn, Document.data, Document.data, hst.data]
  rfl

theorem loadFont (family style : String) : Discreet data (Host.loadFont family style) := by
  refine .bind (.enter (by decide)) fun _ => .view (fun _ _ _ => rfl) fun d => ?_
  dsimp only
  split
  · exact .bind (.throw _) fun _ => .edit (apart_addFont _ _)
  · exact .edit (apart_addFont _ _)

theorem group (ids : List LayerId) (p : Node) : Discreet data (Host.group ids p) := by
  have hmake : Discreet data (do
      let g ← createKind .group
      if !(← Host.view).isContainer p then MonadExcept.throw .notContainer
      Host.edit (·.gather g ids p)
      return g) := by
    have hgather (g : LayerId) : Discreet data (do
        Host.edit (·.gather g ids p)
        return g) := .bind (.edit (apart_gather g ids p)) fun _ => .pure _
    refine .bind (.create _) fun g => .view (fun _ _ _ => ?_) fun d => ?_
    · cases p <;> rfl
    split
    · exact .bind (.throw _) fun _ => hgather g
    · exact hgather g
  refine .bind (.enter (by decide)) fun _ => ?_
  dsimp only
  split
  · exact .bind (.throw _) fun _ => hmake
  · exact hmake

theorem ungroup (id : LayerId) : Discreet data (Host.ungroup id) := by
  refine .bind (.enter (by decide)) fun _ => .view (fun _ _ _ => rfl) fun d => ?_
  split
  · exact .pure _
  · dsimp only
    split <;> [refine .bind (.throw _) fun _ => ?_; skip]
    all_goals
      split
      · exact .pure _
      · exact .bind (.edit (apart_dissolve _ _)) fun _ => .pure _

theorem findAll : Discreet data Host.findAll :=
  .bind (.enter (by decide)) fun _ => .view (fun _ _ _ => by rw [all_aside]) fun _ => .pure _

theorem byId (v : Json) : Discreet data (Lookup.byId v) := by
  unfold Lookup.byId
  split
  · exact .pure _
  · exact .bind .findAll fun _ => .pure _

theorem byName (v : Json) : Discreet data (Lookup.byName v) := by
  unfold Lookup.byName
  split
  · exact .pure _
  · exact .bind .findAll fun _ => .view (fun _ _ _ => rfl) fun _ => .pure _

theorem parent (v : Json) : Discreet data (Lookup.parent v) := by
  refine .bind (byId v) fun found => ?_
  split
  · exact .pure _
  · refine .bind (byName v) fun ids => ?_
    split <;> exact .pure _

theorem target (v : Json) : Discreet data (Lookup.target v) := by
  refine .bind (byId v) fun found => ?_
  split
  · exact .pure _
  · exact .bind (byName v) fun _ => .pure _

end Discreet
end Host

namespace Execution

open Document

variable {α β : Type} {data : List (String × String)}

/-- Two runs of a handler on hosts that go with each other, with the same events so far. -/
structure Twins (data : List (String × String)) (r s : Run) : Prop where
  host : Host.Twins data r.host s.host
  events : s.events = r.events

def Discreet (data : List (String × String)) (m : Handler α) : Prop := Parallel (Twins data) m

namespace Discreet

variable {t : Task}

theorem pure (a : α) : Discreet data (Pure.pure a : Handler α) := Parallel.pure a

theorem bind {m : Handler α} {k : α → Handler β} (hm : Discreet data m) (hk : ∀ a, Discreet data (k a)) :
    Discreet data (m >>= k) :=
  Parallel.bind hm hk

theorem forM {f : α → Handler PUnit} (h : ∀ a, Discreet data (f a)) (l : List α) : Discreet data (l.forM f) :=
  Parallel.forM h l

theorem mapM {f : α → Handler β} (h : ∀ a, Discreet data (f a)) (l : List α) : Discreet data (l.mapM f) :=
  Parallel.mapM h l

theorem emit (e : Event) : Discreet data (Handler.emit e) :=
  fun _ _ h => ⟨rfl, h.host, congrArg (· ++ [e]) h.events⟩

theorem refuse (e : Event) : Discreet data (Handler.refuse e : Handler α) := Parallel.throw _

theorem attempt {m : HostM α} (hm : Host.Discreet data m) : Discreet data (Handler.attempt m) := by
  intro r s hrs
  obtain ⟨ha, h'⟩ := hm r.host s.host hrs.host
  rw [Handler.attempt_run, Handler.attempt_run, ha]
  exact ⟨rfl, h', hrs.events⟩

theorem call {m : HostM α} (hm : Host.Discreet data m) : Discreet data (liftM m : Handler α) := by
  intro r s hrs
  obtain ⟨ha, h'⟩ := hm r.host s.host hrs.host
  rw [Handler.call_run, Handler.call_run, ha]
  exact ⟨rfl, h', hrs.events⟩

theorem view {k : Document → Handler β} (hk : ∀ d notes data, k (d.aside notes data) = k d) (h : ∀ d, Discreet data (k d)) :
    Discreet data (liftM Host.view >>= k) := by
  intro r s hrs
  obtain ⟨notes, hn⟩ := hrs.host.document
  show ((k s.host.document).run s).1 = ((k r.host.document).run r).1 ∧
    Twins data ((k r.host.document).run r).2 ((k s.host.document).run s).2
  rw [hn, hk]
  exact h r.host.document r s hrs

theorem edit {f : Document → Document} (hf : Apart f) : Discreet data (liftM (Host.edit f)) := call (.edit hf)

theorem adjust (id : LayerId) (f : Look → Look) : Discreet data (adjust id f) := edit (apart_update id _)

/-! ### Targets -/

theorem lookOf (id : LayerId) : Discreet data (lookOf id) := .view (fun _ _ _ => rfl) fun _ => .pure _

theorem ifAlive {id : LayerId} {act : Handler Unit} (h : Discreet data act) : Discreet data (ifAlive id act) := by
  refine .view (fun _ _ _ => rfl) fun d => ?_
  split
  · exact .emit _
  · exact h

theorem requireTarget : Discreet data (requireTarget t) := by
  unfold Execution.requireTarget
  split
  · exact .refuse _
  · refine .bind (.call (.target _)) fun found => ?_
    split
    · exact .refuse _
    · exact .pure _

theorem requireTrait (trait : Look → Bool) (id : LayerId) : Discreet data (requireTrait t trait id) := by
  refine .bind (lookOf id) fun look => ?_
  split
  · exact .pure _
  · exact .refuse _

theorem subjects (trait : Look → Bool) : Discreet data (subjects t trait) := by
  unfold Execution.subjects
  split
  · exact .bind requireTarget fun id => .bind (requireTrait trait id) fun _ => .pure _
  · refine .bind (.call .getSelection) fun selection => ?_
    split
    · exact .bind (.emit _) fun _ => .pure _
    · refine .view (fun _ _ _ => rfl) fun d => ?_
      dsimp only
      split
      · exact .bind (.emit _) fun _ => .pure _
      · exact .pure _

theorem focus (ids : List LayerId) : Discreet data (focus ids) := .bind (.call (.setSelection _)) fun _ => .call (.zoomTo _)

theorem color : Discreet data t.color := by
  unfold Task.color
  dsimp only
  split
  · exact .pure _
  · exact .bind (.emit _) fun _ => .pure _

/-! ### New layers -/

theorem applyName (id : LayerId) : Discreet data (applyName t id) := by
  unfold Execution.applyName
  split
  · exact .pure _
  · exact adjust id _

theorem applyFill (id : LayerId) : Discreet data (applyFill t id) := by
  refine .bind (lookOf id) fun look => ?_
  split
  · exact .bind color fun c => adjust id _
  · exact .pure _

theorem applyCorner (id : LayerId) : Discreet data (applyCorner t id) := by
  unfold Execution.applyCorner
  split
  · exact .pure _
  · exact adjust id _

theorem place (id : LayerId) : Discreet data (place t id) := adjust id _

theorem attachOne (parent copy : LayerId) : Discreet data (attachOne parent copy) := by
  refine .view (fun _ _ _ => rfl) fun d => ?_
  split
  · exact edit (apart_append _ _)
  · exact .bind (edit (apart_append _ _)) fun _ => .emit _

theorem attach (id : LayerId) : Discreet data (attach t id) := by
  have hroot : Discreet data (liftM (Host.edit (·.append .page id)) : Handler Unit) := edit (apart_append _ _)
  refine .bind (.call (.enter (by decide))) fun _ => ?_
  split
  · exact .bind hroot fun _ => .pure _
  · refine .bind (.call (.parent _)) fun found => ?_
    split
    · exact .bind hroot fun _ => .bind (.emit _) fun _ => .pure _
    · refine .bind (.mapM (fun _ => .call (.clone id)) _) fun twins => ?_
      refine .bind (.forM (fun (p, copy) => attachOne p copy) _) fun _ => ?_
      dsimp only
      split
      · exact .bind (.emit _) fun _ => .pure _
      · exact .pure _

theorem finish (id : LayerId) : Discreet data (finish t id) := by
  refine .bind (attach id) fun created => ?_
  split
  · exact focus created
  · exact .pure _

theorem createBox (k : Kind) (side : Number) : Discreet data (createBox t k side) :=
  .bind (.call (.create _)) fun id => .bind (place id) fun _ => .bind (adjust id _) fun _ =>
    .bind (applyFill id) fun _ => .bind (applyCorner id) fun _ => .bind (applyName id) fun _ => finish id

theorem createCircle : Discreet data (createCircle t) :=
  .bind (.call (.create _)) fun id => .bind (place id) fun _ => .bind (adjust id _) fun _ =>
    .bind (applyFill id) fun _ => .bind (applyName id) fun _ => finish id

theorem createLine : Discreet data (createLine t) := by
  refine .bind (.call (.create _)) fun id => .bind (place id) fun _ => .bind (adjust id _) fun _ => ?_
  have hrest : Discreet data (do Execution.applyName t id; Execution.finish t id) := .bind (applyName id) fun _ => finish id
  dsimp only
  split
  · exact .bind color fun c => .bind (adjust id _) fun _ => hrest
  · split
    · exact .bind (adjust id _) fun _ => hrest
    · exact hrest

theorem createText : Discreet data (createText t) := by
  refine .bind (.call (.create _)) fun id => .bind (place id) fun _ => ?_
  refine .bind (.attempt (.loadFont _ _)) fun loaded => ?_
  have hnamed : Discreet data (do
      Execution.applyFill t id
      Execution.applyName t id
      if loaded.isOk then
        Execution.adjust id fun l => { l with caption := l.caption.map ({ · with autoResize := fittingText }) }
      Execution.finish t id) := by
    refine .bind (applyFill id) fun _ => .bind (applyName id) fun _ => ?_
    dsimp only
    split
    · exact .bind (adjust id _) fun _ => finish id
    · exact finish id
  dsimp only
  split <;> [skip; refine .bind (.emit _) fun _ => ?_]
  all_goals
    refine .bind (adjust id _) fun _ => ?_
    split
    · exact .bind (adjust id _) fun _ => hnamed
    · exact hnamed

/-! ### Selecting -/

theorem selectByName (name : Json) : Discreet data (selectByName name) := by
  refine .bind (.call (.byName name)) fun ids => ?_
  split
  · exact .emit _
  · refine .bind (focus _) fun _ => ?_
    split
    · exact .emit _
    · exact .pure _

theorem select : Discreet data (select t) := by
  refine .bind (.call (.byId _)) fun found => ?_
  split
  · exact focus _
  · exact selectByName _

theorem selectLast : Discreet data selectLast := by
  refine .bind (.call (.getData _)) fun text => .bind (.call (.byId _)) fun found => ?_
  split
  · exact .emit _
  · exact focus _

theorem containerOf (id : LayerId) : Discreet data (containerOf id) := by
  refine .view (fun _ _ _ => rfl) fun d => ?_
  split
  · exact .pure _
  · exact .bind (.call (.enter (by decide))) fun _ => .pure _

theorem deleteSelection : Discreet data deleteSelection :=
  .bind (.call .getSelection) fun ids => .forM (fun id => edit (apart_removeLive id)) ids

theorem groupSelection : Discreet data (groupSelection t) := by
  refine .bind (.call .getSelection) fun ids => ?_
  split
  · exact .bind (containerOf _) fun p => .bind (.call (.group _ p)) fun g => applyName g
  · exact .emit _

theorem ungroupSelection : Discreet data ungroupSelection := by
  refine .bind (.call .getSelection) fun ids => .forM (fun id => .bind (lookOf id) fun look => ?_) ids
  split
  · exact ifAlive (.bind (.call (.ungroup id)) fun _ => .pure _)
  · exact .pure _

theorem zoomToSelection : Discreet data (zoomToSelection t) := by
  refine .bind (.call .getSelection) fun ids => ?_
  split
  · exact .emit _
  · exact .call (.zoomTo _)

end Discreet

theorem handle_discreet {op : Op} (hop : op ≠ .findByName) (t : Task) : Discreet data (handle op t) := by
  cases op with
  | createRectangle | createEllipse | createPolygon | createStar | createFrame => exact .createBox _ _
  | createCircle => exact .createCircle
  | createLine => exact .createLine
  | createText => exact .createText
  | setFill =>
    refine .bind (.subjects _) fun ids => ?_
    split
    · exact .bind .color fun c => .forM (fun id => .ifAlive (.adjust id _)) ids
    · exact .pure _
  | setStroke =>
    refine .bind (.subjects _) fun ids => ?_
    split
    · exact .bind .color fun c => .forM (fun id => .ifAlive (.adjust id _)) ids
    · exact .pure _
  | setOpacity => exact .bind (.subjects _) fun ids => .forM (fun id => .ifAlive (.adjust id _)) ids
  | move | rotate => exact .bind .requireTarget fun id => .ifAlive (.adjust id _)
  | resize => exact .bind .requireTarget fun id => .bind (.requireTrait _ id) fun id => .ifAlive (.adjust id _)
  | select => exact .select
  | selectAll => exact .bind (.call (.enter (by decide))) fun _ => .view (fun _ _ _ => rfl) fun _ => .call (.setSelection _)
  | deselect => exact .call (.setSelection _)
  | findByName => exact absurd rfl hop
  | selectLast => exact .selectLast
  | bringToFront =>
    exact .bind .requireTarget fun id => .ifAlive (.bind (.containerOf id) fun p => .edit (apart_append p id))
  | sendToBack =>
    exact .bind .requireTarget fun id => .ifAlive (.bind (.containerOf id) fun p => .edit (apart_insert p 0 id))
  | delete => exact .bind .requireTarget fun id => .ifAlive (.edit (apart_remove id))
  | deleteSelection => exact .deleteSelection
  | group => exact .groupSelection
  | ungroup => exact .ungroupSelection
  | zoomToFit => exact .bind (.call (.enter (by decide))) fun _ => .view (fun _ _ _ => rfl) fun _ => .call (.zoomTo _)
  | zoomToSelection => exact .zoomToSelection

end Execution
end Easel
