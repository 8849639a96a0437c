import Easel.Proofs.Color
import Easel.Proofs.Execution.Consistency

/-!
What layers can look like. A handler makes new layers as they are by default, copies layers, and changes their looks in a few
ways; what holds of new layers and is kept by these changes holds of every layer.
-/

namespace Easel

variable {α β : Type} {V : Look → Prop}

namespace Document

variable {d d' : Document}

def Drawn (V : Look → Prop) (d : Document) : Prop := ∀ l ∈ d.looks, V l

theorem Drawn.of_looks (h : d.Drawn V) (hl : d'.looks = d.looks) : d'.Drawn V := by
  rw [Drawn, hl]
  exact h

theorem Drawn.create {look : Look} (h : d.Drawn V) (hl : V look) : (d.create look).2.Drawn V := by
  intro l hm
  rw [looks_create] at hm
  rcases List.mem_append.1 hm with hm | hm
  · exact h l hm
  · rw [List.mem_singleton.1 hm]
    exact hl

theorem Drawn.updateLook {id : LayerId} {f : Look → Look} (h : d.Drawn V) (hf : ∀ l, V l → V (f l)) :
    (d.updateLook id f).Drawn V := by
  intro l hm
  rw [looks_updateLook] at hm
  obtain ⟨i, hi⟩ := List.mem_iff_getElem?.1 hm
  rw [List.getElem?_modify] at hi
  cases hl : d.looks[i]? with
  | none => rw [hl] at hi; cases hi
  | some l' =>
    have hV : V l' := h l' (List.mem_of_getElem? hl)
    rw [hl] at hi
    by_cases he : id = i
    · obtain rfl : f l' = l := by simpa [he] using hi
      exact hf l' hV
    · obtain rfl : l' = l := by simpa [he] using hi
      exact hV

end Document

namespace Host

/-- All layers look as `V` says, before and after. -/
abbrev Draws (V : Look → Prop) (m : HostM α) : Prop := Turns (Document.Drawn V) (Document.Drawn V) m fun _ => Document.Drawn V

namespace Draws

theorem bind {m : HostM α} {k : α → HostM β} (hm : Draws V m) (hk : ∀ a, Draws V (k a)) : Draws V (m >>= k) :=
  Turns.bind hm hk

/-- What follows may copy the look of a layer it has seen. -/
theorem view {k : Document → HostM β} (hk : ∀ d, d.Drawn V → Draws V (k d)) : Draws V (Host.view >>= k) :=
  fun h hd => hk h.document hd h hd

theorem edit {f : Document → Document} (hf : ∀ d, (f d).looks = d.looks) : Draws V (Host.edit f) :=
  Turns.edit fun d h => h.of_looks (hf d)

theorem enter (call : HostCall) : Draws V (Host.enter call) := Turns.enter fun _ h => h

theorem create {look : Look} (hl : V look) : Draws V (Host.create look) := Turns.create (fun _ h => h) fun _ h => h.create hl

theorem forM {f : α → HostM PUnit} (h : ∀ a, Draws V (f a)) : ∀ l : List α, Draws V (l.forM f)
  | [] => .pure fun _ h => h
  | a :: l => .bind (h a) fun _ => forM h l

theorem cloneTo : ∀ depth id, Draws V (Host.cloneTo depth id)
  | 0, id => .pure fun _ h => h
  | depth + 1, id => by
    rw [Host.cloneTo]
    refine .view fun d hd => ?_
    split
    · exact .pure fun _ h => h
    · rename_i l hl
      have hlook : V l.look := hd l.look (List.mem_map_of_mem (List.mem_of_getElem? hl))
      refine .bind (.create hlook) fun twin => .bind (.forM (fun child => ?_) _) fun _ => .pure fun _ h => h
      exact .bind (cloneTo depth child) fun copy => .edit fun _ => Document.looks_attach

theorem clone (id : LayerId) : Draws V (Host.clone id) := .view fun d _ => cloneTo d.layers.length id

theorem getSelection : Draws V Host.getSelection := Turns.getSelection (fun _ h => h) fun _ _ h _ => h

theorem setSelection (nodes : List Node) : Draws V (Host.setSelection nodes) := .bind (.enter _) fun _ => .edit fun _ => rfl

theorem zoomTo (nodes : List Node) : Draws V (Host.zoomTo nodes) := .bind (.enter _) fun _ => .edit fun _ => rfl

theorem notify (message : String) : Draws V (Host.notify message) := .bind (.enter _) fun _ => .edit fun _ => rfl

theorem getData (key : String) : Draws V (Host.getData key) := Turns.getData fun _ h => h

theorem setData (key value : String) : Draws V (Host.setData key value) := .bind (.enter _) fun _ => .edit fun _ => rfl

theorem loadFont (family style : String) : Draws V (Host.loadFont family style) := by
  have hadd : Draws V (Host.edit (·.addFont family style)) := by
    refine .edit fun d => ?_
    unfold Document.addFont
    split <;> rfl
  refine .bind (.enter _) fun _ => .view fun d _ => ?_
  dsimp only
  split
  · exact .bind (.throw fun _ h => h) fun _ => hadd
  · exact hadd

theorem group (hg : V (Look.initial .group)) (ids : List LayerId) (p : Node) : Draws V (Host.group ids p) := by
  have hmake : Draws V (do
      let g ← createKind .group
      if !(← Host.view).isContainer p then MonadExcept.throw .notContainer
      Host.edit (·.gather g ids p)
      return g) := by
    have hgather (g : LayerId) : Draws V (do
        Host.edit (·.gather g ids p)
        return g) := .bind (.edit fun _ => Document.looks_gather) fun _ => .pure fun _ h => h
    refine .bind (.create hg) fun g => .view fun d _ => ?_
    split
    · exact .bind (.throw fun _ h => h) fun _ => hgather g
    · exact hgather g
  refine .bind (.enter _) fun _ => ?_
  dsimp only
  split
  · exact .bind (.throw fun _ h => h) fun _ => hmake
  · exact hmake

theorem ungroup (id : LayerId) : Draws V (Host.ungroup id) := by
  refine .bind (.enter _) fun _ => .view fun d _ => ?_
  split
  · exact .pure fun _ h => h
  · dsimp only
    split <;> [refine .bind (.throw fun _ h => h) fun _ => ?_; skip]
    all_goals
      split
      · exact .pure fun _ h => h
      · exact .bind (.edit fun _ => Document.looks_dissolve) fun _ => .pure fun _ h => h

theorem byId (v : Json) : Draws V (Lookup.byId v) := (Turns.byId fun _ h => h).mono (fun _ h => h) fun _ _ h => h.1

theorem byName (v : Json) : Draws V (Lookup.byName v) := (Turns.byName fun _ h => h).mono (fun _ h => h) fun _ _ h => h.1

theorem target (v : Json) : Draws V (Lookup.target v) := (Turns.target fun _ h => h).mono (fun _ h => h) fun _ _ h => h.1

theorem parent (v : Json) : Draws V (Lookup.parent v) := (Turns.parent fun _ h => h).mono (fun _ h => h) fun _ _ h => h.1

end Draws

end Host

namespace Execution

/-- The operation declares where a new layer is put. -/
def Placing (op : Op) : Prop := Op.xField ∈ op.spec.fields ∧ Op.yField ∈ op.spec.fields

/-- The operation makes a layer of a given width and height. -/
def Boxing (op : Op) : Prop := Op.boxFields ⊆ op.spec.fields ∧ op.spec.nonNegative = Op.boxSides

/-- How a handler changes the look of a layer. Where a layer is put, and what its sides and its opacity become, depends on the
operation. -/
inductive Change (t : Task) : Op → (Look → Look) → Prop
  | rename (op : Op) (name : String) : Change t op (·.rename name)
  | place (op : Op) : Placing op → Change t op (·.moveTo (t.number "x" defaultX) (t.number "y" defaultY))
  | moveTo : Change t .move (·.moveTo (t.number? "x") (t.number? "y"))
  | turn (op : Op) (rotation : Option Number) : Change t op (·.turn rotation)
  | fill (op : Op) (c : Rgb) : c.Readable → Change t op (·.fill c)
  | outline (op : Op) (c : Rgb) (weight : Option Number) : c.Readable → Change t op (·.outline c weight)
  | weight (op : Op) (w : Number) : Change t op (·.setStrokeWeight w)
  | corner (op : Op) (r : Number) : Change t op fun l => { l with cornerRadius := l.cornerRadius.map fun _ => r }
  | caption (op : Op) (g : Caption → Caption) : Change t op fun l => { l with caption := l.caption.map g }
  | fade : Change t .setOpacity (·.fade (t.number? "opacity"))
  | box (op : Op) (side : Number) : Boxing op → side = defaultSide ∨ side = defaultFrameSide →
    Change t op (·.resize (t.number "width" side) (t.number "height" side))
  | circle : Change t .createCircle (·.resize (t.number "radius" defaultRadius * 2) (t.number "radius" defaultRadius * 2))
  | line : Change t .createLine (·.resize (t.number "width" defaultSide) 0)
  | resizeTo : Change t .resize (·.resizeTo (t.number? "width") (t.number? "height"))

/-- `V` holds of new layers and is kept by what the operation changes. -/
structure Suits (t : Task) (op : Op) (V : Look → Prop) : Prop where
  initial : ∀ k, V (Look.initial k)
  change : ∀ f, Change t op f → ∀ l, V l → V (f l)

def Draws (V : Look → Prop) (m : Handler α) : Prop :=
  Leads (fun r => r.host.document.Drawn V) m (fun _ r => r.host.document.Drawn V) fun _ r => r.host.document.Drawn V

namespace Draws

variable {t : Task} {op : Op} {id : LayerId}

theorem pure (a : α) : Draws V (Pure.pure a : Handler α) := Leads.pure fun _ h => h

theorem bind {m : Handler α} {k : α → Handler β} (hm : Draws V m) (hk : ∀ a, Draws V (k a)) : Draws V (m >>= k) :=
  Leads.bind hm hk

theorem forM {f : α → Handler PUnit} (h : ∀ a, Draws V (f a)) (l : List α) : Draws V (l.forM f) :=
  Leads.forM (fun _ (r : Run) => r.host.document.Drawn V) l fun a _ => h a

theorem mapM {f : α → Handler β} (h : ∀ a, Draws V (f a)) (l : List α) : Draws V (l.mapM f) :=
  (Leads.mapM (fun _ (r : Run) => r.host.document.Drawn V) (fun _ a => h a) l).mono (fun _ h => h) (fun _ _ h => h.1)
    fun _ _ h => h

theorem emit (e : Event) : Draws V (Handler.emit e) := fun _ h => h

theorem refuse (e : Event) : Draws V (Handler.refuse e : Handler α) := Leads.throw fun _ h => h

theorem call {m : HostM α} (hm : Host.Draws V m) : Draws V (liftM m : Handler α) := by
  intro r hr
  have h := hm r.host hr
  rw [Handler.call_run]
  rcases hm : m.run r.host with ⟨e | a, host⟩ <;> rw [hm] at h <;> exact h

theorem attempt {m : HostM α} (hm : Host.Draws V m) : Draws V (Handler.attempt m) := by
  intro r hr
  have h := hm r.host hr
  rw [Handler.attempt_run]
  rcases hm : m.run r.host with ⟨e | a, host⟩ <;> rw [hm] at h <;> exact h

theorem view : Draws V (liftM Host.view) := call fun _ h => h

theorem edit {f : Document → Document} (hf : ∀ d, (f d).looks = d.looks) : Draws V (liftM (Host.edit f)) := call (.edit hf)

theorem adjust {f : Look → Look} (hV : Suits t op V) (hf : Change t op f) (id : LayerId) : Draws V (adjust id f) :=
  call (Host.Turns.edit fun _ h => h.updateLook (hV.change f hf))

/-! ### Targets -/

theorem lookOf (id : LayerId) : Draws V (lookOf id) := .bind view fun _ => .pure _

theorem ifAlive {act : Handler Unit} (h : Draws V act) : Draws V (ifAlive id act) := by
  refine .bind view fun d => ?_
  split
  · exact .emit _
  · exact h

theorem requireTarget : Draws V (requireTarget t) := by
  unfold Execution.requireTarget
  split
  · exact .refuse _
  · refine .bind (.call (.target _)) fun found => ?_
    split
    · exact .refuse _
    · exact .pure _

theorem requireTrait (trait : Look → Bool) (id : LayerId) : Draws V (requireTrait t trait id) := by
  refine .bind (lookOf id) fun look => ?_
  split
  · exact .pure _
  · exact .refuse _

theorem subjects (trait : Look → Bool) : Draws V (subjects t trait) := by
  unfold Execution.subjects
  split
  · exact .bind requireTarget fun id => .bind (requireTrait trait id) fun _ => .pure _
  · refine .bind (.call .getSelection) fun selection => ?_
    split
    · exact .bind (.emit _) fun _ => .pure _
    · refine .bind view fun d => ?_
      dsimp only
      split
      · exact .bind (.emit _) fun _ => .pure _
      · exact .pure _

theorem focus (ids : List LayerId) : Draws V (focus ids) := .bind (.call (.setSelection _)) fun _ => .call (.zoomTo _)

theorem paint {k : Rgb → Handler α} (hk : ∀ c, c.Readable → Draws V (k c)) : Draws V (t.color >>= k) := by
  unfold Task.color
  dsimp only
  split
  · rename_i c hc
    rw [pure_bind]
    exact hk c (.inr ⟨_, hc⟩)
  · rw [bind_assoc]
    refine .bind (.emit _) fun _ => ?_
    rw [pure_bind]
    exact hk _ (.inl rfl)

/-! ### New layers -/

section Create

variable (hV : Suits t op V)

include hV

theorem applyName (id : LayerId) : Draws V (applyName t id) := by
  unfold Execution.applyName
  split
  · exact .pure _
  · exact adjust hV (.rename _ _) id

theorem applyFill (id : LayerId) : Draws V (applyFill t id) := by
  refine .bind (lookOf id) fun look => ?_
  split
  · exact .paint fun c hc => adjust hV (.fill _ c hc) id
  · exact .pure _

theorem applyCorner (id : LayerId) : Draws V (applyCorner t id) := by
  unfold Execution.applyCorner
  split
  · exact .pure _
  · exact adjust hV (.corner _ _) id

theorem place (hp : Placing op) (id : LayerId) : Draws V (place t id) := adjust hV (.place _ hp) id

omit hV

theorem attachOne (parent copy : LayerId) : Draws V (attachOne parent copy) := by
  refine .bind view fun d => ?_
  split
  · exact edit fun _ => Document.looks_attach
  · exact .bind (edit fun _ => Document.looks_attach) fun _ => .emit _

theorem attach (id : LayerId) : Draws V (attach t id) := by
  have hroot : Draws V (liftM (Host.edit (·.append .page id)) : Handler Unit) := edit fun _ => Document.looks_attach
  refine .bind (.call (.enter _)) fun _ => ?_
  split
  · exact .bind hroot fun _ => .pure _
  · refine .bind (.call (.parent _)) fun found => ?_
    split
    · exact .bind hroot fun _ => .bind (.emit _) fun _ => .pure _
    · refine .bind (.mapM (fun _ => .call (.clone id)) _) fun twins => ?_
      refine .bind (.forM (fun (p, copy) => attachOne p copy) _) fun _ => ?_
      dsimp only
      split
      · exact .bind (.emit _) fun _ => .pure _
      · exact .pure _

theorem finish (id : LayerId) : Draws V (finish t id) := by
  refine .bind (attach id) fun created => ?_
  split
  · exact focus created
  · exact .pure _

include hV

theorem createBox (k : Kind) {side : Number} (hop : Boxing op) (hs : side = defaultSide ∨ side = defaultFrameSide) :
    Draws V (createBox t k side) := by
  have hp : Placing op := ⟨hop.1 (by simp [Op.boxFields]), hop.1 (by simp [Op.boxFields])⟩
  exact .bind (.call (.create (hV.initial k))) fun id => .bind (place hV hp id) fun _ =>
    .bind (adjust hV (.box op side hop hs) id) fun _ => .bind (applyFill hV id) fun _ => .bind (applyCorner hV id) fun _ =>
      .bind (applyName hV id) fun _ => finish id

omit hV

theorem createCircle (hV : Suits t .createCircle V) : Draws V (createCircle t) := by
  have hp : Placing .createCircle := by simp [Placing, Op.spec]
  exact .bind (.call (.create (hV.initial _))) fun id => .bind (place hV hp id) fun _ => .bind (adjust hV .circle id) fun _ =>
    .bind (applyFill hV id) fun _ => .bind (applyName hV id) fun _ => finish id

theorem createLine (hV : Suits t .createLine V) : Draws V (createLine t) := by
  have hp : Placing .createLine := by simp [Placing, Op.spec]
  refine .bind (.call (.create (hV.initial _))) fun id => .bind (place hV hp id) fun _ => .bind (adjust hV .line id) fun _ => ?_
  have hrest : Draws V (do Execution.applyName t id; Execution.finish t id) := .bind (applyName hV id) fun _ => finish id
  dsimp only
  split
  · exact .paint fun c hc => .bind (adjust hV (.outline _ c _ hc) id) fun _ => hrest
  · split
    · exact .bind (adjust hV (.weight _ _) id) fun _ => hrest
    · exact hrest

theorem createText (hV : Suits t .createText V) : Draws V (createText t) := by
  have hp : Placing .createText := by simp [Placing, Op.spec]
  refine .bind (.call (.create (hV.initial _))) fun id => .bind (place hV hp id) fun _ => ?_
  refine .bind (.attempt (.loadFont _ _)) fun loaded => ?_
  have hcaption (g : Caption → Caption) : Draws V (Execution.adjust id fun l => { l with caption := l.caption.map g }) :=
    adjust hV (.caption _ g) id
  have hnamed : Draws V (do
      Execution.applyFill t id
      Execution.applyName t id
      if loaded.isOk then
        Execution.adjust id fun l => { l with caption := l.caption.map ({ · with autoResize := fittingText }) }
      Execution.finish t id) := by
    refine .bind (applyFill hV id) fun _ => .bind (applyName hV id) fun _ => ?_
    dsimp only
    split
    · exact .bind (hcaption _) fun _ => finish id
    · exact finish id
  dsimp only
  split <;> [skip; refine .bind (.emit _) fun _ => ?_]
  all_goals
    refine .bind (hcaption _) fun _ => ?_
    split
    · exact .bind (hcaption _) fun _ => hnamed
    · exact hnamed

end Create

/-! ### Selecting -/

theorem selectByName (name : Json) : Draws V (selectByName name) := by
  refine .bind (.call (.byName name)) fun ids => ?_
  split
  · exact .emit _
  · refine .bind (focus _) fun _ => ?_
    split
    · exact .emit _
    · exact .pure _

theorem select : Draws V (select t) := by
  refine .bind (.call (.byId _)) fun found => ?_
  split
  · exact focus _
  · exact selectByName _

theorem findByName : Draws V (findByName t) := by
  refine .bind (.call (.byName _)) fun ids => ?_
  split
  · exact .emit _
  · exact .bind (focus _) fun _ => .bind (.call (.setData _ _)) fun _ => .bind view fun d => .call (.notify _)

theorem selectLast : Draws V selectLast := by
  refine .bind (.call (.getData _)) fun text => .bind (.call (.byId _)) fun found => ?_
  split
  · exact .emit _
  · exact focus _

theorem containerOf (id : LayerId) : Draws V (containerOf id) := by
  refine .bind view fun d => ?_
  split
  · exact .pure _
  · exact .bind (.call (.enter _)) fun _ => .pure _

theorem deleteSelection : Draws V deleteSelection := by
  refine .bind (.call .getSelection) fun ids => .forM (fun id => edit fun d => ?_) ids
  split
  · rfl
  · exact Document.looks_remove

theorem groupSelection (hV : Suits t op V) : Draws V (groupSelection t) := by
  refine .bind (.call .getSelection) fun ids => ?_
  split
  · exact .bind (containerOf _) fun p => .bind (.call (.group (hV.initial _) _ p)) fun g => applyName hV g
  · exact .emit _

theorem ungroupSelection : Draws V ungroupSelection := by
  refine .bind (.call .getSelection) fun ids => .forM (fun id => .bind (lookOf id) fun look => ?_) ids
  split
  · exact ifAlive (.bind (.call (.ungroup id)) fun _ => .pure _)
  · exact .pure _

theorem zoomToSelection : Draws V (zoomToSelection t) := by
  refine .bind (.call .getSelection) fun ids => ?_
  split
  · exact .emit _
  · exact .call (.zoomTo _)

end Draws

variable {t : Task} {op : Op}

theorem handle_draws (hV : Suits t op V) : Draws V (handle op t) := by
  cases op with
  | createRectangle | createEllipse | createPolygon | createStar =>
    exact .createBox hV _ ⟨List.subset_append_left .., rfl⟩ (.inl rfl)
  | createFrame => exact .createBox hV _ ⟨List.subset_append_left .., rfl⟩ (.inr rfl)
  | createCircle => exact .createCircle hV
  | createLine => exact .createLine hV
  | createText => exact .createText hV
  | setFill =>
    refine .bind (.subjects _) fun ids => ?_
    split
    · exact .paint fun c hc => .forM (fun id => .ifAlive (.adjust hV (.fill _ c hc) id)) ids
    · exact .pure _
  | setStroke =>
    refine .bind (.subjects _) fun ids => ?_
    split
    · exact .paint fun c hc => .forM (fun id => .ifAlive (.adjust hV (.outline _ c _ hc) id)) ids
    · exact .pure _
  | setOpacity => exact .bind (.subjects _) fun ids => .forM (fun id => .ifAlive (.adjust hV .fade id)) ids
  | move => exact .bind .requireTarget fun id => .ifAlive (.adjust hV .moveTo id)
  | resize => exact .bind .requireTarget fun id => .bind (.requireTrait _ id) fun id => .ifAlive (.adjust hV .resizeTo id)
  | rotate => exact .bind .requireTarget fun id => .ifAlive (.adjust hV (.turn _ _) id)
  | select => exact .select
  | selectAll => exact .bind (.call (.enter _)) fun _ => .bind .view fun _ => .call (.setSelection _)
  | deselect => exact .call (.setSelection _)
  | findByName => exact .findByName
  | selectLast => exact .selectLast
  | bringToFront | sendToBack =>
    exact .bind .requireTarget fun id => .ifAlive (.bind (.containerOf id) fun p => .edit fun _ => Document.looks_attach)
  | delete => exact .bind .requireTarget fun id => .ifAlive (.edit fun _ => Document.looks_remove)
  | deleteSelection => exact .deleteSelection
  | group => exact .groupSelection hV
  | ungroup => exact .ungroupSelection
  | zoomToFit => exact .bind (.call (.enter _)) fun _ => .bind .view fun _ => .call (.zoomTo _)
  | zoomToSelection => exact .zoomToSelection

/-! ### Runs -/

variable {options : ExecutionOptions} {a : Action} {h h' : Host} {fair : Document → Action → Prop}

theorem perform_drawn (hV : ∀ op, opOf? a = some op → Suits (taskOf options a) op V) (hd : h.document.Drawn V) :
    (perform options a h).2.2.document.Drawn V := by
  cases ha : opOf? a with
  | none =>
    rw [(perform_of_opOf? options h ha).1]
    exact hd
  | some op =>
    have hrun := handle_draws (hV op ha) ⟨h, []⟩ hd
    rw [perform_eq, apply_of_opOf? ha]
    dsimp only
    rcases hr : (handle op (taskOf options a)).run ⟨h, []⟩ with ⟨e | u, r⟩ <;> rw [hr] at hrun <;> exact hrun

theorem step_drawn (hV : ∀ op, opOf? a = some op → Suits (taskOf options a) op V) (report : Report) (hd : h.document.Drawn V) :
    ((step options report a).run h).2.document.Drawn V := by
  have hnotify : Host.Draws V ((((perform options a h).2.1.filter (·.isUserFacing)).forM fun e => Host.notify e.message) >>=
      fun _ => pure (record report (perform options a h).1 (perform options a h).2.1)) :=
    .bind (.forM (fun _ => .notify _) _) fun _ => .pure fun _ h => h
  have hrun := turns_run hnotify (fun _ _ h => h) (perform_drawn hV hd)
  exact hrun

theorem Blank.drawn (hb : Blank h) : h.document.Drawn V := by
  obtain ⟨pageName, fontsFail, hdoc⟩ := hb
  rw [hdoc]
  exact fun l hl => by cases hl

/-- Actions that are not carried out change no look, so only those that are have to suit. -/
theorem Reaches.drawn_of (hV : ∀ d options a op, fair d a → opOf? a = some op → Suits (taskOf options a) op V)
    (hr : Reaches fair h h') (hd : h.document.Drawn V) : h'.document.Drawn V := by
  induction hr with
  | refl => exact hd
  | tail _ hm ih =>
    cases hm with
    | act options report a _ hfair => exact step_drawn (fun op => hV _ options a op hfair) report ih
    | notify message => exact turns_run (Host.Draws.notify message) (fun _ _ h => h) ih

theorem Reaches.drawn (hV : ∀ options a op, opOf? a = some op → Suits (taskOf options a) op V) (hr : Reaches fair h h')
    (hd : h.document.Drawn V) : h'.document.Drawn V :=
  hr.drawn_of (fun _ options a op _ => hV options a op) hd

end Execution

end Easel
