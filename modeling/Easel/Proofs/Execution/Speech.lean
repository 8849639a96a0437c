import Easel.Proofs.Execution.Turns

/-!
What is said while an action goes on, whatever calls fail. Nothing but finding a layer by name tells the user anything itself, and
of the remarks that count layers each comes from one kind of operation.
-/

namespace Easel

open Document

variable {α β : Type} {V : Event → Prop} {N : List String}

/-- What is looked for is the text that was given. -/
theorem Lookup.wanted?_str {v : Json} {ref : String} (h : Lookup.wanted? v = some ref) : Lookup.wanted? (.str ref) = some ref := by
  simpa [Lookup.wanted?, Json.string?] using (Option.filter_eq_some_iff.1 h).2

/-- The user was told `N`, and nothing else. -/
def Document.Told (N : List String) (d : Document) : Prop := d.notifications = N

theorem notifications_of_beside {d d' : Document} (h : d'.beside = d.beside) : d'.notifications = d.notifications := by
  have hnotes := congrArg (fun d₀ : Document => d₀.notifications) h
  exact hnotes

theorem Document.Told.congr {d d' : Document} (h : d.Told N) (hd : d'.notifications = d.notifications) : d'.Told N := hd.trans h

namespace Host

/-- The program tells the user nothing. -/
abbrev Mum (N : List String) (m : HostM α) : Prop := Turns (Told N) (Told N) m fun _ => Told N

namespace Mum

theorem pure (a : α) : Mum N (Pure.pure a : HostM α) := Turns.pure fun _ h => h

theorem throw (e : HostError) : Mum N (MonadExcept.throw e : HostM α) := Turns.throw fun _ h => h

theorem bind {m : HostM α} {k : α → HostM β} (hm : Mum N m) (hk : ∀ a, Mum N (k a)) : Mum N (m >>= k) := Turns.bind hm hk

theorem view : Mum N Host.view := Turns.view.mono (fun _ h => h) fun _ _ h => h.1

theorem edit {f : Document → Document} (hf : ∀ d, (f d).notifications = d.notifications) : Mum N (Host.edit f) :=
  Turns.edit fun d h => h.congr (hf d)

theorem enter (call : HostCall) : Mum N (Host.enter call) := Turns.enter fun _ h => h

theorem create (look : Look) : Mum N (Host.create look) := Turns.create (fun _ h => h) fun _ h => h

theorem forM {f : α → HostM PUnit} (h : ∀ a, Mum N (f a)) : ∀ l : List α, Mum N (l.forM f)
  | [] => .pure _
  | a :: l => .bind (h a) fun _ => forM h l

theorem cloneTo : ∀ depth id, Mum N (Host.cloneTo depth id)
  | 0, id => .pure id
  | depth + 1, id => by
    rw [Host.cloneTo]
    apply bind view
    intro d
    split
    · exact .pure _
    · apply bind (.create _)
      intro twin
      apply bind (.forM (fun child => ?_) _) fun _ => .pure _
      exact .bind (cloneTo depth child) fun copy => .edit fun _ => notifications_of_beside beside_attach

theorem clone (id : LayerId) : Mum N (Host.clone id) := .bind .view fun d => cloneTo d.layers.length id

theorem getSelection : Mum N Host.getSelection := Turns.getSelection (fun _ h => h) fun _ _ h _ => h

theorem setSelection (nodes : List Node) : Mum N (Host.setSelection nodes) := .bind (.enter _) fun _ => .edit fun _ => rfl

theorem zoomTo (nodes : List Node) : Mum N (Host.zoomTo nodes) := .bind (.enter _) fun _ => .edit fun _ => rfl

theorem getData (key : String) : Mum N (Host.getData key) := Turns.getData fun _ h => h

theorem group (ids : List LayerId) (p : Node) : Mum N (Host.group ids p) := by
  have hgather (g : LayerId) : Mum N (do
      Host.edit (·.gather g ids p)
      return g) := .bind (.edit fun _ => notifications_of_beside beside_gather) fun _ => .pure _
  have hmake : Mum N (do
      let g ← createKind .group
      if !(← Host.view).isContainer p then MonadExcept.throw .notContainer
      Host.edit (·.gather g ids p)
      return g) := by
    apply bind (.create _)
    intro g
    apply bind view
    intro d
    split
    · exact .bind (.throw _) fun _ => hgather g
    · exact hgather g
  apply bind (.enter _)
  intro _
  dsimp only
  split
  · exact .bind (.throw _) fun _ => hmake
  · exact hmake

theorem ungroup (id : LayerId) : Mum N (Host.ungroup id) := by
  apply bind (.enter _)
  intro _
  apply bind view
  intro d
  split
  · exact .pure _
  · rename_i l _
    have hrelease (p : Node) : Mum N (do
        Host.edit (·.dissolve id p)
        return l.children) := .bind (.edit fun _ => notifications_of_beside beside_dissolve) fun _ => .pure _
    cases l.parent with
    | none =>
      dsimp only
      split
      · exact .bind (.throw _) fun _ => .pure _
      · exact .pure _
    | some p =>
      dsimp only
      split
      · exact .bind (.throw _) fun _ => hrelease p
      · exact hrelease p

theorem byId (v : Json) : Mum N (Lookup.byId v) := (Turns.byId fun _ h => h).mono (fun _ h => h) fun _ _ h => h.1

theorem byName (v : Json) : Mum N (Lookup.byName v) := (Turns.byName fun _ h => h).mono (fun _ h => h) fun _ _ h => h.1

theorem parent (v : Json) : Mum N (Lookup.parent v) := (Turns.parent fun _ h => h).mono (fun _ h => h) fun _ _ h => h.1

end Mum

end Host

namespace Event

/-- Remarks that say how many layers there are. -/
def counts : Event → Prop
  | .severalParents .. | .severalMatches .. | .groupNeedsTwo _ => True
  | _ => False

end Event

/-- A font may be missing without harm. -/
theorem Host.loadFont_leads {P : Host → Prop} {family style : String} (hcall : ∀ h, P h → P { h with calls := h.calls + 1 })
    (hfont : ∀ h, P h → P { h with document := h.document.addFont family style }) :
    Leads P (Host.loadFont family style) (fun _ => P) fun _ => P := by
  have hadd : Leads P (Host.edit (·.addFont family style)) (fun _ => P) fun _ => P := fun h hp => hfont h hp
  have henter : Leads P (Host.enter .loadFont) (fun _ => P) fun _ => P := by
    intro h hp
    rw [Host.enter_run]
    cases h.faults h.calls .loadFont <;> exact hcall h hp
  have hview : Leads P Host.view (fun _ => P) fun _ => P := fun _ hp => hp
  apply henter.bind
  intro _
  apply hview.bind
  intro d
  dsimp only
  split
  · exact .bind (.throw fun _ hp => hp) fun _ => hadd
  · exact hadd

namespace Execution

variable {E P P' : Host → Prop} {Q Q' : α → Host → Prop} {R : β → Host → Prop}

/-- From hosts with `P`, where all that was said is `V`, the handler comes to `S`. If it ends early, it comes to a host with `E`, and
all that was said is still `V`. -/
def Speaks (V : Event → Prop) (E P : Host → Prop) (m : Handler α) (S : α → Run → Prop) : Prop :=
  Leads (fun r => P r.host ∧ ∀ e ∈ r.events, V e) m S fun _ r => E r.host ∧ ∀ e ∈ r.events, V e

/-- All that is said before and on the way is `V`, whether the handler comes from hosts with `P` to hosts with `Q` or, if it ends
early, to hosts with `E`. -/
def Says (V : Event → Prop) (E P : Host → Prop) (m : Handler α) (Q : α → Host → Prop) : Prop :=
  Speaks V E P m fun a r => Q a r.host ∧ ∀ e ∈ r.events, V e

theorem Speaks.bind {m : Handler α} {k : α → Handler β} {S : β → Run → Prop} (hm : Says V E P m Q)
    (hk : ∀ a, Speaks V E (Q a) (k a) S) : Speaks V E P (m >>= k) S :=
  Leads.bind hm hk

namespace Says

theorem pure {a : α} (h : ∀ h, P h → Q a h) : Says V E P (Pure.pure a) Q := by
  rintro r ⟨hp, hv⟩
  exact ⟨h _ hp, hv⟩

theorem bind {m : Handler α} {k : α → Handler β} (hm : Says V E P m Q) (hk : ∀ a, Says V E (Q a) (k a) R) :
    Says V E P (m >>= k) R :=
  Speaks.bind hm hk

theorem mono {m : Handler α} (hm : Says V E P' m Q') (hP : ∀ h, P h → P' h) (hQ : ∀ a h, Q' a h → Q a h) : Says V E P m Q :=
  Leads.mono hm (fun _ hp => ⟨hP _ hp.1, hp.2⟩) (fun _ _ hq => ⟨hQ _ _ hq.1, hq.2⟩) fun _ _ he => he

/-- A fact about the host at hand that does not speak of it later on. -/
theorem intro {m : Handler α} (h : ∀ h, P h → Says V E (fun h' => h' = h) m Q) : Says V E P m Q :=
  fun r hr => h r.host hr.1 r ⟨rfl, hr.2⟩

theorem forM {f : α → Handler PUnit} (h : ∀ a, Says V E P (f a) fun _ => P) : ∀ l : List α, Says V E P (l.forM f) fun _ => P
  | [] => .pure fun _ h => h
  | a :: l => .bind (h a) fun _ => forM h l

theorem mapM {f : α → Handler β} (h : ∀ a, Says V E P (f a) fun _ => P) : ∀ l : List α, Says V E P (l.mapM f) fun _ => P
  | [] => .pure fun _ h => h
  | a :: l => by
    rw [List.mapM_cons]
    exact .bind (h a) fun _ => .bind (mapM h l) fun _ => .pure fun _ h => h

theorem call {m : HostM α} (hm : Leads P m Q fun _ => E) : Says V E P (liftM m) Q := by
  rintro r ⟨hp, hv⟩
  have h := hm r.host hp
  rw [Handler.call_run]
  rcases hr : m.run r.host with ⟨e | a, host⟩ <;> rw [hr] at h <;> exact ⟨h, hv⟩

theorem attempt {m : HostM α} (hm : Leads P m (fun _ => P) fun _ => P) : Says V E P (Handler.attempt m) fun _ => P := by
  rintro r ⟨hp, hv⟩
  have h := hm r.host hp
  rw [Handler.attempt_run]
  rcases hr : m.run r.host with ⟨e | a, host⟩ <;> rw [hr] at h <;> exact ⟨h, hv⟩

theorem emit {e : Event} (he : V e) : Says V E P (Handler.emit e) fun _ => P := by
  rintro r ⟨hp, hv⟩
  apply And.intro hp
  intro e' he'
  rcases List.mem_append.1 he' with he' | he'
  · exact hv e' he'
  · rw [List.mem_singleton.1 he']
    exact he

theorem refuse {e : Event} (hE : ∀ h, P h → E h) : Says V E P (Handler.refuse e : Handler α) Q := by
  rintro r ⟨hp, hv⟩
  exact ⟨hE _ hp, hv⟩

theorem view : Says V E P (liftM Host.view) fun _ => P := .call fun _ hp => hp

theorem edit {f : Document → Document} (h : ∀ h, P h → P' { h with document := f h.document }) :
    Says V E P (liftM (Host.edit f)) fun _ => P' :=
  .call fun s hp => h s hp

theorem lookOf {id : LayerId} : Says V E P (lookOf id) fun _ => P := .bind view fun _ => .pure fun _ h => h

theorem color {t : Task} (hV : ∀ e : Event, ¬e.counts → V e) : Says V E P t.color fun _ => P := by
  unfold Task.color
  dsimp only
  split
  · exact .pure fun _ h => h
  · exact .bind (.emit (hV _ not_false)) fun _ => .pure fun _ h => h

end Says

/-! ### New layers -/

/-- What holds of a new layer and its host from when the layer is made until it is hung, whatever it is made to look like. -/
structure Drafts (E P₀ : Host → Prop) (P : LayerId → Host → Prop) : Prop where
  make : ∀ k, Leads P₀ (Host.createKind k) P fun _ => E
  look : ∀ id h f, P id h → P id { h with document := h.document.updateLook id f }
  call : ∀ id h, P id h → P id { h with calls := h.calls + 1 }
  font : ∀ id h family style, P id h → P id { h with document := h.document.addFont family style }

section Creators

variable {P₀ : Host → Prop} {P : LayerId → Host → Prop} {S : Unit → Run → Prop} {t : Task} {id : LayerId} {k : Kind} {side : Number}
  {op : Op}

namespace Drafts

variable (hP : Drafts E P₀ P)

include hP

theorem createKind (k : Kind) : Says V E P₀ (liftM (Host.createKind k)) P := .call (hP.make k)

theorem adjust (f : Look → Look) : Says V E (P id) (adjust id f) fun _ => P id := .edit fun h hp => hP.look id h f hp

theorem loadFont (family style : String) : Says V E (P id) (Handler.attempt (Host.loadFont family style)) fun _ => P id :=
  .attempt (Host.loadFont_leads (hP.call id) fun h hp => hP.font id h family style hp)

theorem applyName : Says V E (P id) (applyName t id) fun _ => P id := by
  unfold Execution.applyName
  split
  · exact .pure fun _ h => h
  · exact hP.adjust _

theorem applyFill (hV : ∀ e : Event, ¬e.counts → V e) : Says V E (P id) (applyFill t id) fun _ => P id := by
  apply Says.bind .lookOf
  intro look
  split
  · exact .bind (.color hV) fun c => hP.adjust _
  · exact .pure fun _ h => h

theorem applyCorner : Says V E (P id) (applyCorner t id) fun _ => P id := by
  unfold Execution.applyCorner
  split
  · exact .pure fun _ h => h
  · exact hP.adjust _

variable (hV : ∀ e : Event, ¬e.counts → V e) (hfinish : ∀ id, Speaks V E (P id) (finish t id) S)

include hV hfinish

theorem createBox : Speaks V E P₀ (createBox t k side) S :=
  .bind (hP.createKind _) fun id => .bind (hP.adjust _) fun _ => .bind (hP.adjust _) fun _ => .bind (hP.applyFill hV) fun _ =>
    .bind hP.applyCorner fun _ => .bind hP.applyName fun _ => hfinish id

theorem createCircle : Speaks V E P₀ (createCircle t) S :=
  .bind (hP.createKind _) fun id => .bind (hP.adjust _) fun _ => .bind (hP.adjust _) fun _ => .bind (hP.applyFill hV) fun _ =>
    .bind hP.applyName fun _ => hfinish id

theorem createLine : Speaks V E P₀ (createLine t) S := by
  apply Speaks.bind (hP.createKind _)
  intro id
  apply Speaks.bind (hP.adjust _)
  intro _
  apply Speaks.bind (hP.adjust _)
  intro _
  have hnamed : Speaks V E (P id) (do Execution.applyName t id; finish t id) S := .bind hP.applyName fun _ => hfinish id
  dsimp only
  split
  · exact .bind (.color hV) fun c => .bind (hP.adjust _) fun _ => hnamed
  · split
    · exact .bind (hP.adjust _) fun _ => hnamed
    · exact hnamed

theorem createText : Speaks V E P₀ (createText t) S := by
  apply Speaks.bind (hP.createKind _)
  intro id
  apply Speaks.bind (hP.adjust _)
  intro _
  apply Speaks.bind (hP.loadFont _ _)
  intro loaded
  have hnamed : Speaks V E (P id) (do
      Execution.applyFill t id
      Execution.applyName t id
      if loaded.isOk then
        Execution.adjust id fun l => { l with caption := l.caption.map ({ · with autoResize := fittingText }) }
      finish t id) S := by
    apply Speaks.bind (hP.applyFill hV)
    intro _
    apply Speaks.bind hP.applyName
    intro _
    dsimp only
    split
    · exact .bind (hP.adjust _) fun _ => hfinish id
    · exact hfinish id
  cases t.number? "fontSize" with
  | none =>
    dsimp only
    split
    · exact .bind (hP.adjust _) fun _ => hnamed
    · exact .bind (.emit (hV _ not_false)) fun _ => .bind (hP.adjust _) fun _ => hnamed
  | some fontSize =>
    have hsized : Speaks V E (P id) _ S :=
      .bind (hP.adjust fun l => { l with caption := l.caption.map ({ · with fontSize }) }) fun _ => hnamed
    dsimp only
    split
    · exact .bind (hP.adjust _) fun _ => hsized
    · exact .bind (.emit (hV _ not_false)) fun _ => .bind (hP.adjust _) fun _ => hsized

/-- Up to where the new layer is hung, creators go alike. -/
theorem creator (hc : op.spec.category = .create) : Speaks V E P₀ (handle op t) S := by
  cases op with
  | createRectangle | createEllipse | createPolygon | createStar | createFrame => exact hP.createBox hV hfinish
  | createCircle => exact hP.createCircle hV hfinish
  | createLine => exact hP.createLine hV hfinish
  | createText => exact hP.createText hV hfinish
  | _ => cases hc

end Drafts

end Creators

/-! ### Handlers that tell the user nothing -/

/-- The handler itself tells the user nothing. -/
abbrev Mum (V : Event → Prop) (N : List String) (m : Handler α) : Prop :=
  Says V (fun h => h.document.Told N) (fun h => h.document.Told N) m fun _ h => h.document.Told N

theorem drafts_told : Drafts (fun h => h.document.Told N) (fun h => h.document.Told N) fun _ h => h.document.Told N where
  make _ := Host.Mum.create _
  look _ _ _ hp := hp
  call _ _ hp := hp
  font _ h family style hp := by
    show (h.document.addFont family style).notifications = N
    unfold addFont
    split <;> exact hp

namespace Mum

variable {t : Task} {id : LayerId}

theorem pure (a : α) : Mum V N (Pure.pure a : Handler α) := Says.pure fun _ h => h

theorem bind {m : Handler α} {k : α → Handler β} (hm : Mum V N m) (hk : ∀ a, Mum V N (k a)) : Mum V N (m >>= k) := Says.bind hm hk

theorem forM {f : α → Handler PUnit} (h : ∀ a, Mum V N (f a)) (l : List α) : Mum V N (l.forM f) := Says.forM h l

theorem call {m : HostM α} (hm : Host.Mum N m) : Mum V N (liftM m : Handler α) := Says.call hm

theorem emit {e : Event} (he : V e) : Mum V N (Handler.emit e) := Says.emit he

theorem refuse (e : Event) : Mum V N (Handler.refuse e : Handler α) := Says.refuse fun _ h => h

theorem view : Mum V N (liftM Host.view) := Says.view

theorem edit {f : Document → Document} (hf : ∀ d, (f d).notifications = d.notifications) : Mum V N (liftM (Host.edit f)) :=
  .call (.edit hf)

theorem append (p : Node) (id : LayerId) : Mum V N (liftM (Host.edit (·.append p id))) :=
  edit fun _ => notifications_of_beside beside_attach

theorem adjust (id : LayerId) (f : Look → Look) : Mum V N (adjust id f) := edit fun _ => rfl

theorem lookOf (id : LayerId) : Mum V N (lookOf id) := Says.lookOf

theorem requireTrait (trait : Look → Bool) (id : LayerId) : Mum V N (requireTrait t trait id) := by
  apply bind (lookOf id)
  intro look
  split
  · exact .pure _
  · exact .refuse _

theorem requireTarget : Mum V N (requireTarget t) := by
  unfold Execution.requireTarget
  split
  · exact .refuse _
  · apply bind (.call ((Host.Turns.target fun _ h => h).mono (fun _ h => h) fun _ _ h => h.1))
    intro found
    split
    · exact .refuse _
    · exact .pure _

theorem focus (ids : List LayerId) : Mum V N (focus ids) := .bind (.call (.setSelection _)) fun _ => .call (.zoomTo _)

theorem containerOf (id : LayerId) : Mum V N (containerOf id) := by
  apply bind view
  intro d
  split
  · exact .pure _
  · exact .bind (.call (.enter _)) fun _ => .pure _

theorem groupUnder (first : LayerId) (ids : List LayerId) : Mum V N (do
    let g ← Host.group ids (← Execution.containerOf first)
    applyName t g) := by
  apply bind (containerOf first)
  intro p
  apply bind (.call (.group ids p))
  intro g
  exact drafts_told.applyName

theorem groupSelection (hcount : ∀ n, V (.groupNeedsTwo n)) : Mum V N (groupSelection t) := by
  apply bind (.call .getSelection)
  intro ids
  split
  · exact groupUnder _ _
  · exact .emit (hcount _)

section

variable (hV : ∀ e : Event, ¬e.counts → V e)

include hV

theorem ifAlive {act : Handler Unit} (h : Mum V N act) : Mum V N (ifAlive id act) := by
  apply bind view
  intro d
  split
  · exact .emit (hV _ not_false)
  · exact h

theorem subjects (trait : Look → Bool) : Mum V N (subjects t trait) := by
  unfold Execution.subjects
  split
  · exact .bind requireTarget fun id => .bind (requireTrait trait id) fun _ => .pure _
  · apply bind (.call .getSelection)
    intro selection
    split
    · exact .bind (.emit (hV _ not_false)) fun _ => .pure _
    · apply bind view
      intro d
      dsimp only
      split
      · exact .bind (.emit (hV _ not_false)) fun _ => .pure _
      · exact .pure _

theorem attachOne (parent copy : LayerId) : Mum V N (attachOne parent copy) := by
  apply bind view
  intro d
  split
  · exact .append _ _
  · exact .bind (.append _ _) fun _ => .emit (hV _ not_false)

/-- One copy for each parent, and then how many parents there are. -/
theorem attachEach {ref : String} {parents : List LayerId} (hcount : V (.severalParents ref parents.length)) : Mum V N (do
    let twins ← parents.tail.mapM fun _ => Host.clone id
    let copies := id :: twins
    (parents.zip copies).forM fun (p, copy) => Execution.attachOne p copy
    if 1 < parents.length then Handler.emit (.severalParents ref parents.length)
    return copies : Handler (List LayerId)) := by
  apply bind (Says.mapM (fun _ => Mum.call (.clone id)) _)
  intro twins
  apply bind (.forM (fun (p, copy) => attachOne hV p copy) _)
  intro _
  dsimp only
  split
  · exact .bind (.emit hcount) fun _ => .pure _
  · exact .pure _

theorem attach (hcount : ∀ ref n, V (.severalParents ref n)) : Mum V N (attach t id) := by
  apply bind (.call (.enter _))
  intro _
  split
  · exact .bind (.append _ _) fun _ => .pure _
  · apply bind (.call (.parent _))
    intro found
    split
    · exact .bind (.append _ _) fun _ => .bind (.emit (hV _ not_false)) fun _ => .pure _
    · exact attachEach hV (hcount _ _)

theorem finish (hcount : ∀ ref n, V (.severalParents ref n)) : Mum V N (finish t id) := by
  apply bind (attach hV hcount)
  intro created
  split
  · exact focus created
  · exact .pure _

theorem selectByName (hcount : ∀ name n, V (.severalMatches name n)) (name : Json) : Mum V N (selectByName name) := by
  apply bind (.call (.byName name))
  intro ids
  split
  · exact .emit (hV _ not_false)
  · apply bind (focus _)
    intro _
    split
    · exact .emit (hcount _ _)
    · exact .pure _

end

end Mum

end Execution

/-- The counts that an operation may tell of. -/
def Op.mayCount (op : Op) : Event → Prop
  | .severalParents .. => op.spec.category = .create
  | .severalMatches .. => op = .select
  | .groupNeedsTwo _ => op = .group
  | _ => True

namespace Execution

variable {P : Host → Prop}

theorem mayCount_of_not_counts (op : Op) {e : Event} (he : ¬e.counts) : op.mayCount e := by
  cases e <;> first | trivial | exact absurd trivial he

/-- What an operation says, but for the message that tells the user what was found. -/
theorem handle_mum {op : Op} (hop : op ≠ .findByName) (t : Task) : Mum op.mayCount N (handle op t) := by
  have hV : ∀ e : Event, ¬e.counts → op.mayCount e := fun _ => mayCount_of_not_counts op
  cases op with
  | createRectangle | createCircle | createEllipse | createLine | createPolygon | createStar | createText | createFrame =>
    exact drafts_told.creator hV (fun _ => Mum.finish hV fun _ _ => rfl) rfl
  | setFill | setStroke =>
    apply Mum.bind (.subjects hV _)
    intro ids
    split
    · exact .bind (.color hV) fun c => .forM (fun id => .ifAlive hV (.adjust id _)) ids
    · exact .pure _
  | setOpacity => exact .bind (.subjects hV _) fun ids => .forM (fun id => .ifAlive hV (.adjust id _)) ids
  | move | rotate => exact .bind .requireTarget fun id => .ifAlive hV (.adjust id _)
  | resize => exact .bind .requireTarget fun id => .bind (.requireTrait _ id) fun id => .ifAlive hV (.adjust id _)
  | select =>
    apply Mum.bind (.call (.byId _))
    intro found
    split
    · exact .focus _
    · exact .selectByName hV (fun _ _ => rfl) _
  | findByName => exact absurd rfl hop
  | selectAll => exact .bind (.call (.enter _)) fun _ => .bind .view fun _ => .call (.setSelection _)
  | deselect => exact .call (.setSelection _)
  | selectLast =>
    apply Mum.bind (.call (.getData _))
    intro text
    apply Mum.bind (.call (.byId _))
    intro found
    split
    · exact .emit (hV _ not_false)
    · exact .focus _
  | bringToFront => exact .bind .requireTarget fun id => .ifAlive hV (.bind (.containerOf id) fun p => .append p id)
  | sendToBack =>
    exact .bind .requireTarget fun id => .ifAlive hV (.bind (.containerOf id) fun p =>
      .edit fun _ => notifications_of_beside beside_attach)
  | delete => exact .bind .requireTarget fun id => .ifAlive hV (.edit fun _ => notifications_of_beside beside_remove)
  | deleteSelection =>
    apply Mum.bind (.call .getSelection)
    intro ids
    apply Mum.forM
    intro id
    apply Mum.edit
    intro d
    split
    · rfl
    · exact notifications_of_beside beside_remove
  | group => exact .groupSelection fun _ => rfl
  | ungroup =>
    apply Mum.bind (.call .getSelection)
    intro ids
    apply Mum.forM
    intro id
    apply Mum.bind (.lookOf id)
    intro look
    split
    · exact .ifAlive hV (.bind (.call (.ungroup id)) fun _ => .pure _)
    · exact .pure _
  | zoomToFit => exact .bind (.call (.enter _)) fun _ => .bind .view fun _ => .call (.zoomTo _)
  | zoomToSelection =>
    apply Mum.bind (.call .getSelection)
    intro ids
    split
    · exact .emit (hV _ not_false)
    · exact .call (.zoomTo _)

namespace Says

/-- A call says nothing, whatever it does. -/
theorem any (m : HostM α) : Says V (fun _ => True) P (liftM m) fun _ _ => True := by
  apply call
  intro h _
  split <;> trivial

theorem of_mum {m : Handler α} (hm : ∀ N, Mum V N m) : Says V (fun _ => True) P m fun _ _ => True := by
  rintro r ⟨-, hv⟩
  exact Leads.mono (hm r.host.document.notifications) (fun _ h => h) (fun _ _ h => ⟨trivial, h.2⟩) (fun _ _ h => ⟨trivial, h.2⟩) r
    ⟨rfl, hv⟩

end Says

/-- Counts are told by no operation but those that may. -/
theorem handle_speaks (op : Op) (t : Task) : Says op.mayCount (fun _ => True) P (handle op t) fun _ _ => True := by
  by_cases hop : op = .findByName
  · subst hop
    apply Says.bind (.any _)
    intro ids
    split
    · exact .emit trivial
    · exact .bind (.of_mum fun _ => .focus _) fun _ => .bind (.any _) fun _ => .bind .view fun d => .any _
  · exact .of_mum fun _ => handle_mum hop t

end Execution

end Easel
