import Easel.Proofs.Document.Groups
import Easel.Proofs.Execution.Accounting

/-!
Programs that come to their end on a host of which no calls fail but those that load fonts. What a handler does once it has
settled on its layers is such a program.
-/

namespace Easel

variable {α β : Type} {P P' : Document → Prop} {Q Q' : α → Document → Prop} {R : β → Document → Prop}

namespace Host

/-- No call fails but those that load fonts. -/
def Fair (h : Host) : Prop := ∀ n call, call ≠ .loadFont → h.faults n call = none

theorem fair_of_none {h : Host} (hq : h.faults = Faults.none) : Fair h := fun _ _ _ => by
  rw [hq]
  rfl

/-- On a fair host the program gives an answer. -/
def Completes (P : Document → Prop) (m : HostM α) (Q : α → Document → Prop) : Prop :=
  Leads (fun h => Fair h ∧ P h.document) m (fun a h => Fair h ∧ Q a h.document) fun _ _ => False

/-- The program gives an answer whatever the document is. -/
abbrev Sure (m : HostM α) : Prop := Completes (fun _ => True) m fun _ _ => True

namespace Completes

theorem pure {a : α} (h : ∀ d, P d → Q a d) : Completes P (Pure.pure a) Q :=
  Leads.pure fun s hp => ⟨hp.1, h s.document hp.2⟩

theorem bind {m : HostM α} {k : α → HostM β} (hm : Completes P m Q) (hk : ∀ a, Completes (Q a) (k a) R) :
    Completes P (m >>= k) R :=
  Leads.bind hm hk

theorem mono {m : HostM α} (hm : Completes P' m Q') (hP : ∀ d, P d → P' d) (hQ : ∀ a d, Q' a d → Q a d) : Completes P m Q :=
  Leads.mono hm (fun _ hp => ⟨hp.1, hP _ hp.2⟩) (fun _ _ hq => ⟨hq.1, hQ _ _ hq.2⟩) fun _ _ he => he

/-- A fact about the document at hand that does not speak of it later on. -/
theorem intro {m : HostM α} (h : ∀ d, P d → Completes (fun d' => d' = d) m Q) : Completes P m Q :=
  fun s hp => h s.document hp.2 s ⟨hp.1, rfl⟩

theorem of_false {m : HostM α} (h : ∀ d, ¬P d) : Completes P m Q := fun _ hp => absurd hp.2 (h _)

theorem view : Completes P Host.view fun d d' => P d' ∧ d = d' := fun _ hp => ⟨hp.1, hp.2, rfl⟩

theorem edit {f : Document → Document} (h : ∀ d, P d → P' (f d)) : Completes P (Host.edit f) fun _ => P' :=
  fun s hp => ⟨hp.1, h s.document hp.2⟩

theorem enter {call : HostCall} (hc : call ≠ .loadFont) : Completes P (Host.enter call) fun _ => P := by
  intro h hp
  rw [Host.enter_run, hp.1 _ _ hc]
  exact hp

theorem create {look : Look} {Q : LayerId → Document → Prop} (hq : ∀ d, P d → Q d.layers.length (d.create look).2) :
    Completes P (Host.create look) Q := by
  intro h hp
  rw [Host.create_run, Host.enter_run, hp.1 _ _ (by decide)]
  exact ⟨hp.1, hq h.document hp.2⟩

theorem findAll : Completes P Host.findAll fun _ => P :=
  .bind (.enter (by decide)) fun _ => .bind .view fun _ => .pure fun _ h => h.1

theorem byId {v : Json} : Completes P (Lookup.byId v) fun _ => P := by
  unfold Lookup.byId
  split
  · exact .pure fun _ h => h
  · exact .bind .findAll fun _ => .pure fun _ h => h

theorem byName {v : Json} : Completes P (Lookup.byName v) fun _ => P := by
  unfold Lookup.byName
  split
  · exact .pure fun _ h => h
  · exact .bind .findAll fun _ => .bind .view fun _ => .pure fun _ h => h.1

theorem target {v : Json} : Completes P (Lookup.target v) fun _ => P := by
  refine .bind .byId fun found => ?_
  split
  · exact .pure fun _ h => h
  · exact .bind .byName fun _ => .pure fun _ h => h

end Completes

namespace Sure

theorem pure (a : α) : Sure (Pure.pure a : HostM α) := Completes.pure fun _ h => h

theorem bind {m : HostM α} {k : α → HostM β} (hm : Sure m) (hk : ∀ a, Sure (k a)) : Sure (m >>= k) :=
  Completes.bind hm hk

theorem enter {call : HostCall} (hc : call ≠ .loadFont) : Sure (Host.enter call) := Completes.enter hc

theorem view : Sure Host.view := Completes.view.mono (fun _ h => h) fun _ _ _ => trivial

theorem edit (f : Document → Document) : Sure (Host.edit f) := Completes.edit fun _ h => h

theorem create (look : Look) : Sure (Host.create look) := Completes.create fun _ h => h

theorem forM {f : α → HostM PUnit} (h : ∀ a, Sure (f a)) : ∀ l : List α, Sure (l.forM f)
  | [] => .pure _
  | a :: l => .bind (h a) fun _ => forM h l

theorem cloneTo : ∀ depth id, Sure (Host.cloneTo depth id)
  | 0, id => .pure id
  | depth + 1, id => by
    rw [Host.cloneTo]
    refine .bind .view fun d => ?_
    split
    · exact .pure _
    · refine .bind (.create _) fun twin => .bind (.forM (fun child => ?_) _) fun _ => .pure _
      exact .bind (cloneTo depth child) fun copy => .edit _

theorem clone (id : LayerId) : Sure (Host.clone id) := .bind .view fun d => cloneTo d.layers.length id

theorem setSelection (nodes : List Node) : Sure (Host.setSelection nodes) := .bind (.enter (by decide)) fun _ => .edit _

theorem zoomTo (nodes : List Node) : Sure (Host.zoomTo nodes) := .bind (.enter (by decide)) fun _ => .edit _

theorem notify (message : String) : Sure (Host.notify message) := .bind (.enter (by decide)) fun _ => .edit _

theorem getData (key : String) : Sure (Host.getData key) :=
  .bind (.enter (by decide)) fun _ => .bind .view fun _ => .pure _

theorem setData (key value : String) : Sure (Host.setData key value) := .bind (.enter (by decide)) fun _ => .edit _

theorem parent {v : Json} : Sure (Lookup.parent v) := by
  refine .bind .byId fun found => ?_
  split
  · exact .pure _
  · refine .bind .byName fun ids => ?_
    split <;> exact .pure _

end Sure

/-- Layers can be grouped below a container. -/
theorem Completes.group {ids : List LayerId} {p : Node} (hids : ids ≠ []) :
    Completes (fun d => d.isContainer p) (Host.group ids p) fun _ _ => True := by
  have hcreate : Completes (fun d => d.isContainer p) (Host.createKind .group) fun _ d => d.isContainer p := by
    refine .create fun d hp => ?_
    have hhas : d.has p := by
      cases p with
      | page => trivial
      | layer k =>
        by_contra hk
        rw [Document.isContainer, Document.layer?, List.getElem?_eq_none (Nat.le_of_not_lt hk)] at hp
        cases hp
    rw [Document.isContainer_create hhas, hp]
  refine .bind (.enter (by decide)) fun _ => ?_
  dsimp only
  split
  · rename_i he
    exact absurd (List.isEmpty_iff.mp he) hids
  refine .bind hcreate fun g => .bind .view fun d => ?_
  split
  · rename_i hno
    refine .of_false ?_
    rintro d' ⟨hp, rfl⟩
    rw [hp] at hno
    cases hno
  · exact .bind (.edit fun _ _ => trivial) fun _ => .pure fun _ h => h

theorem Completes.ungroup {id : LayerId} :
    Completes (fun d => ∀ l, d.layer? id = some l → l.kind = .group) (Host.ungroup id) fun _ _ => True := by
  refine .bind (.enter (by decide)) fun _ => .bind .view fun d => ?_
  split
  · exact .pure fun _ _ => trivial
  · rename_i l hl
    dsimp only
    split
    · rename_i hk
      refine .of_false ?_
      rintro d' ⟨hp, rfl⟩
      exact hk (hp l hl)
    · split
      · exact .pure fun _ _ => trivial
      · exact .bind (.edit fun _ _ => trivial) fun _ => .pure fun _ h => h

end Host

namespace Execution

open Host (Fair)

/-- On a fair host the handler gives an answer. -/
def Completes (P : Document → Prop) (m : Handler α) (Q : α → Document → Prop) : Prop :=
  Leads (fun r => Fair r.host ∧ P r.host.document) m (fun a r => Fair r.host ∧ Q a r.host.document) fun _ _ => False

/-- The handler gives an answer whatever the document is. -/
abbrev Sure (m : Handler α) : Prop := Completes (fun _ => True) m fun _ _ => True

namespace Completes

theorem pure {a : α} (h : ∀ d, P d → Q a d) : Completes P (Pure.pure a) Q :=
  Leads.pure fun r hp => ⟨hp.1, h r.host.document hp.2⟩

theorem bind {m : Handler α} {k : α → Handler β} (hm : Completes P m Q) (hk : ∀ a, Completes (Q a) (k a) R) :
    Completes P (m >>= k) R :=
  Leads.bind hm hk

theorem mono {m : Handler α} (hm : Completes P' m Q') (hP : ∀ d, P d → P' d) (hQ : ∀ a d, Q' a d → Q a d) :
    Completes P m Q :=
  Leads.mono hm (fun _ hp => ⟨hp.1, hP _ hp.2⟩) (fun _ _ hq => ⟨hq.1, hQ _ _ hq.2⟩) fun _ _ he => he

theorem intro {m : Handler α} (h : ∀ d, P d → Completes (fun d' => d' = d) m Q) : Completes P m Q :=
  fun r hp => h r.host.document hp.2 r ⟨hp.1, rfl⟩

theorem mapM {f : α → Handler β} (I : List β → Document → Prop) (h : ∀ done item, Completes (I done) (f item) fun b => I (done ++ [b]))
    (items : List α) : Completes (I []) (items.mapM f) fun bs d => I bs d ∧ bs.length = items.length :=
  (Leads.mapM (fun done r => Fair r.host ∧ I done r.host.document) h items).mono (fun _ h => h) (fun _ _ h => ⟨h.1.1, h.1.2, h.2⟩)
    fun _ _ h => h

theorem call {m : HostM α} (hm : Host.Completes P m Q) : Completes P (liftM m) Q := by
  intro r hr
  have h := hm r.host hr
  rw [Handler.call_run]
  rcases hm : m.run r.host with ⟨e | a, host⟩ <;> rw [hm] at h <;> exact h

theorem view : Completes P (liftM Host.view) fun d d' => P d' ∧ d = d' := .call .view

theorem emit {e : Event} : Completes P (Handler.emit e) fun _ => P := fun _ hr => hr

theorem lookOf {id : LayerId} : Completes P (lookOf id) fun look d =>
    P d ∧ look = ((d.layer? id).map (·.look)).getD (Look.initial .group) := by
  refine .bind .view fun d => .pure ?_
  rintro d' ⟨hp, rfl⟩
  exact ⟨hp, rfl⟩

theorem ifAlive {id : LayerId} {act : Handler Unit} (h : Completes P act fun _ _ => True) :
    Completes P (ifAlive id act) fun _ _ => True := by
  refine .bind .view fun d => ?_
  split
  · exact emit.mono (fun _ h => h) fun _ _ _ => trivial
  · exact h.mono (fun _ h => h.1) fun _ _ h => h

end Completes

namespace Sure

variable {t : Task} {id : LayerId}

theorem pure (a : α) : Sure (Pure.pure a : Handler α) := Completes.pure fun _ h => h

theorem bind {m : Handler α} {k : α → Handler β} (hm : Sure m) (hk : ∀ a, Sure (k a)) : Sure (m >>= k) :=
  Completes.bind hm hk

theorem forM {f : α → Handler PUnit} (h : ∀ a, Sure (f a)) : ∀ l : List α, Sure (l.forM f)
  | [] => .pure _
  | a :: l => .bind (h a) fun _ => forM h l

theorem mapM {f : α → Handler β} (h : ∀ a, Sure (f a)) : ∀ l : List α, Sure (l.mapM f)
  | [] => .pure _
  | a :: l => by
    rw [List.mapM_cons]
    exact .bind (h a) fun _ => .bind (mapM h l) fun _ => .pure _

theorem call {m : HostM α} (hm : Host.Sure m) : Sure (liftM m : Handler α) := Completes.call hm

/-- A call that may fail, but whose failure is an answer. -/
theorem attempt {m : HostM α} (hm : Host.Plain m) : Sure (Handler.attempt m) := by
  intro r hr
  rw [Handler.attempt_run]
  refine ⟨fun n call hc => ?_, trivial⟩
  rw [hm.run_rel Host.stepwise_faults]
  exact hr.1 n call hc

theorem emit (e : Event) : Sure (Handler.emit e) := Completes.emit

theorem view : Sure (liftM Host.view : Handler Document) := .call .view

theorem edit (f : Document → Document) : Sure (liftM (Host.edit f) : Handler Unit) := .call (.edit f)

theorem adjust (id : LayerId) (f : Look → Look) : Sure (adjust id f) := edit _

theorem lookOf : Sure (lookOf id) := .bind view fun _ => .pure _

theorem ifAlive {act : Handler Unit} (h : Sure act) : Sure (ifAlive id act) := Completes.ifAlive h

theorem focus (ids : List LayerId) : Sure (focus ids) := .bind (.call (.setSelection _)) fun _ => .call (.zoomTo _)

theorem color : Sure t.color := by
  unfold Task.color
  dsimp only
  split
  · exact .pure _
  · exact .bind (.emit _) fun _ => .pure _

theorem applyName : Sure (applyName t id) := by
  unfold Execution.applyName
  split
  · exact .pure _
  · exact adjust _ _

theorem applyFill : Sure (applyFill t id) := by
  refine .bind lookOf fun look => ?_
  split
  · exact .bind color fun c => adjust _ _
  · exact .pure _

theorem applyCorner : Sure (applyCorner t id) := by
  unfold Execution.applyCorner
  split
  · exact .pure _
  · exact adjust _ _

theorem attachOne (parent copy : LayerId) : Sure (attachOne parent copy) := by
  refine .bind view fun d => ?_
  split
  · exact edit _
  · exact .bind (edit _) fun _ => .emit _

theorem attach : Sure (attach t id) := by
  refine .bind (.call (.enter (by decide))) fun _ => ?_
  split
  · exact .bind (edit _) fun _ => .pure _
  · refine .bind (.call .parent) fun found => ?_
    split
    · exact .bind (edit _) fun _ => .bind (.emit _) fun _ => .pure _
    · refine .bind (.mapM (fun _ => .call (.clone id)) _) fun twins => ?_
      refine .bind (.forM (fun (p, copy) => attachOne p copy) _) fun _ => ?_
      dsimp only
      split
      · exact .bind (.emit _) fun _ => .pure _
      · exact .pure _

theorem finish : Sure (finish t id) := by
  refine .bind attach fun created => ?_
  split
  · exact focus created
  · exact .pure _

theorem createBox (k : Kind) (side : Number) : Sure (createBox t k side) :=
  .bind (.call (.create _)) fun _ => .bind (adjust _ _) fun _ => .bind (adjust _ _) fun _ => .bind applyFill fun _ =>
    .bind applyCorner fun _ => .bind applyName fun _ => finish

theorem createCircle : Sure (createCircle t) :=
  .bind (.call (.create _)) fun _ => .bind (adjust _ _) fun _ => .bind (adjust _ _) fun _ => .bind applyFill fun _ =>
    .bind applyName fun _ => finish

theorem createLine : Sure (createLine t) := by
  refine .bind (.call (.create _)) fun id => .bind (adjust _ _) fun _ => .bind (adjust _ _) fun _ => ?_
  have hrest : Sure (do Execution.applyName t id; Execution.finish t id) := .bind applyName fun _ => finish
  dsimp only
  split
  · exact .bind color fun c => .bind (adjust _ _) fun _ => hrest
  · split
    · exact .bind (adjust _ _) fun _ => hrest
    · exact hrest

theorem createText : Sure (createText t) := by
  refine .bind (.call (.create _)) fun id => .bind (adjust _ _) fun _ => .bind (.attempt (.loadFont _ _)) fun loaded => ?_
  have hnamed : Sure (do
      Execution.applyFill t id
      Execution.applyName t id
      if loaded.isOk then
        Execution.adjust id fun l => { l with caption := l.caption.map ({ · with autoResize := fittingText }) }
      Execution.finish t id) := by
    refine .bind applyFill fun _ => .bind applyName fun _ => ?_
    dsimp only
    split
    · exact .bind (adjust _ _) fun _ => finish
    · exact finish
  cases t.number? "fontSize" with
  | none =>
    dsimp only
    split
    · exact .bind (adjust _ _) fun _ => hnamed
    · exact .bind (.emit _) fun _ => .bind (adjust _ _) fun _ => hnamed
  | some fontSize =>
    have hsized := (adjust id fun l => { l with caption := l.caption.map ({ · with fontSize }) }).bind fun _ => hnamed
    dsimp only
    split
    · exact .bind (adjust _ _) fun _ => hsized
    · exact .bind (.emit _) fun _ => .bind (adjust _ _) fun _ => hsized

theorem selectByName (name : Json) : Sure (selectByName name) := by
  refine .bind (.call .byName) fun ids => ?_
  split
  · exact .emit _
  · refine .bind (focus _) fun _ => ?_
    split
    · exact .emit _
    · exact .pure _

theorem select : Sure (select t) := by
  refine .bind (.call .byId) fun found => ?_
  split
  · exact focus _
  · exact selectByName _

theorem findByName : Sure (findByName t) := by
  refine .bind (.call .byName) fun ids => ?_
  split
  · exact .emit _
  · exact .bind (focus _) fun _ => .bind (.call (.setData _ _)) fun _ => .bind view fun d => .call (.notify _)

theorem selectLast : Sure selectLast := by
  refine .bind (.call (.getData _)) fun text => .bind (.call .byId) fun found => ?_
  split
  · exact .emit _
  · exact focus _

theorem selectAll : Sure selectAll :=
  .bind (.call (.enter (by decide))) fun _ => .bind view fun _ => .call (.setSelection _)

theorem containerOf : Sure (containerOf id) := by
  refine .bind view fun d => ?_
  split
  · exact .pure _
  · exact .bind (.call (.enter (by decide))) fun _ => .pure _

theorem zoomToFit : Sure zoomToFit :=
  .bind (.call (.enter (by decide))) fun _ => .bind view fun _ => .call (.zoomTo _)

/-- A layer that is found to be a group can be ungrouped. -/
theorem ungroupOne (id : LayerId) : Sure (do
    if (← Execution.lookOf id).kind = .group then
      Execution.ifAlive id do
        let _ ← Host.ungroup id) := by
  refine Completes.bind .lookOf fun look => ?_
  split
  · rename_i hk
    refine .ifAlive (.mono (.bind (.call .ungroup) fun _ => .pure fun _ h => h) ?_ fun _ _ h => h)
    rintro d ⟨-, rfl⟩ l hl
    rw [hl] at hk
    exact hk
  · exact .pure fun _ _ => trivial

end Sure

end Execution

end Easel
