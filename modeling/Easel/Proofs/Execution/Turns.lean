import Easel.Proofs.Document.Growth
import Easel.Proofs.Execution.Runs

/-!
What calls of the host and parts of handlers make of the document, whatever calls fail: rules for the parts that handlers share.
A handler is followed from documents with `P` to documents with `Q`, or, if it ends early, to documents with `E`; on its way it
finds no layer removed that it is about to change.
-/

namespace Easel

variable {α β : Type} {E P : Document → Prop} {Q : α → Document → Prop} {R : β → Document → Prop}

/-- What holds on when no layer moves and none changes its kind. -/
def Document.Steady (P : Document → Prop) : Prop := ∀ d d₁, P d → d.Moved [] none d₁ → P d₁

namespace Host

def Turns (E P : Document → Prop) (m : HostM α) (Q : α → Document → Prop) : Prop :=
  Leads (fun h => P h.document) m (fun a h => Q a h.document) fun _ h => E h.document

namespace Turns

theorem pure {a : α} (h : ∀ d, P d → Q a d) : Turns E P (Pure.pure a) Q := Leads.pure fun _ hp => h _ hp

theorem throw {e : HostError} (hE : ∀ d, P d → E d) : Turns E P (MonadExcept.throw e) Q := Leads.throw fun _ hp => hE _ hp

theorem bind {m : HostM α} {k : α → HostM β} (hm : Turns E P m Q) (hk : ∀ a, Turns E (Q a) (k a) R) :
    Turns E P (m >>= k) R :=
  Leads.bind hm hk

theorem mono {P' : Document → Prop} {Q' : α → Document → Prop} {m : HostM α} (hm : Turns E P' m Q')
    (hP : ∀ d, P d → P' d) (hQ : ∀ a d, Q' a d → Q a d) : Turns E P m Q :=
  Leads.mono hm (fun _ hp => hP _ hp) (fun _ _ hq => hQ _ _ hq) fun _ _ he => he

/-- A fact about the document at hand that does not speak of it later on. -/
theorem intro {m : HostM α} (h : ∀ d, P d → Turns E (fun d' => d' = d) m Q) : Turns E P m Q := by
  intro s hs
  exact h s.document hs s rfl

theorem view : Turns E P Host.view fun d d' => P d' ∧ d = d' := fun _ hp => ⟨hp, rfl⟩

theorem edit {f : Document → Document} {P' : Document → Prop} (h : ∀ d, P d → P' (f d)) :
    Turns E P (Host.edit f) fun _ => P' := fun s hp => h s.document hp

theorem enter {call : HostCall} (hE : ∀ d, P d → E d) : Turns E P (Host.enter call) fun _ => P := by
  intro h hp
  rw [Host.enter_run]
  cases h.faults h.calls call with
  | none => exact hp
  | some message => exact hE _ hp

theorem create {look : Look} {Q : LayerId → Document → Prop} (hE : ∀ d, P d → E d)
    (hq : ∀ d, P d → Q d.layers.length (d.create look).2) : Turns E P (Host.create look) Q := by
  intro h hp
  rw [Host.create_run, Host.enter_run]
  cases h.faults h.calls .createNode with
  | none => exact hq _ hp
  | some message => exact hE _ hp

theorem getSelection {Q : List LayerId → Document → Prop} (hE : ∀ d, P d → E d)
    (hq : ∀ d ids, P d → d.liveSelection? = some ids → Q ids { d with selection := ids.map .layer }) :
    Turns E P Host.getSelection Q := by
  refine .bind (.enter hE) fun _ => .bind .view fun d => ?_
  split
  · exact .throw fun d' h => hE d' h.1
  · rename_i ids hids
    have hedit : Turns E (fun d' => P d' ∧ d = d') (Host.edit ({ · with selection := ids.map .layer })) fun _ => Q ids :=
      .edit fun d' h => h.2 ▸ hq d ids (h.2 ▸ h.1) hids
    exact .bind hedit fun _ => .pure fun _ h => h

theorem setSelection {nodes : List Node} {P' : Document → Prop} (hE : ∀ d, P d → E d)
    (h : ∀ d, P d → P' { d with selection := nodes }) : Turns E P (Host.setSelection nodes) fun _ => P' :=
  .bind (.enter hE) fun _ => .edit h

theorem findAll (hE : ∀ d, P d → E d) : Turns E P Host.findAll fun ids d => P d ∧ ids = d.all := by
  refine .bind (.enter hE) fun _ => .bind .view fun d => .pure ?_
  rintro d' ⟨hp, rfl⟩
  exact ⟨hp, rfl⟩

section Steady

variable (hE : ∀ d, P d → E d) (hP : Document.Steady P)

include hE hP

theorem zoomTo {nodes : List Node} : Turns E P (Host.zoomTo nodes) fun _ => P :=
  .bind (.enter hE) fun _ => .edit fun d h => hP d _ h ⟨fun _ => rfl, id, fun _ => rfl, fun _ => rfl, rfl, rfl⟩

theorem notify {message : String} : Turns E P (Host.notify message) fun _ => P :=
  .bind (.enter hE) fun _ => .edit fun d h => hP d _ h ⟨fun _ => rfl, id, fun _ => rfl, fun _ => rfl, rfl, rfl⟩

theorem setData {key value : String} : Turns E P (Host.setData key value) fun _ => P :=
  .bind (.enter hE) fun _ => .edit fun d h => hP d _ h ⟨fun _ => rfl, id, fun _ => rfl, fun _ => rfl, rfl, rfl⟩

theorem loadFont {family style : String} : Turns E P (Host.loadFont family style) fun _ => P := by
  have hadd : Turns E P (Host.edit (·.addFont family style)) fun _ => P := by
    refine .edit fun d h => ?_
    unfold Document.addFont
    split
    · exact h
    · exact hP d _ h ⟨fun _ => rfl, id, fun _ => rfl, fun _ => rfl, rfl, rfl⟩
  refine .bind (.enter hE) fun _ => .bind .view fun d => ?_
  dsimp only
  split
  · exact .bind (.throw fun d' h => hE d' h.1) fun _ => hadd
  · exact hadd.mono (fun d' h => h.1) fun _ _ h => h

end Steady

theorem getData {key : String} (hE : ∀ d, P d → E d) : Turns E P (Host.getData key) fun _ => P :=
  .bind (.enter hE) fun _ => .bind .view fun _ => .pure fun _ h => h.1

section Lookup

variable (hE : ∀ d, P d → E d)

include hE

theorem byId {v : Json} : Turns E P (Lookup.byId v) fun found d => P d ∧ ∀ id, found = some id → id ∈ d.all := by
  unfold Lookup.byId
  split
  · exact .pure fun d h => ⟨h, fun id hid => by cases hid⟩
  · refine .bind (.findAll hE) fun ids => .pure ?_
    rintro d ⟨h, rfl⟩
    exact ⟨h, fun id hid => List.mem_of_find?_eq_some hid⟩

theorem byName {v : Json} : Turns E P (Lookup.byName v) fun ids d =>
    P d ∧ (∀ id ∈ ids, id ∈ d.all) ∧ (d.all.Nodup → ids.Nodup) := by
  unfold Lookup.byName
  split
  · exact .pure fun d h => ⟨h, by simp⟩
  · refine .bind (.findAll hE) fun ids => .bind .view fun d => .pure ?_
    rintro d' ⟨⟨h, rfl⟩, rfl⟩
    refine ⟨h, fun id hid => ?_, fun hn => ?_⟩
    · exact List.mem_of_mem_filter (List.mem_mergeSort.1 hid)
    · exact (List.mergeSort_perm _ _).nodup_iff.2 (hn.filter _)

theorem target {v : Json} : Turns E P (Lookup.target v) fun found d => P d ∧ ∀ id, found = some id → id ∈ d.all := by
  refine .bind (byId hE) fun found => ?_
  split
  · exact .pure fun _ h => h
  · refine .bind (byName fun d h => hE d h.1) fun ids => .pure fun d h => ⟨h.1.1, fun id hid => ?_⟩
    exact h.2.1 id (List.mem_of_mem_head? hid)

theorem parent {v : Json} : Turns E P (Lookup.parent v) fun found d =>
    P d ∧ ∀ m, found = some m → m.ids ≠ [] ∧ ∀ id ∈ m.ids, id ∈ d.all := by
  refine .bind (byId hE) fun found => ?_
  split
  · rename_i id
    refine .pure fun d h => ⟨h.1, ?_⟩
    rintro m ⟨⟩
    refine ⟨by simp [Lookup.Match.ids], fun y hy => ?_⟩
    rw [Lookup.Match.ids, List.mem_singleton] at hy
    exact h.2 y (by rw [hy])
  · refine .bind (byName fun d h => hE d h.1) fun ids => ?_
    split
    · exact .pure fun d h => ⟨h.1.1, fun m hm => by cases hm⟩
    · rename_i hne
      refine .pure fun d h => ⟨h.1.1, ?_⟩
      rintro m ⟨⟩
      exact ⟨hne, h.2.1⟩

end Lookup

end Turns

end Host

namespace Execution

/-- Nothing is found removed that was about to be changed. -/
def Calm (events : List Event) : Prop := ∀ e ∈ events, e.code ≠ "STALE_NODE"

def Does (E P : Document → Prop) (m : Handler α) (Q : α → Document → Prop) : Prop :=
  Leads (fun r => P r.host.document ∧ Calm r.events) m (fun a r => Q a r.host.document ∧ Calm r.events)
    fun _ r => E r.host.document ∧ Calm r.events

namespace Does

theorem pure {a : α} (h : ∀ d, P d → Q a d) : Does E P (Pure.pure a) Q := Leads.pure fun _ hp => ⟨h _ hp.1, hp.2⟩

theorem bind {m : Handler α} {k : α → Handler β} (hm : Does E P m Q) (hk : ∀ a, Does E (Q a) (k a) R) :
    Does E P (m >>= k) R :=
  Leads.bind hm hk

theorem mono {P' : Document → Prop} {Q' : α → Document → Prop} {m : Handler α} (hm : Does E P' m Q')
    (hP : ∀ d, P d → P' d) (hQ : ∀ a d, Q' a d → Q a d) : Does E P m Q :=
  Leads.mono hm (fun _ hp => ⟨hP _ hp.1, hp.2⟩) (fun _ _ hq => ⟨hQ _ _ hq.1, hq.2⟩) fun _ _ he => he

theorem intro {m : Handler α} (h : ∀ d, P d → Does E (fun d' => d' = d) m Q) : Does E P m Q := by
  intro r hr
  exact h r.host.document hr.1 r ⟨rfl, hr.2⟩

theorem forM {f : β → Handler PUnit} (I : List β → Document → Prop) (items : List β)
    (h : ∀ item rest, Does E (I (item :: rest)) (f item) fun _ => I rest) : Does E (I items) (items.forM f) fun _ => I [] :=
  Leads.forM (fun items (r : Run) => I items r.host.document ∧ Calm r.events) items h

theorem mapM {f : β → Handler α} (I : List α → Document → Prop)
    (h : ∀ done item, Does E (I done) (f item) fun a => I (done ++ [a])) (items : List β) :
    Does E (I []) (items.mapM f) fun as d => I as d ∧ as.length = items.length :=
  (Leads.mapM (fun done (r : Run) => I done r.host.document ∧ Calm r.events) h items).mono (fun _ h => h)
    (fun _ _ h => ⟨⟨h.1.1, h.2⟩, h.1.2⟩) fun _ _ h => h

theorem call {m : HostM α} (hm : Host.Turns E P m Q) : Does E P (liftM m) Q := by
  rintro r ⟨hp, hc⟩
  have h := hm r.host hp
  rw [Handler.call_run]
  rcases hr : m.run r.host with ⟨e | a, host⟩ <;> rw [hr] at h <;> exact ⟨h, hc⟩

theorem attempt {m : HostM α} {F : Document → Prop} (hm : Host.Turns F P m Q) :
    Does E P (Handler.attempt m) fun result d => match result with
      | .ok a => Q a d
      | .error _ => F d := by
  rintro r ⟨hp, hc⟩
  have h := hm r.host hp
  rw [Handler.attempt_run]
  rcases hr : m.run r.host with ⟨e | a, host⟩ <;> rw [hr] at h <;> exact ⟨h, hc⟩

theorem emit {e : Event} (he : e.code ≠ "STALE_NODE") : Does E P (Handler.emit e) fun _ => P := by
  rintro r ⟨hp, hc⟩
  refine ⟨hp, fun e' he' => ?_⟩
  obtain he' | he' := List.mem_append.1 he'
  · exact hc e' he'
  · rw [List.mem_singleton.1 he']
    exact he

theorem refuse {e : Event} (hE : ∀ d, P d → E d) : Does E P (Handler.refuse e : Handler α) Q :=
  Leads.throw fun _ hp => ⟨hE _ hp.1, hp.2⟩

theorem view : Does E P (liftM Host.view) fun d d' => P d' ∧ d = d' := .call .view

theorem edit {f : Document → Document} {P' : Document → Prop} (h : ∀ d, P d → P' (f d)) :
    Does E P (liftM (Host.edit f)) fun _ => P' := .call (.edit h)

end Does

end Execution

end Easel
