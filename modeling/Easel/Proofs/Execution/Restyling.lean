import Easel.Proofs.Execution.Creation
import Easel.Proofs.Execution.Targets

/-!
Style, place and size. Such an action gives new values to the layers it is meant for, which are its target if one is given and else
what is selected and can take them; all other layers, and all else about these, are left alone.
-/

namespace Easel

open Document

variable {α β : Type} {d d' d₁ : Document} {id x : Nat} {ids : List Nat} {f : Look → Look} {es : List Event}

namespace Document

/-- Whether a layer has a trait. -/
def capable (d : Document) (trait : Look → Bool) (id : LayerId) : Bool :=
  (d.layer? id).any fun l => trait l.look

theorem liveSelection_congr (hs : d'.selection = d.selection) (hr : ∀ x, d'.isRemoved x = d.isRemoved x) :
    d'.liveSelection? = d.liveSelection? := by
  rw [liveSelection?, liveSelection?, hs]
  simp only [hr]

def dress (d : Document) (f : Look → Look) (ids : List LayerId) : Document :=
  ids.foldl (·.updateLook · f) d

theorem isRemoved_updateLook : (d.updateLook id f).isRemoved x = d.isRemoved x := isRemoved_update fun _ => rfl

theorem layer?_dress (hn : ids.Nodup) :
    (d.dress f ids).layer? x = (d.layer? x).map fun l => if x ∈ ids then { l with look := f l.look } else l := by
  induction ids generalizing d with
  | nil => simp [dress]
  | cons id rest ih =>
    obtain ⟨hid, hrest⟩ := List.nodup_cons.1 hn
    show ((d.updateLook id f).dress f rest).layer? x = _
    rw [ih hrest, updateLook, layer?_update, Option.map_map]
    congr 1
    funext l
    by_cases hx : x = id
    · subst hx
      simp [hid]
    · simp [hx]

theorem dress_same (d : Document) (f : Look → Look) (ids : List LayerId) :
    (d.dress f ids).pageChildren = d.pageChildren ∧ (d.dress f ids).beside = d.beside ∧
      (d.dress f ids).liveSelection? = d.liveSelection? := by
  induction ids generalizing d with
  | nil => exact ⟨rfl, rfl, rfl⟩
  | cons id rest ih =>
    obtain ⟨hpage, hbeside, hlive⟩ := ih (d.updateLook id f)
    exact ⟨hpage, hbeside, hlive.trans (liveSelection_congr rfl fun _ => isRemoved_updateLook)⟩

end Document

namespace Execution

open Host (Fair)

/-! ### Answers and events -/

/-- From `d` and `es`, the handler leads to a document and events with `Q` if no call of it fails and it is not refused. -/
def Answers (d : Document) (es : List Event) (m : Handler α) (Q : α → Document → List Event → Prop) : Prop :=
  Leads (fun r => Fair r.host ∧ r.host.document = d ∧ r.events = es) m (fun a r => Fair r.host ∧ Q a r.host.document r.events)
    fun _ _ => True

namespace Answers

variable {P Q : α → Document → List Event → Prop} {R : β → Document → List Event → Prop} {t : Task}

theorem pure {a : α} (h : Q a d es) : Answers d es (Pure.pure a) Q := by
  rintro r ⟨hf, rfl, rfl⟩
  exact ⟨hf, h⟩

theorem bind {m : Handler α} {k : α → Handler β} (hm : Answers d es m Q) (hk : ∀ a d' es', Q a d' es' → Answers d' es' (k a) R) :
    Answers d es (m >>= k) R :=
  Leads.bind hm fun a r hr => hk a _ _ hr.2 r ⟨hr.1, rfl, rfl⟩

theorem refuse {e : Event} : Answers d es (Handler.refuse e : Handler α) Q := fun _ _ => trivial

theorem emit {e : Event} {Q : Unit → Document → List Event → Prop} (h : Q () d (es ++ [e])) : Answers d es (Handler.emit e) Q := by
  rintro r ⟨hf, rfl, rfl⟩
  exact ⟨hf, h⟩

theorem call {m : HostM α} {P : α → Document → Prop} (hm : Host.Completes (fun d' => d' = d) m P)
    (h : ∀ a d', P a d' → Q a d' es) : Answers d es (liftM m) Q := by
  rintro r ⟨hf, hd, rfl⟩
  have hrun := hm r.host ⟨hf, hd⟩
  rw [Handler.call_run]
  rcases hr : m.run r.host with ⟨e | a, host⟩ <;> rw [hr] at hrun
  · exact hrun.elim
  · exact ⟨hrun.1, h a _ hrun.2⟩

theorem view {Q : Document → Document → List Event → Prop} (h : Q d d es) : Answers d es (liftM Host.view) Q :=
  call .view fun _ d' hd => by obtain ⟨rfl, rfl⟩ := hd; exact h

theorem mono {m : Handler α} (hm : Answers d es m P) (h : ∀ a d' es', P a d' es' → Q a d' es') : Answers d es m Q :=
  Leads.mono hm (fun _ hr => hr) (fun _ _ hr => ⟨hr.1, h _ _ _ hr.2⟩) fun _ _ he => he

theorem requireTarget : Answers d es (requireTarget t) fun id d' es' => d.targeted t.target = some id ∧ d' = d ∧ es' = es := by
  unfold Execution.requireTarget
  split
  · exact .refuse
  · rename_i name hw
    refine .bind (.call (.targeted hw) (Q := fun found d' es' => found = d.targeted t.target ∧ d' = d ∧ es' = es) ?_)
      fun found d' es' h => ?_
    · rintro found d' ⟨rfl, rfl⟩
      refine ⟨?_, rfl, rfl⟩
      rw [Document.targeted, hw]
      rfl
    · obtain ⟨hfound, rfl, rfl⟩ := h
      split
      · exact .refuse
      · exact .pure ⟨hfound.symm, rfl, rfl⟩

theorem requireTrait {trait : Look → Bool} (hid : id < d.layers.length) :
    Answers d es (requireTrait t trait id) fun id' d' es' => d.capable trait id ∧ id' = id ∧ d' = d ∧ es' = es := by
  obtain ⟨l, hl⟩ : ∃ l, d.layer? id = some l := ⟨_, List.getElem?_eq_getElem hid⟩
  unfold Execution.requireTrait Execution.lookOf
  rw [bind_assoc]
  refine .bind (.view (Q := fun d₁ d' es' => d₁ = d ∧ d' = d ∧ es' = es) ⟨rfl, rfl, rfl⟩) fun d₁ d' es' h => ?_
  obtain ⟨rfl, rfl, rfl⟩ := h
  rw [pure_bind, hl]
  dsimp only [Option.map_some, Option.getD_some]
  split
  · rename_i htrait
    exact .pure ⟨by rw [capable, hl]; exact htrait, rfl, rfl, rfl⟩
  · exact .refuse

/-- A colour that cannot be read is black. -/
theorem color : Answers d es t.color fun c d' es' =>
    c = (Rgb.ofJson? (t.args.value "color")).getD Rgb.black ∧ d' = d ∧ (es' = es ∨ ∃ v, es' = es ++ [.colorFallback v]) := by
  unfold Task.color
  dsimp only
  split
  · rename_i c hc
    exact .pure ⟨by rw [hc]; rfl, rfl, .inl rfl⟩
  · rename_i hc
    refine .bind (.emit (Q := fun _ d' es' => d' = d ∧ es' = es ++ [.colorFallback (t.args.value "color")]) ⟨rfl, rfl⟩) fun _ d' es' h => ?_
    obtain ⟨rfl, rfl⟩ := h
    exact .pure ⟨by rw [hc]; rfl, rfl, .inr ⟨_, rfl⟩⟩

theorem dressOne (hlive : d.isRemoved id = false) :
    Answers d es (ifAlive id (adjust id f)) fun _ d' es' => d' = d.updateLook id f ∧ es' = es := by
  refine .bind (.view (Q := fun d₁ d' es' => d₁ = d ∧ d' = d ∧ es' = es) ⟨rfl, rfl, rfl⟩) fun d₁ d' es' h => ?_
  obtain ⟨hd₁, rfl, rfl⟩ := h
  rw [hd₁, hlive]
  have hedit : Host.Completes (· = d') (Host.edit (·.updateLook id f)) fun _ d₂ => d₂ = d'.updateLook id f := .edit fun _ he => he ▸ rfl
  exact .call hedit fun _ _ he => ⟨he, rfl⟩

/-- Live layers are dressed one after the other. -/
theorem dressEach (hlive : ∀ id ∈ ids, d.isRemoved id = false) :
    Answers d es (ids.forM fun id => ifAlive id (adjust id f)) fun _ d' es' => d' = d.dress f ids ∧ es' = es := by
  induction ids generalizing d with
  | nil => exact .pure ⟨rfl, rfl⟩
  | cons id rest ih =>
    refine .bind (dressOne (hlive id List.mem_cons_self)) fun _ d' es' h => ?_
    obtain ⟨rfl, rfl⟩ := h
    exact ih fun y hy => isRemoved_updateLook.trans (hlive y (List.mem_cons_of_mem _ hy))

end Answers

/-! ### What an action is meant for -/

/-- What a layer needs for the operation. -/
def traitOf : Op → Look → Bool
  | .setFill => canFill
  | .setStroke => canStroke
  | .resize => canResize
  | _ => anyLook

/-- The target if one is given, else what is selected and has the trait. -/
def subjectsOf (d : Document) (op : Op) (target : Json) : List LayerId :=
  if (Lookup.wanted? target).isSome then (d.targeted target).toList
  else (d.liveSelection?.getD []).filter (d.capable (traitOf op))

/-- What is selected, with no target given, and lacks the trait. -/
def unfitOf (d : Document) (op : Op) (target : Json) : List LayerId :=
  if (Lookup.wanted? target).isSome then [] else (d.liveSelection?.getD []).filter (!d.capable (traitOf op) ·)

/-- The new look of a layer that the action is meant for. A number that is not given stays. -/
def restyled (args : Fields) (l : Look) : Op → Look
  | .setFill => { l with fills := l.fills.map fun _ => [(Rgb.ofJson? (args.value "color")).getD Rgb.black] }
  | .setStroke => { l with stroke := l.stroke.map fun s =>
      ⟨[(Rgb.ofJson? (args.value "color")).getD Rgb.black], numberOr args "strokeWeight" s.weight⟩ }
  | .setOpacity => { l with opacity := numberOr args "opacity" l.opacity }
  | .move => { l with x := numberOr args "x" l.x, y := numberOr args "y" l.y }
  | .resize => { l with size := l.size.map fun s => ⟨numberOr args "width" s.width, numberOr args "height" s.height⟩ }
  | .rotate => { l with rotation := numberOr args "rotation" l.rotation }
  | _ => l

/-- The events that say that a layer lacks a trait. -/
def lacking (es : List Event) : List Event :=
  es.filter (·.code = "UNSUPPORTED_CAPABILITY")

/-- What a handler knows when it has settled on its layers: nothing has changed but that the selection may have been read. -/
structure Settled (d : Document) (op : Op) (t : Task) (ids : List LayerId) (d₁ : Document) (es : List Event) : Prop where
  meant : ids = subjectsOf d op t.target
  found : (Lookup.wanted? t.target).isSome → ∃ id, d.targeted t.target = some id ∧ d.capable (traitOf op) id
  read : ∃ nodes, d₁ = { d with selection := nodes }
  selected : d₁.liveSelection? = d.liveSelection?
  said : lacking es = if unfitOf d op t.target = [] then [] else [.skipped t.op (unfitOf d op t.target)]

variable {t : Task} {op : Op} {live : List Nat}

theorem settled_target (op : Op) (ht : d.targeted t.target = some id) (htrait : d.capable (traitOf op) id) : Settled d op t [id] d [] := by
  obtain ⟨ref, hw, -⟩ := Option.bind_eq_some_iff.1 ht
  refine ⟨?_, fun _ => ⟨id, ht, htrait⟩, ⟨_, rfl⟩, rfl, ?_⟩
  · rw [subjectsOf, hw, ht]
    rfl
  · rw [unfitOf, hw]
    rfl

theorem settled_selection (hw : ¬(Lookup.wanted? t.target).isSome) (hids : d.liveSelection? = some live)
    (hes : lacking es = if live.filter (!d.capable (traitOf op) ·) = [] then [] else
      [.skipped t.op (live.filter (!d.capable (traitOf op) ·))]) :
    Settled d op t (live.filter (d.capable (traitOf op))) { d with selection := live.map .layer } es := by
  refine ⟨?_, fun h => absurd h hw, ⟨_, rfl⟩, ?_, ?_⟩
  · rw [subjectsOf, if_neg hw, hids]
    rfl
  · obtain ⟨l, -, rfl⟩ := Option.map_eq_some_iff.1 hids
    rw [liveSelection_layers, hids, List.filter_filter]
    exact congrArg some (List.filter_congr fun x _ => Bool.and_self _)
  · rw [unfitOf, if_neg hw, hids]
    exact hes

theorem subjects_settled (op : Op) (hs : d.Sound) : Answers d [] (subjects t (traitOf op)) (Settled d op t) := by
  unfold subjects
  split
  · refine .bind .requireTarget fun id d' es' h => ?_
    obtain ⟨ht, rfl, rfl⟩ := h
    refine .bind (.requireTrait (onPage_of_targeted hs ht).lt) fun id' d₁ es₁ h => ?_
    obtain ⟨htrait, rfl, rfl, rfl⟩ := h
    exact .pure (settled_target op ht htrait)
  · rename_i hw
    obtain ⟨live, hids, -⟩ := hs.liveSelection
    refine .bind (.call (.getSelection hids) (Q := fun found d' es' =>
      found = live ∧ d' = { d with selection := live.map .layer } ∧ es' = []) fun found d' h => ⟨h.1, h.2, rfl⟩) fun found d' es' h => ?_
    obtain ⟨rfl, rfl, rfl⟩ := h
    split
    · rename_i hnil
      obtain rfl : found = [] := List.isEmpty_iff.1 hnil
      refine .bind (.emit (Q := fun _ d' es' => d' = { d with selection := [] } ∧ es' = [.emptySelection t.op]) ⟨rfl, rfl⟩) fun _ d' es' h => ?_
      obtain ⟨rfl, rfl⟩ := h
      exact .pure (settled_selection hw hids rfl)
    · refine .bind (.view (Q := fun d₁ d' es' => d₁ = { d with selection := found.map .layer } ∧
        d' = { d with selection := found.map .layer } ∧ es' = []) ⟨rfl, rfl, rfl⟩) fun d₁ d' es' h => ?_
      obtain ⟨rfl, rfl, rfl⟩ := h
      dsimp only
      split
      · rename_i hunfit
        refine .bind (.emit (Q := fun _ d' es' => d' = { d with selection := found.map .layer } ∧ es' =
          [.skipped t.op (found.filter (!d.capable (traitOf op) ·))]) ⟨rfl, rfl⟩) fun _ d' es' h => ?_
        obtain ⟨rfl, rfl⟩ := h
        simp only [Bool.not_eq_true', List.isEmpty_eq_false_iff] at hunfit
        exact .pure (settled_selection hw hids (if_neg hunfit).symm)
      · rename_i hunfit
        simp only [Bool.not_eq_true', List.isEmpty_eq_false_iff, not_not] at hunfit
        exact .pure (settled_selection hw hids (if_pos hunfit).symm)

theorem live_of_subjectsOf (hs : d.Sound) {target : Json} (hid : id ∈ subjectsOf d op target) : d.isRemoved id = false := by
  unfold subjectsOf at hid
  split at hid
  · exact hs.live_of_onPage (onPage_of_targeted hs (Option.mem_toList.1 hid))
  · obtain ⟨live, hids, -⟩ := hs.liveSelection
    rw [hids] at hid
    exact ((mem_liveSelection hids).1 (List.mem_of_mem_filter hid)).2

theorem nodup_subjectsOf (hs : d.Sound) (op : Op) (target : Json) : (subjectsOf d op target).Nodup := by
  unfold subjectsOf
  split
  · cases d.targeted target with
    | none => exact .nil
    | some id => exact List.nodup_singleton id
  · obtain ⟨live, hids, hn, -⟩ := hs.liveSelection
    rw [hids]
    exact hn.filter _

/-! ### What becomes of the layers -/

/-- The layers that the action is meant for look different now, as `f` says. -/
def Dressed (d : Document) (op : Op) (t : Task) (f : Look → Look) (d' : Document) (es : List Event) : Prop :=
  ∃ d₁ es₁, Settled d op t (subjectsOf d op t.target) d₁ es₁ ∧ d' = d₁.dress f (subjectsOf d op t.target) ∧ lacking es = lacking es₁

theorem Settled.dressEach {d₁ : Document} {ids : List Nat} (h : Settled d op t ids d₁ es) (hs : d.Sound) :
    Answers d₁ es (ids.forM fun id => ifAlive id (adjust id f)) fun _ => Dressed d op t f := by
  obtain rfl := h.meant
  obtain ⟨nodes, rfl⟩ := h.read
  have hlive : ∀ id ∈ subjectsOf d op t.target, d.isRemoved id = false := fun id hid => live_of_subjectsOf hs hid
  exact (Answers.dressEach (d := { d with selection := nodes }) hlive).mono fun _ d' es' h' => ⟨_, es, h, h'.1, by rw [h'.2]⟩

/-- Without layers no colour is looked at. -/
theorem Settled.paintEach {d₁ : Document} {ids : List Nat} (h : Settled d op t ids d₁ es) (hs : d.Sound)
    (paint : Rgb → Look → Look) :
    Answers d₁ es
      (if !ids.isEmpty then t.color >>= fun c => ids.forM fun id => ifAlive id (adjust id (paint c)) else Pure.pure ())
      fun _ => Dressed d op t (paint ((Rgb.ofJson? (t.args.value "color")).getD Rgb.black)) := by
  cases ids with
  | nil => exact .pure ⟨d₁, es, h.meant ▸ h, by rw [← h.meant]; rfl, rfl⟩
  | cons id rest =>
    refine Answers.bind .color fun c d' es' hc => ?_
    obtain ⟨rfl, rfl, hes⟩ := hc
    have hsame : lacking es' = lacking es := by
      obtain rfl | ⟨v, rfl⟩ := hes
      · rfl
      · exact (List.filter_append ..).trans (List.append_nil _)
    -- A remark on the colour says nothing of traits.
    have h' : Settled d op t (id :: rest) d' es' := { h with said := hsame.trans h.said }
    exact h'.dressEach hs

theorem Settled.dressOne {d₁ : Document} (h : Settled d op t [id] d₁ es) (hs : d.Sound) :
    Answers d₁ es (ifAlive id (adjust id f)) fun _ => Dressed d op t f := by
  have hids := h.meant
  obtain ⟨nodes, rfl⟩ := h.read
  have hlive : d.isRemoved id = false := live_of_subjectsOf hs (hids ▸ List.mem_singleton_self id)
  refine (Answers.dressOne (d := { d with selection := nodes }) hlive).mono fun _ d' es' h' => ⟨_, es, hids ▸ h, ?_, by rw [h'.2]⟩
  rw [← hids]
  exact h'.1

theorem capable_anyLook (hid : id < d.layers.length) : d.capable anyLook id := by
  obtain ⟨l, hl⟩ : ∃ l, d.layer? id = some l := ⟨_, List.getElem?_eq_getElem hid⟩
  rw [capable, hl]
  rfl

theorem target_dressed (hs : d.Sound) (hop : traitOf op = anyLook) :
    Answers d [] (requireTarget t >>= fun id => ifAlive id (adjust id f)) fun _ => Dressed d op t f := by
  refine .bind .requireTarget fun id d' es h => ?_
  obtain ⟨ht, rfl, rfl⟩ := h
  exact (settled_target op ht (hop ▸ capable_anyLook (onPage_of_targeted hs ht).lt)).dressOne hs

/-- How the operation changes a look, as its handler says it. -/
theorem handle_dresses (hs : d.Sound) (hc : op.spec.category = .style ∨ op.spec.category = .transform) (t : Task) :
    ∃ f, (∀ l, Bare l → f l = restyled t.args l op) ∧ Answers d [] (handle op t) fun _ => Dressed d op t f := by
  -- A new value drops what stood in its place, but nothing does on these layers.
  have hbare {l : Look} (hl : Bare l) : l = { l with extras := [] } := by
    cases l
    cases hl
    rfl
  cases op with
  | setFill =>
    refine ⟨fun l => l.fill ((Rgb.ofJson? (t.args.value "color")).getD Rgb.black), fun l hl => ?_,
      (subjects_settled .setFill hs).bind fun ids d₁ es h => h.paintEach hs fun c l => l.fill c⟩
    rw [hbare hl]
    rfl
  | setStroke =>
    refine ⟨fun l => l.outline ((Rgb.ofJson? (t.args.value "color")).getD Rgb.black) (t.number? "strokeWeight"), fun l hl => ?_,
      (subjects_settled .setStroke hs).bind fun ids d₁ es h =>
        h.paintEach hs fun c l => l.outline c (t.number? "strokeWeight")⟩
    rw [hbare hl]
    rfl
  | setOpacity =>
    refine ⟨fun l => l.fade (t.number? "opacity"), fun l hl => ?_,
      (subjects_settled .setOpacity hs).bind fun ids d₁ es h => h.dressEach hs⟩
    rw [hbare hl]
    rfl
  | move =>
    refine ⟨fun l => l.moveTo (t.number? "x") (t.number? "y"), fun l hl => ?_, target_dressed hs rfl⟩
    rw [hbare hl]
    rfl
  | resize =>
    refine ⟨fun l => l.resizeTo (t.number? "width") (t.number? "height"), fun l hl => ?_, ?_⟩
    · rw [hbare hl]
      rfl
    · refine .bind .requireTarget fun id d' es h => ?_
      obtain ⟨ht, rfl, rfl⟩ := h
      refine .bind (.requireTrait (onPage_of_targeted hs ht).lt) fun id' d₁ es₁ h => ?_
      obtain ⟨htrait, rfl, rfl, rfl⟩ := h
      exact (settled_target .resize ht htrait).dressOne hs
  | rotate =>
    refine ⟨fun l => l.turn (t.number? "rotation"), fun l hl => ?_, target_dressed hs rfl⟩
    rw [hbare hl]
    rfl
  | _ => obtain hc | hc := hc <;> cases hc

/-! ### Actions -/

variable {h : Host} {options : ExecutionOptions} {a : Action}

/-- An action has given the layers that it is meant for their new looks; what is selected and lacks the trait is named in one remark, and
nothing else has changed. -/
structure Restyling (op : Op) (a : Action) (d d' : Document) (es : List Event) : Prop where
  found : (Lookup.wanted? a.target).isSome → ∃ id, d.targeted a.target = some id ∧ d.capable (traitOf op) id
  layer : ∀ x, d'.layer? x =
    (d.layer? x).map fun l => if x ∈ subjectsOf d op a.target then { l with look := restyled a.args l.look op } else l
  page : d'.pageChildren = d.pageChildren
  selected : d'.liveSelection? = d.liveSelection?
  beside : d'.beside = { d.beside with selection := d'.selection }
  lacking : lacking es = if unfitOf d op a.target = [] then [] else [.skipped a.op (unfitOf d op a.target)]

theorem bare_of_reachable (hr : Reachable h) : h.document.Drawn Bare := by
  obtain ⟨h₀, hb, hr⟩ := hr
  exact hr.drawn (fun options a op _ => suits_bare _ op) hb.drawn

theorem outcomeOf_error (a : Action) (e : Halt) : outcomeOf a (.error e) ≠ .succeeded := by
  unfold outcomeOf
  split <;> simp_all

theorem perform_answers {R : Document → List Event → Prop} (hf : Fair h) (ha : opOf? a = some op)
    (hm : Answers h.document [] (handle op (taskOf options a)) fun _ => R) (hok : (perform options a h).1 = .succeeded) :
    R (perform options a h).2.2.document (perform options a h).2.1 := by
  have hend := hm ⟨h, []⟩ ⟨hf, rfl, rfl⟩
  rw [perform_eq, apply_of_opOf? ha] at hok ⊢
  dsimp only at hok ⊢
  rcases hr : (handle op (taskOf options a)).run ⟨h, []⟩ with ⟨e | u, r⟩ <;> rw [hr] at hend hok
  · exact absurd hok (outcomeOf_error a e)
  · show R r.host.document (r.events ++ [])
    rw [List.append_nil]
    exact hend.2

/-- A style or transform action that succeeds changes the layers that it is meant for, and of these only what it is about. -/
theorem restyling_exact (hr : Reachable h) (hf : Fair h) (ha : opOf? a = some op)
    (hc : op.spec.category = .style ∨ op.spec.category = .transform) (options : ExecutionOptions)
    (hok : (perform options a h).1 = .succeeded) :
    Restyling op a h.document (perform options a h).2.2.document (perform options a h).2.1 := by
  have hs := hr.sound
  obtain ⟨f, hbare, hm⟩ := handle_dresses hs hc (taskOf options a)
  obtain ⟨d₁, es₁, hsettled, hd, hsaid⟩ := perform_answers hf ha hm hok
  obtain ⟨hpage, hbeside, hselected⟩ := dress_same d₁ f (subjectsOf h.document op a.target)
  obtain ⟨nodes, rfl⟩ := hsettled.read
  have hselection : (perform options a h).2.2.document.selection = nodes := by
    rw [hd]
    exact congrArg (fun d : Document => d.selection) hbeside
  refine ⟨hsettled.found, fun x => ?_, hd ▸ hpage, hd ▸ hselected.trans hsettled.selected, ?_, hsaid.trans hsettled.said⟩
  · rw [hd]
    refine (layer?_dress (nodup_subjectsOf hs op a.target)).trans ?_
    show (h.document.layer? x).map _ = (h.document.layer? x).map _
    cases hl : h.document.layer? x with
    | none => rfl
    | some l =>
      have hl : Bare l.look := bare_of_reachable hr l.look (List.mem_map_of_mem (List.mem_of_getElem? hl))
      rw [Option.map_some, Option.map_some, hbare _ hl]
      rfl
  · rw [hselection, hd]
    exact hbeside

/-- A rectangle and a line, both selected. -/
def sketched : Host :=
  ((runActions {} [⟨"create_rectangle", [], .null⟩, ⟨"create_line", [], .null⟩, ⟨"select_all", [], .null⟩]).run {}).2

def fillRed : Action := ⟨"set_fill", [("color", .str "#ff0000")], .null⟩

theorem succeeded_of_tag {o : Outcome} (h : o.tag = .succeeded) : o = .succeeded := by
  cases o <;> first | rfl | cases h

/-- The rectangle is filled; the line, which has no inside, is named in a remark. -/
theorem sketched_filled : (perform {} fillRed sketched).1 = .succeeded ∧
    Restyling .setFill fillRed sketched.document (perform {} fillRed sketched).2.2.document (perform {} fillRed sketched).2.1 ∧
    subjectsOf sketched.document .setFill fillRed.target = [0] ∧ unfitOf sketched.document .setFill fillRed.target = [1] := by
  have hreach : Reaches (fun _ _ => True) {} sketched := runActions_reaches {} _ {}
  have hr : Reachable sketched := ⟨{}, ⟨"Page 1", false, rfl⟩, hreach⟩
  have hf : Fair sketched := Host.fair_of_none (hreach.rel Host.stepwise_faults)
  have ha : opOf? fillRed = some .setFill := by decide +kernel
  have hok : (perform {} fillRed sketched).1 = .succeeded := succeeded_of_tag (by decide +kernel)
  exact ⟨hok, restyling_exact hr hf ha (.inl rfl) {} hok, by decide +kernel, by decide +kernel⟩

end Execution

end Easel
