import Easel.Proofs.Execution.Attaching
import Easel.Proofs.Execution.Safety

/-!
What an action works on, and what comes of it on a host of which no calls fail but those that load fonts: the layer that its target
means, or what is selected, whatever that is.
-/

namespace Easel

open Document

variable {α : Type} {P : Document → Prop} {d : Document} {ref : String} {id : Nat} {ids : List Nat}

/-- The layer that a target means: the one of that number, or else the one whose name fits best. -/
def Document.targeted (d : Document) (v : Json) : Option LayerId :=
  (Lookup.wanted? v).bind fun ref => (d.referred ref).head?

/-- The host with other layers selected. -/
def Host.selecting (h : Host) (ids : List LayerId) : Host :=
  { h with document := { h.document with selection := ids.map .layer } }

theorem Document.mem_targeted {v : Json} (h : d.targeted v = some id) : id ∈ d.all := by
  obtain ⟨ref, -, h⟩ := Option.bind_eq_some_iff.1 h
  exact mem_referred (List.mem_of_head? h)

theorem Document.onPage_of_targeted (hs : d.Sound) {v : Json} (h : d.targeted v = some id) : d.OnPage id :=
  (mem_all hs.linked).1 (mem_targeted h)

/-- A layer on the page is meant by its number. -/
theorem Document.targeted_text (h : id ∈ d.all) : d.targeted (.str (LayerId.text id)) = some id := by
  have hw : Lookup.wanted? (.str (LayerId.text id)) = some (LayerId.text id) := by
    simp [Lookup.wanted?, Json.string?, LayerId.text]
  have hfind : d.all.find? (LayerId.text · = LayerId.text id) = some id := by
    obtain ⟨m, hm⟩ := Option.isSome_iff_exists.1 (List.find?_isSome.2 ⟨id, h, by simp⟩ :
      (d.all.find? (LayerId.text · = LayerId.text id)).isSome)
    have htext : LayerId.text m = LayerId.text id := by simpa using List.find?_some hm
    rw [hm, Execution.text_injective htext]
  rw [targeted, hw, Option.bind_some, referred, hfind]
  rfl

theorem Document.all_select {nodes : List Node} (hl : d.Linked) : ({ d with selection := nodes } : Document).all = d.all :=
  all_congr hl hl fun c => by cases c <;> rfl

theorem Document.under_select {nodes : List Node} {n a : Node} : ({ d with selection := nodes } : Document).Under n a ↔ d.Under n a :=
  under_of_same fun _ => rfl

theorem Document.liveSelection_layers (ids : List LayerId) :
    ({ d with selection := ids.map .layer } : Document).liveSelection? = some (ids.filter fun id => !d.isRemoved id) := by
  have hlayers : (ids.map Node.layer).mapM Node.layer? = some ids := by
    induction ids with
    | nil => rfl
    | cons id rest ih =>
      rw [List.map_cons, List.mapM_cons, ih]
      rfl
  show ((ids.map Node.layer).mapM Node.layer?).map _ = _
  rw [hlayers]
  rfl

namespace Host.Completes

theorem targeted {v : Json} (hw : Lookup.wanted? v = some ref) :
    Completes P (Lookup.target v) fun found d => P d ∧ found = (d.referred ref).head? := by
  refine .bind (numbered hw) fun found => ?_
  split
  · rename_i id
    refine .pure fun d h => ⟨h.1, ?_⟩
    rw [Document.referred, ← h.2]
    rfl
  · exact .bind (named hw) fun ids => .pure fun d h => ⟨h.1, h.2 ▸ rfl⟩

theorem getSelection (hids : d.liveSelection? = some ids) : Completes (fun d' => d' = d) Host.getSelection fun found d' =>
    found = ids ∧ d' = { d with selection := ids.map .layer } := by
  refine .bind (.enter (by decide)) fun _ => .bind .view fun d₁ => .intro ?_
  rintro d₁ ⟨rfl, rfl⟩
  rw [hids]
  have hedit : Completes (fun d' => d' = d₁) (Host.edit ({ · with selection := ids.map .layer })) fun _ d' =>
      d' = { d₁ with selection := ids.map .layer } := .edit fun _ he => he ▸ rfl
  exact .bind hedit fun _ => .pure fun _ h => ⟨rfl, h⟩

/-- The selection as the next one to read it finds it. -/
theorem run_getSelection {h : Host} (hf : Fair h) (hids : h.document.liveSelection? = some ids) :
    (Host.getSelection.run h).1 = .ok ids := by
  have hread := getSelection hids h ⟨hf, rfl⟩
  rcases hr : Host.getSelection.run h with ⟨e | found, h'⟩ <;> rw [hr] at hread
  · exact hread.elim
  · exact congrArg Except.ok hread.2.1

end Host.Completes

namespace Execution

open Host (Fair)

variable {t : Task} {options : ExecutionOptions} {a : Action} {op : Op} {h : Host} {Q : Document → Prop}

namespace Completes

theorem requireTarget (ht : d.targeted t.target = some id) :
    Completes (fun d' => d' = d) (requireTarget t) fun found d' => d' = d ∧ found = id := by
  obtain ⟨ref, hw, href⟩ := Option.bind_eq_some_iff.1 ht
  unfold Execution.requireTarget
  simp only [hw]
  refine .bind (.call (.targeted hw)) fun found => .intro ?_
  rintro d' ⟨rfl, rfl⟩
  rw [href]
  exact .pure fun _ he => ⟨he, rfl⟩

/-- A layer that was not removed is dealt with. -/
theorem ifAlive_live {act : Handler Unit} (hlive : d.isRemoved id = false) (h : Completes (fun d' => d' = d) act fun _ => Q) :
    Completes (fun d' => d' = d) (Execution.ifAlive id act) fun _ => Q := by
  refine .bind .view fun d' => .intro ?_
  rintro d' ⟨rfl, rfl⟩
  rw [hlive]
  exact h

/-- A layer that was removed is left alone. -/
theorem ifAlive_removed {act : Handler Unit} (hr : d.isRemoved id = true) :
    Completes (fun d' => d' = d) (Execution.ifAlive id act) fun _ d' => d' = d := by
  refine .bind .view fun d' => .intro ?_
  rintro d' ⟨rfl, rfl⟩
  rw [hr]
  exact .emit

theorem edit (f : Document → Document) :
    Completes (fun d' => d' = d) (liftM (Host.edit f) : Handler Unit) fun _ d' => d' = f d :=
  .call (.edit fun _ he => he ▸ rfl)

/-- What is done to each layer depends on the document as the ones before have left it. -/
theorem forM {f : α → Handler PUnit} {g : Document → α → Document}
    (hstep : ∀ d a, Completes (fun d' => d' = d) (f a) fun _ d' => d' = g d a) (items : List α) :
    Completes (fun d' => d' = d) (items.forM f) fun _ d' => d' = items.foldl g d := by
  induction items generalizing d with
  | nil => exact .pure fun _ h => h
  | cons a rest ih =>
    refine .bind (hstep d a) fun _ => .intro fun d' hd => ?_
    rw [hd]
    exact ih

end Completes

/-- What an action has come to if its handler comes to its end. -/
theorem perform_completes (options : ExecutionOptions) (hf : Fair h) (ha : opOf? a = some op)
    (hm : Completes (fun d => d = h.document) (handle op (taskOf options a)) fun _ => Q) :
    (perform options a h).1 = .succeeded ∧ Fair (perform options a h).2.2 ∧ Q (perform options a h).2.2.document := by
  have hend := hm ⟨h, []⟩ ⟨hf, rfl⟩
  rw [perform_eq, apply_of_opOf? ha]
  rcases hr : (handle op (taskOf options a)).run ⟨h, []⟩ with ⟨e | u, r⟩ <;> rw [hr] at hend
  · exact hend.elim
  · exact ⟨rfl, hend⟩

end Execution

end Easel
