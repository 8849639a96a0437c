import Easel.Proofs.Execution.Safety

/-!
Where layers end up. While a layer is made it hangs nowhere, but what whole actions leave behind hangs on the page or on a layer, or
was removed, on every host of which no calls fail but those that load fonts.
-/

namespace Easel

open Document

variable {d : Document} {p : Node} {id x : Nat} {place : List Nat → List Nat}

namespace Document

/-- A layer that was made, and hangs somewhere or was removed. -/
structure Placed (d : Document) (x : LayerId) : Prop where
  lt : x < d.layers.length
  placed : d.isRemoved x = true ∨ d.parentOf x ≠ none

theorem parentOf_attach_of_ne (hx : x ≠ id) : (d.attach p id place).parentOf x = d.parentOf x := by
  have hset : (((d.detach id).updateChildren p place).update id fun l => { l with parent := some p }).parentOf x =
      ((d.detach id).updateChildren p place).parentOf x := by
    rw [parentOf, parentOf, layer?_update]
    cases ((d.detach id).updateChildren p place).layer? x <;> simp [hx]
  rw [attach, hset, parentOf_updateChildren, parentOf_detach, if_neg hx]

theorem mem_walk_self (hx : x < d.layers.length) : x ∈ d.walk x := by
  obtain ⟨k, hk⟩ := Nat.exists_eq_add_one_of_ne_zero (Nat.ne_zero_of_lt hx)
  rw [walk, hk]
  exact List.mem_cons_self

namespace Placed

theorem attach (h : d.Placed x) : (d.attach p id place).Placed x := by
  refine ⟨by rw [length_attach]; exact h.lt, ?_⟩
  by_cases hid : x = id
  · subst hid
    refine .inr ?_
    rw [parentOf_attach h.lt, if_pos rfl]
    simp
  · rw [isRemoved_attach, parentOf_attach_of_ne hid]
    exact h.placed

theorem remove (h : d.Placed x) : (d.remove id).Placed x := by
  refine ⟨by rw [length_remove]; exact h.lt, ?_⟩
  by_cases hid : x = id
  · subst hid
    -- A layer that is taken off hangs nowhere after that, but the walk that marks it starts at it.
    have hwalk : x ∈ (d.detach x).walk x := mem_walk_self (by rw [length_detach]; exact h.lt)
    refine .inl ?_
    rw [Document.remove, isRemoved_markRemoved, length_detach]
    simp [h.lt, hwalk]
  · refine h.placed.imp (fun hr => ?_) fun hp => ?_
    · rw [Document.remove, isRemoved_markRemoved, isRemoved_detach, hr, Bool.true_or]
    · rwa [parentOf_remove, if_neg hid]

theorem edit {f : Document → Document} (hf : Document.Edit f) (h : d.Placed x) : (f d).Placed x := by
  cases hf with
  | look id f =>
    have hl : (d.updateLook id f).layers.length = d.layers.length := length_update
    have hr : (d.updateLook id f).isRemoved x = d.isRemoved x := isRemoved_update fun _ => rfl
    have hp : (d.updateLook id f).parentOf x = d.parentOf x := parentOf_update fun _ => rfl
    exact ⟨hl ▸ h.lt, by rw [hr, hp]; exact h.placed⟩
  | append | insert => exact h.attach
  | remove => exact h.remove
  | removeLive id =>
    dsimp only
    split
    · exact h
    · exact h.remove
  | gather g ids p => exact List.foldlRecOn (motive := fun d : Document => d.Placed x) ids _ h.attach fun _ h _ _ => h.attach
  | dissolve g p =>
    have hreleased : (d.release g p).Placed x := List.foldlRecOn (motive := fun d : Document => d.Placed x) _ _ h fun _ h _ _ => h.attach
    exact hreleased.remove
  | select | zoom | notify | putData => exact ⟨h.lt, h.placed⟩
  | addFont family style =>
    dsimp only [addFont]
    split <;> exact ⟨h.lt, h.placed⟩

theorem create {look : Look} (h : d.Placed x) : (d.create look).2.Placed x := by
  refine ⟨by rw [length_create]; exact Nat.lt_succ_of_lt h.lt, ?_⟩
  rw [isRemoved_create, parentOf_create]
  exact h.placed

theorem unmoved {d₁ : Document} (h : d.Placed x) (hm : d.Moved [] none d₁) : d₁.Placed x := by
  refine ⟨by rw [hm.length]; exact h.lt, ?_⟩
  rw [hm.isRemoved, hm.parentOf]
  exact h.placed

end Placed

/-- No layer is left hanging nowhere, unless it was removed. -/
def AllPlaced (d : Document) : Prop := ∀ x < d.layers.length, d.Placed x

theorem steady_allPlaced : Steady AllPlaced := by
  intro d d₁ h hm x hx
  rw [hm.length] at hx
  exact (h x hx).unmoved hm

end Document

/-- What hangs somewhere, or was removed, is never taken from there but to be hung elsewhere, or to be removed. -/
theorem Host.stepwise_placed : Host.Stepwise fun h h' => ∀ x, h.document.Placed x → h'.document.Placed x where
  refl _ _ hx := hx
  trans h h' x hx := h' x (h x hx)
  enter _ _ hx := hx
  create _ _ _ hx := hx.create
  edit hf _ _ hx := hx.edit hf

namespace Execution

open Host (Fair)

variable {options : ExecutionOptions} {a : Action} {h h' : Host}

/-- The new layers of an action that succeeds are hung, and those of one that fails are no more. -/
theorem perform_allPlaced (options : ExecutionOptions) (a : Action) (hs : h.document.Sound) (hf : Fair h)
    (hp : h.document.AllPlaced) : (perform options a h).2.2.document.AllPlaced := by
  cases ha : opOf? a with
  | none =>
    rw [(perform_of_opOf? options h ha).1]
    exact hp
  | some op =>
    obtain ⟨hop, -⟩ | ⟨-, ho | ⟨e, ho, -⟩⟩ := perform_cases options a h
    · rw [opOf?, hop, ite_self] at ha
      cases ha
    · -- What was there before stays placed through the action; what it made is housed at its end.
      intro x hx
      by_cases hold : x < h.document.layers.length
      · exact perform_rel Host.stepwise_placed options a h x (hp x hold)
      · obtain ⟨-, -, hend⟩ := perform_does options hs ha
        exact ⟨hx, .inr ((hend ho).housed x (Nat.le_of_not_lt hold) hx)⟩
    · rw [(perform_failed hs hf ho).1]
      exact hp

theorem Reaches.allPlaced (hr : Reaches (fun _ _ => True) h h') (hs : h.document.Sound) (hf : Fair h) (hp : h.document.AllPlaced) :
    h'.document.AllPlaced := by
  induction hr with
  | refl => exact hp
  | @tail h₁ h₂ hr hm ih =>
    cases hm with
    | act options report a => exact step_steady steady_allPlaced report (perform_allPlaced options a (Reaches.sound hr hs) (Reaches.fair hr hf) ih)
    | notify message => exact notify_steady steady_allPlaced ih message

/-- Whatever was made and not removed hangs on the page or on a layer. -/
theorem Reachable.allPlaced (hr : Reachable h) (hf : Fair h) : h.document.AllPlaced := by
  obtain ⟨h₀, hb, hr⟩ := hr
  refine hr.allPlaced (blank_sound hb) (fun n call hc => ?_) ?_
  · rw [← hr.rel Host.stepwise_faults]
    exact hf n call hc
  · obtain ⟨pageName, fontsFail, hb⟩ := hb
    rw [hb]
    exact fun x hx => absurd hx (Nat.not_lt_zero x)

end Execution

end Easel
