import Easel.Proofs.Document.Groups

/-!
Layers that are taken off with all below them. What is left of the document is as it was, but for the lists of children, which are
passed over without the layers that are gone; so is the walk over the page.
-/

namespace Easel.Document

variable {gone gone' : Nat → Prop} {d d' d₁ d₂ : Document} {n : Node} {id x : Nat} {ids v : List Nat}

/-- The layers of a list that are not gone, in their order. -/
noncomputable def spare (gone : LayerId → Prop) (ids : List LayerId) : List LayerId :=
  open Classical in ids.filter fun x => ¬gone x

theorem mem_spare : x ∈ spare gone ids ↔ x ∈ ids ∧ ¬gone x := by simp [spare]

theorem spare_congr (h : ∀ x ∈ ids, gone x ↔ gone' x) : spare gone ids = spare gone' ids :=
  List.filter_congr fun x hx => by simp [h x hx]

theorem spare_spare : spare gone' (spare gone ids) = spare (fun x => gone x ∨ gone' x) ids := by
  rw [spare, spare, spare, List.filter_filter]
  exact List.filter_congr fun x _ => by by_cases hx : gone x <;> simp [hx]

theorem spare_append (a b : List Nat) : spare gone (a ++ b) = spare gone a ++ spare gone b := List.filter_append ..

theorem spare_cons_gone (gone : Nat → Prop) (h : gone x) : spare gone (x :: ids) = spare gone ids := by simp [spare, h]

theorem spare_cons_left (gone : Nat → Prop) (h : ¬gone x) : spare gone (x :: ids) = x :: spare gone ids := by simp [spare, h]

theorem spare_eq_self (h : ∀ x ∈ ids, ¬gone x) : spare gone ids = ids :=
  List.filter_eq_self.2 fun x hx => by simp [h x hx]

/-- The layers of `gone` are taken off, each with all below it, and nothing else has changed. -/
structure Pruned (gone : LayerId → Prop) (d d' : Document) : Prop where
  closed : ∀ x p, d.parentOf x = some (.layer p) → gone p → gone x
  left : ∀ x, ¬gone x → d'.layer? x = (d.layer? x).map fun l => { l with children := spare gone l.children }
  page : d'.pageChildren = spare gone d.pageChildren
  removed : ∀ x, gone x → d'.isRemoved x = true
  looks : d'.looks = d.looks
  linked : d'.Linked
  beside : d'.beside = d.beside

namespace Pruned

theorem refl (hl : d.Linked) : d.Pruned (fun _ => False) d where
  closed _ _ _ h := h
  left x _ := by
    have hkeep (l : List Nat) : spare (fun _ => False) l = l := spare_eq_self fun _ _ => id
    cases d.layer? x <;> simp [hkeep]
  page := (spare_eq_self fun _ _ => id).symm
  removed _ h := h.elim
  looks := rfl
  linked := hl
  beside := rfl

theorem congr (h : d.Pruned gone d') (hg : ∀ x, gone x ↔ gone' x) : d.Pruned gone' d' := by
  obtain rfl : gone = gone' := funext fun x => propext (hg x)
  exact h

theorem parentOf (h : d.Pruned gone d') (hx : ¬gone x) : d'.parentOf x = d.parentOf x := by
  rw [Document.parentOf, Document.parentOf, h.left x hx]
  cases d.layer? x <;> rfl

theorem isRemoved (h : d.Pruned gone d') : d'.isRemoved x = true ↔ d.isRemoved x = true ∨ gone x := by
  by_cases hx : gone x
  · exact ⟨fun _ => .inr hx, fun _ => h.removed x hx⟩
  · rw [Document.isRemoved, Document.isRemoved, h.left x hx, or_iff_left hx]
    cases d.layer? x <;> rfl

theorem childrenOf (h : d.Pruned gone d') (hx : ¬gone x) :
    d'.childrenOf (.layer x) = spare gone (d.childrenOf (.layer x)) := by
  rw [Document.childrenOf, Document.childrenOf, h.left x hx]
  cases d.layer? x <;> rfl

theorem length (h : d.Pruned gone d') : d'.layers.length = d.layers.length := by
  simpa [Document.looks] using congrArg List.length h.looks

theorem selection (h : d.Pruned gone d') : d'.selection = d.selection := selection_of_beside h.beside

/-- The way up from a layer that is left leads past none that is gone. -/
theorem under_iff (h : d.Pruned gone d') (hx : ¬gone x) : d'.Under (.layer x) n ↔ d.Under (.layer x) n := by
  refine under_congr fun m hm => ?_
  have hleft : ∀ y, m = .layer y → ¬gone y := by
    refine fun y hy hgone => hx ?_
    subst hy
    have hall : ∀ z, Node.layer x = .layer z → gone z := by
      refine hm.induction (motive := fun n => ∀ z, n = .layer z → gone z) ?_ ?_
      · rintro z ⟨⟩
        exact hgone
      · rintro n m' hup hm' ih z rfl
        cases m' with
        | page => exact absurd hm'.page nofun
        | layer p => exact h.closed z p hup (ih p rfl)
    exact hall x rfl
  cases m with
  | page => rfl
  | layer y => exact h.parentOf (hleft y rfl)

theorem trans (h : d.Pruned gone d₁) (h' : d₁.Pruned gone' d₂) : d.Pruned (fun x => gone x ∨ gone' x) d₂ where
  closed x p hp hgone := by
    by_cases hx : gone x
    · exact .inl hx
    · refine .inr (h'.closed x p ((h.parentOf hx).trans hp) (hgone.resolve_left fun hg => hx (h.closed x p hp hg)))
  left x hx := by
    obtain ⟨hx, hx'⟩ := not_or.1 hx
    rw [h'.left x hx', h.left x hx, Option.map_map]
    congr 1
    funext l
    exact congrArg (fun ids => { l with children := ids }) spare_spare
  page := by rw [h'.page, h.page, spare_spare]
  removed x hx := h'.isRemoved.2 (hx.imp_left (h.removed x))
  looks := h'.looks.trans h.looks
  linked := h'.linked
  beside := h'.beside.trans h.beside

end Pruned

/-! ### The walk over what is left -/

/-- A walk that passes over what is gone is the old walk without it. -/
theorem Visits.spare (hclosed : ∀ x, gone x → ∀ c ∈ d.childrenOf (.layer x), gone c)
    (hleft : ∀ x, ¬gone x → d'.childrenOf (.layer x) = Document.spare gone (d.childrenOf (.layer x))) (hv : d.Visits ids v) :
    d'.Visits (Document.spare gone ids) (Document.spare gone v) ∧ ((∀ id ∈ ids, gone id) → Document.spare gone v = []) := by
  induction hv with
  | nil => exact ⟨.nil, fun _ => rfl⟩
  | @cons id ids below rest _ _ ihbelow ihrest =>
    rw [List.cons_append]
    by_cases hid : gone id
    · -- All below a layer that is gone is gone too.
      have hnone : Document.spare gone below = [] := ihbelow.2 (hclosed id hid)
      rw [spare_cons_gone gone hid, spare_cons_gone gone hid, spare_append, hnone, List.nil_append]
      exact ⟨ihrest.1, fun h => ihrest.2 fun y hy => h y (List.mem_cons_of_mem _ hy)⟩
    · rw [spare_cons_left gone hid, spare_cons_left gone hid, spare_append]
      refine ⟨.cons ?_ ihrest.1, fun h => absurd (h id List.mem_cons_self) hid⟩
      rw [hleft id hid]
      exact ihbelow.1

theorem Pruned.all (h : d.Pruned gone d') (hl : d.Linked) : d'.all = Document.spare gone d.all := by
  have hwalk : d'.Visits (Document.spare gone d.pageChildren) (Document.spare gone d.all) := by
    refine (Visits.spare (fun x hx c hc => ?_) (fun x hx => h.childrenOf hx) (visits_all hl)).1
    exact h.closed c x (hl.mem_iff.1 hc) hx
  have hv : d'.Visits d'.pageChildren d'.all := visits_all h.linked
  rw [h.page] at hv
  exact hwalk.unique hv

/-! ### Removal -/

/-- The list of children of a container that stays. -/
theorem childrenOf_remove (hl : d.Linked) (hc : ¬d.Under n (.layer id)) :
    (d.remove id).childrenOf n = spare (fun x => d.Under (.layer x) (.layer id)) (d.childrenOf n) := by
  -- A child of what stays is below `id` only if it is `id`.
  have hbelow (x : Nat) (hx : x ∈ d.childrenOf n) : d.Under (.layer x) (.layer id) ↔ x = id := by
    refine ⟨fun h => ?_, fun h => h ▸ .refl⟩
    obtain he | ⟨m, hm, hmid⟩ := h.eq_or_up
    · exact Node.layer.inj he
    · cases (hl.mem_iff.1 hx).symm.trans hm
      exact absurd hmid hc
  rw [spare_congr hbelow, remove, childrenOf_markRemoved, childrenOf_detach, (hl.nodup n).erase_eq_filter]
  have hfilter : (d.childrenOf n).filter (· != id) = spare (· = id) (d.childrenOf n) :=
    List.filter_congr fun x _ => by simp [bne, Bool.beq_eq_decide_eq]
  rw [hfilter]
  split
  · rfl
  · rename_i hp
    refine (spare_eq_self fun x hx => ?_).symm
    rintro rfl
    exact hp (hl.mem_iff.1 hx)

theorem Pruned.remove (hl : d.Linked) (hid : id < d.layers.length) :
    d.Pruned (fun x => d.Under (.layer x) (.layer id)) (d.remove id) where
  closed x p hp h := .step hp h
  left x hx := by
    refine layer?_eq_map (by rw [looks_remove]) ?_ ?_ (childrenOf_remove hl hx)
    · rw [parentOf_remove, if_neg]
      rintro rfl
      exact hx .refl
    · rw [Bool.eq_iff_iff, isRemoved_remove hl hid, or_iff_left hx]
  page := childrenOf_remove (n := .page) hl fun h => by cases h.page
  removed x hx := (isRemoved_remove hl hid).2 (.inr hx)
  looks := looks_remove
  linked := hl.remove
  beside := beside_remove

/-! ### One removal after the other -/

/-- A layer that went with another one is not removed again. -/
def removeLive (d : Document) (id : LayerId) : Document :=
  if d.isRemoved id then d else d.remove id

/-- One of the live layers among `ids`, or below one of them. -/
def Among (d : Document) (ids : List LayerId) (x : LayerId) : Prop :=
  ∃ s ∈ ids, d.isRemoved s = false ∧ d.Under (.layer x) (.layer s)

theorem among_concat : d.Among (ids ++ [id]) x ↔ d.Among ids x ∨ d.isRemoved id = false ∧ d.Under (.layer x) (.layer id) := by
  simp only [Among, List.mem_append, List.mem_singleton, or_and_right, exists_or, exists_eq_left]

theorem Pruned.removeLive (h : d.Pruned (d.Among ids) d') (hid : id < d.layers.length) :
    d.Pruned (d.Among (ids ++ [id])) (d'.removeLive id) := by
  unfold Document.removeLive
  split
  · -- It was removed to begin with, or it is below one that was removed since.
    rename_i hr
    refine h.congr fun x => ?_
    rw [among_concat]
    refine ⟨.inl, fun hx => hx.elim (fun hx => hx) fun ⟨hlive, hx⟩ => ?_⟩
    obtain hgone | ⟨s, hs, hlive', hids⟩ := h.isRemoved.1 hr
    · rw [hlive] at hgone
      cases hgone
    · exact ⟨s, hs, hlive', hx.trans hids⟩
  · rename_i hr
    have hlive : d.isRemoved id = false := Bool.eq_false_iff.2 fun hgone => hr (h.isRemoved.2 (.inl hgone))
    refine (h.trans (.remove h.linked (h.length ▸ hid))).congr fun x => ?_
    rw [among_concat]
    by_cases hx : d.Among ids x
    · simp [hx]
    · rw [h.under_iff hx]
      simp [hlive]

theorem Pruned.foldl (h : d.Pruned (d.Among ids) d') {more : List Nat} (hmore : ∀ id ∈ more, id < d.layers.length) :
    d.Pruned (d.Among (ids ++ more)) (more.foldl Document.removeLive d') := by
  induction more generalizing ids d' with
  | nil =>
    rw [List.append_nil]
    exact h
  | cons id rest ih =>
    have hnext := ih (h.removeLive (hmore id List.mem_cons_self)) fun y hy => hmore y (List.mem_cons_of_mem _ hy)
    rw [List.append_assoc] at hnext
    exact hnext

/-- Layers removed one after the other, in whatever order, are gone with all below them. -/
theorem pruned_removeAll (hl : d.Linked) (hids : ∀ id ∈ ids, id < d.layers.length) :
    d.Pruned (d.Among ids) (ids.foldl removeLive d) := by
  have hstart : d.Pruned (d.Among []) d := (Pruned.refl hl).congr fun x => by simp [Among]
  exact hstart.foldl hids

end Easel.Document
