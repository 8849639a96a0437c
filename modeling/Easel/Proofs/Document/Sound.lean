import Easel.Proofs.Document.Moves

/-!
What holds of every document that actions can leave, edit by edit. It is not that all layers make one tree: a layer grouped
together with what it hangs on hangs on itself from then on, off the page.
-/

namespace Easel.Document

variable {d d₁ : Document} {n a p : Node} {q : Option Node} {id g x : Nat} {S ids : List Nat}

/-- A selected layer that was not removed. -/
def Chosen (d : Document) (id : LayerId) : Prop := .layer id ∈ d.selection ∧ d.isRemoved id = false

/-- All that is chosen is on the page, or none of it is, and then each chosen layer hangs on one that is not selected. -/
def Together (d : Document) : Prop :=
  (∀ id, d.Chosen id → d.OnPage id) ∨
    ∀ id, d.Chosen id → ¬d.OnPage id ∧ ∃ p, d.parentOf id = some p ∧ p ∉ d.selection

/-- A layer is removed if and only if what it hangs on is. -/
def Alike (d : Document) : Prop :=
  ∀ id p, d.parentOf id = some p → d.isRemoved id = d.isGone p

structure Sound (d : Document) : Prop where
  linked : d.Linked
  container : ∀ id p, d.parentOf id = some p → d.isContainer p
  alike : d.Alike
  selected : ∀ n ∈ d.selection, ∃ id < d.layers.length, n = .layer id
  nodup : d.selection.Nodup
  together : d.Together

theorem OnPage.exists_parent (h : d.OnPage id) : ∃ p, d.parentOf id = some p ∧ d.Under p .page := by
  obtain h | h := h.eq_or_up
  · cases h
  · exact h

theorem OnPage.lt (h : d.OnPage id) : id < d.layers.length := by
  obtain ⟨p, hp, -⟩ := h.exists_parent
  exact lt_of_parentOf hp

/-- What is under a layer was removed with it. -/
theorem Sound.isRemoved_of_under (hs : d.Sound) (h : d.Under (.layer x) n) : d.isRemoved x = d.isGone n := by
  refine h.induction (motive := fun m => d.isGone m = d.isGone n) rfl ?_
  intro m m' hup _ ih
  obtain ⟨y, rfl, hy⟩ := up_eq_some hup
  exact (hs.alike y m' hy).trans ih

theorem Sound.live_of_onPage (hs : d.Sound) (h : d.OnPage x) : d.isRemoved x = false := hs.isRemoved_of_under h

theorem Moved.isGone (h : d.Moved S q d₁) (p : Node) : d₁.isGone p = d.isGone p := by
  cases p with
  | page => rfl
  | layer k => exact h.isRemoved k

theorem Moved.chosen (h : d.Moved S q d₁) : d₁.Chosen x ↔ d.Chosen x := by
  rw [Chosen, Chosen, h.selection, h.isRemoved]

theorem Alike.moved (ha : d.Alike) (h : d.Moved S q d₁) (hq : ∀ s ∈ S, ∀ p, q = some p → d.isRemoved s = d.isGone p) :
    d₁.Alike := by
  intro x p hx
  rw [h.isRemoved, h.isGone]
  rw [h.parentOf] at hx
  split at hx
  · rename_i hxS
    exact hq x hxS p hx
  · exact ha x p hx

theorem Sound.moved (hs : d.Sound) (h : d.Moved S q d₁)
    (hq : ∀ s ∈ S, ∀ p, q = some p → d.isContainer p ∧ d.isRemoved s = d.isGone p) (ht : d₁.Together) : d₁.Sound where
  linked := h.linked hs.linked
  container x p hx := by
    rw [isContainer_congr h.kindOf]
    rw [h.parentOf] at hx
    split at hx
    · rename_i hxS
      exact (hq x hxS p hx).1
    · exact hs.container x p hx
  alike := hs.alike.moved h fun s hsS p hp => (hq s hsS p hp).2
  selected := by rw [h.selection, h.length]; exact hs.selected
  nodup := by rw [h.selection]; exact hs.nodup
  together := ht

theorem Moved.together (h : d.Moved S q d₁) (ht : d.Together) (hon : ∀ x, d.Chosen x → d.OnPage x → d₁.OnPage x)
    (hoff : ∀ x, d.Chosen x → ¬d.OnPage x → (∃ p, d.parentOf x = some p ∧ p ∉ d.selection) →
      ¬d₁.OnPage x ∧ ∃ p, d₁.parentOf x = some p ∧ p ∉ d.selection) : d₁.Together := by
  refine ht.imp (fun ht x hx => ?_) fun ht x hx => ?_
  · rw [h.chosen] at hx
    exact hon x hx (ht x hx)
  · rw [h.chosen] at hx
    rw [h.selection]
    exact hoff x hx (ht x hx).1 (ht x hx).2

theorem under_of_same (h : ∀ x, d₁.parentOf x = d.parentOf x) : d₁.Under n a ↔ d.Under n a := by
  refine under_congr fun m _ => ?_
  cases m with
  | page => rfl
  | layer x => exact h x

/-- No layer comes to hang elsewhere. -/
theorem Sound.still (hs : d.Sound) (h : d.Moved S q d₁) (hp : ∀ x, d₁.parentOf x = d.parentOf x) : d₁.Sound := by
  refine hs.moved h (fun s hsS p hqp => ?_) (h.together hs.together (fun x _ hx => (under_of_same hp).2 hx) ?_)
  · have hsp : d.parentOf s = some p := by rw [← hp, h.parentOf_mem hsS, hqp]
    exact ⟨hs.container s p hsp, hs.alike s p hsp⟩
  · rintro x - hx ⟨p, hxp, hsel⟩
    exact ⟨fun hx' => hx ((under_of_same hp).1 hx'), p, (hp x).trans hxp, hsel⟩

theorem onPage_select {nodes : List Node} : ({ d with selection := nodes } : Document).OnPage x ↔ d.OnPage x :=
  under_of_same fun _ => rfl

theorem Sound.select (hs : d.Sound) (hids : ∀ id ∈ ids, d.OnPage id) (hn : ids.Nodup) :
    ({ d with selection := ids.map .layer } : Document).Sound where
  linked := hs.linked
  container := hs.container
  alike := hs.alike
  selected n hmem := by
    obtain ⟨id, hid, rfl⟩ := List.mem_map.1 hmem
    exact ⟨id, (hids id hid).lt, rfl⟩
  nodup := hn.map fun _ _ h => Node.layer.inj h
  together := by
    refine .inl fun x hx => ?_
    obtain ⟨id, hid, he⟩ := List.mem_map.1 hx.1
    cases he
    exact onPage_select.2 (hids x hid)

/-! ### The live selection -/

theorem mem_liveSelection (h : d.liveSelection? = some ids) : x ∈ ids ↔ d.Chosen x := by
  obtain ⟨l, hl, rfl⟩ := Option.map_eq_some_iff.1 h
  -- If the page is not selected nothing is passed over.
  have hmem : x ∈ l ↔ .layer x ∈ d.selection := by
    clear h
    generalize d.selection = nodes at hl ⊢
    induction nodes generalizing l with
    | nil => cases hl; simp
    | cons n rest ih =>
      rw [List.mapM_cons] at hl
      obtain ⟨k, hk, hl⟩ := Option.bind_eq_some_iff.1 hl
      obtain ⟨l', hl', hcons⟩ := Option.bind_eq_some_iff.1 hl
      cases hcons
      cases n with
      | page => cases hk
      | layer y =>
        cases hk
        rw [List.mem_cons, ih l' hl', List.mem_cons]
        simp
  simp [hmem, Chosen]

theorem Sound.liveSelection (hs : d.Sound) :
    ∃ ids, d.liveSelection? = some ids ∧ ids.Nodup ∧ ∀ id ∈ ids, id < d.layers.length := by
  have hlayers : ∃ l : List Nat, d.selection = l.map .layer := by
    have hsel := hs.selected
    generalize d.selection = nodes at hsel
    induction nodes with
    | nil => exact ⟨[], rfl⟩
    | cons n rest ih =>
      obtain ⟨l, hl⟩ := ih fun n hn => hsel n (List.mem_cons_of_mem _ hn)
      obtain ⟨id, -, rfl⟩ := hsel n List.mem_cons_self
      exact ⟨id :: l, by rw [hl]; rfl⟩
  obtain ⟨l, hl⟩ := hlayers
  have hm : d.selection.mapM Node.layer? = some l := by
    rw [hl]
    clear hl
    induction l with
    | nil => rfl
    | cons id rest ih => rw [List.map_cons, List.mapM_cons, ih]; rfl
  refine ⟨l.filter fun id => !d.isRemoved id, by rw [liveSelection?, hm]; rfl, ?_, fun id hid => ?_⟩
  · have hn := hs.nodup
    rw [hl] at hn
    exact (List.Nodup.of_map _ hn).filter _
  · have hmem : .layer id ∈ d.selection := by
      rw [hl]
      exact List.mem_map_of_mem (List.mem_of_mem_filter hid)
    obtain ⟨k, hk, he⟩ := hs.selected _ hmem
    cases he
    exact hk

/-- Reading the selection changes it, but not what is chosen. -/
theorem Sound.read (hs : d.Sound) (h : d.liveSelection? = some ids) :
    ({ d with selection := ids.map .layer } : Document).Sound := by
  obtain ⟨ids', h', hn, hlt⟩ := hs.liveSelection
  obtain rfl : ids = ids' := by rw [h] at h'; cases h'; rfl
  have hsub : ∀ n ∈ ids.map Node.layer, n ∈ d.selection := by
    intro n hmem
    obtain ⟨id, hid, rfl⟩ := List.mem_map.1 hmem
    exact ((mem_liveSelection h).1 hid).1
  refine ⟨hs.linked, hs.container, hs.alike, fun n hmem => hs.selected n (hsub n hmem),
    hn.map fun _ _ h => Node.layer.inj h, ?_⟩
  refine hs.together.imp (fun ht x hx => ?_) fun ht x hx => ?_
  · exact onPage_select.2 (ht x ⟨hsub _ hx.1, hx.2⟩)
  · obtain ⟨hpage, p, hxp, hp⟩ := ht x ⟨hsub _ hx.1, hx.2⟩
    exact ⟨fun hx' => hpage (onPage_select.1 hx'), p, hxp, fun hsel => hp (hsub p hsel)⟩

end Easel.Document
