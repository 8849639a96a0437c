import Easel.Proofs.Document.Walks

/-!
Layers that move. Every edit that hangs layers elsewhere is one move: some layers come to hang on one node, or nowhere, and the
others stay where they hang. What a move does to the page is said once, for all of them.
-/

namespace Easel.Document

variable {d d₁ d₂ : Document} {n a p : Node} {q : Option Node} {id g x : Nat} {S T ids : List Nat}

/-- In `d₁` the layers of `S` hang on `q`, and the others where they hung. -/
structure Moved (d : Document) (S : List LayerId) (q : Option Node) (d₁ : Document) : Prop where
  parentOf : ∀ x, d₁.parentOf x = if x ∈ S then q else d.parentOf x
  linked : d.Linked → d₁.Linked
  isRemoved : ∀ x, d₁.isRemoved x = d.isRemoved x
  kindOf : ∀ x, d₁.kindOf x = d.kindOf x
  length : d₁.layers.length = d.layers.length
  selection : d₁.selection = d.selection

namespace Moved

theorem refl : d.Moved [] q d := ⟨fun _ => rfl, id, fun _ => rfl, fun _ => rfl, rfl, rfl⟩

theorem trans (h : d.Moved S q d₁) (h' : d₁.Moved T q d₂) : d.Moved (S ++ T) q d₂ where
  parentOf x := by
    rw [h'.parentOf, h.parentOf]
    by_cases hS : x ∈ S <;> by_cases hT : x ∈ T <;> simp [hS, hT]
  linked hl := h'.linked (h.linked hl)
  isRemoved x := (h'.isRemoved x).trans (h.isRemoved x)
  kindOf x := (h'.kindOf x).trans (h.kindOf x)
  length := h'.length.trans h.length
  selection := h'.selection.trans h.selection

theorem has (h : d.Moved S q d₁) : d₁.has n ↔ d.has n := by
  cases n with
  | page => rfl
  | layer k => rw [Document.has, Document.has, h.length]

/-- What is drawn differently hangs where it hung. -/
theorem look {f : Look → Look} (hf : ∀ l, (f l).kind = l.kind) : d.Moved [] none (d.updateLook id f) where
  parentOf _ := parentOf_update fun _ => rfl
  linked hl c x := by
    have hc : (d.updateLook id f).childrenOf c = d.childrenOf c := childrenOf_update fun _ => rfl
    have hp : (d.updateLook id f).parentOf x = d.parentOf x := parentOf_update fun _ => rfl
    rw [hc, hp]
    exact hl c x
  isRemoved _ := isRemoved_update fun _ => rfl
  kindOf _ := kindOf_update fun l => hf l.look
  length := length_update
  selection := selection_update

theorem detach : d.Moved [id] none (d.detach id) where
  parentOf x := by rw [parentOf_detach]; simp
  linked hl c x := by
    -- One entry goes, in the list of what the layer hung on.
    rw [childrenOf_detach, parentOf_detach]
    by_cases hc : d.parentOf id = some c
    · rw [if_pos hc, List.count_erase, hl c x]
      by_cases hx : x = id
      · subst hx; simp [hc]
      · simp [hx, Ne.symm hx]
    · rw [if_neg hc, hl c x]
      by_cases hx : x = id
      · subst hx; simp [hc]
      · simp [hx]
  isRemoved _ := isRemoved_detach
  kindOf _ := kindOf_detach
  length := length_detach
  selection := selection_detach

theorem attach {place : List LayerId → List LayerId} (hid : id < d.layers.length) (hp : d.has p)
    (hplace : ∀ l, (place l).Perm (id :: l)) : d.Moved [id] (some p) (d.attach p id place) where
  parentOf x := by rw [parentOf_attach hid]; simp
  linked hl c x := by
    -- The layer was taken off first, so it is nowhere listed but where it is put.
    have hl' : (d.detach id).Linked := detach.linked hl
    rw [parentOf_attach hid]
    by_cases hc : c = p
    · subst hc
      rw [childrenOf_attach_self hp, (hplace _).count_eq, List.count_cons, hl' c x, parentOf_detach]
      by_cases hx : x = id
      · subst hx; simp
      · simp [hx, Ne.symm hx]
    · rw [childrenOf_attach_ne hc, hl' c x, parentOf_detach]
      by_cases hx : x = id
      · simp [hx, Ne.symm hc]
      · simp [hx]
  isRemoved _ := isRemoved_attach
  kindOf _ := kindOf_attach
  length := length_attach
  selection := selection_attach

theorem append (hid : id < d.layers.length) (hp : d.has p) : d.Moved [id] (some p) (d.append p id) :=
  attach hid hp fun _ => List.perm_append_singleton _ _

theorem insert (index : Int) (hid : id < d.layers.length) (hp : d.has p) :
    d.Moved [id] (some p) (d.insert p index id) :=
  attach hid hp fun _ => List.perm_insertIdx _ _ (Nat.min_le_left _ _)

theorem hang (hp : d.has p) (hids : ∀ id ∈ ids, id < d.layers.length) : d.Moved ids (some p) (d.hang p ids) := by
  induction ids generalizing d with
  | nil => exact refl
  | cons id rest ih =>
    have h : d.Moved [id] (some p) (d.append p id) := append (hids id List.mem_cons_self) hp
    refine h.trans (ih (h.has.2 hp) fun y hy => ?_)
    rw [h.length]
    exact hids y (List.mem_cons_of_mem _ hy)

end Moved

/-- The children of a group take its place. -/
def release (d : Document) (g : LayerId) (p : Node) : Document :=
  let index := ((d.childrenOf p).idxOf? g).getD 0
  (d.childrenOf (.layer g)).zipIdx.foldl (fun d (id, offset) => d.insert p (index + offset) id) d

theorem dissolve_eq : d.dissolve g p = (d.release g p).remove g := rfl

theorem Moved.release (hl : d.Linked) (hp : d.has p) : d.Moved (d.childrenOf (.layer g)) (some p) (d.release g p) := by
  have hids : ∀ id ∈ d.childrenOf (.layer g), id < d.layers.length := fun id hid => lt_of_parentOf (hl.mem_iff.1 hid)
  unfold Document.release
  generalize d.childrenOf (.layer g) = ids at hids ⊢
  generalize ((d.childrenOf p).idxOf? g).getD 0 = index
  dsimp only
  -- Where each child is put depends on its position, so the induction is for any first position.
  generalize hk : 0 = k
  clear hk
  induction ids generalizing d k with
  | nil => exact refl
  | cons id rest ih =>
    have h : d.Moved [id] (some p) (d.insert p (index + k) id) := insert _ (hids id List.mem_cons_self) hp
    refine h.trans (ih (h.linked hl) (h.has.2 hp) (fun y hy => ?_) (k + 1))
    rw [h.length]
    exact hids y (List.mem_cons_of_mem _ hy)

/-! ### What is on the page after a move -/

theorem climb_congr (h : ∀ m, d.Under n m → d₁.up m = d.up m) (k : Nat) : d₁.climb k n = d.climb k n := by
  induction k generalizing n with
  | zero => rfl
  | succ k ih =>
    rw [climb, climb, h n .refl]
    cases hup : d.up n with
    | none => rfl
    | some m => exact ih fun a ha => h a (ha.step hup)

theorem under_congr (h : ∀ m, d.Under n m → d₁.up m = d.up m) : d₁.Under n a ↔ d.Under n a := by
  unfold Under
  simp only [climb_congr h]

/-- Ways up that differ only at `S` differ only from there on. -/
theorem under_some_of_agree (h : ∀ x, x ∉ S → d₁.parentOf x = d.parentOf x) {s : Nat} (hs : s ∈ S)
    (hn : d.Under n (.layer s)) : ∃ s ∈ S, d₁.Under n (.layer s) := by
  refine hn.induction (motive := fun n => ∃ s ∈ S, d₁.Under n (.layer s)) ⟨s, hs, .refl⟩ ?_
  rintro n m hup - ⟨s, hs, hm⟩
  obtain ⟨x, rfl, hx⟩ := up_eq_some hup
  by_cases hxS : x ∈ S
  · exact ⟨x, hxS, .refl⟩
  · exact ⟨s, hs, hm.step ((h x hxS).trans hx)⟩

namespace Moved

theorem parentOf_mem (h : d.Moved S q d₁) (hx : x ∈ S) : d₁.parentOf x = q := by rw [h.parentOf, if_pos hx]

theorem parentOf_not_mem (h : d.Moved S q d₁) (hx : x ∉ S) : d₁.parentOf x = d.parentOf x := by
  rw [h.parentOf, if_neg hx]

theorem under_some (h : d.Moved S q d₁) :
    (∃ s ∈ S, d₁.Under n (.layer s)) ↔ ∃ s ∈ S, d.Under n (.layer s) :=
  ⟨fun ⟨_, hs, hn⟩ => under_some_of_agree (fun _ hx => (h.parentOf_not_mem hx).symm) hs hn,
    fun ⟨_, hs, hn⟩ => under_some_of_agree (fun _ hx => h.parentOf_not_mem hx) hs hn⟩

theorem under_iff (h : d.Moved S q d₁) (hn : ∀ s ∈ S, ¬d.Under n (.layer s)) : d₁.Under n a ↔ d.Under n a := by
  refine under_congr fun m hm => ?_
  cases m with
  | page => rfl
  | layer x => exact h.parentOf_not_mem fun hx => hn x hx hm

/-- Layers that come to hang on the page, not below themselves, are on the page with all below them. -/
theorem onPage_rejoin (h : d.Moved S (some p) d₁) (hp : d.Under p .page) (hS : ∀ s ∈ S, ¬d.Under p (.layer s)) :
    d₁.OnPage x ↔ d.OnPage x ∨ ∃ s ∈ S, d.Under (.layer x) (.layer s) := by
  by_cases hx : ∃ s ∈ S, d.Under (.layer x) (.layer s)
  · refine ⟨fun _ => .inr hx, fun _ => ?_⟩
    obtain ⟨s, hs, hxs⟩ := h.under_some.2 hx
    exact hxs.trans (.step (h.parentOf_mem hs) ((h.under_iff hS).2 hp))
  · have hsame : d₁.OnPage x ↔ d.OnPage x := h.under_iff fun s hs hxs => hx ⟨s, hs, hxs⟩
    rw [hsame]
    exact ⟨.inl, fun h => h.resolve_right hx⟩

/-- Layers that come to hang nowhere, off the page, or below themselves, are off the page with all below them. -/
theorem onPage_leave (h : d.Moved S q d₁)
    (hq : ∀ p, q = some p → d.Under p .page → ∃ s ∈ S, d.Under p (.layer s)) :
    d₁.OnPage x ↔ d.OnPage x ∧ ∀ s ∈ S, ¬d.Under (.layer x) (.layer s) := by
  refine ⟨fun hx => ?_, fun ⟨hx, hS⟩ => (h.under_iff hS).2 hx⟩
  have hS : ∀ s ∈ S, ¬d.Under (.layer x) (.layer s) := by
    intro s hs hxs
    obtain ⟨s, hs, hxs⟩ := h.under_some.2 ⟨s, hs, hxs⟩
    obtain hn | ⟨p, hup, hp⟩ := (hxs.onPage hx).eq_or_up
    · cases hn
    have hqp : q = some p := (h.parentOf_mem hs).symm.trans hup
    -- The way from `p` to the page leads past `S`, and each of `S` hangs on `p`: a round.
    by_cases hround : ∃ s ∈ S, d.Under p (.layer s)
    · obtain ⟨s, hs, k, hk⟩ := h.under_some.2 hround
      refine acyclic_of_under_page hp k ((climb_succ hk).trans ?_)
      exact (h.parentOf_mem hs).trans hqp
    · have hp' : d.Under p .page := (h.under_iff fun s hs hps => hround ⟨s, hs, hps⟩).1 hp
      exact hround (hq p hqp hp')
  exact ⟨(h.under_iff hS).1 hx, hS⟩

end Moved

end Easel.Document
