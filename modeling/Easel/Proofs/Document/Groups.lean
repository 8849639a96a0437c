import Easel.Proofs.Document.Sound

/-!
New layers, layers gathered into a group, removed layers and dissolved groups: each keeps a sound document sound, and it is told
which layers are on the page afterwards.
-/

namespace Easel.Document

variable {d d₁ d₂ : Document} {n a p : Node} {q : Option Node} {id g x first : Nat} {ids : List Nat} {look : Look}

theorem Sound.lt_of_chosen (hs : d.Sound) (h : d.Chosen id) : id < d.layers.length := by
  obtain ⟨k, hk, he⟩ := hs.selected _ h.1
  cases he
  exact hk

theorem not_gone_of_onPage (hs : d.Sound) (h : d.Under p .page) : d.isGone p = false := by
  cases p with
  | page => rfl
  | layer k => exact hs.live_of_onPage h

/-! ### New layers -/

/-- A layer that was made and has not been hung anywhere. -/
structure Loose (d : Document) (g : LayerId) : Prop where
  lt : g < d.layers.length
  parent : d.parentOf g = none
  childless : ∀ x, d.parentOf x ≠ some (.layer g)
  live : d.isRemoved g = false
  unselected : .layer g ∉ d.selection

theorem eq_of_under_childless (hc : ∀ x, d.parentOf x ≠ some (.layer g)) (h : d.Under n (.layer g)) : n = .layer g := by
  refine h.induction (motive := fun n => n = .layer g) rfl ?_
  rintro n m hup - rfl
  obtain ⟨x, rfl, hx⟩ := up_eq_some hup
  exact absurd hx (hc x)

namespace Loose

theorem eq_of_under (hg : d.Loose g) (h : d.Under n (.layer g)) : n = .layer g := eq_of_under_childless hg.childless h

theorem not_onPage (hg : d.Loose g) : ¬d.OnPage g := by
  intro h
  obtain ⟨p, hp, -⟩ := h.exists_parent
  rw [hg.parent] at hp
  cases hp

theorem under_iff (hg : d.Loose g) (h : d.Moved [g] q d₁) (hn : n ≠ .layer g) : d₁.Under n a ↔ d.Under n a := by
  refine h.under_iff fun s hs hns => hn ?_
  rw [List.mem_singleton.1 hs] at hns
  exact hg.eq_of_under hns

theorem ne_of_onPage (hg : d.Loose g) (h : d.Under p .page) : p ≠ .layer g := by
  rintro rfl
  exact hg.not_onPage h

theorem moved (hx : d.Loose x) (hne : x ≠ g) (hq : q ≠ some (.layer x)) (h : d.Moved [g] q d₁) : d₁.Loose x where
  lt := by rw [h.length]; exact hx.lt
  parent := by rw [h.parentOf_not_mem (by simpa using hne), hx.parent]
  childless y := by
    rw [h.parentOf]
    split
    · exact hq
    · exact hx.childless y
  live := by rw [h.isRemoved]; exact hx.live
  unselected := by rw [h.selection]; exact hx.unselected

end Loose

theorem Loose.ne_of_chosen (hg : d.Loose g) (hx : d.Chosen x) : Node.layer x ≠ .layer g := by
  intro he
  cases he
  exact hg.unselected hx.1

theorem Sound.hang_loose (hs : d.Sound) (hg : d.Loose g) (h : d.Moved [g] (some p) d₁) (hc : d.isContainer p)
    (hp : d.isGone p = false) : d₁.Sound := by
  refine hs.moved h (fun s hsS r hr => ?_) (h.together hs.together (fun x hx hpage => ?_) fun x hx hpage hsel => ?_)
  · cases hr
    rw [List.mem_singleton.1 hsS, hg.live, hp]
    exact ⟨hc, rfl⟩
  · exact (hg.under_iff h (hg.ne_of_chosen hx)).2 hpage
  · obtain ⟨p, hxp, hsel⟩ := hsel
    have hxg : x ∉ [g] := fun hmem => hg.ne_of_chosen hx (by rw [List.mem_singleton.1 hmem])
    exact ⟨fun hx' => hpage ((hg.under_iff h (hg.ne_of_chosen hx)).1 hx'), p, (h.parentOf_not_mem hxg).trans hxp, hsel⟩

theorem isContainer_create (hp : d.has p) : (d.create look).2.isContainer p = d.isContainer p := by
  cases p with
  | page => rfl
  | layer k => rw [isContainer_layer, kindOf_create hp, ← isContainer_layer]

theorem has_create (hp : d.has p) : (d.create look).2.has p := by
  cases p with
  | page => trivial
  | layer k =>
    rw [has, length_create]
    exact Nat.lt_succ_of_lt hp

theorem Linked.create (hl : d.Linked) : (d.create look).2.Linked := fun c x => by
  rw [childrenOf_create, parentOf_create]
  exact hl c x

theorem Sound.create (hs : d.Sound) : (d.create look).2.Sound where
  linked := hs.linked.create
  container x p hx := by
    rw [parentOf_create] at hx
    rw [isContainer_create (hs.linked.has hx)]
    exact hs.container x p hx
  alike x p hx := by
    rw [parentOf_create] at hx
    rw [isRemoved_create, hs.alike x p hx]
    cases p with
    | page => rfl
    | layer k => exact isRemoved_create.symm
  selected n hn := by
    obtain ⟨k, hk, rfl⟩ := hs.selected n hn
    exact ⟨k, by rw [length_create]; omega, rfl⟩
  nodup := hs.nodup
  together := by
    have hpage (x : Nat) : (d.create look).2.OnPage x ↔ d.OnPage x := under_of_same fun _ => parentOf_create
    have hchosen (x : Nat) : (d.create look).2.Chosen x ↔ d.Chosen x := by rw [Chosen, Chosen, isRemoved_create]; rfl
    refine hs.together.imp (fun ht x hx => ?_) fun ht x hx => ?_
    · exact (hpage x).2 (ht x ((hchosen x).1 hx))
    · rw [hpage, parentOf_create]
      exact ht x ((hchosen x).1 hx)

theorem Sound.loose_create (hs : d.Sound) : (d.create look).2.Loose d.layers.length where
  lt := by rw [length_create]; exact Nat.lt_succ_self _
  parent := by rw [parentOf_create, parentOf, layer?_length]; rfl
  childless x hx := by
    rw [parentOf_create] at hx
    exact Nat.lt_irrefl _ (hs.linked.has hx)
  live := by rw [isRemoved_create, isRemoved, layer?_length]; rfl
  unselected hsel := by
    obtain ⟨k, hk, he⟩ := hs.selected _ hsel
    cases he
    exact Nat.lt_irrefl _ hk

theorem Loose.create (hg : d.Loose g) : (d.create look).2.Loose g where
  lt := by rw [length_create]; exact Nat.lt_succ_of_lt hg.lt
  parent := by rw [parentOf_create]; exact hg.parent
  childless x := by rw [parentOf_create]; exact hg.childless x
  live := by rw [isRemoved_create]; exact hg.live
  unselected := hg.unselected

/-! ### Groups -/

theorem length_hang : (d.hang p ids).layers.length = d.layers.length := by
  induction ids generalizing d with
  | nil => rfl
  | cons id rest ih => exact ih.trans length_attach

theorem length_gather : (d.gather g ids p).layers.length = d.layers.length := length_hang.trans length_attach

theorem exists_moved_gather (hg : d.Loose g) (hp : d.has p) (hids : ∀ x ∈ ids, x < d.layers.length) :
    ∃ d₁, d.Moved [g] (some p) d₁ ∧ d₁.Moved ids (some (.layer g)) (d.gather g ids p) := by
  have h₁ := Moved.insert ((ids.head?.bind (d.childrenOf p).idxOf?).getD (d.childrenOf p).length) hg.lt hp
  refine ⟨_, h₁, Moved.hang (h₁.has.2 hg.lt) fun x hx => ?_⟩
  rw [h₁.length]
  exact hids x hx

section Gather

variable (hg : d.Loose g) (h₁ : d.Moved [g] (some p) d₁) (h₂ : d₁.Moved ids (some (.layer g)) d₂)

include hg h₁ h₂

/-- A group that is no part of what it gathers, and hangs on no part of it, is on the page with all it gathers. -/
theorem onPage_gather (hp : d.Under p .page) (hpi : ∀ s ∈ ids, ¬d.Under p (.layer s)) (hgi : g ∉ ids) :
    d₂.OnPage x ↔ d.OnPage x ∨ x = g ∨ ∃ s ∈ ids, d.Under (.layer x) (.layer s) := by
  have hpg : p ≠ .layer g := hg.ne_of_onPage hp
  have hp₁ : d₁.Under p .page := (hg.under_iff h₁ hpg).2 hp
  have hup : d₁.up (.layer g) = some p := h₁.parentOf_mem List.mem_cons_self
  have hgs : ∀ s ∈ ids, ¬d₁.Under (.layer g) (.layer s) := by
    intro s hs hgs
    obtain he | ⟨m, hm, hms⟩ := hgs.eq_or_up
    · cases he
      exact hgi hs
    · rw [hup] at hm
      cases hm
      exact hpi s hs ((hg.under_iff h₁ hpg).1 hms)
  rw [h₂.onPage_rejoin (.step hup hp₁) hgs]
  by_cases hx : x = g
  · subst hx
    exact ⟨fun _ => .inr (.inl rfl), fun _ => .inl (.step hup hp₁)⟩
  · have hne : Node.layer x ≠ .layer g := fun he => hx (Node.layer.inj he)
    rw [OnPage, hg.under_iff h₁ hne]
    simp only [hg.under_iff h₁ hne, hx, false_or]
    rfl

/-- A group that hangs on part of what it gathers takes all of that off the page. -/
theorem onPage_gather_round (hpg : p ≠ .layer g) (hp : d.Under p .page → ∃ s ∈ ids, d.Under p (.layer s)) :
    d₂.OnPage x ↔ d.OnPage x ∧ ∀ s ∈ ids, ¬d.Under (.layer x) (.layer s) := by
  have hup : d₁.up (.layer g) = some p := h₁.parentOf_mem List.mem_cons_self
  have hround : d₁.OnPage g → ∃ s ∈ ids, d₁.Under (.layer g) (.layer s) := by
    intro hgp
    obtain ⟨m, hm, hmp⟩ := hgp.exists_parent
    cases hup.symm.trans hm
    obtain ⟨s, hs, hps⟩ := hp ((hg.under_iff h₁ hpg).1 hmp)
    exact ⟨s, hs, .step hup ((hg.under_iff h₁ hpg).2 hps)⟩
  rw [h₂.onPage_leave fun r hr hrp => by cases hr; exact hround hrp]
  by_cases hx : x = g
  · subst hx
    refine ⟨fun ⟨hxp, hxs⟩ => ?_, fun h => absurd h.1 hg.not_onPage⟩
    obtain ⟨s, hs, hxs'⟩ := hround hxp
    exact absurd hxs' (hxs s hs)
  · have hne : Node.layer x ≠ .layer g := fun he => hx (Node.layer.inj he)
    rw [OnPage, hg.under_iff h₁ hne]
    simp only [hg.under_iff h₁ hne]
    rfl

end Gather

/-- A group comes to where the first of the layers hangs that it gathers. -/
theorem Sound.place_of_group (hs : d.Sound) (hg : d.Loose g) (hfirst : d.Chosen first)
    (hp : d.parentOf first = some p ∨ p = .page) : d.has p ∧ d.isContainer p ∧ d.isGone p = false ∧ p ≠ .layer g := by
  obtain hp | rfl := hp
  · refine ⟨hs.linked.has hp, hs.container _ _ hp, ?_, ?_⟩
    · rw [← hs.alike _ _ hp]
      exact hfirst.2
    · rintro rfl
      exact hg.childless _ hp
  · exact ⟨trivial, rfl, rfl, by simp⟩

theorem Sound.gather (hs : d.Sound) (hg : d.Loose g) (hk : d.kindOf g = some .group)
    (hids : ∀ x, x ∈ ids ↔ d.Chosen x) (hfirst : d.Chosen first)
    (hp : d.parentOf first = some p ∨ p = .page) : (d.gather g ids p).Sound := by
  obtain ⟨hpd, hpc, hpl, hpg⟩ := hs.place_of_group hg hfirst hp
  obtain ⟨d₁, h₁, h₂⟩ := exists_moved_gather hg hpd fun x hx => hs.lt_of_chosen ((hids x).1 hx)
  have hgi : g ∉ ids := fun hmem => hg.unselected ((hids g).1 hmem).1
  refine (hs.hang_loose hg h₁ hpc hpl).moved h₂ (fun s hsS r hr => ?_) ?_
  · cases hr
    refine ⟨by rw [isContainer_layer, h₁.kindOf, hk]; rfl, ?_⟩
    rw [h₁.isRemoved, h₁.isGone, ((hids s).1 hsS).2]
    exact hg.live.symm
  · have hchosen (x : Nat) (hx : (d.gather g ids p).Chosen x) : x ∈ ids := by
      rw [h₂.chosen, h₁.chosen] at hx
      exact (hids x).2 hx
    -- Either the group and all that is chosen are on the page now, or it is a round, or nothing of it ever was.
    by_cases hround : d.Under p .page ∧ ∀ s ∈ ids, ¬d.Under p (.layer s)
    · refine .inl fun x hx => ?_
      rw [onPage_gather hg h₁ h₂ hround.1 hround.2 hgi]
      exact .inr (.inr ⟨x, hchosen x hx, .refl⟩)
    · refine .inr fun x hx => ⟨?_, .layer g, h₂.parentOf_mem (hchosen x hx), ?_⟩
      · rw [onPage_gather_round hg h₁ h₂ hpg]
        · exact fun h => h.2 x (hchosen x hx) .refl
        · intro hpp
          by_contra hno
          exact hround ⟨hpp, fun s hs hps => hno ⟨s, hs, hps⟩⟩
      · rw [h₂.selection, h₁.selection]
        exact hg.unselected

/-! ### Removal -/

theorem parentOf_remove : (d.remove id).parentOf x = if x = id then none else d.parentOf x := by
  rw [remove, parentOf_markRemoved, parentOf_detach]

theorem kindOf_remove : (d.remove id).kindOf x = d.kindOf x := by rw [remove, kindOf_markRemoved, kindOf_detach]

theorem length_remove : (d.remove id).layers.length = d.layers.length := by
  rw [remove, length_markRemoved, length_detach]

theorem selection_remove : (d.remove id).selection = d.selection := by
  rw [remove, selection_markRemoved, selection_detach]

theorem Linked.remove (hl : d.Linked) : (d.remove id).Linked := by
  intro c x
  rw [Document.remove, childrenOf_markRemoved, parentOf_markRemoved]
  exact Moved.detach.linked hl c x

/-- A layer that is taken off hangs on nothing, so the walk that marks what is under it ends. -/
theorem acyclic_detach : (d.detach id).Acyclic (.layer id) :=
  acyclic_of_up_eq_none (Moved.detach.parentOf_mem List.mem_cons_self)

theorem under_detach : (d.detach id).Under n (.layer id) ↔ d.Under n (.layer id) := by
  have h : d.Moved [id] none (d.detach id) := .detach
  simpa using h.under_some (n := n)

theorem isRemoved_remove (hl : d.Linked) (hid : id < d.layers.length) :
    (d.remove id).isRemoved x = true ↔ d.isRemoved x = true ∨ d.Under (.layer x) (.layer id) := by
  have hwalk : x ∈ (d.detach id).walk id ↔ d.Under (.layer x) (.layer id) := by
    rw [mem_walk (Moved.detach.linked hl) (by rw [length_detach]; exact hid) acyclic_detach, under_detach]
  have hlt : d.Under (.layer x) (.layer id) → x < d.layers.length := by
    intro h
    obtain he | ⟨m, hm, -⟩ := h.eq_or_up
    · cases he
      exact hid
    · exact lt_of_parentOf hm
  rw [remove, isRemoved_markRemoved, isRemoved_detach, length_detach]
  simp only [Bool.or_eq_true, Bool.and_eq_true, decide_eq_true_eq, hwalk]
  exact ⟨fun h => h.imp_right And.left, fun h => h.imp_right fun hx => ⟨hx, hlt hx⟩⟩

theorem onPage_remove : (d.remove id).OnPage x ↔ d.OnPage x ∧ ¬d.Under (.layer x) (.layer id) := by
  have hsame : (d.remove id).OnPage x ↔ (d.detach id).OnPage x :=
    under_of_same fun y => by rw [remove, parentOf_markRemoved]
  rw [hsame, Moved.detach.onPage_leave fun p hp => by cases hp]
  simp

theorem isGone_remove (hl : d.Linked) (hid : id < d.layers.length) (p : Node) :
    (d.remove id).isGone p = true ↔ d.isGone p = true ∨ d.Under p (.layer id) := by
  cases p with
  | page =>
    refine ⟨fun h => absurd h Bool.false_ne_true, ?_⟩
    rintro (h | h)
    · cases h
    · cases h.page
  | layer k => exact isRemoved_remove hl hid

theorem under_iff_of_parentOf (hx : d.parentOf x = some p) (hne : x ≠ id) :
    d.Under (.layer x) (.layer id) ↔ d.Under p (.layer id) := by
  refine ⟨fun h => ?_, .step hx⟩
  obtain he | ⟨m, hm, hmid⟩ := h.eq_or_up
  · cases he
    exact absurd rfl hne
  · cases hx.symm.trans hm
    exact hmid

theorem chosen_of_remove (hl : d.Linked) (hid : id < d.layers.length) (hx : (d.remove id).Chosen x) :
    d.Chosen x ∧ ¬d.Under (.layer x) (.layer id) := by
  rw [Chosen, selection_remove] at hx
  have hno := fun h => Bool.false_ne_true (hx.2.symm.trans ((isRemoved_remove hl hid).2 h))
  exact ⟨⟨hx.1, Bool.eq_false_iff.2 fun h => hno (.inl h)⟩, fun h => hno (.inr h)⟩

theorem parentOf_of_remove (h : (d.remove id).parentOf x = some p) : x ≠ id ∧ d.parentOf x = some p := by
  rw [parentOf_remove] at h
  split at h
  · cases h
  · exact ⟨‹_›, h⟩

/-- A layer is marked together with its parent, unless it is the one that is taken off. -/
theorem Alike.remove (ha : d.Alike) (hl : d.Linked) (hid : id < d.layers.length) : (d.remove id).Alike := by
  intro x p hx
  obtain ⟨hne, hx⟩ := parentOf_of_remove hx
  rw [Bool.eq_iff_iff, isRemoved_remove hl hid, isGone_remove hl hid, ha x p hx, under_iff_of_parentOf hx hne]

theorem Sound.remove (hs : d.Sound) (hid : id < d.layers.length) : (d.remove id).Sound := by
  refine ⟨hs.linked.remove, fun x p hx => ?_, hs.alike.remove hs.linked hid, fun n hn => ?_, ?_, ?_⟩
  · rw [isContainer_congr fun _ => kindOf_remove]
    exact hs.container x p (parentOf_of_remove hx).2
  · rw [selection_remove] at hn
    rw [length_remove]
    exact hs.selected n hn
  · rw [selection_remove]
    exact hs.nodup
  · refine hs.together.imp (fun ht x hx => ?_) fun ht x hx => ?_
    · obtain ⟨hx, hno⟩ := chosen_of_remove hs.linked hid hx
      exact onPage_remove.2 ⟨ht x hx, hno⟩
    · obtain ⟨hx, hno⟩ := chosen_of_remove hs.linked hid hx
      obtain ⟨hpage, p, hxp, hp⟩ := ht x hx
      have hne : x ≠ id := fun h => hno (h ▸ .refl)
      rw [selection_remove, parentOf_remove, if_neg hne]
      exact ⟨fun h => hpage (onPage_remove.1 h).1, p, hxp, hp⟩

/-! ### Dissolved groups -/

/-- A chosen layer does not hang on itself, be it on the page or off it. -/
theorem Sound.parent_ne (hs : d.Sound) (hg : d.parentOf g = some p) (hc : d.Chosen g) : p ≠ .layer g := by
  rintro rfl
  obtain ht | ht := hs.together
  · exact acyclic_of_under_page (ht g hc) 0 (climb_succ (k := 0) (n := .layer g) rfl |>.trans hg)
  · obtain ⟨-, p, hp, hsel⟩ := ht g hc
    cases hg.symm.trans hp
    exact hsel hc.1

section Dissolve

variable (hl : d.Linked) (hg : d.parentOf g = some p)

include hl hg

theorem onPage_release : (d.release g p).OnPage x ↔ d.OnPage x := by
  have h := Moved.release (g := g) hl (hl.has hg)
  have hchild {s : Nat} (hs : s ∈ d.childrenOf (.layer g)) : d.parentOf s = some (.layer g) := hl.mem_iff.1 hs
  by_cases hgp : d.OnPage g
  · obtain ⟨m, hm, hp⟩ := hgp.exists_parent
    cases hg.symm.trans hm
    -- A child that the group hung on would hang on itself, on the page.
    have hround : ∀ s ∈ d.childrenOf (.layer g), ¬d.Under p (.layer s) := by
      rintro s hs ⟨k, hk⟩
      have hsp : d.OnPage s := .step (hchild hs) hgp
      refine acyclic_of_under_page hsp (k + 1) ?_
      rw [climb, show d.up (.layer s) = some (.layer g) from hchild hs]
      show d.climb (k + 1) (.layer g) = _
      rw [climb, show d.up (.layer g) = some p from hg]
      exact hk
    rw [h.onPage_rejoin hp hround]
    refine ⟨fun hx => hx.elim id ?_, .inl⟩
    rintro ⟨s, hs, hxs⟩
    exact hxs.trans (.step (hchild hs) hgp)
  · rw [h.onPage_leave fun r hr hrp => by cases hr; exact absurd (.step hg hrp) hgp]
    refine ⟨And.left, fun hx => ⟨hx, fun s hs hxs => hgp ?_⟩⟩
    obtain ⟨m, hm, hmp⟩ := (hxs.onPage hx).exists_parent
    cases (hchild hs).symm.trans hm
    exact hmp

theorem lt_length_release : g < (d.release g p).layers.length := by
  rw [(Moved.release hl (hl.has hg)).length]
  exact lt_of_parentOf hg

section

variable (hpg : p ≠ .layer g)

include hpg

theorem childless_release : ∀ x, (d.release g p).parentOf x ≠ some (.layer g) := by
  intro x hx
  have h := Moved.release (g := g) hl (hl.has hg)
  by_cases hmem : x ∈ d.childrenOf (.layer g)
  · rw [h.parentOf_mem hmem] at hx
    exact hpg (Option.some.inj hx)
  · rw [h.parentOf_not_mem hmem] at hx
    exact hmem (hl.mem_iff.2 hx)

theorem under_release_self : (d.release g p).Under (.layer x) (.layer g) ↔ x = g :=
  ⟨fun hx => Node.layer.inj (eq_of_under_childless (childless_release hl hg hpg) hx), fun hx => hx ▸ .refl⟩

theorem isRemoved_dissolve : (d.dissolve g p).isRemoved x = true ↔ d.isRemoved x = true ∨ x = g := by
  have h := Moved.release (g := g) hl (hl.has hg)
  rw [dissolve_eq, isRemoved_remove (h.linked hl) (lt_length_release hl hg), h.isRemoved, under_release_self hl hg hpg]

theorem onPage_dissolve : (d.dissolve g p).OnPage x ↔ d.OnPage x ∧ x ≠ g := by
  rw [dissolve_eq, onPage_remove, onPage_release hl hg, under_release_self hl hg hpg]

end

end Dissolve

theorem Sound.release (hs : d.Sound) (hg : d.parentOf g = some p) (hc : d.Chosen g) : (d.release g p).Sound := by
  have h := Moved.release (g := g) hs.linked (hs.linked.has hg)
  have hpage (x : Nat) : (d.release g p).OnPage x ↔ d.OnPage x := onPage_release hs.linked hg
  refine hs.moved h (fun s hsS r hr => ?_) (h.together hs.together (fun x _ hx => (hpage x).2 hx) ?_)
  · cases hr
    have hsg := hs.linked.mem_iff.1 hsS
    exact ⟨hs.container g p hg, (hs.alike s _ hsg).trans (hs.alike g p hg)⟩
  · rintro x - hx ⟨r, hr, hsel⟩
    have hmem : x ∉ d.childrenOf (.layer g) := by
      intro hmem
      cases hr.symm.trans (hs.linked.mem_iff.1 hmem)
      exact hsel hc.1
    exact ⟨fun hx' => hx ((hpage x).1 hx'), r, (h.parentOf_not_mem hmem).trans hr, hsel⟩

theorem Sound.dissolve (hs : d.Sound) (hg : d.parentOf g = some p) (hc : d.Chosen g) : (d.dissolve g p).Sound :=
  (hs.release hg hc).remove (lt_length_release hs.linked hg)

end Easel.Document
