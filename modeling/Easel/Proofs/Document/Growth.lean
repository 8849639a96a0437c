import Easel.Proofs.Document.Groups

/-!
What becomes of a document while an action is carried out: new layers come and are hung, what is on the page stays there or is
removed, and nothing that was removed comes back.
-/

namespace Easel.Document

variable {lost : Nat → Prop} {L S ids : List Nat} {d₀ d d₁ : Document} {p : Node} {q : Option Node} {g id x first : Nat}
  {look : Look}

/-- Nothing of the selection is off the page. -/
def InView (d : Document) : Prop := ∀ id, d.Chosen id → d.OnPage id

/-- `d` has come from `d₀`, and of what was on the page only layers that may be `lost` are not there, for they were removed. -/
structure Kept (lost : LayerId → Prop) (d₀ d : Document) : Prop where
  sound : d.Sound
  le : d₀.layers.length ≤ d.layers.length
  kind : ∀ x < d₀.layers.length, d.kindOf x = d₀.kindOf x
  page : ∀ x, d₀.OnPage x → d.OnPage x ∨ lost x ∧ d.isRemoved x = true
  gone : ∀ x, d₀.isRemoved x = true → d.isRemoved x = true
  spared : ∀ x, d.isRemoved x = true → d₀.isRemoved x = true ∨ lost x
  view : d₀.InView → d.InView

namespace Kept

theorem refl (hs : d.Sound) : d.Kept lost d where
  sound := hs
  le := Nat.le_refl _
  kind _ _ := rfl
  page _ := .inl
  gone _ h := h
  spared _ := .inl
  view h := h

theorem trans (h : d₀.Kept lost d) (h' : d.Kept lost d₁) : d₀.Kept lost d₁ where
  sound := h'.sound
  le := Nat.le_trans h.le h'.le
  kind x hx := (h'.kind x (Nat.lt_of_lt_of_le hx h.le)).trans (h.kind x hx)
  page x hx := by
    obtain hx | ⟨hl, hr⟩ := h.page x hx
    · exact h'.page x hx
    · exact .inr ⟨hl, h'.gone x hr⟩
  gone x hx := h'.gone x (h.gone x hx)
  spared x hx := by
    obtain hx | hx := h'.spared x hx
    · exact h.spared x hx
    · exact .inr hx
  view hv := h'.view (h.view hv)

theorem mono {lost' : Nat → Prop} (h : d₀.Kept lost d) (hl : ∀ x, lost x → lost' x) : d₀.Kept lost' d :=
  { h with
    page := fun x hx => (h.page x hx).imp_right fun hx => ⟨hl x hx.1, hx.2⟩
    spared := fun x hx => (h.spared x hx).imp_right (hl x) }

theorem of_moved (hs : d₁.Sound) (h : d.Moved S q d₁) (hp : ∀ x, d.OnPage x → d₁.OnPage x) : d.Kept lost d₁ where
  sound := hs
  le := by rw [h.length]
  kind x _ := h.kindOf x
  page x hx := .inl (hp x hx)
  gone x hx := by rw [h.isRemoved, hx]
  spared x hx := by rw [h.isRemoved] at hx; exact .inl hx
  view hv x hx := hp x (hv x (h.chosen.1 hx))

theorem unmoved (h : d₀.Kept lost d) (hm : d.Moved [] q d₁) : d₀.Kept lost d₁ :=
  h.trans (.of_moved (h.sound.still hm hm.parentOf) hm fun _ => (under_of_same hm.parentOf).2)

theorem create (hs : d.Sound) : d.Kept lost (d.create look).2 where
  sound := hs.create
  le := by rw [length_create]; exact Nat.le_succ _
  kind x hx := kindOf_create hx
  page x hx := .inl ((under_of_same fun _ => parentOf_create).2 hx)
  gone x hx := by rw [isRemoved_create, hx]
  spared x hx := by rw [isRemoved_create] at hx; exact .inl hx
  view hv x hx := by
    rw [Chosen, isRemoved_create] at hx
    exact (under_of_same fun _ => parentOf_create).2 (hv x hx)

/-- Another selection of what is on the page, or of what was selected. -/
theorem select (hs : ({ d with selection := ids.map .layer } : Document).Sound)
    (hids : ∀ id ∈ ids, d.isRemoved id = false → d.OnPage id ∨ d.Chosen id) :
    d.Kept lost { d with selection := ids.map .layer } where
  sound := hs
  le := Nat.le_refl _
  kind _ _ := rfl
  page x hx := .inl (onPage_select.2 hx)
  gone _ h := h
  spared _ := .inl
  view hv x hx := by
    obtain ⟨id, hid, he⟩ := List.mem_map.1 hx.1
    cases he
    exact onPage_select.2 ((hids x hid hx.2).elim (fun h => h) (hv x))

theorem remove (hs : d.Sound) (hid : id < d.layers.length) (hlost : ∀ x, lost x) : d.Kept lost (d.remove id) where
  sound := hs.remove hid
  le := by rw [length_remove]
  kind x _ := kindOf_remove
  page x hx := by
    rw [onPage_remove, isRemoved_remove hs.linked hid]
    by_cases hu : d.Under (.layer x) (.layer id)
    · exact .inr ⟨hlost x, .inr hu⟩
    · exact .inl ⟨hx, hu⟩
  gone x hx := by
    rw [isRemoved_remove hs.linked hid]
    exact .inl hx
  spared x _ := .inr (hlost x)
  view hv x hx := by
    obtain ⟨hx, hno⟩ := chosen_of_remove hs.linked hid hx
    exact onPage_remove.2 ⟨hv x hx, hno⟩

theorem dissolve (hs : d.Sound) (hg : d.parentOf g = some p) (hc : d.Chosen g) (hlost : lost g) :
    d.Kept lost (d.dissolve g p) where
  sound := hs.dissolve hg hc
  le := by rw [dissolve_eq, length_remove, (Moved.release hs.linked (hs.linked.has hg)).length]
  kind x _ := by rw [dissolve_eq, kindOf_remove, (Moved.release hs.linked (hs.linked.has hg)).kindOf]
  page x hx := by
    have hpg := hs.parent_ne hg hc
    rw [onPage_dissolve hs.linked hg hpg, isRemoved_dissolve hs.linked hg hpg]
    by_cases hxg : x = g
    · exact .inr ⟨hxg ▸ hlost, .inr hxg⟩
    · exact .inl ⟨hx, hxg⟩
  gone x hx := by
    rw [isRemoved_dissolve hs.linked hg (hs.parent_ne hg hc)]
    exact .inl hx
  spared x hx := by
    obtain hx | rfl := (isRemoved_dissolve hs.linked hg (hs.parent_ne hg hc)).1 hx
    · exact .inl hx
    · exact .inr hlost
  view hv x hx := by
    have hpg := hs.parent_ne hg hc
    rw [Chosen, dissolve_eq, selection_remove, (Moved.release hs.linked (hs.linked.has hg)).selection, ← dissolve_eq] at hx
    have hno : ¬(d.isRemoved x = true ∨ x = g) := fun h =>
      Bool.false_ne_true (hx.2.symm.trans ((isRemoved_dissolve hs.linked hg hpg).2 h))
    exact (onPage_dissolve hs.linked hg hpg).2 ⟨hv x ⟨hx.1, Bool.eq_false_iff.2 fun h => hno (.inl h)⟩, fun h => hno (.inr h)⟩

end Kept

/-- Every layer that came after `d₀` hangs somewhere. -/
def Housed (d₀ d : Document) : Prop := ∀ x, d₀.layers.length ≤ x → x < d.layers.length → d.parentOf x ≠ none

theorem housed_of_length (h : d.layers.length = d₀.layers.length) : d₀.Housed d := fun _ hx hx' => absurd hx' (by omega)

theorem Housed.unmoved (h : d₀.Housed d) (hm : d.Moved [] q d₁) : d₀.Housed d₁ := by
  intro x hx hx'
  rw [hm.length] at hx'
  rw [hm.parentOf]
  exact h x hx hx'

theorem OnPage.parent_ne_none (h : d.OnPage x) : d.parentOf x ≠ none := by
  obtain ⟨p, hp, -⟩ := h.exists_parent
  simp [hp]

/-- Beside that, all that is new is on the page but for the layers `L`, which were not yet hung. -/
structure Grown (lost : LayerId → Prop) (L : List LayerId) (d₀ d : Document) : Prop extends Kept lost d₀ d where
  fresh : ∀ x, d₀.layers.length ≤ x → x < d.layers.length → d.OnPage x ∨ x ∈ L
  loose : ∀ g ∈ L, d.Loose g
  nodup : L.Nodup

theorem Sound.grown (hs : d.Sound) : d.Grown lost [] d where
  toKept := .refl hs
  fresh _ h h' := absurd h' (Nat.not_lt.2 h)
  loose _ h := by cases h
  nodup := .nil

namespace Grown

theorem housed (h : d₀.Grown lost [] d) : d₀.Housed d := fun x hx hx' => ((h.fresh x hx hx').resolve_right (by simp)).parent_ne_none

theorem still (h : d₀.Grown lost L d) (hm : d.Moved S q d₁) (hp : ∀ x, d₁.parentOf x = d.parentOf x) :
    d₀.Grown lost L d₁ where
  toKept := h.toKept.trans (.of_moved (h.sound.still hm hp) hm fun _ => (under_of_same hp).2)
  fresh x hx hx' := by
    rw [hm.length] at hx'
    exact (h.fresh x hx hx').imp_left (under_of_same hp).2
  loose g hg := by
    obtain ⟨hlt, hup, hc, hr, hsel⟩ := h.loose g hg
    exact ⟨by rw [hm.length]; exact hlt, by rw [hp, hup], fun x => by rw [hp]; exact hc x, by rw [hm.isRemoved, hr],
      by rw [hm.selection]; exact hsel⟩
  nodup := h.nodup

theorem unmoved (h : d₀.Grown lost L d) (hm : d.Moved [] q d₁) : d₀.Grown lost L d₁ :=
  h.still hm hm.parentOf

theorem create (h : d₀.Grown lost L d) : d₀.Grown lost (L ++ [d.layers.length]) (d.create look).2 where
  toKept := h.toKept.trans (.create h.sound)
  fresh x hx hx' := by
    rw [length_create] at hx'
    rw [List.mem_append, List.mem_singleton]
    by_cases hlast : x = d.layers.length
    · exact .inr (.inr hlast)
    · refine (h.fresh x hx (by omega)).imp (fun hx => ?_) .inl
      exact (under_of_same fun _ => parentOf_create).2 hx
  loose g hg := by
    obtain hg | hg := List.mem_append.1 hg
    · exact (h.loose g hg).create
    · rw [List.mem_singleton.1 hg]
      exact h.sound.loose_create
  nodup := by
    refine List.nodup_append.2 ⟨h.nodup, List.nodup_singleton _, fun x hx y hy he => ?_⟩
    rw [List.mem_singleton] at hy
    exact absurd (h.loose x hx).lt (by rw [he, hy]; exact Nat.lt_irrefl _)

/-- A new layer finds its place. -/
theorem hang (h : d₀.Grown lost (g :: L) d) (hm : d.Moved [g] (some p) d₁) (hc : d.isContainer p) (hp : d.Under p .page) :
    d₀.Grown lost L d₁ ∧ d₁.OnPage g ∧ ∀ x, d.OnPage x → d₁.OnPage x := by
  have hg : d.Loose g := h.loose g List.mem_cons_self
  have hpg : ∀ s ∈ [g], ¬d.Under p (.layer s) := by
    intro s hs hps
    rw [List.mem_singleton.1 hs] at hps
    exact hg.ne_of_onPage hp (hg.eq_of_under hps)
  have hkeep (x : Nat) (hx : d.OnPage x) : d₁.OnPage x := (hm.onPage_rejoin hp hpg).2 (.inl hx)
  have hgp : d₁.OnPage g := (hm.onPage_rejoin hp hpg).2 (.inr ⟨g, List.mem_cons_self, .refl⟩)
  obtain ⟨hgL, hL⟩ := List.nodup_cons.1 h.nodup
  have hs : d₁.Sound := h.sound.hang_loose hg hm hc (not_gone_of_onPage h.sound hp)
  refine ⟨⟨h.toKept.trans (.of_moved hs hm hkeep), fun x hx hx' => ?_, fun y hy => ?_, hL⟩, hgp, hkeep⟩
  · rw [hm.length] at hx'
    obtain hx | hx := h.fresh x hx hx'
    · exact .inl (hkeep x hx)
    · obtain rfl | hx := List.mem_cons.1 hx
      · exact .inl hgp
      · exact .inr hx
  · have hy' := h.loose y (List.mem_cons_of_mem _ hy)
    refine hy'.moved ?_ (fun he => hy'.ne_of_onPage hp (Option.some.inj he)) hm
    rintro rfl
    exact hgL hy

theorem reselect (h : d₀.Grown lost L d) (hs : ({ d with selection := ids.map .layer } : Document).Sound)
    (hids : ∀ id ∈ ids, d.isRemoved id = false → d.OnPage id ∨ d.Chosen id) :
    d₀.Grown lost L { d with selection := ids.map .layer } where
  toKept := h.toKept.trans (.select hs hids)
  fresh x hx hx' := (h.fresh x hx hx').imp_left onPage_select.2
  loose g hg := by
    have hg' := h.loose g hg
    refine ⟨hg'.lt, hg'.parent, hg'.childless, hg'.live, fun hsel => ?_⟩
    obtain ⟨id, hid, he⟩ := List.mem_map.1 hsel
    cases he
    exact (hids g hid hg'.live).elim hg'.not_onPage fun hc => hg'.unselected hc.1
  nodup := h.nodup

/-- Selecting what is on the page. -/
theorem select (h : d₀.Grown lost L d) (hids : ∀ id ∈ ids, d.OnPage id) (hn : ids.Nodup) :
    d₀.Grown lost L { d with selection := ids.map .layer } :=
  h.reselect (h.sound.select hids hn) fun id hid _ => .inl (hids id hid)

theorem read (h : d₀.Grown lost L d) (hids : d.liveSelection? = some ids) :
    d₀.Grown lost L { d with selection := ids.map .layer } :=
  h.reselect (h.sound.read hids) fun _ hid _ => .inr ((mem_liveSelection hids).1 hid)

end Grown

/-- A group takes nothing off the page unless the first layer in it hangs, on the page, on another one in it. -/
theorem Kept.gather (hs : d.Sound) (hg : d.Loose g) (hk : d.kindOf g = some .group) (hids : ∀ x, x ∈ ids ↔ d.Chosen x)
    (hfirst : d.Chosen first) (hp : d.parentOf first = some p ∨ p = .page)
    (hround : d.OnPage first → ∀ s ∈ ids, ¬d.Under p (.layer s)) :
    d.Kept lost (d.gather g ids p) ∧ (d.OnPage first → (d.gather g ids p).OnPage g) := by
  obtain ⟨hpd, -, -, hpg⟩ := hs.place_of_group hg hfirst hp
  obtain ⟨d₁, h₁, h₂⟩ := exists_moved_gather hg hpd fun x hx => hs.lt_of_chosen ((hids x).1 hx)
  have hgi : g ∉ ids := fun hmem => hg.unselected ((hids g).1 hmem).1
  have hin : d.OnPage first → d.Under p .page := by
    intro hf
    obtain ⟨m, hm, hmp⟩ := hf.exists_parent
    obtain hp | rfl := hp
    · cases hp.symm.trans hm
      exact hmp
    · exact .refl
  -- What is chosen is on the page as a whole or not at all.
  have hall : ¬d.OnPage first → ∀ s ∈ ids, ¬d.OnPage s := by
    intro hf s hs' hsp
    obtain ht | ht := hs.together
    · exact hf (ht first hfirst)
    · exact (ht s ((hids s).1 hs')).1 hsp
  have hrejoin (hpp : d.Under p .page) (x : Nat) : (d.gather g ids p).OnPage x ↔
      d.OnPage x ∨ x = g ∨ ∃ s ∈ ids, d.Under (.layer x) (.layer s) := by
    refine onPage_gather hg h₁ h₂ hpp (fun s hs' hps => ?_) hgi
    by_cases hf : d.OnPage first
    · exact hround hf s hs' hps
    · exact hall hf s hs' (hps.onPage hpp)
  have hpage (x : Nat) (hx : d.OnPage x) : (d.gather g ids p).OnPage x := by
    by_cases hpp : d.Under p .page
    · exact (hrejoin hpp x).2 (.inl hx)
    · rw [onPage_gather_round hg h₁ h₂ hpg fun h => absurd h hpp]
      exact ⟨hx, fun s hs' hxs => hall (fun hf => hpp (hin hf)) s hs' (hxs.onPage hx)⟩
  refine ⟨⟨hs.gather hg hk hids hfirst hp, ?_, fun x _ => ?_, fun x hx => .inl (hpage x hx), fun x hx => ?_, fun x hx => ?_,
    fun hv x hx => ?_⟩, fun hf => ?_⟩
  · rw [h₂.length, h₁.length]
  · rw [h₂.kindOf, h₁.kindOf]
  · rw [h₂.isRemoved, h₁.isRemoved, hx]
  · rw [h₂.isRemoved, h₁.isRemoved] at hx
    exact .inl hx
  · rw [h₂.chosen, h₁.chosen] at hx
    exact (hrejoin (hin (hv first hfirst)) x).2 (.inl (hv x hx))
  · exact (hrejoin (hin hf) g).2 (.inr (.inl rfl))

end Easel.Document
