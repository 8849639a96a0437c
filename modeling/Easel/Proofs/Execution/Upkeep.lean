import Easel.Proofs.Execution.Making

/-!
What an action makes of a document, operation by operation. Whatever calls fail, the document stays sound, and but for one way to
group layers nothing leaves the page that was not deleted or dissolved.
-/

namespace Easel.Execution

open Document Host

variable {d₀ : Document} {t : Task}

/-- Nothing is lost. -/
abbrev nothing (_ : LayerId) : Prop := False

abbrev anything (_ : LayerId) : Prop := True

/-- The groups there were. -/
abbrev groups (d : Document) (id : LayerId) : Prop := d.kindOf id = some .group

/-! ### Style, position and size -/

theorem live_of_all {d : Document} {id : Nat} (h : d₀.Grown nothing [] d) (hid : id ∈ d.all) : d.isRemoved id = false :=
  h.sound.live_of_onPage ((mem_all_iff h).1 hid)

theorem live_of_spared {d : Document} {id : Nat} (h : d₀.Grown nothing [] d) (hid : d₀.isRemoved id = false) :
    d.isRemoved id = false := by
  rw [Bool.eq_false_iff] at hid ⊢
  exact fun hr => (h.spared id hr).elim hid fun hf => hf

theorem subjects_does {trait : Look → Bool} :
    Does (d₀.Kept nothing) (d₀.Grown nothing []) (subjects t trait)
      fun ids d => d₀.Grown nothing [] d ∧ ∀ id ∈ ids, d₀.isRemoved id = false := by
  have hback {d : Document} {id : Nat} (h : d₀.Grown nothing [] d) (hid : d.isRemoved id = false) :
      d₀.isRemoved id = false := by
    rw [Bool.eq_false_iff] at hid ⊢
    exact fun hr => hid (h.gone id hr)
  unfold subjects
  split
  · refine .bind (.requireTarget fun _ h => h.toKept) fun id => ?_
    refine .bind (.requireTrait fun _ h => h.1.toKept) fun id' => .pure ?_
    rintro d ⟨⟨h, hid⟩, rfl⟩
    refine ⟨h, fun y hy => ?_⟩
    rw [List.mem_singleton.1 hy]
    exact hback h (live_of_all h hid)
  · refine .bind (.call (.getSelection (Q := fun ids d => d₀.Grown nothing [] d ∧ ∀ id ∈ ids, d₀.isRemoved id = false)
      (fun _ h => h.toKept) fun d ids h hids => ?_)) fun selection => ?_
    · exact ⟨h.read hids, fun id hid => hback h ((mem_liveSelection hids).1 hid).2⟩
    · split
      · exact .bind (.emit (by simp [Event.code])) fun _ => .pure fun _ h => ⟨h.1, by simp⟩
      · refine .bind (.mono .view (fun _ h => h) fun _ _ h => h.1) fun d => ?_
        have hfilter {f : Nat → Bool} : ∀ d, (d₀.Grown nothing [] d ∧ ∀ id ∈ selection, d₀.isRemoved id = false) →
            d₀.Grown nothing [] d ∧ ∀ id ∈ selection.filter f, d₀.isRemoved id = false :=
          fun _ h => ⟨h.1, fun id hid => h.2 id (List.mem_of_mem_filter hid)⟩
        dsimp only
        split
        · exact .bind (.emit (by simp [Event.code])) fun _ => .pure hfilter
        · exact .pure hfilter

/-- Drawing some layers differently, each if it is still there, and it is. -/
theorem adjustAll_does {ids : List Nat} {f : Look → Look} (hf : ∀ l, (f l).kind = l.kind) :
    Does (d₀.Kept nothing) (fun d => d₀.Grown nothing [] d ∧ ∀ id ∈ ids, d₀.isRemoved id = false)
      (ids.forM fun id => ifAlive id (adjust id f)) fun _ => d₀.Grown nothing [] := by
  refine .mono (.forM (fun rest d => d₀.Grown nothing [] d ∧ ∀ id ∈ rest, d₀.isRemoved id = false) ids fun id rest => ?_)
    (fun _ h => h) fun _ _ h => h.1
  refine .ifAlive (fun d h => live_of_spared h.1 (h.2 id List.mem_cons_self)) ?_
  refine .edit fun d h => ⟨h.1.unmoved (.look hf), fun y hy => h.2 y (List.mem_cons_of_mem _ hy)⟩

theorem setFill_does : Does (d₀.Kept nothing) (d₀.Grown nothing []) (setFill t) fun _ => d₀.Grown nothing [] := by
  refine .bind subjects_does fun ids => ?_
  split
  · exact .bind .color fun c => adjustAll_does fun _ => rfl
  · exact .pure fun _ h => h.1

theorem setStroke_does : Does (d₀.Kept nothing) (d₀.Grown nothing []) (setStroke t) fun _ => d₀.Grown nothing [] := by
  refine .bind subjects_does fun ids => ?_
  split
  · exact .bind .color fun c => adjustAll_does fun _ => rfl
  · exact .pure fun _ h => h.1

theorem setOpacity_does : Does (d₀.Kept nothing) (d₀.Grown nothing []) (setOpacity t) fun _ => d₀.Grown nothing [] :=
  .bind subjects_does fun _ => adjustAll_does fun _ => rfl

theorem adjustTarget_does {f : Look → Look} {id : Nat} (hf : ∀ l, (f l).kind = l.kind) :
    Does (d₀.Kept nothing) (fun d => d₀.Grown nothing [] d ∧ id ∈ d.all) (ifAlive id (adjust id f))
      fun _ => d₀.Grown nothing [] :=
  .ifAlive (fun _ h => live_of_all h.1 h.2) (.edit fun _ h => h.1.unmoved (.look hf))

theorem move_does : Does (d₀.Kept nothing) (d₀.Grown nothing []) (move t) fun _ => d₀.Grown nothing [] :=
  .bind (.requireTarget fun _ h => h.toKept) fun _ => adjustTarget_does fun _ => rfl

theorem resize_does : Does (d₀.Kept nothing) (d₀.Grown nothing []) (resize t) fun _ => d₀.Grown nothing [] := by
  refine .bind (.requireTarget fun _ h => h.toKept) fun id => ?_
  refine .bind (.requireTrait fun _ h => h.1.toKept) fun id' => ?_
  refine .mono (adjustTarget_does fun _ => rfl) ?_ fun _ _ h => h
  rintro d ⟨h, rfl⟩
  exact h

theorem rotate_does : Does (d₀.Kept nothing) (d₀.Grown nothing []) (rotate t) fun _ => d₀.Grown nothing [] :=
  .bind (.requireTarget fun _ h => h.toKept) fun _ => adjustTarget_does fun _ => rfl

/-! ### Selecting and view -/

theorem selectByName_does {name : Json} :
    Does (d₀.Kept nothing) (d₀.Grown nothing []) (selectByName name) fun _ => d₀.Grown nothing [] := by
  refine .bind (.call (.byName fun _ h => h.toKept)) fun ids => ?_
  split
  · exact .mono (.emit (by simp [Event.code])) (fun _ h => h.1) fun _ _ h => h
  · refine .bind (Q := fun _ => d₀.Grown nothing []) (.mono focus_does (fun d h => ?_) fun _ _ h => h) fun _ => ?_
    · exact ⟨h.1, fun id hid => (mem_all_iff h.1).1 (h.2.1 id hid), h.2.2 (nodup_all h.1.sound.linked)⟩
    · split
      · exact .emit (by simp [Event.code])
      · exact .pure fun _ h => h

theorem select_does : Does (d₀.Kept nothing) (d₀.Grown nothing []) (select t) fun _ => d₀.Grown nothing [] := by
  refine .bind (.call (.byId fun _ h => h.toKept)) fun found => ?_
  split
  · exact focus_one_does.mono (fun d h => ⟨h.1, h.2 _ rfl⟩) fun _ _ h => h
  · exact selectByName_does.mono (fun _ h => h.1) fun _ _ h => h

theorem findByName_does : Does (d₀.Kept nothing) (d₀.Grown nothing []) (findByName t) fun _ => d₀.Grown nothing [] := by
  refine .bind (.call (.byName fun _ h => h.toKept)) fun ids => ?_
  split
  · exact .mono (.emit (by simp [Event.code])) (fun _ h => h.1) fun _ _ h => h
  · refine .bind (Q := fun _ => d₀.Grown nothing [])
      (.mono focus_one_does (fun d h => ⟨h.1, h.2.1 _ List.mem_cons_self⟩) fun _ _ h => h) fun _ => ?_
    refine .bind (.call (.setData (fun _ h => h.toKept) steady_grown)) fun _ => ?_
    refine .bind (.mono .view (fun _ h => h) fun _ _ h => h.1) fun d => ?_
    exact .call (.notify (fun _ h => h.toKept) steady_grown)

theorem selectLast_does : Does (d₀.Kept nothing) (d₀.Grown nothing []) selectLast fun _ => d₀.Grown nothing [] := by
  refine .bind (.call (.getData fun _ h => h.toKept)) fun text => .bind (.call (.byId fun _ h => h.toKept)) fun found => ?_
  split
  · exact .mono (.emit (by simp [Event.code])) (fun _ h => h.1) fun _ _ h => h
  · exact focus_one_does.mono (fun d h => ⟨h.1, h.2 _ rfl⟩) fun _ _ h => h

theorem onPage_of_pageChildren {d : Document} {id : Nat} (hl : d.Linked) (h : id ∈ d.pageChildren) : d.OnPage id :=
  .step (hl.mem_iff (c := .page).1 h) .refl

theorem selectAll_does : Does (d₀.Kept nothing) (d₀.Grown nothing []) selectAll fun _ => d₀.Grown nothing [] := by
  refine .bind (.call (.enter fun _ h => h.toKept)) fun _ => .bind .view fun d => .call (.setSelection ?_ ?_)
  · exact fun _ h => h.1.toKept
  · rintro d' ⟨h, rfl⟩
    exact h.select (fun id hid => onPage_of_pageChildren h.sound.linked hid) (h.sound.linked.nodup .page)

theorem deselect_does :
    Does (d₀.Kept nothing) (d₀.Grown nothing []) (liftM (Host.setSelection [])) fun _ => d₀.Grown nothing [] :=
  .call (.setSelection (fun _ h => h.toKept) fun _ h => h.select (fun _ hid => absurd hid List.not_mem_nil) .nil)

theorem zoomToFit_does : Does (d₀.Kept nothing) (d₀.Grown nothing []) zoomToFit fun _ => d₀.Grown nothing [] := by
  refine .bind (.call (.enter fun _ h => h.toKept)) fun _ => ?_
  refine .bind (.mono .view (fun _ h => h) fun _ _ h => h.1) fun d => ?_
  exact .call (.zoomTo (fun _ h => h.toKept) steady_grown)

theorem zoomToSelection_does :
    Does (d₀.Kept nothing) (d₀.Grown nothing []) (zoomToSelection t) fun _ => d₀.Grown nothing [] := by
  refine .bind (.call (.getSelection (Q := fun _ => d₀.Grown nothing []) (fun _ h => h.toKept)
    fun d ids h hids => h.read hids)) fun ids => ?_
  split
  · exact .emit (by simp [Event.code])
  · exact .call (.zoomTo (fun _ h => h.toKept) steady_grown)

/-! ### Order and deletion -/

theorem containerOf_does {d : Document} {E : Document → Prop} {id : Nat} (hE : E d) :
    Does E (fun d' => d' = d) (containerOf id)
      fun p d' => d' = d ∧ (d.parentOf id = some p ∨ d.parentOf id = none ∧ p = .page) := by
  refine .bind .view fun d' => ?_
  split
  · rename_i p hp
    refine .pure ?_
    rintro d'' ⟨rfl, rfl⟩
    exact ⟨rfl, .inl hp⟩
  · rename_i hp
    refine .bind (.call (.enter fun d'' h => h.1 ▸ hE)) fun _ => .pure ?_
    rintro d'' ⟨rfl, rfl⟩
    exact ⟨rfl, .inr ⟨hp, rfl⟩⟩

/-- A layer that is hung again where it hangs. -/
theorem reorder_does {id : Nat} {f : Node → Document → Document}
    (hf : ∀ (d : Document) (p : Node), id < d.layers.length → d.has p → d.Moved [id] (some p) (f p d)) :
    Does (d₀.Kept nothing) (fun d => d₀.Grown nothing [] d ∧ id ∈ d.all)
      (ifAlive id do
        let p ← containerOf id
        Host.edit (f p)) fun _ => d₀.Grown nothing [] := by
  refine .ifAlive (fun _ h => live_of_all h.1 h.2) (.intro fun d h => ?_)
  -- What is listed has a parent, so the layer goes back where it was and not to the end of the page.
  obtain ⟨p, hp, hpp⟩ := ((mem_all_iff h.1).1 h.2).exists_parent
  refine .bind (containerOf_does h.1.toKept) fun p' => .edit ?_
  rintro d' ⟨rfl, hp'⟩
  obtain rfl : p' = p := by
    obtain hp' | ⟨hp', -⟩ := hp' <;> rw [hp] at hp' <;> cases hp'
    rfl
  have hm := hf d' p' (lt_of_parentOf hp) (h.1.sound.linked.has hp)
  refine h.1.still hm fun x => ?_
  by_cases hx : x ∈ [id]
  · rw [hm.parentOf_mem hx, List.mem_singleton.1 hx, hp]
  · exact hm.parentOf_not_mem hx

theorem bringToFront_does : Does (d₀.Kept nothing) (d₀.Grown nothing []) (bringToFront t) fun _ => d₀.Grown nothing [] :=
  .bind (.requireTarget fun _ h => h.toKept) fun _ => reorder_does fun _ _ hid hp => .append hid hp

theorem sendToBack_does : Does (d₀.Kept nothing) (d₀.Grown nothing []) (sendToBack t) fun _ => d₀.Grown nothing [] :=
  .bind (.requireTarget fun _ h => h.toKept) fun _ => reorder_does fun _ _ hid hp => .insert _ hid hp

theorem delete_does (hs : d₀.Sound) : Does (d₀.Kept anything) (fun d => d = d₀) (delete t)
    fun _ d => d₀.Kept anything d ∧ d.layers.length = d₀.layers.length := by
  have hE (d : Document) (h : d = d₀) : d₀.Kept anything d := by rw [h]; exact .refl hs
  refine .bind (.requireTarget hE) fun id => .ifAlive ?_ (.edit ?_)
  · rintro d ⟨rfl, hid⟩
    exact hs.live_of_onPage ((mem_all hs.linked).1 hid)
  · rintro d ⟨rfl, hid⟩
    exact ⟨.remove hs ((mem_all hs.linked).1 hid).lt fun _ => trivial, length_remove⟩

def deleteEach (ids : List LayerId) : Handler Unit :=
  ids.forM fun id => Host.edit fun d => if d.isRemoved id then d else d.remove id

/-- The layers `rest` are still to be removed. -/
def Deleting (d₀ : Document) (rest : List LayerId) (d : Document) : Prop :=
  (d₀.Kept anything d ∧ d.layers.length = d₀.layers.length) ∧ ∀ id ∈ rest, id < d₀.layers.length

theorem Deleting.take {ids : List Nat} {d : Document} (h : Deleting d₀ ids d) (i : Nat) : Deleting d₀ (ids.take i) d :=
  ⟨h.1, fun id hid => h.2 id (List.mem_of_mem_take hid)⟩

theorem getSelection_deleting (hs : d₀.Sound) :
    Does (d₀.Kept anything) (fun d => d = d₀) (liftM Host.getSelection) (Deleting d₀) := by
  refine .call (.getSelection (fun d h => by rw [h]; exact .refl hs) ?_)
  rintro d ids rfl hids
  have hread : d.Kept anything { d with selection := ids.map .layer } :=
    .select (hs.read hids) fun id hid _ => .inr ((mem_liveSelection hids).1 hid)
  exact ⟨⟨hread, rfl⟩, fun id hid => hs.lt_of_chosen ((mem_liveSelection hids).1 hid)⟩

theorem deleteEach_does {ids : List Nat} :
    Does (d₀.Kept anything) (Deleting d₀ ids) (deleteEach ids) fun _ => Deleting d₀ [] := by
  refine .forM (Deleting d₀) ids fun id rest => .edit fun d h => ?_
  obtain ⟨⟨hk, hl⟩, hids⟩ := h
  refine ⟨?_, fun y hy => hids y (List.mem_cons_of_mem _ hy)⟩
  split
  · exact ⟨hk, hl⟩
  · refine ⟨hk.trans (.remove hk.sound ?_ fun _ => trivial), length_remove.trans hl⟩
    rw [hl]
    exact hids id List.mem_cons_self

theorem deleteSelection_does (hs : d₀.Sound) : Does (d₀.Kept anything) (fun d => d = d₀) deleteSelection
    fun _ d => d₀.Kept anything d ∧ d.layers.length = d₀.layers.length :=
  .bind (getSelection_deleting hs) fun _ => .mono deleteEach_does (fun _ h => h) fun _ _ h => h.1

/-! ### Groups -/

/-- Grouping what is selected would close a round: the first layer of it hangs, on the page, below another one. -/
def Rounds (d : Document) : Prop :=
  ∃ first rest p s, d.liveSelection? = some (first :: rest) ∧ d.OnPage first ∧ d.parentOf first = some p ∧ s ∈ rest ∧
    d.Under p (.layer s)

theorem group_turns {E : Document → Prop} {Q : LayerId → Document → Prop} {d : Document} {ids : List Nat} {p : Node}
    (hE : E d) (hne : ids ≠ []) (hp : d.has p) (hc : d.isContainer p)
    (hQ : Q d.layers.length ((d.create (Look.initial .group)).2.gather d.layers.length ids p)) :
    Turns E (fun d' => d' = d) (Host.group ids p) Q := by
  have hnil : ids.isEmpty = false := by cases ids with
    | nil => exact absurd rfl hne
    | cons => rfl
  have hmake : Turns E (fun d' => d' = d) (Host.createKind .group) fun g d' =>
      g = d.layers.length ∧ d' = (d.create (Look.initial .group)).2 :=
    .create (fun _ h => h ▸ hE) fun _ h => h ▸ ⟨rfl, rfl⟩
  refine .bind (.enter fun _ h => h ▸ hE) fun _ => ?_
  simp only [hnil, Bool.false_eq_true, if_false]
  refine .bind hmake fun g => .bind .view fun d' => .intro ?_
  rintro d'' ⟨⟨rfl, rfl⟩, rfl⟩
  simp only [isContainer_create hp, hc, Bool.not_true, Bool.false_eq_true, if_false]
  have hedit : Turns E (fun d' => d' = (d.create (Look.initial .group)).2) (Host.edit (·.gather d.layers.length ids p))
      fun _ => Q d.layers.length := .edit fun _ h => h ▸ hQ
  exact .bind hedit fun _ => .pure fun _ h => h

/-- What `group` makes of a document. -/
structure Grouped (d₀ d : Document) : Prop where
  sound : d.Sound
  housed : d₀.Housed d
  kept : ¬Rounds d₀ → d₀.Kept nothing d ∧ (d₀.InView → d₀.Grown nothing [] d)

theorem grouped_of_grown {d : Document} (h : d₀.Grown nothing [] d) : Grouped d₀ d := ⟨h.sound, h.housed, fun _ => ⟨h.toKept, fun _ => h⟩⟩

/-- In `d` the new group `g` is to gather the layers `ids`, which are what is selected in `d₀`. -/
structure Gathering (d₀ : Document) (ids : List LayerId) (g : LayerId) (d : Document) : Prop where
  grown : d₀.Grown nothing [g] d
  last : g = d₀.layers.length ∧ d.layers.length = d₀.layers.length + 1
  kind : d.kindOf g = some .group
  parentOf : ∀ x, d.parentOf x = d₀.parentOf x
  chosen : ∀ x, x ∈ ids ↔ d.Chosen x
  chosen_before : ∀ x, x ∈ ids ↔ d₀.Chosen x

theorem gathering_create (hs : d₀.Sound) {ids : List Nat} {d : Document} (hids : d₀.liveSelection? = some ids)
    (hd : d = { d₀ with selection := ids.map .layer }) :
    Gathering d₀ ids d.layers.length (d.create (Look.initial .group)).2 where
  grown := by
    have hread : d₀.Grown nothing [] d := hd ▸ hs.grown.read hids
    exact hread.create
  last := ⟨by rw [hd], by rw [length_create, hd]⟩
  kind := kindOf_create_length
  parentOf x := by
    rw [parentOf_create, hd]
    rfl
  chosen x := by
    have hr : (d.create (Look.initial .group)).2.isRemoved x = d₀.isRemoved x := by
      rw [isRemoved_create, hd]
      rfl
    rw [Chosen, hr, selection_create, hd]
    refine ⟨fun hx => ⟨List.mem_map_of_mem hx, ((mem_liveSelection hids).1 hx).2⟩, fun hx => ?_⟩
    obtain ⟨y, hy, he⟩ := List.mem_map.1 hx.1
    cases he
    exact hy
  chosen_before _ := mem_liveSelection hids

namespace Gathering

variable {d : Document} {first g : Nat} {rest : List Nat} {p : Node} (h : Gathering d₀ (first :: rest) g d)

include h

theorem under {n a : Node} : d.Under n a ↔ d₀.Under n a := under_of_same h.parentOf

theorem housed (hgr : g ∉ first :: rest) (hp : d.has p) : d₀.Housed (d.gather g (first :: rest) p) := by
  have hg := h.grown.loose g List.mem_cons_self
  obtain ⟨d₁, h₁, h₂⟩ := exists_moved_gather hg hp fun x hx => h.grown.sound.lt_of_chosen ((h.chosen x).1 hx)
  intro x hx hx'
  rw [length_gather, h.last.2] at hx'
  obtain rfl : x = g := by
    rw [h.last.1]
    exact Nat.le_antisymm (Nat.le_of_lt_succ hx') hx
  rw [h₂.parentOf_not_mem hgr, h₁.parentOf_mem List.mem_cons_self]
  simp

/-- No round is closed, so all stays on the page that is on it. -/
theorem grouped (hids : d₀.liveSelection? = some (first :: rest))
    (hp : d₀.parentOf first = some p ∨ d₀.parentOf first = none ∧ p = .page) :
    Grouped d₀ (d.gather g (first :: rest) p) := by
  have hg := h.grown.loose g List.mem_cons_self
  have hfirst := (h.chosen first).1 List.mem_cons_self
  have hplace : d.parentOf first = some p ∨ p = .page := by
    rw [h.parentOf]
    exact hp.imp_right And.right
  have hgr : g ∉ first :: rest := fun hmem => hg.unselected ((h.chosen g).1 hmem).1
  refine ⟨h.grown.sound.gather hg h.kind h.chosen hfirst hplace, h.housed hgr (h.grown.sound.place_of_group hg hfirst hplace).1,
    fun hno => ?_⟩
  -- The first layer itself closes no round, or it would hang on itself already.
  have hround : d.OnPage first → ∀ s ∈ first :: rest, ¬d.Under p (.layer s) := by
    intro hf s hs hps
    rw [h.under] at hps
    have hf : d₀.OnPage first := h.under.1 hf
    obtain ⟨m, hm, -⟩ := hf.exists_parent
    obtain rfl : m = p := by
      obtain hp | ⟨hp, -⟩ := hp <;> rw [hm] at hp <;> cases hp
      rfl
    obtain rfl | hs := List.mem_cons.1 hs
    · obtain ⟨k, hk⟩ := hps
      refine acyclic_of_under_page hf k ?_
      rw [climb, show d₀.up (.layer s) = some m from hm]
      exact hk
    · exact hno ⟨first, rest, m, s, hids, hf, hm, hs, hps⟩
  obtain ⟨hkept, hon⟩ := Kept.gather h.grown.sound hg h.kind h.chosen hfirst hplace hround
  have hkept : d₀.Kept nothing (d.gather g (first :: rest) p) := h.grown.toKept.trans hkept
  refine ⟨hkept, fun hv => ⟨hkept, fun x hx hx' => .inl ?_, by simp, .nil⟩⟩
  rw [length_gather, h.last.2] at hx'
  obtain rfl : x = g := by
    rw [h.last.1]
    exact Nat.le_antisymm (Nat.le_of_lt_succ hx') hx
  exact hon (h.grown.view hv first hfirst)

/-- A round is closed, and what hangs on it, or is in it, is off the page. -/
theorem onPage_round (hp : d₀.parentOf first = some p) {s x : Nat} (hs : s ∈ rest) (hps : d₀.Under p (.layer s)) :
    (d.gather g (first :: rest) p).OnPage x ↔ d₀.OnPage x ∧ ∀ y, d₀.Chosen y → ¬d₀.Under (.layer x) (.layer y) := by
  have hg := h.grown.loose g List.mem_cons_self
  have hpd : d.parentOf first = some p := (h.parentOf first).trans hp
  have hpg : p ≠ .layer g := by
    rintro rfl
    exact hg.childless _ hpd
  obtain ⟨d₁, h₁, h₂⟩ := exists_moved_gather hg (h.grown.sound.linked.has hpd) fun y hy =>
    h.grown.sound.lt_of_chosen ((h.chosen y).1 hy)
  rw [onPage_gather_round hg h₁ h₂ hpg fun _ => ⟨s, List.mem_cons_of_mem _ hs, h.under.2 hps⟩, OnPage, h.under]
  refine and_congr_right fun _ => forall_congr' fun y => ?_
  rw [h.under, h.chosen_before]

end Gathering

theorem steady_grouped : Steady (Grouped d₀) :=
  fun _ _ h hm => ⟨h.sound.still hm hm.parentOf, h.housed.unmoved hm, fun hno =>
    ⟨(h.kept hno).1.unmoved hm, fun hv => ((h.kept hno).2 hv).unmoved hm⟩⟩

theorem groupSelection_does (hs : d₀.Sound) :
    Does (fun d => d.Sound ∧ (¬Rounds d₀ → d₀.Kept nothing d)) (fun d => d = d₀) (groupSelection t) fun _ => Grouped d₀ := by
  have hselect : Turns (fun d => d.Sound ∧ (¬Rounds d₀ → d₀.Kept nothing d)) (fun d => d = d₀) Host.getSelection
      fun ids d => d₀.liveSelection? = some ids ∧ d = { d₀ with selection := ids.map .layer } := by
    refine .getSelection ?_ ?_
    · rintro d rfl
      exact ⟨hs, fun _ => .refl hs⟩
    · rintro d ids rfl hids
      exact ⟨hids, rfl⟩
  refine .bind (.call hselect) fun ids => .intro ?_
  rintro d ⟨hids, hd⟩
  have hread : d₀.Grown nothing [] d := hd ▸ hs.grown.read hids
  split
  · rename_i first second rest
    refine .bind (containerOf_does ⟨hread.sound, fun _ => hread.toKept⟩) fun p => .intro ?_
    rintro d' ⟨rfl, hp⟩
    -- The container is the parent of a layer or the page, so the group is not refused for it.
    have hplace : d'.has p ∧ d'.isContainer p := by
      obtain hp | ⟨-, rfl⟩ := hp
      · exact ⟨hread.sound.linked.has hp, hread.sound.container _ _ hp⟩
      · exact ⟨trivial, rfl⟩
    have hp' : d₀.parentOf first = some p ∨ d₀.parentOf first = none ∧ p = .page := by
      rw [hd] at hp
      exact hp
    have hgroup := group_turns (E := fun d => d.Sound ∧ (¬Rounds d₀ → d₀.Kept nothing d)) (Q := fun _ => Grouped d₀)
      ⟨hread.sound, fun _ => hread.toKept⟩ (List.cons_ne_nil _ _) hplace.1 hplace.2 ((gathering_create hs hids hd).grouped hids hp')
    exact .bind (.call hgroup) fun g => .applyName steady_grouped
  · refine .mono (.emit (by simp [Event.code])) (fun _ h => h) ?_
    rintro - d' rfl
    exact grouped_of_grown hread

/-- One selected layer after the other is dissolved, if it is a group. -/
def Dissolving (d₀ : Document) (rest : List LayerId) (d : Document) : Prop :=
  (d₀.Kept (groups d₀) d ∧ d.layers.length = d₀.layers.length) ∧ rest.Nodup ∧ ∀ id ∈ rest, d.Chosen id

theorem Dissolving.tail {id : Nat} {rest : List Nat} {d : Document} (h : Dissolving d₀ (id :: rest) d) :
    Dissolving d₀ rest d :=
  ⟨h.1, (List.nodup_cons.1 h.2.1).2, fun y hy => h.2.2 y (List.mem_cons_of_mem _ hy)⟩

theorem Dissolving.dissolve {id : Nat} {rest : List Nat} {d : Document} {p : Node} (h : Dissolving d₀ (id :: rest) d)
    (hk : d.kindOf id = some .group) (hp : d.parentOf id = some p) : Dissolving d₀ rest (d.dissolve id p) := by
  obtain ⟨⟨hkept, hlen⟩, hn, hids⟩ := h
  obtain ⟨hnot, hn⟩ := List.nodup_cons.1 hn
  have hc : d.Chosen id := hids id List.mem_cons_self
  have hm := Moved.release (g := id) hkept.sound.linked (hkept.sound.linked.has hp)
  -- Kinds do not change, so what is dissolved now was a group to begin with.
  have hlost : groups d₀ id := by
    rw [groups, ← hkept.kind id (by rw [← hlen]; exact hkept.sound.lt_of_chosen hc), hk]
  refine ⟨⟨hkept.trans (.dissolve hkept.sound hp hc hlost), ?_⟩, hn, fun y hy => ?_⟩
  · rw [dissolve_eq, length_remove, hm.length, hlen]
  · have hy' := hids y (List.mem_cons_of_mem _ hy)
    refine ⟨by rw [dissolve_eq, selection_remove, hm.selection]; exact hy'.1, Bool.eq_false_iff.2 fun hr => ?_⟩
    obtain hr | rfl := (isRemoved_dissolve hkept.sound.linked hp (hkept.sound.parent_ne hp hc)).1 hr
    · rw [hy'.2] at hr
      cases hr
    · exact hnot hy

theorem ungroup_turns {E : Document → Prop} {d : Document} {id : Nat} (hE : E d) :
    Turns E (fun d' => d' = d) (Host.ungroup id)
      fun _ d' => d' = d ∨ ∃ p, d.parentOf id = some p ∧ d' = d.dissolve id p := by
  refine .bind (.enter fun _ h => h ▸ hE) fun _ => .bind .view fun d' => .intro ?_
  rintro d'' ⟨rfl, rfl⟩
  split
  · exact .pure fun _ h => .inl h
  · rename_i l hl
    have hparent : d'.parentOf id = l.parent := by rw [parentOf, hl]; rfl
    cases hp : l.parent with
    | none =>
      dsimp only
      split
      · exact .bind (Q := fun _ d => d = d') (.throw fun _ h => h ▸ hE) fun _ => .pure fun _ h => .inl h
      · exact .pure fun _ h => .inl h
    | some p =>
      have hedit : Turns E (fun d => d = d') (Host.edit (·.dissolve id p)) fun _ d => d = d'.dissolve id p :=
        .edit fun _ h => by rw [h]
      have hrelease : Turns E (fun d => d = d') (do
          Host.edit (·.dissolve id p)
          return l.children) fun _ d => d = d' ∨ ∃ p, d'.parentOf id = some p ∧ d = d'.dissolve id p :=
        .bind hedit fun _ => .pure fun _ h => .inr ⟨p, hparent.trans hp, h⟩
      dsimp only
      split
      · exact .bind (Q := fun _ d => d = d') (.throw fun _ h => h ▸ hE) fun _ => hrelease
      · exact hrelease

def ungroupEach (ids : List LayerId) : Handler Unit :=
  ids.forM fun id => do
    if (← lookOf id).kind = .group then
      ifAlive id do
        let _ ← Host.ungroup id

theorem Dissolving.take {ids : List Nat} {d : Document} (h : Dissolving d₀ ids d) (i : Nat) :
    Dissolving d₀ (ids.take i) d :=
  ⟨h.1, h.2.1.sublist (List.take_sublist i ids), fun y hy => h.2.2 y (List.mem_of_mem_take hy)⟩

theorem getSelection_dissolving (hs : d₀.Sound) :
    Does (d₀.Kept (groups d₀)) (fun d => d = d₀) (liftM Host.getSelection) (Dissolving d₀) := by
  refine .call (.getSelection (fun d h => by rw [h]; exact .refl hs) ?_)
  rintro d ids rfl hids
  obtain ⟨ids', h', hn, -⟩ := hs.liveSelection
  cases hids.symm.trans h'
  have hread : d.Kept (groups d) { d with selection := ids.map .layer } :=
    .select (hs.read hids) fun id hid _ => .inr ((mem_liveSelection hids).1 hid)
  exact ⟨⟨hread, rfl⟩, hn, fun id hid => ⟨List.mem_map_of_mem hid, ((mem_liveSelection hids).1 hid).2⟩⟩

theorem ungroupEach_does {ids : List Nat} :
    Does (d₀.Kept (groups d₀)) (Dissolving d₀ ids) (ungroupEach ids) fun _ => Dissolving d₀ [] := by
  refine .forM (Dissolving d₀) ids fun id rest => .bind .lookOf fun look => ?_
  split
  · rename_i hk
    refine .ifAlive (fun d h => (h.1.2.2 id List.mem_cons_self).2) (.intro ?_)
    rintro d ⟨h, hlook⟩
    have hkind : d.kindOf id = some .group := by
      have hlt : id < d.layers.length := h.1.1.sound.lt_of_chosen (h.2.2 id List.mem_cons_self)
      have hl : d.layer? id = some d.layers[id] := List.getElem?_eq_getElem hlt
      rw [hl] at hlook
      rw [kindOf, hl, ← hk, hlook]
      rfl
    refine .bind (Q := fun _ => Dissolving d₀ rest) (.mono (.call (ungroup_turns h.1.1)) (fun _ h => h) ?_) fun _ => ?_
    · rintro - d' (rfl | ⟨p, hp, rfl⟩)
      · exact h.tail
      · exact h.dissolve hkind hp
    · exact .pure fun _ h => h
  · exact .pure fun d h => h.1.tail

theorem ungroupSelection_does (hs : d₀.Sound) : Does (d₀.Kept (groups d₀)) (fun d => d = d₀) ungroupSelection
    fun _ d => d₀.Kept (groups d₀) d ∧ d.layers.length = d₀.layers.length :=
  .bind (getSelection_dissolving hs) fun _ => .mono ungroupEach_does (fun _ h => h) fun _ _ h => h.1

/-! ### All operations -/

/-- The layers that an operation may take off the page: any, if it deletes, and the groups, if it ungroups. -/
def mayLose (op : Option Op) (d : Document) (id : LayerId) : Prop :=
  match op with
  | some .delete | some .deleteSelection => True
  | some .ungroup => d.kindOf id = some .group
  | _ => False

/-- `d` is what an operation may have left of `d₀` when it ended early. -/
def Begun (op : Op) (d₀ d : Document) : Prop :=
  d.Sound ∧ (¬(op = .group ∧ Rounds d₀) → d₀.Kept (mayLose (some op) d₀) d)

/-- `d` is what an operation makes of `d₀`: all that it made hangs somewhere, and on the page if no round is closed. -/
structure Ended (op : Op) (d₀ d : Document) : Prop where
  sound : d.Sound
  housed : d₀.Housed d
  kept : ¬(op = .group ∧ Rounds d₀) → d₀.Kept (mayLose (some op) d₀) d ∧
    (d₀.InView → ∀ x, d₀.layers.length ≤ x → x < d.layers.length → d.OnPage x)

theorem Does.of_grown {op : Op} {m : Handler Unit} (hs : d₀.Sound)
    (h : Does (d₀.Kept (mayLose (some op) d₀)) (d₀.Grown (mayLose (some op) d₀) []) m fun _ => d₀.Grown (mayLose (some op) d₀) []) :
    Does (Begun op d₀) (fun d => d = d₀) m fun _ => Ended op d₀ := by
  refine Leads.mono h ?_ ?_ ?_
  · rintro r ⟨rfl, hc⟩
    exact ⟨hs.grown, hc⟩
  · rintro - r ⟨h, hc⟩
    exact ⟨⟨h.sound, h.housed, fun _ => ⟨h.toKept, fun _ x hx hx' => (h.fresh x hx hx').resolve_right (by simp)⟩⟩, hc⟩
  · rintro - r ⟨h, hc⟩
    exact ⟨⟨h.sound, fun _ => h⟩, hc⟩

theorem Does.of_kept {op : Op} {m : Handler Unit}
    (h : Does (d₀.Kept (mayLose (some op) d₀)) (fun d => d = d₀) m
      fun _ d => d₀.Kept (mayLose (some op) d₀) d ∧ d.layers.length = d₀.layers.length) :
    Does (Begun op d₀) (fun d => d = d₀) m fun _ => Ended op d₀ := by
  refine Leads.mono h (fun _ h => h) ?_ ?_
  · rintro - r ⟨⟨h, hl⟩, hc⟩
    exact ⟨⟨h.sound, housed_of_length hl, fun _ => ⟨h, fun _ x hx hx' => absurd hx' (by omega)⟩⟩, hc⟩
  · rintro - r ⟨h, hc⟩
    exact ⟨⟨h.sound, fun _ => h⟩, hc⟩

theorem Does.of_grouped {m : Handler Unit}
    (h : Does (fun d => d.Sound ∧ (¬Rounds d₀ → d₀.Kept nothing d)) (fun d => d = d₀) m fun _ => Grouped d₀) :
    Does (Begun .group d₀) (fun d => d = d₀) m fun _ => Ended .group d₀ := by
  refine Leads.mono h (fun _ h => h) ?_ ?_
  · rintro - r ⟨h, hc⟩
    refine ⟨⟨h.sound, h.housed, fun hno => ?_⟩, hc⟩
    obtain ⟨hk, hg⟩ := h.kept fun hr => hno ⟨rfl, hr⟩
    exact ⟨hk, fun hv x hx hx' => ((hg hv).fresh x hx hx').resolve_right (by simp)⟩
  · rintro - r ⟨h, hc⟩
    exact ⟨⟨h.1, fun hno => h.2 fun hr => hno ⟨rfl, hr⟩⟩, hc⟩

theorem handle_does (op : Op) (hs : d₀.Sound) : Does (Begun op d₀) (fun d => d = d₀) (handle op t) fun _ => Ended op d₀ := by
  cases op with
  | createRectangle | createEllipse | createPolygon | createStar | createFrame => exact .of_grown hs createBox_does
  | createCircle => exact .of_grown hs createCircle_does
  | createLine => exact .of_grown hs createLine_does
  | createText => exact .of_grown hs createText_does
  | setFill => exact .of_grown hs setFill_does
  | setStroke => exact .of_grown hs setStroke_does
  | setOpacity => exact .of_grown hs setOpacity_does
  | move => exact .of_grown hs move_does
  | resize => exact .of_grown hs resize_does
  | rotate => exact .of_grown hs rotate_does
  | select => exact .of_grown hs select_does
  | selectAll => exact .of_grown hs selectAll_does
  | deselect => exact .of_grown hs deselect_does
  | findByName => exact .of_grown hs findByName_does
  | selectLast => exact .of_grown hs selectLast_does
  | bringToFront => exact .of_grown hs bringToFront_does
  | sendToBack => exact .of_grown hs sendToBack_does
  | delete => exact .of_kept (delete_does hs)
  | deleteSelection => exact .of_kept (deleteSelection_does hs)
  | group => exact .of_grouped (groupSelection_does hs)
  | ungroup => exact .of_kept (ungroupSelection_does hs)
  | zoomToFit => exact .of_grown hs zoomToFit_does
  | zoomToSelection => exact .of_grown hs zoomToSelection_does

end Easel.Execution
