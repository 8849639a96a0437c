import Easel.Proofs.Document.Places
import Easel.Proofs.Document.Pruning

/-!
Dissolved groups, one after the other. What hung on a group takes the place of the group, so the walk over the page passes over the
group and meets the rest in the same order. Off the page groups may hang on each other in a round: with the last one of a round goes
all that hangs on it.
-/

namespace Easel.Document

variable {gone gone' : Nat → Prop} {d d' : Document} {n m c p : Node} {g x index : Nat} {ids v w a b : List Nat}

/-! ### The place of a group -/

/-- The children of `g` in the place of `g`. -/
def spliced (d : Document) (g : LayerId) (ids : List LayerId) : List LayerId :=
  ids.flatMap fun x => if x = g then d.childrenOf (.layer g) else [x]

theorem spliced_cons_self : d.spliced g (g :: ids) = d.childrenOf (.layer g) ++ d.spliced g ids := by simp [spliced]

theorem spliced_cons_ne (h : x ≠ g) : d.spliced g (x :: ids) = x :: d.spliced g ids := by simp [spliced, h]

theorem spliced_append : d.spliced g (a ++ b) = d.spliced g a ++ d.spliced g b := List.flatMap_append

theorem spliced_eq_self (h : g ∉ ids) : d.spliced g ids = ids := by
  induction ids with
  | nil => rfl
  | cons x rest ih =>
    obtain ⟨hx, hrest⟩ := not_or.1 (mt List.mem_cons.2 h)
    rw [spliced_cons_ne (Ne.symm hx), ih hrest]

/-- Layers that come to `p` from elsewhere leave alone the lists of all others. -/
theorem childrenOf_place_of_ne (hp : d.has p) (hc : c ≠ p) {items : List (Nat × Nat)}
    (hitems : ∀ i ∈ items, i.1 < d.layers.length ∧ d.parentOf i.1 ≠ some c) :
    (items.foldl (fun d (id, offset) => d.insert p (index + offset : Nat) id) d).childrenOf c = d.childrenOf c := by
  induction items generalizing d with
  | nil => rfl
  | cons i rest ih =>
    obtain ⟨hlt, hne⟩ := hitems i List.mem_cons_self
    have hm : d.Moved [i.1] (some p) (d.insert p (index + i.2 : Nat) i.1) := .insert _ hlt hp
    rw [List.foldl_cons, ih (hm.has.2 hp) fun j hj => ?_]
    · rw [insert, childrenOf_attach_ne hc, childrenOf_detach, if_neg hne]
    · obtain ⟨hlt, hne⟩ := hitems j (List.mem_cons_of_mem _ hj)
      rw [hm.length, hm.parentOf]
      refine ⟨hlt, ?_⟩
      split
      · exact fun he => hc (Option.some.inj he).symm
      · exact hne

section Dissolve

variable (hl : d.Linked) (hg : d.parentOf g = some p)

include hl hg

theorem moved_release : d.Moved (d.childrenOf (.layer g)) (some p) (d.release g p) := .release hl (hl.has hg)

theorem parentOf_release_self : (d.release g p).parentOf g = some p := by
  rw [(moved_release hl hg).parentOf, hg]
  split <;> rfl

theorem linked_dissolve : (d.dissolve g p).Linked := ((moved_release hl hg).linked hl).remove

theorem parentOf_dissolve : (d.dissolve g p).parentOf x =
    if x = g then none else if d.parentOf x = some (.layer g) then some p else d.parentOf x := by
  rw [dissolve_eq, parentOf_remove, (moved_release hl hg).parentOf]
  simp only [hl.mem_iff]

theorem childrenOf_dissolve (hc : c ≠ .layer g) : (d.dissolve g p).childrenOf c = d.spliced g (d.childrenOf c) := by
  rw [dissolve_eq, remove, childrenOf_markRemoved, childrenOf_detach, parentOf_release_self hl hg]
  by_cases hcp : c = p
  · subst hcp
    obtain ⟨a, b, hab⟩ := List.append_of_mem (hl.mem_iff.2 hg)
    have hn : (a ++ g :: b).Nodup := hab ▸ hl.nodup c
    obtain ⟨hga, hgb⟩ : g ∉ a ∧ g ∉ b := by
      have hsplit := List.nodup_append.1 hn
      exact ⟨fun h => hsplit.2.2 g h g List.mem_cons_self rfl, (List.nodup_cons.1 hsplit.2.1).1⟩
    have hgg : g ∉ d.childrenOf (.layer g) := fun h => hc (Option.some.inj (hg.symm.trans (hl.mem_iff.1 h)))
    -- The children come to stand side by side before the group, which leaves after that.
    have hplace : (d.release g c).childrenOf c = a ++ (d.childrenOf (.layer g) ++ g :: b) := by
      have h := childrenOf_place (c := c) (k := 0) hl (hl.has hg) hc.symm (hl.nodup (.layer g)) (fun _ => hl.mem_iff.1) hab rfl
      rw [if_pos rfl] at h
      unfold release
      rw [hab, idxOf?_eq_length hga]
      exact h
    rw [if_pos rfl, hplace, hab, List.erase_append_right _ hga, List.erase_append_right _ hgg, List.erase_cons_head, spliced_append,
      spliced_cons_self, spliced_eq_self hga, spliced_eq_self hgb]
  · have hgc : g ∉ d.childrenOf c := fun h => hcp (Option.some.inj ((hl.mem_iff.1 h).symm.trans hg))
    rw [if_neg fun h => hcp (Option.some.inj h).symm, spliced_eq_self hgc]
    refine childrenOf_place_of_ne (hl.has hg) hcp fun i hi => ?_
    have hi : d.parentOf i.1 = some (.layer g) := hl.mem_iff.1 (List.fst_mem_of_mem_zipIdx hi)
    exact ⟨lt_of_parentOf hi, fun h => hc (Option.some.inj (h.symm.trans hi))⟩

end Dissolve

/-! ### The walk -/

theorem Visits.append (hv : d.Visits a v) (hw : d.Visits b w) : d.Visits (a ++ b) (v ++ w) := by
  induction hv with
  | nil => exact hw
  | cons hbelow _ _ ih =>
    rw [List.cons_append, List.append_assoc]
    exact .cons hbelow ih

/-- A walk meets what hung on the group where it met the group before. -/
theorem Visits.splice (hv : d.Visits ids v) (h : ∀ x, x ≠ g → d'.childrenOf (.layer x) = d.spliced g (d.childrenOf (.layer x)))
    (hg : g ∈ v → g ∉ d.childrenOf (.layer g)) : d'.Visits (d.spliced g ids) (Document.spare (· = g) v) := by
  induction hv with
  | nil => exact .nil
  | @cons id ids below rest _ _ ihbelow ihrest =>
    replace ihbelow := ihbelow fun hmem => hg (List.mem_append_left _ (List.mem_cons_of_mem _ hmem))
    replace ihrest := ihrest fun hmem => hg (List.mem_append_right _ hmem)
    rw [List.cons_append]
    by_cases hid : id = g
    · -- Below the group the walk does not meet it, so it is spliced there already.
      subst hid
      rw [spliced_eq_self (hg List.mem_cons_self)] at ihbelow
      rw [spliced_cons_self, spare_cons_gone (· = id) rfl, spare_append]
      exact ihbelow.append ihrest
    · rw [spliced_cons_ne hid, spare_cons_left (· = g) hid, spare_append]
      rw [← h id hid] at ihbelow
      exact .cons ihbelow ihrest

section Dissolve

variable (hl : d.Linked) (hg : d.parentOf g = some p)

include hl hg

theorem all_dissolve : (d.dissolve g p).all = spare (· = g) d.all := by
  -- On the page nothing hangs on itself, so the children are not met again in the place of the group.
  have hself : g ∈ d.all → g ∉ d.childrenOf (.layer g) := fun hmem hgg =>
    acyclic_of_under_page ((mem_all hl).1 hmem) 0 ((climb_succ (k := 0) rfl).trans (hl.mem_iff.1 hgg))
  have hwalk : (d.dissolve g p).Visits (d.spliced g d.pageChildren) (spare (· = g) d.all) :=
    (visits_all hl).splice (fun x hx => childrenOf_dissolve hl hg fun h => hx (Node.layer.inj h)) hself
  have hpage : (d.dissolve g p).pageChildren = d.spliced g d.pageChildren := childrenOf_dissolve (c := .page) hl hg (by simp)
  rw [← hpage] at hwalk
  exact hwalk.unique (visits_all (linked_dissolve hl hg))

/-! ### What is under what -/

theorem under_of_dissolve (h : (d.dissolve g p).Under n m) : d.Under n m := by
  refine h.induction (motive := fun n => d.Under n m) .refl ?_
  rintro n q hup - ih
  obtain ⟨x, rfl, hx⟩ := up_eq_some hup
  rw [parentOf_dissolve hl hg] at hx
  split at hx
  · cases hx
  · split at hx
    · rename_i hxg
      cases hx
      exact .step hxg (.step hg ih)
    · exact .step hx ih

/-- The way up leads past the group no more. -/
theorem under_dissolve (hn : n ≠ .layer g) (hm : m ≠ .layer g) : (d.dissolve g p).Under n m ↔ d.Under n m := by
  refine ⟨under_of_dissolve hl hg, fun h => ?_⟩
  -- From the group itself, the way up starts at what the group hung on.
  have hstart : (d.dissolve g p).Under (if n = .layer g then p else n) m := by
    refine h.induction (motive := fun n => (d.dissolve g p).Under (if n = .layer g then p else n) m) ?_ ?_
    · rw [if_neg hm]
      exact .refl
    · rintro n q hup - ih
      obtain ⟨x, rfl, hx⟩ := up_eq_some hup
      by_cases hxg : x = g
      · subst hxg
        cases hg.symm.trans hx
        rw [ite_self] at ih
        rw [if_pos rfl]
        exact ih
      · have hxp : (d.dissolve g p).parentOf x = some (if q = .layer g then p else q) := by
          rw [parentOf_dissolve hl hg, if_neg hxg, hx]
          by_cases hq : q = .layer g <;> simp [hq]
        rw [if_neg fun h => hxg (Node.layer.inj h)]
        exact .step hxp ih
  rwa [if_neg hn] at hstart

/-! ### Marks -/

/-- A group that hangs on itself takes with it all that hangs on it. -/
theorem isRemoved_dissolve_self (hp : p = .layer g) :
    (d.dissolve g p).isRemoved x = true ↔ d.isRemoved x = true ∨ d.Under (.layer x) (.layer g) := by
  have h := moved_release hl hg
  -- Its children are hung again on the group itself.
  have hparents (y : Nat) : (d.release g p).parentOf y = d.parentOf y := by
    rw [h.parentOf]
    split
    · rename_i hy
      rw [hp, hl.mem_iff.1 hy]
    · rfl
  rw [dissolve_eq, isRemoved_remove (h.linked hl) (lt_length_release hl hg), h.isRemoved, under_of_same hparents]

theorem Alike.dissolve (ha : d.Alike) : (d.dissolve g p).Alike := by
  have h := moved_release hl hg
  refine (ha.moved h fun s hs q hq => ?_).remove (h.linked hl) (lt_length_release hl hg)
  cases hq
  exact (ha s _ (hl.mem_iff.1 hs)).trans (ha g p hg)

end Dissolve

/-! ### One group after the other -/

/-- The page, or a layer that is not gone. -/
def Stays (gone : LayerId → Prop) : Node → Prop
  | .page => True
  | .layer x => ¬gone x

/-- Hung, by whatever way, on a round of layers that are gone. -/
def Adrift (d : Document) (gone : LayerId → Prop) (x : LayerId) : Prop :=
  ∃ g, d.Under (.layer x) (.layer g) ∧ ∀ n, d.Under (.layer g) n → ¬Stays gone n

theorem stays_or : Stays (fun x => gone x ∨ x = g) n ↔ Stays gone n ∧ n ≠ .layer g := by
  cases n with
  | page => simp [Stays]
  | layer x => simp [Stays, not_or]

theorem not_adrift_of_onPage (h : d.OnPage x) : ¬d.Adrift gone x := fun ⟨_, hg, hall⟩ => hall .page (hg.onPage h) trivial

theorem adrift_or : d.Adrift (fun x => gone x ∨ x = g) x ↔
    d.Adrift gone x ∨ d.Under (.layer x) (.layer g) ∧ ∀ n, d.Under (.layer g) n → ¬Stays (fun x => gone x ∨ x = g) n := by
  constructor
  · rintro ⟨y, hy, hall⟩
    by_cases hg : d.Under (.layer y) (.layer g)
    · exact .inr ⟨hy.trans hg, fun n hn => hall n (hg.trans hn)⟩
    · refine .inl ⟨y, hy, fun n hn hs => hall n hn (stays_or.2 ⟨hs, ?_⟩)⟩
      rintro rfl
      exact hg hn
  · rintro (⟨y, hy, hall⟩ | ⟨hy, hall⟩)
    · exact ⟨y, hy, fun n hn hs => hall n hn (stays_or.1 hs).1⟩
    · exact ⟨g, hy, hall⟩

/-- The groups of `gone` are dissolved. What is left is listed as it was, hangs on what is left as it did, and looks as it looked; what
is removed with the groups was adrift. -/
structure Flattened (gone : LayerId → Prop) (d d' : Document) : Prop where
  listed : d'.all = spare gone d.all
  under : ∀ n m, Stays gone n → Stays gone m → (d'.Under n m ↔ d.Under n m)
  removed : ∀ x, d'.isRemoved x = true ↔ d.isRemoved x = true ∨ gone x ∨ d.Adrift gone x
  hung : ∀ x, ¬gone x → (d'.parentOf x = none ↔ d.parentOf x = none)
  looks : d'.looks = d.looks
  beside : d'.beside = d.beside
  linked : d'.Linked
  alike : d'.Alike

namespace Flattened

theorem refl (hl : d.Linked) (ha : d.Alike) : d.Flattened (fun _ => False) d where
  listed := (spare_eq_self fun _ _ => id).symm
  under _ _ _ _ := Iff.rfl
  removed x := by
    have hno : ¬d.Adrift (fun _ => False) x := fun ⟨g, _, hall⟩ => hall (.layer g) .refl id
    simp [hno]
  hung _ _ := Iff.rfl
  looks := rfl
  beside := rfl
  linked := hl
  alike := ha

theorem congr (h : d.Flattened gone d') (hg : ∀ x, gone x ↔ gone' x) : d.Flattened gone' d' := by
  obtain rfl : gone = gone' := funext fun x => propext (hg x)
  exact h

theorem gone_removed (h : d.Flattened gone d') (hx : gone x) : d'.isRemoved x = true := (h.removed x).2 (.inr (.inl hx))

/-- A group that went with a round that it hung on is not dissolved any more. -/
theorem skip (h : d.Flattened gone d') (hl : d.Linked) (hg : d.Adrift gone g) : d.Flattened (fun x => gone x ∨ x = g) d' := by
  refine ⟨?_, fun n m hn hm => h.under n m (stays_or.1 hn).1 (stays_or.1 hm).1, fun x => ?_,
    fun x hx => h.hung x fun hgone => hx (.inl hgone), h.looks, h.beside, h.linked, h.alike⟩
  · refine h.listed.trans (spare_congr fun x hx => ⟨.inl, fun hgone => hgone.resolve_right ?_⟩)
    rintro rfl
    exact not_adrift_of_onPage ((mem_all hl).1 hx) hg
  · have hbelow (hx : d.Under (.layer x) (.layer g)) : d.Adrift gone x := by
      obtain ⟨y, hy, hall⟩ := hg
      exact ⟨y, hx.trans hy, hall⟩
    rw [h.removed, adrift_or]
    constructor
    · rintro (hr | hgone | ha)
      · exact .inl hr
      · exact .inr (.inl (.inl hgone))
      · exact .inr (.inr (.inl ha))
    · rintro (hr | (hgone | rfl) | ha | ⟨hx, -⟩)
      · exact .inl hr
      · exact .inr (.inl hgone)
      · exact .inr (.inr hg)
      · exact .inr (.inr ha)
      · exact .inr (.inr (hbelow hx))

section

variable (h : d.Flattened gone d') (hlive : d'.isRemoved g = false) (hp : d'.parentOf g = some p)

include h hlive hp

theorem stays_parent : Stays gone (.layer g) ∧ Stays gone p := by
  have hlayer (y : Nat) (hy : d'.isRemoved y = false) : ¬gone y := fun hgone =>
    Bool.false_ne_true (hy.symm.trans (h.gone_removed hgone))
  refine ⟨hlayer g hlive, ?_⟩
  cases p with
  | page => trivial
  | layer y => exact hlayer y ((h.alike g _ hp).symm.trans hlive)

/-- The group is the last one of a round if it hangs on itself by now. -/
theorem round_iff : p = .layer g ↔ ∀ n, d.Under (.layer g) n → ¬Stays (fun x => gone x ∨ x = g) n := by
  obtain ⟨hg, hpstays⟩ := h.stays_parent hlive hp
  constructor
  · rintro rfl n hn hs
    obtain ⟨hs, hng⟩ := stays_or.1 hs
    have hn : d'.Under (.layer g) n := (h.under _ _ hg hs).2 hn
    -- The way up from a layer that hangs on itself leads nowhere else.
    refine hng (hn.induction (motive := fun m => m = .layer g → n = .layer g) id ?_ rfl)
    rintro _ m hup - ih rfl
    cases hp.symm.trans hup
    exact ih rfl
  · intro hall
    by_contra hpg
    -- What it hangs on is above it from the beginning, and stays.
    exact hall p ((h.under _ _ hg hpstays).1 (.step hp .refl)) (stays_or.2 ⟨hpstays, hpg⟩)

theorem removed_dissolve : (d'.dissolve g p).isRemoved x = true ↔
    d.isRemoved x = true ∨ (gone x ∨ x = g) ∨ d.Adrift (fun x => gone x ∨ x = g) x := by
  obtain ⟨hg, -⟩ := h.stays_parent hlive hp
  rw [adrift_or, ← h.round_iff hlive hp]
  by_cases hpg : p = .layer g
  · have hunder (hx : ¬gone x) : d'.Under (.layer x) (.layer g) ↔ d.Under (.layer x) (.layer g) := h.under _ _ hx hg
    have hself (hx : x = g) : d.Under (.layer x) (.layer g) := hx ▸ .refl
    rw [isRemoved_dissolve_self h.linked hp hpg, h.removed]
    by_cases hx : gone x
    · simp [hx]
    · rw [hunder hx]
      tauto
  · rw [isRemoved_dissolve h.linked hp hpg, h.removed]
    simp only [hpg, and_false, or_false]
    tauto

theorem dissolve : d.Flattened (fun x => gone x ∨ x = g) (d'.dissolve g p) := by
  refine ⟨?_, fun n m hn hm => ?_, fun x => h.removed_dissolve hlive hp, fun x hx => ?_, looks_dissolve.trans h.looks,
    beside_dissolve.trans h.beside, linked_dissolve h.linked hp, h.alike.dissolve h.linked hp⟩
  · rw [all_dissolve h.linked hp, h.listed, spare_spare]
  · obtain ⟨hn, hng⟩ := stays_or.1 hn
    obtain ⟨hm, hmg⟩ := stays_or.1 hm
    exact (under_dissolve h.linked hp hng hmg).trans (h.under n m hn hm)
  · obtain ⟨hx, hxg⟩ := not_or.1 hx
    rw [parentOf_dissolve h.linked hp, if_neg hxg, ← h.hung x hx]
    split
    · rename_i hxp
      simp [hxp]
    · rfl

end

end Flattened

/-- A live group is dissolved if it hangs somewhere. -/
def ungrouped (d : Document) (id : LayerId) : Document :=
  if d.kindOf id = some .group ∧ d.isRemoved id = false then
    match d.parentOf id with
    | some p => d.dissolve id p
    | none => d
  else d

theorem ungrouped_eq_dissolve (hk : d.kindOf g = some .group) (hlive : d.isRemoved g = false) (hp : d.parentOf g = some p) :
    d.ungrouped g = d.dissolve g p := by rw [ungrouped, if_pos ⟨hk, hlive⟩, hp]

theorem ungrouped_eq_self (h : ¬(d.kindOf g = some .group ∧ d.isRemoved g = false ∧ d.parentOf g ≠ none)) : d.ungrouped g = d := by
  unfold ungrouped
  split
  · rename_i hg
    cases hp : d.parentOf g with
    | none => rfl
    | some p => exact absurd ⟨hg.1, hg.2, by simp [hp]⟩ h
  · rfl

/-- A live group of `ids` that hangs somewhere. -/
def Opened (d : Document) (ids : List LayerId) (x : LayerId) : Prop :=
  x ∈ ids ∧ d.kindOf x = some .group ∧ d.isRemoved x = false ∧ d.parentOf x ≠ none

theorem opened_concat : d.Opened (ids ++ [g]) x ↔
    d.Opened ids x ∨ x = g ∧ d.kindOf g = some .group ∧ d.isRemoved g = false ∧ d.parentOf g ≠ none := by
  simp only [Opened, List.mem_append, List.mem_singleton, or_and_right]
  refine or_congr_right ⟨?_, ?_⟩
  · rintro ⟨rfl, h⟩
    exact ⟨rfl, h⟩
  · rintro ⟨rfl, h⟩
    exact ⟨rfl, h⟩

theorem kindOf_eq_looks : d.kindOf x = (d.looks[x]?).map (·.kind) := by
  rw [kindOf, looks, List.getElem?_map, Option.map_map]
  rfl

theorem Flattened.ungrouped (h : d.Flattened (d.Opened ids) d') (hl : d.Linked) (g : LayerId) :
    d.Flattened (d.Opened (ids ++ [g])) (d'.ungrouped g) := by
  have hkind : d'.kindOf g = d.kindOf g := by rw [kindOf_eq_looks, kindOf_eq_looks, h.looks]
  by_cases hopen : d.kindOf g = some .group ∧ d.isRemoved g = false ∧ d.parentOf g ≠ none
  · obtain ⟨hk, hlive, hhung⟩ := hopen
    have hconcat (x : Nat) : (d.Opened ids x ∨ x = g) ↔ d.Opened (ids ++ [g]) x := by simp [opened_concat, hk, hlive, hhung]
    by_cases hr : d'.isRemoved g = true
    · -- It was dissolved before, or it hung on a round that is gone.
      rw [ungrouped_eq_self fun hg => Bool.false_ne_true (hg.2.1.symm.trans hr)]
      obtain hgone | hgone | ha := (h.removed g).1 hr
      · exact absurd (hlive.symm.trans hgone) Bool.false_ne_true
      · exact h.congr fun x => by rw [← hconcat, or_iff_left_of_imp fun hx => hx ▸ hgone]
      · exact (h.skip hl ha).congr hconcat
    · have hr : d'.isRemoved g = false := Bool.eq_false_iff.2 hr
      have hgone : ¬d.Opened ids g := fun hgone => Bool.false_ne_true (hr.symm.trans (h.gone_removed hgone))
      obtain ⟨p, hp⟩ := Option.ne_none_iff_exists'.1 (mt (h.hung g hgone).1 hhung)
      rw [ungrouped_eq_dissolve (hkind.trans hk) hr hp]
      exact (h.dissolve hr hp).congr hconcat
  · have hstill : d'.ungrouped g = d' := by
      refine ungrouped_eq_self fun ⟨hk, hr, hp⟩ => ?_
      have hlive : d.isRemoved g = false := Bool.eq_false_iff.2 fun hg => Bool.false_ne_true (hr.symm.trans ((h.removed g).2 (.inl hg)))
      have hgone : ¬d.Opened ids g := fun hgone => Bool.false_ne_true (hr.symm.trans (h.gone_removed hgone))
      exact hopen ⟨hkind.symm.trans hk, hlive, mt (h.hung g hgone).2 hp⟩
    rw [hstill]
    exact h.congr fun x => by simp [opened_concat, hopen]

/-- Groups that are dissolved one after the other, in whatever order. -/
theorem flattened_ungroupAll (hl : d.Linked) (ha : d.Alike) (ids : List LayerId) :
    d.Flattened (d.Opened ids) (ids.foldl Document.ungrouped d) := by
  induction ids using List.reverseRecOn with
  | nil => exact (Flattened.refl hl ha).congr fun x => by simp [Opened]
  | append_singleton ids g ih =>
    rw [List.foldl_append]
    exact ih.ungrouped hl g

/-- Of two groups that hang on each other the first goes alone, and the second takes with it the rectangle that hangs on the first. -/
example :
    let d : Document := { layers := [{ look := .initial .rectangle, parent := some (.layer 1) },
      { look := .initial .group, parent := some (.layer 2), children := [0, 2] },
      { look := .initial .group, parent := some (.layer 1), children := [1] }] }
    (d.ungrouped 1).isRemoved 0 = false ∧ ((d.ungrouped 1).ungrouped 2).isRemoved 0 = true := by decide +kernel

end Easel.Document
