import Easel.Proofs.Document.Splicing

/-!
Siblings that are gathered into a group and released from it. The group stands where the first of them stood, and the released
ones come back to that place, in the order in which they were gathered.
-/

namespace Easel.Document

variable {d d' : Document} {p q c : Node} {id g x index k first : Nat} {ids a b rest before after : List Nat} {look : Look}

/-! ### A group of siblings -/

theorem Linked.not_mem_length (hl : d.Linked) (c : Node) : d.layers.length ∉ d.childrenOf c := fun h =>
  Nat.lt_irrefl _ (lt_of_parentOf (hl.mem_iff.1 h))

/-- A document, some of the children of `p` in any order, and where the first of them stands. -/
structure Siblings (d : Document) (p : Node) (before after : List LayerId) (first : LayerId) (rest : List LayerId) : Prop where
  linked : d.Linked
  place : d.has p
  children : d.childrenOf p = before ++ first :: after
  nodup : (first :: rest).Nodup
  mem : ∀ s ∈ first :: rest, s ∈ d.childrenOf p

/-- The siblings that are not gathered, with `mid` where the first one stood that is. -/
def around (before mid after ids : List LayerId) : List LayerId :=
  before.filter (· ∉ ids) ++ (mid ++ after.filter (· ∉ ids))

/-- A new group that gathers layers. -/
def withGroup (d : Document) (look : Look) (ids : List LayerId) (p : Node) : Document :=
  (d.create look).2.gather d.layers.length ids p

theorem looks_withGroup : (d.withGroup look ids p).looks = d.looks ++ [look] := by
  rw [withGroup, looks_gather, looks_create]

theorem filter_insert (hg : g ∉ first :: rest) (before after : List Nat) :
    (before ++ g :: first :: after).filter (· ∉ first :: rest) = around before [g] after (first :: rest) := by
  rw [around, List.filter_append, List.filter_cons_of_pos (by simpa using hg), List.filter_cons_of_neg (by simp)]
  rfl

/-- What the group has takes the place of the group. -/
theorem spliced_around (hb : g ∉ before) (ha : g ∉ after) :
    d.spliced g (around before [g] after ids) = around before (d.childrenOf (.layer g)) after ids := by
  have hpart (l : List Nat) (hl : g ∉ l) : d.spliced g (l.filter (· ∉ ids)) = l.filter (· ∉ ids) :=
    spliced_eq_self fun h => hl (List.mem_of_mem_filter h)
  rw [around, spliced_append, hpart before hb, List.singleton_append, spliced_cons_self, hpart after ha, around]

/-- Siblings that stood side by side, in this order, stand as they stood. -/
theorem around_run (h : (before ++ (ids ++ after)).Nodup) (hids : ids = first :: rest) :
    around before ids (rest ++ after) ids = before ++ (ids ++ after) := by
  have hparts := List.nodup_append.1 h
  have hafter := List.nodup_append.1 hparts.2.1
  have hkeep (l : List Nat) (hl : ∀ x ∈ l, x ∉ ids) : l.filter (· ∉ ids) = l :=
    List.filter_eq_self.2 fun x hx => decide_eq_true (hl x hx)
  have hdrop : rest.filter (· ∉ ids) = [] :=
    List.filter_eq_nil_iff.2 fun x hx hno => of_decide_eq_true hno (hids ▸ List.mem_cons_of_mem _ hx)
  rw [around, List.filter_append, hdrop, hkeep before, hkeep after]
  · rfl
  · exact fun x hx hi => hafter.2.2 x hi x hx rfl
  · exact fun x hx hi => hparts.2.2 x hx x (List.mem_append_left _ hi) rfl

namespace Siblings

variable (h : d.Siblings p before after first rest)

include h

theorem parent {s : Nat} (hs : s ∈ first :: rest) : d.parentOf s = some p := h.linked.mem_iff.1 (h.mem s hs)

theorem lt {s : Nat} (hs : s ∈ first :: rest) : s < d.layers.length := lt_of_parentOf (h.parent hs)

theorem group_ne : Node.layer d.layers.length ≠ p := by
  rintro rfl
  exact Nat.lt_irrefl _ h.place

theorem group_not_mem : d.layers.length ∉ before ++ first :: after := h.children ▸ h.linked.not_mem_length p

theorem first_not_mem : first ∉ before := by
  have hn := h.linked.nodup p
  rw [h.children] at hn
  exact fun hb => (List.disjoint_of_nodup_append hn) hb List.mem_cons_self

/-- If they stand side by side, in this order, grouping and ungrouping changes nothing. -/
theorem around_eq (hab : d.childrenOf p = a ++ (first :: rest ++ b)) :
    around before (first :: rest) after (first :: rest) = d.childrenOf p := by
  have hn := h.linked.nodup p
  rw [hab] at hn
  have hfirst : first ∉ a := fun ha => (List.disjoint_of_nodup_append hn) ha (by simp)
  have hlength : before.length = a.length := by
    refine Option.some.inj ((idxOf?_eq_length h.first_not_mem after).symm.trans ?_)
    rw [← h.children, hab]
    exact idxOf?_eq_length hfirst (rest ++ b)
  obtain ⟨rfl, hrest⟩ := List.append_inj (h.children.symm.trans hab) hlength
  obtain rfl : after = rest ++ b := (List.cons.inj hrest).2
  rw [around_run hn rfl, hab]

/-- The new group is put in front of the first one. -/
theorem childrenOf_insert : ((d.create look).2.insert p (before.length : Nat) d.layers.length).childrenOf c =
    if c = p then before ++ d.layers.length :: first :: after else d.childrenOf c := by
  have hparent : (d.create look).2.parentOf d.layers.length = none := by
    rw [parentOf_create, parentOf, layer?_length]
    rfl
  have hdetach (c : Node) : ((d.create look).2.detach d.layers.length).childrenOf c = d.childrenOf c := by
    rw [childrenOf_detach, hparent, if_neg (by simp), childrenOf_create]
  split
  · rename_i hc
    rw [hc]
    refine Document.childrenOf_insert (has_create h.place) ?_ rfl
    rw [hdetach, h.children]
  · rename_i hc
    rw [insert, childrenOf_attach_ne hc, hdetach]

theorem withGroup_eq : d.withGroup look (first :: rest) p =
    ((d.create look).2.insert p (before.length : Nat) d.layers.length).hang (.layer d.layers.length) (first :: rest) := by
  have hindex : ((first :: rest).head?.bind (d.childrenOf p).idxOf?).getD (d.childrenOf p).length = before.length := by
    rw [h.children, List.head?_cons, Option.bind_some, idxOf?_eq_length h.first_not_mem]
    rfl
  unfold withGroup gather
  dsimp only
  rw [childrenOf_create, hindex]

theorem moved_insert : (d.create look).2.Moved [d.layers.length] (some p)
    ((d.create look).2.insert p (before.length : Nat) d.layers.length) :=
  .insert _ (by rw [length_create]; exact Nat.lt_succ_self _) (has_create h.place)

theorem has_group : ((d.create look).2.insert p (before.length : Nat) d.layers.length).has (.layer d.layers.length) := by
  rw [has, h.moved_insert.length, length_create]
  exact Nat.lt_succ_self _

theorem moved_gather : ((d.create look).2.insert p (before.length : Nat) d.layers.length).Moved (first :: rest)
    (some (.layer d.layers.length)) (d.withGroup look (first :: rest) p) := by
  rw [h.withGroup_eq]
  refine .hang h.has_group fun s hs => ?_
  rw [h.moved_insert.length, length_create]
  exact Nat.lt_succ_of_lt (h.lt hs)

theorem linked_withGroup : (d.withGroup look (first :: rest) p).Linked :=
  h.moved_gather.linked (h.moved_insert.linked h.linked.create)

theorem isRemoved_withGroup : (d.withGroup look (first :: rest) p).isRemoved x = d.isRemoved x := by
  rw [h.moved_gather.isRemoved, h.moved_insert.isRemoved, isRemoved_create]

theorem parentOf_withGroup : (d.withGroup look (first :: rest) p).parentOf x =
    if x ∈ first :: rest then some (.layer d.layers.length) else if x = d.layers.length then some p else d.parentOf x := by
  rw [h.moved_gather.parentOf, h.moved_insert.parentOf, parentOf_create]
  simp only [List.mem_singleton]

/-- The group has the gathered layers, in their order, and stands where the first one stood. -/
theorem childrenOf_withGroup : (d.withGroup look (first :: rest) p).childrenOf c =
    if c = .layer d.layers.length then first :: rest
    else if c = p then around before [d.layers.length] after (first :: rest) else d.childrenOf c := by
  have hparents (s : Nat) (hs : s ∈ first :: rest) :
      ((d.create look).2.insert p (before.length : Nat) d.layers.length).parentOf s = some p := by
    rw [h.moved_insert.parentOf, parentOf_create, h.parent hs]
    split <;> rfl
  have hnew : d.childrenOf (.layer d.layers.length) = [] := by
    rw [childrenOf, layer?_length]
    rfl
  rw [h.withGroup_eq, childrenOf_hang (h.moved_insert.linked h.linked.create) h.has_group h.group_ne h.nodup hparents,
    h.childrenOf_insert, h.childrenOf_insert, h.childrenOf_insert, if_neg h.group_ne, hnew, if_pos rfl]
  split
  · rfl
  · split
    · exact filter_insert (fun hg => Nat.lt_irrefl _ (h.lt hg)) before after
    · rfl

/-! ### The group dissolved -/

theorem parent_group : (d.withGroup look (first :: rest) p).parentOf d.layers.length = some p := by
  rw [h.parentOf_withGroup, if_neg fun hg => Nat.lt_irrefl _ (h.lt hg), if_pos rfl]

theorem children_group : (d.withGroup look (first :: rest) p).childrenOf (.layer d.layers.length) = first :: rest := by
  rw [h.childrenOf_withGroup, if_pos rfl]

/-- The group is gone, and what it had stands in its place. -/
theorem childrenOf_dissolve (hc : c ≠ .layer d.layers.length) :
    ((d.withGroup look (first :: rest) p).dissolve d.layers.length p).childrenOf c =
      if c = p then around before (first :: rest) after (first :: rest) else d.childrenOf c := by
  rw [Document.childrenOf_dissolve h.linked_withGroup h.parent_group hc, h.childrenOf_withGroup, if_neg hc]
  split
  · obtain ⟨hbefore, hafter⟩ := not_or.1 (mt List.mem_append.2 h.group_not_mem)
    rw [spliced_around hbefore fun hg => hafter (List.mem_cons_of_mem _ hg), h.children_group]
  · exact spliced_eq_self (h.linked.not_mem_length c)

theorem parentOf_dissolve : ((d.withGroup look (first :: rest) p).dissolve d.layers.length p).parentOf x =
    if x = d.layers.length then none else d.parentOf x := by
  have hm := moved_release (d := d.withGroup look (first :: rest) p) h.linked_withGroup h.parent_group
  rw [dissolve_eq, parentOf_remove, hm.parentOf, h.children_group, h.parentOf_withGroup]
  split
  · rfl
  · split
    · rename_i hx
      exact (h.parent hx).symm
    · rfl

/-- Nothing else is marked: the group has nothing left in it. -/
theorem isRemoved_dissolve : ((d.withGroup look (first :: rest) p).dissolve d.layers.length p).isRemoved x = true ↔
    d.isRemoved x = true ∨ x = d.layers.length := by
  rw [Document.isRemoved_dissolve h.linked_withGroup h.parent_group h.group_ne.symm, h.isRemoved_withGroup]

theorem kindOf_group : (d.withGroup look (first :: rest) p).kindOf d.layers.length = some look.kind := by
  rw [h.moved_gather.kindOf, h.moved_insert.kindOf, kindOf_create_length]

end Siblings

end Easel.Document
