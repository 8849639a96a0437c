import Easel.Proofs.Document.Groups

/-!
Where layers come to stand among the children of a container: at the end, or at an index, one by one or several side by side.
-/

namespace Easel.Document

variable {d : Document} {p q c : Node} {id index k : Nat} {ids a b : List Nat}

/-! ### One layer among its siblings -/

theorem erase_eq_filter_of_linked (hl : d.Linked) (c : Node) (id : Nat) :
    (d.childrenOf c).erase id = (d.childrenOf c).filter fun x => x ∉ [id] := by
  rw [(hl.nodup c).erase_eq_filter]
  exact List.filter_congr fun x _ => by simp [bne, Bool.beq_eq_decide_eq]

/-- A layer taken from `p` is gone from the list there and from no other. -/
theorem childrenOf_detach_of_parent (hl : d.Linked) (hp : d.parentOf id = some p) :
    (d.detach id).childrenOf c = if c = p then (d.childrenOf p).filter fun x => x ∉ [id] else d.childrenOf c := by
  rw [childrenOf_detach, hp]
  by_cases hc : c = p
  · rw [if_pos (congrArg some hc.symm), if_pos hc, hc, erase_eq_filter_of_linked hl]
  · rw [if_neg fun h => hc (Option.some.inj h).symm, if_neg hc]

theorem insertIdx_length (a b : List Nat) (id : Nat) : (a ++ b).insertIdx a.length id = a ++ id :: b := by
  induction a with
  | nil => rfl
  | cons x a ih => rw [List.cons_append, List.length_cons, List.insertIdx_succ_cons, ih, List.cons_append]

theorem childrenOf_insert (hp : d.has p) (hc : (d.detach id).childrenOf p = a ++ b) {i : Int} (hi : i = a.length) :
    (d.insert p i id).childrenOf p = a ++ id :: b := by
  have hclamp : clampIndex i (a ++ b).length = a.length := by
    rw [hi, clampIndex, if_neg (by omega), List.length_append]
    omega
  rw [insert, childrenOf_attach_self hp, hc, hclamp, insertIdx_length]

theorem idxOf?_eq_length (h : id ∉ a) (b : List Nat) : (a ++ id :: b).idxOf? id = some a.length := by
  induction a with
  | nil => simp [List.idxOf?_cons]
  | cons x a ih =>
    obtain ⟨hx, ha⟩ := not_or.1 (mt List.mem_cons.2 h)
    simp [List.idxOf?_cons, Ne.symm hx, ih ha]

/-! ### Several siblings -/

theorem filter_filter_not_mem (l : List Nat) (id : Nat) (ids : List Nat) :
    (l.filter fun x => x ∉ [id]).filter (fun x => x ∉ ids) = l.filter fun x => x ∉ id :: ids := by
  rw [List.filter_filter]
  exact List.filter_congr fun x _ => by simp [Bool.and_comm]

theorem filter_not_mem_nil (l : List Nat) : (l.filter fun x => x ∉ ([] : List Nat)) = l :=
  List.filter_eq_self.2 fun x _ => by simp

/-- Layers from `p` that come to hang on `q` are at the end of the list there, in their order. -/
theorem childrenOf_hang (hl : d.Linked) (hq : d.has q) (hne : q ≠ p) (hids : ids.Nodup) (hp : ∀ id ∈ ids, d.parentOf id = some p) :
    (d.hang q ids).childrenOf c =
      if c = q then d.childrenOf q ++ ids else if c = p then (d.childrenOf p).filter fun x => x ∉ ids else d.childrenOf c := by
  induction ids generalizing d with
  | nil =>
    rw [List.append_nil, filter_not_mem_nil]
    split
    · rename_i h
      rw [h]
      rfl
    · split
      · rename_i h
        rw [h]
        rfl
      · rfl
  | cons id rest ih =>
    obtain ⟨hid, hrest⟩ := List.nodup_cons.1 hids
    have hidp := hp id List.mem_cons_self
    have hm : d.Moved [id] (some q) (d.append q id) := .append (lt_of_parentOf hidp) hq
    have hstep (c : Node) : (d.append q id).childrenOf c =
        if c = q then d.childrenOf q ++ [id] else if c = p then (d.childrenOf p).filter fun x => x ∉ [id] else d.childrenOf c := by
      split
      · rename_i h
        rw [h, append, childrenOf_attach_self hq, childrenOf_detach_of_parent hl hidp, if_neg hne]
      · rename_i h
        rw [append, childrenOf_attach_ne h, childrenOf_detach_of_parent hl hidp]
    have hparents (y : Nat) (hy : y ∈ rest) : (d.append q id).parentOf y = some p := by
      have hyid : y ∉ [id] := fun h => hid (List.mem_singleton.1 h ▸ hy)
      rw [hm.parentOf_not_mem hyid]
      exact hp y (List.mem_cons_of_mem _ hy)
    show ((d.append q id).hang q rest).childrenOf c = _
    rw [ih (hm.linked hl) (hm.has.2 hq) hrest hparents, hstep q, hstep p, hstep c, if_pos rfl, if_neg hne.symm, if_pos rfl]
    split
    · rw [List.append_assoc]
      rfl
    · split
      · exact filter_filter_not_mem ..
      · rfl

/-- Layers from `q` that are put into `p` one after the other, each behind the one before, stand side by side there. -/
theorem childrenOf_place (hl : d.Linked) (hp : d.has p) (hne : q ≠ p) (hids : ids.Nodup) (hq : ∀ id ∈ ids, d.parentOf id = some q)
    (hc : d.childrenOf p = a ++ b) (hk : index + k = a.length) :
    ((ids.zipIdx k).foldl (fun d (id, offset) => d.insert p (index + offset) id) d).childrenOf c =
      if c = p then a ++ (ids ++ b) else if c = q then (d.childrenOf q).filter fun x => x ∉ ids else d.childrenOf c := by
  induction ids generalizing d a k with
  | nil =>
    rw [List.nil_append, filter_not_mem_nil]
    split
    · rename_i h
      rw [h]
      exact hc
    · split
      · rename_i h
        rw [h]
        rfl
      · rfl
  | cons id rest ih =>
    obtain ⟨hid, hrest⟩ := List.nodup_cons.1 hids
    have hidq := hq id List.mem_cons_self
    have hm : d.Moved [id] (some p) (d.insert p (index + k) id) := .insert _ (lt_of_parentOf hidq) hp
    have hstep (c : Node) (hcp : c ≠ p) : (d.insert p (index + k) id).childrenOf c =
        if c = q then (d.childrenOf q).filter fun x => x ∉ [id] else d.childrenOf c := by
      rw [insert, childrenOf_attach_ne hcp, childrenOf_detach_of_parent hl hidq]
    have hself : (d.insert p (index + k) id).childrenOf p = a ++ [id] ++ b := by
      rw [List.append_assoc]
      refine childrenOf_insert (b := b) hp ?_ (by omega)
      rw [childrenOf_detach_of_parent hl hidq, if_neg hne.symm, hc]
    have hparents (y : Nat) (hy : y ∈ rest) : (d.insert p (index + k) id).parentOf y = some q := by
      have hyid : y ∉ [id] := fun h => hid (List.mem_singleton.1 h ▸ hy)
      rw [hm.parentOf_not_mem hyid]
      exact hq y (List.mem_cons_of_mem _ hy)
    rw [List.zipIdx_cons, List.foldl_cons,
      ih (hm.linked hl) (hm.has.2 hp) hrest hparents hself (by rw [List.length_append, List.length_singleton]; omega)]
    split
    · rw [List.append_assoc]
      rfl
    · rename_i hcp
      rw [hstep q hne, hstep c hcp, if_pos rfl]
      split
      · exact filter_filter_not_mem ..
      · rfl

end Easel.Document
