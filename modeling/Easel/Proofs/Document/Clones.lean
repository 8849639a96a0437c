import Easel.Proofs.Document.Copies

/-!
Copies of a tree. A copy of a layer and of all below it takes the numbers that come next, in the order of a walk; it hangs nowhere,
and what was there before does not change.
-/

namespace Easel.Document

variable {d d₁ d₂ d' : Document} {q : Option Node} {n c t id x x' first : Nat} {S T ids ids' v v' : List Nat}

/-- In `d'` the layers `ids'` hang on `q`, and they and what is below them are copies of `ids` in `d` and of what is below these. A
walk over `ids` meets `v`, and the copies of these have the numbers from `first` on. -/
inductive Replica (d d' : Document) : Option Node → List LayerId → LayerId → List LayerId → List LayerId → Prop
  | nil {q : Option Node} {first : LayerId} : Replica d d' q [] first [] []
  | cons {q : Option Node} {id first : LayerId} {l : Layer} {kids ids below rest ids' : List LayerId} :
    d.layer? id = some l → d'.layer? first = some { look := l.look, parent := q, children := kids } →
    Replica d d' (some (.layer first)) l.children (first + 1) below kids →
    Replica d d' q ids (first + 1 + below.length) rest ids' →
    Replica d d' q (id :: ids) first (id :: below ++ rest) (first :: ids')

/-- `ids` are numbers from `first` on, `count` at most, in their order, of layers that hang on `q`. -/
structure Row (d : Document) (q : Option Node) (first count : Nat) (ids : List Nat) : Prop where
  sorted : ids.Pairwise (· < ·)
  lower : ∀ x ∈ ids, first ≤ x
  upper : ∀ x ∈ ids, x < first + count
  parent : ∀ x ∈ ids, d.parentOf x = q

theorem Row.mono {low many count : Nat} (h : d.Row q first count ids) (hlow : low ≤ first) (hhigh : first + count ≤ low + many) :
    d.Row q low many ids where
  sorted := h.sorted
  lower x hx := Nat.le_trans hlow (h.lower x hx)
  upper x hx := Nat.lt_of_lt_of_le (h.upper x hx) hhigh
  parent := h.parent

theorem childrenOf_eq {l : Layer} (h : d.layer? x = some l) : d.childrenOf (.layer x) = l.children := by
  rw [childrenOf, h]
  rfl

theorem parentOf_eq {l : Layer} (h : d.layer? x = some l) : d.parentOf x = l.parent := by
  rw [parentOf, h]
  rfl

namespace Replica

theorem congr (h : d.Replica d' q ids first v ids') (hd : ∀ x, first ≤ x → x < first + v.length → d₁.layer? x = d'.layer? x) :
    d.Replica d₁ q ids first v ids' := by
  induction h with
  | nil => exact .nil
  | cons hl hl' _ _ hbelow hrest =>
    simp only [List.length_append, List.length_cons] at hd
    apply cons hl
    · rw [hd _ (by omega) (by omega), hl']
    · exact hbelow fun x hlo hhi => hd x (by omega) (by omega)
    · exact hrest fun x hlo hhi => hd x (by omega) (by omega)

/-- Where the copy of a tree hangs does not show below it. -/
theorem hang (h : d.Replica d' none [id] first v [first])
    (htop : d₁.layer? first = (d'.layer? first).map fun l => { l with parent := q })
    (hd : ∀ x, first < x → x < first + v.length → d₁.layer? x = d'.layer? x) : d.Replica d₁ q [id] first v [first] := by
  cases h with
  | cons hl hl' hbelow hrest =>
    cases hrest
    simp only [List.length_append, List.length_cons, List.length_nil] at hd
    apply cons hl
    · rw [htop, hl']
      rfl
    · exact hbelow.congr fun x hlo hhi => hd x (by omega) (by omega)
    · exact .nil

theorem cons_tree (h : d.Replica d' q [id] first v [first]) (hrest : d.Replica d' q ids (first + v.length) v' ids') :
    d.Replica d' q (id :: ids) first (v ++ v') (first :: ids') := by
  cases h with
  | @cons _ _ _ _ _ _ below _ _ hl hl' hbelow hnil =>
    cases hnil
    rw [List.append_nil] at hrest ⊢
    have hlength : first + (id :: below).length = first + 1 + below.length := by
      rw [List.length_cons]
      omega
    exact cons hl hl' hbelow (hlength ▸ hrest)

section

variable (h : d.Replica d' q ids first v ids')

include h

theorem visits : d.Visits ids v := by
  induction h with
  | nil => exact .nil
  | cons hl _ _ _ hbelow hrest => exact .cons (childrenOf_eq hl ▸ hbelow) hrest

/-- A walk over the copies meets them in the order of their numbers. -/
theorem visits_copies : d'.Visits ids' (List.range' first v.length) := by
  induction h with
  | nil => exact .nil
  | @cons _ _ first _ _ _ below rest _ _ hl' _ _ hbelow hrest =>
    have hsplit : List.range' first (below.length + 1 + rest.length) =
        first :: List.range' (first + 1) below.length ++ List.range' (first + 1 + below.length) rest.length := by
      rw [List.cons_append, List.range'_append_1, ← List.range'_succ, Nat.add_right_comm]
    rw [List.length_append, List.length_cons, hsplit]
    exact .cons (childrenOf_eq hl' ▸ hbelow) hrest

theorem row_tops : d'.Row q first v.length ids' := by
  induction h with
  | nil => exact ⟨.nil, by simp, by simp, by simp⟩
  | cons _ hl' _ _ _ hrest =>
    simp only [List.length_append, List.length_cons]
    constructor
    · apply List.Pairwise.cons _ hrest.sorted
      intro x hx
      exact Nat.lt_of_lt_of_le (by omega) (hrest.lower x hx)
    · intro x hx
      rcases List.mem_cons.1 hx with rfl | hx
      · exact Nat.le_refl _
      · have := hrest.lower x hx
        omega
    · intro x hx
      rcases List.mem_cons.1 hx with rfl | hx
      · omega
      · have := hrest.upper x hx
        omega
    · exact List.forall_mem_cons.2 ⟨parentOf_eq hl', hrest.parent⟩

/-- Every copy is on top, or hangs on a copy that has it among its children. -/
theorem parent_copy (hlo : first ≤ x) (hhi : x < first + v.length) :
    x ∈ ids' ∧ d'.parentOf x = q ∨
      ∃ c, first ≤ c ∧ c < first + v.length ∧ d'.parentOf x = some (.layer c) ∧ x ∈ d'.childrenOf (.layer c) := by
  induction h generalizing x with
  | nil =>
    rw [List.length_nil] at hhi
    omega
  | @cons _ _ first _ _ _ below _ _ _ hl' _ _ hbelow hrest =>
    simp only [List.length_append, List.length_cons] at hhi ⊢
    rcases Nat.lt_trichotomy x first with hx | rfl | hx
    · omega
    · exact .inl ⟨List.mem_cons_self, parentOf_eq hl'⟩
    by_cases hx' : x < first + 1 + below.length
    · rcases hbelow (x := x) (by omega) hx' with ⟨hmem, hp⟩ | ⟨c, hclo, hchi, hc⟩
      · exact .inr ⟨first, by omega, by omega, hp, childrenOf_eq hl' ▸ hmem⟩
      · exact .inr ⟨c, by omega, by omega, hc⟩
    · rcases hrest (x := x) (by omega) (by omega) with ⟨hmem, hp⟩ | ⟨c, hclo, hchi, hc⟩
      · exact .inl ⟨List.mem_cons_of_mem _ hmem, hp⟩
      · exact .inr ⟨c, by omega, by omega, hc⟩

theorem row_children (hlo : first ≤ c) (hhi : c < first + v.length) :
    d'.Row (some (.layer c)) first v.length (d'.childrenOf (.layer c)) := by
  induction h generalizing c with
  | nil =>
    rw [List.length_nil] at hhi
    omega
  | @cons _ _ first _ _ _ below _ _ _ hl' hkids _ hbelow hrest =>
    simp only [List.length_append, List.length_cons] at hhi ⊢
    rcases Nat.lt_trichotomy c first with hc | rfl | hc
    · omega
    · rw [childrenOf_eq hl']
      exact hkids.row_tops.mono (by omega) (by omega)
    by_cases hc' : c < first + 1 + below.length
    · exact (hbelow (by omega) hc').mono (by omega) (by omega)
    · exact (hrest (by omega) (by omega)).mono (by omega) (by omega)

omit h in
theorem zipIdx_tree {below rest : List Nat} : (id :: below ++ rest).zipIdx first =
    (id, first) :: (below.zipIdx (first + 1) ++ rest.zipIdx (first + 1 + below.length)) := by
  rw [List.zipIdx_append, List.zipIdx_cons, List.cons_append, List.length_cons, Nat.add_assoc, Nat.add_comm 1]

/-- The copies on top stand in the order of their originals. -/
theorem tops : List.Forall₂ (fun c c' => (c, c') ∈ v.zipIdx first) ids ids' := by
  induction h with
  | nil => exact .nil
  | cons _ _ _ _ _ hrest =>
    rw [zipIdx_tree]
    constructor
    · exact List.mem_cons_self
    · apply hrest.imp
      exact fun c c' hc => List.mem_cons_of_mem _ (List.mem_append_right _ hc)

/-- Every copy looks like its original, is not removed, and has the copies of the children for its children. -/
theorem layer?_copy (hx : (x, x') ∈ v.zipIdx first) : ∃ l l', d.layer? x = some l ∧ d'.layer? x' = some l' ∧
    l'.look = l.look ∧ l'.removed = false ∧ List.Forall₂ (fun c c' => (c, c') ∈ v.zipIdx first) l.children l'.children := by
  induction h with
  | nil => cases hx
  | cons hl hl' hkids _ hbelow hrest =>
    rw [zipIdx_tree] at hx ⊢
    rcases List.mem_cons.1 hx with hx | hx
    · cases hx
      refine ⟨_, _, hl, hl', rfl, rfl, hkids.tops.imp fun c c' hc => ?_⟩
      exact List.mem_cons_of_mem _ (List.mem_append_left _ hc)
    rcases List.mem_append.1 hx with hx | hx
    · obtain ⟨l, l', hold, hnew, hlook, hremoved, hchildren⟩ := hbelow hx
      refine ⟨l, l', hold, hnew, hlook, hremoved, hchildren.imp fun c c' hc => ?_⟩
      exact List.mem_cons_of_mem _ (List.mem_append_left _ hc)
    · obtain ⟨l, l', hold, hnew, hlook, hremoved, hchildren⟩ := hrest hx
      refine ⟨l, l', hold, hnew, hlook, hremoved, hchildren.imp fun c c' hc => ?_⟩
      exact List.mem_cons_of_mem _ (List.mem_append_right _ hc)

end

end Replica

/-! ### A document and its copies -/

/-- `d'` has the layers of `d`, which are as they were but for those of `S`, and perhaps more. -/
structure Extended (d : Document) (S : List LayerId) (d' : Document) : Prop where
  le : d.layers.length ≤ d'.layers.length
  old : ∀ x < d.layers.length, x ∉ S → d'.layer? x = d.layer? x
  rest : { d' with layers := d.layers } = d

/-- The number of the copy of `x`, if `n` is copied with all below it. -/
def cloneOf (d : Document) (n x : LayerId) : LayerId :=
  d.layers.length + (d.walk n).idxOf x

/-- `d'` is `d` with a copy of the layer `n` and of all below it, which hangs nowhere. -/
structure Cloned (d : Document) (n : LayerId) (d' : Document) : Prop where
  old : ∀ x < d.layers.length, d'.layer? x = d.layer? x
  rest : { d' with layers := d.layers } = d
  length : d'.layers.length = d.layers.length + (d.walk n).length
  whole : d.Visits [n] (d.walk n)
  visits : d'.Visits [d.cloneOf n n] ((d.walk n).map (d.cloneOf n))
  walk : d'.walk (d.cloneOf n n) = (d.walk n).map (d.cloneOf n)
  look : ∀ x ∈ d.walk n, ∃ l l', d.layer? x = some l ∧ d'.layer? (d.cloneOf n x) = some l' ∧ l'.look = l.look
  children : ∀ x ∈ d.walk n, d'.childrenOf (.layer (d.cloneOf n x)) = (d.childrenOf (.layer x)).map (d.cloneOf n)
  live : ∀ x ∈ d.walk n, d'.isRemoved (d.cloneOf n x) = false
  fresh : ∀ x ∈ d.walk n, d.layers.length ≤ d.cloneOf n x
  distinct : ((d.walk n).map (d.cloneOf n)).Nodup
  detached : d'.parentOf (d.cloneOf n n) = none
  linked : d'.Linked

theorem eq_of_mem_zipIdx (hn : v.Nodup) (hx : (x, x') ∈ v.zipIdx first) : x' = first + v.idxOf x := by
  obtain ⟨hle, hx⟩ := List.mk_mem_zipIdx_iff_le_and_getElem?_sub.1 hx
  obtain ⟨hlt, rfl⟩ := List.getElem?_eq_some_iff.1 hx
  rw [hn.idxOf_getElem, Nat.add_sub_cancel' hle]

theorem mem_zipIdx_idxOf (hx : x ∈ v) : (x, first + v.idxOf x) ∈ v.zipIdx first := by
  apply List.mk_mem_zipIdx_iff_le_and_getElem?_sub.2 ⟨Nat.le_add_right _ _, _⟩
  rw [Nat.add_sub_cancel_left, List.getElem?_idxOf hx]

theorem map_idxOf (hn : v.Nodup) : v.map (fun x => first + v.idxOf x) = List.range' first v.length := by
  apply List.ext_getElem (by simp)
  intro i hi hi'
  rw [List.length_map] at hi
  rw [List.getElem_map, hn.idxOf_getElem, List.getElem_range', Nat.one_mul]

theorem eq_map_idxOf (hn : v.Nodup) (h : List.Forall₂ (fun c c' => (c, c') ∈ v.zipIdx first) ids ids') :
    ids' = ids.map fun x => first + v.idxOf x := by
  have heq : List.Forall₂ Eq ids' (ids.map fun x => first + v.idxOf x) := by
    rw [List.forall₂_map_right_iff]
    exact h.flip.imp fun c' c hc => eq_of_mem_zipIdx hn hc
  rwa [List.forall₂_eq_eq_eq] at heq

theorem map_cloneOf (hl : d.Linked) (ha : d.Acyclic (.layer n)) :
    (d.walk n).map (d.cloneOf n) = List.range' d.layers.length (d.walk n).length := map_idxOf (nodup_walk hl ha)

theorem cloneOf_self (hn : n < d.layers.length) : d.cloneOf n n = d.layers.length := by
  obtain ⟨depth, hdepth⟩ : ∃ depth, d.layers.length = depth + 1 := Nat.exists_eq_succ_of_ne_zero (by omega)
  rw [cloneOf, walk, hdepth, walkTo, List.idxOf_cons_self, Nat.add_zero]

theorem linked_of_mem_iff (hn : ∀ c, (d.childrenOf c).Nodup) (h : ∀ c id, id ∈ d.childrenOf c ↔ d.parentOf id = some c) :
    d.Linked := by
  intro c id
  split
  · rename_i hp
    exact List.count_eq_one_of_mem (hn c) ((h c id).2 hp)
  · rename_i hp
    exact List.count_eq_zero_of_not_mem fun hmem => hp ((h c id).1 hmem)

theorem layer?_append_home {l : Layer} (hc : d.parentOf c = none) (ht : d.layer? t = some l) (hne : t ≠ c) :
    (d.append (.layer t) c).layer? t = some { l with children := l.children ++ [c] } := by
  rw [layer?_append hc, ht, Option.map_some, if_neg hne, if_pos rfl]

theorem layer?_append_hung (hc : d.parentOf c = none) (hne : t ≠ c) :
    (d.append (.layer t) c).layer? c = (d.layer? c).map fun l => { l with parent := some (.layer t) } := by
  have ht : Node.layer t ≠ .layer c := fun he => hne (Node.layer.inj he)
  rw [layer?_append hc]
  simp only [if_true, if_neg ht, List.append_nil]

namespace Extended

theorem refl : d.Extended S d := ⟨Nat.le_refl _, fun _ _ _ => rfl, rfl⟩

/-- What is done to new layers is nothing to the old ones. -/
theorem trans (h : d.Extended S d₁) (h' : d₁.Extended T d₂) (hT : ∀ x ∈ T, x ∈ S ∨ d.layers.length ≤ x) : d.Extended S d₂ where
  le := Nat.le_trans h.le h'.le
  old x hx hS := by
    have hxT : x ∉ T := fun hmem => (hT x hmem).elim hS (Nat.not_le.2 hx)
    rw [h'.old x (Nat.lt_of_lt_of_le hx h.le) hxT, h.old x hx hS]
  rest := by
    have hrest := congrArg (fun e : Document => { e with layers := d.layers }) h'.rest
    exact hrest.trans h.rest

theorem weaken (h : d.Extended [] d') : d.Extended S d' where
  le := h.le
  old x hx _ := h.old x hx List.not_mem_nil
  rest := h.rest

theorem create {look : Look} : d.Extended [] (d.create look).2 where
  le := by
    rw [length_create]
    exact Nat.le_succ _
  old x hx _ := by rw [layer?_create, if_neg (Nat.ne_of_lt hx)]
  rest := rfl

theorem append (hc : d.parentOf c = none) : d.Extended [t, c] (d.append (.layer t) c) where
  le := by rw [Document.append, length_attach]
  old x _ hx := by
    rw [List.mem_cons, List.mem_singleton, not_or] at hx
    have ht : Node.layer t ≠ .layer x := fun he => hx.1 (Node.layer.inj he).symm
    rw [layer?_append hc]
    cases d.layer? x with
    | none => rfl
    | some l => simp only [Option.map_some, if_neg ht, if_neg hx.2, List.append_nil]
  rest := by
    rw [Document.append, attach, detach, hc]
    rfl

section

variable (hd : d.Extended [] d')

include hd

theorem layer?_old (hx : x < d.layers.length) : d'.layer? x = d.layer? x := hd.old x hx List.not_mem_nil

theorem parentOf_old (hx : x < d.layers.length) : d'.parentOf x = d.parentOf x := by
  rw [parentOf, hd.layer?_old hx, parentOf]

theorem childrenOf_old {c : Node} (hc : d.has c) : d'.childrenOf c = d.childrenOf c := by
  cases c with
  | page =>
    have hpage := congrArg (fun d : Document => d.pageChildren) hd.rest
    exact hpage
  | layer x => rw [childrenOf, hd.layer?_old hc, childrenOf]

end

end Extended

namespace Replica

section

variable (h : d.Replica d' none [n] d.layers.length v [d.layers.length]) (hd : d.Extended [] d')
  (hlength : d'.layers.length = d.layers.length + v.length)

include h hlength

/-- What is new hangs on nothing that was there. -/
theorem parent_new {c : Node} (hx : d.layers.length ≤ x) (hp : d'.parentOf x = some c) : ¬d.has c ∧ x ∈ d'.childrenOf c := by
  have hlt : x < d.layers.length + v.length := hlength ▸ lt_of_parentOf hp
  rcases h.parent_copy hx hlt with ⟨-, hnone⟩ | ⟨y, hlo, -, hy, hmem⟩
  · rw [hnone] at hp
    cases hp
  · rw [hp] at hy
    cases hy
    exact ⟨Nat.not_lt.2 hlo, hmem⟩

theorem row_new {c : Node} (hc : ¬d.has c) : (d'.childrenOf c).Nodup ∧ ∀ x ∈ d'.childrenOf c, d'.parentOf x = some c := by
  cases c with
  | page => exact absurd trivial hc
  | layer y =>
    have hlo : d.layers.length ≤ y := Nat.not_lt.1 hc
    by_cases hhi : y < d.layers.length + v.length
    · have hrow := h.row_children hlo hhi
      exact ⟨hrow.sorted.imp fun hlt => Nat.ne_of_lt hlt, hrow.parent⟩
    · have hnone : d'.layer? y = none := List.getElem?_eq_none (hlength ▸ Nat.not_lt.1 hhi)
      rw [childrenOf, hnone]
      exact ⟨.nil, fun x hx => absurd hx List.not_mem_nil⟩

include hd

theorem linked (hl : d.Linked) : d'.Linked := by
  apply linked_of_mem_iff
  · intro c
    by_cases hc : d.has c
    · rw [hd.childrenOf_old hc]
      exact hl.nodup c
    · exact (h.row_new hlength hc).1
  intro c x
  by_cases hx : x < d.layers.length
  · rw [hd.parentOf_old hx, ← hl.mem_iff]
    by_cases hc : d.has c
    · rw [hd.childrenOf_old hc]
    · -- An old layer cannot be below a new one.
      constructor
      · intro hmem
        have hp := (h.row_new hlength hc).2 x hmem
        rw [hd.parentOf_old hx] at hp
        exact absurd (hl.has hp) hc
      · exact fun hmem => absurd (hl.has (hl.mem_iff.1 hmem)) hc
  · have hx : d.layers.length ≤ x := Nat.not_lt.1 hx
    constructor
    · intro hmem
      by_cases hc : d.has c
      · rw [hd.childrenOf_old hc] at hmem
        exact absurd (lt_of_parentOf (hl.mem_iff.1 hmem)) (Nat.not_lt.2 hx)
      · exact (h.row_new hlength hc).2 x hmem
    · exact fun hp => (h.parent_new hlength hx hp).2

/-- A replica of all below a layer is a copy of it as it should be. -/
theorem cloned (hl : d.Linked) (hn : n < d.layers.length) (ha : d.Acyclic (.layer n)) (hv : v = d.walk n) : d.Cloned n d' := by
  subst hv
  have hcopies := map_cloneOf hl ha
  have htop := cloneOf_self hn
  have hlinked := h.linked hd hlength hl
  have hdetached : d'.parentOf d.layers.length = none := h.row_tops.parent _ List.mem_cons_self
  have hvisits : d'.Visits [d.cloneOf n n] ((d.walk n).map (d.cloneOf n)) := by
    rw [htop, hcopies]
    exact h.visits_copies
  have hlayer : ∀ x ∈ d.walk n, ∃ l l', d.layer? x = some l ∧ d'.layer? (d.cloneOf n x) = some l' ∧
      l'.look = l.look ∧ l'.removed = false ∧ l'.children = l.children.map (d.cloneOf n) := by
    intro x hx
    obtain ⟨l, l', hold, hnew, hlook, hremoved, hchildren⟩ := h.layer?_copy (mem_zipIdx_idxOf hx)
    exact ⟨l, l', hold, hnew, hlook, hremoved, eq_map_idxOf (nodup_walk hl ha) hchildren⟩
  exact {
    old := fun x hx => hd.layer?_old hx
    rest := hd.rest
    length := hlength
    whole := h.visits
    visits := hvisits
    walk := by
      apply hvisits.unique
      rw [htop]
      apply visits_walk hlinked _ (acyclic_of_up_eq_none hdetached)
      have := List.length_pos_of_mem ((mem_walk hl hn ha).2 .refl)
      omega
    look := by
      intro x hx
      obtain ⟨l, l', hold, hnew, hlook, -⟩ := hlayer x hx
      exact ⟨l, l', hold, hnew, hlook⟩
    children := by
      intro x hx
      obtain ⟨l, l', hold, hnew, -, -, hchildren⟩ := hlayer x hx
      rw [childrenOf_eq hnew, childrenOf_eq hold, hchildren]
    live := by
      intro x hx
      obtain ⟨l, l', -, hnew, -, hremoved, -⟩ := hlayer x hx
      rw [isRemoved, hnew]
      exact hremoved
    fresh := fun x _ => Nat.le_add_right _ _
    distinct := by
      rw [hcopies]
      exact List.nodup_range'
    detached := by rw [htop, hdetached]
    linked := hlinked }

end

end Replica

end Easel.Document
