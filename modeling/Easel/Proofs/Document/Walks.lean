import Easel.Proofs.Document.Ancestry

/-!
Walks down. Where children and parents agree, the walk from a layer that does not hang on itself ends, meets all that is under
the layer and nothing twice; so does the walk from the page.
-/

namespace Easel.Document

variable {d : Document} {n m a : Node} {c p : Node} {id x : Nat} {j k depth : Nat}

/-- A layer is among the children of what it hangs on, once, and of nothing else. -/
def Linked (d : Document) : Prop :=
  ∀ c id, (d.childrenOf c).count id = if d.parentOf id = some c then 1 else 0

theorem Linked.mem_iff (hl : d.Linked) : id ∈ d.childrenOf c ↔ d.parentOf id = some c := by
  rw [← List.count_pos_iff, hl c id]
  split <;> simp_all

theorem Linked.nodup (hl : d.Linked) (c : Node) : (d.childrenOf c).Nodup := by
  rw [List.nodup_iff_count_le_one]
  intro id
  rw [hl c id]
  split <;> omega

theorem Linked.has (hl : d.Linked) (h : d.parentOf id = some p) : d.has p := by
  cases p with
  | page => trivial
  | layer k =>
    by_contra hn
    have hnone : d.layer? k = none := List.getElem?_eq_none (Nat.not_lt.1 hn)
    have hmem := hl.mem_iff.2 h
    rw [childrenOf, hnone] at hmem
    cases hmem

theorem climb_succ_eq_some (h : d.climb (k + 1) n = some a) : ∃ m, d.climb k n = some m ∧ d.up m = some a := by
  rw [climb_add] at h
  obtain ⟨m, hm, ha⟩ := Option.bind_eq_some_iff.1 h
  refine ⟨m, hm, ?_⟩
  rw [← climb_succ (k := 0) (n := m) rfl]
  exact ha

theorem up_eq_some (h : d.up n = some a) : ∃ id, n = .layer id ∧ d.parentOf id = some a := by
  cases n with
  | page => cases h
  | layer id => exact ⟨id, rfl, h⟩

theorem Linked.has_of_under (hl : d.Linked) (hn : d.has n) (h : d.Under n m) : d.has m := by
  obtain ⟨k, hk⟩ := h
  cases k with
  | zero => cases hk; exact hn
  | succ k =>
    obtain ⟨m', -, hup⟩ := climb_succ_eq_some hk
    obtain ⟨id, rfl, hp⟩ := up_eq_some hup
    exact hl.has hp

/-- The way up to a layer that does not hang on itself is shorter than there are layers. -/
theorem climb_lt_length (hid : id < d.layers.length) (ha : d.Acyclic (.layer id))
    (hk : d.climb k (.layer x) = some (.layer id)) : k < d.layers.length := by
  have hrest (i : Nat) (hi : i ≤ k) : ∃ m, d.climb i (.layer x) = some m ∧ d.climb (k - i) m = some (.layer id) := by
    rw [← Nat.add_sub_cancel' hi, climb_add] at hk
    exact Option.bind_eq_some_iff.1 hk
  have hlayer (i : Fin (k + 1)) : ∃ y : Fin d.layers.length, d.climb i (.layer x) = some (.layer y.val) := by
    obtain ⟨m, hm, hr⟩ := hrest i (by omega)
    rcases h : k - i.val with _ | r
    · rw [h] at hr
      cases hr
      exact ⟨⟨id, hid⟩, hm⟩
    · rw [h, climb] at hr
      obtain ⟨m', hup, -⟩ := Option.bind_eq_some_iff.1 hr
      obtain ⟨y, rfl, hy⟩ := up_eq_some hup
      exact ⟨⟨y, lt_of_parentOf hy⟩, hm⟩
  choose f hf using hlayer
  -- Two heights at one layer would be two ways up from it, and there is only one.
  have hinj : Function.Injective f := by
    intro i j hij
    obtain ⟨m, hm, hr⟩ := hrest i (by omega)
    obtain ⟨m', hm', hr'⟩ := hrest j (by omega)
    rw [hf i] at hm
    rw [hf j, ← hij] at hm'
    cases hm
    cases hm'
    have := climb_unique ha hr hr'
    exact Fin.ext (by omega)
  have hcard := Fintype.card_le_of_injective f hinj
  simp only [Fintype.card_fin] at hcard
  omega

theorem acyclic_child (ha : d.Acyclic n) (hup : d.up m = some n) : d.Acyclic m := by
  intro k hk
  have hround : d.climb (k + 2) m = d.climb (k + 1) n := by
    rw [climb, hup]
    rfl
  rw [climb_succ hk, hup] at hround
  exact ha k hround.symm

section WalkTo

theorem mem_walkTo (hl : d.Linked) : x ∈ d.walkTo depth id ↔ ∃ k < depth, d.climb k (.layer x) = some (.layer id) := by
  induction depth generalizing id with
  | zero => simp [walkTo]
  | succ depth ih =>
    rw [walkTo, List.mem_cons, List.mem_flatMap]
    constructor
    · rintro (rfl | ⟨c, hc, hx⟩)
      · exact ⟨0, by omega, rfl⟩
      · obtain ⟨k, hk, hx⟩ := ih.1 hx
        exact ⟨k + 1, by omega, (climb_succ hx).trans (hl.mem_iff.1 hc)⟩
    · rintro ⟨k, hk, hx⟩
      cases k with
      | zero => cases hx; exact .inl rfl
      | succ k =>
        obtain ⟨m, hm, hup⟩ := climb_succ_eq_some hx
        obtain ⟨c, rfl, hc⟩ := up_eq_some hup
        exact .inr ⟨c, hl.mem_iff.2 hc, ih.2 ⟨k, by omega, hm⟩⟩

/-- The walks from two layers with one parent do not meet. -/
theorem disjoint_walkTo (hl : d.Linked) (ha : d.Acyclic n) {c c' : Nat} (hc : d.parentOf c = some n)
    (hc' : d.parentOf c' = some n) (hne : c ≠ c') : (d.walkTo depth c).Disjoint (d.walkTo depth c') := by
  intro x hx hx'
  obtain ⟨j, -, hj⟩ := (mem_walkTo hl).1 hx
  obtain ⟨k, -, hk⟩ := (mem_walkTo hl).1 hx'
  have hjk := climb_unique ha ((climb_succ hj).trans hc) ((climb_succ hk).trans hc')
  obtain rfl : j = k := by omega
  rw [hj] at hk
  cases hk
  exact hne rfl

theorem nodup_flatMap_walkTo (hl : d.Linked) (ha : d.Acyclic n)
    (h : ∀ c, d.parentOf c = some n → (d.walkTo depth c).Nodup) :
    ((d.childrenOf n).flatMap (d.walkTo depth)).Nodup := by
  rw [List.nodup_flatMap]
  refine ⟨fun c hc => h c (hl.mem_iff.1 hc), ?_⟩
  refine List.Pairwise.imp_of_mem ?_ (hl.nodup n)
  exact fun hc hc' hne => disjoint_walkTo hl ha (hl.mem_iff.1 hc) (hl.mem_iff.1 hc') hne

theorem nodup_walkTo (hl : d.Linked) (ha : d.Acyclic (.layer id)) : (d.walkTo depth id).Nodup := by
  induction depth generalizing id with
  | zero => exact .nil
  | succ depth ih =>
    rw [walkTo, List.nodup_cons]
    refine ⟨fun hid => ?_, nodup_flatMap_walkTo hl ha fun c hc => ih (acyclic_child ha hc)⟩
    -- Met again below its own child, the layer would hang on itself.
    obtain ⟨c, hc, hid⟩ := List.mem_flatMap.1 hid
    obtain ⟨k, -, hk⟩ := (mem_walkTo hl).1 hid
    exact ha k ((climb_succ hk).trans (hl.mem_iff.1 hc))

end WalkTo

/-- A walk over `ids`, each layer before what hangs on it, ends and has met `visited`. -/
inductive Visits (d : Document) : List LayerId → List LayerId → Prop
  | nil : Visits d [] []
  | cons {id : LayerId} {ids below rest : List LayerId} :
    Visits d (d.childrenOf (.layer id)) below → Visits d ids rest → Visits d (id :: ids) (id :: below ++ rest)

theorem Visits.flatMap {ids : List LayerId} {f : LayerId → List LayerId} (h : ∀ id ∈ ids, d.Visits [id] (f id)) :
    d.Visits ids (ids.flatMap f) := by
  induction ids with
  | nil => exact .nil
  | cons id rest ih =>
    have hid := h id List.mem_cons_self
    generalize hf : f id = l at hid
    cases hid with
    | cons hbelow hnil =>
      cases hnil
      rw [List.flatMap_cons, hf, List.append_nil]
      exact .cons hbelow (ih fun id hid => h id (List.mem_cons_of_mem _ hid))

/-- A walk sees nothing but the children of the layers. -/
theorem Visits.congr {d' : Document} (h : ∀ x, d'.childrenOf (.layer x) = d.childrenOf (.layer x)) {ids v : List LayerId}
    (hv : d.Visits ids v) : d'.Visits ids v := by
  induction hv with
  | nil => exact .nil
  | cons _ _ hbelow hrest => exact .cons (by rw [h]; exact hbelow) hrest

theorem Visits.unique {ids v v' : List LayerId} (hv : d.Visits ids v) (hv' : d.Visits ids v') : v' = v := by
  induction hv generalizing v' with
  | nil => cases hv'; rfl
  | cons _ _ hbelow hrest =>
    cases hv' with
    | cons hbelow' hrest' => rw [hbelow hbelow', hrest hrest']

theorem visits_walkTo (hl : d.Linked) (h : ∀ x k, d.climb k (.layer x) = some (.layer id) → k < depth) :
    d.Visits [id] (d.walkTo depth id) := by
  induction depth generalizing id with
  | zero => exact absurd (h id 0 rfl) (Nat.lt_irrefl 0)
  | succ depth ih =>
    have hbelow : d.Visits (d.childrenOf (.layer id)) ((d.childrenOf (.layer id)).flatMap (d.walkTo depth)) := by
      refine .flatMap fun c hc => ih fun x k hk => ?_
      have := h x (k + 1) ((climb_succ hk).trans (hl.mem_iff.1 hc))
      omega
    simpa [walkTo] using hbelow.cons .nil

section Walk

theorem mem_walk (hl : d.Linked) (hid : id < d.layers.length) (ha : d.Acyclic (.layer id)) :
    x ∈ d.walk id ↔ d.Under (.layer x) (.layer id) := by
  rw [walk, mem_walkTo hl]
  exact ⟨fun ⟨k, _, hk⟩ => ⟨k, hk⟩, fun ⟨k, hk⟩ => ⟨k, climb_lt_length hid ha hk, hk⟩⟩

theorem nodup_walk (hl : d.Linked) (ha : d.Acyclic (.layer id)) : (d.walk id).Nodup := nodup_walkTo hl ha

theorem visits_walk (hl : d.Linked) (hid : id < d.layers.length) (ha : d.Acyclic (.layer id)) :
    d.Visits [id] (d.walk id) :=
  visits_walkTo hl fun _ _ hk => climb_lt_length hid ha hk

theorem acyclic_page : d.Acyclic .page := acyclic_of_up_eq_none rfl

theorem mem_all (hl : d.Linked) : x ∈ d.all ↔ d.OnPage x := by
  rw [all, List.mem_flatMap]
  constructor
  · rintro ⟨c, hc, hx⟩
    obtain ⟨k, -, hk⟩ := (mem_walkTo hl).1 hx
    exact ⟨k + 1, (climb_succ hk).trans (hl.mem_iff (c := .page).1 hc)⟩
  · rintro ⟨k, hk⟩
    cases k with
    | zero => cases hk
    | succ k =>
      obtain ⟨m, hm, hup⟩ := climb_succ_eq_some hk
      obtain ⟨c, rfl, hc⟩ := up_eq_some hup
      refine ⟨c, hl.mem_iff (c := .page).2 hc, (mem_walkTo hl).2 ⟨k, ?_, hm⟩⟩
      exact climb_lt_length (lt_of_parentOf hc) (acyclic_child acyclic_page hc) hm

theorem nodup_all (hl : d.Linked) : d.all.Nodup :=
  nodup_flatMap_walkTo hl acyclic_page fun _ hc => nodup_walkTo hl (acyclic_child acyclic_page hc)

theorem visits_all (hl : d.Linked) : d.Visits d.pageChildren d.all := by
  refine .flatMap fun c hc => ?_
  have hc : d.parentOf c = some .page := hl.mem_iff (c := .page).1 hc
  exact visits_walk hl (lt_of_parentOf hc) (acyclic_child acyclic_page hc)

/-- Pages with the same layers on them, and these with the same children, are listed alike. -/
theorem all_congr {d' : Document} (hl : d.Linked) (hl' : d'.Linked) (h : ∀ c, d'.childrenOf c = d.childrenOf c) : d'.all = d.all := by
  have hv : d'.Visits d'.pageChildren d'.all := visits_all hl'
  have hpage : d'.pageChildren = d.pageChildren := h .page
  rw [hpage] at hv
  exact (visits_all hl).unique (hv.congr fun x => (h (.layer x)).symm)

theorem count_all (hl : d.Linked) (h : d.OnPage x) : d.all.count x = 1 :=
  List.count_eq_one_of_mem (nodup_all hl) ((mem_all hl).2 h)

end Walk

end Easel.Document
