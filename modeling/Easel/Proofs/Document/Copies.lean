import Easel.Proofs.Document.Groups

/-!
Copies of a new layer, and where they are hung. Nothing of the page changes while they hang nowhere; each is then the last one in
its home, and nothing else moves.
-/

namespace Easel.Document

variable {d d₁ d' : Document} {look : Look} {c p : Node} {n k id x : Nat} {parents : List Nat} {hung : List (Node × Nat)}

/-! ### Copies that hang nowhere -/

/-- `d'` has `n` layers more than `d`, of one look, which hang nowhere. -/
structure Copied (d : Document) (look : Look) (n : Nat) (d' : Document) : Prop where
  layers : d'.layers = d.layers ++ List.replicate n ({ look } : Layer)
  page : d'.pageChildren = d.pageChildren

namespace Copied

theorem first : d.Copied look 1 (d.create look).2 := ⟨rfl, rfl⟩

theorem create (h : d.Copied look n d') : d.Copied look (n + 1) (d'.create look).2 where
  layers := by
    show d'.layers ++ [_] = _
    rw [h.layers, List.append_assoc, ← List.replicate_succ']
  page := h.page

theorem updateLook (h : d.Copied look 1 d') (f : Look → Look) : d.Copied (f look) 1 (d'.updateLook d.layers.length f) where
  layers := by
    show d'.layers.modify d.layers.length _ = _
    rw [h.layers]
    exact List.modifyTailIdx_add _ 0 d.layers [({ look } : Layer)]
  page := h.page

section

variable (h : d.Copied look n d')

include h

theorem length : d'.layers.length = d.layers.length + n := by rw [h.layers, List.length_append, List.length_replicate]

theorem layer?_of_lt (hx : x < d.layers.length) : d'.layer? x = d.layer? x := by
  rw [layer?, h.layers, List.getElem?_append_left hx, layer?]

theorem layer?_copy (hk : k < n) : d'.layer? (d.layers.length + k) = some { look } := by
  rw [layer?, h.layers, List.getElem?_append_right (Nat.le_add_right _ _), Nat.add_sub_cancel_left]
  exact List.getElem?_replicate_of_lt hk

/-- A number that was not given out may stand for a copy now. -/
theorem layer?_cases (x : Nat) : d'.layer? x = d.layer? x ∨ d.layer? x = none ∧ d'.layer? x = some { look } := by
  by_cases hx : x < d.layers.length
  · exact .inl (h.layer?_of_lt hx)
  · have hold : d.layer? x = none := List.getElem?_eq_none (Nat.le_of_not_lt hx)
    obtain ⟨k, rfl⟩ := Nat.exists_eq_add_of_le (Nat.le_of_not_lt hx)
    by_cases hk : k < n
    · exact .inr ⟨hold, h.layer?_copy hk⟩
    · refine .inl (hold ▸ List.getElem?_eq_none ?_)
      rw [h.length]
      omega

theorem parentOf (x : Nat) : d'.parentOf x = d.parentOf x := by
  rcases h.layer?_cases x with hx | ⟨hold, hnew⟩
  · rw [Document.parentOf, hx, Document.parentOf]
  · rw [Document.parentOf, hnew, Document.parentOf, hold]
    rfl

theorem childrenOf (c : Node) : d'.childrenOf c = d.childrenOf c := by
  cases c with
  | page => exact h.page
  | layer x =>
    rcases h.layer?_cases x with hx | ⟨hold, hnew⟩
    · rw [Document.childrenOf, hx, Document.childrenOf]
    · rw [Document.childrenOf, hnew, Document.childrenOf, hold]
      rfl

theorem isRemoved (x : Nat) : d'.isRemoved x = d.isRemoved x := by
  rcases h.layer?_cases x with hx | ⟨hold, hnew⟩
  · rw [Document.isRemoved, hx, Document.isRemoved]
  · rw [Document.isRemoved, hnew, Document.isRemoved, hold]
    rfl

theorem nameOf (hx : x < d.layers.length) : d'.nameOf x = d.nameOf x := by
  rw [Document.nameOf, h.layer?_of_lt hx, Document.nameOf]

theorem isContainer (hx : x < d.layers.length) : d'.isContainer (.layer x) = d.isContainer (.layer x) := by
  rw [Document.isContainer, h.layer?_of_lt hx, Document.isContainer]

theorem linked (hl : d.Linked) : d'.Linked := fun c x => by
  rw [h.childrenOf, h.parentOf]
  exact hl c x

theorem all (hl : d.Linked) : d'.all = d.all := all_congr hl (h.linked hl) h.childrenOf

end

end Copied

/-! ### Layers hung one after the other -/

/-- Where a layer was hung, if it was. -/
def homeIn (hung : List (Node × LayerId)) (x : LayerId) : Option Node :=
  (hung.find? (·.2 = x)).map (·.1)

/-- What was hung on a node, in order. -/
def hungIn (hung : List (Node × LayerId)) (c : Node) : List LayerId :=
  (hung.filter (·.1 = c)).map (·.2)

theorem homeIn_append : homeIn (hung ++ [(p, id)]) x = (homeIn hung x).or (if x = id then some p else none) := by
  rw [homeIn, List.find?_append, homeIn]
  cases hf : hung.find? (·.2 = x) with
  | some => rfl
  | none => by_cases hx : id = x <;> simp [hx, eq_comm]

theorem hungIn_append : hungIn (hung ++ [(p, id)]) c = hungIn hung c ++ if p = c then [id] else [] := by
  rw [hungIn, List.filter_append, List.map_append, hungIn]
  by_cases hc : p = c <;> simp [hc]

/-- `d'` is `d` with layers that hung nowhere each hung as the last one of a node. -/
structure Hung (d : Document) (hung : List (Node × LayerId)) (d' : Document) : Prop where
  length : d'.layers.length = d.layers.length
  layer : ∀ x, d'.layer? x = (d.layer? x).map fun l =>
    { l with parent := (homeIn hung x).or l.parent, children := l.children ++ hungIn hung (.layer x) }
  page : d'.pageChildren = d.pageChildren ++ hungIn hung .page

/-- A layer that hangs nowhere is not taken from anywhere when it is hung. -/
theorem layer?_append (hid : d.parentOf id = none) (x : Nat) : (d.append p id).layer? x = (d.layer? x).map fun l =>
    { l with
      parent := if x = id then some p else l.parent
      children := l.children ++ if p = .layer x then [id] else [] } := by
  have hdetach : d.detach id = d := by rw [detach, hid]
  rw [append, attach, hdetach, layer?_update]
  cases p with
  | page =>
    show (d.layer? x).map _ = _
    by_cases hx : x = id <;> simp [hx]
  | layer k =>
    rw [updateChildren, layer?_update, Option.map_map]
    congr 1
    funext l
    rcases eq_or_ne k x with rfl | hk
    · by_cases hx : k = id <;> simp [hx]
    · rw [Function.comp_apply, if_neg hk.symm]
      split <;> simp [hk]

theorem pageChildren_append (hid : d.parentOf id = none) :
    (d.append p id).pageChildren = d.pageChildren ++ if p = .page then [id] else [] := by
  have hdetach : d.detach id = d := by rw [detach, hid]
  rw [append, attach, hdetach]
  cases p with
  | page => rfl
  | layer k => exact (List.append_nil _).symm

namespace Hung

theorem refl : d.Hung [] d where
  length := rfl
  layer x := by
    cases h : d.layer? x with
    | none => rfl
    | some l => simp [homeIn, hungIn]
  page := by simp [hungIn]

section

variable (h : d.Hung hung d')

include h

theorem parentOf (x : Nat) : d'.parentOf x = (d.layer? x).bind fun l => (homeIn hung x).or l.parent := by
  rw [Document.parentOf, h.layer]
  cases d.layer? x <;> rfl

theorem isContainer (c : Node) : d'.isContainer c = d.isContainer c := by
  cases c with
  | page => rfl
  | layer x =>
    rw [Document.isContainer, h.layer, Document.isContainer]
    cases d.layer? x <;> rfl

theorem isRemoved (x : Nat) : d'.isRemoved x = d.isRemoved x := by
  rw [Document.isRemoved, h.layer, Document.isRemoved]
  cases d.layer? x <;> rfl

theorem append (hid : d'.parentOf id = none) (p : Node) : d.Hung (hung ++ [(p, id)]) (d'.append p id) where
  length := length_attach.trans h.length
  layer x := by
    rw [layer?_append hid, h.layer, Option.map_map]
    cases hl : d.layer? x with
    | none => rfl
    | some l =>
      rw [h.parentOf] at hid
      simp only [Option.map_some, Function.comp_apply, homeIn_append, hungIn_append, ← List.append_assoc]
      by_cases hx : x = id
      · subst hx
        rw [hl, Option.bind_some, Option.or_eq_none_iff] at hid
        simp [hid]
      · simp [hx]
  page := by rw [pageChildren_append hid, h.page, hungIn_append, List.append_assoc]

end

end Hung

/-! ### One copy for each parent -/

/-- Where a copy for `parent` is hung. -/
def home (d : Document) (parent : LayerId) : Node :=
  if d.isContainer (.layer parent) then .layer parent else .page

/-- Where the copies are hung. There is one without a parent, too. -/
def homes (d : Document) (parents : List LayerId) : List Node :=
  if parents.isEmpty then [.page] else parents.map d.home

/-- The new layers whose home is `c`, in order. -/
def newIn (d : Document) (parents : List LayerId) (c : Node) : List LayerId :=
  hungIn ((d.homes parents).zipIdx d.layers.length) c

/-- `d'` is `d` with one new layer for each of `parents`, or one on the page if there are none. Each is the last one in its home,
and the layers that were there look as they did and hang where they hung, in their order. -/
structure Creates (d d' : Document) (parents : List LayerId) (look : Look) : Prop where
  known : ∀ p ∈ parents, p < d.layers.length
  length : d'.layers.length = d.layers.length + max 1 parents.length
  all : ∀ x, x ∈ d'.all ↔ x ∈ d.all ∨ d.layers.length ≤ x ∧ x < d'.layers.length
  nodup : d'.all.Nodup
  new : ∀ k (hk : k < (d.homes parents).length), d'.layer? (d.layers.length + k) = some { look, parent := (d.homes parents)[k] }
  inside : ∀ k (hk : k < parents.length), d.isContainer (.layer parents[k]) →
    d'.childrenOf (.layer parents[k]) = d.childrenOf (.layer parents[k]) ++ [d.layers.length + k]
  page : d'.pageChildren = d.pageChildren ++ d.newIn parents .page
  old : ∀ x l, d.layer? x = some l → d'.layer? x = some { l with children := l.children ++ d.newIn parents (.layer x) }

theorem length_homes : (d.homes parents).length = max 1 parents.length := by
  unfold homes
  cases parents with
  | nil => rfl
  | cons p rest => simp

theorem mem_homes (hp : p ∈ d.homes parents) : p = .page ∨ ∃ x ∈ parents, p = .layer x := by
  unfold homes at hp
  split at hp
  · exact .inl (List.mem_singleton.1 hp)
  · obtain ⟨x, hx, rfl⟩ := List.mem_map.1 hp
    unfold home
    split
    · exact .inr ⟨x, hx, rfl⟩
    · exact .inl rfl

theorem eq_of_home (h : d.home x = .layer k) : x = k := by
  unfold home at h
  split at h
  · exact Node.layer.inj h
  · cases h

theorem homeIn_zipIdx {homes : List Node} (hk : k < homes.length) (n : Nat) : homeIn (homes.zipIdx n) (n + k) = some homes[k] := by
  induction homes generalizing n k with
  | nil => cases hk
  | cons p rest ih =>
    rw [homeIn, List.zipIdx_cons]
    cases k with
    | zero => simp
    | succ k =>
      rw [List.find?_cons_of_neg (by simp)]
      have hrest := ih (Nat.lt_of_succ_lt_succ hk) (n + 1)
      rwa [Nat.add_right_comm] at hrest

theorem homeIn_zipIdx_eq_none {homes : List Node} (hx : x < n ∨ n + homes.length ≤ x) : homeIn (homes.zipIdx n) x = none := by
  rw [homeIn, Option.map_eq_none_iff, List.find?_eq_none]
  rintro ⟨p, i⟩ hp hi
  obtain rfl : i = x := of_decide_eq_true hi
  have hle := List.le_snd_of_mem_zipIdx hp
  have hlt := List.snd_lt_add_of_mem_zipIdx hp
  dsimp only at hle hlt
  omega

theorem hungIn_zipIdx_of_not_mem {homes : List Node} (hc : c ∉ homes) : hungIn (homes.zipIdx n) c = [] := by
  rw [hungIn, List.map_eq_nil_iff, List.filter_eq_nil_iff]
  rintro ⟨p, i⟩ hp hpc
  exact hc (of_decide_eq_true hpc ▸ List.fst_mem_of_mem_zipIdx hp)

/-- No two copies are hung in one container. -/
theorem hungIn_map_home (hn : parents.Nodup) (hk : k < parents.length) (hc : d.isContainer (.layer parents[k])) (n : Nat) :
    hungIn ((parents.map d.home).zipIdx n) (.layer parents[k]) = [n + k] := by
  induction parents generalizing k n with
  | nil => cases hk
  | cons p rest ih =>
    obtain ⟨hp, hrest⟩ := List.nodup_cons.1 hn
    rw [List.map_cons, List.zipIdx_cons]
    cases k with
    | zero =>
      have hhome : d.home p = .layer p := if_pos hc
      have hother : .layer p ∉ rest.map d.home := by
        rintro hmem
        obtain ⟨q, hq, he⟩ := List.mem_map.1 hmem
        exact hp (eq_of_home he ▸ hq)
      show hungIn ((d.home p, n) :: _) (.layer p) = [n]
      rw [hungIn, List.filter_cons_of_pos (by simpa using hhome), List.map_cons, ← hungIn, hungIn_zipIdx_of_not_mem hother]
    | succ k =>
      have hk' : k < rest.length := Nat.lt_of_succ_lt_succ hk
      have hne : d.home p ≠ .layer rest[k] := fun he => hp (eq_of_home he ▸ List.getElem_mem hk')
      have hlater := ih hrest hk' hc (n + 1)
      rw [Nat.add_right_comm] at hlater
      show hungIn ((d.home p, n) :: _) (.layer rest[k]) = [n + k + 1]
      rw [hungIn, List.filter_cons_of_neg (by simpa using hne), ← hungIn, hlater]

section

variable (h : d.Copied look (d.homes parents).length d₁) (h' : d₁.Hung ((d.homes parents).zipIdx d.layers.length) d')

include h h'

theorem layer?_old {l : Layer} (hx : d.layer? x = some l) :
    d'.layer? x = some { l with children := l.children ++ d.newIn parents (.layer x) } := by
  have hlt : x < d.layers.length := (List.getElem?_eq_some_iff.1 hx).choose
  rw [h'.layer, h.layer?_of_lt hlt, hx, homeIn_zipIdx_eq_none (.inl hlt)]
  rfl

theorem layer?_new (hp : ∀ p ∈ parents, p < d.layers.length) (hk : k < (d.homes parents).length) :
    d'.layer? (d.layers.length + k) = some { look, parent := (d.homes parents)[k] } := by
  have hno : .layer (d.layers.length + k) ∉ d.homes parents := fun hmem => by
    rcases mem_homes hmem with he | ⟨x, hx, he⟩
    · cases he
    · have hlt := hp x hx
      rw [← Node.layer.inj he] at hlt
      omega
  rw [h'.layer, h.layer?_copy hk, homeIn_zipIdx hk, hungIn_zipIdx_of_not_mem hno]
  rfl

theorem parentOf_old (hx : x < d.layers.length) : d'.parentOf x = d.parentOf x := by
  obtain ⟨l, hl⟩ : ∃ l, d.layer? x = some l := ⟨_, List.getElem?_eq_getElem hx⟩
  rw [parentOf, layer?_old h h' hl, parentOf, hl]
  rfl

/-- Of the layers that were there, the same are on the page. -/
theorem onPage_old (hl : d.Linked) (hx : x < d.layers.length) : d'.OnPage x ↔ d.OnPage x :=
  under_congr fun m hm => by
    cases m with
    | page => rfl
    | layer y => exact parentOf_old h h' (hl.has_of_under (n := .layer x) hx hm)

theorem onPage_new (hl : d.Linked) (hp : ∀ p ∈ parents, d.OnPage p) (hk : k < (d.homes parents).length) :
    d'.OnPage (d.layers.length + k) := by
  have hparent : d'.parentOf (d.layers.length + k) = some (d.homes parents)[k] := by
    rw [parentOf, layer?_new h h' (fun p hmem => (hp p hmem).lt) hk]
    rfl
  refine .step hparent ?_
  rcases mem_homes (List.getElem_mem hk) with hpage | ⟨p, hmem, hlayer⟩
  · rw [hpage]
    exact .refl
  · rw [hlayer]
    exact (onPage_old h h' hl (hp p hmem).lt).2 (hp p hmem)

end

/-- Copies that were made first and hung then. -/
theorem creates (h : d.Copied look (d.homes parents).length d₁) (h' : d₁.Hung ((d.homes parents).zipIdx d.layers.length) d')
    (hl : d.Linked) (hl' : d'.Linked) (hp : ∀ p ∈ parents, d.OnPage p) (hn : parents.Nodup) : d.Creates d' parents look where
  known p hmem := (hp p hmem).lt
  length := by rw [h'.length, h.length, length_homes]
  all x := by
    rw [mem_all hl', mem_all hl]
    constructor
    · intro hx
      by_cases hlt : x < d.layers.length
      · exact .inl ((onPage_old h h' hl hlt).1 hx)
      · exact .inr ⟨Nat.le_of_not_lt hlt, hx.lt⟩
    · rintro (hx | ⟨hle, hlt⟩)
      · exact (onPage_old h h' hl hx.lt).2 hx
      · obtain ⟨k, rfl⟩ := Nat.exists_eq_add_of_le hle
        rw [h'.length, h.length] at hlt
        exact onPage_new h h' hl hp (Nat.lt_of_add_lt_add_left hlt)
  nodup := nodup_all hl'
  new _ hk := layer?_new h h' (fun p hmem => (hp p hmem).lt) hk
  inside k hk hc := by
    have hhomes : d.homes parents = parents.map d.home := by
      cases parents with
      | nil => cases hk
      | cons => rfl
    obtain ⟨l, hlayer⟩ : ∃ l, d.layer? parents[k] = some l := ⟨_, List.getElem?_eq_getElem (hp _ (List.getElem_mem hk)).lt⟩
    rw [childrenOf, layer?_old h h' hlayer, childrenOf, hlayer, newIn, hhomes, ← hungIn_map_home hn hk hc]
    rfl
  page := by rw [h'.page, h.page, newIn]
  old _ _ hx := layer?_old h h' hx

end Easel.Document
