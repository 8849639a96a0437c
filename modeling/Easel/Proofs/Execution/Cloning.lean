import Easel.Proofs.Document.Clones
import Easel.Proofs.Execution.Runs

/-!
How a layer is copied, with all below it: call by call, one for each layer of the copy.
-/

namespace Easel.Host

open Document

variable {d : Document} {id n t depth : Nat} {v kids : List Nat} {m : HostM LayerId} {h : Host} {l : Layer}

/-- Layers can be made whenever that is asked for. -/
def Creative (h : Host) : Prop := ∀ k, h.faults k .createNode = none

theorem Creative.create_run (hc : h.Creative) (look : Look) : (create look).run h =
    (.ok h.document.layers.length, { h with document := (h.document.create look).2, calls := h.calls + 1 }) := by
  rw [Host.create_run, enter_run, hc]

/-- From a document that has grown out of `d`, `m` makes a copy of the layer `id` of `d` and of all below it, which is `v`. -/
def Clones (d : Document) (m : HostM LayerId) (id : LayerId) (v : List LayerId) : Prop :=
  ∀ h : Host, h.Creative → d.Extended [] h.document → ∃ d',
    m.run h = (.ok h.document.layers.length, { h with document := d', calls := h.calls + v.length }) ∧
    d'.layers.length = h.document.layers.length + v.length ∧ h.document.Extended [] d' ∧
    d.Replica d' none [id] h.document.layers.length v [h.document.layers.length]

/-- The body of the loop over the children. -/
def cloneChild (depth : Nat) (twin child : LayerId) : HostM Unit := do
  let copy ← cloneTo depth child
  edit (·.append (.layer twin) copy)

/-- A copied child is the last child of the copy. -/
theorem Clones.child (hm : Clones d (cloneTo depth id) id v) (hc : h.Creative) (hd : d.Extended [] h.document)
    (ht : h.document.layer? t = some l) (hle : d.layers.length ≤ t) : ∃ d',
      (cloneChild depth t id).run h = (.ok (), { h with document := d', calls := h.calls + v.length }) ∧
      d'.layers.length = h.document.layers.length + v.length ∧ h.document.Extended [t] d' ∧
      d'.layer? t = some { l with children := l.children ++ [h.document.layers.length] } ∧
      d.Replica d' (some (.layer t)) [id] h.document.layers.length v [h.document.layers.length] := by
  obtain ⟨d₁, hrun, hlength, hext, hcopy⟩ := hm h hc hd
  have hlt : t < h.document.layers.length := (List.getElem?_eq_some_iff.1 ht).choose
  have hfree : d₁.parentOf h.document.layers.length = none := hcopy.row_tops.parent _ List.mem_cons_self
  refine ⟨d₁.append (.layer t) h.document.layers.length, ?_, ?_, ?_, ?_, ?_⟩
  · rw [cloneChild, run_bind_ok hrun, edit_run]
  · rw [Document.append, length_attach, hlength]
  · apply hext.weaken.trans (.append hfree)
    intro x hx
    rw [List.mem_cons, List.mem_singleton] at hx
    rcases hx with rfl | rfl
    · exact .inl List.mem_cons_self
    · exact .inr (Nat.le_refl _)
  · exact layer?_append_home hfree (hext.layer?_old hlt ▸ ht) (Nat.ne_of_lt hlt)
  · apply hcopy.hang
    · exact layer?_append_hung hfree (Nat.ne_of_lt hlt)
    · intro x hlo hhi
      apply (Extended.append hfree).old
      · rw [hlength]
        exact hhi
      · rw [List.mem_cons, List.mem_singleton, not_or]
        exact ⟨Nat.ne_of_gt (Nat.lt_trans hlt hlo), Nat.ne_of_gt hlo⟩

/-- The copied children are the last children of the copy. -/
theorem Clones.children {f : LayerId → List LayerId} (hkids : ∀ c ∈ kids, Clones d (cloneTo depth c) c (f c)) (hle : d.layers.length ≤ t)
    (hc : h.Creative) (hd : d.Extended [] h.document) (ht : h.document.layer? t = some l) : ∃ d' new,
      (kids.forM (cloneChild depth t)).run h = (.ok (), { h with document := d', calls := h.calls + (kids.flatMap f).length }) ∧
      d'.layers.length = h.document.layers.length + (kids.flatMap f).length ∧ h.document.Extended [t] d' ∧
      d'.layer? t = some { l with children := l.children ++ new } ∧
      d.Replica d' (some (.layer t)) kids h.document.layers.length (kids.flatMap f) new := by
  induction kids generalizing h l with
  | nil =>
    refine ⟨h.document, [], rfl, rfl, .refl, ?_, .nil⟩
    rw [ht, List.append_nil]
  | cons child rest ih =>
    have hlt : t < h.document.layers.length := (List.getElem?_eq_some_iff.1 ht).choose
    obtain ⟨d₁, hrun, hlength, hext, ht₁, hcopy⟩ := (hkids child List.mem_cons_self).child hc hd ht hle
    have hd₁ : d.Extended [] d₁ := by
      apply hd.trans hext
      intro x hx
      rw [List.mem_singleton.1 hx]
      exact .inr hle
    obtain ⟨d', new, hrun', hlength', hext', ht', hcopies⟩ :=
      ih (h := { h with document := d₁, calls := h.calls + (f child).length }) (fun c hmem => hkids c (List.mem_cons_of_mem _ hmem))
        hc hd₁ ht₁
    dsimp only at hrun' hlength' hext' hcopies
    rw [hlength] at hlength' hcopies
    have hsize : ((child :: rest).flatMap f).length = (f child).length + (rest.flatMap f).length := by
      rw [List.flatMap_cons, List.length_append]
    refine ⟨d', h.document.layers.length :: new, ?_, ?_, ?_, ?_, ?_⟩
    · show (cloneChild depth t child >>= fun _ => rest.forM (cloneChild depth t)).run h = _
      rw [run_bind_ok hrun, hrun', hsize, Nat.add_assoc]
    · rw [hlength', hsize, Nat.add_assoc]
    · exact hext.trans hext' fun x hx => .inl hx
    · rw [ht', List.append_assoc]
      rfl
    · apply Replica.cons_tree _ hcopies
      apply hcopy.congr
      intro x hlo hhi
      apply hext'.old x (hlength ▸ hhi)
      rw [List.mem_singleton]
      exact Nat.ne_of_gt (Nat.lt_of_lt_of_le hlt hlo)

theorem cloneTo_clones (hl : d.Linked) (hid : id < d.layers.length)
    (hdepth : ∀ x k, d.climb k (.layer x) = some (.layer id) → k < depth) : Clones d (cloneTo depth id) id (d.walkTo depth id) := by
  induction depth generalizing id with
  | zero => exact absurd (hdepth id 0 rfl) (Nat.lt_irrefl 0)
  | succ depth ih =>
    intro h hc hd
    obtain ⟨l, hlayer⟩ : ∃ l, d.layer? id = some l := ⟨_, List.getElem?_eq_getElem hid⟩
    have hkids : d.childrenOf (.layer id) = l.children := childrenOf_eq hlayer
    have hlayer' : h.document.layer? id = some l := (hd.layer?_old hid).trans hlayer
    have hkids' : h.document.childrenOf (.layer id) = l.children := childrenOf_eq hlayer'
    have hall : ∀ c ∈ l.children, Clones d (cloneTo depth c) c (d.walkTo depth c) := by
      intro c hmem
      have hparent := hl.mem_iff.1 (hkids ▸ hmem)
      apply ih (lt_of_parentOf hparent)
      intro x k hk
      have := hdepth x (k + 1) ((climb_succ hk).trans hparent)
      omega
    have htwin : (h.document.create l.look).2.layer? h.document.layers.length = some { look := l.look } := by
      rw [layer?_create, if_pos rfl]
    obtain ⟨d', new, hrun, hlength, hext, ht, hcopies⟩ := Clones.children
      (h := { h with document := (h.document.create l.look).2, calls := h.calls + 1 }) hall hd.le hc
      (hd.trans .create fun x hx => absurd hx List.not_mem_nil) htwin
    dsimp only at hrun hlength hext hcopies
    rw [length_create] at hlength hcopies
    have hsize : (d.walkTo (depth + 1) id).length = 1 + (l.children.flatMap (d.walkTo depth)).length := by
      rw [walkTo, hkids, List.length_cons, Nat.add_comm]
    refine ⟨d', ?_, ?_, ?_, ?_⟩
    · rw [cloneTo, run_bind_ok (view_run h), hlayer']
      dsimp only
      rw [run_bind_ok (hc.create_run l.look), hkids']
      show (l.children.forM (cloneChild depth h.document.layers.length) >>= fun _ => pure h.document.layers.length).run _ = _
      rw [run_bind_ok hrun, hsize, Nat.add_assoc]
      rfl
    · rw [hlength, hsize, Nat.add_assoc]
    · apply Extended.create.trans hext
      intro x hx
      rw [List.mem_singleton.1 hx]
      exact .inr (Nat.le_refl _)
    · have hcopy := Replica.cons hlayer ht hcopies .nil
      rwa [List.append_nil, ← hkids] at hcopy

/-- A layer that does not hang on itself is copied with all below it, layer by layer; the copy hangs nowhere, and nothing else
changes. -/
theorem clone_faithful (h : Host) (n : LayerId) (hc : h.Creative) (hl : h.document.Linked) (hn : n < h.document.layers.length)
    (ha : h.document.Acyclic (.layer n)) : ∃ d',
      (clone n).run h =
        (.ok (h.document.cloneOf n n), { h with document := d', calls := h.calls + (h.document.walk n).length }) ∧
      h.document.Cloned n d' := by
  have hdepth : ∀ x k, h.document.climb k (.layer x) = some (.layer n) → k < h.document.layers.length :=
    fun x k hk => climb_lt_length hn ha hk
  obtain ⟨d', hrun, hlength, hext, hcopy⟩ := cloneTo_clones hl hn hdepth h hc .refl
  refine ⟨d', ?_, hcopy.cloned hext hlength hl hn ha rfl⟩
  rw [clone, run_bind_ok (view_run h), hrun, cloneOf_self hn]
  rfl

/-- A frame on the page with a text in it. -/
def captioned : Document :=
  (((({} : Document).create (Look.initial .frame)).2.append .page 0).create (Look.initial .text)).2.append (.layer 0) 1

theorem captioned_linked : captioned.Linked := by
  have hempty : ({} : Document).Linked := fun c x => by cases c <;> rfl
  have hframe : ((({} : Document).create (Look.initial .frame)).2.append .page 0).Linked :=
    (Moved.append (p := .page) (by decide) trivial).linked hempty.create
  exact (Moved.append (by decide +kernel) (show 0 < _ by decide +kernel)).linked hframe.create

theorem captioned_acyclic : captioned.Acyclic (.layer 0) := by
  apply acyclic_of_under_page
  exact .step (m := .page) (by decide +kernel) .refl

/-- The text of the frame's copy is a copy, too. -/
theorem clone_captioned : captioned.Linked ∧ captioned.Acyclic (.layer 0) ∧ ∃ d',
    (clone 0).run { document := captioned } = (.ok 2, { document := d', calls := 2 }) ∧ captioned.Cloned 0 d' ∧
    d'.childrenOf (.layer 2) = [3] := by
  have hpos : 0 < captioned.layers.length := by decide +kernel
  obtain ⟨d', hrun, hcloned⟩ := clone_faithful { document := captioned } 0 (fun _ => rfl) captioned_linked hpos captioned_acyclic
  refine ⟨captioned_linked, captioned_acyclic, d', hrun, hcloned, ?_⟩
  exact hcloned.children 0 (by decide +kernel)

end Easel.Host
