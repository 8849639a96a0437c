import Easel.Proofs.Document.Regrouping
import Easel.Proofs.Execution.Targets

/-!
Bringing a layer to the front and sending it to the back. The layer is taken from where it hangs and hung there again, so that
nothing changes but its place among its siblings; what the last such action on a layer does, does not depend on those before it.
-/

namespace Easel

open Document

variable {d d' : Document} {p c : Node} {id n x : Nat} {f g : List Nat → List Nat}

namespace Document

theorem updateChildren_updateChildren : (d.updateChildren p f).updateChildren p g = d.updateChildren p (g ∘ f) := by
  cases p with
  | page => rfl
  | layer k =>
    refine eq_of_beside rfl rfl fun x => ?_
    simp only [updateChildren, layer?_update, Option.map_map]
    congr 1
    funext l
    by_cases hx : x = k <;> simp [hx]

/-- Hung again where it hung, a layer only finds another place there. -/
theorem attach_eq_updateChildren (hl : d.Linked) (hp : d.parentOf n = some p) :
    d.attach p n f = d.updateChildren p fun ids => f (ids.filter (· ≠ n)) := by
  have hhas : d.has p := hl.has hp
  have hdetach (c : Node) : (d.detach n).childrenOf c = if c = p then (d.childrenOf p).filter (· ≠ n) else d.childrenOf c := by
    rw [childrenOf_detach_of_parent hl hp]
    simp only [List.mem_singleton]
  have hchildren (c : Node) : (d.attach p n f).childrenOf c =
      (d.updateChildren p fun ids => f (ids.filter (· ≠ n))).childrenOf c := by
    by_cases hc : c = p
    · rw [hc, childrenOf_attach_self hhas, childrenOf_updateChildren_self hhas, hdetach, if_pos rfl]
    · rw [childrenOf_attach_ne hc, childrenOf_updateChildren_ne hc, hdetach, if_neg hc]
  refine eq_of_beside (by simp) (hchildren .page) fun x => layer?_eq (by simp) ?_ (hchildren _) (by simp)
  rw [parentOf_attach (lt_of_parentOf hp), parentOf_updateChildren]
  split
  · rename_i hx
    rw [hx, hp]
  · rfl

/-- The children of `p` are listed as `f` says, and nothing else has changed. -/
structure Restacked (p : Node) (f : List LayerId → List LayerId) (d d' : Document) : Prop where
  children : d'.childrenOf p = f (d.childrenOf p)
  others : ∀ c, c ≠ p → d'.childrenOf c = d.childrenOf c
  layer : ∀ x, d'.layer? x = (d.layer? x).map fun l => { l with children := d'.childrenOf (.layer x) }
  beside : d'.beside = d.beside

theorem restacked (hp : d.has p) : d.Restacked p f (d.updateChildren p f) where
  children := childrenOf_updateChildren_self hp
  others _ hc := childrenOf_updateChildren_ne hc
  layer x := layer?_eq_map (f := fun _ => (d.updateChildren p f).childrenOf (.layer x)) (by rw [looks_updateChildren])
    parentOf_updateChildren isRemoved_updateChildren rfl
  beside := beside_updateChildren

end Document

namespace Execution

open Host (Fair)

variable {options options' : ExecutionOptions} {a b : Action} {op op' : Op} {h : Host} {place place' : List Nat → List Nat}

/-- Where the operation puts a layer among its siblings, the last of which is in front. -/
def placing? (n : LayerId) : Op → Option (List LayerId → List LayerId)
  | .bringToFront => some (· ++ [n])
  | .sendToBack => some (n :: ·)
  | _ => none

theorem filter_placing (hplace : placing? n op = some place) (ids : List Nat) :
    (place (ids.filter (· ≠ n))).filter (· ≠ n) = ids.filter (· ≠ n) := by
  have hfilter : (ids.filter (· ≠ n)).filter (· ≠ n) = ids.filter (· ≠ n) :=
    List.filter_eq_self.2 fun x hx => (List.mem_filter.1 hx).2
  cases op with
  | bringToFront =>
    cases hplace
    rw [List.filter_append, hfilter]
    simp
  | sendToBack =>
    cases hplace
    rw [List.filter_cons_of_neg (by simp), hfilter]
  | _ => cases hplace

theorem completes_containerOf (hp : d.parentOf id = some p) :
    Completes (fun d' => d' = d) (containerOf id) fun q d' => d' = d ∧ q = p := by
  refine .bind .view fun d' => .intro ?_
  rintro d' ⟨rfl, rfl⟩
  rw [hp]
  exact .pure fun _ he => ⟨he, rfl⟩

/-- The handler has hung the layer again where it hung. -/
theorem completes_placing {t : Task} (hs : d.Sound) (ht : d.targeted t.target = some n) (hp : d.parentOf n = some p)
    (hplace : placing? n op = some place) :
    Completes (fun d' => d' = d) (handle op t) fun _ d' => d' = d.updateChildren p fun ids => place (ids.filter (· ≠ n)) := by
  have hlive : d.isRemoved n = false := hs.live_of_onPage (onPage_of_targeted hs ht)
  -- The two handlers differ in the edit alone.
  have hhung (edit : Node → LayerId → Document → Document) (he : edit p n d = d.attach p n place) :
      Completes (fun d' => d' = d)
        (requireTarget t >>= fun id => ifAlive id (containerOf id >>= fun q => liftM (Host.edit (edit q id))))
        fun _ d' => d' = d.updateChildren p fun ids => place (ids.filter (· ≠ n)) := by
    rw [← attach_eq_updateChildren hs.linked hp, ← he]
    refine .bind (.requireTarget ht) fun id => .intro ?_
    rintro d' ⟨rfl, rfl⟩
    refine .ifAlive_live hlive (.bind (completes_containerOf hp) fun q => .intro ?_)
    rintro d' ⟨rfl, rfl⟩
    exact .edit _
  cases op with
  | bringToFront =>
    cases hplace
    exact hhung (fun q id d => d.append q id) rfl
  | sendToBack =>
    cases hplace
    refine hhung (fun q id d => d.insert q 0 id) ?_
    have hclamp (length : Nat) : clampIndex 0 length = 0 := Nat.min_zero length
    show d.attach p n (fun ids => ids.insertIdx (clampIndex 0 ids.length) n) = _
    simp only [hclamp, List.insertIdx_zero]
  | _ => cases hplace

/-- A layer is brought to the front, or sent to the back, of what it hangs on, and nothing else changes. Another such action on it
leaves what it would have left without the first one. -/
theorem restacking_exact (hr : Reachable h) (hf : Fair h) (ha : opOf? a = some op) (ht : h.document.targeted a.target = some n)
    (hplace : placing? n op = some place) (options : ExecutionOptions) :
    ∃ p, h.document.parentOf n = some p ∧ h.document.isContainer p ∧ (perform options a h).1 = .succeeded ∧
      h.document.Restacked p (fun ids => place (ids.filter (· ≠ n))) (perform options a h).2.2.document ∧
      (perform options a h).2.2.document.parentOf n = some p ∧
      (perform options a h).2.2.document.targeted (.str (LayerId.text n)) = some n ∧
      ∀ options' b op' place', opOf? b = some op' → placing? n op' = some place' →
        (perform options a h).2.2.document.targeted b.target = some n →
        h.document.Restacked p (fun ids => place' (ids.filter (· ≠ n))) (perform options' b (perform options a h).2.2).2.2.document ∧
        (h.document.targeted b.target = some n →
          (perform options' b (perform options a h).2.2).2.2.document = (perform options' b h).2.2.document) := by
  have hs := hr.sound
  obtain ⟨p, hp, -⟩ := (onPage_of_targeted hs ht).exists_parent
  have hhas : h.document.has p := hs.linked.has hp
  obtain ⟨hok, hf', hd⟩ := perform_completes options hf ha (completes_placing hs ht hp hplace)
  have hs' : (perform options a h).2.2.document.Sound := (perform_sound options a hs).1
  have hparent (x : Nat) : (perform options a h).2.2.document.parentOf x = h.document.parentOf x := by
    rw [hd, parentOf_updateChildren]
  -- Parents are kept, so the layer is still found by its number.
  have hmem : n ∈ (perform options a h).2.2.document.all :=
    (mem_all hs'.linked).2 ((under_of_same hparent).2 (onPage_of_targeted hs ht))
  refine ⟨p, hp, hs.container n p hp, hok, hd ▸ restacked hhas, (hparent n).trans hp, targeted_text hmem, ?_⟩
  intro options' b op' place' hb hplace' htb
  obtain ⟨-, -, hd'⟩ := perform_completes options' hf' hb (completes_placing hs' htb ((hparent n).trans hp) hplace')
  -- The layer is taken from where the first action put it.
  have hlast : (perform options' b (perform options a h).2.2).2.2.document =
      h.document.updateChildren p fun ids => place' (ids.filter (· ≠ n)) := by
    rw [hd', hd, updateChildren_updateChildren]
    congr 1
    funext ids
    rw [Function.comp_apply, filter_placing hplace]
  refine ⟨hlast ▸ restacked hhas, fun htb' => ?_⟩
  obtain ⟨-, -, hd₁⟩ := perform_completes options' hf hb (completes_placing hs htb' hp hplace')
  rw [hlast, hd₁]

/-- Two rectangles in a frame. -/
def stacked : Host :=
  ((runActions {} [⟨"create_frame", [], .null⟩, ⟨"create_rectangle", [("parentId", .str "1:1")], .null⟩,
    ⟨"create_rectangle", [("parentId", .str "1:1")], .null⟩]).run {}).2

/-- The first one is brought to the front of the second; sent to the back then, it is where it would have been without that. -/
theorem stacked_and_back :
    stacked.document.Restacked (.layer 0) (fun ids => ids.filter (· ≠ 1) ++ [1])
        (perform {} ⟨"bring_to_front", [], .str (LayerId.text 1)⟩ stacked).2.2.document ∧
      (perform {} ⟨"send_to_back", [], .str (LayerId.text 1)⟩
        (perform {} ⟨"bring_to_front", [], .str (LayerId.text 1)⟩ stacked).2.2).2.2.document =
          (perform {} ⟨"send_to_back", [], .str (LayerId.text 1)⟩ stacked).2.2.document := by
  have hreach : Reaches (fun _ _ => True) {} stacked := runActions_reaches {} _ {}
  have hr : Reachable stacked := ⟨{}, ⟨"Page 1", false, rfl⟩, hreach⟩
  have hf : Fair stacked := Host.fair_of_none (hreach.rel Host.stepwise_faults)
  have ht : stacked.document.targeted (.str (LayerId.text 1)) = some 1 := targeted_text (by decide +kernel)
  have hfront : opOf? ⟨"bring_to_front", [], .str (LayerId.text 1)⟩ = some .bringToFront := by decide +kernel
  have hback : opOf? ⟨"send_to_back", [], .str (LayerId.text 1)⟩ = some .sendToBack := by decide +kernel
  have hparent : stacked.document.parentOf 1 = some (.layer 0) := by decide +kernel
  obtain ⟨p, hp, -, -, hrestacked, -, ht', hlast⟩ := restacking_exact hr hf hfront ht rfl {}
  obtain rfl : p = .layer 0 := Option.some.inj (hp.symm.trans hparent)
  exact ⟨hrestacked, (hlast {} _ _ _ hback rfl ht').2 ht⟩

end Execution

end Easel
