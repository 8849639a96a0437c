import Easel.Proofs.Document.Pruning
import Easel.Proofs.Execution.Targets

/-!
What deleting takes off: the layer that is named, or the live layers that are selected, each with all below it. In what order they
are selected, and whether some are below others, makes no difference to the page.
-/

namespace Easel

open Document

variable {gone : Nat → Prop} {d d' d₁ : Document} {nodes : List Node} {id x : Nat} {ids : List Nat}

namespace Document

/-- Of the selected layers only those that are live count. -/
theorem among_live : ({ d with selection := nodes } : Document).Among (ids.filter fun id => !d.isRemoved id) x ↔ d.Among ids x := by
  have hlive (s : Nat) : s ∈ ids.filter (fun id => !d.isRemoved id) ↔ s ∈ ids ∧ d.isRemoved s = false := by simp
  constructor
  · rintro ⟨s, hs, -, hx⟩
    exact ⟨s, ((hlive s).1 hs).1, ((hlive s).1 hs).2, under_select.1 hx⟩
  · rintro ⟨s, hs, hl, hx⟩
    exact ⟨s, (hlive s).2 ⟨hs, hl⟩, hl, under_select.2 hx⟩

theorem Pruned.liveSelection (h : d.Pruned gone d') (hids : d.liveSelection? = some ids) :
    d'.liveSelection? = some (spare gone ids) := by
  obtain ⟨l, hl, rfl⟩ := Option.map_eq_some_iff.1 hids
  have hfilter : l.filter (fun id => !d'.isRemoved id) = spare gone (l.filter fun id => !d.isRemoved id) := by
    rw [spare, List.filter_filter]
    refine List.filter_congr fun x _ => ?_
    rw [Bool.eq_iff_iff, Bool.not_eq_true', Bool.eq_false_iff, Ne, h.isRemoved]
    simp [and_comm]
  rw [liveSelection?, h.selection, hl, ← hfilter]
  rfl

end Document

namespace Execution

open Host (Fair)

variable {options : ExecutionOptions} {a : Action} {h : Host}

theorem completes_delete {t : Task} (ht : d.targeted t.target = some id) (hlive : d.isRemoved id = false) :
    Completes (fun d' => d' = d) (delete t) fun _ d' => d' = d.remove id := by
  refine .bind (.requireTarget ht) fun found => .intro ?_
  rintro d' ⟨rfl, rfl⟩
  exact .ifAlive_live hlive (.edit _)

theorem completes_deleteSelection (hids : d.liveSelection? = some ids) :
    Completes (fun d' => d' = d) deleteSelection fun _ d' => d' = ids.foldl removeLive { d with selection := ids.map .layer } := by
  refine .bind (.call (.getSelection hids)) fun found => .intro ?_
  rintro d' ⟨rfl, rfl⟩
  exact .forM (fun d id => .edit fun d => d.removeLive id) found

/-- An action has taken off the layers of `gone`: they are passed over in the list of the page and in the lists of children, they are
marked, and they are not selected any more; nothing else has changed. -/
structure Deletion (gone : LayerId → Prop) (h : Host) (result : Outcome × List Event × Host) : Prop where
  succeeded : result.1 = .succeeded
  listed : result.2.2.document.all = spare gone h.document.all
  removed : ∀ x, result.2.2.document.isRemoved x = true ↔ h.document.isRemoved x = true ∨ gone x
  left : ∀ x, ¬gone x →
    result.2.2.document.layer? x = (h.document.layer? x).map fun l => { l with children := spare gone l.children }
  looks : result.2.2.document.looks = h.document.looks
  beside : result.2.2.document.beside = { h.document.beside with selection := result.2.2.document.selection }
  unselected : ∃ ids, h.document.liveSelection? = some ids ∧ (Host.getSelection.run result.2.2).1 = .ok (spare gone ids)

theorem Deletion.congr {gone' : Nat → Prop} {result : Outcome × List Event × Host} (hd : Deletion gone h result)
    (hg : ∀ x, gone x ↔ gone' x) : Deletion gone' h result := by
  obtain rfl : gone = gone' := funext fun x => propext (hg x)
  exact hd

/-- What comes of the page: what is listed, in what order, each layer on it, and which layers are removed. -/
structure SamePage (d d' : Document) : Prop where
  top : d'.pageChildren = d.pageChildren
  listed : d'.all = d.all
  layer : ∀ x ∈ d.all, d'.layer? x = d.layer? x
  removed : ∀ x, d'.isRemoved x = d.isRemoved x

section Deletion

variable (hr : Reachable h) (hf : Fair h)

include hr hf

theorem deletion_of_delete (options : ExecutionOptions) (ha : opOf? a = some .delete) (ht : h.document.targeted a.target = some id) :
    Deletion (fun x => h.document.Under (.layer x) (.layer id)) h (perform options a h) := by
  have hs := hr.sound
  have hpage : h.document.OnPage id := onPage_of_targeted hs ht
  obtain ⟨hok, hf', hd⟩ := perform_completes options hf ha (completes_delete ht (hs.live_of_onPage hpage))
  have hp : h.document.Pruned (fun x => h.document.Under (.layer x) (.layer id)) (perform options a h).2.2.document :=
    hd ▸ .remove hs.linked hpage.lt
  obtain ⟨ids, hids, -⟩ := hs.liveSelection
  refine ⟨hok, hp.all hs.linked, fun _ => hp.isRemoved, hp.left, hp.looks, ?_, ids, hids,
    Host.Completes.run_getSelection hf' (hp.liveSelection hids)⟩
  rw [hp.selection, hp.beside]
  rfl

/-- The document that the live ones of the selected layers are taken off. -/
theorem pruned_of_deleteSelection (options : ExecutionOptions) (ha : opOf? a = some .deleteSelection)
    (hids : ∀ id ∈ ids, id < h.document.layers.length) :
    let live := ids.filter fun id => !h.document.isRemoved id
    let result := perform options a (h.selecting ids)
    result.1 = .succeeded ∧ Fair result.2.2 ∧
      ({ h.document with selection := live.map .layer } : Document).Pruned (h.document.Among ids) result.2.2.document := by
  intro live result
  have hlive : (h.selecting ids).document.liveSelection? = some live := liveSelection_layers ids
  have hf' : Fair (h.selecting ids) := hf
  obtain ⟨hok, hfair, hd⟩ := perform_completes options hf' ha (completes_deleteSelection hlive)
  have hlt : ∀ id ∈ live, id < h.document.layers.length := fun id hid => hids id (List.mem_of_mem_filter hid)
  have hp := pruned_removeAll (d := { h.document with selection := live.map .layer }) hr.sound.linked hlt
  exact ⟨hok, hfair, hd ▸ hp.congr fun _ => among_live⟩

theorem deletion_of_deleteSelection (options : ExecutionOptions) (ha : opOf? a = some .deleteSelection)
    (hids : ∀ id ∈ ids, id < h.document.layers.length) :
    Deletion (h.document.Among ids) (h.selecting ids) (perform options a (h.selecting ids)) := by
  have hl : h.document.Linked := hr.sound.linked
  obtain ⟨hok, hfair, hp⟩ := pruned_of_deleteSelection hr hf options ha hids
  refine ⟨hok, ?_, fun _ => hp.isRemoved, hp.left, hp.looks, ?_, _, liveSelection_layers ids, ?_⟩
  · rw [hp.all hl, all_select hl]
    exact congrArg _ (all_select hl).symm
  · rw [hp.selection, hp.beside]
    rfl
  · refine Host.Completes.run_getSelection hfair (hp.liveSelection ((liveSelection_layers _).trans ?_))
    rw [List.filter_filter]
    exact congrArg some (List.filter_congr fun x _ => Bool.and_self _)

theorem samePage_of_perm (options : ExecutionOptions) (ha : opOf? a = some .deleteSelection)
    (hids : ∀ id ∈ ids, id < h.document.layers.length) {ids' : List Nat} (hperm : ids'.Perm ids) :
    SamePage (perform options a (h.selecting ids)).2.2.document (perform options a (h.selecting ids')).2.2.document := by
  have hl : h.document.Linked := hr.sound.linked
  obtain ⟨-, -, hp⟩ := pruned_of_deleteSelection hr hf options ha hids
  obtain ⟨-, -, hp'⟩ := pruned_of_deleteSelection hr hf options ha fun id hid => hids id (hperm.mem_iff.1 hid)
  -- Both runs take off the same layers, and what is left depends on these alone.
  have hsame (x : Nat) : h.document.Among ids' x ↔ h.document.Among ids x := by simp only [Among, hperm.mem_iff]
  replace hp' := hp'.congr hsame
  have hall : (perform options a (h.selecting ids)).2.2.document.all = spare (h.document.Among ids) h.document.all := by
    rw [hp.all hl, all_select hl]
  refine ⟨hp'.page.trans hp.page.symm, ?_, fun x hx => ?_, fun x => ?_⟩
  · rw [hall, hp'.all hl, all_select hl]
  · have hx : ¬h.document.Among ids x := (mem_spare.1 (hall ▸ hx)).2
    exact (hp'.left x hx).trans (hp.left x hx).symm
  · rw [Bool.eq_iff_iff, hp'.isRemoved, hp.isRemoved]
    exact Iff.rfl

/-- Deleting a layer takes off the layer and all below it; deleting what is selected, whatever that is, takes off the live layers among
it and all below them, with the same page left by every order of the selection. -/
theorem deletion_exact (options : ExecutionOptions) (a : Action) :
    (∀ id, opOf? a = some .delete → h.document.targeted a.target = some id →
      Deletion (fun x => h.document.Under (.layer x) (.layer id)) h (perform options a h)) ∧
    ∀ ids, opOf? a = some .deleteSelection → (∀ id ∈ ids, id < h.document.layers.length) →
      Deletion (h.document.Among ids) (h.selecting ids) (perform options a (h.selecting ids)) ∧
      ∀ ids', ids'.Perm ids →
        SamePage (perform options a (h.selecting ids)).2.2.document (perform options a (h.selecting ids')).2.2.document :=
  ⟨fun _ ha ht => deletion_of_delete hr hf options ha ht, fun _ ha hids =>
    ⟨deletion_of_deleteSelection hr hf options ha hids, fun _ hperm => samePage_of_perm hr hf options ha hids hperm⟩⟩

end Deletion

/-- A rectangle in a frame, and one beside it. -/
def framed : Host :=
  ((runActions {} [⟨"create_frame", [("name", .str "desk")], .null⟩,
    ⟨"create_rectangle", [("parentId", .str "1:1")], .null⟩, ⟨"create_rectangle", [], .null⟩]).run {}).2

/-- The frame goes with the rectangle in it, be it named, or selected before or after the rectangle. -/
theorem framed_deleted :
    framed.document.all = [0, 1, 2] ∧
      Deletion (fun x => framed.document.Under (.layer x) (.layer 0)) framed (perform {} ⟨"delete", [], .str "1:1"⟩ framed) ∧
      (perform {} ⟨"delete", [], .str "1:1"⟩ framed).2.2.document.all = [2] ∧
      Deletion (framed.document.Among [1, 0]) (framed.selecting [1, 0]) (perform {} ⟨"delete_selection", [], .null⟩ (framed.selecting [1, 0])) ∧
      SamePage (perform {} ⟨"delete_selection", [], .null⟩ (framed.selecting [1, 0])).2.2.document
        (perform {} ⟨"delete_selection", [], .null⟩ (framed.selecting [0, 1])).2.2.document := by
  have hreach : Reaches (fun _ _ => True) {} framed := runActions_reaches {} _ {}
  have hr : Reachable framed := ⟨{}, ⟨"Page 1", false, rfl⟩, hreach⟩
  have hf : Fair framed := Host.fair_of_none (hreach.rel Host.stepwise_faults)
  obtain ⟨hnamed, -⟩ := deletion_exact hr hf {} ⟨"delete", [], .str "1:1"⟩
  obtain ⟨-, hselected⟩ := deletion_exact hr hf {} ⟨"delete_selection", [], .null⟩
  obtain ⟨hdeleted, horder⟩ := hselected [1, 0] (by decide +kernel) (by decide +kernel)
  exact ⟨by decide +kernel, hnamed 0 (by decide +kernel) (by decide +kernel), by decide +kernel, hdeleted,
    horder [0, 1] (.swap 1 0 [])⟩

end Execution

end Easel
