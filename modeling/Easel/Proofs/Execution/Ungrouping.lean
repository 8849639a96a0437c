import Easel.Proofs.Document.Splicing
import Easel.Proofs.Execution.Placement
import Easel.Proofs.Execution.Targets

/-!
What ungrouping dissolves: the live groups that are selected, in whatever order and however they are nested. All that is on the page
stays there but for these groups. Off the page, where groups can hang on each other in a round, a round that is selected as a whole
takes with it what hangs on it; no action selects one.
-/

namespace Easel

open Document

variable {gone : Nat → Prop} {d : Document} {nodes : List Node} {id x : Nat} {ids : List LayerId}

namespace Document

/-- A live group of `ids`. -/
def LiveGroup (d : Document) (ids : List LayerId) (x : LayerId) : Prop :=
  x ∈ ids ∧ d.kindOf x = some .group ∧ d.isRemoved x = false

theorem lt_of_kindOf {k : Kind} (h : d.kindOf x = some k) : x < d.layers.length := by
  by_contra hx
  rw [kindOf, layer?, List.getElem?_eq_none (Nat.le_of_not_lt hx)] at h
  cases h

/-- A live group that hangs nowhere is not left by any action. -/
theorem AllPlaced.opened_iff (hp : d.AllPlaced) : d.Opened ids x ↔ d.LiveGroup ids x := by
  refine and_congr_right fun _ => and_congr_right fun hk => and_iff_left_of_imp fun hlive => ?_
  refine (hp x (lt_of_kindOf hk)).placed.resolve_left fun hr => ?_
  exact Bool.false_ne_true (hlive.symm.trans hr)

theorem adrift_select : ({ d with selection := nodes } : Document).Adrift gone x ↔ d.Adrift gone x :=
  exists_congr fun _ => and_congr under_select (forall_congr' fun _ => imp_congr_left under_select)

/-- Of the selected layers only those that are live count. -/
theorem opened_live : ({ d with selection := nodes } : Document).Opened (ids.filter fun id => !d.isRemoved id) x ↔ d.Opened ids x := by
  have hlive : x ∈ ids.filter (fun id => !d.isRemoved id) ↔ x ∈ ids ∧ d.isRemoved x = false := by simp
  constructor
  · rintro ⟨hx, hk, hr, hp⟩
    exact ⟨(hlive.1 hx).1, hk, hr, hp⟩
  · rintro ⟨hx, hk, hr, hp⟩
    exact ⟨hlive.2 ⟨hx, hr⟩, hk, hr, hp⟩

end Document

namespace Host.Completes

theorem ungroup_group (hlive : d.isRemoved id = false) (hk : ∀ l, d.layer? id = some l → l.kind = .group) :
    Completes (fun d' => d' = d) (Host.ungroup id) fun _ d' => d' = d.ungrouped id := by
  refine .bind (.enter (by decide)) fun _ => .bind .view fun d' => .intro ?_
  rintro d' ⟨rfl, rfl⟩
  split
  · rename_i hl
    refine .pure fun _ h => h.trans (ungrouped_eq_self fun hg => ?_).symm
    rw [kindOf, hl] at hg
    cases hg.1
  · rename_i l hl
    have hkind : d'.kindOf id = some .group := by rw [kindOf, hl, Option.map_some, hk l hl]
    have hparent : d'.parentOf id = l.parent := by rw [parentOf, hl]; rfl
    simp only [hk l hl, ne_eq, not_true_eq_false, if_false]
    split
    · rename_i hp
      exact .pure fun _ h => h.trans (ungrouped_eq_self fun hg => hg.2.2 (hparent.trans hp)).symm
    · rename_i p hp
      rw [ungrouped_eq_dissolve hkind hlive (hparent.trans hp)]
      have hedit : Completes (fun d => d = d') (Host.edit (·.dissolve id p)) fun _ d => d = d'.dissolve id p := .edit fun _ h => by rw [h]
      exact .bind hedit fun _ => .pure fun _ h => h

end Host.Completes

namespace Execution

open Host (Fair)

variable {options : ExecutionOptions} {a : Action} {h : Host}

/-- One of the selected layers is dissolved if it is a live group, and left alone if not. -/
theorem completes_ungroupOne (d : Document) (id : LayerId) : Completes (fun d' => d' = d) (do
    if (← lookOf id).kind = .group then
      ifAlive id do
        let _ ← Host.ungroup id) fun _ d' => d' = d.ungrouped id := by
  refine .bind .lookOf fun look => .intro ?_
  rintro d' ⟨rfl, hlook⟩
  have hkind (l : Layer) (hl : d'.layer? id = some l) : look.kind = l.kind := by
    rw [hlook, hl]
    rfl
  split
  · rename_i hk
    by_cases hr : d'.isRemoved id = true
    · rw [ungrouped_eq_self fun hg => Bool.false_ne_true (hg.2.1.symm.trans hr)]
      exact .ifAlive_removed hr
    · have hlive : d'.isRemoved id = false := Bool.eq_false_iff.2 hr
      refine .ifAlive_live hlive (.bind (.call (.ungroup_group hlive fun l hl => ?_)) fun _ => .pure fun _ h => h)
      rw [← hkind l hl, hk]
  · rename_i hk
    rw [ungrouped_eq_self fun hg => hk ?_]
    · exact .pure fun _ h => h
    · obtain ⟨l, hl, hg⟩ := Option.map_eq_some_iff.1 hg.1
      rw [hkind l hl, hg]

theorem completes_ungroup (hids : d.liveSelection? = some ids) : Completes (fun d' => d' = d) ungroupSelection
    fun _ d' => d' = ids.foldl ungrouped { d with selection := ids.map .layer } := by
  refine .bind (.call (.getSelection hids)) fun found => .intro ?_
  rintro d' ⟨rfl, rfl⟩
  exact .forM (fun d id => completes_ungroupOne d id) found

/-- An action has dissolved the groups of `gone`: they are passed over in the list of the page and marked, together with what was adrift
when they were gone; what is left hangs on what is left as it did, and no layer looks different. -/
structure Ungrouping (gone : LayerId → Prop) (h : Host) (result : Outcome × List Event × Host) : Prop where
  succeeded : result.1 = .succeeded
  listed : result.2.2.document.all = spare gone h.document.all
  removed : ∀ x, result.2.2.document.isRemoved x = true ↔
    h.document.isRemoved x = true ∨ gone x ∨ h.document.Adrift gone x
  under : ∀ n m, Stays gone n → Stays gone m → (result.2.2.document.Under n m ↔ h.document.Under n m)
  looks : result.2.2.document.looks = h.document.looks
  beside : result.2.2.document.beside = { h.document.beside with selection := result.2.2.document.selection }

section Ungrouping

variable (hr : Reachable h) (hf : Fair h)

include hr hf

/-- The document with the live groups among the selected layers dissolved. -/
theorem flattened_of_ungroup (options : ExecutionOptions) (ha : opOf? a = some .ungroup) (ids : List LayerId) :
    let live := ids.filter fun id => !h.document.isRemoved id
    let result := perform options a (h.selecting ids)
    result.1 = .succeeded ∧
      ({ h.document with selection := live.map .layer } : Document).Flattened (h.document.LiveGroup ids) result.2.2.document := by
  intro live result
  have hs : h.document.Sound := hr.sound
  have hlive : (h.selecting ids).document.liveSelection? = some live := liveSelection_layers ids
  have hf' : Fair (h.selecting ids) := hf
  obtain ⟨hok, -, hd⟩ := perform_completes options hf' ha (completes_ungroup hlive)
  have hflat := flattened_ungroupAll (d := { h.document with selection := live.map .layer }) hs.linked hs.alike live
  exact ⟨hok, hd ▸ hflat.congr fun x => opened_live.trans (hr.allPlaced hf).opened_iff⟩

theorem ungrouping_of_selecting (options : ExecutionOptions) (ha : opOf? a = some .ungroup) (ids : List LayerId) :
    Ungrouping (h.document.LiveGroup ids) (h.selecting ids) (perform options a (h.selecting ids)) := by
  have hl : h.document.Linked := hr.sound.linked
  obtain ⟨hok, hflat⟩ := flattened_of_ungroup hr hf options ha ids
  refine ⟨hok, ?_, fun x => ?_, fun n m hn hm => (hflat.under n m hn hm).trans ?_, hflat.looks, ?_⟩
  · rw [hflat.listed, all_select hl]
    exact congrArg _ (all_select hl).symm
  · exact (hflat.removed x).trans (or_congr_right (or_congr_right (adrift_select.trans adrift_select.symm)))
  · exact under_select.trans under_select.symm
  · rw [selection_of_beside hflat.beside, hflat.beside]
    rfl

/-- The order of the selection makes no difference to what is listed and what is removed. -/
theorem ungrouping_perm (options : ExecutionOptions) (ha : opOf? a = some .ungroup) {ids' : List LayerId} (hperm : ids'.Perm ids) :
    (perform options a (h.selecting ids')).2.2.document.all = (perform options a (h.selecting ids)).2.2.document.all ∧
      ∀ x, (perform options a (h.selecting ids')).2.2.document.isRemoved x =
        (perform options a (h.selecting ids)).2.2.document.isRemoved x := by
  have hsame : h.document.LiveGroup ids' = h.document.LiveGroup ids := by
    funext x
    rw [LiveGroup, LiveGroup, hperm.mem_iff]
  have hu := ungrouping_of_selecting hr hf options ha ids
  have hu' := ungrouping_of_selecting hr hf options ha ids'
  rw [hsame] at hu'
  have hall : (h.selecting ids').document.all = (h.selecting ids).document.all :=
    (all_select hr.sound.linked).trans (all_select hr.sound.linked).symm
  refine ⟨by rw [hu'.listed, hu.listed, hall], fun x => ?_⟩
  rw [Bool.eq_iff_iff, hu'.removed, hu.removed]
  exact or_congr_right (or_congr_right (adrift_select.trans adrift_select.symm))

omit hf in
/-- What is on the page, or was selected by actions, is on no round that is selected as a whole. -/
theorem not_adrift (hids : ∀ id ∈ ids, h.document.OnPage id ∨ h.document.Chosen id ∨ h.document.isRemoved id = true) (x : Nat) :
    ¬h.document.Adrift (h.document.LiveGroup ids) x := by
  rintro ⟨g, -, hall⟩
  have hgone : h.document.LiveGroup ids g := not_not.1 (hall (.layer g) .refl)
  have hoff : ¬h.document.OnPage g := fun hpage => hall .page hpage trivial
  -- A layer that is chosen off the page hangs on one that is not.
  have hchosen (y : Nat) (hy : h.document.LiveGroup ids y) (hyp : ¬h.document.OnPage y) : h.document.Chosen y := by
    obtain hpage | hc | hr := hids y hy.1
    · exact absurd hpage hyp
    · exact hc
    · exact absurd (hy.2.2.symm.trans hr) Bool.false_ne_true
  -- Actions leave the chosen layers all on the page, or none of them on a chosen one.
  obtain ht | ht := hr.sound.together
  · exact hoff (ht g (hchosen g hgone hoff))
  · obtain ⟨-, p, hp, hsel⟩ := ht g (hchosen g hgone hoff)
    have hp' : ¬Stays (h.document.LiveGroup ids) p := hall p (.step hp .refl)
    cases p with
    | page => exact hp' trivial
    | layer y => exact hsel (hchosen y (not_not.1 hp') fun hy => hoff (.step hp hy)).1

/-- Ungrouping dissolves the live groups that are selected, whatever they are and in whatever order: the page is listed as before but
for them. They are all that is removed unless a selected group hangs on nothing but selected groups, and neither what is on the page nor
what actions select is such a group. -/
theorem ungrouping_exact (ha : opOf? a = some .ungroup) (options : ExecutionOptions) (ids : List LayerId) :
    Ungrouping (h.document.LiveGroup ids) (h.selecting ids) (perform options a (h.selecting ids)) ∧
      (∀ ids', ids'.Perm ids →
        (perform options a (h.selecting ids')).2.2.document.all = (perform options a (h.selecting ids)).2.2.document.all ∧
          ∀ x, (perform options a (h.selecting ids')).2.2.document.isRemoved x =
            (perform options a (h.selecting ids)).2.2.document.isRemoved x) ∧
      ((∀ id ∈ ids, h.document.OnPage id ∨ h.document.Chosen id ∨ h.document.isRemoved id = true) →
        ∀ x, (perform options a (h.selecting ids)).2.2.document.isRemoved x = true ↔
          h.document.isRemoved x = true ∨ h.document.LiveGroup ids x) := by
  have hu := ungrouping_of_selecting hr hf options ha ids
  refine ⟨hu, fun _ hperm => ungrouping_perm hr hf options ha hperm, fun hids x => ?_⟩
  refine (hu.removed x).trans (or_congr_right (or_iff_left fun hadrift => ?_))
  exact not_adrift hr hids x (adrift_select.1 hadrift)

end Ungrouping

/-- Two rectangles in a group that is in a group, together with a third one. -/
def groupedTwice : Host :=
  ((runActions {} [⟨"create_rectangle", [], .null⟩, ⟨"create_rectangle", [], .null⟩, ⟨"select_all", [], .null⟩, ⟨"group", [], .null⟩,
    ⟨"create_rectangle", [], .null⟩, ⟨"select_all", [], .null⟩, ⟨"group", [], .null⟩]).run {}).2

/-- Both groups go, whichever was selected first, and nothing else does. -/
theorem groupedTwice_ungrouped :
    groupedTwice.document.all = [4, 2, 0, 1, 3] ∧
      (perform {} ⟨"ungroup", [], .null⟩ (groupedTwice.selecting [4, 2])).2.2.document.all = [0, 1, 3] ∧
      (perform {} ⟨"ungroup", [], .null⟩ (groupedTwice.selecting [2, 4])).2.2.document.all =
        (perform {} ⟨"ungroup", [], .null⟩ (groupedTwice.selecting [4, 2])).2.2.document.all ∧
      ∀ x, (perform {} ⟨"ungroup", [], .null⟩ (groupedTwice.selecting [4, 2])).2.2.document.isRemoved x = true ↔
        groupedTwice.document.isRemoved x = true ∨ groupedTwice.document.LiveGroup [4, 2] x := by
  have hreach : Reaches (fun _ _ => True) {} groupedTwice := runActions_reaches {} _ {}
  have hr : Reachable groupedTwice := ⟨{}, ⟨"Page 1", false, rfl⟩, hreach⟩
  have hf : Fair groupedTwice := Host.fair_of_none (hreach.rel Host.stepwise_faults)
  have ha : opOf? ⟨"ungroup", [], .null⟩ = some .ungroup := by decide +kernel
  have hall : groupedTwice.document.all = [4, 2, 0, 1, 3] := by decide +kernel
  have hpage : ∀ id ∈ ([4, 2] : List LayerId), groupedTwice.document.OnPage id ∨ groupedTwice.document.Chosen id ∨
      groupedTwice.document.isRemoved id = true := by
    intro id hid
    refine .inl ((mem_all hr.sound.linked).1 ?_)
    rw [hall]
    revert id
    decide
  obtain ⟨-, horder, hremoved⟩ := ungrouping_exact hr hf ha {} [4, 2]
  exact ⟨hall, by decide +kernel, (horder [2, 4] (.swap 4 2 [])).1, hremoved hpage⟩

end Execution

end Easel
