import Easel.Proofs.Document.Regrouping
import Easel.Proofs.Execution.Listing

/-!
Grouping some children of a container, and ungrouping them again. The group takes the place of the first of them; ungrouping
leaves them in that place, in the order in which they were named.
-/

namespace Easel.Host

open Document Execution

variable {h : Host} {d d' : Document} {p : Node} {first g : Nat} {rest before after ids : List Nat}

/-- Children of `p` are gathered in the group `g`, and nothing else has changed. -/
structure Gathered (d d' : Document) (p : Node) (g : LayerId) (before ids after : List LayerId) : Prop where
  siblings : d'.childrenOf p = around before [g] after ids
  gathered : d'.childrenOf (.layer g) = ids
  containers : ∀ c, c ≠ p → c ≠ .layer g → d'.childrenOf c = d.childrenOf c
  others : ∀ x, x ≠ g → x ∉ ids → .layer x ≠ p → d'.layer? x = d.layer? x

/-- Children of `p` are back where the group `g` was, the group is removed, and nothing else has changed. -/
structure Released (d d' : Document) (p : Node) (g : LayerId) (before ids after : List LayerId) : Prop where
  siblings : d'.childrenOf p = around before ids after ids
  removed : d'.isRemoved g = true
  returned : ∀ s ∈ ids, d'.isRemoved s = false ∧ d'.parentOf s = some p
  containers : ∀ c, c ≠ p → c ≠ .layer g → d'.childrenOf c = d.childrenOf c
  others : ∀ x, x ≠ g → .layer x ≠ p → d'.layer? x = d.layer? x

theorem looks_getElem? {x : Nat} {look : Look} (hx : x ≠ d.layers.length) : (d.looks ++ [look])[x]? = d.looks[x]? := by
  have hlen : d.looks.length = d.layers.length := List.length_map ..
  by_cases hlt : x < d.layers.length
  · rw [List.getElem?_append_left (by omega)]
  · rw [List.getElem?_eq_none (by simp; omega), List.getElem?_eq_none (by omega)]

theorem gathered_withGroup (look : Look) (h : d.Siblings p before after first rest) :
    Gathered d (d.withGroup look (first :: rest) p) p d.layers.length before (first :: rest) after where
  siblings := by rw [h.childrenOf_withGroup, if_neg h.group_ne.symm, if_pos rfl]
  gathered := h.children_group
  containers c hp hg := by rw [h.childrenOf_withGroup, if_neg hg, if_neg hp]
  others x hg hx hp := by
    refine layer?_eq ?_ ?_ ?_ h.isRemoved_withGroup
    · rw [looks_withGroup, looks_getElem? hg]
    · rw [h.parentOf_withGroup, if_neg hx, if_neg hg]
    · rw [h.childrenOf_withGroup, if_neg (by simpa using hg), if_neg hp]

theorem released_dissolve (look : Look) (h : d.Siblings p before after first rest) (hlive : ∀ s ∈ first :: rest, d.isRemoved s = false) :
    Released d ((d.withGroup look (first :: rest) p).dissolve d.layers.length p) p d.layers.length before (first :: rest) after where
  siblings := by rw [h.childrenOf_dissolve h.group_ne.symm, if_pos rfl]
  removed := h.isRemoved_dissolve.2 (.inr rfl)
  returned s hs := by
    have hne : s ≠ d.layers.length := Nat.ne_of_lt (h.lt hs)
    refine ⟨Bool.eq_false_iff.2 fun hr => ?_, by rw [h.parentOf_dissolve, if_neg hne, h.parent hs]⟩
    rcases h.isRemoved_dissolve.1 hr with hr | rfl
    · rw [hlive s hs] at hr
      cases hr
    · exact hne rfl
  containers c hp hg := by rw [h.childrenOf_dissolve hg, if_neg hp]
  others x hg hp := by
    refine layer?_eq ?_ ?_ ?_ ?_
    · rw [looks_dissolve, looks_withGroup, looks_getElem? hg]
    · rw [h.parentOf_dissolve, if_neg hg]
    · rw [h.childrenOf_dissolve (by simpa using hg), if_neg hp]
    · rw [Bool.eq_iff_iff, h.isRemoved_dissolve]
      simp [hg]

theorem ungroup_none (hq : h.faults = Faults.none) (hk : h.document.kindOf g = some .group) (hp : h.document.parentOf g = some p) :
    (Host.ungroup g).run h = (.ok (h.document.childrenOf (.layer g)),
      { h with document := h.document.dissolve g p, calls := h.calls + 1 }) := by
  obtain ⟨l, hl, hkind⟩ := Option.map_eq_some_iff.1 hk
  have hparent : l.parent = some p := by rwa [parentOf, hl] at hp
  have hchildren : h.document.childrenOf (.layer g) = l.children := by rw [childrenOf, hl]; rfl
  unfold Host.ungroup
  rw [run_bind_eq, enter_none hq]
  dsimp only
  rw [run_bind_eq, view_run]
  simp only [hl, hkind, hparent, hchildren]
  rfl

/-- Some children of a container, in any order, grouped and ungrouped: the group stands where the first of them stood among the
others, and they come back to that place, in their order. If they stood side by side in that order, all is as it was. -/
theorem group_ungroup (hq : h.faults = Faults.none) (hl : h.document.Linked) (hp : h.document.isContainer p)
    (hc : h.document.childrenOf p = before ++ first :: after) (hids : ids = first :: rest) (hn : ids.Nodup)
    (hmem : ∀ s ∈ ids, s ∈ h.document.childrenOf p ∧ h.document.isRemoved s = false) :
    ∃ h₁ h₂, (Host.group ids p).run h = (.ok h.document.layers.length, h₁) ∧
      (Host.ungroup h.document.layers.length).run h₁ = (.ok ids, h₂) ∧
      Gathered h.document h₁.document p h.document.layers.length before ids after ∧
      Released h.document h₂.document p h.document.layers.length before ids after ∧
      ∀ a b, h.document.childrenOf p = a ++ (ids ++ b) → ∀ c, c ≠ .layer h.document.layers.length →
        h₂.document.childrenOf c = h.document.childrenOf c := by
  subst hids
  have hs : h.document.Siblings p before after first rest := by
    refine ⟨hl, ?_, hc, hn, fun s hs => (hmem s hs).1⟩
    exact hl.has (hl.mem_iff.1 (hmem first List.mem_cons_self).1)
  have hreleased := released_dissolve (Look.initial .group) hs fun s hs => (hmem s hs).2
  have hungroup := ungroup_none (g := h.document.layers.length) (p := p) (h := { h with
    document := h.document.withGroup (Look.initial .group) (first :: rest) p
    calls := h.calls + 2 }) hq hs.kindOf_group hs.parent_group
  dsimp only at hungroup
  rw [hs.children_group] at hungroup
  refine ⟨_, _, group_none hq (List.cons_ne_nil _ _) hs.place hp, hungroup, gathered_withGroup _ hs, hreleased, ?_⟩
  intro a b hab c hcg
  by_cases hcp : c = p
  · rw [hcp, hreleased.siblings, hs.around_eq hab]
  · exact hreleased.containers c hcp hcg

/-- Three rectangles on the page. -/
def row : Host := ((runActions {} (List.replicate 3 ⟨"create_rectangle", [], .null⟩)).run {}).2

theorem row_regrouped : row.document.childrenOf .page = [0, 1, 2] ∧ ∃ h₁ h₂, (Host.group [2, 0] .page).run row = (.ok 3, h₁) ∧
    (Host.ungroup 3).run h₁ = (.ok [2, 0], h₂) ∧ h₁.document.childrenOf .page = [1, 3] ∧
    h₂.document.childrenOf .page = [1, 2, 0] := by
  have hchildren : row.document.childrenOf .page = [0, 1] ++ 2 :: [] := by decide +kernel
  have hlength : row.document.layers.length = 3 := by decide +kernel
  have hr : Reaches (fun _ _ => True) {} row := runActions_reaches {} (List.replicate 3 ⟨"create_rectangle", [], .null⟩) {}
  have hq : row.faults = Faults.none := hr.rel stepwise_faults
  have hs : row.document.Sound := hr.sound (blank_sound ⟨"Page 1", false, rfl⟩)
  have hmem : ∀ s ∈ [2, 0], s ∈ row.document.childrenOf .page ∧ row.document.isRemoved s = false := by decide +kernel
  obtain ⟨h₁, h₂, hgroup, hungroup, hgathered, hreleased, -⟩ :=
    group_ungroup hq hs.linked rfl hchildren rfl (by decide) hmem
  rw [hlength] at hgroup hungroup hgathered hreleased
  exact ⟨hchildren, h₁, h₂, hgroup, hungroup, hgathered.siblings, hreleased.siblings⟩

end Easel.Host
