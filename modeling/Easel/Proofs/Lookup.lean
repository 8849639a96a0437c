import Easel.Proofs.Execution.Targets
import Easel.Proofs.Text

/-!
What lookups find. A piece of a name finds the layers on the page with the piece in their names, whatever the case: first those of
just that name, then those whose names begin with it, then the others, the shorter names before the longer, and layers that tie as
they come on the page. There is one such list for each piece. A reference means the layer of that number if there is one, and else the
first on the list.
-/

namespace Easel

open Document

variable {d : Document} {piece : String} {v : Json} {ids : List Nat} {a b id : Nat}

namespace Document

/-- The name of a layer in lower case. -/
def lowered (d : Document) (id : LayerId) : List Char := Text.lower (d.nameOf id).toList

/-- The piece is all of the name. -/
def Named (d : Document) (piece : String) (id : LayerId) : Prop := d.lowered id = Text.lower piece.toList

def Begins (d : Document) (piece : String) (id : LayerId) : Prop := Text.lower piece.toList <+: d.lowered id

/-- The piece is in the name somewhere. No piece is in an empty name. -/
def Fits (d : Document) (piece : String) (id : LayerId) : Prop :=
  d.nameOf id ≠ "" ∧ Text.lower piece.toList <:+: d.lowered id

/-- Neither of two layers is named better than the other, but for the lengths of their names. -/
def Level (d : Document) (piece : String) (a b : LayerId) : Prop :=
  (d.Named piece a ↔ d.Named piece b) ∧ (d.Begins piece a ↔ d.Begins piece b)

/-- Why a layer comes before another one when both fit. -/
inductive Precedes (d : Document) (piece : String) (a b : LayerId) : Prop
  | named : d.Named piece a → ¬d.Named piece b → Precedes d piece a b
  | begins : d.Begins piece a → ¬d.Begins piece b → Precedes d piece a b
  | shorter : d.Level piece a b → (d.lowered a).length < (d.lowered b).length → Precedes d piece a b
  | earlier : d.Level piece a b → (d.lowered a).length = (d.lowered b).length → d.all.idxOf a < d.all.idxOf b →
    Precedes d piece a b

/-- All layers on the page that fit, each once, the best first. -/
structure Ranking (d : Document) (piece : String) (ids : List LayerId) : Prop where
  mem_iff : ∀ id, id ∈ ids ↔ id ∈ d.all ∧ d.Fits piece id
  nodup : ids.Nodup
  ordered : ids.Pairwise (d.Precedes piece)

instance : Decidable (d.Named piece id) := inferInstanceAs (Decidable (_ = _))

instance : Decidable (d.Begins piece id) := inferInstanceAs (Decidable (_ <+: _))

theorem Named.begins (h : d.Named piece id) : d.Begins piece id := by rw [Begins, h]

theorem Level.symm (h : d.Level piece a b) : d.Level piece b a := ⟨h.1.symm, h.2.symm⟩

theorem Precedes.asymm (h : d.Precedes piece a b) : ¬d.Precedes piece b a := by
  intro h'
  cases h with
  | named ha hb =>
    cases h' with
    | named hb' => exact hb hb'
    | begins _ ha' => exact ha' ha.begins
    | shorter hl | earlier hl => exact hb (hl.1.2 ha)
  | begins ha hb =>
    cases h' with
    | named hb' => exact hb hb'.begins
    | begins hb' => exact hb hb'
    | shorter hl | earlier hl => exact hb (hl.2.2 ha)
  | shorter hl hlt =>
    cases h' with
    | named hb ha => exact ha (hl.1.2 hb)
    | begins hb ha => exact ha (hl.2.2 hb)
    | shorter _ hlt' => omega
    | earlier _ he => omega
  | earlier hl he hlt =>
    cases h' with
    | named hb ha => exact ha (hl.1.2 hb)
    | begins hb ha => exact ha (hl.2.2 hb)
    | shorter _ hlt' => omega
    | earlier _ _ hlt' => omega

/-- The conditions leave no choice. -/
theorem Ranking.unique {ids' : List Nat} (h : d.Ranking piece ids) (h' : d.Ranking piece ids') : ids' = ids := by
  have hperm : ids'.Perm ids := (List.perm_ext_iff_of_nodup h'.nodup h.nodup).2 fun id => (h'.mem_iff id).trans (h.mem_iff id).symm
  exact hperm.eq_of_pairwise (fun a b _ _ hab hba => absurd hba hab.asymm) h'.ordered h.ordered

end Document

/-! ### Sorting -/

theorem idxOf_lt_of_sublist {l : List Nat} (hn : l.Nodup) (h : [a, b].Sublist l) : l.idxOf a < l.idxOf b := by
  induction l with
  | nil => cases h
  | cons x rest ih =>
    obtain ⟨hx, hrest⟩ := List.nodup_cons.1 hn
    cases h with
    | cons _ h =>
      have hne (y : Nat) (hy : y ∈ [a, b]) : x ≠ y := fun he => hx (he ▸ h.subset hy)
      rw [List.idxOf_cons_ne _ (hne a (by simp)), List.idxOf_cons_ne _ (hne b (by simp))]
      exact Nat.succ_lt_succ (ih hrest h)
    | cons_cons _ h =>
      have hne : a ≠ b := fun he => hx (he ▸ h.subset List.mem_cons_self)
      rw [List.idxOf_cons_self, List.idxOf_cons_ne _ hne]
      exact Nat.succ_pos _

theorem sublist_of_idxOf_lt {l : List Nat} (hb : b ∈ l) (h : l.idxOf a < l.idxOf b) : [a, b].Sublist l := by
  induction l with
  | nil => cases hb
  | cons x rest ih =>
    by_cases hxb : x = b
    · subst hxb
      rw [List.idxOf_cons_self] at h
      cases h
    have hb : b ∈ rest := (List.mem_cons.1 hb).resolve_left fun he => hxb he.symm
    by_cases hxa : x = a
    · subst hxa
      exact (List.singleton_sublist.2 hb).cons_cons x
    · rw [List.idxOf_cons_ne _ hxa, List.idxOf_cons_ne _ hxb] at h
      exact (ih hb (Nat.lt_of_succ_lt_succ h)).cons x

/-- Sorting leaves two items as they come if either may go first. -/
theorem sublist_of_mergeSort {l : List Nat} {le : Nat → Nat → Bool} (htrans : ∀ a b c, le a b → le b c → le a c)
    (htotal : ∀ a b, le a b || le b a) (hn : l.Nodup) (h : [a, b].Sublist (l.mergeSort le)) (hba : le b a) : [a, b].Sublist l := by
  have hsorted : (l.mergeSort le).Nodup := (List.mergeSort_perm l le).nodup_iff.2 hn
  have hmem (x : Nat) (hx : x ∈ [a, b]) : x ∈ l := List.mem_mergeSort.1 (h.subset hx)
  have hlt := idxOf_lt_of_sublist hsorted h
  by_contra hno
  -- The other way round they would have stayed, and nothing is twice in the list.
  have hback : [b, a].Sublist l := by
    refine sublist_of_idxOf_lt (hmem a (by simp)) (Nat.lt_of_le_of_ne (Nat.not_lt.1 fun hlt' => ?_) fun he => ?_)
    · exact hno (sublist_of_idxOf_lt (hmem b (by simp)) hlt')
    · rw [(List.idxOf_inj (hmem b (by simp))).1 he] at hlt
      exact Nat.lt_irrefl _ hlt
  have := idxOf_lt_of_sublist hsorted (List.pair_sublist_mergeSort htrans htotal hba hback)
  omega

namespace Lookup

theorem Rank.le_refl (r : Rank) : r.le r := by simp [Rank.le]

theorem Rank.le_trans (r s t : Rank) (h : r.le s) (h' : s.le t) : r.le t := by
  simp only [Rank.le, Bool.or_eq_true, Bool.and_eq_true, decide_eq_true_eq] at *
  omega

theorem Rank.le_total (r s : Rank) : r.le s || s.le r := by
  simp only [Rank.le, Bool.or_eq_true, Bool.and_eq_true, decide_eq_true_eq]
  omega

/-- The rank of a layer. -/
def key (d : Document) (piece : String) (id : LayerId) : Rank := rank (d.lowered id) (Text.lower piece.toList)

theorem key_of_named (h : d.Named piece id) : key d piece id = ⟨0, 0⟩ := if_pos h

theorem key_of_begins (h : ¬d.Named piece id) (hb : d.Begins piece id) : key d piece id = ⟨1, (d.lowered id).length⟩ := by
  exact (if_neg h).trans (if_pos (List.isPrefixOf_iff_prefix.2 hb))

theorem key_of_not_begins (hb : ¬d.Begins piece id) : key d piece id = ⟨2, (d.lowered id).length⟩ := by
  exact (if_neg fun h => hb (Named.begins h)).trans (if_neg fun h => hb (List.isPrefixOf_iff_prefix.1 h))

/-- Ranks tell which of two layers comes first, unless they are equal. -/
theorem precedes_of_key_le (hle : (key d piece a).le (key d piece b)) (htie : key d piece a = key d piece b → d.all.idxOf a < d.all.idxOf b) :
    d.Precedes piece a b := by
  by_cases ha : d.Named piece a <;> by_cases hb : d.Named piece b
  · refine .earlier ⟨iff_of_true ha hb, iff_of_true ha.begins hb.begins⟩ (congrArg List.length (ha.trans hb.symm)) (htie ?_)
    rw [key_of_named ha, key_of_named hb]
  · exact .named ha hb
  · by_cases ha' : d.Begins piece a
    · rw [key_of_begins ha ha', key_of_named hb] at hle
      cases hle
    · rw [key_of_not_begins ha', key_of_named hb] at hle
      cases hle
  have hnamed : d.Named piece a ↔ d.Named piece b := iff_of_false ha hb
  -- What is left is a matter of lengths, unless only one name begins with the piece.
  have hlengths (hl : d.Level piece a b) (hlen : (d.lowered a).length ≤ (d.lowered b).length)
      (heq : (d.lowered a).length = (d.lowered b).length → key d piece a = key d piece b) : d.Precedes piece a b := by
    obtain hlt | he := Nat.lt_or_eq_of_le hlen
    · exact .shorter hl hlt
    · exact .earlier hl he (htie (heq he))
  by_cases ha' : d.Begins piece a <;> by_cases hb' : d.Begins piece b
  · have hka := key_of_begins ha ha'
    have hkb := key_of_begins hb hb'
    rw [hka, hkb] at hle
    exact hlengths ⟨hnamed, iff_of_true ha' hb'⟩ (by simpa [Rank.le] using hle) fun he => by rw [hka, hkb, he]
  · exact .begins ha' hb'
  · rw [key_of_not_begins ha', key_of_begins hb hb'] at hle
    exact absurd hle (by simp [Rank.le])
  · have hka := key_of_not_begins ha'
    have hkb := key_of_not_begins hb'
    rw [hka, hkb] at hle
    exact hlengths ⟨hnamed, iff_of_false ha' hb'⟩ (by simpa [Rank.le] using hle) fun he => by rw [hka, hkb, he]

theorem matchesName_iff {name : String} {search : List Char} :
    matchesName search name = true ↔ name ≠ "" ∧ search <:+: Text.lower name.toList := by
  rw [matchesName, Bool.and_eq_true, Text.occurs_iff]
  simp

def keyLe (d : Document) (piece : String) (a b : LayerId) : Bool := (key d piece a).le (key d piece b)

theorem keyLe_trans (a b c : LayerId) : keyLe d piece a b → keyLe d piece b c → keyLe d piece a c := Rank.le_trans _ _ _

theorem keyLe_total (a b : LayerId) : keyLe d piece a b || keyLe d piece b a := Rank.le_total _ _

theorem ranked_eq (d : Document) (ids : List LayerId) (piece : String) : ranked d ids piece =
    (ids.filter fun id => matchesName (Text.lower piece.toList) (d.nameOf id)).mergeSort (keyLe d piece) := rfl

/-- What is sorted by rank is in order, and layers of one rank are as they come on the page. -/
theorem ranking_ranked (hn : d.all.Nodup) : d.Ranking piece (ranked d d.all piece) where
  mem_iff id := by
    rw [ranked_eq, List.mem_mergeSort, List.mem_filter, matchesName_iff]
    rfl
  nodup := nodup_ranked hn
  ordered := by
    rw [ranked_eq, List.pairwise_iff_forall_sublist]
    intro a b hab
    have hle : keyLe d piece a b := List.pairwise_iff_forall_sublist.1 (List.pairwise_mergeSort keyLe_trans keyLe_total _) hab
    refine precedes_of_key_le hle fun htie => ?_
    have hge : keyLe d piece b a := by rw [keyLe, htie]; exact Rank.le_refl _
    exact idxOf_lt_of_sublist hn ((sublist_of_mergeSort keyLe_trans keyLe_total (hn.filter _) hab hge).trans List.filter_sublist)

/-! ### Calls -/

open Host (Fair Completes)
open Execution (Reachable Reaches runActions_reaches)

variable {h : Host}

theorem byName_completes (v : Json) : Completes (fun d' => d' = d) (byName v) fun ids d' =>
    d' = d ∧ ids = ((wanted? v).map (ranked d d.all)).getD [] := by
  unfold byName
  split
  · rename_i hw
    refine .pure fun d' hd => ⟨hd, ?_⟩
    rw [hw]
    rfl
  · rename_i piece hw
    refine .bind .listed fun ids => .bind .view fun d₁ => .pure ?_
    rintro d' ⟨⟨rfl, rfl⟩, rfl⟩
    rw [hw]
    exact ⟨rfl, rfl⟩

theorem target_completes (v : Json) : Completes (fun d' => d' = d) (target v) fun found d' => d' = d ∧ found = d.targeted v := by
  cases hw : wanted? v with
  | some ref =>
    refine (Completes.targeted hw).mono (fun _ hd => hd) fun found d' hd => ⟨hd.1, ?_⟩
    obtain ⟨rfl, rfl⟩ := hd
    rw [targeted, hw]
    rfl
  | none =>
    have hid : byId v = pure none := by rw [byId, hw]
    have hname : byName v = pure [] := by rw [byName, hw]
    rw [target, hid, hname]
    refine .pure fun d' hd => ⟨hd, ?_⟩
    rw [targeted, hw]
    rfl

/-- What a program that comes to its end on a fair host answers. -/
theorem run_of_completes {α : Type} {m : HostM α} {Q : α → Document → Prop} (hf : Fair h)
    (hm : Completes (fun d => d = h.document) m Q) : ∃ a, (m.run h).1 = .ok a ∧ Q a (m.run h).2.document := by
  have hrun := hm h ⟨hf, rfl⟩
  rcases hr : m.run h with ⟨e | a, h'⟩ <;> rw [hr] at hrun
  · exact hrun.elim
  · exact ⟨a, rfl, hrun.2⟩

theorem wanted?_eq_some : wanted? v = some piece ↔ v = .str piece ∧ piece ≠ "" := by
  cases v with
  | str s => simp [wanted?, Json.string?, Option.filter_eq_some_iff]
  | _ => simp [wanted?, Json.string?]

/-- What lookups answer on a page, which is listed from the top, each layer before those in it. -/
structure Finds (h : Host) : Prop where
  page : h.document.Visits h.document.pageChildren h.document.all
  byName : ∀ v, ∃ ids, ((byName v).run h).1 = .ok ids ∧ ((byName v).run h).2.document = h.document ∧
    (∀ id ∈ ids, id ∈ h.document.all ∧ h.document.isRemoved id = false) ∧
    (∀ piece, v = .str piece → piece ≠ "" →
      h.document.Ranking piece ids ∧ ∀ ids', h.document.Ranking piece ids' → ids' = ids) ∧
    ((∀ piece, v = .str piece → piece = "") → ids = [])
  /-- Numbers count before names. -/
  target : ∀ v, ∃ found, ((target v).run h).1 = .ok found ∧ ((target v).run h).2.document = h.document ∧
    (∀ id, found = some id → id ∈ h.document.all ∧ h.document.isRemoved id = false) ∧
    (∀ id ∈ h.document.all, v = .str (LayerId.text id) → found = some id) ∧
    ((∀ id ∈ h.document.all, v ≠ .str (LayerId.text id)) →
      ∃ ids, ((Lookup.byName v).run h).1 = .ok ids ∧ found = ids.head?)

/-- On every document that batches leave, a piece of a name finds the layers with the piece in their names in the one order that ranks
and the page give, and a reference finds the layer of that number, or else the first of these. -/
theorem finds_ranked (hr : Reachable h) (hf : Fair h) : Finds h := by
  have hs := hr.sound
  have hlive (id : LayerId) (hid : id ∈ h.document.all) : id ∈ h.document.all ∧ h.document.isRemoved id = false :=
    ⟨hid, hs.live_of_onPage ((mem_all hs.linked).1 hid)⟩
  refine ⟨visits_all hs.linked, fun v => ?_, fun v => ?_⟩
  · obtain ⟨ids, hids, hd, rfl⟩ := run_of_completes hf (byName_completes v)
    refine ⟨_, hids, hd, fun id hid => hlive id ?_, ?_, fun hno => ?_⟩
    · cases hw : wanted? v with
      | none => rw [hw] at hid; cases hid
      | some piece => rw [hw] at hid; exact mem_ranked hid
    · rintro piece rfl hne
      rw [wanted?_eq_some.2 ⟨rfl, hne⟩]
      have hranking : h.document.Ranking piece (ranked h.document h.document.all piece) := ranking_ranked (nodup_all hs.linked)
      exact ⟨hranking, fun ids' h' => hranking.unique h'⟩
    · have hw : wanted? v = none := Option.eq_none_iff_forall_ne_some.2 fun piece hw =>
        (wanted?_eq_some.1 hw).2 (hno piece (wanted?_eq_some.1 hw).1)
      rw [hw]
      rfl
  · obtain ⟨found, hfound, hd, rfl⟩ := run_of_completes hf (target_completes v)
    refine ⟨_, hfound, hd, fun id hid => hlive id (mem_targeted hid), ?_, fun hno => ?_⟩
    · rintro id hid rfl
      exact targeted_text hid
    · obtain ⟨ids, hids, -, rfl⟩ := run_of_completes hf (byName_completes v)
      refine ⟨_, hids, ?_⟩
      rw [targeted]
      cases hw : wanted? v with
      | none => rfl
      | some ref =>
        have hnone : h.document.all.find? (LayerId.text · = ref) = none := by
          refine List.find?_eq_none.2 fun id hid he => hno id hid ?_
          rw [(wanted?_eq_some.1 hw).1, of_decide_eq_true he]
        rw [Option.bind_some, referred, hnone]
        rfl

/-- Three rectangles, the second of which has the number that the name of the first begins with. -/
def icons : Host :=
  ((Execution.runActions {} [⟨"create_rectangle", [("name", .str "1:2 icon")], .null⟩,
    ⟨"create_rectangle", [("name", .str "Iconic")], .null⟩, ⟨"create_rectangle", [("name", .str "ICON")], .null⟩]).run {}).2

theorem icons_found : Reachable icons ∧ Fair icons ∧ ((byName (.str "icon")).run icons).1 = .ok [2, 1, 0] ∧
    ((target (.str "1:2")).run icons).1 = .ok (some 1) := by
  have hreach : Reaches (fun _ _ => True) {} icons := runActions_reaches {} _ {}
  have hr : Reachable icons := ⟨{}, ⟨"Page 1", false, rfl⟩, hreach⟩
  have hf : Fair icons := Host.fair_of_none (hreach.rel Host.stepwise_faults)
  have hall : icons.document.all = [0, 1, 2] := by decide +kernel
  have hfits : ∀ id ∈ [0, 1, 2], icons.document.Fits "icon" id := by
    have hmatches : [0, 1, 2].all (fun id => matchesName (Text.lower "icon".toList) (icons.document.nameOf id)) = true := by
      decide +kernel
    exact fun id hid => matchesName_iff.1 (List.all_eq_true.1 hmatches id hid)
  have hranking : icons.document.Ranking "icon" [2, 1, 0] := by
    refine ⟨fun id => ?_, by decide, ?_⟩
    · rw [hall, (by decide : [2, 1, 0].Perm [0, 1, 2]).mem_iff]
      exact (and_iff_left_of_imp (hfits id)).symm
    · refine .cons ?_ (.cons ?_ (.cons nofun .nil))
      · intro id hid
        refine .named (by decide +kernel) ?_
        obtain rfl | rfl : id = 1 ∨ id = 0 := by simpa using hid
        · decide +kernel
        · decide +kernel
      · intro id hid
        obtain rfl := List.mem_singleton.1 hid
        exact .begins (by decide +kernel) (by decide +kernel)
  have hfinds := finds_ranked hr hf
  obtain ⟨ids, hids, -, -, hnamed, -⟩ := hfinds.byName (.str "icon")
  obtain ⟨found, hfound, -, -, hnumber, -⟩ := hfinds.target (.str "1:2")
  obtain rfl : [2, 1, 0] = ids := (hnamed "icon" rfl (by decide)).2 _ hranking
  obtain rfl : found = some 1 := hnumber 1 (by rw [hall]; decide) rfl
  exact ⟨hr, hf, hids, hfound⟩

end Lookup

end Easel
