import Easel.Proofs.Lookup

/-!
When a piece of a name, letter for letter, finds the layer. The letters of a piece have one lower case wherever the piece stands, but for
a capital sigma: it is final or not by what stands around it, and so it can be final in the piece and not in the name, or the other way
round. This takes a sigma with no letter before it or none after it in the piece.
-/

namespace Easel

namespace Text

variable {s l p r u v before before' after after' : List Char} {c : Char}

/-- Whether a capital sigma is final, between `before`, read backwards, and `after`. -/
def isFinal (before after : List Char) : Bool := startsCased before && !startsCased after

def lowerAt (before after : List Char) (c : Char) : List Char :=
  if c = capitalSigma then [lowerSigma before after]
  else if c = 'İ' then ['i', '\u0307']
  else [lowerChar c]

/-- The lower case of a piece that stands between `before`, read backwards, and `after`. -/
def lowerWithin (before after : List Char) : List Char → List Char
  | [] => []
  | c :: rest => lowerAt before (rest ++ after) c ++ lowerWithin (c :: before) after rest

/-- A capital sigma of the piece `p` is final only by itself or only between `l` and `r`. -/
def Turns (l p r : List Char) : Prop :=
  ∃ u v, p = u ++ capitalSigma :: v ∧ isFinal (u.reverse ++ l.reverse) (v ++ r) ≠ isFinal u.reverse v

theorem lowerFrom_append (before p r : List Char) :
    lowerFrom before (p ++ r) = lowerWithin before r p ++ lowerFrom (p.reverse ++ before) r := by
  induction p generalizing before with
  | nil => rfl
  | cons c p ih =>
    rw [List.cons_append, lowerFrom, ih, lowerWithin, List.reverse_cons, List.append_assoc, List.append_assoc]
    rfl

theorem lower_eq (s : List Char) : lower s = lowerWithin [] [] s := by
  have h := lowerFrom_append [] s []
  rwa [List.append_nil, lowerFrom, List.append_nil] at h

theorem length_lowerAt : (lowerAt before after c).length = (lowerAt before' after' c).length := by
  unfold lowerAt
  split
  · rfl
  · split <;> rfl

theorem lowerAt_sigma : lowerAt before after capitalSigma = lowerAt before' after' capitalSigma ↔
    isFinal before after = isFinal before' after' := by
  have hsigma (before after : List Char) :
      lowerAt before after capitalSigma = [if isFinal before after then 'ς' else 'σ'] := if_pos rfl
  rw [hsigma, hsigma]
  cases isFinal before after <;> cases isFinal before' after' <;> simp

theorem lowerAt_of_ne (hc : c ≠ capitalSigma) : lowerAt before after c = lowerAt before' after' c := by
  rw [lowerAt, lowerAt, if_neg hc, if_neg hc]

/-- What stands around a piece makes a difference to its capital sigmas and to nothing else. -/
theorem lowerWithin_eq_iff : lowerWithin before after s = lowerWithin before' after' s ↔
    ∀ u v, s = u ++ capitalSigma :: v →
      isFinal (u.reverse ++ before) (v ++ after) = isFinal (u.reverse ++ before') (v ++ after') := by
  induction s generalizing before before' with
  | nil => simp [lowerWithin]
  | cons c s ih =>
    have happend : ∀ t t', lowerAt before (s ++ after) c ++ t = lowerAt before' (s ++ after') c ++ t' ↔
        lowerAt before (s ++ after) c = lowerAt before' (s ++ after') c ∧ t = t' := fun t t' =>
      ⟨fun h => List.append_inj h length_lowerAt, fun h => by rw [h.1, h.2]⟩
    rw [lowerWithin, lowerWithin, happend, ih]
    constructor
    · intro ⟨hhead, hrest⟩ u v hs
      obtain ⟨rfl, he⟩ | ⟨u, rfl, he⟩ := List.cons_eq_append_iff.1 hs
      · obtain ⟨rfl, rfl⟩ := List.cons.inj he
        exact lowerAt_sigma.1 hhead
      · simpa using hrest u v he
    · intro h
      refine ⟨?_, fun u v he => by simpa using h (c :: u) v (by rw [he, List.cons_append])⟩
      by_cases hc : c = capitalSigma
      · subst hc
        exact lowerAt_sigma.2 (h [] s rfl)
      · exact lowerAt_of_ne hc

theorem lowerWithin_eq_lower_iff : lowerWithin l.reverse r p = lower p ↔ ¬Turns l p r := by
  rw [lower_eq, lowerWithin_eq_iff]
  simp [Turns]

/-- In the lower case of a text each of its pieces has its place. -/
theorem lower_around (l p r : List Char) : ∃ l' r', lower (l ++ (p ++ r)) = l' ++ (lowerWithin l.reverse r p ++ r') := by
  refine ⟨lowerWithin [] (p ++ r) l, lowerFrom (p.reverse ++ l.reverse) r, ?_⟩
  rw [lower, lowerFrom_append, List.append_nil, lowerFrom_append]

theorem startsCased_append (h : ∃ c ∈ s, isCaseIgnorable c = false) : startsCased (s ++ p) = startsCased s := by
  induction s with
  | nil => simp at h
  | cons c s ih =>
    rw [List.cons_append, startsCased, startsCased, List.dropWhile_cons, List.dropWhile_cons]
    cases hc : isCaseIgnorable c with
    | false => rfl
    | true => exact ih (by simpa [hc] using h)

/-- A sigma with a letter or the like on either side in the piece is the same in the piece and around it. -/
theorem Turns.edge (h : Turns l p r) :
    ∃ u v, p = u ++ capitalSigma :: v ∧ ((∀ c ∈ u, isCaseIgnorable c) ∨ ∀ c ∈ v, isCaseIgnorable c) := by
  obtain ⟨u, v, hp, hne⟩ := h
  refine ⟨u, v, hp, ?_⟩
  by_contra hno
  push Not at hno
  obtain ⟨⟨x, hx, hux⟩, y, hy, hvy⟩ := hno
  have hu : startsCased (u.reverse ++ l.reverse) = startsCased u.reverse :=
    startsCased_append ⟨x, List.mem_reverse.2 hx, Bool.not_eq_true _ ▸ hux⟩
  have hv : startsCased (v ++ r) = startsCased v := startsCased_append ⟨y, hy, Bool.not_eq_true _ ▸ hvy⟩
  exact hne (by rw [isFinal, isFinal, hu, hv])

end Text

namespace Lookup

open Host (Fair)
open Execution (Reachable Reaches runActions_reaches)

variable {h : Host} {id : LayerId} {piece : String} {l r : List Char}

theorem fits_iff (hname : (h.document.nameOf id).toList = l ++ (piece.toList ++ r)) (hne : piece ≠ "") :
    h.document.Fits piece id ↔ Text.lower piece.toList <:+: h.document.lowered id := by
  refine and_iff_right_of_imp fun _ hempty => hne ?_
  rw [hempty] at hname
  have hpiece : piece.toList = [] := (List.append_eq_nil_iff.1 (List.append_eq_nil_iff.1 hname.symm).2).1
  exact String.toList_inj.1 hpiece

/-- A layer is found for a piece of its name, as the two read in lower case. So it is wherever no sigma of the piece turns, and only a
sigma at an end of the piece can. -/
theorem piece_found_unless_turned (hr : Reachable h) (hf : Fair h) (hid : id ∈ h.document.all) (hne : piece ≠ "")
    (hin : piece.toList <:+: (h.document.nameOf id).toList) :
    ∃ ids, ((byName (.str piece)).run h).1 = .ok ids ∧
      (id ∈ ids ↔ Text.lower piece.toList <:+: h.document.lowered id) ∧
      (id ∉ ids → ∃ u v, piece.toList = u ++ Text.capitalSigma :: v ∧
        ((∀ c ∈ u, Text.isCaseIgnorable c) ∨ ∀ c ∈ v, Text.isCaseIgnorable c)) ∧
      ∀ l r, (h.document.nameOf id).toList = l ++ (piece.toList ++ r) →
        (¬Text.Turns l piece.toList r → id ∈ ids) ∧
        ∃ l' r', h.document.lowered id = l' ++ (Text.lowerWithin l.reverse r piece.toList ++ r') ∧
          (Text.lowerWithin l.reverse r piece.toList = Text.lower piece.toList ↔ ¬Text.Turns l piece.toList r) := by
  obtain ⟨ids, hids, -, -, hnamed, -⟩ := (finds_ranked hr hf).byName (.str piece)
  obtain ⟨l₀, r₀, hname⟩ : ∃ l r, (h.document.nameOf id).toList = l ++ (piece.toList ++ r) := by
    obtain ⟨l, r, hlr⟩ := hin
    exact ⟨l, r, by rw [← hlr, List.append_assoc]⟩
  have hmem : id ∈ ids ↔ Text.lower piece.toList <:+: h.document.lowered id := by
    rw [(hnamed piece rfl hne).1.mem_iff, fits_iff hname hne]
    exact and_iff_right hid
  have hplace (l r : List Char) (hlr : (h.document.nameOf id).toList = l ++ (piece.toList ++ r)) :
      ∃ l' r', h.document.lowered id = l' ++ (Text.lowerWithin l.reverse r piece.toList ++ r') := by
    rw [Document.lowered, hlr]
    exact Text.lower_around l piece.toList r
  have hkept (l r : List Char) (hlr : (h.document.nameOf id).toList = l ++ (piece.toList ++ r))
      (hturn : ¬Text.Turns l piece.toList r) : id ∈ ids := by
    obtain ⟨l', r', hlow⟩ := hplace l r hlr
    rw [Text.lowerWithin_eq_lower_iff.2 hturn, ← List.append_assoc] at hlow
    exact hmem.2 ⟨l', r', hlow.symm⟩
  refine ⟨ids, hids, hmem, fun hout => ?_, fun l r hlr => ⟨hkept l r hlr, ?_⟩⟩
  · apply Text.Turns.edge (l := l₀) (r := r₀)
    by_contra hturn
    exact hout (hkept l₀ r₀ hname hturn)
  · obtain ⟨l', r', hlow⟩ := hplace l r hlr
    exact ⟨l', r', hlow, Text.lowerWithin_eq_lower_iff⟩

/-- A rectangle whose name has a sigma between two letters. -/
def sigma : Host := ((Execution.runActions {} [⟨"create_rectangle", [("name", .str "ΑΣΑ")], .null⟩]).run {}).2

/-- The first two letters of the name, the second of which is final by itself, find nothing, and the last two find the layer. -/
theorem sigma_lost : Reachable sigma ∧ Fair sigma ∧ sigma.document.all = [0] ∧ sigma.document.nameOf 0 = "ΑΣΑ" ∧
    (∃ ids, ((byName (.str "ΑΣ")).run sigma).1 = .ok ids ∧ 0 ∉ ids) ∧
    ∃ ids, ((byName (.str "ΣΑ")).run sigma).1 = .ok ids ∧ 0 ∈ ids := by
  have hreach : Reaches (fun _ _ => True) {} sigma := runActions_reaches {} _ {}
  have hr : Reachable sigma := ⟨{}, ⟨"Page 1", false, rfl⟩, hreach⟩
  have hf : Fair sigma := Host.fair_of_none (hreach.rel Host.stepwise_faults)
  have hall : sigma.document.all = [0] := by decide +kernel
  have hname : sigma.document.nameOf 0 = "ΑΣΑ" := by decide +kernel
  have hid : 0 ∈ sigma.document.all := by rw [hall]; decide
  refine ⟨hr, hf, hall, hname, ?_, ?_⟩
  · have hne : "ΑΣ" ≠ "" := by decide
    have hin : "ΑΣ".toList <:+: (sigma.document.nameOf 0).toList := by
      rw [hname]
      exact ⟨[], ['Α'], by decide⟩
    obtain ⟨ids, hids, hmem, -⟩ := piece_found_unless_turned hr hf hid hne hin
    refine ⟨ids, hids, fun hin => absurd (hmem.1 hin) ?_⟩
    rw [Document.lowered, hname]
    decide +kernel
  · have hne : "ΣΑ" ≠ "" := by decide
    have hin : "ΣΑ".toList <:+: (sigma.document.nameOf 0).toList := by
      rw [hname]
      exact ⟨['Α'], [], by decide⟩
    obtain ⟨ids, hids, hmem, -⟩ := piece_found_unless_turned hr hf hid hne hin
    refine ⟨ids, hids, hmem.2 ?_⟩
    rw [Document.lowered, hname]
    decide +kernel

end Lookup

end Easel
