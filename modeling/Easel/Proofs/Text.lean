import Easel.Text.Blank
import Easel.Text.Search
import Mathlib.Data.List.DropRight
import Mathlib.Data.List.Infix

/-!
What is left of a text without the white space at its ends, and where a piece of a text is found in it.
-/

namespace Easel.Text

variable {s t l r p b a : List Char} {x y : Char}

/-! ### White space at the ends -/

theorem trimRight_concat (hx : isBlank x = false) (s : List Char) : trimRight (s ++ [x]) = s ++ [x] := by
  simp [trimRight, hx]

theorem trimLeft_cons (hx : isBlank x = false) (s : List Char) : trimLeft (x :: s) = x :: s := by
  simp [trimLeft, hx]

theorem trimLeft_append (hl : ∀ c ∈ l, isBlank c) : trimLeft (l ++ s) = trimLeft s := List.dropWhile_append_of_pos hl

theorem trimRight_append (hr : ∀ c ∈ r, isBlank c) : trimRight (s ++ r) = trimRight s := by
  have hrev : ∀ c ∈ r.reverse, isBlank c := fun c hc => hr c (List.mem_reverse.1 hc)
  rw [trimRight, List.reverse_append, List.dropWhile_append_of_pos hrev, trimRight]

/-- A text with something else at its ends comes out of the white space around it as it is. -/
theorem trim_around (hl : ∀ c ∈ l, isBlank c) (hr : ∀ c ∈ r, isBlank c) (hs : s = x :: p) (hs' : s = t ++ [y])
    (hx : isBlank x = false) (hy : isBlank y = false) : trim (l ++ (s ++ r)) = s := by
  have hleft : trimLeft (s ++ r) = s ++ r := by rw [hs, List.cons_append, trimLeft_cons hx]
  have hright : trimRight s = s := by rw [hs', trimRight_concat hy]
  rw [trim, trimLeft_append hl, hleft, trimRight_append hr, hright]

theorem trim_of_ends (hs : s = x :: p) (hs' : s = t ++ [y]) (hx : isBlank x = false) (hy : isBlank y = false) : trim s = s := by
  simpa using trim_around (l := []) (r := []) nofun nofun hs hs' hx hy

theorem trim_split (s : List Char) :
    ∃ l r, s = l ++ (trim s ++ r) ∧ (∀ c ∈ l, isBlank c) ∧ ∀ c ∈ r, isBlank c := by
  refine ⟨s.takeWhile isBlank, ((trimLeft s).reverse.takeWhile isBlank).reverse, ?_, fun _ hc => List.mem_takeWhile_imp hc,
    fun _ hc => List.mem_takeWhile_imp (List.mem_reverse.1 hc)⟩
  have hright : trim s ++ ((trimLeft s).reverse.takeWhile isBlank).reverse = trimLeft s := by
    rw [trim, trimRight, ← List.reverse_append, List.takeWhile_append_dropWhile, List.reverse_reverse]
  rw [hright]
  exact (List.takeWhile_append_dropWhile ..).symm

theorem trim_inside (s : List Char) : trim s <:+: s := by
  obtain ⟨l, r, hs, -⟩ := trim_split s
  exact ⟨l, r, by rw [List.append_assoc, ← hs]⟩

theorem isBlank_of_trim_eq_cons (h : trim s = x :: t) : isBlank x = false := by
  have hprefix : trim s <+: trimLeft s := List.rdropWhile_prefix isBlank (trimLeft s)
  obtain ⟨r, hr⟩ := hprefix
  have hleft : s.dropWhile isBlank = x :: (t ++ r) := by
    rw [h] at hr
    exact hr.symm
  have hhead := List.head?_dropWhile_not isBlank s
  rw [hleft] at hhead
  simpa using hhead

/-! ### Pieces -/

theorem cut?_self (hp : p ≠ []) : cut? p (p ++ s) = some ([], s) := by
  obtain ⟨x, p, rfl⟩ := List.exists_cons_of_ne_nil hp
  have h : (x :: p).isPrefixOf (x :: (p ++ s)) := List.isPrefixOf_iff_prefix.2 (List.prefix_append (x :: p) s)
  rw [List.cons_append, cut?, if_pos h]
  simp

theorem isPrefixOf_divided (hx : x ∉ p) : p.isPrefixOf (s ++ x :: t) = p.isPrefixOf s := by
  rw [Bool.eq_iff_iff, List.isPrefixOf_iff_prefix, List.isPrefixOf_iff_prefix]
  refine ⟨fun h => ?_, fun h => h.trans (List.prefix_append ..)⟩
  rcases List.prefix_or_prefix_of_prefix h (List.prefix_append s (x :: t)) with hp | ⟨q, rfl⟩
  · exact hp
  · rcases q with _ | ⟨y, q⟩
    · simp
    · obtain ⟨rfl, -⟩ := List.cons_prefix_cons.1 ((List.prefix_append_right_inj s).1 h)
      exact absurd (by simp) hx

/-- A character that the piece does not have divides the search. -/
theorem cut?_divided (hp : p ≠ []) (hx : x ∉ p) : cut? p (s ++ x :: t) =
    match cut? p s with
    | some (b, a) => some (b, a ++ x :: t)
    | none => (cut? p t).map fun (b, a) => (s ++ x :: b, a) := by
  induction s with
  | nil =>
    obtain ⟨y, p, rfl⟩ := List.exists_cons_of_ne_nil hp
    have hhead : (y :: p).isPrefixOf ([] ++ x :: t) = false := isPrefixOf_divided hx
    have hnil : cut? (y :: p) [] = none := rfl
    rw [List.nil_append] at hhead ⊢
    rw [hnil, cut?, hhead]
    rfl
  | cons c s ih =>
    have hhead := isPrefixOf_divided (s := c :: s) (t := t) hx
    rw [List.cons_append] at hhead ⊢
    rw [cut?, cut?, hhead, ih]
    split
    · rename_i h
      have hlength := (List.isPrefixOf_iff_prefix.1 h).length_le
      simp only [← List.cons_append, List.drop_append_of_le_length hlength]
    · cases cut? p s <;> simp [Function.comp_def]

theorem cut?_ne_none_of_infix (h : p <:+: s) : cut? p s ≠ none := by
  induction s with
  | nil => simp [cut?, List.infix_nil.1 h]
  | cons c s ih =>
    rw [cut?]
    split
    · simp
    · rename_i hpre
      rcases List.infix_cons_iff.1 h with h | h
      · exact absurd (List.isPrefixOf_iff_prefix.2 h) hpre
      · simpa using ih h

theorem occurs_iff : occurs p s = true ↔ p <:+: s := by
  rw [occurs, Option.isSome_iff_ne_none]
  refine ⟨fun h => ?_, cut?_ne_none_of_infix⟩
  obtain ⟨⟨b, a⟩, hc⟩ := Option.ne_none_iff_exists'.1 h
  exact ⟨b, a, (cut?_eq_some hc).symm⟩

end Easel.Text
