import Easel.Json.Reader
import Mathlib.Data.List.DropRight
import Mathlib.Data.List.TakeDrop
import Mathlib.Data.List.TakeWhile

/-!
What stops a reader of JSON text for good: only a whole number of too many digits, and only one that stands in the text.
-/

namespace Easel.Json

variable {α β : Type} {s rest : List Char} {n : Nat}

/-- Somewhere in the text there are so many digits in a row, and these are too many. -/
def HasLongNumeral (n : Nat) (s : List Char) : Prop :=
  ∃ digits, digits <:+: s ∧ digits.length = n ∧ Text.digitLimit < n ∧ ∀ c ∈ digits, isDigit c

theorem HasLongNumeral.of_infix (h : HasLongNumeral n rest) (hs : rest <:+: s) : HasLongNumeral n s := by
  obtain ⟨digits, hd, h⟩ := h
  exact ⟨digits, hd.trans hs, h⟩

/-- A reader goes forward in its text, or it stops, at a long numeral only if the text has one. -/
def Advances (s : List Char) : Except Stop (α × List Char) → Prop
  | .ok (_, rest) => rest <:+ s
  | .error (.fault ..) => True
  | .error (.tooLong n) => HasLongNumeral n s

namespace Advances

theorem ok {a : α} (h : rest <:+ s) : Advances s (.ok (a, rest)) := h

theorem fault {cause : SyntaxFault} : Advances s (.error (.fault cause rest) : Except Stop (α × List Char)) := trivial

theorem mono {m : Except Stop (α × List Char)} (hm : Advances rest m) (hs : rest <:+ s) : Advances s m := by
  rcases m with (⟨cause, r⟩ | n) | ⟨a, r⟩
  · trivial
  · exact HasLongNumeral.of_infix hm hs.isInfix
  · exact List.IsSuffix.trans hm hs

theorem bind {m : Except Stop (α × List Char)} {k : α × List Char → Except Stop (β × List Char)} (hm : Advances s m)
    (hk : ∀ a rest, rest <:+ s → Advances rest (k (a, rest))) : Advances s (m >>= k) := by
  rcases m with (⟨cause, r⟩ | n) | ⟨a, r⟩
  · trivial
  · exact hm
  · exact (hk a r hm).mono hm

end Advances

theorem skipSpace_suffix (s : List Char) : skipSpace s <:+ s := List.dropWhile_suffix _

theorem suffix_of_skipSpace {c : Char} (h : skipSpace s = c :: rest) : rest <:+ s := by
  have hs := skipSpace_suffix s
  rw [h] at hs
  exact (List.suffix_cons ..).trans hs

theorem readUnit_advances (start s : List Char) : Advances s (readUnit start s) := by
  have hdrop : s.drop 4 <:+ s := List.drop_suffix 4 s
  unfold readUnit
  split
  · exact .fault
  split
  · exact .fault
  split
  · rename_i more hmore
    have hlow : more.drop 4 <:+ s := by
      have htail : more <:+ '\\' :: 'u' :: more := (List.suffix_cons _ _).trans (List.suffix_cons _ _)
      exact ((List.drop_suffix 4 more).trans htail).trans (hmore ▸ hdrop)
    split
    · split
      · exact .fault
      · split
        · exact .ok hlow
        · exact .ok hdrop
    · exact .ok hdrop
  · exact .ok hdrop

theorem readString_advances (start : List Char) (fuel : Nat) (s : List Char) : Advances s (readString start fuel s) := by
  fun_induction readString start fuel s with
  | case1 | case2 | case4 | case6 | case8 => exact .fault
  | case3 => exact .ok (List.suffix_cons ..)
  | case5 fuel digits hc ih =>
    have hdigits : digits <:+ '\\' :: 'u' :: digits := (List.suffix_cons ..).trans (List.suffix_cons ..)
    refine .mono (.bind (readUnit_advances _ digits) fun d rest _ => ?_) hdigits
    exact .bind (ih rest) fun _ _ _ => .ok List.suffix_rfl
  | case7 fuel e rest he d hd hc ih =>
    have hrest : rest <:+ '\\' :: e :: rest := (List.suffix_cons ..).trans (List.suffix_cons ..)
    exact .mono (.bind ih fun _ _ _ => .ok List.suffix_rfl) hrest
  | case9 fuel c rest hq hb hc ih => exact .mono (.bind ih fun _ _ _ => .ok List.suffix_rfl) (List.suffix_cons ..)

theorem splitSign_suffix (s : List Char) : (Text.splitSign s).2 <:+ s := by
  unfold Text.splitSign
  split
  · exact List.suffix_cons ..
  · exact List.suffix_cons ..
  · exact List.suffix_rfl

theorem fractionPart_suffix (s : List Char) : (fractionPart s).2 <:+ s := by
  unfold fractionPart
  split
  · split
    · exact List.suffix_rfl
    · rw [List.span_eq_takeWhile_dropWhile]
      exact (List.dropWhile_suffix _).trans (List.suffix_cons ..)
  · exact List.suffix_rfl

theorem exponentPart_suffix (s : List Char) : (exponentPart s).2 <:+ s := by
  unfold exponentPart
  split
  · exact List.suffix_rfl
  · rename_i e rest
    have hbody : (Text.splitSign rest).2 <:+ e :: rest := (splitSign_suffix rest).trans (List.suffix_cons ..)
    split
    · dsimp only
      split
      · exact List.suffix_rfl
      · exact (List.dropWhile_suffix _).trans hbody
    · exact List.suffix_rfl

theorem splitMinus_suffix (s : List Char) : (splitMinus s).2 <:+ s := by
  unfold splitMinus
  split
  · exact List.suffix_cons ..
  · exact List.suffix_rfl

theorem wholePart_prefix (s : List Char) : wholePart s <+: s ∧ ∀ c ∈ wholePart s, isDigit c := by
  unfold wholePart
  split
  · refine ⟨⟨_, rfl⟩, fun c hc => ?_⟩
    rw [List.mem_singleton.mp hc]
    decide
  · exact ⟨List.takeWhile_prefix _, fun c hc => List.mem_takeWhile_imp hc⟩

theorem readNumber_advances (s : List Char) : Advances s (readNumber s) := by
  have hbody : (splitMinus s).2 <:+ s := splitMinus_suffix s
  obtain ⟨hwhole, hdigits⟩ := wholePart_prefix (splitMinus s).2
  have hrest (n : Nat) : (exponentPart (fractionPart ((splitMinus s).2.drop n)).2).2 <:+ s :=
    (exponentPart_suffix _).trans ((fractionPart_suffix _).trans ((List.drop_suffix n _).trans hbody))
  unfold readNumber
  dsimp only
  split
  · exact .fault
  split
  · split
    · rename_i hlong
      exact ⟨_, hwhole.isInfix.trans hbody.isInfix, rfl, hlong, hdigits⟩
    · exact .ok (hrest _)
  · exact .ok (hrest _)

theorem readers_advance (fuel : Nat) : (∀ s, Advances s (readValue fuel s)) ∧ (∀ s, Advances s (readItems fuel s)) ∧
    ∀ fields s, Advances s (readFields fuel fields s) := by
  induction fuel with
  | zero => exact ⟨fun _ => .fault, fun _ => .fault, fun _ _ => .fault⟩
  | succ fuel ih =>
    obtain ⟨hvalue, hitems, hfields⟩ := ih
    refine ⟨fun s => ?_, fun s => ?_, fun fields s => ?_⟩
    · unfold readValue
      split
      · exact .mono (.bind (readString_advances ..) fun _ _ _ => .ok List.suffix_rfl) (List.suffix_cons ..)
      · refine .mono ?_ (List.suffix_cons ..)
        split
        · rename_i hr
          exact .ok (suffix_of_skipSpace hr)
        · exact .mono (.bind (hfields ..) fun _ _ _ => .ok List.suffix_rfl) (skipSpace_suffix _)
      · refine .mono ?_ (List.suffix_cons ..)
        split
        · rename_i hr
          exact .ok (suffix_of_skipSpace hr)
        · exact .mono (.bind (hitems ..) fun _ _ _ => .ok List.suffix_rfl) (skipSpace_suffix _)
      · exact .ok (List.suffix_append ['n', 'u', 'l', 'l'] _)
      · exact .ok (List.suffix_append ['t', 'r', 'u', 'e'] _)
      · exact .ok (List.suffix_append ['f', 'a', 'l', 's', 'e'] _)
      · exact .ok (List.suffix_append ['N', 'a', 'N'] _)
      · exact .ok (List.suffix_append ['I', 'n', 'f', 'i', 'n', 'i', 't', 'y'] _)
      · exact .ok (List.suffix_append ['-', 'I', 'n', 'f', 'i', 'n', 'i', 't', 'y'] _)
      · exact .bind (readNumber_advances _) fun _ _ _ => .ok List.suffix_rfl
    · unfold readItems
      refine .bind (hvalue s) fun x rest _ => ?_
      dsimp only
      split
      · rename_i hr
        exact .ok (suffix_of_skipSpace hr)
      · rename_i hr
        refine .mono (.bind (hitems _) fun _ _ _ => .ok List.suffix_rfl) ?_
        exact (skipSpace_suffix _).trans (suffix_of_skipSpace hr)
      · exact .fault
    · unfold readFields
      split
      · refine .mono (.bind (readString_advances ..) fun name rest _ => ?_) (List.suffix_cons ..)
        dsimp only
        split
        · rename_i hr
          refine .mono (.bind (hvalue _) fun x rest _ => ?_) ((skipSpace_suffix _).trans (suffix_of_skipSpace hr))
          dsimp only
          split
          · rename_i hr
            exact .ok (suffix_of_skipSpace hr)
          · rename_i hr
            exact .mono (hfields ..) ((skipSpace_suffix _).trans (suffix_of_skipSpace hr))
          · exact .fault
        · exact .fault
      · exact .fault

theorem hasLongNumeral_of_readText (h : readText s = .error (.tooLong n)) : HasLongNumeral n s := by
  have hv := (readers_advance (2 * s.length + 2)).1 (skipSpace s)
  unfold readText at h
  rcases hr : readValue (2 * s.length + 2) (skipSpace s) with (⟨cause, rest⟩ | n') | ⟨v, rest⟩ <;> rw [hr] at h hv
  · cases h
  · cases h
    exact HasLongNumeral.of_infix hv (skipSpace_suffix s).isInfix
  · simp only [bind, Except.bind] at h
    split at h <;> cases h

/-- Only a text with such a numeral in it is refused for one. -/
theorem hasLongNumeral_of_read {text : String} (h : read text = .error (.tooLong n)) : HasLongNumeral n text.toList := by
  unfold read readDecoded at h
  split at h
  · cases h
  · rcases hr : readText text.toList with (⟨cause, rest⟩ | n') | v <;> rw [hr] at h
    · cases h
    · cases h
      exact hasLongNumeral_of_readText hr
    · cases h

theorem readNumber_ones (h : Text.digitLimit < n) : readNumber (List.replicate n '1') = .error (.tooLong n) := by
  obtain ⟨m, rfl⟩ : ∃ m, n = m + 1 := ⟨n - 1, by unfold Text.digitLimit at h; omega⟩
  have hsign : splitMinus (List.replicate (m + 1) '1') = (false, List.replicate (m + 1) '1') := by
    rw [List.replicate_succ, splitMinus]
    simp
  have hwhole : wholePart (List.replicate (m + 1) '1') = List.replicate (m + 1) '1' := by
    rw [List.replicate_succ, wholePart, ← List.replicate_succ]
    · exact List.takeWhile_replicate.trans (if_pos (by decide))
    · simp
  unfold readNumber
  rw [hsign]
  dsimp only
  rw [hwhole, List.length_replicate, List.drop_of_length_le (by simp)]
  simp only [fractionPart, exponentPart, List.replicate_succ, List.isEmpty_cons, List.isEmpty_nil, Option.isNone_none,
    Bool.and_self, Bool.false_eq_true, if_false, if_true]
  exact if_pos h

/-- A text that is one numeral of too many ones is refused. -/
theorem read_ones (h : Text.digitLimit < n) : read (String.ofList (List.replicate n '1')) = .error (.tooLong n) := by
  have hspace : skipSpace (List.replicate n '1') = List.replicate n '1' := by
    unfold skipSpace
    exact List.dropWhile_replicate.trans (if_neg (by decide))
  have hvalue (fuel : Nat) : readValue (fuel + 1) (List.replicate n '1') = .error (.tooLong n) := by
    obtain ⟨m, rfl⟩ : ∃ m, n = m + 1 := ⟨n - 1, by unfold Text.digitLimit at h; omega⟩
    have hn := readNumber_ones h
    rw [List.replicate_succ] at hn ⊢
    simp [readValue, hn]
  have htext : readText (List.replicate n '1') = .error (.tooLong n) := by
    unfold readText
    rw [hspace, hvalue]
    rfl
  unfold read readDecoded
  rw [String.toList_ofList, htext, if_neg]
  · rfl
  · rw [List.head?_replicate]
    split <;> simp

end Easel.Json
