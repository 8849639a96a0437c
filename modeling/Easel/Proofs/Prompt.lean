import Easel.Proofs.Json.Quoting
import Easel.Proofs.Text
import Easel.Prompt
import Mathlib.Data.List.TakeWhile

/-!
A transcript in a prompt. Whatever characters it has, it takes the last line of the prompt and no other, and is found there
again.
-/

namespace Easel

namespace Text

variable {s t rest : List Char} {c : Char}

/-! ### Lines -/

theorem not_lineEnd_of_printable (h : Json.Printable c) : isLineEnd c = false := by
  have : 32 ≤ c.toNat ∧ c.toNat < 127 := h
  simp only [isLineEnd, Bool.or_eq_false_iff, Bool.and_eq_false_iff, decide_eq_false_iff_not]
  omega

/-- A line end of one character. -/
theorem lines_cons_end (hc : isLineEnd c = true) (h : c = '\r' → rest.head? ≠ some '\n') :
    lines (c :: rest) = [] :: lines rest := by
  rw [lines, if_pos hc]
  rintro rest rfl rfl
  exact h rfl rfl

theorem lines_cons_other (hc : isLineEnd c = false) :
    lines (c :: rest) = (c :: (lines rest).head?.getD []) :: (lines rest).tail := by
  rw [lines, if_neg (by rw [hc]; decide)]
  · cases lines rest <;> rfl
  · rintro rest rfl
    cases hc

theorem lines_ne_nil (h : s ≠ []) : lines s ≠ [] := by
  fun_cases lines s with
  | case1 => exact absurd rfl h
  | case2 | case3 | case4 | case5 => simp

/-- A line feed that is no part of another line end. -/
theorem lines_newline (hc : isLineEnd c = false) (s t : List Char) :
    lines (s ++ c :: '\n' :: t) = lines (s ++ [c]) ++ lines t := by
  have hn : c ≠ '\n' := by rintro rfl; cases hc
  fun_induction lines s with
  | case1 =>
    have hend : lines ('\n' :: t) = [] :: lines t := lines_cons_end (by decide) fun h => absurd h (by decide)
    rw [List.nil_append, List.nil_append, lines_cons_other hc, lines_cons_other hc, hend]
    rfl
  | case2 rest ih =>
    rw [List.cons_append, List.cons_append, List.cons_append, List.cons_append, lines, lines, ih, List.cons_append]
  | case3 d rest hcr hd ih =>
    -- What follows the character is still not the other half of a line end.
    have hcr' (more : List Char) : d = '\r' → (rest ++ c :: more).head? ≠ some '\n' := by
      rintro rfl h
      cases rest with
      | nil => exact hn (by simpa using h)
      | cons x rest => exact hcr rest rfl (by simpa using h)
    rw [List.cons_append, List.cons_append, lines_cons_end hd (hcr' _), lines_cons_end hd (hcr' _), ih, List.cons_append]
  | case4 d rest hcr hd hl ih | case5 d rest hcr hd l ls hl ih =>
    rw [Bool.not_eq_true] at hd
    rw [List.cons_append, List.cons_append, lines_cons_other hd, lines_cons_other hd, ih]
    obtain ⟨m, ms, hm⟩ := List.exists_cons_of_ne_nil (lines_ne_nil (s := rest ++ [c]) (by simp))
    rw [hm]
    rfl

/-- A text without line ends. -/
theorem lines_eq_singleton (h : s ≠ []) (hs : ∀ c ∈ s, isLineEnd c = false) : lines s = [s] := by
  induction s with
  | nil => exact absurd rfl h
  | cons c s ih =>
    rw [lines_cons_other (hs c List.mem_cons_self)]
    cases s with
    | nil => rfl
    | cons d s =>
      rw [ih (List.cons_ne_nil _ _) fun x hx => hs x (List.mem_cons_of_mem _ hx)]
      rfl

theorem trim_stringText (s : List Char) : trim (Json.stringText s) = Json.stringText s :=
  trim_of_ends rfl (t := '\x22' :: s.flatMap Json.escapeChar) rfl (by decide) (by decide)

end Text

namespace Prompt

open Text

/-- The instructions end in the closing line. -/
theorem instructions_end : ∃ s, instructions.toList = s ++ [':'] := by
  have hclose : closing.toList = "Now process this command".toList ++ [':'] := by decide
  unfold instructions
  rw [String.intercalate_append_of_ne_nil (by simp [opening]) (by simp), String.intercalate_cons_cons,
    String.intercalate_singleton]
  simp only [String.toList_append, hclose, ← List.append_assoc]
  exact ⟨_, rfl⟩

theorem trimRight_instructions : trimRight instructions.toList = instructions.toList := by
  obtain ⟨s, hs⟩ := instructions_end
  rw [hs, trimRight_concat (by decide)]

theorem toList_ofTranscript (t : String) : (ofTranscript t).toList =
    instructions.toList ++ '\n' :: (marker.toList ++ Json.stringText t.toList ++ ['\n']) := by
  simp [ofTranscript, Json.write, String.toList_ofList]

theorem printable_marked (t : String) : ∀ c ∈ marker.toList ++ Json.stringText t.toList, Json.Printable c := by
  intro c hc
  rcases List.mem_append.1 hc with hc | hc
  · have hm : (marker.toList.all fun c => decide (Json.Printable c)) = true := by decide
    exact of_decide_eq_true (List.all_eq_true.1 hm c hc)
  · exact Json.printable_stringText _ c hc

/-- The marked line is one line, with a line feed after it. -/
theorem lines_marked (t : String) : lines (marker.toList ++ Json.stringText t.toList ++ ['\n']) =
    [marker.toList ++ Json.stringText t.toList] := by
  have hline := lines_eq_singleton (s := marker.toList ++ Json.stringText t.toList) (by simp [Json.stringText])
    fun c hc => not_lineEnd_of_printable (printable_marked t c hc)
  -- The quote that ends the text stands before the line feed.
  have hq : marker.toList ++ Json.stringText t.toList =
      marker.toList ++ '\x22' :: t.toList.flatMap Json.escapeChar ++ ['\x22'] := by
    simp [Json.stringText]
  rw [← hline, hq, List.append_assoc, List.singleton_append, lines_newline (by decide)]
  exact List.append_nil _

theorem lines_ofTranscript (t : String) : lines (ofTranscript t).toList =
    lines (trimRight instructions.toList) ++ [marker.toList ++ Json.stringText t.toList] := by
  obtain ⟨s, hs⟩ := instructions_end
  rw [toList_ofTranscript, trimRight_instructions, hs, List.append_assoc, List.singleton_append,
    lines_newline (by decide), lines_marked]

theorem marked?_append (s : List Char) : marked? (marker.toList ++ s) = some s := by
  have hp : marker.toList.isPrefixOf (marker.toList ++ s) = true :=
    List.isPrefixOf_iff_prefix.2 (List.prefix_append _ _)
  rw [marked?, if_pos hp, List.drop_left]

theorem readValue_stringText (t : String) : readValue (String.ofList (Json.stringText t.toList)) = .ok t := by
  have hq : (String.ofList (Json.stringText t.toList)).toList.head? = some '\x22' := by
    rw [String.toList_ofList]
    rfl
  rw [readValue, if_pos hq, Json.read_stringText, String.ofList_toList]

theorem transcript_ofTranscript (t : String) : transcript (ofTranscript t) = .ok t := by
  have hfind : (lines (ofTranscript t).toList).reverse.findSome? marked? = some (Json.stringText t.toList) := by
    rw [lines_ofTranscript, List.reverse_append, List.reverse_singleton, List.singleton_append, List.findSome?_cons,
      marked?_append]
  rw [transcript, hfind]
  simp only [trim_stringText, readValue_stringText]

/-- Nothing in a transcript breaks out of its line: the prompt has the lines of the instructions and one more, which holds
the marker and printable characters only, and the transcript is read from it as it was. -/
theorem transcript_sealed (t : String) : transcript (ofTranscript t) = .ok t ∧
    ∃ line, lines (ofTranscript t).toList = lines (trimRight instructions.toList) ++ [line] ∧
      marker.toList <+: line ∧ ∀ c ∈ line, Json.Printable c :=
  ⟨transcript_ofTranscript t, _, lines_ofTranscript t, List.prefix_append _ _, printable_marked t⟩

end Prompt

end Easel
