import Easel.Console.Session
import Easel.Proofs.Text

/-!
Which lines of input a session handles: all of them, or those up to the first one with the command to quit, in upper or lower case.
-/

namespace Easel

namespace Text

/-- The command that ends a session. -/
def quit : List Char := ['/', 'q', 'u', 'i', 't']

variable {c x : Char} {s w before after : List Char}

theorem toLower_of_not_ascii (hc : isAscii c = false) : c.toLower = c := by
  have hlarge : 128 ≤ c.toNat := by simpa [isAscii] using hc
  unfold Char.toLower
  apply dif_neg
  intro h
  have hz : c.toNat ≤ 90 := UInt32.le_iff_toNat_le.1 h.2
  omega

theorem isAscii_of_mem_quit (hx : x ∈ quit) : isAscii x = true := List.all_eq_true.1 (by rfl : quit.all isAscii = true) x hx

theorem toNat_of_ofNat {n : Nat} (hx : x.toNat ≠ 0) (h : Char.ofNat n = x) : n = x.toNat := by
  subst h
  by_cases hn : n.isValidChar
  · have hvalid : Char.ofNat n = Char.ofNatAux n hn := dif_pos hn
    rw [hvalid]
    rfl
  · have hinvalid : Char.ofNat n = Char.ofNat 0 := dif_neg hn
    rw [hinvalid] at hx
    exact absurd rfl hx

/-- No other character has one of these letters for its lower case. -/
theorem mapCase_ne (hc : isAscii c = false) (hx : x ∈ quit) : mapCase lowerRuns c ≠ x := by
  have hruns : (lowerRuns.all fun run => quit.all fun x =>
      decide (x.toNat < run.2.2.2) || decide (run.2.2.2 + (run.2.1 - run.1) < x.toNat)) = true := by decide +kernel
  have hzero : x.toNat ≠ 0 := by
    simpa using List.all_eq_true.1 (by rfl : quit.all (fun x => decide (x.toNat ≠ 0)) = true) x hx
  unfold mapCase
  split
  · rename_i n hn
    obtain ⟨⟨first, last, step, image⟩, hrun, himage⟩ := List.exists_of_findSome?_eq_some hn
    have hbeside := List.all_eq_true.1 (List.all_eq_true.1 hruns _ hrun) x hx
    simp only [CaseRun.image?, Option.ite_none_right_eq_some, Option.some.injEq] at himage
    simp only [Bool.or_eq_true, decide_eq_true_eq] at hbeside
    intro h
    have hn := toNat_of_ofNat hzero h
    omega
  · rintro rfl
    rw [isAscii_of_mem_quit hx] at hc
    cases hc

theorem lowerChar_eq_iff (hx : x ∈ quit) : lowerChar c = x ↔ c.toLower = x := by
  unfold lowerChar
  cases hc : isAscii c with
  | true => rfl
  | false =>
    have hlower : c.toLower ≠ x := by
      rw [toLower_of_not_ascii hc]
      rintro rfl
      rw [isAscii_of_mem_quit hx] at hc
      cases hc
    exact iff_of_false (mapCase_ne hc hx) hlower

theorem lowerFrom_eq_iff (hw : ∀ x ∈ w, x ∈ quit) : lowerFrom before s = w ↔ s.map Char.toLower = w := by
  induction s generalizing before w with
  | nil => rfl
  | cons c s ih =>
    have hother (hc : isAscii c = false) : (c :: s).map Char.toLower ≠ w := by
      rintro rfl
      have hmem := isAscii_of_mem_quit (hw c.toLower List.mem_cons_self)
      rw [toLower_of_not_ascii hc, hc] at hmem
      cases hmem
    rw [lowerFrom]
    split
    · -- The capital sigma becomes a small one.
      rename_i hc
      refine iff_of_false ?_ (hother (by rw [hc]; rfl))
      rintro rfl
      have hmem := isAscii_of_mem_quit (hw (lowerSigma before s) (by simp))
      unfold lowerSigma at hmem
      split at hmem <;> cases hmem
    · split
      · -- The dotted one leaves a dot.
        rename_i hc
        refine iff_of_false ?_ (hother (by rw [hc]; rfl))
        rintro rfl
        have hmem := isAscii_of_mem_quit (hw '\u0307' (by simp))
        cases hmem
      · cases w with
        | nil => simp
        | cons x w =>
          rw [List.singleton_append, List.map_cons, List.cons.injEq, List.cons.injEq, lowerChar_eq_iff (hw x List.mem_cons_self),
            ih fun y hy => hw y (List.mem_cons_of_mem x hy)]

theorem lower_eq_quit_iff : String.ofList (lower s) = "/quit" ↔ s.map Char.toLower = quit := by
  have hlower : lower s = quit ↔ s.map Char.toLower = quit := lowerFrom_eq_iff fun _ hx => hx
  have hquit : "/quit" = String.ofList quit := rfl
  rw [← hlower, hquit, String.ofList_inj]

theorem eq_slash_of_toLower (h : c.toLower = '/') : c = '/' := by
  unfold Char.toLower at h
  split at h
  · rename_i hupper
    have hsum : (c.val + ('a'.val - 'A'.val)).toNat = (c.toNat + 32) % 2 ^ 32 := UInt32.toNat_add _ _
    have hslash : (c.val + ('a'.val - 'A'.val)).toNat = 47 := congrArg Char.toNat h
    have hlarge : 65 ≤ c.toNat := UInt32.le_iff_toNat_le.1 hupper.1
    have hsmall : c.toNat ≤ 90 := UInt32.le_iff_toNat_le.1 hupper.2
    omega
  · exact h

end Text

namespace Console.Session

variable {line : String} {lines : List String} {s : Session}

/-- The first word of the line is the command to quit, whatever letters of it are capitals. -/
def quits (line : String) : Bool := (Text.firstWord (Text.trim line.toList)).1.map Char.toLower = Text.quit

/-- The lines up to the first one that quits, and that one. -/
def handled (lines : List String) : List String := lines.takeWhile (!quits ·) ++ (lines.find? quits).toList

theorem handled_cons (line : String) (lines : List String) :
    handled (line :: lines) = if quits line then [line] else line :: handled lines := by
  cases h : quits line <;> simp [handled, h]

theorem not_quits_of_blank (h : Text.trim line.toList = []) : quits line = false := by
  rw [quits, h]
  rfl

/-- A line that begins with anything else is no command. -/
theorem not_quits_of_ne {c : Char} {text : List Char} (h : Text.trim line.toList = c :: text) (hc : c ≠ '/') :
    quits line = false := by
  have hword : (Text.firstWord (c :: text)).1 = c :: text.takeWhile (!Text.isBlank ·) := by
    have hblank := Text.isBlank_of_trim_eq_cons h
    have hfirst : (!Text.isBlank c) = true := by rw [hblank]; rfl
    rw [Text.firstWord, Text.trimLeft_cons hblank]
    exact List.takeWhile_cons_of_pos (p := (!Text.isBlank ·)) hfirst
  rw [quits, h, hword, decide_eq_false_iff_not]
  intro hquit
  obtain ⟨hslash, -⟩ := List.cons.inj hquit
  exact hc (Text.eq_slash_of_toLower hslash)

theorem quits_of_slash {text : List Char} (h : Text.trim line.toList = '/' :: text) :
    quits line = decide (String.ofList (Text.lower (Text.firstWord ('/' :: text)).1) = "/quit") := by
  rw [quits, h, decide_eq_decide]
  exact Text.lower_eq_quit_iff.symm

end Console.Session
end Easel
