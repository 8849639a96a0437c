import Easel.Json.Printer
import Easel.Json.Reader
import Mathlib.Data.List.Basic
import Mathlib.Tactic.Common

/-!
Strings as JSON text. Whatever characters a string has, its text is of printable ASCII characters, and is read back as the
string.
-/

namespace Easel.Json

variable {s start rest : List Char} {c : Char} {n fuel : Nat}

/-- Shown as itself, in a place of its own. -/
def Printable (c : Char) : Prop := 32 ≤ c.toNat ∧ c.toNat < 127

instance (c : Char) : Decidable (Printable c) := inferInstanceAs (Decidable (_ ∧ _))

/-! ### Hexadecimal digits -/

theorem digitChar_hex : ∀ k < 16, Text.hexValue? k.digitChar = some k ∧ Printable k.digitChar := by decide

theorem hexValue?_hexDigit (n : Nat) : Text.hexValue? (Text.hexDigit n) = some (n % 16) :=
  (digitChar_hex _ (Nat.mod_lt n (by decide))).1

theorem printable_hexDigit (n : Nat) : Printable (Text.hexDigit n) :=
  (digitChar_hex _ (Nat.mod_lt n (by decide))).2

theorem hex_four (n : Nat) : Text.hex 4 n =
    [Text.hexDigit (n / 16 / 16 / 16), Text.hexDigit (n / 16 / 16), Text.hexDigit (n / 16), Text.hexDigit n] := rfl

theorem unit?_hex (h : n < 0x10000) : unit? (Text.hex 4 n) = some n := by
  simp only [hex_four, unit?, hexValue?_hexDigit, Option.pure_def, Option.bind_eq_bind, Option.bind_some, Option.some.injEq]
  omega

/-! ### Units -/

theorem take_hex (n : Nat) (rest : List Char) : (Text.hex 4 n ++ rest).take 4 = Text.hex 4 n := rfl

theorem drop_hex (n : Nat) (rest : List Char) : (Text.hex 4 n ++ rest).drop 4 = rest := rfl

/-- No character is half of a pair. -/
theorem not_surrogate (c : Char) : ¬(0xD800 ≤ c.toNat ∧ c.toNat < 0xE000) := by
  have hv : c.toNat < 0xD800 ∨ 0xDFFF < c.toNat ∧ c.toNat < 0x110000 := c.valid
  omega

theorem charOfUnit_toNat (c : Char) : Text.charOfUnit c.toNat = c := by
  rw [Text.charOfUnit, if_neg (not_surrogate c), Char.ofNat_toNat]

theorem charOfPair_toNat (hc : 0x10000 ≤ c.toNat) :
    Text.charOfPair (0xD800 + (c.toNat - 0x10000) / 0x400) (0xDC00 + (c.toNat - 0x10000) % 0x400) = c := by
  have hn : 0x10000 + (0xD800 + (c.toNat - 0x10000) / 0x400 - 0xD800) * 0x400 +
      (0xDC00 + (c.toNat - 0x10000) % 0x400 - 0xDC00) = c.toNat := by omega
  rw [Text.charOfPair, hn, Char.ofNat_toNat]

theorem readUnit_toNat (hc : c.toNat < 0x10000) (hrest : rest ≠ []) :
    readUnit start (Text.hex 4 c.toNat ++ rest) = .ok (c, rest) := by
  have hhigh : Text.isHighSurrogate c.toNat = false := by
    have := not_surrogate c
    simp [Text.isHighSurrogate]
    omega
  rw [readUnit, take_hex, drop_hex, List.isEmpty_eq_false_iff.2 hrest, unit?_hex hc]
  simp only [Bool.false_eq_true, if_false, hhigh, Bool.false_and, charOfUnit_toNat]
  split <;> rfl

/-- The first of two units looks for the second. -/
theorem readUnit_surrogates {high low : Nat} (hhigh : Text.isHighSurrogate high = true)
    (hlow : Text.isLowSurrogate low = true) (hrest : rest ≠ []) :
    readUnit start (Text.hex 4 high ++ (unitEscape low ++ rest)) = .ok (Text.charOfPair high low, rest) := by
  have hh : high < 0x10000 := by
    simp only [Text.isHighSurrogate, Bool.and_eq_true, decide_eq_true_eq] at hhigh
    omega
  have hl : low < 0x10000 := by
    simp only [Text.isLowSurrogate, Bool.and_eq_true, decide_eq_true_eq] at hlow
    omega
  rw [readUnit, take_hex, drop_hex, unit?_hex hh]
  simp only [unitEscape, List.cons_append, List.isEmpty_cons, Bool.false_eq_true, if_false, hhigh, take_hex, drop_hex,
    List.isEmpty_eq_false_iff.2 hrest, Bool.not_false, Bool.and_self, if_true, unit?_hex hl, hlow]

/-- The units of a character above the sixteen-bit range. -/
theorem surrogates_toNat (hc : 0x10000 ≤ c.toNat) :
    Text.isHighSurrogate (0xD800 + (c.toNat - 0x10000) / 0x400) = true ∧
      Text.isLowSurrogate (0xDC00 + (c.toNat - 0x10000) % 0x400) = true := by
  have hv : c.toNat < 0xD800 ∨ 0xDFFF < c.toNat ∧ c.toNat < 0x110000 := c.valid
  simp only [Text.isHighSurrogate, Text.isLowSurrogate, Bool.and_eq_true, decide_eq_true_eq]
  omega

theorem readUnit_pair (hc : 0x10000 ≤ c.toNat) (hrest : rest ≠ []) :
    readUnit start (Text.hex 4 (0xD800 + (c.toNat - 0x10000) / 0x400) ++
      (unitEscape (0xDC00 + (c.toNat - 0x10000) % 0x400) ++ rest)) = .ok (c, rest) := by
  obtain ⟨hhigh, hlow⟩ := surrogates_toNat hc
  rw [readUnit_surrogates hhigh hlow hrest, charOfPair_toNat hc]

/-! ### Characters and strings -/

theorem readString_unitEscape {more : List Char} (h : ∀ start, readUnit start (Text.hex 4 n ++ rest) = .ok (c, more)) :
    readString start (fuel + 1) (unitEscape n ++ rest) = do
      let (cs, rest) ← readString start fuel more
      return (c :: cs, rest) := by
  rw [unitEscape, List.cons_append, List.cons_append]
  simp [readString, h, bind, Except.bind]

/-- What is read of a character in a string, and what is left to be read. -/
theorem readString_escapeChar (hrest : rest ≠ []) : readString start (fuel + 1) (escapeChar c ++ rest) = do
    let (cs, rest) ← readString start fuel rest
    return (c :: cs, rest) := by
  unfold escapeChar
  -- The characters with short escapes.
  iterate 7
    split
    · rename_i h
      subst h
      rfl
  split
  · rename_i hq hb _ _ _ _ _ hp
    have hno : ¬c.toNat < 32 := Nat.not_lt.2 hp.1
    simp [readString, hq, hb, hno]
  split
  · rename_i hc
    exact readString_unitEscape fun _ => readUnit_toNat hc hrest
  · rename_i hc
    rw [List.append_assoc]
    exact readString_unitEscape fun _ => readUnit_pair (Nat.le_of_not_lt hc) hrest

theorem escapeChar_ne_nil (c : Char) : escapeChar c ≠ [] := by
  have hunit (n : Nat) : unitEscape n ≠ [] := List.cons_ne_nil _ _
  unfold escapeChar
  repeat' split
  all_goals simp [hunit]

theorem length_le_escaped (s : List Char) : s.length ≤ (s.flatMap escapeChar).length := by
  induction s with
  | nil => exact Nat.le_refl 0
  | cons c s ih =>
    have := List.length_pos_iff.2 (escapeChar_ne_nil c)
    rw [List.flatMap_cons, List.length_append, List.length_cons]
    omega

theorem readString_escaped (hf : s.length < fuel) :
    readString start fuel (s.flatMap escapeChar ++ '\x22' :: rest) = .ok (s, rest) := by
  induction s generalizing fuel with
  | nil =>
    obtain ⟨fuel, rfl⟩ := Nat.exists_eq_add_one.2 hf
    rfl
  | cons c s ih =>
    obtain ⟨fuel, rfl⟩ := Nat.exists_eq_add_one.2 (Nat.zero_lt_of_lt hf)
    rw [List.flatMap_cons, List.append_assoc, readString_escapeChar (by simp), ih (by simpa using hf)]
    rfl

theorem readValue_stringText (fuel : Nat) (s : List Char) :
    readValue (fuel + 1) (stringText s) = .ok (.str (String.ofList s), []) := by
  have hs : readString (stringText s) (s.flatMap escapeChar ++ ['\x22']).length.succ (s.flatMap escapeChar ++ ['\x22']) =
      .ok (s, []) := by
    refine readString_escaped ?_
    have := length_le_escaped s
    rw [List.length_append]
    omega
  have hv (rest : List Char) : readValue (fuel + 1) ('\x22' :: rest) =
      (readString ('\x22' :: rest) rest.length.succ rest).map fun (cs, rest) => (.str (String.ofList cs), rest) := by
    rfl
  rw [stringText, List.cons_append] at hs ⊢
  rw [hv, hs]
  rfl

/-- A string that was written is read. -/
theorem read_stringText (s : List Char) : read (String.ofList (stringText s)) = .ok (.str (String.ofList s)) := by
  have hspace : skipSpace (stringText s) = stringText s := rfl
  have htext : readText (stringText s) = .ok (.str (String.ofList s)) := by
    rw [readText, hspace, readValue_stringText]
    rfl
  rw [read, readDecoded, String.toList_ofList, htext]
  rfl

/-! ### The characters of the text -/

theorem printable_unitEscape (n : Nat) : ∀ c ∈ unitEscape n, Printable c := by
  intro c hc
  simp only [unitEscape, hex_four, List.mem_cons, List.not_mem_nil, or_false] at hc
  rcases hc with rfl | rfl | rfl | rfl | rfl | rfl
  · decide
  · decide
  all_goals exact printable_hexDigit _

theorem printable_pair {a b : Char} (ha : Printable a) (hb : Printable b) : ∀ c ∈ [a, b], Printable c := by
  simp [ha, hb]

theorem printable_escapeChar (c : Char) : ∀ x ∈ escapeChar c, Printable x := by
  unfold escapeChar
  iterate 7
    split
    · exact printable_pair (by decide) (by decide)
  split
  · rename_i hp
    intro x hx
    rw [List.mem_singleton.1 hx]
    exact hp
  split
  · exact printable_unitEscape _
  · intro x hx
    rcases List.mem_append.1 hx with hx | hx <;> exact printable_unitEscape _ x hx

theorem printable_stringText (s : List Char) : ∀ c ∈ stringText s, Printable c := by
  intro c hc
  rw [stringText, List.cons_append, List.mem_cons, List.mem_append, List.mem_flatMap, List.mem_singleton] at hc
  rcases hc with rfl | ⟨x, -, hx⟩ | rfl
  · decide
  · exact printable_escapeChar x c hx
  · decide

end Easel.Json
