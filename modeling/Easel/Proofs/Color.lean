import Easel.Color
import Easel.Proofs.Json.Quoting

/-!
Colours that come from texts. Those are six hexadecimal digits, a number sign apart. Each channel of a colour is a byte as a share of
255, and is that byte again when it is written, so the digits come back, as capitals.
-/

namespace Easel

variable {c : Char} {n : Nat}

namespace Text

/-- The hexadecimal digits, small and capital. -/
def hexDigits : List Char := "0123456789abcdefABCDEF".toList

/-- A digit has a value below sixteen, in either case the same, and as a capital it is what that value is written with. -/
theorem hexValue?_of_mem (hc : c ∈ hexDigits) :
    ∃ n < 16, hexValue? c = some n ∧ hexValue? c.toUpper = some n ∧ (hexDigit n).toUpper = c.toUpper := by
  have hall : hexDigits.all fun c => (hexValue? c).any fun n =>
      n < 16 && hexValue? c.toUpper == some n && (hexDigit n).toUpper == c.toUpper := by rfl
  have hany := List.all_eq_true.1 hall c hc
  rw [Option.any_eq_true] at hany
  obtain ⟨n, hn, hvalue⟩ := hany
  simp only [Bool.and_eq_true, decide_eq_true_eq, beq_iff_eq] at hvalue
  obtain ⟨⟨hlt, hupper⟩, hwritten⟩ := hvalue
  exact ⟨n, hlt, hn, hupper, hwritten⟩

/-- Nothing else has a value. -/
theorem mem_of_hexValue? (h : hexValue? c = some n) : c ∈ hexDigits := by
  have hle {x y : Char} (hxy : x ≤ y) : x.toNat ≤ y.toNat := UInt32.le_iff_toNat_le.1 hxy
  have hbound : c.toNat < 103 := by
    unfold hexValue? at h
    split_ifs at h with hd hs hl
    · exact Nat.lt_of_le_of_lt (hle hd.2) (by decide)
    · exact Nat.lt_of_le_of_lt (hle hs.2) (by decide)
    · exact Nat.lt_of_le_of_lt (hle hl.2) (by decide)
  have hall : ∀ k < 103, (hexValue? (Char.ofNat k)).isSome → Char.ofNat k ∈ hexDigits := by decide +kernel
  have hc := hall c.toNat hbound
  rw [Char.ofNat_toNat, h] at hc
  exact hc rfl

end Text

namespace Rgb

variable {color : Rgb} {high low : Nat} {digits : List Char} {text : String} {v : Json} {a b : Char}

/-- A colour that was read, or black in its stead. -/
def Readable (color : Rgb) : Prop := color = black ∨ ∃ v, ofJson? v = some color

theorem byte_channel (hh : high < 16) (hl : low < 16) : byte (channel high low) = .ok (16 * high + low) := by
  have h : ∀ high < 16, ∀ low < 16, byte (channel high low) = .ok (16 * high + low) := by decide +kernel
  exact h high hh low hl

theorem toList_byteText (n : Nat) :
    (byteText n).toList = [(n / 16 % 16).digitChar.toUpper, (n % 16).digitChar.toUpper] := by
  have hhex : Text.hex 2 n = [Text.hexDigit (n / 16), Text.hexDigit n] := rfl
  rw [byteText, String.toList_ofList, hhex]
  rfl

/-! ### Reading -/

/-- Two hexadecimal digits make the byte of their channel, which is written with the same two as capitals. -/
theorem channel_of_digits (ha : a ∈ Text.hexDigits) (hb : b ∈ Text.hexDigits) :
    ∃ high low n, Text.hexValue? a = some high ∧ Text.hexValue? b = some low ∧
      Text.hexValue? a.toUpper = some high ∧ Text.hexValue? b.toUpper = some low ∧
      byte (channel high low) = .ok n ∧ (byteText n).toList = [a.toUpper, b.toUpper] := by
  obtain ⟨high, hhigh, hva, hua, hwa⟩ := Text.hexValue?_of_mem ha
  obtain ⟨low, hlow, hvb, hub, hwb⟩ := Text.hexValue?_of_mem hb
  refine ⟨high, low, 16 * high + low, hva, hvb, hua, hub, byte_channel hhigh hlow, ?_⟩
  have hdiv : (16 * high + low) / 16 % 16 = high % 16 := by omega
  have hmod : (16 * high + low) % 16 = low % 16 := by omega
  rw [toList_byteText, hdiv, hmod, ← hwa, ← hwb]
  rfl

/-- Six digits make a colour. It is written with them as capitals, and these make it again. -/
theorem ofDigits?_of_six (hlength : digits.length = 6) (hd : ∀ c ∈ digits, c ∈ Text.hexDigits) :
    ∃ color written, ofDigits? digits = some color ∧ color.hex = .ok written ∧
      written.toList = '#' :: digits.map Char.toUpper ∧ ofDigits? (digits.map Char.toUpper) = some color := by
  match digits, hlength with
  | [a, b, c, d, e, f], _ =>
    simp only [List.forall_mem_cons] at hd
    obtain ⟨ha, hb, hc, hd, he, hf, -⟩ := hd
    obtain ⟨redHigh, redLow, red, ha, hb, ha', hb', hred, hredText⟩ := channel_of_digits ha hb
    obtain ⟨greenHigh, greenLow, green, hc, hd, hc', hd', hgreen, hgreenText⟩ := channel_of_digits hc hd
    obtain ⟨blueHigh, blueLow, blue, he, hf, he', hf', hblue, hblueText⟩ := channel_of_digits he hf
    refine ⟨⟨channel redHigh redLow, channel greenHigh greenLow, channel blueHigh blueLow⟩,
      "#" ++ byteText red ++ byteText green ++ byteText blue, ?_, ?_, ?_, ?_⟩
    · simp [ofDigits?, ha, hb, hc, hd, he, hf]
    · rw [hex, hred, hgreen, hblue]
      rfl
    · simp [String.toList_append, hredText, hgreenText, hblueText]
    · simp [ofDigits?, ha', hb', hc', hd', he', hf']

theorem six_of_ofDigits? (h : ofDigits? digits = some color) : digits.length = 6 ∧ ∀ c ∈ digits, c ∈ Text.hexDigits := by
  unfold ofDigits? at h
  split at h
  · simp only [Option.bind_eq_bind, Option.bind_eq_some_iff] at h
    obtain ⟨_, ha, _, hb, _, hc, _, hd, _, he, _, hf, -⟩ := h
    simp [Text.mem_of_hexValue? ha, Text.mem_of_hexValue? hb, Text.mem_of_hexValue? hc, Text.mem_of_hexValue? hd,
      Text.mem_of_hexValue? he, Text.mem_of_hexValue? hf]
  · cases h

/-- The text is six hexadecimal digits, with a number sign before them or not. -/
def Spelled (text : String) (digits : List Char) : Prop :=
  digits.length = 6 ∧ (∀ c ∈ digits, c ∈ Text.hexDigits) ∧ (text.toList = digits ∨ text.toList = '#' :: digits)

theorem Spelled.ofHex?_eq (h : Spelled text digits) : ofHex? text = ofDigits? digits := by
  obtain ⟨-, hd, htext | htext⟩ := h
  · rw [ofHex?, htext]
    split
    · -- The number sign is no digit.
      exact absurd (hd '#' (List.mem_cons_self ..)) (by decide)
    · rfl
  · rw [ofHex?, htext]
    rfl

theorem spelled_of_ofHex? (h : ofHex? text = some color) : ∃ digits, Spelled text digits := by
  unfold ofHex? at h
  split at h
  · rename_i digits htext
    obtain ⟨hlength, hd⟩ := six_of_ofDigits? h
    exact ⟨digits, hlength, hd, .inr htext⟩
  · obtain ⟨hlength, hd⟩ := six_of_ofDigits? h
    exact ⟨text.toList, hlength, hd, .inl rfl⟩

/-- What is spelled as it should be is written with its own digits, as capitals behind a number sign, and read alike from there. -/
theorem Spelled.ofHex? (h : Spelled text digits) :
    ∃ color written, Rgb.ofHex? text = some color ∧ color.hex = .ok written ∧ written.toList = '#' :: digits.map Char.toUpper ∧
      Rgb.ofHex? written = some color := by
  obtain ⟨color, written, hread, hhex, hwritten, hagain⟩ := ofDigits?_of_six h.1 h.2.1
  refine ⟨color, written, h.ofHex?_eq.trans hread, hhex, hwritten, ?_⟩
  rw [Rgb.ofHex?, hwritten]
  exact hagain

/-! ### Writing -/

theorem newline_not_mem_byteText (n : Nat) : '\n' ∉ (byteText n).toList := by
  have hdigit : ∀ k < 16, k.digitChar.toUpper ≠ '\n' := by decide
  intro h
  rw [toList_byteText] at h
  simp only [List.mem_cons, List.not_mem_nil, or_false] at h
  rcases h with h | h <;> exact hdigit _ (Nat.mod_lt _ (by decide)) h.symm

theorem newline_not_mem_hex (h : color.hex = .ok text) : '\n' ∉ text.toList := by
  unfold Rgb.hex at h
  cases hr : byte color.r with
  | error => rw [hr] at h; cases h
  | ok r =>
    cases hg : byte color.g with
    | error => rw [hr, hg] at h; cases h
    | ok g =>
      cases hb : byte color.b with
      | error => rw [hr, hg, hb] at h; cases h
      | ok b =>
        rw [hr, hg, hb] at h
        cases h
        simp [String.toList_append, newline_not_mem_byteText]

/-- A colour that was read can be written, and it takes no second line. -/
theorem Readable.hex (h : color.Readable) : ∃ text, color.hex = .ok text ∧ '\n' ∉ text.toList := by
  have hwritten : ∃ text, color.hex = .ok text := by
    obtain rfl | ⟨v, h⟩ := h
    · have hzero : byte (.float 0.0) = .ok 0 := by decide +kernel
      refine ⟨"#" ++ byteText 0 ++ byteText 0 ++ byteText 0, ?_⟩
      rw [Rgb.hex, black, hzero]
      rfl
    · obtain ⟨text, -, hread⟩ := Option.bind_eq_some_iff.1 h
      obtain ⟨digits, hspelled⟩ := spelled_of_ofHex? hread
      obtain ⟨color', written, hread', hhex, -⟩ := hspelled.ofHex?
      rw [hread] at hread'
      cases hread'
      exact ⟨written, hhex⟩
  obtain ⟨text, htext⟩ := hwritten
  exact ⟨text, htext, newline_not_mem_hex htext⟩

/-! ### Both -/

/-- Colours are read from texts of six hexadecimal digits, behind a number sign or not, and from nothing else. A colour that was read is
written as its digits, all as capitals behind a number sign, and is read from that as it was; black stands in for all others. -/
theorem read_exactly_spelled (v : Json) :
    ((ofJson? v).isSome ↔ ∃ text digits, v = .str text ∧ Spelled text digits) ∧
    (∀ text digits, v = .str text → Spelled text digits → ofJson? v = some (ofJson v) ∧
      ∃ written, (ofJson v).hex = .ok written ∧ written.toList = '#' :: digits.map Char.toUpper ∧
        ofJson? (.str written) = some (ofJson v)) ∧
    (ofJson? v = none → ofJson v = black) := by
  have hspelled (text : String) (digits : List Char) (hv : v = .str text) (h : Spelled text digits) :
      ofJson? v = some (ofJson v) ∧ ∃ written, (ofJson v).hex = .ok written ∧
        written.toList = '#' :: digits.map Char.toUpper ∧ ofJson? (.str written) = some (ofJson v) := by
    obtain ⟨color, written, hread, hhex, hwritten, hagain⟩ := h.ofHex?
    subst hv
    have hcolor : ofJson? (.str text) = some color := hread
    have hsame : ofJson (.str text) = color := by rw [ofJson, hcolor]; rfl
    rw [hsame]
    exact ⟨hcolor, written, hhex, hwritten, hagain⟩
  refine ⟨⟨fun h => ?_, ?_⟩, hspelled, fun h => by rw [ofJson, h]; rfl⟩
  · obtain ⟨color, h⟩ := Option.isSome_iff_exists.1 h
    obtain ⟨text, hv, hread⟩ := Option.bind_eq_some_iff.1 h
    obtain ⟨digits, hd⟩ := spelled_of_ofHex? hread
    cases v <;> cases hv
    exact ⟨text, digits, rfl, hd⟩
  · rintro ⟨text, digits, hv, hd⟩
    rw [(hspelled text digits hv hd).1]
    rfl

/-- Digits of either case. -/
theorem read_either_case :
    Spelled "#0a1B2c" "0a1B2c".toList ∧ ∃ written, (ofJson (.str "#0a1B2c")).hex = .ok written ∧ written.toList = "#0A1B2C".toList ∧
      ofJson? (.str written) = some (ofJson (.str "#0a1B2c")) := by
  have hdigits : "0a1B2c".toList.all (· ∈ Text.hexDigits) = true := rfl
  have h : Spelled "#0a1B2c" "0a1B2c".toList :=
    ⟨rfl, fun c hc => of_decide_eq_true (List.all_eq_true.1 hdigits c hc), .inr rfl⟩
  obtain ⟨-, written, hhex, hwritten, hagain⟩ := (read_exactly_spelled (.str "#0a1B2c")).2.1 "#0a1B2c" "0a1B2c".toList rfl h
  exact ⟨h, written, hhex, hwritten, hagain⟩

/-- A line end behind the digits is too much. -/
example : ofJson? (.str "#FF0000\n") = none := by rfl

end Rgb

end Easel
