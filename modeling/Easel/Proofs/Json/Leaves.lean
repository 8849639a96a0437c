import Easel.Proofs.Json.Reading

/-!
The leaves of JSON text: which texts stand for a string, said without the reader, and where a numeral ends.
-/

namespace Easel.Json

variable {s t b c rest start : List Char} {fuel n : Nat} {x : Char} {v : Json}

theorem ok_of_bind {ε α β : Type} {m : Except ε α} {k : α → Except ε β} {y : β} (h : m >>= k = .ok y) :
    ∃ a, m = .ok a ∧ k a = .ok y := by
  cases m with
  | error e => cases h
  | ok a => exact ⟨a, rfl, h⟩

/-! ### Strings -/

/-- The text goes on with the escape of the second half of a pair. -/
def GoesOnLow (s : List Char) : Prop :=
  ∃ digits more low, s = '\\' :: 'u' :: (digits ++ more) ∧ unit? digits = some low ∧ Text.isLowSurrogate low

/-- What stands between the quotes of a string, and the characters it stands for. -/
inductive Quoted : List Char → List Char → Prop
  | nil : Quoted [] []
  | plain {c : Char} {s cs : List Char} : c ≠ '\x22' → c ≠ '\\' → 32 ≤ c.toNat → Quoted s cs → Quoted (c :: s) (c :: cs)
  | simple {e d : Char} {s cs : List Char} : simpleEscape? e = some d → Quoted s cs → Quoted ('\\' :: e :: s) (d :: cs)
  /-- The first half of a pair stands for itself only if the second one does not follow. -/
  | unit {digits s cs : List Char} {n : Nat} : unit? digits = some n → (Text.isHighSurrogate n → ¬GoesOnLow s) → Quoted s cs →
    Quoted ('\\' :: 'u' :: (digits ++ s)) (Text.charOfUnit n :: cs)
  | pair {digits digits' s cs : List Char} {high low : Nat} : unit? digits = some high → Text.isHighSurrogate high →
    unit? digits' = some low → Text.isLowSurrogate low → Quoted s cs →
    Quoted ('\\' :: 'u' :: (digits ++ '\\' :: 'u' :: (digits' ++ s))) (Text.charOfPair high low :: cs)

/-- Characters without a meaning of their own stand for themselves. -/
def isPlain (c : Char) : Bool := c ≠ '\x22' && c ≠ '\\' && 32 ≤ c.toNat

theorem Quoted.of_plain (h : s.all isPlain) : Quoted s s := by
  induction s with
  | nil => exact .nil
  | cons c s ih =>
    rw [List.all_cons, Bool.and_eq_true] at h
    obtain ⟨⟨hq, hb⟩, hc⟩ : (c ≠ '\x22' ∧ c ≠ '\\') ∧ 32 ≤ c.toNat := by simpa [isPlain] using h.1
    exact .plain hq hb hc (ih h.2)

theorem length_of_unit? (h : unit? s = some n) : s.length = 4 := by
  unfold unit? at h
  split at h
  · rfl
  · cases h

theorem take_unit (h : unit? s = some n) (t : List Char) : (s ++ t).take 4 = s := List.take_left' (length_of_unit? h)

theorem drop_unit (h : unit? s = some n) (t : List Char) : (s ++ t).drop 4 = t := List.drop_left' (length_of_unit? h)

/-- An escape of four digits in front of the rest of a string. -/
theorem Quoted.unit_inv {cs : List Char} (h : Quoted ('\\' :: 'u' :: s) cs) :
    ∃ digits more n, s = digits ++ more ∧ unit? digits = some n := by
  cases h with
  | plain _ hb => exact absurd rfl hb
  | simple he => cases he
  | unit hd => exact ⟨_, _, _, rfl, hd⟩
  | pair hd => exact ⟨_, _, _, rfl, hd⟩

theorem eq_escape_of_append (h : s ++ '\x22' :: rest = '\\' :: 'u' :: t) :
    ∃ more, s = '\\' :: 'u' :: more ∧ t = more ++ '\x22' :: rest := by
  rcases s with _ | ⟨c, _ | ⟨d, more⟩⟩ <;> simp_all

/-- Half of a pair, or no half at all, is read by itself. -/
theorem readUnit_single {cs : List Char} (hd : unit? b = some n) (hlow : Text.isHighSurrogate n → ¬GoesOnLow s)
    (hs : Quoted s cs) : readUnit start (b ++ (s ++ '\x22' :: rest)) = .ok (Text.charOfUnit n, s ++ '\x22' :: rest) := by
  have hne : (s ++ '\x22' :: rest).isEmpty = false := by simp
  rw [readUnit, take_unit hd, drop_unit hd, hd, hne]
  simp only [Bool.false_eq_true, if_false]
  split
  · rename_i more hmore
    -- The rest of the string begins with an escape, so it has all the digits of one.
    obtain ⟨z, rfl, rfl⟩ := eq_escape_of_append hmore
    obtain ⟨digits, z, m, rfl, hm⟩ := hs.unit_inv
    have hno (hh : Text.isHighSurrogate n) : ¬Text.isLowSurrogate m := fun hl => hlow hh ⟨digits, z, m, rfl, hm, hl⟩
    rw [List.append_assoc, take_unit hm, drop_unit hm, hm]
    split
    · rename_i hh
      rw [Bool.and_eq_true] at hh
      simp [hno hh.1]
    · simp
  · rfl

theorem readUnit_both {low : Nat} (hd : unit? b = some n) (hhigh : Text.isHighSurrogate n) (hc : unit? c = some low)
    (hlow : Text.isLowSurrogate low) (hs : s ≠ []) :
    readUnit start (b ++ '\\' :: 'u' :: (c ++ s)) = .ok (Text.charOfPair n low, s) := by
  rw [readUnit, take_unit hd, drop_unit hd, hd]
  simp only [List.isEmpty_cons, Bool.false_eq_true, if_false, take_unit hc, drop_unit hc, hc, hhigh, hlow,
    List.isEmpty_eq_false_iff.2 hs, Bool.not_false, Bool.and_self, if_true]

theorem Quoted.read {cs : List Char} (h : Quoted b cs) (hf : b.length < fuel) :
    readString start fuel (b ++ '\x22' :: rest) = .ok (cs, rest) := by
  induction h generalizing fuel with
  | nil =>
    obtain ⟨fuel, rfl⟩ := Nat.exists_eq_add_one.2 hf
    rfl
  | @plain c s cs hq hb hc _ ih =>
    obtain ⟨fuel, rfl⟩ := Nat.exists_eq_add_one.2 (Nat.zero_lt_of_lt hf)
    have hr := ih (show s.length < fuel by simpa using hf)
    simp [readString, hq, hb, Nat.not_lt.2 hc, hr, bind, Except.bind, pure, Except.pure]
  | @simple e d s cs he _ ih =>
    obtain ⟨fuel, rfl⟩ := Nat.exists_eq_add_one.2 (Nat.zero_lt_of_lt hf)
    have hr := ih (show s.length < fuel by simp only [List.length_cons] at hf; omega)
    have hu : e ≠ 'u' := by
      rintro rfl
      cases he
    rw [List.cons_append, List.cons_append, readString.eq_5 _ _ _ _ _ hu]
    simp [he, hr, bind, Except.bind, pure, Except.pure]
  | @unit digits s cs n hd hlow hs ih =>
    obtain ⟨fuel, rfl⟩ := Nat.exists_eq_add_one.2 (Nat.zero_lt_of_lt hf)
    have hr := ih (show s.length < fuel by simp only [List.length_cons, List.length_append] at hf; omega)
    have hunit : readUnit ('u' :: (digits ++ (s ++ '\x22' :: rest))) (digits ++ (s ++ '\x22' :: rest)) = _ :=
      readUnit_single hd hlow hs
    simp [readString, hunit, hr, bind, Except.bind, pure, Except.pure]
  | @pair digits digits' s cs high low hd hhigh hd' hlow hs ih =>
    obtain ⟨fuel, rfl⟩ := Nat.exists_eq_add_one.2 (Nat.zero_lt_of_lt hf)
    have hr := ih (show s.length < fuel by simp only [List.length_cons, List.length_append] at hf; omega)
    have hunit : readUnit ('u' :: (digits ++ '\\' :: 'u' :: (digits' ++ (s ++ '\x22' :: rest))))
        (digits ++ '\\' :: 'u' :: (digits' ++ (s ++ '\x22' :: rest))) = _ :=
      readUnit_both hd hhigh hd' hlow (by simp)
    simp [readString, hunit, hr, bind, Except.bind, pure, Except.pure]

/-- What was read from the digits of an escape: half of a pair, or no half at all, or both halves. -/
theorem readUnit_cases (h : readUnit start s = .ok (x, rest)) : ∃ digits n, unit? digits = some n ∧
    ((s = digits ++ rest ∧ x = Text.charOfUnit n ∧ (Text.isHighSurrogate n → ∀ inner, rest = inner ++ '\x22' :: t → ¬GoesOnLow inner)) ∨
      ∃ digits' low, s = digits ++ '\\' :: 'u' :: (digits' ++ rest) ∧ x = Text.charOfPair n low ∧ Text.isHighSurrogate n ∧
        unit? digits' = some low ∧ Text.isLowSurrogate low) := by
  unfold readUnit at h
  split at h
  · cases h
  split at h
  · cases h
  rename_i n hn
  refine ⟨s.take 4, n, hn, ?_⟩
  have hs : s = s.take 4 ++ s.drop 4 := (List.take_append_drop 4 s).symm
  split at h
  · rename_i more hmore
    split at h
    · rename_i hhigh
      rw [Bool.and_eq_true] at hhigh
      split at h
      · cases h
      rename_i low hlow
      split at h
      · rename_i hl
        obtain ⟨rfl, rfl⟩ : _ ∧ _ := by simpa only [Except.ok.injEq, Prod.mk.injEq] using h
        refine .inr ⟨more.take 4, low, ?_, rfl, hhigh.1, hlow, hl⟩
        rw [List.take_append_drop, ← hmore, ← hs]
      · rename_i hl
        obtain ⟨rfl, rfl⟩ : _ ∧ _ := by simpa only [Except.ok.injEq, Prod.mk.injEq] using h
        refine .inl ⟨hs, rfl, fun _ inner hinner => ?_⟩
        rintro ⟨digits, after, m, rfl, hm, hml⟩
        rw [hmore] at hinner
        simp only [List.cons_append, List.append_assoc, List.cons.injEq, true_and] at hinner
        rw [hinner, take_unit hm, hm] at hlow
        cases hlow
        exact hl hml
    · rename_i hhigh
      obtain ⟨rfl, rfl⟩ : _ ∧ _ := by simpa only [Except.ok.injEq, Prod.mk.injEq] using h
      refine .inl ⟨hs, rfl, fun hh inner hinner => ?_⟩
      rintro ⟨digits, after, m, rfl, hm, -⟩
      rw [hmore] at hinner
      simp only [List.cons_append, List.append_assoc, List.cons.injEq, true_and] at hinner
      rw [hinner, drop_unit hm] at hhigh
      simp [hh] at hhigh
  · rename_i hmore
    obtain ⟨rfl, rfl⟩ : _ ∧ _ := by simpa only [Except.ok.injEq, Prod.mk.injEq] using h
    refine .inl ⟨hs, rfl, fun _ inner hinner => ?_⟩
    rintro ⟨digits, after, m, rfl, -, -⟩
    exact hmore _ hinner

theorem quoted_of_readString {cs : List Char} (h : readString start fuel s = .ok (cs, rest)) :
    ∃ b, s = b ++ '\x22' :: rest ∧ Quoted b cs := by
  fun_induction readString start fuel s generalizing cs rest with
  | case1 | case2 | case4 | case6 | case8 => cases h
  | case3 =>
    cases h
    exact ⟨[], rfl, .nil⟩
  | case5 fuel digits hc ih =>
    obtain ⟨⟨d, more⟩, hunit, h⟩ := ok_of_bind h
    obtain ⟨⟨ds, more'⟩, hrest, h⟩ := ok_of_bind h
    cases h
    obtain ⟨b, rfl, hb⟩ := ih _ hrest
    obtain ⟨u, n, hu, ⟨hs, hd, hhigh⟩ | ⟨u', low, hs, hd, hh, hl, hlow⟩⟩ := readUnit_cases (t := rest) hunit
    · rw [hs, hd]
      exact ⟨'\\' :: 'u' :: (u ++ b), by simp, .unit hu (fun hh => hhigh hh b rfl) hb⟩
    · rw [hs, hd]
      exact ⟨'\\' :: 'u' :: (u ++ '\\' :: 'u' :: (u' ++ b)), by simp, .pair hu hh hl hlow hb⟩
  | case7 fuel e more he d hd hc ih =>
    obtain ⟨⟨ds, more'⟩, hrest, h⟩ := ok_of_bind h
    cases h
    obtain ⟨b, rfl, hb⟩ := ih hrest
    exact ⟨'\\' :: e :: b, rfl, .simple hd hb⟩
  | case9 fuel c more hq hb hc ih =>
    obtain ⟨⟨ds, more'⟩, hrest, h⟩ := ok_of_bind h
    cases h
    obtain ⟨b, rfl, hb'⟩ := ih hrest
    exact ⟨c :: b, rfl, .plain hq hb (Nat.le_of_not_lt hc) hb'⟩

/-! ### Numerals -/

/-- A character that a numeral may go on with. -/
def isNumeralChar (c : Char) : Bool :=
  isDigit c || c = '-' || c = '+' || c = '.' || c = 'e' || c = 'E'

/-- No numeral goes on into this text. -/
def Delimited (s : List Char) : Prop :=
  ∀ c ∈ s.head?, isNumeralChar c = false

theorem isNumeralChar_of_isDigit (h : isDigit x) : isNumeralChar x := by simp [isNumeralChar, h]

theorem delimited_nil : Delimited [] := nofun

theorem delimited_cons : Delimited (x :: s) ↔ isNumeralChar x = false := by simp [Delimited]

theorem Delimited.not_digit (h : Delimited t) : ∀ c ∈ t.head?, isDigit c = false := fun c hc => by
  have hn := h c hc
  rw [Bool.eq_false_iff] at hn ⊢
  exact fun hd => hn (isNumeralChar_of_isDigit hd)

theorem takeWhile_append_delimited (ht : Delimited t) : (s ++ t).takeWhile isDigit = s.takeWhile isDigit := by
  have hnil : t.takeWhile isDigit = [] := by
    cases t with
    | nil => rfl
    | cons x t => exact List.takeWhile_cons_of_neg (by simpa using ht.not_digit x rfl)
  rw [List.takeWhile_append]
  split
  · rename_i hl
    rw [hnil, List.append_nil]
    exact ((List.takeWhile_prefix _).eq_of_length hl).symm
  · rfl

theorem dropWhile_append_delimited (ht : Delimited t) : (s ++ t).dropWhile isDigit = s.dropWhile isDigit ++ t := by
  have h := List.takeWhile_append_dropWhile (p := isDigit) (l := s ++ t)
  rw [takeWhile_append_delimited ht] at h
  conv at h => rhs; rw [← List.takeWhile_append_dropWhile (p := isDigit) (l := s), List.append_assoc]
  exact List.append_cancel_left h

theorem Delimited.head_ne (ht : Delimited t) {x : Char} (hx : isNumeralChar x) : ∀ more, t ≠ x :: more := by
  rintro more rfl
  rw [delimited_cons, hx] at ht
  cases ht

theorem splitMinus_append (ht : Delimited t) : splitMinus (s ++ t) = ((splitMinus s).1, (splitMinus s).2 ++ t) := by
  cases s with
  | nil => exact splitMinus.eq_2 t (ht.head_ne (by decide))
  | cons x s =>
    rw [List.cons_append]
    unfold splitMinus
    split <;> split <;> simp_all

theorem splitSign_append (ht : Delimited t) :
    Text.splitSign (s ++ t) = ((Text.splitSign s).1, (Text.splitSign s).2 ++ t) := by
  cases s with
  | nil => exact Text.splitSign.eq_3 t (ht.head_ne (by decide)) (ht.head_ne (by decide))
  | cons x s =>
    rw [List.cons_append]
    unfold Text.splitSign
    split <;> split <;> simp_all

theorem wholePart_append (ht : Delimited t) : wholePart (s ++ t) = wholePart s := by
  have htake : (s ++ t).takeWhile isDigit = s.takeWhile isDigit := takeWhile_append_delimited ht
  cases s with
  | nil => exact (wholePart.eq_2 t (ht.head_ne (by decide))).trans htake
  | cons x s =>
    rw [List.cons_append] at htake ⊢
    unfold wholePart
    split <;> split <;> simp_all

theorem fractionPart_append (ht : Delimited t) :
    fractionPart (s ++ t) = ((fractionPart s).1, (fractionPart s).2 ++ t) := by
  cases s with
  | nil => exact fractionPart.eq_2 t (ht.head_ne (by decide))
  | cons x s =>
    have htake : (s ++ t).takeWhile isDigit = s.takeWhile isDigit := takeWhile_append_delimited ht
    have hdrop : (s ++ t).dropWhile isDigit = s.dropWhile isDigit ++ t := dropWhile_append_delimited ht
    rw [List.cons_append]
    by_cases hx : x = '.'
    · subst hx
      simp only [fractionPart, List.span_eq_takeWhile_dropWhile, htake, hdrop]
      split <;> rfl
    · have hno (b more : List Char) : x :: b ≠ '.' :: more := fun h => hx (List.cons.inj h).1
      rw [fractionPart.eq_2 _ (hno _), fractionPart.eq_2 _ (hno _), List.cons_append]

theorem exponentPart_append (ht : Delimited t) :
    exponentPart (s ++ t) = ((exponentPart s).1, (exponentPart s).2 ++ t) := by
  cases s with
  | nil =>
    cases t with
    | nil => rfl
    | cons x t =>
      have hx : ¬(x = 'e' ∨ x = 'E') := by
        rintro (rfl | rfl)
        · exact ht.head_ne (by decide) _ rfl
        · exact ht.head_ne (by decide) _ rfl
      simp [exponentPart, hx]
  | cons x s =>
    have htake (b : List Char) : (b ++ t).takeWhile isDigit = b.takeWhile isDigit := takeWhile_append_delimited ht
    have hdrop (b : List Char) : (b ++ t).dropWhile isDigit = b.dropWhile isDigit ++ t := dropWhile_append_delimited ht
    rw [List.cons_append]
    simp only [exponentPart, splitSign_append ht, htake, hdrop]
    split
    · split <;> rfl
    · rfl

/-- Behind a numeral the text may be anything that the numeral does not go on into. -/
theorem readNumber_append (ht : Delimited t) :
    (readNumber (s ++ t)).toOption = (readNumber s).toOption.map fun r => (r.1, r.2 ++ t) := by
  obtain ⟨hwhole, -⟩ := wholePart_prefix (splitMinus s).2
  have hdrop : ((splitMinus s).2 ++ t).drop (wholePart (splitMinus s).2).length =
      (splitMinus s).2.drop (wholePart (splitMinus s).2).length ++ t :=
    List.drop_append_of_le_length hwhole.length_le
  unfold readNumber
  simp only [splitMinus_append ht, wholePart_append ht, hdrop, fractionPart_append ht, exponentPart_append ht]
  split
  · rfl
  split
  · split <;> rfl
  · rfl

theorem toOption_eq_some {ε α : Type} {m : Except ε α} {a : α} : m.toOption = some a ↔ m = .ok a := by
  cases m <;> simp [Except.toOption]

theorem readNumber_append_of_ok {k : Number} (h : readNumber s = .ok (k, [])) (ht : Delimited t) :
    readNumber (s ++ t) = .ok (k, t) := by
  rw [← toOption_eq_some, readNumber_append ht, h]
  rfl

theorem readNumber_of_append {k : Number} (h : readNumber (s ++ t) = .ok (k, t)) (ht : Delimited t) :
    readNumber s = .ok (k, []) := by
  rw [← toOption_eq_some, readNumber_append ht, Option.map_eq_some_iff] at h
  obtain ⟨⟨k', r⟩, hs, hr⟩ := h
  obtain ⟨hk, hrest⟩ := Prod.mk.inj hr
  obtain rfl : r = [] := List.append_left_eq_self.1 hrest
  rw [← hk]
  exact toOption_eq_some.1 hs

/-- The one text is the other one after characters of a numeral. -/
def Spends (s rest : List Char) : Prop :=
  ∃ c, s = c ++ rest ∧ ∀ x ∈ c, isNumeralChar x

theorem Spends.refl (s : List Char) : Spends s s := ⟨[], rfl, nofun⟩

theorem Spends.cons (hx : isNumeralChar x) (h : Spends s rest) : Spends (x :: s) rest := by
  obtain ⟨c, rfl, hc⟩ := h
  exact ⟨x :: c, rfl, List.forall_mem_cons.2 ⟨hx, hc⟩⟩

theorem Spends.trans (h : Spends s t) (h' : Spends t rest) : Spends s rest := by
  obtain ⟨c, rfl, hc⟩ := h
  obtain ⟨c', rfl, hc'⟩ := h'
  exact ⟨c ++ c', (List.append_assoc ..).symm, List.forall_mem_append.2 ⟨hc, hc'⟩⟩

theorem Spends.digits (hb : b <+: s) (hd : ∀ c ∈ b, isDigit c) : Spends s (s.drop b.length) := by
  obtain ⟨more, rfl⟩ := hb
  exact ⟨b, by rw [List.drop_left], fun c hc => isNumeralChar_of_isDigit (hd c hc)⟩

theorem Spends.run (s : List Char) : Spends s (s.dropWhile isDigit) :=
  ⟨s.takeWhile isDigit, (List.takeWhile_append_dropWhile ..).symm, fun _ hc => isNumeralChar_of_isDigit (List.mem_takeWhile_imp hc)⟩

theorem spends_splitMinus (s : List Char) : Spends s (splitMinus s).2 := by
  unfold splitMinus
  split
  · exact .cons (by decide) (.refl _)
  · exact .refl _

theorem spends_splitSign (s : List Char) : Spends s (Text.splitSign s).2 := by
  unfold Text.splitSign
  split
  · exact .cons (by decide) (.refl _)
  · exact .cons (by decide) (.refl _)
  · exact .refl _

theorem spends_fractionPart (s : List Char) : Spends s (fractionPart s).2 := by
  unfold fractionPart
  split
  · split
    · exact .refl _
    · rw [List.span_eq_takeWhile_dropWhile]
      exact .cons (by decide) (.run _)
  · exact .refl _

theorem spends_exponentPart (s : List Char) : Spends s (exponentPart s).2 := by
  unfold exponentPart
  split
  · exact .refl _
  · rename_i e rest
    split
    · rename_i he
      have hnum : isNumeralChar e := by
        rcases he with rfl | rfl <;> decide
      dsimp only
      split
      · exact .refl _
      · exact .cons hnum ((spends_splitSign rest).trans (.run _))
    · exact .refl _

theorem spends_readNumber {k : Number} (h : readNumber s = .ok (k, rest)) : Spends s rest := by
  obtain ⟨hwhole, hdigits⟩ := wholePart_prefix (splitMinus s).2
  have hrest : Spends s (exponentPart (fractionPart ((splitMinus s).2.drop (wholePart (splitMinus s).2).length)).2).2 :=
    (spends_splitMinus s).trans ((Spends.digits hwhole hdigits).trans ((spends_fractionPart _).trans (spends_exponentPart _)))
  unfold readNumber at h
  dsimp only at h
  split at h
  · cases h
  split at h
  · split at h
    · cases h
    · obtain rfl := (Prod.mk.inj (Except.ok.inj h)).2
      exact hrest
  · obtain rfl := (Prod.mk.inj (Except.ok.inj h)).2
    exact hrest

/-- Only characters of a numeral stand in one. -/
theorem isNumeralChar_of_readNumber {k : Number} (h : readNumber s = .ok (k, [])) : ∀ x ∈ s, isNumeralChar x := by
  obtain ⟨c, rfl, hc⟩ := spends_readNumber h
  rwa [List.append_nil]

/-- A numeral begins with a digit, or with the sign and a digit. -/
theorem start_of_readNumber {k : Number} (h : readNumber s = .ok (k, rest)) :
    ∃ d more, isDigit d ∧ (s = d :: more ∨ s = '-' :: d :: more) := by
  obtain ⟨⟨after, hafter⟩, hdigits⟩ := wholePart_prefix (splitMinus s).2
  unfold readNumber at h
  dsimp only at h
  split at h
  · cases h
  rename_i hne
  rcases hw : wholePart (splitMinus s).2 with _ | ⟨d, ds⟩
  · exact absurd (by rw [hw]; rfl) hne
  rw [hw] at hafter hdigits
  refine ⟨d, ds ++ after, hdigits d List.mem_cons_self, ?_⟩
  unfold splitMinus at hafter
  split at hafter
  · exact .inr (congrArg _ hafter.symm)
  · exact .inl hafter.symm

end Easel.Json
