import Easel.Proofs.Number

/-!
Numbers in brief. A whole number is written as the nearest binary64 number, so it has to be below the midpoint between the largest of
these and the power of two behind it; every other number can be written, and never with a line end.
-/

namespace Easel

open Float.Model UnpackedFloat

namespace Binary64

variable {n d a b k : Nat} {v e : Int}

/-! ### The largest numbers -/

/-- The midpoint between the largest binary64 number and the power of two behind it. -/
def midpoint : Nat := 2 ^ 1024 - 2 ^ 970

theorem midpoint_eq : midpoint = (2 ^ 54 - 1) * 2 ^ 970 := by
  rw [midpoint, Nat.sub_mul, one_mul, ← pow_add]

/-- A NaN has many patterns of bits; other numbers have one. -/
theorem parts_ofBits (b : UInt64) : parts (Float.ofBits b) = partsOf (UnpackedFloat.unpack .binary64 b.toBitVec) := by
  have hpacked : (Float.ofBits b).toModel.unpack =
      UnpackedFloat.unpack .binary64 (UnpackedFloat.pack .binary64 (UnpackedFloat.unpack .binary64 b.toBitVec)) := rfl
  rw [parts_eq, hpacked, pack_unpack]
  split
  · rename_i hnan
    obtain ⟨hexp, hman⟩ := of_decide_eq_true hnan
    have hunpack : UnpackedFloat.unpack .binary64 b.toBitVec = .notANumber := by
      unfold UnpackedFloat.unpack
      simp only [hexp, hman, if_true, if_false]
    rw [hunpack, unpack_packedNaN]
  · rfl

theorem isFinite_ofBits {negative : Bool} {magnitude : Nat} (h : magnitude ≤ infinityBits) :
    isFinite (ofBits negative magnitude) = true ↔ magnitude < infinityBits := by
  have hinfinity : infinityBits = 0x7ff0000000000000 := rfl
  have hlt : magnitude + (if negative then 0x8000000000000000 else 0) < 2 ^ 64 := by
    split <;> omega
  have hbits : (UInt64.ofNat (magnitude + if negative then 0x8000000000000000 else 0)).toBitVec.toNat =
      magnitude + if negative then 0x8000000000000000 else 0 := UInt64.toNat_ofNat_of_lt hlt
  have hexponent : (magnitude + if negative then 0x8000000000000000 else 0) / 0x10000000000000 % 0x800 =
      magnitude / 0x10000000000000 := by
    split <;> omega
  rw [isFinite, ofBits, parts_ofBits, partsOf_unpack, hbits, hexponent]
  dsimp only
  split_ifs <;> simp <;> omega

theorem roundHalfEven_mem (hd : 0 < d) (ha : a * d ≤ n) (hb : n < b * d) : a ≤ roundHalfEven n d ∧ roundHalfEven n d ≤ b := by
  have hle : a ≤ n / d := (Nat.le_div_iff_mul_le hd).2 ha
  have hlt : n / d < b := (Nat.div_lt_iff_lt_mul hd).2 hb
  unfold roundHalfEven
  dsimp only
  split <;> omega

theorem power_nat (k : Nat) : power 2 (k : Int) = 2 ^ k := rfl

theorem power_neg_nat (k : Nat) : power 2 (-(k : Int)) = 1 := by
  rw [power, Int.toNat_eq_zero.2 (by omega), Nat.pow_eq, pow_zero]

/-- A whole number has 53 bits when its highest bit is shifted there. -/
theorem scaled_mem (hn : n ≠ 0) (he : e = (n.log2 : Int) - 52) :
    2 ^ 52 * power 2 e ≤ n * power 2 (-e) ∧ n * power 2 (-e) < 2 ^ 53 * power 2 e := by
  have hlow : 2 ^ n.log2 ≤ n := Nat.log2_self_le hn
  have hhigh : n < 2 ^ (n.log2 + 1) := Nat.lt_log2_self
  rcases Nat.le_total 52 n.log2 with h | h
  · obtain ⟨k, hk⟩ := Nat.exists_eq_add_of_le h
    obtain rfl : e = k := by omega
    rw [power_nat, power_neg_nat, mul_one, ← pow_add, ← pow_add, ← hk]
    exact ⟨hlow, by rwa [show 53 + k = n.log2 + 1 by omega]⟩
  · obtain ⟨k, hk⟩ := Nat.exists_eq_add_of_le h
    obtain rfl : e = -(k : Int) := by omega
    have hpos : 0 < 2 ^ k := Nat.two_pow_pos k
    rw [neg_neg, power_nat, power_neg_nat, mul_one, mul_one]
    constructor
    · calc 2 ^ 52 = 2 ^ n.log2 * 2 ^ k := by rw [← pow_add, ← hk]
        _ ≤ n * 2 ^ k := Nat.mul_le_mul_right _ hlow
    · calc n * 2 ^ k < 2 ^ (n.log2 + 1) * 2 ^ k := Nat.mul_lt_mul_of_pos_right hhigh hpos
        _ = 2 ^ 53 := by rw [← pow_add, show n.log2 + 1 + k = 53 by omega]

theorem exponentOf_one (hn : n ≠ 0) : exponentOf n 1 = (n.log2 : Int) - 52 := by
  have hone : Nat.log2 1 = 0 := rfl
  have he : (n.log2 : Int) - (Nat.log2 1 : Nat) - 52 = n.log2 - 52 := by rw [hone]; omega
  have hshort : ¬n * power 2 (-((n.log2 : Int) - 52)) < 0x10000000000000 * (1 * power 2 ((n.log2 : Int) - 52)) := by
    rw [one_mul]
    exact Nat.not_lt.2 (scaled_mem hn rfl).1
  simp only [exponentOf, he, decide_eq_false hshort, Bool.false_eq_true, if_false]
  omega

/-- The bits of a whole number but for its sign, before they are cut off at those of infinity. -/
def magnitudeOf (n : Nat) : Nat :=
  let e : Int := (n.log2 : Int) - 52
  (e + 1074).toNat * 0x10000000000000 + roundHalfEven (n * power 2 (-e)) (power 2 e)

theorem ofInt?_eq_none (hv : v.natAbs ≠ 0) : ofInt? v = none ↔ infinityBits ≤ magnitudeOf v.natAbs := by
  have hq : ofQuotient (v < 0) v.natAbs 1 = ofBits (v < 0) (min infinityBits (magnitudeOf v.natAbs)) := by
    rw [ofQuotient, if_neg hv]
    dsimp only
    rw [exponentOf_one hv, one_mul]
    rfl
  have hfinite : isFinite (ofBits (v < 0) (min infinityBits (magnitudeOf v.natAbs))) = true ↔
      min infinityBits (magnitudeOf v.natAbs) < infinityBits := isFinite_ofBits (Nat.min_le_left _ _)
  rw [ofInt?, hq]
  split
  · rename_i h
    have hlt := hfinite.1 h
    exact iff_of_false nofun (by omega)
  · rename_i h
    rw [hfinite] at h
    exact iff_of_true rfl (by omega)

theorem magnitudeOf_mem (hn : n ≠ 0) :
    (n.log2 + 1023) * 2 ^ 52 ≤ magnitudeOf n ∧ magnitudeOf n ≤ (n.log2 + 1024) * 2 ^ 52 := by
  have hpower : 0 < power 2 ((n.log2 : Int) - 52) := Nat.pow_pos (by decide)
  obtain ⟨hscaled, hscaled'⟩ := scaled_mem hn rfl
  obtain ⟨hq, hq'⟩ := roundHalfEven_mem hpower hscaled hscaled'
  simp only [magnitudeOf]
  omega

/-- With as many bits as the largest numbers have it depends on whether rounding carries. -/
theorem infinityBits_le_of_log2 (h : n.log2 = 1023) : infinityBits ≤ magnitudeOf n ↔ midpoint ≤ n := by
  have hinfinity : infinityBits = 2047 * 2 ^ 52 := rfl
  have he : (n.log2 : Int) - 52 = (971 : Nat) := by omega
  have hlast : n < 2 ^ 53 * (2 * 2 ^ 970) := by
    rw [← pow_succ', ← pow_add, show 53 + (970 + 1) = n.log2 + 1 by omega]
    exact Nat.lt_log2_self
  have hpos : 0 < 2 ^ 970 := pow_pos two_pos 970
  rw [midpoint_eq, magnitudeOf, he, power_nat, power_neg_nat, mul_one, pow_succ', roundHalfEven]
  generalize 2 ^ 970 = unit at *
  have hdiv := Nat.div_add_mod n (2 * unit)
  have hmod := Nat.mod_lt n (Nat.mul_pos two_pos hpos)
  have hle : n / (2 * unit) ≤ 2 ^ 53 - 1 := Nat.le_sub_one_of_lt ((Nat.div_lt_iff_lt_mul (by omega)).2 hlast)
  rcases Nat.lt_or_eq_of_le hle with hlt | heq
  · have hless : n < (2 ^ 53 - 1) * (2 * unit) := (Nat.div_lt_iff_lt_mul (by omega)).1 hlt
    refine iff_of_false ?_ (by omega)
    split <;> omega
  · rw [heq] at hdiv ⊢
    split <;> omega

theorem infinityBits_le_iff (hn : n ≠ 0) : infinityBits ≤ magnitudeOf n ↔ midpoint ≤ n := by
  have hinfinity : infinityBits = 2047 * 2 ^ 52 := rfl
  obtain ⟨hmin, hmax⟩ := magnitudeOf_mem hn
  rcases Nat.lt_trichotomy n.log2 1023 with h | h | h
  · have hpow : 2 ^ (n.log2 + 1) ≤ 2 ^ (53 + 970) := pow_le_pow_right₀ one_le_two (by omega)
    have hsmall : n < 2 ^ 53 * 2 ^ 970 := Nat.lt_log2_self.trans_le (hpow.trans_eq (pow_add 2 53 970))
    rw [midpoint_eq]
    generalize 2 ^ 970 = unit at *
    exact iff_of_false (by omega) (by omega)
  · exact infinityBits_le_of_log2 h
  · have hbits : 54 + 970 ≤ n.log2 := h
    have hpow : 2 ^ (54 + 970) ≤ 2 ^ n.log2 := pow_le_pow_right₀ one_le_two hbits
    have hlarge : 2 ^ 54 * 2 ^ 970 ≤ n := (pow_add 2 54 970).symm.trans_le (hpow.trans (Nat.log2_self_le hn))
    rw [midpoint_eq]
    generalize 2 ^ 970 = unit at *
    exact iff_of_true (by omega) (by omega)

theorem ofInt?_eq_none_iff : ofInt? v = none ↔ midpoint ≤ v.natAbs := by
  rcases Nat.eq_zero_or_pos v.natAbs with h | h
  · obtain rfl := Int.natAbs_eq_zero.1 h
    have hzero : (ofInt? 0).isSome = true := by decide +kernel
    have hlow : ¬midpoint ≤ (0 : Int).natAbs := by decide +kernel
    refine iff_of_false (fun hnone => ?_) hlow
    rw [hnone] at hzero
    cases hzero
  · rw [ofInt?_eq_none h.ne', infinityBits_le_iff h.ne']

end Binary64

/-! ### Lines -/

namespace Decimal

variable {ds : List Char} {layout : Layout} {place : Int}

theorem newline_not_mem_digitsOf (n : Nat) : '\n' ∉ digitsOf n := by
  intro h
  exact absurd (Nat.isDigit_of_mem_toDigits (by decide) (by decide) h) (by decide)

theorem newline_not_mem_dropTrailingZeros (h : '\n' ∉ ds) : '\n' ∉ dropTrailingZeros ds := by
  intro hmem
  have hdrop := (List.dropWhile_sublist _).subset (List.mem_reverse.1 hmem)
  exact h (List.mem_reverse.1 hdrop)

theorem newline_not_mem_exponentMark (e : Int) : '\n' ∉ exponentMark e := by
  have hdigits := newline_not_mem_digitsOf e.natAbs
  unfold exponentMark
  dsimp only
  split_ifs <;> simp [hdigits]

theorem Layout.newline_not_mem_write (h : '\n' ∉ ds) : '\n' ∉ layout.write ds place := by
  have htake (k : Nat) : '\n' ∉ ds.take k := fun hmem => h (List.mem_of_mem_take hmem)
  have hdrop (k : Nat) : '\n' ∉ ds.drop k := fun hmem => h (List.mem_of_mem_drop hmem)
  have hmark := newline_not_mem_exponentMark place
  unfold Layout.write
  split
  · dsimp only
    split_ifs <;> simp [h, htake, hdrop]
  · split
    · exact h
    · simpa [hmark] using h
    · simpa [hmark] using h

theorem Scientific.newline_not_mem_write (s : Scientific) : '\n' ∉ s.write layout := by
  unfold Scientific.write
  split
  · exact Layout.newline_not_mem_write (by decide)
  · exact Layout.newline_not_mem_write (newline_not_mem_dropTrailingZeros (newline_not_mem_digitsOf _))

end Decimal

namespace Number

/-- The number cannot be written in brief. -/
def TooLarge : Number → Prop
  | .int v => Binary64.midpoint ≤ v.natAbs
  | .float _ => False

instance : DecidablePred TooLarge
  | .int v => inferInstanceAs (Decidable (Binary64.midpoint ≤ v.natAbs))
  | .float _ => inferInstanceAs (Decidable False)

theorem newline_not_mem_writeFloat {finite : Nat → Int → List Char} (h : ∀ m e, '\n' ∉ finite m e) (x : Float) :
    '\n' ∉ (writeFloat finite x).toList := by
  unfold writeFloat
  split
  · decide
  · split <;> decide
  · split_ifs <;> simp [h]

/-- A number is too large, or it is written on one line. -/
theorem brief_cases (n : Number) : n.TooLarge ∧ n.brief = .error .tooLarge ∨
    ¬n.TooLarge ∧ ∃ text, n.brief = .ok text ∧ '\n' ∉ text.toList := by
  have hline (x : Float) : '\n' ∉ (writeFloat (fun m e => (Decimal.toSignificant 6 m e).write briefLayout) x).toList :=
    newline_not_mem_writeFloat (fun _ _ => Decimal.Scientific.newline_not_mem_write _) x
  cases n with
  | float x => exact .inr ⟨id, _, rfl, hline x⟩
  | int v =>
    rw [TooLarge, ← Binary64.ofInt?_eq_none_iff]
    dsimp only [brief]
    cases hv : Binary64.ofInt? v with
    | none => exact .inl ⟨rfl, rfl⟩
    | some x => exact .inr ⟨nofun, _, rfl, hline x⟩

end Number

end Easel
