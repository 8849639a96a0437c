import Easel.Number
import Mathlib

/-!
Numbers compared by their values. The bits of a binary64 number are read here as its arithmetic reads them, so that twice a number
that is not below zero is not below zero either; a NaN has no value and stays a NaN.
-/

namespace Easel

open Float.Model UnpackedFloat

namespace Binary64

/-! ### Bits -/

def isNegative : Sign → Bool
  | .negative => true
  | .positive => false

def partsOf : UnpackedFloat → Parts
  | .notANumber => .nan
  | .infinity s => .infinite (isNegative s)
  | .zero s => .finite (isNegative s) 0 (-1074)
  | .finite s m e _ => .finite (isNegative s) m e

theorem unpackExponent_toNat (b : BitVec Format.binary64.numBits) :
    (unpackExponent b).toNat = b.toNat / 0x10000000000000 % 0x800 := by
  simp [unpackExponent, BitVec.extractLsb_toNat, Nat.shiftRight_eq_div_pow]

theorem unpackMantissa_toNat (b : BitVec Format.binary64.numBits) :
    (unpackMantissa b).toNat = b.toNat % 0x10000000000000 := by
  simp [unpackMantissa, BitVec.extractLsb_toNat]

theorem negative_unpackSign (b : BitVec Format.binary64.numBits) :
    isNegative (Sign.ofBitVec (unpackSign b)) = decide (0x8000000000000000 ≤ b.toNat) := by
  have hlt : b.toNat < 2 ^ 64 := b.isLt
  have hsign : (unpackSign b).toNat = b.toNat / 0x8000000000000000 := by
    simp [unpackSign, BitVec.extractLsb_toNat, Nat.shiftRight_eq_div_pow]
    omega
  have hzero : unpackSign b = 0#1 ↔ b.toNat < 0x8000000000000000 := by
    rw [← BitVec.toNat_inj, hsign, BitVec.toNat_ofNat]
    omega
  unfold Sign.ofBitVec
  split
  · rename_i h
    have := hzero.1 h
    exact (decide_eq_false (by omega)).symm
  · rename_i h
    rw [hzero] at h
    exact (decide_eq_true (by omega)).symm

theorem partsOf_unpack (b : BitVec Format.binary64.numBits) :
    partsOf (UnpackedFloat.unpack .binary64 b) =
      let exponent : Nat := b.toNat / 0x10000000000000 % 0x800
      let fraction := b.toNat % 0x10000000000000
      let negative : Bool := 0x8000000000000000 ≤ b.toNat
      if exponent = 2047 then if fraction = 0 then .infinite negative else .nan
      else if exponent = 0 then .finite negative fraction (-1074)
      else .finite negative (0x10000000000000 + fraction) ((exponent : Int) - 1075) := by
  have hexp := unpackExponent_toNat b
  have hman := unpackMantissa_toNat b
  have hall : unpackExponent b = -1#11 ↔ b.toNat / 0x10000000000000 % 0x800 = 2047 := by
    rw [← BitVec.toNat_inj, hexp]
    rfl
  have hnone : unpackExponent b = 0#11 ↔ b.toNat / 0x10000000000000 % 0x800 = 0 := by
    rw [← BitVec.toNat_inj, hexp]
    rfl
  have hfraction : unpackMantissa b = 0#52 ↔ b.toNat % 0x10000000000000 = 0 := by
    rw [← BitVec.toNat_inj, hman]
    rfl
  have hfull : (1#1 ++ unpackMantissa b).toNat = 0x10000000000000 + b.toNat % 0x10000000000000 := by
    rw [BitVec.toNat_append, ← Nat.shiftLeft_add_eq_or_of_lt (unpackMantissa b).isLt, hman, Nat.shiftLeft_eq]
    rfl
  -- Both sides ask first for the exponent of all ones, then for that of all zeros, and only the last has a hidden bit.
  unfold UnpackedFloat.unpack
  simp only [hall, hnone, hfraction]
  split
  · split
    · simp only [partsOf, negative_unpackSign]
    · rfl
  split
  · split
    · rename_i hz
      simp only [partsOf, negative_unpackSign, hz]
    · simp only [partsOf, negative_unpackSign, hman, hexp]
      congr 1
      rename_i h0 _
      rw [h0]
      rfl
  · simp only [partsOf, negative_unpackSign, hfull, hexp]
    congr 1

/-- The exact quotient of a number is the one its arithmetic works with. -/
theorem parts_eq (x : Float) : parts x = partsOf x.toModel.unpack := by
  obtain ⟨⟨bits, hv⟩⟩ := x
  exact (partsOf_unpack bits.toBitVec).symm

/-! ### Products -/

/-- Neither a NaN nor below zero. -/
def Upright : UnpackedFloat → Prop
  | .notANumber => False
  | .infinity s => s = .positive
  | .zero _ => True
  | .finite s .. => s = .positive

theorem unpack_mul (x y : Float) : (x * y).toModel.unpack =
    UnpackedFloat.unpack .binary64 (UnpackedFloat.pack .binary64
      (UnpackedFloat.mul .binary64 x.toModel.unpack y.toModel.unpack)) := rfl

theorem upright_unpack {e : BitVec 11} {m : BitVec 52} (he : e ≠ -1#11) :
    Upright (UnpackedFloat.unpack .binary64 (packComponents .binary64 .positive e m)) := by
  unfold UnpackedFloat.unpack
  simp only [unpackMantissa_packComponents, unpackExponent_packComponents, unpackSign_packComponents,
    Sign.ofBitVec_toBitVec, if_neg he]
  split
  · split
    · trivial
    · rfl
  · rfl

theorem upright_pack {u : UnpackedFloat} (hu : Upright u) :
    Upright (UnpackedFloat.unpack .binary64 (UnpackedFloat.pack .binary64 u)) := by
  cases u with
  | notANumber => exact hu
  | infinity s =>
    obtain rfl : s = .positive := hu
    rfl
  | zero s => cases s <;> trivial
  | finite s m e hm =>
    obtain rfl : s = .positive := hu
    unfold UnpackedFloat.pack
    dsimp only
    split
    · rfl
    · rename_i hlt
      split
      · refine upright_unpack fun h => ?_
        have h := congrArg BitVec.toNat h
        simp at h
        omega
      · exact upright_unpack (by decide)

theorem upright_mul {u : UnpackedFloat} (hu : Upright u) {m : Nat} {e : Int} (hm : 0 < m) :
    Upright (UnpackedFloat.mul .binary64 u (.finite .positive m e hm)) := by
  cases u with
  | notANumber => exact hu
  | infinity s =>
    obtain rfl : s = .positive := hu
    rfl
  | zero s => trivial
  | finite s m e hm =>
    obtain rfl : s = .positive := hu
    show Upright (roundWithAccuracy _ .positive _ _ _)
    unfold roundWithAccuracy
    dsimp only
    split
    · trivial
    · rfl

theorem upright_times {x y : Float} {m : Nat} {e : Int} {hm : 0 < m} (hx : Upright x.toModel.unpack)
    (hy : y.toModel.unpack = .finite .positive m e hm) : Upright (x * y).toModel.unpack := by
  rw [unpack_mul, hy]
  exact upright_pack (upright_mul hx hm)

end Binary64

namespace Number

/-- Values of numbers that are not NaN, the infinite ones at the ends. -/
abbrev Value := WithBot (WithTop ℚ)

def Value.finite (q : ℚ) : Value := ((q : WithTop ℚ) : WithBot (WithTop ℚ))

@[simp] theorem Value.finite_lt_finite {p q : ℚ} : finite p < finite q ↔ p < q := by
  rw [finite, finite, WithBot.coe_lt_coe, WithTop.coe_lt_coe]

@[simp] theorem Value.finite_le_finite {p q : ℚ} : finite p ≤ finite q ↔ p ≤ q := by
  rw [finite, finite, WithBot.coe_le_coe, WithTop.coe_le_coe]

theorem Value.bot_lt_finite (q : ℚ) : ⊥ < finite q := WithBot.bot_lt_coe _

theorem Value.finite_lt_top (q : ℚ) : finite q < ⊤ := WithBot.coe_lt_coe.2 (WithTop.coe_lt_top q)

def value? (n : Number) : Option Value :=
  match n.extent with
  | .nan => none
  | .below => some ⊥
  | .above => some ⊤
  | .exact m e => some (.finite (m * 2 ^ e))

def IsNaN (n : Number) : Prop := n.value? = none

instance (n : Number) : Decidable n.IsNaN := inferInstanceAs (Decidable (n.value? = none))

variable {a b n : Number}

/-- A value over the lower of two powers of two. -/
theorem scaled (m e f : Int) : (m * 2 ^ e : ℚ) = ((m * power 2 (e - f) : Int) : ℚ) * 2 ^ min e f := by
  have hsum : e = ((e - f).toNat : Int) + min e f := by omega
  rw [power, Nat.pow_eq]
  push_cast
  rw [mul_assoc, ← zpow_natCast (2 : ℚ), ← zpow_add₀ two_ne_zero, ← hsum]

theorem compare_scaled (m n e f : Int) :
    compare (m * power 2 (e - f)) (n * power 2 (f - e)) = compare (m * 2 ^ e : ℚ) (n * 2 ^ f) := by
  have hpos : (0 : ℚ) < 2 ^ min e f := zpow_pos two_pos _
  rw [scaled m e f, scaled n f e, min_comm f e]
  cases h : compare (m * power 2 (e - f)) (n * power 2 (f - e)) with
  | lt =>
    have hlt := compare_lt_iff_lt.1 h
    exact (compare_lt_iff_lt.2 (mul_lt_mul_of_pos_right (Int.cast_lt.2 hlt) hpos)).symm
  | eq =>
    have heq := compare_eq_iff_eq.1 h
    exact (compare_eq_iff_eq.2 (by rw [heq])).symm
  | gt =>
    have hgt := compare_gt_iff_gt.1 h
    exact (compare_gt_iff_gt.2 (mul_lt_mul_of_pos_right (Int.cast_lt.2 hgt) hpos)).symm

theorem compare_finite (p q : ℚ) : compare (Value.finite p) (Value.finite q) = compare p q := by
  rcases hpq : compare p q with _ | _ | _
  · exact compare_lt_iff_lt.2 (Value.finite_lt_finite.2 (compare_lt_iff_lt.1 hpq))
  · exact compare_eq_iff_eq.2 (by rw [compare_eq_iff_eq.1 hpq])
  · exact compare_gt_iff_gt.2 (Value.finite_lt_finite.2 (compare_gt_iff_gt.1 hpq))

/-- Numbers are compared by their values. -/
theorem compare?_eq (a b : Number) : a.compare? b = a.value?.bind fun x => b.value?.map fun y => compare x y := by
  have hlt {x y : Value} (h : x < y) : compare x y = .lt := compare_lt_iff_lt.2 h
  have hgt {x y : Value} (h : y < x) : compare x y = .gt := compare_gt_iff_gt.2 h
  have heq (x : Value) : compare x x = .eq := compare_eq_iff_eq.2 rfl
  unfold compare? value?
  cases a.extent <;> cases b.extent <;>
    simp only [hlt bot_lt_top, hgt bot_lt_top, hlt (Value.bot_lt_finite _), hgt (Value.bot_lt_finite _),
      hlt (Value.finite_lt_top _), hgt (Value.finite_lt_top _), heq, compare_scaled, compare_finite, Option.bind_none,
      Option.bind_some, Option.map_none, Option.map_some]

theorem lt_iff : a < b ↔ ∃ x ∈ a.value?, ∃ y ∈ b.value?, x < y := by
  show decide (a.compare? b = some .lt) = true ↔ _
  rw [compare?_eq]
  cases a.value? <;> cases b.value? <;> simp [compare_lt_iff_lt]

theorem le_iff : a ≤ b ↔ ∃ x ∈ a.value?, ∃ y ∈ b.value?, x ≤ y := by
  show (decide (a.compare? b = some .lt) || decide (a.compare? b = some .eq)) = true ↔ _
  rw [compare?_eq]
  cases a.value? <;> cases b.value? <;> simp [compare_lt_iff_lt, le_iff_lt_or_eq]

/-- What is not below a bound is at least the bound, if it is a number at all. -/
theorem le_of_not_lt (ha : ¬a.IsNaN) (hb : ¬b.IsNaN) (h : ¬a < b) : b ≤ a := by
  obtain ⟨x, hx⟩ := Option.ne_none_iff_exists'.1 ha
  obtain ⟨y, hy⟩ := Option.ne_none_iff_exists'.1 hb
  rw [lt_iff, hx, hy] at h
  rw [le_iff, hx, hy]
  simpa using h

theorem not_isNaN_of_le (h : a ≤ b) : ¬a.IsNaN ∧ ¬b.IsNaN := by
  obtain ⟨x, hx, y, hy, -⟩ := le_iff.1 h
  simp [IsNaN, Option.mem_def.1 hx, Option.mem_def.1 hy]

theorem value?_int (v : Int) : (int v).value? = some (.finite v) := by
  simp [value?, extent]

theorem value?_zero : (0 : Number).value? = some (.finite 0) := by
  rw [← Int.cast_zero]
  exact value?_int 0

theorem value?_one : (1 : Number).value? = some (.finite 1) := by
  rw [← Int.cast_one]
  exact value?_int 1

theorem value?_float_zero : (float 0.0).value? = (0 : Number).value? := by
  have hparts : Binary64.parts 0.0 = .finite false 0 (-1074) := by decide +kernel
  show _ = (int 0).value?
  simp [value?, extent, hparts]

theorem value?_float_one : (float 1.0).value? = (1 : Number).value? := by
  have hparts : Binary64.parts 1.0 = .finite false (2 ^ 52) (-52) := by decide +kernel
  have hone : (4503599627370496 * (2 ^ 52)⁻¹ : ℚ) = 1 := by norm_num
  show _ = (int 1).value?
  simp [value?, extent, hparts, hone]

theorem float_zero_le_iff : float 0.0 ≤ n ↔ 0 ≤ n := by
  rw [le_iff, le_iff, value?_float_zero]

theorem le_float_one_iff : n ≤ float 1.0 ↔ n ≤ 1 := by
  rw [le_iff, le_iff, value?_float_one]

theorem value?_float (x : Float) : (float x).value? =
    match x.toModel.unpack with
    | .notANumber => none
    | .infinity .negative => some ⊥
    | .infinity .positive => some ⊤
    | .zero _ => some (.finite 0)
    | .finite .negative m e _ => some (.finite (-(m * 2 ^ e)))
    | .finite .positive m e _ => some (.finite (m * 2 ^ e)) := by
  simp only [value?, extent, Binary64.parts_eq]
  rcases x.toModel.unpack with (_ | _) | _ | (_ | _) | ⟨_ | _, m, e, hm⟩ <;> simp [Binary64.partsOf, Binary64.isNegative]

theorem zero_le_iff : 0 ≤ n ↔ ∃ y ∈ n.value?, .finite 0 ≤ y := by
  show int 0 ≤ n ↔ _
  rw [le_iff, value?_int]
  simp

/-- A binary64 number is at least zero if it is neither a NaN nor below zero. -/
theorem zero_le_float_iff {x : Float} : 0 ≤ float x ↔ Binary64.Upright x.toModel.unpack := by
  have hpos (m : Nat) (e : Int) (hm : 0 < m) : (0 : ℚ) < m * 2 ^ e := by positivity
  rw [zero_le_iff, value?_float]
  rcases x.toModel.unpack with (_ | _) | _ | (_ | _) | ⟨_ | _, m, e, hm⟩ <;> simp [Binary64.Upright]
  · exact WithBot.coe_ne_bot
  · exact hpos m e hm
  · exact (hpos m e hm).le

theorem isNaN_float_iff {x : Float} : (float x).IsNaN ↔ x.toModel.unpack = .notANumber := by
  rw [IsNaN, value?_float]
  rcases x.toModel.unpack with (_ | _) | _ | (_ | _) | ⟨_ | _, m, e, hm⟩ <;> simp

/-! ### Twice a number -/

theorem zero_le_double (h : 0 ≤ n) : 0 ≤ n * 2 := by
  cases n with
  | int v =>
    show 0 ≤ int (v * 2)
    simp only [zero_le_iff, value?_int, Option.mem_some_iff, exists_eq_left', Value.finite_le_finite] at h ⊢
    have hv : 0 ≤ v := by exact_mod_cast h
    exact_mod_cast (by omega : 0 ≤ v * 2)
  | float x =>
    have htwo : (int 2).toFloat.toModel.unpack = .finite .positive (2 ^ 52) (-51) (by decide) := rfl
    show 0 ≤ float (x * (int 2).toFloat)
    rw [zero_le_float_iff] at h ⊢
    exact Binary64.upright_times h htwo

theorem isNaN_double (h : n.IsNaN) : (n * 2).IsNaN := by
  cases n with
  | int v => cases h
  | float x =>
    show (float (x * (int 2).toFloat)).IsNaN
    rw [isNaN_float_iff] at h ⊢
    have hmul (u : UnpackedFloat) : UnpackedFloat.mul .binary64 .notANumber u = .notANumber := by cases u <;> rfl
    rw [Binary64.unpack_mul, h, hmul]
    exact unpack_packedNaN

end Number
end Easel
