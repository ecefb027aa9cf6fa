import FlightDeck.Lib.FloatOperations

set_option relaxedAutoImplicit false
set_option autoImplicit false

/-!
# Order and encoding of floating-point numbers

The comparison of two numbers of a format is the comparison of the real numbers they stand for,
and encoding a number whose exponent fits the format and decoding it again gives it back.

## Main definitions

* `FloatRounding.InRange` — a float whose exponent fits the exponent field.

## Main results

* `FloatRounding.lt_iff`, `FloatRounding.le_iff` — comparison.
* `FloatRounding.unpack_pack` — the round trip.
* `FloatRounding.isNumber_unpack` — a finite encoding decodes to a number of the format.
-/

namespace FloatRounding

open Float.Model (Format UnpackedFloat totalExponent)
open Float.Model.UnpackedFloat

variable {spec : Format}

/-! ## Comparison -/

/-- Of two positive numbers, the one with the larger exponent is larger. -/
lemma magnitude_lt_of_exponent_lt {m₁ m₂ : ℕ} {e₁ e₂ : ℤ} (h₁ : m₁ < 2 ^ spec.mantissaBits)
    (h₂ : 2 ^ spec.mantissaBitsWithoutImplicit ≤ m₂) (he : e₁ < e₂) :
    (m₁ : ℝ) * (2 : ℝ) ^ e₁ < m₂ * (2 : ℝ) ^ e₂ := by
  have h₁' : (m₁ : ℝ) < 2 ^ spec.mantissaBits := by exact_mod_cast h₁
  have h₂' : (2 : ℝ) ^ spec.mantissaBitsWithoutImplicit ≤ m₂ := by exact_mod_cast h₂
  calc (m₁ : ℝ) * (2 : ℝ) ^ e₁ < 2 ^ spec.mantissaBits * (2 : ℝ) ^ e₁ :=
        mul_lt_mul_of_pos_right h₁' (two_zpow_pos e₁)
    _ = 2 ^ spec.mantissaBitsWithoutImplicit * (2 : ℝ) ^ (e₁ + 1) := by
        rw [mantissaBits_eq, pow_succ, two_zpow_succ]
        ring
    _ ≤ 2 ^ spec.mantissaBitsWithoutImplicit * (2 : ℝ) ^ e₂ := by
        apply mul_le_mul_of_nonneg_left _ (by positivity)
        exact zpow_le_zpow_right₀ (by norm_num) he
    _ ≤ m₂ * (2 : ℝ) ^ e₂ := mul_le_mul_of_nonneg_right h₂' (two_zpow_pos e₂).le

/-- Positive numbers are compared by exponent, then by mantissa. -/
lemma compare_magnitude {s₁ s₂ : Sign} {m₁ m₂ : ℕ} {e₁ e₂ : ℤ} {p₁ : 0 < m₁} {p₂ : 0 < m₂}
    (h₁ : IsNumber spec (.finite s₁ m₁ e₁ p₁)) (h₂ : IsNumber spec (.finite s₂ m₂ e₂ p₂)) :
    (compare e₁ e₂).then (compare m₁ m₂) =
      cmp ((m₁ : ℝ) * (2 : ℝ) ^ e₁) (m₂ * (2 : ℝ) ^ e₂) := by
  rcases lt_trichotomy e₁ e₂ with hlt | rfl | hgt
  · have hlong : 2 ^ spec.mantissaBitsWithoutImplicit ≤ m₂ := by
      rcases h₂.2.2 with h | h
      · exact h
      · have := h₁.2.1
        omega
    rw [compare_lt_iff_lt.mpr hlt, eq_comm]
    exact (cmp_eq_lt_iff _ _).mpr (magnitude_lt_of_exponent_lt h₁.1 hlong hlt)
  · have hpos := two_zpow_pos e₁
    rw [compare_eq_iff_eq.mpr rfl, Ordering.then]
    rcases lt_trichotomy m₁ m₂ with hlt | rfl | hgt
    · rw [compare_lt_iff_lt.mpr hlt, eq_comm]
      exact (cmp_eq_lt_iff _ _).mpr (mul_lt_mul_of_pos_right (by exact_mod_cast hlt) hpos)
    · rw [compare_eq_iff_eq.mpr rfl, cmp_self_eq_eq]
    · rw [compare_gt_iff_gt.mpr hgt, eq_comm]
      exact (cmp_eq_gt_iff _ _).mpr (mul_lt_mul_of_pos_right (by exact_mod_cast hgt) hpos)
  · have hlong : 2 ^ spec.mantissaBitsWithoutImplicit ≤ m₁ := by
      rcases h₁.2.2 with h | h
      · exact h
      · have := h₂.2.1
        omega
    rw [compare_gt_iff_gt.mpr hgt, eq_comm]
    exact (cmp_eq_gt_iff _ _).mpr (magnitude_lt_of_exponent_lt h₂.1 hlong hgt)

/-- Comparison of opposite numbers. -/
lemma cmp_neg_neg (x y : ℝ) : cmp (-x) (-y) = cmp y x := by
  rcases lt_trichotomy x y with h | rfl | h
  · rw [(cmp_eq_gt_iff _ _).mpr h, (cmp_eq_gt_iff _ _).mpr (neg_lt_neg h)]
  · rw [cmp_self_eq_eq, cmp_self_eq_eq]
  · rw [(cmp_eq_lt_iff _ _).mpr h, (cmp_eq_lt_iff _ _).mpr (neg_lt_neg h)]

/-- A positive magnitude. -/
lemma magnitude_pos {m : ℕ} (hm : 0 < m) (e : ℤ) : (0 : ℝ) < m * (2 : ℝ) ^ e :=
  mul_pos (by exact_mod_cast hm) (two_zpow_pos e)

/-- Comparison is that of the values. -/
theorem compare_eq {a b : UnpackedFloat} (ha : IsNumber spec a) (hb : IsNumber spec b) :
    a.compare b = some (cmp (value a) (value b)) := by
  cases a with
  | infinity sign => exact ha.elim
  | notANumber => exact ha.elim
  | zero s₁ =>
    cases b with
    | infinity sign => exact hb.elim
    | notANumber => exact hb.elim
    | zero s₂ => exact congrArg some (cmp_self_eq_eq (0 : ℝ)).symm
    | finite s₂ m₂ e₂ h₂ =>
      have hpos := magnitude_pos h₂ e₂
      rw [value_finite, show value (.zero s₁) = 0 from rfl]
      cases s₂ with
      | negative => exact congrArg some ((cmp_eq_gt_iff _ _).mpr (neg_neg_of_pos hpos)).symm
      | positive => exact congrArg some ((cmp_eq_lt_iff _ _).mpr hpos).symm
  | finite s₁ m₁ e₁ h₁ =>
    have hpos₁ := magnitude_pos h₁ e₁
    cases b with
    | infinity sign => exact hb.elim
    | notANumber => exact hb.elim
    | zero s₂ =>
      rw [value_finite, show value (.zero s₂) = 0 from rfl]
      cases s₁ with
      | negative => exact congrArg some ((cmp_eq_lt_iff _ _).mpr (neg_neg_of_pos hpos₁)).symm
      | positive => exact congrArg some ((cmp_eq_gt_iff _ _).mpr hpos₁).symm
    | finite s₂ m₂ e₂ h₂ =>
      have hpos₂ := magnitude_pos h₂ e₂
      have hmagnitude := compare_magnitude ha hb
      rw [value_finite, value_finite]
      cases s₁ <;> cases s₂
      · show some ((compare e₁ e₂).then (compare m₁ m₂)).swap = some (cmp (-_) (-_))
        rw [hmagnitude, cmp_swap, cmp_neg_neg]
      · exact congrArg some ((cmp_eq_lt_iff _ _).mpr ((neg_neg_of_pos hpos₁).trans hpos₂)).symm
      · exact congrArg some ((cmp_eq_gt_iff _ _).mpr ((neg_neg_of_pos hpos₂).trans hpos₁)).symm
      · exact congrArg some hmagnitude

/-- Strict comparison. -/
theorem lt_iff {a b : UnpackedFloat} (ha : IsNumber spec a) (hb : IsNumber spec b) :
    a.lt b = true ↔ value a < value b := by
  unfold UnpackedFloat.lt
  rw [compare_eq ha hb, beq_iff_eq, Option.some_inj, cmp_eq_lt_iff]

/-- Comparison. -/
theorem le_iff {a b : UnpackedFloat} (ha : IsNumber spec a) (hb : IsNumber spec b) :
    a.le b = true ↔ value a ≤ value b := by
  unfold UnpackedFloat.le
  rw [compare_eq ha hb, Option.any_some, Ordering.isLE_iff_ne_gt, ← not_lt, not_iff_not]
  exact cmp_eq_gt_iff _ _

/-! ## Encoding -/

/-- A float whose exponent fits the exponent field, with the largest code left to infinity. -/
def InRange (spec : Format) : UnpackedFloat → Prop
  | .finite _ _ e _ =>
    (e + spec.exponentBias + spec.mantissaBitsWithoutImplicit).toNat + 1 < 2 ^ spec.exponentBits
  | _ => True

/-- The smallest exponent has code one. -/
lemma minExponent_add_bias (spec : Format) :
    spec.minExponent + spec.exponentBias + spec.mantissaBitsWithoutImplicit = 1 := by
  have hpow : 1 ≤ 2 ^ (spec.exponentBits - 1) := Nat.one_le_two_pow
  have hbias : (spec.exponentBias : ℤ) = 2 ^ (spec.exponentBits - 1) - 1 := by
    unfold Format.exponentBias
    push_cast [hpow]
    rfl
  have hlength : (spec.mantissaBits : ℤ) = spec.mantissaBitsWithoutImplicit + 1 := by
    exact_mod_cast mantissaBits_eq spec
  unfold Format.minExponent
  rw [hbias, hlength]
  ring

/-- A number that is not too large is in range. -/
lemma IsNumber.inRange {f : UnpackedFloat} (h : IsNumber spec f) (hbits : 2 ≤ spec.exponentBits)
    (hle : |value f| ≤ 2 ^ spec.exponentBias) : InRange spec f := by
  cases f with
  | infinity sign => exact trivial
  | notANumber => exact trivial
  | zero sign => exact trivial
  | finite sign m e hpos =>
    have hmin := minExponent_add_bias spec
    have hbias : 2 * spec.exponentBias + 2 = 2 ^ spec.exponentBits := by
      obtain ⟨k, hk⟩ : ∃ k, spec.exponentBits = k + 1 := ⟨spec.exponentBits - 1, by omega⟩
      have : 1 ≤ 2 ^ k := Nat.one_le_two_pow
      unfold Format.exponentBias
      rw [hk, Nat.add_sub_cancel, pow_succ]
      omega
    have hfour : 4 ≤ 2 ^ spec.exponentBits := by
      calc 4 = 2 ^ 2 := rfl
        _ ≤ 2 ^ spec.exponentBits := Nat.pow_le_pow_right (by norm_num) hbits
    unfold InRange
    rcases h.2.2 with hlong | hsmall
    · have hexponent : (spec.mantissaBitsWithoutImplicit : ℤ) + e ≤ spec.exponentBias := by
        have habs : (m : ℝ) * (2 : ℝ) ^ e ≤ 2 ^ spec.exponentBias := by
          rw [value_finite] at hle
          cases sign with
          | negative =>
            rw [signed, abs_neg, abs_of_pos (magnitude_pos hpos e)] at hle
            exact hle
          | positive =>
            rw [signed, abs_of_pos (magnitude_pos hpos e)] at hle
            exact hle
        have hlong' : (2 : ℝ) ^ spec.mantissaBitsWithoutImplicit ≤ m := by exact_mod_cast hlong
        have hpow : (2 : ℝ) ^ ((spec.mantissaBitsWithoutImplicit : ℤ) + e) ≤
            (2 : ℝ) ^ (spec.exponentBias : ℤ) := by
          rw [zpow_add₀ (by norm_num), zpow_natCast, zpow_natCast]
          exact (mul_le_mul_of_nonneg_right hlong' (two_zpow_pos e).le).trans habs
        exact (zpow_le_zpow_iff_right₀ (by norm_num)).mp hpow
      omega
    · omega

/-- The all-ones exponent is not the zero one. -/
lemma zero_ne_neg_one : (0#(spec.exponentBits)) ≠ -1#(spec.exponentBits) := by
  rw [BitVec.neg_one_eq_allOnes, ne_eq, BitVec.zero_eq_allOnes_iff]
  exact spec.he.ne'

/-- Finite floats agree when their parts do. -/
lemma finite_congr {sign : Sign} {m m' : ℕ} {e e' : ℤ} {h : 0 < m} {h' : 0 < m'} (hm : m = m')
    (he : e = e') : UnpackedFloat.finite sign m e h = .finite sign m' e' h' := by
  subst hm he
  rfl

/-- The mantissa with its implicit bit. -/
lemma toNat_implicit (mantissa : BitVec spec.mantissaBitsWithoutImplicit) :
    (1#1 ++ mantissa).toNat = 2 ^ spec.mantissaBitsWithoutImplicit + mantissa.toNat := by
  rw [BitVec.toNat_append, ← Nat.shiftLeft_add_eq_or_of_lt mantissa.isLt, Nat.shiftLeft_eq]
  simp

/-- Decoding a subnormal number. -/
lemma unpack_subnormal (sign : Sign) {m : ℕ} (hpos : 0 < m)
    (hm : m < 2 ^ spec.mantissaBitsWithoutImplicit) :
    unpack spec (packComponents spec sign 0#_ (BitVec.ofNat _ m)) =
      .finite sign m spec.minExponent hpos := by
  have hmantissa : (BitVec.ofNat spec.mantissaBitsWithoutImplicit m) ≠ 0#_ := by
    intro hzero
    have := congrArg BitVec.toNat hzero
    rw [BitVec.toNat_ofNat, Nat.mod_eq_of_lt hm, BitVec.toNat_zero] at this
    omega
  have hmin := minExponent_add_bias spec
  unfold unpack
  simp only [unpackMantissa_packComponents, unpackExponent_packComponents,
    unpackSign_packComponents, Sign.ofBitVec_toBitVec, if_neg zero_ne_neg_one, if_true,
    dif_neg hmantissa]
  apply finite_congr
  · rw [BitVec.toNat_ofNat, Nat.mod_eq_of_lt hm]
  · rw [BitVec.toNat_zero]
    omega

/-- Decoding a normal number. -/
lemma unpack_normal (sign : Sign) {m k : ℕ} (hpos : 0 < m) (hk : 0 < k)
    (hk' : k + 1 < 2 ^ spec.exponentBits) (hm : m < 2 ^ spec.mantissaBits)
    (hlong : 2 ^ spec.mantissaBitsWithoutImplicit ≤ m) :
    unpack spec (packComponents spec sign (BitVec.ofNat _ k) (BitVec.ofNat _ m)) =
      .finite sign m (k - (spec.exponentBias + spec.mantissaBitsWithoutImplicit)) hpos := by
  have hkmod : k % 2 ^ spec.exponentBits = k := Nat.mod_eq_of_lt (by omega)
  have hones : BitVec.ofNat spec.exponentBits k ≠ -1#_ := by
    intro h
    have := congrArg BitVec.toNat h
    rw [BitVec.neg_one_eq_allOnes, BitVec.toNat_allOnes, BitVec.toNat_ofNat, hkmod] at this
    omega
  have hzero : BitVec.ofNat spec.exponentBits k ≠ 0#_ := by
    intro h
    have := congrArg BitVec.toNat h
    rw [BitVec.toNat_ofNat, hkmod, BitVec.toNat_zero] at this
    omega
  unfold unpack
  simp only [unpackMantissa_packComponents, unpackExponent_packComponents,
    unpackSign_packComponents, Sign.ofBitVec_toBitVec, if_neg hones, if_neg hzero]
  apply finite_congr
  · rw [mantissaBits_eq, pow_succ] at hm
    rw [toNat_implicit, BitVec.toNat_ofNat, Nat.mod_eq_sub_mod hlong,
      Nat.mod_eq_of_lt (by omega)]
    omega
  · rw [BitVec.toNat_ofNat, hkmod]

/-- **Round trip**: a number in range is decoded from its encoding. -/
theorem unpack_pack {f : UnpackedFloat} (h : IsNumber spec f) (hr : InRange spec f) :
    unpack spec (pack spec f) = f := by
  cases f with
  | infinity sign => exact h.elim
  | notANumber => exact h.elim
  | zero sign => exact unpack_packedZero
  | finite sign m e hpos =>
    have hmin := minExponent_add_bias spec
    have hlength := mantissaBits_eq spec
    have hle := h.2.1
    have hlog := (Nat.log2_lt hpos.ne').mpr h.1
    unfold InRange at hr
    unfold pack
    simp only
    rw [if_neg (by omega)]
    split_ifs with hnormal
    · have hlong : 2 ^ spec.mantissaBitsWithoutImplicit ≤ m :=
        (Nat.le_log2 hpos.ne').mp (by omega)
      rw [unpack_normal sign hpos (by omega) hr h.1 hlong]
      exact finite_congr rfl (by omega)
    · have hshort : m < 2 ^ spec.mantissaBitsWithoutImplicit :=
        (Nat.log2_lt hpos.ne').mp (by omega)
      rw [unpack_subnormal sign hpos hshort]
      refine finite_congr rfl ?_
      rcases h.2.2 with hlong | hsmall
      · omega
      · exact hsmall.symm

/-- A finite encoding decodes to a number of the format. -/
theorem isNumber_unpack {b : BitVec spec.numBits} (h : unpackExponent b ≠ -1#_) :
    IsNumber spec (unpack spec b) := by
  have hmin := minExponent_add_bias spec
  have hlength := mantissaBits_eq spec
  have hlt := (unpackMantissa b).isLt
  unfold unpack
  simp only
  rw [if_neg h]
  split_ifs with hzero hmantissa
  · exact trivial
  · refine ⟨?_, ?_, Or.inr ?_⟩
    · rw [hlength, pow_succ]
      omega
    · rw [hzero, BitVec.toNat_zero]
      omega
    · rw [hzero, BitVec.toNat_zero]
      omega
  · have hpos : 0 < (unpackExponent b).toNat :=
      Nat.pos_of_ne_zero fun h0 => hzero (BitVec.eq_of_toNat_eq (h0.trans BitVec.toNat_zero.symm))
    refine ⟨?_, ?_, Or.inl ?_⟩
    · rw [toNat_implicit, hlength, pow_succ]
      omega
    · omega
    · rw [toNat_implicit]
      omega

end FloatRounding
