import FlightDeck.Lib.FloatRounding

set_option relaxedAutoImplicit false
set_option autoImplicit false

/-!
# Operations on floating-point numbers

Every arithmetic operation on numbers of a format returns the exact result rounded to the
format.

## Main results

* `FloatRounding.add_rounds`, `FloatRounding.sub_rounds`, `FloatRounding.mul_rounds`,
  `FloatRounding.div_rounds`, `FloatRounding.sqrt_rounds` — the operations.
-/

namespace FloatRounding

open Float.Model Float.Model.UnpackedFloat

variable {spec : Format}

/-! ## Conversion to a format -/

/-- Shifting to the left lengthens a mantissa. -/
lemma log2_shiftLeft {m : ℕ} (hm : m ≠ 0) (k : ℕ) : (m <<< k).log2 = m.log2 + k := by
  have hpos : 0 < m <<< k := by
    rw [Nat.shiftLeft_eq]
    positivity
  rw [Nat.log2_eq_iff hpos.ne', Nat.shiftLeft_eq]
  constructor
  · rw [pow_add]
    exact Nat.mul_le_mul_right _ (Nat.log2_self_le hm)
  · rw [show m.log2 + k + 1 = m.log2 + 1 + k by omega, pow_add]
    exact Nat.mul_lt_mul_of_pos_right Nat.lt_log2_self (by positivity)

/-- A mantissa shifted to the left stands for the same number at a smaller exponent. -/
lemma shiftLeft_mul (m k : ℕ) (e : ℤ) :
    ((m <<< k : ℕ) : ℝ) * (2 : ℝ) ^ (e - k) = m * (2 : ℝ) ^ e := by
  rw [Nat.shiftLeft_eq, zpow_sub₀ (by norm_num), zpow_natCast]
  push_cast
  field_simp

/-- Rounding an exact magnitude. -/
lemma round_rounds {m : ℕ} (hm : m ≠ 0) (e : ℤ) (sign : Sign) :
    Rounds spec (signed sign (m * (2 : ℝ) ^ e)) (UnpackedFloat.round spec sign m e) := by
  set k := (e - spec.targetExponent (totalExponent m e)).toNat with hk
  have htotal : totalExponent (m <<< k) (e - k) = totalExponent m e := by
    unfold totalExponent
    rw [log2_shiftLeft hm]
    omega
  have hexponent : e - k ≤ spec.targetExponent (totalExponent (m <<< k) (e - k)) := by
    rw [htotal]
    omega
  have h := roundWithAccuracy_rounds sign (represents_exact (m <<< k) (e - k)) hexponent
  rw [shiftLeft_mul] at h
  exact h

/-- Rounding an exact number. -/
lemma normalize_rounds (m e : ℤ) (zeroSign : Sign) :
    Rounds spec (m * (2 : ℝ) ^ e) (UnpackedFloat.normalize spec m e zeroSign) := by
  unfold UnpackedFloat.normalize
  rcases lt_trichotomy m 0 with hlt | rfl | hgt
  · have h := @round_rounds spec (-m).toNat (by omega) e .negative
    have hcast : (((-m).toNat : ℕ) : ℝ) = -(m : ℝ) := by
      exact_mod_cast congrArg (Int.cast (R := ℝ)) (Int.toNat_of_nonneg (by omega : 0 ≤ -m))
    rw [hcast, signed, neg_mul, neg_neg] at h
    rw [Int.compare_eq_lt.mpr hlt]
    exact h
  · rw [Int.cast_zero, zero_mul]
    exact rounds_zero zeroSign
  · have h := @round_rounds spec m.toNat (by omega) e .positive
    have hcast : ((m.toNat : ℕ) : ℝ) = (m : ℝ) := by
      exact_mod_cast congrArg (Int.cast (R := ℝ)) (Int.toNat_of_nonneg hgt.le)
    rw [hcast, signed] at h
    rw [Int.compare_eq_gt.mpr hgt]
    exact h

/-! ## Sums and differences -/

/-- The opposite number. -/
lemma IsNumber.neg {f : UnpackedFloat} (h : IsNumber spec f) : IsNumber spec f.neg := by
  cases f with
  | infinity sign => exact h
  | notANumber => exact h
  | zero sign => exact trivial
  | finite sign m e hpos => exact h

/-- The value of the opposite number. -/
@[simp] lemma value_neg (f : UnpackedFloat) : value f.neg = -value f := by
  cases f with
  | infinity sign => exact neg_zero.symm
  | notANumber => exact neg_zero.symm
  | zero sign => exact neg_zero.symm
  | finite sign m e hpos =>
    unfold UnpackedFloat.neg
    rw [value_finite, value_finite]
    cases sign
    · exact (neg_neg _).symm
    · rfl

/-- A signed mantissa at a smaller exponent. -/
lemma apply_shiftLeft (sign : Sign) (m : ℕ) {e e' : ℤ} (h : e' ≤ e) :
    ((sign.apply (m <<< (e - e').toNat : ℕ) : ℤ) : ℝ) * (2 : ℝ) ^ e' =
      signed sign (m * (2 : ℝ) ^ e) := by
  have hshift := shiftLeft_mul m (e - e').toNat e
  rw [show e - ((e - e').toNat : ℤ) = e' by omega] at hshift
  cases sign
  · rw [signed, ← hshift, Sign.apply, Int.cast_neg, Int.cast_natCast, neg_mul]
  · rw [signed, ← hshift, Sign.apply, Int.cast_natCast]

/-- The sum. -/
theorem add_rounds {a b : UnpackedFloat} (ha : IsNumber spec a) (hb : IsNumber spec b) :
    Rounds spec (value a + value b) (add spec a b) := by
  cases a with
  | infinity sign => exact ha.elim
  | notANumber => exact ha.elim
  | zero s₁ =>
    cases b with
    | infinity sign => exact hb.elim
    | notANumber => exact hb.elim
    | zero s₂ =>
      rw [show value (.zero s₁) + value (.zero s₂) = 0 from add_zero 0]
      show Rounds spec 0 (if s₁ == s₂ then .zero s₁ else .zero .positive)
      split_ifs
      · exact rounds_zero s₁
      · exact rounds_zero .positive
    | finite s₂ m₂ e₂ h₂ =>
      rw [show value (.zero s₁) = 0 from rfl, zero_add]
      exact hb.rounds
  | finite s₁ m₁ e₁ h₁ =>
    cases b with
    | infinity sign => exact hb.elim
    | notANumber => exact hb.elim
    | zero s₂ =>
      rw [show value (.zero s₂) = 0 from rfl, add_zero]
      exact ha.rounds
    | finite s₂ m₂ e₂ h₂ =>
      have h := @normalize_rounds spec
        (s₁.apply (m₁ <<< (e₁ - min e₁ e₂).toNat : ℕ) + s₂.apply (m₂ <<< (e₂ - min e₁ e₂).toNat : ℕ))
        (min e₁ e₂) .positive
      rw [Int.cast_add, add_mul, apply_shiftLeft _ _ (min_le_left _ _),
        apply_shiftLeft _ _ (min_le_right _ _)] at h
      rw [value_finite, value_finite]
      exact h

/-- A difference is the sum with the opposite number. -/
lemma sub_eq_add {a b : UnpackedFloat} (ha : IsNumber spec a) (hb : IsNumber spec b) :
    sub spec a b = add spec a b.neg := by
  cases a with
  | infinity sign => exact ha.elim
  | notANumber => exact ha.elim
  | zero s₁ =>
    cases b with
    | infinity sign => exact hb.elim
    | notANumber => exact hb.elim
    | zero s₂ => rfl
    | finite s₂ m₂ e₂ h₂ => rfl
  | finite s₁ m₁ e₁ h₁ =>
    cases b with
    | infinity sign => exact hb.elim
    | notANumber => exact hb.elim
    | zero s₂ => rfl
    | finite s₂ m₂ e₂ h₂ =>
      have hneg : ∀ m : ℕ, (-s₂).apply m = -s₂.apply m := fun m => by
        cases s₂
        · exact (neg_neg _).symm
        · rfl
      show normalize spec _ _ _ = normalize spec (_ + (-s₂).apply _) _ _
      rw [hneg, ← Int.sub_eq_add_neg]

/-- The difference. -/
theorem sub_rounds {a b : UnpackedFloat} (ha : IsNumber spec a) (hb : IsNumber spec b) :
    Rounds spec (value a - value b) (sub spec a b) := by
  rw [sub_eq_add ha hb, sub_eq_add_neg, ← value_neg]
  exact add_rounds ha hb.neg

/-! ## Products and quotients -/

/-- The sign of a product. -/
lemma signed_mul (s₁ s₂ : Sign) (x y : ℝ) :
    signed s₁ x * signed s₂ y = signed (s₁ * s₂) (x * y) := by
  cases s₁ <;> cases s₂
  · exact neg_mul_neg x y
  · exact neg_mul x y
  · exact mul_neg x y
  · rfl

/-- The sign of a quotient. -/
lemma signed_div (s₁ s₂ : Sign) (x y : ℝ) :
    signed s₁ x / signed s₂ y = signed (s₁ / s₂) (x / y) := by
  cases s₁ <;> cases s₂
  · exact neg_div_neg_eq x y
  · exact neg_div y x
  · exact div_neg x
  · rfl

/-- A mantissa that is long enough, or an exponent that is small enough, needs no shift to the
left. -/
lemma le_targetExponent {m : ℕ} {e : ℤ}
    (h : 2 ^ spec.mantissaBitsWithoutImplicit ≤ m ∨ e ≤ spec.minExponent) :
    e ≤ spec.targetExponent (totalExponent m e) := by
  unfold Format.targetExponent totalExponent
  rcases h with hlong | hsmall
  · have hm : m ≠ 0 := by
      have : 0 < 2 ^ spec.mantissaBitsWithoutImplicit := by positivity
      omega
    have hlog := (Nat.le_log2 hm).mpr hlong
    have hlength := mantissaBits_eq spec
    omega
  · exact hsmall.trans (le_max_right _ _)

/-- The product. -/
theorem mul_rounds {a b : UnpackedFloat} (ha : IsNumber spec a) (hb : IsNumber spec b) :
    Rounds spec (value a * value b) (mul spec a b) := by
  cases a with
  | infinity sign => exact ha.elim
  | notANumber => exact ha.elim
  | zero s₁ =>
    rw [show value (.zero s₁) = 0 from rfl, zero_mul]
    cases b with
    | infinity sign => exact hb.elim
    | notANumber => exact hb.elim
    | zero s₂ => exact rounds_zero (s₁ * s₂)
    | finite s₂ m₂ e₂ h₂ => exact rounds_zero (s₁ * s₂)
  | finite s₁ m₁ e₁ h₁ =>
    cases b with
    | infinity sign => exact hb.elim
    | notANumber => exact hb.elim
    | zero s₂ =>
      rw [show value (.zero s₂) = 0 from rfl, mul_zero]
      exact rounds_zero (s₁ * s₂)
    | finite s₂ m₂ e₂ h₂ =>
      have hexact := represents_exact (m₁ * m₂) (e₁ + e₂)
      have hvalue : ((m₁ * m₂ : ℕ) : ℝ) * (2 : ℝ) ^ (e₁ + e₂) =
          m₁ * (2 : ℝ) ^ e₁ * (m₂ * (2 : ℝ) ^ e₂) := by
        rw [zpow_add₀ (by norm_num)]
        push_cast
        ring
      rw [hvalue] at hexact
      rw [value_finite, value_finite, signed_mul]
      apply roundWithAccuracy_rounds (s₁ * s₂) hexact
      apply le_targetExponent
      -- one long factor makes the product long; two small exponents add up to a small one
      rcases ha.2.2 with hlong | hmin
      · exact Or.inl (hlong.trans (Nat.le_mul_of_pos_right m₁ h₂))
      · rcases hb.2.2 with hlong | hmin'
        · exact Or.inl (hlong.trans (Nat.le_mul_of_pos_left m₂ h₁))
        · have := minExponent_nonpos spec
          right
          omega

/-- There are residual bits unless the accuracy is exact. -/
lemma bits_eq_false_iff (m : ℕ) (acc : Accuracy) :
    ((ExtendedMantissa.ofMantissaAndAccuracy m acc).roundBit = false ∧
      (ExtendedMantissa.ofMantissaAndAccuracy m acc).stickyBit = false) ↔ acc = .exact := by
  cases acc with
  | exact => exact ⟨fun _ => rfl, fun _ => ⟨rfl, rfl⟩⟩
  | inexact o => cases o <;> simp [ExtendedMantissa.ofMantissaAndAccuracy]

/-- The accuracy of a fraction is exact only for zero. -/
lemma accuracyOfFraction_eq_exact_iff (num den : ℕ) :
    accuracyOfFraction num den = .exact ↔ num = 0 := by
  by_cases h : num = 0
  · simp [accuracyOfFraction, h]
  · simp [accuracyOfFraction, h]

/-- The quotient of two natural numbers. -/
lemma represents_quotient (n : ℕ) {d : ℕ} (hd : 0 < d) (e : ℤ) :
    Represents (.ofMantissaAndAccuracy (n / d) (accuracyOfFraction (n % d) d)) e
      ((n : ℝ) / d * (2 : ℝ) ^ e) := by
  have hpos := two_zpow_pos e
  have hd' : (0 : ℝ) < d := by exact_mod_cast hd
  have hdiv : ((n / d : ℕ) : ℝ) * d + ((n % d : ℕ) : ℝ) = n := by
    exact_mod_cast Nat.div_add_mod' n d
  have hsplit : (n : ℝ) / d = ((n / d : ℕ) : ℝ) + ((n % d : ℕ) : ℝ) / d := by
    rw [div_eq_iff hd'.ne', add_mul, div_mul_cancel₀ _ hd'.ne', hdiv]
  have hnonneg : (0 : ℝ) ≤ ((n % d : ℕ) : ℝ) / d := by positivity
  have hlt : ((n % d : ℕ) : ℝ) / d < 1 := by
    rw [div_lt_one hd']
    exact_mod_cast Nat.mod_lt n hd
  constructor
  · rw [mantissa_ofMantissaAndAccuracy, hsplit]
    exact mul_le_mul_of_nonneg_right (by linarith) hpos.le
  · rw [mantissa_ofMantissaAndAccuracy, hsplit]
    exact mul_lt_mul_of_pos_right (by linarith) hpos
  · rw [bits_eq_false_iff, accuracyOfFraction_eq_exact_iff, mantissa_ofMantissaAndAccuracy,
      mul_left_inj' hpos.ne', hsplit, add_eq_left, div_eq_zero_iff, or_iff_left hd'.ne',
      Nat.cast_eq_zero]

/-- The quotient of two mantissas is long enough. -/
lemma le_quotient {m₁ m₂ k : ℕ} (h₁ : m₁ ≠ 0) (h₂ : 0 < m₂)
    (hk : spec.mantissaBits + m₂.log2 ≤ m₁.log2 + k) :
    2 ^ spec.mantissaBitsWithoutImplicit ≤ m₁ <<< k / m₂ := by
  have hlength := mantissaBits_eq spec
  rw [Nat.le_div_iff_mul_le h₂, Nat.shiftLeft_eq]
  calc 2 ^ spec.mantissaBitsWithoutImplicit * m₂
      ≤ 2 ^ spec.mantissaBitsWithoutImplicit * 2 ^ (m₂.log2 + 1) :=
        Nat.mul_le_mul_left _ Nat.lt_log2_self.le
    _ = 2 ^ (spec.mantissaBits + m₂.log2) := by
        rw [← pow_add]
        congr 1
        omega
    _ ≤ 2 ^ (m₁.log2 + k) := Nat.pow_le_pow_right (by norm_num) hk
    _ = 2 ^ m₁.log2 * 2 ^ k := pow_add _ _ _
    _ ≤ m₁ * 2 ^ k := Nat.mul_le_mul_right _ (Nat.log2_self_le h₁)

/-- The quotient of two magnitudes. -/
lemma divCore_rounds {m₁ m₂ : ℕ} (h₁ : 0 < m₁) (h₂ : 0 < m₂) (e₁ e₂ : ℤ) (sign : Sign) :
    Rounds spec (signed sign (m₁ * (2 : ℝ) ^ e₁ / (m₂ * (2 : ℝ) ^ e₂)))
      (roundWithAccuracy spec sign (divCore spec m₁ e₁ m₂ e₂).1
        (divCore spec m₁ e₁ m₂ e₂).2.1 (divCore spec m₁ e₁ m₂ e₂).2.2) := by
  set T := spec.targetExponent (totalExponent m₁ e₁ - totalExponent m₂ e₂) with hT
  set t := min (e₁ - e₂) T with ht
  set k := (e₁ - e₂ - t).toNat with hk
  have hquotient := represents_quotient (m₁ <<< k) h₂ t
  have hvalue : ((m₁ <<< k : ℕ) : ℝ) / m₂ * (2 : ℝ) ^ t =
      m₁ * (2 : ℝ) ^ e₁ / (m₂ * (2 : ℝ) ^ e₂) := by
    have hshift := shiftLeft_mul m₁ k (e₁ - e₂)
    rw [show e₁ - e₂ - (k : ℤ) = t by omega, zpow_sub₀ (by norm_num)] at hshift
    rw [div_mul_eq_mul_div, hshift]
    ring
  rw [hvalue] at hquotient
  apply roundWithAccuracy_rounds sign hquotient
  apply le_targetExponent
  by_cases hmin : t ≤ spec.minExponent
  · exact Or.inr hmin
  · left
    apply le_quotient h₁.ne' h₂
    unfold Format.targetExponent totalExponent at hT
    omega

/-- The quotient, unless the divisor is zero. -/
theorem div_rounds {a b : UnpackedFloat} (ha : IsNumber spec a) (hb : IsNumber spec b)
    (hne : value b ≠ 0) : Rounds spec (value a / value b) (div spec a b) := by
  cases b with
  | infinity sign => exact hb.elim
  | notANumber => exact hb.elim
  | zero s₂ => exact (hne rfl).elim
  | finite s₂ m₂ e₂ h₂ =>
    cases a with
    | infinity sign => exact ha.elim
    | notANumber => exact ha.elim
    | zero s₁ =>
      rw [show value (.zero s₁) = 0 from rfl, zero_div]
      exact rounds_zero (s₁ / s₂)
    | finite s₁ m₁ e₁ h₁ =>
      rw [value_finite, value_finite, signed_div]
      exact divCore_rounds h₁ h₂ e₁ e₂ (s₁ / s₂)

/-! ## Square roots -/

/-- The square root of a natural number. -/
lemma represents_sqrt (n : ℕ) (e : ℤ) :
    Represents (.ofMantissaAndAccuracy n.sqrt
      (if n - n.sqrt * n.sqrt = 0 then .exact
        else .inexact (if n - n.sqrt * n.sqrt ≤ n.sqrt then .lt else .gt))) e
      (√n * (2 : ℝ) ^ e) := by
  have hpos := two_zpow_pos e
  have hle : (n.sqrt : ℝ) ≤ √n := by
    apply Real.le_sqrt_of_sq_le
    rw [pow_two]
    exact_mod_cast Nat.sqrt_le n
  have hlt : √(n : ℝ) < n.sqrt + 1 := by
    rw [Real.sqrt_lt' (by positivity), pow_two]
    exact_mod_cast Nat.lt_succ_sqrt n
  constructor
  · rw [mantissa_ofMantissaAndAccuracy]
    exact mul_le_mul_of_nonneg_right hle hpos.le
  · rw [mantissa_ofMantissaAndAccuracy]
    exact mul_lt_mul_of_pos_right hlt hpos
  · rw [bits_eq_false_iff, mantissa_ofMantissaAndAccuracy, mul_left_inj' hpos.ne',
      Real.sqrt_eq_iff_mul_self_eq (by positivity) (by positivity)]
    have hsq := Nat.sqrt_le n
    by_cases hzero : n - n.sqrt * n.sqrt = 0
    · have heq : n = n.sqrt * n.sqrt := by omega
      rw [if_pos hzero]
      exact ⟨fun _ => by exact_mod_cast heq, fun _ => rfl⟩
    · rw [if_neg hzero]
      constructor
      · intro hexact
        exact absurd hexact (by simp)
      · intro heq
        have : n = n.sqrt * n.sqrt := by exact_mod_cast heq
        omega

/-- The square root of a mantissa is long enough. -/
lemma le_sqrt {m k : ℕ} (hm : m ≠ 0)
    (hk : 2 * spec.mantissaBitsWithoutImplicit ≤ m.log2 + k) :
    2 ^ spec.mantissaBitsWithoutImplicit ≤ (m <<< k).sqrt := by
  rw [Nat.le_sqrt, ← pow_add, ← two_mul, Nat.shiftLeft_eq]
  calc 2 ^ (2 * spec.mantissaBitsWithoutImplicit) ≤ 2 ^ (m.log2 + k) :=
        Nat.pow_le_pow_right (by norm_num) hk
    _ = 2 ^ m.log2 * 2 ^ k := pow_add _ _ _
    _ ≤ m * 2 ^ k := Nat.mul_le_mul_right _ (Nat.log2_self_le hm)

/-- The square root of a magnitude. -/
lemma sqrtCore_rounds {m : ℕ} (hm : 0 < m) (e : ℤ) :
    Rounds spec (√(m * (2 : ℝ) ^ e))
      (roundWithAccuracy spec .positive (sqrtCore spec m e).1 (sqrtCore spec m e).2.1
        (sqrtCore spec m e).2.2) := by
  set T := spec.targetExponent ((totalExponent m e + 1).ediv 2) with hT
  set t := min (e.ediv 2) T with ht
  set k := (e - 2 * t).toNat with hk
  have hhalf : e.ediv 2 = e / 2 := rfl
  have htotal : (totalExponent m e + 1).ediv 2 = (totalExponent m e + 1) / 2 := rfl
  have hsqrt := represents_sqrt (m <<< k) t
  have hvalue : √((m <<< k : ℕ) : ℝ) * (2 : ℝ) ^ t = √(m * (2 : ℝ) ^ e) := by
    have hshift := shiftLeft_mul m k e
    rw [show e - (k : ℤ) = t + t by omega, zpow_add₀ (by norm_num)] at hshift
    rw [← hshift, Real.sqrt_mul (by positivity), Real.sqrt_mul_self (two_zpow_pos t).le]
  rw [hvalue] at hsqrt
  apply roundWithAccuracy_rounds .positive hsqrt
  apply le_targetExponent
  by_cases hmin : t ≤ spec.minExponent
  · exact Or.inr hmin
  · left
    apply le_sqrt hm.ne'
    have hlength := mantissaBits_eq spec
    rw [htotal] at hT
    unfold Format.targetExponent totalExponent at hT
    omega

/-- The square root of a number that is not negative. -/
theorem sqrt_rounds {a : UnpackedFloat} (ha : IsNumber spec a) (hnonneg : 0 ≤ value a) :
    Rounds spec √(value a) (sqrt spec a) := by
  cases a with
  | infinity sign => exact ha.elim
  | notANumber => exact ha.elim
  | zero sign =>
    rw [show value (.zero sign) = 0 from rfl, Real.sqrt_zero]
    exact rounds_zero sign
  | finite sign m e hpos =>
    have hmagnitude : (0 : ℝ) < m * (2 : ℝ) ^ e :=
      mul_pos (by exact_mod_cast hpos) (two_zpow_pos e)
    rw [value_finite] at hnonneg ⊢
    cases sign with
    | negative =>
      rw [signed] at hnonneg
      linarith
    | positive => exact sqrtCore_rounds hpos e

end FloatRounding
