import Mathlib

set_option relaxedAutoImplicit false
set_option autoImplicit false

/-!
# Rounding of floating-point numbers

Lean models a floating-point operation as an exact computation on a mantissa and an exponent,
rounded to the format. This module says what the rounding guarantees: the result is a number of
the format on the same side of every number of the format as the exact value. In particular,
an exact value between two numbers of the format is rounded to a result between them.

## Main definitions

* `FloatRounding.value` — the real number an unpacked float stands for.
* `FloatRounding.IsNumber` — a finite float in the canonical form of a format.
* `FloatRounding.OnGrid` — a real number with a short enough mantissa.
* `FloatRounding.Rounds` — a float is the exact value rounded to the format.

## Main results

* `FloatRounding.roundWithAccuracy_rounds` — the rounding itself.
* `FloatRounding.add_rounds`, `FloatRounding.sub_rounds`, `FloatRounding.mul_rounds`,
  `FloatRounding.div_rounds`, `FloatRounding.sqrt_rounds` — the operations.
-/

namespace FloatRounding

open Float.Model Float.Model.UnpackedFloat

variable {spec : Format}

/-! ## Numbers of a format -/

/-- The real number an unpacked float stands for; zero for those that stand for none. -/
noncomputable def value : UnpackedFloat → ℝ
  | .finite sign mantissa exponent _ => (sign.apply mantissa : ℤ) * (2 : ℝ) ^ exponent
  | _ => 0

/-- A finite number in canonical form: the mantissa is as long as it may be, unless the exponent
is the smallest one. -/
def IsNumber (spec : Format) : UnpackedFloat → Prop
  | .finite _ mantissa exponent _ =>
    mantissa < 2 ^ spec.mantissaBits ∧ spec.minExponent ≤ exponent ∧
      (2 ^ spec.mantissaBitsWithoutImplicit ≤ mantissa ∨ exponent = spec.minExponent)
  | .zero _ => True
  | _ => False

/-- A real number with a short enough mantissa, of any size. -/
def OnGrid (spec : Format) (r : ℝ) : Prop :=
  ∃ n k : ℤ, |n| ≤ 2 ^ spec.mantissaBits ∧ spec.minExponent ≤ k ∧ r = n * (2 : ℝ) ^ k

/-- The float is a number of the format, and no number of the format separates it from `q`. -/
structure Rounds (spec : Format) (q : ℝ) (f : UnpackedFloat) : Prop where
  /-- It is a number of the format. -/
  number : IsNumber spec f
  /-- It is at most every number of the format that is at least `q`. -/
  le : ∀ r, OnGrid spec r → q ≤ r → value f ≤ r
  /-- It is at least every number of the format that is at most `q`. -/
  ge : ∀ r, OnGrid spec r → r ≤ q → r ≤ value f

/-- The length of a mantissa. -/
lemma mantissaBits_eq (spec : Format) :
    spec.mantissaBits = spec.mantissaBitsWithoutImplicit + 1 := Nat.add_comm _ _

/-- A mantissa has two bits or more. -/
lemma two_le_mantissaBits (spec : Format) : 2 ≤ spec.mantissaBits := by
  have := spec.hm
  rw [mantissaBits_eq]
  omega

/-- The smallest exponent is not positive. -/
lemma minExponent_nonpos (spec : Format) : spec.minExponent ≤ 0 := by
  have hpow : (1 : ℤ) ≤ 2 ^ (spec.exponentBits - 1) := one_le_pow₀ (by norm_num)
  have hbits : (2 : ℤ) ≤ spec.mantissaBits := by exact_mod_cast two_le_mantissaBits spec
  unfold Format.minExponent
  linarith

/-- The opposite of a number of the format is one. -/
lemma OnGrid.neg {r : ℝ} (h : OnGrid spec r) : OnGrid spec (-r) := by
  obtain ⟨n, k, hn, hk, rfl⟩ := h
  exact ⟨-n, k, by rwa [abs_neg], hk, by simp⟩

/-- Zero is a number of the format. -/
lemma onGrid_zero (spec : Format) : OnGrid spec 0 :=
  ⟨0, 0, by simp, minExponent_nonpos spec, by simp⟩

/-- A natural number that is not too long, scaled. -/
lemma onGrid_mul_pow (n k : ℕ) (hn : n ≤ 2 ^ spec.mantissaBits) :
    OnGrid spec (n * 2 ^ k) := by
  refine ⟨n, k, ?_, ?_, by norm_num⟩
  · rw [Nat.abs_cast]
    exact_mod_cast hn
  · have := minExponent_nonpos spec
    omega

/-- The value of a number of the format. -/
lemma IsNumber.onGrid {f : UnpackedFloat} (h : IsNumber spec f) : OnGrid spec (value f) := by
  cases f with
  | infinity sign => exact h.elim
  | notANumber => exact h.elim
  | zero sign => exact onGrid_zero spec
  | finite sign mantissa exponent hpos =>
    refine ⟨sign.apply mantissa, exponent, ?_, h.2.1, rfl⟩
    have hlt : (mantissa : ℤ) < 2 ^ spec.mantissaBits := by exact_mod_cast h.1
    cases sign
    · rw [Sign.apply, abs_neg, Nat.abs_cast]
      exact hlt.le
    · rw [Sign.apply, Nat.abs_cast]
      exact hlt.le

/-- A number of the format is its own rounding. -/
lemma IsNumber.rounds {f : UnpackedFloat} (h : IsNumber spec f) : Rounds spec (value f) f where
  number := h
  le _ _ hle := hle
  ge _ _ hge := hge

/-- Zero is the rounding of zero. -/
lemma rounds_zero (sign : Sign) : Rounds spec 0 (.zero sign) :=
  IsNumber.rounds (f := .zero sign) trivial

/-! ## Mantissas with residual bits -/

/-- The mantissa is the whole part of `v` on the scale of the exponent, and the residual bits
tell whether anything is left. -/
structure Represents (em : ExtendedMantissa) (exponent : ℤ) (v : ℝ) : Prop where
  /-- The mantissa is not too large. -/
  le : em.mantissa * (2 : ℝ) ^ exponent ≤ v
  /-- Nor is it too small. -/
  lt : v < (em.mantissa + 1) * (2 : ℝ) ^ exponent
  /-- Without residual bits nothing is left. -/
  exact_iff : (em.roundBit = false ∧ em.stickyBit = false) ↔
    v = em.mantissa * (2 : ℝ) ^ exponent

/-- The scale doubles from one exponent to the next. -/
lemma two_zpow_succ (e : ℤ) : (2 : ℝ) ^ (e + 1) = 2 * (2 : ℝ) ^ e := by
  rw [zpow_add₀ (by norm_num), zpow_one, mul_comm]

/-- The scale is positive. -/
lemma two_zpow_pos (e : ℤ) : (0 : ℝ) < (2 : ℝ) ^ e := zpow_pos (by norm_num) e

/-- Shifting by one bit. -/
lemma Represents.shiftRightOne {em : ExtendedMantissa} {e : ℤ} {v : ℝ} (h : Represents em e v) :
    Represents em.shiftRightOne (e + 1) v := by
  obtain ⟨m, roundBit, stickyBit⟩ := em
  have hpos := two_zpow_pos e
  have hdiv : ((m / 2 : ℕ) : ℝ) * 2 + ((m % 2 : ℕ) : ℝ) = m := by
    exact_mod_cast Nat.div_add_mod' m 2
  have hmod : ((m % 2 : ℕ) : ℝ) = 0 ∨ ((m % 2 : ℕ) : ℝ) = 1 := by
    rcases Nat.mod_two_eq_zero_or_one m with h0 | h1
    · exact Or.inl (by rw [h0, Nat.cast_zero])
    · exact Or.inr (by rw [h1, Nat.cast_one])
  have hle := h.le
  have hlt := h.lt
  have hexact := h.exact_iff
  simp only at hle hlt hexact
  have hm : (m : ℝ) * (2 : ℝ) ^ e =
      ((m / 2 : ℕ) : ℝ) * (2 * (2 : ℝ) ^ e) + ((m % 2 : ℕ) : ℝ) * (2 : ℝ) ^ e := by
    rw [← hdiv]
    ring
  constructor
  · simp only [ExtendedMantissa.shiftRightOne, two_zpow_succ]
    rcases hmod with h0 | h1
    · rw [hm, h0] at hle
      linarith
    · rw [hm, h1] at hle
      linarith
  · simp only [ExtendedMantissa.shiftRightOne, two_zpow_succ]
    rw [add_mul, hm] at hlt
    rw [add_mul]
    rcases hmod with h0 | h1
    · rw [h0] at hlt
      linarith
    · rw [h1] at hlt
      linarith
  · simp only [ExtendedMantissa.shiftRightOne, two_zpow_succ, Bool.or_eq_false_iff, hexact,
      bne_eq_false_iff_eq]
    constructor
    · rintro ⟨heven, hv⟩
      rw [hv, hm, heven]
      simp
    · intro hv
      have hzero : m % 2 = 0 := by
        rcases hmod with h0 | h1
        · exact_mod_cast h0
        · rw [hm, h1] at hle
          linarith
      refine ⟨hzero, ?_⟩
      rw [hv, hm, hzero]
      simp

/-- Shifting by several bits. -/
lemma Represents.shiftRight {em : ExtendedMantissa} {e : ℤ} {v : ℝ} (h : Represents em e v)
    (n : ℕ) : Represents (em >>> n) (e + n) v := by
  show Represents (n.repeat ExtendedMantissa.shiftRightOne em) (e + n) v
  induction n with
  | zero => simpa [Nat.repeat] using h
  | succ n ih =>
    have hstep := ih.shiftRightOne
    rw [show e + ((n + 1 : ℕ) : ℤ) = e + n + 1 by omega]
    exact hstep

/-- The mantissa after a shift. -/
lemma mantissa_shiftRight (em : ExtendedMantissa) (n : ℕ) :
    (em >>> n).mantissa = em.mantissa / 2 ^ n := by
  show (n.repeat ExtendedMantissa.shiftRightOne em).mantissa = _
  induction n with
  | zero => simp [Nat.repeat]
  | succ n ih =>
    show (n.repeat ExtendedMantissa.shiftRightOne em).mantissa / 2 = _
    rw [ih, Nat.div_div_eq_div_mul, pow_succ]

/-- Rounding goes to the mantissa or to the next one, and nowhere if nothing is left. -/
lemma Represents.roundedMantissa {em : ExtendedMantissa} {e : ℤ} {v : ℝ}
    (h : Represents em e v) :
    em.roundedMantissa = em.mantissa ∨
      (em.roundedMantissa = em.mantissa + 1 ∧ v ≠ em.mantissa * (2 : ℝ) ^ e) := by
  obtain ⟨m, roundBit, stickyBit⟩ := em
  have hexact := h.exact_iff
  cases roundBit <;> cases stickyBit
  · exact Or.inl rfl
  · exact Or.inl rfl
  · have hne : v ≠ m * (2 : ℝ) ^ e := fun hv => by simpa using hexact.mpr hv
    rcases Nat.mod_two_eq_zero_or_one m with h0 | h1
    · exact Or.inl (show m + m % 2 = m by omega)
    · exact Or.inr ⟨show m + m % 2 = m + 1 by omega, hne⟩
  · exact Or.inr ⟨rfl, fun hv => by simpa using hexact.mpr hv⟩

/-! ## Rounding a mantissa -/

/-- The sign as a factor of a real number. -/
def signed (sign : Sign) (v : ℝ) : ℝ :=
  match sign with
  | .negative => -v
  | .positive => v

/-- The value of a finite float. -/
lemma value_finite (sign : Sign) (m : ℕ) (e : ℤ) (hpos : 0 < m) :
    value (.finite sign m e hpos) = signed sign (m * (2 : ℝ) ^ e) := by
  cases sign
  · simp [value, signed, Sign.apply]
  · simp [value, signed, Sign.apply]

/-- Rounding the magnitude rounds the number. -/
lemma rounds_signed {sign : Sign} {q r : ℝ} {f : UnpackedFloat} (hnumber : IsNumber spec f)
    (hvalue : value f = signed sign r) (hle : ∀ x, OnGrid spec x → q ≤ x → r ≤ x)
    (hge : ∀ x, OnGrid spec x → x ≤ q → x ≤ r) : Rounds spec (signed sign q) f := by
  cases sign with
  | positive =>
    exact ⟨hnumber, fun x hx h => hvalue ▸ hle x hx h, fun x hx h => hvalue ▸ hge x hx h⟩
  | negative =>
    refine ⟨hnumber, fun x hx h => ?_, fun x hx h => ?_⟩
    · have := hge (-x) hx.neg (neg_le.mp h)
      rw [hvalue]
      exact neg_le.mpr this
    · have := hle (-x) hx.neg (le_neg.mp h)
      rw [hvalue]
      exact le_neg.mpr this

/-- The target exponent is an exponent of the format. -/
lemma minExponent_le_targetExponent (spec : Format) (k : ℤ) :
    spec.minExponent ≤ spec.targetExponent k := le_max_right _ _

/-- A mantissa shifted to the target exponent is not too long. -/
lemma shifted_lt (spec : Format) (m : ℕ) (e : ℤ) :
    m / 2 ^ (spec.targetExponent (totalExponent m e) - e).toNat < 2 ^ spec.mantissaBits := by
  have htarget : totalExponent m e - spec.mantissaBits ≤
      spec.targetExponent (totalExponent m e) := le_max_left _ _
  unfold totalExponent at htarget ⊢
  apply Nat.div_lt_of_lt_mul
  rw [← pow_add]
  calc m < 2 ^ (m.log2 + 1) := Nat.lt_log2_self
    _ ≤ _ := Nat.pow_le_pow_right (by omega) (by omega)

/-- It is as long as it may be, unless the target exponent is the smallest one. -/
lemma le_shifted {m : ℕ} {e : ℤ} (he : e ≤ spec.targetExponent (totalExponent m e))
    (hmin : spec.targetExponent (totalExponent m e) ≠ spec.minExponent) :
    2 ^ spec.mantissaBitsWithoutImplicit ≤
      m / 2 ^ (spec.targetExponent (totalExponent m e) - e).toNat := by
  have htarget : spec.targetExponent (totalExponent m e) =
      totalExponent m e - spec.mantissaBits := by
    unfold Format.targetExponent at hmin ⊢
    omega
  have hlength := mantissaBits_eq spec
  have hbits := spec.hm
  rw [htarget] at he ⊢
  unfold totalExponent at he ⊢
  have hm : m ≠ 0 := by
    rintro rfl
    rw [Nat.log2_zero] at he
    omega
  rw [Nat.le_div_iff_mul_le (by positivity), ← pow_add]
  calc _ ≤ 2 ^ m.log2 := Nat.pow_le_pow_right (by omega) (by omega)
    _ ≤ m := Nat.log2_self_le hm

/-- A multiple of the scale above a smaller multiple is above the next one. -/
lemma add_one_le_of_lt {a n : ℤ} {p : ℝ} (hp : 0 < p) (h : a * p < n * p) :
    (a + 1) * p ≤ n * p := by
  have hlt : a < n := by exact_mod_cast lt_of_mul_lt_mul_right h hp.le
  have hle : ((a + 1 : ℤ) : ℝ) ≤ n := by exact_mod_cast hlt
  push_cast at hle
  exact mul_le_mul_of_nonneg_right hle hp.le

/-- A number of the format with an exponent of at least `t` is a multiple of the scale. -/
lemma multiple_of_le {n k t : ℤ} (h : t ≤ k) :
    ∃ c : ℤ, (n : ℝ) * (2 : ℝ) ^ k = c * (2 : ℝ) ^ t := by
  obtain ⟨d, rfl⟩ := Int.le.dest h
  refine ⟨n * 2 ^ d, ?_⟩
  rw [zpow_add₀ (by norm_num), zpow_natCast]
  push_cast
  ring

/-- A number of the format with a smaller exponent is at most half a full mantissa. -/
lemma le_of_exponent_lt {n k t : ℤ} (hn : |n| ≤ 2 ^ spec.mantissaBits) (h : k < t) :
    (n : ℝ) * (2 : ℝ) ^ k ≤ 2 ^ spec.mantissaBitsWithoutImplicit * (2 : ℝ) ^ t := by
  have hn' : (n : ℝ) ≤ 2 ^ spec.mantissaBits := by exact_mod_cast (le_abs_self n).trans hn
  calc (n : ℝ) * (2 : ℝ) ^ k ≤ 2 ^ spec.mantissaBits * (2 : ℝ) ^ k :=
        mul_le_mul_of_nonneg_right hn' (two_zpow_pos k).le
    _ = 2 ^ spec.mantissaBitsWithoutImplicit * (2 : ℝ) ^ (k + 1) := by
        rw [mantissaBits_eq, pow_succ, two_zpow_succ]
        ring
    _ ≤ _ := by
        apply mul_le_mul_of_nonneg_left _ (by positivity)
        exact zpow_le_zpow_right₀ (by norm_num) h

/-- Between a mantissa and the next one lies no number of the format. -/
lemma gap {a : ℕ} {t : ℤ} (hlong : 2 ^ spec.mantissaBitsWithoutImplicit ≤ a ∨
    t = spec.minExponent) {x : ℝ} (hx : OnGrid spec x) :
    x ≤ a * (2 : ℝ) ^ t ∨ (a + 1) * (2 : ℝ) ^ t ≤ x := by
  obtain ⟨n, k, hn, hk, rfl⟩ := hx
  rcases le_or_gt t k with hle | hlt
  · obtain ⟨c, hc⟩ := multiple_of_le (n := n) hle
    rw [hc]
    rcases le_or_gt ((c : ℝ) * (2 : ℝ) ^ t) (a * (2 : ℝ) ^ t) with h | h
    · exact Or.inl h
    · exact Or.inr (add_one_le_of_lt (a := (a : ℤ)) (two_zpow_pos t) h)
  · have ha : 2 ^ spec.mantissaBitsWithoutImplicit ≤ a := by
      rcases hlong with h | h
      · exact h
      · omega
    have ha' : ((2 : ℝ) ^ spec.mantissaBitsWithoutImplicit) ≤ a := by exact_mod_cast ha
    left
    exact (le_of_exponent_lt hn hlt).trans
      (mul_le_mul_of_nonneg_right ha' (two_zpow_pos t).le)

/-- An exact mantissa. -/
lemma represents_exact (m : ℕ) (e : ℤ) :
    Represents (.ofMantissaAndAccuracy m .exact) e (m * (2 : ℝ) ^ e) where
  le := le_rfl
  lt := by
    have := two_zpow_pos e
    show (m : ℝ) * (2 : ℝ) ^ e < (m + 1) * (2 : ℝ) ^ e
    linarith
  exact_iff := by simp [ExtendedMantissa.ofMantissaAndAccuracy]

/-- The mantissa of an extended one is the one it was made of. -/
@[simp] lemma mantissa_ofMantissaAndAccuracy (m : ℕ) (acc : Accuracy) :
    (ExtendedMantissa.ofMantissaAndAccuracy m acc).mantissa = m := by
  cases acc with
  | exact => rfl
  | inexact o => cases o <;> rfl

/-- The second shift leaves a short mantissa alone. -/
lemma shiftToTargetExponent_of_lt {m : ℕ} {e : ℤ} (hm : m < 2 ^ spec.mantissaBits)
    (he : spec.minExponent ≤ e) :
    shiftToTargetExponent spec m e .exact = (⟨m, false, false⟩, e) := by
  have hlog : m.log2 + 1 ≤ spec.mantissaBits := by
    rcases Nat.eq_zero_or_pos m with rfl | hpos
    · have := two_le_mantissaBits spec
      rw [Nat.log2_zero]
      omega
    · exact (Nat.log2_lt hpos.ne').mpr hm
  have htarget : spec.targetExponent (totalExponent m e) ≤ e := by
    unfold Format.targetExponent totalExponent
    omega
  have hshift : (spec.targetExponent (totalExponent m e) - e).toNat = 0 := by omega
  unfold shiftToTargetExponent shiftToExponent
  simp only [hshift]
  exact Prod.ext rfl (add_zero e)

/-- It halves a mantissa that rounding made too long. -/
lemma shiftToTargetExponent_pow {e : ℤ} (he : spec.minExponent ≤ e) :
    (shiftToTargetExponent spec (2 ^ spec.mantissaBits) e .exact).1.mantissa =
        2 ^ spec.mantissaBitsWithoutImplicit ∧
      (shiftToTargetExponent spec (2 ^ spec.mantissaBits) e .exact).2 = e + 1 := by
  have htarget : spec.targetExponent (totalExponent (2 ^ spec.mantissaBits) e) = e + 1 := by
    unfold Format.targetExponent totalExponent
    rw [Nat.log2_two_pow]
    omega
  have hshift : (e + 1 - e).toNat = 1 := by omega
  unfold shiftToTargetExponent shiftToExponent
  simp only [htarget, hshift, mantissa_shiftRight, mantissa_ofMantissaAndAccuracy]
  refine ⟨?_, rfl⟩
  rw [mantissaBits_eq, pow_succ, pow_one]
  exact Nat.mul_div_cancel _ (by norm_num)

/-- What the rounding returns for the mantissa it has rounded. -/
def assemble (spec : Format) (sign : Sign) (m : ℕ) (e : ℤ) : UnpackedFloat :=
  let shifted := shiftToTargetExponent spec m e .exact
  if h : shifted.1.mantissa = 0 then .zero sign
  else .finite sign shifted.1.mantissa shifted.2 (Nat.pos_of_ne_zero h)

/-- A float put together from a mantissa and an exponent. -/
lemma assemble_spec {m : ℕ} {e : ℤ} (sign : Sign) (hm : m ≤ 2 ^ spec.mantissaBits)
    (he : spec.minExponent ≤ e)
    (hlong : 2 ^ spec.mantissaBitsWithoutImplicit ≤ m ∨ e = spec.minExponent) :
    IsNumber spec (assemble spec sign m e) ∧
      value (assemble spec sign m e) = signed sign (m * (2 : ℝ) ^ e) := by
  simp only [assemble]
  rcases hm.lt_or_eq with hlt | rfl
  · simp only [shiftToTargetExponent_of_lt hlt he]
    split_ifs with hzero
    · refine ⟨trivial, ?_⟩
      rw [hzero]
      cases sign <;> simp [value, signed]
    · exact ⟨⟨hlt, he, hlong⟩, value_finite sign m e _⟩
  · obtain ⟨hmantissa, hexponent⟩ := shiftToTargetExponent_pow he
    have hpow : (2 : ℕ) ^ spec.mantissaBitsWithoutImplicit ≠ 0 := by positivity
    split_ifs with hzero
    · exact (hpow (hmantissa ▸ hzero)).elim
    · refine ⟨⟨?_, ?_, Or.inl ?_⟩, ?_⟩
      · rw [hmantissa, mantissaBits_eq]
        exact Nat.pow_lt_pow_right (by norm_num) (Nat.lt_succ_self _)
      · rw [hexponent]
        omega
      · rw [hmantissa]
      · rw [value_finite, hmantissa, hexponent, mantissaBits_eq, two_zpow_succ]
        push_cast
        rw [pow_succ]
        congr 1
        ring

/-- Rounding with residual bits. -/
theorem roundWithAccuracy_rounds {m : ℕ} {e : ℤ} {acc : Accuracy} {v : ℝ} (sign : Sign)
    (hv : Represents (.ofMantissaAndAccuracy m acc) e v)
    (he : e ≤ spec.targetExponent (totalExponent m e)) :
    Rounds spec (signed sign v) (roundWithAccuracy spec sign m e acc) := by
  set t := spec.targetExponent (totalExponent m e) with ht
  set em := ExtendedMantissa.ofMantissaAndAccuracy m acc >>> (t - e).toNat with hem
  have hexponent : e + ((t - e).toNat : ℤ) = t := by omega
  have hshifted : Represents em t v := hexponent ▸ hv.shiftRight (t - e).toNat
  have hmantissa : em.mantissa = m / 2 ^ (t - e).toNat := by
    rw [hem, mantissa_shiftRight, mantissa_ofMantissaAndAccuracy]
  have hlt : em.mantissa < 2 ^ spec.mantissaBits := hmantissa ▸ shifted_lt spec m e
  have hmin : spec.minExponent ≤ t := minExponent_le_targetExponent spec _
  have hlong : 2 ^ spec.mantissaBitsWithoutImplicit ≤ em.mantissa ∨ t = spec.minExponent := by
    by_cases h : t = spec.minExponent
    · exact Or.inr h
    · exact Or.inl (hmantissa ▸ le_shifted he h)
  have hround : roundWithAccuracy spec sign m e acc =
      assemble spec sign em.roundedMantissa t := by
    unfold roundWithAccuracy
    rw [show shiftToTargetExponent spec m e acc = (em, t) from Prod.ext rfl hexponent]
    rfl
  -- the rounded mantissa is one of the two neighbours of the exact value
  obtain ⟨hnumber, hvalue⟩ := assemble_spec (m := em.roundedMantissa) sign
    (by rcases hshifted.roundedMantissa with h | ⟨h, -⟩ <;> omega) hmin
    (by
      rcases hlong with h | h
      · left
        rcases hshifted.roundedMantissa with h' | ⟨h', -⟩ <;> omega
      · exact Or.inr h)
  rw [hround]
  apply rounds_signed hnumber hvalue
  · intro x hx hvx
    rcases hshifted.roundedMantissa with h | ⟨h, hne⟩
    · rw [h]
      exact hshifted.le.trans hvx
    · rcases gap hlong hx with hbelow | habove
      · exact (hne (le_antisymm (hvx.trans hbelow) hshifted.le)).elim
      · rw [h]
        push_cast
        exact habove
  · intro x hx hxv
    rcases hshifted.roundedMantissa with h | ⟨h, -⟩
    · rw [h]
      rcases gap hlong hx with hbelow | habove
      · exact hbelow
      · exact absurd (habove.trans hxv) (not_le.mpr hshifted.lt)
    · rw [h]
      push_cast
      exact hxv.trans hshifted.lt.le

end FloatRounding
