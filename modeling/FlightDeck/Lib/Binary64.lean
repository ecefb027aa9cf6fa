import FlightDeck.Lib.FloatEncoding

set_option relaxedAutoImplicit false
set_option autoImplicit false

/-!
# Arithmetic on doubles

The operations on `Float` return the exact result rounded to `binary64` as long as it does not
overflow, comparisons are those of the real numbers, and a decimal literal is the decimal
rounded.

## Main definitions

* `Binary64.Finite`, `Binary64.val` — a finite double and the real number it stands for.
* `Binary64.Near` — a double is an exact value rounded.

## Main results

* `Binary64.add_near`, `Binary64.sub_near`, `Binary64.mul_near`, `Binary64.div_near`,
  `Binary64.sqrt_near` — the operations.
* `Binary64.near_ofScientific` — decimal literals.
* `Binary64.toNat_toUInt64` — truncation.
-/

namespace Binary64

open FloatRounding
open Float.Model (Format UnpackedFloat)

/-! ## Finite doubles -/

/-- The decoded form of a double. -/
def decoded (x : Float) : UnpackedFloat := x.toModel.unpack

/-- Neither an infinity nor a NaN. -/
def Finite (x : Float) : Prop := x.isFinite = true

/-- The real number a finite double stands for. -/
noncomputable def val (x : Float) : ℝ := value (decoded x)

/-- A finite double decodes to a number of the format. -/
lemma Finite.isNumber {x : Float} (h : Finite x) : IsNumber .binary64 (decoded x) := by
  apply isNumber_unpack
  intro hones
  have hfinite : (UnpackedFloat.unpack .binary64 x.toModel.toBits.toBitVec).isFinite = true := h
  unfold UnpackedFloat.unpack at hfinite
  simp only at hfinite
  rw [if_pos hones] at hfinite
  split_ifs at hfinite
  · exact Bool.noConfusion hfinite
  · exact Bool.noConfusion hfinite

/-- A double that decodes to a number of the format is finite. -/
lemma finite_of_isNumber {x : Float} (h : IsNumber .binary64 (decoded x)) : Finite x := by
  show (decoded x).isFinite = true
  cases hx : decoded x with
  | infinity sign =>
    rw [hx] at h
    exact h.elim
  | notANumber =>
    rw [hx] at h
    exact h.elim
  | zero sign => rfl
  | finite sign m e hpos => rfl

/-! ## Rounded results -/

/-- The double is the exact value `q` rounded. -/
def Near (x : Float) (q : ℝ) : Prop := Rounds .binary64 q (decoded x)

/-- A rounded result is encoded faithfully, unless it overflows. -/
lemma near_pack {f : UnpackedFloat} {q : ℝ} (h : Rounds .binary64 q f) (hq : |q| ≤ 2 ^ 1023) :
    Near (.ofModel (.pack f)) q := by
  have hgrid : OnGrid .binary64 ((2 : ℝ) ^ 1023) := by
    have hone : OnGrid .binary64 ((1 : ℕ) * 2 ^ 1023) := onGrid_mul_pow 1 1023 (by decide)
    rwa [Nat.cast_one, one_mul] at hone
  have hle : |value f| ≤ 2 ^ 1023 := by
    rw [abs_le] at hq ⊢
    exact ⟨h.ge _ hgrid.neg hq.1, h.le _ hgrid hq.2⟩
  have hdecoded : decoded (.ofModel (.pack f)) = f :=
    unpack_pack h.number (h.number.inRange (by decide) hle)
  unfold Near
  rw [hdecoded]
  exact h

section Near

variable {x : Float} {q r : ℝ}

lemma Near.finite (h : Near x q) : Finite x := finite_of_isNumber h.number

/-- Rounding does not exceed a number of the format. -/
lemma Near.val_le (h : Near x q) (hr : OnGrid .binary64 r) (hq : q ≤ r) : val x ≤ r :=
  h.le r hr hq

/-- Nor does it fall below one. -/
lemma Near.le_val (h : Near x q) (hr : OnGrid .binary64 r) (hq : r ≤ q) : r ≤ val x :=
  h.ge r hr hq

/-- A number of the format is not rounded. -/
lemma Near.val_eq (h : Near x q) (hq : OnGrid .binary64 q) : val x = q :=
  le_antisymm (h.val_le hq le_rfl) (h.le_val hq le_rfl)

/-- The value of a finite double is a number of the format. -/
lemma Finite.onGrid (h : Finite x) : OnGrid .binary64 (val x) := h.isNumber.onGrid

end Near

/-! ## Operations -/

section Operations

variable {x y : Float}

/-- The sum. -/
theorem add_near (hx : Finite x) (hy : Finite y) (h : |val x + val y| ≤ 2 ^ 1023) :
    Near (x + y) (val x + val y) :=
  near_pack (add_rounds hx.isNumber hy.isNumber) h

/-- The difference. -/
theorem sub_near (hx : Finite x) (hy : Finite y) (h : |val x - val y| ≤ 2 ^ 1023) :
    Near (x - y) (val x - val y) :=
  near_pack (sub_rounds hx.isNumber hy.isNumber) h

/-- The product. -/
theorem mul_near (hx : Finite x) (hy : Finite y) (h : |val x * val y| ≤ 2 ^ 1023) :
    Near (x * y) (val x * val y) :=
  near_pack (mul_rounds hx.isNumber hy.isNumber) h

/-- The quotient. -/
theorem div_near (hx : Finite x) (hy : Finite y) (hne : val y ≠ 0)
    (h : |val x / val y| ≤ 2 ^ 1023) : Near (x / y) (val x / val y) :=
  near_pack (div_rounds hx.isNumber hy.isNumber hne) h

/-- The square root. -/
theorem sqrt_near (hx : Finite x) (hnonneg : 0 ≤ val x) (h : |√(val x)| ≤ 2 ^ 1023) :
    Near x.sqrt √(val x) :=
  near_pack (sqrt_rounds hx.isNumber hnonneg) h

/-- Strict comparison. -/
theorem lt_iff_val (hx : Finite x) (hy : Finite y) : x < y ↔ val x < val y :=
  decide_eq_true_iff.trans (lt_iff hx.isNumber hy.isNumber)

/-- Comparison. -/
theorem le_iff_val (hx : Finite x) (hy : Finite y) : x ≤ y ↔ val x ≤ val y :=
  decide_eq_true_iff.trans (le_iff hx.isNumber hy.isNumber)

end Operations

/-! ## Literals -/

/-- An integer of at most 53 bits is a number of the format. -/
lemma onGrid_natCast {n : ℕ} (hn : n ≤ 2 ^ 53) : OnGrid .binary64 n := by
  have hgrid : OnGrid .binary64 (n * 2 ^ 0) := onGrid_mul_pow n 0 hn
  rwa [pow_zero, mul_one] at hgrid

/-- The double of a 53-bit integer. -/
lemma near_ofNat {n : ℕ} (hn : n < 2 ^ 53) : Near (.ofModel (.ofNat n)) n := by
  have hpack := near_pack (@normalize_rounds .binary64 n 0 .positive) (by
    rw [zpow_zero, mul_one, Int.cast_natCast, Nat.abs_cast]
    have hle : (n : ℝ) ≤ 2 ^ 53 := by exact_mod_cast hn.le
    calc (n : ℝ) ≤ 2 ^ 53 := hle
      _ ≤ 2 ^ 1023 := pow_le_pow_right₀ (by norm_num) (by norm_num))
  rw [zpow_zero, mul_one, Int.cast_natCast] at hpack
  exact hpack

/-- The conversion of a 64-bit integer. -/
lemma near_toFloat {n : ℕ} (hn : n < 2 ^ 53) : Near n.toUInt64.toFloat n := by
  have hto : n.toUInt64.toNat = n := UInt64.toNat_ofNat_of_lt (by
    rw [UInt64.size]
    omega)
  have hcast : n.toUInt64.toFloat = .ofModel (.ofNat n) := by
    show Float.ofModel (.ofNat n.toUInt64.toNat) = _
    rw [hto]
  rw [hcast]
  exact near_ofNat hn

/-- A decoded power of ten. -/
def isPowerOfTen (k : ℕ) : UnpackedFloat → Bool
  | .finite .positive m e _ => m * 2 ^ e.toNat == 10 ^ k * 2 ^ (-e).toNat
  | _ => false

/-- What the check says. -/
lemma value_of_isPowerOfTen {k : ℕ} {f : UnpackedFloat} (h : isPowerOfTen k f = true) :
    value f = 10 ^ k := by
  cases f with
  | infinity sign => exact Bool.noConfusion h
  | notANumber => exact Bool.noConfusion h
  | zero sign => exact Bool.noConfusion h
  | finite sign m e hpos =>
    cases sign with
    | negative => exact Bool.noConfusion h
    | positive =>
      have heq : (m : ℝ) * 2 ^ e.toNat = 10 ^ k * 2 ^ (-e).toNat := by
        exact_mod_cast beq_iff_eq.mp h
      have hsplit : (2 : ℝ) ^ e = 2 ^ e.toNat / 2 ^ (-e).toNat := by
        rw [← zpow_natCast, ← zpow_natCast, ← zpow_sub₀ (by norm_num)]
        congr 1
        omega
      rw [value_finite, signed, hsplit, ← mul_div_assoc, heq]
      field_simp

/-- The entries of the table of powers of ten. -/
lemma table_check (i : Fin Float.exactlyRepresentablePowersOfTen.size) :
    Float.exactlyRepresentablePowersOfTen[i].isFinite = true ∧
      isPowerOfTen i (decoded Float.exactlyRepresentablePowersOfTen[i]) = true := by
  revert i
  decide +kernel

/-- The value of a table entry. -/
lemma val_table (k : ℕ) (hk : k < Float.exactlyRepresentablePowersOfTen.size) :
    Finite Float.exactlyRepresentablePowersOfTen[k] ∧
      val Float.exactlyRepresentablePowersOfTen[k] = 10 ^ k :=
  ⟨(table_check ⟨k, hk⟩).1, value_of_isPowerOfTen (table_check ⟨k, hk⟩).2⟩

/-- A literal of the table: both operands are exact, so the quotient is rounded once. -/
lemma near_ofScientific_of_lt {m k : ℕ} (hm : m < 2 ^ 53) (hk : k ≤ 22) :
    Near (OfScientific.ofScientific m true k) (m / 10 ^ k) := by
  have hnumerator := near_toFloat hm
  have hvalue : val m.toUInt64.toFloat = m := hnumerator.val_eq (onGrid_natCast hm.le)
  have hk' : k < Float.exactlyRepresentablePowersOfTen.size := by
    show k < 23
    omega
  obtain ⟨hfinite, hpower⟩ := val_table k hk'
  have hdiv := div_near hnumerator.finite hfinite (by rw [hpower]; positivity) (by
    rw [hvalue, hpower, abs_of_nonneg (by positivity)]
    have hle : (m : ℝ) ≤ 2 ^ 53 := by exact_mod_cast hm.le
    calc (m : ℝ) / 10 ^ k ≤ m := div_le_self (by positivity) (one_le_pow₀ (by norm_num))
      _ ≤ 2 ^ 53 := hle
      _ ≤ 2 ^ 1023 := pow_le_pow_right₀ (by norm_num) (by norm_num))
  rw [hvalue, hpower] at hdiv
  have hliteral : (OfScientific.ofScientific m true k : Float) =
      m.toUInt64.toFloat / Float.exactlyRepresentablePowersOfTen[k] := by
    show Float.ofScientific m true k = _
    unfold Float.ofScientific
    rw [dif_pos ⟨hm, hk⟩]
    rfl
  rw [hliteral]
  exact hdiv

/-- A longer literal is divided exactly. -/
lemma near_ofScientific_of_not_lt {m k : ℕ} (hm : m < 2 ^ 128) (hk0 : 0 < k) (hk : k ≤ 1000)
    (h : ¬(m < 2 ^ 53 ∧ k ≤ 22)) : Near (OfScientific.ofScientific m true k) (m / 10 ^ k) := by
  have hliteral : (OfScientific.ofScientific m true k : Float) =
      .ofModel (.pack (UnpackedFloat.ofScientific .binary64 m (Int.negOfNat k))) := by
    show Float.ofScientific m true k = _
    unfold Float.ofScientific
    rw [dif_neg h]
    rfl
  have hle : |(m : ℝ) / 10 ^ k| ≤ 2 ^ 1023 := by
    have hm' : (m : ℝ) ≤ 2 ^ 128 := by exact_mod_cast hm.le
    rw [abs_of_nonneg (by positivity)]
    calc (m : ℝ) / 10 ^ k ≤ m := div_le_self (by positivity) (one_le_pow₀ (by norm_num))
      _ ≤ 2 ^ 128 := hm'
      _ ≤ 2 ^ 1023 := pow_le_pow_right₀ (by norm_num) (by norm_num)
  have hneg : Int.negOfNat k = -(k : ℤ) := Int.negOfNat_eq
  have hto : (-(-(k : ℤ))).toNat = k := by omega
  rw [hliteral, hneg]
  apply near_pack _ hle
  unfold UnpackedFloat.ofScientific
  rcases Nat.eq_zero_or_pos m with rfl | hpos
  · rw [dif_pos rfl, Nat.cast_zero, zero_div]
    exact rounds_zero .positive
  · have hsmall : ¬-(k : ℤ) < -((2 ^ 11 : ℤ) + m.log2) := by omega
    rw [dif_neg hpos.ne', if_neg (by norm_num), if_neg hsmall, if_neg (by omega)]
    have hdiv := @divCore_rounds .binary64 m (10 ^ k) hpos (by positivity) 0 0 .positive
    rw [zpow_zero, mul_one, mul_one, signed, Nat.cast_pow] at hdiv
    simp only [hto]
    exact_mod_cast hdiv

/-- A decimal literal is the nearest double. -/
theorem near_ofScientific {m k : ℕ} (hm : m < 2 ^ 128) (hk0 : 0 < k) (hk : k ≤ 1000) :
    Near (OfScientific.ofScientific m true k) (OfScientific.ofScientific m true k) := by
  have hreal : (OfScientific.ofScientific m true k : ℝ) = m / 10 ^ k := by
    rw [NNRatCast.ofScientific_eq_ite, if_pos rfl, NNRat.cast_divNat, Nat.cast_pow]
    norm_num
  rw [hreal]
  by_cases h : m < 2 ^ 53 ∧ k ≤ 22
  · exact near_ofScientific_of_lt h.1 h.2
  · exact near_ofScientific_of_not_lt hm hk0 hk h

/-! ## Truncation -/

/-- The whole part of a magnitude. -/
lemma roundToInt_positive (m : ℕ) (e : ℤ) :
    Float.Model.UnpackedFloat.roundToInt .positive m e = ⌊(m : ℝ) * (2 : ℝ) ^ e⌋ := by
  have hshift := shiftLeft_mul m e.toNat e
  have hexact := (represents_exact (m <<< e.toNat) (e - e.toNat)).shiftRight
    (0 - (e - e.toNat)).toNat
  rw [show e - (e.toNat : ℤ) + ((0 - (e - e.toNat)).toNat : ℤ) = 0 by omega, hshift] at hexact
  have hle := hexact.le
  have hlt := hexact.lt
  rw [zpow_zero, mul_one] at hle hlt
  rw [eq_comm, Int.floor_eq_iff]
  have hcast : ((Float.Model.UnpackedFloat.roundToInt .positive m e : ℤ) : ℝ) =
      (Float.Model.UnpackedFloat.ExtendedMantissa.ofMantissaAndAccuracy (m <<< e.toNat) .exact
        >>> (0 - (e - e.toNat)).toNat).mantissa := by
    unfold Float.Model.UnpackedFloat.roundToInt
    simp [Float.Model.UnpackedFloat.decreaseExponent, Float.Model.UnpackedFloat.shiftToExponent,
      Float.Model.UnpackedFloat.Sign.apply]
  rw [hcast]
  exact ⟨hle, hlt⟩

/-- The whole part of a double that is not negative. -/
lemma toInt_decoded {x : Float} (hx : Finite x) (hnonneg : 0 ≤ val x) (a b : ℤ) :
    (decoded x).toInt a b = ⌊val x⌋ := by
  have hnumber := hx.isNumber
  unfold val at hnonneg ⊢
  cases hd : decoded x with
  | infinity sign =>
    rw [hd] at hnumber
    exact hnumber.elim
  | notANumber =>
    rw [hd] at hnumber
    exact hnumber.elim
  | zero sign => exact Int.floor_zero.symm
  | finite sign m e hpos =>
    rw [hd, value_finite] at hnonneg
    rw [value_finite]
    cases sign with
    | positive => exact roundToInt_positive m e
    | negative =>
      have := magnitude_pos hpos e
      rw [signed] at hnonneg
      linarith

/-- A double that is not negative is truncated to its whole part. -/
theorem toNat_toUInt64 {x : Float} (hx : Finite x) (hnonneg : 0 ≤ val x)
    (hlt : val x < 2 ^ 63) : x.toUInt64.toNat = ⌊val x⌋₊ := by
  have hto : x.toUInt64 = UInt64.ofNatClamp ((decoded x).toInt 0 (UInt64.size - 1)).toNat := rfl
  have hfloor : ⌊val x⌋.toNat = ⌊val x⌋₊ := Int.floor_toNat _
  have hsmall : ⌊val x⌋₊ < UInt64.size := by
    rw [Nat.floor_lt hnonneg]
    calc val x < 2 ^ 63 := hlt
      _ ≤ (UInt64.size : ℝ) := by norm_num [UInt64.size]
  rw [hto, toInt_decoded hx hnonneg, hfloor]
  unfold UInt64.ofNatClamp
  rw [dif_pos hsmall]
  rfl

end Binary64
