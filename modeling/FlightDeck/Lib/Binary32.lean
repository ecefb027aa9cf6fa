import FlightDeck.Lib.FloatBounds
import FlightDeck.Lib.Ieee754

set_option relaxedAutoImplicit false
set_option autoImplicit false

/-!
# Singles and bit patterns

The conversion of a double to a single, and the bit patterns of finite doubles and singles.

## Main definitions

* `Binary32.narrow` — a double rounded to a single.
* `Binary32.Bounded` — a finite single within a bound.

## Main results

* `Binary32.bounded_narrow`, `Binary32.Bounded.mul` — bounds of conversions and products.
* `Binary64.isFinite_toBits`, `Binary32.isFinite_toBits` — a finite number has a finite pattern.
-/

open FloatRounding
open Float.Model (Format UnpackedFloat)
open Float.Model.UnpackedFloat (unpackExponent)

namespace FloatRounding

variable {spec : Format}

/-- The exponent field of a pattern. -/
lemma toNat_unpackExponent (b : BitVec spec.numBits) :
    (unpackExponent b).toNat =
      b.toNat / 2 ^ spec.mantissaBitsWithoutImplicit % 2 ^ spec.exponentBits := by
  have := spec.he
  unfold unpackExponent
  rw [BitVec.toNat_cast, BitVec.extractLsb_toNat, Nat.shiftRight_eq_div_pow]
  congr 2
  omega

/-- A pattern that decodes to a finite float is finite. -/
lemma isFinite_of_isNumber {b : BitVec spec.numBits}
    (h : IsNumber spec (UnpackedFloat.unpack spec b)) :
    Ieee754.Format.isFinite ⟨spec.exponentBits, spec.mantissaBitsWithoutImplicit⟩ b.toNat := by
  unfold Ieee754.Format.isFinite Ieee754.Format.exponentField
  rw [bne_iff_ne, ← toNat_unpackExponent]
  intro hones
  have hvec : unpackExponent b = -1#_ := by
    apply BitVec.eq_of_toNat_eq
    rw [hones, BitVec.neg_one_eq_allOnes, BitVec.toNat_allOnes]
  unfold UnpackedFloat.unpack at h
  simp only at h
  rw [if_pos hvec] at h
  split_ifs at h
  · exact h
  · exact h

end FloatRounding

namespace Binary64

/-- The pattern of a finite double. -/
theorem isFinite_toBits {x : Float} (hx : Finite x) :
    Ieee754.binary64.isFinite x.toBits.toBitVec.toNat :=
  @isFinite_of_isNumber .binary64 _ hx.isNumber

end Binary64

namespace Binary32

/-! ## Singles -/

/-- The decoded form of a single. -/
def decoded (x : Float32) : UnpackedFloat := x.toModel.unpack

/-- The real number a finite single stands for. -/
noncomputable def val (x : Float32) : ℝ := value (decoded x)

/-- A finite single of absolute value at most `r`. -/
structure Bounded (x : Float32) (r : ℝ) : Prop where
  /-- It is finite. -/
  number : IsNumber .binary32 (decoded x)
  /-- It is within the bound. -/
  abs_val_le : |val x| ≤ r

/-- The pattern of a finite single. -/
theorem isFinite_toBits {x : Float32} {r : ℝ} (hx : Bounded x r) :
    Ieee754.binary32.isFinite x.toBits.toBitVec.toNat :=
  @isFinite_of_isNumber .binary32 _ hx.number

/-- A result rounded to a single, within a power of two. -/
lemma bounded_pack {f : UnpackedFloat} {q : ℝ} {k : ℤ} (h : Rounds .binary32 q f)
    (hk : 0 ≤ k) (hk' : k ≤ 127) (hq : |q| ≤ (2 : ℝ) ^ k) :
    Bounded (.ofModel (.pack f)) ((2 : ℝ) ^ k) := by
  have hgrid : OnGrid .binary32 ((2 : ℝ) ^ k) :=
    ⟨1, k, by decide, (minExponent_nonpos _).trans hk, by rw [Int.cast_one, one_mul]⟩
  have hle : |value f| ≤ (2 : ℝ) ^ k := by
    rw [abs_le] at hq ⊢
    exact ⟨h.ge _ hgrid.neg hq.1, h.le _ hgrid hq.2⟩
  have hmax : (2 : ℝ) ^ k ≤ 2 ^ 127 := by
    rw [← zpow_natCast]
    exact zpow_le_zpow_right₀ (by norm_num) hk'
  have hdecoded : decoded (.ofModel (.pack f)) = f :=
    unpack_pack h.number (h.number.inRange (by decide) (hle.trans hmax))
  refine ⟨?_, ?_⟩
  · rw [hdecoded]
    exact h.number
  · unfold val
    rw [hdecoded]
    exact hle

/-- The product of two singles. -/
lemma Bounded.mul {x y : Float32} {r s : ℝ} {k : ℤ} (hx : Bounded x r) (hy : Bounded y s)
    (hk : 0 ≤ k) (hk' : k ≤ 127) (h : r * s ≤ (2 : ℝ) ^ k) : Bounded (x * y) ((2 : ℝ) ^ k) := by
  apply bounded_pack (mul_rounds hx.number hy.number) hk hk'
  rw [abs_mul]
  exact (mul_le_mul hx.abs_val_le hy.abs_val_le (abs_nonneg _)
    ((abs_nonneg _).trans hx.abs_val_le)).trans h

/-- A normal single of absolute value less than one. -/
def isFraction : UnpackedFloat → Bool
  | .finite _ m e _ => m < 2 ^ 24 && 2 ^ 23 ≤ m && -149 ≤ e && e ≤ -24
  | _ => false

/-- What the check says. -/
lemma bounded_of_isFraction {x : Float32} (h : isFraction (decoded x) = true) : Bounded x 1 := by
  unfold isFraction at h
  split at h
  case h_1 sign m e hpos hd =>
    simp only [Bool.and_eq_true, decide_eq_true_eq] at h
    obtain ⟨⟨⟨hm, hm'⟩, he⟩, he'⟩ := h
    have hlt : (m : ℝ) ≤ 2 ^ 24 := by exact_mod_cast hm.le
    have hscale : (2 : ℝ) ^ e ≤ (2 : ℝ) ^ (-24 : ℤ) := zpow_le_zpow_right₀ (by norm_num) he'
    have habs : (m : ℝ) * (2 : ℝ) ^ e ≤ 1 := by
      calc (m : ℝ) * (2 : ℝ) ^ e ≤ 2 ^ 24 * (2 : ℝ) ^ (-24 : ℤ) :=
            mul_le_mul hlt hscale (two_zpow_pos e).le (by norm_num)
        _ = 1 := by norm_num
    have hpos' := magnitude_pos hpos e
    refine ⟨?_, ?_⟩
    · rw [hd]
      exact ⟨hm, he, Or.inl hm'⟩
    · unfold val
      rw [hd, value_finite]
      cases sign with
      | negative => rwa [signed, abs_neg, abs_of_pos hpos']
      | positive => rwa [signed, abs_of_pos hpos']
  case h_2 => exact Bool.noConfusion h

/-! ## Conversion -/

/-- The conversion of a double to a single rounds a finite number. -/
def narrow (x : Float) : Float32 :=
  .ofModel (.pack (match x.toModel.unpack with
    | .finite sign mantissa exponent _ => UnpackedFloat.round .binary32 sign mantissa exponent
    | f => f))

/-- A bounded double converts to a bounded single. -/
theorem bounded_narrow {x : Float} {k : ℤ} (hx : Binary64.Below x k) (hk : 0 ≤ k)
    (hk' : k ≤ 127) : Bounded (narrow x) ((2 : ℝ) ^ k) := by
  have hnumber := hx.finite.isNumber
  have hle := hx.abs_val_le
  unfold narrow
  unfold Binary64.val at hle
  rw [show x.toModel.unpack = Binary64.decoded x from rfl]
  cases hd : Binary64.decoded x with
  | infinity sign =>
    rw [hd] at hnumber
    exact hnumber.elim
  | notANumber =>
    rw [hd] at hnumber
    exact hnumber.elim
  | zero sign =>
    apply bounded_pack (rounds_zero sign) hk hk'
    rw [abs_zero]
    exact (two_zpow_pos k).le
  | finite sign m e hpos =>
    rw [hd, value_finite] at hle
    exact bounded_pack (round_rounds hpos.ne' e sign) hk hk' hle

end Binary32
