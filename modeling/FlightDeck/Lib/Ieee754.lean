import Mathlib.Algebra.Order.Field.Rat
import Mathlib.Data.Nat.Dist
import Mathlib.Data.Nat.Log
import Mathlib.Tactic.Linarith
import Mathlib.Tactic.NormNum
import Mathlib.Tactic.Positivity
import Mathlib.Tactic.Ring

set_option relaxedAutoImplicit false
set_option autoImplicit false

/-!
# IEEE 754 binary formats

The values of binary interchange bit patterns, the exact conversion from `binary32` to
`binary64`, and the rounding of natural numbers to a given precision (to nearest, ties to even).

## Main definitions

* `Ieee754.Format`, `Ieee754.binary32`, `Ieee754.binary64` — a format by its field widths.
* `Format.isFinite`, `Format.isNegative`, `Format.value` — what a bit pattern denotes.
* `Ieee754.widen` — the conversion of a `binary32` pattern to `binary64`.
* `Ieee754.roundNat` — a natural number rounded to `p` significant bits, to nearest, ties to
  even.

## Main results

* `Ieee754.value_widen`, `Ieee754.isNegative_widen`, `Ieee754.isFinite_widen` — widening is
  exact.
* `Ieee754.roundNat_nearest` — no `p`-bit number is nearer than the rounded one.
* `Ieee754.monotone_roundNat`, `Ieee754.roundNat_of_representable` — rounding is monotone and
  fixes the `p`-bit numbers.
-/

namespace Ieee754

/-! ## Formats and values -/

/-- A binary interchange format: a sign bit, exponent bits and fraction bits, from the top. -/
structure Format where
  /-- Width of the exponent field. -/
  exponentBits : ℕ
  /-- Width of the fraction field. -/
  fractionBits : ℕ

/-- Single precision, C++ `float`. -/
def binary32 : Format := ⟨8, 23⟩

/-- Double precision, C++ `double` and the JavaScript number. -/
def binary64 : Format := ⟨11, 52⟩

namespace Format

variable (f : Format) (bits : ℕ)

/-- The exponent field of a pattern. -/
def exponentField : ℕ := bits / 2 ^ f.fractionBits % 2 ^ f.exponentBits

/-- The fraction field of a pattern. -/
def fraction : ℕ := bits % 2 ^ f.fractionBits

/-- The sign bit. -/
def isNegative : Bool := bits / 2 ^ (f.exponentBits + f.fractionBits) % 2 == 1

/-- Neither an infinity nor a NaN. -/
def isFinite : Bool := f.exponentField bits != 2 ^ f.exponentBits - 1

/-- The exponent of the unit in the last place of the subnormal numbers. -/
def minExponent : ℤ := 2 - 2 ^ (f.exponentBits - 1) - f.fractionBits

/-- The absolute value of a finite pattern. -/
def magnitude : ℚ :=
  if f.exponentField bits = 0 then f.fraction bits * 2 ^ f.minExponent
  else (2 ^ f.fractionBits + f.fraction bits) * 2 ^ (f.minExponent + f.exponentField bits - 1)

/-- The value of a finite pattern. -/
def value : ℚ := if f.isNegative bits then -f.magnitude bits else f.magnitude bits

end Format

/-! ## Widening -/

/-- The pattern with the given fields of `binary64`. -/
def pack64 (negative : Bool) (exponent fraction : ℕ) : ℕ :=
  (if negative then 2 ^ 63 else 0) + exponent * 2 ^ 52 + fraction

/-- The `binary64` pattern of a `binary32` pattern: infinities and NaNs keep their kind, a
normal number is rebiased, and a subnormal one becomes normal. -/
def widen (bits : ℕ) : ℕ :=
  let negative := binary32.isNegative bits
  let exponent := binary32.exponentField bits
  let fraction := binary32.fraction bits
  if exponent = 255 then pack64 negative 2047 (fraction * 2 ^ 29)
  else if exponent = 0 then
    if fraction = 0 then pack64 negative 0 0
    else
      let k := Nat.log2 fraction
      pack64 negative (k + 874) ((fraction - 2 ^ k) * 2 ^ (52 - k))
  else pack64 negative (exponent + 896) (fraction * 2 ^ 29)

section Pack

variable (negative : Bool) {exponent fraction : ℕ}

lemma exponentField_pack64 (he : exponent < 2048) (hf : fraction < 2 ^ 52) :
    binary64.exponentField (pack64 negative exponent fraction) = exponent := by
  simp only [Format.exponentField, binary64, pack64]
  cases negative <;> simp only [Bool.false_eq_true, if_true, if_false] <;> omega

lemma fraction_pack64 (hf : fraction < 2 ^ 52) :
    binary64.fraction (pack64 negative exponent fraction) = fraction := by
  simp only [Format.fraction, binary64, pack64]
  cases negative <;> simp only [Bool.false_eq_true, if_true, if_false] <;> omega

lemma isNegative_pack64 (he : exponent < 2048) (hf : fraction < 2 ^ 52) :
    binary64.isNegative (pack64 negative exponent fraction) = negative := by
  simp only [Format.isNegative, binary64, pack64]
  cases negative <;> simp only [Bool.false_eq_true, if_true, if_false, beq_iff_eq,
    beq_eq_false_iff_ne, ne_eq] <;> omega

/-- The magnitude of a packed normal number. -/
lemma magnitude_pack64_normal (he : exponent < 2047) (h0 : exponent ≠ 0)
    (hf : fraction < 2 ^ 52) :
    binary64.magnitude (pack64 negative exponent fraction) =
      ((2 ^ 52 + fraction : ℕ) : ℚ) * 2 ^ ((exponent : ℤ) - 1075) := by
  rw [Format.magnitude, exponentField_pack64 negative (by omega) hf, fraction_pack64 negative hf,
    if_neg h0]
  simp only [Format.minExponent, binary64]
  push_cast
  congr 2
  ring

end Pack

/-- The fields of a pattern are in range. -/
lemma fraction_lt (bits : ℕ) : binary32.fraction bits < 2 ^ 23 := Nat.mod_lt _ (by decide)

lemma exponentField_lt (bits : ℕ) : binary32.exponentField bits < 2 ^ 8 :=
  Nat.mod_lt _ (by decide)

/-- The leading bit of a nonzero fraction. -/
lemma log2_fraction_bounds {m : ℕ} (h0 : m ≠ 0) (hm : m < 2 ^ 23) :
    Nat.log2 m < 23 ∧ 2 ^ Nat.log2 m ≤ m ∧ m < 2 * 2 ^ Nat.log2 m := by
  refine ⟨(Nat.log2_lt h0).mpr hm, Nat.log2_self_le h0, ?_⟩
  have := Nat.lt_log2_self (n := m)
  rwa [pow_succ, Nat.mul_comm] at this

/-- The shifted fraction of a subnormal number fits the fraction field. -/
lemma subnormal_fraction_lt {m : ℕ} (h0 : m ≠ 0) (hm : m < 2 ^ 23) :
    (m - 2 ^ Nat.log2 m) * 2 ^ (52 - Nat.log2 m) < 2 ^ 52 := by
  obtain ⟨hk, hlow, hhigh⟩ := log2_fraction_bounds h0 hm
  calc (m - 2 ^ Nat.log2 m) * 2 ^ (52 - Nat.log2 m)
      < 2 ^ Nat.log2 m * 2 ^ (52 - Nat.log2 m) :=
        Nat.mul_lt_mul_of_pos_right (by omega) (Nat.two_pow_pos _)
    _ = 2 ^ 52 := by rw [← pow_add]; congr 1; omega

/-- Widening keeps the sign. -/
theorem isNegative_widen (bits : ℕ) :
    binary64.isNegative (widen bits) = binary32.isNegative bits := by
  have hm := fraction_lt bits
  have he := exponentField_lt bits
  simp only [widen]
  split_ifs with h1 h2 h3
  · exact isNegative_pack64 _ (by omega) (by omega)
  · exact isNegative_pack64 _ (by omega) (by omega)
  · have hk := log2_fraction_bounds h3 hm
    exact isNegative_pack64 _ (by omega) (subnormal_fraction_lt h3 hm)
  · exact isNegative_pack64 _ (by omega) (by omega)

/-- Widening keeps finite numbers finite and the others not. -/
theorem isFinite_widen (bits : ℕ) :
    binary64.isFinite (widen bits) = binary32.isFinite bits := by
  have hm := fraction_lt bits
  have he := exponentField_lt bits
  have hfields : binary64.exponentField (widen bits) = 2047 ↔
      binary32.exponentField bits = 255 := by
    simp only [widen]
    split_ifs with h1 h2 h3
    · rw [exponentField_pack64 _ (by omega) (by omega)]
      omega
    · rw [exponentField_pack64 _ (by omega) (by omega)]
      omega
    · have hk := log2_fraction_bounds h3 hm
      rw [exponentField_pack64 _ (by omega) (subnormal_fraction_lt h3 hm)]
      omega
    · rw [exponentField_pack64 _ (by omega) (by omega)]
      omega
  rw [Bool.eq_iff_iff]
  simp only [Format.isFinite, bne_iff_ne, ne_eq]
  exact not_congr hfields

/-- Widening keeps the magnitude of a finite number.

**Proof sketch.** Zero stays zero. A subnormal number `m · 2⁻¹⁴⁹` with leading bit `k` is
`(2⁵² + (m - 2ᵏ) 2⁵²⁻ᵏ) · 2ᵏ⁻²⁰¹`. A normal number gains 29 fraction bits and the difference of
the biases. -/
lemma magnitude_widen (bits : ℕ) (hfin : binary32.isFinite bits) :
    binary64.magnitude (widen bits) = binary32.magnitude bits := by
  have hm := fraction_lt bits
  have he := exponentField_lt bits
  have h255 : binary32.exponentField bits ≠ 255 := by
    simpa [Format.isFinite, binary32] using hfin
  simp only [widen, if_neg h255]
  split_ifs with h0 hzero
  · have hz : binary64.magnitude (pack64 (binary32.isNegative bits) 0 0) = 0 := by
      rw [Format.magnitude, exponentField_pack64 _ (by omega) (by omega),
        fraction_pack64 _ (by omega)]
      simp
    rw [hz, Format.magnitude, if_pos h0, hzero]
    simp
  · obtain ⟨hk, hlow, _⟩ := log2_fraction_bounds hzero hm
    set m := binary32.fraction bits with hmdef
    set k := Nat.log2 m with hkdef
    rw [magnitude_pack64_normal _ (by omega) (by omega) (subnormal_fraction_lt hzero hm),
      Format.magnitude, if_pos h0, ← hmdef, ← hkdef]
    have hsum : 2 ^ 52 + (m - 2 ^ k) * 2 ^ (52 - k) = m * 2 ^ (52 - k) := by
      have hpow : 2 ^ 52 = 2 ^ k * 2 ^ (52 - k) := by rw [← pow_add]; congr 1; omega
      rw [hpow, ← Nat.add_mul, Nat.add_sub_cancel' hlow]
    have hmin : binary32.minExponent = ((52 - k : ℕ) : ℤ) + (((k + 874 : ℕ) : ℤ) - 1075) := by
      simp only [Format.minExponent, binary32]
      omega
    rw [hsum, hmin, zpow_add₀ (by norm_num), zpow_natCast]
    push_cast
    ring
  · rw [magnitude_pack64_normal _ (by omega) (by omega) (by omega), Format.magnitude,
      if_neg h0]
    have hexp : binary32.minExponent + (binary32.exponentField bits : ℤ) - 1 =
        (((binary32.exponentField bits + 896 : ℕ) : ℤ) - 1075) + ((29 : ℕ) : ℤ) := by
      simp only [Format.minExponent, show binary32.exponentBits = 8 from rfl,
        show binary32.fractionBits = 23 from rfl]
      omega
    rw [hexp, zpow_add₀ (by norm_num), zpow_natCast]
    simp only [show binary32.fractionBits = 23 from rfl]
    push_cast
    ring

/-- **Widening is exact** on finite numbers. -/
theorem value_widen (bits : ℕ) (hfin : binary32.isFinite bits) :
    binary64.value (widen bits) = binary32.value bits := by
  rw [Format.value, Format.value, isNegative_widen, magnitude_widen bits hfin]

/-! ## Rounding natural numbers -/

/-- The numbers with at most `p` significant bits. -/
def Representable (p n : ℕ) : Prop := ∃ m e, m < 2 ^ p ∧ n = m * 2 ^ e

/-- Bits of `n` below the `p` most significant ones. -/
def excess (p n : ℕ) : ℕ := Nat.log2 n + 1 - p

/-- `n` rounded to `p` significant bits, to nearest, ties to even. -/
def roundNat (p n : ℕ) : ℕ :=
  let unit := 2 ^ excess p n
  let q := n / unit
  let r := n % unit
  if unit < 2 * r ∨ (2 * r = unit ∧ q % 2 = 1) then (q + 1) * unit else q * unit


section Rounding

variable {p : ℕ}

/-- A number with at most `p` bits is not rounded. -/
lemma roundNat_of_lt (hp : 0 < p) {n : ℕ} (h : n < 2 ^ p) : roundNat p n = n := by
  have hexcess : excess p n = 0 := by
    rcases Nat.eq_zero_or_pos n with rfl | hn
    · simp only [excess, Nat.log2_zero]
      omega
    · have := (Nat.log2_lt hn.ne').mpr h
      simp only [excess]
      omega
  simp [roundNat, hexcess, Nat.mod_one]

/-- The leading digits of `n` fill `p` bits. -/
lemma div_unit_lt (n : ℕ) : n / 2 ^ excess p n < 2 ^ p := by
  rw [Nat.div_lt_iff_lt_mul (Nat.two_pow_pos _), ← pow_add]
  refine (Nat.lt_log2_self (n := n)).trans_le (Nat.pow_le_pow_right (by decide) ?_)
  simp only [excess]
  omega

/-- No `p`-bit number lies strictly between the two candidates of the rounding.

**Proof sketch.** A `p`-bit number that is a multiple of the unit is one of the multiples, so on
one side. Otherwise its own unit is at most half as large, so it is below `2ᵖ⁻¹` units, and the
leading digits of `n` are at least that. -/
lemma representable_not_between (hp : 0 < p) {m : ℕ} (hm : Representable p m) (n : ℕ) :
    m ≤ n / 2 ^ excess p n * 2 ^ excess p n ∨
      (n / 2 ^ excess p n + 1) * 2 ^ excess p n ≤ m := by
  obtain ⟨c, f, hc, rfl⟩ := hm
  set e := excess p n with he
  rcases Nat.lt_or_ge f e with hfe | hfe
  · left
    have hlog : p - 1 + e = Nat.log2 n := by
      simp only [excess] at he
      omega
    have hn : n ≠ 0 := by
      rintro rfl
      simp only [excess, Nat.log2_zero] at he
      omega
    have hlead : 2 ^ (p - 1) ≤ n / 2 ^ e := by
      rw [Nat.le_div_iff_mul_le (Nat.two_pow_pos e), ← pow_add, hlog]
      exact Nat.log2_self_le hn
    calc c * 2 ^ f ≤ 2 ^ p * 2 ^ f := Nat.mul_le_mul_right _ hc.le
      _ = 2 ^ (p + f) := (pow_add 2 p f).symm
      _ ≤ 2 ^ (p - 1 + e) := Nat.pow_le_pow_right (by decide) (by omega)
      _ = 2 ^ (p - 1) * 2 ^ e := pow_add 2 (p - 1) e
      _ ≤ n / 2 ^ e * 2 ^ e := Nat.mul_le_mul_right _ hlead
  · obtain ⟨d, rfl⟩ := Nat.exists_eq_add_of_le hfe
    rw [pow_add, Nat.mul_left_comm, Nat.mul_comm (2 ^ e)]
    rcases Nat.lt_or_ge (n / 2 ^ e) (c * 2 ^ d) with h | h
    · exact Or.inr (Nat.mul_le_mul_right _ h)
    · exact Or.inl (Nat.mul_le_mul_right _ h)

/-- **Nearest**: no `p`-bit number is nearer to `n` than the rounded one. -/
theorem roundNat_nearest (hp : 0 < p) (n : ℕ) {m : ℕ} (hm : Representable p m) :
    Nat.dist (roundNat p n) n ≤ Nat.dist m n := by
  have hside := representable_not_between hp hm n
  have hdiv : n / 2 ^ excess p n * 2 ^ excess p n + n % 2 ^ excess p n = n := Nat.div_add_mod' n _
  have hr : n % 2 ^ excess p n < 2 ^ excess p n := Nat.mod_lt _ (Nat.two_pow_pos _)
  simp only [roundNat, Nat.dist]
  rw [Nat.add_mul, Nat.one_mul] at hside
  split_ifs with h
  · rw [Nat.add_mul, Nat.one_mul]
    omega
  · omega

/-- The rounded number has at most `p` significant bits. -/
lemma representable_roundNat (hp : 0 < p) (n : ℕ) : Representable p (roundNat p n) := by
  have hlt := div_unit_lt (p := p) n
  simp only [roundNat]
  split_ifs
  · rcases Nat.lt_or_ge (n / 2 ^ excess p n + 1) (2 ^ p) with h | h
    · exact ⟨_, _, h, rfl⟩
    · refine ⟨1, p + excess p n, Nat.one_lt_two_pow hp.ne', ?_⟩
      rw [show n / 2 ^ excess p n + 1 = 2 ^ p by omega, pow_add, Nat.one_mul]
  · exact ⟨_, _, hlt, rfl⟩

/-- A `p`-bit number is not rounded. -/
lemma roundNat_of_representable (hp : 0 < p) {n : ℕ} (h : Representable p n) :
    roundNat p n = n := by
  have := roundNat_nearest hp n h
  simp only [Nat.dist] at this
  omega

/-- Rounding is monotone.

**Proof sketch.** If `a ≤ b` were rounded to `x > y`, both would be as near to the other's
rounded value as to their own, so both would be the midpoint of `x` and `y`, hence equal. -/
theorem monotone_roundNat (hp : 0 < p) : Monotone (roundNat p) := by
  intro a b hab
  by_contra hlt
  have ha := roundNat_nearest hp a (representable_roundNat hp b)
  have hb := roundNat_nearest hp b (representable_roundNat hp a)
  simp only [Nat.dist] at ha hb
  obtain rfl : a = b := by omega
  exact hlt le_rfl

end Rounding

end Ieee754
