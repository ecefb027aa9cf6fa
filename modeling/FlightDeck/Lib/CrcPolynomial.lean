import FlightDeck.Lib.CrcDetection
import Mathlib.Algebra.Field.ZMod
import Mathlib.Algebra.Polynomial.Div
import Mathlib.Tactic.LinearCombination

set_option relaxedAutoImplicit false
set_option autoImplicit false

/-!
# Cyclic redundancy checks as polynomial remainders

A reflected register is a polynomial over the field of two elements, its lowest bit being the
highest coefficient. A step of it is a multiplication by `X`, reduced by the generator: the bit
that falls out is the coefficient that the generator takes away. So the register after a message
is the remainder of the message, moved up by the width of the register, to which the register at
the start adds a multiple of its own.

## Main definitions

* `Crc.ofBits` — the polynomial of a bit pattern, the first bit being the highest coefficient.
* `Crc.reflected` — the polynomial that a register stands for.
* `Crc.generator` — the generator, from the reflected one of the register.
* `Crc.word` — the coefficients of a polynomial as a bit vector.

## Main results

* `Crc.X_mul_reflected` — one step.
* `Crc.reflected_foldl` — the register after a byte string, from any start.
-/

namespace Crc

open Polynomial

/-! ## Bit patterns as polynomials -/

/-- A bit as a coefficient. -/
def coefficient (b : Bool) : ZMod 2 := if b then 1 else 0

@[simp] lemma coefficient_false : coefficient false = 0 := rfl

@[simp] lemma coefficient_true : coefficient true = 1 := rfl

/-- Exclusive or adds coefficients. -/
lemma coefficient_xor (a b : Bool) : coefficient (a ^^ b) = coefficient a + coefficient b := by
  cases a <;> cases b <;> decide

/-- A coefficient is `1` if its bit is set. -/
lemma coefficient_eq_one (b : Bool) : coefficient b = 1 ↔ b = true := by cases b <;> decide

/-- The polynomial of the first `n` bits of `f`, the first one being the highest coefficient. -/
noncomputable def ofBits (f : ℕ → Bool) (n : ℕ) : (ZMod 2)[X] :=
  ∑ i ∈ Finset.range n, C (coefficient (f i)) * X ^ (n - 1 - i)

variable {f g : ℕ → Bool} {n k : ℕ}

/-- One bit more moves the others up. -/
lemma ofBits_succ (f : ℕ → Bool) (n : ℕ) :
    ofBits f (n + 1) = X * ofBits f n + C (coefficient (f n)) := by
  have hup : ∀ i ∈ Finset.range n, C (coefficient (f i)) * X ^ (n + 1 - 1 - i) =
      X * (C (coefficient (f i)) * X ^ (n - 1 - i)) := by
    intro i hi
    have hlt := Finset.mem_range.mp hi
    rw [show n + 1 - 1 - i = n - 1 - i + 1 by omega, pow_succ]
    ring
  rw [ofBits, ofBits, Finset.sum_range_succ, Finset.sum_congr rfl hup, Finset.mul_sum,
    show n + 1 - 1 - n = 0 by omega, pow_zero, mul_one]

/-- The coefficients of a bit pattern. -/
lemma coeff_ofBits (f : ℕ → Bool) (n k : ℕ) :
    (ofBits f n).coeff k = if k < n then coefficient (f (n - 1 - k)) else 0 := by
  induction n generalizing k with
  | zero => simp [ofBits]
  | succ n ih =>
    rw [ofBits_succ, coeff_add]
    cases k with
    | zero => simp
    | succ k =>
      rw [coeff_X_mul, coeff_C_succ, add_zero, ih]
      simp only [Nat.add_lt_add_iff_right]
      congr 3
      omega

/-- Only the bits that are read matter. -/
lemma ofBits_congr (h : ∀ i < n, f i = g i) : ofBits f n = ofBits g n := by
  refine Finset.sum_congr rfl ?_
  intro i hi
  rw [h i (Finset.mem_range.mp hi)]

/-- Exclusive or adds polynomials. -/
lemma ofBits_xor (f g : ℕ → Bool) (n : ℕ) :
    ofBits (fun i => f i ^^ g i) n = ofBits f n + ofBits g n := by
  simp only [ofBits, coefficient_xor, C_add, add_mul, Finset.sum_add_distrib]

/-- The degree is less than the number of bits. -/
lemma degree_ofBits_lt (f : ℕ → Bool) (n : ℕ) : (ofBits f n).degree < n := by
  rw [degree_lt_iff_coeff_zero]
  intro k hk
  rw [coeff_ofBits, if_neg (by omega)]

/-! ## Registers as polynomials -/

variable {w : ℕ}

/-- The polynomial that a reflected register stands for. -/
noncomputable def reflected (c : BitVec w) : (ZMod 2)[X] := ofBits c.getLsbD w

/-- The generator: the register's polynomial and the power that falls out of the register. -/
noncomputable def generator (p : BitVec w) : (ZMod 2)[X] := X ^ w + reflected p

lemma reflected_xor (a b : BitVec w) : reflected (a ^^^ b) = reflected a + reflected b := by
  rw [reflected, ofBits_congr fun i _ => BitVec.getLsbD_xor, ofBits_xor]
  rfl

@[simp] lemma reflected_zero : reflected 0#w = 0 := by
  ext k
  simp [reflected, coeff_ofBits]

lemma degree_reflected_lt (c : BitVec w) : (reflected c).degree < w := degree_ofBits_lt _ _

/-- The generator is monic. -/
lemma monic_generator (p : BitVec w) : (generator p).Monic := monic_X_pow_add (degree_reflected_lt p)

/-- The generator has the register's width for its degree. -/
lemma degree_generator (p : BitVec w) : (generator p).degree = w := by
  rw [generator, degree_add_eq_left_of_degree_lt]
  · exact degree_X_pow w
  · rw [degree_X_pow]
    exact degree_reflected_lt p

/-- A bit at the low end is the highest coefficient. -/
lemma reflected_bit (hw : 0 < w) (b : Bool) :
    reflected (bit w b) = C (coefficient b) * X ^ (w - 1) := by
  ext k
  rw [reflected, coeff_ofBits, coeff_C_mul, coeff_X_pow]
  cases b with
  | false => simp [bit]
  | true =>
    rw [bit, if_pos rfl, BitVec.getLsbD_one]
    by_cases hk : k = w - 1
    · subst hk
      simp [hw]
    · rw [if_neg hk, mul_zero]
      by_cases hkw : k < w
      · have hne : w - 1 - k ≠ 0 := by omega
        simp [hne]
      · rw [if_neg hkw]

/-- Moving a register down multiplies by `X`, but for the bit that falls out. -/
lemma X_mul_reflected_eq_shift (hw : 0 < w) (c : BitVec w) :
    X * reflected c = reflected (c >>> 1) + C (coefficient (c.getLsbD 0)) * X ^ w := by
  ext k
  rw [coeff_add, coeff_C_mul, coeff_X_pow, reflected, reflected, coeff_ofBits,
    BitVec.getLsbD_ushiftRight]
  cases k with
  | zero =>
    rw [coeff_X_mul_zero, if_pos hw, if_neg (by omega), mul_zero, add_zero,
      BitVec.getLsbD_of_ge c _ (by omega)]
    rfl
  | succ k =>
    rw [coeff_X_mul, coeff_ofBits]
    rcases lt_trichotomy (k + 1) w with hlt | heq | hgt
    · rw [if_pos (by omega), if_pos hlt, if_neg (by omega), mul_zero, add_zero]
      congr 2
      omega
    · rw [if_pos (by omega), if_neg (by omega), if_pos heq, zero_add, mul_one]
      congr 2
      omega
    · rw [if_neg (by omega), if_neg (by omega), if_neg (by omega), mul_zero, add_zero]

/-- **One step** of the register: a multiplication by `X`, reduced by the generator. -/
lemma X_mul_reflected (hw : 0 < w) (p c : BitVec w) :
    X * reflected c = reflected (step p c) + C (coefficient (c.getLsbD 0)) * generator p := by
  rw [X_mul_reflected_eq_shift hw, step, generator]
  cases c.getLsbD 0 with
  | false => simp
  | true =>
    -- What the step takes in comes twice.
    have htwice : reflected p + reflected p = 0 := CharTwo.add_self_eq_zero _
    rw [if_pos rfl, reflected_xor, coefficient_true, C_1, one_mul, one_mul]
    linear_combination -htwice

/-! ## Messages -/

variable (p : BitVec w)

/-- Any number of steps. -/
lemma dvd_pow_mul_reflected_sub (hw : 0 < w) (c : BitVec w) (n : ℕ) :
    generator p ∣ X ^ n * reflected c - reflected ((step p)^[n] c) := by
  induction n with
  | zero => simp
  | succ n ih =>
    obtain ⟨q, hq⟩ := ih
    have hstep := X_mul_reflected hw p ((step p)^[n] c)
    refine ⟨X * q + C (coefficient (((step p)^[n] c).getLsbD 0)), ?_⟩
    rw [Function.iterate_succ_apply', pow_succ]
    linear_combination X * hq + hstep

/-- **The register after a bit pattern**, started from zero, is the remainder of the pattern moved
up by the register's width.

**Proof sketch.** Induction on the number of bits. A bit more multiplies the pattern by `X` and
adds the bit; the register takes the bit in at its low end, which is the power below its width,
and makes a step. -/
lemma dvd_ofBits_mul_sub_register (hw : 0 < w) (f : ℕ → Bool) (n : ℕ) :
    generator p ∣ ofBits f n * X ^ w - reflected (register p f n) := by
  induction n with
  | zero => simp [ofBits, register]
  | succ n ih =>
    obtain ⟨q, hq⟩ := ih
    have hstep := X_mul_reflected hw p (register p f n ^^^ bit w (f n))
    have hpow : (X : (ZMod 2)[X]) * X ^ (w - 1) = X ^ w := by
      rw [← pow_succ', Nat.sub_add_cancel hw]
    rw [reflected_xor, reflected_bit hw] at hstep
    refine ⟨X * q + C (coefficient ((register p f n ^^^ bit w (f n)).getLsbD 0)), ?_⟩
    rw [register, ofBits_succ]
    linear_combination X * hq + hstep - C (coefficient (f n)) * hpow

/-- Clear bytes only make steps. -/
lemma foldl_byteStep_replicate_zero (c : BitVec w) (n : ℕ) :
    (List.replicate n 0#8).foldl (byteStep p) c = (step p)^[8 * n] c := by
  induction n generalizing c with
  | zero => rfl
  | succ n ih =>
    rw [List.replicate_succ, List.foldl_cons, ih, byteStep, Nat.mul_succ,
      Function.iterate_add_apply]
    simp

/-- The start of the register and the message add up. -/
lemma foldl_byteStep_eq_xor (bytes : List (BitVec 8)) (c : BitVec w) :
    bytes.foldl (byteStep p) c =
      bytes.foldl (byteStep p) 0#w ^^^ (step p)^[8 * bytes.length] c := by
  have hzero : List.zipWith (· ^^^ ·) bytes (List.replicate bytes.length 0#8) = bytes := by
    apply List.ext_getElem
    · simp
    · intro i _ _
      simp
  have hlinear := foldl_byteStep_xor (p := p)
    (show bytes.length = (List.replicate bytes.length 0#8).length by simp) 0#w c
  rwa [hzero, BitVec.zero_xor, foldl_byteStep_replicate_zero] at hlinear

/-- **The register after a byte string** is the remainder of the message moved up by the
register's width and of what it held at the start moved up by the length of the message. -/
theorem reflected_foldl (hw : 8 ≤ w) (bytes : List (BitVec 8)) (c : BitVec w) :
    reflected (bytes.foldl (byteStep p) c) =
      (ofBits (bitOf bytes) (8 * bytes.length) * X ^ w +
        reflected c * X ^ (8 * bytes.length)) %ₘ generator p := by
  have hmessage := dvd_ofBits_mul_sub_register p (by omega : 0 < w) (bitOf bytes)
    (8 * bytes.length)
  have hstart := dvd_pow_mul_reflected_sub p (by omega : 0 < w) c (8 * bytes.length)
  rw [foldl_byteStep_eq_xor, foldl_byteStep_eq_register hw, reflected_xor]
  set register := register p (bitOf bytes) (8 * bytes.length)
  set start := (step p)^[8 * bytes.length] c
  have hdegree : (reflected register + reflected start).degree < (generator p).degree := by
    rw [← reflected_xor, degree_generator]
    exact degree_reflected_lt _
  rw [← (modByMonic_eq_self_iff (monic_generator p)).mpr hdegree]
  refine modByMonic_eq_of_dvd_sub (monic_generator p) ?_
  have hsum := dvd_neg.mpr (dvd_add hmessage hstart)
  convert hsum using 1
  ring

/-! ## Polynomials as words -/

/-- The lowest `w` coefficients of a polynomial, coefficient `i` being bit `i`. -/
noncomputable def word (w : ℕ) (q : (ZMod 2)[X]) : BitVec w :=
  (BitVec.ofBoolListLE ((List.range w).map fun i => decide (q.coeff i = 1))).setWidth w

/-- The bits of a word. -/
lemma getLsbD_word {i : ℕ} (hi : i < w) (q : (ZMod 2)[X]) :
    (word w q).getLsbD i = decide (q.coeff i = 1) := by
  rw [word, BitVec.getLsbD_setWidth, BitVec.getLsbD_ofBoolListLE]
  simp [hi]

/-- A register is the reflection of its polynomial. -/
lemma reverse_word_reflected (c : BitVec w) : (word w (reflected c)).reverse = c := by
  apply BitVec.eq_of_getLsbD_eq
  intro i hi
  rw [BitVec.getLsbD_reverse, BitVec.getMsbD_eq_getLsbD, getLsbD_word (by omega), reflected,
    coeff_ofBits, if_pos (by omega), show w - 1 - (w - 1 - i) = i by omega]
  simp [hi, coefficient_eq_one]

/-- All ones stand for the sum of the powers below the width. -/
lemma reflected_allOnes (w : ℕ) : reflected (BitVec.allOnes w) = ∑ i ∈ Finset.range w, X ^ i := by
  ext k
  rw [reflected, coeff_ofBits, finsetSum_coeff]
  simp only [coeff_X_pow, Finset.sum_ite_eq, Finset.mem_range]
  split_ifs with hk
  · rw [BitVec.getLsbD_allOnes, decide_eq_true (by omega), coefficient_true]
  · rfl

end Crc
