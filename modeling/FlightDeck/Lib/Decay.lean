import Mathlib.Algebra.Order.Archimedean.Real.Basic
import Mathlib.Topology.Algebra.InfiniteSum.Real

set_option relaxedAutoImplicit false
set_option autoImplicit false

/-!
# Sequences that must come to an end

Two reasons why a run cannot stay in one mode for ever: a quantity that falls by a fixed amount in
each step and is bounded below, and a speed that decays so slowly that the way it covers has no
bound.

## Main results

* `exists_last_of_decreasing` — a quantity that falls by a fixed amount.
* `not_summable_of_quadratic_decay`, `exists_last_of_quadratic_decay` — a speed that loses at most
  a multiple of its square.
-/

namespace Decay

variable {P : ℕ → Prop}

/-! ## A fixed amount -/

/-- What falls by `δ` in each step of a run falls by `n * δ` in `n` steps. -/
lemma le_sub_of_decreasing {f : ℕ → ℝ} {δ : ℝ} (hstep : ∀ n, f (n + 1) ≤ f n - δ) (n : ℕ) :
    f n ≤ f 0 - n * δ := by
  induction n with
  | zero => simp
  | succ n ih =>
    have := hstep n
    push_cast
    linarith

/-- A condition does not last if some quantity falls by a fixed amount while it holds and has a
lower bound then. -/
theorem exists_last_of_decreasing {f : ℕ → ℝ} {δ b : ℝ} (hδ : 0 < δ) (hzero : P 0)
    (hstep : ∀ n, P n → P (n + 1) → f (n + 1) ≤ f n - δ)
    (hbound : ∀ n, P n → P (n + 1) → b ≤ f (n + 1)) : ∃ n, P n ∧ ¬P (n + 1) := by
  by_contra! hnext
  have h : ∀ n, P n := fun n => Nat.rec hzero hnext n
  obtain ⟨n, hn⟩ := exists_nat_gt ((f 0 - b) / δ)
  have hfall := le_sub_of_decreasing (fun n => hstep n (h n) (h (n + 1))) (n + 1)
  have hlow := hbound n (h n) (h (n + 1))
  rw [div_lt_iff₀ hδ] at hn
  push_cast at hfall
  linarith

/-! ## A multiple of the square -/

variable {u : ℕ → ℝ} {c : ℝ}

/-- While the sum of the speeds is small, the first of them is nearly kept. -/
lemma mul_one_sub_le (hc : 0 < c) (hpos : ∀ n, 0 < u n)
    (hstep : ∀ n, u n - c * u n ^ 2 ≤ u (n + 1))
    (hsmall : ∀ n, c * ∑ i ∈ Finset.range n, u i ≤ 1 / 2) (n : ℕ) :
    u 0 * (1 - c * ∑ i ∈ Finset.range n, u i) ≤ u n := by
  induction n with
  | zero => simp
  | succ n ih =>
    set sum := ∑ i ∈ Finset.range n, u i with hsum
    have hsum₀ : 0 ≤ sum := Finset.sum_nonneg fun i _ => (hpos i).le
    have hfactor : 0 ≤ 1 - c * u n := by
      have := hsmall (n + 1)
      rw [Finset.sum_range_succ, ← hsum, mul_add] at this
      have := mul_nonneg hc.le hsum₀
      linarith
    rw [Finset.sum_range_succ, ← hsum]
    calc u 0 * (1 - c * (sum + u n))
        ≤ u 0 * (1 - c * sum) * (1 - c * u n) := by
          have : 0 ≤ u 0 * (c * sum * (c * u n)) :=
            mul_nonneg (hpos 0).le (mul_nonneg (mul_nonneg hc.le hsum₀)
              (mul_nonneg hc.le (hpos n).le))
          linarith
      _ ≤ u n * (1 - c * u n) := mul_le_mul_of_nonneg_right ih hfactor
      _ = u n - c * u n ^ 2 := by ring
      _ ≤ u (n + 1) := hstep n

/-- **Slow decay**: what loses at most a multiple of its square in each step decays like `1 / n`,
and its sum has no bound. -/
theorem not_summable_of_quadratic_decay (hc : 0 < c) (hpos : ∀ n, 0 < u n)
    (hstep : ∀ n, u n - c * u n ^ 2 ≤ u (n + 1)) : ¬Summable u := by
  intro h
  -- a tail whose sum is small keeps half of its first speed, so that it is not small
  obtain ⟨N, hN⟩ : ∃ N, (tsum fun i => u (i + N)) < 1 / (2 * c) :=
    ((tendsto_sum_nat_add u).eventually_lt_const (by positivity)).exists
  have htail : Summable fun i => u (i + N) := (summable_nat_add_iff N).mpr h
  have hsmall : ∀ n, c * ∑ i ∈ Finset.range n, u (i + N) ≤ 1 / 2 := fun n => by
    have hle : ∑ i ∈ Finset.range n, u (i + N) ≤ 1 / (2 * c) :=
      (htail.sum_le_tsum _ fun i _ => (hpos _).le).trans hN.le
    calc c * ∑ i ∈ Finset.range n, u (i + N) ≤ c * (1 / (2 * c)) :=
          mul_le_mul_of_nonneg_left hle hc.le
      _ = 1 / 2 := by field_simp
  have hhalf : ∀ n, u N / 2 ≤ u (n + N) := fun n => by
    have hkept : u (0 + N) * (1 - c * ∑ i ∈ Finset.range n, u (i + N)) ≤ u (n + N) :=
      mul_one_sub_le hc (fun i => hpos (i + N))
        (fun i => by have := hstep (i + N); rwa [add_right_comm] at this) hsmall n
    rw [zero_add] at hkept
    have := mul_le_mul_of_nonneg_left (hsmall n) (hpos N).le
    linarith
  have hlimit := ge_of_tendsto' htail.tendsto_atTop_zero hhalf
  have := hpos N
  linarith

/-- A condition does not last if, while it holds, a way decreases by the speed of each step, has a
lower bound, and the speed decays slowly. -/
theorem exists_last_of_quadratic_decay {f : ℕ → ℝ} {a b : ℝ} (hc : 0 < c) (ha : 0 < a)
    (hzero : P 0) (hpos : ∀ n, P n → 0 < u n)
    (hdecay : ∀ n, P n → P (n + 1) → u n - c * u n ^ 2 ≤ u (n + 1))
    (hstep : ∀ n, P n → P (n + 1) → f (n + 1) = f n - a * u (n + 1))
    (hbound : ∀ n, P n → P (n + 1) → b ≤ f (n + 1)) : ∃ n, P n ∧ ¬P (n + 1) := by
  by_contra! hnext
  have h : ∀ n, P n := fun n => Nat.rec hzero hnext n
  have hpos' : ∀ n, 0 < u n := fun n => hpos n (h n)
  have hsum : ∀ n, a * ∑ i ∈ Finset.range n, u (i + 1) = f 0 - f n := fun n => by
    induction n with
    | zero => simp
    | succ n ih =>
      rw [Finset.sum_range_succ, mul_add, ih, hstep n (h n) (h (n + 1))]
      ring
  have hsummable : Summable fun i => u (i + 1) := by
    refine summable_of_sum_range_le (c := (f 0 - b) / a) (fun i => (hpos' _).le) fun n => ?_
    have hlonger : a * ∑ i ∈ Finset.range n, u (i + 1) ≤ f 0 - f (n + 1) := by
      rw [← hsum (n + 1), Finset.sum_range_succ, mul_add]
      exact le_add_of_nonneg_right (mul_pos ha (hpos' _)).le
    have hlow := hbound n (h n) (h (n + 1))
    rw [le_div_iff₀' ha]
    linarith
  exact not_summable_of_quadratic_decay hc (fun i => hpos' (i + 1))
    (fun i => hdecay _ (h _) (h _)) hsummable

end Decay
