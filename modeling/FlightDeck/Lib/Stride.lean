import Mathlib.Algebra.Order.Floor.Div
import Mathlib.Algebra.Order.Group.Nat
import Mathlib.Data.List.Chain
import Mathlib.Tactic.Ring

set_option relaxedAutoImplicit false
set_option autoImplicit false

/-!
# Every so many elements of a list

A list is thinned out to about `m` elements by keeping those whose position is a multiple of a
stride, the quotient of its length by `m` rounded up, and the last one. The rounding up bounds
the number of multiples by `m`, whatever the remainder.

## Main definitions

* `Stride.multiples` — the positions that are multiples of the stride.
* `Stride.withLast` — positions, with the last one appended if it is not among them.
* `Stride.Covers` — positions that reach from the first to the last with no wide gap.

## Main results

* `Stride.multiples_eq` — the multiples, counted.
* `Stride.ceilDiv_ceilDiv_le` — there are no more of them than asked for.
* `Stride.covers_withLast_multiples` — with the last position they cover the list.
-/

namespace Stride

/-! ## Multiples -/

/-- The positions below `n` that are multiples of `s`. -/
def multiples (s n : ℕ) : List ℕ := (List.range n).filter fun i => i % s == 0

variable {s n m gap : ℕ}

/-- A position more is a multiple if the count so far is exact. -/
lemma succ_ceilDiv (hs : 0 < s) (n : ℕ) :
    (n + 1) ⌈/⌉ s = n ⌈/⌉ s + if n % s = 0 then 1 else 0 := by
  rw [Nat.ceilDiv_eq_add_pred_div, Nat.ceilDiv_eq_add_pred_div]
  have hdiv := Nat.div_add_mod n s
  have hlt := Nat.mod_lt n hs
  have hsucc : n + 1 + s - 1 = n + s := by omega
  rw [hsucc, Nat.add_div_right n hs]
  split_ifs with hzero
  · have hrest : n + s - 1 = s * (n / s) + (s - 1) := by omega
    rw [hrest, Nat.mul_add_div hs, Nat.div_eq_of_lt (a := s - 1) (by omega)]
  · have hrest : n + s - 1 = s * (n / s + 1) + (n % s - 1) := by
      rw [Nat.mul_add, Nat.mul_one]
      omega
    rw [hrest, Nat.mul_add_div hs, Nat.div_eq_of_lt (a := n % s - 1) (by omega)]

/-- A multiple is the count of those before it, times the stride. -/
lemma ceilDiv_mul_of_mod_eq_zero (hs : 0 < s) (h : n % s = 0) : n ⌈/⌉ s * s = n := by
  obtain ⟨k, rfl⟩ := Nat.dvd_of_mod_eq_zero h
  rw [← smul_eq_mul s k, smul_ceilDiv hs, smul_eq_mul, mul_comm]

/-- **The multiples**, counted. -/
lemma multiples_eq (hs : 0 < s) (n : ℕ) :
    multiples s n = (List.range (n ⌈/⌉ s)).map fun k => k * s := by
  induction n with
  | zero => simp [multiples]
  | succ n ih =>
    rw [multiples, List.range_succ, List.filter_append, ← multiples, ih, succ_ceilDiv hs]
    by_cases hzero : n % s = 0
    · simp [hzero, List.range_succ, ceilDiv_mul_of_mod_eq_zero hs hzero]
    · simp [hzero]

/-- How many multiples there are. -/
@[simp] lemma length_multiples (hs : 0 < s) (n : ℕ) : (multiples s n).length = n ⌈/⌉ s := by
  simp [multiples_eq hs]

/-- **No more than asked for**: the stride that rounds the quotient up leaves no more multiples
than the divisor. -/
lemma ceilDiv_ceilDiv_le (hm : 0 < m) (hn : 0 < n) : n ⌈/⌉ (n ⌈/⌉ m) ≤ m := by
  have hle : n ≤ m * (n ⌈/⌉ m) := le_smul_ceilDiv hm
  have hpos : 0 < n ⌈/⌉ m := Nat.pos_of_mul_pos_left (hn.trans_le hle)
  rw [ceilDiv_le_iff_le_mul hpos, mul_comm]
  exact hle

/-! ## Covering a list -/

/-- Positions, with the last one of `n` appended if it is not their last. -/
def withLast (n : ℕ) (kept : List ℕ) : List ℕ :=
  if kept.getLast? ≠ some (n - 1) then kept ++ [n - 1] else kept

/-- No more than one position is appended. -/
lemma length_withLast_le (n : ℕ) (kept : List ℕ) : (withLast n kept).length ≤ kept.length + 1 := by
  unfold withLast
  split_ifs <;> simp

/-- Positions that run through a list of `n` elements from its first to its last one, in order
and no further than `gap` apart. -/
structure Covers (n gap : ℕ) (kept : List ℕ) : Prop where
  increasing : kept.Pairwise (· < ·)
  first : 0 < n → kept.head? = some 0
  last : 0 < n → kept.getLast? = some (n - 1)
  gaps : kept.IsChain fun i j => j ≤ i + gap

/-- All positions are those that are next to each other. -/
lemma covers_range (hgap : 0 < n → 0 < gap) : Covers n gap (List.range n) where
  increasing := List.pairwise_lt_range
  first hn := by rw [List.head?_range, if_neg hn.ne']
  last hn := by rw [List.getLast?_range, if_neg hn.ne']
  gaps := by
    rw [List.isChain_iff_getElem]
    intro i hi
    rw [List.length_range] at hi
    have := hgap (by omega)
    simp only [List.getElem_range]
    omega

/-- The last multiple, and how far the end is from it. -/
lemma getLast?_multiples (hs : 0 < s) (hn : 0 < n) :
    ∃ last, (multiples s n).getLast? = some last ∧ last ≤ n - 1 ∧ n - 1 ≤ last + s := by
  obtain ⟨k, hk⟩ : ∃ k, n ⌈/⌉ s = k + 1 := by
    refine ⟨n ⌈/⌉ s - 1, (Nat.sub_add_cancel ?_).symm⟩
    exact Nat.pos_of_mul_pos_left (hn.trans_le (le_smul_ceilDiv hs))
  have hge : n ≤ s * (k + 1) := hk ▸ le_smul_ceilDiv hs
  -- One multiple less does not reach the end.
  have hlt : s * k < n := by
    have hnot : ¬n ⌈/⌉ s ≤ k := by omega
    rwa [ceilDiv_le_iff_le_mul hs, not_le] at hnot
  refine ⟨k * s, ?_, ?_, ?_⟩
  · rw [multiples_eq hs, hk, List.range_succ, List.map_append, List.map_singleton,
      List.getLast?_concat]
  · rw [mul_comm]
    omega
  · rw [Nat.mul_add, Nat.mul_one, mul_comm s k] at hge
    omega

/-- **The multiples and the last position** cover a list. -/
theorem covers_withLast_multiples (hs : 0 < s) (hn : 0 < n) :
    Covers n s (withLast n (multiples s n)) := by
  obtain ⟨last, hlast, hle, hend⟩ := getLast?_multiples hs hn
  have hincreasing : (multiples s n).Pairwise (· < ·) := List.pairwise_lt_range.filter _
  have hhead : (multiples s n).head? = some 0 := by
    obtain ⟨k, rfl⟩ := Nat.exists_eq_succ_of_ne_zero hn.ne'
    rw [multiples, List.range_succ_eq_map, List.filter_cons_of_pos (by simp), List.head?_cons]
  have hgaps : (multiples s n).IsChain fun i j => j ≤ i + s := by
    rw [multiples_eq hs, List.isChain_iff_getElem]
    intro i _
    simp only [List.getElem_map, List.getElem_range]
    exact (by ring : (i + 1) * s = i * s + s).le
  unfold withLast
  split_ifs with hdifferent
  · constructor
    case increasing =>
      rw [List.pairwise_append]
      refine ⟨hincreasing, List.pairwise_singleton _ _, ?_⟩
      intro i hi j hj
      obtain rfl := List.mem_singleton.mp hj
      -- No multiple is beyond the last one, and that is not the last position.
      have hile : i ≤ last := by
        obtain ⟨front, hfront⟩ := List.getLast?_eq_some_iff.mp hlast
        rw [hfront] at hincreasing hi
        rcases List.mem_append.mp hi with hi | hi
        · exact ((List.pairwise_append.mp hincreasing).2.2 i hi last (by simp)).le
        · exact (List.mem_singleton.mp hi).le
      rw [hlast, ne_eq, Option.some_inj] at hdifferent
      omega
    case first =>
      intro _
      rw [List.head?_append, hhead]
      rfl
    case last => exact fun _ => List.getLast?_concat
    case gaps =>
      rw [List.isChain_append]
      refine ⟨hgaps, List.isChain_singleton _, ?_⟩
      intro i hi j hj
      rw [hlast, Option.mem_some_iff] at hi
      rw [List.head?_singleton, Option.mem_some_iff] at hj
      omega
  · exact ⟨hincreasing, fun _ => hhead, fun _ => not_not.mp hdifferent, hgaps⟩

end Stride
