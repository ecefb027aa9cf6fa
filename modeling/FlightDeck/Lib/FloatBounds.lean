import FlightDeck.Lib.Binary64

set_option relaxedAutoImplicit false
set_option autoImplicit false

/-!
# Bounds on doubles

Bounds by numbers of the format are carried through a computation without any error term: a
result between two of them is rounded to a number between them.

## Main definitions

* `Binary64.Radius`, `Binary64.Bounded` — a bound, and a finite double within it.
* `Binary64.Below`, `Binary64.AtLeast` — a finite double bounded by a power of two.

## Main results

* `Binary64.Below.add`, `Binary64.Below.mul`, `Binary64.Below.div` and the like — bounds through
  a computation.
* `Binary64.Near.abs_sub_le` — how far a rounded result is from the exact one.
-/

namespace Binary64

open FloatRounding

/-! ## Bounded doubles -/

/-- A finite double of absolute value at most `r`. -/
structure Bounded (x : Float) (r : ℝ) : Prop where
  /-- It is finite. -/
  finite : Finite x
  /-- It is within the bound. -/
  abs_val_le : |val x| ≤ r

/-- A bound that rounding respects. -/
structure Radius (r : ℝ) : Prop where
  /-- It is a number of the format. -/
  onGrid : OnGrid .binary64 r
  /-- It is small enough not to overflow. -/
  le : r ≤ 2 ^ 1023

/-- A multiple of a power of two. -/
lemma radius_mul_zpow {n : ℕ} (hn : n ≤ 2 ^ 53) {k : ℤ} (hk : -1074 ≤ k) (hk' : k ≤ 970) :
    Radius (n * (2 : ℝ) ^ k) := by
  refine ⟨⟨n, k, ?_, hk, by rw [Int.cast_natCast]⟩, ?_⟩
  · rw [Nat.abs_cast]
    exact_mod_cast hn
  · have hn' : (n : ℝ) ≤ 2 ^ 53 := by exact_mod_cast hn
    calc (n : ℝ) * (2 : ℝ) ^ k ≤ 2 ^ 53 * (2 : ℝ) ^ (970 : ℤ) :=
          mul_le_mul hn' (zpow_le_zpow_right₀ (by norm_num) hk') (two_zpow_pos k).le
            (by positivity)
      _ = 2 ^ 1023 := by
          rw [← zpow_natCast, ← zpow_natCast, ← zpow_add₀ (by norm_num)]
          norm_num

/-- A power of two. -/
lemma radius_zpow {k : ℤ} (hk : -1074 ≤ k) (hk' : k ≤ 970) : Radius ((2 : ℝ) ^ k) := by
  have := radius_mul_zpow (n := 1) (by norm_num) hk hk'
  rwa [Nat.cast_one, one_mul] at this

section Bounded

variable {x y : Float} {q r s t : ℝ}

/-- A rounded result keeps the bound of the exact one. -/
lemma Near.bounded (h : Near x q) (hr : Radius r) (hq : |q| ≤ r) : Bounded x r := by
  refine ⟨h.finite, ?_⟩
  rw [abs_le] at hq ⊢
  exact ⟨h.le_val hr.onGrid.neg hq.1, h.val_le hr.onGrid hq.2⟩

/-- **The error of a rounded result** is at most one unit in the last place of any power of two
that bounds the exact result. -/
lemma Near.abs_sub_le {x : Float} {q : ℝ} (h : Near x q) {k : ℤ} (hk : -1021 ≤ k)
    (hq : |q| ≤ (2 : ℝ) ^ k) : |val x - q| ≤ (2 : ℝ) ^ (k - 53) := by
  have hunit := two_zpow_pos (k - 53)
  have hscale : (2 : ℝ) ^ k = 2 ^ 53 * (2 : ℝ) ^ (k - 53) := by
    rw [← zpow_natCast, ← zpow_add₀ (by norm_num)]
    norm_num
  have hgrid : ∀ m : ℤ, |(m : ℝ)| ≤ 2 ^ 53 → OnGrid .binary64 (m * (2 : ℝ) ^ (k - 53)) := by
    intro m hm
    refine ⟨m, k - 53, ?_, ?_, rfl⟩
    · exact_mod_cast hm
    · exact (show (-1074 : ℤ) ≤ k - 53 by omega)
  -- the multiples of the unit below and above the exact result
  set v := q / (2 : ℝ) ^ (k - 53) with hv
  have hqv : q = v * (2 : ℝ) ^ (k - 53) := (div_mul_cancel₀ q hunit.ne').symm
  have habs : |v| ≤ 2 ^ 53 := by
    rw [hqv, abs_mul, abs_of_pos hunit, hscale] at hq
    exact le_of_mul_le_mul_right hq hunit
  have hbounds := abs_le.mp habs
  have hfloor : |((⌊v⌋ : ℤ) : ℝ)| ≤ 2 ^ 53 := by
    rw [abs_le]
    constructor
    · have : (-2 ^ 53 : ℤ) ≤ ⌊v⌋ := Int.le_floor.mpr (by push_cast; linarith)
      exact_mod_cast this
    · exact (Int.floor_le v).trans hbounds.2
  have hceil : |((⌈v⌉ : ℤ) : ℝ)| ≤ 2 ^ 53 := by
    rw [abs_le]
    constructor
    · exact hbounds.1.trans (Int.le_ceil v)
    · have : ⌈v⌉ ≤ (2 ^ 53 : ℤ) := Int.ceil_le.mpr (by push_cast; linarith)
      exact_mod_cast this
  have hlow : (⌊v⌋ : ℝ) * (2 : ℝ) ^ (k - 53) ≤ val x :=
    h.le_val (hgrid _ hfloor) (by rw [hqv]; gcongr; exact Int.floor_le v)
  have hhigh : val x ≤ (⌈v⌉ : ℝ) * (2 : ℝ) ^ (k - 53) :=
    h.val_le (hgrid _ hceil) (by rw [hqv]; gcongr; exact Int.le_ceil v)
  have hbelow : (v - 1) * (2 : ℝ) ^ (k - 53) ≤ (⌊v⌋ : ℝ) * (2 : ℝ) ^ (k - 53) := by
    gcongr
    exact (Int.sub_one_lt_floor v).le
  have habove : (⌈v⌉ : ℝ) * (2 : ℝ) ^ (k - 53) ≤ (v + 1) * (2 : ℝ) ^ (k - 53) := by
    gcongr
    exact (Int.ceil_lt_add_one v).le
  rw [abs_le, hqv]
  constructor <;> linarith

lemma Bounded.mono (hx : Bounded x r) (h : r ≤ s) : Bounded x s :=
  ⟨hx.finite, hx.abs_val_le.trans h⟩

lemma Bounded.le (hx : Bounded x r) : val x ≤ r := (abs_le.mp hx.abs_val_le).2

lemma Bounded.ge (hx : Bounded x r) : -r ≤ val x := (abs_le.mp hx.abs_val_le).1

lemma Bounded.radius_nonneg (hx : Bounded x r) : 0 ≤ r := (abs_nonneg _).trans hx.abs_val_le

/-- The sum is not far from the exact one. -/
lemma Bounded.add_near (hx : Bounded x r) (hy : Bounded y s) (ht : r + s ≤ 2 ^ 1023) :
    Near (x + y) (val x + val y) := by
  apply Binary64.add_near hx.finite hy.finite
  exact (abs_add_le _ _).trans ((add_le_add hx.abs_val_le hy.abs_val_le).trans ht)

lemma Bounded.add (hx : Bounded x r) (hy : Bounded y s) (ht : Radius t) (h : r + s ≤ t) :
    Bounded (x + y) t := by
  apply (hx.add_near hy (h.trans ht.le)).bounded ht
  exact (abs_add_le _ _).trans ((add_le_add hx.abs_val_le hy.abs_val_le).trans h)

/-- Nor is the difference. -/
lemma Bounded.sub_near (hx : Bounded x r) (hy : Bounded y s) (ht : r + s ≤ 2 ^ 1023) :
    Near (x - y) (val x - val y) := by
  apply Binary64.sub_near hx.finite hy.finite
  exact (abs_sub _ _).trans ((add_le_add hx.abs_val_le hy.abs_val_le).trans ht)

lemma Bounded.sub (hx : Bounded x r) (hy : Bounded y s) (ht : Radius t) (h : r + s ≤ t) :
    Bounded (x - y) t := by
  apply (hx.sub_near hy (h.trans ht.le)).bounded ht
  exact (abs_sub _ _).trans ((add_le_add hx.abs_val_le hy.abs_val_le).trans h)

/-- Nor the product. -/
lemma Bounded.mul_near (hx : Bounded x r) (hy : Bounded y s) (ht : r * s ≤ 2 ^ 1023) :
    Near (x * y) (val x * val y) := by
  apply Binary64.mul_near hx.finite hy.finite
  rw [abs_mul]
  exact (mul_le_mul hx.abs_val_le hy.abs_val_le (abs_nonneg _) hx.radius_nonneg).trans ht

lemma Bounded.mul (hx : Bounded x r) (hy : Bounded y s) (ht : Radius t) (h : r * s ≤ t) :
    Bounded (x * y) t := by
  apply (hx.mul_near hy (h.trans ht.le)).bounded ht
  rw [abs_mul]
  exact (mul_le_mul hx.abs_val_le hy.abs_val_le (abs_nonneg _) hx.radius_nonneg).trans h

/-- A quotient is bounded by the ratio of its operands. -/
lemma bounded_div (hx : Finite x) (hy : Finite y) (hpos : 0 < val y) (ht : Radius t)
    (h : |val x| ≤ t * val y) : Bounded (x / y) t := by
  have hq : |val x / val y| ≤ t := by
    rwa [abs_div, abs_of_pos hpos, div_le_iff₀ hpos]
  exact (div_near hx hy hpos.ne' (hq.trans ht.le)).bounded ht hq

/-- A quotient whose divisor is large enough. -/
lemma Bounded.div (hx : Bounded x r) (hy : Finite y) (hs : 0 < s) (hle : s ≤ val y)
    (ht : Radius t) (h : r ≤ t * s) : Bounded (x / y) t := by
  apply bounded_div hx.finite hy (hs.trans_le hle) ht
  have ht0 : 0 ≤ t := nonneg_of_mul_nonneg_left (hx.radius_nonneg.trans h) hs
  exact hx.abs_val_le.trans (h.trans (mul_le_mul_of_nonneg_left hle ht0))

/-- The square root of a number that is not negative. -/
lemma Bounded.sqrt (hx : Bounded x r) (hnonneg : 0 ≤ val x) (ht : Radius t) (ht0 : 0 ≤ t)
    (h : r ≤ t * t) : Bounded x.sqrt t := by
  have hq : |√(val x)| ≤ t := by
    rw [abs_of_nonneg (Real.sqrt_nonneg _), Real.sqrt_le_left ht0, pow_two]
    exact hx.le.trans h
  exact (sqrt_near hx.finite hnonneg (hq.trans ht.le)).bounded ht hq

/-- The opposite number. -/
lemma Bounded.neg (hx : Bounded x r) (hr : Radius r) : Bounded (-x) r ∧ val (-x) = -val x := by
  have hq : |-val x| ≤ r := (abs_neg (val x)).trans_le hx.abs_val_le
  have hnear : Near (-x) (-val x) := by
    apply near_pack _ (hq.trans hr.le)
    show Rounds _ (-value (decoded x)) _
    rw [← value_neg]
    exact hx.finite.isNumber.neg.rounds
  exact ⟨hnear.bounded hr hq, hnear.val_eq hx.finite.onGrid.neg⟩

/-- A choice between two doubles. -/
lemma Bounded.ite {p : Prop} [Decidable p] (hx : p → Bounded x r) (hy : ¬p → Bounded y r) :
    Bounded (if p then x else y) r := by
  split_ifs with h
  · exact hx h
  · exact hy h

end Bounded

/-! ## Powers of two -/

lemma atLeastTwo_two : Nat.AtLeastTwo 2 := inferInstance

section Literal

-- The side condition of the literal `2` has a name, whatever definitions come before.
attribute [local instance] atLeastTwo_two

/-- A finite double of absolute value at most `2 ^ k`. -/
def Below (x : Float) (k : ℤ) : Prop := Bounded x ((2 : ℝ) ^ k)

end Literal

/-- A finite double that is at least `2 ^ k`. -/
structure AtLeast (x : Float) (k : ℤ) : Prop where
  /-- It is finite. -/
  finite : Finite x
  /-- It is large enough. -/
  le_val : (2 : ℝ) ^ k ≤ val x

/-- The exponents in use are far from both ends of the format. -/
def Scale (k : ℤ) : Prop := -1000 ≤ k ∧ k ≤ 900

instance (k : ℤ) : Decidable (Scale k) := inferInstanceAs (Decidable (_ ∧ _))

lemma Scale.radius {k : ℤ} (h : Scale k) : Radius ((2 : ℝ) ^ k) :=
  radius_zpow (by have := h.1; omega) (by have := h.2; omega)

/-- Two smaller powers of two add up to at most the next one. -/
lemma zpow_add_zpow_le {k l m : ℤ} (hk : k < m) (hl : l < m) :
    (2 : ℝ) ^ k + (2 : ℝ) ^ l ≤ (2 : ℝ) ^ m := by
  have hstep := two_zpow_succ (m - 1)
  rw [sub_add_cancel] at hstep
  have hk' : (2 : ℝ) ^ k ≤ (2 : ℝ) ^ (m - 1) := zpow_le_zpow_right₀ (by norm_num) (by omega)
  have hl' : (2 : ℝ) ^ l ≤ (2 : ℝ) ^ (m - 1) := zpow_le_zpow_right₀ (by norm_num) (by omega)
  linarith

section Below

variable {x y : Float} {k l m : ℤ}

lemma Below.mono (hx : Below x k) (h : k ≤ l) : Below x l :=
  Bounded.mono hx (zpow_le_zpow_right₀ (by norm_num) h)

lemma Below.add (hx : Below x k) (hy : Below y l) (hk : k < m) (hl : l < m) (hm : Scale m) :
    Below (x + y) m :=
  Bounded.add hx hy hm.radius (zpow_add_zpow_le hk hl)

lemma Below.sub (hx : Below x k) (hy : Below y l) (hk : k < m) (hl : l < m) (hm : Scale m) :
    Below (x - y) m :=
  Bounded.sub hx hy hm.radius (zpow_add_zpow_le hk hl)

lemma Below.mul (hx : Below x k) (hy : Below y l) (h : k + l ≤ m) (hm : Scale m) :
    Below (x * y) m := by
  apply Bounded.mul hx hy hm.radius
  rw [← zpow_add₀ (by norm_num)]
  exact zpow_le_zpow_right₀ (by norm_num) h

lemma Below.div (hx : Below x k) (hy : AtLeast y l) (h : k ≤ m + l) (hm : Scale m) :
    Below (x / y) m := by
  apply Bounded.div hx hy.finite (two_zpow_pos l) hy.le_val hm.radius
  rw [← zpow_add₀ (by norm_num)]
  exact zpow_le_zpow_right₀ (by norm_num) h

lemma Below.sqrt (hx : Below x k) (hnonneg : 0 ≤ val x) (h : k ≤ m + m) (hm : Scale m) :
    Below x.sqrt m := by
  apply Bounded.sqrt hx hnonneg hm.radius (two_zpow_pos m).le
  rw [← zpow_add₀ (by norm_num)]
  exact zpow_le_zpow_right₀ (by norm_num) h

lemma Below.neg (hx : Below x k) (hk : Scale k) : Below (-x) k := (Bounded.neg hx hk.radius).1

lemma AtLeast.pos (hx : AtLeast x k) : 0 < val x := (two_zpow_pos k).trans_le hx.le_val

/-- A number that is not too small lies between two successive powers of two. -/
lemma Below.exists_zpow (hx : Below x k) (h : (2 : ℝ) ^ l ≤ |val x|) :
    ∃ j, l ≤ j ∧ j ≤ k ∧ (2 : ℝ) ^ j ≤ |val x| ∧ Below x (j + 1) := by
  obtain ⟨j, hle, hlt⟩ := exists_mem_Ico_zpow ((two_zpow_pos l).trans_le h)
    (by norm_num : (1 : ℝ) < 2)
  have hl : l < j + 1 := (zpow_lt_zpow_iff_right₀ (by norm_num)).mp (h.trans_lt hlt)
  have hk : j ≤ k := (zpow_le_zpow_iff_right₀ (by norm_num)).mp (hle.trans hx.abs_val_le)
  exact ⟨j, by omega, hk, hle, ⟨hx.finite, hlt.le⟩⟩

/-- The square root of a number that is large enough. -/
lemma AtLeast.sqrt (hx : AtLeast x (k + k)) (hx' : Below x l) (hk : Scale k) (hl : l ≤ m + m)
    (hm : Scale m) : AtLeast x.sqrt k := by
  have hbound := hx'.sqrt hx.pos.le hl hm
  have hle : (2 : ℝ) ^ k ≤ √(val x) := by
    apply Real.le_sqrt_of_sq_le
    rw [pow_two, ← zpow_add₀ (by norm_num)]
    exact hx.le_val
  have hroot : |√(val x)| ≤ (2 : ℝ) ^ m := by
    rw [abs_of_nonneg (Real.sqrt_nonneg _), Real.sqrt_le_left (two_zpow_pos m).le, pow_two,
      ← zpow_add₀ (by norm_num)]
    exact hx'.le.trans (zpow_le_zpow_right₀ (by norm_num) hl)
  exact ⟨hbound.finite,
    (sqrt_near hx.finite hx.pos.le (hroot.trans hm.radius.le)).le_val hk.radius.onGrid hle⟩

/-- A sum of numbers that are not negative is at least each of them. -/
lemma Below.le_val_add (hx : Below x k) (hy : Below y k) (hk : Scale (k + 1))
    (hx0 : 0 ≤ val x) (hy0 : 0 ≤ val y) :
    val x ≤ val (x + y) ∧ val y ≤ val (x + y) := by
  have hsum := zpow_add_zpow_le (by omega : k < k + 1) (by omega : k < k + 1)
  have hnear := hx.add_near hy (hsum.trans hk.radius.le)
  exact ⟨hnear.le_val hx.finite.onGrid (by linarith), hnear.le_val hy.finite.onGrid (by linarith)⟩

/-- The square of a double. -/
lemma Below.mul_self_near (hx : Below x k) (hk : Scale (k + k)) :
    Near (x * x) (val x * val x) :=
  hx.mul_near hx (by
    rw [← zpow_add₀ (by norm_num)]
    exact hk.radius.le)

/-- It is not negative. -/
lemma Below.val_mul_self_nonneg (hx : Below x k) (hk : Scale (k + k)) : 0 ≤ val (x * x) :=
  (hx.mul_self_near hk).le_val (onGrid_zero _) (mul_self_nonneg _)

/-- It is not below the square of a smaller power of two. -/
lemma Below.atLeast_mul_self (hx : Below x k) (hk : Scale (k + k)) (hl : Scale (l + l))
    (hle : (2 : ℝ) ^ l ≤ |val x|) : AtLeast (x * x) (l + l) := by
  refine ⟨(hx.mul_self_near hk).finite, (hx.mul_self_near hk).le_val hl.radius.onGrid ?_⟩
  rw [zpow_add₀ (by norm_num), ← abs_mul_abs_self (val x)]
  exact mul_le_mul hle hle (two_zpow_pos l).le (abs_nonneg _)

/-- A product of numbers that are large enough. -/
lemma AtLeast.mul {k' l' : ℤ} (hx : AtLeast x k) (hy : AtLeast y l) (hx' : Below x k')
    (hy' : Below y l') (hkl : Scale (k + l)) (hkl' : Scale (k' + l')) :
    AtLeast (x * y) (k + l) := by
  have hnear := hx'.mul_near hy' (by
    rw [← zpow_add₀ (by norm_num)]
    exact hkl'.radius.le)
  refine ⟨hnear.finite, hnear.le_val hkl.radius.onGrid ?_⟩
  rw [zpow_add₀ (by norm_num)]
  exact mul_le_mul hx.le_val hy.le_val (two_zpow_pos l).le hx.pos.le

/-- A literal below a power of two. -/
lemma below_literal {m d : ℕ} {k : ℤ} (h : |(OfScientific.ofScientific m true d : ℝ)| ≤ (2 : ℝ) ^ k)
    (hk : Scale k := by decide) (hm : m < 2 ^ 128 := by norm_num) (hd : 0 < d := by norm_num)
    (hd' : d ≤ 1000 := by norm_num) : Below (OfScientific.ofScientific m true d) k :=
  (near_ofScientific hm hd hd').bounded hk.radius h

/-- A literal above a power of two. -/
lemma atLeast_literal {m d : ℕ} {k : ℤ} (h : (2 : ℝ) ^ k ≤ (OfScientific.ofScientific m true d : ℝ))
    (hk : Scale k := by decide) (hm : m < 2 ^ 128 := by norm_num) (hd : 0 < d := by norm_num)
    (hd' : d ≤ 1000 := by norm_num) : AtLeast (OfScientific.ofScientific m true d) k :=
  ⟨(near_ofScientific hm hd hd').finite,
    (near_ofScientific hm hd hd').le_val hk.radius.onGrid h⟩

/-- An integer literal. -/
lemma val_literal {m n : ℕ} (hm : m = n * 10) (hn : n ≤ 2 ^ 53 := by norm_num) :
    Finite (OfScientific.ofScientific m true 1) ∧
      val (OfScientific.ofScientific m true 1) = n := by
  have h := near_ofScientific (m := m) (by omega) (by norm_num : 0 < 1) (by norm_num)
  have hreal : (OfScientific.ofScientific m true 1 : ℝ) = n := by
    rw [hm, NNRatCast.ofScientific_eq_ite, if_pos rfl, NNRat.cast_divNat]
    push_cast
    ring
  rw [hreal] at h
  exact ⟨h.finite, h.val_eq (onGrid_natCast hn)⟩

end Below

end Binary64
