import FlightDeck.Lib.Crc
import Mathlib.Data.List.GetD
import Mathlib.Data.List.Induction
import Mathlib.Order.Interval.Finset.Nat

set_option relaxedAutoImplicit false
set_option autoImplicit false

/-!
# What a cyclic redundancy check detects

By linearity, the difference of the registers after two messages of one length is the register
after their difference, started from zero. A burst no longer than the register leaves something
in it, because a step of a register whose polynomial has its top bit set loses nothing. Two single
errors leave something in it unless their distance is a multiple of the period of the polynomial.

## Main definitions

* `Crc.register` — the register after the first bits of a bit pattern, started from zero.
* `Crc.window` — a few bits of a pattern as a register value.
* `Crc.bitOf` — the bits of a byte string, from the least significant one of the first byte on.

## Main results

* `Crc.register_add` — up to a register's width of bits can be taken in at once.
* `Crc.foldl_byteStep_xor` — linearity over byte strings.
* `Crc.register_burst_ne_zero` — bursts.
* `Crc.register_single`, `Crc.register_pair_ne_zero` — one and two errors.
-/

namespace Crc

variable {w : ℕ} (p : BitVec w)

/-! ## Steps lose nothing -/

/-- Only the zero register steps to zero. -/
lemma eq_zero_of_step_eq_zero (htop : p.getLsbD (w - 1) = true) {c : BitVec w}
    (h : step p c = 0#w) : c = 0#w := by
  have hw : 0 < w := by
    by_contra hw
    rw [BitVec.getLsbD_of_ge _ _ (by omega)] at htop
    exact absurd htop (by decide)
  unfold step at h
  cases hlow : c.getLsbD 0 with
  | true =>
    rw [hlow, if_pos rfl] at h
    -- The top bit of the shifted register is clear, that of the polynomial is set.
    have hbit := congrArg (fun x : BitVec w => x.getLsbD (w - 1)) h
    simp only [BitVec.getLsbD_xor, BitVec.getLsbD_ushiftRight, htop, BitVec.getLsbD_zero] at hbit
    rw [BitVec.getLsbD_of_ge c _ (by omega)] at hbit
    exact absurd hbit (by decide)
  | false =>
    rw [hlow, if_neg (by decide)] at h
    apply BitVec.eq_of_getLsbD_eq
    intro i hi
    cases i with
    | zero => rw [hlow, BitVec.getLsbD_zero]
    | succ i =>
      have hbit := congrArg (fun x : BitVec w => x.getLsbD i) h
      simp only [BitVec.getLsbD_ushiftRight, BitVec.getLsbD_zero] at hbit
      rw [Nat.add_comm, hbit, BitVec.getLsbD_zero]

/-- So do any number of steps. -/
lemma iterate_step_ne_zero (htop : p.getLsbD (w - 1) = true) {c : BitVec w} (hc : c ≠ 0#w)
    (n : ℕ) : (step p)^[n] c ≠ 0#w := by
  induction n with
  | zero => exact hc
  | succ n ih =>
    rw [Function.iterate_succ_apply']
    exact fun h => ih (eq_zero_of_step_eq_zero p htop h)

/-- The zero register stays zero. -/
@[simp] lemma iterate_step_zero (n : ℕ) : (step p)^[n] 0#w = 0#w := by
  rw [iterate_step_of_low_clear p 0#w n fun i _ => BitVec.getLsbD_zero]
  exact BitVec.zero_ushiftRight

/-! ## Bit patterns -/

/-- A bit at the low end of the register. -/
def bit (w : ℕ) (b : Bool) : BitVec w := if b then 1#w else 0#w

/-- The register after the first `n` bits of `f`, started from zero. -/
def register (f : ℕ → Bool) : ℕ → BitVec w
  | 0 => 0#w
  | n + 1 => step p (register f n ^^^ bit w (f n))

/-- The `k` bits of `f` from `n` on, the first one at the low end. -/
def window (w : ℕ) (f : ℕ → Bool) (n : ℕ) : ℕ → BitVec w
  | 0 => 0#w
  | k + 1 => window w f n k ^^^ (bit w (f (n + k)) <<< k)

variable {p} {f g : ℕ → Bool} {n k : ℕ}

/-- The bits of a window. -/
lemma getLsbD_window {i : ℕ} (hi : i < w) :
    (window w f n k).getLsbD i = (decide (i < k) && f (n + i)) := by
  induction k with
  | zero =>
    rw [window, BitVec.getLsbD_zero]
    simp
  | succ k ih =>
    have hbit : (bit w (f (n + k)) <<< k).getLsbD i = (decide (i = k) && f (n + k)) := by
      unfold bit
      cases f (n + k) with
      | false => simp
      | true =>
        rw [if_pos rfl, BitVec.getLsbD_shiftLeft, BitVec.getLsbD_one]
        rcases lt_trichotomy i k with hlt | rfl | hgt
        · simp [hlt, hlt.ne]
        · have hpos : 0 < w := by omega
          simp [hi, hpos]
        · have hne : i - k ≠ 0 := by omega
          simp [hgt.ne', hne]
    rw [window, BitVec.getLsbD_xor, ih, hbit]
    rcases lt_trichotomy i k with hlt | rfl | hgt
    · simp [hlt, hlt.ne, Nat.lt_succ_of_lt hlt]
    · simp
    · have hge : ¬i < k + 1 := by omega
      simp [hgt.ne', hge, not_lt.mpr hgt.le]

/-- Only the bits that are read matter. -/
lemma register_congr (h : ∀ i < n, f i = g i) : register p f n = register p g n := by
  induction n with
  | zero => rfl
  | succ n ih =>
    rw [register, register, ih fun i hi => h i (by omega), h n (Nat.lt_succ_self n)]

/-- A bit that is `k` places up comes down in `k` steps. -/
lemma iterate_step_bit (b : Bool) (hk : k < w) : (step p)^[k] (bit w b <<< k) = bit w b := by
  have hclear : ∀ i < k, (bit w b <<< k).getLsbD i = false := by
    intro i hi
    rw [BitVec.getLsbD_shiftLeft]
    simp [hi]
  rw [iterate_step_of_low_clear p _ k hclear]
  apply BitVec.eq_of_getLsbD_eq
  intro i hi
  unfold bit
  cases b with
  | false => simp
  | true =>
    rw [if_pos rfl, BitVec.getLsbD_ushiftRight, BitVec.getLsbD_shiftLeft, BitVec.getLsbD_one]
    simp only [not_lt.mpr (Nat.le_add_right k i), decide_false, Bool.not_false,
      Nat.add_sub_cancel_left, Bool.and_true]
    rcases Nat.eq_zero_or_pos i with rfl | hpos
    · simp [hk]
    · simp [hpos.ne']

/-- **Bits at once**: no more bits than the register is wide can be taken in before the steps. -/
lemma register_add (hk : k ≤ w) :
    register p f (n + k) = (step p)^[k] (register p f n ^^^ window w f n k) := by
  induction k with
  | zero => exact (BitVec.xor_zero).symm
  | succ k ih =>
    rw [← Nat.add_assoc, register, ih (by omega), Function.iterate_succ_apply', window,
      ← BitVec.xor_assoc, iterate_step_xor p k (register p f n ^^^ window w f n k),
      iterate_step_bit _ hk]

/-- Clear bits only make steps. -/
lemma register_add_of_clear (h : ∀ i, n ≤ i → i < n + k → f i = false) :
    register p f (n + k) = (step p)^[k] (register p f n) := by
  induction k with
  | zero => rfl
  | succ k ih =>
    have hclear : bit w (f (n + k)) = 0#w := by
      rw [h (n + k) (by omega) (by omega)]
      rfl
    rw [← Nat.add_assoc, register, ih fun i hi hlt => h i hi (by omega), hclear, BitVec.xor_zero,
      Function.iterate_succ_apply']

/-- Nothing has happened before the first error. -/
lemma register_eq_zero (h : ∀ i < n, f i = false) : register p f n = 0#w := by
  have hclear := register_add_of_clear (p := p) (n := 0) (k := n) (f := f)
    fun i _ hi => h i (by omega)
  rw [Nat.zero_add] at hclear
  rw [hclear]
  exact iterate_step_zero p n

/-! ## Errors -/

/-- **Bursts**: errors no further apart than the width of the register leave something in it. -/
theorem register_burst_ne_zero (htop : p.getLsbD (w - 1) = true) {s i : ℕ} (hi : i < n)
    (hset : f i = true) (hburst : ∀ j < n, f j = true → s ≤ j ∧ j < s + w) :
    register p f n ≠ 0#w := by
  obtain ⟨hsi, hiw⟩ := hburst i hi hset
  obtain ⟨k, hk⟩ : ∃ k, k = min w (n - s) := ⟨_, rfl⟩
  obtain ⟨m, rfl⟩ : ∃ m, n = s + k + m := ⟨n - (s + k), by omega⟩
  have hbefore : register p f s = 0#w := register_eq_zero fun j hj => by
    by_contra hne
    have := (hburst j (by omega) (eq_true_of_ne_false hne)).1
    omega
  have hafter : ∀ j, s + k ≤ j → j < s + k + m → f j = false := by
    intro j hj hjm
    by_contra hne
    have := (hburst j hjm (eq_true_of_ne_false hne)).2
    omega
  have hwindow : window w f s k ≠ 0#w := by
    intro hzero
    have hbit := congrArg (fun x : BitVec w => x.getLsbD (i - s)) hzero
    simp only [BitVec.getLsbD_zero] at hbit
    rw [getLsbD_window (by omega), Nat.add_sub_cancel' hsi, hset] at hbit
    simp at hbit
    omega
  rw [register_add_of_clear hafter, register_add (by omega : k ≤ w), hbefore, BitVec.zero_xor]
  exact iterate_step_ne_zero p htop (iterate_step_ne_zero p htop hwindow k) m

/-- A single error has made a step for each bit from it on. -/
lemma register_single {i : ℕ} (hset : f i = true) (hbefore : ∀ j < i, f j = false)
    (hafter : ∀ j, i < j → j < i + 1 + k → f j = false) :
    register p f (i + 1 + k) = (step p)^[k + 1] 1#w := by
  rw [register_add_of_clear fun j hj hjk => hafter j hj hjk, register, register_eq_zero hbefore,
    hset, BitVec.zero_xor, Function.iterate_succ_apply]
  rfl

/-- **Two errors** leave something in the register, if as many steps as they are apart do not
bring the register `1` back. -/
theorem register_pair_ne_zero (htop : p.getLsbD (w - 1) = true) {i j : ℕ} (hij : i < j)
    (hjn : j < n) (hi : f i = true) (hj : f j = true)
    (hothers : ∀ l < n, l ≠ i → l ≠ j → f l = false) (hperiod : (step p)^[j - i] 1#w ≠ 1#w) :
    register p f n ≠ 0#w := by
  obtain ⟨m, rfl⟩ : ∃ m, n = j + 1 + m := ⟨n - (j + 1), by omega⟩
  obtain ⟨k, rfl⟩ : ∃ k, j = i + 1 + k := ⟨j - (i + 1), by omega⟩
  have hsingle : register p f (i + 1 + k) = (step p)^[k + 1] 1#w :=
    register_single hi (fun l hl => hothers l (by omega) (by omega) (by omega))
      fun l hl hlk => hothers l (by omega) (by omega) (by omega)
  rw [show i + 1 + k - i = k + 1 by omega] at hperiod
  have hne : (step p)^[k + 1] 1#w ^^^ 1#w ≠ 0#w := by
    intro hzero
    exact hperiod (BitVec.xor_eq_zero_iff.mp hzero)
  rw [register_add_of_clear fun l hl hlm => hothers l (by omega) (by omega) (by omega), register,
    hsingle, hj]
  refine iterate_step_ne_zero p htop (fun hzero => hne ?_) m
  exact eq_zero_of_step_eq_zero p htop hzero

/-- A register that a single error leaves is no single bit, if the steps that would bring the
bit down do not bring the register `1` back. -/
lemma iterate_step_one_ne_shiftLeft (hk : k < w) (hperiod : (step p)^[k + n] 1#w ≠ 1#w) :
    (step p)^[n] 1#w ≠ 1#w <<< k := by
  intro heq
  have hdown : (step p)^[k] (1#w <<< k) = 1#w := iterate_step_bit true hk
  rw [Function.iterate_add_apply, heq] at hperiod
  exact hperiod hdown

variable (p) in
/-- Whether the register is `1` again after one to `n` steps. -/
def returns : ℕ → BitVec w → Bool
  | 0, _ => false
  | n + 1, c => step p c == 1#w || returns n (step p c)

/-- The search finds every return. -/
lemma ne_one_of_returns_eq_false {c : BitVec w} (h : returns p n c = false) {d : ℕ} (hpos : 0 < d)
    (hd : d ≤ n) : (step p)^[d] c ≠ 1#w := by
  induction n generalizing c d with
  | zero => omega
  | succ n ih =>
    rw [returns, Bool.or_eq_false_iff, beq_eq_false_iff_ne] at h
    obtain ⟨d, rfl⟩ : ∃ k, d = k + 1 := ⟨d - 1, by omega⟩
    rw [Function.iterate_succ_apply]
    rcases Nat.eq_zero_or_pos d with rfl | hpos'
    · exact h.1
    · exact ih h.2 hpos' (by omega)

/-! ## Byte strings -/

/-- The bits of a byte string, each byte from its least significant bit on. -/
def bitOf (bytes : List (BitVec 8)) (i : ℕ) : Bool := (bytes.getD (i / 8) 0#8).getLsbD (i % 8)

/-- The bits of a difference. -/
lemma bitOf_zipWith_xor {m e : List (BitVec 8)} (hlength : m.length = e.length) (i : ℕ) :
    bitOf (List.zipWith (· ^^^ ·) m e) i = (bitOf m i ^^ bitOf e i) := by
  have hbyte : (List.zipWith (· ^^^ ·) m e).getD (i / 8) 0#8 =
      m.getD (i / 8) 0#8 ^^^ e.getD (i / 8) 0#8 := by
    simp only [List.getD_eq_getElem?_getD, List.getElem?_zipWith]
    rcases Nat.lt_or_ge (i / 8) m.length with hlt | hge
    · rw [List.getElem?_eq_getElem hlt, List.getElem?_eq_getElem (by omega)]
      rfl
    · rw [List.getElem?_eq_none hge, List.getElem?_eq_none (by omega)]
      rfl
  unfold bitOf
  rw [hbyte, BitVec.getLsbD_xor]

/-- **Linearity**: the register after the difference of two byte strings. -/
lemma foldl_byteStep_xor {m e : List (BitVec 8)} (hlength : m.length = e.length)
    (c r : BitVec w) :
    (List.zipWith (· ^^^ ·) m e).foldl (byteStep p) (c ^^^ r) =
      m.foldl (byteStep p) c ^^^ e.foldl (byteStep p) r := by
  induction m generalizing e c r with
  | nil =>
    obtain rfl := List.length_eq_zero_iff.mp hlength.symm
    rfl
  | cons a m ih =>
    cases e with
    | nil => simp at hlength
    | cons b e =>
      have hbyte : byteStep p (c ^^^ r) (a ^^^ b) = byteStep p c a ^^^ byteStep p r b := by
        unfold byteStep
        rw [← iterate_step_xor, BitVec.setWidth_xor]
        congr 1
        ac_rfl
      rw [List.zipWith_cons_cons, List.foldl_cons, List.foldl_cons, List.foldl_cons, hbyte]
      exact ih (by simpa using hlength) _ _

/-- The register after a byte string is that after its bits. -/
lemma foldl_byteStep_eq_register (hw : 8 ≤ w) (bytes : List (BitVec 8)) :
    bytes.foldl (byteStep p) 0#w = register p (bitOf bytes) (8 * bytes.length) := by
  induction bytes using List.reverseRecOn with
  | nil => rfl
  | append_singleton bytes b ih =>
    have hbefore : register p (bitOf (bytes ++ [b])) (8 * bytes.length) =
        register p (bitOf bytes) (8 * bytes.length) := by
      apply register_congr
      intro i hi
      unfold bitOf
      rw [List.getD_append _ _ _ _ (by omega)]
    have hbyte : window w (bitOf (bytes ++ [b])) (8 * bytes.length) 8 = b.setWidth w := by
      apply BitVec.eq_of_getLsbD_eq
      intro i hi
      rw [getLsbD_window hi, BitVec.getLsbD_setWidth]
      rcases Nat.lt_or_ge i 8 with hlt | hge
      · have hdiv : (8 * bytes.length + i) / 8 = bytes.length := by omega
        have hmod : (8 * bytes.length + i) % 8 = i := by omega
        unfold bitOf
        rw [hdiv, hmod, List.getD_append_right _ _ _ _ le_rfl]
        simp [hlt, hi]
      · rw [BitVec.getLsbD_of_ge b i hge]
        simp [not_lt.mpr hge]
    rw [List.foldl_append, List.foldl_cons, List.foldl_nil, ih, List.length_append,
      List.length_singleton, Nat.mul_add, Nat.mul_one, register_add hw, hbefore, hbyte]
    rfl

end Crc
