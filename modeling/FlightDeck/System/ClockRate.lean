import FlightDeck.Lib.FloatBounds
import FlightDeck.System.LossMetric

set_option relaxedAutoImplicit false
set_option autoImplicit false

/-!
# How well the clock runs

The simulation clock is a double to which a hundredth of a second is added in every pass, and a
timestamp is its whole number of microseconds. Neither the literal nor the sums are exact, and the
errors of the sums add up. They stay small: over any `n` passes a timestamp gains or loses less
than `n / 50` microseconds, but for two microseconds that truncation may take.

## Main results

* `abs_tick_sub_le` — a tick is a hundredth of a second, up to rounding.
* `timestamps_keep_time` — the timestamps of a run.
-/

namespace FlightDeck.Generator

open Simulation Protocol Binary64 FloatRounding

/-! ## Ticks -/

section Tick

variable {x : Float}

/-- The literal is not a hundredth, but nearly. -/
lemma abs_kFixedStepSeconds_sub_le :
    |val (kFixedStepSeconds : Float) - 1 / 100| ≤ (2 : ℝ) ^ (-59 : ℤ) := by
  have hnear : Near (kFixedStepSeconds : Float) (0.01 : ℝ) :=
    near_ofScientific (m := 1) (k := 2) (by norm_num) (by norm_num) (by norm_num)
  have herror := hnear.abs_sub_le (k := -6) (by norm_num) (by norm_num)
  norm_num at herror ⊢
  exact herror

/-- **A tick is a hundredth of a second**, up to rounding. -/
lemma abs_tick_sub_le (hx : Below x 25) :
    |val (x + kFixedStepSeconds) - val x - 1 / 100| ≤ (2 : ℝ) ^ (-26 : ℤ) := by
  have hscale : Scale 26 := by decide
  have hstep := below_kFixedStepSeconds.mono (by norm_num : (-6 : ℤ) ≤ 25)
  have hsum : (2 : ℝ) ^ (25 : ℤ) + (2 : ℝ) ^ (25 : ℤ) ≤ (2 : ℝ) ^ (26 : ℤ) :=
    zpow_add_zpow_le (by norm_num) (by norm_num)
  have hnear := hx.add_near hstep (hsum.trans hscale.radius.le)
  have hsize : |val x + val (kFixedStepSeconds : Float)| ≤ (2 : ℝ) ^ (26 : ℤ) :=
    (abs_add_le _ _).trans ((add_le_add hx.abs_val_le hstep.abs_val_le).trans hsum)
  have hround := hnear.abs_sub_le (by norm_num) hsize
  have hliteral := abs_kFixedStepSeconds_sub_le
  calc |val (x + kFixedStepSeconds) - val x - 1 / 100|
      = |(val (x + kFixedStepSeconds) - (val x + val (kFixedStepSeconds : Float))) +
          (val (kFixedStepSeconds : Float) - 1 / 100)| := by ring_nf
    _ ≤ (2 : ℝ) ^ (26 - 53 : ℤ) + (2 : ℝ) ^ (-59 : ℤ) :=
        (abs_add_le _ _).trans (add_le_add hround hliteral)
    _ ≤ (2 : ℝ) ^ (-26 : ℤ) := by norm_num

/-- A timestamp is the number of microseconds, but for less than two. -/
lemma timestampOf_bounds (hx : Below x 25) (hx0 : 0 ≤ val x) :
    ((timestampOf x).toNat : ℝ) ≤ val x * 1000000 + 1 / 2 ∧
      val x * 1000000 - 3 / 2 ≤ ((timestampOf x).toNat : ℝ) := by
  obtain ⟨hnear, htimestamp⟩ := toNat_timestampOf hx hx0
  have hsize : |val x * 1000000| ≤ (2 : ℝ) ^ (45 : ℤ) := by
    rw [abs_of_nonneg (by positivity)]
    have hlarge : val x ≤ 2 ^ (25 : ℤ) := hx.le
    norm_num at hlarge ⊢
    linarith
  have hround := abs_le.mp (hnear.abs_sub_le (by norm_num) hsize)
  have hnonneg : 0 ≤ val (x * 1000000.0) := hnear.le_val (onGrid_zero _) (by positivity)
  have hfloor := Nat.floor_le hnonneg
  have hceil := Nat.lt_floor_add_one (val (x * 1000000.0))
  rw [htimestamp]
  norm_num at hround
  constructor <;> linarith [hround.1, hround.2]

end Tick

/-! ## Runs -/

namespace Simulator

section Runs

variable [Libm] {options : Options} {faultFlags : ℕ → BitVec 32} {n : ℕ}

/-- The clock after `i` passes. -/
noncomputable def clockAfter (faultFlags : ℕ → BitVec 32) (i : ℕ) : ℝ :=
  val (after faultFlags i).simulation.state.simulationTimeS

lemma clockAfter_zero (faultFlags : ℕ → BitVec 32) : clockAfter faultFlags 0 = 0 := zero_spec.2

/-- **Run lemma**: the clock goes on by a hundredth of a second in every pass, and the errors add
up. -/
lemma abs_clockAfter_sub_le (hrun : Executes options faultFlags n) (hn : n ≤ 2 ^ 31) {i j : ℕ}
    (hij : i ≤ j) (hj : j ≤ n) :
    |clockAfter faultFlags j - clockAfter faultFlags i - (j - i) / 100| ≤
      (j - i) * (2 : ℝ) ^ (-26 : ℤ) := by
  induction j, hij using Nat.le_induction with
  | base => simp
  | succ j hij ih =>
    have hbelow : Below (after faultFlags j).simulation.state.simulationTimeS 25 :=
      below_of_bounded (clock_after hrun hn (by omega)).1 (by omega)
    have htick := abs_tick_sub_le hbelow
    rw [← simulationTimeS_after_succ hrun (by omega)] at htick
    push_cast
    calc |clockAfter faultFlags (j + 1) - clockAfter faultFlags i - ((j : ℝ) + 1 - i) / 100|
        = |(clockAfter faultFlags j - clockAfter faultFlags i - ((j : ℝ) - i) / 100) +
            (clockAfter faultFlags (j + 1) - clockAfter faultFlags j - 1 / 100)| := by ring_nf
      _ ≤ ((j : ℝ) - i) * (2 : ℝ) ^ (-26 : ℤ) + (2 : ℝ) ^ (-26 : ℤ) :=
          (abs_add_le _ _).trans (add_le_add (ih (by omega)) htick)
      _ = ((j : ℝ) + 1 - i) * (2 : ℝ) ^ (-26 : ℤ) := by ring

/-- The timestamp of a packet, from the clock. -/
lemma timestampUs_bounds (hrun : Executes options faultFlags n) (hn : n ≤ 2 ^ 31) {i : ℕ}
    (hi : i < n) :
    ((packet faultFlags i).timestampUs.toNat : ℝ) ≤
        clockAfter faultFlags (i + 1) * 1000000 + 1 / 2 ∧
      clockAfter faultFlags (i + 1) * 1000000 - 3 / 2 ≤
        ((packet faultFlags i).timestampUs.toNat : ℝ) := by
  obtain ⟨hbounded, hnonneg⟩ := clock_after hrun hn (Nat.succ_le_of_lt hi)
  exact timestampOf_bounds (below_of_bounded hbounded (by omega)) hnonneg

/-- The timestamp of a packet, from its number. -/
lemma abs_timestampUs_sub_le (hrun : Executes options faultFlags n) (hn : n ≤ 2 ^ 31) {i : ℕ}
    (hi : i < n) :
    |((packet faultFlags i).timestampUs.toNat : ℝ) - 10000 * (i + 1)| ≤ 2 + (i + 1) / 50 := by
  obtain ⟨hupper, hlower⟩ := timestampUs_bounds hrun hn hi
  have hstart := abs_clockAfter_sub_le hrun hn (Nat.zero_le (i + 1)) hi
  have hi0 : (0 : ℝ) ≤ i := Nat.cast_nonneg i
  rw [clockAfter_zero] at hstart
  push_cast at hstart
  norm_num at hstart
  rw [abs_le] at hstart ⊢
  constructor <;> linarith [hstart.1, hstart.2]

/-- How far two timestamps are apart, from the numbers of the packets. -/
lemma abs_timestampUs_sub_timestampUs_le (hrun : Executes options faultFlags n)
    (hn : n ≤ 2 ^ 31) {i j : ℕ} (hij : i ≤ j) (hj : j < n) :
    |((packet faultFlags j).timestampUs.toNat : ℝ) - (packet faultFlags i).timestampUs.toNat -
      10000 * (j - i)| ≤ 2 + (j - i) / 50 := by
  obtain ⟨hupper, hlower⟩ := timestampUs_bounds hrun hn (lt_of_le_of_lt hij hj)
  obtain ⟨hupper', hlower'⟩ := timestampUs_bounds hrun hn hj
  have hbetween := abs_clockAfter_sub_le hrun hn (Nat.succ_le_succ hij) hj
  have hle : (i : ℝ) ≤ j := by exact_mod_cast hij
  push_cast at hbetween
  norm_num at hbetween
  rw [abs_le] at hbetween ⊢
  constructor <;> linarith [hbetween.1, hbetween.2]

/-- **The timestamps keep time.** In every run of at most `2 ^ 31` passes, under all faults: the
packet of pass `i`, from zero, is stamped `10000 (i + 1)` microseconds, and two packets are
stamped `10000` microseconds apart for every pass between them, each time up to two microseconds
and a fiftieth of one for every pass.

**Proof sketch.** A tick is wrong by at most `2 ^ -26` seconds, the sum of as many ticks by as
much for each; multiplying rounds once more, and truncation takes less than one. -/
theorem timestamps_keep_time (hrun : Executes options faultFlags n) (hn : n ≤ 2 ^ 31) {i j : ℕ}
    (hij : i ≤ j) (hj : j < n) :
    |((packet faultFlags i).timestampUs.toNat : ℝ) - 10000 * (i + 1)| ≤ 2 + (i + 1) / 50 ∧
      |((packet faultFlags j).timestampUs.toNat : ℝ) - (packet faultFlags i).timestampUs.toNat -
        10000 * (j - i)| ≤ 2 + (j - i) / 50 := by
  exact ⟨abs_timestampUs_sub_le hrun hn (lt_of_le_of_lt hij hj),
    abs_timestampUs_sub_timestampUs_le hrun hn hij hj⟩

end Runs

/-- The last of a dozen packets is stamped a tenth of a second after the first but one, or
nearly. -/
theorem timestamps_keep_time_dozen :
    |((@packet System.coarseLibm (fun _ => 0) 11).timestampUs.toNat : ℝ) -
        (@packet System.coarseLibm (fun _ => 0) 1).timestampUs.toNat - 100000| ≤ 3 := by
  let libm := System.coarseLibm
  have hrun : Executes {} (fun _ => 0) 12 := by
    show ∀ i < 12, _
    decide +kernel
  have hapart := (timestamps_keep_time hrun (by norm_num) (by norm_num : 1 ≤ 11)
    (by norm_num)).2
  push_cast at hapart
  norm_num at hapart
  exact hapart.trans (by norm_num)

end Simulator

end FlightDeck.Generator
