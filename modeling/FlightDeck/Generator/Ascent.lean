import FlightDeck.Generator.FlightProfile

set_option relaxedAutoImplicit false
set_option autoImplicit false

/-!
# The ascent in closed form

After 200 passes on the ground the engines burn the same amount of propellant in every pass, so
that the acceleration of a pass depends on its number and on the fault alone, and speed and
altitude are sums of these accelerations, until the burn is cut off.

## Main definitions

* `accelerationAt`, `speedGain`, `heightGain` — the accelerations of the ascent and their sums.
* `Climbs`, `Ascending`, `CutOff` — the passes of the ascent and the one that ends it.

## Main results

* `exists_cutOff` — every flight has an ascent, of 2500 passes at most.
* `ascentAcceleration_ge`, `speedGain_sub_ge` — how much speed may be lost while the fault is on.
-/

namespace FlightDeck.Simulation

open Finset

/-! ## The accelerations -/

/-- The acceleration of pass `i` of the ascent, counted from zero. -/
noncomputable def accelerationAt (thrusterLoss : ℕ → Bool) (i : ℕ) : ℝ :=
  ascentAcceleration (thrusterLoss i) (20000.0 - 2.0 * (i + 1))

/-- The accelerations of the first `n` passes of the ascent. -/
noncomputable def speedGain (thrusterLoss : ℕ → Bool) (n : ℕ) : ℝ :=
  ∑ i ∈ range n, accelerationAt thrusterLoss i

/-- The sums of these accelerations, over the first `n` passes. -/
noncomputable def heightGain (thrusterLoss : ℕ → Bool) (n : ℕ) : ℝ :=
  ∑ j ∈ range n, speedGain thrusterLoss (j + 1)

variable {thrusterLoss : ℕ → Bool} {n : ℕ}

@[simp] lemma speedGain_zero (thrusterLoss : ℕ → Bool) : speedGain thrusterLoss 0 = 0 :=
  sum_range_zero _

@[simp] lemma heightGain_zero (thrusterLoss : ℕ → Bool) : heightGain thrusterLoss 0 = 0 :=
  sum_range_zero _

lemma speedGain_succ (thrusterLoss : ℕ → Bool) (n : ℕ) :
    speedGain thrusterLoss (n + 1) = speedGain thrusterLoss n + accelerationAt thrusterLoss n :=
  sum_range_succ _ n

lemma heightGain_succ (thrusterLoss : ℕ → Bool) (n : ℕ) :
    heightGain thrusterLoss (n + 1) = heightGain thrusterLoss n + speedGain thrusterLoss (n + 1) :=
  sum_range_succ _ n

/-- Even with the fault the vehicle does not accelerate downwards by more than this, which grows
with the propellant that is spent. -/
lemma ascentAcceleration_ge (thrusterLoss : Bool) {massKg : ℝ} (hlow : 15000 ≤ massKg)
    (hhigh : massKg ≤ 20000) :
    0.39335 - 0.00059 * (massKg - 17500) ≤ ascentAcceleration thrusterLoss massKg := by
  have hpos : 0 < massKg := by linarith
  have hthrust : 180000 / massKg ≤ availableThrust .default thrusterLoss / massKg := by
    rw [availableThrust_default]
    split_ifs <;> gcongr
    norm_num
  have hsquare : (180000 / massKg) ^ 2 ≤ (availableThrust .default thrusterLoss / massKg) ^ 2 :=
    pow_le_pow_left₀ (by positivity) hthrust 2
  -- the tangent of `180000 / massKg` in the middle leaves room for the lateral parts
  have htangent : (10.2 - 0.00059 * (massKg - 17500)) ^ 2 + 1.1466 ≤ (180000 / massKg) ^ 2 := by
    obtain ⟨t, ht⟩ : ∃ t, massKg = 17500 + 2500 * t := ⟨(massKg - 17500) / 2500, by ring⟩
    have ht₀ : -1 ≤ t := by linarith
    have ht₁ : t ≤ 1 := by linarith
    have hsq₀ : 0 ≤ t ^ 2 := sq_nonneg t
    have hsq₁ : t ^ 2 ≤ 1 := by nlinarith only [ht₀, ht₁]
    have hcube : t ^ 3 ≤ t ^ 2 := by nlinarith only [mul_le_mul_of_nonneg_left ht₁ hsq₀]
    have hfour : t ^ 4 ≤ t ^ 2 := by nlinarith only [mul_le_mul_of_nonneg_left hsq₁ hsq₀]
    rw [div_pow, le_div_iff₀ (by positivity), ht]
    linarith only [ht₀, ht₁, hsq₀, hcube, hfour]
  have hsqrt : 10.2 - 0.00059 * (massKg - 17500) ≤
      √((availableThrust .default thrusterLoss / massKg) ^ 2 - 1.05 ^ 2 - 0.21 ^ 2) :=
    Real.le_sqrt_of_sq_le (by norm_num at *; linarith)
  unfold ascentAcceleration
  linarith

lemma ascentAcceleration_le (thrusterLoss : Bool) {massKg : ℝ} (hlow : 15000 ≤ massKg) :
    ascentAcceleration thrusterLoss massKg ≤ 20 := by
  have hpos : 0 < massKg := by linarith
  have hthrust : availableThrust .default thrusterLoss / massKg ≤ 20 := by
    rw [availableThrust_default, div_le_iff₀ hpos]
    split_ifs <;> linarith
  have hnonneg : 0 ≤ availableThrust .default thrusterLoss / massKg :=
    div_nonneg (admissible_default.availableThrust_pos _).le hpos.le
  have hsqrt : √((availableThrust .default thrusterLoss / massKg) ^ 2 - 1.05 ^ 2 - 0.21 ^ 2) ≤
      20 := by
    refine Real.sqrt_le_iff.mpr ⟨by norm_num, ?_⟩
    nlinarith
  unfold ascentAcceleration
  linarith

lemma accelerationAt_ge (thrusterLoss : ℕ → Bool) (h : n < 2500) :
    0.00118 * (n + 1) - 1.08165 ≤ accelerationAt thrusterLoss n := by
  have hn : (n : ℝ) + 1 ≤ 2500 := by exact_mod_cast h
  have hn₀ : (0 : ℝ) ≤ n := Nat.cast_nonneg n
  have hge := ascentAcceleration_ge (thrusterLoss n)
    (show (15000 : ℝ) ≤ 20000.0 - 2.0 * (n + 1) by linarith) (by linarith)
  unfold accelerationAt
  linarith

lemma accelerationAt_le (thrusterLoss : ℕ → Bool) (h : n < 2500) :
    accelerationAt thrusterLoss n ≤ 20 := by
  have hn : (n : ℝ) + 1 ≤ 2500 := by exact_mod_cast h
  exact ascentAcceleration_le _ (by linarith)

/-- What the speed gains between two passes, when the fault is on all the time. -/
lemma speedGain_sub_ge_sum (thrusterLoss : ℕ → Bool) {k : ℕ} (hk : k ≤ n) (h : n ≤ 2500) :
    0.00059 * ((n : ℝ) ^ 2 - k ^ 2) - 1.08106 * (n - k) ≤
      speedGain thrusterLoss n - speedGain thrusterLoss k := by
  induction n, hk using Nat.le_induction with
  | base => simp
  | succ n hk ih =>
    have hacceleration := accelerationAt_ge thrusterLoss (Nat.lt_of_succ_le h)
    have hgain := ih (Nat.le_of_succ_le h)
    rw [speedGain_succ]
    push_cast
    linarith

/-- The speed never falls by 5 m/s during the ascent. -/
lemma speedGain_sub_ge (thrusterLoss : ℕ → Bool) {k : ℕ} (hk : k ≤ n) (h : n ≤ 2500) :
    -495.3 ≤ speedGain thrusterLoss n - speedGain thrusterLoss k := by
  refine le_trans ?_ (speedGain_sub_ge_sum thrusterLoss hk h)
  have hk' : (k : ℝ) ≤ n := by exact_mod_cast hk
  have hk₀ : (0 : ℝ) ≤ k := Nat.cast_nonneg k
  nlinarith [sq_nonneg ((n : ℝ) - k - 916), mul_nonneg hk₀ (sub_nonneg.mpr hk')]

lemma speedGain_ge (thrusterLoss : ℕ → Bool) (h : n ≤ 2500) :
    -495.3 ≤ speedGain thrusterLoss n := by
  simpa using speedGain_sub_ge thrusterLoss (Nat.zero_le n) h

/-- A whole burn ends with a speed upwards. -/
lemma speedGain_whole (thrusterLoss : ℕ → Bool) : 984 ≤ speedGain thrusterLoss 2500 := by
  have hgain := speedGain_sub_ge_sum thrusterLoss (Nat.zero_le 2500) le_rfl
  rw [speedGain_zero] at hgain
  norm_num at hgain
  linarith

lemma speedGain_le (thrusterLoss : ℕ → Bool) (h : n ≤ 2500) :
    speedGain thrusterLoss n ≤ 20 * n := by
  induction n with
  | zero => simp
  | succ n ih =>
    have hacceleration := accelerationAt_le thrusterLoss (Nat.lt_of_succ_le h)
    have hgain := ih (Nat.le_of_succ_le h)
    rw [speedGain_succ]
    push_cast
    linarith

/-! ## The passes -/

/-- The state after `n` passes of the ascent. -/
structure Climbs (thrusterLoss : ℕ → Bool) (n : ℕ) (state : FlightState ℝ) : Prop where
  mass_eq : state.massKg = 20000 - 2 * n
  velocity_eq : state.velocityMps = 0.01 * speedGain thrusterLoss n
  altitude_eq : state.altitudeM = 0.0001 * heightGain thrusterLoss n

/-- The ascent goes on. -/
structure Ascending (thrusterLoss : ℕ → Bool) (n : ℕ) (state : FlightState ℝ) : Prop
    extends Climbs thrusterLoss n state where
  phase_eq : state.phase = .poweredAscent
  phaseTime_eq : state.phaseTimeS = 0.01 * n
  lt : n < 2500

/-- The ascent has been ended, by the predicted apogee or after its full duration. -/
structure CutOff (thrusterLoss : ℕ → Bool) (n : ℕ) (state : FlightState ℝ) : Prop
    extends Climbs thrusterLoss n state where
  phase_eq : state.phase = .coast
  le : n ≤ 2500
  reason : 2400 ≤ state.altitudeM + state.velocityMps ^ 2 / (2 * 9.80665) ∨ n = 2500

/-- The passes on the ground. -/
lemma flightState_of_lt (thrusterLoss : ℕ → Bool) (h : n < 200) :
    (flightState thrusterLoss n).phase = .prelaunch ∧
      (flightState thrusterLoss n).phaseTimeS = 0.01 * n ∧
      (flightState thrusterLoss n).massKg = 20000 ∧
      (flightState thrusterLoss n).velocityMps = 0 ∧
      (flightState thrusterLoss n).altitudeM = 0 := by
  induction n with
  | zero => norm_num [flightState_zero, FlightState.default]
  | succ n ih =>
    obtain ⟨hphase, htime, hmass, hvelocity, haltitude⟩ := ih (Nat.lt_of_succ_lt h)
    have hn : (n : ℝ) + 1 < 200 := by exact_mod_cast h
    have hstep := prelaunchStep hphase
    obtain ⟨hphase', htime'⟩ := hstep.passes.of_not_ends (by rw [htime]; linarith)
    refine ⟨hphase'.trans hphase, ?_, hstep.mass_eq.trans hmass,
      hstep.velocity_eq.trans hvelocity, hstep.altitude_eq.trans haltitude⟩
    rw [htime', htime]
    push_cast
    ring

/-- The engines are lit after 200 passes. -/
lemma ascending_zero (thrusterLoss losses : ℕ → Bool) :
    Ascending losses 0 (flightState thrusterLoss 200) := by
  obtain ⟨hphase, htime, hmass, hvelocity, haltitude⟩ :=
    flightState_of_lt thrusterLoss (show 199 < 200 by decide)
  have hstep := prelaunchStep hphase
  obtain ⟨hphase', htime'⟩ := hstep.passes.of_ends (by rw [htime]; norm_num)
  refine ⟨⟨?_, ?_, ?_⟩, hphase', ?_, by decide⟩
  · simpa using hstep.mass_eq.trans hmass
  · simpa using hstep.velocity_eq.trans hvelocity
  · simpa using hstep.altitude_eq.trans haltitude
  · simpa using htime'

/-- The faults of the ascent, by the number of its pass. -/
def ascentLoss (thrusterLoss : ℕ → Bool) (i : ℕ) : Bool := thrusterLoss (200 + i)

/-- **Step lemma**: a pass of the ascent. -/
lemma Ascending.succ
    (h : Ascending (ascentLoss thrusterLoss) n (flightState thrusterLoss (200 + n))) :
    Ascending (ascentLoss thrusterLoss) (n + 1) (flightState thrusterLoss (200 + (n + 1))) ∨
      CutOff (ascentLoss thrusterLoss) (n + 1) (flightState thrusterLoss (200 + (n + 1))) := by
  obtain ⟨hlow, hhigh⟩ := massWithin_flightState thrusterLoss (200 + n)
  have hstep := ascentStep h.phase_eq hlow hhigh
  have hn : (n : ℝ) + 1 ≤ 2500 := by exact_mod_cast h.lt
  rw [show 200 + (n + 1) = 200 + n + 1 from rfl]
  set next := flightState thrusterLoss (200 + n + 1)
  have hmass : next.massKg = 20000 - 2 * (n + 1) := by
    rw [hstep.mass_eq, h.mass_eq, max_eq_right (by linarith)]
    ring
  have hacceleration : ascentAcceleration (thrusterLoss (200 + n)) next.massKg =
      accelerationAt (ascentLoss thrusterLoss) n := by
    rw [hmass, accelerationAt]
    norm_num [ascentLoss]
  have hvelocity : next.velocityMps = 0.01 * speedGain (ascentLoss thrusterLoss) (n + 1) := by
    rw [hstep.moves.velocity_eq, h.velocity_eq, hacceleration, speedGain_succ]
    ring
  have haltitude : next.altitudeM = 0.0001 * heightGain (ascentLoss thrusterLoss) (n + 1) := by
    rw [hstep.moves.altitude_eq, hvelocity, h.altitude_eq, heightGain_succ]
    ring
  have hclimbs : Climbs (ascentLoss thrusterLoss) (n + 1) next :=
    ⟨by rw [hmass]; push_cast; ring, hvelocity, haltitude⟩
  by_cases hends : 2400 ≤ next.altitudeM + next.velocityMps ^ 2 / (2 * 9.80665) ∨
    25 ≤ (flightState thrusterLoss (200 + n)).phaseTimeS + 0.01 ∨ next.massKg ≤ 15000
  · refine Or.inr ⟨hclimbs, (hstep.passes.of_ends hends).1, h.lt, hends.imp_right ?_⟩
    rw [h.phaseTime_eq, hmass]
    intro hlast
    have hfull : (2500 : ℝ) ≤ n + 1 := by
      rcases hlast with hlast | hlast
      · linarith
      · linarith
    exact le_antisymm h.lt (by exact_mod_cast hfull)
  · obtain ⟨hphase, htime⟩ := hstep.passes.of_not_ends hends
    refine Or.inl ⟨hclimbs, hphase.trans h.phase_eq, ?_, ?_⟩
    · rw [htime, h.phaseTime_eq]
      push_cast
      ring
    · push Not at hends
      rw [h.phaseTime_eq] at hends
      have hlast : (n : ℝ) + 1 < 2500 := by linarith [hends.2.1]
      exact_mod_cast hlast

/-- **Run lemma**: every flight has an ascent, and it ends. -/
theorem exists_cutOff (thrusterLoss : ℕ → Bool) :
    ∃ k, CutOff (ascentLoss thrusterLoss) k (flightState thrusterLoss (200 + k)) ∧
      ∀ n < k, Ascending (ascentLoss thrusterLoss) n (flightState thrusterLoss (200 + n)) := by
  classical
  have hexists : ∃ n, ¬Ascending (ascentLoss thrusterLoss) n (flightState thrusterLoss (200 + n)) :=
    ⟨2500, fun h => absurd h.lt (by decide)⟩
  have hbefore : ∀ n < Nat.find hexists,
      Ascending (ascentLoss thrusterLoss) n (flightState thrusterLoss (200 + n)) :=
    fun n hn => not_not.mp (Nat.find_min hexists hn)
  obtain ⟨k, hk⟩ : ∃ k, Nat.find hexists = k + 1 := by
    refine Nat.exists_eq_succ_of_ne_zero fun hzero => ?_
    have hspec := Nat.find_spec hexists
    rw [hzero] at hspec
    exact hspec (ascending_zero thrusterLoss _)
  refine ⟨Nat.find hexists, ?_, hbefore⟩
  have hspec := Nat.find_spec hexists
  rw [hk] at hspec ⊢
  exact (hbefore k (by omega)).succ.resolve_left hspec

end FlightDeck.Simulation
