import FlightDeck.Generator.Simulator

set_option relaxedAutoImplicit false
set_option autoImplicit false

/-!
# Bounds in the flight simulation

With the default configuration and the time step of the main loop: bounds on the mass, on the
thrust of both burns, on the accelerations and on the attitude quaternion. The bounds are
generous powers of two; what matters is that they hold in floating-point arithmetic and do not
grow from step to step.

## Main definitions

* `FlightDeck.Simulation.ThrustBelow` — a thrust with bounded components.
* `FlightDeck.Simulation.MassWithin` — the range of the mass.

## Main results

* `FlightDeck.Simulation.below_normalizeOrientation` — the attitude after a step.
* `FlightDeck.Simulation.ThrustBelow.limit` — a thrust scaled down to what the engines can give.
* `FlightDeck.Simulation.MassWithin.ascentMass` — the mass stays in its range.
-/

namespace FlightDeck.Simulation

open Binary64 FloatRounding

/-! ## Library functions -/

section Library

variable {x y z : Float} {r : ℝ} {k : ℤ}

lemma bounded_stdMin (hx : Bounded x r) (hy : Bounded y r) : Bounded (stdMin x y) r :=
  Bounded.ite (fun _ => hy) (fun _ => hx)

lemma bounded_stdMax (hx : Bounded x r) (hy : Bounded y r) : Bounded (stdMax x y) r :=
  Bounded.ite (fun _ => hy) (fun _ => hx)

/-- The maximum of two finite doubles. -/
lemma val_stdMax (hx : Finite x) (hy : Finite y) : val (stdMax x y) = max (val x) (val y) := by
  unfold stdMax
  split_ifs with h
  · exact (max_eq_right ((lt_iff_val hx hy).mp h).le).symm
  · rw [lt_iff_val hx hy, not_lt] at h
    exact (max_eq_left h).symm

/-- The minimum of two finite doubles. -/
lemma val_stdMin (hx : Finite x) (hy : Finite y) : val (stdMin x y) = min (val x) (val y) := by
  unfold stdMin
  split_ifs with h
  · exact (min_eq_right ((lt_iff_val hy hx).mp h).le).symm
  · rw [lt_iff_val hy hx, not_lt] at h
    exact (min_eq_left h).symm

/-- A clamped double has the bound of the two limits. -/
lemma bounded_stdClamp (hx : Finite x) (hy : Bounded y r) (hz : Bounded z r) :
    Bounded (stdClamp x y z) r := by
  unfold stdClamp
  split_ifs with hlow hhigh
  · exact hy
  · exact hz
  · rw [lt_iff_val hx hy.finite, not_lt] at hlow
    rw [lt_iff_val hz.finite hx, not_lt] at hhigh
    exact ⟨hx, abs_le.mpr ⟨hy.ge.trans hlow, hhigh.trans hz.le⟩⟩

/-- Zero. -/
lemma zero_spec : Finite (0.0 : Float) ∧ val (0.0 : Float) = 0 := by
  have h := val_literal (m := 0) (n := 0) rfl
  rwa [Nat.cast_zero] at h

lemma below_zero (k : ℤ) : Below (0.0 : Float) k := by
  refine ⟨zero_spec.1, ?_⟩
  rw [zero_spec.2, abs_zero]
  exact (two_zpow_pos k).le

/-- One. -/
lemma one_spec : Below (1.0 : Float) 0 ∧ AtLeast (1.0 : Float) 0 :=
  ⟨below_literal (by norm_num),
    atLeast_literal (by norm_num)⟩

/-- Two. -/
lemma two_spec : Below (2.0 : Float) 1 ∧ AtLeast (2.0 : Float) 1 :=
  ⟨below_literal (by norm_num),
    atLeast_literal (by norm_num)⟩

/-- The machine epsilon. -/
lemma epsilon_spec : AtLeast (epsilon : Float) (-52) := by
  obtain ⟨hone, hone'⟩ := val_literal (m := 10) (n := 1) rfl
  obtain ⟨htwo, htwo'⟩ := val_literal (m := 45035996273704960) (n := 4503599627370496) rfl
  have hq : val (1.0 : Float) / val (4503599627370496.0 : Float) = (2 : ℝ) ^ (-52 : ℤ) := by
    rw [hone', htwo']
    norm_num
  have hscale : Scale (-52) := by decide
  have hnear := div_near hone htwo (by rw [htwo']; positivity) (by
    rw [hq, abs_of_pos (two_zpow_pos _)]
    exact hscale.radius.le)
  rw [hq] at hnear
  exact ⟨hnear.finite, hnear.le_val hscale.radius.onGrid le_rfl⟩

end Library

/-! ## Thrust -/

section Thrust

variable [Libm] [LawfulLibm] {x y : Float} {k : ℤ}

/-- The length is at least half of the first side. -/
lemma abs_le_hypot_left (hx : Below x 900) (hy : Below y 900) :
    |val x| ≤ 2 * val (Libm.hypot x y) := by
  have hspec := (LawfulLibm.hypot_spec hx hy).2.1
  have hle : |val x| ≤ √(val x ^ 2 + val y ^ 2) := by
    apply Real.le_sqrt_of_sq_le
    rw [sq_abs]
    exact le_add_of_nonneg_right (sq_nonneg _)
  linarith

/-- And of the second. -/
lemma abs_le_hypot_right (hx : Below x 900) (hy : Below y 900) :
    |val y| ≤ 2 * val (Libm.hypot x y) := by
  have hspec := (LawfulLibm.hypot_spec hx hy).2.1
  have hle : |val y| ≤ √(val x ^ 2 + val y ^ 2) := by
    apply Real.le_sqrt_of_sq_le
    rw [sq_abs]
    exact le_add_of_nonneg_left (sq_nonneg _)
  linarith

/-- The length is bounded by the sides. -/
lemma below_hypot (hx : Below x k) (hy : Below y k) (hk : k + 2 ≤ 900) :
    Below (Libm.hypot x y) (k + 2) := by
  obtain ⟨hfinite, hlow, hhigh⟩ := LawfulLibm.hypot_spec (hx.mono (by omega : k ≤ 900))
    (hy.mono (by omega : k ≤ 900))
  have hpos := two_zpow_pos k
  have hle : √(val x ^ 2 + val y ^ 2) ≤ 2 * (2 : ℝ) ^ k := by
    rw [Real.sqrt_le_left (by positivity)]
    have hx2 : val x ^ 2 ≤ ((2 : ℝ) ^ k) ^ 2 := by
      rw [← sq_abs]
      exact pow_le_pow_left₀ (abs_nonneg _) hx.abs_val_le 2
    have hy2 : val y ^ 2 ≤ ((2 : ℝ) ^ k) ^ 2 := by
      rw [← sq_abs]
      exact pow_le_pow_left₀ (abs_nonneg _) hy.abs_val_le 2
    nlinarith
  have hscale : (2 : ℝ) ^ (k + 2) = 4 * (2 : ℝ) ^ k := by
    rw [show k + 2 = k + 1 + 1 by ring, two_zpow_succ, two_zpow_succ]
    ring
  refine ⟨hfinite, abs_le.mpr ⟨?_, ?_⟩⟩
  · have := Real.sqrt_nonneg (val x ^ 2 + val y ^ 2)
    rw [hscale]
    linarith
  · rw [hscale]
    linarith

/-- A thrust with bounded components. -/
structure ThrustBelow (thrust : Thrust Float) (k : ℤ) : Prop where
  east : Below thrust.east k
  north : Below thrust.north k
  up : Below thrust.up k

variable {thrust : Thrust Float}

/-- Its magnitude. -/
lemma ThrustBelow.magnitude (h : ThrustBelow thrust k) (hk : k + 4 ≤ 900) :
    Below thrust.magnitude (k + 4) := by
  have hplane : Below (Libm.hypot thrust.east thrust.north) (k + 2) :=
    below_hypot h.east h.north (by omega)
  rw [show k + 4 = k + 2 + 2 by ring]
  exact below_hypot hplane (h.up.mono (by omega)) (by omega)

/-- The components are bounded by the magnitude. -/
lemma ThrustBelow.le_magnitude (h : ThrustBelow thrust k) (hk : k + 4 ≤ 900) :
    |val thrust.east| ≤ 4 * val thrust.magnitude ∧
      |val thrust.north| ≤ 4 * val thrust.magnitude ∧
      |val thrust.up| ≤ 4 * val thrust.magnitude := by
  have hplane : Below (Libm.hypot thrust.east thrust.north) 900 :=
    (below_hypot h.east h.north (by omega)).mono (by omega)
  have heast := abs_le_hypot_left (h.east.mono (by omega)) (h.north.mono (by omega : k ≤ 900))
  have hnorth := abs_le_hypot_right (h.east.mono (by omega)) (h.north.mono (by omega : k ≤ 900))
  have hmagnitude := abs_le_hypot_left hplane (h.up.mono (by omega : k ≤ 900))
  have hup := abs_le_hypot_right hplane (h.up.mono (by omega : k ≤ 900))
  have hle := le_abs_self (val (Libm.hypot thrust.east thrust.north))
  have hnonneg := abs_nonneg (val thrust.up)
  refine ⟨?_, ?_, ?_⟩
  · show _ ≤ 4 * val (Libm.hypot (Libm.hypot thrust.east thrust.north) thrust.up)
    linarith
  · show _ ≤ 4 * val (Libm.hypot (Libm.hypot thrust.east thrust.north) thrust.up)
    linarith
  · show _ ≤ 4 * val (Libm.hypot (Libm.hypot thrust.east thrust.north) thrust.up)
    linarith

end Thrust

/-! ## Attitude -/

section Attitude

variable {orientation : Fin 4 → Float} {k : ℤ}

/-- The squared norm is bounded, and at least each squared component. -/
lemma normSquared_spec (h : ∀ i, Below (orientation i) 53) :
    Below (normSquared orientation) 110 ∧
      ∀ i, val (orientation i * orientation i) ≤ val (normSquared orientation) := by
  have hterm : ∀ i, Below (orientation i * orientation i) 106 := fun i =>
    (h i).mul (h i) (by norm_num) (by decide)
  have hterm0 : ∀ i, 0 ≤ val (orientation i * orientation i) := fun i =>
    (h i).val_mul_self_nonneg (by decide)
  have hzero := below_zero 106
  have hzero0 := zero_spec.2.ge
  set t := fun i => orientation i * orientation i with ht
  have h0 : Below (0.0 + t 0) 107 := hzero.add (hterm 0) (by norm_num) (by norm_num) (by decide)
  have hle0 := hzero.le_val_add (hterm 0) (by decide) hzero0 (hterm0 0)
  have h1 : Below (0.0 + t 0 + t 1) 108 :=
    h0.add (hterm 1) (by norm_num) (by norm_num) (by decide)
  have hle1 := h0.le_val_add ((hterm 1).mono (by norm_num)) (by decide)
    ((hterm0 0).trans hle0.2) (hterm0 1)
  have h2 : Below (0.0 + t 0 + t 1 + t 2) 109 :=
    h1.add (hterm 2) (by norm_num) (by norm_num) (by decide)
  have hle2 := h1.le_val_add ((hterm 2).mono (by norm_num)) (by decide)
    ((hterm0 1).trans hle1.2) (hterm0 2)
  have h3 : Below (0.0 + t 0 + t 1 + t 2 + t 3) 110 :=
    h2.add (hterm 3) (by norm_num) (by norm_num) (by decide)
  have hle3 := h2.le_val_add ((hterm 3).mono (by norm_num)) (by decide)
    ((hterm0 2).trans hle2.2) (hterm0 3)
  refine ⟨h3, fun i => ?_⟩
  show val (t i) ≤ val (0.0 + t 0 + t 1 + t 2 + t 3)
  fin_cases i
  · exact hle0.2.trans (hle1.1.trans (hle2.1.trans hle3.1))
  · exact hle1.2.trans (hle2.1.trans hle3.1)
  · exact hle2.2.trans hle3.1
  · exact hle3.2

/-- A component divided by a norm that is at least as large. -/
lemma below_normalized {c norm : Float} (hc : Below c 53) (hnorm : Below norm 110)
    (hle : val (c * c) ≤ val norm) (heps : AtLeast norm (-52)) :
    Below (c * (1.0 / norm.sqrt)) 1 := by
  rcases lt_or_ge |val c| ((2 : ℝ) ^ (-30 : ℤ)) with hsmall | hlarge
  · have hroot : AtLeast norm.sqrt (-26) :=
      heps.sqrt (k := -26) hnorm (by decide) (m := 55) (by norm_num) (by decide)
    have hinverse : Below (1.0 / norm.sqrt) 26 :=
      one_spec.1.div hroot (by norm_num) (by decide)
    exact Below.mul ⟨hc.finite, hsmall.le⟩ hinverse (by norm_num) (by decide)
  · obtain ⟨j, hj, hj', hpow, hbelow⟩ := hc.exists_zpow hlarge
    have hsquare := hc.atLeast_mul_self (l := j) (by decide) ⟨by omega, by omega⟩ hpow
    have hnorm' : AtLeast norm (j + j) := ⟨hnorm.finite, hsquare.le_val.trans hle⟩
    have hroot : AtLeast norm.sqrt j :=
      hnorm'.sqrt hnorm ⟨by omega, by omega⟩ (m := 55) (by norm_num) (by decide)
    have hinverse : Below (1.0 / norm.sqrt) (-j) :=
      one_spec.1.div hroot (by omega) ⟨by omega, by omega⟩
    exact hbelow.mul hinverse (by omega) (by decide)

/-- A number above the machine epsilon. -/
lemma atLeast_of_not_le_epsilon {x : Float} (hx : Finite x) (h : ¬x ≤ epsilon) :
    AtLeast x (-52) := by
  rw [le_iff_val hx epsilon_spec.finite, not_le] at h
  exact ⟨hx, epsilon_spec.le_val.trans h.le⟩

variable [Libm]

/-- **The attitude is normalized** to components of at most two, crudely. -/
lemma below_normalizeOrientation {state : FlightState Float}
    (h : ∀ i, Below (state.orientationWxyz i) 53) (i : Fin 4) :
    Below ((normalizeOrientation state).orientationWxyz i) 1 := by
  obtain ⟨hnorm, hle⟩ := normSquared_spec h
  unfold normalizeOrientation
  simp only
  split_ifs with heps
  · fin_cases i
    · exact one_spec.1.mono (by norm_num)
    · exact below_zero 1
    · exact below_zero 1
    · exact below_zero 1
  · exact below_normalized (h i) hnorm (hle i) (atLeast_of_not_le_epsilon hnorm.finite heps)

/-- The quaternion of a thrust direction. -/
lemma below_orientationOf {east north up : Float} (heast : Below east 2) (hnorth : Below north 2)
    (hup : Below up 2) (i : Fin 4) : Below (orientationOf east north up i) 53 := by
  have hhalf : Below ((1.0 + up) / 2.0) 2 :=
    ((one_spec.1.mono (by norm_num : (0 : ℤ) ≤ 2)).add hup (by norm_num) (by norm_num)
      (by decide)).div two_spec.2 (m := 2) (by norm_num : (3 : ℤ) ≤ 2 + 1) (by decide)
  have hmax : Below (stdMax 0.0 ((1.0 + up) / 2.0)) 2 := bounded_stdMax (below_zero 2) hhalf
  have hmax0 : 0 ≤ val (stdMax 0.0 ((1.0 + up) / 2.0)) := by
    rw [val_stdMax zero_spec.1 hhalf.finite, zero_spec.2]
    exact le_max_left _ _
  have hscalar : Below (stdMax 0.0 ((1.0 + up) / 2.0)).sqrt 1 :=
    hmax.sqrt hmax0 (by norm_num) (by decide)
  unfold orientationOf
  split_ifs with heps
  · fin_cases i
    · exact below_zero 53
    · exact one_spec.1.mono (by norm_num)
    · exact below_zero 53
    · exact below_zero 53
  · have hlarge := atLeast_of_not_le_epsilon hscalar.finite heps
    have hdouble : AtLeast (2.0 * (stdMax 0.0 ((1.0 + up) / 2.0)).sqrt) (1 + -52) :=
      two_spec.2.mul hlarge two_spec.1 hscalar (by decide) (by decide)
    fin_cases i
    · exact hscalar.mono (by norm_num)
    · exact (hnorth.neg (by decide)).div hdouble (by norm_num) (by decide)
    · exact heast.div hdouble (by norm_num) (by decide)
    · exact below_zero 53

/-- The attitude after a burn. -/
lemma below_updateOrientation [LawfulLibm] {state : FlightState Float} {thrust : Thrust Float}
    (hthrust : ThrustBelow thrust 30) (h : ∀ i, Below (state.orientationWxyz i) 53) (i : Fin 4) :
    Below ((updateOrientation thrust state).orientationWxyz i) 53 := by
  have hmagnitude := hthrust.magnitude (by norm_num)
  obtain ⟨heast, hnorth, hup⟩ := hthrust.le_magnitude (by norm_num)
  unfold updateOrientation
  simp only
  split_ifs with heps
  · exact h i
  · have hpos := (atLeast_of_not_le_epsilon hmagnitude.finite heps).pos
    have hfour : ((2 : ℝ) ^ (2 : ℤ)) = 4 := by norm_num
    have hscale : Scale 2 := by decide
    apply below_orientationOf
    · apply bounded_div hthrust.east.finite hmagnitude.finite hpos hscale.radius
      rwa [hfour]
    · apply bounded_div hthrust.north.finite hmagnitude.finite hpos hscale.radius
      rwa [hfour]
    · apply bounded_div hthrust.up.finite hmagnitude.finite hpos hscale.radius
      rwa [hfour]

end Attitude

/-! ## Limited thrust -/

section Limit

/-- The thrust that the engines can give. -/
lemma maximumThrust_spec (thrusterLoss : Bool) :
    Below ((FlightConfig.default : FlightConfig Float).maximumThrustN * thrustFactor thrusterLoss)
        19 ∧
      0 ≤ val ((FlightConfig.default : FlightConfig Float).maximumThrustN *
        thrustFactor thrusterLoss) := by
  have hmaximum : Below (300000.0 : Float) 19 :=
    below_literal (by norm_num)
  have hmaximum' : AtLeast (300000.0 : Float) 18 :=
    atLeast_literal (by norm_num)
  have hfactor : Below (thrustFactor thrusterLoss : Float) 0 ∧
      0 ≤ val (thrustFactor thrusterLoss : Float) := by
    cases thrusterLoss with
    | false => exact ⟨one_spec.1, one_spec.2.pos.le⟩
    | true =>
      have hlow : AtLeast (0.6 : Float) (-1) :=
        atLeast_literal (by norm_num)
      exact ⟨below_literal (by norm_num),
        hlow.pos.le⟩
  have hscale : Scale 19 := by decide
  have hnear := hmaximum.mul_near hfactor.1 (by
    rw [← zpow_add₀ (by norm_num)]
    exact hscale.radius.le)
  exact ⟨hmaximum.mul hfactor.1 (by norm_num) hscale,
    hnear.le_val (onGrid_zero _) (mul_nonneg hmaximum'.pos.le hfactor.2)⟩

variable {c magnitude maximumThrust : Float}

/-- A component scaled down to a thrust of at most `2 ^ 19`. -/
lemma below_scaled (hc : Below c 100) (hmagnitude : Finite magnitude)
    (hmaximum : Below maximumThrust 19) (hmaximum0 : 0 ≤ val maximumThrust)
    (hlt : val maximumThrust < val magnitude) (hle : |val c| ≤ 4 * val magnitude) :
    Below (c * (maximumThrust / magnitude)) 22 := by
  rcases lt_or_ge |val c| ((2 : ℝ) ^ (0 : ℤ)) with hsmall | hlarge
  · have hscale : Scale 0 := by decide
    have hfactor : Below (maximumThrust / magnitude) 0 := by
      apply bounded_div hmaximum.finite hmagnitude (hmaximum0.trans_lt hlt) hscale.radius
      rw [zpow_zero, one_mul, abs_of_nonneg hmaximum0]
      exact hlt.le
    exact Below.mul ⟨hc.finite, hsmall.le⟩ hfactor (by norm_num) (by decide)
  · obtain ⟨j, hj, hj', hpow, hbelow⟩ := hc.exists_zpow hlarge
    have hatLeast : AtLeast magnitude (j - 2) := by
      refine ⟨hmagnitude, ?_⟩
      have hfour : (2 : ℝ) ^ j = 4 * (2 : ℝ) ^ (j - 2) := by
        rw [show j = j - 2 + 1 + 1 by ring, two_zpow_succ, two_zpow_succ,
          show j - 2 + 1 + 1 - 2 = j - 2 by ring]
        ring
      linarith
    have hfactor : Below (maximumThrust / magnitude) (21 - j) :=
      hmaximum.div hatLeast (by omega) ⟨by omega, by omega⟩
    exact hbelow.mul hfactor (by omega) (by decide)

variable [Libm] [LawfulLibm] {thrust : Thrust Float}

/-- A limited thrust. -/
lemma ThrustBelow.limit (h : ThrustBelow thrust 100) (hmaximum : Below maximumThrust 19)
    (hmaximum0 : 0 ≤ val maximumThrust) : ThrustBelow (thrust.limit maximumThrust) 22 := by
  have hmagnitude := h.magnitude (by norm_num)
  obtain ⟨heast, hnorth, hup⟩ := h.le_magnitude (by norm_num)
  unfold Thrust.limit
  simp only
  split_ifs with hlarge
  · have hlt := (lt_iff_val hmaximum.finite hmagnitude.finite).mp hlarge
    exact ⟨below_scaled h.east hmagnitude.finite hmaximum hmaximum0 hlt heast,
      below_scaled h.north hmagnitude.finite hmaximum hmaximum0 hlt hnorth,
      below_scaled h.up hmagnitude.finite hmaximum hmaximum0 hlt hup⟩
  · have hle : val thrust.magnitude ≤ (2 : ℝ) ^ (19 : ℤ) := by
      rw [gt_iff_lt, lt_iff_val hmaximum.finite hmagnitude.finite, not_lt] at hlarge
      exact hlarge.trans hmaximum.le
    have hbound : 4 * val thrust.magnitude ≤ (2 : ℝ) ^ (22 : ℤ) := by
      have : 4 * (2 : ℝ) ^ (19 : ℤ) ≤ (2 : ℝ) ^ (22 : ℤ) := by norm_num
      linarith
    exact ⟨⟨h.east.finite, heast.trans hbound⟩, ⟨h.north.finite, hnorth.trans hbound⟩,
      ⟨h.up.finite, hup.trans hbound⟩⟩

end Limit

/-! ## Mass -/

/-- The vehicle never burns much more than its propellant. -/
structure MassWithin (massKg : Float) : Prop where
  finite : Finite massKg
  ge : 14990 ≤ val massKg
  le : val massKg ≤ 20000

section Mass

variable {massKg : Float}

lemma MassWithin.below (h : MassWithin massKg) : Below massKg 15 := by
  refine ⟨h.finite, ?_⟩
  rw [abs_of_nonneg (by linarith [h.ge])]
  have : (20000 : ℝ) ≤ (2 : ℝ) ^ (15 : ℤ) := by norm_num
  linarith [h.le]

lemma MassWithin.atLeast (h : MassWithin massKg) : AtLeast massKg 13 := by
  refine ⟨h.finite, ?_⟩
  have : (2 : ℝ) ^ (13 : ℤ) ≤ 14990 := by norm_num
  linarith [h.ge]

/-- The time step. -/
lemma below_kFixedStepSeconds : Below (kFixedStepSeconds : Float) (-6) :=
  below_literal (by norm_num)

/-- The propellant of one step. -/
lemma below_massFlow : Below
    ((FlightConfig.default : FlightConfig Float).ascentMassFlowKgps * kFixedStepSeconds) 2 := by
  have hflow : Below (200.0 : Float) 8 :=
    below_literal (by norm_num)
  exact hflow.mul below_kFixedStepSeconds (by norm_num) (by decide)

/-- **Mass**: below the dry mass nothing is burned any more, above it at most four kilograms a
step. -/
lemma MassWithin.ascentMass (h : MassWithin massKg) :
    MassWithin (ascentMass .default kFixedStepSeconds massKg) := by
  obtain ⟨hdry, hdry'⟩ := val_literal (m := 150000) (n := 15000) rfl
  have hflow := below_massFlow
  set dry : Float := 15000.0
  set flow := (FlightConfig.default : FlightConfig Float).ascentMassFlowKgps * kFixedStepSeconds
  set available := massKg - dry with havailable
  have hdry15 : Below dry 15 := ⟨hdry, by rw [hdry']; norm_num⟩
  have hscale : Scale 16 := by decide
  have hsum : (2 : ℝ) ^ (15 : ℤ) + (2 : ℝ) ^ (15 : ℤ) ≤ 2 ^ 1023 :=
    (zpow_add_zpow_le (by norm_num) (by norm_num)).trans hscale.radius.le
  have hnear : Near available (val massKg - val dry) := h.below.sub_near hdry15 hsum
  have hused : Finite (stdMin available flow) ∧
      val (stdMin available flow) = min (val available) (val flow) := by
    refine ⟨?_, val_stdMin hnear.finite hflow.finite⟩
    unfold stdMin
    split_ifs
    · exact hflow.finite
    · exact hnear.finite
  have hspent : val (stdMax 0.0 (stdMin available flow)) =
      max 0 (min (val available) (val flow)) := by
    rw [val_stdMax zero_spec.1 hused.1, zero_spec.2, hused.2]
  have hspent4 : val (stdMax 0.0 (stdMin available flow)) ≤ 4 := by
    have hflow4 : val flow ≤ 4 := hflow.le.trans (by norm_num)
    rw [hspent]
    exact max_le (by norm_num) ((min_le_right _ _).trans hflow4)
  have hspent0 : 0 ≤ val (stdMax 0.0 (stdMin available flow)) := by
    rw [hspent]
    exact le_max_left _ _
  have hspentBelow : Below (stdMax 0.0 (stdMin available flow)) 2 := by
    refine ⟨?_, ?_⟩
    · unfold stdMax
      split_ifs
      · exact hused.1
      · exact zero_spec.1
    · rw [abs_of_nonneg hspent0]
      exact hspent4.trans (by norm_num)
  have hrest := h.below.sub_near (hspentBelow.mono (by norm_num)) hsum
  refine ⟨hrest.finite, ?_, (hrest.val_le h.finite.onGrid (by linarith)).trans h.le⟩
  rcases lt_or_ge (val massKg) 15000 with hlow | hhigh
  · -- nothing is left to burn, and subtracting zero is exact
    have hneg : val available ≤ 0 := by
      apply hnear.val_le (onGrid_zero _)
      rw [hdry']
      push_cast
      linarith
    have hzero : val (stdMax 0.0 (stdMin available flow)) = 0 := by
      rw [hspent]
      exact max_eq_left ((min_le_left _ _).trans hneg)
    refine h.ge.trans (hrest.le_val h.finite.onGrid ?_)
    rw [hzero, sub_zero]
  · have hgrid := onGrid_natCast (n := 14990) (by norm_num)
    have := hrest.le_val hgrid (by push_cast; linarith)
    exact_mod_cast this

end Mass

/-! ## Burns -/

section Burn

/-- Gravity. -/
lemma below_gravity : Below (FlightConfig.default : FlightConfig Float).gravityMps2 4 :=
  below_literal (by norm_num)

variable {target position velocity : Float}

/-- The braking acceleration along one axis. -/
lemma below_desiredAcceleration (htarget : Below target 10) (hposition : Below position 61)
    (hvelocity : Below velocity 36) : Below (desiredAcceleration target position velocity) 2 := by
  have hrange : Below (target - position) 62 :=
    (htarget.mono (by norm_num)).sub hposition (by norm_num : (61 : ℤ) < 62) (by norm_num)
      (by decide)
  have hfactor : Below (0.08 : Float) 0 := below_literal (by norm_num)
  have hdamping : Below (0.57 : Float) 0 := below_literal (by norm_num)
  have hfour : Below (4.0 : Float) 2 := below_literal (by norm_num)
  have hvalue : Below ((target - position) * 0.08 - velocity * 0.57) 63 :=
    (hrange.mul hfactor (m := 62) (by norm_num) (by decide)).sub
      (hvelocity.mul hdamping (m := 36) (by norm_num) (by decide)) (by norm_num) (by norm_num)
      (by decide)
  exact bounded_stdClamp hvalue.finite (hfour.neg (by decide)) hfour

/-- The grid-fin acceleration along one axis. -/
lemma below_gridFinAcceleration (htarget : Below target 10) (hposition : Below position 61)
    (hvelocity : Below velocity 36) :
    Below (gridFinAcceleration .default target position velocity) (-1) := by
  have hrange : Below (target - position) 62 :=
    (htarget.mono (by norm_num)).sub hposition (by norm_num : (61 : ℤ) < 62) (by norm_num)
      (by decide)
  have hfactor : Below (0.0008 : Float) 0 := below_literal (by norm_num)
  have hdamping : Below (0.018 : Float) 0 := below_literal (by norm_num)
  have hlimit : Below (0.35 : Float) (-1) := below_literal (by norm_num)
  have hvalue : Below ((target - position) * 0.0008 - velocity * 0.018) 63 :=
    (hrange.mul hfactor (m := 62) (by norm_num) (by decide)).sub
      (hvelocity.mul hdamping (m := 36) (by norm_num) (by decide)) (by norm_num) (by norm_num)
      (by decide)
  exact bounded_stdClamp hvalue.finite (hlimit.neg (by decide)) hlimit

variable [Libm] {massKg thrustN : Float}

/-- The thrust of an ascent step. -/
lemma thrustBelow_ascentThrust (hmass : MassWithin massKg) (hthrust : Below thrustN 19) :
    ThrustBelow (ascentThrust .default thrustN massKg) 22 := by
  have heast : Below (stdMin (massKg * 1.05) (thrustN * 0.25)) 19 := by
    have hlow : Below (1.05 : Float) 1 := below_literal (by norm_num)
    have hhigh : Below (0.25 : Float) 0 := below_literal (by norm_num)
    exact bounded_stdMin (hmass.below.mul hlow (by norm_num) (by decide))
      (hthrust.mul hhigh (by norm_num) (by decide))
  have hnorth : Below (stdMin (massKg * 0.21) (thrustN * 0.1)) 19 := by
    have hlow : Below (0.21 : Float) 0 := below_literal (by norm_num)
    have hhigh : Below (0.1 : Float) 0 := below_literal (by norm_num)
    exact bounded_stdMin (hmass.below.mul hlow (by norm_num) (by decide))
      (hthrust.mul hhigh (by norm_num) (by decide))
  have hsquare : Below (thrustN * thrustN) 38 := hthrust.mul hthrust (by norm_num) (by decide)
  have hrest := (hsquare.sub (heast.mul heast (m := 38) (by norm_num) (by decide)) (m := 39)
    (by norm_num) (by norm_num) (by decide)).sub
    (hnorth.mul hnorth (m := 38) (by norm_num) (by decide)) (m := 40)
    (by norm_num) (by norm_num) (by decide)
  have hup : Below (stdMax 0.0 (thrustN * thrustN -
      stdMin (massKg * 1.05) (thrustN * 0.25) * stdMin (massKg * 1.05) (thrustN * 0.25) -
      stdMin (massKg * 0.21) (thrustN * 0.1) * stdMin (massKg * 0.21) (thrustN * 0.1))).sqrt
      20 := by
    apply Below.sqrt (bounded_stdMax (below_zero 40) hrest) _ (by norm_num) (by decide)
    rw [val_stdMax zero_spec.1 hrest.finite, zero_spec.2]
    exact le_max_left _ _
  exact ⟨heast.mono (by norm_num), hnorth.mono (by norm_num), hup.mono (by norm_num)⟩

end Burn

end FlightDeck.Simulation
