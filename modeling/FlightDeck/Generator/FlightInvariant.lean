import FlightDeck.Generator.FlightBounds

set_option relaxedAutoImplicit false
set_option autoImplicit false

/-!
# The simulation stays finite

With the default configuration and the time step of the main loop, no quantity of the flight
simulation overflows or becomes a NaN within `2 ^ 31` steps, whatever faults are set. The
velocities grow by at most `2 ^ 5` a step and the positions by at most `2 ^ 30`; everything else
has a fixed bound.

## Main definitions

* `FlightDeck.Simulation.Within` — the bounds after a number of steps.

## Main results

* `FlightDeck.Simulation.Within.phaseStep` — what the `switch` of a step preserves.
* `FlightDeck.Simulation.Within.step` — what a step preserves.
-/

namespace FlightDeck.Simulation

open Binary64 FloatRounding

/-! ## The invariant -/

/-- The bounds after `p` updates of the position and `v` of the velocity, with attitude
components of at most `2 ^ k`. -/
structure Within (p v : ℕ) (k : ℤ) (state : FlightState Float) : Prop where
  altitudeM : Bounded state.altitudeM (p * (2 : ℝ) ^ (30 : ℤ))
  downrangeM : Bounded state.downrangeM (p * (2 : ℝ) ^ (30 : ℤ))
  crossrangeM : Bounded state.crossrangeM (p * (2 : ℝ) ^ (30 : ℤ))
  velocityMps : Bounded state.velocityMps (v * (2 : ℝ) ^ (5 : ℤ))
  horizontalVelocityMps : Bounded state.horizontalVelocityMps (v * (2 : ℝ) ^ (5 : ℤ))
  crossrangeVelocityMps : Bounded state.crossrangeVelocityMps (v * (2 : ℝ) ^ (5 : ℤ))
  massKg : MassWithin state.massKg
  thrustN : Below state.thrustN 30
  gimbalCommandDeg : ∀ i, Below (state.gimbalCommandDeg i) 9
  gridFinCommandDeg : ∀ i, Below (state.gridFinCommandDeg i) 7
  orientationWxyz : ∀ i, Below (state.orientationWxyz i) k

/-- The accelerations of a step are bounded. -/
structure Accelerating (state : FlightState Float) : Prop where
  accelerationMps2 : Below state.accelerationMps2 11
  horizontalAccelerationMps2 : Below state.horizontalAccelerationMps2 11
  crossrangeAccelerationMps2 : Below state.crossrangeAccelerationMps2 11

/-- A pair of commands. -/
lemma below_pair {a b : Float} {k : ℤ} (ha : Below a k) (hb : Below b k) (i : Fin 2) :
    Below ((![a, b] : Fin 2 → Float) i) k := by
  fin_cases i
  · exact ha
  · exact hb

section Motion

variable {x y : Float} {n : ℕ} {k : ℤ}

/-- A multiple of a power of two, within `2 ^ 31` steps. -/
lemma below_of_bounded (hx : Bounded x (n * (2 : ℝ) ^ k)) (hn : n ≤ 2 ^ 31) :
    Below x (k + 31) := by
  apply hx.mono
  have hn' : (n : ℝ) ≤ (2 : ℝ) ^ (31 : ℤ) := by
    have : (n : ℝ) ≤ 2 ^ 31 := by exact_mod_cast hn
    simpa using this
  rw [zpow_add₀ (by norm_num), mul_comm]
  exact mul_le_mul_of_nonneg_left hn' (two_zpow_pos k).le

/-- More steps, larger bounds. -/
lemma bounded_mono {m : ℕ} (hx : Bounded x (n * (2 : ℝ) ^ k)) (h : n ≤ m) :
    Bounded x (m * (2 : ℝ) ^ k) := by
  apply hx.mono
  have h' : (n : ℝ) ≤ m := by exact_mod_cast h
  exact mul_le_mul_of_nonneg_right h' (two_zpow_pos k).le

/-- One more term of a sum over time steps. -/
lemma bounded_accumulate (hx : Bounded x (n * (2 : ℝ) ^ k)) (hy : Below y (k + 6))
    (hn : n + 1 ≤ 2 ^ 31) (hk : Scale k) :
    Bounded (x + y * kFixedStepSeconds) ((n + 1 : ℕ) * (2 : ℝ) ^ k) := by
  have hterm : Below (y * kFixedStepSeconds) k :=
    hy.mul below_kFixedStepSeconds (by omega) hk
  apply hx.add hterm
  · apply radius_mul_zpow (by omega)
    · have := hk.1
      omega
    · have := hk.2
      omega
  · push_cast
    linarith

end Motion

section Within

variable {state : FlightState Float} {p v : ℕ} {k : ℤ}

/-- More steps, larger bounds. -/
lemma Within.mono (h : Within p v k state) {p' v' : ℕ} {k' : ℤ} (hp : p ≤ p') (hv : v ≤ v')
    (hk : k ≤ k') : Within p' v' k' state where
  altitudeM := bounded_mono h.altitudeM hp
  downrangeM := bounded_mono h.downrangeM hp
  crossrangeM := bounded_mono h.crossrangeM hp
  velocityMps := bounded_mono h.velocityMps hv
  horizontalVelocityMps := bounded_mono h.horizontalVelocityMps hv
  crossrangeVelocityMps := bounded_mono h.crossrangeVelocityMps hv
  massKg := h.massKg
  thrustN := h.thrustN
  gimbalCommandDeg := h.gimbalCommandDeg
  gridFinCommandDeg := h.gridFinCommandDeg
  orientationWxyz i := (h.orientationWxyz i).mono hk

/-- The velocities after a step. -/
lemma Within.updateVelocity (h : Within p v k state) (ha : Accelerating state)
    (hv : v + 1 ≤ 2 ^ 31) : Within p (v + 1) k (updateVelocity kFixedStepSeconds state) :=
  { h with
    velocityMps := bounded_accumulate h.velocityMps ha.accelerationMps2 hv (by decide)
    horizontalVelocityMps :=
      bounded_accumulate h.horizontalVelocityMps ha.horizontalAccelerationMps2 hv (by decide)
    crossrangeVelocityMps :=
      bounded_accumulate h.crossrangeVelocityMps ha.crossrangeAccelerationMps2 hv (by decide) }

/-- The position after a step. -/
lemma Within.updatePosition (h : Within p v k state) (hv : v ≤ 2 ^ 31) (hp : p + 1 ≤ 2 ^ 31) :
    Within (p + 1) v k (updatePosition kFixedStepSeconds state) :=
  { h with
    altitudeM := bounded_accumulate h.altitudeM (below_of_bounded h.velocityMps hv) hp
      (by decide)
    downrangeM := bounded_accumulate h.downrangeM
      (below_of_bounded h.horizontalVelocityMps hv) hp (by decide)
    crossrangeM := bounded_accumulate h.crossrangeM
      (below_of_bounded h.crossrangeVelocityMps hv) hp (by decide) }

/-- A transition only clears commands. -/
lemma Within.transitionTo (h : Within p v k state) (next : MissionPhase) :
    Within p v k (transitionTo next state) :=
  { h with
    gimbalCommandDeg := by
      intro i
      unfold Simulation.transitionTo
      simp only
      split_ifs
      · exact below_pair (below_zero 9) (below_zero 9) i
      · exact h.gimbalCommandDeg i
    gridFinCommandDeg := by
      intro i
      unfold Simulation.transitionTo
      simp only
      split_ifs
      · exact below_pair (below_zero 7) (below_zero 7) i
      · exact h.gridFinCommandDeg i }

/-- The statements before the `switch`. -/
lemma Within.beginStep (h : Within p v k state) :
    Within p v k (beginStep kFixedStepSeconds state) :=
  { h with
    thrustN := below_zero 30
    gimbalCommandDeg := below_pair (below_zero 9) (below_zero 9)
    gridFinCommandDeg := below_pair (below_zero 7) (below_zero 7) }

end Within

/-! ## The phases -/

section Phases

variable {state : FlightState Float} {thrust : Thrust Float} {n : ℕ} {thrusterLoss : Bool}

/-- `MissionPhase::prelaunch`. -/
lemma Within.prelaunch {p v : ℕ} {k : ℤ} (h : Within p v k state) :
    Within p v k (prelaunch .default state) := by
  have hstill : Within p v k { state with accelerationMps2 := 0.0 } := { h with }
  unfold Simulation.prelaunch
  simp only
  split_ifs
  · exact hstill.transitionTo _
  · exact hstill

/-- `MissionPhase::coast`. -/
lemma Within.coast (h : Within n n 1 state) (hn : n + 1 ≤ 2 ^ 31) :
    Within (n + 1) (n + 1) 1 (coast .default kFixedStepSeconds state) := by
  have hgravity : Below (-(FlightConfig.default : FlightConfig Float).gravityMps2) 11 :=
    (below_gravity.neg (by decide)).mono (by norm_num)
  have hfalling : Within n (n + 1) 1 { state with
      accelerationMps2 := -(FlightConfig.default : FlightConfig Float).gravityMps2
      velocityMps := state.velocityMps +
        -(FlightConfig.default : FlightConfig Float).gravityMps2 * kFixedStepSeconds } :=
    { h.mono le_rfl (Nat.le_succ n) le_rfl with
      velocityMps := bounded_accumulate h.velocityMps hgravity hn (by decide) }
  have hmoved := hfalling.updatePosition hn hn
  unfold Simulation.coast
  simp only
  split_ifs
  · exact hmoved.transitionTo _
  · exact hmoved

/-- A grid-fin command. -/
lemma below_gridFin {acceleration : Float} (h : Below acceleration (-1)) :
    Below (acceleration / (FlightConfig.default : FlightConfig Float).maximumGridFinAccelerationMps2 *
      kMaximumGridFinDeflectionDeg) 7 := by
  have hlimit : AtLeast (0.35 : Float) (-2) := atLeast_literal (by norm_num)
  have hdeflection : Below (20.0 : Float) 5 := below_literal (by norm_num)
  exact (h.div hlimit (m := 1) (by norm_num) (by decide)).mul hdeflection (by norm_num)
    (by decide)

/-- The targets on the ground. -/
lemma below_target : Below (FlightConfig.default : FlightConfig Float).targetDownrangeM 10 ∧
    Below (FlightConfig.default : FlightConfig Float).targetCrossrangeM 10 :=
  ⟨below_literal (by norm_num), below_literal (by norm_num)⟩

/-- `MissionPhase::descent`. -/
lemma Within.descent (h : Within n n 1 state) (hn : n + 1 ≤ 2 ^ 31) :
    Within (n + 1) (n + 1) 1 (descent .default thrusterLoss kFixedStepSeconds state) := by
  have heast := below_gridFinAcceleration below_target.1
    (below_of_bounded h.downrangeM (by omega)) (below_of_bounded h.horizontalVelocityMps (by omega))
  have hnorth := below_gridFinAcceleration below_target.2
    (below_of_bounded h.crossrangeM (by omega)) (below_of_bounded h.crossrangeVelocityMps (by omega))
  unfold Simulation.descent
  simp only
  set steered : FlightState Float := { state with
    accelerationMps2 := -(FlightConfig.default : FlightConfig Float).gravityMps2
    horizontalAccelerationMps2 := gridFinAcceleration .default
      (FlightConfig.default : FlightConfig Float).targetDownrangeM state.downrangeM
      state.horizontalVelocityMps
    crossrangeAccelerationMps2 := gridFinAcceleration .default
      (FlightConfig.default : FlightConfig Float).targetCrossrangeM state.crossrangeM
      state.crossrangeVelocityMps
    gridFinCommandDeg := _ } with hsteered
  have hwithin : Within n n 1 steered := { h with
    gridFinCommandDeg := below_pair (below_gridFin heast) (below_gridFin hnorth) }
  have hacceleration : Accelerating steered :=
    { accelerationMps2 := (below_gravity.neg (by decide)).mono (by norm_num)
      horizontalAccelerationMps2 := heast.mono (by norm_num)
      crossrangeAccelerationMps2 := hnorth.mono (by norm_num) }
  have hmoved := (hwithin.updateVelocity hacceleration hn).updatePosition hn hn
  split_ifs
  · exact hmoved.transitionTo _
  · exact hmoved

/-- The thrust that the landing burn asks for. -/
lemma Within.thrustBelow_desiredThrust (h : Within n n 1 state) (hn : n ≤ 2 ^ 31) :
    ThrustBelow (desiredThrust .default state) 100 := by
  have hmass := h.massKg.below
  have haltitude : Below state.altitudeM 61 := below_of_bounded h.altitudeM hn
  have hvelocity : Below state.velocityMps 36 := below_of_bounded h.velocityMps hn
  have hsafe : Below (stdMax state.altitudeM 1.0) 61 :=
    bounded_stdMax haltitude (one_spec.1.mono (by norm_num))
  have hsafe' : AtLeast (stdMax state.altitudeM 1.0) 0 := by
    refine ⟨hsafe.finite, ?_⟩
    rw [val_stdMax haltitude.finite one_spec.1.finite]
    exact one_spec.2.le_val.trans (le_max_right _ _)
  have hdivisor : AtLeast (2.0 * stdMax state.altitudeM 1.0) (1 + 0) :=
    two_spec.2.mul hsafe' two_spec.1 hsafe (by decide) (by decide)
  have hbraking : Below (state.velocityMps * state.velocityMps /
      (2.0 * stdMax state.altitudeM 1.0) * 1.05) 72 := by
    have hfactor : Below (1.05 : Float) 1 := below_literal (by norm_num)
    exact ((hvelocity.mul hvelocity (m := 72) (by norm_num) (by decide)).div hdivisor (m := 71)
      (by norm_num) (by decide)).mul hfactor (by norm_num) (by decide)
  have hupward : Below (if state.velocityMps < 0.0 then
      state.velocityMps * state.velocityMps / (2.0 * stdMax state.altitudeM 1.0) * 1.05
      else 0.0) 72 := Bounded.ite (fun _ => hbraking) (fun _ => below_zero 72)
  have heast := below_desiredAcceleration below_target.1 (below_of_bounded h.downrangeM hn)
    (below_of_bounded h.horizontalVelocityMps hn)
  have hnorth := below_desiredAcceleration below_target.2 (below_of_bounded h.crossrangeM hn)
    (below_of_bounded h.crossrangeVelocityMps hn)
  exact ⟨hmass.mul heast (by norm_num) (by decide), hmass.mul hnorth (by norm_num) (by decide),
    hmass.mul (below_gravity.add hupward (m := 73) (by norm_num) (by norm_num) (by decide))
      (by norm_num) (by decide)⟩

/-- The touchdown. -/
lemma Within.touchdown {p v : ℕ} {k : ℤ} (h : Within p v k state) :
    Within p v k (touchdown state) := by
  have hzero : ∀ (n : ℕ) (k : ℤ), Bounded (0.0 : Float) (n * (2 : ℝ) ^ k) := by
    intro n k
    refine ⟨zero_spec.1, ?_⟩
    rw [zero_spec.2, abs_zero]
    exact mul_nonneg (Nat.cast_nonneg n) (two_zpow_pos k).le
  apply Within.transitionTo
  exact { h with
    altitudeM := hzero p 30
    velocityMps := hzero v 5
    horizontalVelocityMps := hzero v 5
    crossrangeVelocityMps := hzero v 5
    thrustN := below_zero 30 }

/-- The conversion factor of angles. -/
lemma below_kRadiansToDegrees : Below (kRadiansToDegrees : Float) 7 := by
  have hhalf : Below (180.0 : Float) 8 := below_literal (by norm_num)
  have hpi : AtLeast (3.14159265358979323846 : Float) 1 := atLeast_literal (by norm_num)
  exact hhalf.div hpi (by norm_num) (by decide)

variable [Libm]

/-- `normalize_orientation`. -/
lemma Within.normalizeOrientation {p v : ℕ} (h : Within p v 53 state) :
    Within p v 1 (normalizeOrientation state) := by
  have horientation := below_normalizeOrientation h.orientationWxyz
  unfold Simulation.normalizeOrientation at horientation ⊢
  simp only at horientation ⊢
  split_ifs at horientation ⊢
  · exact { h with orientationWxyz := horientation }
  · exact { h with orientationWxyz := horientation }

variable [LawfulLibm]

/-- A gimbal command. -/
lemma below_gimbal {x y : Float} (hx : Finite x) (hy : Finite y) :
    Below (Libm.atan2 x y * kRadiansToDegrees) 9 := by
  have hangle : Below (Libm.atan2 x y) 2 :=
    (LawfulLibm.atan2_spec hx hy).mono (by norm_num)
  exact hangle.mul below_kRadiansToDegrees (by norm_num) (by decide)

/-- A step with thrust. -/
lemma Within.applyThrust (h : Within n n 1 state) (hthrust : ThrustBelow thrust 22)
    (hn : n + 1 ≤ 2 ^ 31) :
    Within (n + 1) (n + 1) 53 (applyThrust .default kFixedStepSeconds thrust state) := by
  have hmass := h.massKg.atLeast
  unfold Simulation.applyThrust
  simp only
  set pushed : FlightState Float := { state with
    gimbalCommandDeg := ![Libm.atan2 thrust.east thrust.up * kRadiansToDegrees,
      Libm.atan2 thrust.north thrust.up * kRadiansToDegrees]
    horizontalAccelerationMps2 := thrust.east / state.massKg
    crossrangeAccelerationMps2 := thrust.north / state.massKg
    accelerationMps2 := thrust.up / state.massKg -
      (FlightConfig.default : FlightConfig Float).gravityMps2 }
  have hpushed : Within n n 1 pushed := { h with
    gimbalCommandDeg := below_pair (below_gimbal hthrust.east.finite hthrust.up.finite)
      (below_gimbal hthrust.north.finite hthrust.up.finite) }
  have hacceleration : Accelerating pushed :=
    { accelerationMps2 := (hthrust.up.div hmass (m := 9) (by norm_num) (by decide)).sub
        below_gravity (by norm_num) (by norm_num) (by decide)
      horizontalAccelerationMps2 := hthrust.east.div hmass (by norm_num) (by decide)
      crossrangeAccelerationMps2 := hthrust.north.div hmass (by norm_num) (by decide) }
  have hmoved := (hpushed.updateVelocity hacceleration hn).updatePosition hn hn
  have hbelow : ThrustBelow thrust 30 := ⟨hthrust.east.mono (by norm_num),
    hthrust.north.mono (by norm_num), hthrust.up.mono (by norm_num)⟩
  have horientation := below_updateOrientation hbelow
    fun i => (hmoved.orientationWxyz i).mono (by norm_num : (1 : ℤ) ≤ 53)
  unfold updateOrientation at horientation ⊢
  simp only at horientation ⊢
  split_ifs at horientation ⊢ with heps
  · exact hmoved.mono le_rfl le_rfl (by norm_num)
  · exact { hmoved.mono le_rfl le_rfl (by norm_num : (1 : ℤ) ≤ 53) with
      orientationWxyz := horientation }

/-- `MissionPhase::powered_ascent`. -/
lemma Within.poweredAscent (h : Within n n 1 state) (hn : n + 1 ≤ 2 ^ 31) :
    Within (n + 1) (n + 1) 53 (poweredAscent .default thrusterLoss kFixedStepSeconds state) := by
  obtain ⟨hthrust, -⟩ := maximumThrust_spec thrusterLoss
  have hmass := h.massKg.ascentMass
  have hburning : Within n n 1 { state with
      thrustN := (FlightConfig.default : FlightConfig Float).maximumThrustN *
        thrustFactor thrusterLoss
      massKg := ascentMass .default kFixedStepSeconds state.massKg } :=
    { h with
      massKg := hmass
      thrustN := hthrust.mono (by norm_num) }
  have hmoved := hburning.applyThrust (thrustBelow_ascentThrust hmass hthrust) hn
  unfold Simulation.poweredAscent
  simp only
  split_ifs
  · exact hmoved.transitionTo _
  · exact hmoved

/-- `MissionPhase::landing_burn`. -/
lemma Within.landingBurn (h : Within n n 1 state) (hn : n + 1 ≤ 2 ^ 31) :
    Within (n + 1) (n + 1) 53 (landingBurn .default thrusterLoss kFixedStepSeconds state) := by
  obtain ⟨hmaximum, hmaximum0⟩ := maximumThrust_spec thrusterLoss
  have hthrust := (h.thrustBelow_desiredThrust (by omega)).limit hmaximum hmaximum0
  have hburning : Within n n 1 { state with
      thrustN := ((desiredThrust .default state).limit
        ((FlightConfig.default : FlightConfig Float).maximumThrustN *
          thrustFactor thrusterLoss)).magnitude } :=
    { h with thrustN := (hthrust.magnitude (by norm_num)).mono (by norm_num) }
  have hmoved := hburning.applyThrust hthrust hn
  unfold Simulation.landingBurn
  simp only
  split_ifs
  · exact hmoved.touchdown
  · exact hmoved

/-! ## The step -/

/-- What the `switch` of a step preserves. -/
theorem Within.phaseStep (h : Within n n 1 state) (hn : n + 1 ≤ 2 ^ 31) :
    Within (n + 1) (n + 1) 53
      (phaseStep .default thrusterLoss kFixedStepSeconds state) := by
  unfold Simulation.phaseStep
  cases state.phase with
  | prelaunch => exact h.prelaunch.mono (Nat.le_succ n) (Nat.le_succ n) (by norm_num)
  | poweredAscent => exact h.poweredAscent hn
  | coast => exact (h.coast hn).mono le_rfl le_rfl (by norm_num)
  | descent => exact (h.descent hn).mono le_rfl le_rfl (by norm_num)
  | landingBurn => exact h.landingBurn hn
  | landed => exact h.mono (Nat.le_succ n) (Nat.le_succ n) (by norm_num)

/-- **A step keeps the state finite.** -/
theorem Within.step {simulation : FlightSimulation Float} (hconfig : simulation.config = .default)
    (h : Within n n 1 simulation.state) (hn : n + 1 ≤ 2 ^ 31) :
    Within (n + 1) (n + 1) 1 (simulation.step kFixedStepSeconds).state := by
  unfold FlightSimulation.step
  split_ifs
  · exact h.mono (Nat.le_succ n) (Nat.le_succ n) le_rfl
  · simp only [hconfig]
    exact (h.beginStep.phaseStep hn).normalizeOrientation

end Phases

end FlightDeck.Simulation
