import FlightDeck.Generator.Attitude

set_option relaxedAutoImplicit false
set_option autoImplicit false

/-!
# Steps with checked arithmetic

The functions of the simulation once more, with every division and every square root checked when
it is executed, also where its result is only compared. A divisor that is zero, or an argument of a
root that is negative, ends the computation without a result. (The divisions in `kRadiansToDegrees`
and `epsilon` are made by the compiler.)

## Main definitions

* `Checked.div`, `Checked.sqrt` — the two operations.
* `Checked.step` — `step` with them.

## Main results

* `Checked.phaseStep_eq` — the `switch` has a result, and it is that of the simulation.
* `Checked.step_eq_some` — so has a step of a vehicle that has its dry mass at least.
-/

namespace FlightDeck.Simulation.Checked

/-! ## Definitions -/

section Definitions

variable {R : Type} [OfScientific R] [Div R] [Add R] [Sub R] [Mul R] [Neg R] [LT R] [LE R]
  [DecidableLT R] [DecidableLE R] [CMath R]

/-- Division, unless the divisor is zero. -/
def div (a b : R) : Option R := if b < 0.0 ∨ b > 0.0 then some (a / b) else none

/-- `std::sqrt`, unless the argument is negative. -/
def sqrt (x : R) : Option R := if x ≥ 0.0 then some (CMath.sqrt x) else none

/-- `should_start_landing_burn`. -/
def shouldStartLandingBurn (config : FlightConfig R) (thrusterLoss : Bool)
    (state : FlightState R) : Option Bool :=
  if state.velocityMps ≥ 0.0 then some false
  else do
    let thrustPerMass ← div (config.maximumThrustN * thrustFactor thrusterLoss) state.massKg
    let maximumUpwardAcceleration := thrustPerMass - config.gravityMps2
    if maximumUpwardAcceleration ≤ 0.0 then some true
    else do
      let stoppingDistance ←
        div (state.velocityMps * state.velocityMps) (2.0 * maximumUpwardAcceleration)
      some (state.altitudeM ≤ stoppingDistance * config.landingBurnMargin)

/-- `normalize_orientation`. -/
def normalizeOrientation (state : FlightState R) : Option (FlightState R) :=
  let normSquared := normSquared state.orientationWxyz
  if normSquared ≤ epsilon then
    some { state with orientationWxyz := ![1.0, 0.0, 0.0, 0.0] }
  else do
    let norm ← sqrt normSquared
    let inverseNorm ← div 1.0 norm
    some { state with orientationWxyz := fun i => state.orientationWxyz i * inverseNorm }

/-- The quaternion that turns the body axis to a thrust direction. -/
def orientationOf (east north up : R) : Option (Fin 4 → R) := do
  let half ← div (1.0 + up) 2.0
  let scalar ← sqrt (stdMax 0.0 half)
  if scalar ≤ epsilon then some ![0.0, 1.0, 0.0, 0.0]
  else do
    let x ← div (-north) (2.0 * scalar)
    let y ← div east (2.0 * scalar)
    some ![scalar, x, y, 0.0]

/-- `update_orientation`. -/
def updateOrientation (thrust : Thrust R) (state : FlightState R) : Option (FlightState R) :=
  let magnitude := thrust.magnitude
  if magnitude ≤ epsilon then some state
  else do
    let east ← div thrust.east magnitude
    let north ← div thrust.north magnitude
    let up ← div thrust.up magnitude
    let orientationWxyz ← orientationOf east north up
    some { state with orientationWxyz }

/-- What both burns do with their thrust: gimbal, accelerations, motion and attitude. -/
def applyThrust (config : FlightConfig R) (dtS : R) (thrust : Thrust R)
    (state : FlightState R) : Option (FlightState R) := do
  let horizontalAccelerationMps2 ← div thrust.east state.massKg
  let crossrangeAccelerationMps2 ← div thrust.north state.massKg
  let thrustPerMass ← div thrust.up state.massKg
  updateOrientation thrust (updatePosition dtS (updateVelocity dtS { state with
    gimbalCommandDeg := ![CMath.atan2 thrust.east thrust.up * kRadiansToDegrees,
      CMath.atan2 thrust.north thrust.up * kRadiansToDegrees]
    horizontalAccelerationMps2
    crossrangeAccelerationMps2
    accelerationMps2 := thrustPerMass - config.gravityMps2 }))

/-- The thrust of an ascent step. -/
def ascentThrust (config : FlightConfig R) (thrustN massKg : R) : Option (Thrust R) := do
  let thrustEastN := stdMin (massKg * config.ascentHorizontalAccelerationMps2) (thrustN * 0.25)
  let thrustNorthN := stdMin (massKg * config.ascentCrossrangeAccelerationMps2) (thrustN * 0.1)
  let thrustUpN ← sqrt (stdMax 0.0
    (thrustN * thrustN - thrustEastN * thrustEastN - thrustNorthN * thrustNorthN))
  some ⟨thrustEastN, thrustNorthN, thrustUpN⟩

/-- `MissionPhase::powered_ascent`. -/
def poweredAscent (config : FlightConfig R) (thrusterLoss : Bool) (dtS : R)
    (state : FlightState R) : Option (FlightState R) := do
  let thrustN := config.maximumThrustN * thrustFactor thrusterLoss
  let massKg := ascentMass config dtS state.massKg
  let thrust ← ascentThrust config thrustN massKg
  let state ← applyThrust config dtS thrust { state with thrustN, massKg }
  let ballisticRise ← div (state.velocityMps * state.velocityMps) (2.0 * config.gravityMps2)
  let predictedBallisticApogee := state.altitudeM + ballisticRise
  some
    (if predictedBallisticApogee ≥ config.targetApogeeM ∨
        state.phaseTimeS ≥ config.ascentBurnDurationS ∨ state.massKg ≤ config.dryMassKg then
      transitionTo .coast state
    else state)

/-- `MissionPhase::descent`. -/
def descent (config : FlightConfig R) (thrusterLoss : Bool) (dtS : R) (state : FlightState R) :
    Option (FlightState R) := do
  let horizontalAccelerationMps2 := gridFinAcceleration config config.targetDownrangeM
    state.downrangeM state.horizontalVelocityMps
  let crossrangeAccelerationMps2 := gridFinAcceleration config config.targetCrossrangeM
    state.crossrangeM state.crossrangeVelocityMps
  let eastShare ← div horizontalAccelerationMps2 config.maximumGridFinAccelerationMps2
  let northShare ← div crossrangeAccelerationMps2 config.maximumGridFinAccelerationMps2
  let state := updatePosition dtS (updateVelocity dtS { state with
    accelerationMps2 := -config.gravityMps2
    horizontalAccelerationMps2
    crossrangeAccelerationMps2
    gridFinCommandDeg := ![eastShare * kMaximumGridFinDeflectionDeg,
      northShare * kMaximumGridFinDeflectionDeg] })
  let start ← shouldStartLandingBurn config thrusterLoss state
  some (if start then transitionTo .landingBurn state else state)

/-- The thrust that the landing burn asks for. -/
def desiredThrust (config : FlightConfig R) (state : FlightState R) : Option (Thrust R) := do
  let safeAltitude := stdMax state.altitudeM 1.0
  let desiredUpwardAcceleration ←
    if state.velocityMps < 0.0 then do
      let stopping ← div (state.velocityMps * state.velocityMps) (2.0 * safeAltitude)
      some (stopping * 1.05)
    else some 0.0
  let desiredHorizontalAcceleration :=
    desiredAcceleration config.targetDownrangeM state.downrangeM state.horizontalVelocityMps
  let desiredCrossrangeAcceleration :=
    desiredAcceleration config.targetCrossrangeM state.crossrangeM state.crossrangeVelocityMps
  some ⟨state.massKg * desiredHorizontalAcceleration,
    state.massKg * desiredCrossrangeAcceleration,
    state.massKg * (config.gravityMps2 + desiredUpwardAcceleration)⟩

/-- A thrust scaled down to what the engines can give. -/
def limit (thrust : Thrust R) (maximumThrust : R) : Option (Thrust R) :=
  let requestedThrust := thrust.magnitude
  if requestedThrust > maximumThrust then do
    let scale ← div maximumThrust requestedThrust
    some ⟨thrust.east * scale, thrust.north * scale, thrust.up * scale⟩
  else some thrust

/-- `MissionPhase::landing_burn`. -/
def landingBurn (config : FlightConfig R) (thrusterLoss : Bool) (dtS : R)
    (state : FlightState R) : Option (FlightState R) := do
  let maximumThrust := config.maximumThrustN * thrustFactor thrusterLoss
  let desired ← desiredThrust config state
  let thrust ← limit desired maximumThrust
  let state ← applyThrust config dtS thrust { state with thrustN := thrust.magnitude }
  some (if state.altitudeM ≤ 0.0 then touchdown state else state)

/-- The `switch` over the phase. The phases without a burn or grid fins neither divide nor take a
root. -/
def phaseStep (config : FlightConfig R) (thrusterLoss : Bool) (dtS : R)
    (state : FlightState R) : Option (FlightState R) :=
  match state.phase with
  | .prelaunch => some (prelaunch config state)
  | .poweredAscent => poweredAscent config thrusterLoss dtS state
  | .coast => some (coast config dtS state)
  | .descent => descent config thrusterLoss dtS state
  | .landingBurn => landingBurn config thrusterLoss dtS state
  | .landed => some state

/-- `step`. -/
def step (simulation : FlightSimulation R) (dtS : R) : Option (FlightSimulation R) :=
  if ¬dtS > 0.0 ∨ ¬CMath.isfinite dtS ∨ simulation.state.phase = .landed then some simulation
  else do
    let state ← phaseStep simulation.config simulation.thrusterLoss dtS
      (beginStep dtS simulation.state)
    let state ← normalizeOrientation state
    some { simulation with state }

end Definitions

/-! ## The operations -/

variable {config : FlightConfig ℝ} {thrusterLoss : Bool} {dtS : ℝ} {state : FlightState ℝ}

lemma div_of_pos (a : ℝ) {b : ℝ} (h : 0 < b) : div a b = some (a / b) :=
  if_pos (Or.inr (by norm_num [h]))

lemma sqrt_of_nonneg {x : ℝ} (h : 0 ≤ x) : sqrt x = some (CMath.sqrt x) :=
  if_pos (by norm_num [h])

/-- A maximum with zero has a root. -/
lemma sqrt_stdMax (x : ℝ) : sqrt (stdMax 0.0 x) = some (CMath.sqrt (stdMax 0.0 x)) := by
  refine sqrt_of_nonneg ?_
  rw [stdMax_eq]
  exact le_max_of_le_left (by norm_num)

/-! ## The parts of a step -/

/-- The stopping distance is computed for an acceleration that is positive only. -/
lemma shouldStartLandingBurn_eq (hmass : 0 < state.massKg) :
    shouldStartLandingBurn config thrusterLoss state =
      some (Simulation.shouldStartLandingBurn config thrusterLoss state) := by
  unfold shouldStartLandingBurn Simulation.shouldStartLandingBurn
  split_ifs with hrising
  · rfl
  · rw [div_of_pos _ hmass]
    simp only [Option.bind_eq_bind, Option.bind_some]
    split_ifs with hweak
    · rfl
    · have hpos : 0 < 2.0 * (config.maximumThrustN * thrustFactor thrusterLoss / state.massKg -
          config.gravityMps2) := by
        norm_num at hweak ⊢
        exact hweak
      rw [div_of_pos _ hpos]
      rfl

/-- A norm that is divided by is not small. -/
lemma normalizeOrientation_eq (state : FlightState ℝ) :
    normalizeOrientation state = some (Simulation.normalizeOrientation state) := by
  unfold normalizeOrientation Simulation.normalizeOrientation
  dsimp only
  split_ifs with hsmall
  · rfl
  · have hpos : 0 < normSquared state.orientationWxyz := epsilon_pos.trans (not_le.mp hsmall)
    have hnorm : 0 < CMath.sqrt (normSquared state.orientationWxyz) := Real.sqrt_pos.mpr hpos
    rw [sqrt_of_nonneg hpos.le]
    simp only [Option.bind_eq_bind, Option.bind_some]
    rw [div_of_pos _ hnorm]
    rfl

/-- Nor is a scalar part that is divided by. -/
lemma orientationOf_eq (east north up : ℝ) :
    orientationOf east north up = some (Simulation.orientationOf east north up) := by
  unfold orientationOf Simulation.orientationOf
  rw [div_of_pos _ (by norm_num)]
  simp only [Option.bind_eq_bind, Option.bind_some]
  rw [sqrt_stdMax]
  simp only [Option.bind_some]
  split_ifs with hsmall
  · rfl
  · have hpos : 0 < 2.0 * CMath.sqrt (stdMax 0.0 ((1.0 + up) / 2.0)) :=
      mul_pos (by norm_num) (epsilon_pos.trans (not_le.mp hsmall))
    rw [div_of_pos _ hpos, div_of_pos _ hpos]
    rfl

/-- Nor is a thrust that is. -/
lemma updateOrientation_eq (thrust : Thrust ℝ) (state : FlightState ℝ) :
    updateOrientation thrust state = some (Simulation.updateOrientation thrust state) := by
  unfold updateOrientation Simulation.updateOrientation
  dsimp only
  split_ifs with hsmall
  · rfl
  · have hpos : 0 < thrust.magnitude := epsilon_pos.trans (not_le.mp hsmall)
    rw [div_of_pos _ hpos, div_of_pos _ hpos, div_of_pos _ hpos]
    simp only [Option.bind_eq_bind, Option.bind_some]
    rw [orientationOf_eq]
    rfl

/-- A burn divides by the mass. -/
lemma applyThrust_eq (thrust : Thrust ℝ) (hmass : 0 < state.massKg) :
    applyThrust config dtS thrust state =
      some (Simulation.applyThrust config dtS thrust state) := by
  unfold applyThrust Simulation.applyThrust
  rw [div_of_pos _ hmass, div_of_pos _ hmass, div_of_pos _ hmass]
  simp only [Option.bind_eq_bind, Option.bind_some]
  exact updateOrientation_eq _ _

/-- The root of the vertical thrust is that of a maximum. -/
lemma ascentThrust_eq (config : FlightConfig ℝ) (thrustN massKg : ℝ) :
    ascentThrust config thrustN massKg =
      some (Simulation.ascentThrust config thrustN massKg) := by
  unfold ascentThrust Simulation.ascentThrust
  dsimp only
  rw [sqrt_stdMax]
  rfl

/-- The altitude that is divided by is one at least. -/
lemma desiredThrust_eq (config : FlightConfig ℝ) (state : FlightState ℝ) :
    desiredThrust config state = some (Simulation.desiredThrust config state) := by
  have hpos : 0 < 2.0 * stdMax state.altitudeM 1.0 := by
    rw [stdMax_eq]
    norm_num
  unfold desiredThrust Simulation.desiredThrust
  dsimp only
  rw [div_of_pos _ hpos]
  split_ifs <;> rfl

/-- A thrust that is scaled down is longer than none. -/
lemma limit_eq (thrust : Thrust ℝ) {maximumThrust : ℝ} (h : 0 ≤ maximumThrust) :
    limit thrust maximumThrust = some (thrust.limit maximumThrust) := by
  unfold limit Thrust.limit
  dsimp only
  split_ifs with hlong
  · rw [div_of_pos _ (h.trans_lt hlong)]
    rfl
  · rfl

/-! ## The phases -/

lemma poweredAscent_eq (h : Admissible config) (hdt : 0 < dtS)
    (hmass : config.dryMassKg ≤ state.massKg) :
    poweredAscent config thrusterLoss dtS state =
      some (Simulation.poweredAscent config thrusterLoss dtS state) := by
  have hmass' : 0 < ascentMass config dtS state.massKg := by
    rw [ascentMass_eq h.massFlow_nonneg hdt.le hmass]
    exact lt_max_of_lt_left h.dryMass_pos
  have hgravity : 0 < 2.0 * config.gravityMps2 := by
    norm_num
    exact h.gravity_pos
  unfold poweredAscent Simulation.poweredAscent
  simp only [ascentThrust_eq, Option.bind_eq_bind, Option.bind_some]
  rw [applyThrust_eq _ hmass']
  simp only [Option.bind_some]
  rw [div_of_pos _ hgravity]
  rfl

lemma descent_eq (h : Admissible config) (hmass : config.dryMassKg ≤ state.massKg) :
    descent config thrusterLoss dtS state =
      some (Simulation.descent config thrusterLoss dtS state) := by
  unfold descent Simulation.descent
  dsimp only
  rw [div_of_pos _ h.gridFin_pos, div_of_pos _ h.gridFin_pos]
  simp only [Option.bind_eq_bind, Option.bind_some]
  rw [shouldStartLandingBurn_eq]
  · rfl
  · exact h.dryMass_pos.trans_le hmass

lemma landingBurn_eq (h : Admissible config) (hmass : config.dryMassKg ≤ state.massKg) :
    landingBurn config thrusterLoss dtS state =
      some (Simulation.landingBurn config thrusterLoss dtS state) := by
  have hthrust : 0 ≤ config.maximumThrustN * thrustFactor thrusterLoss := by
    rw [maximumThrust_mul_thrustFactor]
    exact (h.availableThrust_pos thrusterLoss).le
  unfold landingBurn Simulation.landingBurn
  dsimp only
  rw [desiredThrust_eq]
  simp only [Option.bind_eq_bind, Option.bind_some]
  rw [limit_eq _ hthrust]
  simp only [Option.bind_some]
  rw [applyThrust_eq]
  · rfl
  · exact h.dryMass_pos.trans_le hmass

/-! ## The step -/

/-- **Step lemma**: the `switch` divides by nothing that is zero and takes the root of nothing
that is negative, as long as the vehicle has its dry mass. -/
lemma phaseStep_eq (h : Admissible config) (hdt : 0 < dtS)
    (hmass : config.dryMassKg ≤ state.massKg) :
    phaseStep config thrusterLoss dtS state =
      some (Simulation.phaseStep config thrusterLoss dtS state) := by
  unfold phaseStep Simulation.phaseStep
  cases state.phase with
  | prelaunch => rfl
  | poweredAscent => exact poweredAscent_eq h hdt hmass
  | coast => rfl
  | descent => exact descent_eq h hmass
  | landingBurn => exact landingBurn_eq h hmass
  | landed => rfl

/-- **A step has a result**, and it is that of the simulation. -/
lemma step_eq_some {simulation : FlightSimulation ℝ} (h : Admissible config)
    (hfuelled : Fuelled config simulation) (hdt : 0 < dtS) :
    step simulation dtS = some (simulation.step dtS) := by
  obtain ⟨rfl, hmass, -⟩ := hfuelled
  unfold step FlightSimulation.step
  split_ifs
  · rfl
  · have hbegin : simulation.config.dryMassKg ≤ (beginStep dtS simulation.state).massKg := hmass
    rw [phaseStep_eq h hdt hbegin]
    simp only [Option.bind_eq_bind, Option.bind_some]
    rw [normalizeOrientation_eq]
    rfl

end FlightDeck.Simulation.Checked
