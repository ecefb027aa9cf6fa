import Mathlib.Data.Fin.VecNotation
import Mathlib.Data.List.OfFn

set_option relaxedAutoImplicit false
set_option autoImplicit false

/-!
# The flight simulation

`FlightSimulation` of `generator/src/flight_simulation.cpp`: the state of the vehicle and `step`,
which advances it by one time step. The arithmetic is that of a type of scalars `R` with the
operators of the language and the functions of `<cmath>`; for the generator it is `double`.

## Main definitions

* `CMath` — the functions of `<cmath>` that the simulation calls.
* `FlightDeck.Simulation.FlightConfig`, `FlightDeck.Simulation.FlightState` — the two records.
* `FlightDeck.Simulation.FlightSimulation.step` — one time step.
-/

/-- The functions of `<cmath>` on a type of scalars. -/
class CMath (R : Type) where
  /-- `std::sqrt`. -/
  sqrt : R → R
  /-- `std::hypot`. -/
  hypot : R → R → R
  /-- `std::atan2`. -/
  atan2 : R → R → R
  /-- `std::isfinite`. -/
  isfinite : R → Bool

namespace FlightDeck.Simulation

/-! ## Data -/

/-- `enum class MissionPhase : std::uint8_t`. -/
inductive MissionPhase
  | prelaunch
  | poweredAscent
  | coast
  | descent
  | landingBurn
  | landed
  deriving DecidableEq, Repr

/-- `struct FlightConfig`. -/
structure FlightConfig (R : Type) where
  /-- `gravity_mps2`. -/
  gravityMps2 : R
  /-- `initial_mass_kg`. -/
  initialMassKg : R
  /-- `dry_mass_kg`. -/
  dryMassKg : R
  /-- `maximum_thrust_n`. -/
  maximumThrustN : R
  /-- `ascent_mass_flow_kgps`. -/
  ascentMassFlowKgps : R
  /-- `prelaunch_duration_s`. -/
  prelaunchDurationS : R
  /-- `ascent_burn_duration_s`. -/
  ascentBurnDurationS : R
  /-- `landing_burn_margin`. -/
  landingBurnMargin : R
  /-- `target_apogee_m`. -/
  targetApogeeM : R
  /-- `target_downrange_m`. -/
  targetDownrangeM : R
  /-- `target_crossrange_m`. -/
  targetCrossrangeM : R
  /-- `ascent_horizontal_acceleration_mps2`. -/
  ascentHorizontalAccelerationMps2 : R
  /-- `ascent_crossrange_acceleration_mps2`. -/
  ascentCrossrangeAccelerationMps2 : R
  /-- `maximum_grid_fin_acceleration_mps2`. -/
  maximumGridFinAccelerationMps2 : R

/-- `struct FlightState`. -/
structure FlightState (R : Type) where
  /-- `phase`. -/
  phase : MissionPhase
  /-- `simulation_time_s`. -/
  simulationTimeS : R
  /-- `phase_time_s`. -/
  phaseTimeS : R
  /-- `altitude_m`. -/
  altitudeM : R
  /-- `downrange_m`. -/
  downrangeM : R
  /-- `crossrange_m`. -/
  crossrangeM : R
  /-- `velocity_mps`, upwards. -/
  velocityMps : R
  /-- `horizontal_velocity_mps`, to the east. -/
  horizontalVelocityMps : R
  /-- `crossrange_velocity_mps`, to the north. -/
  crossrangeVelocityMps : R
  /-- `acceleration_mps2`. -/
  accelerationMps2 : R
  /-- `horizontal_acceleration_mps2`. -/
  horizontalAccelerationMps2 : R
  /-- `crossrange_acceleration_mps2`. -/
  crossrangeAccelerationMps2 : R
  /-- `mass_kg`. -/
  massKg : R
  /-- `thrust_n`. -/
  thrustN : R
  /-- `gimbal_command_deg`. -/
  gimbalCommandDeg : Fin 2 → R
  /-- `grid_fin_command_deg`. -/
  gridFinCommandDeg : Fin 2 → R
  /-- `orientation_wxyz`. -/
  orientationWxyz : Fin 4 → R

/-- The thrust of one step, by its components. -/
structure Thrust (R : Type) where
  /-- `thrust_east_n`. -/
  east : R
  /-- `thrust_north_n`. -/
  north : R
  /-- `thrust_up_n`. -/
  up : R

/-- `FlightSimulation`, by its members. -/
structure FlightSimulation (R : Type) where
  /-- `config_`. -/
  config : FlightConfig R
  /-- `state_`. -/
  state : FlightState R
  /-- `thruster_loss_`. -/
  thrusterLoss : Bool := false

variable {R : Type} [OfScientific R]

/-- The default member initializers of `FlightConfig`. -/
def FlightConfig.default : FlightConfig R where
  gravityMps2 := 9.80665
  initialMassKg := 20000.0
  dryMassKg := 15000.0
  maximumThrustN := 300000.0
  ascentMassFlowKgps := 200.0
  prelaunchDurationS := 2.0
  ascentBurnDurationS := 25.0
  landingBurnMargin := 1.15
  targetApogeeM := 2400.0
  targetDownrangeM := 1000.0
  targetCrossrangeM := 200.0
  ascentHorizontalAccelerationMps2 := 1.05
  ascentCrossrangeAccelerationMps2 := 0.21
  maximumGridFinAccelerationMps2 := 0.35

/-- The default member initializers of `FlightState`. -/
def FlightState.default : FlightState R where
  phase := .prelaunch
  simulationTimeS := 0.0
  phaseTimeS := 0.0
  altitudeM := 0.0
  downrangeM := 0.0
  crossrangeM := 0.0
  velocityMps := 0.0
  horizontalVelocityMps := 0.0
  crossrangeVelocityMps := 0.0
  accelerationMps2 := 0.0
  horizontalAccelerationMps2 := 0.0
  crossrangeAccelerationMps2 := 0.0
  massKg := 0.0
  thrustN := 0.0
  gimbalCommandDeg := ![0.0, 0.0]
  gridFinCommandDeg := ![0.0, 0.0]
  orientationWxyz := ![1.0, 0.0, 0.0, 0.0]

/-- `FlightSimulation(config)`. -/
def FlightSimulation.new (config : FlightConfig R) : FlightSimulation R where
  config
  state := { FlightState.default with massKg := config.initialMassKg }

/-- `set_thruster_loss`. -/
def FlightSimulation.setThrusterLoss (simulation : FlightSimulation R) (enabled : Bool) :
    FlightSimulation R :=
  { simulation with thrusterLoss := enabled }

/-- `kFixedStepSeconds`. -/
def kFixedStepSeconds : R := 0.01

/-- `kMaximumGridFinDeflectionDeg`. -/
def kMaximumGridFinDeflectionDeg : R := 20.0

/-- `transition_to`. -/
def transitionTo (next : MissionPhase) (state : FlightState R) : FlightState R :=
  { state with
    phase := next
    phaseTimeS := 0.0
    gimbalCommandDeg :=
      if next ≠ .poweredAscent ∧ next ≠ .landingBurn then ![0.0, 0.0]
      else state.gimbalCommandDeg
    gridFinCommandDeg :=
      if next ≠ .descent then ![0.0, 0.0] else state.gridFinCommandDeg }

/-- The factor that a thruster loss leaves of the thrust. -/
def thrustFactor (thrusterLoss : Bool) : R := if thrusterLoss then 0.6 else 1.0

/-! ## Library functions -/

section Order

variable [LT R] [DecidableLT R]

/-- `std::min`. -/
def stdMin (a b : R) : R := if b < a then b else a

/-- `std::max`. -/
def stdMax (a b : R) : R := if a < b then b else a

/-- `std::clamp`. -/
def stdClamp (value low high : R) : R :=
  if value < low then low else if high < value then high else value

end Order

variable [Div R]

/-- `kRadiansToDegrees`. -/
def kRadiansToDegrees : R := 180.0 / 3.14159265358979323846

/-- `std::numeric_limits<double>::epsilon()`, that is `2 ^ -52`. -/
def epsilon : R := 1.0 / 4503599627370496.0

/-! ## The parts of a step -/

variable [Add R] [Sub R] [Mul R] [Neg R] [LT R] [LE R] [DecidableLT R] [DecidableLE R] [CMath R]

open CMath

/-- `should_start_landing_burn`. -/
def shouldStartLandingBurn (config : FlightConfig R) (thrusterLoss : Bool)
    (state : FlightState R) : Bool :=
  if state.velocityMps ≥ 0.0 then false
  else
    let maximumUpwardAcceleration :=
      config.maximumThrustN * thrustFactor thrusterLoss / state.massKg - config.gravityMps2
    if maximumUpwardAcceleration ≤ 0.0 then true
    else
      let stoppingDistance :=
        state.velocityMps * state.velocityMps / (2.0 * maximumUpwardAcceleration)
      state.altitudeM ≤ stoppingDistance * config.landingBurnMargin

/-- The squared norm of the attitude quaternion, as `normalize_orientation` sums it up. -/
def normSquared (orientation : Fin 4 → R) : R :=
  (List.ofFn orientation).foldl (fun sum component => sum + component * component) 0.0

/-- `normalize_orientation`. -/
def normalizeOrientation (state : FlightState R) : FlightState R :=
  let normSquared := normSquared state.orientationWxyz
  if normSquared ≤ epsilon then { state with orientationWxyz := ![1.0, 0.0, 0.0, 0.0] }
  else
    let inverseNorm := 1.0 / sqrt normSquared
    { state with orientationWxyz := fun i => state.orientationWxyz i * inverseNorm }

/-- `std::hypot(std::hypot(east, north), up)`. -/
def Thrust.magnitude (thrust : Thrust R) : R := hypot (hypot thrust.east thrust.north) thrust.up

/-- The quaternion that turns the body axis to a thrust direction. -/
def orientationOf (east north up : R) : Fin 4 → R :=
  let scalar := sqrt (stdMax 0.0 ((1.0 + up) / 2.0))
  if scalar ≤ epsilon then ![0.0, 1.0, 0.0, 0.0]
  else ![scalar, -north / (2.0 * scalar), east / (2.0 * scalar), 0.0]

/-- `update_orientation`. -/
def updateOrientation (thrust : Thrust R) (state : FlightState R) : FlightState R :=
  let magnitude := thrust.magnitude
  if magnitude ≤ epsilon then state
  else
    { state with
      orientationWxyz :=
        orientationOf (thrust.east / magnitude) (thrust.north / magnitude)
          (thrust.up / magnitude) }

/-- The three statements that update the velocities. -/
def updateVelocity (dtS : R) (state : FlightState R) : FlightState R :=
  { state with
    horizontalVelocityMps :=
      state.horizontalVelocityMps + state.horizontalAccelerationMps2 * dtS
    crossrangeVelocityMps :=
      state.crossrangeVelocityMps + state.crossrangeAccelerationMps2 * dtS
    velocityMps := state.velocityMps + state.accelerationMps2 * dtS }

/-- The three statements that update the position. -/
def updatePosition (dtS : R) (state : FlightState R) : FlightState R :=
  { state with
    downrangeM := state.downrangeM + state.horizontalVelocityMps * dtS
    crossrangeM := state.crossrangeM + state.crossrangeVelocityMps * dtS
    altitudeM := state.altitudeM + state.velocityMps * dtS }

/-- What both burns do with their thrust: gimbal, accelerations, motion and attitude. -/
def applyThrust (config : FlightConfig R) (dtS : R) (thrust : Thrust R)
    (state : FlightState R) : FlightState R :=
  let state := { state with
    gimbalCommandDeg := ![atan2 thrust.east thrust.up * kRadiansToDegrees,
      atan2 thrust.north thrust.up * kRadiansToDegrees]
    horizontalAccelerationMps2 := thrust.east / state.massKg
    crossrangeAccelerationMps2 := thrust.north / state.massKg
    accelerationMps2 := thrust.up / state.massKg - config.gravityMps2 }
  updateOrientation thrust (updatePosition dtS (updateVelocity dtS state))

/-! ## The phases -/

/-- `MissionPhase::prelaunch`. -/
def prelaunch (config : FlightConfig R) (state : FlightState R) : FlightState R :=
  let state := { state with accelerationMps2 := 0.0 }
  if state.phaseTimeS ≥ config.prelaunchDurationS then transitionTo .poweredAscent state
  else state

/-- The mass after the propellant of one ascent step is spent. -/
def ascentMass (config : FlightConfig R) (dtS massKg : R) : R :=
  let propellantAvailable := massKg - config.dryMassKg
  let propellantUsed := stdMin propellantAvailable (config.ascentMassFlowKgps * dtS)
  massKg - stdMax 0.0 propellantUsed

/-- The thrust of an ascent step. -/
def ascentThrust (config : FlightConfig R) (thrustN massKg : R) : Thrust R :=
  let thrustEastN := stdMin (massKg * config.ascentHorizontalAccelerationMps2) (thrustN * 0.25)
  let thrustNorthN := stdMin (massKg * config.ascentCrossrangeAccelerationMps2) (thrustN * 0.1)
  let thrustUpN := sqrt (stdMax 0.0
    (thrustN * thrustN - thrustEastN * thrustEastN - thrustNorthN * thrustNorthN))
  ⟨thrustEastN, thrustNorthN, thrustUpN⟩

/-- `MissionPhase::powered_ascent`. -/
def poweredAscent (config : FlightConfig R) (thrusterLoss : Bool) (dtS : R)
    (state : FlightState R) : FlightState R :=
  let thrustN := config.maximumThrustN * thrustFactor thrusterLoss
  let massKg := ascentMass config dtS state.massKg
  let state := applyThrust config dtS (ascentThrust config thrustN massKg)
    { state with thrustN, massKg }
  let predictedBallisticApogee :=
    state.altitudeM + state.velocityMps * state.velocityMps / (2.0 * config.gravityMps2)
  if predictedBallisticApogee ≥ config.targetApogeeM ∨
      state.phaseTimeS ≥ config.ascentBurnDurationS ∨ state.massKg ≤ config.dryMassKg then
    transitionTo .coast state
  else state

/-- `MissionPhase::coast`. -/
def coast (config : FlightConfig R) (dtS : R) (state : FlightState R) : FlightState R :=
  let state := { state with accelerationMps2 := -config.gravityMps2 }
  let state := { state with velocityMps := state.velocityMps + state.accelerationMps2 * dtS }
  let state := updatePosition dtS state
  if state.velocityMps ≤ 0.0 then transitionTo .descent state else state

/-- The grid-fin acceleration along one axis. -/
def gridFinAcceleration (config : FlightConfig R) (target position velocity : R) : R :=
  stdClamp ((target - position) * 0.0008 - velocity * 0.018)
    (-config.maximumGridFinAccelerationMps2) config.maximumGridFinAccelerationMps2

/-- `MissionPhase::descent`. -/
def descent (config : FlightConfig R) (thrusterLoss : Bool) (dtS : R) (state : FlightState R) :
    FlightState R :=
  let horizontalAccelerationMps2 := gridFinAcceleration config config.targetDownrangeM
    state.downrangeM state.horizontalVelocityMps
  let crossrangeAccelerationMps2 := gridFinAcceleration config config.targetCrossrangeM
    state.crossrangeM state.crossrangeVelocityMps
  let state := { state with
    accelerationMps2 := -config.gravityMps2
    horizontalAccelerationMps2
    crossrangeAccelerationMps2
    gridFinCommandDeg :=
      ![horizontalAccelerationMps2 / config.maximumGridFinAccelerationMps2 *
          kMaximumGridFinDeflectionDeg,
        crossrangeAccelerationMps2 / config.maximumGridFinAccelerationMps2 *
          kMaximumGridFinDeflectionDeg] }
  let state := updatePosition dtS (updateVelocity dtS state)
  if shouldStartLandingBurn config thrusterLoss state then transitionTo .landingBurn state
  else state

/-- The acceleration along one axis that brings the vehicle to the target. -/
def desiredAcceleration (target position velocity : R) : R :=
  stdClamp ((target - position) * 0.08 - velocity * 0.57) (-4.0) 4.0

/-- The thrust that the landing burn asks for. -/
def desiredThrust (config : FlightConfig R) (state : FlightState R) : Thrust R :=
  let safeAltitude := stdMax state.altitudeM 1.0
  let desiredUpwardAcceleration :=
    if state.velocityMps < 0.0 then
      state.velocityMps * state.velocityMps / (2.0 * safeAltitude) * 1.05
    else 0.0
  let desiredHorizontalAcceleration :=
    desiredAcceleration config.targetDownrangeM state.downrangeM state.horizontalVelocityMps
  let desiredCrossrangeAcceleration :=
    desiredAcceleration config.targetCrossrangeM state.crossrangeM state.crossrangeVelocityMps
  ⟨state.massKg * desiredHorizontalAcceleration, state.massKg * desiredCrossrangeAcceleration,
    state.massKg * (config.gravityMps2 + desiredUpwardAcceleration)⟩

/-- A thrust scaled down to what the engines can give. -/
def Thrust.limit (thrust : Thrust R) (maximumThrust : R) : Thrust R :=
  let requestedThrust := thrust.magnitude
  if requestedThrust > maximumThrust then
    let scale := maximumThrust / requestedThrust
    ⟨thrust.east * scale, thrust.north * scale, thrust.up * scale⟩
  else thrust

/-- The statements of the touchdown. -/
def touchdown (state : FlightState R) : FlightState R :=
  transitionTo .landed { state with
    altitudeM := 0.0
    velocityMps := 0.0
    horizontalVelocityMps := 0.0
    crossrangeVelocityMps := 0.0
    accelerationMps2 := 0.0
    horizontalAccelerationMps2 := 0.0
    crossrangeAccelerationMps2 := 0.0
    thrustN := 0.0 }

/-- `MissionPhase::landing_burn`. -/
def landingBurn (config : FlightConfig R) (thrusterLoss : Bool) (dtS : R)
    (state : FlightState R) : FlightState R :=
  let maximumThrust := config.maximumThrustN * thrustFactor thrusterLoss
  let thrust := (desiredThrust config state).limit maximumThrust
  let state := applyThrust config dtS thrust { state with thrustN := thrust.magnitude }
  if state.altitudeM ≤ 0.0 then touchdown state else state

/-! ## The step -/

/-- The statements before the `switch`. -/
def beginStep (dtS : R) (state : FlightState R) : FlightState R :=
  { state with
    simulationTimeS := state.simulationTimeS + dtS
    phaseTimeS := state.phaseTimeS + dtS
    thrustN := 0.0
    horizontalAccelerationMps2 := 0.0
    crossrangeAccelerationMps2 := 0.0
    gimbalCommandDeg := ![0.0, 0.0]
    gridFinCommandDeg := ![0.0, 0.0] }

/-- The `switch` over the phase. -/
def phaseStep (config : FlightConfig R) (thrusterLoss : Bool) (dtS : R)
    (state : FlightState R) : FlightState R :=
  match state.phase with
  | .prelaunch => prelaunch config state
  | .poweredAscent => poweredAscent config thrusterLoss dtS state
  | .coast => coast config dtS state
  | .descent => descent config thrusterLoss dtS state
  | .landingBurn => landingBurn config thrusterLoss dtS state
  | .landed => state

/-- `step`. -/
def FlightSimulation.step (simulation : FlightSimulation R) (dtS : R) : FlightSimulation R :=
  if ¬dtS > 0.0 ∨ ¬isfinite dtS ∨ simulation.state.phase = .landed then simulation
  else
    { simulation with
      state := normalizeOrientation
        (phaseStep simulation.config simulation.thrusterLoss dtS
          (beginStep dtS simulation.state)) }

/-! ## The clock -/

omit [Sub R] [Neg R] [LT R] [DecidableLT R] in
/-- The attitude has no part in the clock. -/
@[simp] lemma simulationTimeS_normalizeOrientation (state : FlightState R) :
    (normalizeOrientation state).simulationTimeS = state.simulationTimeS := by
  simp only [normalizeOrientation]
  split_ifs <;> rfl

@[simp] lemma simulationTimeS_applyThrust (config : FlightConfig R) (dtS : R)
    (thrust : Thrust R) (state : FlightState R) :
    (applyThrust config dtS thrust state).simulationTimeS = state.simulationTimeS := by
  simp only [applyThrust, updateOrientation]
  split_ifs <;> rfl

/-- The `switch` over the phase leaves the clock alone. -/
@[simp] lemma simulationTimeS_phaseStep (config : FlightConfig R) (thrusterLoss : Bool) (dtS : R)
    (state : FlightState R) :
    (phaseStep config thrusterLoss dtS state).simulationTimeS = state.simulationTimeS := by
  unfold phaseStep
  cases state.phase with
  | prelaunch =>
    simp only [prelaunch]
    split_ifs <;> rfl
  | poweredAscent =>
    simp only [poweredAscent]
    split_ifs
    · exact simulationTimeS_applyThrust _ _ _ _
    · exact simulationTimeS_applyThrust _ _ _ _
  | coast =>
    simp only [coast]
    split_ifs <;> rfl
  | descent =>
    simp only [descent]
    split_ifs <;> rfl
  | landingBurn =>
    simp only [landingBurn]
    split_ifs
    · exact simulationTimeS_applyThrust _ _ _ _
    · exact simulationTimeS_applyThrust _ _ _ _
  | landed => rfl

/-- A step with a proper time step, before the landing. -/
lemma FlightSimulation.step_of_ne_landed {simulation : FlightSimulation R} {dtS : R}
    (hpos : dtS > 0.0) (hfinite : isfinite dtS = true) (h : simulation.state.phase ≠ .landed) :
    simulation.step dtS =
      { simulation with
        state := normalizeOrientation
          (phaseStep simulation.config simulation.thrusterLoss dtS
            (beginStep dtS simulation.state)) } := by
  unfold FlightSimulation.step
  rw [if_neg]
  rintro (hdt | hdt | hphase)
  · exact hdt hpos
  · exact hdt hfinite
  · exact h hphase

end FlightDeck.Simulation
