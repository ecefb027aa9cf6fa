import FlightDeck.Generator.FlightPhases
import FlightDeck.Generator.Simulator
import Mathlib.Analysis.SpecialFunctions.Complex.Arg

set_option relaxedAutoImplicit false
set_option autoImplicit false

/-!
# The flight over the real numbers

What the simulation computes when no operation rounds. The thrust is produced in two ways: the
ascent runs the engines at what they can give, clips the two lateral parts and leaves the rest to
the vertical one; the landing burn asks for a thrust and scales it down when it is too long. In
both the thrust reported is the length of the force that moves the vehicle.

## Main definitions

* `Admissible` — the configurations considered.
* `availableThrust`, `force` — what the engines can give, and what the accelerations tell of it.
* `FlightSimulation.flight` — the steps of the main loop, for any scalars.

## Main results

* `phaseStep_thrust` — what one step does to mass and thrust.
* `thrust_limits` — thrust limits and balance of forces after any steps, and the packets of the
  main loop.
-/

/-- `<cmath>` without rounding. -/
noncomputable instance : CMath ℝ where
  sqrt := Real.sqrt
  hypot x y := √(x ^ 2 + y ^ 2)
  atan2 y x := Complex.arg ⟨x, y⟩
  isfinite _ := true

namespace FlightDeck.Simulation

open FloatRounding

/-! ## The library functions -/

lemma stdMin_eq (a b : ℝ) : stdMin a b = min a b := by
  unfold stdMin
  split_ifs with h
  · exact (min_eq_right h.le).symm
  · exact (min_eq_left (not_lt.mp h)).symm

lemma stdMax_eq (a b : ℝ) : stdMax a b = max a b := by
  unfold stdMax
  split_ifs with h
  · exact (max_eq_right h.le).symm
  · exact (max_eq_left (not_lt.mp h)).symm

lemma thrustFactor_eq (thrusterLoss : Bool) :
    (thrustFactor thrusterLoss : ℝ) = if thrusterLoss then 0.6 else 1 := by
  cases thrusterLoss <;> norm_num [thrustFactor]

lemma Thrust.magnitude_eq (thrust : Thrust ℝ) :
    thrust.magnitude = √(thrust.east ^ 2 + thrust.north ^ 2 + thrust.up ^ 2) := by
  show √(√(thrust.east ^ 2 + thrust.north ^ 2) ^ 2 + thrust.up ^ 2) = _
  rw [Real.sq_sqrt (by positivity)]

lemma Thrust.magnitude_nonneg (thrust : Thrust ℝ) : 0 ≤ thrust.magnitude := by
  rw [Thrust.magnitude_eq]
  exact Real.sqrt_nonneg _

/-! ## Thrust -/

/-- A configuration with positive gravity, dry mass, thrust and grid-fin limit, that starts with
its dry mass at least, and gives neither a mass flow nor an acceleration below zero. -/
structure Admissible (config : FlightConfig ℝ) : Prop where
  gravity_pos : 0 < config.gravityMps2
  dryMass_pos : 0 < config.dryMassKg
  maximumThrust_pos : 0 < config.maximumThrustN
  gridFin_pos : 0 < config.maximumGridFinAccelerationMps2
  dryMass_le : config.dryMassKg ≤ config.initialMassKg
  massFlow_nonneg : 0 ≤ config.ascentMassFlowKgps
  ascentHorizontal_nonneg : 0 ≤ config.ascentHorizontalAccelerationMps2
  ascentCrossrange_nonneg : 0 ≤ config.ascentCrossrangeAccelerationMps2

/-- What the engines can give. -/
noncomputable def availableThrust (config : FlightConfig ℝ) (thrusterLoss : Bool) : ℝ :=
  config.maximumThrustN * if thrusterLoss then 0.6 else 1

/-- The length of the force that the accelerations tell of, beyond the weight. -/
noncomputable def force (config : FlightConfig ℝ) (state : FlightState ℝ) : ℝ :=
  √((state.massKg * state.horizontalAccelerationMps2) ^ 2 +
    (state.massKg * state.crossrangeAccelerationMps2) ^ 2 +
    (state.massKg * (state.accelerationMps2 + config.gravityMps2)) ^ 2)

variable {config : FlightConfig ℝ} {thrusterLoss : Bool} {dtS : ℝ} {state : FlightState ℝ}

lemma maximumThrust_mul_thrustFactor (config : FlightConfig ℝ) (thrusterLoss : Bool) :
    config.maximumThrustN * thrustFactor thrusterLoss = availableThrust config thrusterLoss := by
  rw [availableThrust, thrustFactor_eq]

lemma Admissible.availableThrust_pos (h : Admissible config) (thrusterLoss : Bool) :
    0 < availableThrust config thrusterLoss := by
  have := h.maximumThrust_pos
  unfold availableThrust
  split_ifs <;> positivity

/-- A step of the ascent spends its propellant, down to the dry mass. -/
lemma ascentMass_eq (hflow : 0 ≤ config.ascentMassFlowKgps) (hdt : 0 ≤ dtS) {massKg : ℝ}
    (hmass : config.dryMassKg ≤ massKg) :
    ascentMass config dtS massKg =
      max config.dryMassKg (massKg - config.ascentMassFlowKgps * dtS) := by
  have hused : 0 ≤ config.ascentMassFlowKgps * dtS := mul_nonneg hflow hdt
  simp only [ascentMass, stdMin_eq, stdMax_eq]
  norm_num
  rw [max_eq_right (le_min (by linarith) hused)]
  rcases le_total (massKg - config.dryMassKg) (config.ascentMassFlowKgps * dtS) with hle | hle
  · rw [min_eq_left hle, max_eq_left (by linarith), sub_sub_cancel]
  · rw [min_eq_right hle, max_eq_right (by linarith)]

/-- The lateral parts of the ascent thrust leave something for the vertical one. -/
lemma magnitude_ascentThrust (h : Admissible config) {thrustN massKg : ℝ} (hthrust : 0 ≤ thrustN)
    (hmass : 0 ≤ massKg) : (ascentThrust config thrustN massKg).magnitude = thrustN := by
  have heast := mul_nonneg hmass h.ascentHorizontal_nonneg
  have hnorth := mul_nonneg hmass h.ascentCrossrange_nonneg
  rw [Thrust.magnitude_eq]
  unfold ascentThrust
  simp only [stdMin_eq, stdMax_eq]
  set east := min (massKg * config.ascentHorizontalAccelerationMps2) (thrustN * 0.25) with heast'
  set north := min (massKg * config.ascentCrossrangeAccelerationMps2) (thrustN * 0.1) with hnorth'
  have heast₀ : 0 ≤ east := le_min heast (by positivity)
  have heast₁ : east ≤ thrustN * 0.25 := min_le_right _ _
  have hnorth₀ : 0 ≤ north := le_min hnorth (by positivity)
  have hnorth₁ : north ≤ thrustN * 0.1 := min_le_right _ _
  have hrest : 0 ≤ thrustN * thrustN - east * east - north * north := by
    have := mul_self_le_mul_self heast₀ heast₁
    have := mul_self_le_mul_self hnorth₀ hnorth₁
    nlinarith [mul_self_nonneg thrustN]
  have hsqrt : CMath.sqrt (max 0.0 (thrustN * thrustN - east * east - north * north)) ^ 2 =
      thrustN * thrustN - east * east - north * north := by
    norm_num
    rw [max_eq_right hrest]
    exact Real.sq_sqrt hrest
  rw [hsqrt, show east ^ 2 + north ^ 2 + (thrustN * thrustN - east * east - north * north) =
    thrustN ^ 2 by ring, Real.sqrt_sq hthrust]

/-- A thrust that is scaled down is as long as it may be. -/
lemma magnitude_limit_le (thrust : Thrust ℝ) {maximumThrust : ℝ} (h : 0 ≤ maximumThrust) :
    (thrust.limit maximumThrust).magnitude ≤ maximumThrust := by
  unfold Thrust.limit
  dsimp only
  split_ifs with hlong
  · have hpos : 0 < thrust.magnitude := h.trans_lt hlong
    have hscale : 0 ≤ maximumThrust / thrust.magnitude := by positivity
    rw [Thrust.magnitude_eq]
    have hfactor : (thrust.east * (maximumThrust / thrust.magnitude)) ^ 2 +
        (thrust.north * (maximumThrust / thrust.magnitude)) ^ 2 +
        (thrust.up * (maximumThrust / thrust.magnitude)) ^ 2 =
        (thrust.east ^ 2 + thrust.north ^ 2 + thrust.up ^ 2) *
          (maximumThrust / thrust.magnitude) ^ 2 := by ring
    rw [hfactor, Real.sqrt_mul (by positivity), Real.sqrt_sq hscale, ← Thrust.magnitude_eq,
      mul_div_cancel₀ _ hpos.ne']
  · exact not_lt.mp hlong

/-! ## One step -/

/-- The accelerations of a burn are those of its thrust. -/
lemma force_applyThrust (config : FlightConfig ℝ) (dtS : ℝ) (thrust : Thrust ℝ)
    (hmass : 0 < state.massKg) :
    force config (applyThrust config dtS thrust state) = thrust.magnitude := by
  obtain ⟨orientation, heq⟩ := exists_applyThrust config dtS thrust state
  rw [heq, Thrust.magnitude_eq]
  simp only [force, updatePosition, updateVelocity, sub_add_cancel, mul_div_cancel₀ _ hmass.ne']

/-- What a step leaves behind: no less than the dry mass, no more thrust than the engines can
give, and after a step of a burn that does not land the force that goes with the thrust. -/
structure ThrustLimited (config : FlightConfig ℝ) (thrusterLoss : Bool) (phase : MissionPhase)
    (next : FlightState ℝ) : Prop where
  dryMass_le : config.dryMassKg ≤ next.massKg
  thrust_nonneg : 0 ≤ next.thrustN
  thrust_le : next.thrustN ≤ availableThrust config thrusterLoss
  force_eq : phase = .poweredAscent ∨ phase = .landingBurn → next.phase ≠ .landed →
    force config next = next.thrustN
  engines_off : next.phase = .landed → next.thrustN = 0

/-- A step without thrust. -/
lemma ThrustLimited.of_thrust_eq_zero {phase : MissionPhase} (h : Admissible config)
    (hmass : config.dryMassKg ≤ state.massKg) (hthrust : state.thrustN = 0)
    (hphase : phase = .poweredAscent ∨ phase = .landingBurn → state.phase = .landed) :
    ThrustLimited config thrusterLoss phase state where
  dryMass_le := hmass
  thrust_nonneg := hthrust.ge
  thrust_le := hthrust.trans_le (h.availableThrust_pos thrusterLoss).le
  force_eq hburn hne := absurd (hphase hburn) hne
  engines_off _ := hthrust

/-- The ascent runs the engines at what they can give. -/
lemma thrustLimited_poweredAscent (h : Admissible config) (hdt : 0 < dtS)
    (hmass : config.dryMassKg ≤ state.massKg) (hphase : state.phase = .poweredAscent) :
    ThrustLimited config thrusterLoss .poweredAscent
      (poweredAscent config thrusterLoss dtS state) := by
  have hpos := h.availableThrust_pos thrusterLoss
  simp only [poweredAscent, maximumThrust_mul_thrustFactor]
  set thrust := ascentThrust config (availableThrust config thrusterLoss)
    (ascentMass config dtS state.massKg)
  set burning : FlightState ℝ := { state with
    thrustN := availableThrust config thrusterLoss
    massKg := ascentMass config dtS state.massKg } with hburning
  have hmass' : config.dryMassKg ≤ burning.massKg := by
    rw [hburning, ascentMass_eq h.massFlow_nonneg hdt.le hmass]
    exact le_max_left _ _
  have hforce : force config (applyThrust config dtS thrust burning) =
      (applyThrust config dtS thrust burning).thrustN := by
    rw [force_applyThrust config dtS thrust (h.dryMass_pos.trans_le hmass'), thrustN_applyThrust]
    exact magnitude_ascentThrust h hpos.le (h.dryMass_pos.le.trans hmass')
  have hlimited : ThrustLimited config thrusterLoss .poweredAscent
      (applyThrust config dtS thrust burning) := by
    constructor
    case dryMass_le =>
      rw [massKg_applyThrust]
      exact hmass'
    case thrust_nonneg =>
      rw [thrustN_applyThrust]
      exact hpos.le
    case thrust_le => rw [thrustN_applyThrust]
    case force_eq =>
      intro _ _
      exact hforce
    case engines_off =>
      intro hlanded
      rw [phase_applyThrust] at hlanded
      exact absurd (hphase.symm.trans hlanded) (by decide)
  split_ifs
  · exact { hlimited with
      force_eq := fun _ _ => hforce
      engines_off := fun hlanded => absurd hlanded (by simp [transitionTo]) }
  · exact hlimited

/-- The landing burn scales down what it asks for. -/
lemma thrustLimited_landingBurn (h : Admissible config) (hmass : config.dryMassKg ≤ state.massKg)
    (hphase : state.phase = .landingBurn) :
    ThrustLimited config thrusterLoss .landingBurn
      (landingBurn config thrusterLoss dtS state) := by
  simp only [landingBurn, maximumThrust_mul_thrustFactor]
  set thrust := (desiredThrust config state).limit (availableThrust config thrusterLoss)
  have hle : thrust.magnitude ≤ availableThrust config thrusterLoss :=
    magnitude_limit_le _ (h.availableThrust_pos thrusterLoss).le
  split_ifs
  · refine .of_thrust_eq_zero h ?_ (by norm_num [touchdown, transitionTo]) (fun _ => rfl)
    simpa [touchdown, transitionTo] using hmass
  · constructor
    case dryMass_le =>
      rw [massKg_applyThrust]
      exact hmass
    case thrust_nonneg =>
      rw [thrustN_applyThrust]
      exact thrust.magnitude_nonneg
    case thrust_le =>
      rw [thrustN_applyThrust]
      exact hle
    case force_eq =>
      intro _ _
      rw [thrustN_applyThrust]
      exact force_applyThrust config dtS thrust (h.dryMass_pos.trans_le hmass)
    case engines_off =>
      intro hlanded
      rw [phase_applyThrust] at hlanded
      exact absurd (hphase.symm.trans hlanded) (by decide)

/-- **Step lemma**: the `switch`, from a state whose thrust has been reset. -/
lemma phaseStep_thrust (h : Admissible config) (hdt : 0 < dtS)
    (hmass : config.dryMassKg ≤ state.massKg) (hthrust : state.thrustN = 0) :
    ThrustLimited config thrusterLoss state.phase (phaseStep config thrusterLoss dtS state) := by
  unfold phaseStep
  cases hphase : state.phase with
  | prelaunch =>
    refine .of_thrust_eq_zero h ?_ ?_ (by simp)
    · simp only [prelaunch]
      split_ifs <;> exact hmass
    · simp only [prelaunch]
      split_ifs <;> exact hthrust
  | poweredAscent => exact thrustLimited_poweredAscent h hdt hmass hphase
  | coast =>
    refine .of_thrust_eq_zero h ?_ ?_ (by simp)
    · simp only [coast]
      split_ifs <;> exact hmass
    · simp only [coast]
      split_ifs <;> exact hthrust
  | descent =>
    refine .of_thrust_eq_zero h ?_ ?_ (by simp)
    · simp only [descent]
      split_ifs <;> exact hmass
    · simp only [descent]
      split_ifs <;> exact hthrust
  | landingBurn => exact thrustLimited_landingBurn h hmass hphase
  | landed => exact .of_thrust_eq_zero h hmass hthrust fun _ => hphase

/-! ## Runs -/

/-- What holds between two calls. -/
structure Fuelled (config : FlightConfig ℝ) (simulation : FlightSimulation ℝ) : Prop where
  config_eq : simulation.config = config
  dryMass_le : config.dryMassKg ≤ simulation.state.massKg
  engines_off : simulation.state.phase = .landed → simulation.state.thrustN = 0

/-- A step made with a proper time step. -/
lemma ThrustLimited.step {simulation : FlightSimulation ℝ} (h : Admissible config)
    (hfuelled : Fuelled config simulation) (hdt : 0 < dtS) :
    ThrustLimited config simulation.thrusterLoss simulation.state.phase
      (simulation.step dtS).state := by
  rcases eq_or_ne simulation.state.phase .landed with hlanded | hne
  · rw [FlightSimulation.step_of_landed hlanded]
    exact .of_thrust_eq_zero h hfuelled.dryMass_le (hfuelled.engines_off hlanded) fun _ => hlanded
  · obtain ⟨orientation, heq⟩ := exists_normalizeOrientation
      (phaseStep simulation.config simulation.thrusterLoss dtS (beginStep dtS simulation.state))
    rw [FlightSimulation.step_of_ne_landed (by norm_num [hdt]) rfl hne, heq, hfuelled.config_eq]
    have hbegin : ThrustLimited config simulation.thrusterLoss
        (beginStep dtS simulation.state).phase (phaseStep config simulation.thrusterLoss dtS
          (beginStep dtS simulation.state)) :=
      phaseStep_thrust h hdt hfuelled.dryMass_le (by norm_num [beginStep])
    exact { hbegin with }

/-- The configuration stays what it is. -/
lemma config_step (simulation : FlightSimulation ℝ) (dtS : ℝ) :
    (simulation.step dtS).config = simulation.config := by
  unfold FlightSimulation.step
  split_ifs <;> rfl

/-- A call with a positive time step, or a setting of the fault. -/
lemma Fuelled.call {simulation : FlightSimulation ℝ} (h : Admissible config)
    (hfuelled : Fuelled config simulation) {call : Call ℝ}
    (hcall : ∀ dtS, call = .step dtS → 0 < dtS) : Fuelled config (simulation.call call) := by
  cases call with
  | setThrusterLoss enabled =>
    exact ⟨hfuelled.config_eq, hfuelled.dryMass_le, hfuelled.engines_off⟩
  | step dtS =>
    have hlimited := ThrustLimited.step h hfuelled (hcall dtS rfl)
    exact ⟨(config_step _ _).trans hfuelled.config_eq, hlimited.dryMass_le, hlimited.engines_off⟩

/-- A new simulation has its dry mass at least. -/
lemma fuelled_new (h : Admissible config) : Fuelled config (.new config) := by
  refine ⟨rfl, h.dryMass_le, fun hlanded => ?_⟩
  exact absurd (show MissionPhase.prelaunch = .landed from hlanded) (by decide)

/-- **Run lemma**: what every positive step keeps, any calls with positive steps keep. -/
lemma Fuelled.run_induction {P : FlightState ℝ → Prop} {simulation : FlightSimulation ℝ}
    (h : Admissible config) (hfuelled : Fuelled config simulation) (hstate : P simulation.state)
    (hstep : ∀ simulation dtS, Fuelled config simulation → 0 < dtS → P simulation.state →
      P (simulation.step dtS).state)
    {calls : List (Call ℝ)} (hcalls : ∀ dtS, .step dtS ∈ calls → 0 < dtS) :
    Fuelled config (simulation.run calls) ∧ P (simulation.run calls).state := by
  refine FlightSimulation.run_induction
    (P := fun simulation => Fuelled config simulation ∧ P simulation.state)
    ⟨hfuelled, hstate⟩ ?_
  rintro simulation ⟨hfuelled, hstate⟩ call hmem
  refine ⟨hfuelled.call h fun dtS heq => hcalls dtS (heq ▸ hmem), ?_⟩
  cases call with
  | setThrusterLoss enabled => exact hstate
  | step dtS => exact hstep simulation dtS hfuelled (hcalls dtS hmem) hstate

/-- Steps with positive time steps, and any settings of the fault. -/
lemma fuelled_run (h : Admissible config) {calls : List (Call ℝ)}
    (hcalls : ∀ dtS, .step dtS ∈ calls → 0 < dtS) :
    Fuelled config ((FlightSimulation.new config).run calls) :=
  ((fuelled_new h).run_induction (P := fun _ => True) h trivial (fun _ _ _ _ _ => trivial)
    hcalls).1

/-! ## The main loop -/

section Loop

variable {R : Type} [OfScientific R] [Div R] [Add R] [Sub R] [Mul R] [Neg R] [LT R] [LE R]
  [DecidableLT R] [DecidableLE R] [CMath R]

/-- The simulation after `n` passes of the main loop, when the fault is set as given before each
step. -/
def FlightSimulation.flight (thrusterLoss : ℕ → Bool) : ℕ → FlightSimulation R
  | 0 => .new .default
  | n + 1 => ((flight thrusterLoss n).setThrusterLoss (thrusterLoss n)).step kFixedStepSeconds

/-- The calls that the main loop makes in `n` passes. -/
def loopCalls (thrusterLoss : ℕ → Bool) (n : ℕ) : List (Call R) :=
  (List.range n).flatMap fun i => [.setThrusterLoss (thrusterLoss i), .step kFixedStepSeconds]

/-- The passes are these calls. -/
lemma flight_eq_run (thrusterLoss : ℕ → Bool) (n : ℕ) :
    (FlightSimulation.flight thrusterLoss n : FlightSimulation R) =
      (FlightSimulation.new .default).run (loopCalls thrusterLoss n) := by
  induction n with
  | zero => rfl
  | succ n ih =>
    rw [FlightSimulation.flight, ih, loopCalls, loopCalls, List.range_succ, List.flatMap_append]
    unfold FlightSimulation.run
    rw [List.foldl_append]
    rfl

/-- `state.thrust_n / 300'000.0 * 100.0`. -/
def thrustPercentage (state : FlightState R) : R := state.thrustN / 300000.0 * 100.0

end Loop

/-- The fault settings that the loop makes from the flags it reads. -/
def thrusterLossOf (faultFlags : ℕ → BitVec 32) (n : ℕ) : Bool :=
  faultFlags n &&& Generator.kThrusterLoss ≠ 0

/-- The loop of the generator makes these passes, with doubles. -/
lemma simulation_after [Libm] (faultFlags : ℕ → BitVec 32) (n : ℕ) :
    (Generator.Simulator.after faultFlags n).simulation =
      FlightSimulation.flight (thrusterLossOf faultFlags) n := by
  induction n with
  | zero => rfl
  | succ n ih =>
    rw [FlightSimulation.flight, ← ih]
    rfl

/-- The default configuration is admissible. -/
lemma admissible_default : Admissible .default := by
  constructor <;> norm_num [FlightConfig.default]

/-- The time step is positive. -/
lemma kFixedStepSeconds_pos : 0 < (kFixedStepSeconds : ℝ) := by norm_num [kFixedStepSeconds]

/-- The main loop makes positive steps. -/
lemma fuelled_flight (thrusterLoss : ℕ → Bool) (n : ℕ) :
    Fuelled .default (FlightSimulation.flight thrusterLoss n) := by
  rw [flight_eq_run]
  refine fuelled_run admissible_default fun dtS hmem => ?_
  obtain ⟨i, -, hmem⟩ := List.mem_flatMap.mp hmem
  obtain rfl : dtS = kFixedStepSeconds := by simpa using hmem
  exact kFixedStepSeconds_pos

/-- A percentage that a packet may carry, with the fault or without. -/
structure IsPercentage (thrusterLoss : Bool) (percentage : ℝ) : Prop where
  nonneg : 0 ≤ percentage
  le_hundred : percentage ≤ 100
  le_sixty : thrusterLoss = true → percentage ≤ 60

/-- What the main loop computes from the thrust. -/
lemma isPercentage_thrustPercentage (thrusterLoss : ℕ → Bool) (n : ℕ) :
    IsPercentage (thrusterLoss n)
      (thrustPercentage
        (FlightSimulation.flight thrusterLoss (n + 1) : FlightSimulation ℝ).state) := by
  obtain ⟨hconfig, hmass, hoff⟩ := fuelled_flight thrusterLoss n
  have hlimited := ThrustLimited.step admissible_default
    (show Fuelled .default ((FlightSimulation.flight thrusterLoss n).setThrusterLoss
      (thrusterLoss n)) from ⟨hconfig, hmass, hoff⟩) kFixedStepSeconds_pos
  set next := (FlightSimulation.flight thrusterLoss (n + 1) : FlightSimulation ℝ).state
  have hle : next.thrustN ≤ 300000 * if thrusterLoss n then 0.6 else 1 := by
    refine hlimited.thrust_le.trans_eq ?_
    rw [availableThrust, show (FlightConfig.default : FlightConfig ℝ).maximumThrustN = 300000 by
      norm_num [FlightConfig.default]]
    rfl
  have hnonneg : 0 ≤ next.thrustN := hlimited.thrust_nonneg
  have hfull : (300000 : ℝ) * (if thrusterLoss n then 0.6 else 1) ≤ 300000 := by
    split_ifs <;> norm_num
  unfold thrustPercentage
  norm_num
  refine ⟨by positivity, by linarith, fun hloss => ?_⟩
  rw [if_pos hloss] at hle
  linarith

/-- Rounding to a `float` keeps it one. -/
lemma IsPercentage.rounds {thrusterLoss : Bool} {percentage : ℝ} {f : Float.Model.UnpackedFloat}
    (h : IsPercentage thrusterLoss percentage) (hrounds : Rounds .binary32 percentage f) :
    IsPercentage thrusterLoss (value f) where
  nonneg := hrounds.ge 0 (onGrid_zero _) h.nonneg
  le_hundred := hrounds.le 100 ⟨100, 0, by decide, minExponent_nonpos _, by norm_num⟩ h.le_hundred
  le_sixty hloss :=
    hrounds.le 60 ⟨60, 0, by decide, minExponent_nonpos _, by norm_num⟩ (h.le_sixty hloss)

/-! ## The first second of burning -/

/-- The default flight after two seconds on the pad. -/
noncomputable def lit : FlightSimulation ℝ := (FlightSimulation.new .default).run [.step 2.0]

/-- It is about to leave the pad. -/
lemma lit_spec : lit.config = .default ∧ lit.state.phase = .poweredAscent ∧
    lit.state.phaseTimeS = 0 ∧ lit.state.massKg = 20000 ∧ lit.state.altitudeM = 0 ∧
    lit.state.velocityMps = 0 := by
  let started : FlightState ℝ := beginStep 2.0 (FlightSimulation.new .default).state
  have hstep : lit.state = normalizeOrientation (phaseStep .default false 2.0 started) :=
    congrArg FlightSimulation.state
      (FlightSimulation.step_of_ne_landed (by norm_num) rfl (by decide))
  have hignited : phaseStep .default false 2.0 started =
      transitionTo .poweredAscent { started with accelerationMps2 := 0.0 } :=
    if_pos (by norm_num [started, beginStep, FlightSimulation.new, FlightState.default,
      FlightConfig.default])
  obtain ⟨orientation, heq⟩ := exists_normalizeOrientation (phaseStep .default false 2.0 started)
  rw [hstep, heq, hignited]
  refine ⟨config_step _ _, rfl, ?_, ?_, ?_, ?_⟩ <;>
    norm_num [transitionTo, started, beginStep, FlightSimulation.new, FlightState.default,
      FlightConfig.default]

/-- A thruster is lost at that moment. -/
noncomputable def oneLost : FlightSimulation ℝ :=
  (FlightSimulation.new .default).run [.step 2.0, .setThrusterLoss true]

lemma oneLost_spec : oneLost.config = .default ∧ oneLost.thrusterLoss = true ∧
    oneLost.state.phase = .poweredAscent ∧ oneLost.state.phaseTimeS = 0 ∧
    oneLost.state.massKg = 20000 ∧ oneLost.state.altitudeM = 0 ∧
    oneLost.state.velocityMps = 0 :=
  ⟨lit_spec.1, rfl, lit_spec.2⟩

/-- The first second of burning: the engines give all they can, and do not lift the vehicle. -/
lemma oneLost_step : (oneLost.step 1).state.phase = .poweredAscent ∧
    (oneLost.step 1).state.thrustN = 180000 ∧ (oneLost.step 1).state.massKg = 19800 ∧
    0 < (oneLost.step 1).state.gimbalCommandDeg 0 := by
  obtain ⟨hconfig, hloss, hphase, htime, hmass, haltitude, hvelocity⟩ := oneLost_spec
  set begun := beginStep 1 oneLost.state with hbegun
  have hspent : ascentMass .default 1 begun.massKg = (19800 : ℝ) := by
    rw [show begun.massKg = 20000 from hmass, ascentMass_eq (by norm_num [FlightConfig.default])
      zero_le_one (by norm_num [FlightConfig.default])]
    norm_num [FlightConfig.default]
  have hthrust : (FlightConfig.default : FlightConfig ℝ).maximumThrustN * thrustFactor true =
      180000 := by
    norm_num [FlightConfig.default, thrustFactor]
  set thrust : Thrust ℝ := ascentThrust .default 180000 19800 with hdef
  have heast : thrust.east = 20790 := by
    rw [hdef]
    norm_num [ascentThrust, stdMin_eq, FlightConfig.default]
  have hup : 0 ≤ thrust.up := Real.sqrt_nonneg _
  have hup' : thrust.up ≤ 180000 := by
    have hmagnitude : thrust.magnitude = 180000 :=
      magnitude_ascentThrust admissible_default (by norm_num) (by norm_num)
    rw [Thrust.magnitude_eq] at hmagnitude
    calc thrust.up ≤ √(thrust.east ^ 2 + thrust.north ^ 2 + thrust.up ^ 2) :=
          Real.le_sqrt_of_sq_le (by nlinarith [sq_nonneg thrust.east, sq_nonneg thrust.north])
      _ = 180000 := hmagnitude
  obtain ⟨turned, hmoved⟩ := exists_applyThrust .default 1 thrust
    { begun with thrustN := 180000, massKg := 19800 }
  have hstep : phaseStep .default true 1 begun =
      applyThrust .default 1 thrust { begun with thrustN := 180000, massKg := 19800 } := by
    have hascent : begun.phase = .poweredAscent := hphase
    have hswitch : phaseStep .default true 1 begun = poweredAscent .default true 1 begun := by
      unfold phaseStep
      rw [hascent]
    rw [hswitch]
    simp only [poweredAscent, hspent, hthrust, ← hdef]
    refine if_neg ?_
    rw [hmoved]
    norm_num [updatePosition, updateVelocity, hbegun, beginStep, htime, haltitude, hvelocity,
      FlightConfig.default]
    set climb := thrust.up / 19800 - 9.80665 with hclimb
    have hle : climb ≤ 0 := by
      rw [hclimb, sub_nonpos, div_le_iff₀ (by norm_num)]
      linarith
    have hge : -10 ≤ climb := by
      have : 0 ≤ thrust.up / 19800 := by positivity
      linarith
    nlinarith
  obtain ⟨orientation, heq⟩ := exists_normalizeOrientation (phaseStep .default true 1 begun)
  rw [FlightSimulation.step_of_ne_landed (by norm_num) rfl (by rw [hphase]; decide), hconfig,
    hloss, heq, hstep, hmoved]
  refine ⟨hphase, rfl, rfl, ?_⟩
  have hangle : 0 < Complex.arg ⟨thrust.up, thrust.east⟩ := by
    rw [lt_iff_le_and_ne, Complex.arg_nonneg_iff, Ne, eq_comm, Complex.arg_eq_zero_iff]
    norm_num [heast]
  exact mul_pos hangle (by norm_num [kRadiansToDegrees])
/-- **Thrust limits and balance of forces.** In an admissible configuration, after any calls with
positive time steps: a further step ends with a thrust that is not negative and no more than the
engines could give in it, and if it is a step of a burn that does not land, the thrust is the
length of the force that the accelerations tell of.

In the main loop, with the default configuration, the thrust percentage of every pass lies between
0 and 100, and is at most 60 if the flags sent with it show the fault; and so does and is every
`float` that it may be rounded to. -/
theorem thrust_limits (h : Admissible config) {calls : List (Call ℝ)}
    (hcalls : ∀ dtS, .step dtS ∈ calls → 0 < dtS) (hdt : 0 < dtS) :
    (let simulation := (FlightSimulation.new config).run calls
      let next := (simulation.step dtS).state
      (0 ≤ next.thrustN ∧
          next.thrustN ≤ config.maximumThrustN * if simulation.thrusterLoss then 0.6 else 1) ∧
        (simulation.state.phase = .poweredAscent ∨ simulation.state.phase = .landingBurn →
          next.phase ≠ .landed →
            √((next.massKg * next.horizontalAccelerationMps2) ^ 2 +
              (next.massKg * next.crossrangeAccelerationMps2) ^ 2 +
              (next.massKg * (next.accelerationMps2 + config.gravityMps2)) ^ 2) =
                next.thrustN)) ∧
      ∀ (faultFlags : ℕ → BitVec 32) (n : ℕ),
        let thrusterLoss := thrusterLossOf faultFlags
        let percentage : ℝ :=
          thrustPercentage (FlightSimulation.flight thrusterLoss (n + 1)).state
        IsPercentage (thrusterLoss n) percentage ∧
          ∀ f, Rounds .binary32 percentage f → IsPercentage (thrusterLoss n) (value f) := by
  refine ⟨?_, fun faultFlags n => ?_⟩
  · have hlimited := ThrustLimited.step h (fuelled_run h hcalls) hdt
    exact ⟨⟨hlimited.thrust_nonneg, hlimited.thrust_le⟩, hlimited.force_eq⟩
  · have hpercentage := isPercentage_thrustPercentage (thrusterLossOf faultFlags) n
    exact ⟨hpercentage, fun f hrounds => hpercentage.rounds hrounds⟩

/-- A step of the ascent with a thruster lost: the limit is reached, and the forces balance. -/
theorem thrust_limits_oneLost :
    oneLost.state.phase = .poweredAscent ∧ (oneLost.step 1).state.thrustN = 180000 ∧
      (oneLost.step 1).state.thrustN ≤ 300000 * 0.6 ∧
      force .default (oneLost.step 1).state = 180000 := by
  obtain ⟨-, hloss, hphase, -⟩ := oneLost_spec
  obtain ⟨hnext, hthrust, -, -⟩ := oneLost_step
  have hcalls : ∀ dtS, .step dtS ∈ [Call.step (2.0 : ℝ), .setThrusterLoss true] → 0 < dtS := by
    intro dtS hmem
    obtain rfl : dtS = 2.0 := by simpa using hmem
    norm_num
  obtain ⟨⟨-, hle⟩, hbalance⟩ := (thrust_limits admissible_default hcalls one_pos).1
  have hlimit : (FlightConfig.default : FlightConfig ℝ).maximumThrustN *
      (if oneLost.thrusterLoss then 0.6 else 1) = 300000 * 0.6 := by
    rw [hloss, if_pos rfl]
    norm_num [FlightConfig.default]
  have hairborne : (oneLost.step 1).state.phase ≠ .landed := by
    rw [hnext]
    decide
  exact ⟨hphase, hthrust, hle.trans_eq hlimit,
    (hbalance (Or.inl hphase) hairborne).trans hthrust⟩

end FlightDeck.Simulation
