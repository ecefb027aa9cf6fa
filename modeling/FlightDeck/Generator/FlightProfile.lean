import FlightDeck.Generator.RealFlight

set_option relaxedAutoImplicit false
set_option autoImplicit false

/-!
# The profile of a flight

What each pass of the main loop does to the vertical motion, over the real numbers and with the
default configuration: one lemma a phase, from which everything about altitudes and about the end
of a flight is derived.

## Main definitions

* `flightState` — the state after so many passes.
* `Moves`, `Passes` — how the motion and the phase go on in one pass.
* `BurnDue` — when the landing burn is started.
* `coasted` — what a step of the coast moves.

## Main results

* `prelaunchStep`, `ascentStep`, `coastStep`, `descentStep`, `landingStep` — the passes of each
  phase.
* `massWithin_flightState` — the vehicle never weighs less than without propellant.
-/

namespace FlightDeck.Simulation

/-- The state after `n` passes of the main loop. -/
noncomputable def flightState (thrusterLoss : ℕ → Bool) (n : ℕ) : FlightState ℝ :=
  (FlightSimulation.flight thrusterLoss n).state

/-- The vertical motion of one pass. -/
structure Moves (accelerationMps2 : ℝ) (state next : FlightState ℝ) : Prop where
  velocity_eq : next.velocityMps = state.velocityMps + accelerationMps2 * 0.01
  altitude_eq : next.altitudeM = state.altitudeM + next.velocityMps * 0.01

/-- A pass that ends a phase on a condition. -/
structure Passes (phase : MissionPhase) (ends : Prop) (state next : FlightState ℝ) : Prop where
  of_ends : ends → next.phase = phase ∧ next.phaseTimeS = 0
  of_not_ends : ¬ends → next.phase = state.phase ∧ next.phaseTimeS = state.phaseTimeS + 0.01

/-- The landing burn is started: the vehicle falls, and the engines cannot stop it or it is low. -/
def BurnDue (thrusterLoss : Bool) (state : FlightState ℝ) : Prop :=
  let upward := availableThrust .default thrusterLoss / state.massKg - 9.80665
  state.velocityMps < 0 ∧
    (upward ≤ 0 ∨
      state.altitudeM ≤ state.velocityMps * state.velocityMps / (2.0 * upward) * 1.15)

variable {thrusterLoss : ℕ → Bool} {n : ℕ}

/-! ## One pass -/

lemma flightState_zero :
    flightState thrusterLoss 0 = { FlightState.default with massKg := 20000.0 } := rfl

/-- A pass before the landing. -/
lemma exists_flightState_succ (h : (flightState thrusterLoss n).phase ≠ .landed) :
    ∃ orientationWxyz, flightState thrusterLoss (n + 1) =
      { phaseStep .default (thrusterLoss n) kFixedStepSeconds
          (beginStep kFixedStepSeconds (flightState thrusterLoss n)) with orientationWxyz } := by
  set simulation : FlightSimulation ℝ :=
    (FlightSimulation.flight thrusterLoss n).setThrusterLoss (thrusterLoss n)
  have hconfig : simulation.config = .default := (fuelled_flight thrusterLoss n).config_eq
  have hstate : simulation.state = flightState thrusterLoss n := rfl
  have hne : simulation.state.phase ≠ .landed := h
  have hstep := FlightSimulation.step_of_ne_landed
    (show (kFixedStepSeconds : ℝ) > 0.0 by norm_num [kFixedStepSeconds]) rfl hne
  obtain ⟨orientation, heq⟩ := exists_normalizeOrientation
    (phaseStep simulation.config simulation.thrusterLoss kFixedStepSeconds
      (beginStep kFixedStepSeconds simulation.state))
  refine ⟨orientation, ?_⟩
  rw [hconfig, hstate] at heq
  show (simulation.step kFixedStepSeconds).state = _
  rw [hstep, hconfig, hstate]
  exact heq

/-- A landed vehicle stays where it is. -/
lemma flightState_succ_of_landed (h : (flightState thrusterLoss n).phase = .landed) :
    flightState thrusterLoss (n + 1) = flightState thrusterLoss n := by
  set simulation : FlightSimulation ℝ :=
    (FlightSimulation.flight thrusterLoss n).setThrusterLoss (thrusterLoss n)
  have hlanded : simulation.state.phase = .landed := h
  show (simulation.step kFixedStepSeconds).state = simulation.state
  rw [FlightSimulation.step_of_landed hlanded]

/-! ## Transitions -/

/-- What a branch of the `switch` does with the state it has moved. -/
structure Transition (phase : MissionPhase) (ends : Prop) (moved next : FlightState ℝ) : Prop where
  altitude_eq : next.altitudeM = moved.altitudeM
  velocity_eq : next.velocityMps = moved.velocityMps
  mass_eq : next.massKg = moved.massKg
  of_ends : ends → next.phase = phase ∧ next.phaseTimeS = 0
  of_not_ends : ¬ends → next.phase = moved.phase ∧ next.phaseTimeS = moved.phaseTimeS

section Transition

variable {state moved next : FlightState ℝ} {phase : MissionPhase} {ends : Prop}

lemma transition_ite {c : Prop} [Decidable c] (hc : c ↔ ends) (orientationWxyz : Fin 4 → ℝ) :
    Transition phase ends moved
      { if c then transitionTo phase moved else moved with orientationWxyz } := by
  split_ifs with h
  · exact ⟨rfl, rfl, rfl, fun _ => ⟨rfl, by norm_num [transitionTo]⟩,
      fun hends => absurd (hc.mp h) hends⟩
  · exact ⟨rfl, rfl, rfl, fun hends => absurd (hc.mpr hends) h, fun _ => ⟨rfl, rfl⟩⟩

lemma Transition.moves (h : Transition phase ends moved next) {accelerationMps2 : ℝ}
    (hmoves : Moves accelerationMps2 state moved) : Moves accelerationMps2 state next where
  velocity_eq := h.velocity_eq.trans hmoves.velocity_eq
  altitude_eq := by rw [h.altitude_eq, h.velocity_eq, hmoves.altitude_eq]

lemma Transition.passes (h : Transition phase ends moved next) (hphase : moved.phase = state.phase)
    (htime : moved.phaseTimeS = state.phaseTimeS + kFixedStepSeconds) :
    Passes phase ends state next where
  of_ends := h.of_ends
  of_not_ends hends := by
    obtain ⟨hphase', htime'⟩ := h.of_not_ends hends
    exact ⟨hphase'.trans hphase, htime'.trans htime⟩

end Transition

/-! ## Before the launch -/

/-- A pass on the ground. -/
structure PrelaunchStep (state next : FlightState ℝ) : Prop where
  altitude_eq : next.altitudeM = state.altitudeM
  velocity_eq : next.velocityMps = state.velocityMps
  mass_eq : next.massKg = state.massKg
  passes : Passes .poweredAscent (2 ≤ state.phaseTimeS + 0.01) state next

lemma prelaunchStep (h : (flightState thrusterLoss n).phase = .prelaunch) :
    PrelaunchStep (flightState thrusterLoss n) (flightState thrusterLoss (n + 1)) := by
  obtain ⟨orientation, heq⟩ := exists_flightState_succ (n := n) (by rw [h]; decide)
  set state := flightState thrusterLoss n
  set waiting : FlightState ℝ := { beginStep kFixedStepSeconds state with accelerationMps2 := 0.0 }
  have htransition : Transition .poweredAscent (2 ≤ state.phaseTimeS + 0.01) waiting
      (flightState thrusterLoss (n + 1)) := by
    rw [heq, phaseStep, show (beginStep kFixedStepSeconds state).phase = .prelaunch from h]
    refine transition_ite ?_ orientation
    norm_num [FlightConfig.default, beginStep, kFixedStepSeconds]
  exact ⟨htransition.altitude_eq, htransition.velocity_eq, htransition.mass_eq,
    htransition.passes rfl rfl⟩

/-! ## The ascent -/

/-- The acceleration of the ascent, at a given mass. -/
noncomputable def ascentAcceleration (thrusterLoss : Bool) (massKg : ℝ) : ℝ :=
  √((availableThrust .default thrusterLoss / massKg) ^ 2 - 1.05 ^ 2 - 0.21 ^ 2) - 9.80665

/-- A pass of the ascent. -/
structure AscentStep (thrusterLoss : Bool) (state next : FlightState ℝ) : Prop where
  mass_eq : next.massKg = max 15000 (state.massKg - 2)
  moves : Moves (ascentAcceleration thrusterLoss next.massKg) state next
  passes : Passes .coast (2400 ≤ next.altitudeM + next.velocityMps ^ 2 / (2 * 9.80665) ∨
    25 ≤ state.phaseTimeS + 0.01 ∨ next.massKg ≤ 15000) state next

lemma availableThrust_default (thrusterLoss : Bool) :
    availableThrust .default thrusterLoss = if thrusterLoss then 180000 else 300000 := by
  cases thrusterLoss <;> norm_num [availableThrust, FlightConfig.default]

/-- A pass of the ascent burns two kilograms, while there are any. -/
lemma ascentMass_default {massKg : ℝ} (hmass : 15000 ≤ massKg) :
    ascentMass .default kFixedStepSeconds massKg = max 15000 (massKg - 2) := by
  rw [ascentMass_eq admissible_default.massFlow_nonneg kFixedStepSeconds_pos.le
    (by norm_num [FlightConfig.default]; exact hmass)]
  norm_num [FlightConfig.default, kFixedStepSeconds]

/-- With the default configuration the lateral parts of the thrust are never clipped. -/
lemma ascentThrust_up (thrusterLoss : Bool) {massKg : ℝ} (hle : 15000 ≤ massKg)
    (hmass : massKg ≤ 20000) :
    (ascentThrust .default (availableThrust .default thrusterLoss) massKg).up / massKg - 9.80665 =
      ascentAcceleration thrusterLoss massKg := by
  have hpos : 0 < massKg := by linarith
  have hthrust : 180000 ≤ availableThrust .default thrusterLoss := by
    rw [availableThrust_default]
    split_ifs <;> norm_num
  unfold ascentThrust ascentAcceleration
  generalize availableThrust .default thrusterLoss = thrustN at hthrust ⊢
  simp only [stdMin_eq, stdMax_eq, FlightConfig.default]
  rw [min_eq_left (by linarith), min_eq_left (by linarith)]
  have hsquare : (thrustN / massKg) ^ 2 - 1.05 ^ 2 - 0.21 ^ 2 =
      (thrustN * thrustN - massKg * 1.05 * (massKg * 1.05) -
        massKg * 0.21 * (massKg * 0.21)) / massKg ^ 2 := by
    field_simp
  have hnonneg : 0 ≤ thrustN * thrustN - massKg * 1.05 * (massKg * 1.05) -
      massKg * 0.21 * (massKg * 0.21) := by
    nlinarith
  rw [hsquare, Real.sqrt_div' _ (by positivity), Real.sqrt_sq hpos.le, max_eq_right (by linarith)]
  rfl

/-- What a burn does to the vertical motion. -/
lemma moves_applyThrust (config : FlightConfig ℝ) (thrust : Thrust ℝ) (state : FlightState ℝ) :
    Moves (thrust.up / state.massKg - config.gravityMps2) state
      (applyThrust config kFixedStepSeconds thrust state) := by
  obtain ⟨orientation, heq⟩ := exists_applyThrust config kFixedStepSeconds thrust state
  rw [heq]
  exact ⟨rfl, rfl⟩

@[simp] lemma phaseTimeS_applyThrust (config : FlightConfig ℝ) (dtS : ℝ) (thrust : Thrust ℝ)
    (state : FlightState ℝ) :
    (applyThrust config dtS thrust state).phaseTimeS = state.phaseTimeS := by
  obtain ⟨orientation, heq⟩ := exists_applyThrust config dtS thrust state
  rw [heq]
  rfl

lemma ascentStep (h : (flightState thrusterLoss n).phase = .poweredAscent)
    (hmass : 15000 ≤ (flightState thrusterLoss n).massKg)
    (hmass' : (flightState thrusterLoss n).massKg ≤ 20000) :
    AscentStep (thrusterLoss n) (flightState thrusterLoss n)
      (flightState thrusterLoss (n + 1)) := by
  obtain ⟨orientation, heq⟩ := exists_flightState_succ (n := n) (by rw [h]; decide)
  set state := flightState thrusterLoss n
  set thrustN := availableThrust .default (thrusterLoss n)
  set massKg := ascentMass .default kFixedStepSeconds state.massKg
  have hspent : massKg = max 15000 (state.massKg - 2) := ascentMass_default hmass
  have hacceleration : (ascentThrust .default thrustN massKg).up / massKg - 9.80665 =
      ascentAcceleration (thrusterLoss n) massKg := by
    refine ascentThrust_up _ ?_ ?_
    · rw [hspent]
      exact le_max_left _ _
    · rw [hspent]
      exact max_le (by norm_num) (by linarith)
  set burning : FlightState ℝ := { beginStep kFixedStepSeconds state with thrustN, massKg }
  set burnt := applyThrust .default kFixedStepSeconds (ascentThrust .default thrustN massKg) burning
    with hburnt
  have hmoves : Moves (ascentAcceleration (thrusterLoss n) massKg) burning burnt :=
    hacceleration ▸ moves_applyThrust .default _ burning
  have hmassburnt : burnt.massKg = massKg := massKg_applyThrust ..
  have htime : burnt.phaseTimeS = state.phaseTimeS + 0.01 := phaseTimeS_applyThrust ..
  have hends : burnt.altitudeM + burnt.velocityMps * burnt.velocityMps / (2.0 * 9.80665) ≥ 2400.0 ∨
      burnt.phaseTimeS ≥ 25.0 ∨ burnt.massKg ≤ 15000.0 ↔
        2400 ≤ burnt.altitudeM + burnt.velocityMps ^ 2 / (2 * 9.80665) ∨
          25 ≤ state.phaseTimeS + 0.01 ∨ burnt.massKg ≤ 15000 := by
    rw [htime, sq]
    norm_num
  have htransition : Transition .coast (2400 ≤ burnt.altitudeM + burnt.velocityMps ^ 2 /
      (2 * 9.80665) ∨ 25 ≤ state.phaseTimeS + 0.01 ∨ burnt.massKg ≤ 15000) burnt
      (flightState thrusterLoss (n + 1)) := by
    rw [heq, phaseStep, show (beginStep kFixedStepSeconds state).phase = .poweredAscent from h]
    simp only [poweredAscent, maximumThrust_mul_thrustFactor]
    exact transition_ite hends orientation
  refine ⟨?_, ?_, ?_⟩
  · rw [htransition.mass_eq, hmassburnt, hspent]
  · rw [htransition.mass_eq, hmassburnt]
    exact htransition.moves ⟨hmoves.velocity_eq, hmoves.altitude_eq⟩
  · rw [htransition.mass_eq, htransition.velocity_eq, htransition.altitude_eq]
    exact htransition.passes (phase_applyThrust ..) htime

/-! ## Free fall -/

/-- A pass without thrust, in the air. -/
structure FallStep (phase : MissionPhase) (ends : FlightState ℝ → Prop)
    (state next : FlightState ℝ) : Prop where
  mass_eq : next.massKg = state.massKg
  moves : Moves (-9.80665) state next
  passes : Passes phase (ends next) state next

/-- The state that a step of the coast has moved, before its speed is checked. -/
noncomputable def coasted (config : FlightConfig ℝ) (dtS : ℝ) (state : FlightState ℝ) :
    FlightState ℝ :=
  updatePosition dtS { beginStep dtS state with
    accelerationMps2 := -config.gravityMps2
    velocityMps := state.velocityMps + -config.gravityMps2 * dtS }

/-- The coast, with any configuration and time step: it ends when the vehicle stops climbing. -/
lemma transition_coast (config : FlightConfig ℝ) (dtS : ℝ) {state : FlightState ℝ}
    (h : state.phase = .coast) (thrusterLoss : Bool) (orientationWxyz : Fin 4 → ℝ) :
    Transition .descent ((coasted config dtS state).velocityMps ≤ 0) (coasted config dtS state)
      { phaseStep config thrusterLoss dtS (beginStep dtS state) with orientationWxyz } := by
  have hends : (coasted config dtS state).velocityMps ≤ 0.0 ↔
      (coasted config dtS state).velocityMps ≤ 0 := by norm_num
  rw [phaseStep, show (beginStep dtS state).phase = .coast from h]
  exact transition_ite hends orientationWxyz

lemma coastStep (h : (flightState thrusterLoss n).phase = .coast) :
    FallStep .descent (fun next => next.velocityMps ≤ 0) (flightState thrusterLoss n)
      (flightState thrusterLoss (n + 1)) := by
  obtain ⟨orientation, heq⟩ := exists_flightState_succ (n := n) (by rw [h]; decide)
  have htransition := transition_coast .default kFixedStepSeconds h (thrusterLoss n) orientation
  rw [← heq] at htransition
  refine ⟨htransition.mass_eq, htransition.moves ⟨rfl, rfl⟩, ?_⟩
  rw [htransition.velocity_eq]
  exact htransition.passes rfl rfl

/-- The check that starts the landing burn. -/
lemma shouldStartLandingBurn_iff (thrusterLoss : Bool) (state : FlightState ℝ) :
    shouldStartLandingBurn .default thrusterLoss state = true ↔ BurnDue thrusterLoss state := by
  have hzero : (0.0 : ℝ) = 0 := by norm_num
  unfold shouldStartLandingBurn BurnDue
  simp only [maximumThrust_mul_thrustFactor, hzero]
  split_ifs with hvelocity hupward
  · simp [not_lt.mpr hvelocity]
  · exact iff_of_true rfl ⟨not_le.mp hvelocity, Or.inl hupward⟩
  · exact decide_eq_true_iff.trans
      ⟨fun hlow => ⟨not_le.mp hvelocity, Or.inr hlow⟩, fun hdue => hdue.2.resolve_left hupward⟩

lemma descentStep (h : (flightState thrusterLoss n).phase = .descent) :
    FallStep .landingBurn (BurnDue (thrusterLoss n)) (flightState thrusterLoss n)
      (flightState thrusterLoss (n + 1)) := by
  obtain ⟨orientation, heq⟩ := exists_flightState_succ (n := n) (by rw [h]; decide)
  set state := flightState thrusterLoss n
  -- the grid fins steer the lateral motion only
  obtain ⟨fallen, hswitch, hmass, hmoves, hphase, htime⟩ : ∃ fallen : FlightState ℝ,
      descent .default (thrusterLoss n) kFixedStepSeconds (beginStep kFixedStepSeconds state) =
        (if shouldStartLandingBurn .default (thrusterLoss n) fallen then
          transitionTo .landingBurn fallen else fallen) ∧
        fallen.massKg = state.massKg ∧ Moves (-9.80665) state fallen ∧
        fallen.phase = state.phase ∧ fallen.phaseTimeS = state.phaseTimeS + kFixedStepSeconds :=
    ⟨_, rfl, rfl, ⟨rfl, rfl⟩, rfl, rfl⟩
  have htransition : Transition .landingBurn (BurnDue (thrusterLoss n) fallen) fallen
      (flightState thrusterLoss (n + 1)) := by
    rw [heq, phaseStep, show (beginStep kFixedStepSeconds state).phase = .descent from h]
    simp only [hswitch]
    exact transition_ite (shouldStartLandingBurn_iff _ _) orientation
  refine ⟨htransition.mass_eq.trans hmass, htransition.moves hmoves, ?_⟩
  unfold BurnDue
  rw [htransition.velocity_eq, htransition.altitude_eq, htransition.mass_eq]
  exact htransition.passes hphase htime

/-! ## The landing burn -/

/-- A pass of the landing burn: it touches the ground, or slows the vehicle down by no more than
its engines and the law of the landing controller allow. -/
structure LandingStep (state next : FlightState ℝ) : Prop where
  mass_eq : next.massKg = state.massKg
  lands_or : next.phase = .landed ∧ next.altitudeM = 0 ∨
    next.phase = .landingBurn ∧ 0 < next.altitudeM ∧
      ∃ accelerationMps2, Moves accelerationMps2 state next ∧ accelerationMps2 ≤ 10.2 ∧
        accelerationMps2 ≤ 0.525 * state.velocityMps ^ 2

/-- The landing controller asks for no more than the square of the speed calls for. -/
lemma desiredThrust_up (state : FlightState ℝ) (hmass : 0 < state.massKg) :
    0 < (desiredThrust .default state).up ∧ (desiredThrust .default state).up / state.massKg ≤
      9.80665 + 0.525 * state.velocityMps ^ 2 := by
  have hlow : 1 ≤ max state.altitudeM 1 := le_max_right _ _
  set desired := if state.velocityMps < 0 then
    state.velocityMps * state.velocityMps / (2 * max state.altitudeM 1) * 1.05 else 0 with hdesired
  have hup : (desiredThrust .default state).up = state.massKg * (9.80665 + desired) := by
    unfold desiredThrust
    simp only [stdMax_eq, hdesired, FlightConfig.default]
    norm_num
  have hnonneg : 0 ≤ desired := by
    rw [hdesired]
    split_ifs
    · have := mul_self_nonneg state.velocityMps
      positivity
    · exact le_rfl
  have hle : desired ≤ 0.525 * state.velocityMps ^ 2 := by
    rw [hdesired]
    split_ifs
    · have hsq : 0 ≤ state.velocityMps * state.velocityMps := mul_self_nonneg _
      have hdiv : state.velocityMps * state.velocityMps / (2 * max state.altitudeM 1) ≤
          state.velocityMps * state.velocityMps / 2 :=
        div_le_div_of_nonneg_left hsq (by norm_num) (by linarith)
      linarith
    · positivity
  rw [hup, mul_div_cancel_left₀ _ hmass.ne']
  exact ⟨mul_pos hmass (by linarith), by linarith⟩

/-- The vertical part is no more than the whole. -/
lemma Thrust.up_le_magnitude (thrust : Thrust ℝ) : thrust.up ≤ thrust.magnitude := by
  rw [Thrust.magnitude_eq]
  exact Real.le_sqrt_of_sq_le (by nlinarith [sq_nonneg thrust.east, sq_nonneg thrust.north])

/-- Scaling down does not raise the vertical part. -/
lemma Thrust.limit_up_le {thrust : Thrust ℝ} {maximumThrust : ℝ} (hup : 0 < thrust.up) :
    (thrust.limit maximumThrust).up ≤ thrust.up := by
  unfold Thrust.limit
  dsimp only
  split_ifs with hlong
  · have hpos : 0 < thrust.magnitude := hup.trans_le thrust.up_le_magnitude
    have hscale : maximumThrust / thrust.magnitude ≤ 1 := (div_le_one hpos).mpr hlong.le
    exact mul_le_of_le_one_right hup.le hscale
  · exact le_rfl

lemma landingStep (h : (flightState thrusterLoss n).phase = .landingBurn)
    (hmass : 15000 ≤ (flightState thrusterLoss n).massKg) :
    LandingStep (flightState thrusterLoss n) (flightState thrusterLoss (n + 1)) := by
  obtain ⟨orientation, heq⟩ := exists_flightState_succ (n := n) (by rw [h]; decide)
  set state := flightState thrusterLoss n
  set thrust := (desiredThrust .default (beginStep kFixedStepSeconds state)).limit
    (availableThrust .default (thrusterLoss n))
  set burnt := applyThrust .default kFixedStepSeconds thrust
    { beginStep kFixedStepSeconds state with thrustN := thrust.magnitude }
  have hnext : flightState thrusterLoss (n + 1) =
      { if burnt.altitudeM ≤ 0.0 then touchdown burnt else burnt with
        orientationWxyz := orientation } := by
    rw [heq, phaseStep, show (beginStep kFixedStepSeconds state).phase = .landingBurn from h]
    simp only [landingBurn, maximumThrust_mul_thrustFactor]
    rfl
  have hmoves : Moves (thrust.up / state.massKg - 9.80665) state burnt := by
    obtain ⟨hvelocity, haltitude⟩ := moves_applyThrust .default thrust
      { beginStep kFixedStepSeconds state with thrustN := thrust.magnitude }
    exact ⟨hvelocity, haltitude⟩
  have hmassburnt : burnt.massKg = state.massKg := massKg_applyThrust ..
  have hpos : 0 < state.massKg := by linarith
  obtain ⟨hup, hcalled⟩ := desiredThrust_up (beginStep kFixedStepSeconds state) hpos
  have hgiven : thrust.up / state.massKg ≤ 9.80665 + 0.525 * state.velocityMps ^ 2 :=
    (div_le_div_of_nonneg_right (Thrust.limit_up_le hup) hpos.le).trans hcalled
  have hengines : thrust.up / state.massKg ≤ 20 := by
    have hthrust : thrust.up ≤ 300000 := by
      refine (thrust.up_le_magnitude.trans (magnitude_limit_le _
        (admissible_default.availableThrust_pos _).le)).trans ?_
      rw [availableThrust_default]
      split_ifs <;> norm_num
    rw [div_le_iff₀ hpos]
    linarith
  rw [hnext]
  split_ifs with hground
  · exact ⟨hmassburnt, Or.inl ⟨rfl, by norm_num [touchdown, transitionTo]⟩⟩
  · refine ⟨hmassburnt, Or.inr ⟨(phase_applyThrust ..).trans h, ?_, _,
      ⟨hmoves.velocity_eq, hmoves.altitude_eq⟩, ?_, ?_⟩⟩
    · norm_num at hground
      exact hground
    · linarith
    · linarith

/-! ## Mass -/

/-- The vehicle weighs no more than when it started, and no less than without propellant. -/
lemma massWithin_flightState (thrusterLoss : ℕ → Bool) (n : ℕ) :
    15000 ≤ (flightState thrusterLoss n).massKg ∧ (flightState thrusterLoss n).massKg ≤ 20000 := by
  have hlow : ∀ n, 15000 ≤ (flightState thrusterLoss n).massKg := fun n => by
    have hmass := (fuelled_flight thrusterLoss n).dryMass_le
    norm_num [FlightConfig.default] at hmass
    exact hmass
  refine ⟨hlow n, ?_⟩
  induction n with
  | zero => norm_num [flightState_zero]
  | succ n ih =>
    cases hphase : (flightState thrusterLoss n).phase with
    | prelaunch => rwa [(prelaunchStep hphase).mass_eq]
    | poweredAscent =>
      rw [(ascentStep hphase (hlow n) ih).mass_eq]
      exact max_le (by norm_num) (by linarith)
    | coast => rwa [(coastStep hphase).mass_eq]
    | descent => rwa [(descentStep hphase).mass_eq]
    | landingBurn => rwa [(landingStep hphase (hlow n)).mass_eq]
    | landed => rwa [flightState_succ_of_landed hphase]

end FlightDeck.Simulation
