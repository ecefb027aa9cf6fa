import FlightDeck.Generator.FlightSimulation

set_option relaxedAutoImplicit false
set_option autoImplicit false

/-!
# The phases of a flight

A flight passes through its phases in order and stays where it has landed. Nothing here depends on
the arithmetic: the scalars are any type with the operators of the language.

## Main definitions

* `Call`, `FlightSimulation.run` — any calls of `step` and `set_thruster_loss`.
* `MissionPhase.next` — the order of the phases.
* `CommandsFollowPhase` — which commands may be nonzero in a phase.
* `AtRest` — a vehicle that stands on the ground.

## Main results

* `phaseStep_phase` — the `switch` goes on by one phase at most.
* `commandsFollowPhase_phaseStep` — every branch of it resets the commands of the other phases.
* `FlightSimulation.run_induction` — what every call keeps, any calls keep.
* `run_phases` — any calls, from a new simulation.
-/

namespace FlightDeck.Simulation

/-- A call of one of the two methods that change a simulation. -/
inductive Call (R : Type) where
  /-- `step(dt_s)`. -/
  | step (dtS : R)
  /-- `set_thruster_loss(enabled)`. -/
  | setThrusterLoss (enabled : Bool)

/-- The phase that may follow. -/
def MissionPhase.next : MissionPhase → Option MissionPhase
  | .prelaunch => some .poweredAscent
  | .poweredAscent => some .coast
  | .coast => some .descent
  | .descent => some .landingBurn
  | .landingBurn => some .landed
  | .landed => none

variable {R : Type} [OfScientific R]

/-- The gimbal is used in the two burns only, the grid fins in the descent only. -/
structure CommandsFollowPhase (state : FlightState R) : Prop where
  /-- Without thrust the gimbal is centred. -/
  gimbal : state.phase ≠ .poweredAscent → state.phase ≠ .landingBurn →
    state.gimbalCommandDeg = ![0.0, 0.0]
  /-- Outside of the descent the grid fins are. -/
  gridFin : state.phase ≠ .descent → state.gridFinCommandDeg = ![0.0, 0.0]

/-- The vehicle stands on the ground with its engines off. -/
structure AtRest (state : FlightState R) : Prop where
  altitudeM : state.altitudeM = 0.0
  velocityMps : state.velocityMps = 0.0
  horizontalVelocityMps : state.horizontalVelocityMps = 0.0
  crossrangeVelocityMps : state.crossrangeVelocityMps = 0.0
  accelerationMps2 : state.accelerationMps2 = 0.0
  horizontalAccelerationMps2 : state.horizontalAccelerationMps2 = 0.0
  crossrangeAccelerationMps2 : state.crossrangeAccelerationMps2 = 0.0
  thrustN : state.thrustN = 0.0
  gimbalCommandDeg : state.gimbalCommandDeg = ![0.0, 0.0]
  gridFinCommandDeg : state.gridFinCommandDeg = ![0.0, 0.0]

/-! ## What the parts of a step leave alone -/

/-- A transition clears the commands that the next phase does not use. -/
lemma commandsFollowPhase_transitionTo (next : MissionPhase) (state : FlightState R) :
    CommandsFollowPhase (transitionTo next state) where
  gimbal hascent hburn := if_pos ⟨hascent, hburn⟩
  gridFin hdescent := if_pos hdescent

/-- The commands in a state that a phase may leave by a transition. -/
lemma CommandsFollowPhase.ite {state : FlightState R} {next : MissionPhase} {c : Prop}
    [Decidable c] (h : CommandsFollowPhase state) :
    CommandsFollowPhase (if c then transitionTo next state else state) := by
  split_ifs
  · exact commandsFollowPhase_transitionTo next state
  · exact h

/-- A phase that may end goes on or is followed by the next one. -/
lemma phase_ite {state : FlightState R} {phase next : MissionPhase} {c : Prop} [Decidable c]
    (hphase : state.phase = phase) (hnext : phase.next = some next) :
    (if c then transitionTo next state else state).phase = phase ∨
      phase.next = some (if c then transitionTo next state else state).phase := by
  split_ifs
  · exact Or.inr hnext
  · exact Or.inl hphase

section Frames

variable [Div R] [Add R] [Sub R] [Mul R] [Neg R] [LT R] [LE R] [DecidableLT R] [DecidableLE R]
  [CMath R]

omit [Sub R] [Neg R] [LT R] [DecidableLT R] in
/-- `normalize_orientation` changes the attitude only. -/
lemma exists_normalizeOrientation (state : FlightState R) :
    ∃ orientationWxyz, normalizeOrientation state = { state with orientationWxyz } := by
  simp only [normalizeOrientation]
  split_ifs
  · exact ⟨_, rfl⟩
  · exact ⟨_, rfl⟩

omit [Sub R] [DecidableLE R] in
/-- `update_orientation` changes the attitude only. -/
lemma exists_updateOrientation [DecidableLE R] (thrust : Thrust R) (state : FlightState R) :
    ∃ orientationWxyz, updateOrientation thrust state = { state with orientationWxyz } := by
  simp only [updateOrientation]
  split_ifs
  · exact ⟨state.orientationWxyz, rfl⟩
  · exact ⟨_, rfl⟩

/-- A burn moves the vehicle and turns it. -/
lemma exists_applyThrust (config : FlightConfig R) (dtS : R) (thrust : Thrust R)
    (state : FlightState R) :
    ∃ orientationWxyz, applyThrust config dtS thrust state =
      { updatePosition dtS (updateVelocity dtS { state with
          gimbalCommandDeg := ![CMath.atan2 thrust.east thrust.up * kRadiansToDegrees,
            CMath.atan2 thrust.north thrust.up * kRadiansToDegrees]
          horizontalAccelerationMps2 := thrust.east / state.massKg
          crossrangeAccelerationMps2 := thrust.north / state.massKg
          accelerationMps2 := thrust.up / state.massKg - config.gravityMps2 }) with
        orientationWxyz } :=
  exists_updateOrientation thrust _

@[simp] lemma phase_applyThrust (config : FlightConfig R) (dtS : R) (thrust : Thrust R)
    (state : FlightState R) : (applyThrust config dtS thrust state).phase = state.phase := by
  obtain ⟨orientation, heq⟩ := exists_applyThrust config dtS thrust state
  rw [heq]
  rfl

@[simp] lemma gridFinCommandDeg_applyThrust (config : FlightConfig R) (dtS : R)
    (thrust : Thrust R) (state : FlightState R) :
    (applyThrust config dtS thrust state).gridFinCommandDeg = state.gridFinCommandDeg := by
  obtain ⟨orientation, heq⟩ := exists_applyThrust config dtS thrust state
  rw [heq]
  rfl

@[simp] lemma massKg_applyThrust (config : FlightConfig R) (dtS : R) (thrust : Thrust R)
    (state : FlightState R) : (applyThrust config dtS thrust state).massKg = state.massKg := by
  obtain ⟨orientation, heq⟩ := exists_applyThrust config dtS thrust state
  rw [heq]
  rfl

@[simp] lemma thrustN_applyThrust (config : FlightConfig R) (dtS : R) (thrust : Thrust R)
    (state : FlightState R) : (applyThrust config dtS thrust state).thrustN = state.thrustN := by
  obtain ⟨orientation, heq⟩ := exists_applyThrust config dtS thrust state
  rw [heq]
  rfl

/-! ## One step -/

/-- **The order of the phases**: the `switch` goes on by one phase at most. -/
lemma phaseStep_phase (config : FlightConfig R) (thrusterLoss : Bool) (dtS : R)
    (state : FlightState R) :
    (phaseStep config thrusterLoss dtS state).phase = state.phase ∨
      state.phase.next = some (phaseStep config thrusterLoss dtS state).phase := by
  unfold phaseStep
  cases hphase : state.phase with
  | prelaunch => exact phase_ite hphase rfl
  | poweredAscent =>
    simp only [poweredAscent]
    exact phase_ite ((phase_applyThrust ..).trans hphase) rfl
  | coast => exact phase_ite hphase rfl
  | descent => exact phase_ite hphase rfl
  | landingBurn =>
    simp only [landingBurn, touchdown]
    split_ifs
    · exact Or.inr rfl
    · exact Or.inl ((phase_applyThrust ..).trans hphase)
  | landed => exact Or.inl hphase

/-- **The commands follow the phase** after the `switch`: each branch sets those of its own phase,
and a transition clears what the next phase does not use. -/
lemma commandsFollowPhase_phaseStep (config : FlightConfig R) (thrusterLoss : Bool) (dtS : R)
    {state : FlightState R} (hgimbal : state.gimbalCommandDeg = ![0.0, 0.0])
    (hgridFin : state.gridFinCommandDeg = ![0.0, 0.0]) :
    CommandsFollowPhase (phaseStep config thrusterLoss dtS state) := by
  unfold phaseStep
  cases hphase : state.phase with
  | prelaunch => exact CommandsFollowPhase.ite ⟨fun _ _ => hgimbal, fun _ => hgridFin⟩
  | poweredAscent =>
    simp only [poweredAscent]
    refine CommandsFollowPhase.ite ⟨fun hascent _ => ?_, fun _ => ?_⟩
    · rw [phase_applyThrust] at hascent
      exact absurd hphase hascent
    · rw [gridFinCommandDeg_applyThrust]
      exact hgridFin
  | coast => exact CommandsFollowPhase.ite ⟨fun _ _ => hgimbal, fun _ => hgridFin⟩
  | descent =>
    exact CommandsFollowPhase.ite ⟨fun _ _ => hgimbal, fun hdescent => absurd hphase hdescent⟩
  | landingBurn =>
    simp only [landingBurn, touchdown]
    split_ifs
    · exact commandsFollowPhase_transitionTo _ _
    · refine ⟨fun _ hburn => ?_, fun _ => ?_⟩
      · rw [phase_applyThrust] at hburn
        exact absurd hphase hburn
      · rw [gridFinCommandDeg_applyThrust]
        exact hgridFin
  | landed => exact ⟨fun _ _ => hgimbal, fun _ => hgridFin⟩

/-- The step that lands leaves the vehicle at rest. -/
lemma atRest_phaseStep (config : FlightConfig R) (thrusterLoss : Bool) (dtS : R)
    {state : FlightState R} (hphase : state.phase ≠ .landed)
    (hlanded : (phaseStep config thrusterLoss dtS state).phase = .landed) :
    AtRest (phaseStep config thrusterLoss dtS state) := by
  have hnext := phaseStep_phase config thrusterLoss dtS state
  rw [hlanded] at hnext
  cases hburn : state.phase with
  | landingBurn =>
    unfold phaseStep at hlanded ⊢
    rw [hburn] at hlanded ⊢
    simp only [landingBurn] at hlanded ⊢
    split_ifs at hlanded ⊢
    · exact ⟨rfl, rfl, rfl, rfl, rfl, rfl, rfl, rfl, rfl, rfl⟩
    · rw [phase_applyThrust] at hlanded
      exact absurd (hburn.symm.trans hlanded) (by decide)
  | landed => exact absurd hburn hphase
  | prelaunch => rw [hburn] at hnext; exact absurd hnext (by decide)
  | poweredAscent => rw [hburn] at hnext; exact absurd hnext (by decide)
  | coast => rw [hburn] at hnext; exact absurd hnext (by decide)
  | descent => rw [hburn] at hnext; exact absurd hnext (by decide)

/-! ## Calls -/

/-- One call. -/
def FlightSimulation.call (simulation : FlightSimulation R) : Call R → FlightSimulation R
  | .step dtS => simulation.step dtS
  | .setThrusterLoss enabled => simulation.setThrusterLoss enabled

/-- Calls one after the other. -/
def FlightSimulation.run (simulation : FlightSimulation R) (calls : List (Call R)) :
    FlightSimulation R :=
  calls.foldl FlightSimulation.call simulation

/-- What every call of some calls keeps, all of them keep. -/
lemma FlightSimulation.run_induction {P : FlightSimulation R → Prop}
    {simulation : FlightSimulation R} (h : P simulation) {calls : List (Call R)}
    (hcall : ∀ simulation, P simulation → ∀ call ∈ calls, P (simulation.call call)) :
    P (simulation.run calls) :=
  List.foldlRecOn calls FlightSimulation.call h hcall

/-- A step does nothing, or is made from a phase before the landing. -/
lemma FlightSimulation.step_cases (simulation : FlightSimulation R) (dtS : R) :
    simulation.step dtS = simulation ∨ simulation.state.phase ≠ .landed ∧
      ∃ orientationWxyz, (simulation.step dtS).state =
        { phaseStep simulation.config simulation.thrusterLoss dtS
            (beginStep dtS simulation.state) with orientationWxyz } := by
  unfold FlightSimulation.step
  split_ifs with hreturn
  · exact Or.inl rfl
  · exact Or.inr ⟨fun hlanded => hreturn (Or.inr (Or.inr hlanded)),
      exists_normalizeOrientation _⟩

/-- A landed vehicle stays as it is. -/
lemma FlightSimulation.step_of_landed {simulation : FlightSimulation R}
    (h : simulation.state.phase = .landed) (dtS : R) : simulation.step dtS = simulation := by
  rcases simulation.step_cases dtS with heq | ⟨hne, -⟩
  · exact heq
  · exact absurd h hne

/-- **Step lemma**: whatever a call does, the commands follow the phase. -/
lemma CommandsFollowPhase.call {simulation : FlightSimulation R}
    (h : CommandsFollowPhase simulation.state) (call : Call R) :
    CommandsFollowPhase (simulation.call call).state := by
  cases call with
  | setThrusterLoss enabled => exact h
  | step dtS =>
    show CommandsFollowPhase (simulation.step dtS).state
    rcases simulation.step_cases dtS with heq | ⟨-, orientation, heq⟩
    · rw [heq]
      exact h
    · have hcommands := commandsFollowPhase_phaseStep simulation.config simulation.thrusterLoss dtS
        (show (beginStep dtS simulation.state).gimbalCommandDeg = ![0.0, 0.0] from rfl) rfl
      rw [heq]
      exact ⟨hcommands.gimbal, hcommands.gridFin⟩

/-- **Run lemma**: the commands follow the phase after any calls. -/
lemma commandsFollowPhase_run (config : FlightConfig R) (calls : List (Call R)) :
    CommandsFollowPhase ((FlightSimulation.new config).run calls).state := by
  have hstart : CommandsFollowPhase (FlightSimulation.new config).state :=
    ⟨fun _ _ => rfl, fun _ => rfl⟩
  exact FlightSimulation.run_induction
    (P := fun simulation => CommandsFollowPhase simulation.state) hstart
    fun _ h call _ => h.call call

/-- Nothing happens to a landed vehicle any more. -/
lemma state_run_of_landed {simulation : FlightSimulation R}
    (h : simulation.state.phase = .landed) (calls : List (Call R)) :
    (simulation.run calls).state = simulation.state := by
  induction calls generalizing simulation with
  | nil => rfl
  | cons call calls ih =>
    have hcall : (simulation.call call).state = simulation.state := by
      cases call with
      | setThrusterLoss enabled => rfl
      | step dtS => exact congrArg FlightSimulation.state (FlightSimulation.step_of_landed h dtS)
    show ((simulation.call call).run calls).state = simulation.state
    rw [ih (by rw [hcall]; exact h), hcall]

/-- **The phases of a flight.** Whatever the configuration and after any calls of `step`, with any
time steps, and of `set_thruster_loss`: a step keeps the phase or goes on to the next one; once
the vehicle has landed, no call changes anything of its state; the step that lands leaves it at
rest; and the commands follow the phase. -/
theorem run_phases (config : FlightConfig R) (calls : List (Call R)) :
    let simulation := (FlightSimulation.new config).run calls
    (∀ dtS, (simulation.step dtS).state.phase = simulation.state.phase ∨
        simulation.state.phase.next = some (simulation.step dtS).state.phase) ∧
      (simulation.state.phase = .landed →
        ∀ later, (simulation.run later).state = simulation.state) ∧
      (∀ dtS, simulation.state.phase ≠ .landed →
        (simulation.step dtS).state.phase = .landed → AtRest (simulation.step dtS).state) ∧
      CommandsFollowPhase simulation.state := by
  intro simulation
  refine ⟨fun dtS => ?_, state_run_of_landed, fun dtS hphase hlanded => ?_,
    commandsFollowPhase_run config calls⟩
  · rcases simulation.step_cases dtS with heq | ⟨-, orientation, heq⟩
    · exact Or.inl (by rw [heq])
    · rw [heq]
      exact phaseStep_phase _ _ dtS (beginStep dtS simulation.state)
  · rcases simulation.step_cases dtS with heq | ⟨-, orientation, heq⟩
    · rw [heq] at hlanded
      exact absurd hlanded hphase
    · rw [heq] at hlanded ⊢
      have hbegin : (beginStep dtS simulation.state).phase ≠ .landed := hphase
      exact { atRest_phaseStep simulation.config simulation.thrusterLoss dtS hbegin hlanded with }

end Frames

end FlightDeck.Simulation
