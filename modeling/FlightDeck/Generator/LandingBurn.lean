import FlightDeck.Generator.Altitude
import FlightDeck.Generator.Termination

set_option relaxedAutoImplicit false
set_option autoImplicit false

/-!
# The landing burn goes down

With the default configuration and steps of 10 ms the landing burn never turns the vehicle round.
It is started on a vehicle that falls; the engines cannot stop a fast vehicle within one step, and
the controller does not ask for enough to stop a slow one.

## Main results

* `velocity_neg_of_landingBurn` — the vehicle falls throughout the burn.
* `landingBurn_descends` — every step of the burn lands or goes down.
-/

namespace FlightDeck.Simulation

variable {thrusterLoss : ℕ → Bool} {n : ℕ}

/-- The phase before a landing burn. -/
lemma phase_of_succ_eq_landingBurn
    (h : (flightState thrusterLoss (n + 1)).phase = .landingBurn) :
    (flightState thrusterLoss n).phase = .descent ∨
      (flightState thrusterLoss n).phase = .landingBurn := by
  have hnext : (flightState thrusterLoss (n + 1)).phase = (flightState thrusterLoss n).phase ∨
      (flightState thrusterLoss n).phase.next =
        some (flightState thrusterLoss (n + 1)).phase := by
    by_cases hlanded : (flightState thrusterLoss n).phase = .landed
    · exact Or.inl (by rw [flightState_succ_of_landed hlanded])
    · obtain ⟨orientation, heq⟩ := exists_flightState_succ hlanded
      rw [heq]
      exact phaseStep_phase .default (thrusterLoss n) kFixedStepSeconds
        (beginStep kFixedStepSeconds (flightState thrusterLoss n))
  rw [h] at hnext
  rcases hnext with heq | hnext
  · exact Or.inr heq.symm
  · left
    revert hnext
    cases (flightState thrusterLoss n).phase <;> decide

/-- **Run lemma**: the vehicle falls throughout the landing burn. -/
lemma velocity_neg_of_landingBurn (h : (flightState thrusterLoss n).phase = .landingBurn) :
    (flightState thrusterLoss n).velocityMps < 0 := by
  induction n with
  | zero => exact absurd (show MissionPhase.prelaunch = .landingBurn from h) (by decide)
  | succ n ih =>
    rcases phase_of_succ_eq_landingBurn h with hdescent | hburn
    · -- The descent has just ended, so that the burn was due.
      have hstep := descentStep hdescent
      by_contra hvelocity
      have hphase := (hstep.passes.of_not_ends fun hdue => hvelocity hdue.1).1
      exact absurd (h.symm.trans (hphase.trans hdescent)) (by decide)
    · have hstep := landingStep hburn (massWithin_flightState thrusterLoss n).1
      exact (velocity_landingStep hstep (ih hburn) h).1

/-- **Step lemma**: a step of the landing burn lands or goes down. -/
lemma altitude_landingStep (h : (flightState thrusterLoss n).phase = .landingBurn) :
    (flightState thrusterLoss (n + 1)).phase = .landed ∨
      (flightState thrusterLoss (n + 1)).altitudeM < (flightState thrusterLoss n).altitudeM := by
  have hstep := landingStep h (massWithin_flightState thrusterLoss n).1
  rcases hstep.lands_or with ⟨hlanded, -⟩ | ⟨hburn, -⟩
  · exact Or.inl hlanded
  · obtain ⟨hvelocity, -, haltitude, -⟩ :=
      velocity_landingStep hstep (velocity_neg_of_landingBurn h) hburn
    exact Or.inr (by linarith)

/-- **No second ascent.** With the default configuration, steps of 10 ms and real arithmetic, and
for any calls of `set_thruster_loss` between the steps: during the landing burn the vehicle
falls, and each step of the burn lands it or takes it down. -/
theorem landingBurn_descends (calls : ℕ → List Bool) (n : ℕ)
    (h : (FlightSimulation.scheduled calls n : FlightSimulation ℝ).state.phase = .landingBurn) :
    (FlightSimulation.scheduled calls n : FlightSimulation ℝ).state.velocityMps < 0 ∧
      ((FlightSimulation.scheduled calls (n + 1) : FlightSimulation ℝ).state.phase = .landed ∨
        (FlightSimulation.scheduled calls (n + 1) : FlightSimulation ℝ).state.altitudeM <
          (FlightSimulation.scheduled calls n : FlightSimulation ℝ).state.altitudeM) := by
  rw [scheduled_eq_flight] at h ⊢
  rw [scheduled_eq_flight]
  exact ⟨velocity_neg_of_landingBurn h, altitude_landingStep h⟩

/-- The flight without a fault has a landing burn. -/
theorem landingBurn_descends_withoutFault :
    ∃ n, (FlightSimulation.scheduled (fun _ => []) n : FlightSimulation ℝ).state.phase =
        .landingBurn ∧
      (FlightSimulation.scheduled (fun _ => []) n : FlightSimulation ℝ).state.velocityMps < 0 ∧
      ((FlightSimulation.scheduled (fun _ => []) (n + 1) : FlightSimulation ℝ).state.phase =
          .landed ∨
        (FlightSimulation.scheduled (fun _ => []) (n + 1) : FlightSimulation ℝ).state.altitudeM <
          (FlightSimulation.scheduled (fun _ => []) n : FlightSimulation ℝ).state.altitudeM) := by
  obtain ⟨k, hcutOff, -⟩ := exists_cutOff (lossDuring fun _ => [])
  obtain ⟨apogee, hdescent, hfalls⟩ := exists_descent hcutOff.phase_eq
  obtain ⟨n, hburn, -⟩ := exists_landingBurn hdescent hfalls
  have hphase : (FlightSimulation.scheduled (fun _ => []) n : FlightSimulation ℝ).state.phase =
      .landingBurn := by
    rw [scheduled_eq_flight]
    exact hburn
  exact ⟨n, hphase, landingBurn_descends (fun _ => []) n hphase⟩

end FlightDeck.Simulation
