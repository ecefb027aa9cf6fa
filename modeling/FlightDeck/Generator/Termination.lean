import FlightDeck.Generator.Ascent
import FlightDeck.Lib.Decay

set_option relaxedAutoImplicit false
set_option autoImplicit false

/-!
# Every flight ends

The main loop runs until the vehicle has landed. Each phase is left after finitely many passes,
whatever faults are injected: the clock ends the first two, gravity the next two. The landing
controller slows the vehicle down with the square of its speed, so that it never hovers and its
speed is not summable.

## Main definitions

* `FlightSimulation.running` — the condition of the main loop.

## Main results

* `exists_descent`, `exists_landingBurn`, `exists_landed` — each phase is left.
* `flight_ends` — the main loop ends.
-/

namespace FlightDeck.Simulation

open Decay

variable {thrusterLoss : ℕ → Bool} {m : ℕ}

/-! ## The phases are left -/

/-- The vehicle stops climbing. -/
lemma exists_descent (h : (flightState thrusterLoss m).phase = .coast) :
    ∃ n, (flightState thrusterLoss n).phase = .descent ∧
      (flightState thrusterLoss n).velocityMps ≤ 0 := by
  have hstep : ∀ n, (flightState thrusterLoss (m + n)).phase = .coast →
      FallStep .descent (fun next => next.velocityMps ≤ 0) (flightState thrusterLoss (m + n))
        (flightState thrusterLoss (m + (n + 1))) := fun n => coastStep
  obtain ⟨n, hcoast, hleft⟩ := exists_last_of_decreasing
    (P := fun n => (flightState thrusterLoss (m + n)).phase = .coast)
    (f := fun n => (flightState thrusterLoss (m + n)).velocityMps) (b := 0)
    (show (0 : ℝ) < 0.0980665 by norm_num) h
    (fun n hcoast _ => by
      show (flightState thrusterLoss (m + (n + 1))).velocityMps ≤ _
      rw [(hstep n hcoast).moves.velocity_eq]
      linarith)
    (fun n hcoast hcoast' => by
      by_contra! hvelocity
      have hphase := ((hstep n hcoast).passes.of_ends hvelocity.le).1
      exact absurd (hphase.symm.trans hcoast') (by decide))
  by_cases hends : (flightState thrusterLoss (m + (n + 1))).velocityMps ≤ 0
  · exact ⟨_, ((hstep n hcoast).passes.of_ends hends).1, hends⟩
  · exact absurd (((hstep n hcoast).passes.of_not_ends hends).1.trans hcoast) hleft

/-- A vehicle that falls below the ground starts its landing burn. -/
lemma burnDue_of_nonpos {thrusterLoss : Bool} {state : FlightState ℝ}
    (hvelocity : state.velocityMps < 0) (haltitude : state.altitudeM ≤ 0) :
    BurnDue thrusterLoss state := by
  refine ⟨hvelocity, ?_⟩
  set upward := availableThrust .default thrusterLoss / state.massKg - 9.80665
  rcases le_or_gt upward 0 with hupward | hupward
  · exact Or.inl hupward
  · have hsq : 0 ≤ state.velocityMps * state.velocityMps := mul_self_nonneg _
    exact Or.inr (haltitude.trans (by positivity))

/-- The vehicle falls until its engines are lit again. -/
lemma exists_landingBurn (h : (flightState thrusterLoss m).phase = .descent)
    (hvelocity : (flightState thrusterLoss m).velocityMps ≤ 0) :
    ∃ n, (flightState thrusterLoss n).phase = .landingBurn ∧
      (flightState thrusterLoss n).velocityMps < 0 := by
  have hstep : ∀ n, (flightState thrusterLoss (m + n)).phase = .descent →
      FallStep .landingBurn (BurnDue (thrusterLoss (m + n))) (flightState thrusterLoss (m + n))
        (flightState thrusterLoss (m + (n + 1))) := fun n => descentStep
  have hfaster : ∀ n, (flightState thrusterLoss (m + n)).phase = .descent →
      (flightState thrusterLoss (m + n)).velocityMps ≤ 0 →
        (flightState thrusterLoss (m + (n + 1))).velocityMps ≤ -0.0980665 :=
    fun n hphase hfalls => by
      rw [(hstep n hphase).moves.velocity_eq]
      linarith
  obtain ⟨n, ⟨hphase, hfalls⟩, hleft⟩ := exists_last_of_decreasing
    (P := fun n => (flightState thrusterLoss (m + n)).phase = .descent ∧
      (flightState thrusterLoss (m + n)).velocityMps ≤ 0)
    (f := fun n => (flightState thrusterLoss (m + n)).altitudeM) (b := 0)
    (show (0 : ℝ) < 0.000980665 by norm_num) ⟨h, hvelocity⟩
    (fun n hfall _ => by
      show (flightState thrusterLoss (m + (n + 1))).altitudeM ≤ _
      rw [(hstep n hfall.1).moves.altitude_eq]
      have := hfaster n hfall.1 hfall.2
      linarith)
    (fun n hfall hfall' => by
      by_contra! haltitude
      have hdue : BurnDue (thrusterLoss (m + n)) (flightState thrusterLoss (m + (n + 1))) :=
        burnDue_of_nonpos ((hfaster n hfall.1 hfall.2).trans_lt (by norm_num)) haltitude.le
      exact absurd (((hstep n hfall.1).passes.of_ends hdue).1.symm.trans hfall'.1) (by decide))
  have hfalls' : (flightState thrusterLoss (m + (n + 1))).velocityMps < 0 :=
    (hfaster n hphase hfalls).trans_lt (by norm_num)
  by_cases hends : BurnDue (thrusterLoss (m + n)) (flightState thrusterLoss (m + (n + 1)))
  · exact ⟨_, ((hstep n hphase).passes.of_ends hends).1, hfalls'⟩
  · exact absurd ⟨((hstep n hphase).passes.of_not_ends hends).1.trans hphase, hfalls'.le⟩ hleft

/-- The landing burn slows the vehicle down, but does not turn it round. -/
lemma velocity_landingStep {state next : FlightState ℝ} (h : LandingStep state next)
    (hvelocity : state.velocityMps < 0) (hphase : next.phase = .landingBurn) :
    next.velocityMps < 0 ∧
      -state.velocityMps - 0.00525 * (-state.velocityMps) ^ 2 ≤ -next.velocityMps ∧
      next.altitudeM = state.altitudeM - 0.01 * -next.velocityMps ∧ 0 < next.altitudeM := by
  rcases h.lands_or with ⟨hlanded, -⟩ | ⟨-, haltitude, a, hmoves, hengines, hcalled⟩
  · exact absurd (hphase.symm.trans hlanded) (by decide)
  · have hslower := hmoves.velocity_eq
    refine ⟨?_, by linarith, by linarith [hmoves.altitude_eq], haltitude⟩
    -- the engines cannot stop a fast vehicle, the controller does not stop a slow one
    rcases le_or_gt state.velocityMps (-1) with hfast | hslow
    · linarith
    · nlinarith

/-- The vehicle comes down. -/
lemma exists_landed (h : (flightState thrusterLoss m).phase = .landingBurn)
    (hvelocity : (flightState thrusterLoss m).velocityMps < 0) :
    ∃ n, (flightState thrusterLoss n).phase = .landed := by
  have hstep : ∀ n, (flightState thrusterLoss (m + n)).phase = .landingBurn →
      LandingStep (flightState thrusterLoss (m + n)) (flightState thrusterLoss (m + (n + 1))) :=
    fun n hphase => landingStep hphase (massWithin_flightState thrusterLoss (m + n)).1
  obtain ⟨n, ⟨hphase, hfalls⟩, hleft⟩ := exists_last_of_quadratic_decay
    (P := fun n => (flightState thrusterLoss (m + n)).phase = .landingBurn ∧
      (flightState thrusterLoss (m + n)).velocityMps < 0)
    (u := fun n => -(flightState thrusterLoss (m + n)).velocityMps)
    (f := fun n => (flightState thrusterLoss (m + n)).altitudeM) (b := 0)
    (show (0 : ℝ) < 0.00525 by norm_num) (show (0 : ℝ) < 0.01 by norm_num) ⟨h, hvelocity⟩
    (fun n hfall => neg_pos.mpr hfall.2)
    (fun n hfall hfall' => (velocity_landingStep (hstep n hfall.1) hfall.2 hfall'.1).2.1)
    (fun n hfall hfall' => (velocity_landingStep (hstep n hfall.1) hfall.2 hfall'.1).2.2.1)
    (fun n hfall hfall' => (velocity_landingStep (hstep n hfall.1) hfall.2 hfall'.1).2.2.2.le)
  rcases (hstep n hphase).lands_or with ⟨hlanded, -⟩ | ⟨hburning, -⟩
  · exact ⟨_, hlanded⟩
  · exact absurd
      ⟨hburning, (velocity_landingStep (hstep n hphase) hfalls hburning).1⟩ hleft

/-! ## The main loop -/

section Loop

variable {R : Type}

/-- The condition of the main loop. -/
def FlightSimulation.running (simulation : FlightSimulation R) (options : Generator.Options)
    (stepCount : ℕ) : Bool :=
  simulation.state.phase != .landed &&
    (options.maximumSteps == 0 || stepCount < options.maximumSteps)

end Loop

/-- The loop of the generator has this condition. -/
lemma running_eq [Libm] (simulator : Generator.Simulator) (options : Generator.Options) :
    simulator.running options =
      simulator.simulation.running options simulator.stepCount.toNat := rfl

/-- A landed vehicle stays landed. -/
lemma phase_of_le {n : ℕ} (h : (flightState thrusterLoss m).phase = .landed) (hle : m ≤ n) :
    (flightState thrusterLoss n).phase = .landed := by
  induction n, hle using Nat.le_induction with
  | base => exact h
  | succ n hle ih => rwa [flightState_succ_of_landed ih]

/-- **Every flight ends.** With the default configuration, steps of 10 ms and real arithmetic, and
whatever the fault is set to before each step: after finitely many steps the vehicle has landed for
good, and the main loop, with no limit on its passes, makes just these and ends. -/
theorem flight_ends (thrusterLoss : ℕ → Bool) :
    ∃ n, (∀ m ≥ n, (FlightSimulation.flight thrusterLoss m : FlightSimulation ℝ).state.phase =
        .landed) ∧
      ∀ corruptOnce, let options : Generator.Options := { corruptOnce }
        (∀ i < n, (FlightSimulation.flight thrusterLoss i : FlightSimulation ℝ).running
          options i = true) ∧
        (FlightSimulation.flight thrusterLoss n : FlightSimulation ℝ).running options n =
          false := by
  classical
  have hexists : ∃ n, (flightState thrusterLoss n).phase = .landed := by
    obtain ⟨k, hcutOff, -⟩ := exists_cutOff thrusterLoss
    obtain ⟨apogee, hdescent, hfalls⟩ := exists_descent hcutOff.phase_eq
    obtain ⟨lit, hburn, hfalls⟩ := exists_landingBurn hdescent hfalls
    exact exists_landed hburn hfalls
  refine ⟨Nat.find hexists, fun m hm => phase_of_le (Nat.find_spec hexists) hm,
    fun corruptOnce => ⟨fun i hi => ?_, ?_⟩⟩
  · have hphase : (FlightSimulation.flight thrusterLoss i : FlightSimulation ℝ).state.phase ≠
        .landed := Nat.find_min hexists hi
    simp [FlightSimulation.running, hphase]
  · have hphase : (FlightSimulation.flight thrusterLoss (Nat.find hexists) :
        FlightSimulation ℝ).state.phase = .landed := Nat.find_spec hexists
    simp [FlightSimulation.running, hphase]

end FlightDeck.Simulation
