import FlightDeck.Generator.Altitude
import FlightDeck.Lib.Decay

set_option relaxedAutoImplicit false
set_option autoImplicit false

/-!
# The apogee

The engines are cut off by the apogee of a continuous fall, but the coast is a fall in steps. Its
energy, corrected by a term linear in the speed, is the same after every step, so that its highest
point is the predicted one up to the way of half a step.

## Main definitions

* `FlightSimulation.coasting` — steps of any length, from any simulation.
* `predictedBallisticApogee`, `steppedApogee` — the energy, and what the steps keep of it.

## Main results

* `steppedApogee_coasting` — it is the same until the descent.
* `apogee_bounds` — the highest point of the coast.
-/

namespace FlightDeck.Simulation

open Decay

/-! ## Definitions -/

section Coasting

variable {R : Type} [OfScientific R] [Div R] [Add R] [Sub R] [Mul R] [Neg R] [LT R] [LE R]
  [DecidableLT R] [DecidableLE R] [CMath R]

/-- The simulation after `n` further steps, when `set_thruster_loss` is called with the given
values before each of them. -/
def FlightSimulation.coasting (simulation : FlightSimulation R) (dtS : R)
    (calls : ℕ → List Bool) : ℕ → FlightSimulation R
  | 0 => simulation
  | n + 1 => ((coasting simulation dtS calls n).run ((calls n).map .setThrusterLoss)).step dtS

/-- `predicted_ballistic_apogee`. -/
def predictedBallisticApogee (config : FlightConfig R) (state : FlightState R) : R :=
  state.altitudeM + state.velocityMps * state.velocityMps / (2.0 * config.gravityMps2)

end Coasting

/-- What a step of free fall leaves as it is. -/
noncomputable def steppedApogee (config : FlightConfig ℝ) (dtS : ℝ) (state : FlightState ℝ) : ℝ :=
  predictedBallisticApogee config state - state.velocityMps * dtS / 2.0

variable {simulation : FlightSimulation ℝ} {dtS : ℝ} {calls : ℕ → List Bool} {n : ℕ}

/-! ## One step -/

/-- A step of the coast. -/
structure CoastStep (gravityMps2 dtS : ℝ) (state next : FlightState ℝ) : Prop where
  velocity_eq : next.velocityMps = state.velocityMps - gravityMps2 * dtS
  altitude_eq : next.altitudeM = state.altitudeM + next.velocityMps * dtS
  phase_eq : next.phase = if next.velocityMps ≤ 0 then .descent else .coast

/-- It is one whatever the configuration and the length of the step. -/
lemma coastStep_step (h : simulation.state.phase = .coast) (hdt : 0 < dtS) :
    CoastStep simulation.config.gravityMps2 dtS simulation.state
      (simulation.step dtS).state := by
  have hne : simulation.state.phase ≠ .landed := by rw [h]; decide
  obtain ⟨orientation, heq⟩ := exists_normalizeOrientation
    (phaseStep simulation.config simulation.thrusterLoss dtS (beginStep dtS simulation.state))
  have htransition := transition_coast simulation.config dtS h simulation.thrusterLoss orientation
  rw [FlightSimulation.step_of_ne_landed (by norm_num [hdt]) rfl hne, heq]
  refine ⟨?_, ?_, ?_⟩
  · rw [htransition.velocity_eq, sub_eq_add_neg, ← neg_mul]
    rfl
  · rw [htransition.altitude_eq, htransition.velocity_eq]
    rfl
  · rw [htransition.velocity_eq]
    split_ifs with hends
    · exact (htransition.of_ends hends).1
    · exact (htransition.of_not_ends hends).1.trans h

/-- The energy of a step. -/
lemma CoastStep.steppedApogee_eq {config : FlightConfig ℝ} {state next : FlightState ℝ}
    (h : CoastStep config.gravityMps2 dtS state next) (hgravity : 0 < config.gravityMps2) :
    steppedApogee config dtS next = steppedApogee config dtS state := by
  unfold steppedApogee predictedBallisticApogee
  rw [h.altitude_eq, h.velocity_eq]
  norm_num
  field_simp
  ring

/-! ## Heights -/

section Heights

variable {config : FlightConfig ℝ} {state : FlightState ℝ}

/-- No height is more than half a step's way above. -/
lemma altitude_le_steppedApogee_add (hgravity : 0 < config.gravityMps2) (dtS : ℝ)
    (state : FlightState ℝ) :
    state.altitudeM ≤ steppedApogee config dtS state + state.velocityMps * dtS / 2 := by
  have henergy : 0 ≤ state.velocityMps * state.velocityMps / (2 * config.gravityMps2) :=
    div_nonneg (mul_self_nonneg _) (by positivity)
  unfold steppedApogee predictedBallisticApogee
  norm_num
  linarith

/-- It is half a step's way below the prediction. -/
lemma steppedApogee_eq_sub (config : FlightConfig ℝ) (dtS : ℝ) (state : FlightState ℝ) :
    steppedApogee config dtS state =
      predictedBallisticApogee config state - state.velocityMps * dtS / 2 := by
  have htwo : (2.0 : ℝ) = 2 := by norm_num
  rw [steppedApogee, htwo]

/-- The last height before the vehicle falls is not below. -/
lemma steppedApogee_le_altitude (hgravity : 0 < config.gravityMps2)
    (hclimbs : 0 ≤ state.velocityMps) (hlast : state.velocityMps ≤ config.gravityMps2 * dtS) :
    steppedApogee config dtS state ≤ state.altitudeM := by
  have henergy : state.velocityMps * state.velocityMps / (2 * config.gravityMps2) ≤
      state.velocityMps * dtS / 2 := by
    rw [div_le_div_iff₀ (by positivity) two_pos]
    have := mul_le_mul_of_nonneg_left hlast hclimbs
    linarith
  unfold steppedApogee predictedBallisticApogee
  norm_num
  linarith

end Heights

/-! ## The coast -/

/-- The configuration stays what it is. -/
lemma config_coasting (n : ℕ) : (simulation.coasting dtS calls n).config = simulation.config := by
  induction n with
  | zero => rfl
  | succ n ih =>
    rw [FlightSimulation.coasting, config_step, run_setThrusterLoss]
    exact ih

/-- Each step from the coast is such a step. -/
lemma coastStep_coasting (hdt : 0 < dtS)
    (h : (simulation.coasting dtS calls n).state.phase = .coast) :
    CoastStep simulation.config.gravityMps2 dtS (simulation.coasting dtS calls n).state
      (simulation.coasting dtS calls (n + 1)).state := by
  rw [FlightSimulation.coasting, run_setThrusterLoss]
  set now := (simulation.coasting dtS calls n).setThrusterLoss
    ((calls n).getLastD (simulation.coasting dtS calls n).thrusterLoss)
  have hconfig : now.config = simulation.config := config_coasting n
  rw [← hconfig]
  exact coastStep_step (show now.state.phase = .coast from h) hdt

/-- **Run lemma**: up to the first state of the descent the energy is the same, and the vehicle is
no faster than at the start. -/
lemma steppedApogee_coasting (hgravity : 0 < simulation.config.gravityMps2) (hdt : 0 < dtS)
    (h : ∀ i < n, (simulation.coasting dtS calls i).state.phase = .coast) :
    steppedApogee simulation.config dtS (simulation.coasting dtS calls n).state =
        steppedApogee simulation.config dtS simulation.state ∧
      (simulation.coasting dtS calls n).state.velocityMps ≤ simulation.state.velocityMps := by
  induction n with
  | zero => exact ⟨rfl, le_rfl⟩
  | succ n ih =>
    obtain ⟨henergy, hvelocity⟩ := ih fun i hi => h i (by omega)
    have hstep := coastStep_coasting hdt (h n (by omega))
    refine ⟨(hstep.steppedApogee_eq hgravity).trans henergy, ?_⟩
    have hslower : 0 ≤ simulation.config.gravityMps2 * dtS := by positivity
    rw [hstep.velocity_eq]
    linarith

/-- A vehicle that still coasts climbs. -/
lemma velocity_pos_of_coast (hdt : 0 < dtS) (hclimbs : 0 < simulation.state.velocityMps)
    (h : ∀ i ≤ n, (simulation.coasting dtS calls i).state.phase = .coast) :
    0 < (simulation.coasting dtS calls n).state.velocityMps := by
  cases n with
  | zero => exact hclimbs
  | succ n =>
    by_contra! hfalls
    have hphase := (coastStep_coasting hdt (h n (by omega))).phase_eq
    rw [if_pos hfalls, h (n + 1) le_rfl] at hphase
    exact absurd hphase (by decide)

/-- The coast ends. -/
lemma exists_last_coast (hgravity : 0 < simulation.config.gravityMps2) (hdt : 0 < dtS)
    (hphase : simulation.state.phase = .coast) (hclimbs : 0 < simulation.state.velocityMps)
    (calls : ℕ → List Bool) :
    ∃ n, (∀ i ≤ n, (simulation.coasting dtS calls i).state.phase = .coast) ∧
      (simulation.coasting dtS calls (n + 1)).state.velocityMps ≤ 0 := by
  obtain ⟨n, hcoast, hleft⟩ := exists_last_of_decreasing
    (P := fun n => ∀ i ≤ n, (simulation.coasting dtS calls i).state.phase = .coast)
    (f := fun n => (simulation.coasting dtS calls n).state.velocityMps) (b := 0)
    (show 0 < simulation.config.gravityMps2 * dtS by positivity)
    (fun i hi => by
      obtain rfl := Nat.le_zero.mp hi
      exact hphase)
    (fun n hcoast _ => (coastStep_coasting hdt (hcoast n le_rfl)).velocity_eq.le)
    (fun n _ hcoast => (velocity_pos_of_coast hdt hclimbs hcoast).le)
  refine ⟨n, hcoast, ?_⟩
  by_contra hvelocity
  have hnext := (coastStep_coasting hdt (hcoast n le_rfl)).phase_eq
  rw [if_neg hvelocity] at hnext
  refine hleft fun i hi => ?_
  rcases Nat.of_le_succ hi with hle | rfl
  · exact hcoast i hle
  · exact hnext

/-- No altitude up to the first state of the descent is above the prediction, since no speed is
more than the first. -/
lemma altitude_coasting_le (hgravity : 0 < simulation.config.gravityMps2) (hdt : 0 < dtS)
    (h : ∀ i < n, (simulation.coasting dtS calls i).state.phase = .coast) :
    (simulation.coasting dtS calls n).state.altitudeM ≤
      predictedBallisticApogee simulation.config simulation.state := by
  obtain ⟨henergy, hslower⟩ := steppedApogee_coasting hgravity hdt h
  have hway : (simulation.coasting dtS calls n).state.velocityMps * dtS ≤
      simulation.state.velocityMps * dtS := mul_le_mul_of_nonneg_right hslower hdt.le
  have hhigh := altitude_le_steppedApogee_add hgravity dtS (simulation.coasting dtS calls n).state
  rw [henergy, steppedApogee_eq_sub] at hhigh
  linarith

/-- The last altitude of the coast is high enough, since gravity takes what is left of the speed
in one step. -/
lemma le_altitude_last_coast (hgravity : 0 < simulation.config.gravityMps2) (hdt : 0 < dtS)
    (hclimbs : 0 < simulation.state.velocityMps)
    (hcoast : ∀ i ≤ n, (simulation.coasting dtS calls i).state.phase = .coast)
    (hfalls : (simulation.coasting dtS calls (n + 1)).state.velocityMps ≤ 0) :
    predictedBallisticApogee simulation.config simulation.state -
        simulation.state.velocityMps * dtS / 2 ≤
      (simulation.coasting dtS calls n).state.altitudeM := by
  obtain ⟨henergy, -⟩ := steppedApogee_coasting hgravity hdt fun i hi => hcoast i hi.le
  have hlast := (coastStep_coasting hdt (hcoast n le_rfl)).velocity_eq
  have hslow : (simulation.coasting dtS calls n).state.velocityMps ≤
      simulation.config.gravityMps2 * dtS := by
    rw [hlast] at hfalls
    linarith
  have hhigh := steppedApogee_le_altitude hgravity
    (velocity_pos_of_coast hdt hclimbs hcoast).le hslow
  rwa [henergy, steppedApogee_eq_sub] at hhigh

/-- **The apogee.** For every configuration with positive gravity, steps of any positive length,
and any calls of `set_thruster_loss` between them: a vehicle that enters the coast climbing comes
to the descent, and the highest of its altitudes until then, the first one of the descent
included, is at most the predicted ballistic apogee, and below it by no more than the way of half
a step. -/
theorem apogee_bounds (hgravity : 0 < simulation.config.gravityMps2) (hdt : 0 < dtS)
    (hphase : simulation.state.phase = .coast) (hclimbs : 0 < simulation.state.velocityMps)
    (calls : ℕ → List Bool) :
    let predicted := predictedBallisticApogee simulation.config simulation.state
    ∃ n, (∀ i < n, (simulation.coasting dtS calls i).state.phase = .coast) ∧
      (simulation.coasting dtS calls n).state.phase = .descent ∧
      ∃ apogee, IsGreatest {altitudeM | ∃ i ≤ n,
          altitudeM = (simulation.coasting dtS calls i).state.altitudeM} apogee ∧
        predicted - simulation.state.velocityMps * dtS / 2 ≤ apogee ∧ apogee ≤ predicted := by
  intro predicted
  obtain ⟨n, hcoast, hfalls⟩ := exists_last_coast hgravity hdt hphase hclimbs calls
  obtain ⟨top, htop, hgreatest⟩ := Set.exists_max_image (Set.Iic (n + 1))
    (fun i => (simulation.coasting dtS calls i).state.altitudeM) (Set.finite_Iic _)
    ⟨0, Nat.zero_le _⟩
  have htop : top ≤ n + 1 := htop
  refine ⟨n + 1, fun i hi => hcoast i (by omega), ?_,
    (simulation.coasting dtS calls top).state.altitudeM, ⟨⟨top, htop, rfl⟩, ?_⟩, ?_, ?_⟩
  · rw [(coastStep_coasting hdt (hcoast n le_rfl)).phase_eq, if_pos hfalls]
  · rintro _ ⟨i, hi, rfl⟩
    exact hgreatest i hi
  · exact (le_altitude_last_coast hgravity hdt hclimbs hcoast hfalls).trans
      (hgreatest n n.le_succ)
  · exact altitude_coasting_le hgravity hdt fun i hi => hcoast i (by omega)

/-- A coast that begins on the ground with a metre per second, in steps of a tenth. -/
theorem apogee_bounds_slow :
    let simulation : FlightSimulation ℝ :=
      { config := .default
        state := { FlightState.default with phase := .coast, velocityMps := 1.0 } }
    ∃ n, (simulation.coasting 0.1 (fun _ => []) n).state.phase = .descent ∧
      ∃ apogee, IsGreatest {altitudeM | ∃ i ≤ n,
          altitudeM = (simulation.coasting 0.1 (fun _ => []) i).state.altitudeM} apogee ∧
        apogee ≤ predictedBallisticApogee simulation.config simulation.state := by
  intro simulation
  have hgravity : 0 < simulation.config.gravityMps2 := by
    norm_num [simulation, FlightConfig.default]
  have hclimbs : 0 < simulation.state.velocityMps := by norm_num [simulation]
  obtain ⟨n, -, hdescent, apogee, hgreatest, -, hle⟩ :=
    apogee_bounds hgravity (show (0 : ℝ) < 0.1 by norm_num) rfl hclimbs fun _ => []
  exact ⟨n, hdescent, apogee, hgreatest, hle⟩

end FlightDeck.Simulation
