import FlightDeck.Generator.CheckedStep
import Mathlib.Analysis.Real.Pi.Bounds
import Mathlib.Analysis.SpecialFunctions.Trigonometric.Arctan

set_option relaxedAutoImplicit false
set_option autoImplicit false

/-!
# Mass bounds and safe arithmetic

Over the real numbers, whatever the fault settings, the mass falls from its initial value and no
lower than the dry mass, so that no step divides by zero; and the thrust of a burn points upwards,
so that the gimbal stays within a right angle. The code writes a right angle with a literal that
falls short of `π`: in the landing burn of a vehicle that weighs next to nothing the command it
computes is more than 90 degrees.

## Main definitions

* `Thrust.Upwards` — a thrust that leans to each side by a given slope at most.
* `CommandsWithin` — the bounds of the four commands.
* `weakGravity`, `leaningCalls` — a flight whose gimbal command is more than 90 degrees.

## Main results

* `massKg_run_le` — the mass never increases.
* `commandsWithin_run` — the commands after any calls.
* `safe_arithmetic` — both of them, and the divisions and roots of a step.
-/

namespace FlightDeck.Simulation

variable {config : FlightConfig ℝ} {thrusterLoss : Bool} {dtS : ℝ} {state : FlightState ℝ}

/-! ## Mass -/

/-- The `switch` adds no mass. -/
lemma massKg_phaseStep_le (h : Admissible config) (hdt : 0 < dtS)
    (hmass : config.dryMassKg ≤ state.massKg) :
    (phaseStep config thrusterLoss dtS state).massKg ≤ state.massKg := by
  unfold phaseStep
  cases state.phase with
  | prelaunch =>
    simp only [prelaunch]
    split_ifs <;> exact le_rfl
  | poweredAscent =>
    have hascent : ascentMass config dtS state.massKg ≤ state.massKg := by
      rw [ascentMass_eq h.massFlow_nonneg hdt.le hmass]
      exact max_le hmass (sub_le_self _ (mul_nonneg h.massFlow_nonneg hdt.le))
    simp only [poweredAscent]
    split_ifs
    · exact (massKg_applyThrust ..).trans_le hascent
    · exact (massKg_applyThrust ..).trans_le hascent
  | coast =>
    simp only [coast]
    split_ifs <;> exact le_rfl
  | descent =>
    simp only [descent]
    split_ifs <;> exact le_rfl
  | landingBurn =>
    simp only [landingBurn]
    split_ifs
    · exact (massKg_applyThrust ..).le
    · exact (massKg_applyThrust ..).le
  | landed => exact le_rfl

/-- **Step lemma**: nor does a step. -/
lemma massKg_step_le {simulation : FlightSimulation ℝ} (h : Admissible config)
    (hfuelled : Fuelled config simulation) (hdt : 0 < dtS) :
    (simulation.step dtS).state.massKg ≤ simulation.state.massKg := by
  rcases simulation.step_cases dtS with heq | ⟨-, orientation, heq⟩
  · rw [heq]
  · rw [heq, hfuelled.config_eq]
    exact massKg_phaseStep_le h hdt hfuelled.dryMass_le

/-- **Run lemma**: the mass never increases. -/
lemma massKg_run_le {simulation : FlightSimulation ℝ} (h : Admissible config)
    (hfuelled : Fuelled config simulation) {calls : List (Call ℝ)}
    (hcalls : ∀ dtS, .step dtS ∈ calls → 0 < dtS) :
    (simulation.run calls).state.massKg ≤ simulation.state.massKg := by
  refine (hfuelled.run_induction (P := fun state => state.massKg ≤ simulation.state.massKg) h
    le_rfl ?_ hcalls).2
  intro next dtS hnext hdt hle
  exact (massKg_step_le h hnext hdt).trans hle

/-! ## Angles -/

/-- A clamp to a symmetric range. -/
lemma abs_stdClamp_le (value : ℝ) {bound : ℝ} (h : 0 ≤ bound) :
    |stdClamp value (-bound) bound| ≤ bound := by
  unfold stdClamp
  split_ifs with hlow hhigh
  · rw [abs_neg, abs_of_nonneg h]
  · exact (abs_of_nonneg h).le
  · exact abs_le.mpr ⟨not_lt.mp hlow, not_lt.mp hhigh⟩

/-- The angle of a force that points upwards. -/
lemma arg_eq_arctan {up lateral : ℝ} (hup : 0 < up) :
    Complex.arg ⟨up, lateral⟩ = Real.arctan (lateral / up) := by
  have hangle : |Complex.arg ⟨up, lateral⟩| < Real.pi / 2 :=
    Complex.abs_arg_lt_pi_div_two_iff.mpr (Or.inl hup)
  exact (Real.arctan_eq_of_tan_eq (Complex.tan_arg _) (abs_lt.mp hangle)).symm

lemma abs_arg_le {up lateral slope : ℝ} (hup : 0 < up) (h : |lateral| ≤ up * slope) :
    |Complex.arg ⟨up, lateral⟩| ≤ Real.arctan slope := by
  obtain ⟨hlow, hhigh⟩ := abs_le.mp h
  rw [arg_eq_arctan hup, abs_le, ← Real.arctan_neg]
  constructor
  · refine Real.arctan_mono ((le_div_iff₀ hup).mpr ?_)
    linarith
  · refine Real.arctan_mono ((div_le_iff₀ hup).mpr ?_)
    linarith

/-- A thrust that points upwards, and leans to each side by a given slope at most. -/
structure Thrust.Upwards (slope : ℝ) (thrust : Thrust ℝ) : Prop where
  up_pos : 0 < thrust.up
  east_le : |thrust.east| ≤ thrust.up * slope
  north_le : |thrust.north| ≤ thrust.up * slope

/-- The ascent leaves more than half of the thrust to the vertical part. -/
lemma upwards_ascentThrust (h : Admissible config) {thrustN massKg : ℝ} (hthrust : 0 < thrustN)
    (hmass : 0 ≤ massKg) : (ascentThrust config thrustN massKg).Upwards 1 := by
  have heast := mul_nonneg hmass h.ascentHorizontal_nonneg
  have hnorth := mul_nonneg hmass h.ascentCrossrange_nonneg
  unfold ascentThrust
  simp only [stdMin_eq, stdMax_eq]
  set east := min (massKg * config.ascentHorizontalAccelerationMps2) (thrustN * 0.25)
  set north := min (massKg * config.ascentCrossrangeAccelerationMps2) (thrustN * 0.1)
  have heast₀ : 0 ≤ east := le_min heast (by positivity)
  have heast₁ : east ≤ thrustN / 4 := (min_le_right _ _).trans_eq (by norm_num; ring)
  have hnorth₀ : 0 ≤ north := le_min hnorth (by positivity)
  have hnorth₁ : north ≤ thrustN / 10 := (min_le_right _ _).trans_eq (by norm_num; ring)
  have hup : thrustN / 2 ≤
      CMath.sqrt (max 0.0 (thrustN * thrustN - east * east - north * north)) := by
    refine Real.le_sqrt_of_sq_le (le_max_of_le_right ?_)
    have := mul_self_le_mul_self heast₀ heast₁
    have := mul_self_le_mul_self hnorth₀ hnorth₁
    nlinarith [mul_self_nonneg thrustN]
  refine ⟨(half_pos hthrust).trans_le hup, ?_, ?_⟩
  · rw [abs_of_nonneg heast₀, mul_one]
    linarith
  · rw [abs_of_nonneg hnorth₀, mul_one]
    linarith

/-- The landing burn carries the weight, and asks for an acceleration of 4 to each side. -/
lemma upwards_desiredThrust (h : Admissible config) (hmass : 0 < state.massKg) :
    (desiredThrust config state).Upwards (4 / config.gravityMps2) := by
  have hgravity := h.gravity_pos
  have hlateral : ∀ target position velocity : ℝ,
      |desiredAcceleration target position velocity| ≤ 4 := by
    intro target position velocity
    exact (abs_stdClamp_le _ (by norm_num)).trans_eq (by norm_num)
  unfold desiredThrust
  dsimp only
  set upward : ℝ := if state.velocityMps < 0.0 then
    state.velocityMps * state.velocityMps / (2.0 * stdMax state.altitudeM 1.0) * 1.05 else 0.0
  have hupward : 0 ≤ upward := by
    have hsafe : 0 < stdMax state.altitudeM 1.0 := by
      rw [stdMax_eq]
      exact lt_max_of_lt_right (by norm_num)
    unfold upward
    split_ifs
    · have := mul_self_nonneg state.velocityMps
      positivity
    · norm_num
  have hslope : state.massKg * 4 ≤
      state.massKg * (config.gravityMps2 + upward) * (4 / config.gravityMps2) := by
    rw [mul_assoc]
    refine mul_le_mul_of_nonneg_left ?_ hmass.le
    rw [add_mul, mul_div_cancel₀ _ hgravity.ne']
    exact le_add_of_nonneg_right (by positivity)
  refine ⟨by positivity, ?_, ?_⟩
  · rw [abs_mul, abs_of_pos hmass]
    exact (mul_le_mul_of_nonneg_left (hlateral _ _ _) hmass.le).trans hslope
  · rw [abs_mul, abs_of_pos hmass]
    exact (mul_le_mul_of_nonneg_left (hlateral _ _ _) hmass.le).trans hslope

/-- A thrust that is scaled down leans as much as before. -/
lemma Thrust.Upwards.limit {thrust : Thrust ℝ} {slope maximumThrust : ℝ}
    (h : thrust.Upwards slope) (hmaximum : 0 < maximumThrust) :
    (thrust.limit maximumThrust).Upwards slope := by
  unfold Thrust.limit
  dsimp only
  split_ifs with hlong
  · have hscale : 0 < maximumThrust / thrust.magnitude :=
      div_pos hmaximum (hmaximum.trans hlong)
    refine ⟨mul_pos h.up_pos hscale, ?_, ?_⟩
    · rw [abs_mul, abs_of_pos hscale, mul_right_comm]
      exact mul_le_mul_of_nonneg_right h.east_le hscale.le
    · rw [abs_mul, abs_of_pos hscale, mul_right_comm]
      exact mul_le_mul_of_nonneg_right h.north_le hscale.le
  · exact h

/-! ## Commands -/

lemma kRadiansToDegrees_pos : 0 < (kRadiansToDegrees : ℝ) := by norm_num [kRadiansToDegrees]

/-- How far the thrust of a phase leans to a side. -/
noncomputable def slope (config : FlightConfig ℝ) (phase : MissionPhase) : ℝ :=
  if phase = .landingBurn then 4 / config.gravityMps2 else 1

/-- The bounds of the four commands. -/
structure CommandsWithin (config : FlightConfig ℝ) (state : FlightState ℝ) : Prop where
  gridFin_le : ∀ i, |state.gridFinCommandDeg i| ≤ 20
  gimbal_le : ∀ i, |state.gimbalCommandDeg i| ≤
    Real.arctan (slope config state.phase) * kRadiansToDegrees

lemma Admissible.slope_pos (h : Admissible config) (phase : MissionPhase) :
    0 < slope config phase := by
  have := h.gravity_pos
  unfold slope
  split_ifs <;> positivity

/-- A command that is centred. -/
lemma abs_centred_le {bound : ℝ} (h : 0 ≤ bound) (i : Fin 2) :
    |(![0.0, 0.0] : Fin 2 → ℝ) i| ≤ bound := by
  have hzero : (![0.0, 0.0] : Fin 2 → ℝ) i = 0 := by
    fin_cases i <;> norm_num
  rw [hzero, abs_zero]
  exact h

/-- A centred gimbal is within any bound. -/
lemma CommandsWithin.of_centred (h : Admissible config)
    (hgimbal : state.gimbalCommandDeg = ![0.0, 0.0])
    (hgridFin : ∀ i, |state.gridFinCommandDeg i| ≤ 20) : CommandsWithin config state := by
  refine ⟨hgridFin, ?_⟩
  intro i
  rw [hgimbal]
  exact abs_centred_le (mul_nonneg (Real.arctan_nonneg.mpr (h.slope_pos _).le)
    kRadiansToDegrees_pos.le) i

/-- A transition keeps the commands or centres them. -/
lemma CommandsWithin.transitionTo (h : Admissible config) {next : MissionPhase}
    (hgimbal : state.gimbalCommandDeg = ![0.0, 0.0] ∨
      next ≠ .poweredAscent ∧ next ≠ .landingBurn)
    (hgridFin : ∀ i, |state.gridFinCommandDeg i| ≤ 20) :
    CommandsWithin config (transitionTo next state) := by
  refine .of_centred h ?_ ?_
  · unfold Simulation.transitionTo
    dsimp only
    rcases hgimbal with hcentred | hnext
    · rw [hcentred, ite_self]
    · exact if_pos hnext
  · intro i
    unfold Simulation.transitionTo
    dsimp only
    split_ifs
    · exact abs_centred_le (by norm_num) i
    · exact hgridFin i

/-- The gimbal of a burn follows its thrust. -/
lemma CommandsWithin.applyThrust {thrust : Thrust ℝ}
    (hthrust : thrust.Upwards (slope config state.phase))
    (hgridFin : ∀ i, |state.gridFinCommandDeg i| ≤ 20) :
    CommandsWithin config (applyThrust config dtS thrust state) := by
  obtain ⟨orientation, heq⟩ := exists_applyThrust config dtS thrust state
  have hangle : ∀ lateral, |lateral| ≤ thrust.up * slope config state.phase →
      |CMath.atan2 lateral thrust.up * kRadiansToDegrees| ≤
        Real.arctan (slope config state.phase) * kRadiansToDegrees := by
    intro lateral hle
    rw [abs_mul, abs_of_pos kRadiansToDegrees_pos]
    exact mul_le_mul_of_nonneg_right (abs_arg_le hthrust.up_pos hle) kRadiansToDegrees_pos.le
  rw [heq]
  refine ⟨hgridFin, Fin.forall_fin_two.mpr ⟨?_, ?_⟩⟩
  · exact hangle _ hthrust.east_le
  · exact hangle _ hthrust.north_le

/-- The share of the grid fins that a clamped acceleration takes. -/
lemma abs_gridFinCommand_le (h : Admissible config) (target position velocity : ℝ) :
    |gridFinAcceleration config target position velocity /
        config.maximumGridFinAccelerationMps2 * kMaximumGridFinDeflectionDeg| ≤ 20 := by
  have hlimit := h.gridFin_pos
  have hclamp : |gridFinAcceleration config target position velocity| ≤
      config.maximumGridFinAccelerationMps2 := abs_stdClamp_le _ hlimit.le
  have hmaximum : (kMaximumGridFinDeflectionDeg : ℝ) = 20 := by
    norm_num [kMaximumGridFinDeflectionDeg]
  rw [hmaximum, abs_mul, abs_div, abs_of_pos hlimit]
  have hshare : |gridFinAcceleration config target position velocity| /
      config.maximumGridFinAccelerationMps2 ≤ 1 := (div_le_one hlimit).mpr hclamp
  norm_num
  linarith

/-- **Step lemma**: the `switch`, from a state whose commands have been reset. -/
lemma commandsWithin_phaseStep (h : Admissible config) (hdt : 0 < dtS)
    (hmass : config.dryMassKg ≤ state.massKg) (hgimbal : state.gimbalCommandDeg = ![0.0, 0.0])
    (hgridFin : state.gridFinCommandDeg = ![0.0, 0.0]) :
    CommandsWithin config (phaseStep config thrusterLoss dtS state) := by
  have hfins : ∀ i, |state.gridFinCommandDeg i| ≤ 20 := by
    intro i
    rw [hgridFin]
    exact abs_centred_le (by norm_num) i
  have hpos := h.availableThrust_pos thrusterLoss
  unfold phaseStep
  cases hphase : state.phase with
  | prelaunch =>
    simp only [prelaunch]
    split_ifs
    · exact .transitionTo h (Or.inl hgimbal) hfins
    · exact .of_centred h hgimbal hfins
  | poweredAscent =>
    have hmass' : 0 ≤ ascentMass config dtS state.massKg := by
      rw [ascentMass_eq h.massFlow_nonneg hdt.le hmass]
      exact le_max_of_le_left h.dryMass_pos.le
    have hthrust := upwards_ascentThrust h hpos hmass'
    have hslope : slope config state.phase = 1 := if_neg (by rw [hphase]; decide)
    rw [← hslope] at hthrust
    simp only [poweredAscent, maximumThrust_mul_thrustFactor]
    split_ifs
    · refine .transitionTo h (Or.inr ⟨by decide, by decide⟩) ?_
      rw [gridFinCommandDeg_applyThrust]
      exact hfins
    · exact .applyThrust hthrust hfins
  | coast =>
    simp only [coast]
    split_ifs
    · exact .transitionTo h (Or.inl hgimbal) hfins
    · exact .of_centred h hgimbal hfins
  | descent =>
    simp only [descent]
    split_ifs
    · exact .transitionTo h (Or.inl hgimbal) (Fin.forall_fin_two.mpr
        ⟨abs_gridFinCommand_le h _ _ _, abs_gridFinCommand_le h _ _ _⟩)
    · exact .of_centred h hgimbal (Fin.forall_fin_two.mpr
        ⟨abs_gridFinCommand_le h _ _ _, abs_gridFinCommand_le h _ _ _⟩)
  | landingBurn =>
    have hthrust := (upwards_desiredThrust h (h.dryMass_pos.trans_le hmass)).limit hpos
    have hslope : slope config state.phase = 4 / config.gravityMps2 := if_pos hphase
    rw [← hslope] at hthrust
    simp only [landingBurn, maximumThrust_mul_thrustFactor]
    split_ifs
    · refine .transitionTo h (Or.inr ⟨by decide, by decide⟩) ?_
      dsimp only
      rw [gridFinCommandDeg_applyThrust]
      exact hfins
    · exact .applyThrust hthrust hfins
  | landed => exact .of_centred h hgimbal hfins

/-- A step resets the commands before it branches. -/
lemma CommandsWithin.step {simulation : FlightSimulation ℝ} (h : Admissible config)
    (hfuelled : Fuelled config simulation) (hdt : 0 < dtS)
    (hwithin : CommandsWithin config simulation.state) :
    CommandsWithin config (simulation.step dtS).state := by
  rcases simulation.step_cases dtS with heq | ⟨-, orientation, heq⟩
  · rw [heq]
    exact hwithin
  · have hcommands : CommandsWithin config (phaseStep config simulation.thrusterLoss dtS
        (beginStep dtS simulation.state)) :=
      commandsWithin_phaseStep h hdt hfuelled.dryMass_le rfl rfl
    rw [heq, hfuelled.config_eq]
    exact ⟨hcommands.gridFin_le, hcommands.gimbal_le⟩

/-- **Run lemma**: the commands after any calls. -/
lemma commandsWithin_run (h : Admissible config) {calls : List (Call ℝ)}
    (hcalls : ∀ dtS, .step dtS ∈ calls → 0 < dtS) :
    CommandsWithin config ((FlightSimulation.new config).run calls).state := by
  have hstart : CommandsWithin config (FlightSimulation.new config).state :=
    .of_centred h rfl (abs_centred_le (by norm_num))
  refine ((fuelled_new h).run_induction (P := CommandsWithin config) h hstart ?_ hcalls).2
  intro simulation dtS hfuelled hdt hwithin
  exact hwithin.step h hfuelled hdt

/-! ## Right angles -/

/-- The literal for `π`. -/
lemma kRadiansToDegrees_mul_literal :
    (3.14159265358979323846 / 2 : ℝ) * kRadiansToDegrees = 90 := by
  norm_num [kRadiansToDegrees]

/-- A slope of 45 degrees is less than that of half the literal. -/
lemma one_lt_tan_literal : 1 < Real.tan (3.14159265358979323846 / 2) := by
  have hliteral := Real.pi_gt_d20
  have hupper := Real.pi_lt_d20
  rw [← Real.tan_pi_div_four]
  refine Real.tan_lt_tan_of_lt_of_lt_pi_div_two ?_ ?_ ?_
  · linarith
  · linarith
  · norm_num at hupper ⊢
    linarith

/-- A slope that is less than that of half the literal keeps a command below 90 degrees. -/
lemma arctan_mul_lt_ninety {slope : ℝ} (h : slope < Real.tan (3.14159265358979323846 / 2)) :
    Real.arctan slope * kRadiansToDegrees < 90 := by
  have hliteral := Real.pi_gt_d20
  have hangle : Real.arctan (Real.tan (3.14159265358979323846 / 2)) =
      3.14159265358979323846 / 2 :=
    Real.arctan_tan (by linarith [Real.pi_pos]) (by linarith)
  rw [← kRadiansToDegrees_mul_literal, ← hangle]
  exact mul_lt_mul_of_pos_right (Real.arctan_strictMono h) kRadiansToDegrees_pos

/-- A right angle, as the code converts it, is hardly more than 90 degrees. -/
lemma rightAngle_lt : Real.pi / 2 * kRadiansToDegrees < 90 + 1e-18 := by
  have hpi := Real.pi_lt_d20
  unfold kRadiansToDegrees
  norm_num at hpi ⊢
  linarith

/-- **Mass bounds and safe arithmetic.** In an admissible configuration, after any calls with
positive time steps: the mass lies between the dry mass and the initial mass, and later calls do
not increase it; a further step divides by nothing that is zero and takes the root of nothing that
is negative; the grid-fin commands stay within 20 degrees; and the gimbal commands stay strictly
within a right angle as the code converts it, which is hardly more than 90 degrees, and strictly
within 90 degrees unless the vehicle is in the landing burn and its gravity is next to nothing. -/
theorem safe_arithmetic (h : Admissible config) {calls : List (Call ℝ)}
    (hcalls : ∀ dtS, .step dtS ∈ calls → 0 < dtS) :
    let simulation := (FlightSimulation.new config).run calls
    (config.dryMassKg ≤ simulation.state.massKg ∧
        simulation.state.massKg ≤ config.initialMassKg ∧
        ∀ later : List (Call ℝ), (∀ dtS, .step dtS ∈ later → 0 < dtS) →
          (simulation.run later).state.massKg ≤ simulation.state.massKg) ∧
      (∀ dtS > 0, Checked.step simulation dtS = some (simulation.step dtS)) ∧
      (∀ i, |simulation.state.gridFinCommandDeg i| ≤ 20) ∧
      (∀ i, |simulation.state.gimbalCommandDeg i| < Real.pi / 2 * kRadiansToDegrees) ∧
      Real.pi / 2 * kRadiansToDegrees < 90 + 1e-18 ∧
      (simulation.state.phase ≠ .landingBurn ∨
          4 / config.gravityMps2 < Real.tan (3.14159265358979323846 / 2) →
        ∀ i, |simulation.state.gimbalCommandDeg i| < 90) := by
  intro simulation
  have hfuelled : Fuelled config simulation := fuelled_run h hcalls
  have hwithin : CommandsWithin config simulation.state := commandsWithin_run h hcalls
  refine ⟨⟨hfuelled.dryMass_le, massKg_run_le h (fuelled_new h) hcalls,
    fun later hlater => massKg_run_le h hfuelled hlater⟩,
    fun dtS hdt => Checked.step_eq_some h hfuelled hdt, hwithin.gridFin_le, ?_, rightAngle_lt, ?_⟩
  · intro i
    refine (hwithin.gimbal_le i).trans_lt ?_
    exact mul_lt_mul_of_pos_right (Real.arctan_lt_pi_div_two _) kRadiansToDegrees_pos
  · intro hslope i
    refine (hwithin.gimbal_le i).trans_lt (arctan_mul_lt_ninety ?_)
    unfold slope
    split_ifs with hphase
    · exact hslope.resolve_left (not_not.mpr hphase)
    · exact one_lt_tan_literal

/-- A burn with a thruster lost: the vehicle has grown lighter and leans, and nothing that the next
step divides by is zero. -/
theorem safe_arithmetic_oneLost :
    let simulation := oneLost.step 1
    simulation.state.phase = .poweredAscent ∧ simulation.state.massKg = 19800 ∧
      (simulation.step 1).state.massKg ≤ 19800 ∧
      Checked.step simulation 1 = some (simulation.step 1) ∧
      0 < simulation.state.gimbalCommandDeg 0 ∧ simulation.state.gimbalCommandDeg 0 < 90 := by
  intro simulation
  obtain ⟨hphase, -, hmass, hleans⟩ := oneLost_step
  have hcalls : ∀ dtS, .step dtS ∈ [Call.step (2.0 : ℝ), .setThrusterLoss true, .step 1] →
      0 < dtS := by
    intro dtS hmem
    have hcases : dtS = 2.0 ∨ dtS = 1 := by simpa using hmem
    rcases hcases with rfl | rfl <;> norm_num
  obtain ⟨⟨-, -, hlater⟩, hchecked, -, -, -, hgimbal⟩ := safe_arithmetic admissible_default hcalls
  have hspent : (simulation.step 1).state.massKg ≤ simulation.state.massKg :=
    hlater [.step 1] (by simp)
  have hburning : simulation.state.phase ≠ .landingBurn := by
    rw [hphase]
    decide
  exact ⟨hphase, hmass, hspent.trans_eq hmass, hchecked 1 one_pos, hleans,
    (abs_lt.mp (hgimbal (Or.inl hburning) 0)).2⟩

/-! ## Weak gravity -/

/-- What the literal for `π` leaves out. -/
noncomputable def truncation : ℝ := Real.pi - 3.14159265358979323846

/-- A vehicle on a body with next to no gravity, that is to land far away. -/
noncomputable def weakGravity : FlightConfig ℝ where
  gravityMps2 := truncation
  initialMassKg := 1.0
  dryMassKg := 1.0
  maximumThrustN := truncation + truncation
  ascentMassFlowKgps := 0.0
  prelaunchDurationS := 0.0
  ascentBurnDurationS := 0.0
  landingBurnMargin := 10.0
  targetApogeeM := 0.0
  targetDownrangeM := 1000.0
  targetCrossrangeM := 0.0
  ascentHorizontalAccelerationMps2 := 0.0
  ascentCrossrangeAccelerationMps2 := 0.0
  maximumGridFinAccelerationMps2 := 1.0

/-- Steps into the landing burn: one for each phase. -/
noncomputable def leaningCalls : List (Call ℝ) :=
  [.step 1.0, .step 1.0, .step 1.0, .step 0.5, .step 0.5]

lemma truncation_pos : 0 < truncation := sub_pos.mpr Real.pi_gt_d20

lemma truncation_lt_one : truncation < 1 := by
  have := Real.pi_lt_d20
  unfold truncation
  norm_num at this ⊢
  linarith

lemma admissible_weakGravity : Admissible weakGravity := by
  have := truncation_pos
  constructor <;> norm_num [weakGravity, this]

/-- Where the vehicle is between two of these steps. -/
structure Flying (phase : MissionPhase)
    (altitudeM velocityMps downrangeM horizontalVelocityMps : ℝ)
    (simulation : FlightSimulation ℝ) : Prop where
  config_eq : simulation.config = weakGravity
  thrusterLoss_eq : simulation.thrusterLoss = false
  phase_eq : simulation.state.phase = phase
  massKg_eq : simulation.state.massKg = 1
  altitudeM_eq : simulation.state.altitudeM = altitudeM
  velocityMps_eq : simulation.state.velocityMps = velocityMps
  downrangeM_eq : simulation.state.downrangeM = downrangeM
  horizontalVelocityMps_eq : simulation.state.horizontalVelocityMps = horizontalVelocityMps

variable {simulation : FlightSimulation ℝ} {phase : MissionPhase}
  {altitudeM velocityMps downrangeM horizontalVelocityMps : ℝ}

/-- A step is that of the `switch`, and turns the vehicle. -/
lemma Flying.exists_step
    (h : Flying phase altitudeM velocityMps downrangeM horizontalVelocityMps simulation)
    (hphase : phase ≠ .landed) (hdt : 0 < dtS) :
    ∃ orientationWxyz, simulation.step dtS = { simulation with state :=
      { phaseStep weakGravity false dtS (beginStep dtS simulation.state) with
        orientationWxyz } } := by
  obtain ⟨orientation, heq⟩ := exists_normalizeOrientation
    (phaseStep weakGravity false dtS (beginStep dtS simulation.state))
  refine ⟨orientation, ?_⟩
  rw [FlightSimulation.step_of_ne_landed (by norm_num [hdt]) rfl (h.phase_eq ▸ hphase),
    h.config_eq, h.thrusterLoss_eq, heq]

/-- On the pad. -/
lemma flying_new : Flying .prelaunch 0 0 0 0 (.new weakGravity) := by
  constructor <;> norm_num [FlightSimulation.new, FlightState.default, weakGravity]

/-- It starts at once. -/
lemma Flying.prelaunch (h : Flying .prelaunch 0 0 0 0 simulation)
    (htime : 0 ≤ simulation.state.phaseTimeS) :
    Flying .poweredAscent 0 0 0 0 (simulation.step 1.0) := by
  obtain ⟨orientation, heq⟩ := h.exists_step (by decide) (show (0 : ℝ) < 1.0 by norm_num)
  have hstep : phaseStep weakGravity false 1.0 (beginStep 1.0 simulation.state) =
      transitionTo .poweredAscent
        { beginStep 1.0 simulation.state with accelerationMps2 := 0.0 } := by
    have hphase : (beginStep 1.0 simulation.state).phase = .prelaunch := h.phase_eq
    unfold phaseStep
    rw [hphase]
    refine if_pos ?_
    norm_num [beginStep, weakGravity]
    linarith
  rw [heq, hstep]
  exact ⟨h.config_eq, h.thrusterLoss_eq, rfl, h.massKg_eq, h.altitudeM_eq, h.velocityMps_eq,
    h.downrangeM_eq, h.horizontalVelocityMps_eq⟩

/-- The ascent runs straight upwards. -/
lemma ascentThrust_weakGravity :
    ascentThrust weakGravity (truncation + truncation) 1 =
      ⟨0, 0, truncation + truncation⟩ := by
  have hpos := truncation_pos
  have hsquare : 0 ≤ (truncation + truncation) * (truncation + truncation) := by positivity
  unfold ascentThrust
  simp only [stdMin_eq, stdMax_eq]
  have heast : min (1 * weakGravity.ascentHorizontalAccelerationMps2)
      ((truncation + truncation) * 0.25) = 0 := by
    rw [min_eq_left] <;> norm_num [weakGravity]
    linarith
  have hnorth : min (1 * weakGravity.ascentCrossrangeAccelerationMps2)
      ((truncation + truncation) * 0.1) = 0 := by
    rw [min_eq_left] <;> norm_num [weakGravity]
    linarith
  have hup : CMath.sqrt (max 0.0 ((truncation + truncation) * (truncation + truncation) - 0 * 0 -
      0 * 0)) = truncation + truncation := by
    norm_num
    rw [max_eq_right hsquare]
    exact Real.sqrt_mul_self (by linarith)
  rw [heast, hnorth, hup]

/-- It has no propellant, so that the ascent lasts for one step. -/
lemma Flying.poweredAscent (h : Flying .poweredAscent 0 0 0 0 simulation) :
    Flying .coast truncation truncation 0 0 (simulation.step 1.0) := by
  have hpos := truncation_pos
  obtain ⟨orientation, heq⟩ := h.exists_step (by decide) (show (0 : ℝ) < 1.0 by norm_num)
  have hmass : ascentMass weakGravity 1.0 (beginStep 1.0 simulation.state).massKg = 1 := by
    rw [show (beginStep 1.0 simulation.state).massKg = 1 from h.massKg_eq,
      ascentMass_eq (by norm_num [weakGravity]) (by norm_num) (by norm_num [weakGravity])]
    norm_num [weakGravity]
  have hthrust : weakGravity.maximumThrustN * thrustFactor false = truncation + truncation := by
    norm_num [weakGravity, thrustFactor]
  obtain ⟨turned, hmoved⟩ := exists_applyThrust weakGravity 1.0 ⟨0, 0, truncation + truncation⟩
    { beginStep 1.0 simulation.state with thrustN := truncation + truncation, massKg := 1 }
  have hphase : (beginStep 1.0 simulation.state).phase = .poweredAscent := h.phase_eq
  have hstep : phaseStep weakGravity false 1.0 (beginStep 1.0 simulation.state) =
      transitionTo .coast (applyThrust weakGravity 1.0 ⟨0, 0, truncation + truncation⟩
        { beginStep 1.0 simulation.state with
          thrustN := truncation + truncation, massKg := 1 }) := by
    unfold phaseStep
    rw [hphase]
    simp only [Simulation.poweredAscent, hmass, hthrust, ascentThrust_weakGravity]
    refine if_pos (Or.inr (Or.inr ?_))
    rw [massKg_applyThrust]
    norm_num [weakGravity]
  rw [heq, hstep, hmoved]
  constructor
  case config_eq => exact h.config_eq
  case thrusterLoss_eq => exact h.thrusterLoss_eq
  case phase_eq => rfl
  case massKg_eq => rfl
  case altitudeM_eq =>
    norm_num [transitionTo, updatePosition, updateVelocity, beginStep, h.altitudeM_eq,
      h.velocityMps_eq, weakGravity]
  case velocityMps_eq =>
    norm_num [transitionTo, updatePosition, updateVelocity, beginStep, h.velocityMps_eq,
      weakGravity]
  case downrangeM_eq =>
    norm_num [transitionTo, updatePosition, updateVelocity, beginStep, h.downrangeM_eq,
      h.horizontalVelocityMps_eq]
  case horizontalVelocityMps_eq =>
    norm_num [transitionTo, updatePosition, updateVelocity, beginStep,
      h.horizontalVelocityMps_eq]

/-- The next one takes its velocity away. -/
lemma Flying.coast (h : Flying .coast truncation truncation 0 0 simulation) :
    Flying .descent truncation 0 0 0 (simulation.step 1.0) := by
  obtain ⟨orientation, heq⟩ := h.exists_step (by decide) (show (0 : ℝ) < 1.0 by norm_num)
  have hphase : (beginStep 1.0 simulation.state).phase = .coast := h.phase_eq
  have hvelocity : (beginStep 1.0 simulation.state).velocityMps = truncation := h.velocityMps_eq
  have hfalling : (beginStep 1.0 simulation.state).velocityMps +
      -weakGravity.gravityMps2 * 1.0 = 0 := by
    rw [hvelocity]
    norm_num [weakGravity]
  have hstep := show phaseStep weakGravity false 1.0 (beginStep 1.0 simulation.state) =
      Simulation.coast weakGravity 1.0 (beginStep 1.0 simulation.state) by
    unfold phaseStep
    rw [hphase]
  simp only [Simulation.coast, updatePosition, hfalling] at hstep
  rw [if_pos (by norm_num)] at hstep
  rw [heq, hstep]
  refine ⟨h.config_eq, h.thrusterLoss_eq, rfl, h.massKg_eq, ?_, rfl, ?_, ?_⟩
  · norm_num [transitionTo, beginStep, h.altitudeM_eq]
  · norm_num [transitionTo, beginStep, h.downrangeM_eq, h.horizontalVelocityMps_eq]
  · exact h.horizontalVelocityMps_eq

/-- It falls, and the engines could not stop it much later. -/
lemma Flying.descent (h : Flying .descent truncation 0 0 0 simulation) :
    Flying .landingBurn (truncation * 3 / 4) (-truncation / 2) (1 / 5) (2 / 5)
      (simulation.step 0.5) := by
  have hpos := truncation_pos
  obtain ⟨orientation, heq⟩ := h.exists_step (by decide) (show (0 : ℝ) < 0.5 by norm_num)
  have hphase : (beginStep 0.5 simulation.state).phase = .descent := h.phase_eq
  have heast : gridFinAcceleration weakGravity weakGravity.targetDownrangeM
      (beginStep 0.5 simulation.state).downrangeM
      (beginStep 0.5 simulation.state).horizontalVelocityMps = 0.8 := by
    rw [show (beginStep 0.5 simulation.state).downrangeM = 0 from h.downrangeM_eq,
      show (beginStep 0.5 simulation.state).horizontalVelocityMps = 0 from
        h.horizontalVelocityMps_eq]
    norm_num [gridFinAcceleration, stdClamp, weakGravity]
  obtain ⟨fallen, hfallen⟩ : ∃ fallen : FlightState ℝ,
      phaseStep weakGravity false 0.5 (beginStep 0.5 simulation.state) =
        (if shouldStartLandingBurn weakGravity false fallen then
          transitionTo .landingBurn fallen else fallen) ∧
      fallen.massKg = 1 ∧ fallen.altitudeM = truncation * 3 / 4 ∧
      fallen.velocityMps = -truncation / 2 ∧ fallen.downrangeM = 1 / 5 ∧
      fallen.horizontalVelocityMps = 2 / 5 := by
    unfold phaseStep
    rw [hphase]
    simp only [Simulation.descent, heast]
    refine ⟨_, rfl, h.massKg_eq, ?_, ?_, ?_, ?_⟩
    · norm_num [updatePosition, updateVelocity, beginStep, h.altitudeM_eq, h.velocityMps_eq,
        weakGravity]
      ring
    · norm_num [updatePosition, updateVelocity, beginStep, h.velocityMps_eq, weakGravity]
      ring
    · norm_num [updatePosition, updateVelocity, beginStep, h.downrangeM_eq,
        h.horizontalVelocityMps_eq]
    · norm_num [updatePosition, updateVelocity, beginStep, h.horizontalVelocityMps_eq]
  obtain ⟨hstep, hmass, haltitude, hvelocity, hdownrange, hhorizontal⟩ := hfallen
  have hstart : shouldStartLandingBurn weakGravity false fallen = true := by
    unfold shouldStartLandingBurn
    rw [hmass, haltitude, hvelocity]
    have hstopping : -truncation / 2 * (-truncation / 2) / (2 * truncation) * 10 =
        truncation * 5 / 4 := by
      field_simp
      norm_num
    norm_num [weakGravity, thrustFactor]
    rw [hstopping]
    exact ⟨by linarith, Or.inr (by linarith)⟩
  rw [heq, hstep, if_pos hstart]
  exact ⟨h.config_eq, h.thrusterLoss_eq, rfl, hmass, haltitude, hvelocity, hdownrange,
    hhorizontal⟩

/-- The thrust that it asks for then leans to the east by more than half the literal. -/
lemma literal_le_arg {up : ℝ} (hup : 0 < up) (hle : up ≤ 2 * truncation) :
    3.14159265358979323846 / 2 ≤ Complex.arg ⟨up, 4⟩ := by
  have hinverse : Real.arctan (4 / up) = Real.pi / 2 - Real.arctan (up / 4) := by
    rw [← Real.arctan_inv_of_pos (by positivity), inv_div]
  have hsmall : Real.arctan (up / 4) ≤ up / 4 := by
    have htan := Real.le_tan (Real.arctan_nonneg.mpr (show 0 ≤ up / 4 by positivity))
      (Real.arctan_lt_pi_div_two _)
    rwa [Real.tan_arctan] at htan
  rw [arg_eq_arctan hup, hinverse]
  unfold truncation at hle
  linarith

/-- A thrust that is scaled down keeps its direction. -/
lemma arg_limit (thrust : Thrust ℝ) {maximumThrust : ℝ} (h : 0 < maximumThrust) :
    Complex.arg ⟨(thrust.limit maximumThrust).up, (thrust.limit maximumThrust).east⟩ =
      Complex.arg ⟨thrust.up, thrust.east⟩ := by
  unfold Thrust.limit
  dsimp only
  split_ifs with hlong
  · have hscale : 0 < maximumThrust / thrust.magnitude := div_pos h (h.trans hlong)
    rw [← Complex.arg_mul_real hscale ⟨thrust.up, thrust.east⟩]
    congr 1
    apply Complex.ext <;> simp
  · rfl

/-- What it asks for when the landing burn begins. -/
lemma desiredThrust_weakGravity (hmass : state.massKg = 1)
    (haltitude : state.altitudeM = truncation * 3 / 4)
    (hvelocity : state.velocityMps = -truncation / 2) (hdownrange : state.downrangeM = 1 / 5)
    (hhorizontal : state.horizontalVelocityMps = 2 / 5) :
    (desiredThrust weakGravity state).east = 4 ∧
      (desiredThrust weakGravity state).up ≤ 2 * truncation := by
  have hpos := truncation_pos
  have hone := truncation_lt_one
  have hsafe : stdMax (truncation * 3 / 4) 1.0 = 1 := by
    rw [stdMax_eq, max_eq_right] <;> norm_num
    linarith
  have hup : (desiredThrust weakGravity state).up = truncation + truncation ^ 2 * 0.13125 := by
    simp only [desiredThrust, hmass, haltitude, hvelocity, hsafe]
    norm_num [weakGravity]
    rw [if_pos (by linarith)]
    ring
  refine ⟨?_, ?_⟩
  · simp only [desiredThrust, hmass, hdownrange, hhorizontal]
    norm_num [desiredAcceleration, stdClamp, weakGravity]
  · have hsquare : truncation ^ 2 ≤ truncation := by nlinarith
    rw [hup]
    norm_num
    linarith

/-- The burn begins with a step that does not land. -/
lemma Flying.landingBurn
    (h : Flying .landingBurn (truncation * 3 / 4) (-truncation / 2) (1 / 5) (2 / 5) simulation) :
    90 ≤ (simulation.step 0.5).state.gimbalCommandDeg 0 := by
  have hpos := truncation_pos
  obtain ⟨orientation, heq⟩ := h.exists_step (by decide) (show (0 : ℝ) < 0.5 by norm_num)
  have hphase : (beginStep 0.5 simulation.state).phase = .landingBurn := h.phase_eq
  have haltitude : (beginStep 0.5 simulation.state).altitudeM = truncation * 3 / 4 :=
    h.altitudeM_eq
  have hvelocity : (beginStep 0.5 simulation.state).velocityMps = -truncation / 2 :=
    h.velocityMps_eq
  have hmass : (beginStep 0.5 simulation.state).massKg = 1 := h.massKg_eq
  set begun := beginStep 0.5 simulation.state
  obtain ⟨heast, hsmall⟩ := desiredThrust_weakGravity hmass haltitude hvelocity h.downrangeM_eq
    h.horizontalVelocityMps_eq
  have hdesired : (desiredThrust weakGravity begun).Upwards (4 / truncation) :=
    upwards_desiredThrust admissible_weakGravity (by rw [hmass]; exact one_pos)
  have hmaximum : weakGravity.maximumThrustN * thrustFactor false = 2 * truncation := by
    norm_num [weakGravity, thrustFactor]
    ring
  set thrust := (desiredThrust weakGravity begun).limit (2 * truncation) with hthrust
  have hupwards : 0 < thrust.up := (hdesired.limit (by linarith)).up_pos
  have hangle : 3.14159265358979323846 / 2 ≤ Complex.arg ⟨thrust.up, thrust.east⟩ := by
    rw [hthrust, arg_limit _ (by linarith), heast]
    exact literal_le_arg hdesired.up_pos hsmall
  obtain ⟨turned, hmoved⟩ := exists_applyThrust weakGravity 0.5 thrust
    { begun with thrustN := thrust.magnitude }
  have hairborne : ¬(applyThrust weakGravity 0.5 thrust
      { begun with thrustN := thrust.magnitude }).altitudeM ≤ 0.0 := by
    rw [hmoved]
    norm_num [updatePosition, updateVelocity, haltitude, hvelocity, hmass, weakGravity]
    linarith
  have hstep : phaseStep weakGravity false 0.5 begun =
      applyThrust weakGravity 0.5 thrust { begun with thrustN := thrust.magnitude } := by
    have hswitch : phaseStep weakGravity false 0.5 begun =
        Simulation.landingBurn weakGravity false 0.5 begun := by
      unfold phaseStep
      rw [hphase]
    rw [hswitch]
    simp only [Simulation.landingBurn, hmaximum]
    rw [← hthrust, if_neg hairborne]
  rw [heq, hstep, hmoved]
  show 90 ≤ Complex.arg ⟨thrust.up, thrust.east⟩ * kRadiansToDegrees
  rw [← kRadiansToDegrees_mul_literal]
  exact mul_le_mul_of_nonneg_right hangle kRadiansToDegrees_pos.le

/-- Its gimbal command is not strictly within 90 degrees. -/
theorem not_gimbal_lt_ninety_leaning :
    Admissible weakGravity ∧ (∀ dtS, .step dtS ∈ leaningCalls → 0 < dtS) ∧
      ¬∀ i, |((FlightSimulation.new weakGravity).run leaningCalls).state.gimbalCommandDeg i| <
        90 := by
  refine ⟨admissible_weakGravity, ?_, ?_⟩
  · intro dtS hmem
    simp only [leaningCalls, List.mem_cons, Call.step.injEq, List.not_mem_nil, or_false] at hmem
    rcases hmem with rfl | rfl | rfl | rfl | rfl <;> norm_num
  · intro h
    have hlanding := (((flying_new.prelaunch (by
      norm_num [FlightSimulation.new, FlightState.default])).poweredAscent.coast).descent)
    exact absurd (hlanding.landingBurn.trans (le_abs_self _)) (not_le.mpr (h 0))

end FlightDeck.Simulation
