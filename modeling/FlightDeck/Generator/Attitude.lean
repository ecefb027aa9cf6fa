import FlightDeck.Generator.RealFlight
import FlightDeck.Lib.HalfAngle
import Mathlib.Analysis.Quaternion

set_option relaxedAutoImplicit false
set_option autoImplicit false

/-!
# The attitude follows the thrust

Over the real numbers the attitude is a unit quaternion after any calls, and after a step of one
of the burns it turns the axis of the vehicle exactly into the direction of the thrust of the
step.

## Main definitions

* `attitude` — the attitude as a quaternion.
* `burnThrust` — the thrust of a step of one of the burns.
* `Thrust.direction`, `Thrust.scalar` — its direction, and the scalar part of the attitude.

## Main results

* `norm_attitude_run` — the attitude after any calls.
* `attitude_follows_thrust` — the attitude after a burn.
-/

namespace FlightDeck.Simulation

open HalfAngle

/-! ## Definitions -/

/-- `orientation_wxyz`. -/
def attitude (orientationWxyz : Fin 4 → ℝ) : Quaternion ℝ :=
  ⟨orientationWxyz 0, orientationWxyz 1, orientationWxyz 2, orientationWxyz 3⟩

section Burn

variable {R : Type} [OfScientific R] [Div R] [Add R] [Sub R] [Mul R] [Neg R] [LT R] [LE R]
  [DecidableLT R] [DecidableLE R] [CMath R]

/-- The thrust of a step of one of the burns: `thrust_east_n`, `thrust_north_n` and
`thrust_up_n` when they move the vehicle. -/
def burnThrust (config : FlightConfig R) (thrusterLoss : Bool) (dtS : R) (state : FlightState R) :
    Option (Thrust R) :=
  let maximumThrust := config.maximumThrustN * thrustFactor thrusterLoss
  match state.phase with
  | .poweredAscent =>
    some (ascentThrust config maximumThrust (ascentMass config dtS state.massKg))
  | .landingBurn => some ((desiredThrust config state).limit maximumThrust)
  | _ => none

end Burn

/-- The direction of a thrust. -/
noncomputable def Thrust.direction (thrust : Thrust ℝ) : ℝ × ℝ × ℝ :=
  (thrust.east / thrust.magnitude, thrust.north / thrust.magnitude,
    thrust.up / thrust.magnitude)

/-- The scalar part of the attitude that belongs to a thrust, before it is checked. -/
noncomputable def Thrust.scalar (thrust : Thrust ℝ) : ℝ :=
  CMath.sqrt (stdMax 0.0 ((1.0 + thrust.up / thrust.magnitude) / 2.0))

/-! ## The norm -/

variable {config : FlightConfig ℝ} {thrusterLoss : Bool} {dtS : ℝ} {state : FlightState ℝ}
  {thrust : Thrust ℝ} {orientation : Fin 4 → ℝ}

lemma epsilon_pos : 0 < (epsilon : ℝ) := by norm_num [epsilon]

lemma epsilon_lt_half : (epsilon : ℝ) < 0.5 := by norm_num [epsilon]

/-- What `normalize_orientation` sums up. -/
lemma normSquared_eq (orientation : Fin 4 → ℝ) :
    normSquared orientation = Quaternion.normSq (attitude orientation) := by
  rw [Quaternion.normSq_def']
  show 0.0 + orientation 0 * orientation 0 + orientation 1 * orientation 1 +
    orientation 2 * orientation 2 + orientation 3 * orientation 3 =
      orientation 0 ^ 2 + orientation 1 ^ 2 + orientation 2 ^ 2 + orientation 3 ^ 2
  norm_num
  ring

/-- The identity. -/
lemma attitude_identity : attitude ![1.0, 0.0, 0.0, 0.0] = 1 := by
  ext
  · show (1.0 : ℝ) = 1
    norm_num
  · show (0.0 : ℝ) = 0
    norm_num
  · show (0.0 : ℝ) = 0
    norm_num
  · show (0.0 : ℝ) = 0
    norm_num

lemma norm_attitude_eq_one_iff : ‖attitude orientation‖ = 1 ↔ normSquared orientation = 1 := by
  rw [normSquared_eq, Quaternion.normSq_eq_norm_mul_self, mul_self_eq_one_iff]
  constructor
  · exact Or.inl
  · rintro (h | h)
    · exact h
    · exact absurd h (by have := norm_nonneg (attitude orientation); linarith)

/-- A factor. -/
lemma normSquared_mul (orientation : Fin 4 → ℝ) (factor : ℝ) :
    normSquared (fun i => orientation i * factor) = normSquared orientation * factor ^ 2 := by
  rw [normSquared_eq, normSquared_eq, Quaternion.normSq_def', Quaternion.normSq_def']
  simp only [attitude]
  ring

/-- After `normalize_orientation` the attitude is a unit quaternion. -/
lemma norm_attitude_normalizeOrientation (state : FlightState ℝ) :
    ‖attitude (normalizeOrientation state).orientationWxyz‖ = 1 := by
  simp only [normalizeOrientation]
  split_ifs with hsmall
  · rw [attitude_identity, norm_one]
  · rw [norm_attitude_eq_one_iff]
    have hpos : 0 < normSquared state.orientationWxyz := epsilon_pos.trans (not_le.mp hsmall)
    rw [normSquared_mul]
    show _ * (1.0 / √(normSquared state.orientationWxyz)) ^ 2 = 1
    rw [div_pow, Real.sq_sqrt hpos.le]
    norm_num [hpos.ne']

/-- It leaves a unit quaternion alone. -/
lemma normalizeOrientation_of_norm_eq_one (h : ‖attitude state.orientationWxyz‖ = 1) :
    (normalizeOrientation state).orientationWxyz = state.orientationWxyz := by
  rw [norm_attitude_eq_one_iff] at h
  have hlarge : ¬(1 : ℝ) ≤ epsilon := by norm_num [epsilon]
  simp only [normalizeOrientation, h, if_neg hlarge]
  funext i
  show state.orientationWxyz i * (1.0 / √1) = _
  norm_num

/-! ## The direction -/

/-- A direction is a unit vector. -/
lemma Thrust.direction_unit (h : 0 < thrust.magnitude) :
    (thrust.east / thrust.magnitude) ^ 2 + (thrust.north / thrust.magnitude) ^ 2 +
      (thrust.up / thrust.magnitude) ^ 2 = 1 := by
  have hsq : thrust.magnitude ^ 2 = thrust.east ^ 2 + thrust.north ^ 2 + thrust.up ^ 2 := by
    rw [Thrust.magnitude_eq, Real.sq_sqrt (by positivity)]
  rw [div_pow, div_pow, div_pow, ← add_div, ← add_div, ← hsq, div_self (by positivity)]

/-- The scalar part is the cosine of half the angle. -/
lemma Thrust.two_mul_scalar_sq (h : epsilon < thrust.scalar) :
    2 * thrust.scalar ^ 2 = 1 + thrust.up / thrust.magnitude := by
  have hpos := epsilon_pos.trans h
  unfold Thrust.scalar at hpos ⊢
  rw [stdMax_eq] at hpos ⊢
  have hmax := Real.sqrt_pos.mp hpos
  have hhalf : 0 < (1.0 + thrust.up / thrust.magnitude) / 2.0 := by
    rcases lt_max_iff.mp hmax with hzero | hhalf
    · norm_num at hzero
    · exact hhalf
  have hzero : (0.0 : ℝ) ≤ (1.0 + thrust.up / thrust.magnitude) / 2.0 := by linarith
  rw [max_eq_right hzero]
  show 2 * √_ ^ 2 = _
  rw [Real.sq_sqrt hhalf.le]
  norm_num
  ring

/-- A thrust that does not point downwards. -/
lemma Thrust.epsilon_lt_scalar (h : 0 ≤ thrust.up) : epsilon < thrust.scalar := by
  have hup : 0 ≤ thrust.up / thrust.magnitude := div_nonneg h thrust.magnitude_nonneg
  have hhalf : (0.5 : ℝ) ^ 2 ≤ stdMax 0.0 ((1.0 + thrust.up / thrust.magnitude) / 2.0) := by
    rw [stdMax_eq]
    exact le_max_of_le_right (by linarith)
  exact epsilon_lt_half.trans_le (Real.le_sqrt_of_sq_le hhalf)

/-- The attitude that belongs to a thrust. -/
lemma attitude_orientationOf (h : epsilon < thrust.scalar) :
    attitude (orientationOf (thrust.east / thrust.magnitude) (thrust.north / thrust.magnitude)
      (thrust.up / thrust.magnitude)) =
        turn thrust.scalar (thrust.east / thrust.magnitude) (thrust.north / thrust.magnitude) := by
  have horientation : orientationOf (thrust.east / thrust.magnitude)
      (thrust.north / thrust.magnitude) (thrust.up / thrust.magnitude) =
        ![thrust.scalar, -(thrust.north / thrust.magnitude) / (2.0 * thrust.scalar),
          thrust.east / thrust.magnitude / (2.0 * thrust.scalar), 0.0] :=
    if_neg (not_le.mpr h)
  have htwice : (2.0 : ℝ) * thrust.scalar = thrust.scalar + thrust.scalar := by
    norm_num
    ring
  have hzero : (0.0 : ℝ) = 0 := by norm_num
  rw [horientation, htwice, hzero]
  rfl

/-! ## One step -/

/-- A burn turns the vehicle by the thrust that moves it, whatever comes after that. -/
lemma orientationWxyz_phaseStep (h : burnThrust config thrusterLoss dtS state = some thrust)
    (hmagnitude : epsilon < thrust.magnitude) :
    (phaseStep config thrusterLoss dtS (beginStep dtS state)).orientationWxyz =
      orientationOf (thrust.east / thrust.magnitude) (thrust.north / thrust.magnitude)
        (thrust.up / thrust.magnitude) := by
  have hturned : ∀ moved : FlightState ℝ,
      (applyThrust config dtS thrust moved).orientationWxyz =
        orientationOf (thrust.east / thrust.magnitude) (thrust.north / thrust.magnitude)
          (thrust.up / thrust.magnitude) := fun moved => by
    simp only [applyThrust, updateOrientation]
    rw [if_neg (not_le.mpr hmagnitude)]
  unfold burnThrust at h
  have hphase : (beginStep dtS state).phase = state.phase := rfl
  unfold phaseStep
  rw [hphase]
  cases hcase : state.phase with
  | poweredAscent =>
    rw [hcase] at h
    obtain rfl := Option.some_inj.mp h
    simp only [poweredAscent]
    split_ifs
    · exact hturned _
    · exact hturned _
  | landingBurn =>
    rw [hcase] at h
    obtain rfl := Option.some_inj.mp h
    simp only [landingBurn]
    split_ifs
    · exact hturned _
    · exact hturned _
  | prelaunch => rw [hcase] at h; simp at h
  | coast => rw [hcase] at h; simp at h
  | descent => rw [hcase] at h; simp at h
  | landed => rw [hcase] at h; simp at h

/-- **Step lemma**: the axis of the vehicle after a step of one of the burns. -/
lemma rotate_attitude_step {simulation : FlightSimulation ℝ} (hdt : 0 < dtS)
    (h : burnThrust simulation.config simulation.thrusterLoss dtS simulation.state = some thrust)
    (hmagnitude : epsilon < thrust.magnitude) (hscalar : epsilon < thrust.scalar) :
    rotate (attitude (simulation.step dtS).state.orientationWxyz) (0, 0, 1) =
      thrust.direction := by
  have hne : simulation.state.phase ≠ .landed := fun hlanded => by
    unfold burnThrust at h
    rw [hlanded] at h
    simp at h
  have hunit := thrust.direction_unit (epsilon_pos.trans hmagnitude)
  have hhalf := Thrust.two_mul_scalar_sq hscalar
  have hscalar₀ : thrust.scalar ≠ 0 := (epsilon_pos.trans hscalar).ne'
  have hattitude := orientationWxyz_phaseStep h hmagnitude
  rw [FlightSimulation.step_of_ne_landed (by norm_num [hdt]) rfl hne]
  dsimp only
  rw [normalizeOrientation_of_norm_eq_one, hattitude, attitude_orientationOf hscalar]
  · exact rotate_turn hscalar₀ hhalf hunit
  · rw [norm_attitude_eq_one_iff, normSquared_eq, hattitude, attitude_orientationOf hscalar]
    exact normSq_turn hscalar₀ hhalf hunit

/-! ## Runs -/

/-- **Run lemma**: after any calls the attitude is a unit quaternion. -/
lemma norm_attitude_run (config : FlightConfig ℝ) (calls : List (Call ℝ)) :
    ‖attitude ((FlightSimulation.new config).run calls).state.orientationWxyz‖ = 1 := by
  have hstart : ‖attitude (FlightSimulation.new config).state.orientationWxyz‖ = 1 := by
    show ‖attitude ![1.0, 0.0, 0.0, 0.0]‖ = 1
    rw [attitude_identity, norm_one]
  refine FlightSimulation.run_induction
    (P := fun simulation => ‖attitude simulation.state.orientationWxyz‖ = 1) hstart
    fun simulation h call _ => ?_
  cases call with
  | setThrusterLoss enabled => exact h
  | step dtS =>
    show ‖attitude (simulation.step dtS).state.orientationWxyz‖ = 1
    unfold FlightSimulation.step
    split_ifs
    · exact h
    · exact norm_attitude_normalizeOrientation _

/-- **The attitude follows the thrust.** Whatever the configuration, and after any calls of
`step` and `set_thruster_loss`, the attitude is a unit quaternion; and a further step of one of
the burns, unless its thrust or the scalar part of the attitude that belongs to it is too small,
leaves an attitude that turns the axis of the vehicle into the direction of its thrust. -/
theorem attitude_follows_thrust (config : FlightConfig ℝ) (calls : List (Call ℝ)) :
    let simulation := (FlightSimulation.new config).run calls
    ‖attitude simulation.state.orientationWxyz‖ = 1 ∧
      ∀ dtS > 0, ∀ thrust,
        burnThrust simulation.config simulation.thrusterLoss dtS simulation.state = some thrust →
        epsilon < thrust.magnitude → epsilon < thrust.scalar →
          rotate (attitude (simulation.step dtS).state.orientationWxyz) (0, 0, 1) =
            thrust.direction :=
  ⟨norm_attitude_run config calls, fun _ hdt _ => rotate_attitude_step hdt⟩

/-- The first second of an ascent with the default configuration. -/
theorem attitude_follows_thrust_firstSecond :
    let simulation : FlightSimulation ℝ := (FlightSimulation.new .default).run [.step 2.0]
    ∃ thrust, burnThrust simulation.config simulation.thrusterLoss 1 simulation.state =
        some thrust ∧
      rotate (attitude (simulation.step 1).state.orientationWxyz) (0, 0, 1) =
        thrust.direction := by
  intro simulation
  obtain ⟨hconfig, hphase, -, hmass, -⟩ := lit_spec
  have hconfig : simulation.config = .default := hconfig
  have hphase : simulation.state.phase = .poweredAscent := hphase
  have hmass : simulation.state.massKg = 20000 := hmass
  have hthrust := magnitude_ascentThrust admissible_default
    (admissible_default.availableThrust_pos simulation.thrusterLoss).le
    (show 0 ≤ ascentMass .default 1 20000 by
      rw [ascentMass_eq (by norm_num [FlightConfig.default]) zero_le_one
        (by norm_num [FlightConfig.default])]
      exact le_max_of_le_left (by norm_num [FlightConfig.default]))
  refine ⟨ascentThrust .default (availableThrust .default simulation.thrusterLoss)
    (ascentMass .default 1 20000), ?_, ?_⟩
  · simp only [burnThrust, hphase, hmass, hconfig, maximumThrust_mul_thrustFactor]
  · refine (attitude_follows_thrust .default [.step 2.0]).2 1 one_pos _ ?_ ?_ ?_
    · show burnThrust simulation.config simulation.thrusterLoss 1 simulation.state = _
      simp only [burnThrust, hphase, hmass, hconfig, maximumThrust_mul_thrustFactor]
    · rw [hthrust, availableThrust]
      have heps := epsilon_lt_half
      split_ifs <;> norm_num [FlightConfig.default] at heps ⊢ <;> linarith
    · exact Thrust.epsilon_lt_scalar (Real.sqrt_nonneg _)

end FlightDeck.Simulation
