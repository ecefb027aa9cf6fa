import FlightDeck.Generator.Ascent

set_option relaxedAutoImplicit false
set_option autoImplicit false

/-!
# Altitude

Contact with the ground is checked in the landing burn only. Free fall cannot reach the ground
before that burn is due, whatever the fault does; the ascent can, since with the fault the engines
do not carry the full vehicle.

## Main definitions

* `FlightSimulation.scheduled`, `lossDuring` — any calls of `set_thruster_loss` between the steps.
* `ballistic` — what free fall leaves as it is.
* `AboveGround` — what keeps a vehicle above the ground once the ascent is over.

## Main results

* `AboveGround.succ`, `CutOff.aboveGround_of_le` — one step after the ascent, and all of them.
* `altitude_nonneg_iff` — the flights that never go below the ground.
-/

namespace FlightDeck.Simulation

/-! ## Schedules -/

section Schedule

variable {R : Type} [OfScientific R] [Div R] [Add R] [Sub R] [Mul R] [Neg R] [LT R] [LE R]
  [DecidableLT R] [DecidableLE R] [CMath R]

/-- The simulation after `n` steps, when `set_thruster_loss` is called with the given values
before each of them. -/
def FlightSimulation.scheduled (calls : ℕ → List Bool) : ℕ → FlightSimulation R
  | 0 => .new .default
  | n + 1 => ((scheduled calls n).run ((calls n).map .setThrusterLoss)).step kFixedStepSeconds

/-- The fault during step `n`, counted from zero: the last value set. -/
def lossDuring (calls : ℕ → List Bool) : ℕ → Bool
  | 0 => (calls 0).getLastD false
  | n + 1 => (calls (n + 1)).getLastD (lossDuring calls n)

/-- Of several calls in a row the last one counts. -/
lemma run_setThrusterLoss (simulation : FlightSimulation R) (values : List Bool) :
    simulation.run (values.map .setThrusterLoss) =
      simulation.setThrusterLoss (values.getLastD simulation.thrusterLoss) := by
  induction values generalizing simulation with
  | nil => rfl
  | cons enabled values ih =>
    rw [List.getLastD_cons]
    exact ih (simulation.setThrusterLoss enabled)

/-- A step does not set the fault. -/
lemma thrusterLoss_step (simulation : FlightSimulation R) (dtS : R) :
    (simulation.step dtS).thrusterLoss = simulation.thrusterLoss := by
  unfold FlightSimulation.step
  split_ifs <;> rfl

/-- Any such calls give one of the flights of the main loop. -/
lemma scheduled_eq_flight (calls : ℕ → List Bool) (n : ℕ) :
    (FlightSimulation.scheduled calls n : FlightSimulation R) =
      FlightSimulation.flight (lossDuring calls) n := by
  induction n with
  | zero => rfl
  | succ n ih =>
    rw [FlightSimulation.scheduled, FlightSimulation.flight, ih, run_setThrusterLoss]
    cases n with
    | zero => rfl
    | succ n =>
      have hloss : (FlightSimulation.flight (lossDuring calls) (n + 1) :
          FlightSimulation R).thrusterLoss = lossDuring calls n := thrusterLoss_step ..
      rw [hloss]
      rfl

end Schedule

variable {thrusterLoss : ℕ → Bool} {state next : FlightState ℝ} {n : ℕ}

/-! ## Free fall -/

/-- The apogee of a fall in steps of 10 ms: the energy, corrected for the length of a step. -/
noncomputable def ballistic (state : FlightState ℝ) : ℝ :=
  state.altitudeM + state.velocityMps ^ 2 / (2.0 * 9.80665) - 0.005 * state.velocityMps

/-- Free fall keeps it. -/
lemma Moves.ballistic_eq (h : Moves (-9.80665) state next) : ballistic next = ballistic state := by
  unfold ballistic
  rw [h.altitude_eq, h.velocity_eq]
  norm_num
  ring

/-- What keeps the vehicle above the ground once the ascent is over: its apogee is at 4 m at
least, and until the landing burn it is low only as long as it is slow. -/
inductive AboveGround (state : FlightState ℝ) : Prop
  | coast (phase_eq : state.phase = .coast) (altitude_nonneg : 0 ≤ state.altitudeM)
      (velocity_ge : -5 ≤ state.velocityMps) (ballistic_ge : 4 ≤ ballistic state)
  | descent (phase_eq : state.phase = .descent) (altitude_nonneg : 0 ≤ state.altitudeM)
      (velocity_le : state.velocityMps ≤ 0) (ballistic_ge : 4 ≤ ballistic state)
      (slow_or : -5.1 ≤ state.velocityMps ∨ 0.0564 * state.velocityMps ^ 2 ≤ state.altitudeM)
  | landingBurn (phase_eq : state.phase = .landingBurn) (altitude_nonneg : 0 ≤ state.altitudeM)
  | landed (phase_eq : state.phase = .landed) (altitude_nonneg : 0 ≤ state.altitudeM)

lemma AboveGround.altitude_nonneg (h : AboveGround state) : 0 ≤ state.altitudeM := by
  cases h with
  | coast _ haltitude => exact haltitude
  | descent _ haltitude => exact haltitude
  | landingBurn _ haltitude => exact haltitude
  | landed _ haltitude => exact haltitude

/-- A slow vehicle is far above the ground. -/
lemma altitude_nonneg_of_slow (hballistic : 4 ≤ ballistic state) (hlow : -5.2 ≤ state.velocityMps)
    (hhigh : state.velocityMps ≤ 0) : 0 ≤ state.altitudeM := by
  unfold ballistic at hballistic
  have hsq : state.velocityMps ^ 2 ≤ 27.04 := by nlinarith
  have hdiv : state.velocityMps ^ 2 / (2.0 * 9.80665) ≤ 27.04 / (2.0 * 9.80665) := by gcongr
  norm_num at hdiv hballistic
  linarith

/-- A vehicle that falls without its landing burn is high enough for its speed. -/
lemma altitude_ge_of_not_burnDue {thrusterLoss : Bool} (hmass : 15000 ≤ state.massKg)
    (hvelocity : state.velocityMps < 0) (h : ¬BurnDue thrusterLoss state) :
    0.0564 * state.velocityMps ^ 2 ≤ state.altitudeM := by
  have hpos : 0 < state.massKg := by linarith
  have hengines : availableThrust .default thrusterLoss / state.massKg - 9.80665 ≤ 10.19335 := by
    have hthrust : availableThrust .default thrusterLoss / state.massKg ≤ 20 := by
      rw [availableThrust_default, div_le_iff₀ hpos]
      split_ifs <;> linarith
    linarith
  set upward := availableThrust .default thrusterLoss / state.massKg - 9.80665 with hupward
  obtain ⟨hpositive, hhigh⟩ : 0 < upward ∧
      state.velocityMps * state.velocityMps / (2.0 * upward) * 1.15 < state.altitudeM := by
    simp only [BurnDue, ← hupward, not_and, not_or, not_le] at h
    exact h hvelocity
  have hstop : state.velocityMps ^ 2 / (2.0 * 10.19335) ≤
      state.velocityMps * state.velocityMps / (2.0 * upward) := by
    rw [← sq]
    gcongr
  norm_num at hstop hhigh ⊢
  nlinarith [sq_nonneg state.velocityMps]

/-- **Step lemma**: once the ascent is over the vehicle stays above the ground. -/
lemma AboveGround.succ (h : AboveGround (flightState thrusterLoss n)) :
    AboveGround (flightState thrusterLoss (n + 1)) := by
  have hmass := (massWithin_flightState thrusterLoss n).1
  cases h with
  | coast hphase haltitude hvelocity hballistic =>
    have hstep := coastStep hphase
    have hslower := hstep.moves.velocity_eq
    have hballistic' := hballistic.trans_eq hstep.moves.ballistic_eq.symm
    by_cases hends : (flightState thrusterLoss (n + 1)).velocityMps ≤ 0
    · have haltitude' := altitude_nonneg_of_slow hballistic' (by linarith) hends
      exact .descent (hstep.passes.of_ends hends).1 haltitude' hends hballistic'
        (Or.inl (by linarith))
    · have hhigher := hstep.moves.altitude_eq
      exact .coast ((hstep.passes.of_not_ends hends).1.trans hphase) (by linarith) (by linarith)
        hballistic'
  | descent hphase haltitude hvelocity hballistic hslow =>
    have hstep := descentStep hphase
    have hfaster := hstep.moves.velocity_eq
    have hlower := hstep.moves.altitude_eq
    have hballistic' := hballistic.trans_eq hstep.moves.ballistic_eq.symm
    have haltitude' : 0 ≤ (flightState thrusterLoss (n + 1)).altitudeM := by
      rcases le_or_gt (-5.1) (flightState thrusterLoss n).velocityMps with hslow' | hfast
      · exact altitude_nonneg_of_slow hballistic' (by linarith) (by linarith)
      · have hhigh := hslow.resolve_left (not_le.mpr hfast)
        nlinarith
    by_cases hends : BurnDue (thrusterLoss n) (flightState thrusterLoss (n + 1))
    · exact .landingBurn (hstep.passes.of_ends hends).1 haltitude'
    · have hhigh := altitude_ge_of_not_burnDue (hmass.trans_eq hstep.mass_eq.symm) (by linarith)
        hends
      exact .descent ((hstep.passes.of_not_ends hends).1.trans hphase) haltitude' (by linarith)
        hballistic' (Or.inr hhigh)
  | landingBurn hphase haltitude =>
    rcases (landingStep hphase hmass).lands_or with ⟨hlanded, hground⟩ | ⟨hburning, hair, -⟩
    · exact .landed hlanded hground.ge
    · exact .landingBurn hburning hair.le
  | landed hphase haltitude =>
    rw [flightState_succ_of_landed hphase]
    exact .landed hphase haltitude

/-! ## The ascent -/

/-- Once the engines have been cut off above the ground, the vehicle stays above it. -/
lemma CutOff.aboveGround (h : CutOff thrusterLoss n state) (haltitude : 0 ≤ state.altitudeM) :
    AboveGround state := by
  have hlow := speedGain_ge thrusterLoss h.le
  have hhigh := speedGain_le thrusterLoss h.le
  have hn : (n : ℝ) ≤ 2500 := by exact_mod_cast h.le
  have hvelocity := h.velocity_eq
  have hballistic : 4 ≤ ballistic state := by
    unfold ballistic
    rcases h.reason with hapogee | hwhole
    · norm_num at hapogee ⊢
      linarith
    · have hwhole' := speedGain_whole thrusterLoss
      rw [← hwhole] at hwhole'
      have hfast : 9.84 ≤ state.velocityMps := by linarith
      norm_num at hfast ⊢
      nlinarith
  exact .coast h.phase_eq haltitude (by linarith) hballistic

/-- **Run lemma**: then it stays above the ground to the end. -/
lemma CutOff.aboveGround_of_le {losses : ℕ → Bool} {k : ℕ}
    (h : CutOff losses k (flightState thrusterLoss (200 + k)))
    (haltitude : 0 ≤ (flightState thrusterLoss (200 + k)).altitudeM) (hk : k ≤ n) :
    AboveGround (flightState thrusterLoss (200 + n)) := by
  induction n, hk using Nat.le_induction with
  | base => exact h.aboveGround haltitude
  | succ n hk ih => exact ih.succ

/-- What the altitude gains between two passes of the ascent. -/
lemma heightGain_sub_ge (thrusterLoss : ℕ → Bool) {k : ℕ} (hk : k ≤ n) (h : n ≤ 2500) :
    (speedGain thrusterLoss k - 495.3) * (n - k) ≤
      heightGain thrusterLoss n - heightGain thrusterLoss k := by
  induction n, hk using Nat.le_induction with
  | base => simp
  | succ n hk ih =>
    have hspeed := speedGain_sub_ge thrusterLoss (hk.trans n.le_succ) h
    have hgain := ih (Nat.le_of_succ_le h)
    rw [heightGain_succ]
    push_cast
    linarith

/-- Had the engines not been cut off, the vehicle would not have come back to the ground. -/
lemma CutOff.heightGain_nonneg {k : ℕ} (h : CutOff thrusterLoss k state)
    (haltitude : 0 ≤ state.altitudeM) (hk : k ≤ n) (hn : n ≤ 2500) :
    0 ≤ heightGain thrusterLoss n := by
  have hgain := heightGain_sub_ge thrusterLoss hk hn
  have hk' : (k : ℝ) ≤ n := by exact_mod_cast hk
  have hn' : (n : ℝ) ≤ 2500 := by exact_mod_cast hn
  have hk₀ : (0 : ℝ) ≤ k := Nat.cast_nonneg k
  rw [h.altitude_eq] at haltitude
  rcases h.reason with hapogee | hwhole
  · rcases le_or_gt 495.3 (speedGain thrusterLoss k) with hfast | hslow
    · have : 0 ≤ (speedGain thrusterLoss k - 495.3) * ((n : ℝ) - k) :=
        mul_nonneg (by linarith) (by linarith)
      linarith
    · have hlow := speedGain_ge thrusterLoss h.le
      have hsq : speedGain thrusterLoss k ^ 2 ≤ 495.3 ^ 2 := by nlinarith
      rw [h.altitude_eq, h.velocity_eq] at hapogee
      have hheight : 23000000 ≤ heightGain thrusterLoss k := by
        norm_num at hapogee hsq
        linarith
      nlinarith
  · obtain rfl : n = k := by omega
    linarith

/-- The engines do not carry the full vehicle with the fault. -/
lemma heightGain_one_neg (h : thrusterLoss 0 = true) : heightGain thrusterLoss 1 < 0 := by
  have hsqrt : √((180000 / 19998) ^ 2 - 1.05 ^ 2 - 0.21 ^ 2) ≤ 9.1 :=
    Real.sqrt_le_iff.mpr ⟨by norm_num, by norm_num⟩
  have hfirst : accelerationAt thrusterLoss 0 =
      √((180000 / 19998) ^ 2 - 1.05 ^ 2 - 0.21 ^ 2) - 9.80665 := by
    rw [accelerationAt, ascentAcceleration, availableThrust_default, h]
    norm_num
  rw [heightGain_succ, speedGain_succ, hfirst]
  norm_num at hsqrt ⊢
  linarith

/-- Without the fault the engines lift it with half the acceleration of gravity at least. -/
lemma accelerationAt_ge_of_eq_false (h : thrusterLoss n = false) (hn : n < 2500) :
    5 ≤ accelerationAt thrusterLoss n := by
  have hn' : (n : ℝ) + 1 ≤ 2500 := by exact_mod_cast hn
  have hn₀ : (0 : ℝ) ≤ n := Nat.cast_nonneg n
  unfold accelerationAt ascentAcceleration
  rw [availableThrust_default, h, if_neg Bool.false_ne_true]
  generalize hmassKg : (20000.0 - 2.0 * (n + 1) : ℝ) = massKg
  have hpos : 0 < massKg := by linarith
  have hratio : 15 ≤ 300000 / massKg := by
    rw [le_div_iff₀ hpos]
    linarith
  have hsquare : (15 : ℝ) ^ 2 ≤ (300000 / massKg) ^ 2 := by gcongr
  have hsqrt : 14.81 ≤ √((300000 / massKg) ^ 2 - 1.05 ^ 2 - 0.21 ^ 2) := by
    refine Real.le_sqrt_of_sq_le ?_
    norm_num at hsquare ⊢
    linarith
  linarith

/-- One second without the fault gives the vehicle enough speed for whatever follows. -/
lemma heightGain_nonneg_of_start (h : ∀ i < 100, thrusterLoss i = false) (hn : n ≤ 2500) :
    0 ≤ heightGain thrusterLoss n := by
  have hstart : ∀ i : ℕ, i ≤ 100 → 5 * (i : ℝ) ≤ speedGain thrusterLoss i := fun i hi => by
    induction i with
    | zero => simp
    | succ i ih =>
      have hgain := ih (by omega)
      have hacceleration := accelerationAt_ge_of_eq_false (h i (by omega)) (by omega)
      rw [speedGain_succ]
      push_cast
      linarith
  have hspeed : ∀ i ≤ 2500, 0 ≤ speedGain thrusterLoss i := fun i hi => by
    rcases le_or_gt i 100 with hle | hlt
    · have hgain := hstart i hle
      have : (0 : ℝ) ≤ i := Nat.cast_nonneg i
      linarith
    · have hgain := hstart 100 le_rfl
      have hloss := speedGain_sub_ge thrusterLoss hlt.le hi
      norm_num at hgain hloss
      linarith
  exact Finset.sum_nonneg fun j hj => hspeed _ (by have := Finset.mem_range.mp hj; omega)

/-- **Ground contact.** With the default configuration, steps of 10 ms and real arithmetic, and
for any calls of `set_thruster_loss` between the steps, the altitude is never negative exactly if
the accelerations of the ascent, which depend on the number of the step and on the fault alone,
never sum up to a negative height. After the ascent no fault takes the vehicle below the ground. -/
theorem altitude_nonneg_iff (calls : ℕ → List Bool) :
    (∀ n, 0 ≤ (FlightSimulation.scheduled calls n : FlightSimulation ℝ).state.altitudeM) ↔
      ∀ n ≤ 2500, 0 ≤ heightGain (ascentLoss (lossDuring calls)) n := by
  set thrusterLoss := lossDuring calls
  have haltitude : ∀ n, (FlightSimulation.scheduled calls n : FlightSimulation ℝ).state.altitudeM =
      (flightState thrusterLoss n).altitudeM := fun n => by
    rw [scheduled_eq_flight]
    rfl
  simp only [haltitude]
  obtain ⟨k, hcutOff, hascending⟩ := exists_cutOff thrusterLoss
  constructor
  · intro h n hn
    rcases lt_or_ge n k with hlt | hle
    · have hheight := (hascending n hlt).altitude_eq ▸ h (200 + n)
      linarith
    · exact hcutOff.heightGain_nonneg (h _) hle hn
  · intro h n
    have hcut : 0 ≤ (flightState thrusterLoss (200 + k)).altitudeM := by
      rw [hcutOff.altitude_eq]
      have := h k hcutOff.le
      positivity
    rcases lt_or_ge n 200 with hground | hlit
    · exact (flightState_of_lt thrusterLoss hground).2.2.2.2.ge
    · obtain ⟨i, rfl⟩ := Nat.exists_eq_add_of_le hlit
      rcases lt_or_ge i k with hlt | hle
      · rw [(hascending i hlt).altitude_eq]
        have := h i (hlt.le.trans hcutOff.le)
        positivity
      · exact (hcutOff.aboveGround_of_le hcut hle).altitude_nonneg

/-- With the fault on from the start the first step of the ascent goes below the ground. -/
theorem not_altitude_nonneg_faultFromStart :
    ¬∀ n, 0 ≤ (FlightSimulation.scheduled (fun _ => [true]) n :
      FlightSimulation ℝ).state.altitudeM := by
  intro h
  have hfirst := h 201
  rw [scheduled_eq_flight] at hfirst
  set thrusterLoss := lossDuring fun _ => [true]
  have hclimbs : Climbs (ascentLoss thrusterLoss) 1 (flightState thrusterLoss (200 + 1)) :=
    (ascending_zero thrusterLoss _).succ.elim (fun h => h.toClimbs) fun h => h.toClimbs
  have haltitude : 0 ≤ 0.0001 * heightGain (ascentLoss thrusterLoss) 1 :=
    hclimbs.altitude_eq ▸ hfirst
  have hneg : heightGain (ascentLoss thrusterLoss) 1 < 0 := heightGain_one_neg rfl
  linarith

end FlightDeck.Simulation
