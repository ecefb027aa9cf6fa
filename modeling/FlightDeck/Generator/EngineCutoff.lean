import FlightDeck.Generator.FlightPhases
import FlightDeck.Generator.Simulator

set_option relaxedAutoImplicit false
set_option autoImplicit false

/-!
# Engine cutoff

A state reports its phase and its thrust, and outside of the two burns one would expect it to
report none. Every step resets the thrust before it branches on the phase, and the touchdown
resets it once more. The step that ends the powered ascent does not: it sets the thrust, finds
that the burn is over and goes on to the coast, with the thrust of the burn in its state.

## Main definitions

* `ShowsCutoff` — a state without a burn reports no thrust.
* `BurnOver`, `CutsOff` — when the powered ascent ends, and a step that ends it.

## Main results

* `showsCutoff_step_iff` — one step.
* `showsCutoff_run_iff` — any calls, with any arithmetic.
* `cutoff_shown_iff` — states and packets of the generator.
-/

namespace FlightDeck.Simulation

variable {R : Type} [OfScientific R]

/-- A state outside of the two burns reports no thrust. What counts as none is left open. -/
def ShowsCutoff (isZero : R → Prop) (state : FlightState R) : Prop :=
  state.phase ≠ .poweredAscent → state.phase ≠ .landingBurn → isZero state.thrustN

section Steps

variable [Div R] [Add R] [Sub R] [Mul R] [Neg R] [LT R] [LE R] [DecidableLT R] [DecidableLE R]
  [CMath R]

/-- The thrust of the powered ascent, `config_.maximum_thrust_n * (thruster_loss_ ? 0.6 : 1.0)`. -/
def fullThrust (simulation : FlightSimulation R) : R :=
  simulation.config.maximumThrustN * thrustFactor simulation.thrusterLoss

/-- The burn ends with a step from this state: the vehicle will rise to the target, the burn has
lasted long enough, or no propellant is left. -/
def BurnOver (simulation : FlightSimulation R) (dtS : R) : Prop :=
  let config := simulation.config
  let state := simulation.state
  let massKg := ascentMass config dtS state.massKg
  let thrustUpN := (ascentThrust config (fullThrust simulation) massKg).up
  let velocityMps := state.velocityMps + (thrustUpN / massKg - config.gravityMps2) * dtS
  let altitudeM := state.altitudeM + velocityMps * dtS
  altitudeM + velocityMps * velocityMps / (2.0 * config.gravityMps2) ≥ config.targetApogeeM ∨
    state.phaseTimeS + dtS ≥ config.ascentBurnDurationS ∨ massKg ≤ config.dryMassKg

/-- A step that ends the powered ascent. -/
structure CutsOff (simulation : FlightSimulation R) (dtS : R) : Prop where
  dt_pos : dtS > 0.0
  dt_finite : CMath.isfinite dtS = true
  phase_eq : simulation.state.phase = .poweredAscent
  burnOver : BurnOver simulation dtS

variable {isZero : R → Prop} (hzero : isZero 0.0)

include hzero in
/-- No branch but that of the powered ascent leaves a thrust behind when it ends a burn. -/
lemma showsCutoff_phaseStep {config : FlightConfig R} {thrusterLoss : Bool} {dtS : R}
    {state : FlightState R} (hthrust : state.thrustN = 0.0)
    (hphase : state.phase ≠ .poweredAscent) :
    ShowsCutoff isZero (phaseStep config thrusterLoss dtS state) := by
  have hoff : ∀ next : FlightState R, next.thrustN = 0.0 → ShowsCutoff isZero next := by
    intro next hnext _ _
    rw [hnext]
    exact hzero
  unfold phaseStep
  cases hbranch : state.phase with
  | prelaunch =>
    refine hoff _ ?_
    simp only [prelaunch]
    split_ifs <;> exact hthrust
  | poweredAscent => exact absurd hbranch hphase
  | coast =>
    refine hoff _ ?_
    simp only [coast]
    split_ifs <;> exact hthrust
  | descent =>
    refine hoff _ ?_
    simp only [descent]
    split_ifs <;> exact hthrust
  | landingBurn =>
    simp only [landingBurn]
    split_ifs
    · exact hoff _ rfl
    · intro _ hburn
      rw [phase_applyThrust] at hburn
      exact absurd hbranch hburn
  | landed => exact hoff _ hthrust

/-- The branch of the powered ascent reports its thrust, also when it ends the burn. -/
lemma phaseStep_of_poweredAscent {simulation : FlightSimulation R} (dtS : R)
    (hphase : simulation.state.phase = .poweredAscent) :
    let next := phaseStep simulation.config simulation.thrusterLoss dtS
      (beginStep dtS simulation.state)
    next.thrustN = fullThrust simulation ∧
      (BurnOver simulation dtS → next.phase = .coast) ∧
      (¬BurnOver simulation dtS → next.phase = .poweredAscent) := by
  intro next
  set massKg := ascentMass simulation.config dtS simulation.state.massKg
  set thrust := ascentThrust simulation.config (fullThrust simulation) massKg
  obtain ⟨burnt, hburnt⟩ : ∃ burnt, burnt = applyThrust simulation.config dtS thrust
      { beginStep dtS simulation.state with thrustN := fullThrust simulation, massKg } := ⟨_, rfl⟩
  have hnext : next =
      if burnt.altitudeM + burnt.velocityMps * burnt.velocityMps /
            (2.0 * simulation.config.gravityMps2) ≥ simulation.config.targetApogeeM ∨
          burnt.phaseTimeS ≥ simulation.config.ascentBurnDurationS ∨
            burnt.massKg ≤ simulation.config.dryMassKg then
        transitionTo .coast burnt
      else burnt := by
    rw [hburnt]
    show phaseStep _ _ _ _ = _
    rw [phaseStep, show (beginStep dtS simulation.state).phase = .poweredAscent from hphase]
    rfl
  obtain ⟨orientation, heq⟩ := exists_applyThrust simulation.config dtS thrust
    { beginStep dtS simulation.state with thrustN := fullThrust simulation, massKg }
  rw [heq] at hburnt
  have hover : burnt.altitudeM + burnt.velocityMps * burnt.velocityMps /
          (2.0 * simulation.config.gravityMps2) ≥ simulation.config.targetApogeeM ∨
        burnt.phaseTimeS ≥ simulation.config.ascentBurnDurationS ∨
          burnt.massKg ≤ simulation.config.dryMassKg ↔ BurnOver simulation dtS := by
    rw [hburnt]
    exact Iff.rfl
  have hthrust : burnt.thrustN = fullThrust simulation := by rw [hburnt]; rfl
  have hburntPhase : burnt.phase = .poweredAscent := by rw [hburnt]; exact hphase
  rw [hnext]
  refine ⟨?_, ?_, ?_⟩
  · split_ifs
    · exact hthrust
    · exact hthrust
  · intro h
    rw [if_pos (hover.mpr h)]
    rfl
  · intro h
    rw [if_neg (hover.not.mpr h)]
    exact hburntPhase

include hzero in
/-- **Step lemma**: after a state that shows the cutoff the next one does, unless the step ends
the powered ascent and the engines gave any thrust in it. -/
lemma showsCutoff_step_iff {simulation : FlightSimulation R}
    (h : ShowsCutoff isZero simulation.state) (dtS : R) :
    ShowsCutoff isZero (simulation.step dtS).state ↔
      (CutsOff simulation dtS → isZero (fullThrust simulation)) := by
  by_cases hreturn : ¬dtS > 0.0 ∨ ¬CMath.isfinite dtS ∨ simulation.state.phase = .landed
  · have hstep : simulation.step dtS = simulation := if_pos hreturn
    rw [hstep]
    refine iff_of_true h ?_
    intro hcut
    rcases hreturn with hdt | hdt | hphase
    · exact absurd hcut.dt_pos hdt
    · exact absurd hcut.dt_finite hdt
    · rw [hcut.phase_eq] at hphase
      exact absurd hphase (by decide)
  · have hproper := hreturn
    push Not at hproper
    obtain ⟨orientation, heq⟩ : ∃ orientationWxyz, (simulation.step dtS).state =
        { phaseStep simulation.config simulation.thrusterLoss dtS
            (beginStep dtS simulation.state) with orientationWxyz } := by
      unfold FlightSimulation.step
      rw [if_neg hreturn]
      exact exists_normalizeOrientation _
    rw [heq]
    by_cases hphase : simulation.state.phase = .poweredAscent
    · obtain ⟨hthrust, hover, hgoes⟩ := phaseStep_of_poweredAscent dtS hphase
      constructor
      · intro hshows hcut
        rw [← hthrust]
        refine hshows ?_ ?_
        · simp [hover hcut.burnOver]
        · simp [hover hcut.burnOver]
      · intro hcut hascent _
        rw [show FlightState.thrustN _ = _ from hthrust]
        refine hcut ⟨hproper.1, hproper.2.1, hphase, ?_⟩
        by_contra hgo
        exact hascent (hgoes hgo)
    · refine iff_of_true ?_ fun hcut => absurd hcut.phase_eq hphase
      exact showsCutoff_phaseStep hzero rfl hphase

include hzero in
/-- **Run lemma**: every state up to the end of some calls shows the cutoff exactly if no step among
them ends the powered ascent with a thrust. -/
lemma showsCutoff_run_iff (config : FlightConfig R) (calls : List (Call R)) :
    (∀ before, before <+: calls →
        ShowsCutoff isZero ((FlightSimulation.new config).run before).state) ↔
      ∀ before dtS, before ++ [.step dtS] <+: calls →
        CutsOff ((FlightSimulation.new config).run before) dtS →
          isZero (fullThrust ((FlightSimulation.new config).run before)) := by
  have hcall : ∀ (before : List (Call R)) (call : Call R),
      (FlightSimulation.new config).run (before ++ [call]) =
        ((FlightSimulation.new config).run before).call call := by
    intro before call
    exact List.foldl_concat _ _ _ _
  constructor
  · intro hshows before dtS hbefore
    have hnext := hshows _ hbefore
    rw [hcall] at hnext
    refine (showsCutoff_step_iff hzero (hshows before ?_) dtS).mp hnext
    exact (List.prefix_append _ _).trans hbefore
  · intro hthrust before hbefore
    induction before using List.reverseRecOn with
    | nil => exact fun _ _ => hzero
    | append_singleton before call ih =>
      have hearlier := ih ((List.prefix_append _ _).trans hbefore)
      rw [hcall]
      cases call with
      | setThrusterLoss enabled => exact hearlier
      | step dtS => exact (showsCutoff_step_iff hzero hearlier dtS).mpr (hthrust before dtS hbefore)

end Steps

/-! ## The generator -/

open Generator

/-- A single that is zero, of either sign, by its pattern. -/
def IsZeroSingle (pattern : BitVec 32) : Prop := pattern &&& 0x7FFFFFFF#32 = 0#32

/-- The percentage that goes with a thrust is shown as zero. -/
def ShowsNoThrust (thrustN : Float) : Prop := IsZeroSingle (floatBits (thrustPercent thrustN))

lemma showsNoThrust_zero : ShowsNoThrust 0.0 := by
  unfold ShowsNoThrust IsZeroSingle
  decide +kernel

/-- **When the cutoff is shown.** Whatever the configuration and the calls of `step`, with any time
steps, and of `set_thruster_loss`: every state reached that is not in one of the two burns has no
thrust exactly if no step ends the powered ascent while the engines give any. And every packet of
such a state reports no thrust exactly if no step ends it with a thrust that is reported as any.

**Proof sketch.** A step resets the thrust before it branches; only the branch of the powered
ascent sets it and then leaves the burn (`phaseStep_of_poweredAscent`). -/
theorem cutoff_shown_iff [Libm] (config : FlightConfig Float) (calls : List (Call Float)) :
    let reached (before : List (Call Float)) := (FlightSimulation.new config).run before
    ((∀ before, before <+: calls → ShowsCutoff (fun thrustN => thrustN == 0.0)
          (reached before).state) ↔
        ∀ before dtS, before ++ [.step dtS] <+: calls → CutsOff (reached before) dtS →
          fullThrust (reached before) == 0.0) ∧
      ((∀ before, before <+: calls → ∀ sequence faultFlags,
          (reached before).state.phase ≠ .poweredAscent →
            (reached before).state.phase ≠ .landingBurn →
              IsZeroSingle
                (makeTelemetry (reached before).state sequence faultFlags).thrustPercent) ↔
        ∀ before dtS, before ++ [.step dtS] <+: calls → CutsOff (reached before) dtS →
          ShowsNoThrust (fullThrust (reached before))) := by
  intro reached
  have hzero : ((0.0 : Float) == 0.0) = true := by decide +kernel
  refine ⟨showsCutoff_run_iff hzero config calls, ?_⟩
  rw [← showsCutoff_run_iff showsNoThrust_zero config calls]
  constructor
  · intro h before hbefore hascent hburn
    exact h before hbefore 0#32 0#32 hascent hburn
  · intro h before hbefore _ _ hascent hburn
    exact h before hbefore hascent hburn

/-- The phase of a packet. -/
lemma missionPhase_makeTelemetry [Libm] (state : FlightState Float)
    (sequence faultFlags : BitVec 32) :
    (makeTelemetry state sequence faultFlags).missionPhase = wirePhase state.phase := rfl

/-- Library functions that give something back. -/
@[reducible] def someLibm : Libm where
  hypot x _ := x
  atan2 y _ := y
  sin x := x

/-- The second of two steps with the default configuration, of 2 and 25 seconds, ends the powered
ascent by its duration. -/
def burnTimeUp : FlightState Float :=
  let _ : Libm := someLibm
  ((FlightSimulation.new .default).run [.step 2.0, .step 25.0]).state

/-- Phase and thrust do not go together in it: its packet reports a coast with full thrust. -/
theorem not_showsCutoff_burnTimeUp :
    ¬ShowsCutoff (fun thrustN => thrustN == 0.0) burnTimeUp ∧
      let _ : Libm := someLibm
      let telemetry := makeTelemetry burnTimeUp 1#32 0#32
      telemetry.missionPhase = Protocol.MissionPhase.coast ∧
        telemetry.thrustPercent = floatBits 100.0 := by
  have hphase : burnTimeUp.phase = .coast := by decide +kernel
  have hthrust : (burnTimeUp.thrustN == 0.0) = false := by decide +kernel
  refine ⟨?_, ?_, by decide +kernel⟩
  · intro h
    have hshown : (burnTimeUp.thrustN == 0.0) = true :=
      h (by rw [hphase]; decide) (by rw [hphase]; decide)
    exact absurd (hthrust.symm.trans hshown) (by decide)
  · exact (@missionPhase_makeTelemetry someLibm burnTimeUp 1#32 0#32).trans
      (congrArg wirePhase hphase)

end FlightDeck.Simulation
