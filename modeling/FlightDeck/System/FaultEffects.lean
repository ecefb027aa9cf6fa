import FlightDeck.Generator.FlightPhases
import FlightDeck.System.LossMetric

set_option relaxedAutoImplicit false
set_option autoImplicit false

/-!
# What the faults can change

The simulator keeps its true state apart from what it reports. A fault changes what it is meant to
change and nothing else: packet loss changes no packet at all, sensor noise changes the measured
position and velocity and nothing else, and the loss of a thruster changes the flight only in the
phases that ask for it. How far a measured value may be from the true one is a matter of the
noise's amplitude and of rounding.

## Main definitions

* `MissionPhase.readsThrusterLoss` — the phases that ask for the fault.
* `SameFlight` — two simulations that differ in the fault only.
* `reading` — the number that a field of a packet stands for.
* `positionAmplitude`, `velocityAmplitude` — the amplitudes of the noise.

## Main results

* `SameFlight.step` — a step that does not ask for the fault.
* `flight_unaffected` — whole runs.
* `sensor_noise` — measured values and true ones.
-/

namespace FlightDeck.Simulation

/-! ## One simulation -/

/-- The phases that ask whether a thruster is lost. -/
def MissionPhase.readsThrusterLoss : MissionPhase → Bool
  | .poweredAscent => true
  | .descent => true
  | .landingBurn => true
  | _ => false

/-- Two simulations that differ in the fault only. -/
structure SameFlight {R : Type} (first second : FlightSimulation R) : Prop where
  config : first.config = second.config
  state : first.state = second.state

section Step

variable {R : Type} [OfScientific R] [Div R] [Add R] [Sub R] [Mul R] [Neg R] [LT R] [LE R]
  [DecidableLT R] [DecidableLE R] [CMath R]

/-- The other phases do not ask. -/
lemma phaseStep_congr (config : FlightConfig R) (dtS : R) {state : FlightState R}
    {thrusterLoss thrusterLoss' : Bool}
    (h : state.phase.readsThrusterLoss = true → thrusterLoss = thrusterLoss') :
    phaseStep config thrusterLoss dtS state = phaseStep config thrusterLoss' dtS state := by
  unfold phaseStep
  cases hphase : state.phase with
  | prelaunch => rfl
  | poweredAscent => rw [h (by rw [hphase]; rfl)]
  | coast => rfl
  | descent => rw [h (by rw [hphase]; rfl)]
  | landingBurn => rw [h (by rw [hphase]; rfl)]
  | landed => rfl

/-- **Step lemma**: the flights stay the same if the fault is the same whenever it is asked for. -/
lemma SameFlight.step {first second : FlightSimulation R} (h : SameFlight first second) (dtS : R)
    (hloss : first.state.phase.readsThrusterLoss = true →
      first.thrusterLoss = second.thrusterLoss) :
    SameFlight (first.step dtS) (second.step dtS) := by
  obtain ⟨hconfig, hstate⟩ := h
  have hswitch : phaseStep first.config first.thrusterLoss dtS (beginStep dtS first.state) =
      phaseStep second.config second.thrusterLoss dtS (beginStep dtS second.state) := by
    rw [← hconfig, ← hstate]
    exact phaseStep_congr first.config dtS hloss
  unfold FlightSimulation.step
  rw [hswitch, ← hstate]
  split_ifs
  · exact ⟨hconfig, hstate⟩
  · exact ⟨hconfig, rfl⟩

end Step

end FlightDeck.Simulation

namespace FlightDeck.System

open Generator Simulation Protocol Simulator Binary64 FloatRounding

/-! ## Whole runs -/

section Runs

variable [Libm] {options : Options} {f g : ℕ → BitVec 32} {n : ℕ}

/-- The thruster-loss fault is the same in both schedules in every pass that asks for it. -/
def SameThrust (f g : ℕ → BitVec 32) (n : ℕ) : Prop :=
  ∀ i < n, (after f i).simulation.state.phase.readsThrusterLoss = true →
    (f i &&& kThrusterLoss ≠ 0 ↔ g i &&& kThrusterLoss ≠ 0)

/-- **Run lemma**: the flights are the same after every pass. -/
lemma sameFlight_after (h : SameThrust f g n) {i : ℕ} (hi : i ≤ n) :
    SameFlight (after f i).simulation (after g i).simulation := by
  induction i with
  | zero => exact ⟨rfl, rfl⟩
  | succ i ih =>
    obtain ⟨hconfig, hstate⟩ := ih (by omega)
    have hset : SameFlight
        ((after f i).simulation.setThrusterLoss (f i &&& kThrusterLoss ≠ 0))
        ((after g i).simulation.setThrusterLoss (g i &&& kThrusterLoss ≠ 0)) := ⟨hconfig, hstate⟩
    refine hset.step kFixedStepSeconds fun hreads => ?_
    exact decide_eq_decide.mpr (h i (by omega) hreads)

lemma SameThrust.symm (h : SameThrust f g n) : SameThrust g f n := by
  intro i hi hreads
  rw [← (sameFlight_after h hi.le).state] at hreads
  exact (h i hi hreads).symm

/-- The loop makes the same passes. -/
lemma executes_congr (h : SameThrust f g n) (hrun : Executes options f n) :
    Executes options g n := by
  intro i hi
  have hrunning := hrun i hi
  unfold running at hrunning ⊢
  rw [stepCount_after] at hrunning ⊢
  rw [← (sameFlight_after h hi.le).state]
  exact hrunning

/-- A packet is made of the state and the flags. -/
lemma packet_eq (f : ℕ → BitVec 32) (i : ℕ) :
    packet f i = makeTelemetry (after f (i + 1)).simulation.state (BitVec.ofNat 32 i) (f i) := by
  unfold packet telemetry
  rw [stepCount_after, setWidth_ofNat_succ_sub]

/-- **A fault changes nothing that it is not meant to change.** Let two schedules of faults agree
on the loss of a thruster in every pass that asks for it: those in the powered ascent, the descent
and the landing burn. Then one simulator makes `n` passes exactly if the other does, with the same
state after each, and their packets agree in every field except for the measured position and
velocity and the fault flags; and in these too, the flags apart, where the schedules agree on the
sensor noise. -/
theorem flight_unaffected (h : SameThrust f g n) :
    (Executes options f n ↔ Executes options g n) ∧
      (∀ i ≤ n, (after f i).simulation.state = (after g i).simulation.state) ∧
      ∀ i < n,
        packet g i = { packet f i with
            positionM := (packet g i).positionM
            velocityMps := (packet g i).velocityMps
            faultFlags := g i } ∧
          ((f i &&& kSensorNoise ≠ 0 ↔ g i &&& kSensorNoise ≠ 0) →
            packet g i = { packet f i with faultFlags := g i }) := by
  refine ⟨⟨executes_congr h, executes_congr h.symm⟩, fun i hi => (sameFlight_after h hi).state,
    fun i hi => ?_⟩
  have hstate := (sameFlight_after h (Nat.succ_le_of_lt hi)).state
  rw [packet_eq, packet_eq, ← hstate]
  refine ⟨rfl, fun hnoise => ?_⟩
  have hmeasured : ∀ truth frequency amplitude : Float,
      measured (g i) (BitVec.ofNat 32 i) truth frequency amplitude =
        measured (f i) (BitVec.ofNat 32 i) truth frequency amplitude := by
    intro truth frequency amplitude
    unfold measured
    simp only [hnoise]
  simp only [makeTelemetry, hmeasured]

end Runs

/-- A thruster is lost on the pad; then the other two faults are set. -/
def harmlessFaults (i : ℕ) : BitVec 32 := if i < 5 then kThrusterLoss else 6

/-- On the pad nothing asks for the thruster. -/
theorem flight_unaffected_harmlessFaults :
    (@after coarseLibm (fun _ => 0) 12).simulation.state =
      (@after coarseLibm harmlessFaults 12).simulation.state := by
  let libm := coarseLibm
  have hthrust : SameThrust (fun _ => 0) harmlessFaults 12 := by
    show ∀ i < 12, _
    decide +kernel
  exact (@flight_unaffected _ {} _ _ _ hthrust).2.1 12 (Nat.le_refl 12)

/-! ## Sensor noise -/

section Noise

/-- The number that a field of a packet stands for. -/
noncomputable def reading (bits : BitVec 64) : ℝ :=
  value (Float.Model.UnpackedFloat.unpack .binary64 bits)

@[simp] lemma reading_doubleBits (x : Float) : reading (doubleBits x) = val x := rfl

/-- The amplitudes of the noise of the position: east, north and up. -/
def positionAmplitude : Fin 3 → Float := ![3.0, 3.0, 8.0]

/-- The amplitudes of the noise of the velocity: east, north and up. -/
def velocityAmplitude : Fin 3 → Float := ![0.6, 0.6, 1.5]

/-- A measured number is as far from the true one as noise of the amplitude and one rounding take
it, at whatever scale `2 ^ k` the numbers are. -/
structure WithinNoise (amplitude : Float) (measured truth : BitVec 64) : Prop where
  /-- Half a unit of the last place of the sum is the error of the rounding. -/
  abs_sub_le : ∀ k : ℤ, -1021 ≤ k → |reading truth| + val amplitude ≤ (2 : ℝ) ^ k →
    |reading measured - reading truth| ≤ val amplitude + (2 : ℝ) ^ (k - 53)

/-- A sequence number as a double. -/
lemma below_sequence (sequence : BitVec 32) :
    Below (UInt32.ofBitVec sequence).toFloat 32 := by
  have hlt := sequence.isLt
  have hnear : Near (UInt32.ofBitVec sequence).toFloat sequence.toNat :=
    near_ofNat (n := sequence.toNat) (by omega)
  have hscale : Scale 32 := by decide
  apply hnear.bounded hscale.radius
  have : (sequence.toNat : ℝ) ≤ 2 ^ 32 := by exact_mod_cast hlt.le
  rw [Nat.abs_cast]
  exact this.trans (by norm_num)

/-- An amplitude that is not negative. -/
lemma val_literal_nonneg {m d : ℕ} (hm : m < 2 ^ 128 := by norm_num) (hd : 0 < d := by norm_num)
    (hd' : d ≤ 1000 := by norm_num) : 0 ≤ val (OfScientific.ofScientific m true d : Float) := by
  apply (near_ofScientific hm hd hd').le_val (onGrid_zero _)
  rw [NNRatCast.ofScientific_eq_ite]
  exact NNRat.cast_nonneg _

variable [Libm] {faultFlags sequence : BitVec 32} {truth frequency amplitude : Float}

/-- One of the six measurements. -/
lemma withinNoise_measured [LawfulLibm] (htruth : Below truth 61)
    (hfrequency : Below frequency 0) (hamplitude : Below amplitude 3)
    (hnonneg : 0 ≤ val amplitude) :
    WithinNoise amplitude (doubleBits (measured faultFlags sequence truth frequency amplitude))
      (doubleBits truth) := by
  constructor
  intro k hk hle
  rw [reading_doubleBits] at hle ⊢
  rw [reading_doubleBits]
  have hunit := two_zpow_pos (k - 53)
  unfold measured
  split_ifs
  · have hphase : Below ((UInt32.ofBitVec sequence).toFloat * frequency) 32 :=
      (below_sequence sequence).mul hfrequency (m := 32) (by norm_num) (by decide)
    have hsin : Bounded (Libm.sin ((UInt32.ofBitVec sequence).toFloat * frequency)) 1 :=
      LawfulLibm.sin_spec hphase.finite
    have hscale : Scale 62 := by decide
    have hsize : (2 : ℝ) ^ (61 : ℤ) + val amplitude ≤ 2 ^ 1023 := by
      calc (2 : ℝ) ^ (61 : ℤ) + val amplitude ≤ (2 : ℝ) ^ (61 : ℤ) + (2 : ℝ) ^ (3 : ℤ) :=
            add_le_add_right hamplitude.le _
        _ ≤ (2 : ℝ) ^ (62 : ℤ) := zpow_add_zpow_le (by norm_num) (by norm_num)
        _ ≤ 2 ^ 1023 := hscale.radius.le
    have hnoise : Bounded (noise sequence frequency amplitude) (val amplitude) := by
      apply hsin.mul ⟨hamplitude.finite, (abs_of_nonneg hnonneg).le⟩
        ⟨hamplitude.finite.onGrid, ?_⟩
      · rw [one_mul]
      · exact (le_add_of_nonneg_left (two_zpow_pos 61).le).trans hsize
    have herror := (htruth.add_near hnoise hsize).abs_sub_le hk
      ((abs_add_le _ _).trans ((add_le_add_right hnoise.abs_val_le _).trans hle))
    calc |val (truth + noise sequence frequency amplitude) - val truth|
        = |(val (truth + noise sequence frequency amplitude) -
            (val truth + val (noise sequence frequency amplitude))) +
            val (noise sequence frequency amplitude)| := by ring_nf
      _ ≤ (2 : ℝ) ^ (k - 53) + val amplitude :=
          (abs_add_le _ _).trans (add_le_add herror hnoise.abs_val_le)
      _ = val amplitude + (2 : ℝ) ^ (k - 53) := add_comm _ _
  · rw [sub_self, abs_zero]
    linarith

variable [LawfulLibm] {f : ℕ → BitVec 32} {i : ℕ}

omit [LawfulLibm] in
/-- Without the fault the measured values are the true ones. -/
lemma measured_eq_truth (hclear : f i &&& kSensorNoise = 0) :
    (packet f i).positionM = (packet f i).truthPositionM ∧
      (packet f i).velocityMps = (packet f i).truthVelocityMps := by
  have hmeasured : ∀ truth frequency amplitude : Float,
      measured (f i) (BitVec.ofNat 32 i) truth frequency amplitude = truth :=
    fun _ _ _ => if_neg (not_not.mpr hclear)
  rw [packet_eq]
  simp only [makeTelemetry, hmeasured, and_self]

/-- **Sensor noise.** In the first `2 ^ 31` packets of every run, whatever faults are set: without
the fault the measured position and velocity are the true ones bit by bit; with it, on each of the
six axes, the measured value is not further from the true one than the amplitude of the axis and
the error of one rounding. -/
theorem sensor_noise (hi : i < 2 ^ 31) :
    (f i &&& kSensorNoise = 0 →
        (packet f i).positionM = (packet f i).truthPositionM ∧
          (packet f i).velocityMps = (packet f i).truthVelocityMps) ∧
      ∀ axis,
        WithinNoise (positionAmplitude axis) ((packet f i).positionM axis)
            ((packet f i).truthPositionM axis) ∧
          WithinNoise (velocityAmplitude axis) ((packet f i).velocityMps axis)
            ((packet f i).truthVelocityMps axis) := by
  have hwithin : Within _ _ 1 (after f (i + 1)).simulation.state :=
    within_after (Nat.succ_le_of_lt hi)
  refine ⟨measured_eq_truth, ?_⟩
  rw [packet_eq]
  generalize (after f (i + 1)).simulation.state = state at hwithin ⊢
  have hposition : ∀ {x : Float}, Bounded x ((i + 1 : ℕ) * (2 : ℝ) ^ (30 : ℤ)) → Below x 61 :=
    fun h => below_of_bounded h (Nat.succ_le_of_lt hi)
  have hvelocity : ∀ {x : Float}, Bounded x ((i + 1 : ℕ) * (2 : ℝ) ^ (5 : ℤ)) → Below x 61 :=
    fun h => (below_of_bounded h (Nat.succ_le_of_lt hi)).mono (by norm_num)
  intro axis
  fin_cases axis
  · exact ⟨withinNoise_measured (hposition hwithin.downrangeM) (below_literal (by norm_num))
        (below_literal (by norm_num)) val_literal_nonneg,
      withinNoise_measured (hvelocity hwithin.horizontalVelocityMps)
        (below_literal (by norm_num)) (below_literal (by norm_num)) val_literal_nonneg⟩
  · exact ⟨withinNoise_measured (hposition hwithin.crossrangeM) (below_literal (by norm_num))
        (below_literal (by norm_num)) val_literal_nonneg,
      withinNoise_measured (hvelocity hwithin.crossrangeVelocityMps)
        (below_literal (by norm_num)) (below_literal (by norm_num)) val_literal_nonneg⟩
  · exact ⟨withinNoise_measured (hposition hwithin.altitudeM) (below_literal (by norm_num))
        (below_literal (by norm_num)) val_literal_nonneg,
      withinNoise_measured (hvelocity hwithin.velocityMps)
        (below_literal (by norm_num)) (below_literal (by norm_num)) val_literal_nonneg⟩

end Noise

/-- A library that knows the sines that packet 1 asks for, and takes all others for zero. -/
@[reducible] def fewSines : Libm where
  hypot := coarseLibm.hypot
  atan2 := coarseLibm.atan2
  sin x :=
    if x == 0.137 then 0.13657184316802362
    else if x == 0.151 then 0.1504268286676801
    else if x == 0.173 then 0.17213833761259542
    else if x == 0.271 then 0.26769507405886134
    else if x == 0.293 then 0.2888256656352302
    else if x == 0.311 then 0.30601081732530144
    else 0.0

/-- It keeps what the documentation promises. -/
lemma lawful_fewSines : @LawfulLibm fewSines := by
  let libm := fewSines
  constructor
  · exact @LawfulLibm.hypot_spec coarseLibm lawful_coarseLibm
  · exact @LawfulLibm.atan2_spec coarseLibm lawful_coarseLibm
  · intro x _
    show Bounded (if _ then _ else _) 1
    have hliteral : ∀ {m d : ℕ}, Below (OfScientific.ofScientific m true d : Float) 0 →
        Bounded (OfScientific.ofScientific m true d : Float) 1 :=
      fun h => Bounded.mono h (by norm_num)
    split_ifs
    · exact hliteral (below_literal (by norm_num))
    · exact hliteral (below_literal (by norm_num))
    · exact hliteral (below_literal (by norm_num))
    · exact hliteral (below_literal (by norm_num))
    · exact hliteral (below_literal (by norm_num))
    · exact hliteral (below_literal (by norm_num))
    · exact hliteral (below_literal (by norm_num))

/-- The altitude of packet 1 with noise on it: it is not the true one. -/
theorem sensor_noise_secondPacket :
    (@packet fewSines (fun _ => kSensorNoise) 1).positionM 2 ≠
        (@packet fewSines (fun _ => kSensorNoise) 1).truthPositionM 2 ∧
      |reading ((@packet fewSines (fun _ => kSensorNoise) 1).positionM 2) -
          reading ((@packet fewSines (fun _ => kSensorNoise) 1).truthPositionM 2)| ≤
        8 + (2 : ℝ) ^ (-21 : ℤ) := by
  refine ⟨by decide +kernel, ?_⟩
  have hwithin : Within 2 2 1 (@after fewSines (fun _ => kSensorNoise) 2).simulation.state :=
    @within_after fewSines _ _ lawful_fewSines (by norm_num)
  obtain ⟨-, hamplitude⟩ := val_literal (m := 80) (n := 8) rfl
  have hamplitude' : val (positionAmplitude 2) = 8 := by exact_mod_cast hamplitude
  have hnoise := (@sensor_noise fewSines lawful_fewSines (fun _ => kSensorNoise) 1
    (by norm_num)).2 2
  have hreading : ∀ state sequence flags, reading
      ((@makeTelemetry fewSines state sequence flags).truthPositionM 2) = val state.altitudeM :=
    fun _ _ _ => rfl
  have hsize : |reading ((@packet fewSines (fun _ => kSensorNoise) 1).truthPositionM 2)| +
      val (positionAmplitude 2) ≤ 2 ^ (32 : ℤ) := by
    have haltitude := hwithin.altitudeM.abs_val_le
    rw [hamplitude', @packet_eq fewSines, hreading]
    norm_num at haltitude ⊢
    linarith
  have hle := hnoise.1.abs_sub_le 32 (by norm_num) hsize
  rwa [hamplitude', show (32 : ℤ) - 53 = -21 by norm_num] at hle

end FlightDeck.System
