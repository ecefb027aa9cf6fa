import FlightDeck.Generator.FlightInvariant
import FlightDeck.Server.DecoderAgreement

set_option relaxedAutoImplicit false
set_option autoImplicit false

/-!
# Runs of the simulator

What holds of every packet that the main loop builds in fewer than `2 ^ 31` steps: its numbers
are finite, its phase has a name, its sequence number is the number of the step, and its
timestamp is not below those of the packets before it.

## Main definitions

* `FlightDeck.Generator.Simulator.packet` — the packet built in a given pass.

## Main results

* `FlightDeck.Generator.Simulator.within_after` — the state stays finite.
* `FlightDeck.Generator.Simulator.allFinite_packet` — so do the packets.
* `FlightDeck.Generator.Simulator.timestampUs_le` — timestamps do not decrease.
-/

namespace FlightDeck.Generator

open Simulation Protocol Binary64 FloatRounding

/-! ## The clock -/

section Clock

variable {x y : Float}

/-- A tick of the clock: at least `2 ^ -8` seconds, whatever the rounding. -/
lemma le_val_add_kFixedStepSeconds (hx : Below x 25) (hx0 : 0 ≤ val x) :
    val x + (2 : ℝ) ^ (-8 : ℤ) ≤ val (x + kFixedStepSeconds) := by
  -- the multiple of `2 ^ -20` below `x` is a number of the format, also after the tick
  set m := ⌊val x * 2 ^ 20⌋₊ with hm
  have hfloor : (m : ℝ) ≤ val x * 2 ^ 20 := Nat.floor_le (by positivity)
  have hceil : val x * 2 ^ 20 < m + 1 := Nat.lt_floor_add_one _
  have hlarge : val x ≤ 2 ^ 25 := hx.le.trans (by norm_num)
  have hm45 : m ≤ 2 ^ 45 := by
    have : (m : ℝ) ≤ 2 ^ 45 := by
      calc (m : ℝ) ≤ val x * 2 ^ 20 := hfloor
        _ ≤ 2 ^ 25 * 2 ^ 20 := mul_le_mul_of_nonneg_right hlarge (by positivity)
        _ = 2 ^ 45 := by norm_num
    exact_mod_cast this
  have hradius : Radius ((m + 2 ^ 13 : ℕ) * (2 : ℝ) ^ (-20 : ℤ)) :=
    radius_mul_zpow (by omega) (by norm_num) (by norm_num)
  have htick : AtLeast (kFixedStepSeconds : Float) (-7) := atLeast_literal (by norm_num)
  have hscale : Scale 26 := by decide
  have hnear := hx.add_near (below_kFixedStepSeconds.mono (by norm_num : (-6 : ℤ) ≤ 25))
    ((zpow_add_zpow_le (by norm_num) (by norm_num)).trans hscale.radius.le)
  have hle := hnear.le_val hradius.onGrid (by
    have := htick.le_val
    push_cast
    norm_num at this ⊢
    linarith)
  push_cast at hle
  norm_num at hle ⊢
  linarith

/-- A timestamp is the whole part of the rounded number of microseconds. -/
lemma toNat_timestampOf (hx : Below x 25) (hx0 : 0 ≤ val x) :
    Near (x * 1000000.0) (val x * 1000000) ∧
      (timestampOf x).toNat = ⌊val (x * 1000000.0)⌋₊ := by
  obtain ⟨hmega, hmega'⟩ := val_literal (m := 10000000) (n := 1000000) rfl
  have hscale : Scale 45 := by decide
  have hbelow : Below (1000000.0 : Float) 20 := below_literal (by norm_num)
  have hnear := hx.mul_near hbelow (by
    rw [← zpow_add₀ (by norm_num)]
    exact hscale.radius.le)
  have hproduct : Below (x * 1000000.0) 45 := hx.mul hbelow (by norm_num) hscale
  rw [hmega'] at hnear
  refine ⟨by exact_mod_cast hnear, ?_⟩
  have hnonneg : 0 ≤ val (x * 1000000.0) := hnear.le_val (onGrid_zero _) (by positivity)
  have hlt : val (x * 1000000.0) < 2 ^ 63 := hproduct.le.trans_lt (by norm_num)
  exact toNat_toUInt64 hproduct.finite hnonneg hlt

/-- After a tick the timestamp is not smaller.

**Proof sketch.** Between the two products there is a whole number, which rounding does not
cross. -/
lemma timestampOf_le (hx : Below x 25) (hx0 : 0 ≤ val x) (hy : Below y 25)
    (hxy : val x + (2 : ℝ) ^ (-8 : ℤ) ≤ val y) :
    (timestampOf x).toNat ≤ (timestampOf y).toNat := by
  have hpow : (1 : ℝ) ≤ (2 : ℝ) ^ (-8 : ℤ) * 1000000 := by norm_num
  have hy0 : 0 ≤ val y := hx0.trans ((le_add_of_nonneg_right (two_zpow_pos _).le).trans hxy)
  obtain ⟨hnear, htimestamp⟩ := toNat_timestampOf hx hx0
  obtain ⟨hnear', htimestamp'⟩ := toNat_timestampOf hy hy0
  set c := ⌈val x * 1000000⌉₊ with hc
  have hle : val x * 1000000 ≤ c := Nat.le_ceil _
  have hlt : (c : ℝ) < val x * 1000000 + 1 := Nat.ceil_lt_add_one (by positivity)
  have hgrid : OnGrid .binary64 (c : ℝ) := by
    apply onGrid_natCast
    have hx25 : val x ≤ 2 ^ 25 := hx.le.trans (by norm_num)
    have hc53 : (c : ℝ) ≤ 2 ^ 53 := by
      calc (c : ℝ) ≤ val x * 1000000 + 1 := hlt.le
        _ ≤ 2 ^ 25 * 1000000 + 1 := by linarith
        _ ≤ 2 ^ 53 := by norm_num
    exact_mod_cast hc53
  have hbelow : val (x * 1000000.0) ≤ c := hnear.val_le hgrid hle
  have habove : (c : ℝ) ≤ val (y * 1000000.0) := hnear'.le_val hgrid (by nlinarith)
  rw [htimestamp, htimestamp']
  exact Nat.floor_le_floor (hbelow.trans habove)

end Clock

/-! ## The loop -/

namespace Simulator

section Loop

variable [Libm] {options : Options} {faultFlags : ℕ → BitVec 32} {n : ℕ}

/-- The step counter. -/
@[simp] lemma stepCount_after (n : ℕ) : (after faultFlags n).stepCount = BitVec.ofNat 64 n := by
  induction n with
  | zero => rfl
  | succ n ih =>
    show (after faultFlags n).stepCount + 1 = _
    rw [ih, BitVec.ofNat_add]
    rfl

omit [Libm] in
/-- A multiple of a number, before the counter wraps. -/
lemma ofNat_mod_beq_zero {k : ℕ} (hn : n < 2 ^ 64) (hk : k < 2 ^ 64) :
    (BitVec.ofNat 64 n % BitVec.ofNat 64 k == 0) = (n % k == 0) := by
  rw [Bool.eq_iff_iff, beq_iff_eq, beq_iff_eq, ← BitVec.toNat_inj, BitVec.toNat_umod,
    BitVec.toNat_ofNat, BitVec.toNat_ofNat, Nat.mod_eq_of_lt hn, Nat.mod_eq_of_lt hk]
  rfl

omit [Libm] in
/-- A given number, before the counter wraps. -/
lemma ofNat_beq_ofNat {k : ℕ} (hn : n < 2 ^ 64) (hk : k < 2 ^ 64) :
    (BitVec.ofNat 64 n == BitVec.ofNat 64 k) = (n == k) := by
  rw [Bool.eq_iff_iff, beq_iff_eq, beq_iff_eq, ← BitVec.toNat_inj, BitVec.toNat_ofNat,
    BitVec.toNat_ofNat, Nat.mod_eq_of_lt hn, Nat.mod_eq_of_lt hk]

omit [Libm] in
/-- `static_cast<std::uint32_t>(step_count - 1U)`. -/
lemma setWidth_ofNat_succ_sub (i : ℕ) :
    (BitVec.ofNat 64 (i + 1) - 1).setWidth 32 = BitVec.ofNat 32 i := by
  have hcancel : BitVec.ofNat 64 (i + 1) - 1#64 = BitVec.ofNat 64 i := by
    rw [BitVec.ofNat_add, BitVec.add_sub_cancel]
  show (BitVec.ofNat 64 (i + 1) - 1#64).setWidth 32 = _
  rw [hcancel, BitVec.setWidth_ofNat_of_le (by norm_num)]

/-- The configuration is never changed. -/
lemma config_after (n : ℕ) : (after faultFlags n).simulation.config = .default := by
  induction n with
  | zero => rfl
  | succ n ih =>
    show (FlightSimulation.step _ _).config = _
    unfold FlightSimulation.step
    split_ifs
    · exact ih
    · exact ih

/-- The clock of a step that is made. -/
lemma simulationTimeS_step {simulation : FlightSimulation Float}
    (h : simulation.state.phase ≠ .landed) :
    (simulation.step kFixedStepSeconds).state.simulationTimeS =
      simulation.state.simulationTimeS + kFixedStepSeconds := by
  have htick : AtLeast (kFixedStepSeconds : Float) (-7) := atLeast_literal (by norm_num)
  have hpos : (kFixedStepSeconds : Float) > 0.0 := by
    rw [gt_iff_lt, lt_iff_val zero_spec.1 htick.finite, zero_spec.2]
    exact htick.pos
  rw [FlightSimulation.step_of_ne_landed hpos htick.finite h,
    simulationTimeS_normalizeOrientation, simulationTimeS_phaseStep]
  rfl

/-- A pass is made before the landing. -/
lemma phase_of_executes (hrun : Executes options faultFlags n) {i : ℕ} (hi : i < n) :
    (after faultFlags i).simulation.state.phase ≠ .landed := by
  have hrunning := hrun i hi
  unfold running at hrunning
  rw [Bool.and_eq_true, bne_iff_ne] at hrunning
  exact hrunning.1

/-- Every pass advances the clock. -/
lemma simulationTimeS_after_succ (hrun : Executes options faultFlags n) {i : ℕ} (hi : i < n) :
    (after faultFlags (i + 1)).simulation.state.simulationTimeS =
      (after faultFlags i).simulation.state.simulationTimeS + kFixedStepSeconds :=
  @simulationTimeS_step _
    ((after faultFlags i).simulation.setThrusterLoss (faultFlags i &&& kThrusterLoss ≠ 0))
    (phase_of_executes hrun hi)

/-- The clock is bounded and not negative. -/
lemma clock_after (hrun : Executes options faultFlags n) (hn : n ≤ 2 ^ 31) {i : ℕ} (hi : i ≤ n) :
    Bounded (after faultFlags i).simulation.state.simulationTimeS (i * (2 : ℝ) ^ (-6 : ℤ)) ∧
      0 ≤ val (after faultFlags i).simulation.state.simulationTimeS := by
  induction i with
  | zero =>
    refine ⟨⟨zero_spec.1, ?_⟩, zero_spec.2.ge⟩
    show |val (0.0 : Float)| ≤ _
    rw [zero_spec.2]
    simp
  | succ i ih =>
    obtain ⟨hbounded, hnonneg⟩ := ih (by omega)
    have hbelow : Below (after faultFlags i).simulation.state.simulationTimeS 25 :=
      below_of_bounded hbounded (by omega)
    have htick := le_val_add_kFixedStepSeconds hbelow hnonneg
    have hpos := two_zpow_pos (-8)
    rw [simulationTimeS_after_succ hrun (by omega)]
    refine ⟨?_, by linarith⟩
    apply hbounded.add below_kFixedStepSeconds
    · exact radius_mul_zpow (by omega) (by norm_num) (by norm_num)
    · push_cast
      linarith

variable [LawfulLibm]

/-- **The state stays finite** for `2 ^ 31` passes. -/
theorem within_after (hn : n ≤ 2 ^ 31) : Within n n 1 (after faultFlags n).simulation.state := by
  induction n with
  | zero =>
    have hzero : ∀ k : ℤ, Bounded (0.0 : Float) ((0 : ℕ) * (2 : ℝ) ^ k) := by
      intro k
      refine ⟨zero_spec.1, ?_⟩
      rw [zero_spec.2]
      simp
    obtain ⟨hmass, hmass'⟩ := val_literal (m := 200000) (n := 20000) rfl
    have hlow : (14990 : ℝ) ≤ val (20000.0 : Float) := by
      rw [hmass']
      norm_num
    have hhigh : val (20000.0 : Float) ≤ 20000 := by
      rw [hmass']
      norm_num
    refine ⟨hzero 30, hzero 30, hzero 30, hzero 5, hzero 5, hzero 5, ⟨hmass, hlow, hhigh⟩,
      below_zero 30, below_pair (below_zero 9) (below_zero 9),
      below_pair (below_zero 7) (below_zero 7), fun i => ?_⟩
    fin_cases i
    · exact one_spec.1.mono (by norm_num)
    · exact below_zero 1
    · exact below_zero 1
    · exact below_zero 1
  | succ n ih =>
    let simulation :=
      (after faultFlags n).simulation.setThrusterLoss (faultFlags n &&& kThrusterLoss ≠ 0)
    have hconfig : simulation.config = .default := config_after n
    exact Within.step hconfig (ih (by omega)) hn

end Loop

/-! ## Packets -/

section Packets

variable {state : FlightState Float} {faultFlags sequence : BitVec 32}

/-- The bits of a finite double. -/
lemma isFinite_doubleBits {x : Float} (hx : Finite x) :
    Ieee754.binary64.isFinite (doubleBits x).toNat := isFinite_toBits hx

/-- The bits of a finite single. -/
lemma isFinite_floatBits {x : Float32} {r : ℝ} (hx : Binary32.Bounded x r) :
    Ieee754.binary32.isFinite (floatBits x).toNat := Binary32.isFinite_toBits hx

/-- The single of a bounded double. -/
lemma isFinite_narrow {x : Float} {k : ℤ} (hx : Below x k) (hk : 0 ≤ k) (hk' : k ≤ 127) :
    Ieee754.binary32.isFinite (floatBits (Binary32.narrow x)).toNat :=
  isFinite_floatBits (Binary32.bounded_narrow hx hk hk')

/-- The commanded thrust in percent. -/
lemma bounded_thrustPercent {thrustN : Float} (h : Below thrustN 30) :
    Binary32.Bounded (thrustPercent thrustN) ((2 : ℝ) ^ (19 : ℤ)) := by
  have hmaximum : AtLeast (300000.0 : Float) 18 := atLeast_literal (by norm_num)
  have hhundred : Below (100.0 : Float) 7 := below_literal (by norm_num)
  exact Binary32.bounded_narrow
    ((h.div hmaximum (m := 12) (by norm_num) (by decide)).mul hhundred (by norm_num) (by decide))
    (by norm_num) (by norm_num)

/-- The chamber pressure. -/
lemma isFinite_chamberPressure {thrustN : Float} (h : Below thrustN 30) :
    Ieee754.binary32.isFinite (floatBits (thrustPercent thrustN * 0.12)).toNat := by
  have hfactor : Binary32.Bounded (0.12 : Float32) 1 :=
    Binary32.bounded_of_isFraction (by decide +kernel)
  exact isFinite_floatBits ((bounded_thrustPercent h).mul hfactor (k := 19) (by norm_num)
    (by norm_num) (by norm_num))

variable [Libm] [LawfulLibm]

/-- A measured value is finite. -/
lemma finite_measured {truth frequency amplitude : Float} (htruth : Below truth 61)
    (hfrequency : Below frequency 0) (hamplitude : Below amplitude 3) :
    Finite (measured faultFlags sequence truth frequency amplitude) := by
  have hsequence : Below (UInt32.ofBitVec sequence).toFloat 32 := by
    have hlt := sequence.isLt
    have hnear : Near (UInt32.ofBitVec sequence).toFloat sequence.toNat :=
      near_ofNat (n := sequence.toNat) (by omega)
    have hscale : Scale 32 := by decide
    apply hnear.bounded hscale.radius
    have : (sequence.toNat : ℝ) ≤ 2 ^ 32 := by exact_mod_cast hlt.le
    rw [Nat.abs_cast]
    exact this.trans (by norm_num)
  have hphase := hsequence.mul hfrequency (m := 32) (by norm_num) (by decide)
  have hsin : Below (Libm.sin ((UInt32.ofBitVec sequence).toFloat * frequency)) 0 :=
    (LawfulLibm.sin_spec hphase.finite).mono (by norm_num)
  have hnoise : Below (noise sequence frequency amplitude) 3 :=
    hsin.mul hamplitude (by norm_num) (by decide)
  unfold measured
  split_ifs
  · exact (htruth.add hnoise (m := 62) (by norm_num) (by norm_num) (by decide)).finite
  · exact htruth.finite

/-- **The packets are finite**: all 22 floating-point fields. -/
theorem allFinite_makeTelemetry {n : ℕ} (h : Within n n 1 state) (hn : n ≤ 2 ^ 31) :
    (makeTelemetry state sequence faultFlags).AllFinite := by
  have haltitude : Below state.altitudeM 61 := below_of_bounded h.altitudeM hn
  have hdownrange : Below state.downrangeM 61 := below_of_bounded h.downrangeM hn
  have hcrossrange : Below state.crossrangeM 61 := below_of_bounded h.crossrangeM hn
  have hup : Below state.velocityMps 61 := (below_of_bounded h.velocityMps hn).mono (by norm_num)
  have heast : Below state.horizontalVelocityMps 61 :=
    (below_of_bounded h.horizontalVelocityMps hn).mono (by norm_num)
  have hnorth : Below state.crossrangeVelocityMps 61 :=
    (below_of_bounded h.crossrangeVelocityMps hn).mono (by norm_num)
  refine ⟨?_, ?_⟩
  · intro d hd
    simp only [Telemetry.doubles, makeTelemetry, List.mem_append, List.mem_ofFn] at hd
    rcases hd with ((⟨i, rfl⟩ | ⟨i, rfl⟩) | ⟨i, rfl⟩) | ⟨i, rfl⟩
    · fin_cases i
      · exact isFinite_doubleBits (finite_measured hdownrange (below_literal (by norm_num))
          (below_literal (by norm_num)))
      · exact isFinite_doubleBits (finite_measured hcrossrange (below_literal (by norm_num))
          (below_literal (by norm_num)))
      · exact isFinite_doubleBits (finite_measured haltitude (below_literal (by norm_num))
          (below_literal (by norm_num)))
    · fin_cases i
      · exact isFinite_doubleBits (finite_measured heast (below_literal (by norm_num))
          (below_literal (by norm_num)))
      · exact isFinite_doubleBits (finite_measured hnorth (below_literal (by norm_num))
          (below_literal (by norm_num)))
      · exact isFinite_doubleBits (finite_measured hup (below_literal (by norm_num))
          (below_literal (by norm_num)))
    · fin_cases i
      · exact isFinite_doubleBits hdownrange.finite
      · exact isFinite_doubleBits hcrossrange.finite
      · exact isFinite_doubleBits haltitude.finite
    · fin_cases i
      · exact isFinite_doubleBits heast.finite
      · exact isFinite_doubleBits hnorth.finite
      · exact isFinite_doubleBits hup.finite
  · intro f hf
    simp only [Telemetry.floats, makeTelemetry, List.mem_append, List.mem_ofFn, List.mem_cons,
      List.not_mem_nil, or_false] at hf
    rcases hf with ((⟨i, rfl⟩ | rfl | rfl) | ⟨i, rfl⟩) | ⟨i, rfl⟩
    · exact isFinite_narrow (h.orientationWxyz i) (by norm_num) (by norm_num)
    · exact isFinite_floatBits (bounded_thrustPercent h.thrustN)
    · exact isFinite_chamberPressure h.thrustN
    · exact isFinite_narrow (h.gimbalCommandDeg i) (by norm_num) (by norm_num)
    · exact isFinite_narrow (h.gridFinCommandDeg i) (by norm_num) (by norm_num)

end Packets

section Runs

variable [Libm] {options : Options} {faultFlags : ℕ → BitVec 32} {n : ℕ}

/-- The packet built in pass number `i`, from zero. -/
def packet (faultFlags : ℕ → BitVec 32) (i : ℕ) : Telemetry :=
  (after faultFlags (i + 1)).telemetry (faultFlags i)

/-- A packet that neither the packet-loss fault omits nor `corrupt_once` damages. -/
lemma sent_of_kept {i : ℕ} (hi : i < 2 ^ 31)
    (hkept : faultFlags i &&& kPacketLoss = 0 ∨ (i + 1) % 10 ≠ 0)
    (hintact : options.corruptOnce = false ∨ i + 1 ≠ 250) :
    sent options faultFlags i = some (serialize (packet faultFlags i)).1 := by
  have hcount : ((after faultFlags i).advance (faultFlags i)).stepCount =
      BitVec.ofNat 64 (i + 1) := stepCount_after (i + 1)
  have htenth : (BitVec.ofNat 64 (i + 1) % 10 == 0) = ((i + 1) % 10 == 0) :=
    ofNat_mod_beq_zero (by omega) (by norm_num)
  have hlate : (BitVec.ofNat 64 (i + 1) == 250) = (i + 1 == 250) :=
    ofNat_beq_ofNat (by omega) (by norm_num)
  have hdrop : (decide (faultFlags i &&& kPacketLoss ≠ 0) && (i + 1) % 10 == 0) = false := by
    rw [Bool.and_eq_false_iff, decide_eq_false_iff_not, not_not, beq_eq_false_iff_ne]
    exact hkept
  have hcorrupt : (options.corruptOnce && i + 1 == 250) = false := by
    rw [Bool.and_eq_false_iff, beq_eq_false_iff_ne]
    exact hintact
  simp only [sent, iterate, hcount]
  rw [htenth, hlate, hdrop, hcorrupt]
  rfl

/-- The sequence number is the number of the pass. -/
lemma sequence_packet (i : ℕ) : (packet faultFlags i).sequence = BitVec.ofNat 32 i := by
  show ((after faultFlags (i + 1)).stepCount - 1).setWidth 32 = _
  rw [stepCount_after, setWidth_ofNat_succ_sub]

/-- The phase on the wire has a name. -/
lemma missionPhase_packet (i : ℕ) :
    ∃ phase : Server.MissionPhase,
      phase.toNat = (packet faultFlags i).missionPhase.value.toNat := by
  show ∃ phase : Server.MissionPhase, phase.toNat =
    (wirePhase (after faultFlags (i + 1)).simulation.state.phase).value.toNat
  cases (after faultFlags (i + 1)).simulation.state.phase with
  | prelaunch => exact ⟨.prelaunch, rfl⟩
  | poweredAscent => exact ⟨.poweredAscent, rfl⟩
  | coast => exact ⟨.coast, rfl⟩
  | descent => exact ⟨.descent, rfl⟩
  | landingBurn => exact ⟨.landingBurn, rfl⟩
  | landed => exact ⟨.landed, rfl⟩

/-- One pass later the timestamp is not smaller. -/
lemma timestampUs_le_succ (hrun : Executes options faultFlags n) (hn : n ≤ 2 ^ 31) {i : ℕ}
    (hi : i + 1 < n) :
    (packet faultFlags i).timestampUs.toNat ≤ (packet faultFlags (i + 1)).timestampUs.toNat := by
  obtain ⟨hbounded, hnonneg⟩ := clock_after hrun hn hi.le
  obtain ⟨hbounded', -⟩ := clock_after hrun hn (Nat.succ_le_of_lt hi)
  have hbelow := below_of_bounded hbounded (by omega)
  have hbelow' := below_of_bounded hbounded' (by omega)
  apply timestampOf_le hbelow hnonneg hbelow'
  rw [simulationTimeS_after_succ hrun hi]
  exact le_val_add_kFixedStepSeconds hbelow hnonneg

/-- **Timestamps do not decrease.** -/
theorem timestampUs_le (hrun : Executes options faultFlags n) (hn : n ≤ 2 ^ 31) {i j : ℕ}
    (hij : i ≤ j) (hj : j < n) :
    (packet faultFlags i).timestampUs.toNat ≤ (packet faultFlags j).timestampUs.toNat := by
  induction j, hij using Nat.le_induction with
  | base => exact le_rfl
  | succ j hij ih => exact (ih (by omega)).trans (timestampUs_le_succ hrun hn hj)

/-- The packets of a run are finite. -/
theorem allFinite_packet [LawfulLibm] {i : ℕ} (hi : i < 2 ^ 31) :
    (packet faultFlags i).AllFinite :=
  allFinite_makeTelemetry (within_after hi) hi

end Runs

end Simulator

end FlightDeck.Generator
