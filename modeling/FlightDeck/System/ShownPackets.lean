import FlightDeck.System.FaultEffects
import FlightDeck.System.PacketPath

set_option relaxedAutoImplicit false
set_option autoImplicit false

/-!
# What a sample says of a packet

A packet is written by the simulator and read by the server, sent on as JSON and read again by a
dashboard. The numbers survive all of it: a single becomes the double of the same value, and JSON
changes the sign of a zero and nothing else. What the packet of a pass is depends on the flags read
up to that pass, and on none read later.

## Main definitions

* `numberOfDouble`, `numberOfSingle` — the number that a field stands for.
* `Shows` — a sample says what a packet says.
* `SameNumbers` — two samples say the same.

## Main results

* `Shows.overJson` — JSON changes no number.
* `packet_congr` — a packet depends on the flags read so far.
* `Shows.le_of_le` — later packets are of later phases and times.
-/

namespace FlightDeck.System

open Protocol Generator Simulator Server Simulation

/-! ## Samples -/

/-- The number that a double stands for. -/
def numberOfDouble (bits : BitVec 64) : ℚ := Ieee754.binary64.value bits.toNat

/-- The number that a single stands for. -/
def numberOfSingle (bits : BitVec 32) : ℚ := Ieee754.binary32.value bits.toNat

/-- The sample says what the packet says, number by number. -/
structure Shows (t : Telemetry) (sample : TelemetrySample) : Prop where
  sequence : sample.sequence = t.sequence.toNat
  timestampUs : sample.timestampUs = numberOfBigInt t.timestampUs.toNat
  missionPhase : sample.missionPhase.toNat = t.missionPhase.value.toNat
  positionM : ∀ axis, numberOfDouble (sample.positionM axis) = numberOfDouble (t.positionM axis)
  velocityMps : ∀ axis,
    numberOfDouble (sample.velocityMps axis) = numberOfDouble (t.velocityMps axis)
  orientationWxyz : ∀ i,
    numberOfDouble (sample.orientationWxyz i) = numberOfSingle (t.orientationWxyz i)
  thrustPercent : numberOfDouble sample.thrustPercent = numberOfSingle t.thrustPercent
  chamberPressureMpa :
    numberOfDouble sample.chamberPressureMpa = numberOfSingle t.chamberPressureMpa
  gimbalCommandDeg : ∀ i,
    numberOfDouble (sample.gimbalCommandDeg i) = numberOfSingle (t.gimbalCommandDeg i)
  gridFinCommandDeg : ∀ i,
    numberOfDouble (sample.gridFinCommandDeg i) = numberOfSingle (t.gridFinCommandDeg i)
  faultFlags : sample.faultFlags = t.faultFlags.toNat
  truthPositionM : ∀ axis,
    numberOfDouble (sample.truthPositionM axis) = numberOfDouble (t.truthPositionM axis)
  truthVelocityMps : ∀ axis,
    numberOfDouble (sample.truthVelocityMps axis) = numberOfDouble (t.truthVelocityMps axis)

/-- The samples say the same, but for the time at which the server received them. -/
structure SameNumbers (first second : TelemetrySample) : Prop where
  sequence : first.sequence = second.sequence
  timestampUs : first.timestampUs = second.timestampUs
  missionPhase : first.missionPhase = second.missionPhase
  positionM : numberOfDouble ∘ first.positionM = numberOfDouble ∘ second.positionM
  velocityMps : numberOfDouble ∘ first.velocityMps = numberOfDouble ∘ second.velocityMps
  orientationWxyz :
    numberOfDouble ∘ first.orientationWxyz = numberOfDouble ∘ second.orientationWxyz
  thrustPercent : numberOfDouble first.thrustPercent = numberOfDouble second.thrustPercent
  chamberPressureMpa :
    numberOfDouble first.chamberPressureMpa = numberOfDouble second.chamberPressureMpa
  gimbalCommandDeg :
    numberOfDouble ∘ first.gimbalCommandDeg = numberOfDouble ∘ second.gimbalCommandDeg
  gridFinCommandDeg :
    numberOfDouble ∘ first.gridFinCommandDeg = numberOfDouble ∘ second.gridFinCommandDeg
  faultFlags : first.faultFlags = second.faultFlags
  truthPositionM : numberOfDouble ∘ first.truthPositionM = numberOfDouble ∘ second.truthPositionM
  truthVelocityMps :
    numberOfDouble ∘ first.truthVelocityMps = numberOfDouble ∘ second.truthVelocityMps

section Samples

variable {t : Telemetry} {sample first second : TelemetrySample}

/-- A decoded sample says what its packet says. -/
lemma shows_of_agrees (h : Server.Agrees t sample)
    (htime : sample.timestampUs = numberOfBigInt t.timestampUs.toNat) : Shows t sample where
  sequence := h.sequence
  timestampUs := htime
  missionPhase := h.missionPhase
  positionM _ := by rw [h.positionM]
  velocityMps _ := by rw [h.velocityMps]
  orientationWxyz i := (h.orientationWxyz i).2.2
  thrustPercent := h.thrustPercent.2.2
  chamberPressureMpa := h.chamberPressureMpa.2.2
  gimbalCommandDeg i := (h.gimbalCommandDeg i).2.2
  gridFinCommandDeg i := (h.gridFinCommandDeg i).2.2
  faultFlags := h.faultFlags
  truthPositionM _ := by rw [h.truthPositionM]
  truthVelocityMps _ := by rw [h.truthVelocityMps]

/-- **JSON changes no number.** -/
lemma Shows.overJson (h : Shows t sample) : Shows t sample.overJson where
  sequence := h.sequence
  timestampUs := h.timestampUs
  missionPhase := h.missionPhase
  positionM axis := (value_jsonNumber _).trans (h.positionM axis)
  velocityMps axis := (value_jsonNumber _).trans (h.velocityMps axis)
  orientationWxyz i := (value_jsonNumber _).trans (h.orientationWxyz i)
  thrustPercent := (value_jsonNumber _).trans h.thrustPercent
  chamberPressureMpa := (value_jsonNumber _).trans h.chamberPressureMpa
  gimbalCommandDeg i := (value_jsonNumber _).trans (h.gimbalCommandDeg i)
  gridFinCommandDeg i := (value_jsonNumber _).trans (h.gridFinCommandDeg i)
  faultFlags := h.faultFlags
  truthPositionM axis := (value_jsonNumber _).trans (h.truthPositionM axis)
  truthVelocityMps axis := (value_jsonNumber _).trans (h.truthVelocityMps axis)

/-- A phase is known by its number. -/
lemma toNat_missionPhase_injective : Function.Injective Server.MissionPhase.toNat := by
  intro first second h
  cases first <;> cases second <;> first | rfl | cases h

/-- Samples of one packet say the same. -/
lemma Shows.sameNumbers (h : Shows t first) (h' : Shows t second) : SameNumbers first second where
  sequence := h.sequence.trans h'.sequence.symm
  timestampUs := h.timestampUs.trans h'.timestampUs.symm
  missionPhase := toNat_missionPhase_injective (h.missionPhase.trans h'.missionPhase.symm)
  positionM := funext fun axis => (h.positionM axis).trans (h'.positionM axis).symm
  velocityMps := funext fun axis => (h.velocityMps axis).trans (h'.velocityMps axis).symm
  orientationWxyz := funext fun i => (h.orientationWxyz i).trans (h'.orientationWxyz i).symm
  thrustPercent := h.thrustPercent.trans h'.thrustPercent.symm
  chamberPressureMpa := h.chamberPressureMpa.trans h'.chamberPressureMpa.symm
  gimbalCommandDeg := funext fun i => (h.gimbalCommandDeg i).trans (h'.gimbalCommandDeg i).symm
  gridFinCommandDeg := funext fun i => (h.gridFinCommandDeg i).trans (h'.gridFinCommandDeg i).symm
  faultFlags := h.faultFlags.trans h'.faultFlags.symm
  truthPositionM := funext fun axis =>
    (h.truthPositionM axis).trans (h'.truthPositionM axis).symm
  truthVelocityMps := funext fun axis =>
    (h.truthVelocityMps axis).trans (h'.truthVelocityMps axis).symm

end Samples

/-! ## Packets -/

section Packets

variable [Libm] {options : Options} {f g : ℕ → BitVec 32} {n i j : ℕ}
  {first second : TelemetrySample}

/-- The state depends on the flags read so far. -/
lemma after_congr (h : ∀ i < n, f i = g i) : after f n = after g n := by
  induction n with
  | zero => rfl
  | succ n ih =>
    have hbefore : after f n = after g n := ih fun i hi => h i (hi.trans (Nat.lt_succ_self n))
    show (after f n).advance (f n) = (after g n).advance (g n)
    rw [hbefore, h n (Nat.lt_succ_self n)]

/-- **So does a packet.** -/
lemma packet_congr (h : ∀ j ≤ i, f j = g j) : packet f i = packet g i := by
  rw [packet_eq, packet_eq, h i le_rfl,
    after_congr fun j (hj : j < i + 1) => h j (Nat.le_of_lt_succ hj)]

/-- No pass goes back to an earlier phase. -/
lemma rank_phaseAfter_le (f : ℕ → BitVec 32) (hij : i ≤ j) :
    SimulatorProcess.rank (SimulatorProcess.phaseAfter f i) ≤
      SimulatorProcess.rank (SimulatorProcess.phaseAfter f j) := by
  induction j, hij using Nat.le_induction with
  | base => exact le_rfl
  | succ j hij ih => exact ih.trans (SimulatorProcess.rank_phaseAfter_succ f j).1

/-- The number of a phase on the wire. -/
lemma missionPhase_packet_eq (f : ℕ → BitVec 32) (i : ℕ) :
    (packet f i).missionPhase.value.toNat =
      SimulatorProcess.rank (SimulatorProcess.phaseAfter f (i + 1)) := by
  rw [packet_eq]
  show (wirePhase (SimulatorProcess.phaseAfter f (i + 1))).value.toNat = _
  cases SimulatorProcess.phaseAfter f (i + 1) <;> rfl

/-- **Later packets are of later phases and times.** -/
lemma Shows.le_of_le (hrun : Executes options f n) (hn : n ≤ 2 ^ 31) (h : Shows (packet f i) first)
    (h' : Shows (packet f j) second) (hij : i ≤ j) (hj : j < n) :
    first.missionPhase.toNat ≤ second.missionPhase.toNat ∧
      first.timestampUs ≤ second.timestampUs := by
  rw [h.missionPhase, h'.missionPhase, h.timestampUs, h'.timestampUs, missionPhase_packet_eq,
    missionPhase_packet_eq]
  exact ⟨rank_phaseAfter_le f (Nat.succ_le_succ hij),
    Ieee754.monotone_roundNat (by decide) (timestampUs_le hrun hn hij hj)⟩

end Packets

end FlightDeck.System
