import FlightDeck.Generator.ControlServer
import FlightDeck.Generator.FlightSimulation
import FlightDeck.Lib.Binary32
import FlightDeck.Protocol.Telemetry

set_option relaxedAutoImplicit false
set_option autoImplicit false

/-!
# The simulator

The main loop of `generator/src/main.cpp` with network transmission enabled: every step reads
the fault flags, advances the flight, numbers and encodes a telemetry packet, and hands it to
the transmitter unless the packet-loss fault omits it.

A C++ `double` is a `Float`, whose operations round like those of IEEE 754, and a `float` is a
`Float32`. The three library functions that IEEE 754 does not fix are a parameter.

## Main definitions

* `Libm`, `LawfulLibm` — the library functions, and what their documentation promises.
* `FlightDeck.Generator.makeTelemetry` — the packet of a state.
* `FlightDeck.Generator.Simulator.iterate` — one pass through the loop.
* `FlightDeck.Generator.Executes` — the loop makes a number of steps.
-/

open Binary64

/-- The library functions of which IEEE 754 says nothing. -/
class Libm where
  /-- `std::hypot`. -/
  hypot : Float → Float → Float
  /-- `std::atan2`. -/
  atan2 : Float → Float → Float
  /-- `std::sin`. -/
  sin : Float → Float

/-- What the library documents: the range of the angle functions, and a length that is right up
to a factor of two and does not overflow on the way. -/
class LawfulLibm [Libm] : Prop where
  /-- `hypot` approximates `√(x² + y²)`. -/
  hypot_spec {x y : Float} : Below x 900 → Below y 900 →
    Finite (Libm.hypot x y) ∧ √(val x ^ 2 + val y ^ 2) / 2 ≤ val (Libm.hypot x y) ∧
      val (Libm.hypot x y) ≤ 2 * √(val x ^ 2 + val y ^ 2)
  /-- `atan2` is an angle between `-π` and `π`. -/
  atan2_spec {y x : Float} : Finite y → Finite x → Bounded (Libm.atan2 y x) 4
  /-- `sin` is between `-1` and `1`. -/
  sin_spec {x : Float} : Finite x → Bounded (Libm.sin x) 1

instance [Libm] : CMath Float where
  sqrt := Float.sqrt
  hypot := Libm.hypot
  atan2 := Libm.atan2
  isfinite := Float.isFinite

namespace FlightDeck.Generator

open Simulation Protocol Binary32

/-! ## Telemetry -/

/-- `wire_phase`. -/
def wirePhase : Simulation.MissionPhase → Protocol.MissionPhase
  | .prelaunch => .prelaunch
  | .poweredAscent => .poweredAscent
  | .coast => .coast
  | .descent => .descent
  | .landingBurn => .landingBurn
  | .landed => .landed

/-- The bits of a `double`. -/
def doubleBits (x : Float) : BitVec 64 := x.toBits.toBitVec

/-- The bits of a `float`. -/
def floatBits (x : Float32) : BitVec 32 := x.toBits.toBitVec

/-- `static_cast<std::uint64_t>(state.simulation_time_s * 1'000'000.0)`. -/
def timestampOf (simulationTimeS : Float) : BitVec 64 :=
  (simulationTimeS * 1000000.0).toUInt64.toBitVec

variable [Libm]

/-- One of the six `std::sin` terms of the sensor noise. -/
def noise (sequence : BitVec 32) (frequency amplitude : Float) : Float :=
  Libm.sin ((UInt32.ofBitVec sequence).toFloat * frequency) * amplitude

/-- A measured value: the true one, with noise if the fault is set. -/
def measured (faultFlags sequence : BitVec 32) (truth frequency amplitude : Float) : Float :=
  if faultFlags &&& kSensorNoise ≠ 0 then truth + noise sequence frequency amplitude else truth

/-- `thrust_percent`. -/
def thrustPercent (thrustN : Float) : Float32 := narrow (thrustN / 300000.0 * 100.0)

/-- `make_telemetry`. -/
def makeTelemetry (state : FlightState Float) (sequence faultFlags : BitVec 32) : Telemetry :=
  let measured := measured faultFlags sequence
  { sequence
    timestampUs := timestampOf state.simulationTimeS
    missionPhase := wirePhase state.phase
    positionM := ![
      doubleBits (measured state.downrangeM 0.137 3.0),
      doubleBits (measured state.crossrangeM 0.151 3.0),
      doubleBits (measured state.altitudeM 0.173 8.0)]
    velocityMps := ![
      doubleBits (measured state.horizontalVelocityMps 0.271 0.6),
      doubleBits (measured state.crossrangeVelocityMps 0.293 0.6),
      doubleBits (measured state.velocityMps 0.311 1.5)]
    orientationWxyz := fun i => floatBits (narrow (state.orientationWxyz i))
    thrustPercent := floatBits (thrustPercent state.thrustN)
    chamberPressureMpa := floatBits (thrustPercent state.thrustN * 0.12)
    gimbalCommandDeg := fun i => floatBits (narrow (state.gimbalCommandDeg i))
    gridFinCommandDeg := fun i => floatBits (narrow (state.gridFinCommandDeg i))
    faultFlags
    truthPositionM := ![doubleBits state.downrangeM, doubleBits state.crossrangeM,
      doubleBits state.altitudeM]
    truthVelocityMps := ![doubleBits state.horizontalVelocityMps,
      doubleBits state.crossrangeVelocityMps, doubleBits state.velocityMps] }

/-! ## The loop -/

/-- The command-line options that the loop reads. -/
structure Options where
  /-- `maximum_steps`; zero is no limit. -/
  maximumSteps : ℕ := 0
  /-- `corrupt_once`. -/
  corruptOnce : Bool := false

/-- The variables of the loop. -/
structure Simulator where
  /-- `simulation`. -/
  simulation : FlightSimulation Float
  /-- `step_count`. -/
  stepCount : BitVec 64

namespace Simulator

/-- The variables before the loop. -/
def start : Simulator where
  simulation := .new .default
  stepCount := 0

/-- The condition of the loop. -/
def running (simulator : Simulator) (options : Options) : Bool :=
  simulator.simulation.state.phase != .landed &&
    (options.maximumSteps == 0 || simulator.stepCount.toNat < options.maximumSteps)

/-- The statements of the loop that advance the flight. -/
def advance (simulator : Simulator) (faultFlags : BitVec 32) : Simulator where
  simulation := (simulator.simulation.setThrusterLoss (faultFlags &&& kThrusterLoss ≠ 0)).step
    kFixedStepSeconds
  stepCount := simulator.stepCount + 1

/-- The packet of the step that was just made. -/
def telemetry (simulator : Simulator) (faultFlags : BitVec 32) : Telemetry :=
  makeTelemetry simulator.simulation.state ((simulator.stepCount - 1).setWidth 32) faultFlags

/-- `packet[20] ^= std::byte{0x01}`. -/
def corrupt (packet : List ByteCodec.Byte) : List ByteCodec.Byte :=
  packet.modify 20 (· ^^^ 0x01#8)

/-- One pass through the loop: the variables after it, and the packet given to the transmitter,
if any. -/
def iterate (simulator : Simulator) (options : Options) (faultFlags : BitVec 32) :
    Simulator × Option (List ByteCodec.Byte) :=
  let simulator := simulator.advance faultFlags
  let packet := (serialize (simulator.telemetry faultFlags)).1
  let packet :=
    if options.corruptOnce && simulator.stepCount == 250 then corrupt packet else packet
  let intentionalDrop := faultFlags &&& kPacketLoss ≠ 0 && simulator.stepCount % 10 == 0
  (simulator, if intentionalDrop then none else some packet)

/-- The variables after `n` passes through the loop, reading the given flags. -/
def after (faultFlags : ℕ → BitVec 32) : ℕ → Simulator
  | 0 => start
  | n + 1 => (after faultFlags n).advance (faultFlags n)

/-- What pass number `i` (from zero) gives to the transmitter. -/
def sent (options : Options) (faultFlags : ℕ → BitVec 32) (i : ℕ) :
    Option (List ByteCodec.Byte) :=
  ((after faultFlags i).iterate options (faultFlags i)).2

end Simulator

/-- The loop makes at least `n` passes: its condition holds before each of them. -/
def Executes (options : Options) (faultFlags : ℕ → BitVec 32) (n : ℕ) : Prop :=
  ∀ i < n, (Simulator.after faultFlags i).running options = true

end FlightDeck.Generator
