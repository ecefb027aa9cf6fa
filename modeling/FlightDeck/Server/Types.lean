import Mathlib.Data.Fin.VecNotation
import Mathlib.Data.Fintype.Pi
import Mathlib.Tactic.IntervalCases

set_option relaxedAutoImplicit false
set_option autoImplicit false

/-!
# Records of the streaming server

The types of `server/src/types.ts`, shared by the server and the dashboard. A JavaScript number
that the program only ever fills with a natural number (a counter, a sequence number, a
timestamp) is that natural number; a number read from a floating-point field is its `binary64`
pattern.

## Main definitions

* `FlightDeck.Server.TelemetrySample`, `FlightDeck.Server.StreamMetrics`,
  `FlightDeck.Server.FaultCommand`, `FlightDeck.Server.ServerMessage`.
-/

namespace FlightDeck.Server

/-- `MissionPhase`, the union of the six names in `missionPhases`. -/
inductive MissionPhase
  | prelaunch
  | poweredAscent
  | coast
  | descent
  | landingBurn
  | landed
  deriving DecidableEq, Repr

/-- `missionPhases`: the phase names in wire order. -/
def missionPhases : List MissionPhase :=
  [.prelaunch, .poweredAscent, .coast, .descent, .landingBurn, .landed]

/-- The position of a phase in `missionPhases`, its numeric value. -/
def MissionPhase.toNat : MissionPhase → ℕ
  | .prelaunch => 0
  | .poweredAscent => 1
  | .coast => 2
  | .descent => 3
  | .landingBurn => 4
  | .landed => 5

/-- Looking a number up in `missionPhases` finds the phase with that value. -/
lemma getElem?_missionPhases (v : ℕ) (phase : MissionPhase) :
    missionPhases[v]? = some phase ↔ phase.toNat = v := by
  rcases Nat.lt_or_ge v 6 with h | h
  · interval_cases v <;> cases phase <;> simp [missionPhases, MissionPhase.toNat]
  · have hv : phase.toNat ≠ v := by cases phase <;> simp only [MissionPhase.toNat] <;> omega
    simp only [hv, iff_false]
    rw [List.getElem?_eq_none (by simpa [missionPhases] using h)]
    simp

/-- `TelemetrySample`. -/
structure TelemetrySample where
  /-- Packet number, below `2 ^ 32`. -/
  sequence : ℕ
  /-- Simulation time, an integer-valued double. -/
  timestampUs : ℕ
  /-- Mission state. -/
  missionPhase : MissionPhase
  /-- Measured position. -/
  positionM : Fin 3 → BitVec 64
  /-- Measured velocity. -/
  velocityMps : Fin 3 → BitVec 64
  /-- Attitude quaternion. -/
  orientationWxyz : Fin 4 → BitVec 64
  /-- Commanded thrust. -/
  thrustPercent : BitVec 64
  /-- Chamber pressure. -/
  chamberPressureMpa : BitVec 64
  /-- Gimbal commands. -/
  gimbalCommandDeg : Fin 2 → BitVec 64
  /-- Grid-fin commands. -/
  gridFinCommandDeg : Fin 2 → BitVec 64
  /-- Active faults, below `2 ^ 32`. -/
  faultFlags : ℕ
  /-- Noise-free position. -/
  truthPositionM : Fin 3 → BitVec 64
  /-- Noise-free velocity. -/
  truthVelocityMps : Fin 3 → BitVec 64
  /-- Wall clock of the server at reception. -/
  serverReceivedAtMs : ℕ
  deriving DecidableEq

/-- `StreamMetrics`; the initializers are those of `#metrics`. -/
structure StreamMetrics where
  /-- Datagrams seen. -/
  received : ℕ := 0
  /-- Datagrams decoded. -/
  valid : ℕ := 0
  /-- Datagrams not decoded. -/
  rejected : ℕ := 0
  /-- Sequence numbers skipped. -/
  lost : ℕ := 0
  /-- Packets behind the latest one. -/
  reordered : ℕ := 0
  deriving DecidableEq, Repr

/-- `FaultType`. -/
inductive FaultType
  | thrusterLoss
  | sensorNoise
  | packetLoss
  deriving DecidableEq, Repr

/-- `FaultCommand`; its `type` field is always `"command"`. Text is a list of characters. -/
structure FaultCommand where
  /-- The command's identifier. -/
  id : List Char
  /-- The fault it sets or clears. -/
  fault : FaultType
  /-- Set or clear. -/
  enabled : Bool
  /-- Wall clock of the browser at issue, as a `binary64` pattern. -/
  issuedAtMs : BitVec 64
  deriving DecidableEq

/-- `ServerMessage`. -/
inductive ServerMessage
  | history (samples : List TelemetrySample) (metrics : StreamMetrics)
  | reset (metrics : StreamMetrics)
  | telemetry (sample : TelemetrySample) (metrics : StreamMetrics)
  | controlStatus (connected : Bool)
  | commandAck (id : List Char) (fault : FaultType) (enabled : Bool) (acknowledgedAtMs : ℕ)
  | commandError (id : Option (List Char)) (message : String)
  deriving DecidableEq

end FlightDeck.Server
