import FlightDeck.Lib.ByteCodec
import FlightDeck.Lib.Ieee754
import FlightDeck.Lib.JsInt
import FlightDeck.Server.Types

set_option relaxedAutoImplicit false
set_option autoImplicit false

/-!
# The streaming server's packet decoder

`server/src/telemetry.ts` and `server/src/crc32.ts`: a decoder that reads every field at its own
absolute offset through a `DataView`, and a checksum that looks bytes up in a table and works on
JavaScript's signed 32-bit integers.

## Main definitions

* `FlightDeck.Server.crc32`, `FlightDeck.Server.table` — the table-driven checksum.
* `FlightDeck.Server.numberOfBigInt` — `Number(bigint)`.
* `FlightDeck.Server.decodeTelemetry` — the decoder.
-/

namespace FlightDeck.Server

open ByteCodec Ieee754

/-! ## Checksum -/

/-- One bit of the table loop:
`crc = (crc >>> 1) ^ ((crc & 1) === 1 ? 0xedb88320 : 0)`. -/
def tableBit (crc : ℤ) : ℤ :=
  JsInt.xor (JsInt.ushr crc 1) (if JsInt.and crc 1 = 1 then 0xedb88320 else 0)

/-- `table`: entry `value` is eight bits of the loop from `value`, stored as `crc >>> 0`. -/
def table : List ℤ :=
  (List.range 256).map fun value : ℕ => JsInt.ushr (tableBit^[8] (value : ℤ)) 0

/-- `crc32`. -/
def crc32 (bytes : List Byte) : ℤ :=
  let crc := bytes.foldl
    (fun crc byte =>
      JsInt.xor (JsInt.ushr crc 8)
        (table.getD (JsInt.and (JsInt.xor crc byte.toNat) 0xff).toNat 0)) 0xffffffff
  JsInt.ushr (JsInt.xor crc 0xffffffff) 0

/-! ## Numbers -/

/-- `Number(value)` of a nonnegative `bigint`: the nearest double, ties to even. -/
def numberOfBigInt (value : ℕ) : ℕ := roundNat 53 value

/-- `a + b` on two integer-valued doubles: the exact sum, rounded. -/
def numberAdd (a b : ℕ) : ℕ := roundNat 53 (a + b)

/-- `Number.isFinite`. -/
def isFinite (value : BitVec 64) : Bool := binary64.isFinite value.toNat

namespace DataView

/-- `view.getUint8(offset)`. -/
def getUint8 (view : List Byte) (offset : ℕ) : ℕ := ofBytes (slice offset 1 view)

/-- `view.getUint16(offset, false)`. -/
def getUint16 (view : List Byte) (offset : ℕ) : ℕ := ofBytes (slice offset 2 view)

/-- `view.getUint32(offset, false)`. -/
def getUint32 (view : List Byte) (offset : ℕ) : ℕ := ofBytes (slice offset 4 view)

/-- `view.getBigUint64(offset, false)`. -/
def getBigUint64 (view : List Byte) (offset : ℕ) : ℕ := ofBytes (slice offset 8 view)

/-- `view.getFloat32(offset, false)`: the single widened to a number. -/
def getFloat32 (view : List Byte) (offset : ℕ) : BitVec 64 :=
  BitVec.ofNat 64 (widen (getUint32 view offset))

/-- `view.getFloat64(offset, false)`. -/
def getFloat64 (view : List Byte) (offset : ℕ) : BitVec 64 :=
  BitVec.ofNat 64 (getBigUint64 view offset)

end DataView

open DataView

/-! ## Decoder -/

/-- `TELEMETRY_MAGIC`. -/
def TELEMETRY_MAGIC : ℕ := 0x46445831

/-- `TELEMETRY_VERSION`. -/
def TELEMETRY_VERSION : ℕ := 2

/-- `TELEMETRY_PACKET_SIZE`. -/
def TELEMETRY_PACKET_SIZE : ℕ := 163

/-- `CRC_OFFSET`. -/
def CRC_OFFSET : ℕ := 159

/-- `DecodeError`. -/
inductive DecodeError
  | wrongSize
  | wrongMagic
  | unsupportedVersion
  | checksumMismatch
  | invalidPhase
  | invalidNumber
  deriving DecidableEq, Repr

/-- The sample `decodeTelemetry` builds, before its numbers are checked. -/
def readSample (view : List Byte) (phase : MissionPhase) (receivedAtMs : ℕ) : TelemetrySample where
  sequence := getUint32 view 6
  timestampUs := numberOfBigInt (getBigUint64 view 10)
  missionPhase := phase
  positionM := ![getFloat64 view 19, getFloat64 view 27, getFloat64 view 35]
  velocityMps := ![getFloat64 view 43, getFloat64 view 51, getFloat64 view 59]
  orientationWxyz :=
    ![getFloat32 view 67, getFloat32 view 71, getFloat32 view 75, getFloat32 view 79]
  thrustPercent := getFloat32 view 83
  chamberPressureMpa := getFloat32 view 87
  gimbalCommandDeg := ![getFloat32 view 91, getFloat32 view 95]
  gridFinCommandDeg := ![getFloat32 view 99, getFloat32 view 103]
  faultFlags := getUint32 view 107
  serverReceivedAtMs := receivedAtMs
  truthPositionM := ![getFloat64 view 111, getFloat64 view 119, getFloat64 view 127]
  truthVelocityMps := ![getFloat64 view 135, getFloat64 view 143, getFloat64 view 151]

/-- `numbers`: the fields the decoder requires to be finite. -/
def TelemetrySample.numbers (sample : TelemetrySample) : List (BitVec 64) :=
  List.ofFn sample.positionM ++ List.ofFn sample.velocityMps ++ List.ofFn sample.orientationWxyz ++
    List.ofFn sample.gimbalCommandDeg ++ List.ofFn sample.gridFinCommandDeg ++
    List.ofFn sample.truthPositionM ++ List.ofFn sample.truthVelocityMps ++
    [sample.thrustPercent, sample.chamberPressureMpa]

/-- `decodeTelemetry`. -/
def decodeTelemetry (packet : List Byte) (receivedAtMs : ℕ) :
    Except DecodeError TelemetrySample :=
  if packet.length ≠ TELEMETRY_PACKET_SIZE then .error .wrongSize
  else if getUint32 packet 0 ≠ TELEMETRY_MAGIC then .error .wrongMagic
  else if getUint16 packet 4 ≠ TELEMETRY_VERSION then .error .unsupportedVersion
  else if (getUint32 packet CRC_OFFSET : ℤ) ≠ crc32 (packet.take CRC_OFFSET) then
    .error .checksumMismatch
  else
    match missionPhases[getUint8 packet 18]? with
    | none => .error .invalidPhase
    | some phase =>
      let sample := readSample packet phase receivedAtMs
      if sample.numbers.all isFinite then .ok sample else .error .invalidNumber

/-- The standard check value of the checksum, the fixture of the server tests. -/
example : crc32 [0x31, 0x32, 0x33, 0x34, 0x35, 0x36, 0x37, 0x38, 0x39] = 0xcbf43926 := by
  decide +kernel

end FlightDeck.Server
