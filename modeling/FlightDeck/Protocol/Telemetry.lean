import Mathlib.Data.Fin.VecNotation
import Mathlib.Data.Fintype.Pi
import Mathlib.Logic.Function.Iterate
import FlightDeck.Lib.ByteCodec

set_option relaxedAutoImplicit false
set_option autoImplicit false

/-!
# The telemetry packet

The C++ side of the wire contract (`protocol/src/telemetry.cpp`): the packet's fields, its
checksum, the encoder and the decoder. Both run over the packet with one running offset that
every read and write advances.

Floating-point fields are their IEEE bit patterns: `std::bit_cast` between a `double` and its
64 bits is the identity here, so every pattern is a value, signalling NaNs included.

## Main definitions

* `FlightDeck.Protocol.Telemetry` — the decoded packet.
* `FlightDeck.Protocol.crc32` — the bitwise checksum.
* `FlightDeck.Protocol.serialize`, `FlightDeck.Protocol.deserialize` — encoder and decoder.

## Main results

* `FlightDeck.Protocol.readUnsigned_eq`, `FlightDeck.Protocol.filled_writeUnsigned` — one read
  or write at the running offset, as a step of the big-endian codec.
-/

namespace FlightDeck.Protocol

open ByteCodec

/-! ## Data -/

/-- `kTelemetryMagic`, the bytes of `FDX1`. -/
def kTelemetryMagic : BitVec 32 := 0x46445831#32

/-- `kTelemetryVersion`. -/
def kTelemetryVersion : BitVec 16 := 2#16

/-- `kTelemetryPacketSize`. -/
def kTelemetryPacketSize : ℕ := 163

/-- `kCrcOffset`: the checksum covers the bytes before it. -/
def kCrcOffset : ℕ := 159

/-- `enum class MissionPhase : std::uint8_t`. The underlying type is fixed, so a cast from any
byte is a value of the enumeration, named or not. -/
structure MissionPhase where
  /-- The underlying byte. -/
  value : BitVec 8
  deriving DecidableEq, Repr

namespace MissionPhase

/-- `MissionPhase::prelaunch`. -/
def prelaunch : MissionPhase := ⟨0#8⟩

/-- `MissionPhase::powered_ascent`. -/
def poweredAscent : MissionPhase := ⟨1#8⟩

/-- `MissionPhase::coast`. -/
def coast : MissionPhase := ⟨2#8⟩

/-- `MissionPhase::descent`. -/
def descent : MissionPhase := ⟨3#8⟩

/-- `MissionPhase::landing_burn`. -/
def landingBurn : MissionPhase := ⟨4#8⟩

/-- `MissionPhase::landed`. -/
def landed : MissionPhase := ⟨5#8⟩

end MissionPhase

/-- `struct Telemetry`, with its default member initializers. -/
structure Telemetry where
  /-- Packet number, wrapping at `2 ^ 32`. -/
  sequence : BitVec 32 := 0
  /-- Simulation time in microseconds. -/
  timestampUs : BitVec 64 := 0
  /-- Mission state, any byte. -/
  missionPhase : MissionPhase := .prelaunch
  /-- Measured position, three doubles. -/
  positionM : Fin 3 → BitVec 64 := fun _ => 0
  /-- Measured velocity, three doubles. -/
  velocityMps : Fin 3 → BitVec 64 := fun _ => 0
  /-- Attitude quaternion, four floats; the default is the identity `(1, 0, 0, 0)`. -/
  orientationWxyz : Fin 4 → BitVec 32 := ![0x3F800000#32, 0, 0, 0]
  /-- Commanded thrust, a float. -/
  thrustPercent : BitVec 32 := 0
  /-- Chamber pressure, a float. -/
  chamberPressureMpa : BitVec 32 := 0
  /-- Gimbal commands, two floats. -/
  gimbalCommandDeg : Fin 2 → BitVec 32 := fun _ => 0
  /-- Grid-fin commands, two floats. -/
  gridFinCommandDeg : Fin 2 → BitVec 32 := fun _ => 0
  /-- Active faults. -/
  faultFlags : BitVec 32 := 0
  /-- Noise-free position, three doubles. -/
  truthPositionM : Fin 3 → BitVec 64 := fun _ => 0
  /-- Noise-free velocity, three doubles. -/
  truthVelocityMps : Fin 3 → BitVec 64 := fun _ => 0
  deriving DecidableEq

/-- `enum class DecodeError`. -/
inductive DecodeError
  | none
  | wrongSize
  | wrongMagic
  | unsupportedVersion
  | checksumMismatch
  deriving DecidableEq, Repr

/-- `struct DecodeResult`. -/
structure DecodeResult where
  /-- The decoded packet; the default packet beside an error. -/
  telemetry : Telemetry := {}
  /-- What was wrong, or `none`. -/
  error : DecodeError := .none
  deriving DecidableEq

/-- `using TelemetryBytes = std::array<std::byte, kTelemetryPacketSize>`. -/
abbrev TelemetryBytes := { b : List Byte // b.length = kTelemetryPacketSize }

/-! ## Reading and writing words -/

variable {n : ℕ}

/-- `write_unsigned`: the bytes of a word, most significant first, at the running offset. -/
def writeUnsigned {w : ℕ} (output : Cursor n) (value : BitVec w) : Cursor n :=
  (List.range (w / 8)).foldl
    (fun out i => out.put (((value >>> ((w / 8 - i - 1) * 8)) &&& 0xFF#w).setWidth 8)) output

/-- `read_unsigned`: shift the bytes from the running offset into a word, and return it with
the offset past them. -/
def readUnsigned (w : ℕ) (input : List Byte) (offset : ℕ) : BitVec w × ℕ :=
  (List.range (w / 8)).foldl
    (fun (state : BitVec w × ℕ) _ =>
      ((state.1 <<< 8) ||| (input.getD state.2 0).setWidth w, state.2 + 1)) (0#w, offset)

/-- `write_float`. -/
def writeFloat (output : Cursor n) (value : BitVec 32) : Cursor n := writeUnsigned output value

/-- `write_double`. -/
def writeDouble (output : Cursor n) (value : BitVec 64) : Cursor n := writeUnsigned output value

/-- `read_float`. -/
def readFloat (input : List Byte) (offset : ℕ) : BitVec 32 × ℕ := readUnsigned 32 input offset

/-- `read_double`. -/
def readDouble (input : List Byte) (offset : ℕ) : BitVec 64 × ℕ := readUnsigned 64 input offset

/-- `for (const double value : array) write_double(output, offset, value)`, and the same loop
over floats: write the entries in order. -/
def writeArray {α : Type} {k : ℕ} (write : Cursor n → α → Cursor n) (output : Cursor n)
    (values : Fin k → α) : Cursor n :=
  (List.ofFn values).foldl write output

/-- `for (double& value : array) value = read_double(bytes, offset)`, and the same loop over
floats: read the entries in order. -/
def readArray {α : Type} {k : ℕ} (read : ℕ → α × ℕ) (values : Fin k → α) (offset : ℕ) :
    (Fin k → α) × ℕ :=
  (List.finRange k).foldl
    (fun (state : (Fin k → α) × ℕ) i =>
      (Function.update state.1 i (read state.2).1, (read state.2).2)) (values, offset)

/-! ## Checksum, encoder and decoder -/

/-- One bit of the checksum loop: `mask = 0U - (crc & 1U)` is all ones iff the low bit is set. -/
def crcBit (crc : BitVec 32) : BitVec 32 :=
  let mask := 0#32 - (crc &&& 1#32)
  (crc >>> 1) ^^^ (0xEDB88320#32 &&& mask)

/-- `crc32`: eight bits of the loop for every byte. -/
def crc32 (bytes : List Byte) : BitVec 32 :=
  bytes.foldl (fun crc byte => crcBit^[8] (crc ^^^ byte.setWidth 32)) 0xFFFFFFFF#32 ^^^
    0xFFFFFFFF#32

/-- The writes of `serialize` before the checksum. -/
def writeFields (telemetry : Telemetry) : Cursor kTelemetryPacketSize :=
  let output := Cursor.zeroed kTelemetryPacketSize
  let output := writeUnsigned output kTelemetryMagic
  let output := writeUnsigned output kTelemetryVersion
  let output := writeUnsigned output telemetry.sequence
  let output := writeUnsigned output telemetry.timestampUs
  let output := writeUnsigned output telemetry.missionPhase.value
  let output := writeArray writeDouble output telemetry.positionM
  let output := writeArray writeDouble output telemetry.velocityMps
  let output := writeArray writeFloat output telemetry.orientationWxyz
  let output := writeFloat output telemetry.thrustPercent
  let output := writeFloat output telemetry.chamberPressureMpa
  let output := writeArray writeFloat output telemetry.gimbalCommandDeg
  let output := writeArray writeFloat output telemetry.gridFinCommandDeg
  let output := writeUnsigned output telemetry.faultFlags
  let output := writeArray writeDouble output telemetry.truthPositionM
  let output := writeArray writeDouble output telemetry.truthVelocityMps
  output

/-- `serialize`. -/
def serialize (telemetry : Telemetry) : TelemetryBytes :=
  let output := writeFields telemetry
  let checksum := crc32 (output.bytes.take kCrcOffset)
  let output := writeUnsigned output checksum
  ⟨output.bytes, output.length_bytes⟩

/-- The reads of `deserialize` after the header, from the offset the header check left. -/
def readFields (bytes : List Byte) (offset : ℕ) : Telemetry :=
  let telemetry : Telemetry := {}
  let (sequence, offset) := readUnsigned 32 bytes offset
  let (timestampUs, offset) := readUnsigned 64 bytes offset
  let (missionPhase, offset) := readUnsigned 8 bytes offset
  let (positionM, offset) := readArray (readDouble bytes) telemetry.positionM offset
  let (velocityMps, offset) := readArray (readDouble bytes) telemetry.velocityMps offset
  let (orientationWxyz, offset) := readArray (readFloat bytes) telemetry.orientationWxyz offset
  let (thrustPercent, offset) := readFloat bytes offset
  let (chamberPressureMpa, offset) := readFloat bytes offset
  let (gimbalCommandDeg, offset) := readArray (readFloat bytes) telemetry.gimbalCommandDeg offset
  let (gridFinCommandDeg, offset) :=
    readArray (readFloat bytes) telemetry.gridFinCommandDeg offset
  let (faultFlags, offset) := readUnsigned 32 bytes offset
  let (truthPositionM, offset) := readArray (readDouble bytes) telemetry.truthPositionM offset
  let (truthVelocityMps, _) := readArray (readDouble bytes) telemetry.truthVelocityMps offset
  { sequence, timestampUs, missionPhase := ⟨missionPhase⟩, positionM, velocityMps,
    orientationWxyz, thrustPercent, chamberPressureMpa, gimbalCommandDeg, gridFinCommandDeg,
    faultFlags, truthPositionM, truthVelocityMps }

/-- `deserialize`: size, magic, version and checksum are checked in this order. -/
def deserialize (bytes : List Byte) : DecodeResult :=
  if bytes.length ≠ kTelemetryPacketSize then { error := .wrongSize }
  else
    let (magic, offset) := readUnsigned 32 bytes 0
    if magic ≠ kTelemetryMagic then { error := .wrongMagic }
    else
      let (version, offset) := readUnsigned 16 bytes offset
      if version ≠ kTelemetryVersion then { error := .unsupportedVersion }
      else
        let expectedCrc := crc32 (bytes.take kCrcOffset)
        if (readUnsigned 32 bytes kCrcOffset).1 ≠ expectedCrc then { error := .checksumMismatch }
        else { telemetry := readFields bytes offset, error := .none }

/-- The standard check value of the checksum, the fixture of the protocol tests. -/
example : crc32 [0x31, 0x32, 0x33, 0x34, 0x35, 0x36, 0x37, 0x38, 0x39] = 0xCBF43926#32 := by
  decide +kernel

/-! ## Words at the running offset -/

/-- Shifting a byte into a word appends a base-256 digit. -/
lemma shiftLeft_or_byte (w m : ℕ) (b : Byte) :
    (BitVec.ofNat w m <<< 8) ||| b.setWidth w = BitVec.ofNat w (m * 256 + b.toNat) := by
  apply BitVec.eq_of_getLsbD_eq
  intro i hi
  have hbit : (m * 256 + b.toNat).testBit i =
      if i < 8 then b.toNat.testBit i else m.testBit (i - 8) := by
    rw [Nat.mul_comm, show (256 : ℕ) = 2 ^ 8 by rfl,
      Nat.testBit_two_pow_mul_add m b.isLt i]
  simp only [BitVec.getLsbD_or, BitVec.getLsbD_shiftLeft, BitVec.getLsbD_ofNat,
    BitVec.getLsbD_setWidth, hi, decide_true, Bool.true_and, hbit]
  by_cases h8 : i < 8
  · simp [h8, BitVec.getLsbD]
  · have hb : b.getLsbD i = false := BitVec.getLsbD_of_ge b i (by omega)
    simp [h8, hb, show i - 8 < w by omega]

/-- The loop of `read_unsigned`, `k` bytes in: the bytes read so far are the digits of the
word. -/
lemma foldl_readUnsigned (w : ℕ) (input : List Byte) (offset k : ℕ)
    (hk : offset + k ≤ input.length) :
    (List.range k).foldl
      (fun (state : BitVec w × ℕ) _ =>
        ((state.1 <<< 8) ||| (input.getD state.2 0).setWidth w, state.2 + 1)) (0#w, offset) =
      (BitVec.ofNat w (ofBytes (slice offset k input)), offset + k) := by
  induction k with
  | zero => simp [slice]
  | succ k ih =>
    rw [List.range_succ, List.foldl_append, ih (by omega)]
    have hget : input.getD (offset + k) 0 = input[offset + k] := by
      rw [List.getD_eq_getElem _ _ (by omega)]
    have hsnoc : slice offset (k + 1) input = slice offset k input ++ [input[offset + k]] := by
      rw [← slice_append_slice]
      simp [slice, List.take_one, List.head?_drop, List.getElem?_eq_getElem (show
        offset + k < input.length by omega)]
    rw [List.foldl_cons, List.foldl_nil, hsnoc, ofBytes_concat, ← shiftLeft_or_byte, hget,
      Nat.add_assoc]

/-- **One read**: `read_unsigned` decodes the slice at the offset and moves past it. -/
lemma readUnsigned_eq {w : ℕ} (hw : 8 * (w / 8) = w) (input : List Byte) (offset : ℕ)
    (hfit : offset + w / 8 ≤ input.length) :
    readUnsigned w input offset =
      ((FixedCodec.uint w hw).decode (slice offset (w / 8) input), offset + w / 8) :=
  foldl_readUnsigned w input offset (w / 8) hfit

/-- The byte `write_unsigned` puts in place `i` is digit `i` of the word. -/
lemma byte_writeUnsigned {w : ℕ} (hw : 8 * (w / 8) = w) (value : BitVec w) {i : ℕ}
    (hi : i < w / 8) :
    ((value >>> ((w / 8 - i - 1) * 8)) &&& 0xFF#w).setWidth 8 =
      BitVec.ofNat 8 (value.toNat / 256 ^ (w / 8 - 1 - i)) := by
  have h8 : 2 ^ 8 ≤ 2 ^ w := Nat.pow_le_pow_right (by decide) (by omega)
  have h255 : (0xFF#w).toNat = 2 ^ 8 - 1 := by
    rw [BitVec.toNat_ofNat, Nat.mod_eq_of_lt (by omega)]
    rfl
  have h256 : (2 : ℕ) ^ ((w / 8 - i - 1) * 8) = 256 ^ (w / 8 - 1 - i) := by
    rw [Nat.mul_comm, pow_mul, show w / 8 - i - 1 = w / 8 - 1 - i by omega]
    rfl
  apply BitVec.eq_of_toNat_eq
  rw [BitVec.toNat_setWidth, BitVec.toNat_and, h255, Nat.and_two_pow_sub_one_eq_mod,
    BitVec.toNat_ushiftRight, Nat.shiftRight_eq_div_pow, h256, BitVec.toNat_ofNat, Nat.mod_mod]

/-- **One write**: `write_unsigned` writes the big-endian digits at the offset. -/
lemma writeUnsigned_eq {w : ℕ} (hw : 8 * (w / 8) = w) (output : Cursor n) (value : BitVec w) :
    writeUnsigned output value = output.putBytes ((FixedCodec.uint w hw).encode value) := by
  simp only [writeUnsigned, Cursor.putBytes, FixedCodec.uint, toBytes_eq_map, List.foldl_map]
  refine List.foldl_ext _ _ _ fun out i hi => ?_
  rw [byte_writeUnsigned hw value (List.mem_range.mp hi)]

/-- A word written into a buffer with room for it is appended to what was written. -/
lemma filled_writeUnsigned {w : ℕ} (hw : 8 * (w / 8) = w) {c : Cursor n} {bs : List Byte}
    (h : c.Filled bs) (value : BitVec w) (hroom : bs.length + w / 8 ≤ n) :
    (writeUnsigned c value).Filled (bs ++ (FixedCodec.uint w hw).encode value) := by
  rw [writeUnsigned_eq hw]
  refine h.putBytes _ ?_
  rw [FixedCodec.length_encode]
  exact hroom

/-- An array of words written into a buffer with room for it is appended to what was written.

**Proof sketch.** Induction on the number of entries: each entry is appended by
`filled_writeUnsigned`, and the array codec concatenates the encodings of its entries. -/
lemma filled_writeArray {w k : ℕ} (hw : 8 * (w / 8) = w) {c : Cursor n} {bs : List Byte}
    (h : c.Filled bs) (values : Fin k → BitVec w) (hroom : bs.length + k * (w / 8) ≤ n) :
    (writeArray writeUnsigned c values).Filled
      (bs ++ ((FixedCodec.uint w hw).array k).encode values) := by
  induction k generalizing c bs with
  | zero => simpa [writeArray, FixedCodec.encode_array] using h
  | succ k ih =>
    rw [Nat.succ_mul] at hroom
    have hfirst := filled_writeUnsigned hw h (values 0) (by omega)
    have hrest := ih hfirst (fun i => values i.succ) (by
      rw [List.length_append, FixedCodec.length_encode]
      change bs.length + w / 8 + k * (w / 8) ≤ n
      omega)
    simp only [writeArray, FixedCodec.encode_array, List.ofFn_succ, List.foldl_cons,
      List.flatMap_cons] at hrest ⊢
    rwa [List.append_assoc] at hrest

/-- The loop that reads an array leaves entry `i` as the word read `i` widths from its start.

**Proof sketch.** Induction on the number of entries read: entry `j` is written at step `j`,
with the offset `j` widths on, and later steps write other entries. -/
lemma readArray_eq {w k : ℕ} (hw : 8 * (w / 8) = w) (input : List Byte) (values : Fin k → BitVec w)
    (offset : ℕ) (hfit : offset + k * (w / 8) ≤ input.length) :
    readArray (readUnsigned w input) values offset =
      (((FixedCodec.uint w hw).array k).decode (slice offset (k * (w / 8)) input),
        offset + k * (w / 8)) := by
  have hrun : ∀ j ≤ k, ((List.finRange k).take j).foldl
      (fun (state : (Fin k → BitVec w) × ℕ) i =>
        (Function.update state.1 i (readUnsigned w input state.2).1,
          (readUnsigned w input state.2).2)) (values, offset) =
      (fun i : Fin k => if (i : ℕ) < j then
          (FixedCodec.uint w hw).decode (slice (offset + i * (w / 8)) (w / 8) input)
        else values i, offset + j * (w / 8)) := by
    intro j hj
    induction j with
    | zero => simp
    | succ j ih =>
      have hjk : j < k := by omega
      have hstep : offset + j * (w / 8) + w / 8 ≤ input.length := by
        have : (j + 1) * (w / 8) ≤ k * (w / 8) := Nat.mul_le_mul_right _ hj
        rw [Nat.succ_mul] at this
        omega
      have htake : (List.finRange k).take (j + 1) = (List.finRange k).take j ++ [⟨j, hjk⟩] := by
        rw [List.take_add_one, List.getElem?_eq_getElem (by simpa using hjk)]
        simp
      rw [htake, List.foldl_append, ih (by omega)]
      simp only [List.foldl_cons, List.foldl_nil]
      rw [readUnsigned_eq hw input _ hstep]
      refine Prod.ext (funext fun i => ?_) (by simp only [Nat.succ_mul]; omega)
      rcases eq_or_ne i ⟨j, hjk⟩ with rfl | hne
      · simp
      · have hij : (i : ℕ) ≠ j := fun h => hne (Fin.ext h)
        simp only [Function.update_of_ne hne]
        by_cases hlt : (i : ℕ) < j
        · simp [hlt, Nat.lt_succ_of_lt hlt]
        · simp [hlt, show ¬ (i : ℕ) < j + 1 by omega]
  have hall := hrun k le_rfl
  rw [List.take_of_length_le (by simp)] at hall
  rw [readArray, hall]
  refine Prod.ext (funext fun i => ?_) rfl
  have hi : (i : ℕ) * (w / 8) + w / 8 ≤ k * (w / 8) := by
    rw [← Nat.succ_mul]
    exact Nat.mul_le_mul_right _ i.isLt
  simp only [i.isLt, if_true, FixedCodec.decode_array]
  rw [show (FixedCodec.uint w hw).size = w / 8 from rfl, slice_slice _ hi]

end FlightDeck.Protocol
