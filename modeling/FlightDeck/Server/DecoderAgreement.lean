import Mathlib.Tactic.FinCases
import FlightDeck.Lib.Crc
import FlightDeck.Protocol.RoundTrip
import FlightDeck.Server.Telemetry

set_option relaxedAutoImplicit false
set_option autoImplicit false

/-!
# The two decoders agree

The C++ decoder walks a running offset and checks a bitwise checksum on unsigned words; the
TypeScript decoder uses absolute offsets and a table-driven checksum on signed integers. On
every byte string they make the same four checks with the same outcomes, and they read the same
fields.

## Main definitions

* `FlightDeck.Protocol.Telemetry.AllFinite` — the 22 floating-point fields are finite.
* `FlightDeck.Server.Agrees` — a server sample denotes the same packet as C++ telemetry.

## Main results

* `FlightDeck.Server.bits_crc32` — the two checksums are the same 32 bits.
* `FlightDeck.Protocol.decode_fields` — the C++ fields at their absolute offsets.
* `FlightDeck.Server.decodeTelemetry_agrees` — agreement on every byte string.
-/

namespace FlightDeck

open ByteCodec Ieee754

/-! ## The checksums -/

/-- The polynomial of both checksums, reflected. -/
def crcPolynomial : BitVec 32 := 0xEDB88320#32

namespace Protocol

/-- The masked step of the C++ loop is the branching step. -/
lemma crcBit_eq_step (crc : BitVec 32) : crcBit crc = Crc.step crcPolynomial crc := by
  have hmask : 0#32 - (crc &&& 1#32) = if crc.getLsbD 0 then BitVec.allOnes 32 else 0#32 := by
    rw [BitVec.and_one_eq_setWidth_ofBool_getLsbD]
    cases crc.getLsbD 0 <;> rfl
  simp only [crcBit, hmask, Crc.step, crcPolynomial]
  cases crc.getLsbD 0
  · simp only [Bool.false_eq_true, if_false, BitVec.and_zero, BitVec.xor_zero]
  · simp only [if_true, BitVec.and_allOnes]

/-- The C++ loop over a byte is a byte step. -/
lemma crc32_eq_foldl (bytes : List Byte) :
    crc32 bytes = bytes.foldl (Crc.byteStep crcPolynomial) 0xFFFFFFFF#32 ^^^ 0xFFFFFFFF#32 := by
  have hbit : crcBit = Crc.step crcPolynomial := funext crcBit_eq_step
  rw [crc32, hbit]
  rfl

end Protocol

namespace Server

/-- The table loop's bit is the branching step. -/
lemma bits_tableBit (crc : ℤ) :
    JsInt.bits (tableBit crc) = Crc.step crcPolynomial (JsInt.bits crc) := by
  have hlow : JsInt.and crc 1 = 1 ↔ (JsInt.bits crc).getLsbD 0 = true := by
    have h := JsInt.and_eq_toNat crc 1 (by decide)
    rw [Nat.cast_one, Nat.and_one_is_mod] at h
    rw [h, BitVec.getLsbD, Nat.testBit_zero, decide_eq_true_iff]
    omega
  rw [tableBit, JsInt.bits_xor, JsInt.bits_ushr, Crc.step]
  by_cases hb : (JsInt.bits crc).getLsbD 0 = true
  · rw [if_pos (hlow.mpr hb), if_pos hb]
    rfl
  · rw [if_neg fun h => hb (hlow.mp h), if_neg hb]
    simp [JsInt.bits]

/-- A table entry is eight steps of its index. -/
lemma bits_table {i : ℕ} (hi : i < 256) :
    JsInt.bits (table.getD i 0) = (Crc.step crcPolynomial)^[8] (BitVec.ofNat 32 i) := by
  have hiter : ∀ k (x : ℤ), JsInt.bits (tableBit^[k] x) =
      (Crc.step crcPolynomial)^[k] (JsInt.bits x) := by
    intro k
    induction k with
    | zero => intro x; rfl
    | succ k ih =>
      intro x
      rw [Function.iterate_succ_apply, Function.iterate_succ_apply, ih, bits_tableBit]
  have hget : table.getD i 0 = JsInt.ushr (tableBit^[8] (i : ℤ)) 0 := by
    rw [table, List.getD_eq_getElem _ _ (by simpa using hi), List.getElem_map,
      List.getElem_range]
  rw [hget, JsInt.bits_ushr, hiter, JsInt.bits, BitVec.ofInt_natCast]
  simp

/-- The table loop's byte is a byte step.

**Proof sketch.** The index is the low byte of register and message byte together, so the entry
is eight steps of it (`bits_table`); the shift and the exclusive or are the rest of
`Crc.byteStep_eq_table`. -/
lemma bits_crcByte (crc : ℤ) (byte : Byte) :
    JsInt.bits (JsInt.xor (JsInt.ushr crc 8)
        (table.getD (JsInt.and (JsInt.xor crc byte.toNat) 0xff).toNat 0)) =
      Crc.byteStep crcPolynomial (JsInt.bits crc) byte := by
  set x := JsInt.bits crc ^^^ byte.setWidth 32 with hx
  have hbyte : JsInt.bits (byte.toNat : ℤ) = byte.setWidth 32 := by
    rw [JsInt.bits, BitVec.ofInt_natCast, BitVec.ofNat_toNat]
  have hindex : (JsInt.and (JsInt.xor crc byte.toNat) 0xff).toNat = (x.setWidth 8).toNat := by
    have h := JsInt.and_eq_toNat (JsInt.xor crc byte.toNat) 255 (by decide)
    rw [JsInt.bits_xor, hbyte, ← hx] at h
    rw [show (0xff : ℤ) = ((255 : ℕ) : ℤ) by rfl, h, Int.toNat_natCast,
      Nat.and_two_pow_sub_one_eq_mod x.toNat 8, BitVec.toNat_setWidth]
  rw [JsInt.bits_xor, JsInt.bits_ushr, hindex, bits_table (x.setWidth 8).isLt,
    Crc.byteStep_eq_table, ← hx, BitVec.ofNat_toNat]

/-- **The checksums agree**: the TypeScript checksum has the 32 bits of the C++ one. -/
theorem bits_crc32 (bytes : List Byte) : JsInt.bits (crc32 bytes) = Protocol.crc32 bytes := by
  have hfold : ∀ (bs : List Byte) (crc : ℤ),
      JsInt.bits (bs.foldl (fun crc byte => JsInt.xor (JsInt.ushr crc 8)
        (table.getD (JsInt.and (JsInt.xor crc byte.toNat) 0xff).toNat 0)) crc) =
      bs.foldl (Crc.byteStep crcPolynomial) (JsInt.bits crc) := by
    intro bs
    induction bs with
    | nil => intro crc; rfl
    | cons b bs ih => intro crc; rw [List.foldl_cons, List.foldl_cons, ih, bits_crcByte]
  rw [crc32, JsInt.bits_ushr, JsInt.bits_xor, hfold, Protocol.crc32_eq_foldl]
  simp [JsInt.bits]

/-- The TypeScript checksum is a number in `[0, 2 ^ 32)`, that of its bits. -/
lemma crc32_eq_toNat_bits (bytes : List Byte) :
    crc32 bytes = ((JsInt.bits (crc32 bytes)).toNat : ℤ) := by
  rw [crc32, JsInt.bits_ushr, JsInt.ushr_zero]
  simp

end Server

/-! ## The fields at their absolute offsets -/

namespace Protocol

/-- A word read from a byte string of its width is the number the bytes denote. -/
lemma toNat_decode_uint {w : ℕ} (hw : 8 * (w / 8) = w) {b : List Byte} (hb : b.length = w / 8) :
    ((FixedCodec.uint w hw).decode b).toNat = ofBytes b := by
  have h := (FixedCodec.uint w hw).encode_decode b hb
  have h' := congrArg ofBytes h
  rw [show (FixedCodec.uint w hw).encode = fun v => toBytes (w / 8) v.toNat from rfl] at h'
  simp only [ofBytes_toBytes, FixedCodec.base_pow hw] at h'
  rwa [Nat.mod_eq_of_lt (BitVec.isLt _)] at h'

/-- **The fields of a packet** at their absolute offsets. -/
lemma decode_fields (b : List Byte) :
    fieldsCodec.decode (slice 6 153 b) =
      { sequence := u32.decode (slice 6 4 b)
        timestampUs := u64.decode (slice 10 8 b)
        missionPhase := ⟨u8.decode (slice 18 1 b)⟩
        positionM := fun i => u64.decode (slice (19 + i * 8) 8 b)
        velocityMps := fun i => u64.decode (slice (43 + i * 8) 8 b)
        orientationWxyz := fun i => u32.decode (slice (67 + i * 4) 4 b)
        thrustPercent := u32.decode (slice 83 4 b)
        chamberPressureMpa := u32.decode (slice 87 4 b)
        gimbalCommandDeg := fun i => u32.decode (slice (91 + i * 4) 4 b)
        gridFinCommandDeg := fun i => u32.decode (slice (99 + i * 4) 4 b)
        faultFlags := u32.decode (slice 107 4 b)
        truthPositionM := fun i => u64.decode (slice (111 + i * 8) 8 b)
        truthVelocityMps := fun i => u64.decode (slice (135 + i * 8) 8 b) } := by
  have a64 : ∀ o, (u64.array 3).decode (slice o 24 b) =
      fun i : Fin 3 => u64.decode (slice (o + i * 8) 8 b) := by
    intro o
    funext i
    have hi := i.isLt
    rw [FixedCodec.decode_array, show u64.size = 8 from rfl, slice_slice _ (by omega)]
  have a32 : ∀ o n, (u32.array n).decode (slice o (n * 4) b) =
      fun i : Fin n => u32.decode (slice (o + i * 4) 4 b) := by
    intro o n
    funext i
    have hi := i.isLt
    rw [FixedCodec.decode_array, show u32.size = 4 from rfl, slice_slice _ (by omega)]
  simp only [fieldsCodec, FixedCodec.congr, FixedCodec.pair, FixedCodec.size_array,
    show u8.size = 1 from rfl, show u32.size = 4 from rfl, show u64.size = 8 from rfl,
    Nat.reduceMul, Nat.reduceAdd, fieldEquiv, Equiv.coe_fn_mk]
  simp only [slice_slice, Nat.reduceAdd, Nat.reduceLeDiff, Nat.add_zero]
  rw [a64, a64, a64, a64, a32 67 4, a32 91 2, a32 99 2]

/-- The double-precision fields. -/
def Telemetry.doubles (t : Telemetry) : List (BitVec 64) :=
  List.ofFn t.positionM ++ List.ofFn t.velocityMps ++ List.ofFn t.truthPositionM ++
    List.ofFn t.truthVelocityMps

/-- The single-precision fields. -/
def Telemetry.floats (t : Telemetry) : List (BitVec 32) :=
  List.ofFn t.orientationWxyz ++ [t.thrustPercent, t.chamberPressureMpa] ++
    List.ofFn t.gimbalCommandDeg ++ List.ofFn t.gridFinCommandDeg

/-- All 22 floating-point fields are finite. -/
def Telemetry.AllFinite (t : Telemetry) : Prop :=
  (∀ d ∈ t.doubles, binary64.isFinite d.toNat) ∧ ∀ f ∈ t.floats, binary32.isFinite f.toNat

end Protocol

/-! ## Agreement -/

namespace Server

/-- A single `f` of the C++ side and a finite number `d` of the TypeScript side with the same sign
and the same value. -/
def Widened (f : BitVec 32) (d : BitVec 64) : Prop :=
  isFinite d ∧ binary64.isNegative d.toNat = binary32.isNegative f.toNat ∧
    binary64.value d.toNat = binary32.value f.toNat

/-- The integer-valued double `s` is a nearest double to `n`, and `n` itself below `2 ^ 53`. -/
def NearestDouble (n s : ℕ) : Prop :=
  Representable 53 s ∧ (∀ m, Representable 53 m → Nat.dist s n ≤ Nat.dist m n) ∧
    (n < 2 ^ 53 → s = n)

/-- A server sample denotes the same packet as C++ telemetry, field by field. -/
structure Agrees (t : Protocol.Telemetry) (s : TelemetrySample) : Prop where
  sequence : s.sequence = t.sequence.toNat
  timestampUs : NearestDouble t.timestampUs.toNat s.timestampUs
  missionPhase : s.missionPhase.toNat = t.missionPhase.value.toNat
  positionM : s.positionM = t.positionM
  velocityMps : s.velocityMps = t.velocityMps
  orientationWxyz : ∀ i, Widened (t.orientationWxyz i) (s.orientationWxyz i)
  thrustPercent : Widened t.thrustPercent s.thrustPercent
  chamberPressureMpa : Widened t.chamberPressureMpa s.chamberPressureMpa
  gimbalCommandDeg : ∀ i, Widened (t.gimbalCommandDeg i) (s.gimbalCommandDeg i)
  gridFinCommandDeg : ∀ i, Widened (t.gridFinCommandDeg i) (s.gridFinCommandDeg i)
  faultFlags : s.faultFlags = t.faultFlags.toNat
  truthPositionM : s.truthPositionM = t.truthPositionM
  truthVelocityMps : s.truthVelocityMps = t.truthVelocityMps

/-- The TypeScript error with the name of a C++ error. -/
def sameName : Protocol.DecodeError → Option DecodeError
  | .none => none
  | .wrongSize => some .wrongSize
  | .wrongMagic => some .wrongMagic
  | .unsupportedVersion => some .unsupportedVersion
  | .checksumMismatch => some .checksumMismatch

/-- `Number` of a 64-bit integer is a nearest double. -/
lemma nearestDouble_numberOfBigInt (n : ℕ) : NearestDouble n (numberOfBigInt n) :=
  ⟨representable_roundNat (by decide) n, fun _ hm => roundNat_nearest (by decide) n hm,
    roundNat_of_lt (by decide)⟩

/-- The number a single is read as. -/
def widenBits (f : BitVec 32) : BitVec 64 := BitVec.ofNat 64 (widen f.toNat)

/-- Widening stays within 64 bits. -/
lemma toNat_widenBits (f : BitVec 32) : (widenBits f).toNat = widen f.toNat := by
  have hm := fraction_lt f.toNat
  have he := exponentField_lt f.toNat
  have hlt : widen f.toNat < 2 ^ 64 := by
    simp only [widen]
    split_ifs with h1 h2 h3
    · cases binary32.isNegative f.toNat <;> simp [pack64] <;> omega
    · cases binary32.isNegative f.toNat <;> simp [pack64]
    · have hk := log2_fraction_bounds h3 hm
      have hf := subnormal_fraction_lt h3 hm
      cases binary32.isNegative f.toNat <;> simp [pack64] <;> omega
    · cases binary32.isNegative f.toNat <;> simp [pack64] <;> omega
  rw [widenBits, BitVec.toNat_ofNat, Nat.mod_eq_of_lt hlt]

/-- A single is read as a finite number exactly if it is finite. -/
lemma isFinite_widenBits (f : BitVec 32) :
    isFinite (widenBits f) = binary32.isFinite f.toNat := by
  rw [isFinite, toNat_widenBits, isFinite_widen]

/-- A finite single is read as a number with its sign and value. -/
lemma widened_widenBits (f : BitVec 32) (hf : binary32.isFinite f.toNat) :
    Widened f (widenBits f) := by
  rw [Widened, isFinite_widenBits, toNat_widenBits]
  exact ⟨hf, isNegative_widen _, value_widen _ hf⟩

open DataView Protocol

section Reads

variable {b : List Byte} {o : ℕ}

lemma getUint8_eq (h : o + 1 ≤ b.length) : getUint8 b o = (u8.decode (slice o 1 b)).toNat :=
  (toNat_decode_uint (w := 8) rfl (length_slice (k := 1) h)).symm

lemma getUint16_eq (h : o + 2 ≤ b.length) : getUint16 b o = (u16.decode (slice o 2 b)).toNat :=
  (toNat_decode_uint (w := 16) rfl (length_slice (k := 2) h)).symm

lemma getUint32_eq (h : o + 4 ≤ b.length) : getUint32 b o = (u32.decode (slice o 4 b)).toNat :=
  (toNat_decode_uint (w := 32) rfl (length_slice (k := 4) h)).symm

lemma getBigUint64_eq (h : o + 8 ≤ b.length) :
    getBigUint64 b o = (u64.decode (slice o 8 b)).toNat :=
  (toNat_decode_uint (w := 64) rfl (length_slice (k := 8) h)).symm

lemma getFloat32_eq (h : o + 4 ≤ b.length) :
    getFloat32 b o = widenBits (u32.decode (slice o 4 b)) := by
  rw [getFloat32, getUint32_eq h, widenBits]

lemma getFloat64_eq (h : o + 8 ≤ b.length) : getFloat64 b o = u64.decode (slice o 8 b) := by
  rw [getFloat64, getBigUint64_eq h, BitVec.ofNat_toNat, BitVec.setWidth_eq]

end Reads

/-- The sample the TypeScript decoder builds of a C++ packet. -/
def sampleOf (t : Protocol.Telemetry) (phase : MissionPhase) (receivedAtMs : ℕ) :
    TelemetrySample where
  sequence := t.sequence.toNat
  timestampUs := numberOfBigInt t.timestampUs.toNat
  missionPhase := phase
  positionM := t.positionM
  velocityMps := t.velocityMps
  orientationWxyz := fun i => widenBits (t.orientationWxyz i)
  thrustPercent := widenBits t.thrustPercent
  chamberPressureMpa := widenBits t.chamberPressureMpa
  gimbalCommandDeg := fun i => widenBits (t.gimbalCommandDeg i)
  gridFinCommandDeg := fun i => widenBits (t.gridFinCommandDeg i)
  faultFlags := t.faultFlags.toNat
  truthPositionM := t.truthPositionM
  truthVelocityMps := t.truthVelocityMps
  serverReceivedAtMs := receivedAtMs

/-- **The absolute offsets are the running ones**: the TypeScript decoder builds the sample of
the C++ fields. -/
lemma readSample_eq (b : List Byte) (hb : b.length = 163) (phase : MissionPhase)
    (receivedAtMs : ℕ) :
    readSample b phase receivedAtMs =
      sampleOf (fieldsCodec.decode (slice 6 153 b)) phase receivedAtMs := by
  rw [decode_fields, readSample, sampleOf]
  simp only [TelemetrySample.mk.injEq, true_and, and_true]
  refine ⟨getUint32_eq (by omega), ?_, ?_, ?_, ?_, getFloat32_eq (by omega),
    getFloat32_eq (by omega), ?_, ?_, getUint32_eq (by omega), ?_, ?_⟩
  · rw [getBigUint64_eq (by omega)]
  all_goals
    funext i
    fin_cases i <;> first | exact getFloat64_eq (by omega) | exact getFloat32_eq (by omega)

/-- The numbers of the sample are finite exactly if the packet's are. -/
lemma numbers_sampleOf (t : Protocol.Telemetry) (phase : MissionPhase) (receivedAtMs : ℕ) :
    (sampleOf t phase receivedAtMs).numbers.all isFinite = true ↔ t.AllFinite := by
  simp only [TelemetrySample.numbers, sampleOf, List.all_append, Bool.and_eq_true,
    List.all_eq_true, List.forall_mem_ofFn_iff, List.forall_mem_cons, isFinite_widenBits,
    Telemetry.AllFinite, Telemetry.doubles, Telemetry.floats, List.forall_mem_append]
  simp only [isFinite, List.not_mem_nil, false_implies, implies_true, and_true]
  tauto

/-- The TypeScript decoder of a packet-sized byte string, in terms of the C++ fields. -/
lemma decodeTelemetry_eq (b : List Byte) (hb : b.length = kTelemetryPacketSize)
    (receivedAtMs : ℕ) :
    decodeTelemetry b receivedAtMs =
      if u32.decode (slice 0 4 b) ≠ kTelemetryMagic then .error .wrongMagic
      else if u16.decode (slice 4 2 b) ≠ kTelemetryVersion then .error .unsupportedVersion
      else if u32.decode (slice kCrcOffset 4 b) ≠ Protocol.crc32 (b.take kCrcOffset) then
        .error .checksumMismatch
      else
        missionPhases[(u8.decode (slice 18 1 b)).toNat]?.elim (.error .invalidPhase) fun phase =>
          let sample := sampleOf (fieldsCodec.decode (slice 6 153 b)) phase receivedAtMs
          if sample.numbers.all isFinite then .ok sample else .error .invalidNumber := by
  have hlen : b.length = 163 := hb
  have hmagic : getUint32 b 0 ≠ TELEMETRY_MAGIC ↔ u32.decode (slice 0 4 b) ≠ kTelemetryMagic := by
    rw [getUint32_eq (by omega), Ne, Ne, ← BitVec.toNat_inj]
    rfl
  have hversion : getUint16 b 4 ≠ TELEMETRY_VERSION ↔
      u16.decode (slice 4 2 b) ≠ kTelemetryVersion := by
    rw [getUint16_eq (by omega), Ne, Ne, ← BitVec.toNat_inj]
    rfl
  have hcrc : (getUint32 b CRC_OFFSET : ℤ) ≠ crc32 (b.take CRC_OFFSET) ↔
      u32.decode (slice kCrcOffset 4 b) ≠ Protocol.crc32 (b.take kCrcOffset) := by
    rw [crc32_eq_toNat_bits, bits_crc32, getUint32_eq (by rw [hlen]; decide), Ne, Ne,
      Int.natCast_inj, BitVec.toNat_inj]
    rfl
  have hsize : b.length = TELEMETRY_PACKET_SIZE := hb
  rw [decodeTelemetry, if_neg (not_not.mpr hsize)]
  simp only [hmagic, hversion, hcrc, readSample_eq b hlen, getUint8_eq (o := 18) (b := b)
    (by omega)]
  cases missionPhases[(u8.decode (slice 18 1 b)).toNat]? <;> rfl

/-- The TypeScript decoder reads what the C++ encoder wrote, if its phase has a name and its
numbers are finite. -/
lemma decodeTelemetry_serialize (t : Protocol.Telemetry) {phase : MissionPhase}
    (hphase : phase.toNat = t.missionPhase.value.toNat) (ht : t.AllFinite) (receivedAtMs : ℕ) :
    decodeTelemetry (serialize t) receivedAtMs = .ok (sampleOf t phase receivedAtMs) := by
  obtain ⟨hsize, hmagic, hversion, hfields, hcrc⟩ := (eq_serialize_iff (serialize t) t).mp rfl
  have htake := take_eq_checkedBytes _ hsize hmagic hversion
  have hbyte : u8.decode (slice 18 1 (serialize t)) = t.missionPhase.value := by
    have hvalue := congrArg (fun t => t.missionPhase.value) hfields
    rwa [decode_fields] at hvalue
  have hlook := (getElem?_missionPhases t.missionPhase.value.toNat phase).mpr hphase
  rw [decodeTelemetry_eq _ hsize, if_neg (not_not.mpr hmagic), if_neg (not_not.mpr hversion),
    htake, hfields, if_neg (not_not.mpr hcrc), hbyte, hlook]
  exact if_pos ((numbers_sampleOf t phase receivedAtMs).mpr ht)

/-- A sample built of a packet with finite numbers agrees with it. -/
lemma agrees_sampleOf (t : Protocol.Telemetry) (ht : t.AllFinite) (phase : MissionPhase)
    (hphase : phase.toNat = t.missionPhase.value.toNat) (receivedAtMs : ℕ) :
    Agrees t (sampleOf t phase receivedAtMs) := by
  have hf : ∀ f ∈ t.floats, Widened f (widenBits f) := fun f hmem =>
    widened_widenBits f (ht.2 f hmem)
  constructor
  case sequence => rfl
  case timestampUs => exact nearestDouble_numberOfBigInt _
  case missionPhase => exact hphase
  case positionM => rfl
  case velocityMps => rfl
  case orientationWxyz => exact fun i => hf _ (by fin_cases i <;> simp [Telemetry.floats])
  case thrustPercent => exact hf _ (by simp [Telemetry.floats])
  case chamberPressureMpa => exact hf _ (by simp [Telemetry.floats])
  case gimbalCommandDeg => exact fun i => hf _ (by fin_cases i <;> simp [Telemetry.floats])
  case gridFinCommandDeg => exact fun i => hf _ (by fin_cases i <;> simp [Telemetry.floats])
  case faultFlags => rfl
  case truthPositionM => rfl
  case truthVelocityMps => rfl

/-- A phase byte is named exactly if it is at most five. -/
lemma exists_missionPhase_iff (v : ℕ) : (∃ phase, missionPhases[v]? = some phase) ↔ v ≤ 5 := by
  simp only [getElem?_missionPhases]
  constructor
  · rintro ⟨phase, rfl⟩
    cases phase <;> decide
  · intro h
    interval_cases v
    exacts [⟨.prelaunch, rfl⟩, ⟨.poweredAscent, rfl⟩, ⟨.coast, rfl⟩, ⟨.descent, rfl⟩,
      ⟨.landingBurn, rfl⟩, ⟨.landed, rfl⟩]

/-- **The two decoders agree on every byte string**: the TypeScript decoder accepts exactly the
packets that the C++ decoder accepts with a named phase and finite numbers, the fields are then
equal, and every error of the C++ decoder is the error of the same name.

**Proof sketch.** A byte string of another length is rejected by both. Otherwise
`deserialize_eq` and `decodeTelemetry_eq` state both decoders in terms of the same slices; the
header and checksum tests are the same, and after them the TypeScript decoder looks the phase up
(`exists_missionPhase_iff`) and checks the numbers (`numbers_sampleOf`). -/
theorem decodeTelemetry_agrees (b : List Byte) (receivedAtMs : ℕ) :
    ((∃ s, decodeTelemetry b receivedAtMs = .ok s) ↔
      (deserialize b).error = .none ∧ (deserialize b).telemetry.missionPhase.value.toNat ≤ 5 ∧
        (deserialize b).telemetry.AllFinite) ∧
    (∀ s, decodeTelemetry b receivedAtMs = .ok s → Agrees (deserialize b).telemetry s) ∧
    ∀ e, sameName (deserialize b).error = some e → decodeTelemetry b receivedAtMs = .error e := by
  by_cases hb : b.length = kTelemetryPacketSize
  swap
  · have hlen : b.length ≠ TELEMETRY_PACKET_SIZE := hb
    simp [deserialize, decodeTelemetry, hb, hlen, sameName]
  rw [deserialize_eq b hb, decodeTelemetry_eq b hb]
  split_ifs with h1 h2 h3
  · simp [sameName]
  · simp [sameName]
  · simp [sameName]
  set t := fieldsCodec.decode (slice 6 153 b) with ht
  have hbyte : u8.decode (slice 18 1 b) = t.missionPhase.value := by rw [ht, decode_fields]
  rw [hbyte]
  have hphase := exists_missionPhase_iff t.missionPhase.value.toNat
  rcases hlook : missionPhases[t.missionPhase.value.toNat]? with _ | phase
  · rw [hlook] at hphase
    have h5 : ¬ t.missionPhase.value.toNat ≤ 5 := fun h => by simpa using hphase.mpr h
    simp [sameName, h5]
  · have h5 : t.missionPhase.value.toNat ≤ 5 := hphase.mp ⟨phase, hlook⟩
    have hval : phase.toNat = t.missionPhase.value.toNat :=
      (getElem?_missionPhases _ _).mp hlook
    have hnum := numbers_sampleOf t phase receivedAtMs
    by_cases hfin : t.AllFinite
    · have hok : (sampleOf t phase receivedAtMs).numbers.all isFinite = true := hnum.mpr hfin
      simp only [Option.elim_some, hok, if_true]
      simp [sameName, h5, hfin, agrees_sampleOf t hfin phase hval receivedAtMs]
    · have hno : (sampleOf t phase receivedAtMs).numbers.all isFinite = false := by
        rw [← Bool.not_eq_true]
        exact fun h => hfin (hnum.mp h)
      simp only [Option.elim_some, sameName, h5, hno, hfin, reduceCtorEq, Bool.false_eq_true,
        if_false, exists_false, and_false, false_implies, implies_true, and_self]

end Server

end FlightDeck
