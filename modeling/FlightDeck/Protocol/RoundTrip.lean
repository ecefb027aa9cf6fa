import FlightDeck.Protocol.Telemetry

set_option relaxedAutoImplicit false
set_option autoImplicit false

/-!
# The packet format is a bijection

The packet as a fixed-width codec: header, fields and checksum side by side. The encoder and
the decoder of the source, which run over the packet with a running offset, compute this codec,
so a byte string is accepted exactly if it is the encoding of the telemetry it decodes to.

## Main definitions

* `FlightDeck.Protocol.fieldsCodec`, `FlightDeck.Protocol.packetCodec` — the layout of the
  fields and of the whole packet.

## Main results

* `FlightDeck.Protocol.serialize_eq_packet` — the encoder writes the packet layout.
* `FlightDeck.Protocol.deserialize_eq` — the decoder reads the packet layout.
* `FlightDeck.Protocol.deserialize_eq_ok_iff` — acceptance of `b` as `t` is `b = serialize t`.
-/

namespace FlightDeck.Protocol

open ByteCodec

/-! ## The layout -/

/-- One byte. -/
abbrev u8 : FixedCodec (BitVec 8) := FixedCodec.uint 8 rfl

/-- Two bytes. -/
abbrev u16 : FixedCodec (BitVec 16) := FixedCodec.uint 16 rfl

/-- Four bytes; a `float` is one of these. -/
abbrev u32 : FixedCodec (BitVec 32) := FixedCodec.uint 32 rfl

/-- Eight bytes; a `double` is one of these. -/
abbrev u64 : FixedCodec (BitVec 64) := FixedCodec.uint 64 rfl

/-- The fields of a packet in wire order. -/
abbrev FieldTuple :=
  BitVec 32 × BitVec 64 × BitVec 8 × (Fin 3 → BitVec 64) × (Fin 3 → BitVec 64) ×
    (Fin 4 → BitVec 32) × BitVec 32 × BitVec 32 × (Fin 2 → BitVec 32) × (Fin 2 → BitVec 32) ×
    BitVec 32 × (Fin 3 → BitVec 64) × (Fin 3 → BitVec 64)

/-- A packet is the tuple of its fields. -/
def fieldEquiv : FieldTuple ≃ Telemetry where
  toFun := fun (sequence, timestampUs, phase, positionM, velocityMps, orientationWxyz,
      thrustPercent, chamberPressureMpa, gimbalCommandDeg, gridFinCommandDeg, faultFlags,
      truthPositionM, truthVelocityMps) =>
    { sequence, timestampUs, missionPhase := ⟨phase⟩, positionM, velocityMps, orientationWxyz,
      thrustPercent, chamberPressureMpa, gimbalCommandDeg, gridFinCommandDeg, faultFlags,
      truthPositionM, truthVelocityMps }
  invFun t := (t.sequence, t.timestampUs, t.missionPhase.value, t.positionM, t.velocityMps,
    t.orientationWxyz, t.thrustPercent, t.chamberPressureMpa, t.gimbalCommandDeg,
    t.gridFinCommandDeg, t.faultFlags, t.truthPositionM, t.truthVelocityMps)
  left_inv _ := rfl
  right_inv _ := rfl

/-- The 153 bytes between header and checksum. -/
def fieldsCodec : FixedCodec Telemetry :=
  FixedCodec.congr fieldEquiv <|
    u32.pair <| u64.pair <| u8.pair <| (u64.array 3).pair <| (u64.array 3).pair <|
    (u32.array 4).pair <| u32.pair <| u32.pair <| (u32.array 2).pair <| (u32.array 2).pair <|
    u32.pair <| (u64.array 3).pair (u64.array 3)

/-- The whole packet: magic, version, fields, checksum. -/
def packetCodec : FixedCodec (BitVec 32 × BitVec 16 × Telemetry × BitVec 32) :=
  u32.pair <| u16.pair <| fieldsCodec.pair u32

lemma size_fieldsCodec : fieldsCodec.size = 153 := by
  simp [fieldsCodec, FixedCodec.congr, FixedCodec.pair, FixedCodec.uint]

lemma size_packetCodec : packetCodec.size = kTelemetryPacketSize := by
  simp [packetCodec, FixedCodec.pair, size_fieldsCodec, FixedCodec.uint, kTelemetryPacketSize]

/-- The bytes the checksum covers. -/
def checkedBytes (t : Telemetry) : List Byte :=
  u32.encode kTelemetryMagic ++ (u16.encode kTelemetryVersion ++ fieldsCodec.encode t)

lemma length_checkedBytes (t : Telemetry) : (checkedBytes t).length = kCrcOffset := by
  simp [checkedBytes, size_fieldsCodec, FixedCodec.uint, kCrcOffset]

/-! ## The encoder writes the layout -/

/-- Before the checksum, the encoder has written header and fields.

**Proof sketch.** One `filled_writeUnsigned` or `filled_writeArray` for each write of the
source, in its order; re-associating the appended pieces gives the layout. -/
lemma filled_writeFields (t : Telemetry) : (writeFields t).Filled (checkedBytes t) := by
  have h := Cursor.filled_zeroed kTelemetryPacketSize
  have h := filled_writeUnsigned (w := 32) rfl h kTelemetryMagic (by decide)
  have h := filled_writeUnsigned (w := 16) rfl h kTelemetryVersion (by decide)
  have h := filled_writeUnsigned (w := 32) rfl h t.sequence (by simp; decide)
  have h := filled_writeUnsigned (w := 64) rfl h t.timestampUs (by simp; decide)
  have h := filled_writeUnsigned (w := 8) rfl h t.missionPhase.value (by simp; decide)
  have h := filled_writeArray (w := 64) rfl h t.positionM (by simp; decide)
  have h := filled_writeArray (w := 64) rfl h t.velocityMps (by simp; decide)
  have h := filled_writeArray (w := 32) rfl h t.orientationWxyz (by simp; decide)
  have h := filled_writeUnsigned (w := 32) rfl h t.thrustPercent (by simp; decide)
  have h := filled_writeUnsigned (w := 32) rfl h t.chamberPressureMpa (by simp; decide)
  have h := filled_writeArray (w := 32) rfl h t.gimbalCommandDeg (by simp; decide)
  have h := filled_writeArray (w := 32) rfl h t.gridFinCommandDeg (by simp; decide)
  have h := filled_writeUnsigned (w := 32) rfl h t.faultFlags (by simp; decide)
  have h := filled_writeArray (w := 64) rfl h t.truthPositionM (by simp; decide)
  have h := filled_writeArray (w := 64) rfl h t.truthVelocityMps (by simp; decide)
  simp only [List.nil_append, List.append_assoc] at h
  exact h

/-- **The encoder writes the packet layout**, with the checksum of the bytes before it. -/
theorem serialize_eq_packet (t : Telemetry) :
    (serialize t : List Byte) =
      packetCodec.encode (kTelemetryMagic, kTelemetryVersion, t, crc32 (checkedBytes t)) := by
  have hfields := filled_writeFields t
  have hlen := length_checkedBytes t
  have htake : (writeFields t).bytes.take kCrcOffset = checkedBytes t := by
    obtain ⟨_, rest, hb⟩ := hfields
    rw [hb, ← hlen, List.take_left]
  have hall := filled_writeUnsigned (w := 32) rfl hfields (crc32 (checkedBytes t))
    (by rw [hlen]; decide)
  have hbytes := hall.bytes_eq (by
    rw [List.length_append, FixedCodec.length_encode, hlen]; rfl)
  simp only [serialize, htake, hbytes]
  simp [checkedBytes, packetCodec, FixedCodec.pair]

/-! ## The decoder reads the layout -/

/-- The decoder's reads after the header decode the field layout.

**Proof sketch.** `readUnsigned_eq` and `readArray_eq` turn every read into the codec of its
slice, and the running offset into a literal; the layout's slices of slices are the same
slices (`slice_slice`). -/
lemma readFields_eq (b : List Byte) (hb : b.length = kTelemetryPacketSize) :
    readFields b 6 = fieldsCodec.decode (slice 6 153 b) := by
  have hlen : b.length = 163 := hb
  have r8 : ∀ o, o + 1 ≤ 163 → readUnsigned 8 b o = (u8.decode (slice o 1 b), o + 1) :=
    fun o ho => readUnsigned_eq rfl b o (by omega)
  have r32 : ∀ o, o + 4 ≤ 163 → readUnsigned 32 b o = (u32.decode (slice o 4 b), o + 4) :=
    fun o ho => readUnsigned_eq rfl b o (by omega)
  have r64 : ∀ o, o + 8 ≤ 163 → readUnsigned 64 b o = (u64.decode (slice o 8 b), o + 8) :=
    fun o ho => readUnsigned_eq rfl b o (by omega)
  have a2 : ∀ o v, o + 8 ≤ 163 → readArray (k := 2) (readUnsigned 32 b) v o =
      ((u32.array 2).decode (slice o 8 b), o + 8) :=
    fun o v ho => readArray_eq (w := 32) rfl b v o (by omega)
  have a4 : ∀ o v, o + 16 ≤ 163 → readArray (k := 4) (readUnsigned 32 b) v o =
      ((u32.array 4).decode (slice o 16 b), o + 16) :=
    fun o v ho => readArray_eq (w := 32) rfl b v o (by omega)
  have a3 : ∀ o v, o + 24 ≤ 163 → readArray (k := 3) (readUnsigned 64 b) v o =
      ((u64.array 3).decode (slice o 24 b), o + 24) :=
    fun o v ho => readArray_eq (w := 64) rfl b v o (by omega)
  have hdouble : readDouble b = readUnsigned 64 b := rfl
  have hfloat : readFloat b = readUnsigned 32 b := rfl
  simp only [readFields, hdouble, hfloat, r8, r32, r64, a2, a3, a4, Nat.reduceAdd,
    Nat.reduceLeDiff]
  simp only [fieldsCodec, FixedCodec.congr, FixedCodec.pair, FixedCodec.size_array,
    show u8.size = 1 from rfl, show u32.size = 4 from rfl, show u64.size = 8 from rfl,
    Nat.reduceMul, Nat.reduceAdd, fieldEquiv, Equiv.coe_fn_mk]
  simp only [slice_slice, Nat.reduceAdd, Nat.reduceLeDiff, Nat.add_zero]

/-- **The decoder reads the packet layout**: its four checks and its fields, each as the codec
of a slice at a fixed offset. -/
theorem deserialize_eq (b : List Byte) (hb : b.length = kTelemetryPacketSize) :
    deserialize b =
      if u32.decode (slice 0 4 b) ≠ kTelemetryMagic then { error := .wrongMagic }
      else if u16.decode (slice 4 2 b) ≠ kTelemetryVersion then { error := .unsupportedVersion }
      else if u32.decode (slice kCrcOffset 4 b) ≠ crc32 (b.take kCrcOffset) then
        { error := .checksumMismatch }
      else { telemetry := fieldsCodec.decode (slice 6 153 b), error := .none } := by
  have hlen : b.length = 163 := hb
  rw [deserialize, if_neg (by simpa using hb)]
  rw [readUnsigned_eq (w := 32) rfl b 0 (by omega)]
  simp only [readUnsigned_eq (w := 16) rfl b (0 + 32 / 8) (by omega),
    readUnsigned_eq (w := 32) rfl b kCrcOffset (by rw [hlen]; decide)]
  rw [show 0 + 32 / 8 + 16 / 8 = 6 by rfl, readFields_eq b hb]

/-- A byte string is the encoding of `t` iff it has the size and every piece of the layout
decodes to what the encoder put there. -/
lemma eq_serialize_iff (b : List Byte) (t : Telemetry) :
    b = serialize t ↔ b.length = kTelemetryPacketSize ∧
      u32.decode (slice 0 4 b) = kTelemetryMagic ∧ u16.decode (slice 4 2 b) = kTelemetryVersion ∧
      fieldsCodec.decode (slice 6 153 b) = t ∧
      u32.decode (slice kCrcOffset 4 b) = crc32 (checkedBytes t) := by
  have hdec : packetCodec.decode b = (u32.decode (slice 0 4 b), u16.decode (slice 4 2 b),
      fieldsCodec.decode (slice 6 153 b), u32.decode (slice kCrcOffset 4 b)) := by
    simp only [packetCodec, FixedCodec.pair, size_fieldsCodec, show u16.size = 2 from rfl,
      show u32.size = 4 from rfl]
    simp only [slice_slice, Nat.reduceAdd, Nat.reduceLeDiff, Nat.add_zero, kCrcOffset]
  rw [serialize_eq_packet, FixedCodec.eq_encode_iff, size_packetCodec, hdec]
  simp only [Prod.mk.injEq]

/-- The bytes the decoder checks are the bytes the encoder checked, once the header and the
fields agree. -/
lemma take_eq_checkedBytes (b : List Byte) (hb : b.length = kTelemetryPacketSize)
    (hmagic : u32.decode (slice 0 4 b) = kTelemetryMagic)
    (hversion : u16.decode (slice 4 2 b) = kTelemetryVersion) :
    b.take kCrcOffset = checkedBytes (fieldsCodec.decode (slice 6 153 b)) := by
  have hlen : b.length = 163 := hb
  have hm := (u32.eq_encode_iff _ _).mpr ⟨length_slice (o := 0) (k := 4) (by omega), hmagic⟩
  have hv := (u16.eq_encode_iff _ _).mpr ⟨length_slice (o := 4) (k := 2) (by omega), hversion⟩
  have hf := fieldsCodec.encode_decode (slice 6 153 b)
    (by rw [size_fieldsCodec]; exact length_slice (by omega))
  rw [checkedBytes, ← hm, ← hv, hf, slice_append_slice 4 2 153 b, slice_append_slice 0 4 155 b]
  rfl

/-- **The packet format round-trips both ways**: the decoder accepts a byte string with exactly
the telemetry `t` iff the byte string is the encoding of `t`.

**Proof sketch.** Both sides are conditions on the slices of `b`: `deserialize_eq` for the
decoder, `eq_serialize_iff` for the encoder. They differ in which bytes the checksum is taken
of, and those agree by `take_eq_checkedBytes` once magic, version and fields do. -/
theorem deserialize_eq_ok_iff (t : Telemetry) (b : List Byte) :
    deserialize b = { telemetry := t, error := .none } ↔ b = serialize t := by
  rw [eq_serialize_iff]
  by_cases hb : b.length = kTelemetryPacketSize
  · rw [deserialize_eq b hb]
    by_cases hmagic : u32.decode (slice 0 4 b) = kTelemetryMagic
    · by_cases hversion : u16.decode (slice 4 2 b) = kTelemetryVersion
      · rw [take_eq_checkedBytes b hb hmagic hversion]
        by_cases hcrc : u32.decode (slice kCrcOffset 4 b) =
            crc32 (checkedBytes (fieldsCodec.decode (slice 6 153 b)))
        · simp only [hb, hmagic, hversion, hcrc, ne_eq, not_true_eq_false, if_false, true_and,
            DecodeResult.mk.injEq, and_true]
          exact ⟨fun h => ⟨h, by rw [h]⟩, fun h => h.1⟩
        · have hne : ∀ t, fieldsCodec.decode (slice 6 153 b) = t →
              u32.decode (slice kCrcOffset 4 b) ≠ crc32 (checkedBytes t) := by
            rintro _ rfl
            exact hcrc
          simp only [hmagic, hversion, hcrc, ne_eq, not_true_eq_false, not_false_eq_true,
            if_false, if_true, DecodeResult.mk.injEq, reduceCtorEq, and_false, true_and,
            false_iff, not_and]
          exact fun _ => hne t
      · simp [hmagic, hversion]
    · simp [hmagic]
  · simp [deserialize, hb]

end FlightDeck.Protocol
