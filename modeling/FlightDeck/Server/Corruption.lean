import FlightDeck.Lib.CrcDetection
import FlightDeck.Server.DecoderAgreement

set_option relaxedAutoImplicit false
set_option autoImplicit false

/-!
# Corrupted packets

Both decoders refuse a packet that was damaged on the way by a burst of up to 32 bits before the
checksum, or by one or two single bits anywhere. A damaged packet would be accepted only if the
change of its checksum field were the register that the change of the checked bytes leaves.

## Main definitions

* `corrupt` — a packet with some bits flipped.
* `errorBits` — the numbers of the flipped bits.
* `Detectable` — the patterns that are always detected.

## Main results

* `register_of_accepted` — what an undetected pattern would satisfy.
* `corruption_detected` — the patterns do not.
-/

namespace FlightDeck.Server

open ByteCodec Protocol

/-! ## Definitions -/

/-- The packet with the bits of the pattern flipped. -/
def corrupt (packet pattern : List Byte) : List Byte := List.zipWith (· ^^^ ·) packet pattern

/-- The flipped bits, numbered byte by byte from the least significant bit on. -/
def errorBits (pattern : List Byte) : Finset ℕ :=
  (Finset.range (8 * pattern.length)).filter fun i => Crc.bitOf pattern i

/-- A burst within 32 consecutive bits of the checked bytes, or one or two bits anywhere. -/
def Detectable (pattern : List Byte) : Prop :=
  ((errorBits pattern).Nonempty ∧
      ∃ s, ∀ i ∈ errorBits pattern, s ≤ i ∧ i < s + 32 ∧ i < 8 * kCrcOffset) ∨
    (errorBits pattern).card = 1 ∨ (errorBits pattern).card = 2

/-! ## The checksum field -/

/-- The bits of a number are those of its bytes, the last byte first. -/
lemma testBit_ofBytes (bytes : List Byte) (i : ℕ) :
    (ofBytes bytes).testBit i = (bytes.reverse.getD (i / 8) 0#8).getLsbD (i % 8) := by
  induction bytes using List.reverseRecOn generalizing i with
  | nil => simp
  | append_singleton bytes b ih =>
    have hlt : b.toNat < 2 ^ 8 := b.isLt
    rw [ofBytes_concat, Nat.mul_comm, show 256 = 2 ^ 8 from rfl, Nat.testBit_two_pow_mul_add _ hlt,
      List.reverse_append, List.reverse_singleton, List.singleton_append]
    split_ifs with hi
    · rw [Nat.div_eq_of_lt hi, Nat.mod_eq_of_lt hi]
      rfl
    · obtain ⟨k, rfl⟩ : ∃ k, i = k + 8 := ⟨i - 8, by omega⟩
      rw [ih, Nat.add_sub_cancel, Nat.add_div_right k (by decide), Nat.add_mod_right]
      rfl

/-- A bit of the checksum field is a bit of the packet. -/
lemma getLsbD_checksum {pattern : List Byte} (h : pattern.length = kTelemetryPacketSize) {k : ℕ}
    (hk : k < 32) : (u32.decode (slice kCrcOffset 4 pattern)).getLsbD k =
      Crc.bitOf pattern (8 * kCrcOffset + (8 * (3 - k / 8) + k % 8)) := by
  have hlength : (slice kCrcOffset 4 pattern).length = 4 :=
    length_slice (by rw [h]; decide)
  have hindex : (8 * kCrcOffset + (8 * (3 - k / 8) + k % 8)) / 8 = kCrcOffset + (3 - k / 8) := by
    omega
  have hbit : (8 * kCrcOffset + (8 * (3 - k / 8) + k % 8)) % 8 = k % 8 := by omega
  have hbyte : (slice kCrcOffset 4 pattern).reverse.getD (k / 8) 0#8 =
      pattern.getD (kCrcOffset + (3 - k / 8)) 0#8 := by
    rw [List.getD_eq_getElem?_getD, List.getD_eq_getElem?_getD,
      List.getElem?_reverse (by omega), hlength, slice, List.getElem?_take_of_lt (by omega),
      List.getElem?_drop]
  show (BitVec.ofNat 32 (ofBytes (slice kCrcOffset 4 pattern))).getLsbD k = _
  rw [BitVec.getLsbD_ofNat, testBit_ofBytes, hbyte, Crc.bitOf, hindex, hbit]
  simp [hk]

/-- The change of the checksum field. -/
lemma checksum_corrupt {packet pattern : List Byte} (hpacket : packet.length = kTelemetryPacketSize)
    (hpattern : pattern.length = kTelemetryPacketSize) :
    u32.decode (slice kCrcOffset 4 (corrupt packet pattern)) =
      u32.decode (slice kCrcOffset 4 packet) ^^^ u32.decode (slice kCrcOffset 4 pattern) := by
  have hlength : (corrupt packet pattern).length = kTelemetryPacketSize := by
    rw [corrupt, List.length_zipWith, hpacket, hpattern, Nat.min_self]
  apply BitVec.eq_of_getLsbD_eq
  intro k hk
  rw [BitVec.getLsbD_xor, getLsbD_checksum hlength hk, getLsbD_checksum hpacket hk,
    getLsbD_checksum hpattern hk, corrupt, Crc.bitOf_zipWith_xor (hpacket.trans hpattern.symm)]

/-- The change of the checksum of the bytes before the field. -/
lemma crc32_corrupt {packet pattern : List Byte} (hpacket : packet.length = kTelemetryPacketSize)
    (hpattern : pattern.length = kTelemetryPacketSize) :
    Protocol.crc32 ((corrupt packet pattern).take kCrcOffset) =
      Protocol.crc32 (packet.take kCrcOffset) ^^^
        Crc.register crcPolynomial (Crc.bitOf pattern) (8 * kCrcOffset) := by
  have hlength : (pattern.take kCrcOffset).length = kCrcOffset :=
    List.length_take_of_le (by rw [hpattern]; decide)
  have hlength' : (packet.take kCrcOffset).length = (pattern.take kCrcOffset).length := by
    rw [List.length_take, List.length_take, hpacket, hpattern]
  have hbits : Crc.register crcPolynomial (Crc.bitOf (pattern.take kCrcOffset)) (8 * kCrcOffset) =
      Crc.register crcPolynomial (Crc.bitOf pattern) (8 * kCrcOffset) := by
    apply Crc.register_congr
    intro i hi
    unfold Crc.bitOf
    rw [List.getD_eq_getElem?_getD, List.getD_eq_getElem?_getD,
      List.getElem?_take_of_lt (by omega)]
  have hlinear := Crc.foldl_byteStep_xor (p := crcPolynomial) hlength' 0xFFFFFFFF#32 0#32
  rw [BitVec.xor_zero, Crc.foldl_byteStep_eq_register (by decide), hlength, hbits,
    ← List.take_zipWith] at hlinear
  rw [crc32_eq_foldl, crc32_eq_foldl, corrupt, hlinear]
  ac_rfl

/-! ## Undetected patterns -/

/-- The decoders agree with the encoder on the checksum. -/
lemma checksum_serialize (t : Telemetry) :
    u32.decode (slice kCrcOffset 4 (serialize t)) =
      Protocol.crc32 ((serialize t : List Byte).take kCrcOffset) := by
  obtain ⟨hsize, hmagic, hversion, hfields, hcrc⟩ := (eq_serialize_iff (serialize t) t).mp rfl
  rw [hcrc, take_eq_checkedBytes _ hsize hmagic hversion, hfields]

/-- **An undetected pattern** changes the checksum field by the register that it leaves. -/
lemma register_of_accepted {t : Telemetry} {pattern : List Byte}
    (hpattern : pattern.length = kTelemetryPacketSize)
    (haccepted : u32.decode (slice kCrcOffset 4 (corrupt (serialize t) pattern)) =
      Protocol.crc32 ((corrupt (serialize t) pattern).take kCrcOffset)) :
    u32.decode (slice kCrcOffset 4 pattern) =
      Crc.register crcPolynomial (Crc.bitOf pattern) (8 * kCrcOffset) := by
  have hsize : (serialize t : List Byte).length = kTelemetryPacketSize := (serialize t).2
  rw [checksum_corrupt hsize hpattern, crc32_corrupt hsize hpattern, checksum_serialize] at haccepted
  exact (BitVec.xor_right_inj _).mp haccepted

/-- The register `1` does not come back within the length of a packet. -/
lemma iterate_step_one_ne_one {d : ℕ} (hpos : 0 < d) (hd : d ≤ 8 * kTelemetryPacketSize) :
    (Crc.step crcPolynomial)^[d] 1#32 ≠ 1#32 :=
  Crc.ne_one_of_returns_eq_false
    (show Crc.returns crcPolynomial (8 * kTelemetryPacketSize) 1#32 = false by decide +kernel)
    hpos hd

section Patterns

variable {pattern : List Byte}

lemma mem_errorBits {i : ℕ} : i ∈ errorBits pattern ↔
    i < 8 * pattern.length ∧ Crc.bitOf pattern i = true := by
  unfold errorBits
  rw [Finset.mem_filter, Finset.mem_range]

/-- A bit of the checked bytes is flipped or not. -/
lemma mem_errorBits_of_ne_false (hpattern : pattern.length = kTelemetryPacketSize) {i : ℕ}
    (hi : i < 8 * kCrcOffset) (hne : ¬Crc.bitOf pattern i = false) : i ∈ errorBits pattern := by
  refine mem_errorBits.mpr ⟨?_, eq_true_of_ne_false hne⟩
  rw [hpattern]
  simp only [kCrcOffset, kTelemetryPacketSize] at hi ⊢
  omega

/-- A pattern that leaves the checksum field alone does not change it. -/
lemma checksum_eq_zero (hpattern : pattern.length = kTelemetryPacketSize)
    (h : ∀ i ∈ errorBits pattern, i < 8 * kCrcOffset) :
    u32.decode (slice kCrcOffset 4 pattern) = 0#32 := by
  apply BitVec.eq_of_getLsbD_eq
  intro k hk
  rw [getLsbD_checksum hpattern hk, BitVec.getLsbD_zero]
  by_contra hne
  have hmem : 8 * kCrcOffset + (8 * (3 - k / 8) + k % 8) ∈ errorBits pattern := by
    refine mem_errorBits.mpr ⟨?_, eq_true_of_ne_false hne⟩
    rw [hpattern]
    simp only [kCrcOffset, kTelemetryPacketSize]
    omega
  have := h _ hmem
  omega

/-- **Bursts** in the checked bytes are detected. -/
lemma burst_ne_register (hpattern : pattern.length = kTelemetryPacketSize) {s : ℕ}
    (hne : (errorBits pattern).Nonempty)
    (hburst : ∀ i ∈ errorBits pattern, s ≤ i ∧ i < s + 32 ∧ i < 8 * kCrcOffset) :
    u32.decode (slice kCrcOffset 4 pattern) ≠
      Crc.register crcPolynomial (Crc.bitOf pattern) (8 * kCrcOffset) := by
  obtain ⟨i, hi⟩ := hne
  rw [checksum_eq_zero hpattern fun j hj => (hburst j hj).2.2]
  refine (Crc.register_burst_ne_zero (by decide) (hburst i hi).2.2 (mem_errorBits.mp hi).2
    (s := s) fun j hj hset => ?_).symm
  have hmem := hburst j (mem_errorBits_of_ne_false hpattern hj (by rw [hset]; decide))
  exact ⟨hmem.1, hmem.2.1⟩

/-- Errors in the checksum field alone are detected. -/
lemma field_ne_register (hpattern : pattern.length = kTelemetryPacketSize) {i : ℕ}
    (hi : i ∈ errorBits pattern) (hfield : ∀ j ∈ errorBits pattern, 8 * kCrcOffset ≤ j) :
    u32.decode (slice kCrcOffset 4 pattern) ≠
      Crc.register crcPolynomial (Crc.bitOf pattern) (8 * kCrcOffset) := by
  obtain ⟨hlt, hset⟩ := mem_errorBits.mp hi
  have hle := hfield i hi
  have hclear : Crc.register crcPolynomial (Crc.bitOf pattern) (8 * kCrcOffset) = 0#32 := by
    apply Crc.register_eq_zero
    intro j hj
    by_contra hne
    have := hfield j (mem_errorBits_of_ne_false hpattern hj hne)
    omega
  rw [hclear]
  intro hzero
  rw [hpattern] at hlt
  simp only [kCrcOffset, kTelemetryPacketSize] at hle hlt
  -- The bit of the field that is bit `i` of the packet.
  have hk : 8 * (3 - (i - 1272) / 8) + i % 8 < 32 := by omega
  have hbit := getLsbD_checksum hpattern hk
  have hindex : 8 * kCrcOffset + (8 * (3 - (8 * (3 - (i - 1272) / 8) + i % 8) / 8) +
      (8 * (3 - (i - 1272) / 8) + i % 8) % 8) = i := by
    simp only [kCrcOffset]
    omega
  rw [hzero, hindex, hset, BitVec.getLsbD_zero] at hbit
  exact absurd hbit (by decide)

/-- A single error in the checksum field is a power of two of the checksum. -/
lemma checksum_eq_shiftLeft (hpattern : pattern.length = kTelemetryPacketSize) {j : ℕ}
    (hj : 8 * kCrcOffset ≤ j) (hjlt : j < 8 * kTelemetryPacketSize)
    (honly : ∀ l ∈ errorBits pattern, 8 * kCrcOffset ≤ l → l = j) (hmem : j ∈ errorBits pattern) :
    u32.decode (slice kCrcOffset 4 pattern) =
      1#32 <<< (8 * (3 - (j - 8 * kCrcOffset) / 8) + j % 8) := by
  simp only [kTelemetryPacketSize] at hjlt
  apply BitVec.eq_of_getLsbD_eq
  intro l hl
  have hbit : Crc.bitOf pattern (8 * kCrcOffset + (8 * (3 - l / 8) + l % 8)) =
      decide (l = 8 * (3 - (j - 8 * kCrcOffset) / 8) + j % 8) := by
    set place := 8 * kCrcOffset + (8 * (3 - l / 8) + l % 8) with hplace
    have hin : place < 8 * pattern.length := by
      rw [hpattern, hplace]
      simp only [kCrcOffset, kTelemetryPacketSize]
      omega
    have hiff : Crc.bitOf pattern place = true ↔ place = j := by
      constructor
      · exact fun hset => honly place (mem_errorBits.mpr ⟨hin, hset⟩) (Nat.le_add_right _ _)
      · rintro rfl
        exact (mem_errorBits.mp hmem).2
    rw [Bool.eq_iff_iff, decide_eq_true_eq, hiff, hplace]
    simp only [kCrcOffset] at hj ⊢
    omega
  rw [getLsbD_checksum hpattern hl, hbit, BitVec.getLsbD_shiftLeft, BitVec.getLsbD_one]
  generalize 8 * (3 - (j - 8 * kCrcOffset) / 8) + j % 8 = shift
  rcases lt_trichotomy l shift with hlt | heq | hgt
  · simp [hlt, hlt.ne]
  · simp [← heq, hl]
  · have hne : l - shift ≠ 0 := by omega
    simp [hgt.ne', hne]

/-- **Two errors**, one in the checked bytes and one in the checksum field, are detected. -/
lemma mixed_ne_register (hpattern : pattern.length = kTelemetryPacketSize) {i j : ℕ}
    (hpair : errorBits pattern = {i, j}) (hi : i < 8 * kCrcOffset) (hj : 8 * kCrcOffset ≤ j) :
    u32.decode (slice kCrcOffset 4 pattern) ≠
      Crc.register crcPolynomial (Crc.bitOf pattern) (8 * kCrcOffset) := by
  have hmem : ∀ l, l ∈ errorBits pattern ↔ l = i ∨ l = j := by
    intro l
    rw [hpair, Finset.mem_insert, Finset.mem_singleton]
  have hset : Crc.bitOf pattern i = true := (mem_errorBits.mp ((hmem i).mpr (Or.inl rfl))).2
  have hjlt : j < 8 * kTelemetryPacketSize :=
    hpattern ▸ (mem_errorBits.mp ((hmem j).mpr (Or.inr rfl))).1
  have hothers : ∀ l < 8 * kCrcOffset, l ≠ i → Crc.bitOf pattern l = false := by
    intro l hl hli
    by_contra hne
    rcases (hmem l).mp (mem_errorBits_of_ne_false hpattern hl hne) with rfl | rfl
    · exact hli rfl
    · omega
  obtain ⟨k, hk⟩ : ∃ k, 8 * kCrcOffset = i + 1 + k := ⟨8 * kCrcOffset - (i + 1), by omega⟩
  have hregister : Crc.register crcPolynomial (Crc.bitOf pattern) (8 * kCrcOffset) =
      (Crc.step crcPolynomial)^[k + 1] 1#32 := by
    rw [hk]
    exact Crc.register_single hset (fun l hl => hothers l (by omega) (by omega))
      fun l hl hlk => hothers l (by omega) (by omega)
  have hdecode := checksum_eq_shiftLeft hpattern hj hjlt
    (fun l hl hfield => ((hmem l).mp hl).resolve_left (by omega)) ((hmem j).mpr (Or.inr rfl))
  rw [hregister, hdecode]
  simp only [kCrcOffset, kTelemetryPacketSize] at hi hj hjlt hk ⊢
  refine (Crc.iterate_step_one_ne_shiftLeft (by omega) ?_).symm
  apply iterate_step_one_ne_one (by omega)
  simp only [kTelemetryPacketSize]
  omega

/-- No detectable pattern changes the checksum field by the register that it leaves. -/
lemma detectable_ne_register (hpattern : pattern.length = kTelemetryPacketSize)
    (h : Detectable pattern) :
    u32.decode (slice kCrcOffset 4 pattern) ≠
      Crc.register crcPolynomial (Crc.bitOf pattern) (8 * kCrcOffset) := by
  have hpair : ∀ i j, i < j → errorBits pattern = {i, j} →
      u32.decode (slice kCrcOffset 4 pattern) ≠
        Crc.register crcPolynomial (Crc.bitOf pattern) (8 * kCrcOffset) := by
    intro i j hij heq
    have hmem : ∀ l, l ∈ errorBits pattern ↔ l = i ∨ l = j := by
      intro l
      rw [heq, Finset.mem_insert, Finset.mem_singleton]
    rcases Nat.lt_or_ge i (8 * kCrcOffset) with hi | hi
    · rcases Nat.lt_or_ge j (8 * kCrcOffset) with hj | hj
      · rw [checksum_eq_zero hpattern fun l hl => by rcases (hmem l).mp hl with rfl | rfl <;> omega]
        have hset := fun l hl => (mem_errorBits.mp ((hmem l).mpr hl)).2
        refine (Crc.register_pair_ne_zero (by decide) hij hj (hset i (Or.inl rfl))
          (hset j (Or.inr rfl)) (fun l hl hli hlj => ?_) ?_).symm
        · by_contra hne
          rcases (hmem l).mp (mem_errorBits_of_ne_false hpattern hl hne) with rfl | rfl
          · exact hli rfl
          · exact hlj rfl
        · apply iterate_step_one_ne_one (by omega)
          simp only [kCrcOffset, kTelemetryPacketSize] at hj ⊢
          omega
      · exact mixed_ne_register hpattern heq hi hj
    · exact field_ne_register hpattern ((hmem i).mpr (Or.inl rfl))
        fun l hl => by rcases (hmem l).mp hl with rfl | rfl <;> omega
  rcases h with ⟨hne, s, hburst⟩ | hcard | hcard
  · exact burst_ne_register hpattern hne hburst
  · obtain ⟨i, heq⟩ := Finset.card_eq_one.mp hcard
    have hmem : ∀ l, l ∈ errorBits pattern ↔ l = i := by
      intro l
      rw [heq, Finset.mem_singleton]
    rcases Nat.lt_or_ge i (8 * kCrcOffset) with hi | hi
    · refine burst_ne_register hpattern (s := i) ⟨i, (hmem i).mpr rfl⟩ fun l hl => ?_
      obtain rfl := (hmem l).mp hl
      exact ⟨le_rfl, by omega, hi⟩
    · refine field_ne_register hpattern ((hmem i).mpr rfl) fun l hl => ?_
      obtain rfl := (hmem l).mp hl
      exact hi
  · obtain ⟨i, j, hij, heq⟩ := Finset.card_eq_two.mp hcard
    rcases Nat.lt_or_gt_of_ne hij with hlt | hgt
    · exact hpair i j hlt heq
    · exact hpair j i hgt (heq.trans (Finset.pair_comm i j))

end Patterns

/-- **Corruption is detected**: both decoders refuse a packet that was damaged by a burst within
32 consecutive bits of the checked bytes, or by one or two bits anywhere. -/
theorem corruption_detected (t : Telemetry) {pattern : List Byte}
    (hpattern : pattern.length = kTelemetryPacketSize) (h : Detectable pattern)
    (receivedAtMs : ℕ) :
    (deserialize (corrupt (serialize t) pattern)).error ≠ .none ∧
      ∃ error, decodeTelemetry (corrupt (serialize t) pattern) receivedAtMs = .error error := by
  have hsize : (corrupt (serialize t) pattern).length = kTelemetryPacketSize := by
    rw [corrupt, List.length_zipWith, (serialize t).2, hpattern, Nat.min_self]
  have hmismatch : u32.decode (slice kCrcOffset 4 (corrupt (serialize t) pattern)) ≠
      Protocol.crc32 ((corrupt (serialize t) pattern).take kCrcOffset) := by
    intro haccepted
    exact detectable_ne_register hpattern h (register_of_accepted hpattern haccepted)
  rw [deserialize_eq _ hsize, decodeTelemetry_eq _ hsize, if_pos hmismatch, if_pos hmismatch]
  constructor
  · split_ifs
    · exact Protocol.DecodeError.noConfusion
    · exact Protocol.DecodeError.noConfusion
    · exact Protocol.DecodeError.noConfusion
  · split_ifs
    · exact ⟨_, rfl⟩
    · exact ⟨_, rfl⟩
    · exact ⟨_, rfl⟩

/-- The last bit of a packet. -/
theorem corruption_detected_lastBit :
    (deserialize (corrupt (serialize {}) (List.replicate 162 0#8 ++ [0x80#8]))).error ≠ .none :=
  (corruption_detected {} rfl (Or.inr (Or.inl (by decide +kernel))) 0).1

end FlightDeck.Server
