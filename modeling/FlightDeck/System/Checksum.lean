import FlightDeck.Lib.CrcPolynomial
import FlightDeck.Server.DecoderAgreement

set_option relaxedAutoImplicit false
set_option autoImplicit false

/-!
# The checksum of a packet

Generator and server compute the checksum of a packet in different ways, and get the same number.
It is the CRC-32 of IEEE 802.3: the remainder of the message by the standard generator, with the
bits of each byte, and those of the remainder, taken from the least significant one on.

## Main definitions

* `ieeeGenerator` — the generator polynomial.
* `messagePolynomial` — a message as a polynomial.

## Main results

* `crc32_table_agrees` — the table-driven checksum is the bitwise one.
* `crc32_eq_remainder` — the bitwise one is a polynomial remainder.
-/

namespace FlightDeck

open ByteCodec Polynomial

/-! ## The standard -/

/-- The generator of the CRC-32 of IEEE 802.3. -/
noncomputable def ieeeGenerator : (ZMod 2)[X] :=
  X ^ 32 + X ^ 26 + X ^ 23 + X ^ 22 + X ^ 16 + X ^ 12 + X ^ 11 + X ^ 10 + X ^ 8 + X ^ 7 + X ^ 5 +
    X ^ 4 + X ^ 2 + X + 1

/-- The bits of a message, the least significant one of each byte first, as a polynomial whose
highest coefficient is the first bit. -/
noncomputable def messagePolynomial (bytes : List Byte) : (ZMod 2)[X] :=
  Crc.ofBits (Crc.bitOf bytes) (8 * bytes.length)

/-- The constant in both programs is the generator without its highest power, reflected. -/
lemma generator_crcPolynomial : Crc.generator crcPolynomial = ieeeGenerator := by
  simp only [Crc.generator, ieeeGenerator, Crc.reflected, Crc.ofBits, Crc.coefficient,
    crcPolynomial, BitVec.getLsbD_ofNat, Nat.testBit_eq_decide_div_mod_eq, Finset.sum_range_succ,
    Finset.sum_range_zero]
  norm_num
  ring

/-- The generator is monic, so that there are remainders by it. -/
lemma monic_ieeeGenerator : ieeeGenerator.Monic :=
  generator_crcPolynomial ▸ Crc.monic_generator crcPolynomial

/-! ## The two programs -/

/-- **One checksum.** The checksum that the server computes from a table, on signed 32-bit
numbers, is the one that the generator computes bit by bit on unsigned words, for every byte
string; it lies between `0` and `2 ^ 32`. -/
theorem crc32_table_agrees (bytes : List Byte) :
    Server.crc32 bytes = ((Protocol.crc32 bytes).toNat : ℤ) ∧
      0 ≤ Server.crc32 bytes ∧ Server.crc32 bytes < 2 ^ 32 := by
  have heq : Server.crc32 bytes = ((Protocol.crc32 bytes).toNat : ℤ) := by
    rw [Server.crc32_eq_toNat_bits, Server.bits_crc32]
  have hlt := (Protocol.crc32 bytes).isLt
  rw [heq]
  exact ⟨rfl, by omega, by omega⟩

/-- **The checksum is the IEEE CRC-32.** For a message of `n` bytes it is the complement of the
reflection of the remainder of `M * X ^ 32 + I * X ^ (8 * n)` by the generator, where `M` is the
message and `I` the polynomial of 32 ones.

**Proof sketch.** The register of the loop stands for a polynomial, its lowest bit being the
highest coefficient; a step multiplies by `X` and reduces (`Crc.X_mul_reflected`). It starts with
all ones (`Crc.reflected_allOnes`), and the exclusive or at the end is the complement. -/
theorem crc32_eq_remainder (bytes : List Byte) :
    Protocol.crc32 bytes =
      ~~~(Crc.word 32 ((messagePolynomial bytes * X ^ 32 +
        (∑ i ∈ Finset.range 32, X ^ i) * X ^ (8 * bytes.length)) %ₘ ieeeGenerator)).reverse := by
  have hones : (0xFFFFFFFF#32 : BitVec 32) = BitVec.allOnes 32 := rfl
  rw [messagePolynomial, ← generator_crcPolynomial, ← Crc.reflected_allOnes,
    ← Crc.reflected_foldl crcPolynomial (by decide), Crc.reverse_word_reflected,
    Protocol.crc32_eq_foldl, hones, BitVec.xor_allOnes]

end FlightDeck
