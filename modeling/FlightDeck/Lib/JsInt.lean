import Mathlib.Algebra.Ring.Int.Defs
import Mathlib.Algebra.Ring.Nat

set_option relaxedAutoImplicit false
set_option autoImplicit false

/-!
# JavaScript's 32-bit integer operators

`^`, `&` and `>>>` take numbers, reduce them modulo `2 ^ 32`, work on the 32 bits and return a
number again: `^` and `&` the signed reading of the result, `>>>` the unsigned one. On
integer-valued numbers this is exact, so a number here is an integer.

## Main definitions

* `JsInt.bits` — the conversion `ToUint32` (or `ToInt32`: the same 32 bits).
* `JsInt.xor`, `JsInt.and`, `JsInt.ushr` — the operators `^`, `&` and `>>>`.
-/

namespace JsInt

/-- The 32 bits an operator works on. -/
def bits (x : ℤ) : BitVec 32 := BitVec.ofInt 32 x

/-- `x ^ y`. -/
def xor (x y : ℤ) : ℤ := (bits x ^^^ bits y).toInt

/-- `x & y`. -/
def and (x y : ℤ) : ℤ := (bits x &&& bits y).toInt

/-- `x >>> k`. -/
def ushr (x : ℤ) (k : ℕ) : ℤ := (bits x >>> k).toNat

@[simp] lemma bits_xor (x y : ℤ) : bits (xor x y) = bits x ^^^ bits y := BitVec.ofInt_toInt

@[simp] lemma bits_ushr (x : ℤ) (k : ℕ) : bits (ushr x k) = bits x >>> k := by
  rw [ushr, bits, BitVec.ofInt_natCast, BitVec.ofNat_toNat, BitVec.setWidth_eq]

/-- `x >>> 0` is the unsigned reading of the 32 bits. -/
lemma ushr_zero (x : ℤ) : ushr x 0 = (bits x).toNat := by
  simp [ushr]

/-- `(x & m) !== 0` with one bit for a mask tests that bit. -/
lemma and_two_pow_ne_zero (x : ℤ) {k : ℕ} (hk : k < 32) :
    and x ((2 ^ k : ℕ) : ℤ) ≠ 0 ↔ (bits x).getLsbD k = true := by
  have hmask : bits ((2 ^ k : ℕ) : ℤ) = BitVec.twoPow 32 k := by
    rw [bits, BitVec.ofInt_natCast, BitVec.twoPow_eq]
    apply BitVec.eq_of_toNat_eq
    simp [Nat.shiftLeft_eq]
  have hne : BitVec.twoPow 32 k ≠ 0#32 := by
    intro hzero
    have hbit := congrArg (fun y : BitVec 32 => y.getLsbD k) hzero
    simp [hk] at hbit
  have hzero : ∀ y : BitVec 32, y.toInt = 0 ↔ y = 0#32 := fun y =>
    (BitVec.toInt_inj (x := y) (y := 0#32))
  rw [and, hmask, BitVec.and_twoPow, ne_eq, hzero]
  cases (bits x).getLsbD k with
  | true => simpa using hne
  | false => simp

/-- Of `x ^ y` it tests whether the two bits differ. -/
lemma and_xor_two_pow_eq_zero (x y : ℤ) {k : ℕ} (hk : k < 32) :
    and (xor x y) ((2 ^ k : ℕ) : ℤ) = 0 ↔ (bits x).getLsbD k = (bits y).getLsbD k := by
  rw [← not_iff_not, ← ne_eq, and_two_pow_ne_zero _ hk, bits_xor, BitVec.getLsbD_xor]
  cases (bits x).getLsbD k <;> cases (bits y).getLsbD k <;> simp

/-- `x & m` with a mask below `2 ^ 31` is not negative. -/
lemma and_eq_toNat (x : ℤ) (m : ℕ) (hm : m < 2 ^ 31) :
    and x m = ((bits x).toNat &&& m : ℕ) := by
  have hmb : (bits (m : ℤ)).toNat = m := by
    rw [bits, BitVec.ofInt_natCast, BitVec.toNat_ofNat]
    omega
  have hle : (bits x).toNat &&& m ≤ m := Nat.and_le_right
  rw [and, BitVec.toInt_eq_toNat_of_lt (by rw [BitVec.toNat_and, hmb]; omega), BitVec.toNat_and,
    hmb]

end JsInt
