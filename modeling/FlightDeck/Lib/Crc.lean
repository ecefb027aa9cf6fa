import Mathlib.Logic.Function.Iterate
import Mathlib.Data.List.Basic

set_option relaxedAutoImplicit false
set_option autoImplicit false

/-!
# Reflected cyclic redundancy checks

The register of a reflected CRC moves one bit to the right at a time and takes the polynomial
in when a one falls out. Such a step is linear in exclusive or, so eight of them depend on the
low byte of the register through a table and on the rest of it through a shift.

## Main definitions

* `Crc.step` — one bit of the register.
* `Crc.byteStep` — one byte: exclusive or it into the register, then eight bits.

## Main results

* `Crc.iterate_step_xor` — steps are linear in exclusive or.
* `Crc.byteStep_eq_table` — a byte step is a shift by eight and a table entry for the low byte.
-/

namespace Crc

variable {w : ℕ} (p : BitVec w)

/-- One bit: shift right, and take in the polynomial `p` when a one falls out. -/
def step (c : BitVec w) : BitVec w := if c.getLsbD 0 then (c >>> 1) ^^^ p else c >>> 1

/-- One byte: exclusive or it into the low end of the register, then eight bits. -/
def byteStep (c : BitVec w) (b : BitVec 8) : BitVec w := (step p)^[8] (c ^^^ b.setWidth w)

/-- A step is linear in exclusive or. -/
lemma step_xor (a b : BitVec w) : step p (a ^^^ b) = step p a ^^^ step p b := by
  have hcancel : ∀ x y : BitVec w, x ^^^ y = (x ^^^ p) ^^^ (y ^^^ p) := by
    intro x y
    rw [BitVec.xor_assoc, ← BitVec.xor_assoc p y p, BitVec.xor_comm p y, BitVec.xor_assoc y p p,
      BitVec.xor_self, BitVec.xor_zero]
  simp only [step, BitVec.getLsbD_xor, BitVec.ushiftRight_xor_distrib]
  cases a.getLsbD 0 <;> cases b.getLsbD 0
  · rfl
  · simp [BitVec.xor_assoc]
  · simp only [Bool.xor_false, if_true, Bool.false_eq_true, if_false]
    rw [BitVec.xor_assoc, BitVec.xor_comm (b >>> 1) p, ← BitVec.xor_assoc]
  · simpa using hcancel (a >>> 1) (b >>> 1)

/-- Any number of steps is linear in exclusive or. -/
lemma iterate_step_xor (n : ℕ) (a b : BitVec w) :
    (step p)^[n] (a ^^^ b) = (step p)^[n] a ^^^ (step p)^[n] b := by
  induction n generalizing a b with
  | zero => rfl
  | succ n ih => rw [Function.iterate_succ_apply, step_xor, ih]; rfl

/-- A register whose low `n` bits are clear only moves down through `n` steps. -/
lemma iterate_step_of_low_clear (c : BitVec w) (n : ℕ) (h : ∀ i < n, c.getLsbD i = false) :
    (step p)^[n] c = c >>> n := by
  induction n with
  | zero => simp
  | succ n ih =>
    have hlow : (c >>> n).getLsbD 0 = false := by
      rw [BitVec.getLsbD_ushiftRight]
      exact h n (by omega)
    rw [Function.iterate_succ_apply', ih fun i hi => h i (by omega), step, hlow]
    simp [BitVec.shiftRight_add]

/-- Eight steps: those of the low byte, and the rest of the register moved down eight places.

**Proof sketch.** The register is the exclusive or of its low byte and its other bits. The other
bits only move down (`iterate_step_of_low_clear`), and steps are linear. -/
lemma iterate_step_eight (c : BitVec w) :
    (step p)^[8] c = (c >>> 8) ^^^ (step p)^[8] ((c.setWidth 8).setWidth w) := by
  set low := (c.setWidth 8).setWidth w with hlow
  have hbit : ∀ i < w, low.getLsbD i = (decide (i < 8) && c.getLsbD i) := by
    intro i hi
    rw [hlow, BitVec.getLsbD_setWidth, BitVec.getLsbD_setWidth]
    simp [hi]
  have hclear : ∀ i < 8, (c ^^^ low).getLsbD i = false := by
    intro i hi
    rcases Nat.lt_or_ge i w with hiw | hiw
    · rw [BitVec.getLsbD_xor, hbit i hiw]
      simp [hi]
    · exact BitVec.getLsbD_of_ge _ _ hiw
  have hshift : (c ^^^ low) >>> 8 = c >>> 8 := by
    apply BitVec.eq_of_getLsbD_eq
    intro i _
    rw [BitVec.getLsbD_ushiftRight, BitVec.getLsbD_ushiftRight, BitVec.getLsbD_xor]
    rcases Nat.lt_or_ge (8 + i) w with hiw | hiw
    · rw [hbit _ hiw, show decide (8 + i < 8) = false by simp, Bool.false_and, Bool.xor_false]
    · rw [BitVec.getLsbD_of_ge c _ hiw, BitVec.getLsbD_of_ge low _ hiw]
      rfl
  have hsplit : c = (c ^^^ low) ^^^ low := by
    rw [BitVec.xor_assoc, BitVec.xor_self, BitVec.xor_zero]
  calc (step p)^[8] c = (step p)^[8] ((c ^^^ low) ^^^ low) := by rw [← hsplit]
    _ = (step p)^[8] (c ^^^ low) ^^^ (step p)^[8] low := iterate_step_xor p 8 _ _
    _ = (c >>> 8) ^^^ (step p)^[8] low := by
      rw [iterate_step_of_low_clear p _ 8 hclear, hshift]

/-- **A byte step from a table**: the register moved down eight places, and the eight steps of
the low byte of register and message byte together. -/
theorem byteStep_eq_table (c : BitVec w) (b : BitVec 8) :
    byteStep p c b =
      (c >>> 8) ^^^ (step p)^[8] (((c ^^^ b.setWidth w).setWidth 8).setWidth w) := by
  have hb : (b.setWidth w) >>> 8 = 0#w := by
    apply BitVec.eq_of_getLsbD_eq
    intro i _
    rw [BitVec.getLsbD_ushiftRight, BitVec.getLsbD_setWidth,
      BitVec.getLsbD_of_ge b (8 + i) (by omega)]
    simp
  rw [byteStep, iterate_step_eight, BitVec.ushiftRight_xor_distrib, hb, BitVec.xor_zero]

end Crc
