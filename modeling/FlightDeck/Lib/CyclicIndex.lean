import Mathlib.Data.Nat.ModEq
import Mathlib.Data.Fin.Basic

set_option relaxedAutoImplicit false
set_option autoImplicit false

/-!
# Positions of a stream in a cyclic store

A store of `n` slots is used round and round: position `i` of an unbounded stream lives in slot
`i % n`. Two positions less than `n` apart never share a slot, which is all that the
correctness of a ring buffer rests on.

## Main definitions

* `CyclicIndex.slot` — the slot of a position.

## Main results

* `CyclicIndex.slot_inj` — positions less than `n` apart are in different slots.
* `CyclicIndex.slot_distance` — going round from slot to slot counts the positions between.
* `CyclicIndex.slot_val_add` — counting on from a slot follows the stream.
-/

namespace CyclicIndex

variable {n : ℕ} [NeZero n]

/-- The slot of position `i` in a store of `n` slots. -/
def slot (n : ℕ) [NeZero n] (i : ℕ) : Fin n := ⟨i % n, Nat.mod_lt i (Nat.pos_of_neZero n)⟩

@[simp] lemma val_slot (i : ℕ) : (slot n i).val = i % n := rfl

/-- Counting on from the slot of a position reaches the slot of a later one. -/
lemma slot_val_add (i k : ℕ) : slot n ((slot n i).val + k) = slot n (i + k) := by
  apply Fin.ext
  simp [Nat.mod_add_mod]

/-- A whole round leads back to the same slot. -/
lemma slot_add_self (i : ℕ) : slot n (i + n) = slot n i := by
  apply Fin.ext
  simp

/-- Positions less than a round apart have different slots. -/
lemma slot_inj {i j : ℕ} (hij : i ≤ j) (hj : j < i + n) : slot n i = slot n j ↔ i = j := by
  refine ⟨fun h => ?_, fun h => by rw [h]⟩
  have hmod : i % n = j % n := congrArg Fin.val h
  have hdvd : n ∣ j - i := (Nat.modEq_iff_dvd' hij).mp hmod
  have hzero : j - i = 0 := Nat.eq_zero_of_dvd_of_lt hdvd (by omega)
  omega

/-- The distance of two slots, going round the store, is the distance of the positions. -/
lemma slot_distance {i j : ℕ} (hij : i ≤ j) (hj : j < i + n) :
    ((slot n j).val + n - (slot n i).val) % n = j - i := by
  obtain ⟨d, rfl⟩ := Nat.exists_eq_add_of_le hij
  have hd : d < n := by omega
  have hi : i % n < n := Nat.mod_lt i (Nat.pos_of_neZero n)
  have hsum : (i + d) % n = (i % n + d) % n := by rw [Nat.mod_add_mod]
  rw [val_slot, val_slot, hsum, Nat.add_sub_cancel_left]
  rcases lt_or_ge (i % n + d) n with hlt | hge
  · rw [Nat.mod_eq_of_lt hlt, show i % n + d + n - i % n = d + n by omega, Nat.add_mod_right,
      Nat.mod_eq_of_lt hd]
  · have hwrap : (i % n + d) % n = i % n + d - n := by
      rw [Nat.mod_eq_sub_mod hge, Nat.mod_eq_of_lt (by omega)]
    rw [hwrap, show i % n + d - n + n - i % n = d by omega, Nat.mod_eq_of_lt hd]

end CyclicIndex
