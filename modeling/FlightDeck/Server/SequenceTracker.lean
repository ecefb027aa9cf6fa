import FlightDeck.Lib.JsInt
import Mathlib.Algebra.Order.Group.Nat
import Mathlib.Data.List.Basic
import Mathlib.Data.List.Induction

set_option relaxedAutoImplicit false
set_option autoImplicit false

/-!
# Counting lost and late packets

`SequenceTracker` of `server/src/sequence-tracker.ts`. Sequence numbers wrap at `2 ^ 32`: the
distance from the latest one is taken modulo `2 ^ 32`, and its upper half means behind.

## Main definitions

* `SequenceTracker` — the latest sequence number and the two counters.
* `SequenceTracker.observe` — the next packet.

## Main results

* `SequenceTracker.observe_ahead`, `SequenceTracker.observe_behind` — what `observe` does on
  sequence numbers that have not wrapped.
-/

namespace FlightDeck.Server

/-- `SequenceTracker`. -/
structure SequenceTracker where
  /-- `#latest`; `none` is `undefined`. -/
  latest : Option ℕ := none
  /-- Sequence numbers skipped. -/
  lost : ℕ := 0
  /-- Packets that were not ahead of the latest one. -/
  reordered : ℕ := 0
  deriving DecidableEq, Repr

namespace SequenceTracker

/-- `reset`. -/
def reset (_ : SequenceTracker) : SequenceTracker where
  latest := none
  lost := 0
  reordered := 0

/-- `observe`. -/
def observe (tracker : SequenceTracker) (sequence : ℕ) : SequenceTracker :=
  match tracker.latest with
  | none => { tracker with latest := some sequence }
  | some latest =>
    let delta := JsInt.ushr ((sequence : ℤ) - latest) 0
    { latest := if delta > 0 ∧ delta < 0x80000000 then some sequence else some latest
      lost :=
        if delta > 1 ∧ delta < 0x80000000 then tracker.lost + (delta - 1).toNat else tracker.lost
      reordered :=
        if delta = 0 ∨ delta ≥ 0x80000000 then tracker.reordered + 1 else tracker.reordered }

/-- The first packet is counted neither lost nor late. -/
lemma observe_first {tracker : SequenceTracker} (h : tracker.latest = none) (sequence : ℕ) :
    tracker.observe sequence = { tracker with latest := some sequence } := by
  simp [observe, h]

/-- The distance of two sequence numbers less than `2 ^ 31` apart. -/
lemma ushr_sub_of_le {a b : ℕ} (hab : a ≤ b) (hb : b < a + 2 ^ 32) :
    JsInt.ushr ((b : ℤ) - a) 0 = (b : ℤ) - a := by
  rw [JsInt.ushr_zero, JsInt.bits, BitVec.toNat_ofInt]
  omega

/-- The distance of a sequence number to an earlier one wraps. -/
lemma ushr_sub_of_lt {a b : ℕ} (hab : b < a) (ha : a ≤ b + 2 ^ 32) :
    JsInt.ushr ((b : ℤ) - a) 0 = (b : ℤ) - a + 2 ^ 32 := by
  rw [JsInt.ushr_zero, JsInt.bits, BitVec.toNat_ofInt]
  omega

/-- A packet ahead of the latest one: those between are lost. -/
lemma observe_ahead {tracker : SequenceTracker} {latest sequence : ℕ}
    (hlatest : tracker.latest = some latest) (hlt : latest < sequence)
    (hnear : sequence < latest + 2 ^ 31) :
    tracker.observe sequence =
      { latest := some sequence
        lost := tracker.lost + (sequence - latest - 1)
        reordered := tracker.reordered } := by
  have hdelta := ushr_sub_of_le hlt.le (by omega)
  simp only [observe, hlatest, hdelta, mk.injEq]
  refine ⟨if_pos (by omega), ?_, if_neg (by omega)⟩
  split <;> omega

/-- A packet not ahead of the latest one is late. -/
lemma observe_behind {tracker : SequenceTracker} {latest sequence : ℕ}
    (hlatest : tracker.latest = some latest) (hle : sequence ≤ latest)
    (hnear : latest ≤ sequence + 2 ^ 31) :
    tracker.observe sequence = { tracker with reordered := tracker.reordered + 1 } := by
  have hdelta : JsInt.ushr ((sequence : ℤ) - latest) 0 = 0 ∨
      JsInt.ushr ((sequence : ℤ) - latest) 0 ≥ 0x80000000 := by
    rcases hle.eq_or_lt with rfl | hlt
    · exact Or.inl (by rw [ushr_sub_of_le le_rfl (by omega)]; omega)
    · exact Or.inr (by rw [ushr_sub_of_lt hlt (by omega)]; omega)
  simp only [observe, hlatest]
  rw [if_neg (by omega), if_neg (by omega), if_pos hdelta]

/-- The latest sequence number is one of those observed. -/
lemma latest_observe (tracker : SequenceTracker) (sequence : ℕ) :
    (tracker.observe sequence).latest = some sequence ∨
      (tracker.latest ≠ none ∧ (tracker.observe sequence).latest = tracker.latest) := by
  cases hlatest : tracker.latest with
  | none => exact Or.inl (by rw [observe_first hlatest])
  | some latest =>
    simp only [observe, hlatest]
    split <;> simp

/-- Once a packet was observed there is a latest sequence number, and it is one of those
observed. -/
lemma exists_latest_foldl {sequences : List ℕ} (h : sequences ≠ []) :
    ∃ latest ∈ sequences, (sequences.foldl observe {}).latest = some latest := by
  induction sequences using List.reverseRecOn with
  | nil => exact absurd rfl h
  | append_singleton sequences sequence ih =>
    rw [List.foldl_concat]
    rcases latest_observe (sequences.foldl observe {}) sequence with hnew | ⟨hsome, hold⟩
    · exact ⟨sequence, by simp, hnew⟩
    · rcases eq_or_ne sequences [] with rfl | hne
      · exact absurd rfl hsome
      · obtain ⟨latest, hmem, hlatest⟩ := ih hne
        exact ⟨latest, List.mem_append_left _ hmem, hold.trans hlatest⟩

end SequenceTracker

end FlightDeck.Server
