import FlightDeck.Generator.Receiver
import FlightDeck.Server.SequenceTracker
import Mathlib.Algebra.Order.SuccPred.PartialSups
import Mathlib.Data.Finset.Card
import Mathlib.Data.Nat.SuccPred
import Mathlib.Order.Lattice.Nat

set_option relaxedAutoImplicit false
set_option autoImplicit false

/-!
# Loss tracking across the wrap

The server and the stand-alone receiver count lost and late packets by the distance of a sequence
number to the latest one modulo `2 ^ 32`. The packets themselves are numbered without bound. As
long as a packet is less than `2 ^ 31` away from the highest one before it, the distance modulo
`2 ^ 32` tells on which side it is, and the counters are what one would count on the unbounded
numbers.

## Main definitions

* `lateArrivals`, `newMaxima` — the arrivals up to the highest one before, and above it.
* `trackerOf` — the receiver's variables as the server keeps them.

## Main results

* `foldl_observe_unwrapped` — the counters on numbers modulo `2 ^ 32`.
* `trackerOf_foldl_observe`, `trackerOf_foldl_receive` — the receiver's counters are those of the
  server, on any sequence numbers and on any datagrams.
* `loss_tracking` — both.
-/

namespace FlightDeck.System

open Server Generator

/-! ## Numbers without bound -/

/-- The arrivals after the first one whose number is not above all earlier ones. -/
def lateArrivals (s : ℕ → ℕ) (n : ℕ) : Finset ℕ :=
  (Finset.range n).filter fun i => s (i + 1) ≤ partialSups s i

/-- The arrivals after the first one whose number is above all earlier ones. -/
def newMaxima (s : ℕ → ℕ) (n : ℕ) : Finset ℕ :=
  (Finset.range n).filter fun i => partialSups s i < s (i + 1)

/-- Numbers less than `2 ^ 31` from the highest one before them. -/
def Near (s : ℕ → ℕ) (n : ℕ) : Prop :=
  ∀ i < n, s (i + 1) < partialSups s i + 2 ^ 31 ∧ partialSups s i < s (i + 1) + 2 ^ 31

/-- What the tracker is fed: the first `n + 1` numbers modulo `2 ^ 32`. -/
def onWire (s : ℕ → ℕ) (n : ℕ) : List ℕ := (List.range (n + 1)).map fun i => s i % 2 ^ 32

section

variable {s : ℕ → ℕ} {n : ℕ}

/-- The distance of two numbers is taken modulo `2 ^ 32`. -/
lemma ushr_mod_sub (x m : ℕ) :
    JsInt.ushr (((x % 2 ^ 32 : ℕ) : ℤ) - (m % 2 ^ 32 : ℕ)) 0 = ((x : ℤ) - m) % 2 ^ 32 := by
  rw [JsInt.ushr_zero, JsInt.bits, BitVec.toNat_ofInt]
  omega

/-- A packet above all earlier ones: those between are lost. -/
lemma observe_mod_of_lt {tracker : SequenceTracker} {x m : ℕ}
    (hlatest : tracker.latest = some (m % 2 ^ 32)) (hlt : m < x) (hnear : x < m + 2 ^ 31) :
    tracker.observe (x % 2 ^ 32) =
      { latest := some (x % 2 ^ 32)
        lost := tracker.lost + (x - m - 1)
        reordered := tracker.reordered } := by
  have hdelta : JsInt.ushr (((x % 2 ^ 32 : ℕ) : ℤ) - (m % 2 ^ 32 : ℕ)) 0 = (x : ℤ) - m := by
    rw [ushr_mod_sub]
    omega
  simp only [SequenceTracker.observe, hlatest, hdelta, SequenceTracker.mk.injEq]
  refine ⟨if_pos (by omega), ?_, if_neg (by omega)⟩
  split <;> omega

/-- A packet that is not is late. -/
lemma observe_mod_of_le {tracker : SequenceTracker} {x m : ℕ}
    (hlatest : tracker.latest = some (m % 2 ^ 32)) (hle : x ≤ m) (hnear : m < x + 2 ^ 31) :
    tracker.observe (x % 2 ^ 32) = { tracker with reordered := tracker.reordered + 1 } := by
  have hdelta : JsInt.ushr (((x % 2 ^ 32 : ℕ) : ℤ) - (m % 2 ^ 32 : ℕ)) 0 = 0 ∨
      JsInt.ushr (((x % 2 ^ 32 : ℕ) : ℤ) - (m % 2 ^ 32 : ℕ)) 0 ≥ 0x80000000 := by
    rw [ushr_mod_sub]
    omega
  simp only [SequenceTracker.observe, hlatest]
  rw [if_neg (by omega), if_neg (by omega), if_pos hdelta]

/-- One arrival more. -/
lemma onWire_succ (s : ℕ → ℕ) (n : ℕ) :
    onWire s (n + 1) = onWire s n ++ [s (n + 1) % 2 ^ 32] := by
  rw [onWire, List.range_succ, List.map_append]
  rfl

/-- A late arrival more. -/
lemma card_arrivals_of_le (h : s (n + 1) ≤ partialSups s n) :
    (lateArrivals s (n + 1)).card = (lateArrivals s n).card + 1 ∧
      (newMaxima s (n + 1)).card = (newMaxima s n).card := by
  rw [lateArrivals, newMaxima, Finset.range_add_one, Finset.filter_insert, Finset.filter_insert,
    if_pos h, if_neg h.not_gt, Finset.card_insert_of_notMem (by simp)]
  exact ⟨rfl, rfl⟩

/-- A new maximum more. -/
lemma card_arrivals_of_lt (h : partialSups s n < s (n + 1)) :
    (lateArrivals s (n + 1)).card = (lateArrivals s n).card ∧
      (newMaxima s (n + 1)).card = (newMaxima s n).card + 1 := by
  rw [lateArrivals, newMaxima, Finset.range_add_one, Finset.filter_insert, Finset.filter_insert,
    if_neg h.not_ge, if_pos h, Finset.card_insert_of_notMem (by simp)]
  exact ⟨rfl, rfl⟩

/-- **The counters on numbers modulo `2 ^ 32`** are those on the numbers: the highest one, the
late arrivals, and the numbers between the first one and the highest that no new maximum took.

**Proof sketch.** Induction on the arrivals. The tracker's number is the highest one so far
modulo `2 ^ 32`, so the distance of the next one to it is either their difference or that plus
`2 ^ 32`, and less than `2 ^ 31` exactly in the first case. -/
lemma foldl_observe_unwrapped (h : Near s n) :
    ((onWire s n).foldl SequenceTracker.observe {}).latest = some (partialSups s n % 2 ^ 32) ∧
      ((onWire s n).foldl SequenceTracker.observe {}).reordered = (lateArrivals s n).card ∧
      ((onWire s n).foldl SequenceTracker.observe {}).lost + (newMaxima s n).card + s 0 =
        partialSups s n := by
  induction n with
  | zero => simp [onWire, SequenceTracker.observe, lateArrivals, newMaxima]
  | succ n ih =>
    obtain ⟨hlatest, hreordered, hlost⟩ := ih fun i hi => h i (by omega)
    obtain ⟨hahead, hbehind⟩ := h n (by omega)
    rw [onWire_succ, List.foldl_concat, partialSups_add_one]
    rcases lt_or_ge (partialSups s n) (s (n + 1)) with hlt | hle
    · obtain ⟨hlate, hmaxima⟩ := card_arrivals_of_lt hlt
      rw [observe_mod_of_lt hlatest hlt hahead, hlate, hmaxima, max_eq_right hlt.le]
      exact ⟨rfl, hreordered, by dsimp only; omega⟩
    · obtain ⟨hlate, hmaxima⟩ := card_arrivals_of_le hle
      rw [observe_mod_of_le hlatest hle hbehind, hlate, hmaxima, max_eq_left hle]
      exact ⟨hlatest, by dsimp only; omega, hlost⟩

end

/-! ## The receiver -/

/-- The receiver's variables as the server keeps them. -/
def trackerOf (receiver : Receiver) : SequenceTracker where
  latest := receiver.latestSequence.map BitVec.toNat
  lost := receiver.stats.lost
  reordered := receiver.stats.reordered

/-- The distance of two sequence numbers is the same in both languages. -/
lemma ushr_toNat_sub (sequence latest : BitVec 32) :
    JsInt.ushr ((sequence.toNat : ℤ) - latest.toNat) 0 = (sequence - latest).toNat := by
  rw [JsInt.ushr_zero, JsInt.bits, BitVec.toNat_ofInt, BitVec.toNat_sub]
  omega

/-- One sequence number: the three conditions mean the same in both languages. -/
lemma trackerOf_observe (receiver : Receiver) (sequence : BitVec 32) :
    trackerOf (receiver.observe sequence) = (trackerOf receiver).observe sequence.toNat := by
  cases hlatest : receiver.latestSequence with
  | none => simp [trackerOf, Receiver.observe, SequenceTracker.observe, hlatest]
  | some latest =>
    have hsome : (trackerOf receiver).latest = some latest.toNat := by simp [trackerOf, hlatest]
    have hdelta := ushr_toNat_sub sequence latest
    simp only [Receiver.observe, SequenceTracker.observe, hlatest, hsome, hdelta]
    generalize sequence - latest = delta
    have hahead : delta > 1#32 ∧ delta < 0x80000000#32 ↔
        (delta.toNat : ℤ) > 1 ∧ (delta.toNat : ℤ) < 0x80000000 := by simp [BitVec.lt_def]
    have hnew : delta > 0#32 ∧ delta < 0x80000000#32 ↔
        (delta.toNat : ℤ) > 0 ∧ (delta.toNat : ℤ) < 0x80000000 := by simp [BitVec.lt_def]
    have hbehind : delta = 0#32 ∨ delta ≥ 0x80000000#32 ↔
        (delta.toNat : ℤ) = 0 ∨ (delta.toNat : ℤ) ≥ 0x80000000 := by
      simp [BitVec.le_def, ← BitVec.toNat_inj]
    simp only [trackerOf, SequenceTracker.mk.injEq, hahead, hnew, hbehind]
    refine ⟨by split <;> rfl, ?_, ?_⟩
    · by_cases h : (delta.toNat : ℤ) > 1 ∧ (delta.toNat : ℤ) < 0x80000000
      · have hsub : (delta - 1#32).toNat = ((delta.toNat : ℤ) - 1).toNat := by
          rw [BitVec.toNat_sub]
          simp
          omega
        rw [if_pos h, if_pos h, hsub]
      · rw [if_neg h, if_neg h]
        split <;> rfl
    · by_cases h : (delta.toNat : ℤ) > 1 ∧ (delta.toNat : ℤ) < 0x80000000
      · rw [if_pos h, if_neg (by omega)]
      · rw [if_neg h]
        split <;> rfl

/-- Any sequence numbers. -/
lemma trackerOf_foldl_observe (sequences : List (BitVec 32)) (receiver : Receiver) :
    trackerOf (sequences.foldl Receiver.observe receiver) =
      (sequences.map BitVec.toNat).foldl SequenceTracker.observe (trackerOf receiver) := by
  induction sequences generalizing receiver with
  | nil => rfl
  | cons sequence sequences ih =>
    rw [List.foldl_cons, ih, trackerOf_observe]
    rfl

/-- The sequence numbers of the datagrams that the receiver decodes. -/
def validSequences (datagrams : List (List ByteCodec.Byte)) : List (BitVec 32) :=
  datagrams.filterMap fun datagram =>
    let result := Protocol.deserialize datagram
    if result.error ≠ .none then none else some result.telemetry.sequence

/-- Sequence numbers do not count as datagrams. -/
lemma stats_observe (receiver : Receiver) (sequence : BitVec 32) :
    (receiver.observe sequence).stats.received = receiver.stats.received ∧
      (receiver.observe sequence).stats.valid = receiver.stats.valid ∧
      (receiver.observe sequence).stats.rejected = receiver.stats.rejected := by
  unfold Receiver.observe
  cases receiver.latestSequence with
  | none => exact ⟨rfl, rfl, rfl⟩
  | some latest =>
    dsimp only
    split_ifs <;> exact ⟨rfl, rfl, rfl⟩

/-- **The receiver's loop** on any datagrams: the tracker has seen the valid ones, and every
datagram is counted. -/
theorem trackerOf_foldl_receive (datagrams : List (List ByteCodec.Byte)) :
    trackerOf (datagrams.foldl Receiver.receive {}) =
        ((validSequences datagrams).map BitVec.toNat).foldl SequenceTracker.observe {} ∧
      (datagrams.foldl Receiver.receive {}).stats.received = datagrams.length ∧
      (datagrams.foldl Receiver.receive {}).stats.valid = (validSequences datagrams).length ∧
      (datagrams.foldl Receiver.receive {}).stats.rejected + (validSequences datagrams).length =
        datagrams.length := by
  induction datagrams using List.reverseRecOn with
  | nil => exact ⟨rfl, rfl, rfl, rfl⟩
  | append_singleton datagrams datagram ih =>
    obtain ⟨htracker, hreceived, hvalid, hrejected⟩ := ih
    rw [List.foldl_concat, validSequences, List.filterMap_append, ← validSequences,
      List.length_append, List.length_append, List.map_append, List.foldl_append, ← htracker]
    generalize datagrams.foldl Receiver.receive {} = receiver at *
    by_cases herror : (Protocol.deserialize datagram).error ≠ .none
    · simp only [Receiver.receive, herror, List.filterMap_cons, List.filterMap_nil, if_true,
        not_false_eq_true, ne_eq]
      exact ⟨rfl, by simpa using hreceived, by simpa using hvalid, by simp; omega⟩
    · simp only [Receiver.receive, herror, List.filterMap_cons, List.filterMap_nil, if_false]
      obtain ⟨hr, hv, hj⟩ := stats_observe
        { receiver with stats := { receiver.stats with
            received := receiver.stats.received + 1, valid := receiver.stats.valid + 1 } }
        (Protocol.deserialize datagram).telemetry.sequence
      rw [hr, hv, hj]
      refine ⟨?_, by simpa using hreceived, by simpa using hvalid, by simp; omega⟩
      rw [trackerOf_observe]
      rfl

/-! ## Both counts -/

/-- **Loss tracking**: fed numbers less than `2 ^ 31` from the highest one before them, modulo
`2 ^ 32`, the tracker has the highest one, counts the late arrivals and counts as lost the numbers
above the first that no new maximum took; and on any sequence numbers whatsoever the receiver's
latest number and counters are the tracker's. -/
theorem loss_tracking :
    (∀ (s : ℕ → ℕ) (n : ℕ), Near s n →
      ((onWire s n).foldl SequenceTracker.observe {}).latest = some (partialSups s n % 2 ^ 32) ∧
      ((onWire s n).foldl SequenceTracker.observe {}).reordered = (lateArrivals s n).card ∧
      (((onWire s n).foldl SequenceTracker.observe {}).lost : ℤ) =
        (partialSups s n - s 0) - (newMaxima s n).card) ∧
    ∀ sequences : List (BitVec 32),
      trackerOf (sequences.foldl Receiver.observe {}) =
        (sequences.map BitVec.toNat).foldl SequenceTracker.observe {} := by
  constructor
  · intro s n hnear
    obtain ⟨hlatest, hreordered, hlost⟩ := foldl_observe_unwrapped hnear
    exact ⟨hlatest, hreordered, by omega⟩
  · exact fun sequences => trackerOf_foldl_observe sequences {}

/-- Numbers around the wrap, of which one is skipped and comes late. -/
def aroundWrap (i : ℕ) : ℕ := 2 ^ 32 - 1 + [0, 1, 3, 2].getD i 0

/-- They are near each other. -/
lemma near_aroundWrap : Near aroundWrap 3 := by
  unfold Near
  decide

/-- The number skipped is counted lost when the one after it arrives, and late when it does. -/
theorem loss_tracking_aroundWrap :
    ((onWire aroundWrap 3).foldl SequenceTracker.observe {}).latest = some 2 ∧
      ((onWire aroundWrap 3).foldl SequenceTracker.observe {}).reordered = 1 ∧
      (((onWire aroundWrap 3).foldl SequenceTracker.observe {}).lost : ℤ) = 1 := by
  obtain ⟨hlatest, hreordered, hlost⟩ := loss_tracking.1 aroundWrap 3 near_aroundWrap
  have hmaximum : partialSups aroundWrap 3 = 2 ^ 32 + 2 := by decide
  have hlate : (lateArrivals aroundWrap 3).card = 1 := by decide
  have hmaxima : (newMaxima aroundWrap 3).card = 2 := by decide
  have hfirst : aroundWrap 0 = 2 ^ 32 - 1 := rfl
  rw [hmaximum] at hlatest hlost
  rw [hmaxima, hfirst] at hlost
  exact ⟨hlatest, by omega, by omega⟩

end FlightDeck.System
