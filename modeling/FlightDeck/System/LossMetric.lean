import Mathlib.Order.Interval.Finset.Nat
import FlightDeck.Generator.SimulatorRuns
import FlightDeck.Server.TelemetryServer

set_option relaxedAutoImplicit false
set_option autoImplicit false

/-!
# The loss metric

The sequence number of a packet is the number of its simulation step, whether or not the packet
is sent. A server that receives some of the packets of a run, in order, can therefore tell how
many it did not receive: its loss metric counts exactly the steps between the first and the last
packet received of which no packet arrived.

## Main definitions

* `FlightDeck.System.Arrives` — packets of a run that arrive once each, in order and intact.
* `FlightDeck.System.missing` — the numbers that an increasing list leaves out.

## Main results

* `FlightDeck.System.Counted.concat` — one more arrival.
* `FlightDeck.System.lost_eq_missing` — the metrics of a run.
-/

namespace FlightDeck.System

open Generator Simulator Server

/-! ## Missing numbers -/

/-- The numbers strictly between the first and the last entry that are not in the list. -/
def missing (steps : List ℕ) : Finset ℕ :=
  match steps.head?, steps.getLast? with
  | some first, some last => (Finset.Ioo first last).filter (· ∉ steps)
  | _, _ => ∅

section Missing

variable {steps : List ℕ} {first last next : ℕ}

lemma missing_of_some (hfirst : steps.head? = some first) (hlast : steps.getLast? = some last) :
    missing steps = (Finset.Ioo first last).filter (· ∉ steps) := by
  unfold missing
  rw [hfirst, hlast]

/-- The first entry of an increasing list is the smallest one. -/
lemma head_le_of_pairwise (h : steps.Pairwise (· < ·)) (hfirst : steps.head? = some first)
    {i : ℕ} (hi : i ∈ steps) : first ≤ i := by
  cases steps with
  | nil => exact absurd hi (List.not_mem_nil)
  | cons a rest =>
    obtain rfl : a = first := Option.some_inj.mp hfirst
    rcases List.mem_cons.mp hi with rfl | hmem
    · exact le_rfl
    · exact ((List.pairwise_cons.mp h).1 i hmem).le

/-- The last entry of an increasing list is the largest one. -/
lemma le_getLast_of_pairwise (h : steps.Pairwise (· < ·)) (hlast : steps.getLast? = some last)
    {i : ℕ} (hi : i ∈ steps) : i ≤ last := by
  obtain ⟨rest, rfl⟩ : ∃ rest, steps = rest ++ [last] := by
    rw [List.getLast?_eq_some_iff] at hlast
    exact hlast
  rcases List.mem_append.mp hi with hmem | hmem
  · exact ((List.pairwise_append.mp h).2.2 i hmem last (by simp)).le
  · exact (List.mem_singleton.mp hmem).le

/-- One more entry: the numbers skipped before it are missing too. -/
lemma missing_concat (h : (steps ++ [next]).Pairwise (· < ·))
    (hlast : steps.getLast? = some last) :
    missing (steps ++ [next]) = missing steps ∪ Finset.Ioo last next := by
  obtain ⟨hsteps, -, hnext⟩ := List.pairwise_append.mp h
  have hmem : last ∈ steps := List.mem_of_getLast? hlast
  have hlt : last < next := hnext last hmem next (by simp)
  obtain ⟨first, hfirst⟩ : ∃ first, steps.head? = some first := by
    cases steps with
    | nil => exact absurd hmem (List.not_mem_nil)
    | cons a rest => exact ⟨a, rfl⟩
  have hfirst' : (steps ++ [next]).head? = some first := by
    rw [List.head?_append, hfirst, Option.some_or]
  rw [missing_of_some hfirst' (List.getLast?_concat ..), missing_of_some hfirst hlast]
  ext i
  have hle := head_le_of_pairwise hsteps hfirst hmem
  simp only [Finset.mem_union, Finset.mem_filter, Finset.mem_Ioo, List.mem_append,
    List.mem_singleton, not_or]
  constructor
  · rintro ⟨⟨hlow, hhigh⟩, hnot, -⟩
    rcases lt_trichotomy i last with hi | rfl | hi
    · exact Or.inl ⟨⟨hlow, hi⟩, hnot⟩
    · exact absurd hmem hnot
    · exact Or.inr ⟨hi, hhigh⟩
  · rintro (⟨⟨hlow, hhigh⟩, hnot⟩ | ⟨hlow, hhigh⟩)
    · exact ⟨⟨hlow, by omega⟩, hnot, by omega⟩
    · refine ⟨⟨by omega, hhigh⟩, fun hi => ?_, by omega⟩
      have := le_getLast_of_pairwise hsteps hlast hi
      omega

/-- Their number. -/
lemma card_missing_concat (h : (steps ++ [next]).Pairwise (· < ·))
    (hlast : steps.getLast? = some last) :
    (missing (steps ++ [next])).card = (missing steps).card + (next - last - 1) := by
  rw [missing_concat h hlast, Finset.card_union_of_disjoint, Nat.card_Ioo]
  rw [Finset.disjoint_left]
  intro i hi hi'
  rw [Finset.mem_Ioo] at hi'
  unfold missing at hi
  rw [hlast] at hi
  cases hfirst : steps.head? with
  | none =>
    rw [hfirst] at hi
    exact absurd hi (Finset.notMem_empty i)
  | some first =>
    rw [hfirst] at hi
    have := (Finset.mem_Ioo.mp (Finset.mem_filter.mp hi).1).2
    omega

end Missing

/-! ## Arrivals -/

/-- A datagram that reaches the server. -/
structure Arrival where
  /-- The number of the simulation step that sent it, from zero. -/
  step : ℕ
  /-- The bytes, and the server's clock. -/
  datagram : Datagram
  deriving DecidableEq

/-- Some of the packets of `n` passes reach the server. -/
structure Arrives [Libm] (options : Options) (faultFlags : ℕ → BitVec 32) (n : ℕ)
    (arrivals : List Arrival) : Prop where
  /-- Once each and in order. -/
  ordered : (arrivals.map Arrival.step).Pairwise (· < ·)
  /-- Each was given to the transmitter in one of the passes. -/
  sent : ∀ arrival ∈ arrivals, arrival.step < n ∧
    sent options faultFlags arrival.step = some arrival.datagram.packet
  /-- Each is intact: the packet as it was encoded. -/
  uncorrupted : ∀ arrival ∈ arrivals,
    arrival.datagram.packet = (Protocol.serialize (packet faultFlags arrival.step)).1

/-- The packets of the given steps, received at the given times. -/
def arrivalsOf [Libm] (faultFlags : ℕ → BitVec 32) (receivedAtMs : ℕ → ℕ) (steps : List ℕ) :
    List Arrival :=
  steps.map fun i => ⟨i, (Protocol.serialize (packet faultFlags i)).1, receivedAtMs i⟩

@[simp] lemma map_step_arrivalsOf [Libm] (faultFlags : ℕ → BitVec 32) (receivedAtMs : ℕ → ℕ)
    (steps : List ℕ) : (arrivalsOf faultFlags receivedAtMs steps).map Arrival.step = steps := by
  unfold arrivalsOf
  rw [List.map_map]
  exact List.map_id steps

lemma of_mem_arrivalsOf [Libm] {faultFlags : ℕ → BitVec 32} {receivedAtMs : ℕ → ℕ}
    {steps : List ℕ} {arrival : Arrival} (h : arrival ∈ arrivalsOf faultFlags receivedAtMs steps) :
    arrival.step ∈ steps ∧ arrival.datagram.packet =
      (Protocol.serialize (packet faultFlags arrival.step)).1 := by
  unfold arrivalsOf at h
  rw [List.mem_map] at h
  obtain ⟨i, hi, heq⟩ := h
  subst heq
  refine ⟨hi, ?_⟩
  dsimp only

/-- Any packets that are sent undamaged may be those that arrive. -/
lemma arrives_arrivalsOf [Libm] {options : Options} {faultFlags : ℕ → BitVec 32} {n : ℕ}
    {steps : List ℕ} (receivedAtMs : ℕ → ℕ) (hn : n ≤ 2 ^ 31)
    (hordered : steps.Pairwise (· < ·))
    (hsteps : ∀ i ∈ steps, i < n ∧ (faultFlags i &&& kPacketLoss = 0 ∨ (i + 1) % 10 ≠ 0) ∧
      (options.corruptOnce = false ∨ i + 1 ≠ 250)) :
    Arrives options faultFlags n (arrivalsOf faultFlags receivedAtMs steps) where
  ordered := by
    rw [map_step_arrivalsOf]
    exact hordered
  sent arrival hmem := by
    obtain ⟨hi, hpacket⟩ := of_mem_arrivalsOf hmem
    obtain ⟨hlt, hkept, hintact⟩ := hsteps arrival.step hi
    rw [hpacket]
    exact ⟨hlt, sent_of_kept (by omega) hkept hintact⟩
  uncorrupted arrival hmem := (of_mem_arrivalsOf hmem).2

section Count

/-- A second is added to a clock reading without going back. -/
lemma le_numberAdd (value microseconds : ℕ) :
    numberOfBigInt value ≤ numberAdd (numberOfBigInt value) microseconds := by
  have hfix : numberOfBigInt (numberOfBigInt value) = numberOfBigInt value :=
    Ieee754.roundNat_of_representable (by decide)
      (Ieee754.representable_roundNat (by decide) value)
  calc numberOfBigInt value = numberOfBigInt (numberOfBigInt value) := hfix.symm
    _ ≤ numberAdd (numberOfBigInt value) microseconds :=
        Ieee754.monotone_roundNat (by decide) (Nat.le_add_right _ _)

variable [Libm] {options : Options} {faultFlags : ℕ → BitVec 32} {n : ℕ} {capacity : ℕ+}
  {arrivals : List Arrival} {arrival : Arrival}

/-- The timestamp of a packet as the server reads it. -/
def readTimestamp (faultFlags : ℕ → BitVec 32) (step : ℕ) : ℕ :=
  numberOfBigInt (packet faultFlags step).timestampUs.toNat

/-- What the server knows after some arrivals. -/
structure Counted (faultFlags : ℕ → BitVec 32) (arrivals : List Arrival)
    (server : TelemetryServer capacity) : Prop where
  latest : server.sequence.latest = (arrivals.getLast?).map Arrival.step
  latestTimestampUs : server.latestTimestampUs =
    (arrivals.getLast?).map fun arrival => readTimestamp faultFlags arrival.step
  trackerLost : server.sequence.lost = (missing (arrivals.map Arrival.step)).card
  trackerReordered : server.sequence.reordered = 0
  lost : server.metrics.lost = (missing (arrivals.map Arrival.step)).card
  reordered : server.metrics.reordered = 0
  rejected : server.metrics.rejected = 0
  valid : server.metrics.valid = arrivals.length

/-- A fresh server has counted nothing. -/
lemma counted_nil : Counted faultFlags [] (TelemetryServer.fresh capacity) where
  latest := rfl
  latestTimestampUs := rfl
  trackerLost := rfl
  trackerReordered := rfl
  lost := rfl
  reordered := rfl
  rejected := rfl
  valid := rfl

/-- A packet of the run decodes. -/
lemma exists_sample [LawfulLibm] (hn : n ≤ 2 ^ 31) (hstep : arrival.step < n)
    (hpacket : arrival.datagram.packet =
      (Protocol.serialize (packet faultFlags arrival.step)).1) :
    ∃ sample, arrival.datagram.sample? = some sample ∧ sample.sequence = arrival.step ∧
      sample.timestampUs = readTimestamp faultFlags arrival.step := by
  obtain ⟨phase, hphase⟩ := @missionPhase_packet _ faultFlags arrival.step
  have hfinite : (packet faultFlags arrival.step).AllFinite := allFinite_packet (by omega)
  have hdecode := decodeTelemetry_serialize _ hphase hfinite arrival.datagram.receivedAtMs
  refine ⟨sampleOf (packet faultFlags arrival.step) phase arrival.datagram.receivedAtMs, ?_, ?_,
    rfl⟩
  · show (decodeTelemetry arrival.datagram.packet arrival.datagram.receivedAtMs).toOption = _
    rw [hpacket, hdecode]
    rfl
  · show (packet faultFlags arrival.step).sequence.toNat = arrival.step
    rw [sequence_packet, BitVec.toNat_ofNat]
    omega

/-- A later packet of the run does not meet the restart test. -/
lemma restarted_eq_false {server : TelemetryServer capacity} {sample : TelemetrySample}
    (h : Counted faultFlags arrivals server)
    (hlater : ∀ earlier ∈ arrivals, earlier.step < sample.sequence ∧
      readTimestamp faultFlags earlier.step ≤ sample.timestampUs)
    (hread : ∃ value, sample.timestampUs = numberOfBigInt value) :
    server.restarted sample = false := by
  obtain ⟨value, hvalue⟩ := hread
  unfold TelemetryServer.restarted TelemetryServer.sequenceRestarted
    TelemetryServer.simulationClockRestarted
  rw [h.latest, h.latestTimestampUs]
  cases hlast : arrivals.getLast? with
  | none => simp
  | some last =>
    obtain ⟨hstep, htime⟩ := hlater last (List.mem_of_getLast? hlast)
    have hclock : ¬numberAdd sample.timestampUs 1000000 < readTimestamp faultFlags last.step := by
      rw [hvalue] at htime ⊢
      exact not_lt.mpr (htime.trans (le_numberAdd value 1000000))
    have hnumber : (sample.sequence == 0) = false := by
      rw [beq_eq_false_iff_ne]
      omega
    simp [hnumber, hclock]

/-- The tracker counts the numbers skipped before one more packet. -/
lemma Counted.observe {server : TelemetryServer capacity} (h : Counted faultFlags arrivals server)
    (hordered : ((arrivals ++ [arrival]).map Arrival.step).Pairwise (· < ·))
    (hstep : arrival.step < 2 ^ 31) :
    server.sequence.observe arrival.step =
      { latest := some arrival.step
        lost := (missing ((arrivals ++ [arrival]).map Arrival.step)).card
        reordered := 0 } := by
  rw [List.map_append, List.map_singleton] at hordered ⊢
  have hlatest := h.latest
  rw [← List.getLast?_map] at hlatest
  cases hlast : (arrivals.map Arrival.step).getLast? with
  | none =>
    rw [hlast] at hlatest
    have hnil := List.getLast?_eq_none_iff.mp hlast
    rw [SequenceTracker.observe_first hlatest, h.trackerLost, h.trackerReordered, hnil,
      List.nil_append]
    simp [missing]
  | some last =>
    rw [hlast] at hlatest
    have hlt : last < arrival.step :=
      (List.pairwise_append.mp hordered).2.2 last (List.mem_of_getLast? hlast) _ (by simp)
    rw [SequenceTracker.observe_ahead hlatest hlt (by omega), h.trackerLost, h.trackerReordered,
      card_missing_concat hordered hlast]

/-- **One more arrival** is recorded without a restart. -/
lemma Counted.concat {server : TelemetryServer capacity} (h : Counted faultFlags arrivals server)
    (hordered : ((arrivals ++ [arrival]).map Arrival.step).Pairwise (· < ·))
    (hstep : arrival.step < 2 ^ 31) {sample : TelemetrySample}
    (hsample : arrival.datagram.sample? = some sample) (hsequence : sample.sequence = arrival.step)
    (htimestamp : sample.timestampUs = readTimestamp faultFlags arrival.step)
    (hclock : ∀ earlier ∈ arrivals,
      readTimestamp faultFlags earlier.step ≤ readTimestamp faultFlags arrival.step) :
    Counted faultFlags (arrivals ++ [arrival]) (server.acceptPacket arrival.datagram).1 ∧
      ∃ sample metrics, (server.acceptPacket arrival.datagram).2 = [.telemetry sample metrics] := by
  have hlater : ∀ earlier ∈ arrivals, earlier.step < sample.sequence ∧
      readTimestamp faultFlags earlier.step ≤ sample.timestampUs := by
    intro earlier hmem
    rw [List.map_append] at hordered
    rw [hsequence, htimestamp]
    exact ⟨(List.pairwise_append.mp hordered).2.2 _ (List.mem_map_of_mem hmem) _ (by simp),
      hclock earlier hmem⟩
  have hobserve := h.observe hordered hstep
  rw [TelemetryServer.acceptPacket_record server hsample
    (restarted_eq_false h hlater ⟨_, htimestamp⟩)]
  refine ⟨?_, _, _, rfl⟩
  constructor
  · simp [TelemetryServer.record, hsequence, hobserve]
  · simp [TelemetryServer.record, htimestamp]
  · simp only [TelemetryServer.record, hsequence, hobserve]
  · simp only [TelemetryServer.record, hsequence, hobserve]
  · simp only [TelemetryServer.record, hsequence, hobserve]
  · simp only [TelemetryServer.record, hsequence, hobserve]
  · exact h.rejected
  · simp only [TelemetryServer.record, h.valid, List.length_append, List.length_singleton]

/-- Any part of a run's arrivals from the first one on. -/
lemma Arrives.of_append {rest : List Arrival}
    (h : Arrives options faultFlags n (arrivals ++ rest)) :
    Arrives options faultFlags n arrivals where
  ordered := by
    have hordered := h.ordered
    rw [List.map_append] at hordered
    exact (List.pairwise_append.mp hordered).1
  sent arrival hmem := h.sent arrival (List.mem_append_left _ hmem)
  uncorrupted arrival hmem := h.uncorrupted arrival (List.mem_append_left _ hmem)

variable [LawfulLibm]

/-- **The server after the arrivals** of a run, and what it broadcast. -/
theorem counted_run (capacity : ℕ+) (hrun : Executes options faultFlags n) (hn : n ≤ 2 ^ 31)
    (h : Arrives options faultFlags n arrivals) :
    Counted faultFlags arrivals
        (TelemetryServer.run capacity (arrivals.map Arrival.datagram)) ∧
      ∀ message ∈ (TelemetryServer.fresh capacity).broadcasts (arrivals.map Arrival.datagram),
        ∃ sample metrics, message = .telemetry sample metrics := by
  induction arrivals using List.reverseRecOn with
  | nil => exact ⟨counted_nil, fun message hmem => absurd hmem (List.not_mem_nil)⟩
  | append_singleton arrivals arrival ih =>
    obtain ⟨hcounted, hbroadcasts⟩ := ih h.of_append
    have hmem : arrival ∈ arrivals ++ [arrival] := by simp
    obtain ⟨hstep, -⟩ := h.sent arrival hmem
    obtain ⟨sample, hsample, hsequence, htimestamp⟩ :=
      exists_sample hn hstep (h.uncorrupted arrival hmem)
    have hclock : ∀ earlier ∈ arrivals,
        readTimestamp faultFlags earlier.step ≤ readTimestamp faultFlags arrival.step := by
      intro earlier hearlier
      have hordered := h.ordered
      rw [List.map_append] at hordered
      have hlt : earlier.step < arrival.step :=
        (List.pairwise_append.mp hordered).2.2 _ (List.mem_map_of_mem hearlier) _ (by simp)
      exact Ieee754.monotone_roundNat (by decide) (timestampUs_le hrun hn hlt.le hstep)
    obtain ⟨hnext, telemetry, metrics, hbroadcast⟩ :=
      hcounted.concat h.ordered (by omega) hsample hsequence htimestamp hclock
    rw [List.map_append, List.map_singleton, TelemetryServer.run_concat,
      TelemetryServer.broadcasts_concat]
    refine ⟨hnext, fun message hmessage => ?_⟩
    rcases List.mem_append.mp hmessage with hearlier | hlast
    · exact hbroadcasts message hearlier
    · rw [hbroadcast, List.mem_singleton] at hlast
      exact ⟨telemetry, metrics, hlast⟩

/-- **The loss metric is exact.** Some packets of a run of fewer than `2 ^ 31` passes reach a
fresh server intact, once each and in order, whatever faults are set and whatever becomes of the
other packets. Then the server does not restart, nothing counts as late or undecodable, every
arrival counts as valid, and the packets counted as lost are those of the steps between the
first and the last arrival of which no packet arrived. -/
theorem lost_eq_missing (capacity : ℕ+) (hn : n < 2 ^ 31)
    (hrun : Executes options faultFlags n) (h : Arrives options faultFlags n arrivals) :
    (∀ message ∈ (TelemetryServer.fresh capacity).broadcasts (arrivals.map Arrival.datagram),
        ∀ metrics, message ≠ .reset metrics) ∧
      (TelemetryServer.run capacity (arrivals.map Arrival.datagram)).metrics.reordered = 0 ∧
      (TelemetryServer.run capacity (arrivals.map Arrival.datagram)).metrics.rejected = 0 ∧
      (TelemetryServer.run capacity (arrivals.map Arrival.datagram)).metrics.valid =
        arrivals.length ∧
      (TelemetryServer.run capacity (arrivals.map Arrival.datagram)).metrics.lost =
        (missing (arrivals.map Arrival.step)).card := by
  obtain ⟨hcounted, hbroadcasts⟩ := counted_run capacity hrun hn.le h
  refine ⟨fun message hmessage metrics hreset => ?_, hcounted.reordered, hcounted.rejected,
    hcounted.valid, hcounted.lost⟩
  obtain ⟨sample, metrics', htelemetry⟩ := hbroadcasts message hmessage
  rw [hreset] at htelemetry
  exact ServerMessage.noConfusion htelemetry

end Count

/-! ## A run with losses -/

open Simulation Binary64 FloatRounding

/-- A library whose lengths are the longer side and whose angles are zero. The first two seconds
of a flight never call it. -/
@[reducible] def coarseLibm : Libm where
  hypot x y := stdMax (stdMax x (-x)) (stdMax y (-y))
  atan2 _ _ := 0.0
  sin _ := 0.0

/-- The longer of two sides is half of the length or more, and at most the length. -/
lemma sqrt_le_two_mul_max (a b : ℝ) :
    √(a ^ 2 + b ^ 2) / 2 ≤ max |a| |b| ∧ max |a| |b| ≤ √(a ^ 2 + b ^ 2) := by
  have ha : |a| ^ 2 ≤ max |a| |b| ^ 2 := pow_le_pow_left₀ (abs_nonneg a) (le_max_left _ _) 2
  have hb : |b| ^ 2 ≤ max |a| |b| ^ 2 := pow_le_pow_left₀ (abs_nonneg b) (le_max_right _ _) 2
  have hnonneg : 0 ≤ max |a| |b| := (abs_nonneg a).trans (le_max_left _ _)
  rw [sq_abs] at ha hb
  constructor
  · rw [div_le_iff₀ (by norm_num), Real.sqrt_le_left (by positivity)]
    nlinarith
  · apply max_le
    · apply Real.le_sqrt_of_sq_le
      rw [sq_abs]
      exact le_add_of_nonneg_right (sq_nonneg b)
    · apply Real.le_sqrt_of_sq_le
      rw [sq_abs]
      exact le_add_of_nonneg_left (sq_nonneg a)

/-- The absolute value, as a maximum. -/
lemma val_stdMax_neg {x : Float} (hx : Below x 900) :
    Finite (stdMax x (-x)) ∧ val (stdMax x (-x)) = |val x| := by
  obtain ⟨hneg, hval⟩ := Bounded.neg hx (Scale.radius (by decide))
  refine ⟨(bounded_stdMax hx hneg).finite, ?_⟩
  rw [val_stdMax hx.finite hneg.finite, hval]
  rfl

/-- Coarse as it is, it keeps what the documentation promises. -/
lemma lawful_coarseLibm : @LawfulLibm coarseLibm := by
  let libm := coarseLibm
  constructor
  · intro x y hx hy
    obtain ⟨hfinite, hval⟩ := val_stdMax_neg hx
    obtain ⟨hfinite', hval'⟩ := val_stdMax_neg hy
    obtain ⟨hlow, hhigh⟩ := sqrt_le_two_mul_max (val x) (val y)
    have hlength : val (stdMax (stdMax x (-x)) (stdMax y (-y))) = max |val x| |val y| := by
      rw [val_stdMax hfinite hfinite', hval, hval']
    refine ⟨?_, hlow.trans hlength.ge, ?_⟩
    · show Finite (stdMax (stdMax x (-x)) (stdMax y (-y)))
      generalize stdMax x (-x) = a at hfinite ⊢
      unfold stdMax at hfinite' ⊢
      split_ifs at hfinite' ⊢
      · exact hfinite'
      · exact hfinite
      · exact hfinite'
      · exact hfinite
    · have hnonneg := Real.sqrt_nonneg (val x ^ 2 + val y ^ 2)
      exact hlength.le.trans (hhigh.trans (by linarith))
  · intro y x hy hx
    exact Bounded.mono (below_zero 2) (by norm_num)
  · intro x hx
    exact Bounded.mono (below_zero 0) (by norm_num)

/-- The packet-loss fault is on all the time. -/
def packetLoss : ℕ → BitVec 32 := fun _ => kPacketLoss

/-- Three packets that arrive, one every ten milliseconds. -/
def fewArrivals : List Arrival := @arrivalsOf coarseLibm packetLoss (10 * ·) [3, 8, 11]

/-- Of the steps between 3 and 11 only that of step 8 arrives: the packet of step 9 is not even
sent, and five more are lost. -/
theorem lost_eq_missing_fewArrivals :
    (TelemetryServer.run 4 (fewArrivals.map Arrival.datagram)).metrics.valid = 3 ∧
      (TelemetryServer.run 4 (fewArrivals.map Arrival.datagram)).metrics.lost = 6 := by
  let libm := coarseLibm
  have lawful := lawful_coarseLibm
  have hrun : Executes {} packetLoss 12 := by
    show ∀ i < 12, _
    decide +kernel
  have harrives : Arrives {} packetLoss 12 fewArrivals :=
    arrives_arrivalsOf (10 * ·) (by norm_num) (by decide) (by decide)
  have hmissing : (missing (fewArrivals.map Arrival.step)).card = 6 := by
    rw [fewArrivals, map_step_arrivalsOf]
    decide
  obtain ⟨-, -, -, hvalid, hlost⟩ := lost_eq_missing 4 (by norm_num) hrun harrives
  exact ⟨hvalid, hlost.trans hmissing⟩

end FlightDeck.System
