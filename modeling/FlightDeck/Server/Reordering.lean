import FlightDeck.Server.DecoderAgreement
import FlightDeck.Server.Segments

set_option relaxedAutoImplicit false
set_option autoImplicit false

/-!
# Reordering within one flight

The packets of one flight may arrive late, in another order or not at all. The restart test
looks for a packet that starts a new flight: packet 0 after another one, or a timestamp more
than a second before the latest one. A packet of the same flight that arrives less than a second
late can only meet its first half, and does so exactly if it is packet 0.

## Main definitions

* `Flight` — a flight of fewer than `2 ^ 31` packets, one every 10 milliseconds.
* `Arrivals` — packets of a flight in an order in which none is more than a second late.
* `Flight.Followed` — the server takes no packet of the flight for a new flight.

## Main results

* `Flight.restarted_iff` — the restart test on a flight that has not restarted so far.
* `followed_iff` — a flight is followed to its end exactly if packet 0 does not arrive after
  another packet.
-/

namespace FlightDeck.Server

open TelemetryServer

/-- The valid packets of a flight: packet `i` has sequence number `i` and is stamped
`10000 * (i + 1)` microseconds. -/
structure Flight (n : ℕ) where
  /-- The packet as it arrives. -/
  datagram : Fin n → Datagram
  /-- What it decodes to. -/
  sample : Fin n → TelemetrySample
  /-- Every packet is valid. -/
  decodes : ∀ i, (datagram i).sample? = some (sample i)
  /-- Packets are numbered from 0. -/
  sequence_eq : ∀ i, (sample i).sequence = i
  /-- A packet every 10 milliseconds. -/
  timestampUs_eq : ∀ i, (sample i).timestampUs = 10000 * (i + 1)
  /-- Sequence numbers stay in the lower half of their range. -/
  lt : n < 2 ^ 31

/-- A permutation of a subset of the packets of a flight in which no packet arrives after one
stamped more than one second later than itself. -/
structure Arrivals (n : ℕ) where
  /-- The packets that arrive, in order. -/
  order : List (Fin n)
  /-- No packet arrives twice. -/
  nodup : order.Nodup
  /-- No packet is more than a second late. -/
  punctual : order.Pairwise fun earlier later =>
    10000 * (earlier.val + 1) ≤ 10000 * (later.val + 1) + 1000000

/-- The message tells the dashboards to drop what they show. -/
def ServerMessage.isReset : ServerMessage → Bool
  | .reset _ => true
  | _ => false

section

variable {capacity : ℕ+} {n : ℕ} (flight : Flight n)

/-- The samples of arriving packets. -/
@[simp] lemma Flight.samples_map (order : List (Fin n)) :
    samples (order.map flight.datagram) = order.map flight.sample := by
  induction order with
  | nil => rfl
  | cons i order ih =>
    rw [List.map_cons, samples, List.filterMap_cons_some (flight.decodes i), ← samples, ih,
      List.map_cons]

/-- Adding a second to a timestamp of the flight is exact. -/
lemma Flight.numberAdd_timestampUs (i : Fin n) :
    numberAdd (flight.sample i).timestampUs 1000000 = 10000 * (i + 1) + 1000000 := by
  have hn := flight.lt
  have hi := i.isLt
  rw [flight.timestampUs_eq, numberAdd, Ieee754.roundNat_of_lt (by decide) (by omega)]

/-- **The restart test within a flight**: on a server that has followed the flight so far, a
punctual packet meets the restart test exactly if it is packet 0 and not the first one. -/
lemma Flight.restarted_iff {order : List (Fin n)} {i : Fin n} (hnodup : (order ++ [i]).Nodup)
    (hpunctual : ∀ earlier ∈ order,
      10000 * (earlier.val + 1) ≤ 10000 * (i.val + 1) + 1000000) :
    (plainRun capacity (order.map flight.datagram)).restarted (flight.sample i) = true ↔
      order ≠ [] ∧ i.val = 0 := by
  have hclock : (plainRun capacity (order.map flight.datagram)).simulationClockRestarted
      (flight.sample i) = false := by
    rw [simulationClockRestarted, plain_latestTimestampUs, flight.samples_map,
      flight.numberAdd_timestampUs]
    rcases List.eq_nil_or_concat order with rfl | ⟨before, last, rfl⟩
    · rfl
    · simpa [flight.timestampUs_eq] using hpunctual last (by simp)
  have hlatest : order ≠ [] → ∃ latest ∈ order,
      (plainRun capacity (order.map flight.datagram)).sequence.latest = some latest.val := by
    intro hne
    rw [plain_sequence, flight.samples_map, List.map_map]
    have hne' : order.map ((·.sequence) ∘ flight.sample) ≠ [] := by simpa using hne
    obtain ⟨latest, hmem, heq⟩ := SequenceTracker.exists_latest_foldl hne'
    obtain ⟨j, hj, rfl⟩ := List.mem_map.mp hmem
    exact ⟨j, hj, heq.trans (by simp [flight.sequence_eq])⟩
  rw [restarted, hclock, Bool.or_false, sequenceRestarted, flight.sequence_eq]
  rcases eq_or_ne order [] with rfl | hne
  · simp [plainRun, fresh]
  · obtain ⟨latest, hmem, heq⟩ := hlatest hne
    have hdiff : latest ≠ i := by
      rintro rfl
      exact (List.nodup_append.mp hnodup).2.2 latest hmem latest (by simp) rfl
    have hval : latest.val ≠ i.val := fun h => hdiff (Fin.ext h)
    rw [heq]
    simp only [Bool.and_eq_true, beq_iff_eq, bne_iff_ne, ne_eq, reduceCtorEq, not_false_eq_true,
      and_true, Option.some.injEq, hne, true_and]
    exact ⟨fun h => h.1, fun h => ⟨h, by omega⟩⟩

/-- A flight whose packet 0 does not come after another one is followed without a restart.

**Proof sketch.** Induction on the arrivals: the server has followed the earlier ones, and by
`restarted_iff` the last one does not meet the restart test. -/
lemma Flight.run_eq_plainRun (capacity : ℕ+) {order : List (Fin n)} (hnodup : order.Nodup)
    (hpunctual : order.Pairwise fun earlier later =>
      10000 * (earlier.val + 1) ≤ 10000 * (later.val + 1) + 1000000)
    (hzero : ∀ i ∈ order.tail, i.val ≠ 0) :
    run capacity (order.map flight.datagram) = plainRun capacity (order.map flight.datagram) ∧
      ∀ message ∈ (fresh capacity).broadcasts (order.map flight.datagram),
        message.isReset = false := by
  induction order using List.reverseRecOn with
  | nil => exact ⟨rfl, by simp [broadcasts]⟩
  | append_singleton order i ih =>
    have hpunctual' := List.pairwise_append.mp hpunctual
    have htail : ∀ j ∈ order.tail, j.val ≠ 0 := fun j hj =>
      hzero j (by cases order <;> simp_all)
    obtain ⟨hrun, hbroadcasts⟩ := ih (List.nodup_append.mp hnodup).1 hpunctual'.1 htail
    have hrestarted : (run capacity (order.map flight.datagram)).restarted (flight.sample i) =
        false := by
      rw [← Bool.not_eq_true, hrun,
        flight.restarted_iff hnodup fun earlier hmem => hpunctual'.2.2 earlier hmem i (by simp)]
      rintro ⟨hne, hi⟩
      exact hzero i (by cases order <;> simp_all) hi
    have haccept := acceptPacket_record _ (flight.decodes i) hrestarted
    rw [List.map_append, List.map_singleton, run_concat, broadcasts_concat, haccept]
    refine ⟨?_, ?_⟩
    · rw [plainRun, List.foldl_concat, plain, flight.decodes i, ← plainRun, hrun]
    · intro message hmem
      rcases List.mem_append.mp hmem with hold | hnew
      · exact hbroadcasts message hold
      · rw [List.mem_singleton.mp hnew]
        rfl

/-- A packet 0 that comes after another one makes the server broadcast a reset. -/
lemma Flight.exists_isReset (capacity : ℕ+) {order : List (Fin n)} (hnodup : order.Nodup)
    (hpunctual : order.Pairwise fun earlier later =>
      10000 * (earlier.val + 1) ≤ 10000 * (later.val + 1) + 1000000)
    {i : Fin n} (hmem : i ∈ order.tail) (hi : i.val = 0) :
    ∃ message ∈ (fresh capacity).broadcasts (order.map flight.datagram),
      message.isReset = true := by
  obtain ⟨first, rest, rfl⟩ : ∃ first rest, order = first :: rest := by
    cases order with
    | nil => simp at hmem
    | cons first rest => exact ⟨first, rest, rfl⟩
  obtain ⟨between, after, rfl⟩ := List.append_of_mem (show i ∈ rest from hmem)
  have horder : first :: (between ++ i :: after) = (first :: between ++ [i]) ++ after := by simp
  rw [horder] at hnodup hpunctual ⊢
  have hnodup' := (List.nodup_append.mp hnodup).1
  have hpunctual' := (List.pairwise_append.mp hpunctual).1
  have hlast := (List.pairwise_append.mp hpunctual').2.2
  -- Packet 0 has not arrived before, so nothing has restarted the server yet.
  have hzero : ∀ j ∈ (first :: between).tail, j.val ≠ 0 := by
    intro j hj hval
    obtain rfl : j = i := Fin.ext (hval.trans hi.symm)
    exact (List.nodup_append.mp hnodup').2.2 j (List.mem_cons_of_mem _ hj) j (by simp) rfl
  have hrun := (flight.run_eq_plainRun capacity (List.nodup_append.mp hnodup').1
    (List.pairwise_append.mp hpunctual').1 hzero).1
  have hrestarted : (run capacity ((first :: between).map flight.datagram)).restarted
      (flight.sample i) = true := by
    rw [hrun, flight.restarted_iff hnodup' fun earlier hmem => hlast earlier hmem i (by simp)]
    exact ⟨by simp, hi⟩
  refine ⟨.reset (fresh capacity).metrics, ?_, rfl⟩
  rw [List.map_append, List.map_append, List.map_singleton, broadcasts_append, broadcasts_concat,
    acceptPacket_restart _ (flight.decodes i) hrestarted]
  simp

/-- What a server that never takes a packet of the flight for a new flight does with the
arrivals: it broadcasts no reset, counts every packet as valid and, with enough capacity, holds
all of them. -/
def Flight.Followed (flight : Flight n) (capacity : ℕ+) (arrivals : Arrivals n) : Prop :=
  (∀ message ∈ (fresh capacity).broadcasts (arrivals.order.map flight.datagram),
    message.isReset = false) ∧
  (run capacity (arrivals.order.map flight.datagram)).metrics.valid = arrivals.order.length ∧
  (arrivals.order.length ≤ capacity →
    (run capacity (arrivals.order.map flight.datagram)).history.toArray =
      arrivals.order.map flight.sample)

/-- **When reordering looks like a new flight**: a fresh server follows punctual arrivals of one
flight if and only if packet 0 does not arrive after another packet.

**Proof sketch.** While packet 0 has not come late the server follows the flight
(`run_eq_plainRun`), and its state is that of a run without restart. A late packet 0 meets the
restart test (`exists_isReset`). -/
theorem followed_iff (capacity : ℕ+) {n : ℕ} (flight : Flight n) (arrivals : Arrivals n) :
    flight.Followed capacity arrivals ↔ ∀ i ∈ arrivals.order.tail, i.val ≠ 0 := by
  constructor
  · rintro ⟨hbroadcasts, -, -⟩ i hmem hi
    obtain ⟨message, hmessage, hreset⟩ := flight.exists_isReset capacity arrivals.nodup
      arrivals.punctual hmem hi
    rw [hbroadcasts message hmessage] at hreset
    cases hreset
  · intro hzero
    obtain ⟨hrun, hbroadcasts⟩ := flight.run_eq_plainRun capacity arrivals.nodup
      arrivals.punctual hzero
    refine ⟨hbroadcasts, ?_, fun hcapacity => ?_⟩
    · simp [hrun, plain_metrics]
    · rw [hrun, plain_history, flight.samples_map, Window.rtake_of_length_le (by simpa)]

end

/-! ## A late first packet -/

/-- Packet `i` of a vehicle that stays on the pad. -/
def padPacket (i : ℕ) : Protocol.Telemetry where
  sequence := BitVec.ofNat 32 i
  timestampUs := BitVec.ofNat 64 (10000 * (i + 1))

/-- The numbers of a vehicle on the pad are finite. -/
lemma allFinite_padPacket (i : ℕ) : (padPacket i).AllFinite := by
  refine ⟨fun d hd => ?_, fun f hf => ?_⟩
  · have hzero : d = 0 := by
      simpa [Protocol.Telemetry.doubles, padPacket] using hd
    rw [hzero]
    decide
  · have hvalue : f = 0 ∨ f = 0x3F800000#32 := by
      simpa [Protocol.Telemetry.floats, padPacket, or_comm] using hf
    rcases hvalue with rfl | rfl <;> decide

/-- Packet `i` on the pad is decoded. -/
lemma sample?_padPacket (i : ℕ) : Datagram.sample? ⟨Protocol.serialize (padPacket i), 0⟩ =
    some (sampleOf (padPacket i) .prelaunch 0) := by
  have hphase : MissionPhase.prelaunch.toNat = (padPacket i).missionPhase.value.toNat := rfl
  rw [Datagram.sample?, Datagram.decode,
    decodeTelemetry_serialize _ hphase (allFinite_padPacket i)]
  rfl

/-- Its sequence number. -/
lemma sequence_padPacket {i : ℕ} (hi : i < 2 ^ 31) :
    (sampleOf (padPacket i) .prelaunch 0).sequence = i := by
  simp only [sampleOf, padPacket]
  rw [BitVec.toNat_ofNat, Nat.mod_eq_of_lt (by omega)]

/-- Its timestamp. -/
lemma timestampUs_padPacket {i : ℕ} (hi : i < 2 ^ 31) :
    (sampleOf (padPacket i) .prelaunch 0).timestampUs = 10000 * (i + 1) := by
  simp only [sampleOf, padPacket]
  rw [BitVec.toNat_ofNat, Nat.mod_eq_of_lt (by omega), numberOfBigInt,
    Ieee754.roundNat_of_lt (by decide) (by omega)]

/-- A flight of a vehicle that stays on the pad. -/
def padFlight (n : ℕ) (hn : n < 2 ^ 31) : Flight n where
  datagram i := ⟨Protocol.serialize (padPacket i), 0⟩
  sample i := sampleOf (padPacket i) .prelaunch 0
  decodes i := sample?_padPacket i
  sequence_eq i := sequence_padPacket (i.isLt.trans hn)
  timestampUs_eq i := timestampUs_padPacket (i.isLt.trans hn)
  lt := hn

/-- Packets 0 and 1 in the wrong order, ten milliseconds apart. -/
def swappedStart : Arrivals 2 where
  order := [1, 0]
  nodup := by decide
  punctual := by decide

/-- Packet 1 arriving before packet 0 resets every dashboard. -/
theorem not_followed_swappedStart :
    ¬ (padFlight 2 (by decide)).Followed 10 swappedStart := by
  rintro ⟨hbroadcasts, -, -⟩
  obtain ⟨message, hmessage, hreset⟩ := (padFlight 2 (by decide)).exists_isReset 10
    swappedStart.nodup swappedStart.punctual (show (0 : Fin 2) ∈ [1, 0].tail by decide) rfl
  rw [hbroadcasts message hmessage] at hreset
  cases hreset

end FlightDeck.Server
