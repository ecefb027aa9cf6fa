import FlightDeck.Generator.SimulatorProcess
import FlightDeck.Server.Corruption
import FlightDeck.System.FlightOnScreen
import FlightDeck.System.LossMetric
import FlightDeck.System.LossTracking

set_option relaxedAutoImplicit false
set_option autoImplicit false

/-!
# The path of a packet

From the simulator's loop through its transmitter and the network to a receiver. The main thread
and the worker interleave in any way, the queue may be full, sending may fail, two of the three
faults and `--corrupt-once` do what they do, and the network may lose any datagram that it was
handed. A receiver that was there from the start can still tell, from what arrives, how many
passes it has heard nothing of; what it records is what was simulated. The server and the
stand-alone receiver count the same.

## Main definitions

* `Reaches` — packets of a run that arrive once each and in order.
* `damage` — the bit that `--corrupt-once` flips.
* `isIntact` — the pass whose packet is not damaged.

## Main results

* `rejected_damaged` — both decoders refuse the damaged packet.
* `Reaches.segment_eq` — the server takes the arrivals for one flight.
* `packet_path` — from the process to the receivers.
-/

namespace FlightDeck.System

open ByteCodec Protocol Generator Simulator Server

/-! ## The damaged packet -/

/-- The bit that `--corrupt-once` flips. -/
def damage : List Byte := Simulator.corrupt (List.replicate kTelemetryPacketSize 0#8)

lemma length_damage : damage.length = kTelemetryPacketSize := by
  rw [damage, Simulator.corrupt, List.length_modify, List.length_replicate]

/-- The loop flips the bits of that pattern. -/
lemma corrupt_eq {packet : List Byte} (h : packet.length = kTelemetryPacketSize) :
    Simulator.corrupt packet = Server.corrupt packet damage := by
  apply List.ext_getElem
  · rw [Simulator.corrupt, Server.corrupt, List.length_modify, List.length_zipWith, length_damage,
      h, Nat.min_self]
  · intro i hi hi'
    simp only [Simulator.corrupt, Server.corrupt, damage, List.getElem_modify,
      List.getElem_zipWith, List.getElem_replicate]
    split
    · rw [BitVec.zero_xor]
    · rw [BitVec.xor_zero]

/-- It is a single bit. -/
lemma detectable_damage : Detectable damage := Or.inr (Or.inl (by decide +kernel))

/-- **Both decoders refuse the damaged packet.** -/
lemma rejected_damaged (t : Telemetry) :
    (deserialize (Simulator.corrupt (serialize t))).error ≠ .none ∧
      ∀ receivedAtMs,
        (decodeTelemetry (Simulator.corrupt (serialize t)) receivedAtMs).toOption = none := by
  have hsize : (Simulator.corrupt (serialize t)).length = kTelemetryPacketSize := by
    rw [Simulator.corrupt, List.length_modify]
    exact (serialize t).2
  have hmismatch : u32.decode (slice kCrcOffset 4 (Simulator.corrupt (serialize t))) ≠
      Protocol.crc32 ((Simulator.corrupt (serialize t)).take kCrcOffset) := by
    rw [corrupt_eq (serialize t).2]
    exact fun haccepted => detectable_ne_register length_damage detectable_damage
      (register_of_accepted length_damage haccepted)
  constructor
  · rw [deserialize_eq _ hsize]
    split_ifs <;> simp
  · intro receivedAtMs
    rw [decodeTelemetry_eq _ hsize, if_pos hmismatch]
    split_ifs <;> rfl

/-- The decoder of the generator reads what the encoder wrote. -/
lemma deserialize_serialize (t : Telemetry) :
    deserialize (serialize t) = { telemetry := t, error := .none } := by
  obtain ⟨hsize, hmagic, hversion, hfields, hcrc⟩ := (eq_serialize_iff (serialize t) t).mp rfl
  have htake := take_eq_checkedBytes _ hsize hmagic hversion
  rw [deserialize_eq _ hsize, if_neg (not_not.mpr hmagic), if_neg (not_not.mpr hversion), htake,
    hfields, if_neg (not_not.mpr hcrc)]

/-! ## The restart test -/

section Restarts

open TelemetryServer

variable {capacity : ℕ+}

/-- The restart test does not read the two counters of undecodable datagrams. -/
lemma meetsRestartTest_congr {server server' : TelemetryServer capacity}
    (h : server.withoutRejects = server'.withoutRejects) (datagram : Datagram) :
    server.meetsRestartTest datagram = server'.meetsRestartTest datagram := by
  have hread : ∀ server : TelemetryServer capacity,
      server.meetsRestartTest datagram = server.withoutRejects.meetsRestartTest datagram :=
    fun _ => rfl
  rw [hread, h, ← hread]

/-- The latest timestamp is that of the last sample, whatever came before. -/
lemma latestTimestampUs_run (capacity : ℕ+) (datagrams : List Datagram) :
    (run capacity datagrams).latestTimestampUs =
      (samples datagrams).getLast?.map (·.timestampUs) := by
  induction datagrams using List.reverseRecOn with
  | nil => rfl
  | append_singleton datagrams datagram ih =>
    rw [run_concat, samples_concat]
    cases hsample : datagram.sample? with
    | none =>
      rw [acceptPacket_reject _ hsample, Option.toList_none, List.append_nil]
      exact ih
    | some sample =>
      rw [Option.toList_some, List.getLast?_append, List.getLast?_singleton]
      cases hrestarted : (run capacity datagrams).restarted sample with
      | true =>
        rw [acceptPacket_restart _ hsample hrestarted]
        rfl
      | false =>
        rw [acceptPacket_record _ hsample hrestarted]
        rfl

/-- The samples are those of the datagrams that decode. -/
lemma samples_filter (datagrams : List Datagram) :
    samples (datagrams.filter (·.sample?.isSome)) = samples datagrams := by
  induction datagrams using List.reverseRecOn with
  | nil => rfl
  | append_singleton datagrams datagram ih =>
    rw [List.filter_append, samples_concat, samples, List.filterMap_append, ← samples, ih]
    cases hsample : datagram.sample? <;> simp [hsample]

/-- But for the two counters a server is as one that was sent only what decodes of the segment. -/
lemma withoutRejects_of_filter_segment {datagrams datagrams' : List Datagram}
    (h : (segment capacity datagrams).filter (·.sample?.isSome) =
      datagrams'.filter (·.sample?.isSome)) :
    (run capacity datagrams).withoutRejects = (run capacity datagrams').withoutRejects := by
  rw [run_eq_run_segment, withoutRejects_run_filter, h, ← withoutRejects_run_filter]

end Restarts

/-! ## Arrivals -/

/-- The packet of the pass is sent as it was encoded. -/
def isIntact (options : Options) (step : ℕ) : Bool := !(options.corruptOnce && step + 1 == 250)

section Arrivals

variable [Libm] {options : Options} {faultFlags : ℕ → BitVec 32} {n : ℕ}

/-- What a pass sends. -/
lemma of_sent {i : ℕ} {bytes : List Byte} (hi : i < 2 ^ 31)
    (h : sent options faultFlags i = some bytes) :
    bytes = if isIntact options i then (serialize (packet faultFlags i)).1
      else Simulator.corrupt (serialize (packet faultFlags i)).1 := by
  have hcount : ((after faultFlags (i + 1)).stepCount == 250) = (i + 1 == 250) := by
    rw [stepCount_after]
    exact ofNat_beq_ofNat (by omega) (by norm_num)
  change (if _ then none else some (if options.corruptOnce &&
    (after faultFlags (i + 1)).stepCount == 250 then
      Simulator.corrupt (serialize (packet faultFlags i)).1
    else (serialize (packet faultFlags i)).1)) = some bytes at h
  rw [hcount] at h
  rw [isIntact]
  split at h
  · cases h
  · obtain rfl := Option.some_inj.mp h
    cases options.corruptOnce && i + 1 == 250 <;> rfl

/-- Some of the packets of `n` passes reach a receiver. -/
structure Reaches (options : Options) (faultFlags : ℕ → BitVec 32) (n : ℕ)
    (arrivals : List Arrival) : Prop where
  /-- Once each and in order. -/
  ordered : (arrivals.map Arrival.step).Pairwise (· < ·)
  /-- Each was given to the transmitter in one of the passes. -/
  sent : ∀ arrival ∈ arrivals, arrival.step < n ∧
    sent options faultFlags arrival.step = some arrival.datagram.packet

omit [Libm] in
/-- Datagrams that were sent in some steps, each with its step. -/
lemma exists_arrivals {send : ℕ → Option (List Byte)} {steps : List ℕ}
    {datagrams : List Datagram} (h : datagrams.map Datagram.packet = steps.filterMap send) :
    ∃ arrivals : List Arrival, (arrivals.map Arrival.step).Sublist steps ∧
      arrivals.map Arrival.datagram = datagrams ∧
        ∀ arrival ∈ arrivals, send arrival.step = some arrival.datagram.packet := by
  induction steps generalizing datagrams with
  | nil =>
    obtain rfl : datagrams = [] := List.map_eq_nil_iff.mp h
    exact ⟨[], List.Sublist.refl _, rfl, fun arrival hmem => absurd hmem List.not_mem_nil⟩
  | cons step steps ih =>
    cases hstep : send step with
    | none =>
      rw [List.filterMap_cons_none hstep] at h
      obtain ⟨arrivals, hsteps, hdatagrams, hsent⟩ := ih h
      exact ⟨arrivals, hsteps.cons step, hdatagrams, hsent⟩
    | some bytes =>
      rw [List.filterMap_cons_some hstep] at h
      obtain ⟨datagram, rest, rfl, hbytes, hrest⟩ := List.map_eq_cons_iff.mp h
      obtain ⟨arrivals, hsteps, hdatagrams, hsent⟩ := ih hrest
      refine ⟨⟨step, datagram⟩ :: arrivals, hsteps.cons_cons step, ?_, ?_⟩
      · rw [List.map_cons, hdatagrams]
      · intro arrival hmem
        rcases List.mem_cons.mp hmem with rfl | hmem
        · rw [hstep, hbytes]
        · exact hsent arrival hmem

/-- Datagrams that are some of those sent are packets that arrive. -/
lemma exists_reaches {datagrams : List Datagram} (h : (datagrams.map Datagram.packet).Sublist
    ((List.range n).filterMap (Simulator.sent options faultFlags))) :
    ∃ arrivals, Reaches options faultFlags n arrivals ∧
      arrivals.map Arrival.datagram = datagrams := by
  obtain ⟨steps, hrange, hpackets⟩ := List.sublist_filterMap_iff.mp h
  obtain ⟨arrivals, hsteps, hdatagrams, hsent⟩ := exists_arrivals hpackets
  have hsublist := hsteps.trans hrange
  refine ⟨arrivals, ⟨List.pairwise_lt_range.sublist hsublist, fun arrival hmem => ⟨?_, ?_⟩⟩,
    hdatagrams⟩
  · exact List.mem_range.mp (hsublist.mem (List.mem_map_of_mem hmem))
  · exact hsent arrival hmem

/-- The arrivals whose packet is not damaged. -/
def intact (options : Options) (arrivals : List Arrival) : List Arrival :=
  arrivals.filter fun arrival => isIntact options arrival.step

omit [Libm] in
lemma intact_concat (arrivals : List Arrival) (arrival : Arrival) :
    intact options (arrivals ++ [arrival]) =
      intact options arrivals ++ if isIntact options arrival.step then [arrival] else [] := by
  rw [intact, List.filter_append, List.filter_singleton, Bool.cond_eq_ite]
  rfl

variable {arrivals rest : List Arrival} {arrival : Arrival}

/-- Any part of the arrivals from the first one on. -/
lemma Reaches.of_append (h : Reaches options faultFlags n (arrivals ++ rest)) :
    Reaches options faultFlags n arrivals where
  ordered := by
    have hordered := h.ordered
    rw [List.map_append] at hordered
    exact (List.pairwise_append.mp hordered).1
  sent arrival hmem := h.sent arrival (List.mem_append_left _ hmem)

/-- The packets that are not damaged. -/
lemma Reaches.arrives (hn : n ≤ 2 ^ 31) (h : Reaches options faultFlags n arrivals) :
    Arrives options faultFlags n (intact options arrivals) where
  ordered := h.ordered.sublist (List.filter_sublist.map _)
  sent arrival hmem := h.sent arrival (List.mem_filter.mp hmem).1
  uncorrupted arrival hmem := by
    obtain ⟨hmem, hintact⟩ := List.mem_filter.mp hmem
    obtain ⟨hstep, hsent⟩ := h.sent arrival hmem
    rw [of_sent (by omega) hsent, if_pos hintact]

/-- At most one packet is damaged. -/
lemma Reaches.length_intact (h : Reaches options faultFlags n arrivals) :
    (intact options arrivals).length +
        (if options.corruptOnce ∧ 249 ∈ arrivals.map Arrival.step then 1 else 0) =
      arrivals.length := by
  have hsplit := List.length_eq_length_filter_add (l := arrivals)
    fun arrival => isIntact options arrival.step
  have hdamaged : (arrivals.filter fun arrival => !isIntact options arrival.step).length =
      if options.corruptOnce ∧ 249 ∈ arrivals.map Arrival.step then 1 else 0 := by
    have hnodup : (arrivals.map Arrival.step).Nodup := h.ordered.imp fun hlt => hlt.ne
    cases hcorrupt : options.corruptOnce with
    | false =>
      rw [if_neg fun h => Bool.false_ne_true h.1, List.length_eq_zero_iff, List.filter_eq_nil_iff]
      intro arrival _
      simp [isIntact, hcorrupt]
    | true =>
      have hcount : (arrivals.filter fun arrival => !isIntact options arrival.step).length =
          (arrivals.map Arrival.step).count 249 := by
        rw [← List.countP_eq_length_filter, List.count, List.countP_map]
        refine List.countP_congr fun arrival _ => ?_
        simp [isIntact, hcorrupt]
      rw [hcount]
      split_ifs with hmem
      · exact List.count_eq_one_of_mem hnodup hmem.2
      · exact List.count_eq_zero.mpr fun hmem' => hmem ⟨rfl, hmem'⟩
  unfold intact
  omega

variable [LawfulLibm]

/-- What the decoders make of an intact packet. -/
lemma exists_sample_agrees (hn : n ≤ 2 ^ 31) (hstep : arrival.step < n)
    (hpacket : arrival.datagram.packet =
      (Protocol.serialize (packet faultFlags arrival.step)).1) :
    ∃ sample, arrival.datagram.sample? = some sample ∧
      Server.Agrees (packet faultFlags arrival.step) sample ∧ sample.sequence = arrival.step ∧
      sample.timestampUs = readTimestamp faultFlags arrival.step := by
  obtain ⟨phase, hphase⟩ := @missionPhase_packet _ faultFlags arrival.step
  have hfinite : (packet faultFlags arrival.step).AllFinite := allFinite_packet (by omega)
  obtain ⟨sample, hsample, hsequence, htimestamp⟩ := exists_sample hn hstep hpacket
  refine ⟨sample, hsample, ?_, hsequence, htimestamp⟩
  have hdecode := decodeTelemetry_serialize _ hphase hfinite arrival.datagram.receivedAtMs
  have hsome : arrival.datagram.sample? =
      some (sampleOf (packet faultFlags arrival.step) phase arrival.datagram.receivedAtMs) := by
    show (decodeTelemetry arrival.datagram.packet arrival.datagram.receivedAtMs).toOption = _
    rw [hpacket, hdecode]
    rfl
  rw [hsample] at hsome
  rw [Option.some_inj.mp hsome]
  exact agrees_sampleOf _ hfinite phase hphase _

/-- An arrival decodes exactly if it is intact. -/
lemma Reaches.isSome_iff (hn : n ≤ 2 ^ 31) (h : Reaches options faultFlags n arrivals)
    (hmem : arrival ∈ arrivals) :
    arrival.datagram.sample?.isSome = isIntact options arrival.step := by
  obtain ⟨hstep, hsent⟩ := h.sent arrival hmem
  have hpacket := of_sent (by omega) hsent
  cases hintact : isIntact options arrival.step with
  | true =>
    rw [hintact, if_pos rfl] at hpacket
    obtain ⟨sample, hsample, -⟩ := exists_sample hn hstep hpacket
    rw [hsample]
    rfl
  | false =>
    rw [hintact, if_neg Bool.false_ne_true] at hpacket
    have hnone : arrival.datagram.sample? = none := by
      show (decodeTelemetry arrival.datagram.packet arrival.datagram.receivedAtMs).toOption = _
      rw [hpacket]
      exact (rejected_damaged _).2 _
    rw [hnone]
    rfl

/-- The datagrams that decode. -/
lemma Reaches.filter_isSome (hn : n ≤ 2 ^ 31) (h : Reaches options faultFlags n arrivals) :
    (arrivals.map Arrival.datagram).filter (·.sample?.isSome) =
      (intact options arrivals).map Arrival.datagram := by
  rw [List.filter_map, intact]
  exact congrArg _ (List.filter_congr fun arrival hmem => h.isSome_iff hn hmem)

/-- But for two counters the server is as if the damaged packet had not arrived. -/
lemma Reaches.withoutRejects_eq (capacity : ℕ+) (hn : n ≤ 2 ^ 31)
    (h : Reaches options faultFlags n arrivals) :
    (TelemetryServer.run capacity (arrivals.map Arrival.datagram)).withoutRejects =
      (TelemetryServer.run capacity
        ((intact options arrivals).map Arrival.datagram)).withoutRejects := by
  rw [TelemetryServer.withoutRejects_run_filter, h.filter_isSome hn]

/-- As long as only the damaged packet has arrived, the server knows what it knew. -/
lemma Reaches.withoutRejects_append (capacity : ℕ+) (hn : n ≤ 2 ^ 31)
    (h : Reaches options faultFlags n arrivals) (hunheard : intact options arrivals = [])
    (before : List Datagram) :
    (TelemetryServer.run capacity (before ++ arrivals.map Arrival.datagram)).withoutRejects =
      (TelemetryServer.run capacity before).withoutRejects := by
  rw [TelemetryServer.withoutRejects_run_filter, List.filter_append, h.filter_isSome hn, hunheard,
    List.map_nil, List.append_nil, ← TelemetryServer.withoutRejects_run_filter]

/-- The sample of an intact packet. -/
lemma Reaches.exists_sample_of_intact (hn : n ≤ 2 ^ 31)
    (h : Reaches options faultFlags n arrivals) (hmem : arrival ∈ arrivals)
    (hintact : isIntact options arrival.step = true) :
    ∃ sample, arrival.datagram.sample? = some sample ∧ sample.sequence = arrival.step ∧
      sample.timestampUs = readTimestamp faultFlags arrival.step := by
  obtain ⟨hstep, hsent⟩ := h.sent arrival hmem
  have hpacket := of_sent (by omega) hsent
  rw [if_pos hintact] at hpacket
  exact exists_sample hn hstep hpacket

/-- The timestamp of the last intact packet. -/
lemma Reaches.getLast?_samples (hn : n ≤ 2 ^ 31) (h : Reaches options faultFlags n arrivals) :
    (TelemetryServer.samples (arrivals.map Arrival.datagram)).getLast?.map (·.timestampUs) =
      (intact options arrivals).getLast?.map fun arrival =>
        readTimestamp faultFlags arrival.step := by
  induction arrivals using List.reverseRecOn with
  | nil => rfl
  | append_singleton arrivals arrival ih =>
    have hmem : arrival ∈ arrivals ++ [arrival] := by simp
    rw [List.map_append, List.map_singleton, TelemetryServer.samples_concat, intact_concat]
    cases hintact : isIntact options arrival.step with
    | true =>
      obtain ⟨sample, hsample, -, htime⟩ := h.exists_sample_of_intact hn hmem hintact
      rw [hsample, if_pos rfl, Option.toList_some, List.getLast?_append, List.getLast?_append,
        List.getLast?_singleton, List.getLast?_singleton]
      exact congrArg some htime
    | false =>
      have hnone := h.isSome_iff hn hmem
      rw [hintact, Option.isSome_eq_false_iff, Option.isNone_iff_eq_none] at hnone
      rw [hnone, if_neg Bool.false_ne_true, Option.toList_none, List.append_nil,
        List.append_nil]
      exact ih h.of_append

/-- **Only the first intact packet of a flight may meet the restart test**: a later one is not
number 0, and its timestamp is not smaller. -/
lemma Reaches.meetsRestartTest_append_eq_false (capacity : ℕ+)
    (hrun : Executes options faultFlags n) (hn : n ≤ 2 ^ 31)
    (h : Reaches options faultFlags n (arrivals ++ [arrival]))
    (hheard : intact options arrivals ≠ []) (before : List Datagram) :
    (TelemetryServer.run capacity
      (before ++ arrivals.map Arrival.datagram)).meetsRestartTest arrival.datagram = false := by
  have hmem : arrival ∈ arrivals ++ [arrival] := by simp
  cases hsample : arrival.datagram.sample? with
  | none => rw [TelemetryServer.meetsRestartTest, hsample, Option.any_none]
  | some sample =>
    have hintact : isIntact options arrival.step = true := by
      rw [← h.isSome_iff hn hmem, hsample]
      rfl
    obtain ⟨sample', hsample', hsequence, htime⟩ := h.exists_sample_of_intact hn hmem hintact
    obtain rfl : sample = sample' := Option.some_inj.mp (hsample.symm.trans hsample')
    -- The last intact packet before it.
    have hlastMem := List.getLast_mem hheard
    have hearlier := (List.mem_filter.mp hlastMem).1
    have hordered := h.ordered
    rw [List.map_append] at hordered
    have hlt : ((intact options arrivals).getLast hheard).step < arrival.step :=
      (List.pairwise_append.mp hordered).2.2 _ (List.mem_map_of_mem hearlier) _ (by simp)
    have hlatest : (TelemetryServer.run capacity
        (before ++ arrivals.map Arrival.datagram)).latestTimestampUs =
          some (readTimestamp faultFlags ((intact options arrivals).getLast hheard).step) := by
      have hsamples := h.of_append.getLast?_samples hn
      rw [List.getLast?_eq_some_getLast hheard, Option.map_some] at hsamples
      obtain ⟨last, hlast, htime'⟩ := Option.map_eq_some_iff.mp hsamples
      rw [latestTimestampUs_run, TelemetryServer.samples, List.filterMap_append,
        List.getLast?_append, ← TelemetryServer.samples, ← TelemetryServer.samples, hlast,
        Option.some_or, Option.map_some, htime']
    have hle : readTimestamp faultFlags ((intact options arrivals).getLast hheard).step ≤
        readTimestamp faultFlags arrival.step :=
      Ieee754.monotone_roundNat (by decide) (timestampUs_le hrun hn hlt.le (h.sent _ hmem).1)
    have hlater := hle.trans
      (le_numberAdd (packet faultFlags arrival.step).timestampUs.toNat 1000000)
    rw [TelemetryServer.meetsRestartTest, hsample, Option.any_some, TelemetryServer.restarted,
      Bool.or_eq_false_iff]
    constructor
    · rw [TelemetryServer.sequenceRestarted, hsequence, beq_eq_false_iff_ne.mpr (by omega)]
      rfl
    · rw [TelemetryServer.simulationClockRestarted, hlatest]
      exact decide_eq_false (by rw [htime]; exact not_lt.mpr hlater)

/-- The restart test is not met by a flight that nothing comes before. -/
lemma Reaches.meetsRestartTest_eq_false (capacity : ℕ+) (hrun : Executes options faultFlags n)
    (hn : n ≤ 2 ^ 31) (h : Reaches options faultFlags n (arrivals ++ [arrival])) :
    (TelemetryServer.run capacity (arrivals.map Arrival.datagram)).meetsRestartTest
      arrival.datagram = false := by
  by_cases hheard : intact options arrivals = []
  · have hsame := h.of_append.withoutRejects_append capacity hn hheard []
    rw [List.nil_append] at hsame
    rw [meetsRestartTest_congr hsame]
    exact TelemetryServer.meetsRestartTest_fresh capacity _
  · exact h.meetsRestartTest_append_eq_false capacity hrun hn hheard []

/-- **The server takes the arrivals for one flight**, and tells its clients of no other. -/
lemma Reaches.segment_eq (capacity : ℕ+) (hrun : Executes options faultFlags n) (hn : n ≤ 2 ^ 31)
    (h : Reaches options faultFlags n arrivals) :
    TelemetryServer.segment capacity (arrivals.map Arrival.datagram) =
        arrivals.map Arrival.datagram ∧
      ∀ message ∈ (TelemetryServer.fresh capacity).broadcasts (arrivals.map Arrival.datagram),
        ∀ metrics, message ≠ .reset metrics := by
  induction arrivals using List.reverseRecOn with
  | nil => exact ⟨rfl, fun message hmem => absurd hmem List.not_mem_nil⟩
  | append_singleton arrivals arrival ih =>
    obtain ⟨hsegment, hbroadcasts⟩ := ih h.of_append
    have hmeets := h.meetsRestartTest_eq_false capacity hrun hn
    rw [List.map_append, List.map_singleton, TelemetryServer.segment_concat, hmeets, hsegment,
      TelemetryServer.broadcasts_concat]
    refine ⟨rfl, fun message hmessage metrics => ?_⟩
    rcases List.mem_append.mp hmessage with hearlier | hlast
    · exact hbroadcasts message hearlier metrics
    · rintro rfl
      cases hsample : arrival.datagram.sample? with
      | none =>
        rw [TelemetryServer.acceptPacket_reject _ hsample] at hlast
        exact List.not_mem_nil hlast
      | some sample =>
        rw [TelemetryServer.meetsRestartTest, hsample, Option.any_some] at hmeets
        rw [TelemetryServer.acceptPacket_record _ hsample hmeets, List.mem_singleton] at hlast
        exact ServerMessage.noConfusion hlast

/-- The samples of the arrivals are the intact packets. -/
lemma Reaches.samples_agree (hn : n ≤ 2 ^ 31) (h : Reaches options faultFlags n arrivals) :
    List.Forall₂ (fun step sample => Server.Agrees (packet faultFlags step) sample)
        ((intact options arrivals).map Arrival.step)
        (TelemetryServer.samples (arrivals.map Arrival.datagram)) ∧
      (TelemetryServer.samples (arrivals.map Arrival.datagram)).map (·.sequence) =
        (intact options arrivals).map Arrival.step := by
  induction arrivals using List.reverseRecOn with
  | nil => exact ⟨.nil, rfl⟩
  | append_singleton arrivals arrival ih =>
    obtain ⟨hagree, hsequences⟩ := ih h.of_append
    have hmem : arrival ∈ arrivals ++ [arrival] := by simp
    obtain ⟨hstep, hsent⟩ := h.sent arrival hmem
    have hpacket := of_sent (by omega) hsent
    have hsome := h.isSome_iff hn hmem
    rw [List.map_append, List.map_singleton, TelemetryServer.samples_concat, intact_concat,
      List.map_append, List.map_append, hsequences]
    cases hintact : isIntact options arrival.step with
    | true =>
      rw [hintact, if_pos rfl] at hpacket
      obtain ⟨sample, hsample, hagrees, hsequence, -⟩ := exists_sample_agrees hn hstep hpacket
      rw [hsample, if_pos rfl]
      refine ⟨List.rel_append hagree (.cons hagrees .nil), ?_⟩
      rw [Option.toList_some, List.map_singleton, hsequence]
      rfl
    | false =>
      rw [hintact, Option.isSome_eq_false_iff, Option.isNone_iff_eq_none] at hsome
      rw [hsome, if_neg Bool.false_ne_true]
      exact ⟨by simpa using hagree, by simp⟩

omit [LawfulLibm] in
/-- What the stand-alone receiver decodes. -/
lemma Reaches.validSequences_eq (hn : n ≤ 2 ^ 31) (h : Reaches options faultFlags n arrivals) :
    (validSequences (arrivals.map fun arrival => arrival.datagram.packet)).map BitVec.toNat =
      (intact options arrivals).map Arrival.step := by
  induction arrivals using List.reverseRecOn with
  | nil => rfl
  | append_singleton arrivals arrival ih =>
    have hmem : arrival ∈ arrivals ++ [arrival] := by simp
    obtain ⟨hstep, hsent⟩ := h.sent arrival hmem
    have hpacket := of_sent (by omega) hsent
    rw [List.map_append, List.map_singleton, validSequences, List.filterMap_append,
      ← validSequences, List.map_append, ih h.of_append, intact_concat, List.map_append]
    congr 1
    cases hintact : isIntact options arrival.step with
    | true =>
      rw [hintact, if_pos rfl] at hpacket
      have hsequence : (packet faultFlags arrival.step).sequence.toNat = arrival.step := by
        rw [sequence_packet, BitVec.toNat_ofNat]
        omega
      simp [hpacket, deserialize_serialize, hsequence]
    | false =>
      rw [hintact, if_neg Bool.false_ne_true] at hpacket
      simp [hpacket, (rejected_damaged _).1]

/-- **The receivers after the arrivals** of a run. -/
lemma Reaches.metrics_eq (capacity : ℕ+) (hrun : Executes options faultFlags n) (hn : n ≤ 2 ^ 31)
    (h : Reaches options faultFlags n arrivals) :
    (TelemetryServer.run capacity (arrivals.map Arrival.datagram)).metrics =
        { received := arrivals.length
          valid := (intact options arrivals).length
          rejected := arrivals.length - (intact options arrivals).length
          lost := (missing ((intact options arrivals).map Arrival.step)).card
          reordered := 0 } ∧
      ((arrivals.map fun arrival => arrival.datagram.packet).foldl Receiver.receive {}).stats =
        { received := arrivals.length
          valid := (intact options arrivals).length
          rejected := arrivals.length - (intact options arrivals).length
          lost := (missing ((intact options arrivals).map Arrival.step)).card
          reordered := 0 } := by
  obtain ⟨hsegment, -⟩ := h.segment_eq capacity hrun hn
  obtain ⟨-, hsequences⟩ := h.samples_agree hn
  obtain ⟨hcounted, -⟩ := counted_run capacity hrun hn (h.arrives hn)
  have hplain := (TelemetryServer.run_eq_plainRun capacity (arrivals.map Arrival.datagram)).1
  rw [hsegment] at hplain
  have hmetrics := TelemetryServer.plain_metrics capacity (arrivals.map Arrival.datagram)
  have htracker := TelemetryServer.plain_sequence capacity (arrivals.map Arrival.datagram)
  have hlength := TelemetryServer.length_eq_samples_add (arrivals.map Arrival.datagram)
  have hvalid := congrArg List.length hsequences
  rw [List.length_map, List.length_map] at hvalid
  rw [hsequences] at htracker
  -- the tracker is the one that sees the intact packets alone
  have hsame := h.withoutRejects_eq capacity hn
  have hsequence := congrArg TelemetryServer.sequence hsame
  simp only [TelemetryServer.withoutRejects] at hsequence
  have hlost := hcounted.trackerLost
  have hreordered := hcounted.trackerReordered
  rw [← hsequence, hplain] at hlost hreordered
  rw [hvalid, List.length_map] at hlength
  constructor
  · rw [hplain, hmetrics, hlost, hreordered, hvalid, List.length_map]
    congr 1
    omega
  · obtain ⟨hreceiver, hreceived, hreceiverValid, hrejected⟩ :=
      trackerOf_foldl_receive (arrivals.map fun arrival => arrival.datagram.packet)
    have hdecoded := congrArg List.length (h.validSequences_eq hn)
    rw [List.length_map, List.length_map] at hdecoded
    rw [h.validSequences_eq hn, ← htracker] at hreceiver
    rw [hdecoded] at hreceiverValid hrejected
    rw [List.length_map] at hreceived hrejected
    generalize (arrivals.map fun arrival => arrival.datagram.packet).foldl Receiver.receive {} =
      receiver at *
    have hreceiverLost : receiver.stats.lost = _ :=
      (congrArg SequenceTracker.lost hreceiver).trans hlost
    have hreceiverReordered : receiver.stats.reordered = 0 :=
      (congrArg SequenceTracker.reordered hreceiver).trans hreordered
    obtain ⟨⟨received, valid, rejected, lost, reordered⟩, latest⟩ := receiver
    dsimp only at *
    rw [ReceiverStats.mk.injEq]
    exact ⟨hreceived, hreceiverValid, by omega, hreceiverLost, hreceiverReordered⟩

/-- **The path of a packet.** After any interleaving of the simulator's two threads, `n` passes of
the loop having been made, some of the datagrams handed to the network arrive, in order. Then they
are the packets of some of the passes, and of these alone:

* what the server takes for its current flight are the undamaged ones, number by number what the
  simulator put in them, and no client is told of another flight;
* the damaged packet is rejected if it arrives, and nothing else is;
* the passes counted as lost are those between the first and the last undamaged arrival of which
  no undamaged packet arrived: omitted, dropped, not sent, lost on the way or damaged;
* the stand-alone receiver counts the same.

**Proof sketch.** Only packets of the loop are handed on (`handed_sublist_sent`). The server does
not restart (`Reaches.segment_eq`), so that it counts as one that never could. -/
theorem packet_path {arguments : Arguments} (capacity : ℕ+)
    {actions : List SimulatorProcess.Action} {process : SimulatorProcess}
    {trace : List SimulatorProcess.Event}
    (hrun : (SimulatorProcess.system arguments).run actions = some (process, trace))
    (hflags : SimulatorProcess.flagsRead trace = (List.range n).map faultFlags)
    (hn : n ≤ 2 ^ 31) {datagrams : List Datagram}
    (harrived : (datagrams.map Datagram.packet).Sublist ((UdpTransmitter.handed
      (trace.filterMap SimulatorProcess.transmitterEvent)).map Subtype.val)) :
    ∃ steps : List ℕ, steps.Pairwise (· < ·) ∧
      List.Forall₂ (fun i datagram => i < n ∧
        sent arguments.options faultFlags i = some datagram.packet) steps datagrams ∧
      List.Forall₂ (fun i sample => Server.Agrees (packet faultFlags i) sample)
        (steps.filter (isIntact arguments.options)) (flightSamples capacity datagrams) ∧
      (∀ message ∈ (TelemetryServer.fresh capacity).broadcasts datagrams,
        ∀ metrics, message ≠ .reset metrics) ∧
      ∃ rejected lost, rejected = (if arguments.corruptOnce ∧ 249 ∈ steps then 1 else 0) ∧
        lost = (missing (steps.filter (isIntact arguments.options))).card ∧
        (TelemetryServer.run capacity datagrams).metrics =
          { received := datagrams.length
            valid := datagrams.length - rejected
            rejected, lost
            reordered := 0 } ∧
        ((datagrams.map Datagram.packet).foldl Receiver.receive {}).stats =
          { received := datagrams.length
            valid := datagrams.length - rejected
            rejected, lost
            reordered := 0 } := by
  obtain ⟨hexecutes, hhanded⟩ := SimulatorProcess.handed_sublist_sent hrun hflags
  obtain ⟨arrivals, h, rfl⟩ := exists_reaches (harrived.trans hhanded)
  obtain ⟨hsegment, hbroadcasts⟩ := h.segment_eq capacity hexecutes hn
  obtain ⟨hserver, hreceiver⟩ := h.metrics_eq capacity hexecutes hn
  have hintact : (intact arguments.options arrivals).map Arrival.step =
      (arrivals.map Arrival.step).filter (isIntact arguments.options) := by
    rw [List.filter_map]
    rfl
  have hlength : (intact arguments.options arrivals).length +
      (if arguments.corruptOnce ∧ 249 ∈ arrivals.map Arrival.step then 1 else 0) =
        arrivals.length := h.length_intact
  have hrejected : arrivals.length - (intact arguments.options arrivals).length =
      if arguments.corruptOnce ∧ 249 ∈ arrivals.map Arrival.step then 1 else 0 := by omega
  have hvalid : (intact arguments.options arrivals).length = arrivals.length -
      if arguments.corruptOnce ∧ 249 ∈ arrivals.map Arrival.step then 1 else 0 := by omega
  refine ⟨arrivals.map Arrival.step, h.ordered, ?_, ?_, hbroadcasts, _, _, rfl, rfl, ?_, ?_⟩
  · rw [List.forall₂_map_left_iff, List.forall₂_map_right_iff, List.forall₂_same]
    exact h.sent
  · rw [flightSamples, hsegment, ← hintact]
    exact (h.samples_agree hn).1
  · rw [hserver, hrejected, hvalid, hintact, List.length_map]
  · rw [List.map_map]
    change ((arrivals.map fun arrival => arrival.datagram.packet).foldl Receiver.receive {}).stats =
      _
    rw [hreceiver, hrejected, hvalid, hintact, List.length_map]

/-- Different passes send different packets, if none is damaged. -/
lemma leftUnique_sent (hcorrupt : options.corruptOnce = false) (hn : n ≤ 2 ^ 31) :
    Relator.LeftUnique fun i (datagram : Datagram) =>
      i < n ∧ sent options faultFlags i = some datagram.packet := by
  have hread : ∀ i (datagram : Datagram), i < n → sent options faultFlags i =
      some datagram.packet → ∃ sample, datagram.sample? = some sample ∧ sample.sequence = i := by
    intro i datagram hi hsent
    have hpacket := of_sent (by omega) hsent
    rw [if_pos (by simp [isIntact, hcorrupt])] at hpacket
    have hstep : (Arrival.mk i datagram).step < n := hi
    obtain ⟨sample, hsample, -, hsequence, -⟩ := exists_sample_agrees hn hstep hpacket
    exact ⟨sample, hsample, hsequence⟩
  rintro i j datagram ⟨hi, hsent⟩ ⟨hj, hsent'⟩
  obtain ⟨sample, hsample, rfl⟩ := hread i datagram hi hsent
  obtain ⟨sample', hsample', rfl⟩ := hread j datagram hj hsent'
  rw [Option.some_inj.mp (hsample.symm.trans hsample')]

end Arrivals

/-- The passes whose packets arrive. -/
def arrivedPasses : List ℕ := [0, 2, 4, 5, 7, 8, 10]

open SimulatorProcess (elevenPasses elevenFlags passes) in
/-- Of eleven passes the packet of one is not sent for an error, that of another is omitted, and
those of two are lost on the way. -/
theorem packet_path_elevenPasses : ∃ (process : SimulatorProcess)
    (trace : List SimulatorProcess.Event) (datagrams : List Datagram),
    (@SimulatorProcess.system coarseLibm (passes 11)).run elevenPasses = some (process, trace) ∧
      datagrams.length = 7 ∧
      (TelemetryServer.run 4 datagrams).metrics = { received := 7, valid := 7, lost := 4 } ∧
      ((datagrams.map Datagram.packet).foldl Receiver.receive {}).stats =
        { received := 7, valid := 7, lost := 4 } := by
  let libm := coarseLibm
  have lawful := lawful_coarseLibm
  have hcheck : ((SimulatorProcess.system (passes 11)).run elevenPasses).any (fun now =>
      SimulatorProcess.flagsRead now.2 == (List.range 11).map elevenFlags &&
        (UdpTransmitter.handed (now.2.filterMap
          SimulatorProcess.transmitterEvent)).length == 10) = true := by
    decide +kernel
  obtain ⟨⟨process, trace⟩, hrun, hnow⟩ := (Option.any_eq_true _ _).mp hcheck
  rw [Bool.and_eq_true, beq_iff_eq, beq_iff_eq] at hnow
  obtain ⟨hflags, hlength⟩ := hnow
  -- All packets but the omitted one are handed on.
  have hall : ((List.range 11).filterMap (sent (passes 11).options elevenFlags)).length = 10 := by
    decide +kernel
  have hhanded := (SimulatorProcess.handed_sublist_sent hrun hflags).2.eq_of_length (by
    rw [List.length_map, hlength, hall])
  let datagram : ℕ → Datagram := fun i => ⟨(sent (passes 11).options elevenFlags i).getD [], 0⟩
  have hsome : ∀ i ∈ arrivedPasses, (sent (passes 11).options elevenFlags i).isSome := by
    decide +kernel
  have hpacket : ∀ i ∈ arrivedPasses,
      sent (passes 11).options elevenFlags i = some (datagram i).packet := by
    intro i hi
    obtain ⟨packet, hsent⟩ := Option.isSome_iff_exists.mp (hsome i hi)
    simp only [datagram, hsent, Option.getD_some]
  have hpackets : (arrivedPasses.map datagram).map Datagram.packet =
      arrivedPasses.filterMap (sent (passes 11).options elevenFlags) := by
    rw [List.filterMap_congr hpacket, List.filterMap_eq_map', List.map_map]
    rfl
  have harrived : List.Forall₂ (fun i (datagram : Datagram) => i < 11 ∧
      sent (passes 11).options elevenFlags i = some datagram.packet) arrivedPasses
        (arrivedPasses.map datagram) := by
    rw [List.forall₂_map_right_iff, List.forall₂_same]
    have hlt : ∀ i ∈ arrivedPasses, i < 11 := by decide
    exact fun i hi => ⟨hlt i hi, hpacket i hi⟩
  obtain ⟨steps, -, hsent, -, -, rejected, lost, rfl, rfl, hserver, hreceiver⟩ :=
    packet_path 4 hrun hflags (by norm_num) (by
      rw [hpackets, hhanded]
      exact List.Sublist.filterMap _ (by decide))
  obtain rfl := List.left_unique_forall₂' (leftUnique_sent rfl (by norm_num)) hsent harrived
  exact ⟨process, trace, arrivedPasses.map datagram, hrun, rfl, hserver, hreceiver⟩

end FlightDeck.System
