import FlightDeck.Server.TelemetryServer

set_option relaxedAutoImplicit false
set_option autoImplicit false

/-!
# The stream of one flight

The restart test cuts a stream of datagrams into flights. What the server shows is what it
would show had it been started for the last of them: nothing of an earlier flight is left, and
undecodable datagrams only count themselves.

## Main definitions

* `TelemetryServer.segment` — the datagrams since the last one that met the restart test.
* `TelemetryServer.samples` — the samples of the decodable datagrams.
* `TelemetryServer.withoutRejects` — the state but for the two counters of undecodable
  datagrams.

## Main results

* `TelemetryServer.run_eq_run_segment` — the state is that of a fresh server fed the segment.
* `TelemetryServer.plain_metrics`, `TelemetryServer.plain_history` — the state of a server that
  has not restarted, from what it was fed.
* `TelemetryServer.run_shows_segment` — both, and the frame property of undecodable datagrams.
-/

namespace FlightDeck.Server

namespace TelemetryServer

variable {capacity : ℕ+}

/-! ## Segments -/

/-- The datagram decodes and meets the restart test. -/
def meetsRestartTest (server : TelemetryServer capacity) (datagram : Datagram) : Bool :=
  datagram.sample?.any server.restarted

/-- One more datagram: the server after it, and the segment it belongs to. -/
def advance (now : TelemetryServer capacity × List Datagram) (datagram : Datagram) :
    TelemetryServer capacity × List Datagram :=
  ((now.1.acceptPacket datagram).1,
    if now.1.meetsRestartTest datagram then [datagram] else now.2 ++ [datagram])

/-- The datagrams from the last accepted one that met the restart test onward, all of them if
none did. -/
def segment (capacity : ℕ+) (datagrams : List Datagram) : List Datagram :=
  (datagrams.foldl advance (fresh capacity, [])).2

/-- The samples of the decodable datagrams. -/
def samples (datagrams : List Datagram) : List TelemetrySample :=
  datagrams.filterMap Datagram.sample?

@[simp] lemma samples_concat (datagrams : List Datagram) (datagram : Datagram) :
    samples (datagrams ++ [datagram]) = samples datagrams ++ datagram.sample?.toList := by
  cases h : datagram.sample? <;> simp [samples, List.filterMap_append, h]

/-- Following the segment does not change the run. -/
lemma foldl_advance_fst (datagrams : List Datagram) :
    (datagrams.foldl advance (fresh capacity, [])).1 = run capacity datagrams := by
  induction datagrams using List.reverseRecOn with
  | nil => rfl
  | append_singleton datagrams datagram ih =>
    rw [List.foldl_concat, run_concat, ← ih]
    rfl

@[simp] lemma segment_nil : segment capacity [] = [] := rfl

@[simp] lemma segment_concat (datagrams : List Datagram) (datagram : Datagram) :
    segment capacity (datagrams ++ [datagram]) =
      if (run capacity datagrams).meetsRestartTest datagram then [datagram]
      else segment capacity datagrams ++ [datagram] := by
  rw [segment, List.foldl_concat, advance, foldl_advance_fst]
  rfl

/-- The effect of a datagram that does not meet the restart test. -/
def plain (server : TelemetryServer capacity) (datagram : Datagram) : TelemetryServer capacity :=
  match datagram.sample? with
  | none => server.reject
  | some sample => server.record sample

/-- A datagram that does not meet the restart test. -/
lemma acceptPacket_of_not_meets {server : TelemetryServer capacity} {datagram : Datagram}
    (h : server.meetsRestartTest datagram = false) :
    (server.acceptPacket datagram).1 = server.plain datagram := by
  rw [plain]
  cases hsample : datagram.sample? with
  | none => rw [acceptPacket_reject _ hsample]
  | some sample =>
    rw [meetsRestartTest, hsample, Option.any_some] at h
    rw [acceptPacket_record _ hsample h]

/-- A datagram that meets the restart test. -/
lemma acceptPacket_of_meets {server : TelemetryServer capacity} {datagram : Datagram}
    (h : server.meetsRestartTest datagram = true) :
    (server.acceptPacket datagram).1 = (fresh capacity).plain datagram := by
  rw [plain]
  cases hsample : datagram.sample? with
  | none => simp [meetsRestartTest, hsample] at h
  | some sample =>
    rw [meetsRestartTest, hsample, Option.any_some] at h
    rw [acceptPacket_restart _ hsample h]

/-- A fresh server does not restart. -/
lemma meetsRestartTest_fresh (capacity : ℕ+) (datagram : Datagram) :
    (fresh capacity).meetsRestartTest datagram = false := by
  rw [meetsRestartTest]
  cases datagram.sample? <;> simp

/-- A run that never restarts. -/
def plainRun (capacity : ℕ+) (datagrams : List Datagram) : TelemetryServer capacity :=
  datagrams.foldl plain (fresh capacity)

/-- Both the run and the run of its segment go through the segment without a restart.

**Proof sketch.** A datagram that meets the restart test starts a new segment, and leaves the
server as it leaves a fresh one. Any other one extends the segment, and by induction both
servers are in the same state when they see it, so the second does not restart either. -/
lemma run_eq_plainRun (capacity : ℕ+) (datagrams : List Datagram) :
    run capacity datagrams = plainRun capacity (segment capacity datagrams) ∧
      run capacity (segment capacity datagrams) =
        plainRun capacity (segment capacity datagrams) := by
  induction datagrams using List.reverseRecOn with
  | nil => exact ⟨rfl, rfl⟩
  | append_singleton datagrams datagram ih =>
    obtain ⟨hrun, hsegment⟩ := ih
    rw [segment_concat, run_concat]
    cases hmeets : (run capacity datagrams).meetsRestartTest datagram with
    | true =>
      have hfresh := acceptPacket_of_not_meets (meetsRestartTest_fresh capacity datagram)
      exact ⟨acceptPacket_of_meets hmeets, hfresh⟩
    | false =>
      have hplain : plainRun capacity (segment capacity datagrams ++ [datagram]) =
          (run capacity datagrams).plain datagram := by
        rw [plainRun, List.foldl_concat, hrun]
        rfl
      rw [if_neg (by simp), hplain, run_concat, hsegment, ← hrun]
      exact ⟨acceptPacket_of_not_meets hmeets, acceptPacket_of_not_meets hmeets⟩

/-- Nothing of an earlier flight is left: the state is that of a fresh server fed only the
segment. -/
theorem run_eq_run_segment (datagrams : List Datagram) :
    run capacity datagrams = run capacity (segment capacity datagrams) :=
  (run_eq_plainRun capacity datagrams).1.trans (run_eq_plainRun capacity datagrams).2.symm

/-! ## The state of a run without restart -/

/-- The tracker of a run without restart is a new one that saw the accepted samples. -/
lemma plain_sequence (capacity : ℕ+) (datagrams : List Datagram) :
    (plainRun capacity datagrams).sequence =
      ((samples datagrams).map (·.sequence)).foldl SequenceTracker.observe {} := by
  induction datagrams using List.reverseRecOn with
  | nil => rfl
  | append_singleton datagrams datagram ih =>
    rw [plainRun, List.foldl_concat, ← plainRun, samples_concat, plain]
    cases datagram.sample? with
    | none => simpa [reject] using ih
    | some sample => simp [record, ih]

/-- The history of a run without restart is the end of the list of accepted samples. -/
lemma plain_history (capacity : ℕ+) (datagrams : List Datagram) :
    (plainRun capacity datagrams).history.toArray = (samples datagrams).rtake capacity := by
  induction datagrams using List.reverseRecOn with
  | nil => simp [plainRun, fresh, samples]
  | append_singleton datagrams datagram ih =>
    rw [plainRun, List.foldl_concat, ← plainRun, samples_concat, plain]
    cases datagram.sample? with
    | none => simpa [reject] using ih
    | some sample =>
      simp [record, CircularBuffer.toArray_push, ih, Window.rtake_rtake_append]

/-- The metrics of a run without restart. -/
lemma plain_metrics (capacity : ℕ+) (datagrams : List Datagram) :
    (plainRun capacity datagrams).metrics =
      { received := datagrams.length
        valid := (samples datagrams).length
        rejected := datagrams.countP (·.sample?.isNone)
        lost := (plainRun capacity datagrams).sequence.lost
        reordered := (plainRun capacity datagrams).sequence.reordered } := by
  induction datagrams using List.reverseRecOn with
  | nil => rfl
  | append_singleton datagrams datagram ih =>
    rw [plainRun, List.foldl_concat, ← plainRun, samples_concat, plain]
    cases hsample : datagram.sample? with
    | none => simp [reject, ih, hsample]
    | some sample => simp [record, ih, hsample]

/-- The latest timestamp of a run without restart is that of the last accepted sample. -/
lemma plain_latestTimestampUs (capacity : ℕ+) (datagrams : List Datagram) :
    (plainRun capacity datagrams).latestTimestampUs =
      (samples datagrams).getLast?.map (·.timestampUs) := by
  induction datagrams using List.reverseRecOn with
  | nil => rfl
  | append_singleton datagrams datagram ih =>
    rw [plainRun, List.foldl_concat, ← plainRun, samples_concat, plain]
    cases datagram.sample? with
    | none => simpa [reject] using ih
    | some sample => simp [record]

/-- Every datagram decodes or does not. -/
lemma length_eq_samples_add (datagrams : List Datagram) :
    datagrams.length = (samples datagrams).length + datagrams.countP (·.sample?.isNone) := by
  induction datagrams using List.reverseRecOn with
  | nil => rfl
  | append_singleton datagrams datagram ih =>
    rw [samples_concat]
    cases hsample : datagram.sample? with
    | none => simp [hsample, ih]; omega
    | some sample => simp [hsample, ih]; omega

/-! ## Undecodable datagrams -/

/-- The state but for the two counters of undecodable datagrams. -/
def withoutRejects (server : TelemetryServer capacity) : TelemetryServer capacity :=
  { server with metrics := { server.metrics with received := 0, rejected := 0 } }

/-- What a datagram does depends on the two counters only in the two counters. -/
lemma withoutRejects_acceptPacket {server server' : TelemetryServer capacity}
    (h : server.withoutRejects = server'.withoutRejects) (datagram : Datagram) :
    (server.acceptPacket datagram).1.withoutRejects =
      (server'.acceptPacket datagram).1.withoutRejects := by
  simp only [withoutRejects, TelemetryServer.mk.injEq, StreamMetrics.mk.injEq] at h
  obtain ⟨hhistory, hsequence, ⟨-, hvalid, -, hlost, hreordered⟩, hlatest⟩ := h
  cases hsample : datagram.sample? with
  | none =>
    simp [acceptPacket_reject _ hsample, reject, withoutRejects, *]
  | some sample =>
    have htest : server.restarted sample = server'.restarted sample := by
      simp [restarted, sequenceRestarted, simulationClockRestarted, hsequence, hlatest]
    cases hrestarted : server.restarted sample with
    | true =>
      rw [acceptPacket_restart _ hsample hrestarted,
        acceptPacket_restart _ hsample (htest ▸ hrestarted)]
    | false =>
      rw [acceptPacket_record _ hsample hrestarted,
        acceptPacket_record _ hsample (htest ▸ hrestarted)]
      simp [record, withoutRejects, *]

/-- An undecodable datagram changes only the two counters. -/
lemma withoutRejects_acceptPacket_reject (server : TelemetryServer capacity) {datagram : Datagram}
    (h : datagram.sample? = none) :
    (server.acceptPacket datagram).1.withoutRejects = server.withoutRejects := by
  rw [acceptPacket_reject _ h]
  rfl

/-- Leaving the undecodable datagrams out of a stream changes only the two counters. -/
lemma withoutRejects_run_filter (datagrams : List Datagram) :
    (run capacity datagrams).withoutRejects =
      (run capacity (datagrams.filter (·.sample?.isSome))).withoutRejects := by
  induction datagrams using List.reverseRecOn with
  | nil => rfl
  | append_singleton datagrams datagram ih =>
    rw [run_concat, List.filter_append]
    cases hsample : datagram.sample? with
    | none =>
      simpa [hsample, withoutRejects_acceptPacket_reject _ hsample] using ih
    | some sample =>
      simpa [hsample] using withoutRejects_acceptPacket ih datagram

/-- **What the server shows**: the state is that of a fresh server fed only the segment. Its
metrics count the decodable and the undecodable datagrams of the segment and take losses and
late packets from a new tracker, and its history holds the last samples of the segment in
arrival order. Leaving the undecodable datagrams out of the stream, wherever they are, changes
only `received` and `rejected`.

**Proof sketch.** The segment is processed without a restart, and each component of such a run
is a fold over what was fed. For the last part, the two counters are never read. -/
theorem run_shows_segment (capacity : ℕ+) (datagrams : List Datagram) :
    let server := run capacity datagrams
    let flight := segment capacity datagrams
    let tracker := ((samples flight).map (·.sequence)).foldl SequenceTracker.observe {}
    server = run capacity flight ∧
      server.metrics.valid = flight.countP (·.sample?.isSome) ∧
      server.metrics.rejected = flight.countP (·.sample?.isNone) ∧
      server.metrics.received = server.metrics.valid + server.metrics.rejected ∧
      server.metrics.lost = tracker.lost ∧
      server.metrics.reordered = tracker.reordered ∧
      server.history.toArray = (samples flight).rtake (min capacity server.metrics.valid) ∧
      server.withoutRejects =
        (run capacity (datagrams.filter (·.sample?.isSome))).withoutRejects := by
  intro server flight tracker
  have hserver : server = plainRun capacity flight := (run_eq_plainRun capacity datagrams).1
  have hmetrics := plain_metrics capacity flight
  have htracker := plain_sequence capacity flight
  have hhistory := plain_history capacity flight
  have hvalid : (samples flight).length = flight.countP (·.sample?.isSome) := by
    simp [samples, List.length_filterMap_eq_countP]
  rw [← hserver] at hmetrics htracker hhistory
  refine ⟨run_eq_run_segment datagrams, ?_, ?_, ?_, ?_, ?_, ?_,
    withoutRejects_run_filter datagrams⟩
  · rw [hmetrics, ← hvalid]
  · rw [hmetrics]
  · rw [hmetrics]
    exact length_eq_samples_add flight
  · rw [hmetrics, htracker]
  · rw [hmetrics, htracker]
  · rw [hhistory, hmetrics, ← Window.rtake_rtake_of_le (min_le_left _ _)]
    exact (Window.rtake_of_length_le (by simp)).symm

end TelemetryServer

end FlightDeck.Server
