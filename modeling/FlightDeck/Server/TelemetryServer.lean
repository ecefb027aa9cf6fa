import FlightDeck.Server.CircularBuffer
import FlightDeck.Server.SequenceTracker
import FlightDeck.Server.Telemetry

set_option relaxedAutoImplicit false
set_option autoImplicit false

/-!
# The streaming server's state

What `TelemetryServer` of `server/src/server.ts` keeps of the telemetry stream, and
`acceptPacket`, which updates it for every datagram and says what is broadcast.

## Main definitions

* `TelemetryServer` — history, sequence tracker, metrics and latest timestamp.
* `TelemetryServer.acceptPacket` — the effect of one datagram and its broadcasts.
* `TelemetryServer.run` — a fresh server fed a sequence of datagrams.

## Main results

* `TelemetryServer.acceptPacket_reject`, `TelemetryServer.acceptPacket_restart`,
  `TelemetryServer.acceptPacket_record` — the three things a datagram can do.
-/

namespace FlightDeck.Server

/-- A UDP datagram as it reaches `acceptPacket`, with the wall clock at that moment. -/
structure Datagram where
  /-- The bytes. -/
  packet : List ByteCodec.Byte
  /-- `Date.now()`. -/
  receivedAtMs : ℕ
  deriving DecidableEq

/-- What the decoder makes of a datagram. -/
def Datagram.decode (datagram : Datagram) : Except DecodeError TelemetrySample :=
  decodeTelemetry datagram.packet datagram.receivedAtMs

/-- The sample of a datagram, if it has one. -/
def Datagram.sample? (datagram : Datagram) : Option TelemetrySample := datagram.decode.toOption

/-- The part of `TelemetryServer` that the telemetry stream updates. -/
structure TelemetryServer (capacity : ℕ+) where
  /-- `#history`. -/
  history : CircularBuffer TelemetrySample capacity
  /-- `#sequence`. -/
  sequence : SequenceTracker := {}
  /-- `#metrics`. -/
  metrics : StreamMetrics := {}
  /-- `#latestTimestampUs`; `none` is `undefined`. -/
  latestTimestampUs : Option ℕ := none

namespace TelemetryServer

variable {capacity : ℕ+}

/-- A fresh server. -/
def fresh (capacity : ℕ+) : TelemetryServer capacity where
  history := .new TelemetrySample capacity

/-- `sequenceRestarted`: packet 0 after another packet. -/
def sequenceRestarted (server : TelemetryServer capacity) (sample : TelemetrySample) : Bool :=
  sample.sequence == 0 && server.sequence.latest != none && server.sequence.latest != some 0

/-- `simulationClockRestarted`: a timestamp more than a second before the latest one. -/
def simulationClockRestarted (server : TelemetryServer capacity) (sample : TelemetrySample) :
    Bool :=
  match server.latestTimestampUs with
  | none => false
  | some latest => numberAdd sample.timestampUs 1000000 < latest

/-- The restart test. -/
def restarted (server : TelemetryServer capacity) (sample : TelemetrySample) : Bool :=
  server.sequenceRestarted sample || server.simulationClockRestarted sample

/-- The statements on the error path. -/
def reject (server : TelemetryServer capacity) : TelemetryServer capacity :=
  { server with
    metrics := { server.metrics with
      received := server.metrics.received + 1
      rejected := server.metrics.rejected + 1 } }

/-- The statements under the restart test, but for the broadcast. -/
def restart (server : TelemetryServer capacity) : TelemetryServer capacity :=
  { server with
    history := server.history.clear
    sequence := server.sequence.reset
    latestTimestampUs := none
    metrics := { server.metrics with
      received := 0, valid := 0, rejected := 0, lost := 0, reordered := 0 } }

/-- The statements after the restart test, but for the broadcast. -/
def record (server : TelemetryServer capacity) (sample : TelemetrySample) :
    TelemetryServer capacity :=
  let sequence := server.sequence.observe sample.sequence
  { history := server.history.push sample
    sequence
    latestTimestampUs := some sample.timestampUs
    metrics := { server.metrics with
      received := server.metrics.received + 1
      valid := server.metrics.valid + 1
      lost := sequence.lost
      reordered := sequence.reordered } }

/-- `acceptPacket`: the server after a datagram, and the messages it broadcasts. -/
def acceptPacket (server : TelemetryServer capacity) (datagram : Datagram) :
    TelemetryServer capacity × List ServerMessage :=
  match datagram.decode with
  | .error _ => (server.reject, [])
  | .ok sample =>
    if server.restarted sample then
      let server := server.restart
      let next := server.record sample
      (next, [.reset server.metrics, .telemetry sample next.metrics])
    else
      let next := server.record sample
      (next, [.telemetry sample next.metrics])

/-- A fresh server fed a sequence of datagrams. -/
def run (capacity : ℕ+) (datagrams : List Datagram) : TelemetryServer capacity :=
  datagrams.foldl (fun server datagram => (server.acceptPacket datagram).1) (fresh capacity)

/-- The messages a server broadcasts over a sequence of datagrams. -/
def broadcasts (server : TelemetryServer capacity) : List Datagram → List ServerMessage
  | [] => []
  | datagram :: datagrams =>
    (server.acceptPacket datagram).2 ++ (server.acceptPacket datagram).1.broadcasts datagrams

/-- A restart leaves nothing of what the server knew. -/
@[simp] lemma restart_eq_fresh (server : TelemetryServer capacity) :
    server.restart = fresh capacity := rfl

/-- A fresh server has no earlier packet to compare with. -/
@[simp] lemma restarted_fresh (sample : TelemetrySample) :
    (fresh capacity).restarted sample = false := by
  simp [restarted, sequenceRestarted, simulationClockRestarted, fresh]

/-- An undecodable datagram is counted. -/
lemma acceptPacket_reject (server : TelemetryServer capacity) {datagram : Datagram}
    (h : datagram.sample? = none) : server.acceptPacket datagram = (server.reject, []) := by
  rw [acceptPacket]
  rw [Datagram.sample?] at h
  cases hdecode : datagram.decode with
  | error e => rfl
  | ok sample => simp [hdecode, Except.toOption] at h

/-- A packet of a new flight is the first one of a fresh server. -/
lemma acceptPacket_restart (server : TelemetryServer capacity) {datagram : Datagram}
    {sample : TelemetrySample} (h : datagram.sample? = some sample)
    (hrestarted : server.restarted sample = true) :
    server.acceptPacket datagram =
      ((fresh capacity).record sample,
        [.reset (fresh capacity).metrics,
          .telemetry sample ((fresh capacity).record sample).metrics]) := by
  rw [acceptPacket]
  rw [Datagram.sample?] at h
  cases hdecode : datagram.decode with
  | error e => simp [hdecode, Except.toOption] at h
  | ok s =>
    obtain rfl : s = sample := by simpa [hdecode, Except.toOption] using h
    simp [hrestarted]

/-- A packet of the running flight is recorded. -/
lemma acceptPacket_record (server : TelemetryServer capacity) {datagram : Datagram}
    {sample : TelemetrySample} (h : datagram.sample? = some sample)
    (hrestarted : server.restarted sample = false) :
    server.acceptPacket datagram =
      (server.record sample, [.telemetry sample (server.record sample).metrics]) := by
  rw [acceptPacket]
  rw [Datagram.sample?] at h
  cases hdecode : datagram.decode with
  | error e => simp [hdecode, Except.toOption] at h
  | ok s =>
    obtain rfl : s = sample := by simpa [hdecode, Except.toOption] using h
    simp [hrestarted]

@[simp] lemma run_nil : run capacity [] = fresh capacity := rfl

@[simp] lemma run_concat (datagrams : List Datagram) (datagram : Datagram) :
    run capacity (datagrams ++ [datagram]) =
      ((run capacity datagrams).acceptPacket datagram).1 := by
  rw [run, List.foldl_concat]
  rfl

/-- The broadcasts of a stream in two parts. -/
lemma broadcasts_append (server : TelemetryServer capacity) (xs ys : List Datagram) :
    server.broadcasts (xs ++ ys) =
      server.broadcasts xs ++
        (xs.foldl (fun server datagram => (server.acceptPacket datagram).1) server).broadcasts
          ys := by
  induction xs generalizing server with
  | nil => rfl
  | cons x xs ih =>
    rw [List.cons_append, broadcasts, broadcasts, ih, List.append_assoc]
    rfl

/-- The broadcasts of a fresh server, up to the last datagram and for it. -/
lemma broadcasts_concat (datagrams : List Datagram) (datagram : Datagram) :
    (fresh capacity).broadcasts (datagrams ++ [datagram]) =
      (fresh capacity).broadcasts datagrams ++
        ((run capacity datagrams).acceptPacket datagram).2 := by
  rw [broadcasts_append]
  simp [broadcasts, run]

end TelemetryServer

end FlightDeck.Server
