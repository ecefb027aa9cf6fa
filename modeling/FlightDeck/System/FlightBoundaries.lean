import FlightDeck.Dashboard.CurrentFlight
import FlightDeck.Server.Relay
import FlightDeck.Server.Reordering

set_option relaxedAutoImplicit false
set_option autoImplicit false

/-!
# Where a flight begins, for the server and for a dashboard

The server compares a packet with the highest sequence number and the last timestamp it has
recorded, a dashboard compares a sample with the last sample it has received. The two differ
after a late or a repeated packet. Still, as long as sequence numbers do not wrap, a dashboard's
test never finds a new flight that the server has not announced: the last sample of the history
is at most as high as the tracker's number, and it is the last sample of every dashboard too.

## Main definitions

* `latestReceived` — the last sample of the flight, after some messages.
* `Agrees` — what was sent to a client against what the server knows.
* `startsNewList` — the hook drops its samples at a message.

## Main results

* `relayAgrees_of_run` — everything sent to a client agrees with the server, in every run.
* `startsNewList_iff_isBoundary` — a dashboard starts a new list of samples exactly at a history
  or a reset.
-/

namespace FlightDeck.System

open Server Dashboard TransitionSystem

/-! ## What a dashboard compares with -/

/-- The last sample of the flight after a message. -/
def latestAfter (latest : Option TelemetrySample) : ServerMessage → Option TelemetrySample
  | .history samples _ => samples.getLast?
  | .reset _ => none
  | .telemetry sample _ => some sample
  | _ => latest

/-- The last sample of the flight after some messages. -/
def latestReceived (messages : List ServerMessage) : Option TelemetrySample :=
  messages.foldl latestAfter none

@[simp] lemma latestReceived_concat (messages : List ServerMessage) (message : ServerMessage) :
    latestReceived (messages ++ [message]) = latestAfter (latestReceived messages) message :=
  List.foldl_concat ..

/-- Nothing before a history matters. -/
lemma latestReceived_append_history (prior rest : List ServerMessage)
    (samples : List TelemetrySample) (metrics : StreamMetrics) :
    latestReceived (prior ++ .history samples metrics :: rest) =
      latestReceived (.history samples metrics :: rest) := by
  rw [latestReceived, latestReceived, List.foldl_append]
  rfl

/-- The hook keeps the last sample in a variable. -/
lemma latestSample_acceptMessage (hook : UseTelemetry) (message : ServerMessage) :
    (hook.acceptMessage message).latestSample = latestAfter hook.latestSample message := by
  cases message <;> rfl

/-- In every run. -/
lemma latestSample_of_run {actions : List UseTelemetry.Action} {hook : UseTelemetry}
    {messages : List ServerMessage}
    (hrun : UseTelemetry.system.run actions = some (hook, messages)) :
    hook.latestSample = latestReceived messages := by
  have hinv : UseTelemetry.system.IsInvariant fun messages hook =>
      hook.latestSample = latestReceived messages := by
    refine UseTelemetry.isInvariant_of_events rfl ?_ ?_ ?_
    · intro messages hook message h
      rw [latestSample_acceptMessage, latestReceived_concat, h]
    · intro messages hook now atCall h
      rw [(UseTelemetry.flush_collected hook now atCall).1, h]
    · exact fun messages hook h => h
  exact hinv.of_run hrun

/-- No sample among the messages starts a new flight. -/
def Continues (messages : List ServerMessage) : Prop :=
  ∀ before sample metrics, before ++ [.telemetry sample metrics] <+: messages →
    startsNewFlight (latestReceived before) sample = false

/-- One message more. -/
lemma Continues.concat {messages : List ServerMessage} (h : Continues messages)
    {message : ServerMessage} (hmessage : ∀ sample metrics, message = .telemetry sample metrics →
      startsNewFlight (latestReceived messages) sample = false) :
    Continues (messages ++ [message]) := by
  intro before sample metrics hbegins
  rcases List.prefix_concat_iff.mp hbegins with heq | hbegins
  · obtain ⟨rfl, hlast⟩ := List.append_inj' heq rfl
    exact hmessage sample metrics (List.singleton_inj.mp hlast).symm
  · exact h before sample metrics hbegins

/-- Writing samples to a message and reading them back does not change the test. -/
lemma startsNewFlight_overJson (previous : Option TelemetrySample) (sample : TelemetrySample) :
    startsNewFlight (previous.map TelemetrySample.overJson) sample.overJson =
      startsNewFlight previous sample := by
  cases previous <;> rfl

/-! ## What the server knows -/

section Server

variable {capacity : ℕ+} {server : TelemetryServer capacity}

/-- The last sample of the history. -/
def lastRecorded (server : TelemetryServer capacity) : Option TelemetrySample :=
  server.history.toArray.getLast?

/-- What the tracker and the last timestamp say of the history. -/
structure Tracked (server : TelemetryServer capacity) : Prop where
  /-- Sequence numbers have not wrapped. -/
  latest_lt : ∀ latest, server.sequence.latest = some latest → latest < 2 ^ 31
  /-- The timestamp is that of the last sample. -/
  timestamp : ∀ last, lastRecorded server = some last →
    server.latestTimestampUs = some last.timestampUs
  /-- The tracker's number is at least that of the last sample. -/
  sequence_le : ∀ last, lastRecorded server = some last →
    ∃ latest, server.sequence.latest = some latest ∧ last.sequence ≤ latest

/-- A server that has recorded nothing. -/
lemma tracked_fresh (capacity : ℕ+) : Tracked (.fresh capacity) := by
  constructor <;> simp [lastRecorded, TelemetryServer.fresh]

/-- A recorded sample is the last one. -/
@[simp] lemma lastRecorded_record (server : TelemetryServer capacity) (sample : TelemetrySample) :
    lastRecorded (server.record sample) = some sample := by
  rw [lastRecorded, TelemetryServer.record, CircularBuffer.toArray_push,
    Window.getLast?_rtake capacity.pos, List.getLast?_concat]

/-- The tracker's number after an observation is at least the one observed. -/
lemma exists_latest_observe {tracker : SequenceTracker} {sequence : ℕ}
    (hlatest : ∀ latest, tracker.latest = some latest → latest < 2 ^ 31)
    (hsequence : sequence < 2 ^ 31) :
    ∃ latest, (tracker.observe sequence).latest = some latest ∧ sequence ≤ latest ∧
      latest < 2 ^ 31 := by
  cases hold : tracker.latest with
  | none => exact ⟨sequence, by rw [SequenceTracker.observe_first hold], le_rfl, hsequence⟩
  | some latest =>
    have hlt := hlatest latest hold
    rcases le_or_gt sequence latest with hle | hgt
    · refine ⟨latest, ?_, hle, hlt⟩
      rw [SequenceTracker.observe_behind hold hle (by omega)]
      exact hold
    · exact ⟨sequence, by rw [SequenceTracker.observe_ahead hold hgt (by omega)], le_rfl,
        hsequence⟩

/-- Recording a sample. -/
lemma Tracked.record (h : Tracked server) {sample : TelemetrySample}
    (hsequence : sample.sequence < 2 ^ 31) : Tracked (server.record sample) := by
  obtain ⟨latest, hlatest, hle, hlt⟩ := exists_latest_observe h.latest_lt hsequence
  have hlatest' : (server.record sample).sequence.latest = some latest := hlatest
  constructor
  · intro other hother
    rw [hlatest'] at hother
    exact Option.some_inj.mp hother ▸ hlt
  · intro last hlast
    rw [lastRecorded_record] at hlast
    rw [← Option.some_inj.mp hlast]
    rfl
  · intro last hlast
    rw [lastRecorded_record] at hlast
    exact ⟨latest, hlatest', Option.some_inj.mp hlast ▸ hle⟩

/-- Rejecting a datagram. -/
lemma Tracked.reject (h : Tracked server) : Tracked server.reject :=
  ⟨h.latest_lt, h.timestamp, h.sequence_le⟩

/-- A datagram. -/
lemma Tracked.acceptPacket (h : Tracked server) {datagram : Datagram}
    (hsequence : ∀ sample, datagram.sample? = some sample → sample.sequence < 2 ^ 31) :
    Tracked (server.acceptPacket datagram).1 := by
  cases hsample : datagram.sample? with
  | none =>
    rw [TelemetryServer.acceptPacket_reject _ hsample]
    exact h.reject
  | some sample =>
    cases hrestarted : server.restarted sample with
    | true =>
      rw [TelemetryServer.acceptPacket_restart _ hsample hrestarted]
      exact (tracked_fresh capacity).record (hsequence sample hsample)
    | false =>
      rw [TelemetryServer.acceptPacket_record _ hsample hrestarted]
      exact h.record (hsequence sample hsample)

/-- **The two tests**: where the server finds no new flight, a comparison with the last sample of
its history finds none. -/
lemma startsNewFlight_lastRecorded (h : Tracked server) {sample : TelemetrySample}
    (hrestarted : server.restarted sample = false) :
    startsNewFlight (lastRecorded server) sample = false := by
  obtain ⟨hsequence, hclock⟩ := Bool.or_eq_false_iff.mp hrestarted
  cases hlast : lastRecorded server with
  | none => rfl
  | some last =>
    obtain ⟨latest, hlatest, hle⟩ := h.sequence_le last hlast
    have htimestamp := h.timestamp last hlast
    refine Bool.or_eq_false_iff.mpr ⟨?_, ?_⟩
    · -- A last sample with a number other than 0 has moved the tracker above 0.
      simp only [TelemetryServer.sequenceRestarted, hlatest, Bool.and_eq_false_iff,
        beq_eq_false_iff_ne, bne_eq_false_iff_eq, Option.some_inj] at hsequence
      simp only [Bool.and_eq_false_iff, beq_eq_false_iff_ne, bne_eq_false_iff_eq]
      rcases hsequence with (hne | habsurd) | hzero
      · exact Or.inl hne
      · exact absurd habsurd (by simp)
      · exact Or.inr (by omega)
    · simpa [TelemetryServer.simulationClockRestarted, htimestamp] using hclock

end Server

/-! ## What a client is sent -/

/-- What was sent to a client against what the server knows. -/
structure Agrees {capacity : ℕ+} (server : TelemetryServer capacity) (isOpen : Bool)
    (sent : List ServerMessage) : Prop where
  /-- A history comes first. -/
  starts : ∃ samples metrics rest, sent = .history samples metrics :: rest
  /-- No sample starts a new flight. -/
  continues : Continues sent
  /-- The last sample is that of the history. -/
  latest : isOpen → latestReceived sent = (lastRecorded server).map TelemetrySample.overJson

section Client

variable {capacity : ℕ+} {server : TelemetryServer capacity} {isOpen : Bool}
  {sent : List ServerMessage}

/-- What a list of messages becomes on its way to a client. -/
def underWayTo (isOpen : Bool) (messages : List ServerMessage) : List ServerMessage :=
  if isOpen then messages.map ServerMessage.overJson else []

/-- One message more to an open client. -/
lemma Agrees.concat {server' : TelemetryServer capacity} (h : Agrees server true sent)
    {message : ServerMessage}
    (hmessage : ∀ sample metrics, message = .telemetry sample metrics →
      startsNewFlight (latestReceived sent) sample = false)
    (hlatest : latestAfter (latestReceived sent) message =
      (lastRecorded server').map TelemetrySample.overJson) :
    Agrees server' true (sent ++ [message]) := by
  obtain ⟨samples, metrics, rest, rfl⟩ := h.starts
  exact ⟨⟨samples, metrics, rest ++ [message], rfl⟩, h.continues.concat hmessage,
    fun _ => by rw [latestReceived_concat, hlatest]⟩

/-- A message that is no news of the stream. -/
lemma Agrees.other (h : Agrees server isOpen sent) {message : ServerMessage}
    (hmessage : ∀ latest, latestAfter latest message.overJson = latest)
    (htelemetry : ∀ sample metrics, message.overJson ≠ .telemetry sample metrics) :
    Agrees server isOpen (sent ++ underWayTo isOpen [message]) := by
  cases isOpen with
  | false => simpa [underWayTo] using h
  | true =>
    exact h.concat (fun sample metrics heq => absurd heq (htelemetry sample metrics))
      ((hmessage _).trans (h.latest rfl))

/-- A sample that the server takes for one of the same flight. -/
lemma Agrees.record (h : Agrees server true sent) (htracked : Tracked server)
    {sample : TelemetrySample} (hrestarted : server.restarted sample = false)
    (metrics : StreamMetrics) :
    Agrees (server.record sample) true (sent ++ [.telemetry sample.overJson metrics]) := by
  refine h.concat (fun received metrics' heq => ?_) ?_
  · obtain ⟨rfl, -⟩ := ServerMessage.telemetry.inj heq
    rw [h.latest rfl, startsNewFlight_overJson]
    exact startsNewFlight_lastRecorded htracked hrestarted
  · rw [lastRecorded_record]
    rfl

/-- **A datagram**: what it makes the server broadcast agrees with what the server then knows. -/
lemma Agrees.acceptPacket (h : Agrees server isOpen sent) (htracked : Tracked server)
    (datagram : Datagram) :
    Agrees (server.acceptPacket datagram).1 isOpen
      (sent ++ underWayTo isOpen (server.acceptPacket datagram).2) := by
  cases isOpen with
  | false => exact ⟨by simpa [underWayTo] using h.starts, by simpa [underWayTo] using h.continues,
      by simp⟩
  | true =>
    cases hsample : datagram.sample? with
    | none =>
      rw [TelemetryServer.acceptPacket_reject _ hsample]
      exact ⟨by simpa [underWayTo] using h.starts, by simpa [underWayTo] using h.continues,
        by simpa [underWayTo, lastRecorded, TelemetryServer.reject] using h.latest⟩
    | some sample =>
      cases hrestarted : server.restarted sample with
      | true =>
        rw [TelemetryServer.acceptPacket_restart _ hsample hrestarted]
        have hreset : Agrees (.fresh capacity) true
            (sent ++ [.reset (TelemetryServer.fresh capacity).metrics]) :=
          h.concat (by simp) (by simp [latestAfter, lastRecorded, TelemetryServer.fresh])
        have hrecord := hreset.record (tracked_fresh capacity)
          (TelemetryServer.restarted_fresh sample)
          ((TelemetryServer.fresh capacity).record sample).metrics
        simpa [underWayTo, ServerMessage.overJson] using hrecord
      | false =>
        rw [TelemetryServer.acceptPacket_record _ hsample hrestarted]
        simpa [underWayTo, ServerMessage.overJson] using h.record htracked hrestarted _

/-- A client that has just connected. -/
lemma agrees_connect (server : TelemetryServer capacity) (connected : Bool) :
    Agrees server true [.history (server.history.toArray.map TelemetrySample.overJson)
      server.metrics, .controlStatus connected] := by
  have hhistory : Agrees server true
      [.history (server.history.toArray.map TelemetrySample.overJson) server.metrics] := by
    have hnone : Continues [] := fun before sample metrics hbegins => by simp at hbegins
    exact ⟨⟨_, _, [], rfl⟩, hnone.concat (by simp), fun _ => List.getLast?_map ..⟩
  exact hhistory.concat (by simp) (hhistory.latest rfl)

end Client

/-! ## The relay -/

/-- The messages a client has received, in order. -/
def receivedBy (k : ℕ) (trace : List (ℕ × ServerMessage)) : List ServerMessage :=
  trace.filterMap fun event => if event.1 = k then some event.2 else none

@[simp] lemma receivedBy_append (k : ℕ) (t₁ t₂ : List (ℕ × ServerMessage)) :
    receivedBy k (t₁ ++ t₂) = receivedBy k t₁ ++ receivedBy k t₂ := List.filterMap_append

/-- Messages are put under way in order. -/
lemma foldl_send (client : Client) (messages : List ServerMessage) :
    messages.foldl Client.send client =
      { client with underWay := client.underWay ++ underWayTo client.isOpen messages } := by
  induction messages generalizing client with
  | nil => simp [underWayTo]
  | cons message messages ih =>
    rw [List.foldl_cons, ih, Client.isOpen_send, Client.send, underWayTo, underWayTo]
    cases client.isOpen <;> simp

section Run

variable {capacity : ℕ+}

/-- Every client that has connected, and no other, was sent something, and what was sent agrees
with the server. -/
structure RelayAgrees (trace : List (ℕ × ServerMessage)) (relay : Relay capacity) : Prop where
  /-- The server. -/
  tracked : Tracked relay.server
  /-- What a client has received and is yet to receive. -/
  agrees : ∀ k client, relay.clients[k]? = some client →
    Agrees relay.server client.isOpen (receivedBy k trace ++ client.underWay)
  /-- Nothing is received before connecting. -/
  unconnected : ∀ k, relay.clients[k]? = none → receivedBy k trace = []

/-- The same is sent to every client. -/
lemma RelayAgrees.map {trace : List (ℕ × ServerMessage)} {relay relay' : Relay capacity}
    (h : RelayAgrees trace relay) (htracked : Tracked relay'.server) (messages : List ServerMessage)
    (hclients : relay'.clients = relay.clients.map (messages.foldl Client.send))
    (hagrees : ∀ isOpen sent, Agrees relay.server isOpen sent →
      Agrees relay'.server isOpen (sent ++ underWayTo isOpen messages)) :
    RelayAgrees trace relay' := by
  refine ⟨htracked, fun k client hclient => ?_, fun k hnone => h.unconnected k ?_⟩
  · rw [hclients, List.getElem?_map, Option.map_eq_some_iff] at hclient
    obtain ⟨client, hclient, rfl⟩ := hclient
    rw [foldl_send, ← List.append_assoc]
    exact hagrees _ _ (h.agrees k client hclient)
  · rwa [hclients, List.getElem?_map, Option.map_eq_none_iff] at hnone

/-- One client changes, without receiving anything. -/
lemma RelayAgrees.modify {trace : List (ℕ × ServerMessage)} {relay : Relay capacity}
    (h : RelayAgrees trace relay) (k : ℕ) {change : Client → Client}
    (hagrees : ∀ client received, Agrees relay.server client.isOpen (received ++ client.underWay) →
      Agrees relay.server (change client).isOpen (received ++ (change client).underWay)) :
    RelayAgrees trace { relay with clients := relay.clients.modify k change } := by
  refine ⟨h.tracked, fun j client hclient => ?_, fun j hnone => h.unconnected j ?_⟩
  · simp only [List.getElem?_modify, Option.map_eq_map, Option.map_eq_some_iff] at hclient
    obtain ⟨client, hclient, rfl⟩ := hclient
    have hbefore := h.agrees j client hclient
    split
    · exact hagrees _ _ hbefore
    · exact hbefore
  · simpa only [List.getElem?_modify, Option.map_eq_map, Option.map_eq_none_iff] using hnone

/-- A client connects. -/
lemma RelayAgrees.connect {trace : List (ℕ × ServerMessage)} {relay : Relay capacity}
    (h : RelayAgrees trace relay) : RelayAgrees trace relay.connect := by
  have hclients : relay.connect.clients = relay.clients ++
      [{ underWay := [.history (relay.server.history.toArray.map TelemetrySample.overJson)
          relay.server.metrics, .controlStatus relay.controlConnected] }] := rfl
  refine ⟨h.tracked, fun k client hclient => ?_, fun k hnone => ?_⟩
  · rcases lt_trichotomy k relay.clients.length with hk | rfl | hk
    · rw [hclients, List.getElem?_append_left hk] at hclient
      exact h.agrees k client hclient
    · rw [hclients, List.getElem?_concat_length] at hclient
      rw [h.unconnected _ (List.getElem?_eq_none le_rfl), ← Option.some_inj.mp hclient]
      exact agrees_connect relay.server relay.controlConnected
    · rw [hclients, List.getElem?_eq_none (by rw [List.length_append]; exact hk)] at hclient
      simp at hclient
  · rw [List.getElem?_eq_none_iff, hclients, List.length_append] at hnone
    exact h.unconnected k (List.getElem?_eq_none (by omega))

/-- A delivery is received by the client it is for, if anything is under way. -/
lemma receivedBy_deliver (relay : Relay capacity) (k j : ℕ) :
    receivedBy j (relay.received (.deliver k)) =
      if k = j then (relay.clients[k]?.bind (·.underWay.head?)).toList else [] := by
  simp only [Relay.received]
  rcases relay.clients[k]? with _ | ⟨isOpen, underWay, samples⟩
  · simp [receivedBy]
  · cases underWay with
    | nil => simp [receivedBy]
    | cons message rest =>
      rcases eq_or_ne k j with rfl | hne
      · simp [receivedBy]
      · simp [receivedBy, hne]

/-- What leaves the messages under way joins those received. -/
lemma head?_append_underWay_deliver (client : Client) :
    client.underWay.head?.toList ++ client.deliver.underWay = client.underWay := by
  obtain ⟨isOpen, underWay, samples⟩ := client
  cases underWay <;> rfl

/-- A message reaches a client. -/
lemma RelayAgrees.deliver {trace : List (ℕ × ServerMessage)} {relay : Relay capacity}
    (h : RelayAgrees trace relay) (k : ℕ) :
    RelayAgrees (trace ++ relay.received (.deliver k)) (relay.next (.deliver k)) := by
  have hclients : (relay.next (.deliver k)).clients = relay.clients.modify k Client.deliver := rfl
  refine ⟨h.tracked, fun j client hclient => ?_, fun j hnone => ?_⟩
  · rw [hclients, List.getElem?_modify, Option.map_eq_map, Option.map_eq_some_iff] at hclient
    obtain ⟨client, hclient, rfl⟩ := hclient
    have hbefore := h.agrees j client hclient
    rw [receivedBy_append, receivedBy_deliver]
    split
    · next hkj =>
      subst hkj
      rw [Client.isOpen_deliver, hclient, Option.bind_some, List.append_assoc,
        head?_append_underWay_deliver]
      exact hbefore
    · rw [List.append_nil]
      exact hbefore
  · rw [hclients, List.getElem?_modify, Option.map_eq_map, Option.map_eq_none_iff] at hnone
    rw [receivedBy_append, h.unconnected j hnone, receivedBy_deliver, List.nil_append]
    split
    · next hkj => rw [hkj, hnone]; rfl
    · rfl

/-- **Step lemma**: an event whose datagram, if it is one, has a sequence number that has not
wrapped. -/
lemma RelayAgrees.next {trace : List (ℕ × ServerMessage)} {relay : Relay capacity}
    (h : RelayAgrees trace relay) (action : Relay.Action)
    (hsequence : ∀ datagram sample, action = .datagram datagram → datagram.sample? = some sample →
      sample.sequence < 2 ^ 31) :
    RelayAgrees (trace ++ relay.received action) (relay.next action) := by
  cases action with
  | deliver k => exact h.deliver k
  | connect =>
    rw [show relay.received .connect = [] from rfl, List.append_nil]
    exact h.connect
  | datagram datagram =>
    rw [show relay.received (.datagram datagram) = [] from rfl, List.append_nil]
    exact h.map (h.tracked.acceptPacket fun sample => hsequence datagram sample rfl) _
      (Relay.clients_foldl_broadcast relay _)
      fun isOpen sent hsent => hsent.acceptPacket h.tracked datagram
  | controlStatus connected =>
    rw [show relay.received (.controlStatus connected) = [] from rfl, List.append_nil]
    exact h.map h.tracked [.controlStatus connected] rfl
      fun isOpen sent hsent => hsent.other (fun _ => rfl) (by simp [ServerMessage.overJson])
  | commandAck id fault enabled acknowledgedAtMs =>
    rw [show relay.received (.commandAck id fault enabled acknowledgedAtMs) = [] from rfl,
      List.append_nil]
    exact h.map h.tracked [.commandAck id fault enabled acknowledgedAtMs] rfl
      fun isOpen sent hsent => hsent.other (fun _ => rfl) (by simp [ServerMessage.overJson])
  | commandError k id text =>
    rw [show relay.received (.commandError k id text) = [] from rfl, List.append_nil]
    refine h.modify k fun client received hsent => ?_
    have hsend := foldl_send client [.commandError id text]
    rw [List.foldl_cons, List.foldl_nil] at hsend
    rw [hsend, ← List.append_assoc]
    exact hsent.other (fun _ => rfl) (by simp [ServerMessage.overJson])
  | close k =>
    rw [show relay.received (.close k) = [] from rfl, List.append_nil]
    exact h.modify k fun client received hsent => ⟨hsent.starts, hsent.continues, by simp⟩

/-- The sequence numbers of the valid packets of a run have not wrapped. -/
def SequencesBelowHalf (actions : List Relay.Action) : Prop :=
  ∀ datagram, .datagram datagram ∈ actions → ∀ sample, datagram.sample? = some sample →
    sample.sequence < 2 ^ 31

/-- **Run lemma**: in every run of such packets, what is sent to the clients agrees with the
server. -/
lemma relayAgrees_of_run {actions : List Relay.Action} (hsequence : SequencesBelowHalf actions)
    {relay : Relay capacity} {trace : List (ℕ × ServerMessage)}
    (hrun : (Relay.system capacity).run actions = some (relay, trace)) :
    RelayAgrees trace relay := by
  induction actions using List.reverseRecOn generalizing relay trace with
  | nil =>
    obtain ⟨rfl, rfl⟩ := Prod.mk.inj (Option.some_inj.mp hrun)
    exact ⟨tracked_fresh capacity, fun k client hclient => by simp [Relay.system] at hclient,
      fun k _ => rfl⟩
  | append_singleton actions action ih =>
    obtain ⟨relay₀, trace₀, events, hrun₀, hstep, rfl⟩ :=
      (Relay.system capacity).run_concat_eq_some hrun
    obtain ⟨rfl, rfl⟩ := Prod.mk.inj (Option.some_inj.mp hstep)
    have hagrees := ih (fun datagram hmem => hsequence datagram (List.mem_append_left _ hmem)) hrun₀
    refine hagrees.next action fun datagram sample haction => hsequence datagram ?_ sample
    rw [haction]
    simp

end Run

/-! ## New lists of samples -/

/-- The handler of a message sets the variable `replaceWithHistory`: whatever was collected or
shown is given up. -/
def startsNewList (hook : UseTelemetry) (message : ServerMessage) : Bool :=
  ({ hook with replaceWithHistory := false }.acceptMessage message).replaceWithHistory

/-- The server announces that the samples of its clients are not to be continued. -/
def isBoundary : ServerMessage → Bool
  | .history _ _ => true
  | .reset _ => true
  | _ => false

/-- Telemetry starts a new list when the hook takes it for a new flight. -/
lemma startsNewList_telemetry (hook : UseTelemetry) (sample : TelemetrySample)
    (metrics : StreamMetrics) :
    startsNewList hook (.telemetry sample metrics) = startsNewFlight hook.latestSample sample := by
  cases hnew : startsNewFlight hook.latestSample sample with
  | true =>
    have hkeep : shouldRetainSample none sample defaultStride = true := rfl
    simp [startsNewList, UseTelemetry.acceptMessage, hnew, hkeep]
  | false =>
    simp only [startsNewList, UseTelemetry.acceptMessage, hnew, Bool.false_eq_true, if_false]
    split <;> rfl

/-- Every other message starts one exactly if it announces it. -/
lemma startsNewList_of_ne_telemetry (hook : UseTelemetry) {message : ServerMessage}
    (h : ∀ sample metrics, message ≠ .telemetry sample metrics) :
    startsNewList hook message = isBoundary message := by
  cases message with
  | telemetry sample metrics => exact absurd rfl (h sample metrics)
  | _ => rfl

/-- **Agreement on flight boundaries**: the server relays packets whose sequence numbers have not
wrapped; a client connects at some point and its dashboard, which may have received other messages
before, receives what it is sent, in order, and flushes and renders whenever it likes. Then no
telemetry message passes the dashboard's own test for a new flight, and the dashboard starts a new
list of samples exactly at a history or a reset.

**Proof sketch.** The last sample a client has received, once everything sent to it has arrived, is
the last one of the server's history, and the tracker's number is at least that sample's
(`Tracked`). So a sample that passes the dashboard's test passes the server's, and the server has
put a reset before it. -/
theorem startsNewList_iff_isBoundary (capacity : ℕ+) {actions : List Relay.Action}
    (hsequence : SequencesBelowHalf actions) {relay : Relay capacity}
    {trace : List (ℕ × ServerMessage)}
    (hrun : (Relay.system capacity).run actions = some (relay, trace)) (k : ℕ)
    {hookActions : List UseTelemetry.Action} {hook : UseTelemetry}
    {prior received later : List ServerMessage} {message : ServerMessage}
    (hhook : UseTelemetry.system.run hookActions = some (hook, prior ++ received))
    (hreceived : receivedBy k trace = received ++ message :: later) :
    (∀ sample metrics, message = .telemetry sample metrics →
      startsNewFlight hook.latestSample sample = false) ∧
    (startsNewList hook message ↔ isBoundary message) := by
  have hinv := relayAgrees_of_run hsequence hrun
  have hnew : ∀ sample metrics, message = .telemetry sample metrics →
      startsNewFlight hook.latestSample sample = false := by
    rintro sample metrics rfl
    cases hclient : relay.clients[k]? with
    | none =>
      rw [hinv.unconnected k hclient] at hreceived
      simp at hreceived
    | some client =>
      have hagrees := hinv.agrees k client hclient
      rw [hreceived] at hagrees
      obtain ⟨samples, metrics', rest, hstarts⟩ := hagrees.starts
      -- The first message is a history, so it is among those already received.
      cases received with
      | nil => simp at hstarts
      | cons first received =>
        obtain ⟨rfl, -⟩ := List.cons.inj hstarts
        have hlatest := latestSample_of_run hhook
        rw [latestReceived_append_history] at hlatest
        rw [hlatest]
        exact hagrees.continues _ sample metrics ⟨later ++ client.underWay, by simp⟩
  refine ⟨hnew, ?_⟩
  cases message with
  | telemetry sample metrics =>
    rw [startsNewList_telemetry, hnew sample metrics rfl]
    rfl
  | _ => rw [startsNewList_of_ne_telemetry hook (by simp)]

/-- A packet of the current flight is relayed. -/
lemma next_datagram_record {capacity : ℕ+} {server : TelemetryServer capacity}
    {datagram : Datagram} {sample : TelemetrySample} (h : datagram.sample? = some sample)
    (hrestarted : server.restarted sample = false) (relay : Relay capacity)
    (hserver : relay.server = server) :
    relay.next (.datagram datagram) =
      { relay.broadcast (.telemetry sample (server.record sample).metrics) with
        server := server.record sample } := by
  simp only [Relay.next, Relay.acceptPacket, hserver,
    TelemetryServer.acceptPacket_record _ h hrestarted, List.foldl_cons, List.foldl_nil]

/-- A packet of a new flight is relayed after a reset. -/
lemma next_datagram_restart {capacity : ℕ+} {server : TelemetryServer capacity}
    {datagram : Datagram} {sample : TelemetrySample} (h : datagram.sample? = some sample)
    (hrestarted : server.restarted sample = true) (relay : Relay capacity)
    (hserver : relay.server = server) :
    relay.next (.datagram datagram) =
      { (relay.broadcast (.reset {})).broadcast
          (.telemetry sample ((TelemetryServer.fresh capacity).record sample).metrics) with
        server := (TelemetryServer.fresh capacity).record sample } := by
  simp only [Relay.next, Relay.acceptPacket, hserver,
    TelemetryServer.acceptPacket_restart _ h hrestarted, List.foldl_cons, List.foldl_nil]
  rfl

/-- The sample of packet `i` on the pad. -/
def sampleOnPad (i : ℕ) : TelemetrySample := sampleOf (padPacket i) .prelaunch 0

/-- A client connects after packet 5 of a vehicle on the pad; packet 3 comes late, and packet 0
begins another flight. The client receives everything it is sent. -/
def lateAndReset : List Relay.Action :=
  [.datagram ⟨Protocol.serialize (padPacket 5), 0⟩, .connect,
    .datagram ⟨Protocol.serialize (padPacket 3), 0⟩,
    .datagram ⟨Protocol.serialize (padPacket 0), 0⟩,
    .deliver 0, .deliver 0, .deliver 0, .deliver 0, .deliver 0]

/-- The server after the first packet. -/
def padServer (capacity : ℕ+) : TelemetryServer capacity :=
  (TelemetryServer.fresh capacity).record (sampleOnPad 5)

/-- The server after the last packet. -/
def resetServer (capacity : ℕ+) : TelemetryServer capacity :=
  (TelemetryServer.fresh capacity).record (sampleOnPad 0)

/-- What the client receives before the reset. -/
def lateMessages (capacity : ℕ+) : List ServerMessage :=
  [.history [(sampleOnPad 5).overJson] (padServer capacity).metrics, .controlStatus false,
    .telemetry (sampleOnPad 3).overJson ((padServer capacity).record (sampleOnPad 3)).metrics]

/-- What it receives from then on. -/
def resetMessages (capacity : ℕ+) : List ServerMessage :=
  [.reset {}, .telemetry (sampleOnPad 0).overJson (resetServer capacity).metrics]

/-- That is such a run. -/
lemma run_lateAndReset : (Relay.system 2).run lateAndReset =
    some ({ server := resetServer 2, clients := [{ samples := [(sampleOnPad 0).overJson] }] },
      (lateMessages 2 ++ resetMessages 2).map (0, ·)) := by
  have hlate : (padServer 2).restarted (sampleOnPad 3) = false := by decide +kernel
  have hreset : ((padServer 2).record (sampleOnPad 3)).restarted (sampleOnPad 0) = true := by
    decide +kernel
  simp only [lateAndReset, System.run, List.foldlM_cons, List.foldlM_nil, System.extend,
    Relay.system, Option.map_some, Option.bind_eq_bind, Option.bind_some]
  rw [next_datagram_record (sample?_padPacket 5) (TelemetryServer.restarted_fresh _) _ rfl,
    next_datagram_record (sample?_padPacket 3) hlate _ rfl,
    next_datagram_restart (sample?_padPacket 0) hreset _ rfl]
  rfl

/-- The numbers of its packets are 5, 3 and 0. -/
lemma sequencesBelowHalf_lateAndReset : SequencesBelowHalf lateAndReset := by
  have hpad : ∀ i < 2 ^ 31, ∀ sample, Datagram.sample? ⟨Protocol.serialize (padPacket i), 0⟩ =
      some sample → sample.sequence < 2 ^ 31 := by
    intro i hi sample hsample
    rw [sample?_padPacket] at hsample
    rw [← Option.some_inj.mp hsample, sequence_padPacket hi]
    exact hi
  intro datagram hmem sample hsample
  simp only [lateAndReset, List.mem_cons, Relay.Action.datagram.injEq, reduceCtorEq,
    List.not_mem_nil, false_or, or_false] at hmem
  rcases hmem with rfl | rfl | rfl
  · exact hpad 5 (by decide) sample hsample
  · exact hpad 3 (by decide) sample hsample
  · exact hpad 0 (by decide) sample hsample

/-- The dashboard takes the late packet for one of the same flight, and gives its samples up at the
reset. -/
theorem startsNewList_iff_isBoundary_lateAndReset :
    ∃ (relay : Relay 2) (trace : List (ℕ × ServerMessage)) (hook late : UseTelemetry),
      (Relay.system 2).run lateAndReset = some (relay, trace) ∧
      UseTelemetry.system.run (((lateMessages 2).take 2).map .message) =
        some (hook, [] ++ (lateMessages 2).take 2) ∧
      UseTelemetry.system.run ((lateMessages 2).map .message) = some (late, [] ++ lateMessages 2) ∧
      hook.latestSample = some (sampleOnPad 5).overJson ∧
      startsNewFlight hook.latestSample (sampleOnPad 3).overJson = false ∧
      startsNewList late (.reset {}) := by
  obtain ⟨hook, hhook, hlatest⟩ : ∃ hook,
      UseTelemetry.system.run (((lateMessages 2).take 2).map .message) =
        some (hook, [] ++ (lateMessages 2).take 2) ∧
      hook.latestSample = some (sampleOnPad 5).overJson := ⟨_, rfl, rfl⟩
  obtain ⟨late, hhook'⟩ : ∃ late,
      UseTelemetry.system.run ((lateMessages 2).map .message) = some (late, [] ++ lateMessages 2) :=
    ⟨_, rfl⟩
  have hsame := (startsNewList_iff_isBoundary 2 sequencesBelowHalf_lateAndReset
    run_lateAndReset 0 hhook rfl).1 _ _ rfl
  have hreset := (startsNewList_iff_isBoundary 2 sequencesBelowHalf_lateAndReset
    run_lateAndReset 0 hhook' rfl).2.mpr rfl
  exact ⟨_, _, hook, late, run_lateAndReset, hhook, hhook', hlatest, hsame, hreset⟩

end FlightDeck.System
