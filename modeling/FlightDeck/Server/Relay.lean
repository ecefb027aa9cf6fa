import FlightDeck.Lib.TransitionSystem
import FlightDeck.Protocol.Telemetry
import FlightDeck.Server.TelemetryServer

set_option relaxedAutoImplicit false
set_option autoImplicit false

/-!
# The server and its WebSocket clients

A client gets the history when it connects and every broadcast after that. The `ws` library
adds a client to `clients` and emits its connection event in one tick, so no packet is accepted
between the two, and it delivers the messages to one client in order; how long a message is
under way is open.

## Main definitions

* `Relay` — the server and its clients, with the messages under way to each.
* `Relay.step` — a client connects or closes, a datagram arrives, a message is broadcast or
  delivered.
* `Client.view` — what a client holds once everything under way has reached it.

## Main results

* `Relay.isInvariant` — every open client's view ends in the server's history.
* `Relay.backfill_joins_stream` — that, for every interleaving.
-/

namespace FlightDeck.Server

open TransitionSystem

/-! ## JSON -/

/-- `JSON.parse(JSON.stringify(value))` of a finite number: the number, but `-0` is written
`0`. -/
def jsonNumber (value : BitVec 64) : BitVec 64 :=
  if value = 0x8000000000000000#64 then 0 else value

/-- What is read back is the same number. -/
lemma value_jsonNumber (value : BitVec 64) :
    Ieee754.binary64.value (jsonNumber value).toNat = Ieee754.binary64.value value.toNat := by
  rw [jsonNumber]
  split
  · next h =>
    rw [h]
    simp [Ieee754.Format.value, Ieee754.Format.magnitude, Ieee754.Format.exponentField,
      Ieee754.Format.fraction, Ieee754.binary64]
  · rfl

/-- A sample as a client reads it back from a message. -/
def TelemetrySample.overJson (sample : TelemetrySample) : TelemetrySample :=
  { sample with
    positionM := jsonNumber ∘ sample.positionM
    velocityMps := jsonNumber ∘ sample.velocityMps
    orientationWxyz := jsonNumber ∘ sample.orientationWxyz
    thrustPercent := jsonNumber sample.thrustPercent
    chamberPressureMpa := jsonNumber sample.chamberPressureMpa
    gimbalCommandDeg := jsonNumber ∘ sample.gimbalCommandDeg
    gridFinCommandDeg := jsonNumber ∘ sample.gridFinCommandDeg
    truthPositionM := jsonNumber ∘ sample.truthPositionM
    truthVelocityMps := jsonNumber ∘ sample.truthVelocityMps }

/-- A message as a client reads it back. -/
def ServerMessage.overJson : ServerMessage → ServerMessage
  | .history samples metrics => .history (samples.map TelemetrySample.overJson) metrics
  | .telemetry sample metrics => .telemetry sample.overJson metrics
  | message => message

/-! ## Clients -/

/-- A client, from the server's end of the connection to the list it accumulates. -/
structure Client where
  /-- `client.readyState === WebSocket.OPEN`. -/
  isOpen : Bool := true
  /-- Messages sent and not yet delivered, as the client will read them. -/
  underWay : List ServerMessage := []
  /-- The samples the client holds. -/
  samples : List TelemetrySample := []

namespace Client

/-- A client's list after a message: a history replaces it, a reset empties it, telemetry
appends to it. -/
def apply (samples : List TelemetrySample) : ServerMessage → List TelemetrySample
  | .history received _ => received
  | .reset _ => []
  | .telemetry sample _ => samples ++ [sample]
  | _ => samples

/-- `#send`, and the body of the loop of `#broadcast`. -/
def send (client : Client) (message : ServerMessage) : Client :=
  if client.isOpen then { client with underWay := client.underWay ++ [message.overJson] }
  else client

/-- The next message under way reaches the client. -/
def deliver (client : Client) : Client :=
  match client.underWay with
  | [] => client
  | message :: rest => { client with underWay := rest, samples := apply client.samples message }

/-- What the client holds once every message under way has reached it. -/
def view (client : Client) : List TelemetrySample := client.underWay.foldl apply client.samples

@[simp] lemma isOpen_send (client : Client) (message : ServerMessage) :
    (client.send message).isOpen = client.isOpen := by
  rw [send]
  split <;> rfl

@[simp] lemma isOpen_deliver (client : Client) : client.deliver.isOpen = client.isOpen := by
  rw [deliver]
  split <;> rfl

/-- A message sent to an open client will be applied last. -/
lemma view_send {client : Client} (h : client.isOpen) (message : ServerMessage) :
    (client.send message).view = apply client.view message.overJson := by
  simp [send, h, view, List.foldl_append]

/-- Delivery changes nothing of what the client will hold. -/
@[simp] lemma view_deliver (client : Client) : client.deliver.view = client.view := by
  rw [deliver]
  split
  · rfl
  · next h => simp [view, h]

end Client

/-! ## The relay -/

/-- The server with everyone who ever connected. -/
structure Relay (capacity : ℕ+) where
  /-- The server's state. -/
  server : TelemetryServer capacity
  /-- `#control.connected`. -/
  controlConnected : Bool := false
  /-- The clients, in the order they connected. -/
  clients : List Client := []

namespace Relay

variable {capacity : ℕ+}

/-- What happens next. -/
inductive Action
  /-- A client connects. -/
  | connect
  /-- A datagram arrives. -/
  | datagram (datagram : Datagram)
  /-- `onStatus(connected)`. -/
  | controlStatus (connected : Bool)
  /-- `onAcknowledgement(id, fault, enabled)` at some time. -/
  | commandAck (id : List Char) (fault : FaultType) (enabled : Bool) (acknowledgedAtMs : ℕ)
  /-- A client's command is answered with an error. -/
  | commandError (client : ℕ) (id : Option (List Char)) (message : String)
  /-- The next message under way to a client is delivered. -/
  | deliver (client : ℕ)
  /-- A client's connection stops being open. -/
  | close (client : ℕ)

/-- `#broadcast`. -/
def broadcast (relay : Relay capacity) (message : ServerMessage) : Relay capacity :=
  { relay with clients := relay.clients.map (·.send message) }

/-- The connection handler: history, then control status. -/
def connect (relay : Relay capacity) : Relay capacity :=
  let client : Client := {}
  let client := client.send (.history relay.server.history.toArray relay.server.metrics)
  let client := client.send (.controlStatus relay.controlConnected)
  { relay with clients := relay.clients ++ [client] }

/-- A datagram is processed, and its messages are broadcast. -/
def acceptPacket (relay : Relay capacity) (datagram : Datagram) : Relay capacity :=
  let (server, messages) := relay.server.acceptPacket datagram
  { messages.foldl broadcast relay with server }

/-- One event. -/
def next (relay : Relay capacity) : Action → Relay capacity
  | .connect => relay.connect
  | .datagram datagram => relay.acceptPacket datagram
  | .controlStatus connected =>
    { relay with controlConnected := connected }.broadcast (.controlStatus connected)
  | .commandAck id fault enabled acknowledgedAtMs =>
    relay.broadcast (.commandAck id fault enabled acknowledgedAtMs)
  | .commandError client id message =>
    { relay with clients := relay.clients.modify client (·.send (.commandError id message)) }
  | .deliver client => { relay with clients := relay.clients.modify client Client.deliver }
  | .close client =>
    { relay with clients := relay.clients.modify client ({ · with isOpen := false }) }

/-- The message a client receives in an event, with the client's number. -/
def received (relay : Relay capacity) : Action → List (ℕ × ServerMessage)
  | .deliver client =>
    match relay.clients[client]? with
    | some { underWay := message :: _, .. } => [(client, message)]
    | _ => []
  | _ => []

/-- The relay under every order of events; the clients observe what they receive. -/
def system (capacity : ℕ+) : System (Relay capacity) Action (ℕ × ServerMessage) where
  init := { server := .fresh capacity }
  step relay action := some (relay.next action, relay.received action)

/-- What a client holds, or will, ends in the server's history. -/
def Joined (server : TelemetryServer capacity) (client : Client) : Prop :=
  client.isOpen → client.view.rtake capacity = server.history.toArray.map TelemetrySample.overJson

/-- Every client is joined. -/
def Invariant (relay : Relay capacity) : Prop :=
  ∀ client ∈ relay.clients, Joined relay.server client

/-! ## Steps -/

/-- A message that is no news of the stream leaves a client joined. -/
lemma Joined.send {server : TelemetryServer capacity} {client : Client}
    (h : Joined server client) {message : ServerMessage}
    (hmessage : ∀ samples, Client.apply samples message.overJson = samples) :
    Joined server (client.send message) := by
  intro hopen
  rw [Client.isOpen_send] at hopen
  rw [Client.view_send hopen, hmessage]
  exact h hopen

/-- A recorded sample and its broadcast keep a client joined. -/
lemma Joined.record {server : TelemetryServer capacity} {client : Client}
    (h : Joined server client) (sample : TelemetrySample) (metrics : StreamMetrics) :
    Joined (server.record sample) (client.send (.telemetry sample metrics)) := by
  intro hopen
  rw [Client.isOpen_send] at hopen
  have hhistory : (server.record sample).history.toArray =
      (server.history.toArray ++ [sample]).rtake capacity :=
    CircularBuffer.toArray_push _ _
  rw [Client.view_send hopen, hhistory, ← Window.rtake_map, List.map_append, ← h hopen,
    Window.rtake_rtake_append]
  rfl

/-- A restart and its broadcast join every client to a fresh server. -/
lemma joined_reset (client : Client) (metrics : StreamMetrics) :
    Joined (.fresh capacity) (client.send (.reset metrics)) := by
  intro hopen
  rw [Client.isOpen_send] at hopen
  rw [Client.view_send hopen]
  simp [TelemetryServer.fresh, ServerMessage.overJson, Client.apply]

/-- **A datagram keeps every client joined**: the messages of a datagram do to a client's list
what the datagram does to the server's history. -/
lemma Joined.acceptPacket {server : TelemetryServer capacity} {client : Client}
    (h : Joined server client) (datagram : Datagram) :
    Joined (server.acceptPacket datagram).1
      ((server.acceptPacket datagram).2.foldl Client.send client) := by
  cases hsample : datagram.sample? with
  | none =>
    rw [TelemetryServer.acceptPacket_reject _ hsample]
    exact h
  | some sample =>
    cases hrestarted : server.restarted sample with
    | true =>
      rw [TelemetryServer.acceptPacket_restart _ hsample hrestarted]
      exact (joined_reset client _).record sample _
    | false =>
      rw [TelemetryServer.acceptPacket_record _ hsample hrestarted]
      exact h.record sample _

/-- A client that has just connected is joined. -/
lemma joined_connect (server : TelemetryServer capacity) (connected : Bool) :
    Joined server
      ((({} : Client).send (.history server.history.toArray server.metrics)).send
        (.controlStatus connected)) := by
  refine Joined.send (fun hopen => ?_) fun _ => rfl
  rw [Client.view_send rfl]
  refine Window.rtake_of_length_le ?_
  simpa [Client.apply, ServerMessage.overJson] using server.history.length_le

/-- The broadcasts of a datagram go to each client in turn. -/
lemma clients_foldl_broadcast (relay : Relay capacity) (messages : List ServerMessage) :
    (messages.foldl broadcast relay).clients =
      relay.clients.map (messages.foldl Client.send) := by
  induction messages generalizing relay with
  | nil => simp
  | cons message messages ih =>
    rw [List.foldl_cons, ih, broadcast, List.map_map]
    rfl

/-- Changing one client in a way that keeps it joined. -/
lemma Invariant.modify {relay : Relay capacity} (h : Invariant relay) (k : ℕ)
    {change : Client → Client}
    (hchange : ∀ client, Joined relay.server client → Joined relay.server (change client)) :
    Invariant { relay with clients := relay.clients.modify k change } := by
  intro client hmem
  obtain ⟨i, hi, rfl⟩ := List.getElem_of_mem hmem
  rw [List.length_modify] at hi
  have hjoined := h _ (List.getElem_mem hi)
  simp only [List.getElem_modify]
  split
  · exact hchange _ hjoined
  · exact hjoined

/-- **Step lemma**: every event keeps every open client joined. -/
lemma Invariant.next {relay : Relay capacity} (h : Invariant relay) (action : Action) :
    Invariant (relay.next action) := by
  cases action with
  | connect =>
    intro client hmem
    rcases List.mem_append.mp hmem with hold | hnew
    · exact h client hold
    · rw [List.mem_singleton.mp hnew]
      exact joined_connect _ _
  | datagram datagram =>
    intro client hmem
    obtain ⟨client, hclient, rfl⟩ : ∃ c ∈ relay.clients,
        (relay.server.acceptPacket datagram).2.foldl Client.send c = client := by
      have hclients := clients_foldl_broadcast relay (relay.server.acceptPacket datagram).2
      exact List.mem_map.mp (hclients ▸ hmem)
    exact (h client hclient).acceptPacket datagram
  | controlStatus connected =>
    intro client hmem
    obtain ⟨client, hclient, rfl⟩ := List.mem_map.mp hmem
    exact (h client hclient).send fun _ => rfl
  | commandAck id fault enabled acknowledgedAtMs =>
    intro client hmem
    obtain ⟨client, hclient, rfl⟩ := List.mem_map.mp hmem
    exact (h client hclient).send fun _ => rfl
  | commandError k id message => exact h.modify k fun client hjoined => hjoined.send fun _ => rfl
  | deliver k =>
    refine h.modify k fun client hjoined hopen => ?_
    rw [Client.view_deliver]
    exact hjoined (by simpa using hopen)
  | close k => exact h.modify k fun client _ hopen => by simp at hopen

/-- **Run lemma**: every open client is joined after every run. -/
lemma isInvariant (capacity : ℕ+) :
    (system capacity).IsInvariant fun _ relay => Invariant relay where
  start := fun client hmem => by simp [system] at hmem
  keep trace relay action relay' events _ h hstep := by
    obtain ⟨rfl, -⟩ : relay.next action = relay' ∧ _ := by simpa [system] using hstep
    exact h.next action

/-- **Backfill and live stream join without gap or duplicate**: after any order of events, an
open client that applies the messages sent to it holds a list that ends in exactly the server's
history and is at least as long.

**Proof sketch.** A client starts with a copy of the history. From then on the broadcasts of a
datagram do to its list what the datagram does to the history, but for the bound: the history
is the window of the list, and windows of windows are windows (`Joined.acceptPacket`). -/
theorem backfill_joins_stream (capacity : ℕ+) (actions : List Action) {relay : Relay capacity}
    {trace : List (ℕ × ServerMessage)} (hrun : (system capacity).run actions = some (relay, trace))
    {client : Client} (hclient : client ∈ relay.clients) (hopen : client.isOpen) :
    client.view.rtake (min capacity client.view.length) =
        relay.server.history.toArray.map TelemetrySample.overJson ∧
      relay.server.history.toArray.length ≤ client.view.length := by
  have hjoined := (isInvariant capacity).of_run hrun client hclient hopen
  have hlength := congrArg List.length hjoined
  rw [Window.length_rtake, List.length_map] at hlength
  refine ⟨?_, by omega⟩
  rw [← hjoined, ← Window.rtake_rtake_of_le (min_le_left _ _)]
  exact Window.rtake_of_length_le (by simp)

/-- A client that connects after the first packet, beside one that was there before it. -/
theorem backfill_joins_stream_second :
    ∃ (relay : Relay 2) (trace : List (ℕ × ServerMessage)) (client : Client),
      (system 2).run [.connect, .datagram ⟨Protocol.serialize {}, 0⟩, .connect] =
        some (relay, trace) ∧
      client ∈ relay.clients ∧
      client.view.rtake (min 2 client.view.length) =
        relay.server.history.toArray.map TelemetrySample.overJson :=
  have hrun := (system 2).run_concat [.connect, .datagram ⟨Protocol.serialize {}, 0⟩] .connect
  have hmem := List.mem_append_right _ (List.mem_singleton_self _)
  ⟨_, _, _, hrun, hmem, (backfill_joins_stream 2 _ hrun hmem rfl).1⟩

end Relay

end FlightDeck.Server
