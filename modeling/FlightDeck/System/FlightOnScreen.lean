import FlightDeck.Dashboard.Retention
import FlightDeck.Dashboard.TelemetryLink
import FlightDeck.Server.Segments
import FlightDeck.System.FlightBoundaries

set_option relaxedAutoImplicit false
set_option autoImplicit false

/-!
# The flight on the screen

From the datagrams that reach the server to what a dashboard shows. A dashboard connects, loses
its connection and connects again; each time it is sent a history, and then whatever the server
broadcasts. Once all of it has arrived, been flushed and rendered, the screen shows the flight the
server is in: of the samples recorded before the connection those that `displaySamples` keeps, of
the later ones those that the retention rule keeps, and none of an earlier flight.

## Main definitions

* `flightSamples` — the samples of the server's current flight.
* `displayOf` — what a dashboard shows of a history and the samples after it.
* `Relayed` — a property of what is sent to a client, kept by all that is sent.
* `InStep` — what a client has been sent against the server.

## Main results

* `Relayed.of_run` — such a property holds of every open client after every run.
* `screen_shows_flight` — what is on the screen.
-/

namespace FlightDeck.System

open Server Dashboard TransitionSystem Window Decimation

/-! ## What is sent to a client -/

/-- The datagrams of a run. -/
def datagramsOf (actions : List Relay.Action) : List Datagram :=
  actions.filterMap fun
    | .datagram datagram => some datagram
    | _ => none

@[simp] lemma datagramsOf_append (a₁ a₂ : List Relay.Action) :
    datagramsOf (a₁ ++ a₂) = datagramsOf a₁ ++ datagramsOf a₂ := List.filterMap_append

/-- A property of the datagrams that reached the server, of the state of its control link and of
what was sent to a client, which holds when the client connects and which all that is sent
keeps. -/
structure Relayed (capacity : ℕ+) (P : List Datagram → Bool → List ServerMessage → Prop) :
    Prop where
  /-- The client connects. -/
  connect : ∀ datagrams connected, P datagrams connected
    [.history ((TelemetryServer.run capacity datagrams).history.toArray.map
      TelemetrySample.overJson) (TelemetryServer.run capacity datagrams).metrics,
      .controlStatus connected]
  /-- A datagram reaches the server. -/
  datagram : ∀ datagrams connected sent datagram, P datagrams connected sent →
    P (datagrams ++ [datagram]) connected (sent ++
      ((TelemetryServer.run capacity datagrams).acceptPacket datagram).2.map
        ServerMessage.overJson)
  /-- The control link changes. -/
  controlStatus : ∀ datagrams connected sent now, P datagrams connected sent →
    P datagrams now (sent ++ [.controlStatus now])
  /-- A command is acknowledged. -/
  commandAck : ∀ datagrams connected sent id fault enabled acknowledgedAtMs,
    P datagrams connected sent →
      P datagrams connected (sent ++ [.commandAck id fault enabled acknowledgedAtMs])
  /-- A command is refused. -/
  commandError : ∀ datagrams connected sent id text, P datagrams connected sent →
    P datagrams connected (sent ++ [.commandError id text])

section Run

variable {capacity : ℕ+} {P : List Datagram → Bool → List ServerMessage → Prop}

/-- What a run has come to: the server has seen the datagrams, and what was sent to an open client
has the property. -/
structure Relayed.Holds (P : List Datagram → Bool → List ServerMessage → Prop)
    (datagrams : List Datagram) (trace : List (ℕ × ServerMessage)) (relay : Relay capacity) :
    Prop where
  /-- The server. -/
  server : relay.server = TelemetryServer.run capacity datagrams
  /-- What an open client has received and is yet to receive. -/
  sent : ∀ k client, relay.clients[k]? = some client → client.isOpen →
    P datagrams relay.controlConnected (receivedBy k trace ++ client.underWay)
  /-- Nothing is received before connecting. -/
  unconnected : ∀ k, relay.clients[k]? = none → receivedBy k trace = []

/-- The same is sent to every client. -/
lemma Relayed.Holds.map {datagrams datagrams' : List Datagram} {trace : List (ℕ × ServerMessage)}
    {relay relay' : Relay capacity} (h : Holds P datagrams trace relay)
    (hserver : relay'.server = TelemetryServer.run capacity datagrams')
    (messages : List ServerMessage)
    (hclients : relay'.clients = relay.clients.map (messages.foldl Client.send))
    (hsent : ∀ sent, P datagrams relay.controlConnected sent →
      P datagrams' relay'.controlConnected (sent ++ messages.map ServerMessage.overJson)) :
    Holds P datagrams' trace relay' := by
  refine ⟨hserver, fun k client hclient hopen => ?_, fun k hnone => h.unconnected k ?_⟩
  · rw [hclients, List.getElem?_map, Option.map_eq_some_iff] at hclient
    obtain ⟨client, hclient, rfl⟩ := hclient
    rw [foldl_send] at hopen ⊢
    have hopen : client.isOpen := hopen
    have hbefore := hsent _ (h.sent k client hclient hopen)
    simpa [underWayTo, hopen, List.append_assoc] using hbefore
  · rwa [hclients, List.getElem?_map, Option.map_eq_none_iff] at hnone

/-- Broadcasts do not touch the control link. -/
lemma controlConnected_foldl_broadcast (relay : Relay capacity) (messages : List ServerMessage) :
    (messages.foldl Relay.broadcast relay).controlConnected = relay.controlConnected := by
  induction messages generalizing relay with
  | nil => rfl
  | cons message messages ih => exact ih (relay.broadcast message)

/-- One client changes. -/
lemma Relayed.Holds.modify {datagrams : List Datagram} {trace trace' : List (ℕ × ServerMessage)}
    {relay : Relay capacity} (h : Holds P datagrams trace relay) (k : ℕ) (change : Client → Client)
    (hothers : ∀ j ≠ k, receivedBy j trace' = receivedBy j trace)
    (hnone : relay.clients[k]? = none → receivedBy k trace' = [])
    (hsent : ∀ client, relay.clients[k]? = some client → (change client).isOpen →
      P datagrams relay.controlConnected (receivedBy k trace' ++ (change client).underWay)) :
    Holds P datagrams trace' { relay with clients := relay.clients.modify k change } := by
  refine ⟨h.server, fun j client hclient hopen => ?_, fun j hnothing => ?_⟩
  · rw [List.getElem?_modify, Option.map_eq_map, Option.map_eq_some_iff] at hclient
    obtain ⟨client, hclient, rfl⟩ := hclient
    by_cases hjk : k = j
    · subst hjk
      rw [if_pos rfl] at hopen ⊢
      exact hsent client hclient hopen
    · rw [if_neg hjk] at hopen ⊢
      rw [hothers j (Ne.symm hjk)]
      exact h.sent j client hclient hopen
  · rw [List.getElem?_modify, Option.map_eq_map, Option.map_eq_none_iff] at hnothing
    by_cases hjk : j = k
    · subst hjk
      exact hnone hnothing
    · rw [hothers j hjk]
      exact h.unconnected j hnothing

/-- **Step lemma**. -/
lemma Relayed.Holds.next (hP : Relayed capacity P) {datagrams : List Datagram}
    {trace : List (ℕ × ServerMessage)} {relay : Relay capacity} (h : Holds P datagrams trace relay)
    (action : Relay.Action) :
    Holds P (datagrams ++ datagramsOf [action]) (trace ++ relay.received action)
      (relay.next action) := by
  cases action with
  | connect =>
    have hclients : (relay.next .connect).clients = relay.clients ++
        [{ underWay := [.history (relay.server.history.toArray.map TelemetrySample.overJson)
            relay.server.metrics, .controlStatus relay.controlConnected] }] := rfl
    have hnothing : relay.received .connect = [] := rfl
    rw [hnothing, List.append_nil, show datagramsOf [.connect] = [] from rfl, List.append_nil]
    refine ⟨h.server, fun k client hclient hopen => ?_, fun k hnone => ?_⟩
    · rcases lt_trichotomy k relay.clients.length with hk | rfl | hk
      · rw [hclients, List.getElem?_append_left hk] at hclient
        exact h.sent k client hclient hopen
      · rw [hclients, List.getElem?_concat_length] at hclient
        rw [h.unconnected _ (List.getElem?_eq_none le_rfl), ← Option.some_inj.mp hclient, h.server]
        exact hP.connect datagrams relay.controlConnected
      · rw [hclients, List.getElem?_eq_none (by rw [List.length_append]; exact hk)] at hclient
        simp at hclient
    · rw [List.getElem?_eq_none_iff, hclients, List.length_append] at hnone
      exact h.unconnected k (List.getElem?_eq_none (by omega))
  | datagram datagram =>
    rw [show relay.received (.datagram datagram) = [] from rfl, List.append_nil]
    refine h.map ?_ _ (Relay.clients_foldl_broadcast relay _) fun sent hsent => ?_
    · rw [show datagramsOf [.datagram datagram] = [datagram] from rfl, TelemetryServer.run_concat,
        ← h.server]
      rfl
    · have hcontrol : (relay.next (.datagram datagram)).controlConnected =
          relay.controlConnected := controlConnected_foldl_broadcast relay _
      rw [hcontrol, h.server]
      exact hP.datagram datagrams _ sent datagram hsent
  | controlStatus connected =>
    rw [show relay.received (.controlStatus connected) = [] from rfl, List.append_nil,
      show datagramsOf [.controlStatus connected] = [] from rfl, List.append_nil]
    exact h.map h.server [.controlStatus connected] rfl fun sent hsent =>
      hP.controlStatus datagrams _ sent connected hsent
  | commandAck id fault enabled acknowledgedAtMs =>
    rw [show relay.received (.commandAck id fault enabled acknowledgedAtMs) = [] from rfl,
      List.append_nil, show datagramsOf [.commandAck id fault enabled acknowledgedAtMs] = [] from
      rfl, List.append_nil]
    exact h.map h.server [.commandAck id fault enabled acknowledgedAtMs] rfl fun sent hsent =>
      hP.commandAck datagrams _ sent id fault enabled acknowledgedAtMs hsent
  | commandError k id text =>
    rw [show relay.received (.commandError k id text) = [] from rfl, List.append_nil,
      show datagramsOf [.commandError k id text] = [] from rfl, List.append_nil]
    refine h.modify k _ (fun _ _ => rfl) (h.unconnected k) fun client hclient hopen => ?_
    rw [Client.isOpen_send] at hopen
    have hsend : (client.send (.commandError id text)).underWay =
        client.underWay ++ [.commandError id text] := by
      rw [Client.send, if_pos hopen]
      rfl
    rw [hsend, ← List.append_assoc]
    exact hP.commandError datagrams _ _ id text (h.sent k client hclient hopen)
  | deliver k =>
    rw [show datagramsOf [.deliver k] = [] from rfl, List.append_nil]
    refine h.modify k _ (fun j hj => ?_) (fun hnone => ?_) fun client hclient hopen => ?_
    · rw [receivedBy_append, receivedBy_deliver, if_neg (Ne.symm hj), List.append_nil]
    · rw [receivedBy_append, h.unconnected k hnone, receivedBy_deliver, if_pos rfl, hnone]
      rfl
    · rw [Client.isOpen_deliver] at hopen
      rw [receivedBy_append, receivedBy_deliver, if_pos rfl, hclient, Option.bind_some,
        List.append_assoc, head?_append_underWay_deliver]
      exact h.sent k client hclient hopen
  | close k =>
    rw [show relay.received (.close k) = [] from rfl, List.append_nil,
      show datagramsOf [.close k] = [] from rfl, List.append_nil]
    exact h.modify k _ (fun _ _ => rfl) (h.unconnected k) fun client _ hopen => by simp at hopen

/-- **Run lemma**: what was sent to an open client has the property, after every run. -/
theorem Relayed.of_run (hP : Relayed capacity P) {actions : List Relay.Action}
    {relay : Relay capacity} {trace : List (ℕ × ServerMessage)}
    (hrun : (Relay.system capacity).run actions = some (relay, trace)) :
    Holds P (datagramsOf actions) trace relay := by
  induction actions using List.reverseRecOn generalizing relay trace with
  | nil =>
    obtain ⟨rfl, rfl⟩ := Prod.mk.inj (Option.some_inj.mp hrun)
    exact ⟨rfl, fun k client hclient => by simp [Relay.system] at hclient, fun k _ => rfl⟩
  | append_singleton actions action ih =>
    obtain ⟨relay₀, trace₀, events, hrun₀, hstep, rfl⟩ :=
      (Relay.system capacity).run_concat_eq_some hrun
    obtain ⟨rfl, rfl⟩ := Prod.mk.inj (Option.some_inj.mp hstep)
    rw [datagramsOf_append]
    exact (ih hrun₀).next hP action

end Run

/-! ## What a dashboard makes of it -/

/-- The samples of the server's current flight. -/
def flightSamples (capacity : ℕ+) (datagrams : List Datagram) : List TelemetrySample :=
  TelemetryServer.samples (TelemetryServer.segment capacity datagrams)

/-- What a dashboard shows of a history and the samples after it. -/
def displayOf (backlog live : List TelemetrySample) : CurrentFlight where
  samples := (displaySamples backlog defaultStride ++
    thin (retains defaultStride) backlog.getLast? live).rtake MAX_CLIENT_SAMPLES
  latest := live.getLast?.or backlog.getLast?

/-- The last sample shown has the phase and the faults of the last one received. -/
lemma map_retentionKey_displayOf (backlog live : List TelemetrySample) :
    (displayOf backlog live).samples.getLast?.map retentionKey =
      (displayOf backlog live).latest.map retentionKey := by
  have hbacklog : (displaySamples backlog defaultStride).getLast? = backlog.getLast? := by
    rcases List.eq_nil_or_concat backlog with rfl | ⟨samples, latest, rfl⟩
    · rfl
    · rw [List.concat_eq_append, displaySamples_concat, List.getLast?_concat, List.getLast?_concat]
  simp only [displayOf]
  rw [getLast?_rtake (by decide), List.getLast?_append, hbacklog,
    (keepsChanges_retains defaultStride).getLast?_thin]

/-- One sample more, of the same flight. -/
lemma receive_displayOf {backlog live : List TelemetrySample} {sample : TelemetrySample}
    (h : startsNewFlight (displayOf backlog live).latest sample = false)
    (metrics : StreamMetrics) :
    (displayOf backlog live).receive (.telemetry sample metrics) =
      displayOf backlog (live ++ [sample]) := by
  have hdecision : shouldRetainSample (displayOf backlog live).samples.getLast? sample
      defaultStride = retains defaultStride (live.getLast?.or backlog.getLast?) sample :=
    (keepsChanges_retains defaultStride).congr sample (map_retentionKey_displayOf backlog live)
  simp only [CurrentFlight.receive, h, Bool.false_eq_true, if_false, hdecision]
  simp only [displayOf, thin_append, CurrentFlight.mk.injEq, List.getLast?_concat, Option.some_or,
    and_true]
  cases hkeep : retains defaultStride (live.getLast?.or backlog.getLast?) sample with
  | true => rw [if_pos rfl, thin_cons_of_keep hkeep, thin_nil, rtake_rtake_append,
      List.append_assoc]
  | false => rw [if_neg (by simp), thin_cons_of_drop hkeep, thin_nil, List.append_nil]

/-- The metrics a message carries, or those before it. -/
def metricsAfter (metrics : StreamMetrics) : ServerMessage → StreamMetrics
  | .history _ metrics | .reset metrics | .telemetry _ metrics => metrics
  | _ => metrics

/-- The last metrics received. -/
def metricsOf (messages : List ServerMessage) : StreamMetrics := messages.foldl metricsAfter {}

/-- What was last said of the control link. -/
def controlOf (messages : List ServerMessage) : Bool := messages.foldl controlAfter false

/-- Metrics that may be behind by some undecodable datagrams: these are not broadcast. -/
structure UpToRejects (shown metrics : StreamMetrics) : Prop where
  valid : shown.valid = metrics.valid
  lost : shown.lost = metrics.lost
  reordered : shown.reordered = metrics.reordered
  rejected : shown.rejected ≤ metrics.rejected
  received : shown.received + metrics.rejected = metrics.received + shown.rejected

/-- Metrics are up to date with themselves. -/
lemma UpToRejects.refl (metrics : StreamMetrics) : UpToRejects metrics metrics :=
  ⟨rfl, rfl, rfl, le_rfl, rfl⟩

/-- What a client has been sent against the server: a history and the control status first; the
samples of the current flight, but for some that the server's history no longer held when the
client connected; the server's metrics and the state of its control link. -/
structure InStep (capacity : ℕ+) (datagrams : List Datagram) (connected : Bool)
    (sent : List ServerMessage) : Prop where
  /-- A history and the control status come first. -/
  starts : ∃ samples metrics connected rest,
    sent = .history samples metrics :: .controlStatus connected :: rest
  /-- The samples. -/
  flight : (∀ datagram ∈ datagrams, ∀ sample, datagram.sample? = some sample →
      sample.sequence < 2 ^ 31) →
    ∃ missed backlog live, flightSamples capacity datagrams = missed ++ backlog ++ live ∧
      (missed = [] ∨ backlog.length = capacity) ∧
      currentFlight sent = displayOf (backlog.map TelemetrySample.overJson)
        (live.map TelemetrySample.overJson)
  /-- The metrics. -/
  metrics : UpToRejects (metricsOf sent) (TelemetryServer.run capacity datagrams).metrics
  /-- The control link. -/
  control : controlOf sent = connected

section Flight

variable {capacity : ℕ+}

/-- The history is the end of the current flight. -/
lemma toArray_history_run (datagrams : List Datagram) :
    (TelemetryServer.run capacity datagrams).history.toArray =
      (flightSamples capacity datagrams).rtake capacity := by
  rw [(TelemetryServer.run_eq_plainRun capacity datagrams).1, TelemetryServer.plain_history]
  rfl

/-- The tracker of a server that has only seen packets whose numbers have not wrapped. -/
lemma tracked_run {datagrams : List Datagram} (h : ∀ datagram ∈ datagrams, ∀ sample,
    datagram.sample? = some sample → sample.sequence < 2 ^ 31) :
    Tracked (TelemetryServer.run capacity datagrams) := by
  induction datagrams using List.reverseRecOn with
  | nil => exact tracked_fresh capacity
  | append_singleton datagrams datagram ih =>
    rw [TelemetryServer.run_concat]
    exact (ih fun datagram hmem => h datagram (List.mem_append_left _ hmem)).acceptPacket
      (h datagram (by simp))

/-- An undecodable datagram is of no flight. -/
lemma flightSamples_of_none (datagrams : List Datagram) {datagram : Datagram}
    (h : datagram.sample? = none) :
    flightSamples capacity (datagrams ++ [datagram]) = flightSamples capacity datagrams := by
  rw [flightSamples, TelemetryServer.segment_concat, if_neg (by
    simp [TelemetryServer.meetsRestartTest, h]), TelemetryServer.samples_concat, h]
  exact List.append_nil _

/-- The first packet of a flight. -/
lemma flightSamples_of_restarted {datagrams : List Datagram} {datagram : Datagram}
    {sample : TelemetrySample} (h : datagram.sample? = some sample)
    (hrestarted : (TelemetryServer.run capacity datagrams).restarted sample = true) :
    flightSamples capacity (datagrams ++ [datagram]) = [sample] := by
  rw [flightSamples, TelemetryServer.segment_concat, if_pos (by
    simpa [TelemetryServer.meetsRestartTest, h] using hrestarted)]
  simp [TelemetryServer.samples, h]

/-- A packet of the same flight. -/
lemma flightSamples_of_recorded {datagrams : List Datagram} {datagram : Datagram}
    {sample : TelemetrySample} (h : datagram.sample? = some sample)
    (hrestarted : (TelemetryServer.run capacity datagrams).restarted sample = false) :
    flightSamples capacity (datagrams ++ [datagram]) =
      flightSamples capacity datagrams ++ [sample] := by
  rw [flightSamples, TelemetryServer.segment_concat, if_neg (by
    simpa [TelemetryServer.meetsRestartTest, h] using hrestarted), TelemetryServer.samples_concat,
    h]
  rfl

/-- The client connects. -/
lemma inStep_connect (datagrams : List Datagram) (connected : Bool) :
    InStep capacity datagrams connected
      [.history ((TelemetryServer.run capacity datagrams).history.toArray.map
        TelemetrySample.overJson) (TelemetryServer.run capacity datagrams).metrics,
        .controlStatus connected] where
  starts := ⟨_, _, _, [], rfl⟩
  flight _ := by
    refine ⟨(flightSamples capacity datagrams).take
      ((flightSamples capacity datagrams).length - capacity),
      (TelemetryServer.run capacity datagrams).history.toArray, [], ?_, ?_, ?_⟩
    · rw [toArray_history_run, List.append_nil, List.rtake, List.take_append_drop]
    · rw [toArray_history_run, length_rtake, List.take_eq_nil_iff]
      omega
    · simp [currentFlight, CurrentFlight.receive, displayOf]
  metrics := UpToRejects.refl _
  control := rfl

/-- Messages that say nothing of the stream or of the control link. -/
lemma InStep.other {datagrams : List Datagram} {connected now : Bool} {sent : List ServerMessage}
    (h : InStep capacity datagrams connected sent) {message : ServerMessage}
    (hflight : ∀ flight : CurrentFlight, flight.receive message = flight)
    (hmetrics : ∀ metrics, metricsAfter metrics message = metrics)
    (hcontrol : controlAfter connected message = now) :
    InStep capacity datagrams now (sent ++ [message]) where
  starts := by
    obtain ⟨samples, metrics, connected, rest, rfl⟩ := h.starts
    exact ⟨samples, metrics, connected, rest ++ [message], rfl⟩
  flight hsequence := by
    obtain ⟨missed, backlog, live, hsamples, hmissed, hcurrent⟩ := h.flight hsequence
    refine ⟨missed, backlog, live, hsamples, hmissed, ?_⟩
    rw [UseTelemetry.currentFlight_concat, hcurrent, hflight]
  metrics := by
    rw [metricsOf, List.foldl_concat, hmetrics]
    exact h.metrics
  control := by
    rw [controlOf, List.foldl_concat, ← controlOf, h.control, hcontrol]

/-- **A packet of the same flight**. -/
lemma InStep.record {datagrams : List Datagram} {connected : Bool} {sent : List ServerMessage}
    (h : InStep capacity datagrams connected sent) {datagram : Datagram} {sample : TelemetrySample}
    (hsample : datagram.sample? = some sample)
    (hrestarted : (TelemetryServer.run capacity datagrams).restarted sample = false) :
    InStep capacity (datagrams ++ [datagram]) connected (sent ++ [.telemetry sample.overJson
      ((TelemetryServer.run capacity datagrams).record sample).metrics]) where
  starts := by
    obtain ⟨samples, metrics, connected, rest, rfl⟩ := h.starts
    exact ⟨samples, metrics, connected, rest ++ [_], rfl⟩
  flight hsequence := by
    have hearlier := fun datagram hmem => hsequence datagram (List.mem_append_left _ hmem)
    obtain ⟨missed, backlog, live, hsamples, hmissed, hcurrent⟩ := h.flight hearlier
    have htracked : Tracked (TelemetryServer.run capacity datagrams) := tracked_run hearlier
    -- The last sample the dashboard has is that of the server's history, if it has one.
    have hnew : startsNewFlight (displayOf (backlog.map TelemetrySample.overJson)
        (live.map TelemetrySample.overJson)).latest sample.overJson = false := by
      simp only [displayOf, List.getLast?_map, ← Option.map_or, startsNewFlight_overJson]
      cases hlast : live.getLast?.or backlog.getLast? with
      | none => rfl
      | some last =>
        have hrecorded : lastRecorded (TelemetryServer.run capacity datagrams) = some last := by
          rw [lastRecorded, toArray_history_run, getLast?_rtake capacity.pos, hsamples,
            List.append_assoc, List.getLast?_append, List.getLast?_append, hlast, Option.some_or]
        rw [← hrecorded]
        exact startsNewFlight_lastRecorded htracked hrestarted
    refine ⟨missed, backlog, live ++ [sample], ?_, hmissed, ?_⟩
    · rw [flightSamples_of_recorded hsample hrestarted, hsamples, List.append_assoc]
    · rw [UseTelemetry.currentFlight_concat, hcurrent, receive_displayOf hnew, List.map_append]
      rfl
  metrics := by
    rw [metricsOf, List.foldl_concat, TelemetryServer.run_concat,
      TelemetryServer.acceptPacket_record _ hsample hrestarted]
    exact UpToRejects.refl _
  control := by
    rw [controlOf, List.foldl_concat]
    exact h.control

/-- **The first packet of a flight**. -/
lemma InStep.restart {datagrams : List Datagram} {connected : Bool} {sent : List ServerMessage}
    (h : InStep capacity datagrams connected sent) {datagram : Datagram} {sample : TelemetrySample}
    (hsample : datagram.sample? = some sample)
    (hrestarted : (TelemetryServer.run capacity datagrams).restarted sample = true) :
    InStep capacity (datagrams ++ [datagram]) connected
      (sent ++ [.reset (TelemetryServer.fresh capacity).metrics, .telemetry sample.overJson
        ((TelemetryServer.fresh capacity).record sample).metrics]) where
  starts := by
    obtain ⟨samples, metrics, connected, rest, rfl⟩ := h.starts
    exact ⟨samples, metrics, connected, rest ++ [_, _], rfl⟩
  flight _ := by
    refine ⟨[], [], [sample], flightSamples_of_restarted hsample hrestarted, Or.inl rfl, ?_⟩
    have hreset : (currentFlight sent).receive (.reset (TelemetryServer.fresh capacity).metrics) =
        displayOf [] [] := rfl
    rw [currentFlight, List.foldl_append, List.foldl_cons, List.foldl_cons, List.foldl_nil,
      ← currentFlight, hreset, receive_displayOf rfl]
    rfl
  metrics := by
    rw [metricsOf, List.foldl_append, TelemetryServer.run_concat,
      TelemetryServer.acceptPacket_restart _ hsample hrestarted]
    exact UpToRejects.refl _
  control := by
    rw [controlOf, List.foldl_append]
    exact h.control

/-- **An undecodable datagram** is counted and not broadcast. -/
lemma InStep.reject {datagrams : List Datagram} {connected : Bool} {sent : List ServerMessage}
    (h : InStep capacity datagrams connected sent) {datagram : Datagram}
    (hsample : datagram.sample? = none) :
    InStep capacity (datagrams ++ [datagram]) connected sent where
  starts := h.starts
  flight hsequence := by
    rw [flightSamples_of_none datagrams hsample]
    exact h.flight fun datagram hmem => hsequence datagram (List.mem_append_left _ hmem)
  metrics := by
    obtain ⟨hvalid, hlost, hreordered, hrejected, hreceived⟩ := h.metrics
    rw [TelemetryServer.run_concat, TelemetryServer.acceptPacket_reject _ hsample]
    constructor <;> simp only [TelemetryServer.reject]
    case valid => exact hvalid
    case lost => exact hlost
    case reordered => exact hreordered
    case rejected => exact hrejected.trans (Nat.le_succ _)
    case received => omega
  control := h.control

/-- **In step**: all that is sent keeps a client in step with the server. -/
lemma relayed_inStep (capacity : ℕ+) : Relayed capacity (InStep capacity) where
  connect := inStep_connect
  datagram datagrams connected sent datagram h := by
    cases hsample : datagram.sample? with
    | none =>
      rw [TelemetryServer.acceptPacket_reject _ hsample, List.map_nil, List.append_nil]
      exact h.reject hsample
    | some sample =>
      cases hrestarted : (TelemetryServer.run capacity datagrams).restarted sample with
      | true =>
        rw [TelemetryServer.acceptPacket_restart _ hsample hrestarted]
        exact h.restart hsample hrestarted
      | false =>
        rw [TelemetryServer.acceptPacket_record _ hsample hrestarted]
        exact h.record hsample hrestarted
  controlStatus _ _ _ _ h := h.other (fun _ => rfl) (fun _ => rfl) rfl
  commandAck _ _ _ _ _ _ _ h := h.other (fun _ => rfl) (fun _ => rfl) rfl
  commandError _ _ _ _ _ h := h.other (fun _ => rfl) (fun _ => rfl) rfl

end Flight

/-! ## What the hook makes of it -/

/-- A flush hands the metrics on. -/
lemma flush_metrics (hook : UseTelemetry) (now : ℕ) (atCall : Bool) :
    (hook.flush now atCall).pendingMetrics = none ∧
      (hook.flush now atCall).next.metrics = hook.pendingMetrics.getD hook.next.metrics := by
  unfold UseTelemetry.flush UseTelemetry.setSamples
  cases h : (hook.replaceWithHistory || !hook.pending.isEmpty) with
  | true =>
    simp only [h, if_true]
    split_ifs <;> cases hook.pending.getLast? <;> cases hook.pendingMetrics <;>
      exact ⟨rfl, rfl⟩
  | false =>
    simp only [h]
    cases hook.pendingMetrics <;> exact ⟨rfl, rfl⟩

/-- The metrics, as the hook has them. -/
structure UpToDate (messages : List ServerMessage) (hook : UseTelemetry) : Prop where
  /-- The metrics, those not yet handed to React included. -/
  metrics : hook.pendingMetrics.getD hook.next.metrics = metricsOf messages
  /-- Without a frame requested all have been handed on. -/
  quiet : hook.frame = false → hook.pendingMetrics = none

/-- A message. -/
lemma UpToDate.message {messages : List ServerMessage} {hook : UseTelemetry}
    (h : UpToDate messages hook) (message : ServerMessage) :
    UpToDate (messages ++ [message]) (hook.acceptMessage message) := by
  have hmetrics : metricsOf (messages ++ [message]) = metricsAfter (metricsOf messages) message :=
    List.foldl_concat ..
  constructor
  case metrics =>
    rw [hmetrics, ← h.metrics]
    cases message <;> rfl
  case quiet =>
    cases message with
    | controlStatus connected => exact h.quiet
    | commandAck id fault enabled acknowledgedAtMs => exact h.quiet
    | commandError id text => exact h.quiet
    | history samples metrics => exact fun hframe => by cases hframe
    | reset metrics => exact fun hframe => by cases hframe
    | telemetry sample metrics => exact fun hframe => by cases hframe

/-- In every run. -/
lemma upToDate_of_run {actions : List UseTelemetry.Action} {hook : UseTelemetry}
    {messages : List ServerMessage}
    (hrun : UseTelemetry.system.run actions = some (hook, messages)) : UpToDate messages hook := by
  have hinv : UseTelemetry.system.IsInvariant UpToDate := by
    refine UseTelemetry.isInvariant_of_events ⟨rfl, fun _ => rfl⟩ ?_ ?_ ?_
    · exact fun messages hook message h => h.message message
    · intro messages hook now atCall h
      obtain ⟨hnone, hmetrics⟩ := flush_metrics hook now atCall
      exact ⟨by rw [hnone, hmetrics]; exact h.metrics, fun _ => hnone⟩
    · exact fun messages hook h => ⟨h.metrics, h.quiet⟩
  exact hinv.of_run hrun

/-! ## The screen -/

/-- **The flight on the screen**. Datagrams reach the server, clients connect and go, and messages
are delivered, in any order; the dashboard's connection is lost and made again any number of
times, and its last socket is a client of the server to which all that was sent has been
delivered; what is collected is flushed at any time, and the last render, like those before it,
gives no wrong result. Then the samples on the screen are those of the server's current flight,
decimated, but for the ones its history no longer held when the client connected; the metrics are
the server's, up to undecodable datagrams it has not told of, and so is the state of the control
link.

**Proof sketch.** What is sent to a client keeps it in step with the server (`relayed_inStep`).
What earlier connections brought lies before it (`exists_heard_eq`), and a history wipes it out. -/
theorem screen_shows_flight (capacity : ℕ+) {actions : List Relay.Action}
    (hsequence : SequencesBelowHalf actions) {relay : Relay capacity}
    {trace : List (ℕ × ServerMessage)}
    (hrun : (Relay.system capacity).run actions = some (relay, trace)) {k : ℕ} {client : Client}
    (hclient : relay.clients[k]? = some client) (hopen : client.isOpen)
    (harrived : client.underWay = []) {linkActions : List TelemetryLink.Action}
    {link : TelemetryLink} {linkTrace : List LinkEvent}
    (hlink : TelemetryLink.system.run linkActions = some (link, linkTrace)) {socket : ℕ}
    (hsocket : socket < link.created) (hstate : (link.sockets socket).readyState = .OPEN)
    (hheard : LinkProtocol.heardOn socket linkTrace = receivedBy k trace)
    {hookActions : List UseTelemetry.Action} {hook : UseTelemetry}
    (hhook : UseTelemetry.system.run hookActions =
      some (hook, (LinkProtocol.heard linkTrace).map Prod.snd))
    (hkeeps : UseTelemetry.KeepsFlightThroughout (hookActions ++ [.render]))
    (hframe : hook.frame = false) :
    ∃ missed backlog live,
      flightSamples capacity (datagramsOf actions) = missed ++ backlog ++ live ∧
      (missed = [] ∨ backlog.length = capacity) ∧
      hook.render.shown.samples =
        (displayOf (backlog.map TelemetrySample.overJson)
          (live.map TelemetrySample.overJson)).samples ∧
      hook.latestSample = (live.getLast?.or backlog.getLast?).map TelemetrySample.overJson ∧
      UpToRejects hook.render.shown.metrics relay.server.metrics ∧
      link.controlConnected = relay.controlConnected := by
  obtain ⟨protocol, hafter, hfollows⟩ := TelemetryLink.isInvariant_follows.of_run hlink
  obtain ⟨hstage, hlast⟩ := hfollows.of_open hsocket hstate
  have hlast := hlast.trans hfollows.created
  obtain ⟨prior, hprior⟩ := LinkProtocol.exists_heard_eq hafter hlast
  rw [hprior, hheard] at hhook
  have hholds := (relayed_inStep capacity).of_run hrun
  have hstep := hholds.sent k client hclient hopen
  rw [harrived, List.append_nil] at hstep
  obtain ⟨samples, metrics, connected, rest, hstarts⟩ := hstep.starts
  -- Nothing before the history matters.
  have hcurrent : currentFlight (prior ++ receivedBy k trace) =
      currentFlight (receivedBy k trace) := by
    rw [currentFlight, List.foldl_append, hstarts]
    rfl
  have hmetrics : metricsOf (prior ++ receivedBy k trace) = metricsOf (receivedBy k trace) := by
    rw [metricsOf, List.foldl_append, hstarts]
    rfl
  obtain ⟨missed, backlog, live, hsamples, hmissed, hflight⟩ := hstep.flight fun datagram hmem =>
    hsequence datagram (by
      obtain ⟨action, haction, heq⟩ := List.mem_filterMap.mp hmem
      cases action <;> simp at heq
      rwa [← heq])
  have hinv := UseTelemetry.invariant_of_run (fun before hbefore =>
    hkeeps before (hbefore.trans (List.prefix_append _ _))) hhook
  have hshown : hook.render.shown.samples = (currentFlight (prior ++ receivedBy k trace)).samples :=
    (UseTelemetry.render_shown_iff hinv hframe).mpr
      (hkeeps hookActions List.prefix_rfl hook _ hhook)
  have hdate := upToDate_of_run hhook
  refine ⟨missed, backlog, live, hsamples, hmissed, ?_, ?_, ?_, ?_⟩
  · rw [hshown, hcurrent, hflight]
  · rw [hinv.latest, hcurrent, hflight, Option.map_or, ← List.getLast?_map, ← List.getLast?_map]
    rfl
  · have hshownMetrics : hook.render.shown.metrics = metricsOf (receivedBy k trace) := by
      rw [← hmetrics, ← hdate.metrics, hdate.quiet hframe]
      rfl
    rw [hshownMetrics, hholds.server]
    exact hstep.metrics
  · obtain ⟨start, hcontrol⟩ := (LinkProtocol.exists_control_eq hafter hlast).2 hstage
    rw [hfollows.control, hcontrol, hheard, ← hstep.control, controlOf, hstarts]
    rfl

/-- A dashboard whose first connection is lost after the history; on its second one it receives
some messages. -/
def reconnected (messages : List ServerMessage) : List TelemetryLink.Action :=
  [.mount, .opened 0, .message 0 (.history [] {}), .closed 0 false,
    .timer { id := 1, effect := 0, delay := 500 }, .opened 1] ++ messages.map (.message 1)

/-- The second connection is the client of `lateAndReset`; all it receives is flushed. -/
theorem screen_shows_flight_reconnected : ∃ (hook : UseTelemetry) (relay : Relay 2)
    (trace : List (ℕ × ServerMessage)) (missed backlog live : List TelemetrySample),
    (Relay.system 2).run lateAndReset = some (relay, trace) ∧
      UseTelemetry.system.run ((.history [] {} :: (lateMessages 2 ++ resetMessages 2)).map .message ++
        [.frame 0 true]) = some (hook, .history [] {} :: (lateMessages 2 ++ resetMessages 2)) ∧
      flightSamples 2 (datagramsOf lateAndReset) = missed ++ backlog ++ live ∧
      hook.render.shown.samples = (displayOf (backlog.map TelemetrySample.overJson)
        (live.map TelemetrySample.overJson)).samples ∧
      hook.render.shown.samples = [(sampleOnPad 0).overJson] ∧
      UpToRejects hook.render.shown.metrics relay.server.metrics := by
  obtain ⟨link, linkTrace, hlink, hmade, hopen, hheard, hon⟩ : ∃ link linkTrace,
      TelemetryLink.system.run (reconnected (lateMessages 2 ++ resetMessages 2)) =
          some (link, linkTrace) ∧ 1 < link.created ∧
        (link.sockets 1).readyState = .OPEN ∧
        (LinkProtocol.heard linkTrace).map Prod.snd =
          .history [] {} :: (lateMessages 2 ++ resetMessages 2) ∧
        LinkProtocol.heardOn 1 linkTrace = lateMessages 2 ++ resetMessages 2 :=
    ⟨_, _, rfl, Nat.one_lt_two, rfl, rfl, rfl⟩
  obtain ⟨hook, hhook, hframe, hsample⟩ : ∃ hook,
      UseTelemetry.system.run ((.history [] {} :: (lateMessages 2 ++ resetMessages 2)).map .message ++
        [.frame 0 true]) = some (hook, .history [] {} :: (lateMessages 2 ++ resetMessages 2)) ∧
      hook.frame = false ∧ hook.render.shown.samples = [(sampleOnPad 0).overJson] :=
    ⟨_, rfl, rfl, rfl⟩
  rw [← hheard] at hhook
  obtain ⟨missed, backlog, live, hsamples, -, hshown, -, hmetrics, -⟩ := screen_shows_flight 2
    sequencesBelowHalf_lateAndReset run_lateAndReset (k := 0) rfl rfl rfl hlink hmade hopen hon
    hhook (UseTelemetry.keepsFlightThroughout_of_atCall (by simp)) hframe
  exact ⟨hook, _, _, missed, backlog, live, run_lateAndReset, hheard ▸ hhook, hsamples, hshown,
    hsample, hmetrics⟩

end FlightDeck.System
