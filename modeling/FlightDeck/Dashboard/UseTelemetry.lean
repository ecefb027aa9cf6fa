import FlightDeck.Dashboard.TelemetryUtils
import FlightDeck.Lib.TransitionSystem
import FlightDeck.Lib.Window

set_option relaxedAutoImplicit false
set_option autoImplicit false

/-!
# The dashboard's telemetry hook

What `useTelemetry` of `dashboard/src/useTelemetry.ts` keeps of the messages it receives. Messages
are collected and handed to React once per animation frame; React shows the new state at its next
render.

`setSamples` is called with a function of the current samples. React runs such an updater at the
call, if none is waiting, or lets it wait and runs all waiting ones in order at the next render.
The updaters of `setSamples` read the variable `replaceWithHistory` when they are run. All other
settings depend on nothing that changes, so it makes no difference when they are made.

## Main definitions

* `Updater` — a function passed to `setSamples`.
* `UseTelemetry` — the variables of the hook and the state React keeps for it.
* `UseTelemetry.acceptMessage`, `UseTelemetry.flush`, `UseTelemetry.render` — what happens to it.
* `UseTelemetry.system` — the hook under every order of messages, animation frames and renders.
-/

namespace FlightDeck.Dashboard

open Server TransitionSystem

/-- `MAX_CLIENT_SAMPLES`. -/
def MAX_CLIENT_SAMPLES : ℕ := 2000

/-- `CommandState["status"]`. -/
inductive CommandStatus where
  | pending
  | acknowledged
  | failed
  deriving DecidableEq

/-- `CommandState`. -/
structure CommandState where
  /-- The command it is about. -/
  id : List Char
  /-- The fault it sets or clears. -/
  fault : FaultType
  /-- Set or clear. -/
  enabled : Bool
  /-- What has become of it. -/
  status : CommandStatus
  /-- Why it failed. -/
  message : Option String := none
  deriving DecidableEq

/-- The function passed to `setSamples` by a flush. -/
structure Updater where
  /-- `incoming`, which the function closes over. -/
  incoming : List TelemetrySample
  /-- What `replaceWithHistory` was at the flush. The function does not look at this: it reads
  the variable when it is run. -/
  replaces : Bool

/-- Running the updater while `replaceWithHistory` has a value. -/
def Updater.run (updater : Updater) (replaceWithHistory : Bool) (current : List TelemetrySample) :
    List TelemetrySample :=
  if replaceWithHistory then updater.incoming.rtake MAX_CLIENT_SAMPLES
  else (current ++ updater.incoming).rtake MAX_CLIENT_SAMPLES

/-- The states of the hook that a render shows. -/
structure View where
  /-- `samples`. -/
  samples : List TelemetrySample := []
  /-- `metrics`. -/
  metrics : StreamMetrics := {}
  /-- `transportLatencyMs`. -/
  transportLatencyMs : ℕ := 0
  /-- `lastPacketAt`. -/
  lastPacketAt : Option ℕ := none
  /-- `controlConnected`. -/
  controlConnected : Bool := false
  /-- `commandState`. -/
  commandState : Option CommandState := none

/-- The hook. -/
structure UseTelemetry where
  /-- A frame is requested and `flush` has not been called: `frame !== undefined`. -/
  frame : Bool := false
  /-- `pending`. -/
  pending : List TelemetrySample := []
  /-- `replaceWithHistory`. -/
  replaceWithHistory : Bool := false
  /-- `pendingMetrics`. -/
  pendingMetrics : Option StreamMetrics := none
  /-- `latestSample`. -/
  latestSample : Option TelemetrySample := none
  /-- `latestRetainedSample`. -/
  latestRetainedSample : Option TelemetrySample := none
  /-- What is on the screen. -/
  shown : View := {}
  /-- The states as React has computed them so far. -/
  next : View := {}
  /-- The updaters of `setSamples` that React has not run. -/
  queue : List Updater := []

namespace UseTelemetry

variable (hook : UseTelemetry)

/-- `setSamples`, with React's choice. -/
def setSamples (updater : Updater) (atCall : Bool) : UseTelemetry :=
  if atCall && hook.queue.isEmpty then
    { hook with next := { hook.next with
        samples := updater.run hook.replaceWithHistory hook.next.samples } }
  else { hook with queue := hook.queue ++ [updater] }

/-- The handler of `message`. -/
def acceptMessage (message : ServerMessage) : UseTelemetry :=
  match message with
  | .controlStatus connected =>
    { hook with next := { hook.next with controlConnected := connected } }
  | .commandAck id fault enabled _ =>
    { hook with next := { hook.next with
        commandState := some { id, fault, enabled, status := .acknowledged } } }
  | .commandError id message =>
    let current := hook.next.commandState
    { hook with next := { hook.next with
        commandState := some {
          id := (id.or (current.map (·.id))).getD "unknown".toList
          fault := (current.map (·.fault)).getD .thrusterLoss
          enabled := (current.map (·.enabled)).getD false
          status := .failed
          message := some message } } }
  | .history samples metrics =>
    let pending := (displaySamples samples defaultStride).rtake MAX_CLIENT_SAMPLES
    { hook with
      latestSample := samples.getLast?
      pending
      latestRetainedSample := pending.getLast?
      replaceWithHistory := true
      pendingMetrics := some metrics
      frame := true }
  | .reset metrics =>
    { hook with
      pending := []
      latestSample := none
      latestRetainedSample := none
      replaceWithHistory := true
      pendingMetrics := some metrics
      frame := true }
  | .telemetry sample metrics =>
    let hook :=
      if startsNewFlight hook.latestSample sample then
        { hook with pending := [], latestRetainedSample := none, replaceWithHistory := true }
      else hook
    let hook :=
      if shouldRetainSample hook.latestRetainedSample sample defaultStride then
        { hook with pending := hook.pending ++ [sample], latestRetainedSample := some sample }
      else hook
    { hook with latestSample := some sample, pendingMetrics := some metrics, frame := true }

/-- `flush`, at a time, with React's choice about the updater. -/
def flush (now : ℕ) (atCall : Bool) : UseTelemetry :=
  let hook := { hook with frame := false }
  let hook :=
    if hook.replaceWithHistory || !hook.pending.isEmpty then
      let incoming := hook.pending
      let latest := incoming.getLast?
      let hook := { hook with pending := [] }
      let hook := hook.setSamples { incoming, replaces := hook.replaceWithHistory } atCall
      let hook := { hook with replaceWithHistory := false }
      match latest with
      | some latest =>
        { hook with next := { hook.next with
            lastPacketAt := some now
            transportLatencyMs := now - latest.serverReceivedAtMs } }
      | none =>
        { hook with next := { hook.next with lastPacketAt := none, transportLatencyMs := 0 } }
    else hook
  match hook.pendingMetrics with
  | some metrics =>
    { hook with next := { hook.next with metrics }, pendingMetrics := none }
  | none => hook

/-- A render: React runs the waiting updaters and shows the result. -/
def render : UseTelemetry :=
  let samples := hook.queue.foldl
    (fun current updater => updater.run hook.replaceWithHistory current) hook.next.samples
  { hook with
    next := { hook.next with samples }
    shown := { hook.next with samples }
    queue := [] }

/-- What happens next. -/
inductive Action where
  /-- A message is received. -/
  | message (message : ServerMessage)
  /-- The animation frame that was requested: `flush` is called at a time, and React may run the
  updater at the call. -/
  | frame (now : ℕ) (atCall : Bool)
  /-- React renders. -/
  | render

/-- One event; messages are recorded. -/
def step : Action → Option (UseTelemetry × List ServerMessage)
  | .message message => some (hook.acceptMessage message, [message])
  | .frame now atCall => if hook.frame then some (hook.flush now atCall, []) else none
  | .render => some (hook.render, [])

/-- The hook under every order of messages, animation frames and renders. -/
def system : System UseTelemetry Action ServerMessage where
  init := {}
  step := step

/-- An invariant of the hook is one that each of the three kinds of event keeps. -/
lemma isInvariant_of_events {P : List ServerMessage → UseTelemetry → Prop} (start : P [] {})
    (message : ∀ messages hook message, P messages hook →
      P (messages ++ [message]) (hook.acceptMessage message))
    (frame : ∀ messages hook now atCall, P messages hook → P messages (hook.flush now atCall))
    (render : ∀ messages hook, P messages hook → P messages hook.render) :
    system.IsInvariant P where
  start := start
  keep messages hook action hook' events _ h hstep := by
    cases action with
    | message received =>
      obtain ⟨rfl, rfl⟩ := Prod.mk.inj (Option.some_inj.mp hstep)
      exact message messages hook received h
    | frame now atCall =>
      obtain ⟨-, heq⟩ := Option.ite_none_right_eq_some.mp hstep
      obtain ⟨rfl, rfl⟩ := Prod.mk.inj (Option.some_inj.mp heq)
      rw [List.append_nil]
      exact frame messages hook now atCall h
    | render =>
      obtain ⟨rfl, rfl⟩ := Prod.mk.inj (Option.some_inj.mp hstep)
      rw [List.append_nil]
      exact render messages hook h

end UseTelemetry

end FlightDeck.Dashboard
