import FlightDeck.Lib.TransitionSystem
import FlightDeck.System.ControlRecords
import Mathlib.Logic.Function.Basic

set_option relaxedAutoImplicit false
set_option autoImplicit false

/-!
# The control link

One control client of the streaming server and the simulator's control server, with the network
between them. Every socket of the client is a connection with text under way in both directions.
The network delivers a connection's text in order, in chunks of any size; a connection may be
lost at any moment at either end, with whatever is still under way. The simulator serves one
connection at a time and accepts them in the order they were made; it may find some of them gone
and skip them.

Node emits `connect` at most once on a socket, `data` only between `connect` and `close`, neither
after `destroy`, and `close` once and last.

## Main definitions

* `Connection`, `ControlLink` — the state of the network and of both ends.
* `ControlLink.step` — one event at the client, at a browser, on the network or at the simulator.
* `ControlLink.accepted`, `ControlLink.acknowledged`, `ControlLink.handledLines`,
  `ControlLink.written` — what a run shows of the commands.
-/

namespace FlightDeck.System

open Server Generator TransitionSystem

/-- A TCP connection, seen from the client's socket. -/
structure Connection where
  /-- The socket has emitted `connect`. -/
  established : Bool := false
  /-- `destroy` was called on the socket. -/
  destroyed : Bool := false
  /-- The socket has emitted `close`. -/
  closed : Bool := false
  /-- Written by the client and not yet received by the simulator. -/
  up : List Char := []
  /-- Sent by the simulator and not yet received by the client. -/
  down : List Char := []

/-- The client, the network and the simulator. -/
structure ControlLink where
  /-- The client. -/
  client : SimulatorControlClient := {}
  /-- The timers that are set and have not fired. -/
  timers : List ℕ := []
  /-- The connection of each socket; those not created yet are as new. -/
  connections : ℕ → Connection := fun _ => {}
  /-- `fault_flags_`. -/
  faultFlags : BitVec 32 := 0
  /-- The connection `handle_client` serves. -/
  serving : Option ℕ := none
  /-- The `pending` text of `handle_client`. -/
  pending : List Char := []
  /-- Connections before this one have been accepted or skipped. -/
  nextAccept : ℕ := 0

namespace ControlLink

/-- What happens next. -/
inductive Action where
  /-- `start()` is called on the client. -/
  | start
  /-- `stop()` is called on the client. -/
  | stop
  /-- A browser sends a message; `none` is a text that `JSON.parse` rejects. -/
  | message (parsed : Option JsonValue)
  /-- A socket emits `connect`. -/
  | connect (socket : ℕ)
  /-- A socket emits `data` with this much text. -/
  | data (socket length : ℕ)
  /-- A socket emits `close`. -/
  | close (socket : ℕ)
  /-- A timer fires. -/
  | timer (timer : ℕ)
  /-- The simulator accepts a connection. -/
  | accept (socket : ℕ)
  /-- `recv` returns this much text. -/
  | receive (length : ℕ)
  /-- `recv` fails or finds the end of the stream. -/
  | hangUp

/-- What a run shows. -/
inductive Event where
  /-- A browser's command is passed to the client. -/
  | accepted (command : FaultCommand)
  /-- A browser's message is answered with an error. -/
  | refused (reply : ServerMessage)
  /-- The client does something outside itself. -/
  | effect (effect : Effect)
  /-- The simulator handles a line. -/
  | handled (line response : List Char)

/-- What a call on a socket does to the connections. What is written to a socket that was
destroyed is lost. -/
def touch (connections : ℕ → Connection) : Effect → ℕ → Connection
  | .write socket text =>
    let connection := connections socket
    if connection.destroyed then connections
    else Function.update connections socket { connection with up := connection.up ++ text }
  | .destroy socket =>
    Function.update connections socket { connections socket with destroyed := true }
  | _ => connections

/-- What a call on a timer does to the timers. -/
def tick (timers : List ℕ) : Effect → List ℕ
  | .setTimeout timer => timers ++ [timer]
  | .clearTimeout timer => timers.filter (· ≠ timer)
  | _ => timers

/-- A method of the client is called and has its effects. -/
def call (link : ControlLink) (result : SimulatorControlClient × List Effect) :
    ControlLink × List Event :=
  ({ link with
      client := result.1
      connections := result.2.foldl touch link.connections
      timers := result.2.foldl tick link.timers },
    result.2.map .effect)

/-- One event. -/
def step (link : ControlLink) : Action → Option (ControlLink × List Event)
  | .start => some (link.call link.client.start)
  | .stop => some (link.call link.client.stop)
  | .message parsed =>
    match acceptClientMessage link.client.connected parsed with
    | .error reply => some (link, [.refused reply])
    | .ok command =>
      let (link, events) := link.call (link.client.send command)
      some (link, .accepted command :: events)
  | .connect socket =>
    let connection := link.connections socket
    if socket < link.client.sockets ∧ !connection.established ∧ !connection.destroyed ∧
        !connection.closed then
      some <| call { link with
        connections := Function.update link.connections socket
          { connection with established := true } } link.client.onConnect
    else none
  | .data socket length =>
    let connection := link.connections socket
    if connection.established ∧ !connection.destroyed ∧ !connection.closed ∧ 0 < length ∧
        length ≤ connection.down.length then
      some <| call { link with
        connections := Function.update link.connections socket
          { connection with down := connection.down.drop length } }
        (link.client.acceptData (connection.down.take length))
    else none
  | .close socket =>
    let connection := link.connections socket
    if socket < link.client.sockets ∧ !connection.closed then
      some <| call { link with
        connections := Function.update link.connections socket
          { connection with closed := true } } link.client.onClose
    else none
  | .timer timer =>
    if timer ∈ link.timers then
      some (call { link with timers := link.timers.erase timer } link.client.connect)
    else none
  | .accept socket =>
    if link.serving = none ∧ link.nextAccept ≤ socket ∧ socket < link.client.sockets then
      some ({ link with serving := some socket, pending := [], nextAccept := socket + 1 }, [])
    else none
  | .receive length =>
    match link.serving with
    | none => none
    | some socket =>
      let connection := link.connections socket
      if 0 < length ∧ length ≤ kReceiveSize ∧ length ≤ connection.up.length then
        let (handled, pending) :=
          Generator.receive link.faultFlags link.pending (connection.up.take length)
        some ({ link with
            faultFlags := handled.faultFlags
            pending
            connections := Function.update link.connections socket
              { connection with
                up := connection.up.drop length
                down := connection.down ++ (handled.replies.map Prod.snd).flatten } },
          handled.replies.map fun reply => .handled reply.1 reply.2)
      else none
  | .hangUp =>
    match link.serving with
    | none => none
    | some _ => some ({ link with serving := none, pending := [] }, [])

/-- The link under every order of events. -/
def system : System ControlLink Action Event where
  init := {}
  step := step

/-! ## What a run shows -/

/-- The commands accepted from browsers, in order. -/
def accepted (trace : List Event) : List FaultCommand :=
  trace.filterMap fun
    | .accepted command => some command
    | _ => none

/-- The ids of the commands refused because the link was down. -/
def refusedIds (trace : List Event) : List (List Char) :=
  trace.filterMap fun
    | .refused (.commandError (some id) _) => some id
    | _ => none

/-- The acknowledgements passed to `onAcknowledgement`, in order. -/
def acknowledged (trace : List Event) : List (List Char × FaultType × Bool) :=
  trace.filterMap fun
    | .effect (.onAcknowledgement id fault enabled) => some (id, fault, enabled)
    | _ => none

/-- The lines the simulator handled, in order. -/
def handledLines (trace : List Event) : List (List Char) :=
  trace.filterMap fun
    | .handled line _ => some line
    | _ => none

/-- The lines the client wrote to a socket, in order. -/
def written (socket : ℕ) (trace : List Event) : List (List Char) :=
  trace.filterMap fun
    | .effect (.write s text) => if s = socket then some text else none
    | _ => none

section

variable (t₁ t₂ : List Event) (socket : ℕ)

@[simp] lemma accepted_append : accepted (t₁ ++ t₂) = accepted t₁ ++ accepted t₂ :=
  List.filterMap_append

@[simp] lemma acknowledged_append :
    acknowledged (t₁ ++ t₂) = acknowledged t₁ ++ acknowledged t₂ := List.filterMap_append

@[simp] lemma handledLines_append :
    handledLines (t₁ ++ t₂) = handledLines t₁ ++ handledLines t₂ := List.filterMap_append

@[simp] lemma written_append :
    written socket (t₁ ++ t₂) = written socket t₁ ++ written socket t₂ := List.filterMap_append

end

end ControlLink

end FlightDeck.System
