import FlightDeck.Dashboard.CommandReadout
import FlightDeck.Server.Relay
import FlightDeck.System.ControlRuns
import Mathlib.Data.List.Perm.Basic

set_option relaxedAutoImplicit false
set_option autoImplicit false

/-!
# The command loop

From the button of a dashboard to the simulator and back. Any number of browsers show a dashboard;
each one has a socket to the streaming server, loses it and makes a new one. A command travels to
the server, which refuses it or passes it to its control client; the control link carries it to the
simulator, loses it, writes it again; the acknowledgement is broadcast to whoever is connected by
then. Everything interleaves, and what is under way on a socket that is lost is lost.

## Main definitions

* `Browser`, `CommandLoop` — the browsers, the server, the control link and what is under way.
* `CommandLoop.step`, `CommandLoop.system` — what may happen.
* `CommandLoop.Change` — what an event does, case by case.
* `CommandLoop.Invariant` — connections have their browsers, commands are somewhere, and what is
  told of them is so.

## Main results

* `CommandLoop.change_of_step` — the cases are exhaustive.
* `CommandLoop.Invariant.change`, `CommandLoop.isInvariant` — what every run keeps.
-/

namespace FlightDeck.System

open Server Generator Dashboard TransitionSystem

/-! ## Definitions -/

/-- What `crypto.randomUUID()` returns: 36 characters, all of them hexadecimal digits or dashes. -/
def IsUuid (id : List Char) : Prop := id.length = 36 ∧ id.all isIdChar = true

instance (id : List Char) : Decidable (IsUuid id) := inferInstanceAs (Decidable (_ ∧ _))

/-- `JSON.parse` of the text that `sendFaultCommand` sends. -/
def messageOf (command : FaultCommand) : JsonValue :=
  .object [("type".toList, .string "command".toList), ("id".toList, .string command.id),
    ("fault".toList, .string command.fault.name), ("enabled".toList, .boolean command.enabled),
    ("issuedAtMs".toList, .number command.issuedAtMs)]

/-- The server validates it as the command. -/
lemma isFaultCommand_messageOf {command : FaultCommand} (h : IsUuid command.id) :
    isFaultCommand (messageOf command) = some command := by
  have hid : isCommandId command.id = true := by
    rw [isCommandId, h.1, h.2]
    rfl
  obtain ⟨id, fault, enabled, issuedAtMs⟩ := command
  show (if "command".toList = "command".toList ∧ isCommandId id then
    (isFault fault.name).map fun fault => ({ id, fault, enabled, issuedAtMs } : FaultCommand)
      else none) = _
  rw [if_pos ⟨rfl, hid⟩]
  cases fault <;> rfl

/-- A browser with a dashboard. -/
structure Browser where
  /-- The hook. -/
  hook : UseTelemetry := {}
  /-- The number the server has given to the connection of `socketRef.current`. -/
  socket : Option ℕ := none
  /-- Its `readyState` is `OPEN`. -/
  isOpen : Bool := false

/-- The browsers, the server with its control client, the simulator, and what is under way. -/
structure CommandLoop (capacity : ℕ+) where
  /-- The server and its clients. -/
  relay : Relay capacity := { server := .fresh capacity }
  /-- The server's control client, the network behind it and the simulator. -/
  link : ControlLink := {}
  /-- The browsers. -/
  browsers : ℕ → Browser := fun _ => {}
  /-- The browser at the other end of each connection. -/
  owners : List ℕ := []
  /-- Commands that browsers have sent and the server has not received, with the connection. -/
  underWay : List (ℕ × FaultCommand) := []

namespace CommandLoop

variable {capacity : ℕ+} (loop : CommandLoop capacity)

/-- What happens next. -/
inductive Action where
  /-- The server accepts a socket of a browser that has none in use. -/
  | connect (browser : ℕ)
  /-- The browser's socket is open. -/
  | opened (browser : ℕ)
  /-- It is closed; the listener does nothing if the effect has been cleaned up. -/
  | lost (browser : ℕ) (disposed : Bool)
  /-- A connection stops being open at the server's end. -/
  | close (client : ℕ)
  /-- A browser receives the next message. -/
  | deliver (browser : ℕ)
  /-- An animation frame. -/
  | frame (browser now : ℕ) (atCall : Bool)
  /-- React renders. -/
  | render (browser : ℕ)
  /-- The operator presses a button: `sendFaultCommand`, with the id and the time it takes. -/
  | send (browser : ℕ) (command : FaultCommand)
  /-- The server receives the next command on a connection. -/
  | request (client : ℕ)
  /-- The server receives a datagram. -/
  | datagram (datagram : Datagram)
  /-- Something else happens on the control link; if it has to be told, at some time. -/
  | control (action : ControlLink.Action) (now : ℕ)

/-- What can be told of a run. -/
inductive Event where
  /-- A browser sends a command on a connection. -/
  | sent (browser client : ℕ) (command : FaultCommand)
  /-- The server receives it. -/
  | requested (client : ℕ) (command : FaultCommand)
  /-- A browser receives a message on a connection. -/
  | received (browser client : ℕ) (message : ServerMessage)
  /-- Something shows on the control link. -/
  | control (event : ControlLink.Event)

/-- The callbacks of the control client. -/
def report (now : ℕ) (relay : Relay capacity) : ControlLink.Event → Relay capacity
  | .effect (.onStatus connected) => relay.next (.controlStatus connected)
  | .effect (.onAcknowledgement id fault enabled) =>
    relay.next (.commandAck id fault enabled now)
  | _ => relay

/-- The answer to the message of a client. -/
def reply (client : ℕ) (relay : Relay capacity) : ControlLink.Event → Relay capacity
  | .refused (.commandError id message) => relay.next (.commandError client id message)
  | _ => relay

/-- A browser changes. -/
def setBrowser (k : ℕ) (browser : Browser) : CommandLoop capacity :=
  { loop with browsers := Function.update loop.browsers k browser }

/-- One event. -/
def step : Action → Option (CommandLoop capacity × List Event)
  | .connect k =>
    let browser := loop.browsers k
    if browser.socket = none then
      some ({ loop with
          relay := loop.relay.next .connect
          owners := loop.owners ++ [k]
          browsers := Function.update loop.browsers k
            { browser with socket := some loop.relay.clients.length, isOpen := false } }, [])
    else none
  | .opened k =>
    let browser := loop.browsers k
    if browser.socket.isSome then some (loop.setBrowser k { browser with isOpen := true }, [])
    else none
  | .lost k disposed =>
    let browser := loop.browsers k
    if browser.socket.isSome then
      let hook :=
        if disposed then browser.hook
        else { browser.hook with next := { browser.hook.next with controlConnected := false } }
      some (loop.setBrowser k { hook, socket := none, isOpen := false }, [])
    else none
  | .close client => some ({ loop with relay := loop.relay.next (.close client) }, [])
  | .deliver k =>
    let browser := loop.browsers k
    match browser.socket with
    | none => none
    | some client =>
      match loop.relay.clients[client]? with
      | some { underWay := message :: _, .. } =>
        if browser.isOpen then
          some ({ loop with
              relay := loop.relay.next (.deliver client)
              browsers := Function.update loop.browsers k
                { browser with hook := browser.hook.acceptMessage message } },
            [.received k client message])
        else none
      | _ => none
  | .frame k now atCall =>
    let browser := loop.browsers k
    (browser.hook.step (.frame now atCall)).map fun result =>
      (loop.setBrowser k { browser with hook := result.1 }, [])
  | .render k =>
    let browser := loop.browsers k
    (browser.hook.step .render).map fun result =>
      (loop.setBrowser k { browser with hook := result.1 }, [])
  | .send k command =>
    let browser := loop.browsers k
    if IsUuid command.id then
      match browser.socket with
      | none => some (loop, [])
      | some client =>
        match browser.hook.sendFaultCommand browser.isOpen command with
        | (_, none) => some (loop, [])
        | (hook, some command) =>
          some ({ loop with
              browsers := Function.update loop.browsers k { browser with hook }
              underWay := loop.underWay ++ [(client, command)] },
            [.sent k client command])
    else none
  | .request client =>
    match loop.underWay.find? (·.1 == client) with
    | none => none
    | some (_, command) =>
      (loop.link.step (.message (some (messageOf command)))).map fun result =>
        ({ loop with
            link := result.1
            relay := result.2.foldl (reply client) loop.relay
            underWay := loop.underWay.eraseP (·.1 == client) },
          .requested client command :: result.2.map .control)
  | .datagram datagram =>
    some ({ loop with relay := loop.relay.next (.datagram datagram) }, [])
  | .control action now =>
    match action with
    | .message _ => none
    | action =>
      (loop.link.step action).map fun result =>
        ({ loop with link := result.1, relay := result.2.foldl (report now) loop.relay },
          result.2.map .control)

/-- The loop under every order of events. -/
def system (capacity : ℕ+) : System (CommandLoop capacity) Action Event where
  init := {}
  step := step

/-! ## What a run shows -/

/-- An event of the control link. -/
def Event.control? : Event → Option ControlLink.Event
  | .control event => some event
  | _ => none

/-- What happened on the control link. -/
def controlTrace (trace : List Event) : List ControlLink.Event := trace.filterMap Event.control?

/-- The commands sent, with their connections. -/
def sentOn (trace : List Event) : List (ℕ × FaultCommand) :=
  trace.filterMap fun
    | .sent _ client command => some (client, command)
    | _ => none

/-- The commands received by the server, with their connections. -/
def requestedOn (trace : List Event) : List (ℕ × FaultCommand) :=
  trace.filterMap fun
    | .requested client command => some (client, command)
    | _ => none

section Shown

variable (trace events : List Event)

@[simp] lemma controlTrace_append :
    controlTrace (trace ++ events) = controlTrace trace ++ controlTrace events :=
  List.filterMap_append

@[simp] lemma sentOn_append : sentOn (trace ++ events) = sentOn trace ++ sentOn events :=
  List.filterMap_append

@[simp] lemma requestedOn_append :
    requestedOn (trace ++ events) = requestedOn trace ++ requestedOn events :=
  List.filterMap_append

/-- What happens on the control link shows there, and only there. -/
lemma map_control (events : List ControlLink.Event) :
    controlTrace (events.map .control) = events ∧ sentOn (events.map .control) = [] ∧
      requestedOn (events.map .control) = [] := by
  refine ⟨?_, ?_, ?_⟩
  · rw [controlTrace, List.filterMap_map]
    exact List.filterMap_some
  · rw [sentOn, List.filterMap_map]
    exact List.filterMap_eq_nil_iff.mpr fun _ _ => rfl
  · rw [requestedOn, List.filterMap_map]
    exact List.filterMap_eq_nil_iff.mpr fun _ _ => rfl

/-- Refusals add up. -/
lemma refusedIds_append (t₁ t₂ : List ControlLink.Event) :
    ControlLink.refusedIds (t₁ ++ t₂) =
      ControlLink.refusedIds t₁ ++ ControlLink.refusedIds t₂ := List.filterMap_append

/-- The effects of a method show no refusal. -/
lemma refusedIds_map_effect (effects : List Effect) :
    ControlLink.refusedIds (effects.map .effect) = [] := by
  rw [ControlLink.refusedIds, List.filterMap_map]
  exact List.filterMap_eq_nil_iff.mpr fun _ _ => rfl

variable {trace}

lemma mem_sentOn {client : ℕ} {command : FaultCommand} :
    (client, command) ∈ sentOn trace ↔ ∃ k, .sent k client command ∈ trace := by
  unfold sentOn
  rw [List.mem_filterMap]
  constructor
  · rintro ⟨event, hmem, heq⟩
    cases event with
    | sent k client' command' =>
      obtain ⟨rfl, rfl⟩ := Prod.mk.inj (Option.some_inj.mp heq)
      exact ⟨k, hmem⟩
    | _ => cases heq
  · rintro ⟨k, hmem⟩
    exact ⟨_, hmem, rfl⟩

end Shown

/-! ## What an event does -/

/-- What the server sends to a client. -/
def messagesTo (now : ℕ) : ControlLink.Event → Option ServerMessage
  | .effect (.onStatus connected) => some (.controlStatus connected)
  | .effect (.onAcknowledgement id fault enabled) => some (.commandAck id fault enabled now)
  | _ => none

/-- A message that is about no command. -/
def IsOther : ServerMessage → Prop
  | .commandAck .. => False
  | .commandError .. => False
  | _ => True

/-- What an event does, case by case. -/
inductive Change : CommandLoop capacity → List Event → Prop
  /-- A connection is made. -/
  | connected (k : ℕ) (hsocket : (loop.browsers k).socket = none) :
    Change { loop with
      relay := loop.relay.next .connect
      owners := loop.owners ++ [k]
      browsers := Function.update loop.browsers k
        { loop.browsers k with socket := some loop.relay.clients.length, isOpen := false } } []
  /-- A browser opens a socket, loses it, flushes or renders. -/
  | browser (k : ℕ) (browser : Browser)
      (hsocket : browser.socket = (loop.browsers k).socket ∨ browser.socket = none)
      (hnext : browser.hook.next.commandState = (loop.browsers k).hook.next.commandState)
      (hshown : browser.hook.shown.commandState = (loop.browsers k).hook.shown.commandState ∨
        browser.hook.shown.commandState = (loop.browsers k).hook.next.commandState) :
    Change (loop.setBrowser k browser) []
  /-- A connection is closed at the server's end. -/
  | closed (client : ℕ) : Change { loop with relay := loop.relay.next (.close client) } []
  /-- A message is delivered. -/
  | delivered (k client : ℕ) (message : ServerMessage) (rest : List ServerMessage)
      (receiver : Client) (hsocket : (loop.browsers k).socket = some client)
      (hclient : loop.relay.clients[client]? = some receiver)
      (hfirst : receiver.underWay = message :: rest) :
    Change { loop with
        relay := loop.relay.next (.deliver client)
        browsers := Function.update loop.browsers k
          { loop.browsers k with
            hook := (loop.browsers k).hook.acceptMessage message
            socket := some client } }
      [.received k client message]
  /-- A command is sent. -/
  | sent (k client : ℕ) (command : FaultCommand) (hook : UseTelemetry)
      (hsocket : (loop.browsers k).socket = some client) (hid : IsUuid command.id)
      (hnext : hook.next.commandState = some
        { id := command.id, fault := command.fault, enabled := command.enabled,
          status := .pending })
      (hshown : hook.shown = (loop.browsers k).hook.shown) :
    Change { loop with
        browsers := Function.update loop.browsers k
          { loop.browsers k with hook, socket := some client }
        underWay := loop.underWay ++ [(client, command)] }
      [.sent k client command]
  /-- Nothing is sent. -/
  | idle : Change loop []
  /-- A command is accepted. -/
  | accepted (client : ℕ) (command : FaultCommand) (before after : List (ℕ × FaultCommand))
      (hunderWay : loop.underWay = before ++ (client, command) :: after) :
    Change { loop with
        link := (loop.link.call (loop.link.client.send command)).1
        underWay := before ++ after }
      (.requested client command ::
        (.accepted command :: (loop.link.call (loop.link.client.send command)).2).map .control)
  /-- It is refused. -/
  | refused (client : ℕ) (command : FaultCommand) (text : String)
      (before after : List (ℕ × FaultCommand))
      (hunderWay : loop.underWay = before ++ (client, command) :: after) :
    Change { loop with
        relay := loop.relay.next (.commandError client (some command.id) text)
        underWay := before ++ after }
      [.requested client command, .control (.refused (.commandError (some command.id) text))]
  /-- The server receives a datagram. -/
  | datagram (datagram : Datagram) :
    Change { loop with relay := loop.relay.next (.datagram datagram) } []
  /-- Something happens on the control link. -/
  | control (link : ControlLink) (events : List ControlLink.Event) (now : ℕ)
      (haccepted : ControlLink.accepted events = [])
      (hrefused : ControlLink.refusedIds events = []) :
    Change { loop with link, relay := events.foldl (report now) loop.relay } (events.map .control)

section Steps

variable {loop} {loop' : CommandLoop capacity} {trace events : List Event}

/-- Only a browser's message is accepted or refused. -/
lemma silent_of_step {link link' : ControlLink} {action : ControlLink.Action}
    {events : List ControlLink.Event} (hstep : link.step action = some (link', events))
    (haction : ∀ parsed, action ≠ .message parsed) :
    ControlLink.accepted events = [] ∧ ControlLink.refusedIds events = [] := by
  have hcall : ∀ effects : List Effect,
      ControlLink.accepted (effects.map .effect) = [] ∧
        ControlLink.refusedIds (effects.map .effect) = [] := by
    intro effects
    exact ⟨ControlLink.accepted_map_effect effects, refusedIds_map_effect effects⟩
  cases action with
  | message parsed => exact absurd rfl (haction parsed)
  | start =>
    obtain ⟨rfl, rfl⟩ := Prod.mk.inj (Option.some_inj.mp hstep)
    exact hcall _
  | stop =>
    obtain ⟨rfl, rfl⟩ := Prod.mk.inj (Option.some_inj.mp hstep)
    exact hcall _
  | connect socket =>
    obtain ⟨-, heq⟩ := Option.ite_none_right_eq_some.mp hstep
    obtain ⟨rfl, rfl⟩ := Prod.mk.inj (Option.some_inj.mp heq)
    exact hcall _
  | data socket length =>
    obtain ⟨-, heq⟩ := Option.ite_none_right_eq_some.mp hstep
    obtain ⟨rfl, rfl⟩ := Prod.mk.inj (Option.some_inj.mp heq)
    exact hcall _
  | close socket =>
    obtain ⟨-, heq⟩ := Option.ite_none_right_eq_some.mp hstep
    obtain ⟨rfl, rfl⟩ := Prod.mk.inj (Option.some_inj.mp heq)
    exact hcall _
  | timer timer =>
    obtain ⟨-, heq⟩ := Option.ite_none_right_eq_some.mp hstep
    obtain ⟨rfl, rfl⟩ := Prod.mk.inj (Option.some_inj.mp heq)
    exact hcall _
  | accept socket =>
    obtain ⟨-, heq⟩ := Option.ite_none_right_eq_some.mp hstep
    obtain ⟨rfl, rfl⟩ := Prod.mk.inj (Option.some_inj.mp heq)
    exact ⟨rfl, rfl⟩
  | receive length =>
    simp only [ControlLink.step] at hstep
    cases hserving : link.serving with
    | none =>
      rw [hserving] at hstep
      cases hstep
    | some socket =>
      rw [hserving] at hstep
      obtain ⟨-, heq⟩ := Option.ite_none_right_eq_some.mp hstep
      obtain ⟨rfl, rfl⟩ := Prod.mk.inj (Option.some_inj.mp heq)
      constructor
      · rw [ControlLink.accepted, List.filterMap_map]
        exact List.filterMap_eq_nil_iff.mpr fun _ _ => rfl
      · rw [ControlLink.refusedIds, List.filterMap_map]
        exact List.filterMap_eq_nil_iff.mpr fun _ _ => rfl
  | hangUp =>
    simp only [ControlLink.step] at hstep
    cases hserving : link.serving with
    | none =>
      rw [hserving] at hstep
      cases hstep
    | some socket =>
      rw [hserving] at hstep
      obtain ⟨rfl, rfl⟩ := Prod.mk.inj (Option.some_inj.mp hstep)
      exact ⟨rfl, rfl⟩

/-- A frame or a render shows what was computed, if anything. -/
lemma commandState_step {hook hook' : UseTelemetry} {action : UseTelemetry.Action}
    {messages : List ServerMessage} (hstep : hook.step action = some (hook', messages))
    (haction : ∀ message, action ≠ .message message) :
    hook'.next.commandState = hook.next.commandState ∧
      (hook'.shown.commandState = hook.shown.commandState ∨
        hook'.shown.commandState = hook.next.commandState) := by
  have hoperate : hook.operate (.hook action) =
      some (hook', messages.map .received) := by
    rw [UseTelemetry.operate, hstep]
    rfl
  rcases UseTelemetry.operate_cases hoperate with ⟨message, heq, -⟩ | ⟨command, hevents, -⟩ |
    ⟨-, hnext, hshown⟩
  · exact absurd (Operation.hook.inj heq) (haction message)
  · cases messages with
    | nil => cases hevents
    | cons message messages => cases (List.cons.inj hevents).1
  · exact ⟨hnext, hshown⟩

/-- **The cases are exhaustive.** -/
lemma change_of_step (huuid : ∀ sent ∈ loop.underWay, IsUuid sent.2.id) {action : Action}
    (hstep : loop.step action = some (loop', events)) : Change loop loop' events := by
  cases action with
  | connect k =>
    obtain ⟨hsocket, heq⟩ := Option.ite_none_right_eq_some.mp hstep
    obtain ⟨rfl, rfl⟩ := Prod.mk.inj (Option.some_inj.mp heq)
    exact .connected k hsocket
  | opened k =>
    obtain ⟨-, heq⟩ := Option.ite_none_right_eq_some.mp hstep
    obtain ⟨rfl, rfl⟩ := Prod.mk.inj (Option.some_inj.mp heq)
    exact .browser k _ (Or.inl rfl) rfl (Or.inl rfl)
  | lost k disposed =>
    obtain ⟨-, heq⟩ := Option.ite_none_right_eq_some.mp hstep
    obtain ⟨rfl, rfl⟩ := Prod.mk.inj (Option.some_inj.mp heq)
    cases disposed with
    | true => exact .browser k _ (Or.inr rfl) rfl (Or.inl rfl)
    | false => exact .browser k _ (Or.inr rfl) rfl (Or.inl rfl)
  | close client =>
    obtain ⟨rfl, rfl⟩ := Prod.mk.inj (Option.some_inj.mp hstep)
    exact .closed client
  | deliver k =>
    simp only [step] at hstep
    cases hsocket : (loop.browsers k).socket with
    | none =>
      rw [hsocket] at hstep
      cases hstep
    | some client =>
      rw [hsocket] at hstep
      dsimp only at hstep
      cases hclient : loop.relay.clients[client]? with
      | none =>
        rw [hclient] at hstep
        cases hstep
      | some receiver =>
        obtain ⟨isOpen, underWay, samples⟩ := receiver
        rw [hclient] at hstep
        cases underWay with
        | nil => cases hstep
        | cons message rest =>
          obtain ⟨-, heq⟩ := Option.ite_none_right_eq_some.mp hstep
          obtain ⟨rfl, rfl⟩ := Prod.mk.inj (Option.some_inj.mp heq)
          exact .delivered k client message rest _ hsocket hclient rfl
  | frame k now atCall =>
    obtain ⟨⟨hook, messages⟩, hframe, heq⟩ := Option.map_eq_some_iff.mp hstep
    obtain ⟨rfl, rfl⟩ := Prod.mk.inj heq
    obtain ⟨hnext, hshown⟩ := commandState_step hframe fun _ => UseTelemetry.Action.noConfusion
    exact .browser k _ (Or.inl rfl) hnext hshown
  | render k =>
    obtain ⟨rfl, rfl⟩ := Prod.mk.inj (Option.some_inj.mp hstep)
    exact .browser k _ (Or.inl rfl) rfl (Or.inr rfl)
  | send k command =>
    obtain ⟨hid, heq⟩ := Option.ite_none_right_eq_some.mp hstep
    cases hsocket : (loop.browsers k).socket with
    | none =>
      rw [hsocket] at heq
      obtain ⟨rfl, rfl⟩ := Prod.mk.inj (Option.some_inj.mp heq)
      exact .idle
    | some client =>
      rw [hsocket] at heq
      dsimp only [UseTelemetry.sendFaultCommand] at heq
      by_cases hdown : (!(loop.browsers k).isOpen ||
          !(loop.browsers k).hook.shown.controlConnected) = true
      · rw [if_pos hdown] at heq
        obtain ⟨rfl, rfl⟩ := Prod.mk.inj (Option.some_inj.mp heq)
        exact .idle
      · rw [if_neg hdown] at heq
        obtain ⟨rfl, rfl⟩ := Prod.mk.inj (Option.some_inj.mp heq)
        exact .sent k client command
          { (loop.browsers k).hook with next := { (loop.browsers k).hook.next with
              commandState := some
                { id := command.id, fault := command.fault, enabled := command.enabled,
                  status := .pending } } } hsocket hid rfl rfl
  | request client =>
    simp only [step] at hstep
    cases hfind : loop.underWay.find? (·.1 == client) with
    | none =>
      rw [hfind] at hstep
      cases hstep
    | some found =>
      obtain ⟨client', command⟩ := found
      rw [hfind] at hstep
      obtain ⟨hclient, before, after, hunderWay, hbefore⟩ :=
        List.find?_eq_some_iff_append.mp hfind
      obtain rfl : client' = client := beq_iff_eq.mp hclient
      have herase : loop.underWay.eraseP (·.1 == client') = before ++ after := by
        rw [hunderWay, List.eraseP_append_right]
        · simp
        · intro sent hsent
          simpa using hbefore sent hsent
      have hvalid := isFaultCommand_messageOf
        (huuid (client', command) (by rw [hunderWay]; simp))
      obtain ⟨⟨link, shown⟩, hlink, heq⟩ := Option.map_eq_some_iff.mp hstep
      obtain ⟨rfl, rfl⟩ := Prod.mk.inj heq
      simp only [ControlLink.step, acceptClientMessage, hvalid] at hlink
      cases hconnected : loop.link.client.connected with
      | true =>
        rw [hconnected] at hlink
        obtain ⟨rfl, rfl⟩ := Prod.mk.inj (Option.some_inj.mp hlink)
        dsimp only
        rw [herase]
        have hsilent : ∀ (relay : Relay capacity) (effects : List Effect),
            (effects.map ControlLink.Event.effect).foldl (reply client') relay = relay := by
          intro relay effects
          induction effects with
          | nil => rfl
          | cons effect effects ih => exact ih
        have hrelay : (ControlLink.Event.accepted command ::
            (loop.link.call (loop.link.client.send command)).2).foldl (reply client')
              loop.relay = loop.relay := hsilent loop.relay _
        rw [hrelay]
        exact .accepted client' command before after hunderWay
      | false =>
        rw [hconnected] at hlink
        obtain ⟨rfl, rfl⟩ := Prod.mk.inj (Option.some_inj.mp hlink)
        dsimp only
        rw [herase]
        exact .refused client' command _ before after hunderWay
  | datagram datagram =>
    obtain ⟨rfl, rfl⟩ := Prod.mk.inj (Option.some_inj.mp hstep)
    exact .datagram datagram
  | control action now =>
    cases action with
    | message parsed => cases hstep
    | _ =>
      simp only [step] at hstep
      obtain ⟨⟨link, shown⟩, hlink, heq⟩ := Option.map_eq_some_iff.mp hstep
      obtain ⟨rfl, rfl⟩ := Prod.mk.inj heq
      obtain ⟨haccepted, hrefused⟩ :=
        silent_of_step hlink fun _ => ControlLink.Action.noConfusion
      exact .control link shown now haccepted hrefused

end Steps

/-! ## What is under way to the clients -/

section Clients

variable {loop} {relay : Relay capacity} {client : Client} {messages : List ServerMessage}

/-- Sending adds to what is under way, if the client is open. -/
lemma foldl_send (client : Client) (messages : List ServerMessage) :
    messages.foldl Client.send client =
      if client.isOpen then
        { client with underWay := client.underWay ++ messages.map ServerMessage.overJson }
      else client := by
  induction messages generalizing client with
  | nil =>
    obtain ⟨isOpen, underWay, samples⟩ := client
    cases isOpen <;> simp
  | cons message messages ih =>
    rw [List.foldl_cons, ih, Client.isOpen_send]
    cases hopen : client.isOpen <;> simp [Client.send, hopen]

lemma isOpen_foldl_send (client : Client) (messages : List ServerMessage) :
    (messages.foldl Client.send client).isOpen = client.isOpen := by
  rw [foldl_send]
  split <;> rfl

/-- What was under way still is. -/
lemma mem_foldl_send_of_mem {message : ServerMessage} (h : message ∈ client.underWay) :
    message ∈ (messages.foldl Client.send client).underWay := by
  rw [foldl_send]
  split
  · exact List.mem_append_left _ h
  · exact h

/-- What is sent to an open client is under way. -/
lemma mem_foldl_send_of_isOpen {message : ServerMessage} (hopen : client.isOpen)
    (h : message ∈ messages) :
    message.overJson ∈ (messages.foldl Client.send client).underWay := by
  rw [foldl_send, if_pos hopen]
  exact List.mem_append_right _ (List.mem_map_of_mem h)

/-- What is under way was, or was sent. -/
lemma mem_of_mem_foldl_send {message : ServerMessage}
    (h : message ∈ (messages.foldl Client.send client).underWay) :
    message ∈ client.underWay ∨ ∃ sent ∈ messages, sent.overJson = message := by
  rw [foldl_send] at h
  split at h
  · exact (List.mem_append.mp h).imp_right List.mem_map.mp
  · exact Or.inl h

/-- What the control client reports goes to every client. -/
lemma clients_foldl_report (now : ℕ) (relay : Relay capacity)
    (events : List ControlLink.Event) :
    (events.foldl (report now) relay).clients =
      relay.clients.map ((events.filterMap (messagesTo now)).foldl Client.send) := by
  induction events generalizing relay with
  | nil => exact (List.map_id _).symm
  | cons event events ih =>
    rw [List.foldl_cons, ih, List.filterMap_cons]
    cases event with
    | effect effect =>
      cases effect with
      | onStatus connected => exact List.map_map
      | onAcknowledgement id fault enabled => exact List.map_map
      | _ => rfl
    | _ => rfl

/-- A datagram is no news of a command. -/
lemma isOther_of_mem_acceptPacket {server : TelemetryServer capacity} {datagram : Datagram}
    {message : ServerMessage} (h : message ∈ (server.acceptPacket datagram).2) :
    IsOther message := by
  cases hsample : datagram.sample? with
  | none =>
    rw [TelemetryServer.acceptPacket_reject _ hsample] at h
    exact absurd h List.not_mem_nil
  | some sample =>
    cases hrestarted : server.restarted sample with
    | true =>
      rw [TelemetryServer.acceptPacket_restart _ hsample hrestarted] at h
      rcases List.mem_cons.mp h with rfl | h
      · trivial
      · rw [List.mem_singleton.mp h]
        trivial
    | false =>
      rw [TelemetryServer.acceptPacket_record _ hsample hrestarted, List.mem_singleton] at h
      rw [h]
      trivial

/-- It goes to every client. -/
lemma clients_datagram (relay : Relay capacity) (datagram : Datagram) :
    (relay.next (.datagram datagram)).clients =
      relay.clients.map ((relay.server.acceptPacket datagram).2.foldl Client.send) :=
  Relay.clients_foldl_broadcast relay _

/-- A change of one client. -/
lemma getElem?_modify_eq_some {clients : List Client} {i j : ℕ} {change : Client → Client}
    {now : Client} (h : (clients.modify i change)[j]? = some now) :
    ∃ before, clients[j]? = some before ∧ now = if i = j then change before else before := by
  rw [List.getElem?_modify, Option.map_eq_map, Option.map_eq_some_iff] at h
  obtain ⟨before, hbefore, rfl⟩ := h
  exact ⟨before, hbefore, rfl⟩

end Clients

/-! ## The invariant -/

/-- What is told of commands to a client is so. -/
def Backed (trace : List Event) (client : ℕ) : ServerMessage → Prop
  | .commandAck id fault enabled _ =>
    (id, fault, enabled) ∈ ControlLink.acknowledged (controlTrace trace)
  | .commandError id _ => ∃ command, id = some command.id ∧
    (client, command) ∈ requestedOn trace ∧
      command.id ∈ ControlLink.refusedIds (controlTrace trace)
  | _ => True

/-- What a readout of a browser says is so. -/
structure Truthful (trace : List Event) (k : ℕ) (readout : Option CommandState) : Prop where
  /-- The command was sent. -/
  pending : ∀ shown, readout = some shown → shown.status = .pending → ∃ client command,
    .sent k client command ∈ trace ∧ shown.id = command.id ∧ shown.fault = command.fault ∧
      shown.enabled = command.enabled
  /-- It was acknowledged. -/
  acknowledged : ∀ shown, readout = some shown → shown.status = .acknowledged →
    (shown.id, shown.fault, shown.enabled) ∈ ControlLink.acknowledged (controlTrace trace)
  /-- It was sent and refused. -/
  failed : ∀ shown, readout = some shown → shown.status = .failed → ∃ client command,
    .sent k client command ∈ trace ∧ shown.id = command.id ∧
      command.id ∈ ControlLink.refusedIds (controlTrace trace)

/-- Every connection has one browser at its end. -/
structure Connected (trace : List Event) (loop : CommandLoop capacity) : Prop where
  /-- Every connection has one. -/
  length : loop.owners.length = loop.relay.clients.length
  /-- A browser's socket is its own. -/
  socket : ∀ k client, (loop.browsers k).socket = some client → loop.owners[client]? = some k
  /-- A browser sends on its own connections. -/
  sent : ∀ k client command, .sent k client command ∈ trace → loop.owners[client]? = some k
  /-- A browser receives on its own connections. -/
  received : ∀ k client message, .received k client message ∈ trace →
    loop.owners[client]? = some k

/-- Every command is somewhere. -/
structure Accounted (trace : List Event) (underWay : List (ℕ × FaultCommand)) : Prop where
  /-- Those sent have been received by the server, or are under way. -/
  perm : (sentOn trace).Perm (requestedOn trace ++ underWay)
  /-- Their ids are made by `crypto.randomUUID()`. -/
  uuid : ∀ sent ∈ sentOn trace, IsUuid sent.2.id
  /-- Those received were accepted or refused. -/
  settled : ((requestedOn trace).map (·.2.id)).Perm
    ((ControlLink.accepted (controlTrace trace)).map (·.id) ++
      ControlLink.refusedIds (controlTrace trace))
  /-- Each of them. -/
  fate : ∀ sent ∈ requestedOn trace, sent.2 ∈ ControlLink.accepted (controlTrace trace) ∨
    sent.2.id ∈ ControlLink.refusedIds (controlTrace trace)
  /-- And nothing else was accepted. -/
  source : ∀ command ∈ ControlLink.accepted (controlTrace trace),
    ∃ client, (client, command) ∈ requestedOn trace

/-- What holds between any two events. -/
structure Invariant (trace : List Event) (loop : CommandLoop capacity) : Prop where
  connected : Connected trace loop
  accounted : Accounted trace loop.underWay
  /-- What is under way to a client. -/
  backed : ∀ client receiver, loop.relay.clients[client]? = some receiver →
    ∀ message ∈ receiver.underWay, Backed trace client message
  /-- What a browser has received. -/
  received : ∀ k client message, .received k client message ∈ trace → Backed trace client message
  /-- The readouts as computed. -/
  next : ∀ k, Truthful trace k (loop.browsers k).hook.next.commandState
  /-- The readouts as shown. -/
  shown : ∀ k, Truthful trace k (loop.browsers k).hook.shown.commandState

section Invariants

variable {loop} {loop' : CommandLoop capacity} {trace events : List Event}

/-- What was backed stays so. -/
lemma Backed.append {client : ℕ} {message : ServerMessage} (h : Backed trace client message)
    (events : List Event) : Backed (trace ++ events) client message := by
  cases message with
  | commandAck id fault enabled acknowledgedAtMs =>
    rw [Backed, controlTrace_append, ControlLink.acknowledged_append]
    exact List.mem_append_left _ h
  | commandError id text =>
    obtain ⟨command, hid, hrequested, hrefused⟩ := h
    refine ⟨command, hid, ?_, ?_⟩
    · rw [requestedOn_append]
      exact List.mem_append_left _ hrequested
    · rw [controlTrace_append, refusedIds_append]
      exact List.mem_append_left _ hrefused
  | _ => trivial

lemma backed_of_isOther {client : ℕ} {message : ServerMessage} (h : IsOther message) :
    Backed trace client message := by
  cases message with
  | commandAck => exact h.elim
  | commandError => exact h.elim
  | _ => trivial

/-- A message is read back as it was sent, as far as commands go. -/
lemma backed_overJson {client : ℕ} {message : ServerMessage} (h : Backed trace client message) :
    Backed trace client message.overJson := by
  cases message <;> exact h

/-- What a readout said before stays so. -/
lemma Truthful.append {k : ℕ} {readout : Option CommandState} (h : Truthful trace k readout)
    (events : List Event) : Truthful (trace ++ events) k readout where
  pending shown hshown hstatus := by
    obtain ⟨client, command, hsent, hcommand⟩ := h.pending shown hshown hstatus
    exact ⟨client, command, List.mem_append_left _ hsent, hcommand⟩
  acknowledged shown hshown hstatus := by
    rw [controlTrace_append, ControlLink.acknowledged_append]
    exact List.mem_append_left _ (h.acknowledged shown hshown hstatus)
  failed shown hshown hstatus := by
    obtain ⟨client, command, hsent, hid, hrefused⟩ := h.failed shown hshown hstatus
    refine ⟨client, command, List.mem_append_left _ hsent, hid, ?_⟩
    rw [controlTrace_append, refusedIds_append]
    exact List.mem_append_left _ hrefused

/-- **Step lemma**: connections keep their browsers. -/
lemma Connected.change (h : Connected trace loop) (hchange : Change loop loop' events) :
    Connected (trace ++ events) loop' := by
  obtain ⟨hlength, hsocket, hsent, hreceived⟩ := h
  cases hchange with
  | connected k hfree =>
    have hgrown : ∀ client k', loop.owners[client]? = some k' →
        (loop.owners ++ [k])[client]? = some k' := fun client k' hget => by
      rw [List.getElem?_append_left (List.getElem?_eq_some_iff.mp hget).1, hget]
    rw [List.append_nil]
    refine ⟨?_, fun k' client hclient => ?_, fun k' client command hmem =>
      hgrown _ _ (hsent k' client command hmem), fun k' client message hmem =>
      hgrown _ _ (hreceived k' client message hmem)⟩
    · show (loop.owners ++ [k]).length = (loop.relay.connect).clients.length
      simp [Relay.connect, hlength]
    · dsimp only at hclient ⊢
      by_cases hk : k' = k
      · subst hk
        rw [Function.update_self] at hclient
        obtain rfl := Option.some_inj.mp hclient
        rw [← hlength]
        exact List.getElem?_concat_length
      · rw [Function.update_of_ne hk] at hclient
        exact hgrown _ _ (hsocket k' client hclient)
  | browser k browser hsame =>
    rw [List.append_nil]
    refine ⟨hlength, fun k' client hclient => ?_, hsent, hreceived⟩
    rw [setBrowser] at hclient
    by_cases hk : k' = k
    · subst hk
      dsimp only at hclient
      rw [Function.update_self] at hclient
      rcases hsame with hsame | hnone
      · exact hsocket k' client (hsame ▸ hclient)
      · rw [hnone] at hclient
        cases hclient
    · dsimp only at hclient
      rw [Function.update_of_ne hk] at hclient
      exact hsocket k' client hclient
  | closed client =>
    rw [List.append_nil]
    exact ⟨by simpa [Relay.next] using hlength, hsocket, hsent, hreceived⟩
  | delivered k client message rest receiver hown =>
    refine ⟨by simpa [Relay.next] using hlength, fun k' client' hclient => ?_,
      fun k' client' command hmem => hsent k' client' command (by simpa using hmem),
      fun k' client' message' hmem => ?_⟩
    · dsimp only at hclient
      by_cases hk : k' = k
      · subst hk
        rw [Function.update_self] at hclient
        exact hsocket k' client' (hown.trans hclient)
      · rw [Function.update_of_ne hk] at hclient
        exact hsocket k' client' hclient
    · rcases List.mem_append.mp hmem with hmem | hmem
      · exact hreceived k' client' message' hmem
      · obtain ⟨rfl, rfl, rfl⟩ := Event.received.inj (List.mem_singleton.mp hmem)
        exact hsocket k' client' hown
  | sent k client command hook hown =>
    refine ⟨hlength, fun k' client' hclient => ?_, fun k' client' command' hmem => ?_,
      fun k' client' message hmem => hreceived k' client' message (by simpa using hmem)⟩
    · dsimp only at hclient
      by_cases hk : k' = k
      · subst hk
        rw [Function.update_self] at hclient
        exact hsocket k' client' (hown.trans hclient)
      · rw [Function.update_of_ne hk] at hclient
        exact hsocket k' client' hclient
    · rcases List.mem_append.mp hmem with hmem | hmem
      · exact hsent k' client' command' hmem
      · obtain ⟨rfl, rfl, rfl⟩ := Event.sent.inj (List.mem_singleton.mp hmem)
        exact hsocket k' client' hown
  | idle =>
    rw [List.append_nil]
    exact ⟨hlength, hsocket, hsent, hreceived⟩
  | accepted client command before after =>
    exact ⟨hlength, hsocket, fun k' client' command' hmem =>
      hsent k' client' command' (by simpa using hmem), fun k' client' message hmem =>
      hreceived k' client' message (by simpa using hmem)⟩
  | refused client command text before after =>
    exact ⟨by simpa [Relay.next] using hlength, hsocket, fun k' client' command' hmem =>
      hsent k' client' command' (by simpa using hmem), fun k' client' message hmem =>
      hreceived k' client' message (by simpa using hmem)⟩
  | datagram datagram =>
    rw [List.append_nil]
    refine ⟨?_, hsocket, hsent, hreceived⟩
    dsimp only
    rw [clients_datagram, List.length_map, hlength]
  | control link events now =>
    refine ⟨?_, hsocket, fun k' client' command' hmem =>
      hsent k' client' command' (by simpa using hmem), fun k' client' message hmem =>
      hreceived k' client' message (by simpa using hmem)⟩
    dsimp only
    rw [clients_foldl_report, List.length_map, hlength]

/-- An event that is about no command. -/
lemma Accounted.keep {underWay : List (ℕ × FaultCommand)} (h : Accounted trace underWay)
    (hsent : sentOn events = []) (hrequested : requestedOn events = [])
    (haccepted : ControlLink.accepted (controlTrace events) = [])
    (hrefused : ControlLink.refusedIds (controlTrace events) = []) :
    Accounted (trace ++ events) underWay := by
  obtain ⟨hperm, huuid, hsettled, hfate, hsource⟩ := h
  constructor <;> simp only [sentOn_append, requestedOn_append, controlTrace_append,
    ControlLink.accepted_append, refusedIds_append, hsent, hrequested, haccepted, hrefused,
    List.append_nil] <;> assumption

/-- A command is sent. -/
lemma Accounted.send {underWay : List (ℕ × FaultCommand)} (h : Accounted trace underWay)
    (k client : ℕ) {command : FaultCommand} (hid : IsUuid command.id) :
    Accounted (trace ++ [.sent k client command]) (underWay ++ [(client, command)]) := by
  have hsent : sentOn (trace ++ [.sent k client command]) =
      sentOn trace ++ [(client, command)] := sentOn_append _ _
  have hrequested : requestedOn (trace ++ [.sent k client command]) = requestedOn trace := by
    rw [requestedOn_append]
    exact List.append_nil _
  have hcontrol : controlTrace (trace ++ [.sent k client command]) = controlTrace trace := by
    rw [controlTrace_append]
    exact List.append_nil _
  constructor
  case perm =>
    rw [hsent, hrequested, ← List.append_assoc]
    exact h.perm.append_right _
  case uuid =>
    rw [hsent]
    intro sent hmem
    rcases List.mem_append.mp hmem with hmem | hmem
    · exact h.uuid sent hmem
    · rw [List.mem_singleton.mp hmem]
      exact hid
  case settled =>
    rw [hrequested, hcontrol]
    exact h.settled
  case fate =>
    rw [hrequested, hcontrol]
    exact h.fate
  case source =>
    rw [hrequested, hcontrol]
    exact h.source

/-- One of those under way is received by the server, and is accepted or refused. -/
lemma Accounted.request {before after : List (ℕ × FaultCommand)} {client : ℕ}
    {command : FaultCommand} (h : Accounted trace (before ++ (client, command) :: after))
    (shown : List ControlLink.Event)
    (hfate : (ControlLink.accepted shown = [command] ∧ ControlLink.refusedIds shown = []) ∨
      ControlLink.accepted shown = [] ∧ ControlLink.refusedIds shown = [command.id]) :
    Accounted (trace ++ .requested client command :: shown.map .control) (before ++ after) := by
  obtain ⟨hshown, hsilent, hquiet⟩ := map_control shown
  have hsent : sentOn (trace ++ .requested client command :: shown.map .control) =
      sentOn trace := by
    rw [sentOn_append]
    show _ ++ sentOn (shown.map .control) = _
    rw [hsilent, List.append_nil]
  have hrequested : requestedOn (trace ++ .requested client command :: shown.map .control) =
      requestedOn trace ++ [(client, command)] := by
    rw [requestedOn_append]
    show _ ++ (client, command) :: requestedOn (shown.map .control) = _
    rw [hquiet]
  have hcontrol : controlTrace (trace ++ .requested client command :: shown.map .control) =
      controlTrace trace ++ shown := by
    rw [controlTrace_append]
    show _ ++ controlTrace (shown.map .control) = _
    rw [hshown]
  constructor
  case perm =>
    rw [hsent, hrequested, List.append_assoc]
    exact h.perm.trans (List.Perm.append_left _ List.perm_middle)
  case uuid =>
    rw [hsent]
    exact h.uuid
  case settled =>
    have hids := h.settled.append_right [command.id]
    rw [hrequested, hcontrol, ControlLink.accepted_append, refusedIds_append, List.map_append,
      List.map_append]
    rcases hfate with ⟨haccepted, hrefused⟩ | ⟨haccepted, hrefused⟩
    · rw [haccepted, hrefused, List.append_nil, List.append_assoc]
      rw [List.append_assoc] at hids
      exact hids.trans (List.Perm.append_left _ List.perm_append_comm)
    · rw [haccepted, hrefused, List.map_nil, List.append_nil, ← List.append_assoc]
      exact hids
  case fate =>
    rw [hrequested, hcontrol, ControlLink.accepted_append, refusedIds_append]
    intro sent hmem
    rcases List.mem_append.mp hmem with hmem | hmem
    · exact (h.fate sent hmem).imp (List.mem_append_left _) (List.mem_append_left _)
    · obtain rfl := List.mem_singleton.mp hmem
      rcases hfate with ⟨haccepted, -⟩ | ⟨-, hrefused⟩
      · exact Or.inl (List.mem_append_right _ (by rw [haccepted]; exact List.mem_singleton_self _))
      · exact Or.inr (List.mem_append_right _ (by rw [hrefused]; exact List.mem_singleton_self _))
  case source =>
    rw [hrequested, hcontrol, ControlLink.accepted_append]
    intro accepted hmem
    rcases List.mem_append.mp hmem with hmem | hmem
    · obtain ⟨client', hmem⟩ := h.source accepted hmem
      exact ⟨client', List.mem_append_left _ hmem⟩
    · rcases hfate with ⟨haccepted, -⟩ | ⟨haccepted, -⟩
      · rw [haccepted, List.mem_singleton] at hmem
        exact ⟨client, List.mem_append_right _ (by rw [hmem]; exact List.mem_singleton_self _)⟩
      · rw [haccepted] at hmem
        exact absurd hmem List.not_mem_nil

/-- **Step lemma**: every command stays somewhere. -/
lemma Accounted.change (h : Accounted trace loop.underWay) (hchange : Change loop loop' events) :
    Accounted (trace ++ events) loop'.underWay := by
  cases hchange with
  | sent k client command hook hsocket hid => exact h.send k client hid
  | accepted client command before after hunderWay =>
    rw [hunderWay] at h
    refine h.request _ (Or.inl ⟨?_, ?_⟩)
    · show command :: ControlLink.accepted (List.map _ _) = _
      rw [ControlLink.accepted_map_effect]
    · exact refusedIds_map_effect _
  | refused client command text before after hunderWay =>
    rw [hunderWay] at h
    exact h.request [.refused (.commandError (some command.id) text)] (Or.inr ⟨rfl, rfl⟩)
  | control link shown now haccepted hrefused =>
    obtain ⟨hshown, hsilent, hquiet⟩ := map_control shown
    exact h.keep hsilent hquiet (by rw [hshown, haccepted]) (by rw [hshown, hrefused])
  | _ => exact h.keep rfl rfl rfl rfl

/-- What events alone show is shown. -/
lemma Backed.prepend {client : ℕ} {message : ServerMessage} (h : Backed events client message)
    (trace : List Event) : Backed (trace ++ events) client message := by
  cases message with
  | commandAck id fault enabled acknowledgedAtMs =>
    rw [Backed, controlTrace_append, ControlLink.acknowledged_append]
    exact List.mem_append_right _ h
  | commandError id text =>
    obtain ⟨command, hid, hrequested, hrefused⟩ := h
    refine ⟨command, hid, ?_, ?_⟩
    · rw [requestedOn_append]
      exact List.mem_append_right _ hrequested
    · rw [controlTrace_append, refusedIds_append]
      exact List.mem_append_right _ hrefused
  | _ => trivial

/-- What the control client reports is told as it is. -/
lemma backed_of_messagesTo {shown : List ControlLink.Event} {now client : ℕ}
    {message : ServerMessage} (h : message ∈ shown.filterMap (messagesTo now)) :
    Backed (shown.map .control) client message := by
  obtain ⟨event, hmem, heq⟩ := List.mem_filterMap.mp h
  cases event with
  | effect effect =>
    cases effect with
    | onStatus connected =>
      obtain rfl := Option.some_inj.mp heq
      trivial
    | onAcknowledgement id fault enabled =>
      obtain rfl := Option.some_inj.mp heq
      rw [Backed, (map_control shown).1]
      exact List.mem_filterMap.mpr ⟨_, hmem, rfl⟩
    | _ => cases heq
  | _ => cases heq

/-- What is under way to a client was under way, or is told of the event. -/
lemma mem_underWay_of_change (hchange : Change loop loop' events) {client : ℕ}
    {receiver' : Client} (hclient : loop'.relay.clients[client]? = some receiver')
    {message : ServerMessage} (hmem : message ∈ receiver'.underWay) :
    (∃ receiver, loop.relay.clients[client]? = some receiver ∧ message ∈ receiver.underWay) ∨
      Backed events client message := by
  cases hchange with
  | connected k hfree =>
    dsimp only [Relay.next, Relay.connect] at hclient
    rcases lt_or_ge client loop.relay.clients.length with hlt | hge
    · rw [List.getElem?_append_left hlt] at hclient
      exact Or.inl ⟨receiver', hclient, hmem⟩
    · -- A history and the status of the control link are all it is sent.
      rw [List.getElem?_append_right hge, List.getElem?_singleton] at hclient
      obtain ⟨-, heq⟩ := Option.ite_none_right_eq_some.mp hclient
      obtain rfl := Option.some_inj.mp heq
      rcases List.mem_cons.mp hmem with rfl | hmem
      · exact Or.inr trivial
      · rw [List.mem_singleton.mp hmem]
        exact Or.inr trivial
  | closed client' =>
    obtain ⟨before, hbefore, rfl⟩ := getElem?_modify_eq_some hclient
    refine Or.inl ⟨before, hbefore, ?_⟩
    split at hmem <;> exact hmem
  | delivered k client' delivered rest receiver hsocket hreceiver hfirst =>
    obtain ⟨before, hbefore, rfl⟩ := getElem?_modify_eq_some hclient
    refine Or.inl ⟨before, hbefore, ?_⟩
    split at hmem
    · rw [Client.deliver] at hmem
      split at hmem
      · exact hmem
      · next heq =>
        rw [heq]
        exact List.mem_cons_of_mem _ hmem
    · exact hmem
  | refused client' command text before after hunderWay =>
    obtain ⟨earlier, hearlier, rfl⟩ := getElem?_modify_eq_some hclient
    split at hmem
    · next heq =>
      subst heq
      have hsend : message ∈ ([ServerMessage.commandError (some command.id) text].foldl
          Client.send earlier).underWay := hmem
      rcases mem_of_mem_foldl_send hsend with hmem | ⟨sent, hsent, rfl⟩
      · exact Or.inl ⟨earlier, hearlier, hmem⟩
      · rw [List.mem_singleton.mp hsent]
        exact Or.inr ⟨command, rfl, List.mem_singleton_self _, List.mem_singleton_self _⟩
    · exact Or.inl ⟨earlier, hearlier, hmem⟩
  | datagram datagram =>
    dsimp only at hclient
    rw [clients_datagram, List.getElem?_map, Option.map_eq_some_iff] at hclient
    obtain ⟨before, hbefore, rfl⟩ := hclient
    rcases mem_of_mem_foldl_send hmem with hmem | ⟨sent, hsent, rfl⟩
    · exact Or.inl ⟨before, hbefore, hmem⟩
    · exact Or.inr (backed_overJson (backed_of_isOther (isOther_of_mem_acceptPacket hsent)))
  | control link shown now =>
    dsimp only at hclient
    rw [clients_foldl_report, List.getElem?_map, Option.map_eq_some_iff] at hclient
    obtain ⟨before, hbefore, rfl⟩ := hclient
    rcases mem_of_mem_foldl_send hmem with hmem | ⟨sent, hsent, rfl⟩
    · exact Or.inl ⟨before, hbefore, hmem⟩
    · exact Or.inr (backed_overJson (backed_of_messagesTo hsent))
  | _ => exact Or.inl ⟨receiver', hclient, hmem⟩

/-- A message that is backed leaves a readout truthful. -/
lemma Truthful.readoutAfter {k client : ℕ} {readout : Option CommandState}
    (h : Truthful trace k readout) {message : ServerMessage} (hbacked : Backed trace client message)
    (hown : ∀ command, (client, command) ∈ requestedOn trace → .sent k client command ∈ trace) :
    Truthful trace k (readoutAfter readout message) := by
  cases message with
  | commandAck id fault enabled acknowledgedAtMs =>
    constructor
    · rintro shown ⟨⟩ ⟨⟩
    · rintro shown ⟨⟩ -
      exact hbacked
    · rintro shown ⟨⟩ ⟨⟩
  | commandError id text =>
    obtain ⟨command, rfl, hrequested, hrefused⟩ := hbacked
    constructor
    · rintro shown ⟨⟩ ⟨⟩
    · rintro shown ⟨⟩ ⟨⟩
    · rintro shown ⟨⟩ -
      exact ⟨client, command, hown command hrequested, rfl, hrefused⟩
  | _ => exact h

/-- So does sending a command. -/
lemma truthful_sent {k client : ℕ} {command : FaultCommand}
    (h : .sent k client command ∈ trace) :
    Truthful trace k (some
      { id := command.id, fault := command.fault, enabled := command.enabled,
        status := .pending }) where
  pending := by
    rintro shown ⟨⟩ -
    exact ⟨client, command, h, rfl, rfl, rfl⟩
  acknowledged := by rintro shown ⟨⟩ ⟨⟩
  failed := by rintro shown ⟨⟩ ⟨⟩

/-- A browser changes, the others do not. -/
lemma truthful_update (readout : Browser → Option CommandState) {browser : Browser} {k : ℕ}
    (h : ∀ j, Truthful trace j (readout (loop.browsers j)))
    (hbrowser : Truthful (trace ++ events) k (readout browser)) (j : ℕ) :
    Truthful (trace ++ events) j (readout (Function.update loop.browsers k browser j)) := by
  by_cases hj : j = k
  · subst hj
    rwa [Function.update_self]
  · rw [Function.update_of_ne hj]
    exact (h j).append events

/-- A command received on a browser's connection is the browser's. -/
lemma Invariant.sent_of_requested (h : Invariant trace loop) {k client : ℕ}
    (hsocket : (loop.browsers k).socket = some client) {command : FaultCommand}
    (hrequested : (client, command) ∈ requestedOn trace) :
    .sent k client command ∈ trace := by
  have hsent : (client, command) ∈ sentOn trace :=
    h.accounted.perm.mem_iff.mpr (List.mem_append_left _ hrequested)
  obtain ⟨k', hk'⟩ := mem_sentOn.mp hsent
  have howner := h.connected.socket k client hsocket
  rw [h.connected.sent k' client command hk'] at howner
  rwa [← Option.some_inj.mp howner]

/-- The cases of a step. -/
lemma Invariant.change_of_step (h : Invariant trace loop) {action : Action}
    (hstep : loop.step action = some (loop', events)) : Change loop loop' events := by
  refine CommandLoop.change_of_step (fun sent hsent => h.accounted.uuid sent ?_) hstep
  exact h.accounted.perm.mem_iff.mpr (List.mem_append_right _ hsent)

/-- **Step lemma**. -/
lemma Invariant.change (h : Invariant trace loop) (hchange : Change loop loop' events) :
    Invariant (trace ++ events) loop' where
  connected := h.connected.change hchange
  accounted := h.accounted.change hchange
  backed client receiver hclient message hmem := by
    rcases mem_underWay_of_change hchange hclient hmem with ⟨before, hbefore, hmem⟩ | hnew
    · exact (h.backed client before hbefore message hmem).append events
    · exact hnew.prepend trace
  received k client message hmem := by
    rcases List.mem_append.mp hmem with hmem | hmem
    · exact (h.received k client message hmem).append events
    · cases hchange with
      | delivered k' client' message' rest receiver hsocket hreceiver hfirst =>
        obtain ⟨rfl, rfl, rfl⟩ := Event.received.inj (List.mem_singleton.mp hmem)
        refine (h.backed client receiver hreceiver message ?_).append _
        rw [hfirst]
        exact List.mem_cons_self
      | _ => simp at hmem
  next := by
    cases hchange with
    | connected k hfree =>
      exact truthful_update (·.hook.next.commandState) h.next ((h.next k).append [])
    | browser k browser hsame hnext hshown =>
      refine truthful_update (·.hook.next.commandState) h.next ?_
      rw [hnext]
      exact (h.next k).append []
    | delivered k client message rest receiver hsocket hreceiver hfirst =>
      refine truthful_update (·.hook.next.commandState) h.next (Truthful.append ?_ _)
      rw [UseTelemetry.commandState_acceptMessage]
      refine (h.next k).readoutAfter (h.backed client receiver hreceiver message ?_)
        fun command => h.sent_of_requested hsocket
      rw [hfirst]
      exact List.mem_cons_self
    | sent k client command hook hsocket hid hnext hshown =>
      refine truthful_update (·.hook.next.commandState) h.next ?_
      dsimp only
      rw [hnext]
      exact truthful_sent (List.mem_append_right _ (List.mem_singleton_self _))
    | _ => exact fun k => (h.next k).append _
  shown := by
    cases hchange with
    | connected k hfree =>
      exact truthful_update (·.hook.shown.commandState) h.shown ((h.shown k).append [])
    | browser k browser hsame hnext hshown =>
      refine truthful_update (·.hook.shown.commandState) h.shown ?_
      rcases hshown with hshown | hshown
      · rw [hshown]
        exact (h.shown k).append []
      · rw [hshown]
        exact (h.next k).append []
    | delivered k client message rest receiver hsocket hreceiver hfirst =>
      refine truthful_update (·.hook.shown.commandState) h.shown (Truthful.append ?_ _)
      rw [UseTelemetry.shown_acceptMessage]
      exact h.shown k
    | sent k client command hook hsocket hid hnext hshown =>
      refine truthful_update (·.hook.shown.commandState) h.shown ?_
      dsimp only
      rw [hshown]
      exact (h.shown k).append _
    | _ => exact fun k => (h.shown k).append _

/-- **Run lemma**. -/
lemma isInvariant : (system capacity).IsInvariant Invariant where
  start :=
    { connected := ⟨rfl, by simp [system], by simp, by simp⟩
      accounted := ⟨List.Perm.refl _, by simp [sentOn], List.Perm.refl _, by simp [requestedOn],
        by simp [controlTrace, ControlLink.accepted]⟩
      backed := by simp [system]
      received := by simp
      next := fun k => ⟨by rintro shown ⟨⟩, by rintro shown ⟨⟩, by rintro shown ⟨⟩⟩
      shown := fun k => ⟨by rintro shown ⟨⟩, by rintro shown ⟨⟩, by rintro shown ⟨⟩⟩ }
  keep _ _ _ _ _ _ h hstep := h.change (h.change_of_step hstep)

end Invariants

end CommandLoop

end FlightDeck.System
