import FlightDeck.System.ControlLink

set_option relaxedAutoImplicit false
set_option autoImplicit false

/-!
# One connection at a time

The control client alone, in any order of calls, socket events and timers. A socket that was
destroyed may close much later, a timer may be left over from before a `stop`, and the handle of
a timer is overwritten by the next one. What keeps the client to one connection is that `#socket`
is cleared only when the socket has closed, and that `#connect` looks at it and at `#running`.

Node emits `connect` at most once on a socket and not after `destroy`, and `close` once and last.

## Main definitions

* `ControlHost` — the client with its sockets and timers.
* `ControlHost.step` — one call, socket event or timer.
* `ControlHost.created`, `ControlHost.statuses`, `ControlHost.started` — what a run shows.
* `ControlHost.OneConnection` — at most one connection, and what is said about it is true.

## Main results

* `ControlHost.oneConnection_of_run` — that, for every run.
-/

namespace FlightDeck.System

open Server TransitionSystem

/-- The client with its sockets and timers. Of a connection only the flags are used. -/
structure ControlHost where
  /-- The client. -/
  client : SimulatorControlClient := {}
  /-- The timers that are set and have not fired. -/
  timers : List ℕ := []
  /-- The state of each socket; those not created yet are as new. -/
  connections : ℕ → Connection := fun _ => {}

namespace ControlHost

/-- What happens next. -/
inductive Action where
  /-- `start()` is called. -/
  | start
  /-- `stop()` is called. -/
  | stop
  /-- `send(command)` is called. -/
  | send (command : FaultCommand)
  /-- A socket emits `connect`. -/
  | connect (socket : ℕ)
  /-- A socket emits `data`. -/
  | data (socket : ℕ) (chunk : List Char)
  /-- A socket emits `error`. -/
  | error (socket : ℕ)
  /-- A socket emits `close`. -/
  | close (socket : ℕ)
  /-- A timer fires. -/
  | timer (timer : ℕ)

/-- What a run shows: what happens, and what the client does about it. -/
inductive Event where
  /-- Something happens. -/
  | occurred (action : Action)
  /-- The client does something outside itself. -/
  | effect (effect : Effect)

/-- A method of the client is called and has its effects. -/
def call (host : ControlHost) (action : Action) (result : SimulatorControlClient × List Effect) :
    ControlHost × List Event :=
  ({ client := result.1
     timers := result.2.foldl ControlLink.tick host.timers
     connections := result.2.foldl ControlLink.touch host.connections },
    .occurred action :: result.2.map .effect)

/-- A socket has been created and has not closed. -/
def IsOpen (host : ControlHost) (socket : ℕ) : Prop :=
  socket < host.client.sockets ∧ (host.connections socket).closed = false

instance (host : ControlHost) (socket : ℕ) : Decidable (host.IsOpen socket) :=
  inferInstanceAs (Decidable (_ ∧ _))

/-- One event. -/
def step (host : ControlHost) (action : Action) : Option (ControlHost × List Event) :=
  match action with
  | .start => some (host.call action host.client.start)
  | .stop => some (host.call action host.client.stop)
  | .send command => some (host.call action (host.client.send command))
  | .connect socket =>
    let connection := host.connections socket
    if host.IsOpen socket ∧ !connection.established ∧ !connection.destroyed then
      some <| call { host with
        connections := Function.update host.connections socket
          { connection with established := true } } action host.client.onConnect
    else none
  | .data socket chunk =>
    if host.IsOpen socket then some (host.call action (host.client.acceptData chunk)) else none
  | .error socket =>
    if host.IsOpen socket then some (host.call action (host.client, [])) else none
  | .close socket =>
    let connection := host.connections socket
    if host.IsOpen socket then
      some <| call { host with
        connections := Function.update host.connections socket
          { connection with closed := true } } action host.client.onClose
    else none
  | .timer timer =>
    if timer ∈ host.timers then
      some (call { host with timers := host.timers.erase timer } action host.client.connect)
    else none

/-- The client under every order of events. -/
def system : System ControlHost Action Event where
  init := {}
  step := step

/-! ## What a run shows -/

/-- The sockets that effects create. -/
def createdBy (effects : List Effect) : List ℕ :=
  effects.filterMap fun
    | .createConnection socket => some socket
    | _ => none

/-- The values that effects pass to `onStatus`. -/
def reportedBy (effects : List Effect) : List Bool :=
  effects.filterMap fun
    | .onStatus connected => some connected
    | _ => none

/-- What the client did in a run. -/
def effects (trace : List Event) : List Effect :=
  trace.filterMap fun
    | .effect effect => some effect
    | _ => none

/-- The sockets created, in order. -/
def created (trace : List Event) : List ℕ := createdBy (effects trace)

/-- The values passed to `onStatus`, in order. -/
def statuses (trace : List Event) : List Bool := reportedBy (effects trace)

/-- The client is to run, after an event. -/
def startedAfter (started : Bool) : Event → Bool
  | .occurred .start => true
  | .occurred .stop => false
  | _ => started

/-- Of the calls `start` and `stop`, the last one was `start`. -/
def started (trace : List Event) : Bool := trace.foldl startedAfter false

/-- Values alternate, beginning with `true`. -/
def Alternates (values : List Bool) : Prop :=
  ∀ i value, values[i]? = some value → (value = true ↔ i % 2 = 0)

/-- A socket has emitted `connect`, and then neither did it close nor was `stop` called. -/
def ConnectedSince (socket : ℕ) (trace : List Event) : Prop :=
  ∃ before after, trace = before ++ .occurred (.connect socket) :: after ∧
    .occurred .stop ∉ after ∧ .occurred (.close socket) ∉ after

/-- At most one connection, and what is said about it is true. -/
structure OneConnection (trace : List Event) (host : ControlHost) : Prop where
  /-- Every socket is a new one. -/
  nodup : (created trace).Nodup
  /-- At most one socket has been created and has not closed. -/
  atMostOne : ∀ j ∈ created trace, ∀ k ∈ created trace, .occurred (.close j) ∉ trace →
    .occurred (.close k) ∉ trace → j = k
  /-- `connected` is about that socket. -/
  connected : host.client.connected = true → ∃ socket ∈ created trace,
    host.client.socket = some socket ∧ .occurred (.close socket) ∉ trace ∧
      ConnectedSince socket trace
  /-- After `stop`, no socket is created before the next `start`. -/
  started : ∀ before socket after,
    trace = before ++ .effect (.createConnection socket) :: after → started before = true
  /-- The values passed to `onStatus` alternate. -/
  alternates : Alternates (statuses trace)

/-! ## Traces -/

section Trace

variable {trace : List Event} {action : Action}

@[simp] lemma effects_append (t₁ t₂ : List Event) : effects (t₁ ++ t₂) = effects t₁ ++ effects t₂ :=
  List.filterMap_append

@[simp] lemma createdBy_append (xs ys : List Effect) :
    createdBy (xs ++ ys) = createdBy xs ++ createdBy ys := List.filterMap_append

@[simp] lemma reportedBy_append (xs ys : List Effect) :
    reportedBy (xs ++ ys) = reportedBy xs ++ reportedBy ys := List.filterMap_append

/-- The effects of a call. -/
@[simp] lemma effects_call (action : Action) (done : List Effect) :
    effects (.occurred action :: done.map .effect) = done := by
  simp [effects, List.filterMap_map]

/-- The effects of a call do not start or stop the client. -/
lemma started_call (trace : List Event) (action : Action) (done : List Effect) :
    started (trace ++ .occurred action :: done.map .effect) =
      startedAfter (started trace) (.occurred action) := by
  have hkeep : ∀ value, (done.map Event.effect).foldl startedAfter value = value := by
    intro value
    induction done with
    | nil => rfl
    | cons effect done ih => exact ih
  rw [started, List.foldl_append, List.foldl_cons, hkeep]
  rfl

/-- What occurred, after a call. -/
lemma occurred_mem_call {done : List Effect} {other : Action} :
    .occurred other ∈ trace ++ .occurred action :: done.map .effect ↔
      .occurred other ∈ trace ∨ other = action := by
  simp [eq_comm]

/-- One value more. -/
lemma Alternates.concat {values : List Bool} (h : Alternates values) {value : Bool}
    (hvalue : value = true ↔ values.length % 2 = 0) : Alternates (values ++ [value]) := by
  intro i other hother
  rcases lt_trichotomy i values.length with hi | rfl | hi
  · rw [List.getElem?_append_left hi] at hother
    exact h i other hother
  · rw [List.getElem?_concat_length] at hother
    exact Option.some_inj.mp hother ▸ hvalue
  · rw [List.getElem?_eq_none (by rw [List.length_append]; exact hi)] at hother
    simp at hother

/-- A connection that lasts. -/
lemma ConnectedSince.call {socket : ℕ} (h : ConnectedSince socket trace) (done : List Effect)
    (hstop : action ≠ .stop) (hclose : action ≠ .close socket) :
    ConnectedSince socket (trace ++ .occurred action :: done.map .effect) := by
  obtain ⟨before, after, rfl, hstop', hclose'⟩ := h
  refine ⟨before, after ++ .occurred action :: done.map .effect, by simp, ?_, ?_⟩
  · rw [occurred_mem_call]
    exact not_or.mpr ⟨hstop', hstop.symm⟩
  · rw [occurred_mem_call]
    exact not_or.mpr ⟨hclose', hclose.symm⟩

/-- A connection that has just been made. -/
lemma connectedSince_call (trace : List Event) (socket : ℕ) (done : List Effect) :
    ConnectedSince socket (trace ++ .occurred (.connect socket) :: done.map .effect) :=
  ⟨trace, done.map .effect, rfl, by simp, by simp⟩

/-- A creation is one that was there before, or one of the effects of the call. -/
lemma creation_call {done : List Effect} {before after : List Event} {socket : ℕ}
    (h : trace ++ .occurred action :: done.map .effect =
      before ++ .effect (.createConnection socket) :: after) :
    (∃ after₀, trace = before ++ .effect (.createConnection socket) :: after₀) ∨
      socket ∈ createdBy done ∧
        ∃ done₀ : List Effect, before = trace ++ .occurred action :: done₀.map .effect := by
  rcases List.append_eq_append_iff.mp h with ⟨middle, rfl, hmiddle⟩ | ⟨middle, rfl, hmiddle⟩
  · right
    cases middle with
    | nil => simp at hmiddle
    | cons first middle =>
      obtain ⟨rfl, hdone⟩ := List.cons.inj hmiddle
      obtain ⟨done₀, rest, rfl, rfl, hrest⟩ := List.map_eq_append_iff.mp hdone
      obtain ⟨effect, rest, rfl, heffect, -⟩ := List.map_eq_cons_iff.mp hrest
      obtain rfl := Event.effect.inj heffect
      exact ⟨by simp [createdBy], done₀, rfl⟩
  · cases middle with
    | nil => simp at hmiddle
    | cons first middle =>
      obtain ⟨rfl, -⟩ := List.cons.inj hmiddle
      exact Or.inl ⟨middle, rfl⟩

end Trace

/-! ## Calls -/

/-- What the calls of the client that create no socket have in common. -/
structure Calm (client : SimulatorControlClient)
    (result : SimulatorControlClient × List Effect) : Prop where
  /-- No socket is created. -/
  created : createdBy result.2 = []
  /-- None is counted. -/
  sockets : result.1.sockets = client.sockets
  /-- A change of `connected` is reported, and nothing else. -/
  reported : reportedBy result.2 =
    if client.connected = result.1.connected then [] else [result.1.connected]

section Client

variable (client : SimulatorControlClient)

/-- `#setConnected`. -/
lemma calm_setConnected (connected : Bool) : Calm client (client.setConnected connected) := by
  unfold SimulatorControlClient.setConnected
  split
  · exact ⟨rfl, rfl, by simp [reportedBy]⟩
  · next hne => exact ⟨rfl, rfl, by simp [reportedBy, hne]⟩

/-- What `#setConnected` sets. -/
lemma setConnected_fst (connected : Bool) :
    (client.setConnected connected).1 = { client with connected } := by
  unfold SimulatorControlClient.setConnected
  split
  · next h => rw [← h]
  · rfl

/-- `#write` only writes. -/
lemma calm_write (command : FaultCommand) :
    createdBy (client.write command) = [] ∧ reportedBy (client.write command) = [] := by
  unfold SimulatorControlClient.write
  split
  · exact ⟨rfl, rfl⟩
  · cases client.socket <;> exact ⟨rfl, rfl⟩

/-- `send`. -/
lemma calm_send (command : FaultCommand) : Calm client (client.send command) := by
  obtain ⟨hcreated, hreported⟩ :=
    calm_write { client with pending := client.pending.set command.id command } command
  exact ⟨hcreated, rfl, by simpa [SimulatorControlClient.send] using hreported⟩

/-- `stop`. -/
lemma calm_stop : Calm client client.stop := by
  obtain ⟨hcreated, hsockets, hreported⟩ := calm_setConnected { client with running := false } false
  have hclear : createdBy (client.reconnectTimer.map Effect.clearTimeout).toList = [] ∧
      reportedBy (client.reconnectTimer.map Effect.clearTimeout).toList = [] := by
    cases client.reconnectTimer <;> exact ⟨rfl, rfl⟩
  have hdestroy : createdBy (client.socket.map Effect.destroy).toList = [] ∧
      reportedBy (client.socket.map Effect.destroy).toList = [] := by
    cases client.socket <;> exact ⟨rfl, rfl⟩
  constructor
  · simp only [SimulatorControlClient.stop, createdBy_append, hclear, hdestroy, hcreated,
      List.append_nil]
  · exact hsockets
  · simp only [SimulatorControlClient.stop, reportedBy_append, hclear, hdestroy, List.nil_append]
    exact hreported

/-- The handler of `connect`. -/
lemma calm_onConnect : Calm client client.onConnect := by
  obtain ⟨hcreated, hsockets, hreported⟩ := calm_setConnected client true
  have hwrites : ∀ commands : List FaultCommand,
      createdBy (commands.flatMap (client.setConnected true).1.write) = [] ∧
        reportedBy (commands.flatMap (client.setConnected true).1.write) = [] := by
    intro commands
    induction commands with
    | nil => exact ⟨rfl, rfl⟩
    | cons command commands ih =>
      obtain ⟨hcreated, hreported⟩ := calm_write (client.setConnected true).1 command
      rw [List.flatMap_cons, createdBy_append, reportedBy_append, hcreated, hreported]
      exact ih
  obtain ⟨hnone, hquiet⟩ := hwrites (client.setConnected true).1.pending.values
  constructor
  · simp only [SimulatorControlClient.onConnect, createdBy_append, hnone, hcreated,
      List.append_nil]
  · exact hsockets
  · simp only [SimulatorControlClient.onConnect, reportedBy_append, hquiet, List.append_nil]
    exact hreported

/-- `#acceptData` changes the pending commands and the buffer, and acknowledges. -/
lemma acceptData_fst_snd (chunk : List Char) :
    (∃ pending buffer, (client.acceptData chunk).1 = { client with pending, buffer }) ∧
      createdBy (client.acceptData chunk).2 = [] ∧ reportedBy (client.acceptData chunk).2 = [] := by
  let Quiet (now : SimulatorControlClient × List Effect) : Prop :=
    (∃ pending, now.1 = { client with pending }) ∧ createdBy now.2 = [] ∧ reportedBy now.2 = []
  have hlines : ∀ text, Quiet (Framing.consume '\n' SimulatorControlClient.acceptLine
      (client, []) text).1 := by
    refine Framing.consume_induction '\n' ?_ ⟨⟨client.pending, rfl⟩, rfl, rfl⟩
    rintro ⟨now, done⟩ line ⟨⟨pending, rfl⟩, hcreated, hreported⟩
    unfold SimulatorControlClient.acceptLine
    split
    · exact ⟨⟨pending, rfl⟩, hcreated, hreported⟩
    · refine ⟨⟨_, rfl⟩, ?_, ?_⟩
      · rw [createdBy_append, hcreated]
        rfl
      · rw [reportedBy_append, hreported]
        rfl
  obtain ⟨⟨pending, hpending⟩, hcreated, hreported⟩ := hlines (client.buffer ++ chunk)
  refine ⟨⟨pending, (client.acceptData chunk).1.buffer, ?_⟩, hcreated, hreported⟩
  simp only [SimulatorControlClient.acceptData, hpending]

/-- `#acceptData`. -/
lemma calm_acceptData (chunk : List Char) : Calm client (client.acceptData chunk) := by
  obtain ⟨⟨pending, buffer, hclient⟩, hcreated, hreported⟩ := acceptData_fst_snd client chunk
  exact ⟨hcreated, by rw [hclient], by rw [hreported, hclient, if_pos rfl]⟩

/-- The handler of `close`. -/
lemma calm_onClose : Calm client client.onClose := by
  obtain ⟨hcreated, hsockets, hreported⟩ :=
    calm_setConnected { client with socket := none, buffer := [] } false
  unfold SimulatorControlClient.onClose
  dsimp only
  split
  · refine ⟨?_, hsockets, ?_⟩
    · rw [createdBy_append, hcreated]
      rfl
    · rw [reportedBy_append, hreported]
      simp [reportedBy]
  · exact ⟨hcreated, hsockets, hreported⟩

/-- What the handler of `close` leaves. -/
lemma onClose_fst : client.onClose.1.socket = none ∧ client.onClose.1.connected = false ∧
    client.onClose.1.running = client.running := by
  unfold SimulatorControlClient.onClose
  dsimp only
  rw [setConnected_fst]
  split <;> exact ⟨rfl, rfl, rfl⟩

/-- `#connect` creates a socket exactly if the client runs and has none. -/
lemma connect_cases :
    client.connect = (client, []) ∧ (client.running = true → client.socket ≠ none) ∨
      client.running = true ∧ client.socket = none ∧ client.connect =
        ({ client with socket := some client.sockets, sockets := client.sockets + 1 },
          [.createConnection client.sockets]) := by
  unfold SimulatorControlClient.connect
  cases client.running <;> cases client.socket <;> simp

end Client

/-! ## The invariant -/

/-- How the client and its sockets relate to what has happened. -/
structure Invariant (trace : List Event) (host : ControlHost) : Prop where
  /-- Sockets are numbered in order. -/
  created : created trace = List.range host.client.sockets
  /-- A socket is closed once it has emitted `close`. -/
  closed : ∀ socket, (host.connections socket).closed = true ↔ .occurred (.close socket) ∈ trace
  /-- Only a socket that was created closes. -/
  unused : ∀ socket, host.client.sockets ≤ socket → (host.connections socket).closed = false
  /-- An open socket is the client's. -/
  live : ∀ socket, host.IsOpen socket → host.client.socket = some socket
  /-- The client's socket is open. -/
  current : ∀ socket, host.client.socket = some socket → host.IsOpen socket
  /-- `connected` is about the client's socket. -/
  connected : host.client.connected = true →
    ∃ socket, host.client.socket = some socket ∧ ConnectedSince socket trace
  /-- The client runs from `start` to `stop`. -/
  running : host.client.running = started trace
  /-- Only a running client creates sockets. -/
  creations : ∀ before socket after,
    trace = before ++ .effect (.createConnection socket) :: after → started before = true
  /-- The values passed to `onStatus` alternate. -/
  alternates : Alternates (statuses trace)
  /-- The last of them is `connected`. -/
  parity : host.client.connected = true ↔ (statuses trace).length % 2 = 1

section Steps

variable {trace : List Event} {host : ControlHost}

/-- No effect closes a socket. -/
lemma closed_foldl_touch (done : List Effect) (connections : ℕ → Connection) (socket : ℕ) :
    (done.foldl ControlLink.touch connections socket).closed = (connections socket).closed := by
  induction done generalizing connections with
  | nil => rfl
  | cons effect done ih =>
    rw [List.foldl_cons, ih]
    cases effect with
    | write other text =>
      simp only [ControlLink.touch]
      split
      · rfl
      · rcases eq_or_ne socket other with rfl | hne
        · rw [Function.update_self]
        · rw [Function.update_of_ne hne]
    | destroy other =>
      simp only [ControlLink.touch]
      rcases eq_or_ne socket other with rfl | hne
      · rw [Function.update_self]
      · rw [Function.update_of_ne hne]
    | _ => rfl

/-- Reports, after a call that reports a change of `connected` and nothing else. -/
lemma Invariant.reported (h : Invariant trace host)
    (result : SimulatorControlClient × List Effect)
    (hreported : reportedBy result.2 =
      if host.client.connected = result.1.connected then [] else [result.1.connected])
    (action : Action) :
    Alternates (statuses (trace ++ .occurred action :: result.2.map .effect)) ∧
      (result.1.connected = true ↔
        (statuses (trace ++ .occurred action :: result.2.map .effect)).length % 2 = 1) := by
  have hstatuses : statuses (trace ++ .occurred action :: result.2.map .effect) =
      statuses trace ++ reportedBy result.2 := by
    rw [statuses, effects_append, effects_call, reportedBy_append]
    rfl
  have hparity := h.parity
  rw [hstatuses, hreported]
  split
  · next heq => exact ⟨by simpa using h.alternates, by simpa [← heq] using hparity⟩
  · next hne =>
    have hvalue : result.1.connected = !host.client.connected := by
      cases hold : host.client.connected <;> cases hnew : result.1.connected <;> simp_all
    rw [hvalue, List.length_append, List.length_singleton]
    cases hold : host.client.connected with
    | false =>
      have heven : ¬ (statuses trace).length % 2 = 1 := fun hodd => by
        rw [hold] at hparity
        exact absurd (hparity.mpr hodd) (by simp)
      exact ⟨h.alternates.concat (by simp; omega), by simp; omega⟩
    | true =>
      have hodd := hparity.mp hold
      exact ⟨h.alternates.concat (by simp; omega), by simp; omega⟩

/-- **A call that creates no socket.** -/
lemma Invariant.calm (h : Invariant trace host) {action : Action}
    {result : SimulatorControlClient × List Effect} (hcalm : Calm host.client result)
    {host' : ControlHost} (hclient : host'.client = result.1)
    (hrunning : result.1.running = startedAfter host.client.running (.occurred action))
    (hclosed : ∀ socket, (host'.connections socket).closed = true ↔
      (host.connections socket).closed = true ∨ action = .close socket)
    (hclose : ∀ socket, action = .close socket → socket < host.client.sockets)
    (hsocket : ∀ socket, host'.IsOpen socket ↔ result.1.socket = some socket)
    (hconnected : result.1.connected = true → ∃ socket, result.1.socket = some socket ∧
      ConnectedSince socket (trace ++ .occurred action :: result.2.map .effect)) :
    Invariant (trace ++ .occurred action :: result.2.map .effect) host' := by
  obtain ⟨halternates, hparity⟩ := h.reported result hcalm.reported action
  constructor
  · rw [hclient, hcalm.sockets, ← h.created, ControlHost.created, effects_append, effects_call,
      createdBy_append, hcalm.created, List.append_nil]
    rfl
  · intro socket
    rw [hclosed, occurred_mem_call, h.closed, eq_comm (a := action)]
  · intro socket hle
    rw [hclient, hcalm.sockets] at hle
    have hopen := h.unused socket hle
    rw [Bool.eq_false_iff, Ne, hclosed, hopen]
    rintro (habsurd | haction)
    · simp at habsurd
    · exact absurd (hclose socket haction) (by omega)
  · intro socket hopen
    rw [hclient]
    exact (hsocket socket).mp hopen
  · intro socket hcurrent
    rw [hclient] at hcurrent
    exact (hsocket socket).mpr hcurrent
  · rw [hclient]
    exact hconnected
  · rw [hclient, hrunning, started_call, h.running]
  · intro before socket after hsplit
    rcases creation_call hsplit with ⟨after₀, hold⟩ | ⟨hmem, -⟩
    · exact h.creations before socket after₀ hold
    · rw [hcalm.created] at hmem
      simp at hmem
  · exact halternates
  · rw [hclient]
    exact hparity

/-- A call of `#connect` that does nothing, after `start` or by a timer. -/
lemma Invariant.connect_of_eq (h : Invariant trace host) {action : Action} (hstop : action ≠ .stop)
    (hclose : ∀ socket, action ≠ .close socket) {client : SimulatorControlClient}
    (hclient : client =
      { host.client with running := startedAfter host.client.running (.occurred action) })
    (timers : List ℕ) :
    Invariant (trace ++ [.occurred action])
      { client, timers, connections := host.connections } := by
  have hsockets : client.sockets = host.client.sockets := by rw [hclient]
  have hconnected : client.connected = host.client.connected := by rw [hclient]
  have hsocket : client.socket = host.client.socket := by rw [hclient]
  have hcalm : Calm host.client (client, []) :=
    ⟨rfl, hsockets, by simp [hconnected, reportedBy]⟩
  refine h.calm hcalm rfl (by rw [hclient]) (fun socket => by simp [hclose socket])
    (fun socket haction => absurd haction (hclose socket)) (fun socket => ?_) fun hc => ?_
  · rw [hsocket]
    constructor
    · exact fun hopen => h.live socket ⟨hsockets ▸ hopen.1, hopen.2⟩
    · intro hcurrent
      obtain ⟨hlt, hopen⟩ := h.current socket hcurrent
      exact ⟨hsockets.symm ▸ hlt, hopen⟩
  · rw [hconnected] at hc
    obtain ⟨socket, hcurrent, hsince⟩ := h.connected hc
    exact ⟨socket, hsocket ▸ hcurrent, hsince.call [] hstop (hclose socket)⟩

/-- Without a socket the client is not connected. -/
lemma Invariant.connected_eq_false (h : Invariant trace host) (hnone : host.client.socket = none) :
    host.client.connected = false := by
  rw [Bool.eq_false_iff]
  intro hc
  obtain ⟨socket, hcurrent, -⟩ := h.connected hc
  rw [hnone] at hcurrent
  simp at hcurrent

/-- Without a socket every socket created so far has closed. -/
lemma Invariant.not_isOpen (h : Invariant trace host) (hnone : host.client.socket = none)
    (socket : ℕ) : ¬host.IsOpen socket := by
  intro hopen
  have hcurrent := h.live socket hopen
  rw [hnone] at hcurrent
  simp at hcurrent

/-- A call of `#connect` that creates a socket. -/
lemma Invariant.connect_creates (h : Invariant trace host) {action : Action}
    (hclose : ∀ socket, action ≠ .close socket) {client : SimulatorControlClient}
    (hclient : client =
      { host.client with running := startedAfter host.client.running (.occurred action) })
    (hruns : client.running = true) (hnone : client.socket = none) (timers : List ℕ) :
    Invariant (trace ++ .occurred action ::
        [Effect.createConnection client.sockets].map .effect)
      { client := { client with socket := some client.sockets, sockets := client.sockets + 1 }
        timers
        connections :=
          [Effect.createConnection client.sockets].foldl ControlLink.touch host.connections } := by
  have hsockets : client.sockets = host.client.sockets := by rw [hclient]
  have hconnected : client.connected = host.client.connected := by rw [hclient]
  have hnone' : host.client.socket = none := by rw [← hnone, hclient]
  have hstarted : startedAfter (ControlHost.started trace) (.occurred action) = true := by
    rw [← h.running, ← hruns, hclient]
  obtain ⟨halternates, hparity⟩ := h.reported
    ({ client with socket := some client.sockets, sockets := client.sockets + 1 },
      [.createConnection client.sockets]) (by simp [hconnected, reportedBy]) action
  constructor
  · rw [ControlHost.created, effects_append, effects_call, createdBy_append, List.range_succ,
      hsockets, ← h.created]
    rfl
  · intro socket
    rw [closed_foldl_touch, occurred_mem_call, h.closed]
    simp [(hclose socket).symm]
  · intro socket hle
    rw [closed_foldl_touch]
    exact h.unused socket (by rw [← hsockets]; exact Nat.le_of_succ_le hle)
  · rintro socket ⟨hlt, hclosed⟩
    rw [closed_foldl_touch] at hclosed
    rcases (Nat.lt_succ_iff.mp hlt).lt_or_eq with hold | rfl
    · exact absurd ⟨hsockets ▸ hold, hclosed⟩ (h.not_isOpen hnone' socket)
    · rfl
  · rintro socket ⟨⟩
    refine ⟨Nat.lt_succ_self _, ?_⟩
    rw [closed_foldl_touch]
    exact h.unused _ hsockets.ge
  · intro hc
    rw [show _ = client.connected from rfl, hconnected, h.connected_eq_false hnone'] at hc
    simp at hc
  · rw [started_call, hstarted]
    exact hruns
  · intro before socket after hsplit
    rcases creation_call hsplit with ⟨after₀, hold⟩ | ⟨-, done₀, rfl⟩
    · exact h.creations before socket after₀ hold
    · rw [started_call, hstarted]
  · exact halternates
  · exact hparity

/-- **A call of `#connect`**, after `start` or by a timer. -/
lemma Invariant.connect (h : Invariant trace host) {action : Action} (hstop : action ≠ .stop)
    (hclose : ∀ socket, action ≠ .close socket) {client : SimulatorControlClient}
    (hclient : client =
      { host.client with running := startedAfter host.client.running (.occurred action) })
    (timers : List ℕ) :
    Invariant (trace ++ .occurred action :: client.connect.2.map .effect)
      { client := client.connect.1, timers
        connections := client.connect.2.foldl ControlLink.touch host.connections } := by
  rcases connect_cases client with ⟨hconnect, -⟩ | ⟨hruns, hnone, hconnect⟩
  · rw [hconnect]
    exact h.connect_of_eq hstop hclose hclient timers
  · rw [hconnect]
    exact h.connect_creates hclose hclient hruns hnone timers

/-- A call that leaves the client's socket and its flags as they are. -/
lemma Invariant.keep (h : Invariant trace host) {action : Action}
    {result : SimulatorControlClient × List Effect} (hcalm : Calm host.client result)
    (haction : ∀ value, startedAfter value (.occurred action) = value) (hstop : action ≠ .stop)
    (hclose : ∀ socket, action ≠ .close socket)
    (hrunning : result.1.running = host.client.running)
    (hconnected : result.1.connected = host.client.connected)
    (hsocket : result.1.socket = host.client.socket) :
    Invariant (trace ++ .occurred action :: result.2.map .effect) (host.call action result).1 := by
  refine h.calm hcalm rfl (by rw [haction, hrunning]) (fun socket => ?_)
    (fun socket heq => absurd heq (hclose socket)) (fun socket => ?_) fun hc => ?_
  · rw [ControlHost.call, closed_foldl_touch]
    simp [hclose socket]
  · rw [hsocket, IsOpen, ControlHost.call, closed_foldl_touch]
    dsimp only
    rw [hcalm.sockets]
    exact ⟨h.live socket, h.current socket⟩
  · rw [hconnected] at hc
    obtain ⟨socket, hcurrent, hsince⟩ := h.connected hc
    exact ⟨socket, hsocket ▸ hcurrent, hsince.call _ hstop (hclose socket)⟩

/-- `stop`. -/
lemma Invariant.stop (h : Invariant trace host) :
    Invariant (trace ++ .occurred .stop :: host.client.stop.2.map .effect)
      (host.call .stop host.client.stop).1 := by
  have hclient : host.client.stop.1 = { host.client with running := false, connected := false } :=
    setConnected_fst { host.client with running := false } false
  refine h.calm (calm_stop host.client) rfl (by rw [hclient]; rfl) (fun socket => ?_) (by simp)
    (fun socket => ?_) fun hc => ?_
  · rw [ControlHost.call, closed_foldl_touch]
    simp
  · rw [IsOpen, ControlHost.call, closed_foldl_touch, hclient]
    exact ⟨h.live socket, h.current socket⟩
  · rw [hclient] at hc
    simp at hc

/-- A socket emits `connect`: it is the client's, for it is open. -/
lemma Invariant.established (h : Invariant trace host) {socket : ℕ} (hopen : host.IsOpen socket)
    {connections : ℕ → Connection}
    (hconnections : ∀ k, (connections k).closed = (host.connections k).closed) :
    Invariant (trace ++ .occurred (.connect socket) :: host.client.onConnect.2.map .effect)
      (call { host with connections } (.connect socket) host.client.onConnect).1 := by
  have hclient : host.client.onConnect.1 = { host.client with connected := true } :=
    setConnected_fst host.client true
  refine h.calm (calm_onConnect host.client) rfl (by rw [hclient]; rfl) (fun k => ?_) (by simp)
    (fun k => ?_) fun _ => ?_
  · rw [ControlHost.call, closed_foldl_touch, hconnections]
    simp
  · rw [IsOpen, ControlHost.call, closed_foldl_touch, hconnections, hclient]
    exact ⟨h.live k, h.current k⟩
  · rw [hclient]
    exact ⟨socket, h.live socket hopen, connectedSince_call trace socket _⟩

/-- A socket emits `close`: it was the only one open. -/
lemma Invariant.close (h : Invariant trace host) {socket : ℕ} (hopen : host.IsOpen socket)
    {connections : ℕ → Connection}
    (hconnections : ∀ k, (connections k).closed = true ↔
      (host.connections k).closed = true ∨ k = socket) :
    Invariant (trace ++ .occurred (.close socket) :: host.client.onClose.2.map .effect)
      (call { host with connections } (.close socket) host.client.onClose).1 := by
  obtain ⟨hsocket, hconnected, hrunning⟩ := onClose_fst host.client
  refine h.calm (calm_onClose host.client) rfl (by rw [hrunning]; rfl) (fun k => ?_) ?_
    (fun k => ?_) fun hc => ?_
  · rw [ControlHost.call, closed_foldl_touch, hconnections]
    rw [Action.close.injEq, eq_comm (a := k)]
  · rintro k ⟨⟩
    exact hopen.1
  · rw [hsocket, IsOpen, ControlHost.call, closed_foldl_touch, Bool.eq_false_iff, Ne,
      hconnections]
    dsimp only
    rw [(calm_onClose host.client).sockets]
    refine iff_of_false (fun ⟨hlt, hstill⟩ => ?_) (by simp)
    obtain ⟨hother, hne⟩ := not_or.mp hstill
    have hk := h.live k ⟨hlt, by simpa using hother⟩
    rw [h.live socket hopen] at hk
    exact hne (Option.some_inj.mp hk).symm
  · rw [hconnected] at hc
    simp at hc

/-- **Step lemma**: every event keeps the invariant. -/
lemma Invariant.step (h : Invariant trace host) {action : Action} {host' : ControlHost}
    {events : List Event} (hstep : host.step action = some (host', events)) :
    Invariant (trace ++ events) host' := by
  cases action with
  | start =>
    obtain ⟨rfl, rfl⟩ := Prod.mk.inj (Option.some_inj.mp hstep)
    exact h.connect (by simp) (by simp) rfl _
  | stop =>
    obtain ⟨rfl, rfl⟩ := Prod.mk.inj (Option.some_inj.mp hstep)
    exact h.stop
  | send command =>
    obtain ⟨rfl, rfl⟩ := Prod.mk.inj (Option.some_inj.mp hstep)
    exact h.keep (calm_send host.client command) (fun _ => rfl) (by simp) (by simp) rfl rfl rfl
  | connect socket =>
    obtain ⟨⟨hopen, -⟩, heq⟩ := Option.ite_none_right_eq_some.mp hstep
    obtain ⟨rfl, rfl⟩ := Prod.mk.inj (Option.some_inj.mp heq)
    refine h.established hopen fun k => ?_
    rcases eq_or_ne k socket with rfl | hne
    · rw [Function.update_self]
    · rw [Function.update_of_ne hne]
  | data socket chunk =>
    obtain ⟨-, heq⟩ := Option.ite_none_right_eq_some.mp hstep
    obtain ⟨rfl, rfl⟩ := Prod.mk.inj (Option.some_inj.mp heq)
    obtain ⟨⟨pending, buffer, hclient⟩, -, -⟩ := acceptData_fst_snd host.client chunk
    exact h.keep (calm_acceptData host.client chunk) (fun _ => rfl) (by simp) (by simp)
      (by rw [hclient]) (by rw [hclient]) (by rw [hclient])
  | error socket =>
    obtain ⟨-, heq⟩ := Option.ite_none_right_eq_some.mp hstep
    obtain ⟨rfl, rfl⟩ := Prod.mk.inj (Option.some_inj.mp heq)
    have hcalm : Calm host.client (host.client, []) := ⟨rfl, rfl, by simp [reportedBy]⟩
    exact h.keep hcalm (fun _ => rfl) (by simp) (by simp) rfl rfl rfl
  | close socket =>
    obtain ⟨hopen, heq⟩ := Option.ite_none_right_eq_some.mp hstep
    obtain ⟨rfl, rfl⟩ := Prod.mk.inj (Option.some_inj.mp heq)
    refine h.close hopen fun k => ?_
    rcases eq_or_ne k socket with rfl | hne
    · simp [Function.update_self]
    · rw [Function.update_of_ne hne]
      simp [hne]
  | timer timer =>
    obtain ⟨-, heq⟩ := Option.ite_none_right_eq_some.mp hstep
    obtain ⟨rfl, rfl⟩ := Prod.mk.inj (Option.some_inj.mp heq)
    exact h.connect (by simp) (by simp) rfl _

/-- **Run lemma**. -/
lemma isInvariant : system.IsInvariant Invariant where
  start :=
    { created := rfl
      closed := by simp [system]
      unused := fun _ _ => rfl
      live := fun socket hopen => absurd hopen.1 (Nat.not_lt_zero socket)
      current := by simp [system]
      connected := by simp [system]
      running := rfl
      creations := by simp
      alternates := by simp [Alternates, statuses, effects, reportedBy]
      parity := by simp [system, statuses, effects, reportedBy] }
  keep trace host action host' events _ h hstep := h.step hstep

end Steps

/-- **One connection**: in every order of calls, socket events and timers, at most one socket is
open, `connected` is true only of an established one that has not closed and with no `stop` since,
no socket is created between `stop` and the next `start`, and the values passed to `onStatus`
alternate, beginning with `true`. -/
theorem oneConnection_of_run {actions : List Action} {host : ControlHost} {trace : List Event}
    (hrun : system.run actions = some (host, trace)) : OneConnection trace host := by
  have h := isInvariant.of_run hrun
  have hopen : ∀ socket ∈ created trace, .occurred (.close socket) ∉ trace →
      host.IsOpen socket := by
    intro socket hmem hclose
    rw [h.created, List.mem_range] at hmem
    rw [← h.closed, Bool.not_eq_true] at hclose
    exact ⟨hmem, hclose⟩
  constructor
  · rw [h.created]
    exact List.nodup_range
  · intro j hj k hk hopenj hopenk
    have hcurrent := h.live j (hopen j hj hopenj)
    rw [h.live k (hopen k hk hopenk)] at hcurrent
    exact (Option.some_inj.mp hcurrent).symm
  · intro hc
    obtain ⟨socket, hsocket, hsince⟩ := h.connected hc
    obtain ⟨hlt, hclosed⟩ := h.current socket hsocket
    refine ⟨socket, ?_, hsocket, ?_, hsince⟩
    · rw [h.created]
      exact List.mem_range.mpr hlt
    · rw [← h.closed, Bool.not_eq_true]
      exact hclosed
  · exact h.creations
  · exact h.alternates

/-- The client is stopped and started again while its first socket is still open; the socket
closes, and a timer makes the second connection. -/
theorem oneConnection_of_run_restarted : ∃ (host : ControlHost) (trace : List Event),
    system.run [.start, .connect 0, .stop, .start, .close 0, .timer 0, .connect 1] =
      some (host, trace) ∧
    created trace = [0, 1] ∧ statuses trace = [true, false, true] ∧ OneConnection trace host := by
  obtain ⟨host, trace, hrun, hcreated, hstatuses⟩ : ∃ host trace,
      system.run [.start, .connect 0, .stop, .start, .close 0, .timer 0, .connect 1] =
        some (host, trace) ∧ created trace = [0, 1] ∧ statuses trace = [true, false, true] :=
    ⟨_, _, rfl, rfl, rfl⟩
  exact ⟨host, trace, hrun, hcreated, hstatuses, oneConnection_of_run hrun⟩

end ControlHost

end FlightDeck.System
