import FlightDeck.System.ControlInvariant

set_option relaxedAutoImplicit false
set_option autoImplicit false

/-!
# Runs of the control link

A run's trace shows which commands were accepted, handled and acknowledged and what was written
on each connection. Every step of the link keeps these in accord with each other and with the
invariant of the state.

## Main definitions

* `ControlLink.Sound` — every acknowledgement was preceded by its command being accepted and
  handled.
* `ControlLink.Account` — the trace accounts for the state.
* `ControlLink.Tracks` — it does so if ids are distinct.

## Main results

* `ControlLink.Tracks.step` — one event.
* `ControlLink.isInvariant` — every run.
-/

namespace FlightDeck.System

open Server Generator TransitionSystem Framing Replay

namespace ControlLink

/-! ## What the methods of the client do to the connections -/

section Methods

variable (client : SimulatorControlClient)

/-- Giving up: the client is disconnected and no longer running. -/
lemma stop_fst : client.stop.1 = { client with running := false, connected := false } := by
  obtain ⟨socket, pending, buffer, running, connected, timer, sockets, timers⟩ := client
  cases connected <;> rfl

/-- Giving up destroys the socket. -/
lemma foldl_touch_stop (connections : ℕ → Connection) :
    client.stop.2.foldl touch connections =
      match client.socket with
      | none => connections
      | some socket =>
        Function.update connections socket { connections socket with destroyed := true } := by
  obtain ⟨socket, pending, buffer, running, connected, timer, sockets, timers⟩ := client
  cases socket <;> cases timer <;> cases connected <;> rfl

/-- Closing: the socket and what was buffered are gone. -/
lemma onClose_fst : client.onClose.1.socket = none ∧ client.onClose.1.pending = client.pending ∧
    client.onClose.1.buffer = [] ∧ client.onClose.1.connected = false ∧
    client.onClose.1.sockets = client.sockets := by
  obtain ⟨socket, pending, buffer, running, connected, timer, sockets, timers⟩ := client
  cases connected <;> cases running <;> exact ⟨rfl, rfl, rfl, rfl, rfl⟩

/-- Closing touches no connection. -/
lemma foldl_touch_onClose (connections : ℕ → Connection) :
    client.onClose.2.foldl touch connections = connections := by
  obtain ⟨socket, pending, buffer, running, connected, timer, sockets, timers⟩ := client
  cases connected <;> cases running <;> rfl

/-- Being established: every pending command is written. -/
lemma onConnect_eq {socket : ℕ} (hsocket : client.socket = some socket)
    (hconnected : client.connected = false) :
    client.onConnect = ({ client with connected := true },
      .onStatus true :: client.pending.values.map fun command =>
        .write socket (SimulatorControlClient.commandLine command)) := by
  have hwrite : SimulatorControlClient.write { client with connected := true } = fun command =>
      [.write socket (SimulatorControlClient.commandLine command)] := by
    funext command
    simp [SimulatorControlClient.write, hsocket]
  simp only [SimulatorControlClient.onConnect, SimulatorControlClient.setConnected, hconnected,
    Bool.false_eq_true, if_false, hwrite, ← List.map_eq_flatMap, List.singleton_append]

/-- Sending while connected: the command is kept and written. -/
lemma send_eq {socket : ℕ} (hsocket : client.socket = some socket)
    (hconnected : client.connected = true) (command : FaultCommand) :
    client.send command =
      ({ client with pending := client.pending.set command.id command },
        [.write socket (SimulatorControlClient.commandLine command)]) := by
  simp [SimulatorControlClient.send, SimulatorControlClient.write, hsocket, hconnected]

/-- Writing commands on a connection that is not destroyed puts them under way. -/
lemma foldl_touch_write {socket : ℕ} (commands : List FaultCommand)
    (connections : ℕ → Connection) (h : (connections socket).destroyed = false) :
    (commands.map fun command =>
        Effect.write socket (SimulatorControlClient.commandLine command)).foldl touch connections =
      Function.update connections socket { connections socket with
        up := (connections socket).up ++ commandStream commands } := by
  induction commands generalizing connections with
  | nil => simp [commandStream]
  | cons command commands ih =>
    have hfirst : touch connections (.write socket (SimulatorControlClient.commandLine command)) =
        Function.update connections socket { connections socket with
          up := (connections socket).up ++ commandStream [command] } := by
      simp [touch, h, commandStream_singleton]
    have hcons : commandStream (command :: commands) =
        commandStream [command] ++ commandStream commands := commandStream_append [command] commands
    rw [List.map_cons, List.foldl_cons, hfirst, ih _ (by simpa using h), hcons]
    simp

/-- Acknowledging touches no connection. -/
lemma foldl_touch_acknowledgement (commands : List FaultCommand) (connections : ℕ → Connection) :
    (commands.map fun command =>
        Effect.onAcknowledgement command.id command.fault command.enabled).foldl touch
          connections = connections := by
  induction commands with
  | nil => rfl
  | cons command commands ih => exact ih

end Methods

/-! ## What the events show -/

section Events

variable (effects : List Effect) (commands : List FaultCommand) (socket k : ℕ)

/-- The effects of a method show no acceptance. -/
@[simp] lemma accepted_map_effect : accepted (effects.map Event.effect) = [] := by
  simp [accepted]

/-- The effects of a method show no handling. -/
@[simp] lemma handledLines_map_effect : handledLines (effects.map Event.effect) = [] := by
  simp [handledLines]

/-- Writing commands shows no acknowledgement. -/
@[simp] lemma acknowledged_write : acknowledged ((commands.map fun command =>
    Effect.write socket (SimulatorControlClient.commandLine command)).map Event.effect) = [] := by
  simp [acknowledged]

/-- Writing commands shows them on their socket. -/
lemma written_write : written k ((commands.map fun command =>
      Effect.write socket (SimulatorControlClient.commandLine command)).map Event.effect) =
    if socket = k then commands.map SimulatorControlClient.commandLine else [] := by
  by_cases h : socket = k
  · simp [written, h, List.filterMap_map, Function.comp_def]
  · simp [written, h]

/-- Acknowledgements are shown as such. -/
@[simp] lemma acknowledged_acknowledgement : acknowledged ((commands.map fun command =>
      Effect.onAcknowledgement command.id command.fault command.enabled).map Event.effect) =
    commands.map acknowledgementOf := by
  simp [acknowledged, acknowledgementOf, List.filterMap_map, Function.comp_def]

/-- Acknowledgements write nothing. -/
@[simp] lemma written_acknowledgement : written k ((commands.map fun command =>
    Effect.onAcknowledgement command.id command.fault command.enabled).map Event.effect) = [] := by
  simp [written]

/-- The lines handled are shown as such, and nothing else. -/
lemma handledLines_handled (replies : List (List Char × List Char)) :
    handledLines (replies.map fun reply => .handled reply.1 reply.2) = replies.map Prod.fst := by
  simp [handledLines, List.filterMap_map, List.filterMap_eq_map']

end Events

/-! ## Runs -/

/-- Before every acknowledgement its command was accepted and handled. -/
def Sound (trace : List Event) : Prop :=
  ∀ before after id fault enabled,
    trace = before ++ .effect (.onAcknowledgement id fault enabled) :: after →
      ∃ command ∈ accepted before, acknowledgementOf command = (id, fault, enabled) ∧
        commandText command ∈ handledLines before

/-- Acknowledgements may follow of commands that were accepted and handled. -/
lemma Sound.append {trace events : List Event} (h : Sound trace)
    (hnew : ∀ ack ∈ acknowledged events, ∃ command ∈ accepted trace,
      acknowledgementOf command = ack ∧ commandText command ∈ handledLines trace) :
    Sound (trace ++ events) := by
  intro before after id fault enabled heq
  rcases List.append_eq_append_iff.mp heq with ⟨middle, rfl, hevents⟩ | ⟨middle, rfl, hafter⟩
  · have hmem : (id, fault, enabled) ∈ acknowledged events := by
      rw [hevents]
      simp [acknowledged]
    obtain ⟨command, haccepted, hack, hhandled⟩ := hnew _ hmem
    refine ⟨command, ?_, hack, ?_⟩
    · rw [accepted_append]
      exact List.mem_append_left _ haccepted
    · rw [handledLines_append]
      exact List.mem_append_left _ hhandled
  · cases middle with
    | nil =>
      have hmem : (id, fault, enabled) ∈ acknowledged events := by
        rw [← List.nil_append events, ← hafter]
        simp [acknowledged]
      simpa using hnew _ hmem
    | cons event middle =>
      obtain ⟨rfl, rfl⟩ := List.cons_eq_cons.mp hafter
      exact h before middle id fault enabled rfl

/-- The trace accounts for the state: it shows the commands issued, acknowledged and executed;
and on every connection the client wrote some commands once each in order of issue, all pending
ones among them if it is connected. -/
structure Account (trace : List Event) (acked : ℕ) (executed : List FaultCommand) (p : ℕ)
    (link : ControlLink) : Prop where
  /-- The invariant of the state. -/
  invariant : Invariant (accepted trace) acked executed p link
  /-- The commands acknowledged. -/
  acknowledged_eq : acknowledged trace = ((accepted trace).take acked).map acknowledgementOf
  /-- The commands executed. -/
  handledLines_eq : handledLines trace = executed.map commandText
  /-- Acknowledgements come after what they acknowledge. -/
  sound : Sound trace
  /-- What was written on a connection. -/
  exists_written : ∀ k, ∃ commands, commands <:+: accepted trace ∧
    written k trace = commands.map SimulatorControlClient.commandLine
  /-- What was written on the connection in use. -/
  writtenNow : ∀ k, link.client.connected = true → link.client.socket = some k → ∃ s ≤ acked,
    written k trace =
      ((accepted trace).drop s).map SimulatorControlClient.commandLine
  /-- Nothing is written on a connection before it is established. -/
  unwritten : ∀ k, (link.connections k).established = false → written k trace = []

/-- The trace accounts for the state. Ids are drawn at random, so no two commands are taken to
have the same. -/
def Tracks (trace : List Event) (link : ControlLink) : Prop :=
  ((accepted trace).map (·.id)).Nodup → ∃ acked executed p, Account trace acked executed p link

section Tracks

variable {trace events : List Event} {link link' : ControlLink}

/-- At the start. -/
lemma Tracks.init : Tracks [] {} := fun _ => ⟨0, [], 0,
  { invariant := Invariant.init
    acknowledged_eq := rfl
    handledLines_eq := rfl
    sound := by simp [Sound]
    exists_written := fun _ => ⟨[], List.nil_infix, rfl⟩
    writtenNow := by simp
    unwritten := fun _ _ => rfl }⟩

/-- The client of `link'` writes where that of `link` does, if anywhere, and what is not
established was not. -/
def SameWriter (link link' : ControlLink) : Prop :=
  (link'.client.connected = true →
    link.client.connected = true ∧ link'.client.socket = link.client.socket) ∧
  ∀ k, (link'.connections k).established = false → (link.connections k).established = false

/-- An event that shows nothing. -/
lemma Tracks.keep (h : Tracks trace link)
    (hinvariant : ∀ issued acked executed p, Invariant issued acked executed p link →
      SameWriter link link' ∧ ∃ p', Invariant issued acked executed p' link')
    (haccepted : accepted events = []) (hacknowledged : acknowledged events = [])
    (hhandled : handledLines events = []) (hwritten : ∀ k, written k events = []) :
    Tracks (trace ++ events) link' := by
  intro hnodup
  have hissued : accepted (trace ++ events) = accepted trace := by
    rw [accepted_append, haccepted, List.append_nil]
  rw [hissued] at hnodup
  obtain ⟨acked, executed, p, hacc⟩ := h hnodup
  obtain ⟨⟨hwriter, hestablished⟩, p', hinv⟩ := hinvariant _ _ _ _ hacc.invariant
  have hlines : ∀ k, written k (trace ++ events) = written k trace := fun k => by
    rw [written_append, hwritten, List.append_nil]
  refine ⟨acked, executed, p', ?_⟩
  constructor
  case invariant =>
    rwa [hissued]
  case acknowledged_eq =>
    rw [acknowledged_append, hacknowledged, List.append_nil, hissued]
    exact hacc.acknowledged_eq
  case handledLines_eq =>
    rw [handledLines_append, hhandled, List.append_nil]
    exact hacc.handledLines_eq
  case sound =>
    exact hacc.sound.append (by simp [hacknowledged])
  case exists_written =>
    intro k
    rw [hlines, hissued]
    exact hacc.exists_written k
  case writtenNow =>
    intro k hc hs
    rw [hlines, hissued]
    obtain ⟨hc', hs'⟩ := hwriter hc
    exact hacc.writtenNow k hc' (hs'.symm.trans hs)
  case unwritten =>
    intro k hk
    rw [hlines]
    exact hacc.unwritten k (hestablished k hk)

/-- A call that looks for a connection: nothing happens, or a socket is created. -/
lemma Tracks.connectCall (h : Tracks trace link) :
    Tracks (trace ++ (link.call link.client.connect).2) (link.call link.client.connect).1 := by
  cases hcase : (!link.client.running || link.client.socket.isSome) with
  | true =>
    have heq : link.client.connect = (link.client, []) := if_pos hcase
    rw [heq]
    exact h.keep (fun _ _ _ p hinv => ⟨⟨fun hc => ⟨hc, rfl⟩, fun _ hk => hk⟩, p, hinv⟩) rfl rfl rfl
      fun _ => rfl
  | false =>
    have heq : link.client.connect =
        ({ link.client with
            socket := some link.client.sockets, sockets := link.client.sockets + 1 },
          [.createConnection link.client.sockets]) := if_neg (by simp [hcase])
    have hsocket : link.client.socket = none := by simpa using (Bool.or_eq_false_iff.mp hcase).2
    rw [heq]
    refine h.keep (fun _ _ _ p hinv => ⟨⟨fun hc => ?_, fun _ hk => hk⟩, p, hinv.create hsocket⟩)
      rfl rfl rfl fun _ => rfl
    obtain ⟨k, hk, -⟩ := hinv.connected hc
    rw [hsocket] at hk
    cases hk

/-- `stop()`. -/
lemma Tracks.stopCall (h : Tracks trace link) :
    Tracks (trace ++ (link.call link.client.stop).2) (link.call link.client.stop).1 := by
  have hshow : acknowledged (link.client.stop.2.map Event.effect) = [] ∧
      ∀ k, written k (link.client.stop.2.map Event.effect) = [] := by
    obtain ⟨⟨socket, pending, buffer, running, connected, timer, sockets, timers⟩⟩ := link
    cases socket <;> cases timer <;> cases connected <;> exact ⟨rfl, fun _ => rfl⟩
  -- Only the client's socket is touched, and it is destroyed.
  have hsame : ∀ k, (link.client.stop.2.foldl touch link.connections k).established =
        (link.connections k).established ∧
      (link.client.stop.2.foldl touch link.connections k).closed = (link.connections k).closed ∧
      (link.client.stop.2.foldl touch link.connections k).up = (link.connections k).up ∧
      (link.client.stop.2.foldl touch link.connections k).down = (link.connections k).down := by
    intro k
    rw [foldl_touch_stop]
    cases hsocket : link.client.socket with
    | none => exact ⟨rfl, rfl, rfl, rfl⟩
    | some socket =>
      by_cases hne : k = socket
      · subst hne
        simp
      · simp [Function.update_of_ne hne]
  have hclient : (link.call link.client.stop).1.client.connected = false := by
    rw [call, stop_fst]
  refine h.keep (fun _ _ _ p hinv => ⟨⟨fun hc => ?_, fun k hk => ?_⟩, p, ?_⟩)
    (accepted_map_effect _) hshow.1 (handledLines_map_effect _) hshow.2
  · rw [hclient] at hc
    cases hc
  · exact (hsame k).1.symm.trans hk
  · refine (hinv.stop _ (fun k hk => ?_) hsame).transfer ?_ ?_ ?_ ?_ ?_ rfl rfl rfl rfl rfl
    · rw [foldl_touch_stop]
      cases hsocket : link.client.socket with
      | none => exact hinv.unused k hk
      | some socket =>
        have hcurrent := hinv.current socket hsocket
        have hne : k ≠ socket := by omega
        exact (Function.update_of_ne hne _ _).trans (hinv.unused k hk)
    all_goals rw [call, stop_fst]

/-- A socket emits `close`. -/
lemma Tracks.closeCall (h : Tracks trace link) {socket : ℕ} (hlt : socket < link.client.sockets)
    (hclosed : (link.connections socket).closed = false) :
    let closing := { link with
      connections := Function.update link.connections socket
        { link.connections socket with closed := true } }
    Tracks (trace ++ (closing.call link.client.onClose).2)
      (closing.call link.client.onClose).1 := by
  intro closing
  have hshow : acknowledged (link.client.onClose.2.map Event.effect) = [] ∧
      ∀ k, written k (link.client.onClose.2.map Event.effect) = [] := by
    obtain ⟨⟨socket, pending, buffer, running, connected, timer, sockets, timers⟩⟩ := link
    cases connected <;> cases running <;> exact ⟨rfl, fun _ => rfl⟩
  obtain ⟨hsocket, hpending, hbuffer, hconnected, hsockets⟩ := onClose_fst link.client
  have htouch := foldl_touch_onClose link.client closing.connections
  refine h.keep (fun _ _ _ p hinv => ⟨⟨fun hc => ?_, fun k hk => ?_⟩, p, ?_⟩)
    (accepted_map_effect _) hshow.1 (handledLines_map_effect _) hshow.2
  · have hc' : link.client.onClose.1.connected = true := hc
    rw [hconnected] at hc'
    cases hc'
  · have hk' : (link.client.onClose.2.foldl touch closing.connections k).established = false := hk
    rw [htouch] at hk'
    by_cases hne : k = socket
    · subst hne
      simpa [closing] using hk'
    · simpa [closing, Function.update_of_ne hne] using hk'
  · exact (hinv.close (hinv.live socket hlt hclosed) hlt).transfer hsocket hpending hbuffer
      hconnected hsockets htouch rfl rfl rfl rfl

/-- A socket emits `connect`. -/
lemma Tracks.connectEvent (h : Tracks trace link) {socket : ℕ}
    (hlt : socket < link.client.sockets)
    (hnew : (link.connections socket).established = false)
    (hdestroyed : (link.connections socket).destroyed = false)
    (hclosed : (link.connections socket).closed = false) :
    let connecting := { link with
      connections := Function.update link.connections socket
        { link.connections socket with established := true } }
    Tracks (trace ++ (connecting.call link.client.onConnect).2)
      (connecting.call link.client.onConnect).1 := by
  intro connecting hnodup
  have hissued : accepted (trace ++ (connecting.call link.client.onConnect).2) =
      accepted trace := by
    rw [accepted_append, call, accepted_map_effect, List.append_nil]
  rw [hissued] at hnodup
  obtain ⟨acked, executed, p, hacc⟩ := h hnodup
  have hinv := hacc.invariant
  have hsocket := hinv.live socket hlt hclosed
  have hconnected : link.client.connected = false := by
    by_contra hc
    obtain ⟨k, hk, hestablished, -⟩ := hinv.connected (by simpa using hc)
    obtain rfl : socket = k := Option.some_inj.mp (hsocket.symm.trans hk)
    rw [hnew] at hestablished
    cases hestablished
  have hvalues : link.client.pending.values = (accepted trace).drop acked := by
    simp [InsertionMap.values, hinv.entries, Function.comp_def]
  have hcall := onConnect_eq link.client hsocket hconnected
  rw [hvalues] at hcall
  have hlines : ∀ k, written k (trace ++ (connecting.call link.client.onConnect).2) =
      written k trace ++ if socket = k then
        ((accepted trace).drop acked).map SimulatorControlClient.commandLine else [] := by
    intro k
    rw [written_append, hcall, call, ← written_write]
    rfl
  have hself : written socket (trace ++ (connecting.call link.client.onConnect).2) =
      ((accepted trace).drop acked).map SimulatorControlClient.commandLine := by
    rw [hlines, if_pos rfl, hacc.unwritten socket hnew, List.nil_append]
  have hothers : ∀ k, k ≠ socket →
      written k (trace ++ (connecting.call link.client.onConnect).2) = written k trace := by
    intro k hk
    rw [hlines, if_neg hk.symm, List.append_nil]
  have htouch := foldl_touch_write ((accepted trace).drop acked) connecting.connections
    (show (connecting.connections socket).destroyed = false by simp [connecting, hdestroyed])
  refine ⟨acked, executed, p, ?_⟩
  constructor
  case invariant =>
    rw [hissued, hcall]
    refine (hinv.connect hsocket hlt hnew hdestroyed).transfer rfl rfl rfl rfl rfl ?_
      rfl rfl rfl rfl
    simpa [call, connecting, touch] using htouch
  case acknowledged_eq =>
    rw [acknowledged_append, hissued, hcall, hacc.acknowledged_eq]
    exact (congrArg _ (acknowledged_write _ _)).trans (List.append_nil _)
  case handledLines_eq =>
    rw [handledLines_append, call, handledLines_map_effect, List.append_nil]
    exact hacc.handledLines_eq
  case sound =>
    refine hacc.sound.append ?_
    rw [hcall]
    exact fun ack hack => absurd ((acknowledged_write _ _).symm ▸ hack) List.not_mem_nil
  case exists_written =>
    intro k
    rw [hissued]
    by_cases hne : k = socket
    · rw [hne]
      exact ⟨_, (List.drop_suffix _ _).isInfix, hself⟩
    · rw [hothers k hne]
      exact hacc.exists_written k
  case writtenNow =>
    intro k _ hs
    have hs' : link.client.socket = some k := by
      rw [hcall] at hs
      exact hs
    obtain rfl : socket = k := Option.some_inj.mp (hsocket.symm.trans hs')
    exact ⟨acked, le_rfl, by rw [hissued, hself]⟩
  case unwritten =>
    intro k hk
    have hk' : (connecting.client.onConnect.2.foldl touch connecting.connections k).established =
        false := hk
    rw [show connecting.client.onConnect = _ from hcall, List.foldl_cons,
      show touch connecting.connections (.onStatus true) = connecting.connections from rfl,
      htouch] at hk'
    by_cases hne : k = socket
    · subst hne
      simp [connecting] at hk'
    · rw [hothers k hne]
      exact hacc.unwritten k (by simpa [connecting, Function.update_of_ne hne] using hk')

/-- A browser's command is accepted. -/
lemma Tracks.messageEvent (h : Tracks trace link) {command : FaultCommand}
    (hvalid : Valid command) (hconnected : link.client.connected = true) :
    Tracks (trace ++ .accepted command :: (link.call (link.client.send command)).2)
      (link.call (link.client.send command)).1 := by
  intro hnodup
  have hissued : accepted (trace ++ .accepted command ::
      (link.call (link.client.send command)).2) = accepted trace ++ [command] := by
    rw [accepted_append]
    exact congrArg (accepted trace ++ command :: ·) (accepted_map_effect _)
  rw [hissued, List.map_append, List.map_singleton] at hnodup
  have hfresh : command.id ∉ (accepted trace).map (·.id) := fun hmem =>
    List.disjoint_of_nodup_append hnodup hmem (List.mem_singleton_self _)
  obtain ⟨acked, executed, p, hacc⟩ := h hnodup.of_append_left
  have hinv := hacc.invariant
  obtain ⟨socket, hsocket, hestablished, hdestroyed⟩ := hinv.connected hconnected
  have hcall := send_eq link.client hsocket hconnected command
  have htouch := foldl_touch_write [command] link.connections hdestroyed
  rw [List.map_singleton] at htouch
  have hacked : acked ≤ (accepted trace).length := hinv.acked_le.trans hinv.settled.le
  have hlines : ∀ k, written k (trace ++ .accepted command ::
      (link.call (link.client.send command)).2) =
        written k trace ++ if socket = k then [SimulatorControlClient.commandLine command]
          else [] := by
    intro k
    rw [written_append, hcall]
    exact congrArg (written k trace ++ ·) (written_write [command] socket k)
  have hacks : acknowledged (.accepted command :: (link.call (link.client.send command)).2) =
      [] := by
    rw [hcall]
    rfl
  refine ⟨acked, executed, p, ?_⟩
  constructor
  case invariant =>
    rw [hissued, hcall]
    exact (hinv.issue hvalid hfresh hconnected hsocket).transfer rfl rfl rfl rfl rfl htouch
      rfl rfl rfl rfl
  case acknowledged_eq =>
    rw [acknowledged_append, hacks, List.append_nil, hissued,
      List.take_append_of_le_length hacked]
    exact hacc.acknowledged_eq
  case handledLines_eq =>
    rw [handledLines_append, hcall, hacc.handledLines_eq]
    exact List.append_nil _
  case sound =>
    exact hacc.sound.append (by simp [hacks])
  case exists_written =>
    intro k
    rw [hlines, hissued]
    by_cases hne : socket = k
    · subst hne
      obtain ⟨s, hs, hwritten⟩ := hacc.writtenNow socket hconnected hsocket
      refine ⟨(accepted trace ++ [command]).drop s, (List.drop_suffix _ _).isInfix, ?_⟩
      rw [if_pos rfl, hwritten, List.drop_append_of_le_length (hs.trans hacked), List.map_append]
      rfl
    · obtain ⟨commands, hpart, hwritten⟩ := hacc.exists_written k
      rw [if_neg hne, List.append_nil]
      exact ⟨commands, hpart.trans (List.prefix_append _ _).isInfix, hwritten⟩
  case writtenNow =>
    intro k hc hs
    have hs' : link.client.socket = some k := by
      rw [hcall] at hs
      exact hs
    obtain rfl : socket = k := Option.some_inj.mp (hsocket.symm.trans hs')
    obtain ⟨s, hs, hwritten⟩ := hacc.writtenNow socket hconnected hsocket
    refine ⟨s, hs, ?_⟩
    rw [hlines, hissued, if_pos rfl, hwritten, List.drop_append_of_le_length (hs.trans hacked),
      List.map_append]
    rfl
  case unwritten =>
    intro k hk
    rw [hcall] at hk
    have hk' : (Function.update link.connections socket { link.connections socket with
        up := (link.connections socket).up ++ commandStream [command] } k).established = false :=
      (congrArg Connection.established (congrFun htouch k)).symm.trans hk
    by_cases hne : k = socket
    · subst hne
      simp [hestablished] at hk'
    · rw [hlines, if_neg (Ne.symm hne), List.append_nil]
      exact hacc.unwritten k (by simpa [Function.update_of_ne hne] using hk')

/-- A socket emits `data`. -/
lemma Tracks.dataEvent (h : Tracks trace link) {socket length : ℕ}
    (hestablished : (link.connections socket).established = true)
    (hclosed : (link.connections socket).closed = false) :
    let connection := link.connections socket
    let reading := { link with
      connections := Function.update link.connections socket
        { connection with down := connection.down.drop length } }
    let result := link.client.acceptData (connection.down.take length)
    Tracks (trace ++ (reading.call result).2) (reading.call result).1 := by
  intro connection reading result hnodup
  have hissued : accepted (trace ++ (reading.call result).2) = accepted trace := by
    rw [accepted_append, call, accepted_map_effect, List.append_nil]
  rw [hissued] at hnodup
  obtain ⟨acked, executed, p, hacc⟩ := h hnodup
  have hinv := hacc.invariant
  have hlt : socket < link.client.sockets := by
    by_contra hge
    rw [hinv.unused socket (not_lt.mp hge)] at hestablished
    cases hestablished
  have hsocket := hinv.live socket hlt hclosed
  obtain ⟨hge, hle⟩ := hinv.position_bounds socket
  set slice := ((accepted trace).drop acked).take (link.position socket acked p - acked) with hslice
  -- The text read so far is some acknowledgements and the beginning of another one.
  have htext : (link.client.buffer ++ connection.down.take length) ++ connection.down.drop length =
      frame '\n' (slice.map acknowledgementText) := by
    rw [List.append_assoc, List.take_append_drop]
    exact hinv.down socket hsocket
  have hslicevalid : ∀ command ∈ slice, Valid command := fun command hmem =>
    hinv.valid command (List.mem_of_mem_drop (List.mem_of_mem_take hmem))
  obtain ⟨j, hj, rest, hnewline, hread, hleft⟩ := exists_split_of_append_eq '\n'
    (newline_of_mem_map_acknowledgementText hslicevalid) htext
  rw [← List.map_take] at hread
  rw [← List.map_drop] at hleft
  rw [List.length_map] at hj
  have hslicelength : slice.length ≤ link.position socket acked p - acked := List.length_take_le _ _
  have hjle : j ≤ link.position socket acked p - acked := hj.trans hslicelength
  have hslicetake : slice.take j = ((accepted trace).drop acked).take j := by
    rw [hslice, List.take_take, min_eq_left hjle]
  have hvalid : ∀ command ∈ slice.take j, Valid command := fun command hmem =>
    hslicevalid command (List.mem_of_mem_take hmem)
  have hentries : link.client.pending.entries =
      (slice.take j).map (fun command => (command.id, command)) ++
        ((accepted trace).drop (acked + j)).map fun command => (command.id, command) := by
    rw [hinv.entries, hslicetake, ← List.map_append, ← List.drop_drop, List.take_append_drop]
  obtain ⟨pending, hpending, haccept⟩ := acceptData_eq hvalid hentries hnewline hread
  have hresult : result = _ := haccept
  have hacks : acknowledged (reading.call result).2 = (slice.take j).map acknowledgementOf := by
    rw [hresult]
    exact acknowledged_acknowledgement _
  have hlines : ∀ k, written k (trace ++ (reading.call result).2) = written k trace := by
    intro k
    rw [written_append, hresult]
    exact (congrArg _ (written_acknowledgement _ k)).trans (List.append_nil _)
  refine ⟨acked + j, executed, p, ?_⟩
  constructor
  case invariant =>
    rw [hissued, hresult]
    exact (hinv.data hsocket hjle hpending hleft hestablished).transfer rfl rfl rfl rfl rfl
      (foldl_touch_acknowledgement _ _) rfl rfl rfl rfl
  case acknowledged_eq =>
    rw [acknowledged_append, hacks, hacc.acknowledged_eq, hissued, hslicetake, List.take_add,
      List.map_append]
  case handledLines_eq =>
    rw [handledLines_append, call, handledLines_map_effect, List.append_nil]
    exact hacc.handledLines_eq
  case sound =>
    -- What is acknowledged is before `p`, so it was executed.
    refine hacc.sound.append fun ack hack => ?_
    rw [hacks] at hack
    obtain ⟨command, hmem, rfl⟩ := List.mem_map.mp hack
    rw [hslicetake] at hmem
    obtain ⟨i, hi, hget⟩ := List.mem_take_iff_getElem.mp hmem
    rw [List.getElem_drop] at hget
    refine ⟨command, List.mem_of_mem_drop (List.mem_of_mem_take hmem), rfl, ?_⟩
    obtain ⟨before, after, hexecuted, -⟩ := hinv.settled.last (acked + i) command (by omega)
      (List.getElem?_eq_some_iff.mpr ⟨_, hget⟩)
    rw [hacc.handledLines_eq, hexecuted]
    exact List.mem_map_of_mem (by simp)
  case exists_written =>
    intro k
    rw [hlines, hissued]
    exact hacc.exists_written k
  case writtenNow =>
    intro k hc hs
    rw [hresult] at hc hs
    obtain ⟨s, hs', hwritten⟩ := hacc.writtenNow k hc hs
    exact ⟨s, Nat.le_add_right_of_le hs', by rw [hlines, hissued, hwritten]⟩
  case unwritten =>
    intro k hk
    rw [hlines]
    rw [hresult] at hk
    have hk' : (reading.connections k).established = false :=
      (congrArg Connection.established
        (congrFun (foldl_touch_acknowledgement _ reading.connections) k)).symm.trans hk
    by_cases hne : k = socket
    · subst hne
      simp [reading, connection, hestablished] at hk'
    · exact hacc.unwritten k (by simpa [reading, Function.update_of_ne hne] using hk')

/-- `recv` returns text. -/
lemma Tracks.receiveEvent (h : Tracks trace link) {socket length : ℕ}
    (hserving : link.serving = some socket) (hpos : 0 < length)
    (hlength : length ≤ (link.connections socket).up.length) :
    let connection := link.connections socket
    let result := Generator.receive link.faultFlags link.pending (connection.up.take length)
    Tracks (trace ++ result.1.replies.map fun reply => .handled reply.1 reply.2)
      { link with
        faultFlags := result.1.faultFlags
        pending := result.2
        connections := Function.update link.connections socket
          { connection with
            up := connection.up.drop length
            down := connection.down ++ (result.1.replies.map Prod.snd).flatten } } := by
  intro connection result hnodup
  have hissued : accepted (trace ++ result.1.replies.map fun reply => .handled reply.1 reply.2) =
      accepted trace := by
    rw [accepted_append]
    simp [accepted]
  rw [hissued] at hnodup
  obtain ⟨acked, executed, p, hacc⟩ := h hnodup
  have hinv := hacc.invariant
  have hnext := hinv.serving socket hserving
  have hlt : socket < link.client.sockets := by
    have := hinv.accepted_le
    omega
  have hposition : link.position socket acked p = p := if_pos (by omega)
  have hreceives : link.Receives socket := ⟨hlt, Or.inr hserving⟩
  have hestablished : (link.connections socket).established = true := by
    by_contra hnew
    have hquiet := (hinv.quiet socket (by simpa using hnew)).1
    rw [upstream, List.append_eq_nil_iff] at hquiet
    rw [hquiet.2, List.length_nil] at hlength
    omega
  -- All commands are under way on the connection in use, and some on any other.
  obtain ⟨sent, hsent, hupstream, hall⟩ : ∃ sent, sent <+: (accepted trace).drop p ∧
      link.upstream socket = commandStream sent ∧
      (link.client.connected = true → link.client.socket = some socket →
        sent = (accepted trace).drop p) := by
    by_cases hcurrent : link.client.connected = true ∧ link.client.socket = some socket
    · have := hinv.upAll socket hreceives hcurrent.1 hcurrent.2
      rw [hposition] at this
      exact ⟨_, List.prefix_rfl, this, fun _ _ => rfl⟩
    · obtain ⟨sent, hsent, hup⟩ := hinv.up socket hreceives
      rw [hposition] at hsent
      exact ⟨sent, hsent, hup, fun hc hs => absurd ⟨hc, hs⟩ hcurrent⟩
  have htext : (link.pending ++ connection.up.take length) ++ connection.up.drop length =
      frame '\n' (sent.map commandText) := by
    rw [List.append_assoc, List.take_append_drop, ← commandStream, ← hupstream, upstream,
      if_pos hserving]
  have hsentvalid : ∀ command ∈ sent, Valid command := fun command hmem =>
    hinv.valid command (List.mem_of_mem_drop (hsent.subset hmem))
  obtain ⟨j, hj, rest, hnewline, hread, hleft⟩ := exists_split_of_append_eq '\n'
    (newline_of_mem_map_commandText hsentvalid) htext
  rw [← List.map_take] at hread
  rw [← List.map_drop] at hleft
  rw [List.length_map] at hj
  have hvalid : ∀ command ∈ sent.take j, Valid command := fun command hmem =>
    hsentvalid command (List.mem_of_mem_take hmem)
  have hresult : result = _ := receive_eq hvalid hnewline hread
  have hreplies : (result.1.replies.map Prod.snd).flatten = acknowledgementStream (sent.take j) := by
    rw [hresult]
    simp [acknowledgementStream, frame, Function.comp_def]
  have hlines : handledLines (result.1.replies.map fun reply => .handled reply.1 reply.2) =
      (sent.take j).map commandText := by
    rw [handledLines_handled, hresult]
    simp [Function.comp_def]
  have hacks : acknowledged (result.1.replies.map fun reply => .handled reply.1 reply.2) = [] := by
    simp [acknowledged]
  have hwritten : ∀ k, written k (trace ++ result.1.replies.map fun reply =>
      .handled reply.1 reply.2) = written k trace := by
    intro k
    rw [written_append]
    simp [written]
  refine ⟨acked, executed ++ sent.take j, p + j, ?_⟩
  constructor
  case invariant =>
    rw [hissued, hreplies, hresult]
    exact hinv.receive hserving hsent hall hj hleft hestablished
  case acknowledged_eq =>
    rw [acknowledged_append, hacks, List.append_nil, hissued]
    exact hacc.acknowledged_eq
  case handledLines_eq =>
    rw [handledLines_append, hlines, List.map_append, hacc.handledLines_eq]
  case sound =>
    exact hacc.sound.append (by simp [hacks])
  case exists_written =>
    intro k
    rw [hwritten, hissued]
    exact hacc.exists_written k
  case writtenNow =>
    intro k hc hs
    rw [hwritten, hissued]
    exact hacc.writtenNow k hc hs
  case unwritten =>
    intro k hk
    rw [hwritten]
    by_cases hne : k = socket
    · subst hne
      simp [connection, hestablished] at hk
    · exact hacc.unwritten k (by simpa [Function.update_of_ne hne] using hk)

/-- **One event**: whatever happens next, the trace still accounts for the state. -/
theorem Tracks.step (h : Tracks trace link) (action : Action)
    (hstep : link.step action = some (link', events)) : Tracks (trace ++ events) link' := by
  cases action with
  | start =>
    obtain ⟨rfl, rfl⟩ := Prod.mk.inj (Option.some_inj.mp hstep)
    have hrunning : Tracks (trace ++ []) { link with
        client := { link.client with running := true } } :=
      h.keep (fun _ _ _ p hinv => ⟨⟨fun hc => ⟨hc, rfl⟩, fun _ hk => hk⟩, p,
        hinv.transfer rfl rfl rfl rfl rfl rfl rfl rfl rfl rfl⟩) rfl rfl rfl fun _ => rfl
    rw [List.append_nil] at hrunning
    exact hrunning.connectCall
  | stop =>
    obtain ⟨rfl, rfl⟩ := Prod.mk.inj (Option.some_inj.mp hstep)
    exact h.stopCall
  | message parsed =>
    simp only [ControlLink.step] at hstep
    split at hstep
    · obtain ⟨rfl, rfl⟩ := Prod.mk.inj (Option.some_inj.mp hstep)
      exact h.keep (fun _ _ _ p hinv => ⟨⟨fun hc => ⟨hc, rfl⟩, fun _ hk => hk⟩, p, hinv⟩)
        rfl rfl rfl fun _ => rfl
    · next command hcommand =>
      obtain ⟨rfl, rfl⟩ := Prod.mk.inj (Option.some_inj.mp hstep)
      obtain ⟨hconnected, hvalid⟩ := acceptClientMessage_eq_ok hcommand
      exact h.messageEvent hvalid hconnected
  | connect socket =>
    obtain ⟨⟨hlt, hnew, hdestroyed, hclosed⟩, heq⟩ := Option.ite_none_right_eq_some.mp hstep
    obtain ⟨rfl, rfl⟩ := Prod.mk.inj (Option.some_inj.mp heq)
    exact h.connectEvent hlt (by simpa using hnew) (by simpa using hdestroyed)
      (by simpa using hclosed)
  | data socket length =>
    obtain ⟨⟨hestablished, -, hclosed, -, -⟩, heq⟩ := Option.ite_none_right_eq_some.mp hstep
    obtain ⟨rfl, rfl⟩ := Prod.mk.inj (Option.some_inj.mp heq)
    exact h.dataEvent hestablished (by simpa using hclosed)
  | close socket =>
    obtain ⟨⟨hlt, hclosed⟩, heq⟩ := Option.ite_none_right_eq_some.mp hstep
    obtain ⟨rfl, rfl⟩ := Prod.mk.inj (Option.some_inj.mp heq)
    exact h.closeCall hlt (by simpa using hclosed)
  | timer timer =>
    obtain ⟨-, heq⟩ := Option.ite_none_right_eq_some.mp hstep
    obtain ⟨rfl, rfl⟩ := Prod.mk.inj (Option.some_inj.mp heq)
    have hfired : Tracks (trace ++ []) { link with timers := link.timers.erase timer } :=
      h.keep (fun _ _ _ p hinv => ⟨⟨fun hc => ⟨hc, rfl⟩, fun _ hk => hk⟩, p,
        hinv.transfer rfl rfl rfl rfl rfl rfl rfl rfl rfl rfl⟩) rfl rfl rfl fun _ => rfl
    rw [List.append_nil] at hfired
    exact hfired.connectCall
  | accept socket =>
    obtain ⟨⟨hserving, hge, hlt⟩, heq⟩ := Option.ite_none_right_eq_some.mp hstep
    obtain ⟨rfl, rfl⟩ := Prod.mk.inj (Option.some_inj.mp heq)
    exact h.keep (fun _ acked _ _ hinv => ⟨⟨fun hc => ⟨hc, rfl⟩, fun _ hk => hk⟩, acked,
      hinv.accept hserving hge hlt⟩) rfl rfl rfl fun _ => rfl
  | receive length =>
    simp only [ControlLink.step] at hstep
    split at hstep
    · cases hstep
    · next socket hserving =>
      obtain ⟨⟨hpos, -, hlength⟩, heq⟩ := Option.ite_none_right_eq_some.mp hstep
      obtain ⟨rfl, rfl⟩ := Prod.mk.inj (Option.some_inj.mp heq)
      exact h.receiveEvent hserving hpos hlength
  | hangUp =>
    simp only [ControlLink.step] at hstep
    split at hstep
    · cases hstep
    · obtain ⟨rfl, rfl⟩ := Prod.mk.inj (Option.some_inj.mp hstep)
      exact h.keep (fun _ _ _ p hinv => ⟨⟨fun hc => ⟨hc, rfl⟩, fun _ hk => hk⟩, p, hinv.hangUp⟩)
        rfl rfl rfl fun _ => rfl

/-- **Every run** of the link is accounted for by its trace. -/
theorem isInvariant : system.IsInvariant Tracks where
  start := Tracks.init
  keep _ _ action _ _ _ h hstep := h.step action hstep

end Tracks

/-! ## A run with a lost connection -/

/-- A browser's command about thruster loss. -/
def thrusterLossMessage (id : Char) (enabled : Bool) : JsonValue :=
  .object [("type".toList, .string "command".toList), ("id".toList, .string [id]),
    ("fault".toList, .string "thruster_loss".toList), ("enabled".toList, .boolean enabled),
    ("issuedAtMs".toList, .number 0)]

/-- Thruster loss is enabled, and the connection lost with the acknowledgement under way. A
command is refused meanwhile. On the next connection thruster loss is disabled, and both commands
are executed. -/
def replayedCommand : List Action :=
  [.start, .connect 0, .message (some (thrusterLossMessage 'a' true)), .accept 0, .receive 26,
    .hangUp, .close 0, .message (some (thrusterLossMessage 'c' true)), .timer 0, .connect 1,
    .message (some (thrusterLossMessage 'b' false)), .accept 1, .receive 40, .receive 12,
    .data 1 30, .data 1 14]

end ControlLink

end FlightDeck.System
