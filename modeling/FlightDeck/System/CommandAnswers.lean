import FlightDeck.System.CommandLoop
import FlightDeck.System.ControlDelivery

set_option relaxedAutoImplicit false
set_option autoImplicit false

/-!
# Answers to commands

Every command that the server receives is accepted or refused. A refusal is answered to the
connection the command came on, and an acknowledgement is broadcast; so whoever sent a command is
told what has become of it, unless the connection has been lost. While the readout of a dashboard
says that a command is pending nothing has been told of it.

## Main definitions

* `CommandLoop.Answers` — a message that says what has become of a command.
* `CommandLoop.Told` — it is said to a connection.
* `CommandLoop.Honest` — what a readout says is so, and remains so.

## Main results

* `CommandLoop.isPart` — the control link runs as a part of the loop.
* `CommandLoop.Answered.told_change`, `CommandLoop.Answered.unanswered_change` — what an event
  keeps.
* `CommandLoop.command_loop` — every readout is honest, and no command is forgotten.
-/

namespace FlightDeck.System

open Server Generator Dashboard TransitionSystem

namespace CommandLoop

variable {capacity : ℕ+} {loop loop' : CommandLoop capacity} {trace events : List Event}

/-! ## Definitions -/

/-- The message says what has become of the command. -/
def Answers (command : FaultCommand) : ServerMessage → Prop
  | .commandAck id fault enabled _ => (id, fault, enabled) = acknowledgementOf command
  | .commandError id _ => id = some command.id
  | _ => False

/-- The command has been acknowledged or refused. -/
def IsSettled (trace : List Event) (command : FaultCommand) : Prop :=
  acknowledgementOf command ∈ ControlLink.acknowledged (controlTrace trace) ∨
    command.id ∈ ControlLink.refusedIds (controlTrace trace)

/-- The answer to a command has arrived, is under way, or found the connection closed. -/
def Told (trace : List Event) (loop : CommandLoop capacity) (client : ℕ)
    (command : FaultCommand) : Prop :=
  (∃ k message, .received k client message ∈ trace ∧ Answers command message) ∨
    ∃ receiver, loop.relay.clients[client]? = some receiver ∧
      (receiver.isOpen = false ∨ ∃ message ∈ receiver.underWay, Answers command message)

/-- What a readout of a browser says of its command is so, and remains so. -/
structure Honest (trace later : List Event) (k : ℕ) (readout : Option CommandState) : Prop where
  /-- A pending command was sent by this browser. -/
  pending : ∀ shown, readout = some shown → shown.status = .pending → ∃ client command,
    .sent k client command ∈ trace ∧ shown.id = command.id ∧ shown.fault = command.fault ∧
      shown.enabled = command.enabled
  /-- An acknowledged one was sent by some browser and has been executed. -/
  acknowledged : ∀ shown, readout = some shown → shown.status = .acknowledged →
    ∃ k' client command, .sent k' client command ∈ trace ∧ shown.id = command.id ∧
      shown.fault = command.fault ∧ shown.enabled = command.enabled ∧
        commandText command ∈ ControlLink.handledLines (controlTrace trace)
  /-- One that failed was sent by this browser and is never executed. -/
  failed : ∀ shown, readout = some shown → shown.status = .failed → ∃ client command,
    .sent k client command ∈ trace ∧ shown.id = command.id ∧
      commandText command ∉ ControlLink.handledLines (controlTrace later)

/-! ## The control link -/

/-- **The control link runs as a part** of the loop. -/
lemma isPart (capacity : ℕ+) :
    (system capacity).IsPart ControlLink.system link Event.control? where
  start := rfl
  step loop action loop' events hstep := by
    have hshown : ∀ shown : List ControlLink.Event,
        (shown.map Event.control).filterMap Event.control? = shown := fun shown =>
      (map_control shown).1
    cases action with
    | request client =>
      simp only [system, step] at hstep
      cases hfind : loop.underWay.find? (·.1 == client) with
      | none =>
        rw [hfind] at hstep
        cases hstep
      | some sent =>
        rw [hfind] at hstep
        obtain ⟨⟨link, shown⟩, hlink, heq⟩ := Option.map_eq_some_iff.mp hstep
        obtain ⟨rfl, rfl⟩ := Prod.mk.inj heq
        refine Or.inr ⟨.message (some (messageOf sent.2)), ?_⟩
        rw [List.filterMap_cons_none rfl, hshown]
        exact hlink
    | control action now =>
      cases action with
      | message parsed => cases hstep
      | _ =>
        simp only [system, step] at hstep
        obtain ⟨⟨link, shown⟩, hlink, heq⟩ := Option.map_eq_some_iff.mp hstep
        obtain ⟨rfl, rfl⟩ := Prod.mk.inj heq
        have hown : ∃ b, loop.link.step b = some (link, shown) := ⟨_, hlink⟩
        rw [hshown]
        exact Or.inr hown
    | connect k =>
      obtain ⟨-, heq⟩ := Option.ite_none_right_eq_some.mp hstep
      obtain ⟨rfl, rfl⟩ := Prod.mk.inj (Option.some_inj.mp heq)
      exact Or.inl ⟨rfl, rfl⟩
    | opened k =>
      obtain ⟨-, heq⟩ := Option.ite_none_right_eq_some.mp hstep
      obtain ⟨rfl, rfl⟩ := Prod.mk.inj (Option.some_inj.mp heq)
      exact Or.inl ⟨rfl, rfl⟩
    | lost k disposed =>
      obtain ⟨-, heq⟩ := Option.ite_none_right_eq_some.mp hstep
      obtain ⟨rfl, rfl⟩ := Prod.mk.inj (Option.some_inj.mp heq)
      exact Or.inl ⟨rfl, rfl⟩
    | close client =>
      obtain ⟨rfl, rfl⟩ := Prod.mk.inj (Option.some_inj.mp hstep)
      exact Or.inl ⟨rfl, rfl⟩
    | deliver k =>
      simp only [system, step] at hstep
      split at hstep
      · cases hstep
      · split at hstep
        · obtain ⟨-, heq⟩ := Option.ite_none_right_eq_some.mp hstep
          obtain ⟨rfl, rfl⟩ := Prod.mk.inj (Option.some_inj.mp heq)
          exact Or.inl ⟨rfl, rfl⟩
        · cases hstep
    | frame k now atCall =>
      obtain ⟨result, -, heq⟩ := Option.map_eq_some_iff.mp hstep
      obtain ⟨rfl, rfl⟩ := Prod.mk.inj heq
      exact Or.inl ⟨rfl, rfl⟩
    | render k =>
      obtain ⟨rfl, rfl⟩ := Prod.mk.inj (Option.some_inj.mp hstep)
      exact Or.inl ⟨rfl, rfl⟩
    | send k command =>
      obtain ⟨-, heq⟩ := Option.ite_none_right_eq_some.mp hstep
      split at heq
      · obtain ⟨rfl, rfl⟩ := Prod.mk.inj (Option.some_inj.mp heq)
        exact Or.inl ⟨rfl, rfl⟩
      · split at heq
        · obtain ⟨rfl, rfl⟩ := Prod.mk.inj (Option.some_inj.mp heq)
          exact Or.inl ⟨rfl, rfl⟩
        · obtain ⟨rfl, rfl⟩ := Prod.mk.inj (Option.some_inj.mp heq)
          exact Or.inl ⟨rfl, rfl⟩
    | datagram datagram =>
      obtain ⟨rfl, rfl⟩ := Prod.mk.inj (Option.some_inj.mp hstep)
      exact Or.inl ⟨rfl, rfl⟩

/-- So the trace accounts for its state. -/
lemma isInvariant_tracks (capacity : ℕ+) : (system capacity).IsInvariant fun trace loop =>
    ControlLink.Tracks (controlTrace trace) loop.link :=
  (isPart capacity).isInvariant ControlLink.isInvariant

/-! ## Ids -/

/-- Nobody's random id was drawn twice. -/
def Distinct (trace : List Event) : Prop := ((sentOn trace).map (·.2.id)).Nodup

/-- They were different before, if they are now. -/
lemma Distinct.of_append (h : Distinct (trace ++ events)) : Distinct trace := by
  rw [Distinct, sentOn_append, List.map_append] at h
  exact h.of_append_left

/-- The commands received by the server have different ids. -/
lemma Accounted.nodup_requested {underWay : List (ℕ × FaultCommand)}
    (h : Accounted trace underWay) (hids : Distinct trace) :
    ((requestedOn trace).map (·.2.id)).Nodup := by
  have hnodup : ((requestedOn trace ++ underWay).map (·.2.id)).Nodup :=
    (h.perm.map _).nodup_iff.mp (show ((sentOn trace).map (·.2.id)).Nodup from hids)
  rw [List.map_append] at hnodup
  exact hnodup.of_append_left

/-- So have those accepted and those refused. -/
lemma Accounted.nodup_settled {underWay : List (ℕ × FaultCommand)}
    (h : Accounted trace underWay) (hids : Distinct trace) :
    ((ControlLink.accepted (controlTrace trace)).map (·.id) ++
      ControlLink.refusedIds (controlTrace trace)).Nodup :=
  h.settled.nodup_iff.mp (h.nodup_requested hids)

/-- An acknowledged command was accepted and executed. -/
lemma exists_of_acknowledged {trace : List ControlLink.Event} {acked p : ℕ}
    {executed : List FaultCommand} {link : ControlLink}
    (h : ControlLink.Account trace acked executed p link) {id : List Char} {fault : FaultType}
    {enabled : Bool} (hack : (id, fault, enabled) ∈ ControlLink.acknowledged trace) :
    ∃ command ∈ ControlLink.accepted trace, acknowledgementOf command = (id, fault, enabled) ∧
      commandText command ∈ ControlLink.handledLines trace := by
  obtain ⟨event, hmem, heq⟩ := List.mem_filterMap.mp hack
  obtain ⟨before, after, htrace⟩ := List.append_of_mem hmem
  cases event with
  | effect effect =>
    cases effect with
    | onAcknowledgement id' fault' enabled' =>
      obtain ⟨rfl, rfl, rfl⟩ : id' = id ∧ fault' = fault ∧ enabled' = enabled := by
        simpa using heq
      obtain ⟨command, haccepted, hcommand, hhandled⟩ := h.sound before after _ _ _ htrace
      refine ⟨command, ?_, hcommand, ?_⟩
      · rw [htrace, ControlLink.accepted_append]
        exact List.mem_append_left _ haccepted
      · rw [htrace, ControlLink.handledLines_append]
        exact List.mem_append_left _ hhandled
    | _ => cases heq
  | _ => cases heq

/-- What a backed message answers was received by the server. -/
lemma exists_of_answers (h : Accounted trace loop.underWay) (hids : Distinct trace)
    (htracks : ControlLink.Tracks (controlTrace trace) loop.link) {client : ℕ}
    {message : ServerMessage} (hbacked : Backed trace client message) {command : FaultCommand}
    (hanswers : Answers command message) : command.id ∈ (requestedOn trace).map (·.2.id) := by
  rw [h.settled.mem_iff]
  cases message with
  | commandAck id fault enabled acknowledgedAtMs =>
    obtain ⟨acked, executed, p, hacc⟩ := htracks (h.nodup_settled hids).of_append_left
    obtain ⟨accepted, haccepted, heq, -⟩ := exists_of_acknowledged hacc hbacked
    have hsame : acknowledgementOf accepted = acknowledgementOf command := heq.trans hanswers
    exact List.mem_append_left _ (List.mem_map.mpr ⟨accepted, haccepted, congrArg Prod.fst hsame⟩)
  | commandError id text =>
    obtain ⟨refused, hid, -, hrefused⟩ := hbacked
    have hsame : refused.id = command.id := Option.some_inj.mp (hid.symm.trans hanswers)
    exact List.mem_append_right _ (hsame ▸ hrefused)
  | _ => exact hanswers.elim

/-- A settled command was received by the server. -/
lemma id_mem_of_isSettled (h : Accounted trace loop.underWay) (hids : Distinct trace)
    (htracks : ControlLink.Tracks (controlTrace trace) loop.link) {command : FaultCommand}
    (hsettled : IsSettled trace command) : command.id ∈ (requestedOn trace).map (·.2.id) := by
  rw [h.settled.mem_iff]
  rcases hsettled with hack | hrefused
  · obtain ⟨acked, executed, p, hacc⟩ := htracks (h.nodup_settled hids).of_append_left
    obtain ⟨accepted, haccepted, heq, -⟩ := exists_of_acknowledged hacc hack
    exact List.mem_append_left _ (List.mem_map.mpr ⟨accepted, haccepted, congrArg Prod.fst heq⟩)
  · exact List.mem_append_right _ hrefused

/-! ## Telling -/

/-- A client keeps what is under way to it, or receives it, and does not open again. -/
lemma exists_receiver_of_change (hchange : Change loop loop' events) {client : ℕ}
    {receiver : Client} (hclient : loop.relay.clients[client]? = some receiver) :
    ∃ receiver', loop'.relay.clients[client]? = some receiver' ∧
      (receiver.isOpen = false → receiver'.isOpen = false) ∧
      ∀ message ∈ receiver.underWay,
        message ∈ receiver'.underWay ∨ ∃ k, .received k client message ∈ events := by
  have hmodify : ∀ (i : ℕ) (change : Client → Client),
      (loop.relay.clients.modify i change)[client]? =
        some (if i = client then change receiver else receiver) := by
    intro i change
    rw [List.getElem?_modify, hclient]
    rfl
  have hmap : ∀ messages : List ServerMessage,
      (loop.relay.clients.map (messages.foldl Client.send))[client]? =
        some (messages.foldl Client.send receiver) := by
    intro messages
    rw [List.getElem?_map, hclient]
    rfl
  have hfed : ∀ messages : List ServerMessage,
      (receiver.isOpen = false → (messages.foldl Client.send receiver).isOpen = false) ∧
        ∀ message ∈ receiver.underWay,
          message ∈ (messages.foldl Client.send receiver).underWay ∨
            ∃ k, .received k client message ∈ events := fun messages =>
    ⟨fun hclosed => (isOpen_foldl_send receiver messages).trans hclosed,
      fun message hmem => Or.inl (mem_foldl_send_of_mem hmem)⟩
  cases hchange with
  | connected k hfree =>
    refine ⟨receiver, ?_, id, fun message hmem => Or.inl hmem⟩
    dsimp only [Relay.next, Relay.connect]
    rw [List.getElem?_append_left (List.getElem?_eq_some_iff.mp hclient).1, hclient]
  | closed client' =>
    refine ⟨_, hmodify _ _, fun hclosed => ?_, fun message hmem => Or.inl ?_⟩
    · split
      · rfl
      · exact hclosed
    · split <;> exact hmem
  | delivered k client' delivered rest receiver' hsocket hreceiver hfirst =>
    refine ⟨_, hmodify _ _, fun hclosed => ?_, fun message hmem => ?_⟩
    · split
      · rwa [Client.isOpen_deliver]
      · exact hclosed
    · split
      · next hsame =>
        subst hsame
        obtain rfl := Option.some_inj.mp (hreceiver.symm.trans hclient)
        rw [Client.deliver, hfirst]
        rw [hfirst] at hmem
        rcases List.mem_cons.mp hmem with rfl | hmem
        · exact Or.inr ⟨k, List.mem_singleton_self _⟩
        · exact Or.inl hmem
      · exact Or.inl hmem
  | refused client' command text before after hunderWay =>
    refine ⟨_, hmodify _ _, ?_⟩
    split
    · exact hfed [.commandError (some command.id) text]
    · exact hfed []
  | datagram datagram =>
    refine ⟨_, ?_, hfed (loop.relay.server.acceptPacket datagram).2⟩
    dsimp only
    rw [clients_datagram]
    exact hmap _
  | control link shown now =>
    refine ⟨_, ?_, hfed (shown.filterMap (messagesTo now))⟩
    dsimp only
    rw [clients_foldl_report]
    exact hmap _
  | _ => exact ⟨receiver, hclient, id, fun message hmem => Or.inl hmem⟩

/-- What has been told stays told. -/
lemma Told.change {client : ℕ} {command : FaultCommand} (h : Told trace loop client command)
    (hchange : Change loop loop' events) : Told (trace ++ events) loop' client command := by
  rcases h with ⟨k, message, hmem, hanswers⟩ | ⟨receiver, hclient, htold⟩
  · exact Or.inl ⟨k, message, List.mem_append_left _ hmem, hanswers⟩
  · obtain ⟨receiver', hclient', hclosed, hkept⟩ := exists_receiver_of_change hchange hclient
    rcases htold with hdown | ⟨message, hmem, hanswers⟩
    · exact Or.inr ⟨receiver', hclient', Or.inl (hclosed hdown)⟩
    · rcases hkept message hmem with hmem | ⟨k, hreceived⟩
      · exact Or.inr ⟨receiver', hclient', Or.inr ⟨message, hmem, hanswers⟩⟩
      · exact Or.inl ⟨k, message, List.mem_append_right _ hreceived, hanswers⟩

/-- What is sent to a client is told to it. -/
lemma told_of_send {client : ℕ} {receiver : Client} {messages : List ServerMessage}
    (hclient : loop.relay.clients[client]? = some (messages.foldl Client.send receiver))
    {message : ServerMessage} (hmem : message ∈ messages) {command : FaultCommand}
    (hanswers : Answers command message.overJson) : Told trace loop client command := by
  refine Or.inr ⟨_, hclient, ?_⟩
  cases hopen : receiver.isOpen with
  | true => exact Or.inr ⟨_, mem_foldl_send_of_isOpen hopen hmem, hanswers⟩
  | false => exact Or.inl ((isOpen_foldl_send receiver messages).trans hopen)

/-- What holds if ids are different. -/
structure Answered (trace : List Event) (loop : CommandLoop capacity) : Prop where
  /-- Whoever sent a settled command is told. -/
  told : ∀ client command, (client, command) ∈ requestedOn trace → IsSettled trace command →
    Told trace loop client command
  /-- Nothing has been told of a command that is shown as pending. -/
  unanswered : ∀ k shown, (loop.browsers k).hook.next.commandState = some shown →
    shown.status = .pending → ∀ client message, .received k client message ∈ trace →
      ∀ command, Answers command message → command.id ≠ shown.id

/-- Every connection has a client of the server. -/
lemma Invariant.exists_receiver (h : Invariant trace loop) {client : ℕ} {command : FaultCommand}
    (hmem : (client, command) ∈ sentOn trace) :
    ∃ receiver, loop.relay.clients[client]? = some receiver := by
  obtain ⟨k, hk⟩ := mem_sentOn.mp hmem
  have hlt := (List.getElem?_eq_some_iff.mp (h.connected.sent k client command hk)).1
  rw [h.connected.length] at hlt
  exact ⟨_, List.getElem?_eq_getElem hlt⟩

/-- What is settled after an event was settled before it, or shows in it. -/
lemma isSettled_append {command : FaultCommand} (h : IsSettled (trace ++ events) command) :
    IsSettled trace command ∨ IsSettled events command := by
  rcases h with hack | hrefused
  · rw [controlTrace_append, ControlLink.acknowledged_append] at hack
    exact (List.mem_append.mp hack).imp Or.inl Or.inl
  · rw [controlTrace_append, refusedIds_append] at hrefused
    exact (List.mem_append.mp hrefused).imp Or.inr Or.inr

/-- A command received just now was not settled before: its id is new. -/
lemma not_isSettled_of_requested (h : Accounted trace loop.underWay)
    (h' : Accounted (trace ++ events) loop'.underWay) (hids : Distinct (trace ++ events))
    (htracks : ControlLink.Tracks (controlTrace trace) loop.link) {client : ℕ}
    {command : FaultCommand} (hnew : (client, command) ∈ requestedOn events) :
    ¬IsSettled trace command := by
  intro hsettled
  have hold := id_mem_of_isSettled h hids.of_append htracks hsettled
  have hnodup := h'.nodup_requested hids
  rw [requestedOn_append, List.map_append] at hnodup
  exact List.disjoint_of_nodup_append hnodup hold (List.mem_map_of_mem hnew)

/-- Passing a command on settles none. -/
lemma not_isSettled_accepted (link : ControlLink) (client : ℕ) (accepted command : FaultCommand) :
    ¬IsSettled (.requested client accepted ::
      (.accepted accepted :: (link.call (link.client.send accepted)).2).map .control) command := by
  have hshown : controlTrace (.requested client accepted ::
      (.accepted accepted :: (link.call (link.client.send accepted)).2).map .control) =
        .accepted accepted :: (link.client.send accepted).2.map .effect :=
    (map_control (.accepted accepted :: (link.client.send accepted).2.map .effect)).1
  have hack : ControlLink.acknowledged ((link.client.send accepted).2.map .effect) = [] := by
    rw [SimulatorControlClient.send, SimulatorControlClient.write]
    split
    · rfl
    · split <;> rfl
  rintro (hmem | hmem)
  · rw [hshown] at hmem
    change _ ∈ ControlLink.acknowledged ((link.client.send accepted).2.map .effect) at hmem
    rw [hack] at hmem
    exact absurd hmem List.not_mem_nil
  · rw [hshown] at hmem
    change _ ∈ ControlLink.refusedIds ((link.client.send accepted).2.map .effect) at hmem
    rw [refusedIds_map_effect] at hmem
    exact absurd hmem List.not_mem_nil

/-- **Step lemma**: whoever sent a settled command is told. -/
lemma Answered.told_change (h : Answered trace loop) (hinv : Invariant trace loop)
    (htracks : ControlLink.Tracks (controlTrace trace) loop.link)
    (hchange : Change loop loop' events) (hids : Distinct (trace ++ events)) {client : ℕ}
    {command : FaultCommand} (hmem : (client, command) ∈ requestedOn (trace ++ events))
    (hsettled : IsSettled (trace ++ events) command) :
    Told (trace ++ events) loop' client command := by
  have hinv' := hinv.change hchange
  have hold : (client, command) ∈ requestedOn trace → IsSettled trace command →
      Told (trace ++ events) loop' client command := fun hrequested hsettled =>
    (h.told client command hrequested hsettled).change hchange
  have hnew : (client, command) ∈ requestedOn events → ¬IsSettled trace command :=
    not_isSettled_of_requested hinv.accounted hinv'.accounted hids htracks
  rw [requestedOn_append, List.mem_append] at hmem
  rcases isSettled_append hsettled with hbefore | hnow
  · exact hold (hmem.resolve_right fun hlate => hnew hlate hbefore) hbefore
  · -- It is settled by this event: a refusal, or an acknowledgement.
    cases hchange with
    | refused client' command' text before after hunderWay =>
      rcases hnow with hack | hrefused
      · cases hack
      · have hid : command.id = command'.id := List.mem_singleton.mp hrefused
        have hlate : (client', command') ∈ requestedOn (trace ++
            [.requested client' command', .control (.refused (.commandError (some command'.id)
              text))]) := by
          rw [requestedOn_append]
          exact List.mem_append_right _ (List.mem_singleton_self _)
        have hsame : (client, command) = (client', command') := by
          refine List.inj_on_of_nodup_map (hinv'.accounted.nodup_requested hids) ?_ hlate hid
          rw [requestedOn_append]
          exact List.mem_append.mpr hmem
        obtain ⟨rfl, rfl⟩ := Prod.mk.inj hsame
        have hsent : (client, command) ∈ sentOn trace := by
          rw [hinv.accounted.perm.mem_iff, hunderWay]
          simp
        obtain ⟨receiver, hreceiver⟩ := hinv.exists_receiver hsent
        have hclient : (loop.relay.next (.commandError client (some command.id) text)).clients[
            client]? = some ([ServerMessage.commandError (some command.id) text].foldl Client.send
              receiver) := by
          show (loop.relay.clients.modify client _)[client]? = _
          rw [List.getElem?_modify, hreceiver]
          simp
        have hanswers : Answers command
            (ServerMessage.commandError (some command.id) text).overJson := rfl
        exact told_of_send hclient (List.mem_singleton_self _) hanswers
    | accepted client' command' before after hunderWay =>
      exact absurd hnow (not_isSettled_accepted loop.link client' command' command)
    | control link shown now haccepted hrefused =>
      obtain ⟨hshown, -, hquiet⟩ := map_control shown
      rw [hquiet] at hmem
      have hrequested := hmem.resolve_right List.not_mem_nil
      rcases hnow with hack | hnow
      · rw [hshown] at hack
        obtain ⟨event, hevent, heq⟩ := List.mem_filterMap.mp hack
        obtain ⟨receiver, hreceiver⟩ := hinv.exists_receiver
          (hinv.accounted.perm.mem_iff.mpr (List.mem_append_left _ hrequested))
        have hclient : (shown.foldl (report now) loop.relay).clients[client]? =
            some ((shown.filterMap (messagesTo now)).foldl Client.send receiver) := by
          rw [clients_foldl_report, List.getElem?_map, hreceiver]
          rfl
        cases event with
        | effect effect =>
          cases effect with
          | onAcknowledgement id fault enabled =>
            have hsent : ServerMessage.commandAck id fault enabled now ∈
                shown.filterMap (messagesTo now) := List.mem_filterMap.mpr ⟨_, hevent, rfl⟩
            exact told_of_send hclient hsent (Option.some_inj.mp heq)
          | _ => cases heq
        | _ => cases heq
      · rw [hshown, hrefused] at hnow
        exact absurd hnow List.not_mem_nil
    | _ => rcases hnow with hack | hrefused <;> contradiction

/-- **Step lemma**: nothing has been told of a command that is shown as pending. -/
lemma Answered.unanswered_change (h : Answered trace loop) (hinv : Invariant trace loop)
    (htracks : ControlLink.Tracks (controlTrace trace) loop.link)
    (hchange : Change loop loop' events) (hids : Distinct (trace ++ events)) (k : ℕ)
    {shown : CommandState} (hshown : (loop'.browsers k).hook.next.commandState = some shown)
    (hpending : shown.status = .pending) {client : ℕ} {message : ServerMessage}
    (hmem : .received k client message ∈ trace ++ events) {command : FaultCommand}
    (hanswers : Answers command message) : command.id ≠ shown.id := by
  -- A readout that did not change, of a browser that received nothing.
  have hkeep : (loop'.browsers k).hook.next.commandState =
        (loop.browsers k).hook.next.commandState →
      (∀ client message, .received k client message ∉ events) → command.id ≠ shown.id := by
    intro hsame hquiet
    rw [hsame] at hshown
    rcases List.mem_append.mp hmem with hmem | hmem
    · exact h.unanswered k shown hshown hpending client message hmem command hanswers
    · exact absurd hmem (hquiet client message)
  cases hchange with
  | connected j hfree =>
    refine hkeep ?_ fun _ _ => List.not_mem_nil
    by_cases hj : k = j
    · subst hj
      exact congrArg (·.hook.next.commandState) (Function.update_self k _ loop.browsers)
    · exact congrArg (·.hook.next.commandState) (Function.update_of_ne hj _ loop.browsers)
  | browser j browser hsame hnext =>
    refine hkeep ?_ fun _ _ => List.not_mem_nil
    rw [setBrowser]
    by_cases hj : k = j
    · subst hj
      dsimp only
      rw [Function.update_self, hnext]
    · dsimp only
      rw [Function.update_of_ne hj]
  | delivered j client' delivered rest receiver hsocket hreceiver hfirst =>
    by_cases hj : k = j
    · subst hj
      dsimp only at hshown
      rw [Function.update_self, UseTelemetry.commandState_acceptMessage] at hshown
      have hother : ¬Answers command delivered ∧
          readoutAfter (loop.browsers k).hook.next.commandState delivered =
            (loop.browsers k).hook.next.commandState := by
        cases delivered with
        | commandAck =>
          obtain rfl := Option.some_inj.mp hshown
          cases hpending
        | commandError =>
          obtain rfl := Option.some_inj.mp hshown
          cases hpending
        | _ => exact ⟨id, rfl⟩
      rw [hother.2] at hshown
      rcases List.mem_append.mp hmem with hmem | hmem
      · exact h.unanswered k shown hshown hpending client message hmem command hanswers
      · obtain ⟨-, -, rfl⟩ := Event.received.inj (List.mem_singleton.mp hmem)
        exact absurd hanswers hother.1
    · refine hkeep ?_ fun _ _ hnew => hj (Event.received.inj (List.mem_singleton.mp hnew)).1
      exact congrArg (·.hook.next.commandState) (Function.update_of_ne hj _ loop.browsers)
  | sent j client' sent hook hsocket hid hnext =>
    by_cases hj : k = j
    · subst hj
      dsimp only at hshown
      rw [Function.update_self] at hshown
      obtain rfl := Option.some_inj.mp (hnext.symm.trans hshown)
      have hold : .received k client message ∈ trace := by simpa using hmem
      -- The id is new, and what was received is about older commands.
      have hrequested := exists_of_answers hinv.accounted hids.of_append htracks
        (hinv.received k client message hold) hanswers
      have hearlier : command.id ∈ (sentOn trace).map (·.2.id) := by
        rw [(hinv.accounted.perm.map _).mem_iff, List.map_append]
        exact List.mem_append_left _ hrequested
      have hnodup : ((sentOn (trace ++ [.sent k client' sent])).map (·.2.id)).Nodup := hids
      rw [sentOn_append, List.map_append] at hnodup
      intro hsame
      exact List.disjoint_of_nodup_append hnodup hearlier (List.mem_singleton.mpr hsame)
    · refine hkeep ?_ (by simp)
      exact congrArg (·.hook.next.commandState) (Function.update_of_ne hj _ loop.browsers)
  | _ => exact hkeep rfl (by simp)

/-- What holds between any two events, if ids are different. -/
def Account (trace : List Event) (loop : CommandLoop capacity) : Prop :=
  Distinct trace → Answered trace loop

/-- **Run lemma**. -/
lemma isInvariant_account (capacity : ℕ+) : (system capacity).IsInvariant fun trace loop =>
    (Invariant trace loop ∧ ControlLink.Tracks (controlTrace trace) loop.link) ∧
      Account trace loop := by
  have hboth := System.IsInvariant.and (isInvariant : (system capacity).IsInvariant Invariant)
    (isInvariant_tracks capacity).under
  refine hboth.and ⟨fun _ => ⟨?_, ?_⟩, ?_⟩
  · intro client command hmem
    exact absurd hmem List.not_mem_nil
  · intro k shown hshown
    cases hshown
  · rintro trace loop action loop' events ⟨hinv, htracks⟩ h hstep hids
    have hchange := hinv.change_of_step hstep
    have hbefore := h hids.of_append
    exact ⟨fun client command hmem hsettled =>
        hbefore.told_change hinv htracks hchange hids hmem hsettled,
      fun k shown hshown hpending client message hmem command hanswers =>
        hbefore.unanswered_change hinv htracks hchange hids k hshown hpending hmem hanswers⟩

/-! ## Readouts -/

/-- A readout is honest in every run that goes on from here. -/
lemma Truthful.honest {later : List Event} {k : ℕ} {readout : Option CommandState}
    (h : Truthful trace k readout) (hinv : Invariant trace loop)
    (htracks : ControlLink.Tracks (controlTrace trace) loop.link) (hinv' : Invariant later loop')
    (htracks' : ControlLink.Tracks (controlTrace later) loop'.link) (hids : Distinct later)
    (hlater : trace <+: later) : Honest trace later k readout where
  pending := h.pending
  acknowledged shown hshown hstatus := by
    obtain ⟨events, rfl⟩ := hlater
    obtain ⟨acked, executed, p, hacc⟩ :=
      htracks (hinv.accounted.nodup_settled hids.of_append).of_append_left
    obtain ⟨command, haccepted, heq, hhandled⟩ :=
      exists_of_acknowledged hacc (h.acknowledged shown hshown hstatus)
    obtain ⟨client, hrequested⟩ := hinv.accounted.source command haccepted
    obtain ⟨k', hsent⟩ := mem_sentOn.mp
      (hinv.accounted.perm.mem_iff.mpr (List.mem_append_left _ hrequested))
    obtain ⟨hid, hsetting⟩ := Prod.mk.inj heq
    obtain ⟨hfault, henabled⟩ := Prod.mk.inj hsetting
    exact ⟨k', client, command, hsent, hid.symm, hfault.symm, henabled.symm, hhandled⟩
  failed shown hshown hstatus := by
    obtain ⟨client, command, hsent, hid, hrefused⟩ := h.failed shown hshown hstatus
    refine ⟨client, command, hsent, hid, fun hhandled => ?_⟩
    obtain ⟨events, rfl⟩ := hlater
    have hnodup := hinv'.accounted.nodup_settled hids
    obtain ⟨acked, executed, p, hacc⟩ := htracks' hnodup.of_append_left
    rw [hacc.handledLines_eq] at hhandled
    obtain ⟨other, hexecuted, htext⟩ := List.mem_map.mp hhandled
    have haccepted := hacc.invariant.settled.mem other hexecuted
    have hvalid : Valid command := by
      have huuid := hinv.accounted.uuid _ (mem_sentOn.mpr ⟨k, hsent⟩)
      rw [Valid, isCommandId, huuid.1, huuid.2]
      rfl
    have hsame := id_eq_of_commandText_eq (hacc.invariant.valid other haccepted) hvalid htext
    refine List.disjoint_of_nodup_append hnodup (List.mem_map.mpr ⟨other, haccepted, hsame⟩) ?_
    rw [controlTrace_append, refusedIds_append]
    exact List.mem_append_left _ hrefused

/-- **The command loop**: in every run, if random ids are different, the readout of every
dashboard is honest, as computed and as shown: an acknowledged command has been executed, one that
failed never is. And a command computed as pending is not forgotten: it is on its way to the
server, or kept by the control client, or its answer is on its way to the dashboard, or the
connection is lost. -/
theorem command_loop {actions more : List Action} {later : List Event}
    (hrun : (system capacity).run actions = some (loop, trace))
    (hmore : (system capacity).run (actions ++ more) = some (loop', later))
    (hids : Distinct later) (k : ℕ) :
    Honest trace later k (loop.browsers k).hook.next.commandState ∧
      Honest trace later k (loop.browsers k).hook.shown.commandState ∧
      ∀ shown, (loop.browsers k).hook.next.commandState = some shown →
        shown.status = .pending → ∃ client command,
          .sent k client command ∈ trace ∧ shown.id = command.id ∧
            ((client, command) ∈ loop.underWay ∨ command ∈ loop.link.client.pending.values ∨
              ∃ receiver, loop.relay.clients[client]? = some receiver ∧
                (receiver.isOpen = false ∨
                  ∃ message ∈ receiver.underWay, Answers command message)) := by
  obtain ⟨⟨hinv, htracks⟩, haccount⟩ := (isInvariant_account capacity).of_run hrun
  obtain ⟨⟨hinv', htracks'⟩, -⟩ := (isInvariant_account capacity).of_run hmore
  have hlater := (system capacity).trace_prefix_of_run hrun hmore
  refine ⟨(hinv.next k).honest hinv htracks hinv' htracks' hids hlater,
    (hinv.shown k).honest hinv htracks hinv' htracks' hids hlater,
    fun shown hshown hpending => ?_⟩
  obtain ⟨events, rfl⟩ := hlater
  have hnow := haccount hids.of_append
  have hnodup := (hinv.accounted.nodup_settled hids.of_append).of_append_left
  obtain ⟨acked, executed, p, hacc⟩ := htracks hnodup
  obtain ⟨client, command, hsent, hid, -⟩ := (hinv.next k).pending shown hshown hpending
  refine ⟨client, command, hsent, hid, ?_⟩
  have htold : (client, command) ∈ requestedOn trace → IsSettled trace command → _ :=
    fun hrequested hsettled =>
      (hnow.told client command hrequested hsettled).resolve_left ?_
  · have hmem := hinv.accounted.perm.mem_iff.mp (mem_sentOn.mpr ⟨k, hsent⟩)
    rcases List.mem_append.mp hmem with hrequested | hunderWay
    · rcases hinv.accounted.fate _ hrequested with haccepted | hrefused
      · by_cases hack : acknowledgementOf command ∈
            ControlLink.acknowledged (controlTrace trace)
        · exact Or.inr (Or.inr (htold hrequested (Or.inl hack)))
        · exact Or.inr (Or.inl ((hacc.mem_values_iff hnodup command).mpr ⟨haccepted, hack⟩))
      · exact Or.inr (Or.inr (htold hrequested (Or.inr hrefused)))
    · exact Or.inl hunderWay
  · -- The answer has not been received: the dashboard would show it.
    rintro ⟨k', message, hreceived, hanswers⟩
    have howner := hinv.connected.received k' client message hreceived
    rw [hinv.connected.sent k client command hsent] at howner
    rw [← Option.some_inj.mp howner] at hreceived
    exact hnow.unanswered k shown hshown hpending client message hreceived command hanswers
      hid.symm

/-- Two dashboards. The command of the first one is executed and acknowledged; the link is lost
before the server receives that of the second one. -/
def oneOfTwo : List Action :=
  [.control .start 0, .control (.connect 0) 0, .connect 0, .opened 0, .connect 1, .opened 1,
    .deliver 0, .deliver 0, .render 0, .deliver 1, .deliver 1, .render 1,
    .send 0 UseTelemetry.firstCommand, .request 0, .control (.accept 0) 0,
    .control (.receive 61) 0, .control (.data 0 57) 7, .send 1 UseTelemetry.secondCommand,
    .control (.close 0) 0, .request 1, .deliver 0, .render 0, .deliver 1, .deliver 1, .deliver 1,
    .render 1]

/-- What the two see is so. -/
theorem command_loop_oneOfTwo : ∃ (loop : CommandLoop 4) (trace : List Event),
    (system 4).run oneOfTwo = some (loop, trace) ∧
      ((loop.browsers 0).hook.shown.commandState.map (·.status)) = some .acknowledged ∧
      ((loop.browsers 1).hook.shown.commandState.map (·.status)) = some .failed ∧
      Honest trace trace 0 (loop.browsers 0).hook.shown.commandState ∧
      Honest trace trace 1 (loop.browsers 1).hook.shown.commandState := by
  have hcheck : ((system 4).run oneOfTwo).any (fun now =>
      (now.1.browsers 0).hook.shown.commandState.map (·.status) = some .acknowledged ∧
        (now.1.browsers 1).hook.shown.commandState.map (·.status) = some .failed ∧
          ((sentOn now.2).map (·.2.id)).Nodup) = true := by decide +kernel
  obtain ⟨⟨loop, trace⟩, hrun, hfacts⟩ := (Option.any_eq_true _ _).mp hcheck
  rw [decide_eq_true_eq] at hfacts
  obtain ⟨hfirst, hsecond, hids⟩ := hfacts
  have hmore : (system 4).run (oneOfTwo ++ []) = some (loop, trace) := by
    rw [List.append_nil, hrun]
  exact ⟨loop, trace, hrun, hfirst, hsecond, (command_loop hrun hmore hids 0).2.1,
    (command_loop hrun hmore hids 1).2.1⟩

end CommandLoop

end FlightDeck.System
