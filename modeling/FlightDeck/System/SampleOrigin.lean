import FlightDeck.System.CommandLoop

set_option relaxedAutoImplicit false
set_option autoImplicit false

/-!
# Where samples come from

The server, the messages under way and the dashboards hold samples that were decoded from
datagrams, and no others: they are decimated, cut off, encoded and decoded again, but never made
up. Whatever is true of every sample that is decoded, and not lost over JSON, is true of every
sample on a screen.

## Main definitions

* `messageSamples` — the samples that a message carries.
* `HookHolds`, `RelayHolds`, `CommandLoop.Holds` — whoever holds samples holds only some of a kind.

## Main results

* `HookHolds.step`, `RelayHolds.next` — what the hook and the server keep.
* `CommandLoop.Holds.step` — what the loop keeps.
-/

namespace FlightDeck.System

open Server Dashboard TransitionSystem

variable {P : TelemetrySample → Prop} {capacity : ℕ+}

/-- The samples that a message carries. -/
def messageSamples : ServerMessage → List TelemetrySample
  | .history samples _ => samples
  | .telemetry sample _ => [sample]
  | _ => []

/-! ## The hook -/

/-- A decimated list has no other samples. -/
lemma mem_of_mem_displaySamples {samples : List TelemetrySample} {stride : ℕ}
    {sample : TelemetrySample} (h : sample ∈ displaySamples samples stride) :
    sample ∈ samples := by
  have hfold : ∀ (indexed retained : List (TelemetrySample × ℕ)),
      ∀ kept ∈ indexed.foldl (retain stride) retained, kept ∈ retained ∨ kept ∈ indexed := by
    intro indexed
    induction indexed with
    | nil => exact fun retained kept hmem => Or.inl hmem
    | cons next indexed ih =>
      intro retained kept hmem
      rcases ih _ kept hmem with hmem | hmem
      · rw [retain] at hmem
        split at hmem
        · rcases List.mem_append.mp hmem with hmem | hmem
          · exact Or.inl hmem
          · exact Or.inr (List.mem_singleton.mp hmem ▸ List.mem_cons_self)
        · exact Or.inl hmem
      · exact Or.inr (List.mem_cons_of_mem next hmem)
  have hretained := fun kept hmem => (hfold samples.zipIdx [] kept hmem).resolve_left
    List.not_mem_nil
  obtain ⟨indexed, hmem, rfl⟩ := List.mem_map.mp h
  refine List.fst_mem_of_mem_zipIdx (?_ : indexed ∈ samples.zipIdx)
  split at hmem
  · exact hretained indexed hmem
  · next latest hlatest =>
    split at hmem
    · rcases List.mem_append.mp hmem with hmem | hmem
      · exact hretained indexed hmem
      · rw [List.mem_singleton.mp hmem]
        exact List.mem_of_getLast? hlatest
    · exact hretained indexed hmem

/-- The hook holds samples of one kind only. -/
structure HookHolds (P : TelemetrySample → Prop) (hook : UseTelemetry) : Prop where
  pending : ∀ sample ∈ hook.pending, P sample
  queue : ∀ updater ∈ hook.queue, ∀ sample ∈ updater.incoming, P sample
  next : ∀ sample ∈ hook.next.samples, P sample
  shown : ∀ sample ∈ hook.shown.samples, P sample

section Hook

variable {hook : UseTelemetry}

/-- A message is received that carries no others. -/
lemma HookHolds.acceptMessage (h : HookHolds P hook) {message : ServerMessage}
    (hmessage : ∀ sample ∈ messageSamples message, P sample) :
    HookHolds P (hook.acceptMessage message) := by
  obtain ⟨hpending, hqueue, hnext, hshown⟩ := h
  cases message with
  | history samples metrics =>
    refine ⟨fun sample hmem => ?_, hqueue, hnext, hshown⟩
    dsimp only [UseTelemetry.acceptMessage, List.rtake] at hmem
    exact hmessage sample (mem_of_mem_displaySamples (List.mem_of_mem_drop hmem))
  | reset metrics => exact ⟨fun sample hmem => absurd hmem List.not_mem_nil, hqueue, hnext, hshown⟩
  | telemetry sample metrics =>
    have hnew := hmessage sample (List.mem_singleton_self _)
    unfold UseTelemetry.acceptMessage
    dsimp only
    split_ifs
    · exact ⟨fun other hmem => List.mem_singleton.mp hmem ▸ hnew, hqueue, hnext, hshown⟩
    · exact ⟨fun other hmem => absurd hmem List.not_mem_nil, hqueue, hnext, hshown⟩
    · refine ⟨fun other hmem => ?_, hqueue, hnext, hshown⟩
      rcases List.mem_append.mp hmem with hmem | hmem
      · exact hpending other hmem
      · exact List.mem_singleton.mp hmem ▸ hnew
    · exact ⟨hpending, hqueue, hnext, hshown⟩
  | _ => exact ⟨hpending, hqueue, hnext, hshown⟩

/-- Updaters put no others on the list. -/
lemma holds_run {updater : Updater} (hupdater : ∀ sample ∈ updater.incoming, P sample)
    (replaceWithHistory : Bool) {current : List TelemetrySample}
    (hcurrent : ∀ sample ∈ current, P sample) :
    ∀ sample ∈ updater.run replaceWithHistory current, P sample := by
  intro sample hmem
  rw [Updater.run] at hmem
  split at hmem
  · exact hupdater sample (List.mem_of_mem_drop hmem)
  · rcases List.mem_append.mp (List.mem_of_mem_drop hmem) with hmem | hmem
    · exact hcurrent sample hmem
    · exact hupdater sample hmem

/-- Pending samples are flushed. -/
lemma HookHolds.flush (h : HookHolds P hook) (now : ℕ) (atCall : Bool) :
    HookHolds P (hook.flush now atCall) := by
  obtain ⟨hpending, hqueue, hnext, hshown⟩ := h
  obtain ⟨-, -, -, hcollected⟩ := UseTelemetry.flush_collected hook now atCall
  obtain ⟨huntouched, -, -⟩ := UseTelemetry.flush_untouched hook now atCall
  have hempty : ∀ sample ∈ (hook.flush now atCall).pending, P sample := by
    rw [hcollected]
    exact fun sample hmem => absurd hmem List.not_mem_nil
  have hscreen : ∀ sample ∈ (hook.flush now atCall).shown.samples, P sample := by
    rwa [huntouched]
  cases hcase : hook.replaceWithHistory || !hook.pending.isEmpty with
  | false =>
    obtain ⟨hsame, hwaiting⟩ := UseTelemetry.flush_of_not_pending hook now atCall hcase
    exact ⟨hempty, by rwa [hwaiting], by rwa [hsame], hscreen⟩
  | true =>
    obtain ⟨hset, hwaiting⟩ := UseTelemetry.flush_of_pending hook now atCall hcase
    refine ⟨hempty, ?_, ?_, hscreen⟩
    · rw [hwaiting, UseTelemetry.setSamples]
      split
      · exact hqueue
      · intro updater hmem
        rcases List.mem_append.mp hmem with hmem | hmem
        · exact hqueue updater hmem
        · rw [List.mem_singleton.mp hmem]
          exact hpending
    · rw [hset, UseTelemetry.setSamples]
      split
      · exact holds_run hpending hook.replaceWithHistory hnext
      · exact hnext

/-- React renders. -/
lemma HookHolds.render (h : HookHolds P hook) : HookHolds P hook.render := by
  obtain ⟨hpending, hqueue, hnext, hshown⟩ := h
  have hsamples : ∀ sample ∈ hook.queue.foldl
      (fun current updater => updater.run hook.replaceWithHistory current) hook.next.samples,
      P sample :=
    List.foldlRecOn (motive := fun current => ∀ sample ∈ current, P sample) hook.queue _ hnext
      fun current hcurrent updater hmem =>
        holds_run (hqueue updater hmem) hook.replaceWithHistory hcurrent
  exact ⟨hpending, fun updater hmem => absurd hmem List.not_mem_nil, hsamples, hsamples⟩

/-- Anything that happens to the hook. -/
lemma HookHolds.step (h : HookHolds P hook) {action : UseTelemetry.Action} {hook' : UseTelemetry}
    {messages : List ServerMessage} (hstep : hook.step action = some (hook', messages))
    (haction : ∀ message, action = .message message →
      ∀ sample ∈ messageSamples message, P sample) : HookHolds P hook' := by
  cases action with
  | message message =>
    obtain ⟨rfl, -⟩ := Prod.mk.inj (Option.some_inj.mp hstep)
    exact h.acceptMessage (haction message rfl)
  | frame now atCall =>
    obtain ⟨-, heq⟩ := Option.ite_none_right_eq_some.mp hstep
    obtain ⟨rfl, -⟩ := Prod.mk.inj (Option.some_inj.mp heq)
    exact h.flush now atCall
  | render =>
    obtain ⟨rfl, -⟩ := Prod.mk.inj (Option.some_inj.mp hstep)
    exact h.render

end Hook

/-! ## The server -/

/-- The server and the messages under way from it hold samples of one kind only. -/
structure RelayHolds (P : TelemetrySample → Prop) (relay : Relay capacity) : Prop where
  history : ∀ sample ∈ relay.server.history.toArray, P sample
  underWay : ∀ client ∈ relay.clients, ∀ message ∈ client.underWay,
    ∀ sample ∈ messageSamples message, P sample

section Server

variable {relay : Relay capacity} (hover : ∀ sample, P sample → P sample.overJson)

include hover

/-- A message is read back with samples of the kind. -/
lemma holds_overJson {message : ServerMessage}
    (h : ∀ sample ∈ messageSamples message, P sample) :
    ∀ sample ∈ messageSamples message.overJson, P sample := by
  intro sample hmem
  cases message with
  | history samples metrics =>
    obtain ⟨earlier, hearlier, rfl⟩ := List.mem_map.mp hmem
    exact hover earlier (h earlier hearlier)
  | telemetry earlier metrics =>
    rw [List.mem_singleton.mp hmem]
    exact hover earlier (h earlier (List.mem_singleton_self _))
  | _ => exact absurd hmem List.not_mem_nil

/-- Messages are sent to a client. -/
lemma holds_foldl_send {client : Client}
    (hclient : ∀ message ∈ client.underWay, ∀ sample ∈ messageSamples message, P sample)
    {messages : List ServerMessage}
    (hmessages : ∀ message ∈ messages, ∀ sample ∈ messageSamples message, P sample) :
    ∀ message ∈ (messages.foldl Client.send client).underWay,
      ∀ sample ∈ messageSamples message, P sample := by
  intro message hmem
  rcases CommandLoop.mem_of_mem_foldl_send hmem with hmem | ⟨sent, hsent, rfl⟩
  · exact hclient message hmem
  · exact holds_overJson hover (hmessages sent hsent)

/-- They are sent to every client. -/
lemma holds_map_send (h : RelayHolds P relay) {messages : List ServerMessage}
    (hmessages : ∀ message ∈ messages, ∀ sample ∈ messageSamples message, P sample) :
    ∀ client ∈ relay.clients.map (messages.foldl Client.send), ∀ message ∈ client.underWay,
      ∀ sample ∈ messageSamples message, P sample := by
  intro client hmem
  obtain ⟨before, hbefore, rfl⟩ := List.mem_map.mp hmem
  exact holds_foldl_send hover (h.underWay before hbefore) hmessages

/-- A datagram is received. -/
lemma RelayHolds.datagram (h : RelayHolds P relay) {datagram : Datagram}
    (hsample : ∀ sample, datagram.sample? = some sample → P sample) :
    RelayHolds P (relay.next (.datagram datagram)) := by
  have hrecord : ∀ (server : TelemetryServer capacity) (sample : TelemetrySample),
      (∀ sample ∈ server.history.toArray, P sample) → P sample →
        ∀ kept ∈ (server.record sample).history.toArray, P kept := by
    intro server sample hserver hnew kept hmem
    rw [TelemetryServer.record, CircularBuffer.toArray_push] at hmem
    rcases List.mem_append.mp (List.mem_of_mem_drop hmem) with hmem | hmem
    · exact hserver kept hmem
    · exact List.mem_singleton.mp hmem ▸ hnew
  have hboth : (∀ sample ∈ (relay.server.acceptPacket datagram).1.history.toArray, P sample) ∧
      ∀ message ∈ (relay.server.acceptPacket datagram).2,
        ∀ sample ∈ messageSamples message, P sample := by
    cases hdecoded : datagram.sample? with
    | none =>
      rw [TelemetryServer.acceptPacket_reject _ hdecoded]
      exact ⟨h.history, fun message hmem => absurd hmem List.not_mem_nil⟩
    | some sample =>
      have hnew := hsample sample hdecoded
      cases hrestarted : relay.server.restarted sample with
      | true =>
        rw [TelemetryServer.acceptPacket_restart _ hdecoded hrestarted]
        refine ⟨hrecord _ _ (fun kept hmem => absurd hmem List.not_mem_nil) hnew,
          fun message hmem kept hkept => ?_⟩
        rcases List.mem_cons.mp hmem with rfl | hmem
        · exact absurd hkept List.not_mem_nil
        · rw [List.mem_singleton.mp hmem] at hkept
          exact List.mem_singleton.mp hkept ▸ hnew
      | false =>
        rw [TelemetryServer.acceptPacket_record _ hdecoded hrestarted]
        refine ⟨hrecord _ _ h.history hnew, fun message hmem kept hkept => ?_⟩
        rw [List.mem_singleton.mp hmem] at hkept
        exact List.mem_singleton.mp hkept ▸ hnew
  constructor
  · exact hboth.1
  · rw [CommandLoop.clients_datagram]
    exact holds_map_send hover h hboth.2

/-- Anything that happens to the server. -/
lemma RelayHolds.next (h : RelayHolds P relay) (action : Relay.Action)
    (haction : ∀ datagram, action = .datagram datagram →
      ∀ sample, datagram.sample? = some sample → P sample) : RelayHolds P (relay.next action) := by
  have hsend : ∀ message : ServerMessage, messageSamples message = [] →
      ∀ other ∈ [message], ∀ sample ∈ messageSamples other, P sample := by
    intro message hnone other hother sample hmem
    rw [List.mem_singleton.mp hother, hnone] at hmem
    exact absurd hmem List.not_mem_nil
  have hmodify : ∀ (i : ℕ) (change : Client → Client),
      (∀ client ∈ relay.clients, ∀ message ∈ (change client).underWay,
        ∀ sample ∈ messageSamples message, P sample) →
      ∀ client ∈ relay.clients.modify i change, ∀ message ∈ client.underWay,
        ∀ sample ∈ messageSamples message, P sample := by
    intro i change hchange client hmem
    obtain ⟨j, hj⟩ := List.mem_iff_getElem?.mp hmem
    obtain ⟨before, hbefore, rfl⟩ := CommandLoop.getElem?_modify_eq_some hj
    have hold := List.mem_of_getElem? hbefore
    split
    · exact hchange before hold
    · exact h.underWay before hold
  cases action with
  | connect =>
    refine ⟨h.history, fun client hmem => ?_⟩
    rcases List.mem_append.mp hmem with hmem | hmem
    · exact h.underWay client hmem
    · have hnone : ∀ message ∈ ({} : Client).underWay, ∀ sample ∈ messageSamples message,
          P sample := fun message hmem => absurd hmem List.not_mem_nil
      have hfirst : ∀ message ∈ [ServerMessage.history relay.server.history.toArray
          relay.server.metrics, .controlStatus relay.controlConnected],
          ∀ sample ∈ messageSamples message, P sample := by
        intro message hmem
        rcases List.mem_cons.mp hmem with rfl | hmem
        · exact h.history
        · exact hsend (.controlStatus _) rfl message hmem
      rw [List.mem_singleton.mp hmem]
      exact holds_foldl_send hover hnone hfirst
  | datagram datagram => exact h.datagram hover (haction datagram rfl)
  | controlStatus connected =>
    exact ⟨h.history, holds_map_send hover h (hsend (.controlStatus connected) rfl)⟩
  | commandAck id fault enabled acknowledgedAtMs =>
    exact ⟨h.history,
      holds_map_send hover h (hsend (.commandAck id fault enabled acknowledgedAtMs) rfl)⟩
  | commandError client id text =>
    exact ⟨h.history, hmodify client _ fun before hbefore =>
      holds_foldl_send hover (h.underWay before hbefore) (hsend (.commandError id text) rfl)⟩
  | deliver client =>
    refine ⟨h.history, hmodify client _ fun before hbefore message hmem => ?_⟩
    rw [Client.deliver] at hmem
    split at hmem
    · exact h.underWay before hbefore message hmem
    · next heq =>
      refine h.underWay before hbefore message ?_
      rw [heq]
      exact List.mem_cons_of_mem _ hmem
  | close client =>
    exact ⟨h.history, hmodify client _ fun before hbefore => h.underWay before hbefore⟩

end Server

/-! ## The loop -/

namespace CommandLoop

/-- Whoever holds samples holds samples of one kind only. -/
structure Holds (P : TelemetrySample → Prop) (loop : CommandLoop capacity) : Prop where
  relay : RelayHolds P loop.relay
  hooks : ∀ k, HookHolds P (loop.browsers k).hook

variable {loop loop' : CommandLoop capacity}

/-- At the start there are no samples. -/
lemma Holds.init : Holds P ({} : CommandLoop capacity) where
  relay := ⟨fun _ hmem => absurd hmem List.not_mem_nil, fun _ hmem => absurd hmem List.not_mem_nil⟩
  hooks _ := ⟨fun _ hmem => absurd hmem List.not_mem_nil,
    fun _ hmem => absurd hmem List.not_mem_nil, fun _ hmem => absurd hmem List.not_mem_nil,
    fun _ hmem => absurd hmem List.not_mem_nil⟩

/-- What holds only samples of one kind holds only samples of a wider one. -/
lemma Holds.mono {Q : TelemetrySample → Prop} (h : Holds P loop)
    (hPQ : ∀ sample, P sample → Q sample) : Holds Q loop where
  relay := ⟨fun sample hmem => hPQ sample (h.relay.history sample hmem),
    fun client hclient message hmessage sample hmem =>
      hPQ sample (h.relay.underWay client hclient message hmessage sample hmem)⟩
  hooks k := ⟨fun sample hmem => hPQ sample ((h.hooks k).pending sample hmem),
    fun updater hupdater sample hmem => hPQ sample ((h.hooks k).queue updater hupdater sample hmem),
    fun sample hmem => hPQ sample ((h.hooks k).next sample hmem),
    fun sample hmem => hPQ sample ((h.hooks k).shown sample hmem)⟩

/-- Answers and reports carry no samples. -/
lemma holds_foldl_reply (hover : ∀ sample, P sample → P sample.overJson) {relay : Relay capacity}
    (h : RelayHolds P relay) (client : ℕ) (events : List ControlLink.Event) :
    RelayHolds P (events.foldl (reply client) relay) := by
  refine List.foldlRecOn (motive := fun relay => RelayHolds P relay) events _ h
    fun relay hrelay event _ => ?_
  unfold reply
  split
  · exact hrelay.next hover _ fun _ => Relay.Action.noConfusion
  · exact hrelay

lemma holds_foldl_report (hover : ∀ sample, P sample → P sample.overJson) {relay : Relay capacity}
    (h : RelayHolds P relay) (now : ℕ) (events : List ControlLink.Event) :
    RelayHolds P (events.foldl (report now) relay) := by
  refine List.foldlRecOn (motive := fun relay => RelayHolds P relay) events _ h
    fun relay hrelay event _ => ?_
  unfold report
  split
  · exact hrelay.next hover _ fun _ => Relay.Action.noConfusion
  · exact hrelay.next hover _ fun _ => Relay.Action.noConfusion
  · exact hrelay

/-- One browser changes. -/
lemma Holds.update (h : Holds P loop) (k : ℕ) {browser : Browser}
    (hbrowser : HookHolds P browser.hook) (j : ℕ) :
    HookHolds P (Function.update loop.browsers k browser j).hook := by
  by_cases hj : j = k
  · subst hj
    rwa [Function.update_self]
  · rw [Function.update_of_ne hj]
    exact h.hooks j

/-- **Step lemma**: samples come from datagrams. -/
lemma Holds.step (hover : ∀ sample, P sample → P sample.overJson) (h : Holds P loop)
    {action : Action} {events : List Event} (hstep : loop.step action = some (loop', events))
    (haction : ∀ datagram, action = .datagram datagram →
      ∀ sample, datagram.sample? = some sample → P sample) : Holds P loop' := by
  have hrelay : ∀ action : Relay.Action, (∀ datagram, action ≠ .datagram datagram) →
      RelayHolds P (loop.relay.next action) := fun action hnone =>
    h.relay.next hover action fun datagram heq => absurd heq (hnone datagram)
  cases action with
  | connect k =>
    obtain ⟨-, heq⟩ := Option.ite_none_right_eq_some.mp hstep
    obtain ⟨rfl, -⟩ := Prod.mk.inj (Option.some_inj.mp heq)
    exact ⟨hrelay .connect fun _ => Relay.Action.noConfusion, h.update k (h.hooks k)⟩
  | opened k =>
    obtain ⟨-, heq⟩ := Option.ite_none_right_eq_some.mp hstep
    obtain ⟨rfl, -⟩ := Prod.mk.inj (Option.some_inj.mp heq)
    exact ⟨h.relay, h.update k (h.hooks k)⟩
  | lost k disposed =>
    obtain ⟨-, heq⟩ := Option.ite_none_right_eq_some.mp hstep
    obtain ⟨rfl, -⟩ := Prod.mk.inj (Option.some_inj.mp heq)
    obtain ⟨hpending, hqueue, hnext, hshown⟩ := h.hooks k
    refine ⟨h.relay, h.update k ?_⟩
    cases disposed <;> exact ⟨hpending, hqueue, hnext, hshown⟩
  | close client =>
    obtain ⟨rfl, -⟩ := Prod.mk.inj (Option.some_inj.mp hstep)
    exact ⟨hrelay (.close client) fun _ => Relay.Action.noConfusion, h.hooks⟩
  | deliver k =>
    simp only [CommandLoop.step] at hstep
    cases hsocket : (loop.browsers k).socket with
    | none =>
      rw [hsocket] at hstep
      cases hstep
    | some client =>
      rw [hsocket] at hstep
      dsimp only at hstep
      cases hclient : loop.relay.clients[client]? with
      | none =>
        rw [hclient] at hstep
        cases hstep
      | some receiver =>
        obtain ⟨isOpen, underWay, samples⟩ := receiver
        rw [hclient] at hstep
        cases underWay with
        | nil => cases hstep
        | cons message rest =>
          obtain ⟨-, heq⟩ := Option.ite_none_right_eq_some.mp hstep
          obtain ⟨rfl, -⟩ := Prod.mk.inj (Option.some_inj.mp heq)
          have hmessage := h.relay.underWay _ (List.mem_of_getElem? hclient) message
            List.mem_cons_self
          exact ⟨hrelay (.deliver client) fun _ => Relay.Action.noConfusion,
            h.update k ((h.hooks k).acceptMessage hmessage)⟩
  | frame k now atCall =>
    obtain ⟨⟨hook, messages⟩, hframe, heq⟩ := Option.map_eq_some_iff.mp hstep
    obtain ⟨rfl, -⟩ := Prod.mk.inj heq
    exact ⟨h.relay, h.update k ((h.hooks k).step hframe
      fun _ => UseTelemetry.Action.noConfusion)⟩
  | render k =>
    obtain ⟨rfl, -⟩ := Prod.mk.inj (Option.some_inj.mp hstep)
    exact ⟨h.relay, h.update k (h.hooks k).render⟩
  | send k command =>
    obtain ⟨-, heq⟩ := Option.ite_none_right_eq_some.mp hstep
    split at heq
    · obtain ⟨rfl, -⟩ := Prod.mk.inj (Option.some_inj.mp heq)
      exact h
    · split at heq
      · obtain ⟨rfl, -⟩ := Prod.mk.inj (Option.some_inj.mp heq)
        exact h
      · next hook sent hsent =>
        obtain ⟨rfl, -⟩ := Prod.mk.inj (Option.some_inj.mp heq)
        refine ⟨h.relay, h.update k ?_⟩
        obtain ⟨hpending, hqueue, hnext, hshown⟩ := h.hooks k
        rw [UseTelemetry.sendFaultCommand] at hsent
        split at hsent
        · cases hsent
        · obtain ⟨rfl, -⟩ := Prod.mk.inj hsent
          exact ⟨hpending, hqueue, hnext, hshown⟩
  | request client =>
    simp only [CommandLoop.step] at hstep
    cases hfind : loop.underWay.find? (·.1 == client) with
    | none =>
      rw [hfind] at hstep
      cases hstep
    | some found =>
      rw [hfind] at hstep
      obtain ⟨⟨link, shown⟩, -, heq⟩ := Option.map_eq_some_iff.mp hstep
      obtain ⟨rfl, -⟩ := Prod.mk.inj heq
      exact ⟨holds_foldl_reply hover h.relay client shown, h.hooks⟩
  | datagram datagram =>
    obtain ⟨rfl, -⟩ := Prod.mk.inj (Option.some_inj.mp hstep)
    exact ⟨h.relay.datagram hover (haction datagram rfl), h.hooks⟩
  | control action now =>
    cases action with
    | message parsed => cases hstep
    | _ =>
      simp only [CommandLoop.step] at hstep
      obtain ⟨⟨link, shown⟩, -, heq⟩ := Option.map_eq_some_iff.mp hstep
      obtain ⟨rfl, -⟩ := Prod.mk.inj heq
      exact ⟨holds_foldl_report hover h.relay now shown, h.hooks⟩

end CommandLoop

end FlightDeck.System
