import FlightDeck.System.ControlRuns

set_option relaxedAutoImplicit false
set_option autoImplicit false

/-!
# Commands are delivered and acknowledgements are sound

What the account of a run says of a single command: it stays pending until it is acknowledged,
it is written once on every connection that is up meanwhile, and it is acknowledged only once it
was executed.

## Main definitions

* `ControlLink.Delivery` — what is promised of the commands of a run.

## Main results

* `ControlLink.delivery` — it holds of every run.
-/

namespace FlightDeck.System

open Server Generator TransitionSystem SimulatorControlClient

/-- The lines written for commands with different ids differ. -/
lemma id_eq_of_commandLine_eq {command command' : FaultCommand} (h : Valid command)
    (h' : Valid command') (heq : commandLine command = commandLine command') :
    command.id = command'.id := by
  rw [commandLine_eq, commandLine_eq] at heq
  exact id_eq_of_commandText_eq h h' (List.append_cancel_right heq)

namespace ControlLink

/-- What is promised of the commands of a run. -/
structure Delivery (actions : List Action) (link : ControlLink) (trace : List Event) :
    Prop where
  /-- When an acknowledgement is passed on, a command with its id, fault and setting was accepted
  before, and the simulator has handled its line, which applies it to the flags. -/
  acknowledged_executed : ∀ before after id fault enabled,
    trace = before ++ .effect (.onAcknowledgement id fault enabled) :: after →
      ∃ command ∈ accepted before, command.id = id ∧ command.fault = fault ∧
        command.enabled = enabled ∧ commandText command ∈ handledLines before ∧
        ∀ faultFlags, (handleCommand faultFlags (commandText command)).1 =
          applyCommand faultFlags command
  /-- No command is acknowledged twice. -/
  acknowledged_once : ((acknowledged trace).map Prod.fst).Nodup
  /-- The pending commands are those accepted and not acknowledged yet. -/
  pending_iff : ∀ command, command ∈ link.client.pending.values ↔
    command ∈ accepted trace ∧ acknowledgementOf command ∉ acknowledged trace
  /-- A command that is pending at some moment of the run while the client is connected has been
  written once on the connection by then, and is not written on it again. -/
  written_once : ∀ earlier, earlier <+: actions → ∀ now sofar, system.run earlier = some (now, sofar) →
    ∀ k, now.client.connected = true → now.client.socket = some k →
      ∀ command ∈ now.client.pending.values,
        (written k sofar).count (commandLine command) = 1 ∧
          (written k trace).count (commandLine command) = 1
  /-- Nothing else is written, and nothing twice. -/
  written_accepted : ∀ k, (written k trace).Nodup ∧
    ∀ line ∈ written k trace, ∃ command ∈ accepted trace, line = commandLine command
  /-- A browser's command that was answered with an error is not written. -/
  refused_unwritten : ∀ value command, isFaultCommand value = some command →
    command.id ∈ refusedIds trace → ∀ k, commandLine command ∉ written k trace

section

variable {trace : List Event} {acked : ℕ} {executed : List FaultCommand} {p : ℕ}
  {link : ControlLink}

/-- The client keeps the commands that are not acknowledged. -/
lemma Account.values_eq (h : Account trace acked executed p link) :
    link.client.pending.values = (accepted trace).drop acked := by
  simp [InsertionMap.values, h.invariant.entries, Function.comp_def]

/-- Every line written on a connection is that of an accepted command. -/
lemma Account.exists_of_mem_written (h : Account trace acked executed p link) {k : ℕ}
    {line : List Char} (hline : line ∈ written k trace) :
    ∃ command ∈ accepted trace, line = commandLine command := by
  obtain ⟨commands, hpart, hwritten⟩ := h.exists_written k
  rw [hwritten] at hline
  obtain ⟨command, hmem, rfl⟩ := List.mem_map.mp hline
  exact ⟨command, hpart.subset hmem, rfl⟩

/-- No line is written twice on a connection. -/
lemma Account.nodup_written (h : Account trace acked executed p link)
    (hids : ((accepted trace).map (·.id)).Nodup) (k : ℕ) : (written k trace).Nodup := by
  obtain ⟨commands, hpart, hwritten⟩ := h.exists_written k
  rw [hwritten]
  refine List.Nodup.map_on (fun command hmem command' hmem' heq => ?_)
    (hids.of_map.sublist hpart.sublist)
  exact List.inj_on_of_nodup_map hids (hpart.subset hmem) (hpart.subset hmem')
    (id_eq_of_commandLine_eq (h.invariant.valid _ (hpart.subset hmem))
      (h.invariant.valid _ (hpart.subset hmem')) heq)

/-- A pending command was written on the connection in use. -/
lemma Account.mem_written (h : Account trace acked executed p link) {k : ℕ}
    (hconnected : link.client.connected = true) (hsocket : link.client.socket = some k)
    {command : FaultCommand} (hpending : command ∈ link.client.pending.values) :
    commandLine command ∈ written k trace := by
  obtain ⟨s, hs, hwritten⟩ := h.writtenNow k hconnected hsocket
  rw [hwritten]
  rw [h.values_eq] at hpending
  exact List.mem_map_of_mem ((List.drop_subset_drop_left _ hs) hpending)

/-- The pending commands are those that are not acknowledged. -/
lemma Account.mem_values_iff (h : Account trace acked executed p link)
    (hids : ((accepted trace).map (·.id)).Nodup) (command : FaultCommand) :
    command ∈ link.client.pending.values ↔
      command ∈ accepted trace ∧ acknowledgementOf command ∉ acknowledged trace := by
  rw [h.values_eq, h.acknowledged_eq]
  have hsplit := List.take_append_drop acked (accepted trace)
  constructor
  · intro hmem
    refine ⟨List.mem_of_mem_drop hmem, fun hack => ?_⟩
    obtain ⟨command', hmem', heq⟩ := List.mem_map.mp hack
    rw [← hsplit, List.map_append] at hids
    refine List.disjoint_of_nodup_append hids (List.mem_map_of_mem hmem') ?_
    exact List.mem_map.mpr ⟨command, hmem, (congrArg Prod.fst heq).symm⟩
  · rintro ⟨hmem, hack⟩
    rw [← hsplit] at hmem
    exact (List.mem_append.mp hmem).resolve_left fun htake => hack (List.mem_map_of_mem htake)

end

/-- **Delivery**: in every run, acknowledgements are sound and given once, no accepted command is
lost, and no refused command is written. -/
theorem delivery {actions : List Action} {link : ControlLink} {trace : List Event}
    (hrun : system.run actions = some (link, trace))
    (hids : ((accepted trace).map (·.id) ++ refusedIds trace).Nodup) :
    Delivery actions link trace := by
  have hnodup := hids.of_append_left
  obtain ⟨acked, executed, p, hacc⟩ := isInvariant.of_run hrun hnodup
  refine ⟨fun before after id fault enabled htrace => ?_, ?_, hacc.mem_values_iff hnodup,
    fun earlier hinitial now sofar hnow k hconnected hsocket command hpending => ?_,
    fun k => ⟨hacc.nodup_written hnodup k, fun line => hacc.exists_of_mem_written⟩,
    fun value command hvalue hrefused k hwritten => ?_⟩
  · obtain ⟨command, hmem, hack, hhandled⟩ := hacc.sound before after id fault enabled htrace
    simp only [acknowledgementOf, Prod.mk.injEq] at hack
    obtain ⟨rfl, rfl, rfl⟩ := hack
    have hvalid : Valid command := hacc.invariant.valid command (by
      rw [htrace, accepted_append]
      exact List.mem_append_left _ hmem)
    refine ⟨command, hmem, rfl, rfl, rfl, hhandled, fun faultFlags => ?_⟩
    rw [handleCommand_commandText hvalid]
  · rw [hacc.acknowledged_eq, List.map_map]
    exact hnodup.sublist ((List.take_sublist _ _).map _)
  · obtain ⟨later, rfl⟩ := hinitial
    obtain ⟨after, rfl⟩ := system.trace_prefix_of_run hnow hrun
    have hearlier : ((accepted sofar).map (·.id)).Nodup := by
      rw [accepted_append, List.map_append] at hnodup
      exact hnodup.of_append_left
    obtain ⟨acked', executed', p', hacc'⟩ := isInvariant.of_run hnow hearlier
    have hmem := hacc'.mem_written hconnected hsocket hpending
    refine ⟨List.count_eq_one_of_mem (hacc'.nodup_written hearlier k) hmem,
      List.count_eq_one_of_mem (hacc.nodup_written hnodup k) ?_⟩
    rw [written_append]
    exact List.mem_append_left _ hmem
  · obtain ⟨command', hmem, heq⟩ := hacc.exists_of_mem_written hwritten
    have hid := id_eq_of_commandLine_eq (isCommandId_of_isFaultCommand hvalue)
      (hacc.invariant.valid _ hmem) heq
    exact List.disjoint_of_nodup_append hids (List.mem_map.mpr ⟨command', hmem, hid.symm⟩) hrefused

/-- Three executions and two acknowledgements of two commands, and a command that was refused. -/
theorem delivery_replayedCommand : ∃ link trace,
    system.run replayedCommand = some (link, trace) ∧ (handledLines trace).length = 3 ∧
      refusedIds trace = [['c']] ∧ Delivery replayedCommand link trace := by
  have hany : (system.run replayedCommand).any (fun now =>
      (handledLines now.2).length = 3 ∧ refusedIds now.2 = [['c']] ∧
        ((accepted now.2).map (·.id) ++ refusedIds now.2).Nodup) = true := by decide +kernel
  obtain ⟨⟨link, trace⟩, hrun, hfacts⟩ := (Option.any_eq_true _ _).mp hany
  rw [decide_eq_true_eq] at hfacts
  exact ⟨link, trace, hrun, hfacts.1, hfacts.2.1, delivery hrun hfacts.2.2⟩

end ControlLink

end FlightDeck.System
