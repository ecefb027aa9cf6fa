import FlightDeck.Dashboard.CurrentFlight
import Mathlib.Data.Set.Function

set_option relaxedAutoImplicit false
set_option autoImplicit false

/-!
# The command readout

The dashboard shows one command: the one issued last, until an answer arrives. An acknowledgement
carries the whole command it is about, and replaces what is shown. An error carries at most an id;
it is merged into what is shown, and the id alone is replaced. So an error for a command that is
no longer the one shown puts its id on another command's fault and setting.

The ids are made by `crypto.randomUUID()`: texts of 36 characters.

## Main definitions

* `UseTelemetry.sendFaultCommand` — a command is issued.
* `UseTelemetry.console` — the hook under every order of commands, messages, frames and renders.
* `WellAnswered` — what the other end sends: answers to commands that were issued.
* `AnswersShown` — an error finds the fault and setting of its command in the readout.

## Main results

* `UseTelemetry.faithful_iff` — the readout never mixes two commands exactly if every error does.
* `UseTelemetry.not_faithful_overtaken` — it does after an error for the command before the last.
-/

namespace FlightDeck.Dashboard

open Server TransitionSystem

/-! ## Issuing commands -/

/-- What the operator and the server do. -/
inductive Operation where
  /-- Something happens to the hook. -/
  | hook (action : UseTelemetry.Action)
  /-- `sendFaultCommand(fault, enabled)` is called, with the id and the time it takes, while the
  socket is open or not. -/
  | send (socketOpen : Bool) (command : FaultCommand)

/-- What a run shows. -/
inductive ConsoleEvent where
  /-- A command is sent to the server. -/
  | sent (command : FaultCommand)
  /-- A message is received. -/
  | received (message : ServerMessage)

namespace UseTelemetry

/-- `sendFaultCommand`, and the command it sends. -/
def sendFaultCommand (hook : UseTelemetry) (socketOpen : Bool) (command : FaultCommand) :
    UseTelemetry × Option FaultCommand :=
  if !socketOpen || !hook.shown.controlConnected then (hook, none)
  else
    ({ hook with next := { hook.next with
        commandState := some
          { id := command.id, fault := command.fault, enabled := command.enabled,
            status := .pending } } },
      some command)

/-- One event. -/
def operate (hook : UseTelemetry) : Operation → Option (UseTelemetry × List ConsoleEvent)
  | .hook action =>
    (hook.step action).map fun result => (result.1, result.2.map .received)
  | .send socketOpen command =>
    let (hook, sent) := hook.sendFaultCommand socketOpen command
    some (hook, (sent.map .sent).toList)

/-- The hook under every order of commands, messages, animation frames and renders. -/
def console : System UseTelemetry Operation ConsoleEvent where
  init := {}
  step := operate

end UseTelemetry

/-! ## Answers -/

/-- Answers to commands: ids tell the commands that were issued anywhere apart, an acknowledgement
is about one of them, and an error with an id is about one that this dashboard has sent. -/
structure WellAnswered (issued : Set FaultCommand) (trace : List ConsoleEvent) : Prop where
  /-- Ids are distinct. -/
  distinct : Set.InjOn FaultCommand.id issued
  /-- Ids are made by `crypto.randomUUID()`. -/
  uuid : ∀ command ∈ issued, command.id.length = 36
  /-- The commands of this dashboard are among those issued. -/
  sent : ∀ command, .sent command ∈ trace → command ∈ issued
  /-- Acknowledgements. -/
  acknowledged : ∀ id fault enabled acknowledgedAtMs,
    .received (.commandAck id fault enabled acknowledgedAtMs) ∈ trace →
      ∃ command ∈ issued, command.id = id ∧ command.fault = fault ∧ command.enabled = enabled
  /-- Errors. -/
  failed : ∀ before id text, before ++ [.received (.commandError (some id) text)] <+: trace →
    ∃ command, .sent command ∈ before ∧ command.id = id

/-- An earlier moment. -/
lemma WellAnswered.of_prefix {issued : Set FaultCommand} {trace earlier : List ConsoleEvent}
    (h : WellAnswered issued trace) (hbegins : earlier <+: trace) :
    WellAnswered issued earlier where
  distinct := h.distinct
  uuid := h.uuid
  sent command hmem := h.sent command (hbegins.subset hmem)
  acknowledged id fault enabled acknowledgedAtMs hmem :=
    h.acknowledged id fault enabled acknowledgedAtMs (hbegins.subset hmem)
  failed before id text hbefore := h.failed before id text (hbefore.trans hbegins)

/-- A readout with the id of a command that was sent shows that command. -/
def Faithful (trace : List ConsoleEvent) (readout : Option CommandState) : Prop :=
  ∀ shown, readout = some shown → ∀ command, .sent command ∈ trace → shown.id = command.id →
    shown.fault = command.fault ∧ shown.enabled = command.enabled

/-- The fault and the setting that an error leaves in the readout. -/
def kept (readout : Option CommandState) : FaultType × Bool :=
  ((readout.map (·.fault)).getD .thrusterLoss, (readout.map (·.enabled)).getD false)

/-- The readout after a message. -/
def readoutAfter (readout : Option CommandState) : ServerMessage → Option CommandState
  | .commandAck id fault enabled _ => some { id, fault, enabled, status := .acknowledged }
  | .commandError id message => some
    { id := (id.or (readout.map (·.id))).getD "unknown".toList
      fault := (kept readout).1
      enabled := (kept readout).2
      status := .failed
      message := some message }
  | _ => readout

/-- The readout shows a command that was issued, or no command. -/
def Known (issued : Set FaultCommand) (readout : Option CommandState) : Prop :=
  ∀ shown, readout = some shown →
    (∃ command ∈ issued, shown.id = command.id ∧ shown.fault = command.fault ∧
      shown.enabled = command.enabled) ∨ shown.id = "unknown".toList

/-- Such a readout mixes no two commands. -/
lemma Known.faithful {issued : Set FaultCommand} {trace : List ConsoleEvent}
    (hanswered : WellAnswered issued trace) {readout : Option CommandState}
    (h : Known issued readout) : Faithful trace readout := by
  intro shown hshown command hsent hid
  have hcommand := hanswered.sent command hsent
  rcases h shown hshown with ⟨other, hother, hid', hfault, henabled⟩ | hunknown
  · obtain rfl := hanswered.distinct hother hcommand (hid'.symm.trans hid)
    exact ⟨hfault, henabled⟩
  · have hlength := hanswered.uuid command hcommand
    rw [← hid, hunknown] at hlength
    exact absurd hlength (by decide)

/-- **A message**: an acknowledgement is about an issued command, and an error keeps what it
finds, which has to be the fault and setting of its command. -/
lemma Known.readoutAfter {issued : Set FaultCommand} {trace : List ConsoleEvent}
    {message : ServerMessage} (hanswered : WellAnswered issued (trace ++ [.received message]))
    {readout : Option CommandState} (h : Known issued readout)
    (hshown : ∀ id text, message = .commandError (some id) text → ∀ command,
      .sent command ∈ trace → command.id = id →
        kept readout = (command.fault, command.enabled)) :
    Known issued (readoutAfter readout message) := by
  cases message with
  | commandAck id fault enabled acknowledgedAtMs =>
    rintro shown ⟨⟩
    obtain ⟨command, hcommand, hid, hfault, henabled⟩ :=
      hanswered.acknowledged id fault enabled acknowledgedAtMs (by simp)
    exact Or.inl ⟨command, hcommand, hid.symm, hfault.symm, henabled.symm⟩
  | commandError id text =>
    rintro shown ⟨⟩
    cases id with
    | some id =>
      obtain ⟨command, hsent, hid⟩ := hanswered.failed trace id text List.prefix_rfl
      have hkept := hshown id text rfl command hsent hid
      have hcommand := hanswered.sent command (List.mem_append_left _ hsent)
      exact Or.inl ⟨command, hcommand, hid.symm, congrArg Prod.fst hkept,
        congrArg Prod.snd hkept⟩
    | none =>
      cases readout with
      | none => exact Or.inr rfl
      | some current => exact h current rfl
  | _ => exact h

namespace UseTelemetry

/-! ## Steps -/

/-- What a message does to the readout. -/
lemma commandState_acceptMessage (hook : UseTelemetry) (message : ServerMessage) :
    (hook.acceptMessage message).next.commandState =
      readoutAfter hook.next.commandState message := by
  cases message with
  | telemetry sample metrics =>
    unfold acceptMessage
    dsimp only
    split_ifs <;> rfl
  | _ => rfl

/-- The readout as computed and as shown are of issued commands. -/
structure ReadoutKnown (issued : Set FaultCommand) (hook : UseTelemetry) : Prop where
  /-- Computed so far. -/
  next : Known issued hook.next.commandState
  /-- On the screen. -/
  shown : Known issued hook.shown.commandState

/-- What an operation does to the readout. -/
lemma operate_cases {hook hook' : UseTelemetry} {operation : Operation}
    {events : List ConsoleEvent} (h : hook.operate operation = some (hook', events)) :
    (∃ message, operation = .hook (.message message) ∧ events = [.received message] ∧
        hook'.next.commandState = readoutAfter hook.next.commandState message ∧
        hook'.shown = hook.shown) ∨
      (∃ command, events = [.sent command] ∧ hook'.next.commandState = some
          { id := command.id, fault := command.fault, enabled := command.enabled,
            status := .pending } ∧ hook'.shown = hook.shown) ∨
      (events = [] ∧ hook'.next.commandState = hook.next.commandState ∧
        (hook'.shown.commandState = hook.shown.commandState ∨
          hook'.shown.commandState = hook.next.commandState)) := by
  cases operation with
  | hook action =>
    obtain ⟨⟨result, messages⟩, hstep, heq⟩ := Option.map_eq_some_iff.mp h
    obtain ⟨rfl, rfl⟩ := Prod.mk.inj heq
    cases action with
    | message message =>
      obtain ⟨rfl, rfl⟩ := Prod.mk.inj (Option.some_inj.mp hstep)
      exact Or.inl ⟨message, rfl, rfl, commandState_acceptMessage hook message,
        shown_acceptMessage hook message⟩
    | frame now atCall =>
      obtain ⟨-, hflush⟩ := Option.ite_none_right_eq_some.mp hstep
      obtain ⟨rfl, rfl⟩ := Prod.mk.inj (Option.some_inj.mp hflush)
      obtain ⟨hshown, -, hcommand⟩ := flush_untouched hook now atCall
      exact Or.inr (Or.inr ⟨rfl, hcommand, Or.inl (by rw [hshown])⟩)
    | render =>
      obtain ⟨rfl, rfl⟩ := Prod.mk.inj (Option.some_inj.mp hstep)
      exact Or.inr (Or.inr ⟨rfl, rfl, Or.inr rfl⟩)
  | send socketOpen command =>
    simp only [operate, sendFaultCommand] at h
    split at h
    · obtain ⟨rfl, rfl⟩ := Prod.mk.inj (Option.some_inj.mp h)
      exact Or.inr (Or.inr ⟨rfl, rfl, Or.inl rfl⟩)
    · obtain ⟨rfl, rfl⟩ := Prod.mk.inj (Option.some_inj.mp h)
      exact Or.inr (Or.inl ⟨command, rfl, rfl, rfl⟩)

/-- **Step lemma**: an operation that is no error for a command other than the one shown. -/
lemma ReadoutKnown.operate {issued : Set FaultCommand} {trace events : List ConsoleEvent}
    {hook hook' : UseTelemetry} (hanswered : WellAnswered issued (trace ++ events))
    (h : ReadoutKnown issued hook) {operation : Operation}
    (hstep : hook.operate operation = some (hook', events))
    (hshown : ∀ id text, operation = .hook (.message (.commandError (some id) text)) →
      ∀ command, .sent command ∈ trace → command.id = id →
        kept hook.next.commandState = (command.fault, command.enabled)) :
    ReadoutKnown issued hook' := by
  rcases operate_cases hstep with ⟨message, rfl, rfl, hnext, hsame⟩ |
    ⟨command, rfl, hnext, hsame⟩ | ⟨-, hnext, hsame⟩
  · refine ⟨hnext ▸ h.next.readoutAfter hanswered fun id text heq => hshown id text (by rw [heq]),
      ?_⟩
    rw [hsame]
    exact h.shown
  · refine ⟨?_, by rw [hsame]; exact h.shown⟩
    rw [hnext]
    rintro shown ⟨⟩
    exact Or.inl ⟨command, hanswered.sent command (by simp), rfl, rfl, rfl⟩
  · refine ⟨hnext ▸ h.next, ?_⟩
    rcases hsame with hsame | hsame <;> rw [hsame]
    · exact h.shown
    · exact h.next

/-! ## Runs -/

/-- Throughout a run, neither the readout as computed nor the one shown mixes two commands. -/
def FaithfulThroughout (operations : List Operation) : Prop :=
  ∀ before, before <+: operations → ∀ hook trace, console.run before = some (hook, trace) →
    Faithful trace hook.next.commandState ∧ Faithful trace hook.shown.commandState

/-- Every error with an id arrives while the readout has the fault and setting of its command. -/
def AnswersShown (operations : List Operation) : Prop :=
  ∀ before id text, before ++ [.hook (.message (.commandError (some id) text))] <+: operations →
    ∀ hook trace, console.run before = some (hook, trace) → ∀ command, .sent command ∈ trace →
      command.id = id → kept hook.next.commandState = (command.fault, command.enabled)

/-- Then the readout is of issued commands throughout. -/
lemma readoutKnown_of_run {issued : Set FaultCommand} {operations : List Operation}
    (h : AnswersShown operations) {hook : UseTelemetry} {trace : List ConsoleEvent}
    (hrun : console.run operations = some (hook, trace)) (hanswered : WellAnswered issued trace) :
    ReadoutKnown issued hook := by
  induction operations using List.reverseRecOn generalizing hook trace with
  | nil =>
    obtain ⟨rfl, rfl⟩ := Prod.mk.inj (Option.some_inj.mp hrun)
    constructor <;> rintro shown ⟨⟩
  | append_singleton operations operation ih =>
    obtain ⟨hook₀, trace₀, events, hrun₀, hstep, rfl⟩ := console.run_concat_eq_some hrun
    have hknown := ih (fun before id text hbefore =>
      h before id text (hbefore.trans (List.prefix_append _ _))) hrun₀
      (hanswered.of_prefix (List.prefix_append _ _))
    refine hknown.operate hanswered hstep fun id text hop command hsent hid => ?_
    exact h operations id text (hop ▸ List.prefix_rfl) hook₀ trace₀ hrun₀ command hsent hid

/-- **The command readout**: for every order of commands and answers, it never mixes two commands
exactly if every error with an id finds the fault and the setting of its command in it.

**Proof sketch.** Sending and acknowledging put a whole command into the readout, and an error
without an id leaves the command that is there. An error with an id keeps fault and setting: after
it they are those of its command exactly if they were before. -/
theorem faithful_iff (issued : Set FaultCommand) (operations : List Operation)
    {hook : UseTelemetry} {trace : List ConsoleEvent}
    (hrun : console.run operations = some (hook, trace)) (hanswered : WellAnswered issued trace) :
    FaithfulThroughout operations ↔ AnswersShown operations := by
  have hearlier : ∀ before, before <+: operations → ∀ hook trace₀,
      console.run before = some (hook, trace₀) → WellAnswered issued trace₀ := by
    rintro before ⟨later, rfl⟩ hook trace₀ hbefore
    exact hanswered.of_prefix (console.trace_prefix_of_run hbefore hrun)
  constructor
  · intro h before id text hbefore hook trace₀ hrun₀ command hsent hid
    have hstep : console.run (before ++ [.hook (.message (.commandError (some id) text))]) =
        some (hook.acceptMessage (.commandError (some id) text),
          trace₀ ++ [.received (.commandError (some id) text)]) := by
      rw [console.run_concat, hrun₀]
      rfl
    obtain ⟨hfault, henabled⟩ := (h _ hbefore _ _ hstep).1 _
      (commandState_acceptMessage hook _) command (List.mem_append_left _ hsent) hid.symm
    exact Prod.ext hfault henabled
  · intro h before hbefore hook trace₀ hrun₀
    have hanswered₀ := hearlier before hbefore hook trace₀ hrun₀
    have hshown : AnswersShown before := fun earlier id text hbegins =>
      h earlier id text (hbegins.trans hbefore)
    have hknown := readoutKnown_of_run hshown hrun₀ hanswered₀
    exact ⟨hknown.next.faithful hanswered₀, hknown.shown.faithful hanswered₀⟩

/-! ## An error overtaken by a command -/

/-- A command to let the thruster fail. -/
def firstCommand : FaultCommand where
  id := "0d9c2f4e-6b1a-4c3d-8e5f-000000000001".toList
  fault := .thrusterLoss
  enabled := true
  issuedAtMs := 0

/-- A command to add noise. -/
def secondCommand : FaultCommand where
  id := "0d9c2f4e-6b1a-4c3d-8e5f-000000000002".toList
  fault := .sensorNoise
  enabled := true
  issuedAtMs := 0

/-- The control link is up; the operator issues the first command, and others, before the server,
whose link has gone down, answers the first one. -/
def refusedAfter (others : List FaultCommand) : List Operation :=
  [.hook (.message (.controlStatus true)), .hook .render, .send true firstCommand] ++
    others.map (.send true) ++
    [.hook (.message
      (.commandError (some firstCommand.id) "Simulator control link unavailable"))]

/-- What this shows. -/
def shownAfter (others : List FaultCommand) : List ConsoleEvent :=
  [.received (.controlStatus true), .sent firstCommand] ++ others.map .sent ++
    [.received (.commandError (some firstCommand.id) "Simulator control link unavailable")]

/-- The answer is in order. -/
lemma wellAnswered_refusedAfter {others : List FaultCommand}
    (hothers : ∀ command ∈ others, command = secondCommand) :
    WellAnswered {firstCommand, secondCommand} (shownAfter others) where
  distinct := by
    have hne : firstCommand.id ≠ secondCommand.id := by decide
    rintro a (rfl | rfl) b (rfl | rfl) hid
    · rfl
    · exact absurd hid hne
    · exact absurd hid.symm hne
    · rfl
  uuid := by
    rintro command (rfl | rfl)
    · decide
    · decide
  sent command hmem := by
    rcases List.mem_append.mp hmem with hmem | hmem
    · rcases List.mem_append.mp hmem with hmem | hmem
      · exact Or.inl (by simpa using hmem)
      · obtain ⟨other, hother, heq⟩ := List.mem_map.mp hmem
        obtain rfl := ConsoleEvent.sent.inj heq
        exact Or.inr (hothers _ hother)
    · simp at hmem
  acknowledged id fault enabled acknowledgedAtMs hmem := by simp [shownAfter] at hmem
  failed before id text hbefore := by
    rcases List.prefix_concat_iff.mp hbefore with heq | hbegins
    · obtain ⟨rfl, herror⟩ := List.append_inj' heq rfl
      have hid : some id = some firstCommand.id := by
        simp only [List.cons.injEq, ConsoleEvent.received.injEq,
          ServerMessage.commandError.injEq] at herror
        exact herror.1.1
      exact ⟨firstCommand, by simp, (Option.some_inj.mp hid).symm⟩
    · have hmem := hbegins.subset (List.mem_append_right before (List.mem_singleton_self _))
      simp at hmem

/-- Another command has taken its place in the readout: the error puts its id on that one. -/
theorem not_faithful_overtaken : ∃ (issued : Set FaultCommand) (hook : UseTelemetry)
    (trace : List ConsoleEvent), console.run (refusedAfter [secondCommand]) = some (hook, trace) ∧
      WellAnswered issued trace ∧ ¬ FaithfulThroughout (refusedAfter [secondCommand]) := by
  obtain ⟨hook, readout, hrun, hreadout, hid, hmixed⟩ : ∃ hook readout,
      console.run (refusedAfter [secondCommand]) = some (hook, shownAfter [secondCommand]) ∧
        hook.next.commandState = some readout ∧ readout.id = firstCommand.id ∧
        readout.fault = secondCommand.fault := ⟨_, _, rfl, rfl, rfl, rfl⟩
  refine ⟨_, hook, _, hrun, wellAnswered_refusedAfter (by simp), fun h => ?_⟩
  obtain ⟨hfault, -⟩ := (h _ List.prefix_rfl hook _ hrun).1 readout hreadout firstCommand
    (by simp [shownAfter]) hid
  rw [hmixed] at hfault
  exact absurd hfault (by decide)

/-- If nothing has, all is well. -/
theorem faithful_iff_prompt : ∃ (issued : Set FaultCommand) (hook : UseTelemetry)
    (trace : List ConsoleEvent), console.run (refusedAfter []) = some (hook, trace) ∧
      WellAnswered issued trace ∧ FaithfulThroughout (refusedAfter []) := by
  obtain ⟨hook, hrun⟩ : ∃ hook, console.run (refusedAfter []) = some (hook, shownAfter []) :=
    ⟨_, rfl⟩
  have hanswered : WellAnswered _ (shownAfter []) := wellAnswered_refusedAfter (by simp)
  refine ⟨_, hook, _, hrun, hanswered, (faithful_iff _ _ hrun hanswered).mpr ?_⟩
  intro before id text hbefore hook trace hrun command hsent _
  rcases List.prefix_concat_iff.mp hbefore with heq | hbegins
  · obtain ⟨rfl, -⟩ := List.append_inj' heq rfl
    obtain ⟨issuedHook, hissued, hkept⟩ : ∃ hook, console.run
        ([.hook (.message (.controlStatus true)), .hook .render, .send true firstCommand] ++ []) =
          some (hook, [.received (.controlStatus true), .sent firstCommand]) ∧
        kept hook.next.commandState = (firstCommand.fault, firstCommand.enabled) :=
      ⟨_, rfl, rfl⟩
    obtain ⟨rfl, rfl⟩ := Prod.mk.inj (Option.some_inj.mp (hissued.symm.trans hrun))
    have hcommand : command = firstCommand := by simpa using hsent
    rw [hcommand, hkept]
  · have hmem := hbegins.subset (List.mem_append_right before (List.mem_singleton_self _))
    simp at hmem

end UseTelemetry

end FlightDeck.Dashboard
