import FlightDeck.Generator.CommandLine
import FlightDeck.Generator.FlightPhases
import FlightDeck.Generator.SimulatorRuns
import FlightDeck.Generator.UdpTransmitter

set_option relaxedAutoImplicit false
set_option autoImplicit false

/-!
# The simulator process

`main` of `generator/src/main.cpp` after its arguments are read: the main thread starts the
control server and the transmitter, goes through the loop and stops the transmitter, while the
transmitter's worker thread sends what is in the queue. The two threads interleave between any two
accesses to what they share. The fault flags that a pass reads, and what the operating system
answers, are left open.

A line of the console is the state that `print_state` prints, without its layout. The control
server's own threads touch nothing else that is modelled here.

## Main definitions

* `SimulatorProcess`, `SimulatorProcess.step`, `SimulatorProcess.system` — the process.
* `SimulatorProcess.console`, `SimulatorProcess.flagsRead` — what a trace tells.
* `consoleAfter` — the lines of the console, said without a loop.
* `offeredAfter`, `omittedAfter` — the packets of some passes, and the number of those omitted.

## Main results

* `SimulatorProcess.move_of_step`, `SimulatorProcess.invariant_of_run` — what an access does, and
  what every run keeps.
* `SimulatorProcess.console_log` — what is printed, and how much.
* `SimulatorProcess.packets_accounted` — the counters that are printed at the end.
* `SimulatorProcess.loop_never_waits` — a pass does not wait for the network.
-/

namespace FlightDeck.Generator

open Simulation Protocol TransitionSystem

/-! ## The calls of the transmitter -/

/-- A call that the control thread may be in. -/
inductive TransmitterCall where
  | start
  | trySend (packet : TelemetryBytes)
  | stop
deriving DecidableEq

/-- The call that the control thread is in. -/
def ControlState.call : ControlState → Option TransmitterCall
  | .idle => none
  | .openingSocket => some .start
  | .parsingHost => some .start
  | .launching => some .start
  | .trying packet => some (.trySend packet)
  | .pushing packet => some (.trySend packet)
  | .countingQueued packet => some (.trySend packet)
  | .countingDropped packet => some (.trySend packet)
  | .joining => some .stop
  | .closing => some .stop

/-- The packet of the call, if it has one. -/
def packetsIn : Option TransmitterCall → List TelemetryBytes
  | some (.trySend packet) => [packet]
  | _ => []

namespace UdpTransmitter

/-- How a call returns. -/
def Returns : TransmitterCall → Event → Prop
  | .start, .startReturned _ => True
  | .trySend packet, .trySendReturned packet' _ => packet' = packet
  | .stop, .stopReturned => True
  | _, _ => False

section Calls

variable {t t' : UdpTransmitter} {trace events : List Event} {hostIsAddress : Bool}

lemma call_eq_none_iff {control : ControlState} : control.call = none ↔ control = .idle := by
  cases control <;> simp [ControlState.call]

@[simp] lemma call_afterPush (packet : TelemetryBytes)
    (events : List (SpscRingBuffer.Event TelemetryBytes)) :
    (afterPush packet events).call = some (.trySend packet) := by
  unfold afterPush
  split <;> rfl

/-- Something is done that is no new call. -/
inductive IsInside : Action → Prop where
  | socket (result : Except String ℕ) : IsInside (.socket result)
  | control : IsInside .control
  | sendto (bytesSent : ℤ) : IsInside (.sendto bytesSent)
  | worker : IsInside .worker

/-- What may be heard while no call returns. -/
def IsQuiet (events : List Event) : Prop :=
  events = [] ∨ ∃ packet bytesSent, events = [.handed packet bytesSent]

/-- The control thread goes on with its call, or returns from it. -/
lemma controlStep_cases (hstep : t.controlStep hostIsAddress = some (t', events)) :
    (t'.control.call = t.control.call ∧ IsQuiet events) ∨
      ∃ call event, t.control.call = some call ∧ t'.control = .idle ∧ events = [event] ∧
        Returns call event := by
  cases hpc : t.control with
  | idle => simp [controlStep, hpc] at hstep
  | openingSocket => simp [controlStep, hpc] at hstep
  | parsingHost =>
    simp only [controlStep, hpc] at hstep
    split at hstep <;> cases hstep
    · exact Or.inl ⟨rfl, Or.inl rfl⟩
    · exact Or.inr ⟨.start, _, rfl, rfl, rfl, trivial⟩
  | launching =>
    simp only [controlStep, hpc] at hstep
    cases hstep
    exact Or.inr ⟨.start, _, rfl, rfl, rfl, trivial⟩
  | trying packet =>
    simp only [controlStep, hpc, Option.map_eq_some_iff] at hstep
    obtain ⟨⟨queue, _⟩, -, heq⟩ := hstep
    cases heq
    exact Or.inl ⟨rfl, Or.inl rfl⟩
  | pushing packet =>
    simp only [controlStep, hpc, Option.map_eq_some_iff] at hstep
    obtain ⟨⟨queue, queueEvents⟩, -, heq⟩ := hstep
    cases heq
    exact Or.inl ⟨call_afterPush packet queueEvents, Or.inl rfl⟩
  | countingQueued packet =>
    simp only [controlStep, hpc] at hstep
    cases hstep
    exact Or.inr ⟨.trySend packet, _, rfl, rfl, rfl, rfl⟩
  | countingDropped packet =>
    simp only [controlStep, hpc] at hstep
    cases hstep
    exact Or.inr ⟨.trySend packet, _, rfl, rfl, rfl, rfl⟩
  | joining =>
    simp only [controlStep, hpc] at hstep
    split at hstep <;> cases hstep
    · exact Or.inl ⟨rfl, Or.inl rfl⟩
    · exact Or.inl ⟨rfl, Or.inl rfl⟩
  | closing =>
    simp only [controlStep, hpc] at hstep
    cases hstep
    exact Or.inr ⟨.stop, _, rfl, rfl, rfl, trivial⟩

/-- The worker thread leaves the call alone. -/
lemma workerStep_call (hstep : t.workerStep = some (t', events)) :
    t'.control = t.control ∧ events = [] := by
  cases hpc : t.worker with
  | none => simp [workerStep, hpc] at hstep
  | sending packet => simp [workerStep, hpc] at hstep
  | finished => simp [workerStep, hpc] at hstep
  | testingRunning =>
    simp only [workerStep, hpc] at hstep
    cases hstep
    exact ⟨rfl, rfl⟩
  | counting complete =>
    cases complete <;> simp only [workerStep, hpc] at hstep <;> cases hstep
    · exact ⟨rfl, rfl⟩
    · exact ⟨rfl, rfl⟩
  | _ =>
    simp only [workerStep, hpc, Option.map_eq_some_iff] at hstep
    obtain ⟨⟨queue, _⟩, -, heq⟩ := hstep
    cases heq
    exact ⟨rfl, rfl⟩

/-- Whatever is done that is no new call, the call goes on or returns. -/
lemma step_cases_of_isInside {action : Action} (hinside : IsInside action)
    (hstep : t.step hostIsAddress action = some (t', events)) :
    (t'.control.call = t.control.call ∧ IsQuiet events) ∨
      ∃ call event, t.control.call = some call ∧ t'.control = .idle ∧ events = [event] ∧
        Returns call event := by
  cases hinside with
  | control => exact controlStep_cases hstep
  | worker =>
    obtain ⟨hcontrol, hevents⟩ := workerStep_call hstep
    exact Or.inl ⟨by rw [hcontrol], Or.inl hevents⟩
  | sendto bytesSent =>
    simp only [step] at hstep
    split at hstep <;> cases hstep
    exact Or.inl ⟨rfl, Or.inr ⟨_, _, rfl⟩⟩
  | socket result =>
    simp only [step] at hstep
    split at hstep
    · next hpc =>
      rw [hpc]
      cases result <;> cases hstep
      · exact Or.inr ⟨.start, _, rfl, rfl, rfl, trivial⟩
      · exact Or.inl ⟨rfl, Or.inl rfl⟩
    · cases hstep

/-! ## Order of the accepted packets -/

/-- The packets accepted so far are some of those offered, in order. -/
def InOrder (trace : List Event) (call : Option TransmitterCall) : Prop :=
  ∃ earlier, offered trace = earlier ++ packetsIn call ∧ (accepted trace).Sublist earlier

/-- Nothing that matters is heard. -/
lemma notes_of_isQuiet (hquiet : IsQuiet events) (trace : List Event) :
    notes (trace ++ events) = notes trace ∧ accepted (trace ++ events) = accepted trace := by
  rcases hquiet with rfl | ⟨packet, bytesSent, rfl⟩
  · rw [List.append_nil]
    exact ⟨rfl, rfl⟩
  · rw [notes_append, accepted_append]
    exact ⟨rfl, List.append_nil _⟩

/-- A call returns. -/
lemma InOrder.of_returns {call : TransmitterCall} {event : Event}
    (h : InOrder trace (some call)) (hreturns : Returns call event) :
    InOrder (trace ++ [event]) none := by
  obtain ⟨earlier, hoffered, haccepted⟩ := h
  refine ⟨earlier ++ packetsIn (some call), ?_, ?_⟩
  · rw [show packetsIn none = [] from rfl, List.append_nil, ← hoffered, offered, notes_append]
    cases call <;> cases event <;> first | rfl | exact hreturns.elim
  · rw [accepted_append]
    apply haccepted.append
    cases call with
    | start => cases event <;> first | exact List.nil_sublist _ | exact hreturns.elim
    | stop => cases event <;> first | exact List.nil_sublist _ | exact hreturns.elim
    | trySend packet =>
      cases event with
      | trySendReturned packet' result =>
        obtain rfl : packet' = packet := hreturns
        cases result with
        | true => exact List.Sublist.refl _
        | false => exact List.nil_sublist _
      | _ => exact hreturns.elim

/-- Any access. -/
lemma InOrder.step (h : InOrder trace t.control.call) (hinv : Invariant trace t)
    {action : Action} (hstep : t.step hostIsAddress action = some (t', events)) :
    InOrder (trace ++ events) t'.control.call := by
  have hinside : IsInside action → InOrder (trace ++ events) t'.control.call := by
    intro hinside
    rcases step_cases_of_isInside hinside hstep with ⟨hcall, hquiet⟩ |
      ⟨call, event, hcall, hidle, rfl, hreturns⟩
    · obtain ⟨hnotes, haccepted⟩ := notes_of_isQuiet hquiet trace
      obtain ⟨earlier, hoffered, hsublist⟩ := h
      exact ⟨earlier, by rw [offered, hnotes, hcall, ← hoffered, offered],
        by rw [haccepted]; exact hsublist⟩
    · rw [hcall] at h
      rw [hidle]
      exact h.of_returns hreturns
  cases action with
  | socket result => exact hinside (.socket result)
  | control => exact hinside .control
  | sendto bytesSent => exact hinside (.sendto bytesSent)
  | worker => exact hinside .worker
  | start =>
    simp only [UdpTransmitter.step] at hstep
    split at hstep
    · next hpc =>
      rw [hpc] at h
      obtain ⟨earlier, hoffered, hsublist⟩ := h
      split at hstep <;> cases hstep
      · refine ⟨earlier, ?_, ?_⟩
        · rw [hpc, ← hoffered, offered, notes_append]
          rfl
        · rw [accepted_append]
          exact (List.append_nil _).symm ▸ hsublist
      · exact ⟨earlier, by rw [List.append_nil]; exact hoffered,
          by rw [List.append_nil]; exact hsublist⟩
    · cases hstep
  | stop =>
    simp only [UdpTransmitter.step] at hstep
    split at hstep <;> cases hstep
    next hpc =>
      rw [hpc] at h
      obtain ⟨earlier, hoffered, hsublist⟩ := h
      refine ⟨earlier, ?_, ?_⟩
      · rw [offered, notes_append]
        exact hoffered
      · rw [accepted_append]
        exact (List.append_nil _).symm ▸ hsublist
  | trySend packet =>
    simp only [UdpTransmitter.step] at hstep
    split at hstep
    · next hpc =>
      have hstarted : (notes trace).1 = t.running := by
        have hisStarted : (notes trace).1 = _ := hinv.isStarted
        rw [hisStarted, hpc]
        simp [ControlState.isLaunching]
      rw [hpc] at h
      obtain ⟨earlier, hoffered, hsublist⟩ := h
      rw [show packetsIn ControlState.idle.call = [] from rfl, List.append_nil, offered] at hoffered
      split at hstep <;> cases hstep
      · next hrunning =>
        refine ⟨earlier, ?_, ?_⟩
        · rw [offered, notes_append]
          simp [note, hstarted, hrunning, hoffered, ControlState.call, packetsIn]
        · rw [accepted_append]
          exact (List.append_nil _).symm ▸ hsublist
      · next hrunning =>
        refine ⟨earlier, ?_, ?_⟩
        · rw [offered, notes_append]
          simp [note, hstarted, hrunning, hoffered, hpc, ControlState.call, packetsIn]
        · rw [accepted_append]
          exact (List.append_nil _).symm ▸ hsublist
    · cases hstep

/-- **Run lemma**: the packets accepted are some of those offered, in order. -/
lemma isInOrder (hostIsAddress : Bool) :
    (system hostIsAddress).IsInvariant fun trace t =>
      Invariant trace t ∧ InOrder trace t.control.call :=
  (isInvariant hostIsAddress).and {
    start := ⟨[], rfl, List.Sublist.refl _⟩
    keep := fun _ _ _ _ _ hinv h hstep => h.step hinv hstep }

end Calls

end UdpTransmitter

/-! ## The main thread -/

/-- Where the main thread stands. -/
inductive MainState where
  /-- The control server is started next, if it is enabled. -/
  | startingControl
  /-- The transmitter is started next, if the network is enabled. -/
  | startingTransmitter
  /-- In `transmitter.start`. -/
  | inStart
  /-- The condition of the loop is tested next. -/
  | looping
  /-- In `transmitter.try_send`. -/
  | inTrySend
  /-- The loop has ended; `transmitter.stop` is called next. -/
  | stopping
  /-- In `transmitter.stop`. -/
  | inStop
  /-- `main` has returned. -/
  | exited (status : ℕ)
deriving DecidableEq

/-- The loop is behind. -/
def MainState.IsAfterLoop : MainState → Prop
  | .stopping => True
  | .inStop => True
  | .exited 0 => True
  | _ => False

/-- The variables of `main`, and where it stands. -/
structure SimulatorProcess where
  /-- `simulation` and `step_count`. -/
  simulator : Simulator := .start
  /-- `last_printed_phase`. -/
  lastPrintedPhase : Simulation.MissionPhase := .prelaunch
  /-- `transmitter`, with its worker. -/
  transmitter : UdpTransmitter := {}
  /-- The main thread. -/
  main : MainState := .startingControl

namespace SimulatorProcess

variable [Libm] (arguments : Arguments) (process : SimulatorProcess)

/-- What happens next. -/
inductive Action where
  /-- `control_server.start` returns, or fails with its text. -/
  | startControl (result : Except String Unit)
  /-- The main thread goes on; a pass through the loop reads these flags. -/
  | main (faultFlags : BitVec 32)
  /-- `socket` returns a descriptor or an error with its text. -/
  | socket (result : Except String ℕ)
  /-- The main thread goes on inside of a call of the transmitter. -/
  | control
  /-- `sendto` returns. -/
  | sendto (bytesSent : ℤ)
  /-- The worker thread goes on. -/
  | worker

/-- What can be told from outside. -/
inductive Event where
  /-- Something happens in the transmitter. -/
  | transmitter (event : UdpTransmitter.Event)
  /-- A pass has read the fault flags. -/
  | passed (faultFlags : BitVec 32)
  /-- `print_state` is called. -/
  | printed (state : FlightState Float)
  /-- The last lines: has the vehicle landed, after how many steps, and the transmitter's counters
  if the network is enabled. -/
  | summary (landed : Bool) (steps : BitVec 64) (stats : Option TransmitterStats)
  /-- A line on the error output. -/
  | failed (message : String)

/-- The packet of the step that was just made, as it is given to the transmitter. -/
def bytesOf (simulator : Simulator) (options : Options) (faultFlags : BitVec 32) :
    TelemetryBytes :=
  let packet := serialize (simulator.telemetry faultFlags)
  if options.corruptOnce && simulator.stepCount == 250 then
    ⟨Simulator.corrupt packet.1, by rw [Simulator.corrupt, List.length_modify, packet.2]⟩
  else packet

/-- `intentional_drop`. -/
def intentionalDrop (simulator : Simulator) (faultFlags : BitVec 32) : Bool :=
  faultFlags &&& kPacketLoss ≠ 0 && simulator.stepCount % 10 == 0

/-- The end of a pass: the console. -/
def finishPass : SimulatorProcess × List Event :=
  let state := process.simulator.simulation.state
  let oneSecondElapsed := process.simulator.stepCount % 100 == 0
  let phaseChanged := state.phase != process.lastPrintedPhase
  if oneSecondElapsed || phaseChanged then
    ({ process with lastPrintedPhase := state.phase, main := .looping }, [.printed state])
  else ({ process with main := .looping }, [])

/-- The statements between the start of the transmitter and the loop. -/
def enterLoop : SimulatorProcess × List Event :=
  let state := process.simulator.simulation.state
  ({ process with lastPrintedPhase := state.phase, main := .looping }, [.printed state])

/-- The statements after `transmitter.stop`. -/
def finish : SimulatorProcess × List Event :=
  ({ process with main := .exited 0 },
    [.summary (process.simulator.simulation.state.phase == .landed) process.simulator.stepCount
      (if arguments.networkEnabled then some process.transmitter.stats else none)])

/-- Where the main thread goes on when a call of the transmitter may have returned. -/
def resume (returned : Option UdpTransmitter.Event) : SimulatorProcess × List Event :=
  match process.main, returned with
  | .inStart, some (.startReturned true) => process.enterLoop
  | .inStart, some (.startReturned false) =>
    ({ process with main := .exited 1 },
      [.failed ("Unable to start UDP transmitter: " ++ process.transmitter.errorMessage)])
  | .inTrySend, some (.trySendReturned _ _) => process.finishPass
  | .inStop, some .stopReturned => process.finish arguments
  | _, _ => (process, [])

/-- Something is done in the transmitter. The host is an IPv4 address. -/
def transmit (action : UdpTransmitter.Action) : Option (SimulatorProcess × List Event) :=
  (process.transmitter.step true action).map fun (transmitter, events) =>
    let (process, later) := { process with transmitter }.resume arguments events.getLast?
    (process, events.map .transmitter ++ later)

/-- One pass through the loop, up to the call of `try_send`. -/
def pass (faultFlags : BitVec 32) : Option (SimulatorProcess × List Event) :=
  let simulator := process.simulator.advance faultFlags
  let process := { process with simulator }
  let passed := Event.passed faultFlags
  if arguments.networkEnabled && !intentionalDrop simulator faultFlags then
    ({ process with main := .inTrySend }.transmit arguments
      (.trySend (bytesOf simulator arguments.options faultFlags))).map fun (process, events) =>
        (process, passed :: events)
  else
    let (process, events) := process.finishPass
    some (process, passed :: events)

/-- The main thread goes on outside of the transmitter. -/
def mainStep (faultFlags : BitVec 32) : Option (SimulatorProcess × List Event) :=
  match process.main with
  | .startingControl =>
    if arguments.controlEnabled then none
    else some ({ process with main := .startingTransmitter }, [])
  | .startingTransmitter =>
    if arguments.networkEnabled then
      { process with main := .inStart }.transmit arguments .start
    else some process.enterLoop
  | .looping =>
    if process.simulator.running arguments.options then process.pass arguments faultFlags
    else some ({ process with main := .stopping }, [])
  | .stopping => { process with main := .inStop }.transmit arguments .stop
  | _ => none

/-- One access of one of the threads. -/
def step : Action → Option (SimulatorProcess × List Event)
  | .startControl result =>
    match process.main with
    | .startingControl =>
      if arguments.controlEnabled then
        match result with
        | .ok () => some ({ process with main := .startingTransmitter }, [])
        | .error text =>
          some ({ process with main := .exited 1 },
            [.failed ("Unable to start control server: " ++ text)])
      else none
    | _ => none
  | .main faultFlags => process.mainStep arguments faultFlags
  | .socket result => process.transmit arguments (.socket result)
  | .control => process.transmit arguments .control
  | .sendto bytesSent => process.transmit arguments (.sendto bytesSent)
  | .worker => process.transmit arguments .worker

/-- The process under every interleaving of its threads. -/
def system : System SimulatorProcess Action Event where
  init := {}
  step process := process.step arguments

/-! ## Traces -/

/-- What happened in the transmitter. -/
def transmitterEvent : Event → Option UdpTransmitter.Event
  | .transmitter event => some event
  | _ => none

/-- The flags that the passes have read, in order. -/
def flagsRead (trace : List Event) : List (BitVec 32) :=
  trace.filterMap fun
    | .passed faultFlags => some faultFlags
    | _ => none

/-- The lines of the console, but for the summary. -/
def console (trace : List Event) : List (FlightState Float) :=
  trace.filterMap fun
    | .printed state => some state
    | _ => none

omit [Libm] in
@[simp] lemma flagsRead_append (trace events : List Event) :
    flagsRead (trace ++ events) = flagsRead trace ++ flagsRead events := List.filterMap_append

omit [Libm] in
@[simp] lemma console_append (trace events : List Event) :
    console (trace ++ events) = console trace ++ console events := List.filterMap_append

omit [Libm] in
/-- What happens in the transmitter is heard there, and only there. -/
@[simp] lemma filterMap_transmitter (events : List UdpTransmitter.Event) :
    (events.map Event.transmitter).filterMap transmitterEvent = events ∧
      flagsRead (events.map .transmitter) = [] ∧ console (events.map .transmitter) = [] := by
  induction events with
  | nil => exact ⟨rfl, rfl, rfl⟩
  | cons event events ih =>
    obtain ⟨hown, hflags, hconsole⟩ := ih
    refine ⟨?_, hflags, hconsole⟩
    rw [List.map_cons, List.filterMap_cons, hown]
    rfl

/-! ## What an access does -/

/-- The main thread is in a call of the transmitter exactly while the control thread of the
transmitter is, and the transmitter is started while the loop runs, if the network is enabled. -/
def CallFacts (arguments : Arguments) (started : Bool) (call : Option TransmitterCall) :
    MainState → Prop
  | .startingControl => call = none ∧ started = false
  | .startingTransmitter => call = none ∧ started = false
  | .inStart => call = some .start ∧ arguments.networkEnabled = true
  | .looping => call = none ∧ started = arguments.networkEnabled
  | .inTrySend =>
    (∃ packet, call = some (.trySend packet)) ∧ started = true ∧ arguments.networkEnabled = true
  | .stopping => call = none ∧ started = arguments.networkEnabled
  | .inStop => call = some .stop ∧ started = false
  | .exited _ => call = none

/-- What an access does, in terms of the calls. -/
inductive Move : SimulatorProcess → List Event → Prop
  /-- The control server is started, or disabled. -/
  | controlStarted (h : process.main = .startingControl) :
    Move { process with main := .startingTransmitter } []
  /-- The control server cannot be started. -/
  | controlFailed (h : process.main = .startingControl) (text : String) :
    Move { process with main := .exited 1 }
      [.failed ("Unable to start control server: " ++ text)]
  /-- The network is disabled. -/
  | offline (h : process.main = .startingTransmitter)
      (hnetwork : arguments.networkEnabled = false) :
    Move process.enterLoop.1 process.enterLoop.2
  /-- The transmitter is started. -/
  | start (h : process.main = .startingTransmitter) (hnetwork : arguments.networkEnabled = true)
      (transmitter : UdpTransmitter) (hcall : transmitter.control.call = some .start) :
    Move { process with transmitter, main := .inStart } []
  /-- It has started. -/
  | started (h : process.main = .inStart) (transmitter : UdpTransmitter)
      (hcall : transmitter.control.call = none) :
    Move { process with transmitter }.enterLoop.1
      (.transmitter (.startReturned true) :: { process with transmitter }.enterLoop.2)
  /-- It has not. -/
  | startFailed (h : process.main = .inStart) (transmitter : UdpTransmitter)
      (hcall : transmitter.control.call = none) :
    Move { process with transmitter, main := .exited 1 }
      [.transmitter (.startReturned false),
        .failed ("Unable to start UDP transmitter: " ++ transmitter.errorMessage)]
  /-- A pass that sends nothing. -/
  | passed (h : process.main = .looping)
      (hrunning : process.simulator.running arguments.options = true) (faultFlags : BitVec 32)
      (hquiet : (arguments.networkEnabled &&
        !intentionalDrop (process.simulator.advance faultFlags) faultFlags) = false) :
    Move { process with simulator := process.simulator.advance faultFlags }.finishPass.1
      (.passed faultFlags ::
        { process with simulator := process.simulator.advance faultFlags }.finishPass.2)
  /-- A pass that calls `try_send`. -/
  | trySend (h : process.main = .looping)
      (hrunning : process.simulator.running arguments.options = true) (faultFlags : BitVec 32)
      (hsent : (arguments.networkEnabled &&
        !intentionalDrop (process.simulator.advance faultFlags) faultFlags) = true)
      (transmitter : UdpTransmitter)
      (hcall : transmitter.control.call = some (.trySend
        (bytesOf (process.simulator.advance faultFlags) arguments.options faultFlags))) :
    Move
      { process with
        simulator := process.simulator.advance faultFlags
        transmitter
        main := .inTrySend }
      [.passed faultFlags, .transmitter (.trySendCalled
        (bytesOf (process.simulator.advance faultFlags) arguments.options faultFlags))]
  /-- `try_send` returns. -/
  | trySendReturned (h : process.main = .inTrySend) (packet : TelemetryBytes) (result : Bool)
      (transmitter : UdpTransmitter) (hcall : transmitter.control.call = none) :
    Move { process with transmitter }.finishPass.1
      (.transmitter (.trySendReturned packet result) :: { process with transmitter }.finishPass.2)
  /-- The loop ends. -/
  | ended (h : process.main = .looping)
      (hrunning : process.simulator.running arguments.options = false) :
    Move { process with main := .stopping } []
  /-- The transmitter is stopped. -/
  | stop (h : process.main = .stopping) (transmitter : UdpTransmitter)
      (hcall : transmitter.control.call = some .stop) :
    Move { process with transmitter, main := .inStop } [.transmitter .stopCalled]
  /-- It has stopped. -/
  | stopped (h : process.main = .inStop) (transmitter : UdpTransmitter)
      (hcall : transmitter.control.call = none) :
    Move ({ process with transmitter }.finish arguments).1
      (.transmitter .stopReturned :: ({ process with transmitter }.finish arguments).2)
  /-- Something is done that no call returns from. -/
  | inside (transmitter : UdpTransmitter) (events : List UdpTransmitter.Event)
      (hcall : transmitter.control.call = process.transmitter.control.call)
      (hquiet : UdpTransmitter.IsQuiet events) :
    Move { process with transmitter } (events.map .transmitter)

section Moves

variable {arguments process} {process' : SimulatorProcess} {trace events : List Event}

/-- Something is done in the transmitter that is no new call. -/
lemma move_of_isInside {started : Bool}
    (hcalls : CallFacts arguments started process.transmitter.control.call process.main)
    {action : UdpTransmitter.Action} (hinside : UdpTransmitter.IsInside action)
    (hstep : process.transmit arguments action = some (process', events)) :
    Move arguments process process' events := by
  rw [transmit, Option.map_eq_some_iff] at hstep
  obtain ⟨⟨transmitter, own⟩, hown, heq⟩ := hstep
  rcases UdpTransmitter.step_cases_of_isInside hinside hown with ⟨hcall, hquiet⟩ |
    ⟨call, event, hcall, hidle, rfl, hreturns⟩
  · have hresume : { process with transmitter }.resume arguments own.getLast? =
        ({ process with transmitter }, []) := by
      rcases hquiet with rfl | ⟨packet, bytesSent, rfl⟩
      · cases process.main <;> rfl
      · cases process.main <;> rfl
    dsimp only at heq
    rw [hresume] at heq
    obtain ⟨rfl, rfl⟩ := Prod.mk.inj heq
    rw [List.append_nil]
    exact .inside transmitter own hcall hquiet
  · have hnone : transmitter.control.call = none := by rw [hidle]; rfl
    rw [hcall] at hcalls
    cases hmain : process.main with
    | startingControl => rw [hmain] at hcalls; exact absurd hcalls.1 (Option.some_ne_none _)
    | startingTransmitter => rw [hmain] at hcalls; exact absurd hcalls.1 (Option.some_ne_none _)
    | looping => rw [hmain] at hcalls; exact absurd hcalls.1 (Option.some_ne_none _)
    | stopping => rw [hmain] at hcalls; exact absurd hcalls.1 (Option.some_ne_none _)
    | exited status => rw [hmain] at hcalls; exact absurd hcalls (Option.some_ne_none _)
    | inStart =>
      rw [hmain] at hcalls
      obtain rfl : call = .start := Option.some_inj.mp hcalls.1
      cases event with
      | startReturned result =>
        cases result with
        | true =>
          simp only [List.getLast?_singleton, resume, hmain] at heq
          obtain ⟨rfl, rfl⟩ := Prod.mk.inj heq
          exact .started hmain transmitter hnone
        | false =>
          simp only [List.getLast?_singleton, resume, hmain] at heq
          obtain ⟨rfl, rfl⟩ := Prod.mk.inj heq
          exact .startFailed hmain transmitter hnone
      | _ => exact hreturns.elim
    | inTrySend =>
      rw [hmain] at hcalls
      obtain ⟨⟨packet, hpacket⟩, -⟩ := hcalls
      obtain rfl : call = .trySend packet := Option.some_inj.mp hpacket
      cases event with
      | trySendReturned packet' result =>
        simp only [List.getLast?_singleton, resume, hmain] at heq
        obtain ⟨rfl, rfl⟩ := Prod.mk.inj heq
        exact .trySendReturned hmain packet' result transmitter hnone
      | _ => exact hreturns.elim
    | inStop =>
      rw [hmain] at hcalls
      obtain rfl : call = .stop := Option.some_inj.mp hcalls.1
      cases event with
      | stopReturned =>
        simp only [List.getLast?_singleton, resume, hmain] at heq
        obtain ⟨rfl, rfl⟩ := Prod.mk.inj heq
        exact .stopped hmain transmitter hnone
      | _ => exact hreturns.elim

omit [Libm] in
/-- The transmitter's side of a call that is made. -/
lemma step_of_call_none {own : List UdpTransmitter.Event} {t : UdpTransmitter}
    (hinv : UdpTransmitter.Invariant own t) (hcall : t.control.call = none) :
    t.control = .idle ∧ t.running = UdpTransmitter.started own := by
  have hidle := UdpTransmitter.call_eq_none_iff.mp hcall
  refine ⟨hidle, ?_⟩
  rw [hinv.isStarted, hidle]
  simp [ControlState.isLaunching]

/-- The main thread goes on outside of the transmitter. -/
lemma move_of_mainStep {own : List UdpTransmitter.Event}
    (hinv : UdpTransmitter.Invariant own process.transmitter)
    (hcalls : CallFacts arguments (UdpTransmitter.started own) process.transmitter.control.call
      process.main) {faultFlags : BitVec 32}
    (hstep : process.mainStep arguments faultFlags = some (process', events)) :
    Move arguments process process' events := by
  unfold mainStep at hstep
  cases hmain : process.main with
  | startingControl =>
    simp only [hmain] at hstep
    split at hstep <;> cases hstep
    exact .controlStarted hmain
  | startingTransmitter =>
    rw [hmain] at hcalls
    obtain ⟨hidle, hrunning⟩ := step_of_call_none hinv hcalls.1
    rw [hcalls.2] at hrunning
    simp only [hmain] at hstep
    split at hstep
    · next hnetwork =>
      simp only [transmit, UdpTransmitter.step, hidle, hrunning, Bool.false_eq_true, if_false,
        Option.map_some] at hstep
      cases hstep
      exact .start hmain hnetwork _ rfl
    · next hnetwork =>
      cases hstep
      exact .offline hmain (Bool.eq_false_iff.mpr hnetwork)
  | looping =>
    rw [hmain] at hcalls
    obtain ⟨hidle, hrunning⟩ := step_of_call_none hinv hcalls.1
    rw [hcalls.2] at hrunning
    simp only [hmain] at hstep
    split at hstep
    · next hloop =>
      unfold pass at hstep
      dsimp only at hstep
      split at hstep
      · next hsent =>
        have hnetwork : process.transmitter.running = true := by
          rw [hrunning]
          exact (Bool.and_eq_true_iff.mp hsent).1
        simp only [transmit, UdpTransmitter.step, hidle, hnetwork, if_true, Option.map_some]
          at hstep
        cases hstep
        exact .trySend hmain hloop faultFlags hsent _ rfl
      · next hquiet =>
        cases hstep
        exact .passed hmain hloop faultFlags (Bool.eq_false_iff.mpr hquiet)
    · next hloop =>
      cases hstep
      exact .ended hmain (Bool.eq_false_iff.mpr hloop)
  | stopping =>
    rw [hmain] at hcalls
    obtain ⟨hidle, -⟩ := step_of_call_none hinv hcalls.1
    simp only [hmain, transmit, UdpTransmitter.step, hidle, Option.map_some] at hstep
    cases hstep
    exact .stop hmain _ rfl
  | inStart => simp [hmain] at hstep
  | inTrySend => simp [hmain] at hstep
  | inStop => simp [hmain] at hstep
  | exited status => simp [hmain] at hstep

/-- **Inversion lemma**: every access is one of the moves. -/
lemma move_of_step {own : List UdpTransmitter.Event}
    (hinv : UdpTransmitter.Invariant own process.transmitter)
    (hcalls : CallFacts arguments (UdpTransmitter.started own) process.transmitter.control.call
      process.main) {action : Action}
    (hstep : process.step arguments action = some (process', events)) :
    Move arguments process process' events := by
  cases action with
  | main faultFlags => exact move_of_mainStep hinv hcalls hstep
  | socket result => exact move_of_isInside hcalls (.socket result) hstep
  | control => exact move_of_isInside hcalls .control hstep
  | sendto bytesSent => exact move_of_isInside hcalls (.sendto bytesSent) hstep
  | worker => exact move_of_isInside hcalls .worker hstep
  | startControl result =>
    cases hmain : process.main with
    | startingControl =>
      simp only [step, hmain] at hstep
      split at hstep
      · cases result with
        | ok started =>
          cases hstep
          exact .controlStarted hmain
        | error text =>
          cases hstep
          exact .controlFailed hmain text
      · cases hstep
    | _ =>
      simp only [step, hmain] at hstep
      cases hstep

omit [Libm] in
/-- The main thread leaves the transmitter alone when it goes on. -/
lemma resume_transmitter (arguments : Arguments) (process : SimulatorProcess)
    (returned : Option UdpTransmitter.Event) :
    (process.resume arguments returned).1.transmitter = process.transmitter ∧
      (process.resume arguments returned).2.filterMap transmitterEvent = [] := by
  unfold resume
  split
  · exact ⟨rfl, rfl⟩
  · exact ⟨rfl, rfl⟩
  · unfold finishPass
    dsimp only
    split <;> exact ⟨rfl, rfl⟩
  · exact ⟨rfl, rfl⟩
  · exact ⟨rfl, rfl⟩

omit [Libm] in
/-- What is done in the transmitter is done by the transmitter. -/
lemma step_of_transmit {action : UdpTransmitter.Action}
    (hstep : process.transmit arguments action = some (process', events)) :
    process.transmitter.step true action =
      some (process'.transmitter, events.filterMap transmitterEvent) := by
  rw [transmit, Option.map_eq_some_iff] at hstep
  obtain ⟨⟨transmitter, own⟩, hown, heq⟩ := hstep
  obtain ⟨hsame, hsilent⟩ :=
    resume_transmitter arguments { process with transmitter } own.getLast?
  have hprocess : process' = ({ process with transmitter }.resume arguments own.getLast?).1 :=
    (congrArg Prod.fst heq).symm
  have hevents : events = own.map .transmitter ++
      ({ process with transmitter }.resume arguments own.getLast?).2 :=
    (congrArg Prod.snd heq).symm
  rw [hprocess, hevents, List.filterMap_append, hsilent, List.append_nil,
    (filterMap_transmitter own).1, hsame]
  exact hown

/-- What happens in the transmitter is a run of the transmitter. -/
lemma isPart (arguments : Arguments) :
    (system arguments).IsPart (UdpTransmitter.system true) transmitter transmitterEvent where
  start := rfl
  step process action process' events hstep := by
    have hpart : ∀ {process : SimulatorProcess} {own : UdpTransmitter.Action},
        process.transmit arguments own = some (process', events) →
        ∃ own, process.transmitter.step true own =
          some (process'.transmitter, events.filterMap transmitterEvent) :=
      fun h => ⟨_, step_of_transmit h⟩
    cases action with
    | socket result => exact Or.inr (hpart hstep)
    | control => exact Or.inr (hpart hstep)
    | sendto bytesSent => exact Or.inr (hpart hstep)
    | worker => exact Or.inr (hpart hstep)
    | startControl result =>
      change process.step arguments (.startControl result) = _ at hstep
      unfold step at hstep
      dsimp only at hstep
      split at hstep
      · split at hstep
        · cases result <;> cases hstep <;> exact Or.inl ⟨rfl, rfl⟩
        · cases hstep
      · cases hstep
    | main faultFlags =>
      change process.mainStep arguments faultFlags = _ at hstep
      unfold mainStep at hstep
      split at hstep
      · split at hstep <;> cases hstep
        exact Or.inl ⟨rfl, rfl⟩
      · split at hstep
        · exact Or.inr (@hpart { process with main := .inStart } _ hstep)
        · cases hstep
          exact Or.inl ⟨rfl, rfl⟩
      · split at hstep
        · unfold pass at hstep
          dsimp only at hstep
          split at hstep
          · rw [Option.map_eq_some_iff] at hstep
            obtain ⟨⟨next, own⟩, hown, heq⟩ := hstep
            cases heq
            have howned := step_of_transmit hown
            exact Or.inr ⟨.trySend _, howned⟩
          · cases hstep
            unfold finishPass
            dsimp only
            split <;> exact Or.inl ⟨rfl, rfl⟩
        · cases hstep
          exact Or.inl ⟨rfl, rfl⟩
      · exact Or.inr (@hpart { process with main := .inStop } _ hstep)
      · cases hstep

end Moves

/-! ## The invariant -/

/-- The phase after `n` passes. -/
def phaseAfter (faultFlags : ℕ → BitVec 32) (n : ℕ) : Simulation.MissionPhase :=
  (Simulator.after faultFlags n).simulation.state.phase

/-- Something is printed in pass number `i`, from zero: once a second, as the step counter tells,
and when the phase changes. -/
def prints (faultFlags : ℕ → BitVec 32) (i : ℕ) : Bool :=
  BitVec.ofNat 64 (i + 1) % 100 == 0 || phaseAfter faultFlags (i + 1) != phaseAfter faultFlags i

/-- The lines of the console after `n` passes. -/
def consoleAfter (faultFlags : ℕ → BitVec 32) (n : ℕ) : List (FlightState Float) :=
  Simulator.start.simulation.state ::
    ((List.range n).filter (prints faultFlags)).map fun i =>
      (Simulator.after faultFlags (i + 1)).simulation.state

/-- The packet that pass number `i`, from zero, gives to the transmitter. -/
def sentBytes (options : Options) (faultFlags : ℕ → BitVec 32) (i : ℕ) : Option TelemetryBytes :=
  if intentionalDrop (Simulator.after faultFlags (i + 1)) (faultFlags i) then none
  else some (bytesOf (Simulator.after faultFlags (i + 1)) options (faultFlags i))

/-- The packets that `n` passes give to the transmitter. -/
def offeredAfter (faultFlags : ℕ → BitVec 32) (n : ℕ) : List TelemetryBytes :=
  if arguments.networkEnabled then
    (List.range n).filterMap (sentBytes arguments.options faultFlags)
  else []

/-- What is on the console. In `try_send` the line of the pass is still to come. -/
def LineFacts (faultFlags : ℕ → BitVec 32) (n : ℕ) (lines : List (FlightState Float))
    (lastPrintedPhase : Simulation.MissionPhase) : MainState → Prop
  | .startingControl => n = 0 ∧ lines = []
  | .startingTransmitter => n = 0 ∧ lines = []
  | .inStart => n = 0 ∧ lines = []
  | .exited 1 => n = 0 ∧ lines = []
  | .inTrySend => ∃ m, n = m + 1 ∧ lines = consoleAfter faultFlags m ∧
    lastPrintedPhase = phaseAfter faultFlags m
  | _ => lines = consoleAfter faultFlags n ∧ lastPrintedPhase = phaseAfter faultFlags n

/-- Where a process stands that has made `n` passes and read these flags. -/
structure Progress (faultFlags : ℕ → BitVec 32) (n : ℕ) (trace : List Event)
    (process : SimulatorProcess) : Prop where
  simulator : process.simulator = Simulator.after faultFlags n
  executes : Executes arguments.options faultFlags n
  lines : LineFacts faultFlags n (console trace) process.lastPrintedPhase process.main
  offered : UdpTransmitter.offered (trace.filterMap transmitterEvent) =
    offeredAfter arguments faultFlags n
  ended : process.main.IsAfterLoop →
    (Simulator.after faultFlags n).running arguments.options = false

/-- What holds between any two accesses. -/
structure Invariant (trace : List Event) (process : SimulatorProcess) : Prop where
  calls : CallFacts arguments (UdpTransmitter.started (trace.filterMap transmitterEvent))
    process.transmitter.control.call process.main
  progress : ∀ faultFlags n, flagsRead trace = (List.range n).map faultFlags →
    Progress arguments faultFlags n trace process

section Passes

variable {arguments} {faultFlags : ℕ → BitVec 32} {m n : ℕ} {process process' : SimulatorProcess}
  {trace events : List Event}

/-- One more line, or none. -/
lemma consoleAfter_succ (faultFlags : ℕ → BitVec 32) (m : ℕ) :
    consoleAfter faultFlags (m + 1) = consoleAfter faultFlags m ++
      if prints faultFlags m then [(Simulator.after faultFlags (m + 1)).simulation.state]
      else [] := by
  rw [consoleAfter, consoleAfter, List.range_succ, List.filter_append, List.map_append,
    List.cons_append]
  congr 2
  cases hprints : prints faultFlags m <;> simp [hprints]

/-- One more packet, or none. -/
lemma offeredAfter_succ (faultFlags : ℕ → BitVec 32) (m : ℕ) :
    offeredAfter arguments faultFlags (m + 1) = offeredAfter arguments faultFlags m ++
      if arguments.networkEnabled &&
          !intentionalDrop (Simulator.after faultFlags (m + 1)) (faultFlags m) then
        [bytesOf (Simulator.after faultFlags (m + 1)) arguments.options (faultFlags m)]
      else [] := by
  unfold offeredAfter
  cases arguments.networkEnabled with
  | false => rfl
  | true =>
    rw [if_pos rfl, if_pos rfl, List.range_succ, List.filterMap_append, Bool.true_and]
    congr 1
    cases hdrop : intentionalDrop (Simulator.after faultFlags (m + 1)) (faultFlags m) <;>
      simp [sentBytes, hdrop]

/-- The end of a pass: the phase of the last line stays that of the vehicle. -/
lemma finishPass_eq (process : SimulatorProcess)
    (hsimulator : process.simulator = Simulator.after faultFlags (m + 1))
    (hlast : process.lastPrintedPhase = phaseAfter faultFlags m) :
    process.finishPass =
      ({ process with lastPrintedPhase := phaseAfter faultFlags (m + 1), main := .looping },
        if prints faultFlags m then
          [.printed (Simulator.after faultFlags (m + 1)).simulation.state]
        else []) := by
  have hcondition : (process.simulator.stepCount % 100 == 0 ||
      process.simulator.simulation.state.phase != process.lastPrintedPhase) =
        prints faultFlags m := by
    rw [hsimulator, hlast, Simulator.stepCount_after]
    rfl
  unfold finishPass
  dsimp only
  rw [hcondition]
  cases hprints : prints faultFlags m with
  | true =>
    rw [if_pos rfl, if_pos rfl, hsimulator]
    rfl
  | false =>
    have hsame : phaseAfter faultFlags (m + 1) = phaseAfter faultFlags m := by
      rw [prints, Bool.or_eq_false_iff, bne_eq_false_iff_eq] at hprints
      exact hprints.2
    rw [if_neg Bool.false_ne_true, if_neg Bool.false_ne_true, hsame, ← hlast]

omit [Libm] in
/-- The flags read before the last ones. -/
lemma exists_of_concat {flags : List (BitVec 32)} {last : BitVec 32}
    (h : flags ++ [last] = (List.range n).map faultFlags) :
    ∃ m, n = m + 1 ∧ flags = (List.range m).map faultFlags ∧ last = faultFlags m := by
  cases n with
  | zero => exact absurd h (by simp)
  | succ m =>
    rw [List.range_succ, List.map_append, List.map_singleton] at h
    obtain ⟨hflags, hlast⟩ := List.append_inj' h rfl
    exact ⟨m, rfl, hflags, List.singleton_inj.mp hlast⟩

/-- One more pass. -/
lemma executes_succ (h : Executes arguments.options faultFlags m)
    (hrunning : (Simulator.after faultFlags m).running arguments.options = true) :
    Executes arguments.options faultFlags (m + 1) := by
  intro i hi
  rcases Nat.lt_succ_iff_lt_or_eq.mp hi with hlt | rfl
  · exact h i hlt
  · exact hrunning

omit [Libm] in
/-- The end of a pass leads back to the loop and leaves the transmitter alone. -/
lemma finishPass_calls (process : SimulatorProcess) :
    process.finishPass.1.main = .looping ∧
      process.finishPass.1.transmitter = process.transmitter ∧
      process.finishPass.2.filterMap transmitterEvent = [] ∧
      flagsRead process.finishPass.2 = [] := by
  unfold finishPass
  dsimp only
  split <;> exact ⟨rfl, rfl, rfl, rfl⟩

/-- **Step lemma**: every move keeps the calls in step. -/
lemma CallFacts.move
    (h : CallFacts arguments (UdpTransmitter.started (trace.filterMap transmitterEvent))
      process.transmitter.control.call process.main)
    (hmove : Move arguments process process' events) :
    CallFacts arguments (UdpTransmitter.started ((trace ++ events).filterMap transmitterEvent))
      process'.transmitter.control.call process'.main := by
  rw [List.filterMap_append]
  generalize trace.filterMap transmitterEvent = own at h ⊢
  cases hmove with
  | controlStarted hmain =>
    rw [hmain] at h
    rwa [List.filterMap_nil, List.append_nil]
  | controlFailed hmain text =>
    rw [hmain] at h
    exact h.1
  | offline hmain hnetwork =>
    rw [hmain] at h
    rw [show process.enterLoop.2.filterMap transmitterEvent = [] from rfl, List.append_nil]
    exact ⟨h.1, h.2.trans hnetwork.symm⟩
  | start hmain hnetwork transmitter hcall => exact ⟨hcall, hnetwork⟩
  | started hmain transmitter hcall =>
    rw [hmain] at h
    refine ⟨hcall, ?_⟩
    show (UdpTransmitter.notes (own ++ [.startReturned true])).1 = arguments.networkEnabled
    rw [UdpTransmitter.notes_append, h.2]
    exact Bool.or_true _
  | startFailed hmain transmitter hcall => exact hcall
  | passed hmain hrunning flags hquiet =>
    rw [hmain] at h
    obtain ⟨hlooping, hsame, hsilent, -⟩ :=
      finishPass_calls { process with simulator := process.simulator.advance flags }
    rw [hlooping, hsame, List.filterMap_cons, hsilent]
    show CallFacts arguments (UdpTransmitter.started (own ++ [])) _ .looping
    rwa [List.append_nil]
  | trySend hmain hrunning flags hsent transmitter hcall =>
    rw [hmain] at h
    obtain ⟨hnetwork, -⟩ := Bool.and_eq_true_iff.mp hsent
    refine ⟨⟨_, hcall⟩, ?_, hnetwork⟩
    show (UdpTransmitter.notes (own ++ [_])).1 = true
    rw [UdpTransmitter.notes_append]
    exact h.2.trans hnetwork
  | trySendReturned hmain packet result transmitter hcall =>
    rw [hmain] at h
    obtain ⟨hlooping, hsame, hsilent, -⟩ := finishPass_calls { process with transmitter }
    rw [hlooping, hsame, List.filterMap_cons, hsilent]
    refine ⟨hcall, ?_⟩
    show (UdpTransmitter.notes (own ++ [_])).1 = arguments.networkEnabled
    rw [UdpTransmitter.notes_append, h.2.2]
    exact h.2.1
  | ended hmain hrunning =>
    rw [hmain] at h
    rwa [List.filterMap_nil, List.append_nil]
  | stop hmain transmitter hcall =>
    refine ⟨hcall, ?_⟩
    show (UdpTransmitter.notes (own ++ [.stopCalled])).1 = false
    rw [UdpTransmitter.notes_append]
    rfl
  | stopped hmain transmitter hcall => exact hcall
  | inside transmitter own' hcall hquiet =>
    rw [(filterMap_transmitter own').1, UdpTransmitter.started,
      (UdpTransmitter.notes_of_isQuiet hquiet own).1]
    show CallFacts arguments _ transmitter.control.call process.main
    rw [hcall]
    exact h

/-- A move in which no pass reads its flags, sends a packet or ends. -/
lemma Progress.keep (h : Progress arguments faultFlags n trace process)
    (hsimulator : process'.simulator = process.simulator)
    (hoffered : UdpTransmitter.offered ((trace ++ events).filterMap transmitterEvent) =
      UdpTransmitter.offered (trace.filterMap transmitterEvent))
    (hlines : LineFacts faultFlags n (console (trace ++ events)) process'.lastPrintedPhase
      process'.main)
    (hended : process'.main.IsAfterLoop →
      (Simulator.after faultFlags n).running arguments.options = false) :
    Progress arguments faultFlags n (trace ++ events) process' where
  simulator := hsimulator.trans h.simulator
  executes := h.executes
  lines := hlines
  offered := hoffered.trans h.offered
  ended := hended

/-- Before the first pass. -/
lemma Progress.enterLoop (h : Progress arguments faultFlags n trace process)
    (hbefore : n = 0 ∧ console trace = []) {transmitter : UdpTransmitter}
    (hoffered : UdpTransmitter.offered ((trace ++ events).filterMap transmitterEvent) =
      UdpTransmitter.offered (trace.filterMap transmitterEvent))
    (hconsole : console events = [process.simulator.simulation.state]) :
    Progress arguments faultFlags n (trace ++ events)
      { process with transmitter }.enterLoop.1 := by
  obtain ⟨rfl, hnone⟩ := hbefore
  refine h.keep rfl hoffered ⟨?_, ?_⟩ fun hafter => hafter.elim
  · rw [console_append, hnone, hconsole, h.simulator]
    rfl
  · show process.simulator.simulation.state.phase = phaseAfter faultFlags 0
    rw [h.simulator]
    rfl

/-- The line of a pass, or none. -/
lemma console_finishPass (process : SimulatorProcess)
    (hsimulator : process.simulator = Simulator.after faultFlags (m + 1))
    (hlast : process.lastPrintedPhase = phaseAfter faultFlags m)
    {lines : List (FlightState Float)} (hlines : lines = consoleAfter faultFlags m) :
    LineFacts faultFlags (m + 1) (lines ++ console process.finishPass.2)
      process.finishPass.1.lastPrintedPhase .looping := by
  rw [finishPass_eq process hsimulator hlast]
  refine ⟨?_, rfl⟩
  rw [consoleAfter_succ, hlines]
  cases prints faultFlags m with
  | true => rfl
  | false => rfl

/-- **Step lemma**: every move keeps the count of the passes. -/
lemma Progress.move
    (hcalls : CallFacts arguments (UdpTransmitter.started (trace.filterMap transmitterEvent))
      process.transmitter.control.call process.main)
    (h : ∀ faultFlags n, flagsRead trace = (List.range n).map faultFlags →
      Progress arguments faultFlags n trace process)
    (hmove : Move arguments process process' events)
    (hflags : flagsRead (trace ++ events) = (List.range n).map faultFlags) :
    Progress arguments faultFlags n (trace ++ events) process' := by
  rw [flagsRead_append] at hflags
  have hnothing : flagsRead events = [] → Progress arguments faultFlags n trace process := by
    intro hevents
    rw [hevents, List.append_nil] at hflags
    exact h faultFlags n hflags
  have hsame : ∀ event : UdpTransmitter.Event,
      (∀ now, (UdpTransmitter.note now event).2 = now.2) →
      UdpTransmitter.offered (trace.filterMap transmitterEvent ++ [event]) =
        UdpTransmitter.offered (trace.filterMap transmitterEvent) := by
    intro event hnote
    rw [UdpTransmitter.offered, UdpTransmitter.notes_append]
    exact hnote _
  cases hmove with
  | controlStarted hmain =>
    have hold := hnothing rfl
    have hlines := hold.lines
    rw [hmain] at hlines
    exact hold.keep rfl (by rw [List.append_nil]) (by rwa [List.append_nil])
      fun hafter => hafter.elim
  | controlFailed hmain text =>
    have hold := hnothing rfl
    have hlines := hold.lines
    rw [hmain] at hlines
    refine hold.keep rfl (by rw [List.filterMap_append]; exact congrArg _ (List.append_nil _)) ?_
      fun hafter => hafter.elim
    rw [console_append]
    exact ⟨hlines.1, by rw [hlines.2]; rfl⟩
  | offline hmain hnetwork =>
    have hold := hnothing rfl
    have hlines := hold.lines
    rw [hmain] at hlines
    exact hold.enterLoop hlines
      (by rw [List.filterMap_append]; exact congrArg _ (List.append_nil _)) rfl
  | start hmain hnetwork transmitter hcall =>
    have hold := hnothing rfl
    have hlines := hold.lines
    rw [hmain] at hlines
    exact hold.keep rfl (by rw [List.append_nil]) (by rwa [List.append_nil])
      fun hafter => hafter.elim
  | started hmain transmitter hcall =>
    have hold := hnothing rfl
    have hlines := hold.lines
    rw [hmain] at hlines
    exact hold.enterLoop hlines
      (by rw [List.filterMap_append]; exact hsame (.startReturned true) fun _ => rfl) rfl
  | startFailed hmain transmitter hcall =>
    have hold := hnothing rfl
    have hlines := hold.lines
    rw [hmain] at hlines
    refine hold.keep rfl
      (by rw [List.filterMap_append]; exact hsame (.startReturned false) fun _ => rfl) ?_
      fun hafter => hafter.elim
    rw [console_append]
    exact ⟨hlines.1, by rw [hlines.2]; rfl⟩
  | passed hmain hrunning flags hquiet =>
    obtain ⟨hlooping, -, hsilent, hnoFlags⟩ :=
      finishPass_calls { process with simulator := process.simulator.advance flags }
    have hread : flagsRead (.passed flags ::
        { process with simulator := process.simulator.advance flags }.finishPass.2) = [flags] :=
      congrArg (flags :: ·) hnoFlags
    rw [hread] at hflags
    obtain ⟨m, rfl, hprevious, rfl⟩ := exists_of_concat hflags
    obtain ⟨hsimulator, hexecutes, hlines, hoffered, -⟩ := h faultFlags m hprevious
    have hnext : process.simulator.advance (faultFlags m) = Simulator.after faultFlags (m + 1) :=
      by rw [hsimulator]; rfl
    rw [hmain] at hlines
    rw [hsimulator] at hrunning
    constructor
    case simulator =>
      rw [finishPass_eq { process with simulator := process.simulator.advance (faultFlags m) }
        hnext hlines.2]
      exact hnext
    case executes => exact executes_succ hexecutes hrunning
    case ended => rw [hlooping]; exact fun hafter => hafter.elim
    case lines =>
      rw [hlooping, console_append]
      exact console_finishPass
        { process with simulator := process.simulator.advance (faultFlags m) } hnext hlines.2
        hlines.1
    case offered =>
      rw [List.filterMap_append, List.filterMap_cons, hsilent]
      rw [hnext] at hquiet
      rw [offeredAfter_succ, hquiet, if_neg Bool.false_ne_true, List.append_nil, ← hoffered]
      exact congrArg _ (List.append_nil _)
  | trySend hmain hrunning flags hsent transmitter hcall =>
    obtain ⟨m, rfl, hprevious, rfl⟩ := exists_of_concat hflags
    obtain ⟨hsimulator, hexecutes, hlines, hoffered, -⟩ := h faultFlags m hprevious
    have hnext : process.simulator.advance (faultFlags m) = Simulator.after faultFlags (m + 1) :=
      by rw [hsimulator]; rfl
    rw [hmain] at hlines hcalls
    rw [hsimulator] at hrunning
    constructor
    case simulator => exact hnext
    case executes => exact executes_succ hexecutes hrunning
    case ended => exact fun hafter => hafter.elim
    case lines =>
      rw [console_append]
      exact ⟨m, rfl, by rw [← hlines.1]; exact List.append_nil _, hlines.2⟩
    case offered =>
      rw [hnext] at hsent ⊢
      obtain ⟨hnetwork, -⟩ := Bool.and_eq_true_iff.mp hsent
      have hstarted : (UdpTransmitter.notes (trace.filterMap transmitterEvent)).1 = true :=
        hcalls.2.trans hnetwork
      rw [offeredAfter_succ, hsent, if_pos rfl, ← hoffered, List.filterMap_append]
      show (UdpTransmitter.notes (_ ++ [UdpTransmitter.Event.trySendCalled _])).2 = _
      rw [UdpTransmitter.notes_append]
      show (if (UdpTransmitter.notes (trace.filterMap transmitterEvent)).1 = true then _ else _) = _
      rw [if_pos hstarted]
      rfl
  | trySendReturned hmain packet result transmitter hcall =>
    obtain ⟨hlooping, -, hsilent, hnoFlags⟩ := finishPass_calls { process with transmitter }
    obtain ⟨hsimulator, hexecutes, hlines, hoffered, -⟩ := hnothing hnoFlags
    rw [hmain] at hlines
    obtain ⟨m, rfl, hconsole, hlast⟩ := hlines
    have hfinish := finishPass_eq { process with transmitter } hsimulator hlast
    constructor
    case simulator => rw [hfinish]; exact hsimulator
    case executes => exact hexecutes
    case ended => rw [hlooping]; exact fun hafter => hafter.elim
    case lines =>
      rw [hlooping, console_append]
      exact console_finishPass { process with transmitter } hsimulator hlast hconsole
    case offered =>
      rw [List.filterMap_append, List.filterMap_cons, hsilent, ← hoffered]
      exact hsame (.trySendReturned packet result) fun _ => rfl
  | ended hmain hrunning =>
    have hold := hnothing rfl
    have hlines := hold.lines
    rw [hmain] at hlines
    refine hold.keep rfl (by rw [List.append_nil]) (by rwa [List.append_nil]) fun _ => ?_
    rw [← hold.simulator]
    exact hrunning
  | stop hmain transmitter hcall =>
    have hold := hnothing rfl
    have hlines := hold.lines
    rw [hmain] at hlines
    refine hold.keep rfl
      (by rw [List.filterMap_append]; exact hsame .stopCalled fun _ => rfl) ?_
      fun _ => hold.ended (by rw [hmain]; trivial)
    rw [console_append]
    exact ⟨by rw [← hlines.1]; exact List.append_nil _, hlines.2⟩
  | stopped hmain transmitter hcall =>
    have hold := hnothing rfl
    have hlines := hold.lines
    rw [hmain] at hlines
    refine hold.keep rfl
      (by rw [List.filterMap_append]; exact hsame .stopReturned fun _ => rfl) ?_
      fun _ => hold.ended (by rw [hmain]; trivial)
    rw [console_append]
    exact ⟨by rw [← hlines.1]; exact List.append_nil _, hlines.2⟩
  | inside transmitter own hcall hquiet =>
    obtain ⟨hown, hnoFlags, hnoLine⟩ := filterMap_transmitter own
    have hold := hnothing hnoFlags
    refine hold.keep rfl ?_ ?_ hold.ended
    · rw [List.filterMap_append, hown, UdpTransmitter.offered,
        (UdpTransmitter.notes_of_isQuiet hquiet _).1]
      rfl
    · rw [console_append, hnoLine, List.append_nil]
      exact hold.lines

/-- Before anything is done. -/
lemma Invariant.init (arguments : Arguments) : Invariant arguments [] {} where
  calls := ⟨rfl, rfl⟩
  progress faultFlags n hflags := by
    obtain rfl : n = 0 := by
      have hlength := congrArg List.length hflags
      simpa [flagsRead] using hlength.symm
    refine ⟨rfl, fun i hi => absurd hi (Nat.not_lt_zero i), ⟨rfl, rfl⟩, ?_, fun h => h.elim⟩
    unfold offeredAfter
    split <;> rfl

/-- **Run lemma**: the invariants hold between any two accesses of any interleaving, that of the
process and those of its transmitter. -/
lemma invariant_of_run (arguments : Arguments) {actions : List Action}
    (hrun : (system arguments).run actions = some (process, trace)) :
    Invariant arguments trace process ∧
      (UdpTransmitter.Invariant (trace.filterMap transmitterEvent) process.transmitter ∧
        UdpTransmitter.Counted (trace.filterMap transmitterEvent) process.transmitter) ∧
      UdpTransmitter.InOrder (trace.filterMap transmitterEvent)
        process.transmitter.control.call := by
  have hpart : ∀ {actions : List Action} {process : SimulatorProcess} {trace : List Event},
      (system arguments).run actions = some (process, trace) →
      (UdpTransmitter.Invariant (trace.filterMap transmitterEvent) process.transmitter ∧
        UdpTransmitter.Counted (trace.filterMap transmitterEvent) process.transmitter) ∧
      UdpTransmitter.InOrder (trace.filterMap transmitterEvent)
        process.transmitter.control.call := by
    intro actions process trace hrun
    obtain ⟨own, hown⟩ := (isPart arguments).exists_run hrun
    exact ⟨(UdpTransmitter.isCounted true).of_run hown,
      ((UdpTransmitter.isInOrder true).of_run hown).2⟩
  refine ⟨?_, hpart hrun⟩
  induction actions using List.reverseRecOn generalizing process trace with
  | nil =>
    obtain ⟨rfl, rfl⟩ : ({} : SimulatorProcess) = process ∧ [] = trace := by
      simpa [system] using hrun
    exact Invariant.init arguments
  | append_singleton actions action ih =>
    obtain ⟨process₀, trace₀, events, hrun₀, hstep, rfl⟩ := System.run_concat_eq_some _ hrun
    obtain ⟨hcalls, hprogress⟩ := ih hrun₀
    have hmove := move_of_step (hpart hrun₀).1.1 hcalls hstep
    exact ⟨hcalls.move hmove,
      fun faultFlags n hflags => Progress.move hcalls hprogress hmove hflags⟩

end Passes

/-! ## A run -/

/-- A library that no pass on the pad calls. -/
@[reducible] def padLibm : Libm where
  hypot x _ := x
  atan2 _ _ := 0.0
  sin _ := 0.0

/-- So many passes are asked for, and no control server. -/
def passes (count : ℕ) : Arguments := { controlEnabled := false, maximumSteps := count }

/-- The transmitter is started. -/
def untilLoop : List Action := [.main 0, .main 0, .socket (.ok 3), .control, .control]

/-- A pass whose packet is put into the queue. -/
def queuedPass (faultFlags : BitVec 32) : List Action :=
  .main faultFlags :: List.replicate 5 .control

/-- The worker takes a packet out of the queue, and `sendto` returns. -/
def sending (bytesSent : ℤ) : List Action :=
  List.replicate 5 .worker ++ [.sendto bytesSent, .worker]

/-- A hundred passes; the worker sends the first packet meanwhile. -/
def hundredPasses : List Action :=
  untilLoop ++ queuedPass 0 ++ sending 163 ++ (List.replicate 99 (queuedPass 0)).flatten

/-- The packet-loss fault is enabled after nine passes. -/
def elevenFlags (i : ℕ) : BitVec 32 := if i < 9 then 0 else kPacketLoss

/-- Eleven passes: the second packet is not sent for an error, the tenth one is omitted, and the
last one is sent while the main thread waits for the worker. -/
def elevenPasses : List Action :=
  untilLoop ++ queuedPass 0 ++ sending 163 ++ queuedPass 0 ++ sending (-1) ++
    (List.replicate 7 (queuedPass 0 ++ sending 163)).flatten ++ [.main kPacketLoss] ++
    queuedPass kPacketLoss ++ [.main 0, .main 0] ++ List.replicate 7 .worker ++ [.sendto 163] ++
    List.replicate 4 .worker ++ [.control]

/-! ## The console -/

/-- The number of phases before a phase. -/
def rank : Simulation.MissionPhase → ℕ
  | .prelaunch => 0
  | .poweredAscent => 1
  | .coast => 2
  | .descent => 3
  | .landingBurn => 4
  | .landed => 5

section Console

variable {arguments} {faultFlags : ℕ → BitVec 32} {n : ℕ} {process} {trace : List Event}

/-- A pass keeps the phase or goes on to the next one. -/
lemma phaseAfter_succ (faultFlags : ℕ → BitVec 32) (n : ℕ) :
    phaseAfter faultFlags (n + 1) = phaseAfter faultFlags n ∨
      (phaseAfter faultFlags n).next = some (phaseAfter faultFlags (n + 1)) := by
  let simulation :=
    (Simulator.after faultFlags n).simulation.setThrusterLoss (faultFlags n &&& kThrusterLoss ≠ 0)
  show (simulation.step kFixedStepSeconds).state.phase = simulation.state.phase ∨
    simulation.state.phase.next = some (simulation.step kFixedStepSeconds).state.phase
  rcases simulation.step_cases kFixedStepSeconds with heq | ⟨-, orientation, heq⟩
  · exact Or.inl (by rw [heq])
  · rw [heq]
    exact phaseStep_phase _ _ kFixedStepSeconds (beginStep kFixedStepSeconds simulation.state)

/-- A pass that changes the phase goes on to a later one. -/
lemma rank_phaseAfter_succ (faultFlags : ℕ → BitVec 32) (n : ℕ) :
    rank (phaseAfter faultFlags n) ≤ rank (phaseAfter faultFlags (n + 1)) ∧
      (phaseAfter faultFlags (n + 1) ≠ phaseAfter faultFlags n →
        rank (phaseAfter faultFlags n) < rank (phaseAfter faultFlags (n + 1))) := by
  rcases phaseAfter_succ faultFlags n with hsame | hnext
  · rw [hsame]
    exact ⟨le_rfl, fun hne => absurd rfl hne⟩
  · generalize phaseAfter faultFlags n = phase at hnext ⊢
    generalize phaseAfter faultFlags (n + 1) = phase' at hnext ⊢
    cases phase <;> cases hnext <;> decide

/-- The lines of the console are few. -/
lemma length_consoleAfter_le (faultFlags : ℕ → BitVec 32) (hn : n < 2 ^ 64) :
    (consoleAfter faultFlags n).length ≤ n / 100 + rank (phaseAfter faultFlags n) + 1 := by
  induction n with
  | zero => exact Nat.le_add_left 1 _
  | succ n ih =>
    have hsecond : (BitVec.ofNat 64 (n + 1) % 100 == 0) = ((n + 1) % 100 == 0) :=
      Simulator.ofNat_mod_beq_zero hn (by norm_num)
    have ih := ih (by omega)
    have hrank := rank_phaseAfter_succ faultFlags n
    rw [consoleAfter_succ, List.length_append]
    cases hprints : prints faultFlags n with
    | false =>
      rw [if_neg Bool.false_ne_true, List.length_nil]
      omega
    | true =>
      rw [if_pos rfl, List.length_singleton]
      rw [prints, hsecond, Bool.or_eq_true, beq_iff_eq, bne_iff_ne] at hprints
      rcases hprints with hsecond | hchange
      · omega
      · have := hrank.2 hchange
        omega

/-- **The console.** In every interleaving, whenever the main thread is about to test the
condition of the loop and when it has left the loop: the lines printed are that of the start and
then, in order, one for every pass that ends a second or changes the phase. They are at most one a
second and six more. -/
theorem console_log {actions : List Action}
    (hrun : (system arguments).run actions = some (process, trace))
    (hflags : flagsRead trace = (List.range n).map faultFlags)
    (hplace : process.main = .looping ∨ process.main.IsAfterLoop) :
    console trace = consoleAfter faultFlags n ∧
      (n < 2 ^ 64 → (console trace).length ≤ n / 100 + 6) := by
  obtain ⟨hinv, -⟩ := invariant_of_run arguments hrun
  have hlines := (hinv.progress faultFlags n hflags).lines
  have hconsole : console trace = consoleAfter faultFlags n := by
    cases hmain : process.main with
    | looping =>
      rw [hmain] at hlines
      exact hlines.1
    | stopping =>
      rw [hmain] at hlines
      exact hlines.1
    | inStop =>
      rw [hmain] at hlines
      exact hlines.1
    | exited status =>
      rw [hmain] at hlines hplace
      cases status with
      | zero => exact hlines.1
      | succ status => exact (hplace.resolve_left MainState.noConfusion).elim
    | _ =>
      rw [hmain] at hplace
      exact (hplace.resolve_left MainState.noConfusion).elim
  refine ⟨hconsole, fun hn => ?_⟩
  have hle := length_consoleAfter_le faultFlags hn
  have hrank : rank (phaseAfter faultFlags n) ≤ 5 := by
    cases phaseAfter faultFlags n <;> decide
  rw [hconsole]
  omega

end Console

omit [Libm] in
/-- After a hundred passes a second line is there. -/
theorem console_log_hundredPasses : ∃ process trace,
    (@system padLibm (passes 101)).run hundredPasses = some (process, trace) ∧
      (console trace).length = 2 ∧ console trace = @consoleAfter padLibm (fun _ => 0) 100 := by
  let libm := padLibm
  have hcheck : ((system (passes 101)).run hundredPasses).any (fun now =>
      now.1.main == .looping && flagsRead now.2 == (List.range 100).map (fun _ => 0) &&
        (console now.2).length == 2) = true := by decide +kernel
  obtain ⟨⟨process, trace⟩, hrun, hplace⟩ := (Option.any_eq_true _ _).mp hcheck
  simp only [Bool.and_eq_true, beq_iff_eq] at hplace
  obtain ⟨⟨hmain, hflags⟩, hlines⟩ := hplace
  exact ⟨process, trace, hrun, hlines, (console_log hrun hflags (Or.inl hmain)).1⟩

/-! ## The counters -/

/-- The number of the first `n` packets that the packet-loss fault omits. -/
def omittedAfter (faultFlags : ℕ → BitVec 32) (n : ℕ) : ℕ :=
  (List.range n).countP fun i =>
    faultFlags i &&& kPacketLoss ≠ 0 && BitVec.ofNat 64 (i + 1) % 10 == 0

section Counters

variable {arguments} {faultFlags : ℕ → BitVec 32} {n : ℕ} {process} {process' : SimulatorProcess}
  {trace events : List Event}

/-- Every packet is offered or omitted. -/
lemma length_offeredAfter (hnetwork : arguments.networkEnabled = true)
    (faultFlags : ℕ → BitVec 32) (n : ℕ) :
    (offeredAfter arguments faultFlags n).length + omittedAfter faultFlags n = n := by
  induction n with
  | zero =>
    unfold offeredAfter omittedAfter
    rw [if_pos hnetwork]
    rfl
  | succ n ih =>
    have hdrop : intentionalDrop (Simulator.after faultFlags (n + 1)) (faultFlags n) =
        (faultFlags n &&& kPacketLoss ≠ 0 && BitVec.ofNat 64 (n + 1) % 10 == 0) := by
      unfold intentionalDrop
      rw [Simulator.stepCount_after]
    rw [offeredAfter_succ, hnetwork, Bool.true_and, hdrop, List.length_append]
    unfold omittedAfter at ih ⊢
    rw [List.range_succ, List.countP_append, List.countP_singleton]
    cases (faultFlags n &&& kPacketLoss ≠ 0 && BitVec.ofNat 64 (n + 1) % 10 == 0 : Bool) with
    | true =>
      rw [Bool.not_true, if_neg Bool.false_ne_true, if_pos rfl, List.length_nil]
      omega
    | false =>
      rw [Bool.not_false, if_pos rfl, if_neg Bool.false_ne_true, List.length_singleton]
      omega

/-- The packets are those of the loop. -/
lemma map_sentBytes (options : Options) (faultFlags : ℕ → BitVec 32) (i : ℕ) :
    (sentBytes options faultFlags i).map Subtype.val = Simulator.sent options faultFlags i := by
  let simulator := Simulator.after faultFlags (i + 1)
  show (if intentionalDrop simulator (faultFlags i) then none
      else some (bytesOf simulator options (faultFlags i))).map Subtype.val =
    if intentionalDrop simulator (faultFlags i) then none
    else some (if options.corruptOnce && simulator.stepCount == 250 then
      Simulator.corrupt (serialize (simulator.telemetry (faultFlags i))).1
    else (serialize (simulator.telemetry (faultFlags i))).1)
  cases intentionalDrop simulator (faultFlags i) with
  | true => rfl
  | false =>
    show some (bytesOf simulator options (faultFlags i)).1 = some _
    unfold bytesOf
    dsimp only
    rw [apply_ite Subtype.val]

/-- What is offered, as bytes. -/
lemma map_offeredAfter (hnetwork : arguments.networkEnabled = true)
    (faultFlags : ℕ → BitVec 32) (n : ℕ) :
    (offeredAfter arguments faultFlags n).map Subtype.val =
      (List.range n).filterMap (Simulator.sent arguments.options faultFlags) := by
  unfold offeredAfter
  rw [if_pos hnetwork, List.map_filterMap]
  exact List.filterMap_congr fun i _ => map_sentBytes arguments.options faultFlags i

omit [Libm] in
/-- Only what was offered is handed to the network, in order. -/
lemma handed_sublist_offered {own : List UdpTransmitter.Event} {t : UdpTransmitter}
    (hinv : UdpTransmitter.Invariant own t) (horder : UdpTransmitter.InOrder own t.control.call) :
    (UdpTransmitter.handed own).Sublist (UdpTransmitter.offered own) := by
  obtain ⟨earlier, hoffered, haccepted⟩ := horder
  have htaken : t.control.taken.Sublist (packetsIn t.control.call) := by
    cases t.control with
    | countingQueued packet => exact List.Sublist.refl _
    | _ => exact List.nil_sublist _
  have hpopped := (List.sublist_append_left _ t.worker.held).trans hinv.queue.isPrefix.sublist
  rw [hoffered]
  exact hpopped.trans (haccepted.append htaken)

/-- **Run lemma**: at any time the datagrams handed to the network are some of the packets of the
passes made so far, in order. -/
lemma handed_sublist_sent {actions : List Action}
    (hrun : (system arguments).run actions = some (process, trace))
    (hflags : flagsRead trace = (List.range n).map faultFlags) :
    Executes arguments.options faultFlags n ∧
      ((UdpTransmitter.handed (trace.filterMap transmitterEvent)).map Subtype.val).Sublist
        ((List.range n).filterMap (Simulator.sent arguments.options faultFlags)) := by
  obtain ⟨⟨-, hprogress⟩, ⟨howned, -⟩, horder⟩ := invariant_of_run arguments hrun
  have hnow := hprogress faultFlags n hflags
  have hsublist := handed_sublist_offered howned horder
  rw [hnow.offered] at hsublist
  refine ⟨hnow.executes, ?_⟩
  cases hnetwork : arguments.networkEnabled with
  | true =>
    rw [← map_offeredAfter hnetwork]
    exact hsublist.map _
  | false =>
    rw [offeredAfter, hnetwork, if_neg Bool.false_ne_true, List.sublist_nil] at hsublist
    rw [hsublist]
    exact List.nil_sublist _

omit [Libm] in
/-- A transmitter that is stopped has nothing left, and its counters add up. -/
lemma counted_of_stopped {own : List UdpTransmitter.Event} {t : UdpTransmitter}
    (hinv : UdpTransmitter.Invariant own t) (hcounted : UdpTransmitter.Counted own t)
    (hcall : t.control.call = none) (hstopped : UdpTransmitter.started own = false) :
    ∃ dropped sent errors, t.queued = BitVec.ofNat 64 (sent + errors) ∧
      t.queueDropped = BitVec.ofNat 64 dropped ∧ t.sent = BitVec.ofNat 64 sent ∧
      t.sendErrors = BitVec.ofNat 64 errors ∧
      sent + errors = (UdpTransmitter.handed own).length ∧
      sent + errors + dropped = (UdpTransmitter.offered own).length := by
  obtain ⟨hidle, hrunning⟩ := step_of_call_none hinv hcall
  rw [hstopped] at hrunning
  obtain ⟨hqueue, -, hcontrol, hworker, -⟩ := hinv
  rw [hidle, UdpTransmitter.ControlFacts, hrunning] at hcontrol
  have hnone : t.worker = .none := hcontrol
  obtain ⟨hqueued, ⟨dropped, hdropped, hoffered⟩, sent, errors, hsent, herrors, hhanded⟩ := hcounted
  simp only [hidle, hnone, ControlState.taken, WorkerState.held, List.append_nil] at hqueue
  simp only [hnone, UdpTransmitter.WorkerFacts] at hworker
  simp only [hnone, WorkerState.uncounted, add_zero] at hhanded
  simp only [hidle, ControlState.unanswered, add_zero] at hoffered
  have hlength : (UdpTransmitter.handed own).length = (UdpTransmitter.accepted own).length :=
    hqueue.empty_iff.mp hworker.2
  refine ⟨dropped, sent, errors, ?_, hdropped, hsent, herrors, hhanded, by omega⟩
  rw [hqueued, ← hlength, ← hhanded]

/-- The last lines are printed when the transmitter has stopped. -/
lemma Move.of_summary (hmove : Move arguments process process' events) {landed : Bool}
    {steps : BitVec 64} {stats : Option TransmitterStats}
    (hsummary : .summary landed steps stats ∈ events) :
    process.main = .inStop ∧ process'.transmitter.control.call = none ∧
      events.filterMap transmitterEvent = [.stopReturned] ∧ flagsRead events = [] ∧
      landed = (process.simulator.simulation.state.phase == .landed) ∧
      steps = process.simulator.stepCount ∧
      stats = if arguments.networkEnabled then some process'.transmitter.stats else none := by
  have hnoSummary : ∀ process : SimulatorProcess,
      .summary landed steps stats ∉ process.finishPass.2 := by
    intro process
    unfold finishPass
    dsimp only
    split <;> simp
  cases hmove with
  | stopped hmain transmitter hcall =>
    have hlast : Event.summary landed steps stats =
        .summary (process.simulator.simulation.state.phase == .landed)
          process.simulator.stepCount
          (if arguments.networkEnabled then some transmitter.stats else none) := by
      simpa [finish] using hsummary
    obtain ⟨rfl, rfl, rfl⟩ := Event.summary.inj hlast
    exact ⟨hmain, hcall, rfl, rfl, rfl, rfl, rfl⟩
  | passed hmain hrunning flags hquiet => simp [hnoSummary] at hsummary
  | trySendReturned hmain packet result transmitter hcall => simp [hnoSummary] at hsummary
  | inside transmitter own hcall hquiet => simp at hsummary
  | offline hmain hnetwork => simp [enterLoop] at hsummary
  | started hmain transmitter hcall => simp [enterLoop] at hsummary
  | _ => simp at hsummary

/-- **The packets are accounted for.** When the last lines are printed, after any interleaving of
the two threads and whatever the network does: the loop has made `n` passes, as many as its
condition allows, and reports them and the landing; the datagrams handed to the network are some
of the packets of these passes, in order; and, for fewer than `2 ^ 64` passes, every pass is
counted once: its packet is sent, not sent for an error, dropped for a full queue or omitted by
the packet-loss fault. -/
theorem packets_accounted {actions : List Action} {action : Action} {landed : Bool}
    {steps : BitVec 64} {stats : Option TransmitterStats}
    (hrun : (system arguments).run actions = some (process, trace))
    (hflags : flagsRead trace = (List.range n).map faultFlags)
    (hstep : process.step arguments action = some (process', events))
    (hsummary : .summary landed steps stats ∈ events) :
    (Executes arguments.options faultFlags n ∧
        (Simulator.after faultFlags n).running arguments.options = false) ∧
      (steps = BitVec.ofNat 64 n ∧ landed = (phaseAfter faultFlags n == .landed)) ∧
      ((UdpTransmitter.handed ((trace ++ events).filterMap transmitterEvent)).map
        Subtype.val).Sublist
          ((List.range n).filterMap (Simulator.sent arguments.options faultFlags)) ∧
      (stats.isSome = arguments.networkEnabled) ∧
      ∀ counters ∈ stats, n < 2 ^ 64 →
        counters.queued.toNat = counters.sent.toNat + counters.sendErrors.toNat ∧
          counters.sent.toNat + counters.sendErrors.toNat =
            (UdpTransmitter.handed ((trace ++ events).filterMap transmitterEvent)).length ∧
          counters.sent.toNat + counters.sendErrors.toNat + counters.queueDropped.toNat +
            omittedAfter faultFlags n = n := by
  obtain ⟨⟨hcalls, hprogress⟩, ⟨howned, -⟩, -⟩ := invariant_of_run arguments hrun
  have hrun' := System.run_concat_of_step (system arguments) hrun hstep
  obtain ⟨-, ⟨howned', hcounted'⟩, -⟩ := invariant_of_run arguments hrun'
  have hold := hprogress faultFlags n hflags
  obtain ⟨hmain, hcall, hstopReturned, hnoFlags, rfl, rfl, rfl⟩ :=
    (move_of_step howned hcalls hstep).of_summary hsummary
  rw [hmain] at hcalls
  -- the last event of the transmitter changes nothing that is noted
  have hnotes : UdpTransmitter.notes ((trace ++ events).filterMap transmitterEvent) =
      UdpTransmitter.notes (trace.filterMap transmitterEvent) := by
    rw [List.filterMap_append, hstopReturned, UdpTransmitter.notes_append]
    rfl
  have hoffered : UdpTransmitter.offered ((trace ++ events).filterMap transmitterEvent) =
      offeredAfter arguments faultFlags n := by
    rw [UdpTransmitter.offered, hnotes]
    exact hold.offered
  obtain ⟨dropped, sent, errors, hqueued, hdropped, hsent, herrors, hlength, htotal⟩ :=
    counted_of_stopped howned' hcounted' hcall (by
      rw [UdpTransmitter.started, hnotes]
      exact hcalls.2)
  rw [hoffered] at htotal
  refine ⟨⟨hold.executes, hold.ended (by rw [hmain]; trivial)⟩, ⟨?_, ?_⟩, ?_, ?_, ?_⟩
  · rw [hold.simulator, Simulator.stepCount_after]
  · rw [hold.simulator]
    rfl
  · refine (handed_sublist_sent hrun' ?_).2
    rw [flagsRead_append, hnoFlags, List.append_nil, hflags]
  · cases arguments.networkEnabled <;> rfl
  · intro counters hcounters hfew
    cases hnetwork : arguments.networkEnabled with
    | false =>
      rw [hnetwork, if_neg Bool.false_ne_true] at hcounters
      exact absurd hcounters (Option.not_mem_none _)
    | true =>
      rw [hnetwork, if_pos rfl] at hcounters
      obtain rfl := Option.mem_some_iff.mp hcounters
      have hall := length_offeredAfter hnetwork faultFlags n
      simp only [UdpTransmitter.stats, hqueued, hdropped, hsent, herrors, BitVec.toNat_ofNat]
      rw [Nat.mod_eq_of_lt (by omega), Nat.mod_eq_of_lt (by omega), Nat.mod_eq_of_lt (by omega),
        Nat.mod_eq_of_lt (by omega)]
      omega

end Counters

/-- The steps that are reported, with the transmitter's counters. -/
def Event.reported : Event → Option (BitVec 64 × TransmitterStats)
  | .summary _ steps (some counters) => some (steps, counters)
  | _ => none

omit [Libm] in
/-- They are in the last lines. -/
lemma Event.exists_of_reported {event : Event} {steps : BitVec 64} {counters : TransmitterStats}
    (h : event.reported = some (steps, counters)) :
    ∃ landed, event = .summary landed steps (some counters) := by
  cases event with
  | summary landed steps' stats =>
    cases stats with
    | none => cases h
    | some counters' =>
      obtain ⟨rfl, rfl⟩ := Prod.mk.inj (Option.some.inj h)
      exact ⟨landed, rfl⟩
  | _ => cases h

omit [Libm] in
/-- Nine packets are sent, one is not, and one is omitted. -/
theorem packets_accounted_elevenPasses : ∃ process trace next landed, ∃ counters : TransmitterStats,
    (@system padLibm (passes 11)).run elevenPasses = some (process, trace) ∧
      @step padLibm (passes 11) process .control = some next ∧
      .summary landed 11 (some counters) ∈ next.2 ∧
      counters.sendErrors = 1 ∧ omittedAfter elevenFlags 11 = 1 ∧
      counters.sent.toNat + counters.sendErrors.toNat + counters.queueDropped.toNat +
        omittedAfter elevenFlags 11 = 11 := by
  let libm := padLibm
  have hcheck : ((system (passes 11)).run elevenPasses).any (fun now =>
      flagsRead now.2 == (List.range 11).map elevenFlags &&
        (now.1.step (passes 11) .control).any fun next => next.2.any fun event =>
          event.reported == some (11, ⟨10, 0, 9, 1⟩)) = true := by decide +kernel
  obtain ⟨⟨process, trace⟩, hrun, hnow⟩ := (Option.any_eq_true _ _).mp hcheck
  rw [Bool.and_eq_true, beq_iff_eq] at hnow
  obtain ⟨hflags, hnext⟩ := hnow
  obtain ⟨⟨process', events⟩, hstep, hevents⟩ := (Option.any_eq_true _ _).mp hnext
  obtain ⟨event, hmem, hevent⟩ := List.any_eq_true.mp hevents
  obtain ⟨landed, rfl⟩ := Event.exists_of_reported (beq_iff_eq.mp hevent)
  have hcounted := (packets_accounted hrun hflags hstep hmem).2.2.2.2 _ rfl (by norm_num)
  exact ⟨process, trace, _, landed, _, hrun, hstep, hmem, rfl, by decide, hcounted.2.2⟩

/-! ## Waiting -/

/-- The accesses that a call of `try_push` still makes. -/
def pushRemaining : ProducerState TelemetryBytes 1024 → ℕ
  | .idle => 0
  | .headLoaded _ _ => 3
  | .writing _ _ => 2
  | .publishing _ _ => 1

/-- The accesses that a call of `try_send` still makes, at most. -/
def sendRemaining (t : UdpTransmitter) : ℕ :=
  match t.control with
  | .trying _ => 5
  | .pushing _ => pushRemaining t.queue.producer + 1
  | .countingQueued _ => 1
  | .countingDropped _ => 1
  | _ => 0

/-- The main thread goes on inside of a call. -/
def Action.isControl : Action → Bool
  | .control => true
  | _ => false

section Waiting

variable {arguments} {process} {process' : SimulatorProcess} {trace events : List Event}
  {own : List UdpTransmitter.Event} {t t' : UdpTransmitter} {packet : TelemetryBytes}

omit [Libm] in
/-- The next access of a call of `try_push` can always be made, and one less remains. -/
lemma exists_push (q : PacketQueue) {packet : TelemetryBytes} (hpushes : q.producer.Pushes packet) :
    ∃ q' events, q.step id .producer = some (q', events) ∧
      sendRemaining { t with queue := q', control := UdpTransmitter.afterPush packet events } ≤
        pushRemaining q.producer := by
  cases hpc : q.producer with
  | idle =>
    rw [hpc] at hpushes
    exact hpushes.elim
  | headLoaded value head =>
    by_cases hfull : SpscRingBuffer.increment head = q.tail
    · refine ⟨{ q with producer := .idle }, [.pushFailed value], ?_, ?_⟩
      · simp only [SpscRingBuffer.step, hpc, if_pos hfull]
      · simp [sendRemaining, pushRemaining, UdpTransmitter.afterPush]
    · refine ⟨{ q with producer := .writing value head }, [], ?_, ?_⟩
      · simp only [SpscRingBuffer.step, hpc, if_neg hfull]
      · simp [sendRemaining, pushRemaining, UdpTransmitter.afterPush]
  | writing value head =>
    refine ⟨_, [], by simp only [SpscRingBuffer.step, hpc]; rfl, ?_⟩
    simp [sendRemaining, pushRemaining, UdpTransmitter.afterPush]
  | publishing value head =>
    refine ⟨_, [.pushed value], by simp only [SpscRingBuffer.step, hpc]; rfl, ?_⟩
    simp [sendRemaining, pushRemaining, UdpTransmitter.afterPush]

omit [Libm] in
/-- The next access of a call of `try_send` can always be made, and one less remains. -/
lemma exists_controlStep (hinv : UdpTransmitter.Invariant own t)
    (hcall : t.control.call = some (.trySend packet)) :
    ∃ t' events, t.controlStep true = some (t', events) ∧
      sendRemaining t' + 1 ≤ sendRemaining t := by
  have hproducer := hinv.producer
  cases hpc : t.control with
  | trying packet =>
    rw [hpc] at hproducer
    have hidle : t.queue.producer = .idle := hproducer
    refine ⟨{ t with
      queue := { t.queue with producer := .headLoaded packet t.queue.head }
      control := .pushing packet }, [], ?_, ?_⟩
    · simp only [UdpTransmitter.controlStep, hpc, UdpTransmitter.accessQueue, SpscRingBuffer.step,
        hidle, Option.map_some]
    · simp [sendRemaining, pushRemaining, hpc]
  | pushing packet =>
    rw [hpc] at hproducer
    obtain ⟨q', events, haccess, hless⟩ := exists_push (t := t) t.queue hproducer
    refine ⟨_, [], ?_, Nat.succ_le_succ hless |>.trans ?_⟩
    · simp only [UdpTransmitter.controlStep, hpc, UdpTransmitter.accessQueue, haccess,
        Option.map_some]
    · simp [sendRemaining, hpc]
  | countingQueued packet =>
    refine ⟨_, _, by simp only [UdpTransmitter.controlStep, hpc]; rfl, ?_⟩
    simp [sendRemaining, hpc]
  | countingDropped packet =>
    refine ⟨_, _, by simp only [UdpTransmitter.controlStep, hpc]; rfl, ?_⟩
    simp [sendRemaining, hpc]
  | _ =>
    rw [hpc] at hcall
    exact absurd hcall (by simp [ControlState.call])

omit [Libm] in
/-- An access of the consumer leaves the producer where it is. -/
lemma producer_of_consumer {q q' : PacketQueue} {action : SpscRingBuffer.Action TelemetryBytes}
    {queueEvents : List (SpscRingBuffer.Event TelemetryBytes)}
    (haction : action = .tryPop ∨ action = .empty ∨ action = .consumer)
    (hstep : q.step id action = some (q', queueEvents)) : q'.producer = q.producer := by
  rcases haction with rfl | rfl | rfl
  · simp only [SpscRingBuffer.step] at hstep
    split at hstep <;> cases hstep
    rfl
  · simp only [SpscRingBuffer.step] at hstep
    split at hstep <;> cases hstep
    rfl
  · simp only [SpscRingBuffer.step] at hstep
    split at hstep <;> try split at hstep
    all_goals cases hstep
    all_goals rfl

omit [Libm] in
/-- The worker does not make a call of `try_send` longer. -/
lemma sendRemaining_of_workerStep {heard : List UdpTransmitter.Event}
    (hstep : t.workerStep = some (t', heard)) : sendRemaining t' = sendRemaining t := by
  have hsame : t'.control = t.control → t'.queue.producer = t.queue.producer →
      sendRemaining t' = sendRemaining t := by
    intro hcontrol hproducer
    unfold sendRemaining
    rw [hcontrol, hproducer]
  apply hsame (UdpTransmitter.workerStep_call hstep).1
  cases hpc : t.worker with
  | none => simp [UdpTransmitter.workerStep, hpc] at hstep
  | sending packet => simp [UdpTransmitter.workerStep, hpc] at hstep
  | finished => simp [UdpTransmitter.workerStep, hpc] at hstep
  | testingRunning =>
    simp only [UdpTransmitter.workerStep, hpc] at hstep
    cases hstep
    rfl
  | counting complete =>
    cases complete <;> simp only [UdpTransmitter.workerStep, hpc] at hstep <;> cases hstep
    · rfl
    · rfl
  | callingEmpty =>
    simp only [UdpTransmitter.workerStep, hpc, Option.map_eq_some_iff] at hstep
    obtain ⟨⟨queue, _⟩, haccess, heq⟩ := hstep
    cases heq
    exact producer_of_consumer (Or.inr (Or.inl rfl)) haccess
  | callingPop =>
    simp only [UdpTransmitter.workerStep, hpc, Option.map_eq_some_iff] at hstep
    obtain ⟨⟨queue, _⟩, haccess, heq⟩ := hstep
    cases heq
    exact producer_of_consumer (Or.inl rfl) haccess
  | testingEmpty =>
    simp only [UdpTransmitter.workerStep, hpc, Option.map_eq_some_iff] at hstep
    obtain ⟨⟨queue, _⟩, haccess, heq⟩ := hstep
    cases heq
    exact producer_of_consumer (Or.inr (Or.inr rfl)) haccess
  | popping =>
    simp only [UdpTransmitter.workerStep, hpc, Option.map_eq_some_iff] at hstep
    obtain ⟨⟨queue, _⟩, haccess, heq⟩ := hstep
    cases heq
    exact producer_of_consumer (Or.inr (Or.inr rfl)) haccess

/-- **Step lemma**: in a call of `try_send`, an access of the main thread leaves one less, and
nothing else makes a difference. -/
lemma sendRemaining_step (hinv : UdpTransmitter.Invariant own process.transmitter)
    (hmain : process.main = .inTrySend)
    (hcall : process.transmitter.control.call = some (.trySend packet)) {action : Action}
    (hstep : process.step arguments action = some (process', events)) :
    sendRemaining process'.transmitter + (if action.isControl then 1 else 0) ≤
      sendRemaining process.transmitter := by
  cases action with
  | control =>
    obtain ⟨t', heard, hcontrol, hless⟩ := exists_controlStep hinv hcall
    have hown := step_of_transmit (show process.transmit arguments .control = _ from hstep)
    obtain ⟨rfl, -⟩ := Prod.mk.inj (Option.some_inj.mp (hcontrol.symm.trans hown))
    exact hless
  | worker =>
    have hown := step_of_transmit (show process.transmit arguments .worker = _ from hstep)
    exact (sendRemaining_of_workerStep hown).le
  | sendto bytesSent =>
    have hown :=
      step_of_transmit (show process.transmit arguments (.sendto bytesSent) = _ from hstep)
    simp only [UdpTransmitter.step] at hown
    split at hown
    · obtain ⟨heq, -⟩ := Prod.mk.inj (Option.some_inj.mp hown)
      rw [← heq]
      exact le_rfl
    · cases hown
  | socket result =>
    have hown := step_of_transmit (show process.transmit arguments (.socket result) = _ from hstep)
    simp only [UdpTransmitter.step] at hown
    split at hown
    · next hpc =>
      rw [hpc] at hcall
      cases hcall
    · cases hown
  | startControl result =>
    simp only [step, hmain] at hstep
    cases hstep
  | main faultFlags =>
    simp only [step, mainStep, hmain] at hstep
    cases hstep

/-- The main thread stays in `try_send` or goes back to the loop. -/
lemma Move.of_inTrySend (hmove : Move arguments process process' events)
    (hmain : process.main = .inTrySend) :
    process'.main = .inTrySend ∨ process'.main = .looping := by
  cases hmove with
  | trySendReturned hmain' packet result transmitter hcall =>
    exact Or.inr (finishPass_calls { process with transmitter }).1
  | inside transmitter own hcall hquiet => exact Or.inl hmain
  | controlStarted hmain' => exact absurd (hmain.symm.trans hmain') MainState.noConfusion
  | controlFailed hmain' => exact absurd (hmain.symm.trans hmain') MainState.noConfusion
  | offline hmain' => exact absurd (hmain.symm.trans hmain') MainState.noConfusion
  | start hmain' => exact absurd (hmain.symm.trans hmain') MainState.noConfusion
  | started hmain' => exact absurd (hmain.symm.trans hmain') MainState.noConfusion
  | startFailed hmain' => exact absurd (hmain.symm.trans hmain') MainState.noConfusion
  | passed hmain' => exact absurd (hmain.symm.trans hmain') MainState.noConfusion
  | trySend hmain' => exact absurd (hmain.symm.trans hmain') MainState.noConfusion
  | ended hmain' => exact absurd (hmain.symm.trans hmain') MainState.noConfusion
  | stop hmain' => exact absurd (hmain.symm.trans hmain') MainState.noConfusion
  | stopped hmain' => exact absurd (hmain.symm.trans hmain') MainState.noConfusion

/-- **The loop never waits for the network.** Whenever the main thread is in `try_send`, its next
access can be made, whatever the worker and the network are doing; and after at most four further
accesses of its own, however many the worker makes in between, it is back in the loop. -/
theorem loop_never_waits {actions : List Action}
    (hrun : (system arguments).run actions = some (process, trace))
    (hmain : process.main = .inTrySend) :
    (∃ next, process.step arguments .control = some next) ∧
      ∀ later process' trace', (system arguments).run (actions ++ later) = some (process', trace') →
        later.countP Action.isControl ≤ 4 ∨
          ∃ earlier process'' trace'', earlier <+: later ∧
            (system arguments).run (actions ++ earlier) = some (process'', trace'') ∧
            process''.main = .looping := by
  obtain ⟨⟨hcalls, -⟩, ⟨howned, -⟩, -⟩ := invariant_of_run arguments hrun
  rw [hmain] at hcalls
  obtain ⟨⟨packet, hcall⟩, -⟩ := hcalls
  constructor
  · obtain ⟨t', heard, hcontrol, -⟩ := exists_controlStep howned hcall
    show ∃ next, process.transmit arguments .control = some next
    rw [transmit, show process.transmitter.step true .control = some (t', heard) from hcontrol]
    exact ⟨_, rfl⟩
  have hfive : sendRemaining process.transmitter ≤ 5 := by
    unfold sendRemaining pushRemaining
    split <;> try split
    all_goals decide
  -- as long as the call has not returned, every access of the main thread is counted
  have hcount : ∀ later process' trace',
      (system arguments).run (actions ++ later) = some (process', trace') →
      (process'.main = .inTrySend ∧ later.countP Action.isControl +
          sendRemaining process'.transmitter ≤ sendRemaining process.transmitter) ∨
        ∃ earlier process'' trace'', earlier <+: later ∧
          (system arguments).run (actions ++ earlier) = some (process'', trace'') ∧
          process''.main = .looping := by
    intro later
    induction later using List.reverseRecOn with
    | nil =>
      intro process' trace' hrun'
      rw [List.append_nil, hrun] at hrun'
      obtain ⟨rfl, -⟩ := Prod.mk.inj (Option.some_inj.mp hrun')
      exact Or.inl ⟨hmain, (Nat.zero_add _).le⟩
    | append_singleton later action ih =>
      intro process' trace' hrun'
      rw [← List.append_assoc] at hrun'
      obtain ⟨process₀, trace₀, events, hrun₀, hstep, rfl⟩ := System.run_concat_eq_some _ hrun'
      rcases ih process₀ trace₀ hrun₀ with ⟨hmain₀, hle⟩ |
        ⟨earlier, process'', trace'', hprefix, hreached, hlooping⟩
      · obtain ⟨⟨hcalls₀, -⟩, ⟨howned₀, -⟩, -⟩ := invariant_of_run arguments hrun₀
        have hmove := move_of_step howned₀ hcalls₀ hstep
        rw [hmain₀] at hcalls₀
        obtain ⟨⟨packet₀, hcall₀⟩, -⟩ := hcalls₀
        have hless := sendRemaining_step howned₀ hmain₀ hcall₀ hstep
        rcases hmove.of_inTrySend hmain₀ with hstays | hlooping
        · refine Or.inl ⟨hstays, ?_⟩
          rw [List.countP_append, List.countP_singleton]
          omega
        · exact Or.inr ⟨later ++ [action], process', _, List.prefix_rfl,
            by rw [← List.append_assoc]; exact hrun', hlooping⟩
      · exact Or.inr ⟨earlier, process'', trace'', hprefix.trans (List.prefix_append _ _),
          hreached, hlooping⟩
  intro later process' trace' hrun'
  rcases hcount later process' trace' hrun' with ⟨hmain', hle⟩ | hreached
  · obtain ⟨⟨hcalls', -⟩, -⟩ := invariant_of_run arguments hrun'
    rw [hmain'] at hcalls'
    obtain ⟨⟨packet', hcall'⟩, -⟩ := hcalls'
    have hpos : 0 < sendRemaining process'.transmitter := by
      unfold sendRemaining
      cases hpc : process'.transmitter.control <;> rw [hpc] at hcall' <;>
        simp [ControlState.call] at hcall' ⊢
    exact Or.inl (by omega)
  · exact Or.inr hreached

end Waiting

omit [Libm] in
/-- The packet is being given to the transmitter. -/
theorem loop_never_waits_onePass : ∃ process trace,
    (@system padLibm (passes 1)).run (untilLoop ++ [.main 0]) = some (process, trace) ∧
      ∃ next, @step padLibm (passes 1) process .control = some next := by
  let libm := padLibm
  have hcheck : ((system (passes 1)).run (untilLoop ++ [.main 0])).any (fun now =>
      now.1.main == .inTrySend) = true := by decide +kernel
  obtain ⟨⟨process, trace⟩, hrun, hplace⟩ := (Option.any_eq_true _ _).mp hcheck
  exact ⟨process, trace, hrun, (loop_never_waits hrun (beq_iff_eq.mp hplace)).1⟩

end SimulatorProcess

end FlightDeck.Generator
