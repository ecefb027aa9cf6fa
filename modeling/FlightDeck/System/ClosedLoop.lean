import FlightDeck.System.CommandAnswers
import FlightDeck.System.ControlConvergence
import FlightDeck.System.SampleOrigin
import FlightDeck.System.ShownPackets

set_option relaxedAutoImplicit false
set_option autoImplicit false

/-!
# The closed loop

Commands go from the dashboards through the server to the simulator, and samples come back. The
two ways meet in the fault flags of the simulator, which the thread that serves the control link
sets and the main thread reads once in a pass. Everything interleaves: the two threads that send
packets, the browsers and their sockets, the server and the control link. The network may drop,
repeat and reorder datagrams at will. Whether the control server listens yet is left open.

## Main definitions

* `ClosedLoop`, `ClosedLoop.system` — the whole system.
* `ClosedLoop.passes` — the flags read in the passes so far.
* `ClosedLoop.Recorded` — a sample that tells what was simulated in a pass.
* `isActive` — what the button of a fault shows.

## Main results

* `ClosedLoop.isPart_loop`, `ClosedLoop.isPart_process` — the parts run as they do alone.
* `ClosedLoop.holds_of_run` — every sample tells what was simulated in its pass.
* `ClosedLoop.isInvariant_reads` — a pass reads what the commands executed so far have left.
* `ClosedLoop.acknowledged_shows` — an acknowledged command shows on every screen.
* `ClosedLoop.active_commanded` — a fault that shows was asked for.
-/

namespace FlightDeck.System

open Server Generator Dashboard TransitionSystem Replay

/-! ## The buttons -/

/-- The masks of `FAULTS` in `dashboard/src/App.tsx`. -/
def buttonMask : FaultType → ℕ
  | .thrusterLoss => 1
  | .sensorNoise => 2
  | .packetLoss => 4

/-- `active` of the button of a fault, from the latest sample. -/
def isActive (fault : FaultType) (sample : Option TelemetrySample) : Bool :=
  JsInt.and ((sample.map (·.faultFlags)).getD 0 : ℕ) (buttonMask fault) ≠ 0

/-- The bit of a fault. -/
def faultIndex : FaultType → ℕ
  | .thrusterLoss => 0
  | .sensorNoise => 1
  | .packetLoss => 2

/-- The simulator's masks are these bits. -/
lemma getLsbD_faultMask (fault other : FaultType) :
    (faultMask other.name).getLsbD (faultIndex fault) = decide (other = fault) := by
  cases fault <;> cases other <;> decide

/-- So are those of the dashboard. -/
lemma isActive_eq_getLsbD (fault : FaultType) {sample : TelemetrySample} {flags : BitVec 32}
    (h : sample.faultFlags = flags.toNat) :
    isActive fault (some sample) = flags.getLsbD (faultIndex fault) := by
  have hmask : buttonMask fault = 2 ^ faultIndex fault := by cases fault <;> rfl
  have hlt : faultIndex fault < 32 := by cases fault <;> decide
  have hbits : JsInt.bits ((flags.toNat : ℕ) : ℤ) = flags := by
    rw [JsInt.bits, BitVec.ofInt_natCast, BitVec.ofNat_toNat, BitVec.setWidth_eq]
  have hiff := JsInt.and_two_pow_ne_zero (flags.toNat : ℤ) hlt
  rw [hbits] at hiff
  rw [Bool.eq_iff_iff, isActive, Option.map_some, Option.getD_some, h, hmask, decide_eq_true_eq]
  exact hiff

/-! ## The system -/

/-- The browsers, the server, the control link, the simulator and the network. -/
structure ClosedLoop (capacity : ℕ+) where
  /-- All but the simulator's main thread and its transmitter. -/
  loop : CommandLoop capacity := {}
  /-- These two. -/
  process : SimulatorProcess := {}
  /-- The datagrams that `sendto` was called with. -/
  network : List Protocol.TelemetryBytes := []

namespace ClosedLoop

variable {capacity : ℕ+}

/-- What happens next. -/
inductive Action where
  /-- Something at the browsers, the server or the control link, but the arrival of a datagram. -/
  | loop (action : CommandLoop.Action)
  /-- A thread of the simulator goes on. -/
  | process (action : SimulatorProcess.Action)
  /-- A datagram arrives at the server at some time. -/
  | arrive (i receivedAtMs : ℕ)

/-- What can be told of a run. -/
inductive Event where
  /-- At the browsers, the server or the control link. -/
  | loop (event : CommandLoop.Event)
  /-- In the simulator. -/
  | process (event : SimulatorProcess.Event)

/-- `control_server.fault_flags()`: what the main thread reads is there. -/
def readsFlags (link : ControlLink) : SimulatorProcess.Action → Bool
  | .main faultFlags => faultFlags == link.faultFlags
  | _ => true

/-- One event. -/
def step [Libm] (arguments : Arguments) (whole : ClosedLoop capacity) :
    Action → Option (ClosedLoop capacity × List Event)
  | .loop action =>
    match action with
    | .datagram _ => none
    | action =>
      (whole.loop.step action).map fun result =>
        ({ whole with loop := result.1 }, result.2.map .loop)
  | .process action =>
    if readsFlags whole.loop.link action then
      (whole.process.step arguments action).map fun result =>
        ({ whole with
            process := result.1
            network := whole.network ++
              UdpTransmitter.handed (result.2.filterMap SimulatorProcess.transmitterEvent) },
          result.2.map .process)
    else none
  | .arrive i receivedAtMs =>
    match whole.network[i]? with
    | none => none
    | some packet =>
      (whole.loop.step (.datagram { packet := packet.1, receivedAtMs })).map fun result =>
        ({ whole with loop := result.1 }, result.2.map .loop)

/-- The whole system under every order of events. -/
def system [Libm] (capacity : ℕ+) (arguments : Arguments) :
    System (ClosedLoop capacity) Action Event where
  init := {}
  step := step arguments

/-! ## What a run shows -/

/-- An event at the browsers, the server or the control link. -/
def loopEvent : Event → Option CommandLoop.Event
  | .loop event => some event
  | _ => none

/-- An event in the simulator. -/
def processEvent : Event → Option SimulatorProcess.Event
  | .process event => some event
  | _ => none

/-- What happened at the browsers, the server and the control link. -/
def loopTrace (trace : List Event) : List CommandLoop.Event := trace.filterMap loopEvent

/-- What happened on the control link. -/
def linkTrace (trace : List Event) : List ControlLink.Event :=
  CommandLoop.controlTrace (loopTrace trace)

/-- What happened in the simulator. -/
def processTrace (trace : List Event) : List SimulatorProcess.Event :=
  trace.filterMap processEvent

/-- The flags read in the passes so far. -/
def passes (trace : List Event) : List (BitVec 32) :=
  SimulatorProcess.flagsRead (processTrace trace)

/-- The flags read in every pass; none after the last one. -/
def flagsRead (trace : List Event) (i : ℕ) : BitVec 32 := (passes trace).getD i 0

/-- The sample tells what was simulated in the pass of its number. -/
structure Recorded [Libm] (trace : List Event) (sample : TelemetrySample) : Prop where
  /-- There was such a pass. -/
  lt : sample.sequence < (passes trace).length
  /-- It says what the packet of the pass says. -/
  shows : Shows (Simulator.packet (flagsRead trace) sample.sequence) sample

section Traces

variable (trace events : List Event)

lemma linkTrace_append : linkTrace (trace ++ events) = linkTrace trace ++ linkTrace events := by
  rw [linkTrace, loopTrace, List.filterMap_append, CommandLoop.controlTrace_append]
  rfl

lemma passes_append : passes (trace ++ events) = passes trace ++ passes events := by
  rw [passes, processTrace, List.filterMap_append, SimulatorProcess.flagsRead_append]
  rfl

/-- What happens at the browsers, the server or the control link shows there, and only there. -/
lemma map_loop (events : List CommandLoop.Event) :
    (events.map Event.loop).filterMap loopEvent = events ∧
      (events.map Event.loop).filterMap processEvent = [] := by
  rw [List.filterMap_map, List.filterMap_map]
  exact ⟨List.filterMap_some, List.filterMap_eq_nil_iff.mpr fun _ _ => rfl⟩

/-- So does what happens in the simulator. -/
lemma map_process (events : List SimulatorProcess.Event) :
    (events.map Event.process).filterMap processEvent = events ∧
      (events.map Event.process).filterMap loopEvent = [] := by
  rw [List.filterMap_map, List.filterMap_map]
  exact ⟨List.filterMap_some, List.filterMap_eq_nil_iff.mpr fun _ _ => rfl⟩

variable {trace} {sample : TelemetrySample}

/-- The flags of the passes so far stay what they are. -/
lemma flagsRead_append (events : List Event) {i : ℕ} (h : i < (passes trace).length) :
    flagsRead (trace ++ events) i = flagsRead trace i := by
  rw [flagsRead, flagsRead, passes_append, List.getD_append _ _ _ _ h]

variable [Libm]

/-- A sample that tells of a pass always does. -/
lemma Recorded.append (h : Recorded trace sample) (events : List Event) :
    Recorded (trace ++ events) sample where
  lt := by
    rw [passes_append, List.length_append]
    exact lt_of_lt_of_le h.lt (Nat.le_add_right _ _)
  shows := by
    have hsame : Simulator.packet (flagsRead (trace ++ events)) sample.sequence =
        Simulator.packet (flagsRead trace) sample.sequence :=
      packet_congr fun j hj => flagsRead_append events (lt_of_le_of_lt hj h.lt)
    rw [hsame]
    exact h.shows

/-- It has the flags that the pass has read. -/
lemma Recorded.faultFlags (h : Recorded trace sample) :
    ∃ flags, (passes trace)[sample.sequence]? = some flags ∧
      sample.faultFlags = flags.toNat := by
  refine ⟨flagsRead trace sample.sequence, ?_, ?_⟩
  · rw [flagsRead, List.getD_eq_getElem _ _ h.lt]
    exact List.getElem?_eq_getElem h.lt
  · rw [h.shows.faultFlags, packet_eq]
    rfl

end Traces

/-! ## The parts -/

section Parts

variable [Libm] {arguments : Arguments} {whole whole' : ClosedLoop capacity}
  {trace events : List Event}

/-- What an event is to the parts. -/
lemma step_cases {action : Action} (hstep : whole.step arguments action = some (whole', events)) :
    (∃ own shown, whole.loop.step own = some (whole'.loop, shown) ∧
        whole'.process = whole.process ∧ whole'.network = whole.network ∧
        events = shown.map .loop ∧
        ∀ datagram, own = .datagram datagram →
          ∃ packet ∈ whole.network, datagram.packet = packet.1) ∨
      ∃ own shown, whole.process.step arguments own = some (whole'.process, shown) ∧
        whole'.loop = whole.loop ∧ readsFlags whole.loop.link own = true ∧
        whole'.network = whole.network ++
          UdpTransmitter.handed (shown.filterMap SimulatorProcess.transmitterEvent) ∧
        events = shown.map .process := by
  cases action with
  | loop action =>
    have hown : (∀ datagram, action ≠ .datagram datagram) ∧
        (whole.loop.step action).map (fun result =>
          (({ whole with loop := result.1 } : ClosedLoop capacity),
            result.2.map Event.loop)) = some (whole', events) := by
      cases action with
      | datagram datagram => cases hstep
      | _ => exact ⟨fun _ => CommandLoop.Action.noConfusion, hstep⟩
    obtain ⟨hnone, hmap⟩ := hown
    obtain ⟨⟨loop, shown⟩, hloop, heq⟩ := Option.map_eq_some_iff.mp hmap
    obtain ⟨rfl, rfl⟩ := Prod.mk.inj heq
    exact Or.inl ⟨action, shown, hloop, rfl, rfl, rfl, fun datagram heq =>
      absurd heq (hnone datagram)⟩
  | process action =>
    obtain ⟨hreads, hmap⟩ := Option.ite_none_right_eq_some.mp hstep
    obtain ⟨⟨process, shown⟩, hprocess, heq⟩ := Option.map_eq_some_iff.mp hmap
    obtain ⟨rfl, rfl⟩ := Prod.mk.inj heq
    exact Or.inr ⟨action, shown, hprocess, rfl, hreads, rfl, rfl⟩
  | arrive i receivedAtMs =>
    simp only [step] at hstep
    cases hget : whole.network[i]? with
    | none =>
      rw [hget] at hstep
      cases hstep
    | some packet =>
      rw [hget] at hstep
      obtain ⟨⟨loop, shown⟩, hloop, heq⟩ := Option.map_eq_some_iff.mp hstep
      obtain ⟨rfl, rfl⟩ := Prod.mk.inj heq
      refine Or.inl ⟨_, shown, hloop, rfl, rfl, rfl, fun datagram heq => ?_⟩
      obtain rfl := CommandLoop.Action.datagram.inj heq
      exact ⟨packet, List.mem_of_getElem? hget, rfl⟩

/-- The browsers, the server and the control link run as they do alone. -/
lemma isPart_loop (capacity : ℕ+) (arguments : Arguments) :
    (system capacity arguments).IsPart (CommandLoop.system capacity) loop loopEvent where
  start := rfl
  step whole action whole' events hstep := by
    rcases step_cases hstep with ⟨own, shown, hown, -, -, rfl, -⟩ |
      ⟨own, shown, -, hsame, -, -, rfl⟩
    · refine Or.inr ⟨own, ?_⟩
      rw [(map_loop shown).1]
      exact hown
    · exact Or.inl ⟨hsame, (map_process shown).2⟩

/-- So does the simulator. -/
lemma isPart_process (capacity : ℕ+) (arguments : Arguments) :
    (system capacity arguments).IsPart (SimulatorProcess.system arguments) process
      processEvent where
  start := rfl
  step whole action whole' events hstep := by
    rcases step_cases hstep with ⟨own, shown, -, hsame, -, rfl, -⟩ |
      ⟨own, shown, hown, -, -, -, rfl⟩
    · exact Or.inl ⟨hsame, (map_loop shown).2⟩
    · refine Or.inr ⟨own, ?_⟩
      rw [(map_process shown).1]
      exact hown

/-- The network has what was handed to it. -/
lemma isInvariant_network (capacity : ℕ+) (arguments : Arguments) :
    (system capacity arguments).IsInvariant fun trace whole => whole.network =
      UdpTransmitter.handed ((processTrace trace).filterMap SimulatorProcess.transmitterEvent) where
  start := rfl
  keep trace whole action whole' events _ h hstep := by
    dsimp only [processTrace]
    rw [List.filterMap_append]
    rcases step_cases hstep with ⟨own, shown, -, -, hsame, rfl, -⟩ |
      ⟨own, shown, -, -, -, hgrown, rfl⟩
    · rw [(map_loop shown).2, List.append_nil, hsame]
      exact h
    · rw [(map_process shown).1, List.filterMap_append, UdpTransmitter.handed_append, hgrown, h]
      rfl

end Parts

/-! ## Samples -/

section Samples

variable [Libm] [LawfulLibm] {arguments : Arguments} {whole : ClosedLoop capacity}
  {trace : List Event}

omit [LawfulLibm] in
/-- The passes are those of the simulator's loop, and what is handed to the network comes from
them. -/
lemma executes_of_run {actions : List Action}
    (hrun : (system capacity arguments).run actions = some (whole, trace)) :
    Executes arguments.options (flagsRead trace) (passes trace).length ∧
      (whole.network.map Subtype.val).Sublist ((List.range (passes trace).length).filterMap
        (Simulator.sent arguments.options (flagsRead trace))) := by
  obtain ⟨own, hown⟩ := (isPart_process capacity arguments).exists_run hrun
  have hflags : SimulatorProcess.flagsRead (processTrace trace) =
      (List.range (passes trace).length).map (flagsRead trace) := by
    apply List.ext_getElem
    · rw [List.length_map, List.length_range, passes]
    · intro i hi hi'
      rw [List.getElem_map, List.getElem_range]
      exact (List.getD_eq_getElem _ _ hi).symm
  rw [(isInvariant_network capacity arguments).of_run hrun]
  exact SimulatorProcess.handed_sublist_sent hown hflags

/-- A datagram that decodes tells what was simulated. -/
lemma recorded_of_network {actions : List Action}
    (hrun : (system capacity arguments).run actions = some (whole, trace))
    (hpasses : (passes trace).length ≤ 2 ^ 31) {datagram : Datagram}
    {packet : Protocol.TelemetryBytes} (hmem : packet ∈ whole.network)
    (hpacket : datagram.packet = packet.1) {sample : TelemetrySample}
    (hsample : datagram.sample? = some sample) : Recorded trace sample := by
  obtain ⟨-, hsent⟩ := executes_of_run hrun
  obtain ⟨i, hi, hbytes⟩ := List.mem_filterMap.mp (hsent.mem (List.mem_map_of_mem hmem))
  have hlt := List.mem_range.mp hi
  have hform := of_sent (hlt.trans_le hpasses) hbytes
  cases hintact : isIntact arguments.options i with
  | false =>
    -- The damaged packet does not decode.
    rw [hintact, if_neg Bool.false_ne_true] at hform
    have hnone : datagram.sample? = none := by
      show (decodeTelemetry datagram.packet datagram.receivedAtMs).toOption = _
      rw [hpacket, hform]
      exact (rejected_damaged _).2 _
    rw [hsample] at hnone
    cases hnone
  | true =>
    rw [hintact, if_pos rfl] at hform
    have hstep : ({ step := i, datagram } : Arrival).step < (passes trace).length := hlt
    obtain ⟨sample', hsample', hagrees, hsequence, htime⟩ :=
      exists_sample_agrees hpasses hstep (hpacket.trans hform)
    obtain rfl : sample = sample' := Option.some_inj.mp (hsample.symm.trans hsample')
    obtain rfl : sample.sequence = i := hsequence
    exact ⟨hlt, shows_of_agrees hagrees htime⟩

/-- **Run lemma**: every sample that anybody holds tells what was simulated in its pass. -/
lemma holds_of_run {actions : List Action}
    (hrun : (system capacity arguments).run actions = some (whole, trace))
    (hpasses : (passes trace).length ≤ 2 ^ 31) : whole.loop.Holds (Recorded trace) := by
  induction actions using List.reverseRecOn generalizing whole trace with
  | nil =>
    obtain ⟨rfl, rfl⟩ : (system capacity arguments).init = whole ∧ [] = trace := by
      simpa using hrun
    exact CommandLoop.Holds.init
  | append_singleton actions action ih =>
    obtain ⟨before, earlier, events, hbefore, hstep, rfl⟩ := System.run_concat_eq_some _ hrun
    have hearlier : (passes earlier).length ≤ 2 ^ 31 := by
      rw [passes_append, List.length_append] at hpasses
      omega
    have hheld := (ih hbefore hearlier).mono fun sample h => h.append events
    rcases step_cases hstep with ⟨own, shown, hown, -, -, -, hdatagram⟩ |
      ⟨own, shown, -, hsame, -⟩
    · have hover : ∀ sample : TelemetrySample, Recorded (earlier ++ events) sample →
          Recorded (earlier ++ events) sample.overJson := fun _ h => ⟨h.lt, h.shows.overJson⟩
      refine hheld.step hover hown fun datagram heq sample hsample => ?_
      obtain ⟨packet, hmem, hpacket⟩ := hdatagram datagram heq
      exact (recorded_of_network hbefore hearlier hmem hpacket hsample).append events
    · rw [hsame]
      exact hheld

end Samples

/-! ## Passes -/

section Passes

variable [Libm] {arguments : Arguments} {whole : ClosedLoop capacity} {trace events : List Event}

omit [Libm] in
/-- The end of a pass reads no flags. -/
lemma passed_notMem_finishPass (process : SimulatorProcess) (flags : BitVec 32) :
    .passed flags ∉ process.finishPass.2 := by
  unfold SimulatorProcess.finishPass
  dsimp only
  split <;> simp

omit [Libm] in
/-- A call of the transmitter that returns reads no flags. -/
lemma passed_notMem_resume (process : SimulatorProcess) (arguments : Arguments)
    (returned : Option UdpTransmitter.Event) (flags : BitVec 32) :
    .passed flags ∉ (process.resume arguments returned).2 := by
  unfold SimulatorProcess.resume
  split
  · simp [SimulatorProcess.enterLoop]
  · simp
  · exact passed_notMem_finishPass _ flags
  · simp [SimulatorProcess.finish]
  · simp

omit [Libm] in
/-- Nor does anything else in the transmitter. -/
lemma passed_notMem_transmit {process process' : SimulatorProcess}
    {action : UdpTransmitter.Action} {shown : List SimulatorProcess.Event}
    (hstep : process.transmit arguments action = some (process', shown)) (flags : BitVec 32) :
    .passed flags ∉ shown := by
  obtain ⟨⟨transmitter, own⟩, -, heq⟩ := Option.map_eq_some_iff.mp hstep
  obtain ⟨rfl, rfl⟩ := Prod.mk.inj heq
  intro hmem
  rcases List.mem_append.mp hmem with hmem | hmem
  · obtain ⟨event, -, hevent⟩ := List.mem_map.mp hmem
    cases hevent
  · exact passed_notMem_resume _ _ _ _ hmem

/-- Only a pass reads flags, and it reads those it is given. -/
lemma eq_main_of_passed {process process' : SimulatorProcess} {action : SimulatorProcess.Action}
    {shown : List SimulatorProcess.Event}
    (hstep : process.step arguments action = some (process', shown)) {flags : BitVec 32}
    (hmem : .passed flags ∈ shown) : action = .main flags := by
  cases action with
  | startControl result =>
    simp only [SimulatorProcess.step] at hstep
    split at hstep
    · obtain ⟨-, heq⟩ := Option.ite_none_right_eq_some.mp hstep
      cases result <;> obtain ⟨-, rfl⟩ := Prod.mk.inj (Option.some_inj.mp heq) <;> simp at hmem
    · cases hstep
  | main faultFlags =>
    simp only [SimulatorProcess.step, SimulatorProcess.mainStep] at hstep
    split at hstep
    · obtain ⟨-, heq⟩ := Option.ite_none_left_eq_some.mp hstep
      obtain ⟨-, rfl⟩ := Prod.mk.inj (Option.some_inj.mp heq)
      exact absurd hmem List.not_mem_nil
    · split at hstep
      · exact absurd hmem (passed_notMem_transmit hstep flags)
      · obtain ⟨-, rfl⟩ := Prod.mk.inj (Option.some_inj.mp hstep)
        simp at hmem
    · split at hstep
      · -- A pass is made.
        unfold SimulatorProcess.pass at hstep
        dsimp only at hstep
        split at hstep
        · obtain ⟨⟨sent, own⟩, htransmit, heq⟩ := Option.map_eq_some_iff.mp hstep
          obtain ⟨-, rfl⟩ := Prod.mk.inj heq
          rcases List.mem_cons.mp hmem with hsame | hmem
          · rw [SimulatorProcess.Event.passed.inj hsame]
          · exact absurd hmem (passed_notMem_transmit htransmit flags)
        · obtain ⟨-, rfl⟩ := Prod.mk.inj (Option.some_inj.mp hstep)
          rcases List.mem_cons.mp hmem with hsame | hmem
          · rw [SimulatorProcess.Event.passed.inj hsame]
          · exact absurd hmem (passed_notMem_finishPass _ flags)
      · obtain ⟨-, rfl⟩ := Prod.mk.inj (Option.some_inj.mp hstep)
        exact absurd hmem List.not_mem_nil
    · exact absurd hmem (passed_notMem_transmit hstep flags)
    · cases hstep
  | _ => exact absurd hmem (passed_notMem_transmit hstep flags)

/-- Whenever a pass read flags, they were those of the control server, and the trace so far
accounted for it. -/
def Reads (trace : List Event) : Prop :=
  ∀ before flags after, trace = before ++ .process (.passed flags) :: after →
    ((ControlLink.accepted (linkTrace before)).map (·.id)).Nodup →
      ∃ acked executed p link,
        ControlLink.Account (linkTrace before) acked executed p link ∧ link.faultFlags = flags

/-- **Run lemma**: a pass reads what the commands executed so far have left. -/
lemma isInvariant_reads (capacity : ℕ+) (arguments : Arguments) :
    (system capacity arguments).IsInvariant fun trace whole =>
      ControlLink.Tracks (linkTrace trace) whole.loop.link ∧ Reads trace := by
  have htracks := (isPart_loop capacity arguments).isInvariant
    (CommandLoop.isInvariant_tracks capacity)
  refine System.IsInvariant.and htracks ⟨fun before flags after heq => ?_, ?_⟩
  · exact absurd heq (by simp)
  · intro trace whole action whole' events hnow hreads hstep before flags after heq hids
    have hnew : ∀ middle, before = trace ++ middle →
        events = middle ++ .process (.passed flags) :: after → ∃ acked executed p link,
          ControlLink.Account (linkTrace before) acked executed p link ∧
            link.faultFlags = flags := by
      rintro middle rfl hevents
      have hmem : .process (.passed flags) ∈ events := by
        rw [hevents]
        simp
      rcases step_cases hstep with ⟨own, shown, -, -, -, rfl, -⟩ |
        ⟨own, shown, hown, -, hflags, -, rfl⟩
      · obtain ⟨event, -, heq⟩ := List.mem_map.mp hmem
        cases heq
      · obtain ⟨event, hevent, heq⟩ := List.mem_map.mp hmem
        obtain rfl := Event.process.inj heq
        rw [eq_main_of_passed hown hevent] at hflags
        -- Nothing happened on the control link meanwhile.
        have hsilent : linkTrace middle = [] := by
          have hnone := (map_process shown).2
          rw [hevents, List.filterMap_append, List.append_eq_nil_iff] at hnone
          rw [linkTrace, loopTrace, hnone.1]
          rfl
        rw [linkTrace_append, hsilent, List.append_nil] at hids ⊢
        obtain ⟨acked, executed, p, hacc⟩ := hnow hids
        exact ⟨acked, executed, p, whole.loop.link, hacc, (beq_iff_eq.mp hflags).symm⟩
    rcases List.append_eq_append_iff.mp heq with ⟨middle, hbefore, hevents⟩ |
      ⟨middle, htrace, hafter⟩
    · exact hnew middle hbefore hevents
    · cases middle with
      | nil =>
        rw [List.append_nil] at htrace
        exact hnew [] (by rw [htrace, List.append_nil]) hafter.symm
      | cons event middle =>
        obtain ⟨rfl, rfl⟩ := List.cons_eq_cons.mp hafter
        exact hreads before flags middle htrace hids

end Passes

/-! ## What the operators see -/

section Shows

variable [Libm] [LawfulLibm] {arguments : Arguments} {whole later : ClosedLoop capacity}
  {trace trace' : List Event}

omit [Libm] [LawfulLibm] in
/-- The flags that a pass has read, and when. -/
lemma exists_of_getElem?_passes {i : ℕ} {flags : BitVec 32}
    (h : (passes trace)[i]? = some flags) :
    ∃ before after, trace = before ++ .process (.passed flags) :: after ∧
      (passes before).length = i := by
  induction trace generalizing i with
  | nil => cases h
  | cons event trace ih =>
    have hcons : passes (event :: trace) = passes [event] ++ passes trace :=
      passes_append [event] trace
    have hlater : (passes trace)[i - (passes [event]).length]? = some flags →
        (passes [event]).length ≤ i → ∃ before after,
          event :: trace = before ++ .process (.passed flags) :: after ∧
            (passes before).length = i := by
      intro hget hle
      obtain ⟨before, after, rfl, hlength⟩ := ih hget
      have hgrown : passes (event :: before) = passes [event] ++ passes before :=
        passes_append [event] before
      refine ⟨event :: before, after, rfl, ?_⟩
      rw [hgrown, List.length_append, hlength, Nat.add_sub_cancel' hle]
    rw [hcons] at h
    rcases lt_or_ge i (passes [event]).length with hlt | hle
    · -- This event is the pass.
      rw [List.getElem?_append_left hlt] at h
      cases event with
      | loop event => cases h
      | process event =>
        cases event with
        | passed flags' =>
          obtain rfl : i = 0 := Nat.lt_one_iff.mp hlt
          obtain rfl := Option.some_inj.mp h
          exact ⟨[], trace, rfl, rfl⟩
        | _ => cases h
    · rw [List.getElem?_append_right hle] at h
      exact hlater h hle

omit [Libm] [LawfulLibm] in
/-- The bit of a fault is that of the last command executed for it. -/
lemma getLsbD_of_account {shown : List ControlLink.Event} {acked p : ℕ}
    {executed : List FaultCommand} {link : ControlLink}
    (hacc : ControlLink.Account shown acked executed p link) (fault : FaultType) :
    link.faultFlags.getLsbD (faultIndex fault) =
      ((executed.filter fun command => command.fault = fault).getLast?.map
        (·.enabled)).getD false := by
  have hkind : (fun command : FaultCommand =>
      (faultMask command.fault.name).getLsbD (faultIndex fault)) =
        fun command => decide (command.fault = fault) :=
    funext fun command => getLsbD_faultMask fault command.fault
  have hregister := (isRegister_applyCommand (faultIndex fault)).observe_foldl executed 0#32
  rw [hkind, BitVec.getLsbD_zero] at hregister
  rw [hacc.invariant.flags]
  exact hregister

omit [Libm] [LawfulLibm] in
/-- The bit of an acknowledged command's fault is its own, if it is the last one accepted for the
fault. -/
lemma getLsbD_of_acknowledged {shown : List ControlLink.Event} {acked p : ℕ}
    {executed : List FaultCommand} {link : ControlLink}
    (hacc : ControlLink.Account shown acked executed p link) {command : FaultCommand}
    (hack : acknowledgementOf command ∈ ControlLink.acknowledged shown)
    (hlast : ∀ before other after, ControlLink.accepted shown = before ++ other :: after →
      other.id = command.id → ∀ next ∈ after, next.fault ≠ command.fault) :
    link.faultFlags.getLsbD (faultIndex command.fault) = command.enabled := by
  rw [hacc.acknowledged_eq] at hack
  obtain ⟨issued, hissued, hsame⟩ := List.mem_map.mp hack
  obtain ⟨hid, hsetting⟩ := Prod.mk.inj hsame
  obtain ⟨hfault, henabled⟩ := Prod.mk.inj hsetting
  obtain ⟨i, hi, hget⟩ := List.mem_take_iff_getElem.mp hissued
  have hlt : i < acked ∧ i < (ControlLink.accepted shown).length := lt_min_iff.mp hi
  have hissuedAt : (ControlLink.accepted shown)[i]? = some issued := by
    rw [List.getElem?_eq_getElem hlt.2, hget]
  have hsplit : ControlLink.accepted shown = (ControlLink.accepted shown).take i ++
      issued :: (ControlLink.accepted shown).drop (i + 1) := by
    have hdrop := List.drop_eq_getElem_cons hlt.2
    rw [hget] at hdrop
    rw [← hdrop, List.take_append_drop]
  have hnext := hlast _ issued _ hsplit hid
  have hnone : ∀ j other, i < j → (ControlLink.accepted shown)[j]? = some other →
      decide (other.fault = command.fault) = false := by
    intro j other hj hother
    have hdrop : ((ControlLink.accepted shown).drop (i + 1))[j - (i + 1)]? = some other := by
      rw [List.getElem?_drop, Nat.add_sub_cancel' hj, hother]
    exact decide_eq_false (hnext other (List.mem_of_getElem? hdrop))
  have hsettled : (executed.filter fun other => other.fault = command.fault).getLast? =
      some issued :=
    hacc.invariant.settled.getLast?_filter_of_last
      (lt_of_lt_of_le hlt.1 hacc.invariant.acked_le) hissuedAt (decide_eq_true hfault) hnone
  rw [getLsbD_of_account hacc, hsettled]
  exact henabled

/-- **An acknowledged command shows.** Once a dashboard says that a command is acknowledged, every
sample that any dashboard ever shows of a later pass has the fault as the command set it, unless
another command for the fault is accepted after it. -/
theorem acknowledged_shows {actions more : List Action}
    (hrun : (system capacity arguments).run actions = some (whole, trace))
    (hmore : (system capacity arguments).run (actions ++ more) = some (later, trace'))
    (hids : CommandLoop.Distinct (loopTrace trace')) (hpasses : (passes trace').length ≤ 2 ^ 31)
    {k : ℕ} {shown : CommandState}
    (hshown : (whole.loop.browsers k).hook.shown.commandState = some shown)
    (hacknowledged : shown.status = .acknowledged)
    (hlast : ∀ before command after,
      ControlLink.accepted (linkTrace trace') = before ++ command :: after →
        command.id = shown.id → ∀ next ∈ after, next.fault ≠ shown.fault)
    {j : ℕ} {sample : TelemetrySample}
    (hsample : sample ∈ (later.loop.browsers j).hook.shown.samples)
    (hafter : (passes trace).length ≤ sample.sequence) :
    isActive shown.fault (some sample) = shown.enabled := by
  have hparts := (isPart_loop capacity arguments).isInvariant
    (CommandLoop.isInvariant_account capacity)
  obtain ⟨⟨hinv, -⟩, -⟩ := hparts.of_run hrun
  obtain ⟨⟨hinv', -⟩, -⟩ := hparts.of_run hmore
  obtain ⟨events, rfl⟩ := (system capacity arguments).trace_prefix_of_run hrun hmore
  obtain ⟨-, hreads⟩ := (isInvariant_reads capacity arguments).of_run hmore
  obtain ⟨flags, hget, hflags⟩ :=
    (((holds_of_run hmore hpasses).hooks j).shown sample hsample).faultFlags
  rw [passes_append, List.getElem?_append_right hafter] at hget
  obtain ⟨before, after, hevents, -⟩ := exists_of_getElem?_passes hget
  have htrace : trace ++ events = (trace ++ before) ++ .process (.passed flags) :: after := by
    rw [hevents, List.append_assoc]
  -- What was accepted before the pass, and what after it.
  obtain ⟨rest, haccepted⟩ : ∃ rest, ControlLink.accepted (linkTrace (trace ++ events)) =
      ControlLink.accepted (linkTrace (trace ++ before)) ++ rest := by
    rw [htrace, linkTrace_append, ControlLink.accepted_append]
    exact ⟨_, rfl⟩
  have hnodup : ((ControlLink.accepted (linkTrace (trace ++ events))).map (·.id)).Nodup :=
    (hinv'.accounted.nodup_settled hids).of_append_left
  rw [haccepted, List.map_append] at hnodup
  obtain ⟨acked, executed, p, link, hacc, rfl⟩ :=
    hreads _ flags after htrace hnodup.of_append_left
  have hack := (hinv.shown k).acknowledged shown hshown hacknowledged
  have hstill : (shown.id, shown.fault, shown.enabled) ∈
      ControlLink.acknowledged (linkTrace (trace ++ before)) := by
    rw [linkTrace_append, ControlLink.acknowledged_append]
    exact List.mem_append_left _ hack
  obtain ⟨command, -, hsame, -⟩ := CommandLoop.exists_of_acknowledged hacc hstill
  obtain ⟨hid, hsetting⟩ := Prod.mk.inj hsame
  obtain ⟨hfault, henabled⟩ := Prod.mk.inj hsetting
  rw [← hsame] at hstill
  have hbit := getLsbD_of_acknowledged hacc hstill fun before' other after' hsplit hother => by
    have hwhole : ControlLink.accepted (linkTrace (trace ++ events)) =
        before' ++ other :: (after' ++ rest) := by
      rw [haccepted, hsplit, List.append_assoc, List.cons_append]
    intro next hnext
    rw [hfault]
    exact hlast before' other _ hwhole (hother.trans hid) next (List.mem_append_left _ hnext)
  rw [isActive_eq_getLsbD shown.fault hflags, ← hfault, hbit, henabled]

/-- **A fault that shows was asked for**: a sample on any screen has the flags that the pass of its
number has read, and for a fault that is set in them a command of some dashboard to enable it was
executed before the pass. -/
theorem active_commanded {actions : List Action}
    (hrun : (system capacity arguments).run actions = some (whole, trace))
    (hids : CommandLoop.Distinct (loopTrace trace)) (hpasses : (passes trace).length ≤ 2 ^ 31)
    {j : ℕ} {sample : TelemetrySample}
    (hsample : sample ∈ (whole.loop.browsers j).hook.shown.samples) :
    ∃ before flags after, trace = before ++ .process (.passed flags) :: after ∧
      (passes before).length = sample.sequence ∧ sample.faultFlags = flags.toNat ∧
      ∀ fault, isActive fault (some sample) = true → ∃ k client command,
        .sent k client command ∈ loopTrace trace ∧ command.fault = fault ∧
          command.enabled = true ∧
            commandText command ∈ ControlLink.handledLines (linkTrace before) := by
  obtain ⟨⟨hinv, -⟩, -⟩ := ((isPart_loop capacity arguments).isInvariant
    (CommandLoop.isInvariant_account capacity)).of_run hrun
  obtain ⟨-, hreads⟩ := (isInvariant_reads capacity arguments).of_run hrun
  obtain ⟨flags, hget, hflags⟩ :=
    (((holds_of_run hrun hpasses).hooks j).shown sample hsample).faultFlags
  obtain ⟨before, after, rfl, hlength⟩ := exists_of_getElem?_passes hget
  refine ⟨before, flags, after, rfl, hlength, hflags, fun fault hactive => ?_⟩
  have hnodup : ((ControlLink.accepted (linkTrace
      (before ++ .process (.passed flags) :: after))).map (·.id)).Nodup :=
    (hinv.accounted.nodup_settled hids).of_append_left
  rw [linkTrace_append, ControlLink.accepted_append, List.map_append] at hnodup
  obtain ⟨acked, executed, p, link, hacc, rfl⟩ := hreads _ flags after rfl hnodup.of_append_left
  rw [isActive_eq_getLsbD fault hflags, getLsbD_of_account hacc] at hactive
  cases hlast : (executed.filter fun command => command.fault = fault).getLast? with
  | none =>
    rw [hlast] at hactive
    cases hactive
  | some command =>
    rw [hlast] at hactive
    obtain ⟨hexecuted, hfault⟩ := List.mem_filter.mp (List.mem_of_getLast? hlast)
    have haccepted : command ∈ ControlLink.accepted (CommandLoop.controlTrace (loopTrace
        (before ++ .process (.passed link.faultFlags) :: after))) := by
      show command ∈ ControlLink.accepted (linkTrace _)
      rw [linkTrace_append, ControlLink.accepted_append]
      exact List.mem_append_left _ (hacc.invariant.settled.mem command hexecuted)
    obtain ⟨client, hrequested⟩ := hinv.accounted.source command haccepted
    obtain ⟨k, hsent⟩ := CommandLoop.mem_sentOn.mp
      (hinv.accounted.perm.mem_iff.mpr (List.mem_append_left _ hrequested))
    refine ⟨k, client, command, hsent, of_decide_eq_true hfault, hactive, ?_⟩
    rw [hacc.handledLines_eq]
    exact List.mem_map_of_mem hexecuted

end Shows

/-! ## A run -/

/-- A dashboard has the thrusters fail before the simulator's first pass, and is told that it was
acknowledged. -/
def untilAcknowledged : List Action :=
  [.loop (.control .start 0), .loop (.control (.connect 0) 0), .loop (.connect 0),
    .loop (.opened 0), .loop (.deliver 0), .loop (.deliver 0), .loop (.render 0),
    .loop (.send 0 UseTelemetry.firstCommand), .loop (.request 0), .loop (.control (.accept 0) 0),
    .loop (.control (.receive 61) 0), .loop (.control (.data 0 57) 7), .loop (.deliver 0),
    .loop (.render 0)]

/-- The simulator makes a pass, and its packet is sent. -/
def onePass : List SimulatorProcess.Action :=
  [.startControl (.ok ()), .main 1, .socket (.ok 3), .control, .control, .main 1] ++
    List.replicate 5 .control ++ List.replicate 5 .worker ++ [.sendto 163]

/-- The packet arrives, and the sample is shown. -/
def untilShown : List Action :=
  onePass.map .process ++
    [.arrive 0 9, .loop (.deliver 0), .loop (.frame 0 10 true), .loop (.render 0)]

/-- The only sample shows the fault, and the only command is the reason. -/
theorem acknowledged_shows_firstPass : ∃ (later : ClosedLoop 4) (trace : List Event)
    (sample : TelemetrySample),
    (@system coarseLibm 4 { maximumSteps := 1 }).run (untilAcknowledged ++ untilShown) =
        some (later, trace) ∧
      (later.loop.browsers 0).hook.shown.samples = [sample] ∧
        isActive .thrusterLoss (some sample) = true := by
  let libm := coarseLibm
  have lawful := lawful_coarseLibm
  have hearly : ((system 4 { maximumSteps := 1 }).run untilAcknowledged).any (fun now =>
      (now.1.loop.browsers 0).hook.shown.commandState = some
          { id := UseTelemetry.firstCommand.id, fault := .thrusterLoss, enabled := true,
            status := .acknowledged } ∧
        (passes now.2).length = 0) = true := by decide +kernel
  have hlate : ((system 4 { maximumSteps := 1 }).run (untilAcknowledged ++ untilShown)).any
      (fun now => (now.1.loop.browsers 0).hook.shown.samples.length = 1 ∧
        ((CommandLoop.sentOn (loopTrace now.2)).map (·.2.id)).Nodup ∧
          (passes now.2).length = 1 ∧
            (ControlLink.accepted (linkTrace now.2)).length = 1) = true := by decide +kernel
  obtain ⟨⟨whole, trace⟩, hrun, hshown⟩ := (Option.any_eq_true _ _).mp hearly
  obtain ⟨⟨later, trace'⟩, hmore, hfacts⟩ := (Option.any_eq_true _ _).mp hlate
  rw [decide_eq_true_eq] at hshown hfacts
  obtain ⟨hreadout, hnoPass⟩ := hshown
  obtain ⟨hone, hids, hpasses, haccepted⟩ := hfacts
  obtain ⟨sample, hsample⟩ := List.length_eq_one_iff.mp hone
  have hmem : sample ∈ (later.loop.browsers 0).hook.shown.samples := by
    rw [hsample]
    exact List.mem_singleton_self _
  refine ⟨later, trace', sample, hmore, hsample, ?_⟩
  refine acknowledged_shows hrun hmore hids (by rw [hpasses]; norm_num) hreadout rfl
    (fun before command after hsplit _ next hnext => ?_) hmem
    (by rw [hnoPass]; exact Nat.zero_le _)
  -- No other command is accepted.
  rw [hsplit, List.length_append, List.length_cons] at haccepted
  have hnone : after = [] := List.length_eq_zero_iff.mp (by omega)
  rw [hnone] at hnext
  exact absurd hnext List.not_mem_nil

/-- And it was asked for. -/
theorem active_commanded_firstPass : ∃ (later : ClosedLoop 4) (trace before : List Event),
    (@system coarseLibm 4 { maximumSteps := 1 }).run (untilAcknowledged ++ untilShown) =
        some (later, trace) ∧ before <+: trace ∧
      ∃ k client command, .sent k client command ∈ loopTrace trace ∧
        command.fault = .thrusterLoss ∧ command.enabled = true ∧
          commandText command ∈ ControlLink.handledLines (linkTrace before) := by
  let libm := coarseLibm
  have lawful := lawful_coarseLibm
  have hlate : ((system 4 { maximumSteps := 1 }).run (untilAcknowledged ++ untilShown)).any
      (fun now => (now.1.loop.browsers 0).hook.shown.samples.any (fun sample =>
          isActive .thrusterLoss (some sample)) = true ∧
        ((CommandLoop.sentOn (loopTrace now.2)).map (·.2.id)).Nodup ∧
          (passes now.2).length = 1) = true := by decide +kernel
  obtain ⟨⟨later, trace⟩, hrun, hfacts⟩ := (Option.any_eq_true _ _).mp hlate
  rw [decide_eq_true_eq] at hfacts
  obtain ⟨hshown, hids, hpasses⟩ := hfacts
  obtain ⟨sample, hsample, hactive⟩ := List.any_eq_true.mp hshown
  obtain ⟨before, flags, after, htrace, -, -, hasked⟩ :=
    active_commanded hrun hids (by rw [hpasses]; norm_num) hsample
  exact ⟨later, trace, before, hrun, ⟨_, htrace.symm⟩, hasked .thrusterLoss hactive⟩

end ClosedLoop

end FlightDeck.System
