import FlightDeck.Generator.SpscRingBuffer
import FlightDeck.Protocol.Telemetry

set_option relaxedAutoImplicit false
set_option autoImplicit false

/-!
# The UDP transmitter

`UdpTransmitter` of `generator/src/udp_transmitter.cpp`. One thread, the control thread, calls
`start`, `try_send` and `stop`; between a successful `start` and the end of the next `stop` a
worker thread takes packets off the queue and hands them to `sendto`. The threads interleave
between any two accesses to what they share: the flag `running_`, the counters, and the single
accesses of each operation of the queue. What the operating system answers is left open.

The counters are 64 bits wide, and so is the arithmetic on them. Creating the thread is taken to
succeed.

## Main definitions

* `UdpTransmitter` — the members, and where each thread stands.
* `UdpTransmitter.step` — one access of one of the threads.
* `UdpTransmitter.system` — the transmitter under every interleaving.
* `UdpTransmitter.offered`, `UdpTransmitter.accepted`, `UdpTransmitter.handed` — the packets of
  the calls of `try_send`, of those that returned true, and of the calls of `sendto`.
* `UdpTransmitter.Invariant`, `UdpTransmitter.Counted` — what holds between any two accesses.

## Main results

* `UdpTransmitter.isInvariant`, `UdpTransmitter.isCounted` — every access keeps the invariants.
* `UdpTransmitter.packets_conserved` — when `stop` returns, no packet is lost or left over.
-/

namespace FlightDeck.Generator

open Protocol TransitionSystem

/-- A value-initialized packet. -/
instance : Inhabited TelemetryBytes :=
  ⟨List.replicate kTelemetryPacketSize 0, List.length_replicate⟩

/-- `SpscRingBuffer<protocol::TelemetryBytes, 1024>`. -/
abbrev PacketQueue : Type := SpscRingBuffer TelemetryBytes 1024

/-- Where the control thread stands. -/
inductive ControlState where
  /-- Between two calls. -/
  | idle
  /-- `start` found `running_` cleared; `socket` is called next. -/
  | openingSocket
  /-- `start` has a socket; the host is parsed next. -/
  | parsingHost
  /-- `start` has set `running_`; the worker is created next. -/
  | launching
  /-- `try_send` found `running_` set; it calls `try_push` next. -/
  | trying (packet : TelemetryBytes)
  /-- `try_send` is in `try_push`. -/
  | pushing (packet : TelemetryBytes)
  /-- `try_push` returned true; `queued_` is incremented next. -/
  | countingQueued (packet : TelemetryBytes)
  /-- `try_push` returned false; `queue_dropped_` is incremented next. -/
  | countingDropped (packet : TelemetryBytes)
  /-- `stop` has cleared `running_`; it joins the worker next. -/
  | joining
  /-- `stop` has joined the worker, if there was one; it closes the socket next. -/
  | closing
deriving DecidableEq

/-- Where the worker thread stands. -/
inductive WorkerState where
  /-- There is no thread: `worker_` is not joinable. -/
  | none
  /-- `running_` is loaded next. -/
  | testingRunning
  /-- `running_` was found cleared; `empty` is called next. -/
  | callingEmpty
  /-- In `empty`. -/
  | testingEmpty
  /-- `try_pop` is called next. -/
  | callingPop
  /-- In `try_pop`. -/
  | popping
  /-- `try_pop` returned a packet; it is handed to `sendto` next. -/
  | sending (packet : TelemetryBytes)
  /-- `sendto` has returned; a counter is incremented next. -/
  | counting (complete : Bool)
  /-- `run` has returned; the thread can be joined. -/
  | finished
deriving DecidableEq

/-- The packet that `try_push` has taken while `try_send` has not returned. -/
def ControlState.taken : ControlState → List TelemetryBytes
  | .countingQueued packet => [packet]
  | _ => []

/-- The number of calls of `try_send` under way in which `running_` was found set. -/
def ControlState.unanswered : ControlState → ℕ
  | .trying _ => 1
  | .pushing _ => 1
  | .countingQueued _ => 1
  | .countingDropped _ => 1
  | _ => 0

/-- `start` is about to create the worker. -/
def ControlState.isLaunching : ControlState → Bool
  | .launching => true
  | _ => false

/-- The packet that `try_pop` has returned while it is not handed on. -/
def WorkerState.held : WorkerState → List TelemetryBytes
  | .sending packet => [packet]
  | _ => []

/-- The number of packets handed on that no counter counts yet. -/
def WorkerState.uncounted : WorkerState → ℕ
  | .counting _ => 1
  | _ => 0

/-- There is a worker thread, and it has not left its loop. -/
def WorkerState.Loops (worker : WorkerState) : Prop := worker ≠ .none ∧ worker ≠ .finished

/-- `TransmitterStats`. -/
structure TransmitterStats where
  /-- Packets taken. -/
  queued : BitVec 64
  /-- Packets not taken. -/
  queueDropped : BitVec 64
  /-- Packets sent. -/
  sent : BitVec 64
  /-- Packets not sent, or not whole. -/
  sendErrors : BitVec 64
deriving DecidableEq

/-- `UdpTransmitter`, with the two threads that use it. -/
structure UdpTransmitter where
  /-- `error_message_`. -/
  errorMessage : String := ""
  /-- `socket_fd_`; a negative descriptor is `none`. -/
  socketFd : Option ℕ := none
  /-- `queue_`. -/
  queue : PacketQueue := .new TelemetryBytes 1024
  /-- `running_`. -/
  running : Bool := false
  /-- `queued_`. -/
  queued : BitVec 64 := 0
  /-- `queue_dropped_`. -/
  queueDropped : BitVec 64 := 0
  /-- `sent_`. -/
  sent : BitVec 64 := 0
  /-- `send_errors_`. -/
  sendErrors : BitVec 64 := 0
  /-- The control thread. -/
  control : ControlState := .idle
  /-- `worker_`, the worker thread. -/
  worker : WorkerState := .none

namespace UdpTransmitter

variable (t : UdpTransmitter)

/-- What a thread does next. -/
inductive Action where
  /-- The control thread calls `start` and loads `running_`. -/
  | start
  /-- The control thread calls `try_send(packet)` and loads `running_`. -/
  | trySend (packet : TelemetryBytes)
  /-- The control thread calls `stop` and clears `running_`. -/
  | stop
  /-- `socket` returns a descriptor or an error with its text. -/
  | socket (result : Except String ℕ)
  /-- The control thread goes on with its call. -/
  | control
  /-- `sendto` returns. -/
  | sendto (bytesSent : ℤ)
  /-- The worker thread goes on. -/
  | worker

/-- What can be told from outside. -/
inductive Event where
  /-- `start` returns. -/
  | startReturned (result : Bool)
  /-- `try_send(packet)` is called. -/
  | trySendCalled (packet : TelemetryBytes)
  /-- `try_send(packet)` returns. -/
  | trySendReturned (packet : TelemetryBytes) (result : Bool)
  /-- `stop` is called. -/
  | stopCalled
  /-- `stop` returns. -/
  | stopReturned
  /-- `sendto` is called with the packet and returns. -/
  | handed (packet : TelemetryBytes) (bytesSent : ℤ)
deriving DecidableEq

/-- One access to the queue. Moving out of an array of bytes copies it. -/
def accessQueue (action : SpscRingBuffer.Action TelemetryBytes) :
    Option (PacketQueue × List (SpscRingBuffer.Event TelemetryBytes)) :=
  t.queue.step id action

/-- Where `try_send` goes on after an access of `try_push`. -/
def afterPush (packet : TelemetryBytes) :
    List (SpscRingBuffer.Event TelemetryBytes) → ControlState
  | [.pushed _] => .countingQueued packet
  | [.pushFailed _] => .countingDropped packet
  | _ => .pushing packet

/-- Where `run` goes on after an access of `empty`. -/
def afterEmpty : List (SpscRingBuffer.Event TelemetryBytes) → WorkerState
  | [.empty true] => .finished
  | [.empty false] => .callingPop
  | _ => .testingEmpty

/-- Where `run` goes on after an access of `try_pop`; if there was no packet, it sleeps first. -/
def afterPop : List (SpscRingBuffer.Event TelemetryBytes) → WorkerState
  | [.popped packet] => .sending packet
  | [.popFailed] => .testingRunning
  | _ => .popping

/-- The control thread goes on with its call. `hostIsAddress` says whether `inet_pton` accepts
`host_`. -/
def controlStep (hostIsAddress : Bool) : Option (UdpTransmitter × List Event) :=
  match t.control with
  | .idle => none
  | .openingSocket => none
  | .parsingHost =>
    if hostIsAddress then some ({ t with running := true, control := .launching }, [])
    else some ({ t with
      errorMessage := "host must be an IPv4 address"
      socketFd := none
      control := .idle }, [.startReturned false])
  | .launching =>
    some ({ t with worker := .testingRunning, control := .idle }, [.startReturned true])
  | .trying packet =>
    (t.accessQueue (.tryPush packet)).map fun (queue, _) =>
      ({ t with queue, control := .pushing packet }, [])
  | .pushing packet =>
    (t.accessQueue .producer).map fun (queue, events) =>
      ({ t with queue, control := afterPush packet events }, [])
  | .countingQueued packet =>
    some ({ t with queued := t.queued + 1, control := .idle }, [.trySendReturned packet true])
  | .countingDropped packet =>
    some ({ t with queueDropped := t.queueDropped + 1, control := .idle },
      [.trySendReturned packet false])
  | .joining =>
    match t.worker with
    | .none => some ({ t with control := .closing }, [])
    | .finished => some ({ t with worker := .none, control := .closing }, [])
    | _ => none
  | .closing => some ({ t with socketFd := none, control := .idle }, [.stopReturned])

/-- The worker thread goes on. -/
def workerStep : Option (UdpTransmitter × List Event) :=
  match t.worker with
  | .none => none
  | .testingRunning =>
    some ({ t with worker := if t.running then .callingPop else .callingEmpty }, [])
  | .callingEmpty =>
    (t.accessQueue .empty).map fun (queue, _) => ({ t with queue, worker := .testingEmpty }, [])
  | .testingEmpty =>
    (t.accessQueue .consumer).map fun (queue, events) =>
      ({ t with queue, worker := afterEmpty events }, [])
  | .callingPop =>
    (t.accessQueue .tryPop).map fun (queue, _) => ({ t with queue, worker := .popping }, [])
  | .popping =>
    (t.accessQueue .consumer).map fun (queue, events) =>
      ({ t with queue, worker := afterPop events }, [])
  | .sending _ => none
  | .counting true => some ({ t with sent := t.sent + 1, worker := .testingRunning }, [])
  | .counting false =>
    some ({ t with sendErrors := t.sendErrors + 1, worker := .testingRunning }, [])
  | .finished => none

/-- One access of one of the threads. -/
def step (hostIsAddress : Bool) : Action → Option (UdpTransmitter × List Event)
  | .start =>
    match t.control with
    | .idle =>
      if t.running then some (t, [.startReturned true])
      else some ({ t with control := .openingSocket }, [])
    | _ => none
  | .trySend packet =>
    match t.control with
    | .idle =>
      if t.running then some ({ t with control := .trying packet }, [.trySendCalled packet])
      else some (t, [.trySendCalled packet, .trySendReturned packet false])
    | _ => none
  | .stop =>
    match t.control with
    | .idle => some ({ t with running := false, control := .joining }, [.stopCalled])
    | _ => none
  | .socket result =>
    match t.control with
    | .openingSocket =>
      match result with
      | .ok fd => some ({ t with socketFd := some fd, control := .parsingHost }, [])
      | .error text => some ({ t with
          errorMessage := text
          socketFd := none
          control := .idle }, [.startReturned false])
    | _ => none
  | .control => t.controlStep hostIsAddress
  | .sendto bytesSent =>
    match t.worker with
    | .sending packet =>
      some ({ t with worker := .counting (bytesSent = kTelemetryPacketSize) },
        [.handed packet bytesSent])
    | _ => none
  | .worker => t.workerStep

/-- The transmitter under every interleaving of its two threads. -/
def system (hostIsAddress : Bool) : System UdpTransmitter Action Event where
  init := {}
  step t := t.step hostIsAddress

/-- `stats`. -/
def stats : TransmitterStats where
  queued := t.queued
  queueDropped := t.queueDropped
  sent := t.sent
  sendErrors := t.sendErrors

/-! ## Histories -/

/-- An event seen by someone who notes whether the transmitter is started and which packets
`try_send` is called with while it is. -/
def note (now : Bool × List TelemetryBytes) : Event → Bool × List TelemetryBytes
  | .startReturned result => (now.1 || result, now.2)
  | .trySendCalled packet => (now.1, if now.1 then now.2 ++ [packet] else now.2)
  | .stopCalled => (false, now.2)
  | _ => now

/-- The notes on a trace. -/
def notes (trace : List Event) : Bool × List TelemetryBytes := trace.foldl note (false, [])

/-- The last `start` that succeeded was not followed by a `stop`. -/
def started (trace : List Event) : Bool := (notes trace).1

/-- The packets of the calls of `try_send` made after a `start` that succeeded and before the
next `stop`, in order. -/
def offered (trace : List Event) : List TelemetryBytes := (notes trace).2

/-- The packets for which `try_send` returned true, in order. -/
def accepted (trace : List Event) : List TelemetryBytes :=
  trace.filterMap fun
    | .trySendReturned packet true => some packet
    | _ => none

/-- The packets handed to `sendto`, in order. -/
def handed (trace : List Event) : List TelemetryBytes :=
  trace.filterMap fun
    | .handed packet _ => some packet
    | _ => none

@[simp] lemma notes_append (trace events : List Event) :
    notes (trace ++ events) = events.foldl note (notes trace) := List.foldl_append

@[simp] lemma accepted_append (trace events : List Event) :
    accepted (trace ++ events) = accepted trace ++ accepted events := List.filterMap_append

@[simp] lemma handed_append (trace events : List Event) :
    handed (trace ++ events) = handed trace ++ handed events := List.filterMap_append

/-! ## The threads and the queue -/

/-- The producer is in a call of `try_push` exactly while `try_send` is. -/
def ProducerFacts (producer : ProducerState TelemetryBytes 1024) : ControlState → Prop
  | .pushing packet => producer.Pushes packet
  | _ => producer = .idle

/-- What the control thread knows of `running_` and of the worker. -/
def ControlFacts (running : Bool) (worker : WorkerState) : ControlState → Prop
  | .idle => if running then worker.Loops else worker = .none
  | .openingSocket => running = false ∧ worker = .none
  | .parsingHost => running = false ∧ worker = .none
  | .launching => running = true ∧ worker = .none
  | .trying _ => running = true ∧ worker.Loops
  | .pushing _ => running = true ∧ worker.Loops
  | .countingQueued _ => running = true ∧ worker.Loops
  | .countingDropped _ => running = true ∧ worker.Loops
  | .joining => running = false
  | .closing => running = false ∧ worker = .none

/-- What the worker knows of `running_` and of the queue: once it has found `running_` cleared,
it stays so, and an index of the producer does not get out of date any more. -/
def WorkerFacts (running : Bool) (queue : PacketQueue) : WorkerState → Prop
  | .none => queue.consumer = .idle ∧ queue.tail = queue.head
  | .testingRunning => queue.consumer = .idle
  | .callingEmpty => queue.consumer = .idle ∧ running = false
  | .testingEmpty => queue.consumer = .emptyHeadLoaded queue.head ∧ running = false
  | .callingPop => queue.consumer = .idle
  | .popping => queue.consumer.Pops
  | .sending _ => queue.consumer = .idle
  | .counting _ => queue.consumer = .idle
  | .finished => (queue.consumer = .idle ∧ queue.tail = queue.head) ∧ running = false

/-- What holds between any two accesses. -/
structure Invariant (trace : List Event) (t : UdpTransmitter) : Prop where
  /-- The queue has been given the packets accepted, and has given back those handed on. -/
  queue : SpscRingBuffer.Invariant (accepted trace ++ t.control.taken)
    (handed trace ++ t.worker.held) t.queue
  /-- The calls of `try_push`. -/
  producer : ProducerFacts t.queue.producer t.control
  /-- The control thread. -/
  control : ControlFacts t.running t.worker t.control
  /-- The worker thread. -/
  worker : WorkerFacts t.running t.queue t.worker
  /-- The transmitter is started while `running_` is set, but for the end of `start`. -/
  isStarted : started trace = (t.running && !t.control.isLaunching)

variable {t} {t' : UdpTransmitter} {trace events : List Event} {hostIsAddress : Bool}

/-- The worker goes on: the control thread knows what it knew. -/
lemma ControlFacts.setWorker {running : Bool} {worker worker' : WorkerState}
    {control : ControlState} (h : ControlFacts running worker control) (hloops : worker.Loops)
    (hnone : worker' ≠ .none) (hfinished : worker' = .finished → running = false) :
    ControlFacts running worker' control := by
  have hloops' : running = true → worker'.Loops := fun hrunning =>
    ⟨hnone, fun heq => by simp [hfinished heq] at hrunning⟩
  cases control with
  | idle =>
    cases running with
    | true => exact hloops' rfl
    | false => exact absurd h hloops.1
  | openingSocket => exact absurd h.2 hloops.1
  | parsingHost => exact absurd h.2 hloops.1
  | launching => exact absurd h.2 hloops.1
  | trying packet => exact ⟨h.1, hloops' h.1⟩
  | pushing packet => exact ⟨h.1, hloops' h.1⟩
  | countingQueued packet => exact ⟨h.1, hloops' h.1⟩
  | countingDropped packet => exact ⟨h.1, hloops' h.1⟩
  | joining => exact h
  | closing => exact absurd h.2 hloops.1

/-- A worker in its loop keeps what it knows while the producer works, as long as `running_` is
set. -/
lemma WorkerFacts.setProducer {running : Bool} {queue queue' : PacketQueue} {worker : WorkerState}
    (h : WorkerFacts running queue worker) (hrunning : running = true) (hloops : worker.Loops)
    (hconsumer : queue'.consumer = queue.consumer) : WorkerFacts running queue' worker := by
  cases worker with
  | none => exact absurd rfl hloops.1
  | callingEmpty => simp [WorkerFacts, hrunning] at h
  | testingEmpty => simp [WorkerFacts, hrunning] at h
  | finished => exact absurd rfl hloops.2
  | _ => simpa [WorkerFacts, hconsumer] using h

/-- Where `try_send` goes on fits what `try_push` did. -/
lemma afterPush_facts {queue queue' : PacketQueue} {packet : TelemetryBytes}
    {queueEvents : List (SpscRingBuffer.Event TelemetryBytes)}
    (hpushes : queue.producer.Pushes packet)
    (haccess : queue.step id .producer = some (queue', queueEvents)) :
    ProducerFacts queue'.producer (afterPush packet queueEvents) ∧
      (∀ worker : WorkerState, worker.Loops →
        ControlFacts true worker (afterPush packet queueEvents)) ∧
      (SpscRingBuffer.pushed queueEvents = (afterPush packet queueEvents).taken ∧
        SpscRingBuffer.popped queueEvents = []) ∧
      (afterPush packet queueEvents).isLaunching = false := by
  obtain ⟨-, hcases⟩ := SpscRingBuffer.step_producer_of_pushes hpushes haccess
  rcases hcases with ⟨rfl, hpushes'⟩ | ⟨rfl, hidle⟩ | ⟨rfl, hidle⟩
  · exact ⟨hpushes', fun _ hloops => ⟨rfl, hloops⟩, ⟨rfl, rfl⟩, rfl⟩
  · exact ⟨hidle, fun _ hloops => ⟨rfl, hloops⟩, ⟨rfl, rfl⟩, rfl⟩
  · exact ⟨hidle, fun _ hloops => ⟨rfl, hloops⟩, ⟨rfl, rfl⟩, rfl⟩

/-- Where `run` goes on fits what `try_pop` did. -/
lemma afterPop_facts {queue queue' : PacketQueue} (running : Bool)
    {queueEvents : List (SpscRingBuffer.Event TelemetryBytes)} (hpops : queue.consumer.Pops)
    (haccess : queue.step id .consumer = some (queue', queueEvents)) :
    WorkerFacts running queue' (afterPop queueEvents) ∧
      (SpscRingBuffer.pushed queueEvents = [] ∧
        SpscRingBuffer.popped queueEvents = (afterPop queueEvents).held) ∧
      (afterPop queueEvents).Loops := by
  obtain ⟨-, hcases⟩ := SpscRingBuffer.step_consumer_of_pops hpops haccess
  rcases hcases with ⟨rfl, hpops'⟩ | ⟨packet, rfl, hidle⟩ | ⟨rfl, hidle⟩
  · exact ⟨hpops', ⟨rfl, rfl⟩, by simp [afterPop, WorkerState.Loops]⟩
  · exact ⟨hidle, ⟨rfl, rfl⟩, by simp [afterPop, WorkerState.Loops]⟩
  · exact ⟨hidle, ⟨rfl, rfl⟩, by simp [afterPop, WorkerState.Loops]⟩

/-- The control thread goes on with its call. -/
lemma Invariant.controlStep (h : Invariant trace t)
    (hstep : t.controlStep hostIsAddress = some (t', events)) :
    Invariant (trace ++ events) t' := by
  obtain ⟨hqueue, hproducer, hcontrol, hworker, hstarted⟩ := h
  cases hpc : t.control with
  | idle => simp [UdpTransmitter.controlStep, hpc] at hstep
  | openingSocket => simp [UdpTransmitter.controlStep, hpc] at hstep
  | parsingHost =>
    rw [hpc] at hqueue hproducer hcontrol hstarted
    simp only [UdpTransmitter.controlStep, hpc] at hstep
    obtain ⟨hrunning, hnone⟩ := hcontrol
    split at hstep <;> cases hstep
    · refine ⟨?_, hproducer, ⟨rfl, hnone⟩, ?_, ?_⟩
      · simpa [ControlState.taken] using hqueue
      · simp only [hnone] at hworker ⊢
        exact hworker
      · simpa [hrunning, ControlState.isLaunching] using hstarted
    · refine ⟨?_, hproducer, ?_, hworker, ?_⟩
      · simpa [accepted, handed, ControlState.taken] using hqueue
      · simp [ControlFacts, hrunning, hnone]
      · simpa [started, note, hrunning] using hstarted
  | launching =>
    rw [hpc] at hqueue hproducer hcontrol hstarted
    simp only [UdpTransmitter.controlStep, hpc] at hstep
    obtain ⟨hrunning, hnone⟩ := hcontrol
    rw [hnone] at hqueue hworker
    cases hstep
    refine ⟨?_, hproducer, ?_, hworker.1, ?_⟩
    · simpa [accepted, handed, ControlState.taken, WorkerState.held] using hqueue
    · simp [ControlFacts, hrunning, WorkerState.Loops]
    · simp [started, note, hrunning, ControlState.isLaunching]
  | trying packet =>
    rw [hpc] at hqueue hproducer hcontrol hstarted
    simp only [UdpTransmitter.controlStep, hpc, Option.map_eq_some_iff] at hstep
    obtain ⟨⟨queue, _⟩, haccess, heq⟩ := hstep
    cases heq
    have hidle : t.queue.producer = .idle := hproducer
    simp only [accessQueue, SpscRingBuffer.step, hidle] at haccess
    cases haccess
    refine ⟨?_, rfl, hcontrol, ?_, ?_⟩
    · simpa [ControlState.taken] using
        hqueue.setProducer (.headLoaded packet t.queue.head) hqueue.head_eq
    · exact hworker.setProducer hcontrol.1 hcontrol.2 rfl
    · simpa [ControlState.isLaunching] using hstarted
  | pushing packet =>
    rw [hpc] at hqueue hproducer hcontrol hstarted
    simp only [UdpTransmitter.controlStep, hpc, Option.map_eq_some_iff] at hstep
    obtain ⟨⟨queue, queueEvents⟩, haccess, heq⟩ := hstep
    cases heq
    have hqueue' := hqueue.step haccess
    obtain ⟨⟨hconsumer, -⟩, -⟩ := SpscRingBuffer.step_producer_of_pushes hproducer haccess
    obtain ⟨hproducer', hcontrol', ⟨hpushed, hpopped⟩, hlaunching⟩ :=
      afterPush_facts hproducer haccess
    refine ⟨?_, hproducer', ?_, hworker.setProducer hcontrol.1 hcontrol.2 hconsumer, ?_⟩
    · simpa [ControlState.taken, hpushed, hpopped] using hqueue'
    · show ControlFacts t.running t.worker (afterPush packet queueEvents)
      rw [hcontrol.1]
      exact hcontrol' t.worker hcontrol.2
    · show started (trace ++ []) = (t.running && !(afterPush packet queueEvents).isLaunching)
      rw [hlaunching, List.append_nil, hstarted]
      rfl
  | countingQueued packet =>
    rw [hpc] at hqueue hproducer hcontrol hstarted
    simp only [UdpTransmitter.controlStep, hpc] at hstep
    cases hstep
    refine ⟨?_, hproducer, ?_, hworker, ?_⟩
    · simpa [accepted, handed, ControlState.taken] using hqueue
    · simpa [ControlFacts, hcontrol.1] using hcontrol.2
    · simpa [started, note, ControlState.isLaunching] using hstarted
  | countingDropped packet =>
    rw [hpc] at hqueue hproducer hcontrol hstarted
    simp only [UdpTransmitter.controlStep, hpc] at hstep
    cases hstep
    refine ⟨?_, hproducer, ?_, hworker, ?_⟩
    · simpa [accepted, handed, ControlState.taken] using hqueue
    · simpa [ControlFacts, hcontrol.1] using hcontrol.2
    · simpa [started, note, ControlState.isLaunching] using hstarted
  | joining =>
    rw [hpc] at hqueue hproducer hcontrol hstarted
    simp only [UdpTransmitter.controlStep, hpc] at hstep
    have hrunning : t.running = false := hcontrol
    cases hthread : t.worker with
    | none =>
      simp only [hthread] at hstep hqueue hworker
      cases hstep
      refine ⟨?_, hproducer, ⟨hrunning, rfl⟩, hworker, ?_⟩
      · simpa [ControlState.taken] using hqueue
      · simpa [hrunning, ControlState.isLaunching] using hstarted
    | finished =>
      simp only [hthread] at hstep hqueue hworker
      cases hstep
      refine ⟨?_, hproducer, ⟨hrunning, rfl⟩, hworker.1, ?_⟩
      · simpa [ControlState.taken, WorkerState.held] using hqueue
      · simpa [hrunning, ControlState.isLaunching] using hstarted
    | _ =>
      simp only [hthread] at hstep
      cases hstep
  | closing =>
    rw [hpc] at hqueue hproducer hcontrol hstarted
    simp only [UdpTransmitter.controlStep, hpc] at hstep
    obtain ⟨hrunning, hnone⟩ := hcontrol
    cases hstep
    refine ⟨?_, hproducer, ?_, hworker, ?_⟩
    · simpa [accepted, handed, ControlState.taken] using hqueue
    · simp [ControlFacts, hrunning, hnone]
    · simpa [started, note, ControlState.isLaunching] using hstarted

/-- The worker thread goes on. -/
lemma Invariant.workerStep (h : Invariant trace t) (hstep : t.workerStep = some (t', events)) :
    Invariant (trace ++ events) t' := by
  obtain ⟨hqueue, hproducer, hcontrol, hworker, hstarted⟩ := h
  have hstarted' : started (trace ++ []) = (t.running && !t.control.isLaunching) := by
    rw [List.append_nil, hstarted]
  cases hpc : t.worker with
  | none => simp [UdpTransmitter.workerStep, hpc] at hstep
  | testingRunning =>
    rw [hpc] at hqueue hcontrol hworker
    simp only [UdpTransmitter.workerStep, hpc] at hstep
    cases hstep
    have hloops : WorkerState.testingRunning.Loops := ⟨by simp, by simp⟩
    cases hrunning : t.running with
    | true =>
      refine ⟨?_, hproducer, ?_, hworker, hrunning ▸ hstarted'⟩
      · simpa [WorkerState.held] using hqueue
      · exact (hrunning ▸ hcontrol).setWorker hloops (by simp) (by simp)
    | false =>
      refine ⟨?_, hproducer, ?_, ⟨hworker, rfl⟩, hrunning ▸ hstarted'⟩
      · simpa [WorkerState.held] using hqueue
      · exact (hrunning ▸ hcontrol).setWorker hloops (by simp) (by simp)
  | callingEmpty =>
    rw [hpc] at hqueue hcontrol hworker
    simp only [UdpTransmitter.workerStep, hpc, Option.map_eq_some_iff] at hstep
    obtain ⟨⟨queue, _⟩, haccess, heq⟩ := hstep
    cases heq
    have hloops : WorkerState.callingEmpty.Loops := ⟨by simp, by simp⟩
    simp only [accessQueue, SpscRingBuffer.step, hworker.1] at haccess
    cases haccess
    refine ⟨?_, hproducer, hcontrol.setWorker hloops (by simp) (by simp), ⟨rfl, hworker.2⟩,
      hstarted'⟩
    simpa [WorkerState.held] using
      hqueue.setConsumer (.emptyHeadLoaded t.queue.head) (by rw [hworker.1]; rfl) trivial
  | testingEmpty =>
    rw [hpc] at hqueue hcontrol hworker
    simp only [UdpTransmitter.workerStep, hpc, Option.map_eq_some_iff] at hstep
    obtain ⟨⟨queue, _⟩, haccess, heq⟩ := hstep
    cases heq
    have hloops : WorkerState.testingEmpty.Loops := ⟨by simp, by simp⟩
    simp only [accessQueue, SpscRingBuffer.step, hworker.1] at haccess
    cases haccess
    have hqueue' := hqueue.setConsumer .idle (by rw [hworker.1]; rfl) trivial
    by_cases hempty : t.queue.head = t.queue.tail
    · have hfinished : afterEmpty [.empty (decide (t.queue.head = t.queue.tail))] = .finished := by
        rw [decide_eq_true hempty]
        rfl
      rw [hfinished]
      refine ⟨?_, hproducer, hcontrol.setWorker hloops (by simp) fun _ => hworker.2,
        ⟨⟨rfl, hempty.symm⟩, hworker.2⟩, hstarted'⟩
      simpa [WorkerState.held] using hqueue'
    · have hpop : afterEmpty [.empty (decide (t.queue.head = t.queue.tail))] = .callingPop := by
        rw [decide_eq_false hempty]
        rfl
      rw [hpop]
      refine ⟨?_, hproducer, hcontrol.setWorker hloops (by simp) (by simp), rfl, hstarted'⟩
      simpa [WorkerState.held] using hqueue'
  | callingPop =>
    rw [hpc] at hqueue hcontrol hworker
    simp only [UdpTransmitter.workerStep, hpc, Option.map_eq_some_iff] at hstep
    obtain ⟨⟨queue, _⟩, haccess, heq⟩ := hstep
    cases heq
    have hloops : WorkerState.callingPop.Loops := ⟨by simp, by simp⟩
    have hidle : t.queue.consumer = .idle := hworker
    simp only [accessQueue, SpscRingBuffer.step, hidle] at haccess
    cases haccess
    refine ⟨?_, hproducer, hcontrol.setWorker hloops (by simp) (by simp), trivial, hstarted'⟩
    simpa [WorkerState.held] using
      hqueue.setConsumer (.tailLoaded t.queue.tail) (by rw [hidle]; rfl) hqueue.tail_eq
  | popping =>
    rw [hpc] at hqueue hcontrol hworker
    simp only [UdpTransmitter.workerStep, hpc, Option.map_eq_some_iff] at hstep
    obtain ⟨⟨queue, queueEvents⟩, haccess, heq⟩ := hstep
    cases heq
    have hloops : WorkerState.popping.Loops := ⟨by simp, by simp⟩
    have hqueue' := hqueue.step haccess
    obtain ⟨hproducer', -⟩ := SpscRingBuffer.step_consumer_of_pops hworker haccess
    obtain ⟨hworker', ⟨hpushed, hpopped⟩, hloops'⟩ := afterPop_facts t.running hworker haccess
    refine ⟨?_, hproducer' ▸ hproducer, ?_, hworker', hstarted'⟩
    · simpa [WorkerState.held, hpushed, hpopped] using hqueue'
    · exact hcontrol.setWorker hloops hloops'.1 fun hfinished => absurd hfinished hloops'.2
  | sending packet => simp [UdpTransmitter.workerStep, hpc] at hstep
  | counting complete =>
    rw [hpc] at hqueue hcontrol hworker
    have hloops : (WorkerState.counting complete).Loops := ⟨by simp, by simp⟩
    have hcontrol' : ControlFacts t.running .testingRunning t.control :=
      hcontrol.setWorker hloops (by simp) (by simp)
    cases complete <;> simp only [UdpTransmitter.workerStep, hpc] at hstep <;> cases hstep
    all_goals
      refine ⟨?_, hproducer, hcontrol', hworker, hstarted'⟩
      simpa [WorkerState.held] using hqueue
  | finished => simp [UdpTransmitter.workerStep, hpc] at hstep

/-- A call is made, or the operating system answers. -/
lemma Invariant.step (h : Invariant trace t) {action : Action}
    (hstep : t.step hostIsAddress action = some (t', events)) : Invariant (trace ++ events) t' := by
  obtain ⟨hqueue, hproducer, hcontrol, hworker, hstarted⟩ := h
  cases action with
  | control => exact Invariant.controlStep ⟨hqueue, hproducer, hcontrol, hworker, hstarted⟩ hstep
  | worker => exact Invariant.workerStep ⟨hqueue, hproducer, hcontrol, hworker, hstarted⟩ hstep
  | start =>
    simp only [UdpTransmitter.step] at hstep
    split at hstep
    · next hpc =>
      rw [hpc] at hqueue hproducer hcontrol hstarted
      split at hstep <;> cases hstep
      · next hrunning =>
        refine ⟨?_, hpc ▸ hproducer, hpc ▸ hcontrol, hworker, ?_⟩
        · simpa [accepted, handed, hpc] using hqueue
        · simp [started, note, hpc, hrunning, ControlState.isLaunching]
      · next hrunning =>
        rw [Bool.not_eq_true] at hrunning
        rw [ControlFacts, hrunning] at hcontrol
        refine ⟨?_, hproducer, ⟨hrunning, hcontrol⟩, hworker, ?_⟩
        · simpa [ControlState.taken] using hqueue
        · simpa [hrunning, ControlState.isLaunching] using hstarted
    · cases hstep
  | trySend packet =>
    simp only [UdpTransmitter.step] at hstep
    split at hstep
    · next hpc =>
      rw [hpc] at hqueue hproducer hcontrol hstarted
      split at hstep <;> cases hstep
      · next hrunning =>
        rw [ControlFacts, hrunning] at hcontrol
        refine ⟨?_, hproducer, ⟨hrunning, hcontrol⟩, hworker, ?_⟩
        · simpa [accepted, handed, ControlState.taken] using hqueue
        · simpa [started, note, hrunning, ControlState.isLaunching] using hstarted
      · refine ⟨?_, hpc ▸ hproducer, hpc ▸ hcontrol, hworker, ?_⟩
        · simpa [accepted, handed, hpc] using hqueue
        · simpa [started, note, hpc, ControlState.isLaunching] using hstarted
    · cases hstep
  | stop =>
    simp only [UdpTransmitter.step] at hstep
    split at hstep <;> cases hstep
    next hpc =>
      rw [hpc] at hqueue hproducer hcontrol hstarted
      refine ⟨?_, hproducer, rfl, ?_, ?_⟩
      · simpa [accepted, handed, ControlState.taken] using hqueue
      · -- What the worker knew with the flag set, it knows with the flag cleared.
        cases hthread : t.worker <;> rw [hthread] at hworker <;> simp_all [WorkerFacts]
      · simp [started, note]
  | socket result =>
    simp only [UdpTransmitter.step] at hstep
    split at hstep
    · next hpc =>
      rw [hpc] at hqueue hproducer hcontrol hstarted
      obtain ⟨hrunning, hnone⟩ := hcontrol
      cases result <;> cases hstep
      · refine ⟨?_, hproducer, ?_, hworker, ?_⟩
        · simpa [accepted, handed, ControlState.taken] using hqueue
        · simp [ControlFacts, hrunning, hnone]
        · simpa [started, note, hrunning] using hstarted
      · refine ⟨?_, hproducer, ⟨hrunning, hnone⟩, hworker, ?_⟩
        · simpa [ControlState.taken] using hqueue
        · simpa [hrunning, ControlState.isLaunching] using hstarted
    · cases hstep
  | sendto bytesSent =>
    simp only [UdpTransmitter.step] at hstep
    split at hstep <;> cases hstep
    next packet hpc =>
      rw [hpc] at hqueue hcontrol hworker
      have hloops : (WorkerState.sending packet).Loops := ⟨by simp, by simp⟩
      refine ⟨?_, hproducer, hcontrol.setWorker hloops (by simp) (by simp), hworker, ?_⟩
      · simpa [accepted, handed, WorkerState.held] using hqueue
      · simpa [started, note] using hstarted

/-- **Run lemma**: the invariant holds between any two accesses of any interleaving. -/
lemma isInvariant (hostIsAddress : Bool) : (system hostIsAddress).IsInvariant Invariant where
  start := ⟨SpscRingBuffer.Invariant.new, rfl, rfl, ⟨rfl, rfl⟩, rfl⟩
  keep _ _ _ _ _ _ h hstep := h.step hstep

/-! ## The counters -/

/-- What the counters hold between any two accesses. -/
structure Counted (trace : List Event) (t : UdpTransmitter) : Prop where
  /-- `queued_` counts the packets accepted. -/
  queued : t.queued = BitVec.ofNat 64 (accepted trace).length
  /-- `queue_dropped_` counts the other calls that were answered. -/
  queueDropped : ∃ dropped, t.queueDropped = BitVec.ofNat 64 dropped ∧
    (accepted trace).length + dropped + t.control.unanswered = (offered trace).length
  /-- `sent_` and `send_errors_` count the packets handed on. -/
  sent : ∃ sent errors, t.sent = BitVec.ofNat 64 sent ∧ t.sendErrors = BitVec.ofNat 64 errors ∧
    sent + errors + t.worker.uncounted = (handed trace).length

/-- Nothing is counted. -/
lemma Counted.of_eq (h : Counted trace t) (hqueued : t'.queued = t.queued)
    (hqueueDropped : t'.queueDropped = t.queueDropped) (hsent : t'.sent = t.sent)
    (hsendErrors : t'.sendErrors = t.sendErrors) (haccepted : accepted events = [])
    (hanswered : (offered trace).length + t'.control.unanswered =
      (offered (trace ++ events)).length + t.control.unanswered)
    (hcounted : t'.worker.uncounted = t.worker.uncounted + (handed events).length) :
    Counted (trace ++ events) t' := by
  obtain ⟨hq, ⟨dropped, hd, hoffered⟩, sent, errors, hs, he, hhanded⟩ := h
  refine ⟨?_, ⟨dropped, hqueueDropped.trans hd, ?_⟩, sent, errors, hsent.trans hs,
    hsendErrors.trans he, ?_⟩
  · rw [accepted_append, haccepted, List.append_nil, hqueued, hq]
  · rw [accepted_append, haccepted, List.append_nil]
    omega
  · rw [handed_append, List.length_append, hcounted]
    omega

/-- The control thread goes on with its call. -/
lemma Counted.controlStep (h : Counted trace t) (hinv : Invariant trace t)
    (hstep : t.controlStep hostIsAddress = some (t', events)) : Counted (trace ++ events) t' := by
  cases hpc : t.control with
  | idle => simp [UdpTransmitter.controlStep, hpc] at hstep
  | openingSocket => simp [UdpTransmitter.controlStep, hpc] at hstep
  | parsingHost =>
    simp only [UdpTransmitter.controlStep, hpc] at hstep
    split at hstep <;> cases hstep
    all_goals
      exact h.of_eq rfl rfl rfl rfl rfl (by simp [offered, note, hpc, ControlState.unanswered]) rfl
  | launching =>
    have hcontrol := hinv.control
    rw [hpc] at hcontrol
    simp only [UdpTransmitter.controlStep, hpc] at hstep
    cases hstep
    exact h.of_eq rfl rfl rfl rfl rfl (by simp [offered, note, hpc, ControlState.unanswered])
      (by rw [hcontrol.2]; rfl)
  | trying packet =>
    simp only [UdpTransmitter.controlStep, hpc, Option.map_eq_some_iff] at hstep
    obtain ⟨⟨queue, _⟩, haccess, heq⟩ := hstep
    cases heq
    exact h.of_eq rfl rfl rfl rfl rfl (by simp [offered, hpc, ControlState.unanswered]) rfl
  | pushing packet =>
    simp only [UdpTransmitter.controlStep, hpc, Option.map_eq_some_iff] at hstep
    obtain ⟨⟨queue, queueEvents⟩, haccess, heq⟩ := hstep
    cases heq
    have hunanswered : (afterPush packet queueEvents).unanswered = 1 := by
      unfold afterPush
      split <;> rfl
    exact h.of_eq rfl rfl rfl rfl rfl (by rw [List.append_nil, hunanswered, hpc]; rfl) rfl
  | countingQueued packet =>
    simp only [UdpTransmitter.controlStep, hpc] at hstep
    cases hstep
    obtain ⟨hqueued, ⟨dropped, hdropped, hoffered⟩, sent, errors, hsent, herrors, hhanded⟩ := h
    rw [hpc] at hoffered
    refine ⟨?_, ⟨dropped, hdropped, ?_⟩, sent, errors, hsent, herrors, ?_⟩
    · simp [accepted, hqueued, BitVec.ofNat_add]
    · simpa [accepted, offered, note, ControlState.unanswered, add_right_comm] using hoffered
    · simpa [handed] using hhanded
  | countingDropped packet =>
    simp only [UdpTransmitter.controlStep, hpc] at hstep
    cases hstep
    obtain ⟨hqueued, ⟨dropped, hdropped, hoffered⟩, sent, errors, hsent, herrors, hhanded⟩ := h
    rw [hpc] at hoffered
    refine ⟨?_, ⟨dropped + 1, ?_, ?_⟩, sent, errors, hsent, herrors, ?_⟩
    · simpa [accepted] using hqueued
    · simp [hdropped, BitVec.ofNat_add]
    · simpa [accepted, offered, note, ControlState.unanswered, add_assoc] using hoffered
    · simpa [handed] using hhanded
  | joining =>
    simp only [UdpTransmitter.controlStep, hpc] at hstep
    cases hthread : t.worker <;> simp only [hthread] at hstep <;> cases hstep
    all_goals
      exact h.of_eq rfl rfl rfl rfl rfl (by simp [offered, hpc, ControlState.unanswered])
        (by rw [hthread]; rfl)
  | closing =>
    simp only [UdpTransmitter.controlStep, hpc] at hstep
    cases hstep
    exact h.of_eq rfl rfl rfl rfl rfl (by simp [offered, note, hpc, ControlState.unanswered]) rfl

/-- The worker thread goes on. -/
lemma Counted.workerStep (h : Counted trace t) (hstep : t.workerStep = some (t', events)) :
    Counted (trace ++ events) t' := by
  cases hpc : t.worker with
  | none => simp [UdpTransmitter.workerStep, hpc] at hstep
  | testingRunning =>
    simp only [UdpTransmitter.workerStep, hpc] at hstep
    cases hstep
    have huncounted : (if t.running then WorkerState.callingPop else .callingEmpty).uncounted =
        0 := by split <;> rfl
    exact h.of_eq rfl rfl rfl rfl rfl (by rw [List.append_nil]) (by rw [huncounted, hpc]; rfl)
  | callingEmpty =>
    simp only [UdpTransmitter.workerStep, hpc, Option.map_eq_some_iff] at hstep
    obtain ⟨⟨queue, _⟩, haccess, heq⟩ := hstep
    cases heq
    exact h.of_eq rfl rfl rfl rfl rfl (by rw [List.append_nil]) (by rw [hpc]; rfl)
  | testingEmpty =>
    simp only [UdpTransmitter.workerStep, hpc, Option.map_eq_some_iff] at hstep
    obtain ⟨⟨queue, queueEvents⟩, haccess, heq⟩ := hstep
    cases heq
    have huncounted : (afterEmpty queueEvents).uncounted = 0 := by
      unfold afterEmpty
      split <;> rfl
    exact h.of_eq rfl rfl rfl rfl rfl (by rw [List.append_nil]) (by rw [huncounted, hpc]; rfl)
  | callingPop =>
    simp only [UdpTransmitter.workerStep, hpc, Option.map_eq_some_iff] at hstep
    obtain ⟨⟨queue, _⟩, haccess, heq⟩ := hstep
    cases heq
    exact h.of_eq rfl rfl rfl rfl rfl (by rw [List.append_nil]) (by rw [hpc]; rfl)
  | popping =>
    simp only [UdpTransmitter.workerStep, hpc, Option.map_eq_some_iff] at hstep
    obtain ⟨⟨queue, queueEvents⟩, haccess, heq⟩ := hstep
    cases heq
    have huncounted : (afterPop queueEvents).uncounted = 0 := by
      unfold afterPop
      split <;> rfl
    exact h.of_eq rfl rfl rfl rfl rfl (by rw [List.append_nil]) (by rw [huncounted, hpc]; rfl)
  | sending packet => simp [UdpTransmitter.workerStep, hpc] at hstep
  | counting complete =>
    obtain ⟨hqueued, ⟨dropped, hdropped, hoffered⟩, sent, errors, hsent, herrors, hhanded⟩ := h
    rw [hpc] at hhanded
    have hcounted : sent + errors + 1 = (handed trace).length := hhanded
    cases complete <;> simp only [UdpTransmitter.workerStep, hpc] at hstep <;> cases hstep
    · refine ⟨?_, ⟨dropped, hdropped, ?_⟩, sent, errors + 1, hsent, ?_, ?_⟩
      · rw [List.append_nil, hqueued]
      · rw [List.append_nil, hoffered]
      · simp [herrors, BitVec.ofNat_add]
      · rw [List.append_nil, ← hcounted]
        rfl
    · refine ⟨?_, ⟨dropped, hdropped, ?_⟩, sent + 1, errors, ?_, herrors, ?_⟩
      · rw [List.append_nil, hqueued]
      · rw [List.append_nil, hoffered]
      · simp [hsent, BitVec.ofNat_add]
      · rw [List.append_nil, ← hcounted, add_right_comm sent 1 errors]
        rfl
  | finished => simp [UdpTransmitter.workerStep, hpc] at hstep

/-- Any access. -/
lemma Counted.step (h : Counted trace t) (hinv : Invariant trace t) {action : Action}
    (hstep : t.step hostIsAddress action = some (t', events)) : Counted (trace ++ events) t' := by
  cases action with
  | control => exact h.controlStep hinv hstep
  | worker => exact h.workerStep hstep
  | start =>
    simp only [UdpTransmitter.step] at hstep
    split at hstep
    · next hpc =>
      split at hstep <;> cases hstep
      all_goals
        exact h.of_eq rfl rfl rfl rfl rfl (by simp [offered, note, hpc, ControlState.unanswered])
          rfl
    · cases hstep
  | trySend packet =>
    simp only [UdpTransmitter.step] at hstep
    split at hstep
    · next hpc =>
      have hstarted : (notes trace).1 = t.running := by
        have hisStarted : (notes trace).1 = _ := hinv.isStarted
        rw [hisStarted, hpc]
        simp [ControlState.isLaunching]
      split at hstep <;> cases hstep
      · next hrunning =>
        exact h.of_eq rfl rfl rfl rfl rfl
          (by simp [offered, note, hpc, hstarted, hrunning, ControlState.unanswered]) rfl
      · next hrunning =>
        exact h.of_eq rfl rfl rfl rfl rfl
          (by simp [offered, note, hpc, hstarted, hrunning, ControlState.unanswered]) rfl
    · cases hstep
  | stop =>
    simp only [UdpTransmitter.step] at hstep
    split at hstep <;> cases hstep
    next hpc =>
      exact h.of_eq rfl rfl rfl rfl rfl (by simp [offered, note, hpc, ControlState.unanswered]) rfl
  | socket result =>
    simp only [UdpTransmitter.step] at hstep
    split at hstep
    · next hpc =>
      cases result <;> cases hstep
      all_goals
        exact h.of_eq rfl rfl rfl rfl rfl (by simp [offered, note, hpc, ControlState.unanswered])
          rfl
    · cases hstep
  | sendto bytesSent =>
    simp only [UdpTransmitter.step] at hstep
    split at hstep <;> cases hstep
    next packet hpc =>
      exact h.of_eq rfl rfl rfl rfl rfl (by simp [offered, note]) (by rw [hpc]; rfl)

/-- **Run lemma**: both invariants hold between any two accesses of any interleaving. -/
lemma isCounted (hostIsAddress : Bool) :
    (system hostIsAddress).IsInvariant fun trace t => Invariant trace t ∧ Counted trace t :=
  (isInvariant hostIsAddress).and {
    start := ⟨rfl, ⟨0, rfl, rfl⟩, 0, 0, rfl, rfl, rfl⟩
    keep := fun _ _ _ _ _ hinv h hstep => h.step hinv hstep }

/-! ## Conservation -/

/-- When `stop` returns, the control thread is between two calls and there is no worker. -/
lemma Invariant.of_stopReturned (h : Invariant trace t) {action : Action}
    (hstep : t.step hostIsAddress action = some (t', events))
    (hreturned : .stopReturned ∈ events) : t'.control = .idle ∧ t'.worker = .none := by
  cases action with
  | control =>
    simp only [UdpTransmitter.step] at hstep
    cases hpc : t.control with
    | closing =>
      have hcontrol := h.control
      rw [hpc] at hcontrol
      simp only [UdpTransmitter.controlStep, hpc] at hstep
      cases hstep
      exact ⟨rfl, hcontrol.2⟩
    | _ =>
      simp only [UdpTransmitter.controlStep, hpc, Option.map_eq_some_iff] at hstep
      try split at hstep
      all_goals first | (obtain ⟨⟨_, _⟩, -, heq⟩ := hstep; cases heq) | cases hstep
      all_goals simp at hreturned
  | worker =>
    simp only [UdpTransmitter.step] at hstep
    cases hpc : t.worker with
    | counting complete =>
      cases complete <;> simp only [UdpTransmitter.workerStep, hpc] at hstep <;> cases hstep
      all_goals simp at hreturned
    | _ =>
      simp only [UdpTransmitter.workerStep, hpc, Option.map_eq_some_iff] at hstep
      all_goals first | (obtain ⟨⟨_, _⟩, -, heq⟩ := hstep; cases heq) | cases hstep
      all_goals simp at hreturned
  | _ =>
    simp only [UdpTransmitter.step] at hstep
    split at hstep <;> try split at hstep
    all_goals cases hstep
    all_goals simp at hreturned

/-- **Packets are conserved**: after any interleaving of any calls, when `stop` returns the queue
is empty and the packets handed to `sendto`, over all starts and stops so far, are those for
which `try_send` returned true, once each and in the order of the calls. `queued_` is the sum of
`sent_` and `send_errors_`, and with `queue_dropped_` the number of calls of `try_send` that were
made while the transmitter was started, in 64-bit arithmetic and, up to the first `2 ^ 64` calls,
in the natural numbers. -/
theorem packets_conserved (hostIsAddress : Bool) {actions : List Action} {action : Action}
    (hrun : (system hostIsAddress).run actions = some (t, trace))
    (hstep : t.step hostIsAddress action = some (t', events))
    (hreturned : .stopReturned ∈ events) :
    (t'.queue.size = 0 ∧ handed (trace ++ events) = accepted (trace ++ events)) ∧
      (t'.stats.queued = t'.stats.sent + t'.stats.sendErrors ∧
        t'.stats.queued + t'.stats.queueDropped =
          BitVec.ofNat 64 (offered (trace ++ events)).length) ∧
      ((offered (trace ++ events)).length < 2 ^ 64 →
        t'.stats.queued.toNat = t'.stats.sent.toNat + t'.stats.sendErrors.toNat ∧
          t'.stats.queued.toNat + t'.stats.queueDropped.toNat =
            (offered (trace ++ events)).length) := by
  obtain ⟨hinv, hcounted⟩ := (isCounted hostIsAddress).of_run hrun
  obtain ⟨hidle, hnone⟩ := hinv.of_stopReturned hstep hreturned
  obtain ⟨hqueue, -, -, hworker, -⟩ := hinv.step hstep
  obtain ⟨hqueued, ⟨dropped, hdropped, hoffered⟩, sent, errors, hsent, herrors, hhanded⟩ :=
    hcounted.step hinv hstep
  simp only [hidle, hnone, ControlState.taken, WorkerState.held, List.append_nil] at hqueue
  simp only [hnone, WorkerState.uncounted, add_zero] at hworker hhanded
  simp only [hidle, ControlState.unanswered, add_zero] at hoffered
  -- The worker has left its loop on finding the queue empty.
  have hlength : (handed (trace ++ events)).length = (accepted (trace ++ events)).length :=
    hqueue.empty_iff.mp hworker.2
  have hsize := hqueue.size_eq
  refine ⟨⟨by omega, hqueue.isPrefix.eq_of_length hlength⟩, ⟨?_, ?_⟩, fun hfew => ⟨?_, ?_⟩⟩
  · rw [stats, hqueued, hsent, herrors, ← hlength, ← hhanded, BitVec.ofNat_add]
  · rw [stats, hqueued, hdropped, ← hoffered, BitVec.ofNat_add]
  · simp only [stats, hqueued, hsent, herrors, BitVec.toNat_ofNat]
    rw [Nat.mod_eq_of_lt (by omega), Nat.mod_eq_of_lt (by omega), Nat.mod_eq_of_lt (by omega)]
    omega
  · simp only [stats, hqueued, hdropped, BitVec.toNat_ofNat]
    rw [Nat.mod_eq_of_lt (by omega), Nat.mod_eq_of_lt (by omega), hoffered]

/-- A packet is accepted and `stop` called before the worker has looked at the queue. -/
def stopAtOnce : List Action :=
  [.start, .socket (.ok 3), .control, .control, .trySend default, .control, .control, .control,
    .control, .control, .stop] ++ List.replicate 7 .worker ++ [.sendto 163] ++
    List.replicate 4 .worker ++ [.control]

/-- What happens in this run. -/
def stoppedAtOnce : List Event :=
  [.startReturned true, .trySendCalled default, .trySendReturned default true, .stopCalled,
    .handed default 163]

/-- The packet is sent all the same. -/
theorem packets_conserved_stopAtOnce :
    handed (stoppedAtOnce ++ [.stopReturned]) = accepted (stoppedAtOnce ++ [.stopReturned]) := by
  have hrun : (system true).run stopAtOnce = some (_, stoppedAtOnce) := rfl
  exact (@packets_conserved _ _ _ [.stopReturned] _ _ .control hrun rfl List.mem_cons_self).1.2

end UdpTransmitter

end FlightDeck.Generator
