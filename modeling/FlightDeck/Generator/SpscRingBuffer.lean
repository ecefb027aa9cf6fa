import FlightDeck.Lib.CyclicIndex
import FlightDeck.Lib.TransitionSystem
import Mathlib.Data.List.Infix
import Mathlib.Logic.Function.Basic

set_option relaxedAutoImplicit false
set_option autoImplicit false

/-!
# The single-producer single-consumer ring buffer

The lock-free queue of `generator/include/flightdeck/spsc_ring_buffer.hpp`. One thread calls
`try_push`, one thread calls `try_pop` and `empty`; a call is a sequence of single loads, stores
and storage accesses, and the two threads interleave between any two of them. A thread keeps
what it has loaded in local variables, so it works with an index of the other side that may be
out of date.

A store has `Capacity + 1` slots, so the indices of any queue that can be laid out in memory
stay below `2 ^ 64` and `index + 1U` does not wrap.

## Main definitions

* `SpscRingBuffer` — the shared variables and where each thread stands in its call.
* `SpscRingBuffer.step` — one atomic access of one of the threads.
* `SpscRingBuffer.system` — the queue as a transition system.
* `SpscRingBuffer.pushed`, `SpscRingBuffer.popped` — the values of the successful calls.
* `SpscRingBuffer.Invariant` — what holds between any two accesses.

## Main results

* `SpscRingBuffer.isInvariant` — every access keeps the invariant.
* `SpscRingBuffer.interleavings_fifo` — first in, first out, within capacity and race free.
-/

namespace FlightDeck.Generator

open CyclicIndex TransitionSystem

/-- Where the producer stands in a call of `try_push(value)`. -/
inductive ProducerState (T : Type*) (Capacity : ℕ) where
  /-- Between two calls. -/
  | idle
  /-- `head_` is loaded and `next` computed from it; `tail_` is loaded next. -/
  | headLoaded (value : T) (head : Fin (Capacity + 1))
  /-- The queue was not full; `storage_[head]` is written next. -/
  | writing (value : T) (head : Fin (Capacity + 1))
  /-- The value is written; `head_` is stored next. -/
  | publishing (value : T) (head : Fin (Capacity + 1))
deriving DecidableEq

/-- Where the consumer stands in a call of `try_pop()` or `empty()`. -/
inductive ConsumerState (T : Type*) (Capacity : ℕ) where
  /-- Between two calls. -/
  | idle
  /-- `try_pop` has loaded `tail_`; `head_` is loaded next. -/
  | tailLoaded (tail : Fin (Capacity + 1))
  /-- `try_pop` found the queue not empty; `storage_[tail]` is moved out next. -/
  | reading (tail : Fin (Capacity + 1))
  /-- `try_pop` holds the value; `tail_` is stored next. -/
  | releasing (tail : Fin (Capacity + 1)) (value : T)
  /-- `empty` has loaded `head_`; `tail_` is loaded next. -/
  | emptyHeadLoaded (head : Fin (Capacity + 1))
deriving DecidableEq

/-- The producer is in a call of `try_push(value)`. -/
def ProducerState.Pushes {T : Type*} {Capacity : ℕ} (value : T) :
    ProducerState T Capacity → Prop
  | .idle => False
  | .headLoaded v _ => v = value
  | .writing v _ => v = value
  | .publishing v _ => v = value

/-- The consumer is in a call of `try_pop()`. -/
def ConsumerState.Pops {T : Type*} {Capacity : ℕ} : ConsumerState T Capacity → Prop
  | .idle => False
  | .tailLoaded _ => True
  | .reading _ => True
  | .releasing _ _ => True
  | .emptyHeadLoaded _ => False

/-- `SpscRingBuffer<T, Capacity>` with the two threads that use it. -/
structure SpscRingBuffer (T : Type*) (Capacity : ℕ) where
  /-- The slots, one more than the usable elements. -/
  storage : Fin (Capacity + 1) → T
  /-- The slot the next value is written to. -/
  head : Fin (Capacity + 1)
  /-- The slot the next value is read from. -/
  tail : Fin (Capacity + 1)
  /-- The thread that pushes. -/
  producer : ProducerState T Capacity
  /-- The thread that pops. -/
  consumer : ConsumerState T Capacity

namespace SpscRingBuffer

variable {T : Type*} {Capacity : ℕ}

/-- What a thread does next. -/
inductive Action (T : Type*) where
  /-- The producer calls `try_push(value)` and loads `head_`. -/
  | tryPush (value : T)
  /-- The producer makes the next access of its call. -/
  | producer
  /-- The consumer calls `try_pop()` and loads `tail_`. -/
  | tryPop
  /-- The consumer calls `empty()` and loads `head_`. -/
  | empty
  /-- The consumer makes the next access of its call. -/
  | consumer
deriving DecidableEq

/-- How a call ends. -/
inductive Event (T : Type*) where
  /-- `try_push(value)` returns true. -/
  | pushed (value : T)
  /-- `try_push(value)` returns false. -/
  | pushFailed (value : T)
  /-- `try_pop` returns the value. -/
  | popped (value : T)
  /-- `try_pop` returns `std::nullopt`. -/
  | popFailed
  /-- `empty` returns. -/
  | empty (result : Bool)
deriving DecidableEq

/-- `increment`. -/
def increment (index : Fin (Capacity + 1)) : Fin (Capacity + 1) :=
  ⟨(index.val + 1) % (Capacity + 1), Nat.mod_lt _ (Nat.succ_pos _)⟩

/-- A new queue, every slot value-initialized. -/
def new (T : Type*) [Inhabited T] (Capacity : ℕ) : SpscRingBuffer T Capacity where
  storage := fun _ => default
  head := 0
  tail := 0
  producer := .idle
  consumer := .idle

/-- One atomic access. `movedFrom` is what `std::move` leaves in a slot. -/
def step (movedFrom : T → T) (q : SpscRingBuffer T Capacity) :
    Action T → Option (SpscRingBuffer T Capacity × List (Event T))
  | .tryPush value =>
    match q.producer with
    | .idle => some ({ q with producer := .headLoaded value q.head }, [])
    | _ => none
  | .producer =>
    match q.producer with
    | .idle => none
    | .headLoaded value head =>
      if increment head = q.tail then some ({ q with producer := .idle }, [.pushFailed value])
      else some ({ q with producer := .writing value head }, [])
    | .writing value head =>
      some ({ q with
        storage := Function.update q.storage head value
        producer := .publishing value head }, [])
    | .publishing value head =>
      some ({ q with head := increment head, producer := .idle }, [.pushed value])
  | .tryPop =>
    match q.consumer with
    | .idle => some ({ q with consumer := .tailLoaded q.tail }, [])
    | _ => none
  | .empty =>
    match q.consumer with
    | .idle => some ({ q with consumer := .emptyHeadLoaded q.head }, [])
    | _ => none
  | .consumer =>
    match q.consumer with
    | .idle => none
    | .tailLoaded tail =>
      if tail = q.head then some ({ q with consumer := .idle }, [.popFailed])
      else some ({ q with consumer := .reading tail }, [])
    | .reading tail =>
      some ({ q with
        storage := Function.update q.storage tail (movedFrom (q.storage tail))
        consumer := .releasing tail (q.storage tail) }, [])
    | .releasing tail value =>
      some ({ q with tail := increment tail, consumer := .idle }, [.popped value])
    | .emptyHeadLoaded head =>
      some ({ q with consumer := .idle }, [.empty (head = q.tail)])

/-- The queue under every interleaving of its two threads. -/
def system (T : Type*) [Inhabited T] (Capacity : ℕ) (movedFrom : T → T) :
    System (SpscRingBuffer T Capacity) (Action T) (Event T) where
  init := new T Capacity
  step := step movedFrom

/-- The number of elements between the two indices. -/
def size (q : SpscRingBuffer T Capacity) : ℕ :=
  (q.head.val + (Capacity + 1) - q.tail.val) % (Capacity + 1)

/-- The values whose push succeeded, in order. -/
def pushed (trace : List (Event T)) : List T :=
  trace.filterMap fun
    | .pushed value => some value
    | _ => none

/-- The values popped, in order. -/
def popped (trace : List (Event T)) : List T :=
  trace.filterMap fun
    | .popped value => some value
    | _ => none

@[simp] lemma pushed_append (t₁ t₂ : List (Event T)) :
    pushed (t₁ ++ t₂) = pushed t₁ ++ pushed t₂ := List.filterMap_append

@[simp] lemma popped_append (t₁ t₂ : List (Event T)) :
    popped (t₁ ++ t₂) = popped t₁ ++ popped t₂ := List.filterMap_append

/-- Incrementing the slot of a position gives the slot of the next one. -/
@[simp] lemma increment_slot (i : ℕ) :
    increment (slot (Capacity + 1) i) = slot (Capacity + 1) (i + 1) :=
  slot_val_add i 1

/-! ## The accesses of one call -/

/-- The next access of a push: the call goes on or returns, and the consumer's side is left
alone. -/
lemma step_producer_of_pushes {movedFrom : T → T} {q q' : SpscRingBuffer T Capacity} {value : T}
    {events : List (Event T)} (hpushes : q.producer.Pushes value)
    (hstep : step movedFrom q .producer = some (q', events)) :
    (q'.consumer = q.consumer ∧ q'.tail = q.tail) ∧
      ((events = [] ∧ q'.producer.Pushes value) ∨
        (events = [.pushed value] ∧ q'.producer = .idle) ∨
        (events = [.pushFailed value] ∧ q'.producer = .idle)) := by
  cases hpc : q.producer with
  | idle => simp [hpc, ProducerState.Pushes] at hpushes
  | headLoaded v head =>
    obtain rfl : v = value := by simpa [hpc, ProducerState.Pushes] using hpushes
    simp only [step, hpc] at hstep
    split at hstep <;> cases hstep <;> simp [ProducerState.Pushes]
  | writing v head =>
    obtain rfl : v = value := by simpa [hpc, ProducerState.Pushes] using hpushes
    simp only [step, hpc] at hstep
    cases hstep
    simp [ProducerState.Pushes]
  | publishing v head =>
    obtain rfl : v = value := by simpa [hpc, ProducerState.Pushes] using hpushes
    simp only [step, hpc] at hstep
    cases hstep
    simp

/-- The next access of a pop: the call goes on or returns, and the producer's side is left
alone. -/
lemma step_consumer_of_pops {movedFrom : T → T} {q q' : SpscRingBuffer T Capacity}
    {events : List (Event T)} (hpops : q.consumer.Pops)
    (hstep : step movedFrom q .consumer = some (q', events)) :
    q'.producer = q.producer ∧
      ((events = [] ∧ q'.consumer.Pops) ∨
        (∃ value, events = [.popped value] ∧ q'.consumer = .idle) ∨
        (events = [.popFailed] ∧ q'.consumer = .idle)) := by
  cases hpc : q.consumer with
  | idle => simp [hpc, ConsumerState.Pops] at hpops
  | tailLoaded tail =>
    simp only [step, hpc] at hstep
    split at hstep <;> cases hstep <;> simp [ConsumerState.Pops]
  | reading tail =>
    simp only [step, hpc] at hstep
    cases hstep
    simp [ConsumerState.Pops]
  | releasing tail value =>
    simp only [step, hpc] at hstep
    cases hstep
    simp
  | emptyHeadLoaded head => simp [hpc, ConsumerState.Pops] at hpops

/-- A push fails in the access that loads `tail_`, on finding it equal to `next`. -/
lemma step_pushFailed {movedFrom : T → T} {q q' : SpscRingBuffer T Capacity}
    {action : Action T} {events : List (Event T)} {value : T}
    (hstep : step movedFrom q action = some (q', events)) (hfailed : .pushFailed value ∈ events) :
    ∃ head, q.producer = .headLoaded value head ∧ increment head = q.tail := by
  cases action with
  | producer =>
    cases hpc : q.producer with
    | headLoaded v head =>
      simp only [step, hpc] at hstep
      split at hstep <;> cases hstep
      · next hfull =>
        obtain rfl : value = v := by simpa using hfailed
        exact ⟨head, rfl, hfull⟩
      · simp at hfailed
    | _ =>
      simp only [step, hpc] at hstep
      cases hstep
      try simp at hfailed
  | _ =>
    simp only [step] at hstep
    split at hstep <;> try split at hstep
    all_goals cases hstep
    all_goals simp at hfailed

/-- A pop fails in the access that loads `head_`, on finding it equal to `tail`. -/
lemma step_popFailed {movedFrom : T → T} {q q' : SpscRingBuffer T Capacity}
    {action : Action T} {events : List (Event T)}
    (hstep : step movedFrom q action = some (q', events)) (hfailed : .popFailed ∈ events) :
    ∃ tail, q.consumer = .tailLoaded tail ∧ tail = q.head := by
  cases action with
  | consumer =>
    cases hpc : q.consumer with
    | tailLoaded tail =>
      simp only [step, hpc] at hstep
      split at hstep <;> cases hstep
      · next hempty => exact ⟨tail, rfl, hempty⟩
      · simp at hfailed
    | _ =>
      simp only [step, hpc] at hstep
      cases hstep
      try simp at hfailed
  | _ =>
    simp only [step] at hstep
    split at hstep <;> try split at hstep
    all_goals cases hstep
    all_goals simp at hfailed

/-! ## The invariant -/

/-- What the producer's local variables say about a queue whose counts of pushed and popped
values are `q` and `p`. -/
def ProducerFacts (storage : Fin (Capacity + 1) → T) (p q : ℕ) :
    ProducerState T Capacity → Prop
  | .idle => True
  | .headLoaded _ head => head = slot _ q
  | .writing _ head => head = slot _ q ∧ q < p + Capacity
  | .publishing value head => head = slot _ q ∧ q < p + Capacity ∧ storage head = value

/-- What the consumer's local variables say about a queue that has pushed `values` and popped
`p` of them. -/
def ConsumerFacts (values : List T) (p : ℕ) : ConsumerState T Capacity → Prop
  | .idle => True
  | .tailLoaded tail => tail = slot _ p
  | .reading tail => tail = slot _ p ∧ p < values.length
  | .releasing tail value => tail = slot _ p ∧ values[p]? = some value
  | .emptyHeadLoaded _ => True

/-- The first position whose slot still holds its value: the slot being released has been moved
out of. -/
def firstHeld (p : ℕ) : ConsumerState T Capacity → ℕ
  | .releasing _ _ => p + 1
  | _ => p

/-- What holds between any two accesses, when `values` have been pushed and `taken` have been
popped. -/
structure Invariant (values taken : List T) (q : SpscRingBuffer T Capacity) : Prop where
  /-- The values popped are the first ones pushed. -/
  isPrefix : taken <+: values
  /-- No more than `Capacity` values are stored. -/
  le_capacity : values.length ≤ taken.length + Capacity
  /-- `head_` is the slot of the next value to be pushed. -/
  head_eq : q.head = slot _ values.length
  /-- `tail_` is the slot of the next value to be popped. -/
  tail_eq : q.tail = slot _ taken.length
  /-- Every stored value is in its slot. -/
  stored : ∀ i value, firstHeld taken.length q.consumer ≤ i → values[i]? = some value →
    q.storage (slot _ i) = value
  /-- The producer's local variables. -/
  producer : ProducerFacts q.storage taken.length values.length q.producer
  /-- The consumer's local variables. -/
  consumer : ConsumerFacts values taken.length q.consumer

section Steps

variable {values taken : List T} {q : SpscRingBuffer T Capacity}

/-- A new queue. -/
lemma Invariant.new [Inhabited T] : Invariant [] [] (new T Capacity) where
  isPrefix := List.prefix_rfl
  le_capacity := Nat.zero_le _
  head_eq := by simp [SpscRingBuffer.new, slot]
  tail_eq := by simp [SpscRingBuffer.new, slot]
  stored := by simp
  producer := trivial
  consumer := trivial

/-- What has been popped is no more than what has been pushed. -/
lemma Invariant.length_le (h : Invariant values taken q) : taken.length ≤ values.length :=
  h.isPrefix.length_le

/-- The first stored value is the next one to be popped. -/
lemma Invariant.next_taken (h : Invariant values taken q) (hlt : taken.length < values.length)
    (hfirst : firstHeld taken.length q.consumer = taken.length) :
    values[taken.length]? = some (q.storage (slot _ taken.length)) := by
  have hget := List.getElem?_eq_getElem hlt
  rw [hget, h.stored _ _ hfirst.le hget]

/-- The indices are as far apart as the histories. -/
lemma Invariant.size_eq (h : Invariant values taken q) :
    taken.length + q.size = values.length := by
  have hle := h.length_le
  have hcapacity := h.le_capacity
  have hsize : q.size = values.length - taken.length := by
    rw [size, h.head_eq, h.tail_eq, slot_distance hle (by omega)]
  omega

/-- An index the producer finds equal to `tail_` says that the queue is full. -/
lemma Invariant.full_iff (h : Invariant values taken q) :
    increment q.head = q.tail ↔ values.length = taken.length + Capacity := by
  have hle := h.length_le
  have hcapacity := h.le_capacity
  rw [h.head_eq, h.tail_eq, increment_slot, eq_comm, ← slot_add_self taken.length,
    eq_comm, slot_inj (by omega) (by omega)]
  omega

/-- An index the consumer finds equal to `head_` says that the queue is empty. -/
lemma Invariant.empty_iff (h : Invariant values taken q) :
    q.tail = q.head ↔ taken.length = values.length := by
  have hcapacity := h.le_capacity
  rw [h.head_eq, h.tail_eq, slot_inj h.length_le (by omega)]

/-- The producer moves on without touching the queue. -/
lemma Invariant.setProducer (h : Invariant values taken q) (state : ProducerState T Capacity)
    (hstate : ProducerFacts q.storage taken.length values.length state) :
    Invariant values taken { q with producer := state } :=
  { h with producer := hstate }

/-- The consumer moves on without touching the queue. -/
lemma Invariant.setConsumer (h : Invariant values taken q) (state : ConsumerState T Capacity)
    (hfirst : firstHeld taken.length state = firstHeld taken.length q.consumer)
    (hstate : ConsumerFacts values taken.length state) :
    Invariant values taken { q with consumer := state } := by
  refine { h with stored := ?_, consumer := hstate }
  intro i value hi hget
  exact h.stored i value (hfirst ▸ hi) hget

/-- `storage_[head] = value`: the slot written holds none of the stored values. -/
lemma Invariant.write (h : Invariant values taken q) {value : T} {head : Fin (Capacity + 1)}
    (hproducer : q.producer = .writing value head) :
    Invariant values taken { q with
      storage := Function.update q.storage head value
      producer := .publishing value head } := by
  have hfacts := h.producer
  rw [hproducer] at hfacts
  obtain ⟨rfl, hroom⟩ := hfacts
  refine { h with stored := ?_, producer := ⟨rfl, hroom, Function.update_self ..⟩ }
  intro i v hi hget
  have hlt : i < values.length := (List.getElem?_eq_some_iff.mp hget).1
  have hge : taken.length ≤ i := by
    refine le_trans ?_ hi
    show taken.length ≤ firstHeld _ q.consumer
    cases q.consumer <;> simp [firstHeld]
  -- The slot written is that of the next position, at most `Capacity` past every stored one.
  have hne : slot (Capacity + 1) i ≠ slot _ values.length := by
    rw [Ne, slot_inj hlt.le (by omega)]
    omega
  exact (Function.update_of_ne hne _ _).trans (h.stored i v hi hget)

/-- `head_.store(next)`: the value written becomes the last one pushed. -/
lemma Invariant.publish (h : Invariant values taken q) {value : T} {head : Fin (Capacity + 1)}
    (hproducer : q.producer = .publishing value head) :
    Invariant (values ++ [value]) taken
      { q with head := increment head, producer := .idle } := by
  have hfacts := h.producer
  rw [hproducer] at hfacts
  obtain ⟨rfl, hroom, hvalue⟩ := hfacts
  refine { h with
    isPrefix := h.isPrefix.trans (List.prefix_append ..)
    producer := trivial
    le_capacity := ?le_capacity, head_eq := ?head_eq, stored := ?stored, consumer := ?consumer }
  case le_capacity =>
    rw [List.length_append, List.length_singleton]
    omega
  case head_eq =>
    rw [List.length_append, List.length_singleton]
    exact increment_slot _
  case stored =>
    intro i v hi hget
    rcases lt_or_ge i values.length with hlt | hge
    · rw [List.getElem?_append_left hlt] at hget
      exact h.stored i v hi hget
    · obtain rfl : i = values.length := by
        have hlt := (List.getElem?_eq_some_iff.mp hget).1
        simp only [List.length_append, List.length_singleton] at hlt
        omega
      rw [List.getElem?_concat_length, Option.some_inj] at hget
      exact hvalue.trans hget
  case consumer =>
    have hconsumer := h.consumer
    show ConsumerFacts _ _ q.consumer
    revert hconsumer
    -- What the consumer knew of the values pushed stays true of a longer list.
    cases q.consumer with
    | reading tail =>
      rintro ⟨rfl, hlt⟩
      exact ⟨rfl, by rw [List.length_append]; omega⟩
    | releasing tail v =>
      rintro ⟨rfl, hget⟩
      refine ⟨rfl, ?_⟩
      rw [List.getElem?_append_left (List.getElem?_eq_some_iff.mp hget).1]
      exact hget
    | idle => exact id
    | tailLoaded tail => exact id
    | emptyHeadLoaded head => exact id

/-- `std::move(storage_[tail])`: the slot moved out of holds no later value, and is not the one
the producer has written. -/
lemma Invariant.move (h : Invariant values taken q) (movedFrom : T → T)
    {tail : Fin (Capacity + 1)} (hconsumer : q.consumer = .reading tail) :
    Invariant values taken { q with
      storage := Function.update q.storage tail (movedFrom (q.storage tail))
      consumer := .releasing tail (q.storage tail) } := by
  have hfacts := h.consumer
  rw [hconsumer] at hfacts
  obtain ⟨rfl, hlt⟩ := hfacts
  have hcapacity := h.le_capacity
  have hfirst : firstHeld taken.length q.consumer = taken.length := by
    rw [hconsumer]; rfl
  refine { h with
    consumer := ⟨rfl, h.next_taken hlt hfirst⟩
    stored := ?stored, producer := ?producer }
  case stored =>
    intro i v hi hget
    have hi' : taken.length + 1 ≤ i := hi
    have hilt : i < values.length := (List.getElem?_eq_some_iff.mp hget).1
    have hne : slot (Capacity + 1) i ≠ slot _ taken.length := by
      rw [ne_comm, Ne, slot_inj (by omega) (by omega)]
      omega
    exact (Function.update_of_ne hne _ _).trans (h.stored i v (by rw [hfirst]; omega) hget)
  case producer =>
    have hproducer := h.producer
    show ProducerFacts _ _ _ q.producer
    revert hproducer
    cases q.producer with
    | publishing value head =>
      rintro ⟨rfl, hroom, hvalue⟩
      have hne : slot (Capacity + 1) values.length ≠ slot _ taken.length := by
        rw [ne_comm, Ne, slot_inj hlt.le (by omega)]
        omega
      exact ⟨rfl, hroom, (Function.update_of_ne hne _ _).trans hvalue⟩
    | idle => exact id
    | headLoaded value head => exact id
    | writing value head => exact id

/-- `tail_.store(increment(tail))`: the value held becomes the last one popped. -/
lemma Invariant.release (h : Invariant values taken q) {tail : Fin (Capacity + 1)} {value : T}
    (hconsumer : q.consumer = .releasing tail value) :
    Invariant values (taken ++ [value])
      { q with tail := increment tail, consumer := .idle } := by
  have hfacts := h.consumer
  rw [hconsumer] at hfacts
  obtain ⟨rfl, hget⟩ := hfacts
  have hlt : taken.length < values.length := (List.getElem?_eq_some_iff.mp hget).1
  have hcapacity := h.le_capacity
  have hlength : (taken ++ [value]).length = taken.length + 1 := by simp
  refine { h with
    le_capacity := by omega
    consumer := trivial
    isPrefix := ?isPrefix, tail_eq := ?tail_eq, stored := ?stored, producer := ?producer }
  case isPrefix =>
    rw [List.prefix_iff_eq_take, hlength, List.take_add_one, hget, Option.toList_some,
      ← List.prefix_iff_eq_take.mp h.isPrefix]
  case tail_eq =>
    rw [hlength]
    exact increment_slot _
  case stored =>
    intro i v hi hstored
    rw [hlength] at hi
    exact h.stored i v (by rw [hconsumer]; exact hi) hstored
  case producer =>
    have hproducer := h.producer
    show ProducerFacts _ _ _ q.producer
    rw [hlength]
    revert hproducer
    -- A pop only makes more room for the value the producer is about to store.
    cases q.producer with
    | writing v head =>
      rintro ⟨rfl, hroom⟩
      exact ⟨rfl, by omega⟩
    | publishing v head =>
      rintro ⟨rfl, hroom, hv⟩
      exact ⟨rfl, by omega, hv⟩
    | idle => exact id
    | headLoaded v head => exact id

end Steps

/-- **Step lemma**: every access keeps the invariant. -/
lemma Invariant.step {values taken : List T} {q q' : SpscRingBuffer T Capacity}
    {movedFrom : T → T} {action : Action T} {events : List (Event T)}
    (h : Invariant values taken q) (hstep : step movedFrom q action = some (q', events)) :
    Invariant (values ++ pushed events) (taken ++ popped events) q' := by
  have hproducer := h.producer
  have hconsumer := h.consumer
  cases action with
  | tryPush value =>
    simp only [SpscRingBuffer.step] at hstep
    split at hstep <;> cases hstep
    simpa [pushed, popped] using h.setProducer (.headLoaded value q.head) h.head_eq
  | producer =>
    simp only [SpscRingBuffer.step] at hstep
    split at hstep
    · cases hstep
    · next value head hpc =>
      rw [hpc] at hproducer
      obtain rfl : head = q.head := hproducer.trans h.head_eq.symm
      split at hstep <;> cases hstep
      · simpa [pushed, popped] using h.setProducer .idle trivial
      · next hne =>
        have hroom : values.length < taken.length + Capacity :=
          lt_of_le_of_ne h.le_capacity (mt h.full_iff.mpr hne)
        simpa [pushed, popped] using
          h.setProducer (.writing value q.head) ⟨h.head_eq, hroom⟩
    · next hpc =>
      cases hstep
      simpa [pushed, popped] using h.write hpc
    · next hpc =>
      cases hstep
      simpa [pushed, popped] using h.publish hpc
  | tryPop =>
    simp only [SpscRingBuffer.step] at hstep
    split at hstep <;> cases hstep
    next hpc =>
      simpa [pushed, popped] using
        h.setConsumer (.tailLoaded q.tail) (by rw [hpc]; rfl) h.tail_eq
  | empty =>
    simp only [SpscRingBuffer.step] at hstep
    split at hstep <;> cases hstep
    next hpc =>
      simpa [pushed, popped] using
        h.setConsumer (.emptyHeadLoaded q.head) (by rw [hpc]; rfl) trivial
  | consumer =>
    simp only [SpscRingBuffer.step] at hstep
    split at hstep
    · cases hstep
    · next tail hpc =>
      rw [hpc] at hconsumer
      obtain rfl : tail = q.tail := hconsumer.trans h.tail_eq.symm
      split at hstep <;> cases hstep
      · simpa [pushed, popped] using
          h.setConsumer .idle (by rw [hpc]; rfl) trivial
      · next hne =>
        have hlt : taken.length < values.length :=
          lt_of_le_of_ne h.length_le (mt h.empty_iff.mpr hne)
        simpa [pushed, popped] using
          h.setConsumer (.reading q.tail) (by rw [hpc]; rfl) ⟨h.tail_eq, hlt⟩
    · next hpc =>
      cases hstep
      simpa [pushed, popped] using h.move movedFrom hpc
    · next hpc =>
      cases hstep
      simpa [pushed, popped] using h.release hpc
    · next hpc =>
      cases hstep
      simpa [pushed, popped] using
        h.setConsumer .idle (by rw [hpc]; rfl) trivial

/-- **Run lemma**: the invariant holds between any two accesses of any interleaving. -/
lemma isInvariant [Inhabited T] (movedFrom : T → T) :
    (system T Capacity movedFrom).IsInvariant fun trace q =>
      Invariant (pushed trace) (popped trace) q where
  start := Invariant.new
  keep trace q action q' events _ h hstep := by
    simpa using h.step hstep

/-- **The queue is first in, first out**: after any interleaving of the accesses of any number
of calls, the values popped are a prefix of the values whose push succeeded; the queue stores
the others, at most `Capacity` of them; the producer is never about to write the slot the
consumer is about to read; and if the next access makes a call fail, it is the load of `tail_`
by a push that finds exactly `Capacity` elements stored, or the load of `head_` by a pop that
finds none.

**Proof sketch.** All of it is read off the invariant. A failing load compares two indices, and
the indices of two positions at most `Capacity` apart agree only where the positions do. -/
theorem interleavings_fifo [Inhabited T] (movedFrom : T → T) (actions : List (Action T))
    {q : SpscRingBuffer T Capacity} {trace : List (Event T)}
    (hrun : (system T Capacity movedFrom).run actions = some (q, trace)) :
    popped trace <+: pushed trace ∧
      ((popped trace).length + q.size = (pushed trace).length ∧ q.size ≤ Capacity) ∧
      (∀ value written read, q.producer = .writing value written → q.consumer = .reading read →
        written ≠ read) ∧
      ∀ action q' events, step movedFrom q action = some (q', events) →
        (∀ value, .pushFailed value ∈ events → q.size = Capacity) ∧
          (.popFailed ∈ events → q.size = 0) := by
  have h := (isInvariant movedFrom).of_run hrun
  have hsize := h.size_eq
  have hcapacity := h.le_capacity
  refine ⟨h.isPrefix, ⟨hsize, by omega⟩, fun value written read hwriting hreading => ?_,
    fun action q' events hstep => ⟨fun value hfailed => ?_, fun hfailed => ?_⟩⟩
  · have hproducer := h.producer
    have hconsumer := h.consumer
    rw [hwriting] at hproducer
    rw [hreading] at hconsumer
    obtain ⟨rfl, hroom⟩ := hproducer
    obtain ⟨rfl, hlt⟩ := hconsumer
    rw [ne_comm, Ne, slot_inj hlt.le (by omega)]
    omega
  · obtain ⟨head, hpc, hfull⟩ := step_pushFailed hstep hfailed
    have hproducer := h.producer
    rw [hpc] at hproducer
    obtain rfl : head = q.head := hproducer.trans h.head_eq.symm
    have hcount := h.full_iff.mp hfull
    omega
  · obtain ⟨tail, hpc, hempty⟩ := step_popFailed hstep hfailed
    have hconsumer := h.consumer
    rw [hpc] at hconsumer
    obtain rfl : tail = q.tail := hconsumer.trans h.tail_eq.symm
    have hcount := h.empty_iff.mp hempty
    omega

/-- A push and a pop that overlap, at capacity 1, the pop moving the value out of its slot: the
second push finds the queue full, as `tail_` is stored after it looked. -/
theorem interleavings_fifo_overlapping :
    popped [Event.pushed 7, .pushFailed 8, .popped 7] <+:
      pushed [Event.pushed 7, .pushFailed 8, .popped 7] :=
  (interleavings_fifo (fun _ => 0)
    [.tryPush 7, .producer, .producer, .producer, .tryPop, .consumer, .tryPush 8, .consumer,
      .producer, .consumer]
    (show (system ℕ 1 fun _ => 0).run _ =
      some (_, [Event.pushed 7, .pushFailed 8, .popped 7]) from rfl)).1

end SpscRingBuffer

end FlightDeck.Generator
