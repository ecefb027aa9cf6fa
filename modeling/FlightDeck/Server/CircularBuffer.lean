import FlightDeck.Lib.CyclicIndex
import FlightDeck.Lib.Window
import Mathlib.Data.List.OfFn
import Mathlib.Data.PNat.Basic
import Mathlib.Logic.Function.Basic

set_option relaxedAutoImplicit false
set_option autoImplicit false

/-!
# The bounded history

`CircularBuffer` of `server/src/circular-buffer.ts`. The capacity is part of the type, as is the
fact that every slot `toArray` reads has been set, so its cast to the element type is safe.

## Main definitions

* `CircularBuffer` — the slots, the first one in use and how many are.
* `CircularBuffer.push`, `CircularBuffer.clear`, `CircularBuffer.toArray` — the methods.
* `CircularBuffer.run`, `CircularBuffer.pushedSinceClear` — any calls, and what they leave behind.

## Main results

* `CircularBuffer.toArray_push` — a push keeps the last `capacity` values.
* `CircularBuffer.run_holds_last` — any calls, on a new buffer.
-/

namespace FlightDeck.Server

open CyclicIndex

/-- `CircularBuffer<T>` of a given capacity. -/
structure CircularBuffer (T : Type*) (capacity : ℕ+) where
  /-- `#items`; `none` is `undefined`. -/
  items : Fin capacity → Option T
  /-- `#start`. -/
  start : Fin capacity
  /-- `#length`. -/
  length : ℕ
  /-- No more slots are in use than there are. -/
  length_le : length ≤ capacity
  /-- Every slot in use has been set. -/
  occupied : ∀ i < length, (items (slot capacity (start + i))).isSome

namespace CircularBuffer

variable {T : Type*} {capacity : ℕ+}

/-- The message of the constructor's `RangeError`. -/
def rangeError : String := "capacity must be a positive integer"

/-- A new buffer. -/
def new (T : Type*) (capacity : ℕ+) : CircularBuffer T capacity where
  items := fun _ => none
  start := 0
  length := 0
  length_le := Nat.zero_le _
  occupied := fun _ h => absurd h (Nat.not_lt_zero _)

/-- The constructor, which throws on a capacity that is not positive. -/
def construct (T : Type*) (capacity : ℤ) :
    Except String ((n : ℕ+) × CircularBuffer T n) :=
  if h : 0 < capacity.toNat then .ok ⟨⟨capacity.toNat, h⟩, new T _⟩ else .error rangeError

/-- `clear`. -/
def clear (_ : CircularBuffer T capacity) : CircularBuffer T capacity := new T capacity

/-- Setting a slot unsets none. -/
lemma isSome_update {n : ℕ} {items : Fin n → Option T} (k : Fin n) (value : T) {j : Fin n}
    (h : j = k ∨ (items j).isSome) : (Function.update items k (some value) j).isSome := by
  by_cases hj : j = k
  · rw [hj, Function.update_self]
    rfl
  · rw [Function.update_of_ne hj]
    exact h.resolve_left hj

/-- The slots in use and the next one, counted from the second. -/
lemma occupied_from_second (b : CircularBuffer T capacity) {i : ℕ}
    (hi : i < b.length) :
    slot capacity ((slot capacity (b.start + 1)).val + i) = slot capacity (b.start + b.length) ∨
      (b.items (slot capacity ((slot capacity (b.start + 1)).val + i))).isSome := by
  rw [slot_val_add, add_assoc, add_comm 1 i]
  rcases (show i + 1 ≤ b.length from hi).eq_or_lt with heq | hlt
  · exact Or.inl (by rw [heq])
  · exact Or.inr (b.occupied _ hlt)

/-- `push`. -/
def push (b : CircularBuffer T capacity) (value : T) : CircularBuffer T capacity :=
  let index := slot capacity (b.start + b.length)
  if h : b.length < capacity then
    { items := Function.update b.items index (some value)
      start := b.start
      length := b.length + 1
      length_le := h
      occupied := fun i hi => isSome_update index value <| by
        rcases Nat.lt_succ_iff_lt_or_eq.mp hi with hi | rfl
        · exact Or.inr (b.occupied i hi)
        · exact Or.inl rfl }
  else
    { items := Function.update b.items index (some value)
      start := slot capacity (b.start + 1)
      length := b.length
      length_le := b.length_le
      occupied := fun _ hi => isSome_update index value (b.occupied_from_second hi) }

/-- `toArray`. -/
def toArray (b : CircularBuffer T capacity) : List T :=
  List.ofFn fun i : Fin b.length => (b.items (slot capacity (b.start + i))).get (b.occupied i i.isLt)

@[simp] lemma length_toArray (b : CircularBuffer T capacity) : b.toArray.length = b.length := by
  simp [toArray]

@[simp] lemma toArray_new : (new T capacity).toArray = [] := by
  simp [toArray, new]

@[simp] lemma toArray_clear (b : CircularBuffer T capacity) : b.clear.toArray = [] :=
  toArray_new

/-- The values of a buffer are those of its slots in use. -/
lemma getElem?_toArray (b : CircularBuffer T capacity) {i : ℕ} (hi : i < b.length) :
    b.toArray[i]? = b.items (slot capacity (b.start + i)) := by
  rw [List.getElem?_eq_getElem (by simpa using hi)]
  simp [toArray]

/-- Slots in use at different offsets are different slots. -/
lemma slot_start_inj (b : CircularBuffer T capacity) {i j : ℕ} (hij : i ≤ j)
    (hj : j < i + capacity) :
    slot capacity (b.start + i) = slot capacity (b.start + j) ↔ i = j := by
  rw [slot_inj (by omega) (by omega)]
  omega

/-- **A push keeps the last values**: after it the buffer holds the last `capacity` elements of
what it held and the new value.

**Proof sketch.** While there is room the new value goes into the slot after those in use. In a
full buffer that slot is the first one in use, and the start moves on past it. -/
theorem toArray_push (b : CircularBuffer T capacity) (value : T) :
    (b.push value).toArray = (b.toArray ++ [value]).rtake capacity := by
  have hle := b.length_le
  have hpos := capacity.pos
  by_cases h : b.length < capacity
  · have hstart : (b.push value).start = b.start := by simp [push, h]
    have hlength : (b.push value).length = b.length + 1 := by simp [push, h]
    have hitems : (b.push value).items =
        Function.update b.items (slot capacity (b.start + b.length)) (some value) := by
      simp [push, h]
    rw [Window.rtake_concat_of_lt (by simpa using h)]
    apply List.ext_getElem?
    intro i
    rcases lt_trichotomy i b.length with hi | rfl | hi
    · have hne := (b.slot_start_inj hi.le (by omega)).not.mpr hi.ne
      rw [getElem?_toArray _ (by omega), hstart, hitems, Function.update_of_ne hne,
        List.getElem?_append_left (by simpa using hi), b.getElem?_toArray hi]
    · rw [getElem?_toArray _ (by omega), hstart, hitems, Function.update_self]
      simp
    · rw [List.getElem?_eq_none (by simp [hlength]; omega), List.getElem?_eq_none (by simp; omega)]
  · have hfull : b.length = capacity := le_antisymm hle (not_lt.mp h)
    have hstart : (b.push value).start = slot capacity (b.start + 1) := by simp [push, h]
    have hlength : (b.push value).length = b.length := by simp [push, h]
    have hitems : (b.push value).items =
        Function.update b.items (slot capacity (b.start + b.length)) (some value) := by
      simp [push, h]
    rw [Window.rtake_concat_of_length_eq (by simpa using hfull) hpos]
    apply List.ext_getElem?
    intro i
    rcases lt_trichotomy (i + 1) b.length with hi | hi | hi
    · have hne := (b.slot_start_inj hi.le (by omega)).not.mpr hi.ne
      rw [getElem?_toArray _ (by omega), hstart, hitems, slot_val_add, add_assoc, add_comm 1 i,
        Function.update_of_ne hne, List.getElem?_append_left (by simp; omega),
        List.getElem?_tail, b.getElem?_toArray hi]
    · rw [getElem?_toArray _ (by omega), hstart, hitems, slot_val_add, add_assoc, add_comm 1 i, hi,
        Function.update_self, List.getElem?_append_right (by simp; omega)]
      simp [show i - (b.length - 1) = 0 by omega]
    · rw [List.getElem?_eq_none (by simp [hlength]; omega), List.getElem?_eq_none (by simp; omega)]

/-! ## Calls -/

/-- A call of one of the two methods that change a buffer. -/
inductive Call (T : Type*) where
  /-- `push(value)`. -/
  | push (value : T)
  /-- `clear()`. -/
  | clear

/-- The value that a call pushes. -/
def Call.pushed : Call T → Option T
  | .push value => some value
  | .clear => none

/-- One call. -/
def call (b : CircularBuffer T capacity) : Call T → CircularBuffer T capacity
  | .push value => b.push value
  | .clear => b.clear

/-- Calls one after the other, on a new buffer. -/
def run (capacity : ℕ+) (calls : List (Call T)) : CircularBuffer T capacity :=
  calls.foldl call (new T capacity)

/-- The values pushed since the last `clear`, in the order of the calls. -/
def pushedSinceClear (calls : List (Call T)) : List T :=
  (calls.rtakeWhile fun call => call.pushed.isSome).filterMap Call.pushed

lemma pushedSinceClear_push (calls : List (Call T)) (value : T) :
    pushedSinceClear (calls ++ [.push value]) = pushedSinceClear calls ++ [value] := by
  rw [pushedSinceClear, List.rtakeWhile_concat_pos _ _ _ rfl, List.filterMap_append]
  rfl

lemma pushedSinceClear_clear (calls : List (Call T)) :
    pushedSinceClear (calls ++ [.clear]) = [] := by
  rw [pushedSinceClear, List.rtakeWhile_concat_neg _ _ _ (by simp [Call.pushed])]
  rfl

/-- **Run lemma**: a buffer holds the window of what was pushed since it was cleared. -/
lemma toArray_run (calls : List (Call T)) :
    (run capacity calls).toArray = (pushedSinceClear calls).rtake capacity := by
  induction calls using List.reverseRecOn with
  | nil => exact toArray_new.trans (by simp [pushedSinceClear, List.rtake])
  | append_singleton calls last ih =>
    have hcall : run capacity (calls ++ [last]) = (run capacity calls).call last := by
      rw [run, List.foldl_concat]
      rfl
    rw [hcall]
    cases last with
    | push value =>
      rw [call, toArray_push, ih, Window.rtake_rtake_append, pushedSinceClear_push]
    | clear =>
      rw [call, toArray_clear, pushedSinceClear_clear]
      simp [List.rtake]

/-- **A bounded history.** After any calls of `push` and `clear` on a new buffer, `length` is the
number of values pushed since the last `clear`, but at most the capacity; `toArray` is the last
so many of them, in the order they were pushed; and every slot that it reads has been set to the
value that it returns. -/
theorem run_holds_last (capacity : ℕ+) (calls : List (Call T)) :
    let b := run capacity calls
    let pushed := pushedSinceClear calls
    b.length = min (capacity : ℕ) pushed.length ∧
      b.toArray = pushed.drop (pushed.length - b.length) ∧
      ∀ i < b.length, ∃ value,
        b.items (slot capacity (b.start + i)) = some value ∧ b.toArray[i]? = some value := by
  intro b pushed
  have harray : b.toArray = pushed.rtake capacity := toArray_run calls
  have hlength : b.length = min (capacity : ℕ) pushed.length := by
    rw [← length_toArray, harray, Window.length_rtake]
  refine ⟨hlength, ?_, ?_⟩
  · rw [harray, List.rtake]
    congr 1
    omega
  · intro i hi
    obtain ⟨value, hvalue⟩ := Option.isSome_iff_exists.mp (b.occupied i hi)
    exact ⟨value, hvalue, (b.getElem?_toArray hi).trans hvalue⟩

/-- Five values and a buffer of three. -/
example : (run 3 [.push 1, .push 2, .push 3, .push 4, .push 5]).toArray = [3, 4, 5] := by decide

end CircularBuffer

end FlightDeck.Server
