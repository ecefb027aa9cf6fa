import Mathlib.Data.List.Induction
import Mathlib.Order.Basic

set_option relaxedAutoImplicit false
set_option autoImplicit false

/-!
# Transition systems with events

A system is a start state and a step function: an action either is not enabled in a state, or
leads to a state and emits events. Interleaving is in the choice of the actions, so a run is a
list of actions, and what holds of every run is proved by induction over that list.

## Main definitions

* `TransitionSystem.System` — a start state and a step function.
* `TransitionSystem.System.run` — the state after a list of actions, with the events of all of
  them.
* `TransitionSystem.System.IsInvariant` — a property of the trace so far and the state that
  holds at the start and that every enabled action keeps.
* `TransitionSystem.System.IsPart` — a system that runs as a part of another one.

## Main results

* `TransitionSystem.System.IsInvariant.of_run` — an invariant holds after every run.
* `TransitionSystem.System.IsInvariant.and` — invariants may be proved one on top of the other.
* `TransitionSystem.System.IsPart.exists_run` — what a part does in a run of the whole is a run.
* `TransitionSystem.System.IsPart.isInvariant` — so an invariant of the part is one of the whole.
-/

namespace TransitionSystem

/-- A transition system with states `σ`, actions `α` and events `ε`. -/
structure System (σ α ε : Type*) where
  /-- The start state. -/
  init : σ
  /-- What an action does in a state, with the events it emits; `none` when it is not enabled. -/
  step : σ → α → Option (σ × List ε)

namespace System

variable {σ α ε : Type*} (S : System σ α ε)

/-- One action at the end of a run: the events are added to the trace so far. -/
def extend (now : σ × List ε) (a : α) : Option (σ × List ε) :=
  (S.step now.1 a).map fun next => (next.1, now.2 ++ next.2)

/-- The state and the trace after a list of actions. -/
def run (actions : List α) : Option (σ × List ε) :=
  actions.foldlM S.extend (S.init, [])

@[simp] lemma run_nil : S.run [] = some (S.init, []) := rfl

/-- A run that ends in one more action. -/
lemma run_concat (actions : List α) (a : α) :
    S.run (actions ++ [a]) = (S.run actions).bind (S.extend · a) := by
  simp only [run, List.foldlM_append, List.foldlM_cons, List.foldlM_nil]
  cases actions.foldlM S.extend (S.init, []) <;> simp

/-- The last step of a run, taken apart. -/
lemma run_concat_eq_some {actions : List α} {a : α} {s' : σ} {trace' : List ε}
    (h : S.run (actions ++ [a]) = some (s', trace')) :
    ∃ s trace events, S.run actions = some (s, trace) ∧ S.step s a = some (s', events) ∧
      trace' = trace ++ events := by
  rw [run_concat, Option.bind_eq_some_iff] at h
  obtain ⟨⟨s, trace⟩, hrun, hstep⟩ := h
  simp only [extend, Option.map_eq_some_iff, Prod.mk.injEq] at hstep
  obtain ⟨⟨next, events⟩, hnext, rfl, rfl⟩ := hstep
  exact ⟨s, trace, events, hrun, hnext, rfl⟩

/-- A run that goes on with one action more. -/
lemma run_concat_of_step {actions : List α} {a : α} {s s' : σ} {trace events : List ε}
    (hrun : S.run actions = some (s, trace)) (hstep : S.step s a = some (s', events)) :
    S.run (actions ++ [a]) = some (s', trace ++ events) := by
  rw [run_concat, hrun, Option.bind_some, extend, hstep]
  rfl

/-- A run that goes on adds to its trace. -/
lemma trace_prefix_of_run {actions later : List α} {s s' : σ} {trace trace' : List ε}
    (h : S.run actions = some (s, trace)) (h' : S.run (actions ++ later) = some (s', trace')) :
    trace <+: trace' := by
  induction later using List.reverseRecOn generalizing s' trace' with
  | nil =>
    rw [List.append_nil, h] at h'
    obtain ⟨-, rfl⟩ := Prod.mk.inj (Option.some_inj.mp h')
    exact List.prefix_rfl
  | append_singleton later a ih =>
    rw [← List.append_assoc] at h'
    obtain ⟨s₀, trace₀, events, hrun₀, -, rfl⟩ := S.run_concat_eq_some h'
    exact (ih hrun₀).trans (List.prefix_append _ _)

/-- A property of trace and state that holds at the start and that every enabled action keeps,
under a property `Q` that is already known to hold throughout. -/
structure IsInvariantUnder (Q P : List ε → σ → Prop) : Prop where
  /-- It holds at the start. -/
  start : P [] S.init
  /-- Every enabled action keeps it. -/
  keep : ∀ trace s a s' events, Q trace s → P trace s →
    S.step s a = some (s', events) → P (trace ++ events) s'

/-- A property of trace and state that holds at the start and that every enabled action
keeps. -/
abbrev IsInvariant (P : List ε → σ → Prop) : Prop :=
  S.IsInvariantUnder (fun _ _ => True) P

variable {S}

/-- **Run rule**: an invariant holds after every run. -/
theorem IsInvariant.of_run {P : List ε → σ → Prop} (h : S.IsInvariant P) {actions : List α}
    {s : σ} {trace : List ε} (hrun : S.run actions = some (s, trace)) : P trace s := by
  induction actions using List.reverseRecOn generalizing s trace with
  | nil =>
    obtain ⟨rfl, rfl⟩ : S.init = s ∧ [] = trace := by simpa using hrun
    exact h.start
  | append_singleton actions a ih =>
    obtain ⟨s₀, trace₀, events, hrun₀, hstep, rfl⟩ := S.run_concat_eq_some hrun
    exact h.keep _ _ _ _ _ trivial (ih hrun₀) hstep

/-- An invariant holds whatever else is known. -/
theorem IsInvariant.under {P Q : List ε → σ → Prop} (h : S.IsInvariant P) :
    S.IsInvariantUnder Q P where
  start := h.start
  keep trace s a s' events _ hinv hstep := h.keep trace s a s' events trivial hinv hstep

/-- A second invariant may use the first. -/
theorem IsInvariant.and {P Q : List ε → σ → Prop} (hQ : S.IsInvariant Q)
    (hP : S.IsInvariantUnder Q P) : S.IsInvariant fun trace s => Q trace s ∧ P trace s where
  start := ⟨hQ.start, hP.start⟩
  keep trace s a s' events _ hinv hstep :=
    ⟨hQ.keep trace s a s' events trivial hinv.1 hstep,
      hP.keep trace s a s' events hinv.1 hinv.2 hstep⟩

/-- One system runs as a part of another: whatever the whole does, the part either stands still
and is not heard of, or does something of its own. -/
structure IsPart {τ β δ : Type*} (S : System σ α ε) (T : System τ β δ) (part : σ → τ)
    (event : ε → Option δ) : Prop where
  /-- The part starts at its own start. -/
  start : part S.init = T.init
  /-- Every enabled action of the whole is an action of the part, or none. -/
  step : ∀ s a s' events, S.step s a = some (s', events) →
    (part s' = part s ∧ events.filterMap event = []) ∨
      ∃ b, T.step (part s) b = some (part s', events.filterMap event)

/-- **Part rule**: what the part does in a run of the whole is a run of the part. -/
theorem IsPart.exists_run {τ β δ : Type*} {T : System τ β δ} {part : σ → τ}
    {event : ε → Option δ} (h : IsPart S T part event) {actions : List α} {s : σ}
    {trace : List ε} (hrun : S.run actions = some (s, trace)) :
    ∃ own, T.run own = some (part s, trace.filterMap event) := by
  induction actions using List.reverseRecOn generalizing s trace with
  | nil =>
    obtain ⟨rfl, rfl⟩ : S.init = s ∧ [] = trace := by simpa using hrun
    exact ⟨[], by rw [h.start, run_nil, List.filterMap_nil]⟩
  | append_singleton actions a ih =>
    obtain ⟨s₀, trace₀, events, hrun₀, hstep, rfl⟩ := S.run_concat_eq_some hrun
    obtain ⟨own, hown⟩ := ih hrun₀
    rw [List.filterMap_append]
    rcases h.step _ _ _ _ hstep with ⟨hsame, hsilent⟩ | ⟨b, hb⟩
    · exact ⟨own, by rw [hsilent, List.append_nil, hsame, hown]⟩
    · exact ⟨own ++ [b], T.run_concat_of_step hown hb⟩

/-- An invariant of the part is one of the whole. -/
theorem IsPart.isInvariant {τ β δ : Type*} {T : System τ β δ} {part : σ → τ}
    {event : ε → Option δ} (h : IsPart S T part event) {P : List δ → τ → Prop}
    (hP : T.IsInvariant P) :
    S.IsInvariant fun trace s => P (trace.filterMap event) (part s) where
  start := by
    rw [h.start]
    exact hP.start
  keep trace s a s' events _ hinv hstep := by
    rw [List.filterMap_append]
    rcases h.step _ _ _ _ hstep with ⟨hsame, hsilent⟩ | ⟨b, hb⟩
    · rwa [hsilent, List.append_nil, hsame]
    · exact hP.keep _ _ _ _ _ trivial hinv hb

end System

end TransitionSystem
