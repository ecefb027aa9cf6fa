import FlightDeck.Dashboard.CurrentFlight

set_option relaxedAutoImplicit false
set_option autoImplicit false

/-!
# How many samples the dashboard holds

A history is cut to 2000 samples when it arrives, and so is the list that React shows. The batch
in between is not: every sample that is retained joins `pending`, and only an animation frame, a
history, a reset or a new flight empties it. A browser that calls no animation frames, as for a
hidden tab, lets it grow with the stream.

What joins the batch, and when it is emptied, can be told from the messages and frames alone.

## Main definitions

* `UseTelemetry.held` — the samples pending and displayed.
* `UseTelemetry.batchEvents` — what a schedule does to the batch.
* `UseTelemetry.RetainedWithin` — few samples are retained between two emptyings.

## Main results

* `UseTelemetry.not_bounded` — no bound holds for all runs.
* `UseTelemetry.bounded_iff` — a bound holds for some runs exactly if few samples are retained
  between two emptyings; it does if frames keep coming.
-/

namespace FlightDeck.Dashboard

open Server TransitionSystem Window

/-- What an action does to the batch of samples that wait for the next frame. -/
inductive BatchEvent where
  /-- Nothing is left of what waited. -/
  | empties
  /-- A sample joins it. -/
  | joins
  /-- It stays as it is. -/
  | leaves
  deriving DecidableEq

namespace UseTelemetry

variable {hook : UseTelemetry}

/-- The samples held: those pending and those displayed. -/
def held (hook : UseTelemetry) : ℕ := hook.pending.length + hook.shown.samples.length

/-! ## Schedules -/

/-- What an action does to the batch, the current flight being known: a frame, a history, a reset
and a sample of a new flight empty it, and a sample that is retained joins it. -/
def batchEvent (flight : CurrentFlight) : Action → BatchEvent
  | .frame _ _ => .empties
  | .message (.history _ _) => .empties
  | .message (.reset _) => .empties
  | .message (.telemetry sample _) =>
    if startsNewFlight flight.latest sample then .empties
    else if shouldRetainSample flight.samples.getLast? sample defaultStride then .joins
    else .leaves
  | _ => .leaves

/-- The current flight after an action. -/
def flightAfter (flight : CurrentFlight) : Action → CurrentFlight
  | .message message => flight.receive message
  | _ => flight

/-- What the actions of a schedule do to the batch, one after the other. -/
def batchEvents (flight : CurrentFlight) : List Action → List BatchEvent
  | [] => []
  | action :: rest => batchEvent flight action :: batchEvents (flightAfter flight action) rest

/-- Throughout a run, no more than a number of samples is held. -/
def HeldWithin (bound : ℕ) (actions : List Action) : Prop :=
  ∀ before, before <+: actions → ∀ hook messages, system.run before = some (hook, messages) →
    hook.held ≤ bound

/-- Throughout a run, no more than a number of samples join the batch after it was last emptied. -/
def RetainedWithin (limit : ℕ) (actions : List Action) : Prop :=
  ∀ before, before <+: actions → (system.run before).isSome →
    ∀ stretch, stretch <:+ batchEvents {} before → .empties ∉ stretch →
      stretch.count .joins ≤ limit

/-- The action is an animation frame. -/
def Action.isFrame : Action → Bool
  | .frame _ _ => true
  | _ => false

/-- The action is the arrival of a sample. -/
def Action.isTelemetry : Action → Bool
  | .message (.telemetry _ _) => true
  | _ => false

/-- At most a number of samples arrive between two animation frames. -/
def FramesEvery (n : ℕ) (actions : List Action) : Prop :=
  ∀ stretch, stretch <:+: actions → (∀ action ∈ stretch, action.isFrame = false) →
    stretch.countP Action.isTelemetry ≤ n

/-- One action more. -/
lemma batchEvents_concat (flight : CurrentFlight) (actions : List Action) (action : Action) :
    batchEvents flight (actions ++ [action]) =
      batchEvents flight actions ++ [batchEvent (actions.foldl flightAfter flight) action] := by
  induction actions generalizing flight with
  | nil => rfl
  | cons first rest ih => simp only [List.cons_append, batchEvents, ih, List.foldl_cons]

/-- The end of what a schedule does is what its end does. -/
lemma exists_of_suffix_batchEvents {flight : CurrentFlight} {actions : List Action}
    {stretch : List BatchEvent} (h : stretch <:+ batchEvents flight actions) :
    ∃ before rest, actions = before ++ rest ∧
      stretch = batchEvents (before.foldl flightAfter flight) rest := by
  induction actions generalizing flight with
  | nil => exact ⟨[], [], rfl, List.suffix_nil.mp h⟩
  | cons action actions ih =>
    rcases List.suffix_cons_iff.mp h with rfl | h
    · exact ⟨[], action :: actions, rfl, rfl⟩
    · obtain ⟨before, rest, rfl, rfl⟩ := ih h
      exact ⟨action :: before, rest, rfl, rfl⟩

/-- Only samples that arrive join the batch, and a frame empties it. -/
lemma count_batchEvents_le (flight : CurrentFlight) (actions : List Action) :
    (batchEvents flight actions).count .joins ≤ actions.countP Action.isTelemetry ∧
      (.empties ∉ batchEvents flight actions → ∀ action ∈ actions, action.isFrame = false) := by
  induction actions generalizing flight with
  | nil => exact ⟨le_rfl, fun _ action hmem => absurd hmem List.not_mem_nil⟩
  | cons action actions ih =>
    obtain ⟨hcount, hframe⟩ := ih (flightAfter flight action)
    constructor
    · have hjoins : batchEvent flight action = .joins → action.isTelemetry = true := by
        intro h
        cases action with
        | message message =>
          cases message with
          | telemetry sample metrics => rfl
          | _ => cases h
        | _ => cases h
      rw [batchEvents, List.count_cons, List.countP_cons]
      split_ifs with hevent htelemetry
      · omega
      · exact absurd (hjoins (beq_iff_eq.mp hevent)) htelemetry
      · omega
      · omega
    · intro hnone earlier hmem
      rw [batchEvents, List.mem_cons, not_or] at hnone
      rcases List.mem_cons.mp hmem with rfl | hmem
      · cases earlier with
        | frame now atCall => exact absurd rfl hnone.1
        | _ => rfl
      · exact hframe hnone.2 earlier hmem

/-- **Frames that keep coming** leave room: few samples are retained between two emptyings if few
arrive between two frames. -/
lemma FramesEvery.retainedWithin {n : ℕ} {actions : List Action} (h : FramesEvery n actions) :
    RetainedWithin n actions := by
  intro before hbefore _ stretch hstretch hnone
  obtain ⟨earlier, rest, rfl, rfl⟩ := exists_of_suffix_batchEvents hstretch
  obtain ⟨hcount, hframe⟩ := count_batchEvents_le (earlier.foldl flightAfter {}) rest
  have hinfix : rest <:+: actions :=
    (List.suffix_append earlier rest).isInfix.trans hbefore.isInfix
  exact hcount.trans (h rest hinfix (hframe hnone))

/-! ## What is displayed -/

/-- React keeps no more samples than it may, and shows no more. -/
structure Displayed (hook : UseTelemetry) : Prop where
  /-- Computed so far. -/
  next : hook.next.samples.length ≤ MAX_CLIENT_SAMPLES
  /-- On the screen. -/
  shown : hook.shown.samples.length ≤ MAX_CLIENT_SAMPLES

/-- A message changes neither. -/
lemma Displayed.acceptMessage (h : Displayed hook) (message : ServerMessage) :
    Displayed (hook.acceptMessage message) := by
  cases message with
  | telemetry sample metrics =>
    unfold UseTelemetry.acceptMessage
    dsimp only
    split_ifs <;> exact ⟨h.next, h.shown⟩
  | _ => exact ⟨h.next, h.shown⟩

/-- A flush. -/
lemma Displayed.flush (h : Displayed hook) (now : ℕ) (atCall : Bool) :
    Displayed (hook.flush now atCall) := by
  refine ⟨?_, by rw [(flush_untouched hook now atCall).1]; exact h.shown⟩
  cases hcase : (hook.replaceWithHistory || !hook.pending.isEmpty) with
  | false =>
    rw [(flush_of_not_pending hook now atCall hcase).1]
    exact h.next
  | true =>
    rw [(flush_of_pending hook now atCall hcase).1]
    unfold setSamples
    split
    · exact Updater.length_run ..
    · exact h.next

/-- A render. -/
lemma Displayed.render (h : Displayed hook) : Displayed hook.render := by
  have hlength := length_foldl_run (fun _ => hook.replaceWithHistory) h.next hook.queue
  exact ⟨hlength, hlength⟩

/-- In every run. -/
lemma displayed_of_run {actions : List Action} {messages : List ServerMessage}
    (hrun : system.run actions = some (hook, messages)) : Displayed hook := by
  have hinv : system.IsInvariant fun _ hook => Displayed hook :=
    isInvariant_of_events ⟨by simp, by simp⟩ (fun _ _ message h => h.acceptMessage message)
      (fun _ _ now atCall h => h.flush now atCall) fun _ _ h => h.render
  exact hinv.of_run hrun

/-! ## What is pending -/

/-- **Step lemma**: what an action does to the batch. -/
lemma Knows.step {flight : CurrentFlight} (h : Knows flight hook) {action : Action}
    {hook' : UseTelemetry} {events : List ServerMessage}
    (hstep : system.step hook action = some (hook', events)) :
    Knows (flightAfter flight action) hook' ∧
      match batchEvent flight action with
      | .empties => hook'.pending.length ≤ MAX_CLIENT_SAMPLES
      | .joins => hook'.pending.length = hook.pending.length + 1
      | .leaves => hook'.pending.length = hook.pending.length := by
  cases action with
  | frame now atCall =>
    obtain ⟨-, heq⟩ := Option.ite_none_right_eq_some.mp hstep
    obtain ⟨rfl, rfl⟩ := Prod.mk.inj (Option.some_inj.mp heq)
    obtain ⟨hlatest, hretained, -, hpending⟩ := flush_collected hook now atCall
    refine ⟨⟨hlatest.trans h.latest, hretained.trans h.retained⟩, ?_⟩
    show (hook.flush now atCall).pending.length ≤ MAX_CLIENT_SAMPLES
    rw [hpending]
    exact Nat.zero_le _
  | render =>
    obtain ⟨rfl, rfl⟩ := Prod.mk.inj (Option.some_inj.mp hstep)
    exact ⟨⟨h.latest, h.retained⟩, rfl⟩
  | message message =>
    obtain ⟨rfl, rfl⟩ := Prod.mk.inj (Option.some_inj.mp hstep)
    refine ⟨h.acceptMessage message, ?_⟩
    cases message with
    | telemetry sample metrics =>
      have hone : 1 ≤ MAX_CLIENT_SAMPLES := by decide
      simp only [batchEvent, ← h.latest, ← h.retained]
      cases hnew : startsNewFlight hook.latestSample sample with
      | true =>
        have hkeep : shouldRetainSample none sample defaultStride = true := rfl
        simpa [UseTelemetry.acceptMessage, hnew, hkeep] using hone
      | false =>
        cases hkeep : shouldRetainSample hook.latestRetainedSample sample defaultStride with
        | true => simp [UseTelemetry.acceptMessage, hnew, hkeep]
        | false => simp [UseTelemetry.acceptMessage, hnew, hkeep]
    | history samples metrics =>
      simp only [batchEvent, UseTelemetry.acceptMessage, length_rtake]
      exact min_le_left _ _
    | reset metrics => exact Nat.zero_le _
    | _ => rfl

/-- **Run lemma**: what is pending came when the batch was last emptied, or joined it since. -/
lemma pending_of_run {actions : List Action} {messages : List ServerMessage}
    (hrun : system.run actions = some (hook, messages)) :
    Knows (actions.foldl flightAfter {}) hook ∧
      (∀ stretch, stretch <:+ batchEvents {} actions → .empties ∉ stretch →
        stretch.count .joins ≤ hook.pending.length) ∧
      ∃ stretch, stretch <:+ batchEvents {} actions ∧ .empties ∉ stretch ∧
        hook.pending.length ≤ MAX_CLIENT_SAMPLES + stretch.count .joins := by
  induction actions using List.reverseRecOn generalizing hook messages with
  | nil =>
    obtain ⟨rfl, rfl⟩ := Prod.mk.inj (Option.some_inj.mp hrun)
    refine ⟨⟨rfl, rfl⟩, fun stretch hstretch _ => ?_, [], List.suffix_rfl, List.not_mem_nil,
      Nat.zero_le _⟩
    rw [List.suffix_nil.mp hstretch]
    exact le_rfl
  | append_singleton actions action ih =>
    obtain ⟨hook₀, messages₀, events, hrun₀, hstep, rfl⟩ := system.run_concat_eq_some hrun
    obtain ⟨hknows, hlower, stretch, hsuffix, hnone, hupper⟩ := ih hrun₀
    obtain ⟨hknows', hpending⟩ := hknows.step hstep
    rw [List.foldl_concat, batchEvents_concat]
    generalize hevent : batchEvent (actions.foldl flightAfter {}) action = event at hpending ⊢
    refine ⟨hknows', fun stretch' hsuffix' hnone' => ?_, ?_⟩
    · rcases List.suffix_concat_iff.mp hsuffix' with rfl | ⟨earlier, rfl, hearlier⟩
      · exact Nat.zero_le _
      · rw [List.mem_append, List.mem_singleton, not_or] at hnone'
        have hcount := hlower earlier hearlier hnone'.1
        rw [List.count_append, List.count_singleton]
        cases event with
        | empties => exact absurd rfl hnone'.2
        | joins => exact (Nat.add_le_add_right hcount 1).trans hpending.ge
        | leaves => exact hcount.trans hpending.ge
    · cases event with
      | empties => exact ⟨[], List.nil_suffix, List.not_mem_nil, hpending⟩
      | joins =>
        refine ⟨stretch ++ [.joins], List.suffix_append_self_iff.mpr hsuffix, by simp [hnone], ?_⟩
        rw [List.count_append, List.count_singleton_self]
        dsimp only at hpending
        omega
      | leaves =>
        refine ⟨stretch ++ [.leaves], List.suffix_append_self_iff.mpr hsuffix, by simp [hnone], ?_⟩
        rw [List.count_append]
        dsimp only at hpending
        omega

/-! ## Bounds -/

/-- A bound on the samples held is one on those retained. -/
lemma HeldWithin.retainedWithin {bound : ℕ} {actions : List Action} (h : HeldWithin bound actions) :
    RetainedWithin bound actions := by
  intro before hbefore hsome stretch hstretch hnone
  obtain ⟨⟨hook, messages⟩, hrun⟩ := Option.isSome_iff_exists.mp hsome
  have hcount := (pending_of_run hrun).2.1 stretch hstretch hnone
  have hheld := h before hbefore hook messages hrun
  rw [held] at hheld
  omega

/-- A bound on those retained gives one on those held. -/
lemma RetainedWithin.heldWithin {limit : ℕ} {actions : List Action}
    (h : RetainedWithin limit actions) : HeldWithin (2 * MAX_CLIENT_SAMPLES + limit) actions := by
  intro before hbefore hook messages hrun
  obtain ⟨-, -, stretch, hsuffix, hnone, hupper⟩ := pending_of_run hrun
  have hcount := h before hbefore (by rw [hrun]; rfl) stretch hsuffix hnone
  have hshown := (displayed_of_run hrun).shown
  rw [held]
  omega

/-- **Memory**: some runs have a common bound on the samples held exactly if they have one on the
samples retained between two emptyings of the batch. They do if animation frames keep coming: if
at most `n` samples arrive between two of them, at most `4000 + n` are held. -/
theorem bounded_iff (runs : Set (List Action)) :
    ((∃ bound, ∀ actions ∈ runs, HeldWithin bound actions) ↔
      ∃ limit, ∀ actions ∈ runs, RetainedWithin limit actions) ∧
    ∀ n, (∀ actions ∈ runs, FramesEvery n actions) →
      ∀ actions ∈ runs, HeldWithin (2 * MAX_CLIENT_SAMPLES + n) actions := by
  refine ⟨⟨?_, ?_⟩, ?_⟩
  · rintro ⟨bound, hbound⟩
    exact ⟨bound, fun actions hmem => (hbound actions hmem).retainedWithin⟩
  · rintro ⟨limit, hlimit⟩
    exact ⟨_, fun actions hmem => (hlimit actions hmem).heldWithin⟩
  · intro n hframes actions hmem
    exact (hframes actions hmem).retainedWithin.heldWithin

/-! ## A hidden tab -/

/-- Samples arrive and no animation frame is called. -/
def hiddenTab (n : ℕ) : List Action := List.replicate n (.message (.telemetry padSample {}))

/-- All of them are pending. -/
lemma exists_run_hiddenTab (n : ℕ) : ∃ hook messages,
    system.run (hiddenTab n) = some (hook, messages) ∧ hook.pending.length = n ∧
      (hook.latestSample = none ∨ hook.latestSample = some padSample) := by
  induction n with
  | zero => exact ⟨{}, [], rfl, rfl, Or.inl rfl⟩
  | succ n ih =>
    obtain ⟨hook, messages, hrun, hpending, hlatest⟩ := ih
    have hnew : startsNewFlight hook.latestSample padSample = false := by
      rcases hlatest with hlatest | hlatest <;> rw [hlatest] <;> decide
    have hkeep : shouldRetainSample hook.latestRetainedSample padSample defaultStride = true := by
      cases hook.latestRetainedSample <;> rfl
    refine ⟨hook.acceptMessage (.telemetry padSample {}), messages ++ [.telemetry padSample {}],
      ?_, ?_, Or.inr rfl⟩
    · rw [hiddenTab, List.replicate_succ', ← hiddenTab, system.run_concat, hrun]
      rfl
    · simp [acceptMessage, hnew, hkeep, hpending]

/-- No bound holds for all runs. -/
theorem not_bounded : ¬ ∃ bound, ∀ actions, HeldWithin bound actions := by
  rintro ⟨bound, hbound⟩
  obtain ⟨hook, messages, hrun, hpending, -⟩ := exists_run_hiddenTab (bound + 1)
  have hheld := hbound (hiddenTab (bound + 1)) _ List.prefix_rfl hook messages hrun
  rw [held] at hheld
  omega

end UseTelemetry

end FlightDeck.Dashboard
