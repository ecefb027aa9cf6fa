import FlightDeck.Dashboard.UseTelemetry

set_option relaxedAutoImplicit false
set_option autoImplicit false

/-!
# The dashboard and the current flight

What the dashboard should show after some messages is a fold over them. The hook arrives at it in
two steps: it collects what is new in `pending`, with the variable `replaceWithHistory` telling
whether this replaces what is shown or adds to it, and hands it to React. The updaters that wait
in React's queue would give the right result if each were run with the value that the variable
had at its flush. They are run with the value it has at the render, and the flush has cleared it
by then: a waiting updater that should replace the samples adds to them.

## Main definitions

* `CurrentFlight` — what the dashboard should show.
* `UseTelemetry.settled` — what the waiting updaters were meant to result in.
* `UseTelemetry.Invariant` — how the variables relate to what should be shown.
* `UseTelemetry.KeepsFlight` — a render at which no updater gives a wrong result.

## Main results

* `UseTelemetry.render_shown_iff` — a render shows what it should exactly if it is such a render.
* `UseTelemetry.shows_current_flight` — a run all of whose renders are such shows the current
  flight throughout.
-/

namespace FlightDeck.Dashboard

open Server TransitionSystem Window

/-! ## The current flight -/

/-- What the dashboard should show, and the latest sample received. -/
structure CurrentFlight where
  /-- The samples shown; the last one is the last one retained. -/
  samples : List TelemetrySample := []
  /-- The latest sample received in the flight. -/
  latest : Option TelemetrySample := none

/-- A message is received. -/
def CurrentFlight.receive (flight : CurrentFlight) : ServerMessage → CurrentFlight
  | .history samples _ =>
    { samples := (displaySamples samples defaultStride).rtake MAX_CLIENT_SAMPLES
      latest := samples.getLast? }
  | .reset _ => {}
  | .telemetry sample _ =>
    let samples := if startsNewFlight flight.latest sample then [] else flight.samples
    { samples :=
        if shouldRetainSample samples.getLast? sample defaultStride then
          (samples ++ [sample]).rtake MAX_CLIENT_SAMPLES
        else samples
      latest := some sample }
  | _ => flight

/-- The current flight after some messages. -/
def currentFlight (messages : List ServerMessage) : CurrentFlight :=
  messages.foldl CurrentFlight.receive {}

/-! ## Updaters -/

/-- No updater makes the list longer than it may be. -/
lemma Updater.length_run (updater : Updater) (replaceWithHistory : Bool)
    (current : List TelemetrySample) :
    (updater.run replaceWithHistory current).length ≤ MAX_CLIENT_SAMPLES := by
  unfold Updater.run
  split
  all_goals
    rw [length_rtake]
    exact min_le_left _ _

/-- Nor do several, whatever value of the variable each one reads. -/
lemma length_foldl_run (replaceWithHistory : Updater → Bool) {current : List TelemetrySample}
    (hlength : current.length ≤ MAX_CLIENT_SAMPLES) (queue : List Updater) :
    (queue.foldl (fun current updater => updater.run (replaceWithHistory updater) current)
      current).length ≤ MAX_CLIENT_SAMPLES := by
  rcases List.eq_nil_or_concat queue with rfl | ⟨queue, updater, rfl⟩
  · exact hlength
  · rw [List.concat_eq_append, List.foldl_concat]
    exact updater.length_run ..

/-- Updaters that all add to the samples. -/
lemma foldl_run_false {current : List TelemetrySample}
    (hlength : current.length ≤ MAX_CLIENT_SAMPLES) (queue : List Updater) :
    queue.foldl (fun current updater => updater.run false current) current =
      (current ++ queue.flatMap Updater.incoming).rtake MAX_CLIENT_SAMPLES := by
  induction queue using List.reverseRecOn with
  | nil => simp [rtake_of_length_le hlength]
  | append_singleton queue updater ih =>
    rw [List.foldl_concat, ih, Updater.run, if_neg (by simp), rtake_rtake_append,
      List.flatMap_append, List.append_assoc]
    simp

/-- Either no updater of a queue replaces the samples, or there is a last one that does. -/
lemma exists_last_replaces (queue : List Updater) :
    (∀ updater ∈ queue, updater.replaces = false) ∨
      ∃ before updater after, queue = before ++ updater :: after ∧ updater.replaces = true ∧
        ∀ later ∈ after, later.replaces = false := by
  induction queue with
  | nil => simp
  | cons first rest ih =>
    rcases ih with hnone | ⟨before, updater, after, rfl, hreplaces, hafter⟩
    · cases hfirst : first.replaces with
      | false =>
        left
        intro updater hmem
        rcases List.mem_cons.mp hmem with rfl | hmem
        · exact hfirst
        · exact hnone updater hmem
      | true => exact Or.inr ⟨[], first, rest, rfl, hfirst, hnone⟩
    · exact Or.inr ⟨first :: before, updater, after, rfl, hreplaces, hafter⟩

namespace UseTelemetry

variable {hook : UseTelemetry}

/-- What running every updater as it was meant makes of the samples. -/
def settle (current : List TelemetrySample) (queue : List Updater) : List TelemetrySample :=
  queue.foldl (fun current updater => updater.run updater.replaces current) current

/-- What the waiting updaters were meant to result in. -/
def settled (hook : UseTelemetry) : List TelemetrySample := settle hook.next.samples hook.queue

/-- Updaters none of which replaces the samples. -/
lemma settle_of_none {current : List TelemetrySample} {queue : List Updater}
    (h : ∀ updater ∈ queue, updater.replaces = false) :
    settle current queue = queue.foldl (fun current updater => updater.run false current) current :=
  List.foldl_ext _ _ _ fun _ updater hmem => by rw [h updater hmem]

/-- Nothing before an updater that replaces the samples matters. -/
lemma settle_of_last {current : List TelemetrySample} {before after : List Updater}
    {updater : Updater} (hreplaces : updater.replaces = true)
    (hafter : ∀ later ∈ after, later.replaces = false) :
    settle current (before ++ updater :: after) =
      (updater.incoming ++ after.flatMap Updater.incoming).rtake MAX_CLIENT_SAMPLES := by
  have hfirst : ∀ current, updater.run updater.replaces current =
      updater.incoming.rtake MAX_CLIENT_SAMPLES := by
    intro current
    rw [Updater.run, if_pos hreplaces]
  have hlength : (updater.incoming.rtake MAX_CLIENT_SAMPLES).length ≤ MAX_CLIENT_SAMPLES := by
    rw [length_rtake]
    exact min_le_left _ _
  rw [settle, List.foldl_append, List.foldl_cons, hfirst, ← settle, settle_of_none hafter,
    foldl_run_false hlength, rtake_rtake_append]

/-- Whatever React chooses, an updater adds its effect to what is meant. -/
lemma settled_setSamples (updater : Updater) (atCall : Bool)
    (h : updater.replaces = hook.replaceWithHistory) :
    (hook.setSamples updater atCall).settled =
      updater.run hook.replaceWithHistory hook.settled := by
  unfold setSamples settled settle
  split
  · next hnow =>
    have hqueue : hook.queue = [] := by
      rw [Bool.and_eq_true, List.isEmpty_iff] at hnow
      exact hnow.2
    simp only [hqueue, List.foldl_nil]
  · simp only [List.foldl_concat, h]

/-! ## The variables of the hook -/

/-- The last sample of the current flight after a telemetry message. -/
lemma getLast?_receive_telemetry (flight : CurrentFlight) (sample : TelemetrySample)
    (metrics : StreamMetrics) :
    (flight.receive (.telemetry sample metrics)).samples.getLast? =
      let retained := if startsNewFlight flight.latest sample then none
        else flight.samples.getLast?
      if shouldRetainSample retained sample defaultStride then some sample else retained := by
  have hpos : 0 < MAX_CLIENT_SAMPLES := by decide
  cases hnew : startsNewFlight flight.latest sample with
  | true =>
    have hkeep : shouldRetainSample none sample defaultStride = true := rfl
    simp [CurrentFlight.receive, hnew, hkeep, getLast?_rtake hpos]
  | false =>
    simp only [CurrentFlight.receive, hnew, Bool.false_eq_true, if_false]
    split
    · rw [getLast?_rtake hpos, List.getLast?_concat]
    · rfl

/-- The variables that decide what a sample does are those of the current flight. -/
structure Knows (flight : CurrentFlight) (hook : UseTelemetry) : Prop where
  /-- The latest sample. -/
  latest : hook.latestSample = flight.latest
  /-- The last one retained. -/
  retained : hook.latestRetainedSample = flight.samples.getLast?

/-- A message. -/
lemma Knows.acceptMessage {flight : CurrentFlight} (h : Knows flight hook)
    (message : ServerMessage) : Knows (flight.receive message) (hook.acceptMessage message) := by
  cases message with
  | telemetry sample metrics =>
    refine ⟨rfl, ?_⟩
    rw [getLast?_receive_telemetry, ← h.latest, ← h.retained]
    simp only [UseTelemetry.acceptMessage]
    split_ifs <;> rfl
  | history samples metrics =>
    refine ⟨rfl, ?_⟩
    simp only [UseTelemetry.acceptMessage, CurrentFlight.receive]
  | reset metrics => exact ⟨rfl, rfl⟩
  | _ => exact ⟨h.latest, h.retained⟩

/-- How the variables relate to what should be shown: what is pending, once handed on, gives it. -/
structure Invariant (messages : List ServerMessage) (hook : UseTelemetry) : Prop where
  /-- The latest sample. -/
  latest : hook.latestSample = (currentFlight messages).latest
  /-- The last one retained. -/
  retained : hook.latestRetainedSample = (currentFlight messages).samples.getLast?
  /-- All that is pending is what is missing. -/
  samples : (if hook.replaceWithHistory then hook.pending.rtake MAX_CLIENT_SAMPLES
    else (hook.settled ++ hook.pending).rtake MAX_CLIENT_SAMPLES) =
      (currentFlight messages).samples
  /-- Without a frame requested nothing is pending. -/
  quiet : hook.frame = false → hook.replaceWithHistory = false ∧ hook.pending = []
  /-- React keeps no more samples than it may. -/
  length_le : hook.next.samples.length ≤ MAX_CLIENT_SAMPLES

/-- One message more. -/
lemma currentFlight_concat (messages : List ServerMessage) (message : ServerMessage) :
    currentFlight (messages ++ [message]) = (currentFlight messages).receive message :=
  List.foldl_concat ..

/-- The hook knows what the latest sample and the last retained one are. -/
lemma Invariant.knows {messages : List ServerMessage} (h : Invariant messages hook)
    (message : ServerMessage) :
    Knows (currentFlight (messages ++ [message])) (hook.acceptMessage message) := by
  rw [currentFlight_concat]
  exact Knows.acceptMessage ⟨h.latest, h.retained⟩ message

/-- A telemetry sample. -/
lemma Invariant.telemetry {messages : List ServerMessage} (h : Invariant messages hook)
    (sample : TelemetrySample) (metrics : StreamMetrics) :
    Invariant (messages ++ [.telemetry sample metrics])
      (hook.acceptMessage (.telemetry sample metrics)) := by
  obtain ⟨hlatest, hretained⟩ := h.knows (.telemetry sample metrics)
  have hsingle : [sample].rtake MAX_CLIENT_SAMPLES = [sample] :=
    rtake_of_length_le (by simp [MAX_CLIENT_SAMPLES])
  cases hnew : startsNewFlight hook.latestSample sample with
  | true =>
    -- The first sample of a flight is always retained.
    have hkeep : shouldRetainSample none sample defaultStride = true := rfl
    have hflight :
        (currentFlight (messages ++ [.telemetry sample metrics])).samples = [sample] := by
      rw [currentFlight_concat, CurrentFlight.receive, ← h.latest, hnew]
      simp [hkeep, hsingle]
    refine ⟨hlatest, hretained, ?_, ?_, ?_⟩
    · rw [hflight]
      simp [acceptMessage, hnew, hkeep, hsingle]
    · simp [acceptMessage, hnew, hkeep]
    · simpa [acceptMessage, hnew, hkeep] using h.length_le
  | false =>
    have hsamples := h.samples
    cases hkeep : shouldRetainSample hook.latestRetainedSample sample defaultStride with
    | false =>
      have hflight : (currentFlight (messages ++ [.telemetry sample metrics])).samples =
          (currentFlight messages).samples := by
        rw [currentFlight_concat, CurrentFlight.receive, ← h.latest, hnew]
        simp [← h.retained, hkeep]
      refine ⟨hlatest, hretained, ?_, ?_, ?_⟩
      · rw [hflight, ← hsamples]
        simp only [acceptMessage, hnew, hkeep, Bool.false_eq_true, if_false]
        rfl
      · simp [acceptMessage, hnew, hkeep]
      · simpa [acceptMessage, hnew, hkeep] using h.length_le
    | true =>
      have hflight : (currentFlight (messages ++ [.telemetry sample metrics])).samples =
          ((currentFlight messages).samples ++ [sample]).rtake MAX_CLIENT_SAMPLES := by
        rw [currentFlight_concat, CurrentFlight.receive, ← h.latest, hnew]
        simp [← h.retained, hkeep]
      refine ⟨hlatest, hretained, ?_, ?_, ?_⟩
      · rw [hflight, ← hsamples]
        simp only [acceptMessage, hnew, hkeep, Bool.false_eq_true, if_false, if_true]
        split
        · rw [rtake_rtake_append]
        · rw [rtake_rtake_append, List.append_assoc]
          rfl
      · simp [acceptMessage, hnew, hkeep]
      · simpa [acceptMessage, hnew, hkeep] using h.length_le

/-- Any message. -/
lemma Invariant.message {messages : List ServerMessage} (h : Invariant messages hook)
    (message : ServerMessage) : Invariant (messages ++ [message]) (hook.acceptMessage message) := by
  obtain ⟨hlatest, hretained⟩ := h.knows message
  cases message with
  | telemetry sample metrics => exact h.telemetry sample metrics
  | history samples metrics =>
    refine ⟨hlatest, hretained, ?_, ?_, h.length_le⟩
    · rw [currentFlight_concat]
      simp only [acceptMessage, if_true, CurrentFlight.receive]
      exact rtake_rtake_of_le le_rfl _
    · simp [acceptMessage]
  | reset metrics =>
    refine ⟨hlatest, hretained, ?_, ?_, h.length_le⟩
    · rw [currentFlight_concat]
      simp [acceptMessage, CurrentFlight.receive, List.rtake]
    · simp [acceptMessage]
  | controlStatus connected =>
    have hflight : currentFlight (messages ++ [.controlStatus connected]) =
        currentFlight messages := currentFlight_concat ..
    exact ⟨hlatest, hretained, hflight ▸ h.samples, h.quiet, h.length_le⟩
  | commandAck id fault enabled acknowledgedAtMs =>
    have hflight : currentFlight (messages ++ [.commandAck id fault enabled acknowledgedAtMs]) =
        currentFlight messages := currentFlight_concat ..
    exact ⟨hlatest, hretained, hflight ▸ h.samples, h.quiet, h.length_le⟩
  | commandError id text =>
    have hflight : currentFlight (messages ++ [.commandError id text]) =
        currentFlight messages := currentFlight_concat ..
    exact ⟨hlatest, hretained, hflight ▸ h.samples, h.quiet, h.length_le⟩

/-- A flush, when there is something to hand on. -/
lemma flush_of_pending (hook : UseTelemetry) (now : ℕ) (atCall : Bool)
    (h : (hook.replaceWithHistory || !hook.pending.isEmpty) = true) :
    let updater : Updater := { incoming := hook.pending, replaces := hook.replaceWithHistory }
    (hook.flush now atCall).next.samples = (hook.setSamples updater atCall).next.samples ∧
      (hook.flush now atCall).queue = (hook.setSamples updater atCall).queue := by
  intro updater
  unfold flush setSamples
  simp only [h, if_true]
  split_ifs <;> cases hook.pending.getLast? <;> cases hook.pendingMetrics <;> exact ⟨rfl, rfl⟩

/-- A flush, when there is nothing to hand on. -/
lemma flush_of_not_pending (hook : UseTelemetry) (now : ℕ) (atCall : Bool)
    (h : (hook.replaceWithHistory || !hook.pending.isEmpty) = false) :
    (hook.flush now atCall).next.samples = hook.next.samples ∧
      (hook.flush now atCall).queue = hook.queue := by
  unfold flush
  simp only [h]
  cases hook.pendingMetrics <;> exact ⟨rfl, rfl⟩

/-- After a flush nothing is pending. -/
lemma flush_collected (hook : UseTelemetry) (now : ℕ) (atCall : Bool) :
    (hook.flush now atCall).latestSample = hook.latestSample ∧
      (hook.flush now atCall).latestRetainedSample = hook.latestRetainedSample ∧
      (hook.flush now atCall).replaceWithHistory = false ∧
      (hook.flush now atCall).pending = [] := by
  unfold flush setSamples
  cases h : (hook.replaceWithHistory || !hook.pending.isEmpty) with
  | true =>
    simp only [h, if_true]
    split_ifs <;> cases hook.pending.getLast? <;> cases hook.pendingMetrics <;>
      exact ⟨rfl, rfl, rfl, rfl⟩
  | false =>
    obtain ⟨hreplace, hpending⟩ := Bool.or_eq_false_iff.mp h
    have hpending' : hook.pending = [] := by simpa using hpending
    simp only [h]
    cases hook.pendingMetrics <;> exact ⟨rfl, rfl, hreplace, hpending'⟩

/-- A message shows nothing before the next render. -/
lemma shown_acceptMessage (hook : UseTelemetry) (message : ServerMessage) :
    (hook.acceptMessage message).shown = hook.shown := by
  cases message with
  | telemetry sample metrics =>
    unfold acceptMessage
    dsimp only
    split_ifs <;> rfl
  | _ => rfl

/-- A flush shows nothing and does not touch the states that are about the control link. -/
lemma flush_untouched (hook : UseTelemetry) (now : ℕ) (atCall : Bool) :
    (hook.flush now atCall).shown = hook.shown ∧
      (hook.flush now atCall).next.controlConnected = hook.next.controlConnected ∧
      (hook.flush now atCall).next.commandState = hook.next.commandState := by
  unfold flush setSamples
  cases h : (hook.replaceWithHistory || !hook.pending.isEmpty) with
  | true =>
    simp only [h, if_true]
    split_ifs <;> cases hook.pending.getLast? <;> cases hook.pendingMetrics <;>
      exact ⟨rfl, rfl, rfl⟩
  | false =>
    simp only [h]
    cases hook.pendingMetrics <;> exact ⟨rfl, rfl, rfl⟩

/-- An animation frame. -/
lemma Invariant.flush {messages : List ServerMessage} (h : Invariant messages hook) (now : ℕ)
    (atCall : Bool) : Invariant messages (hook.flush now atCall) := by
  obtain ⟨hlatest, hretained, hreplace, hpending⟩ := flush_collected hook now atCall
  have hsamples := h.samples
  have hsettled : (hook.flush now atCall).settled.rtake MAX_CLIENT_SAMPLES =
        (currentFlight messages).samples ∧
      (hook.flush now atCall).next.samples.length ≤ MAX_CLIENT_SAMPLES := by
    cases hcase : (hook.replaceWithHistory || !hook.pending.isEmpty) with
    | true =>
      obtain ⟨hnext, hqueue⟩ := flush_of_pending hook now atCall hcase
      set updater : Updater := { incoming := hook.pending, replaces := hook.replaceWithHistory }
      have hrun : (hook.flush now atCall).settled =
          updater.run hook.replaceWithHistory hook.settled := by
        rw [settled, hnext, hqueue, ← settled, settled_setSamples updater atCall rfl]
      constructor
      · rw [hrun, rtake_of_length_le (Updater.length_run ..), ← hsamples]
        rfl
      · rw [hnext, setSamples]
        split
        · exact Updater.length_run ..
        · exact h.length_le
    | false =>
      obtain ⟨hnext, hqueue⟩ := flush_of_not_pending hook now atCall hcase
      obtain ⟨hreplace', hpending'⟩ := Bool.or_eq_false_iff.mp hcase
      have hnil : hook.pending = [] := by simpa using hpending'
      rw [hreplace', hnil, if_neg (by simp), List.append_nil] at hsamples
      exact ⟨by rw [settled, hnext, hqueue, ← settled, hsamples], hnext ▸ h.length_le⟩
  constructor
  · rw [hlatest, h.latest]
  · rw [hretained, h.retained]
  · rw [hreplace, hpending, if_neg (by simp), List.append_nil]
    exact hsettled.1
  · exact fun _ => ⟨hreplace, hpending⟩
  · exact hsettled.2

/-! ## Renders -/

/-- A render at which no updater gives a wrong result: `replaceWithHistory` is set and more is to
come, or the last waiting updater that should replace the samples finds none to replace, or it
and those after it bring as many samples as are kept. -/
def KeepsFlight (hook : UseTelemetry) : Prop :=
  hook.replaceWithHistory = true ∨ ∀ before updater after,
    hook.queue = before ++ updater :: after → updater.replaces = true →
      (∀ later ∈ after, later.replaces = false) →
        (hook.next.samples = [] ∧ ∀ earlier ∈ before, earlier.incoming = []) ∨
          MAX_CLIENT_SAMPLES ≤ (updater.incoming ++ after.flatMap Updater.incoming).length

/-- With `replaceWithHistory` cleared, a render gives what was meant exactly if no updater gives
a wrong result. -/
lemma render_eq_settled_iff (hlength : hook.next.samples.length ≤ MAX_CLIENT_SAMPLES)
    (hreplace : hook.replaceWithHistory = false) :
    hook.render.shown.samples = hook.settled ↔ hook.KeepsFlight := by
  have hshown : hook.render.shown.samples =
      (hook.next.samples ++ hook.queue.flatMap Updater.incoming).rtake MAX_CLIENT_SAMPLES := by
    rw [← foldl_run_false hlength, ← hreplace]
    rfl
  -- What the updaters up to some one bring, and the rest.
  have hsplit : ∀ before updater after, hook.queue = before ++ updater :: after →
      updater.replaces = true → (∀ later ∈ after, later.replaces = false) →
        (hook.render.shown.samples = hook.settled ↔
          (hook.next.samples = [] ∧ ∀ earlier ∈ before, earlier.incoming = []) ∨
            MAX_CLIENT_SAMPLES ≤
              (updater.incoming ++ after.flatMap Updater.incoming).length) := by
    intro before updater after hqueue hreplaces hafter
    rw [hshown, settled, hqueue, settle_of_last hreplaces hafter, List.flatMap_append,
      List.flatMap_cons, ← List.append_assoc, rtake_append_eq_iff, List.append_eq_nil_iff,
      List.flatMap_eq_nil_iff]
  constructor
  · intro heq
    right
    intro before updater after hqueue hreplaces hafter
    exact (hsplit before updater after hqueue hreplaces hafter).mp heq
  · intro hkeeps
    rcases hkeeps with htrue | hkeeps
    · rw [hreplace] at htrue
      cases htrue
    rcases exists_last_replaces hook.queue with hnone | ⟨before, updater, after, hqueue, hr, ha⟩
    · rw [hshown, settled, settle_of_none hnone, foldl_run_false hlength]
    · exact (hsplit before updater after hqueue hr ha).mpr
        (hkeeps before updater after hqueue hr ha)

/-- A render that gives no wrong result. -/
lemma Invariant.render {messages : List ServerMessage} (h : Invariant messages hook)
    (hkeeps : hook.KeepsFlight) : Invariant messages hook.render := by
  have hlength : hook.render.next.samples.length ≤ MAX_CLIENT_SAMPLES :=
    length_foldl_run (fun _ => hook.replaceWithHistory) h.length_le hook.queue
  refine ⟨h.latest, h.retained, ?_, h.quiet, hlength⟩
  have hsamples := h.samples
  cases hreplace : hook.replaceWithHistory with
  | true =>
    rw [hreplace, if_pos rfl] at hsamples
    rw [show hook.render.replaceWithHistory = true from hreplace, if_pos rfl]
    exact hsamples
  | false =>
    have hshown := (render_eq_settled_iff h.length_le hreplace).mpr hkeeps
    have hsettled : hook.render.settled = hook.settled := hshown
    rw [show hook.render.replaceWithHistory = false from hreplace, hsettled]
    rw [hreplace] at hsamples
    exact hsamples

/-- **A render with nothing pending** shows the current flight exactly if no waiting updater
gives a wrong result. -/
theorem render_shown_iff {messages : List ServerMessage} (h : Invariant messages hook)
    (hframe : hook.frame = false) :
    hook.render.shown.samples = (currentFlight messages).samples ↔ hook.KeepsFlight := by
  obtain ⟨hreplace, hpending⟩ := h.quiet hframe
  have hsamples := h.samples
  rw [hreplace, hpending, if_neg (by simp), List.append_nil] at hsamples
  have hsettled : hook.settled.length ≤ MAX_CLIENT_SAMPLES :=
    length_foldl_run Updater.replaces h.length_le hook.queue
  rw [← hsamples, rtake_of_length_le hsettled]
  exact render_eq_settled_iff h.length_le hreplace

/-! ## Runs -/

/-- No render of a run gives a wrong result. -/
def KeepsFlightThroughout (actions : List Action) : Prop :=
  ∀ before, before ++ [.render] <+: actions → ∀ hook messages,
    system.run before = some (hook, messages) → hook.KeepsFlight

/-- Every render of a run at which no received message is unflushed shows the current flight. -/
def ShowsCurrentFlight (actions : List Action) : Prop :=
  ∀ before, before ++ [.render] <+: actions → ∀ hook messages,
    system.run before = some (hook, messages) → hook.frame = false →
      hook.render.shown.samples = (currentFlight messages).samples

/-- The invariant holds throughout such a run. -/
lemma invariant_of_run {actions : List Action} (h : KeepsFlightThroughout actions)
    {hook : UseTelemetry} {messages : List ServerMessage}
    (hrun : system.run actions = some (hook, messages)) : Invariant messages hook := by
  induction actions using List.reverseRecOn generalizing hook messages with
  | nil =>
    obtain ⟨rfl, rfl⟩ := Prod.mk.inj (Option.some_inj.mp hrun)
    exact ⟨rfl, rfl, by simp [settled, settle, system, currentFlight, List.rtake], by simp [system],
      by simp [system]⟩
  | append_singleton actions action ih =>
    obtain ⟨hook₀, messages₀, events, hrun₀, hstep, rfl⟩ := system.run_concat_eq_some hrun
    have hinv := ih (fun before hbefore => h before (hbefore.trans (List.prefix_append _ _))) hrun₀
    cases action with
    | message message =>
      obtain ⟨rfl, rfl⟩ := Prod.mk.inj (Option.some_inj.mp hstep)
      exact hinv.message message
    | frame now atCall =>
      obtain ⟨-, heq⟩ := Option.ite_none_right_eq_some.mp hstep
      obtain ⟨rfl, rfl⟩ := Prod.mk.inj (Option.some_inj.mp heq)
      rw [List.append_nil]
      exact hinv.flush now atCall
    | render =>
      obtain ⟨rfl, rfl⟩ := Prod.mk.inj (Option.some_inj.mp hstep)
      rw [List.append_nil]
      exact hinv.render (h actions List.prefix_rfl hook₀ messages₀ hrun₀)

/-- **The current flight**: a run none of whose renders gives a wrong result shows the current
flight throughout; and a further render, with nothing unflushed, goes on doing so exactly if it
gives none either. -/
theorem shows_current_flight {actions : List Action} (h : KeepsFlightThroughout actions) :
    ShowsCurrentFlight actions ∧ ∀ hook messages, system.run actions = some (hook, messages) →
      hook.frame = false →
        (hook.render.shown.samples = (currentFlight messages).samples ↔ hook.KeepsFlight) := by
  constructor
  · intro before hbefore hook messages hrun hframe
    have hprior : KeepsFlightThroughout before := fun earlier hearlier =>
      h earlier (hearlier.trans ((List.prefix_append _ _).trans hbefore))
    exact (render_shown_iff (invariant_of_run hprior hrun) hframe).mpr (h before hbefore _ _ hrun)
  · intro hook messages hrun hframe
    exact render_shown_iff (invariant_of_run h hrun) hframe

/-- If React runs every updater at the call, none is waiting. -/
lemma queue_eq_nil_of_run {actions : List Action} (h : ∀ now, Action.frame now false ∉ actions)
    {hook : UseTelemetry} {messages : List ServerMessage}
    (hrun : system.run actions = some (hook, messages)) : hook.queue = [] := by
  induction actions using List.reverseRecOn generalizing hook messages with
  | nil =>
    obtain ⟨rfl, rfl⟩ := Prod.mk.inj (Option.some_inj.mp hrun)
    rfl
  | append_singleton actions action ih =>
    obtain ⟨hook₀, messages₀, events, hrun₀, hstep, rfl⟩ := system.run_concat_eq_some hrun
    have hqueue := ih (fun now hmem => h now (List.mem_append_left _ hmem)) hrun₀
    cases action with
    | message message =>
      obtain ⟨rfl, rfl⟩ := Prod.mk.inj (Option.some_inj.mp hstep)
      rw [← hqueue]
      cases message with
      | telemetry sample metrics =>
        unfold acceptMessage
        dsimp only
        split_ifs <;> rfl
      | _ => rfl
    | frame now atCall =>
      obtain ⟨-, heq⟩ := Option.ite_none_right_eq_some.mp hstep
      obtain ⟨rfl, rfl⟩ := Prod.mk.inj (Option.some_inj.mp heq)
      have hatCall : atCall = true := by
        by_contra hfalse
        rw [Bool.not_eq_true] at hfalse
        exact h now (by rw [hfalse]; simp)
      cases hcase : (hook₀.replaceWithHistory || !hook₀.pending.isEmpty) with
      | true =>
        rw [(flush_of_pending hook₀ now atCall hcase).2, setSamples, hatCall, hqueue]
        rfl
      | false => rw [(flush_of_not_pending hook₀ now atCall hcase).2, hqueue]
    | render =>
      obtain ⟨rfl, rfl⟩ := Prod.mk.inj (Option.some_inj.mp hstep)
      rfl

/-- If React runs every updater at the call, no render gives a wrong result. -/
lemma keepsFlightThroughout_of_atCall {actions : List Action}
    (h : ∀ now, Action.frame now false ∉ actions) : KeepsFlightThroughout actions := by
  intro before hbefore hook messages hrun
  have hqueue := queue_eq_nil_of_run
    (fun now hmem => h now (hbefore.subset (List.mem_append_left _ hmem))) hrun
  right
  intro earlier updater later hsplit
  rw [hqueue] at hsplit
  simp at hsplit

/-! ## A flag read too late -/

/-- A sample of a vehicle on the pad. -/
def padSample : TelemetrySample where
  sequence := 0
  timestampUs := 10000
  missionPhase := .prelaunch
  positionM _ := 0
  velocityMps _ := 0
  orientationWxyz _ := 0
  thrustPercent := 0
  chamberPressureMpa := 0
  gimbalCommandDeg _ := 0
  gridFinCommandDeg _ := 0
  faultFlags := 0
  truthPositionM _ := 0
  truthVelocityMps _ := 0
  serverReceivedAtMs := 0

/-- A history is shown, and the server resets; whether React runs the updater of the reset at the
call is left open. -/
def resetAfterHistory (atCall : Bool) : List Action :=
  [.message (.history [padSample] {}), .frame 0 true, .render, .message (.reset {}),
    .frame 0 atCall, .render]

/-- If the updater of the reset waits, it finds the flag cleared and keeps the old flight. -/
theorem not_showsCurrentFlight_resetAfterHistory :
    ¬ ShowsCurrentFlight (resetAfterHistory false) := by
  intro h
  have hlength := congrArg List.length (h ((resetAfterHistory false).take 5) List.prefix_rfl _ _
    rfl rfl)
  revert hlength
  decide

/-- If it runs at the call, all is well. -/
theorem shows_current_flight_resetAfterHistory : ShowsCurrentFlight (resetAfterHistory true) :=
  (shows_current_flight (keepsFlightThroughout_of_atCall (by simp [resetAfterHistory]))).1

end UseTelemetry

end FlightDeck.Dashboard
