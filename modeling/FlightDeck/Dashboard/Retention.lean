import FlightDeck.Dashboard.CurrentFlight
import FlightDeck.Lib.Decimation

set_option relaxedAutoImplicit false
set_option autoImplicit false

/-!
# Backfilled and live dashboards

A dashboard that is opened late receives what was sent before as one history, reduces it with
`displaySamples`, and goes on with the live stream; a dashboard that was open all the time has
decided about every sample as it came. The two compare a sample with different earlier ones:
`displaySamples` appends the newest sample of the history in any case, so from there on the late
dashboard compares with a sample that the other one may have dropped. A sample that is dropped
has the phase and the faults of the last one retained, so no decision depends on the difference.

## Main definitions

* `retentionKey` — what the retention rule looks at in the earlier sample.
* `UseTelemetry.accumulated` — what has been received and decided about, shown or not.
* `UseTelemetry.Accumulates` — a dashboard that got a history and live samples after it.

## Main results

* `displaySamples_concat` — what `displaySamples` keeps.
* `UseTelemetry.accumulated_eq` — what a dashboard accumulates.
* `UseTelemetry.backfilled_eq_live` — late and live dashboards agree up to one sample.
-/

namespace FlightDeck.Dashboard

open Server TransitionSystem Window Decimation

/-! ## What the rule keeps -/

/-- What the retention rule looks at in the earlier sample. -/
def retentionKey (sample : TelemetrySample) : MissionPhase × ℕ :=
  (sample.missionPhase, sample.faultFlags)

/-- The retention rule with a stride. -/
def retains (stride : ℕ) (previous : Option TelemetrySample) (current : TelemetrySample) : Bool :=
  shouldRetainSample previous current stride

/-- The rule keeps every change of phase or faults. -/
lemma keepsChanges_retains (stride : ℕ) : KeepsChanges retentionKey (retains stride) where
  congr {p q} current hkey := by
    cases p <;> cases q <;> simp [retentionKey] at hkey
    · rfl
    · simp [retains, shouldRetainSample, hkey.1, hkey.2]
  of_drop {p current} hdrop := by
    cases p with
    | none => cases hdrop
    | some previous =>
      simp only [retains, shouldRetainSample, Bool.or_eq_false_iff, bne_eq_false_iff_eq] at hdrop
      obtain ⟨⟨⟨-, hphase⟩, hfaults⟩, -⟩ := hdrop
      rw [Option.map_some, retentionKey, retentionKey, hphase, hfaults]

/-- The loop of `displaySamples` looks at the samples only, not at their indices. -/
lemma retain_eq_push (stride : ℕ) :
    retain stride = push fun previous x => retains stride (previous.map Prod.fst) x.1 := rfl

/-- The decisions about the indexed samples keep every change as well. -/
lemma keepsChanges_retain (stride : ℕ) :
    KeepsChanges (fun x : TelemetrySample × ℕ => retentionKey x.1)
      fun previous x => retains stride (previous.map Prod.fst) x.1 where
  congr x hkey := (keepsChanges_retains stride).congr x.1 (by
    rw [Option.map_map, Option.map_map]
    exact hkey)
  of_drop hdrop := by simpa [Option.map_map] using (keepsChanges_retains stride).of_drop hdrop

@[simp] lemma displaySamples_nil (stride : ℕ) : displaySamples [] stride = [] := rfl

/-- **What `displaySamples` keeps**: the last sample, and of those before it the ones the rule
keeps, each compared with its neighbour. -/
theorem displaySamples_concat (samples : List TelemetrySample) (latest : TelemetrySample)
    (stride : ℕ) :
    displaySamples (samples ++ [latest]) stride =
      thin (retains stride) none samples ++ [latest] := by
  set keep := fun (previous : Option (TelemetrySample × ℕ)) (x : TelemetrySample × ℕ) =>
    retains stride (previous.map Prod.fst) x.1 with hkeep
  set kept := thin keep none samples.zipIdx with hkept
  have hindexed : (samples ++ [latest]).zipIdx = samples.zipIdx ++ [(latest, samples.length)] := by
    rw [List.zipIdx_append]
    simp
  have hfold : (samples ++ [latest]).zipIdx.foldl (retain stride) [] =
      push keep kept (latest, samples.length) := by
    rw [hindexed, List.foldl_concat, retain_eq_push,
      (keepsChanges_retain stride).foldl_push none rfl, List.nil_append]
  -- The last sample differs by its index from all that were kept before it.
  have hnew : kept.getLast? ≠ some (latest, samples.length) := by
    intro hlast
    have hmem := mem_of_mem_thin (List.mem_of_getLast? hlast)
    exact absurd (List.mem_zipIdx' hmem).1 (lt_irrefl _)
  have hmap : kept.map Prod.fst = thin (retains stride) none samples := by
    rw [hkept, hkeep, map_thin, List.zipIdx_map_fst]
    rfl
  unfold displaySamples
  rw [hfold, hindexed, List.getLast?_concat, push]
  dsimp only
  cases keep kept.getLast? (latest, samples.length) with
  | true => simp [hmap]
  | false => simp [hnew, hmap]

/-! ## What a dashboard accumulates -/

/-- The sample goes on with the flight. -/
def Continues (previous sample : TelemetrySample) : Prop :=
  startsNewFlight (some previous) sample = false

instance : DecidableRel Continues := fun previous sample =>
  inferInstanceAs (Decidable (startsNewFlight (some previous) sample = false))

/-- One telemetry message per sample. -/
def Streams (samples : List TelemetrySample) (messages : List ServerMessage) : Prop :=
  List.Forall₂ (fun sample message => ∃ metrics, message = .telemetry sample metrics)
    samples messages

/-- A stream of samples that go on with the flight: the ones the rule keeps are added. -/
lemma foldl_receive {samples : List TelemetrySample} {messages : List ServerMessage}
    (hstreams : Streams samples messages) {flight : CurrentFlight}
    (hfirst : ∀ sample ∈ samples.head?, startsNewFlight flight.latest sample = false)
    (hchain : samples.IsChain Continues)
    (hkey : flight.samples.getLast?.map retentionKey = flight.latest.map retentionKey)
    (hlength : flight.samples.length ≤ MAX_CLIENT_SAMPLES) :
    (messages.foldl CurrentFlight.receive flight).samples =
      (flight.samples ++ thin (retains defaultStride) flight.latest samples).rtake
        MAX_CLIENT_SAMPLES := by
  induction hstreams generalizing flight with
  | nil => simp [rtake_of_length_le hlength]
  | @cons sample message samples messages hmessage hstreams ih =>
    obtain ⟨metrics, rfl⟩ := hmessage
    rw [List.isChain_cons] at hchain
    have hcontinues : startsNewFlight flight.latest sample = false := hfirst sample rfl
    have hdecision : shouldRetainSample flight.samples.getLast? sample defaultStride =
        retains defaultStride flight.latest sample :=
      (keepsChanges_retains defaultStride).congr sample hkey
    rw [List.foldl_cons]
    cases hkeep : retains defaultStride flight.latest sample with
    | true =>
      have hflight : flight.receive (.telemetry sample metrics) =
          { samples := (flight.samples ++ [sample]).rtake MAX_CLIENT_SAMPLES
            latest := some sample } := by
        simp [CurrentFlight.receive, hcontinues, hdecision, hkeep]
      have hlast : ((flight.samples ++ [sample]).rtake MAX_CLIENT_SAMPLES).getLast? =
          some sample := by rw [getLast?_rtake (by decide), List.getLast?_concat]
      rw [hflight, thin_cons_of_keep hkeep]
      refine (ih ?_ hchain.2 ?_ ?_).trans ?_
      · exact hchain.1
      · rw [hlast]
      · rw [length_rtake]
        exact min_le_left _ _
      · rw [rtake_rtake_append, List.append_assoc, List.singleton_append]
    | false =>
      have hflight : flight.receive (.telemetry sample metrics) =
          { samples := flight.samples, latest := some sample } := by
        simp [CurrentFlight.receive, hcontinues, hdecision, hkeep]
      rw [hflight, thin_cons_of_drop hkeep]
      refine ih ?_ hchain.2 ?_ hlength
      · exact hchain.1
      · exact hkey.trans ((keepsChanges_retains defaultStride).of_drop hkeep)

namespace UseTelemetry

variable {hook : UseTelemetry}

/-- What has been received and decided about, shown or not: the samples that React has or will
have once the waiting updaters are run in order, and those that are pending. -/
def accumulated (hook : UseTelemetry) : List TelemetrySample :=
  if hook.replaceWithHistory then hook.pending.rtake MAX_CLIENT_SAMPLES
  else (hook.settled ++ hook.pending).rtake MAX_CLIENT_SAMPLES

/-- With nothing unflushed, a render that gives no wrong result shows all of it. -/
lemma render_shown_eq_accumulated {messages : List ServerMessage} (h : Invariant messages hook)
    (hframe : hook.frame = false) (hkeeps : hook.KeepsFlight) :
    hook.render.shown.samples = hook.accumulated :=
  ((render_shown_iff h hframe).mpr hkeeps).trans h.samples.symm

/-- A dashboard that got, whatever it got earlier, a history and then one telemetry message for
each of some samples; flushes and renders came at any time, and no render gave a wrong result. -/
def Accumulates (history samples : List TelemetrySample) (hook : UseTelemetry) : Prop :=
  ∃ actions earlier metrics later, KeepsFlightThroughout actions ∧
    system.run actions = some (hook, earlier ++ .history history metrics :: later) ∧
      Streams samples later

/-- A new dashboard that got a history and some samples and has flushed nothing. -/
def unflushed (history samples : List TelemetrySample) : UseTelemetry :=
  (.history history {} :: samples.map (ServerMessage.telemetry · {})).foldl acceptMessage {}

/-- There is such a dashboard for every history and stream. -/
lemma accumulates_unflushed (history samples : List TelemetrySample) :
    Accumulates history samples (unflushed history samples) := by
  have hrun : ∀ messages : List ServerMessage, system.run (messages.map .message) =
      some (messages.foldl acceptMessage {}, messages) := by
    intro messages
    induction messages using List.reverseRecOn with
    | nil => rfl
    | append_singleton messages message ih =>
      rw [List.map_append, List.map_singleton, System.run_concat, ih, List.foldl_concat]
      rfl
  refine ⟨_, [], {}, samples.map (ServerMessage.telemetry · {}),
    keepsFlightThroughout_of_atCall ?_, hrun _, ?_⟩
  · simp
  · rw [Streams, List.forall₂_map_right_iff, List.forall₂_same]
    exact fun sample _ => ⟨{}, rfl⟩

/-- **What a dashboard accumulates** from a history and the samples that follow. -/
theorem accumulated_eq {history samples : List TelemetrySample}
    (h : Accumulates history samples hook)
    (hfirst : ∀ sample ∈ samples.head?, startsNewFlight history.getLast? sample = false)
    (hchain : samples.IsChain Continues) :
    hook.accumulated = (displaySamples history defaultStride ++
        thin (retains defaultStride) history.getLast? samples).rtake MAX_CLIENT_SAMPLES ∧
      hook.latestRetainedSample = hook.accumulated.getLast? := by
  obtain ⟨actions, earlier, metrics, later, hkeeps, hrun, hstreams⟩ := h
  have hinv := invariant_of_run hkeeps hrun
  have haccumulated : hook.accumulated = (currentFlight _).samples := hinv.samples
  refine ⟨?_, by rw [haccumulated, hinv.retained]⟩
  set flight : CurrentFlight :=
    { samples := (displaySamples history defaultStride).rtake MAX_CLIENT_SAMPLES
      latest := history.getLast? } with hflight
  have hkey : flight.samples.getLast?.map retentionKey = flight.latest.map retentionKey := by
    rw [hflight]
    dsimp only
    rw [getLast?_rtake (by decide)]
    rcases List.eq_nil_or_concat history with rfl | ⟨samples, latest, rfl⟩
    · rfl
    · rw [List.concat_eq_append, displaySamples_concat, List.getLast?_concat, List.getLast?_concat]
  have hreceived : (later.foldl CurrentFlight.receive flight).samples =
      (flight.samples ++ thin (retains defaultStride) flight.latest samples).rtake
        MAX_CLIENT_SAMPLES :=
    foldl_receive hstreams hfirst hchain hkey (by simp [hflight])
  have hhistory : (earlier.foldl CurrentFlight.receive {}).receive (.history history metrics) =
      flight := rfl
  rw [haccumulated, currentFlight, List.foldl_append, List.foldl_cons, hhistory, hreceived,
    rtake_rtake_append]

/-- **Late and live dashboards agree**: take a dashboard that got some samples as a history, one
that got them one by one, and one that got them one by one but for the last; nothing in the
stream starts a new flight, and there is room for all that is retained. After some more samples,
the first two have accumulated the same, but that the first one has the last sample of the
history in any case, the other only if it retained it. -/
theorem backfilled_eq_live {samples more : List TelemetrySample} {latest : TelemetrySample}
    (hflight : (samples ++ latest :: more).IsChain Continues)
    {backfilled live early : UseTelemetry}
    (hbackfilled : Accumulates (samples ++ [latest]) more backfilled)
    (hlive : Accumulates [] (samples ++ latest :: more) live)
    (hearly : Accumulates [] samples early)
    (hfew : live.accumulated.length < MAX_CLIENT_SAMPLES) :
    ∃ rest,
      live.accumulated = early.accumulated ++
        (if shouldRetainSample early.latestRetainedSample latest defaultStride then [latest]
          else []) ++ rest ∧
      backfilled.accumulated = early.accumulated ++ [latest] ++ rest := by
  obtain ⟨hsamples, hrest, -⟩ := List.isChain_append.mp hflight
  rw [List.isChain_cons] at hrest
  obtain ⟨hlive, -⟩ := accumulated_eq hlive (fun _ _ => rfl) hflight
  obtain ⟨hearly, hretained⟩ := accumulated_eq hearly (fun _ _ => rfl) hsamples
  obtain ⟨hbackfilled, -⟩ := accumulated_eq hbackfilled
    (by rw [List.getLast?_concat]; exact hrest.1) hrest.2
  rw [displaySamples_nil, List.nil_append, List.getLast?_nil] at hlive hearly
  rw [displaySamples_concat, List.getLast?_concat] at hbackfilled
  set kept := thin (retains defaultStride) none samples with hkept
  set rest := thin (retains defaultStride) (some latest) more with hrest'
  -- The late dashboard decides about the last sample as the neighbour would have it.
  have hdecision : shouldRetainSample early.latestRetainedSample latest defaultStride =
      retains defaultStride (samples.getLast?.or none) latest := by
    have hkeys := (keepsChanges_retains defaultStride).getLast?_thin none samples
    rw [hretained, hearly, getLast?_rtake (by decide)]
    refine (keepsChanges_retains defaultStride).congr latest ?_
    rw [← hkeys, Option.or_none]
  have hthin : thin (retains defaultStride) none (samples ++ latest :: more) = kept ++
      (if shouldRetainSample early.latestRetainedSample latest defaultStride then [latest]
        else []) ++ rest := by
    rw [thin_append, hdecision, List.append_assoc]
    cases hkeep : retains defaultStride (samples.getLast?.or none) latest with
    | true => rw [thin_cons_of_keep hkeep, if_pos rfl, List.singleton_append]
    | false => rw [thin_cons_of_drop hkeep, if_neg (by simp), List.nil_append]
  rw [hthin] at hlive
  -- There is room for all that the live dashboard retains, and for one more.
  have hroom := hfew
  rw [hlive, length_rtake] at hroom
  simp only [List.length_append] at hroom
  have hkeptRoom : kept.length + rest.length < MAX_CLIENT_SAMPLES := by omega
  refine ⟨rest, ?_, ?_⟩
  · rw [hlive, hearly, rtake_of_length_le, rtake_of_length_le]
    · omega
    · simp only [List.length_append]
      omega
  · rw [hbackfilled, hearly, rtake_of_length_le, rtake_of_length_le]
    · omega
    · simp only [List.length_append, List.length_singleton]
      omega

/-- The vehicle on the pad, some packets later. -/
def padSampleAt (sequence : ℕ) : TelemetrySample := { padSample with sequence }

/-- Three packets on the pad, of which the live dashboard retains the first; the history ends
with the second. -/
theorem backfilled_eq_live_pad :
    ∃ rest,
      (unflushed [] [padSampleAt 0, padSampleAt 1, padSampleAt 2]).accumulated =
        (unflushed [] [padSampleAt 0]).accumulated ++ [] ++ rest ∧
      (unflushed [padSampleAt 0, padSampleAt 1] [padSampleAt 2]).accumulated =
        (unflushed [] [padSampleAt 0]).accumulated ++ [padSampleAt 1] ++ rest :=
  @backfilled_eq_live [padSampleAt 0] [padSampleAt 2] (padSampleAt 1) (by decide +kernel) _ _ _
    (accumulates_unflushed _ _) (accumulates_unflushed _ _) (accumulates_unflushed _ _)
    (by decide +kernel)

end UseTelemetry

end FlightDeck.Dashboard
