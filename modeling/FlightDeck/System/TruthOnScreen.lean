import FlightDeck.System.ClosedLoop

set_option relaxedAutoImplicit false
set_option autoImplicit false

/-!
# The truth on the screen

Between the simulator and a screen there are two threads, a queue, a network that drops, repeats
and reorders, a server that keeps a history, sockets that come and go, JSON, and a hook that thins
samples out. None of it makes anything up: a sample on a screen is what the simulator computed in
the pass of its number. So no two screens contradict each other, now or later.

## Main results

* `ClosedLoop.screen_tells_flight` — every sample on every screen.
* `ClosedLoop.screens_agree` — any two samples on any two screens.
-/

namespace FlightDeck.System

open Server Generator Dashboard TransitionSystem Protocol

namespace ClosedLoop

variable {capacity : ℕ+}

section Screens

variable [Libm] [LawfulLibm] {arguments : Arguments} {whole later : ClosedLoop capacity}
  {trace trace' : List Event}

/-- **A screen tells the flight.** The passes that the simulator has made are those of its loop
under the flags that they have read, and every sample on any screen says, number by number, what
the packet says that was made of the vehicle's state after the pass of its number. If the pass has
read no sensor noise, the measured position and velocity on the screen are the true ones.

**Proof sketch.** Whoever holds samples got them from datagrams (`holds_of_run`), what is on the
network was handed to it by the worker, and what was handed to it is what the passes made; the
damaged packet does not decode, and JSON changes no number. -/
theorem screen_tells_flight {actions : List Action}
    (hrun : (system capacity arguments).run actions = some (whole, trace))
    (hpasses : (passes trace).length ≤ 2 ^ 31) :
    Executes arguments.options (flagsRead trace) (passes trace).length ∧
      ∀ j, ∀ sample ∈ (whole.loop.browsers j).hook.shown.samples,
        sample.sequence < (passes trace).length ∧
          Shows (makeTelemetry
            (Simulator.after (flagsRead trace) (sample.sequence + 1)).simulation.state
            (BitVec.ofNat 32 sample.sequence) (flagsRead trace sample.sequence)) sample ∧
          (flagsRead trace sample.sequence &&& kSensorNoise = 0 →
            (∀ axis, numberOfDouble (sample.positionM axis) =
                numberOfDouble (sample.truthPositionM axis)) ∧
              ∀ axis, numberOfDouble (sample.velocityMps axis) =
                numberOfDouble (sample.truthVelocityMps axis)) := by
  refine ⟨(executes_of_run hrun).1, fun j sample hsample => ?_⟩
  have hrecorded := ((holds_of_run hrun hpasses).hooks j).shown sample hsample
  have hshows := hrecorded.shows
  refine ⟨hrecorded.lt, packet_eq _ _ ▸ hshows, fun hquiet => ?_⟩
  obtain ⟨hposition, hvelocity⟩ := measured_eq_truth hquiet
  constructor
  · intro axis
    rw [hshows.positionM, hshows.truthPositionM, hposition]
  · intro axis
    rw [hshows.velocityMps, hshows.truthVelocityMps, hvelocity]

/-- **Screens agree.** Take a sample that is on some screen and one that is on some screen then or
later. If they have the same number they say the same; and the one with the smaller number is not
of a later phase, nor of a later time.

**Proof sketch.** Both tell of the one flight that the passes so far have made, whose phases and
timestamps do not go back. -/
theorem screens_agree {actions more : List Action}
    (hrun : (system capacity arguments).run actions = some (whole, trace))
    (hmore : (system capacity arguments).run (actions ++ more) = some (later, trace'))
    (hpasses : (passes trace').length ≤ 2 ^ 31) {j k : ℕ} {first second : TelemetrySample}
    (hfirst : first ∈ (whole.loop.browsers j).hook.shown.samples)
    (hsecond : second ∈ (later.loop.browsers k).hook.shown.samples) :
    (first.sequence = second.sequence → SameNumbers first second) ∧
      (first.sequence ≤ second.sequence →
        first.missionPhase.toNat ≤ second.missionPhase.toNat ∧
          first.timestampUs ≤ second.timestampUs) ∧
      (second.sequence ≤ first.sequence →
        second.missionPhase.toNat ≤ first.missionPhase.toNat ∧
          second.timestampUs ≤ first.timestampUs) := by
  obtain ⟨events, rfl⟩ := (system capacity arguments).trace_prefix_of_run hrun hmore
  obtain ⟨hexecutes, -⟩ := executes_of_run hmore
  have hearlier : (passes trace).length ≤ 2 ^ 31 := by
    rw [passes_append, List.length_append] at hpasses
    exact (Nat.le_add_right _ _).trans hpasses
  have hfirst' :=
    (((holds_of_run hrun hearlier).hooks j).shown first hfirst).append events
  have hsecond' := ((holds_of_run hmore hpasses).hooks k).shown second hsecond
  refine ⟨fun heq => ?_, fun hle => ?_, fun hle => ?_⟩
  · have hshows := hfirst'.shows
    rw [heq] at hshows
    exact hshows.sameNumbers hsecond'.shows
  · exact hfirst'.shows.le_of_le hexecutes hpasses hsecond'.shows hle hsecond'.lt
  · exact hsecond'.shows.le_of_le hexecutes hpasses hfirst'.shows hle hfirst'.lt

end Screens

/-! ## Two screens -/

/-- A second dashboard comes, and shows the history. -/
def untilSecondScreen : List Action :=
  [.loop (.connect 1), .loop (.opened 1), .loop (.deliver 1), .loop (.deliver 1),
    .loop (.frame 1 20 true), .loop (.render 1)]

/-- The sample of the first pass tells its state. -/
theorem screen_tells_flight_firstPass : ∃ (whole : ClosedLoop 4) (trace : List Event)
    (sample : TelemetrySample),
    (@system coarseLibm 4 { maximumSteps := 1 }).run (untilAcknowledged ++ untilShown) =
        some (whole, trace) ∧
      (whole.loop.browsers 0).hook.shown.samples = [sample] ∧
        Shows (@makeTelemetry coarseLibm
          (@Simulator.after coarseLibm (flagsRead trace) 1).simulation.state 0#32
          (flagsRead trace 0)) sample := by
  let libm := coarseLibm
  have lawful := lawful_coarseLibm
  have hshown : ((system 4 { maximumSteps := 1 }).run (untilAcknowledged ++ untilShown)).any
      (fun now => (now.1.loop.browsers 0).hook.shown.samples.length = 1 ∧
        (passes now.2).length = 1) = true := by decide +kernel
  obtain ⟨⟨whole, trace⟩, hrun, hfacts⟩ := (Option.any_eq_true _ _).mp hshown
  rw [decide_eq_true_eq] at hfacts
  obtain ⟨hone, hpasses⟩ := hfacts
  obtain ⟨sample, hsample⟩ := List.length_eq_one_iff.mp hone
  refine ⟨whole, trace, sample, hrun, hsample, ?_⟩
  obtain ⟨hlt, hshows, -⟩ := (screen_tells_flight hrun (by rw [hpasses]; norm_num)).2 0 sample
    (by rw [hsample]; exact List.mem_singleton_self _)
  rw [hpasses, Nat.lt_one_iff] at hlt
  rw [hlt] at hshows
  exact hshows

/-- The second dashboard shows what the first one did. -/
theorem screens_agree_secondScreen : ∃ (whole later : ClosedLoop 4) (trace trace' : List Event)
    (first second : TelemetrySample),
    (@system coarseLibm 4 { maximumSteps := 1 }).run (untilAcknowledged ++ untilShown) =
        some (whole, trace) ∧
      (@system coarseLibm 4 { maximumSteps := 1 }).run
          ((untilAcknowledged ++ untilShown) ++ untilSecondScreen) = some (later, trace') ∧
        (whole.loop.browsers 0).hook.shown.samples = [first] ∧
          (later.loop.browsers 1).hook.shown.samples = [second] ∧ SameNumbers first second := by
  let libm := coarseLibm
  have lawful := lawful_coarseLibm
  have hearly : ((system 4 { maximumSteps := 1 }).run (untilAcknowledged ++ untilShown)).any
      (fun now => (now.1.loop.browsers 0).hook.shown.samples.map (·.sequence) = [0]) = true := by
    decide +kernel
  have hlate : ((system 4 { maximumSteps := 1 }).run
      ((untilAcknowledged ++ untilShown) ++ untilSecondScreen)).any (fun now =>
        (now.1.loop.browsers 1).hook.shown.samples.map (·.sequence) = [0] ∧
          (passes now.2).length = 1) = true := by decide +kernel
  obtain ⟨⟨whole, trace⟩, hrun, hone⟩ := (Option.any_eq_true _ _).mp hearly
  obtain ⟨⟨later, trace'⟩, hmore, hfacts⟩ := (Option.any_eq_true _ _).mp hlate
  rw [decide_eq_true_eq] at hone hfacts
  obtain ⟨hother, hpasses⟩ := hfacts
  obtain ⟨first, hfirst, hzero⟩ := List.map_eq_singleton_iff.mp hone
  obtain ⟨second, hsecond, hzero'⟩ := List.map_eq_singleton_iff.mp hother
  refine ⟨whole, later, trace, trace', first, second, hrun, hmore, hfirst, hsecond, ?_⟩
  exact (screens_agree hrun hmore (by rw [hpasses]; norm_num)
    (by rw [hfirst]; exact List.mem_singleton_self _)
    (by rw [hsecond]; exact List.mem_singleton_self _)).1 (hzero.trans hzero'.symm)

end ClosedLoop

end FlightDeck.System
