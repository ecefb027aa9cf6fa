import FlightDeck.System.ClockRate
import FlightDeck.System.PacketPath

set_option relaxedAutoImplicit false
set_option autoImplicit false

/-!
# One flight after another

A simulator that ends and is started again sends packets that begin anew. Nothing in a packet says
so: the server has to tell from packet 0, or from a timestamp that is more than a second too
small. It resets at most once in a flight, at the first packet of it that it can read, and whether
it does depends on that packet and the last one before. If it always does, it shows the last
flight as if it had been started for it.

## Main definitions

* `Flight` — a run of the simulator of which something reaches the server.
* `ToldApart` — two flights that the server tells apart.
* `resets` — how often the server says that a new flight has begun.

## Main results

* `Reaches.filter_segment_append` — a flight after anything else.
* `Flight.resets_append_ne` — where in a flight the server may reset.
* `flights_told_apart` — any number of flights.
* `toldApart_of_passes` — how far apart they have to be.
-/

namespace FlightDeck.System

open Protocol Generator Simulator Server TelemetryServer

/-! ## Restarts -/

section Restarts

variable {capacity : ℕ+} {datagram : Datagram}

/-- The message says that a new flight has begun. -/
def isReset : ServerMessage → Bool
  | .reset _ => true
  | _ => false

/-- The number of times that a server says so. -/
def resets (capacity : ℕ+) (datagrams : List Datagram) : ℕ :=
  ((fresh capacity).broadcasts datagrams).countP isReset

/-- It says so when a datagram meets the restart test. -/
lemma resets_concat (capacity : ℕ+) (datagrams : List Datagram) (datagram : Datagram) :
    resets capacity (datagrams ++ [datagram]) = resets capacity datagrams +
      if (run capacity datagrams).meetsRestartTest datagram then 1 else 0 := by
  rw [resets, broadcasts_concat, List.countP_append, resets]
  congr 1
  cases hsample : datagram.sample? with
  | none =>
    rw [acceptPacket_reject _ hsample, meetsRestartTest, hsample]
    rfl
  | some sample =>
    rw [meetsRestartTest, hsample, Option.any_some]
    cases hrestarted : (run capacity datagrams).restarted sample with
    | true =>
      rw [acceptPacket_restart _ hsample hrestarted]
      rfl
    | false =>
      rw [acceptPacket_record _ hsample hrestarted]
      rfl

end Restarts

/-! ## A flight after anything else -/

section After

variable [Libm] [LawfulLibm] {options : Options} {faultFlags : ℕ → BitVec 32} {n : ℕ}
  {arrivals : List Arrival} {arrival : Arrival}

/-- The server takes a flight for a new one: its first intact packet meets the restart test. -/
def isTold (capacity : ℕ+) (before : List Datagram) (arrivals : List Arrival) : Bool :=
  (arrivals.head?).any fun arrival => (run capacity before).meetsRestartTest arrival.datagram

omit [Libm] [LawfulLibm] in
/-- It does not, if nothing came before. -/
lemma isTold_nil (capacity : ℕ+) (arrivals : List Arrival) :
    isTold capacity [] arrivals = false := by
  rw [isTold, Option.any_eq_false]
  exact fun arrival _ => by simp [meetsRestartTest_fresh]

/-- **A flight after anything else.** Either its first intact packet meets the restart test, and
nothing is left of what came before, or the whole flight is taken for a part of it. -/
lemma Reaches.filter_segment_append (capacity : ℕ+) (hrun : Executes options faultFlags n)
    (hn : n ≤ 2 ^ 31) (h : Reaches options faultFlags n arrivals) (before : List Datagram) :
    (segment capacity (before ++ arrivals.map Arrival.datagram)).filter (·.sample?.isSome) =
        (if isTold capacity before (intact options arrivals) then []
          else (segment capacity before).filter (·.sample?.isSome)) ++
            (arrivals.map Arrival.datagram).filter (·.sample?.isSome) ∧
      resets capacity (before ++ arrivals.map Arrival.datagram) = resets capacity before +
        if isTold capacity before (intact options arrivals) then 1 else 0 := by
  induction arrivals using List.reverseRecOn with
  | nil => simp [intact, isTold]
  | append_singleton arrivals arrival ih =>
    obtain ⟨hsegment, hresets⟩ := ih h.of_append
    have hmem : arrival ∈ arrivals ++ [arrival] := by simp
    rw [List.map_append, List.map_singleton, ← List.append_assoc, segment_concat, resets_concat,
      intact_concat, hresets, List.filter_append (arrivals.map Arrival.datagram)]
    by_cases hheard : intact options arrivals = []
    · have hsame := meetsRestartTest_congr (h.of_append.withoutRejects_append capacity hn hheard
        before) arrival.datagram
      have hfilter : (arrivals.map Arrival.datagram).filter (·.sample?.isSome) = [] := by
        rw [h.of_append.filter_isSome hn, hheard, List.map_nil]
      rw [hheard] at hsegment ⊢
      rw [hfilter] at hsegment ⊢
      cases hintact : isIntact options arrival.step with
      | true =>
        -- This is the first one.
        rw [hsame, if_pos rfl, List.nil_append]
        have hnone : isTold capacity before [] = false := rfl
        have hfirst : isTold capacity before [arrival] =
            (run capacity before).meetsRestartTest arrival.datagram := rfl
        rw [hnone, if_neg Bool.false_ne_true, List.append_nil] at hsegment
        rw [hnone, hfirst]
        cases (run capacity before).meetsRestartTest arrival.datagram with
        | true => exact ⟨rfl, rfl⟩
        | false =>
          rw [if_neg Bool.false_ne_true, List.filter_append, hsegment]
          exact ⟨rfl, rfl⟩
      | false =>
        have hnone := h.isSome_iff hn hmem
        rw [hintact, Option.isSome_eq_false_iff, Option.isNone_iff_eq_none] at hnone
        have hnot : (run capacity before).meetsRestartTest arrival.datagram = false := by
          rw [meetsRestartTest, hnone, Option.any_none]
        rw [hsame, hnot, if_neg Bool.false_ne_true, List.filter_append, hsegment]
        simp [hnone]
    · have hnot := h.meetsRestartTest_append_eq_false capacity hrun hn hheard before
      have hhead : isTold capacity before
          (intact options arrivals ++
            if isIntact options arrival.step then [arrival] else []) =
              isTold capacity before (intact options arrivals) := by
        rw [isTold, List.head?_append_of_ne_nil _ hheard]
        rfl
      rw [hnot, if_neg Bool.false_ne_true, hhead, List.filter_append, hsegment,
        List.append_assoc]
      exact ⟨rfl, rfl⟩

end After

/-! ## Any number of flights -/

section Flights

variable [Libm]

/-- A run of the simulator, and what the server receives of it: something that it can read. -/
structure Flight where
  /-- The options of the run. -/
  options : Options
  /-- The flags that its passes read. -/
  faultFlags : ℕ → BitVec 32
  /-- The number of its passes. -/
  passes : ℕ
  /-- The packets that arrive, in order. -/
  arrivals : List Arrival
  executes : Executes options faultFlags passes
  few : passes ≤ 2 ^ 31
  reaches : Reaches options faultFlags passes arrivals
  heard : intact options arrivals ≠ []

namespace Flight

variable (flight : Flight)

/-- What arrives. -/
def datagrams : List Datagram := flight.arrivals.map Arrival.datagram

/-- The passes whose packets arrive intact. -/
def steps : List ℕ := (intact flight.options flight.arrivals).map Arrival.step

/-- The first of them. -/
def first : ℕ := ((intact flight.options flight.arrivals).head flight.heard).step

/-- The last of them. -/
def last : ℕ := ((intact flight.options flight.arrivals).getLast flight.heard).step

lemma head?_steps : flight.steps.head? = some flight.first := by
  rw [steps, List.head?_map, List.head?_eq_some_head flight.heard]
  rfl

lemma getLast?_steps : flight.steps.getLast? = some flight.last := by
  rw [steps, List.getLast?_map, List.getLast?_eq_some_getLast flight.heard]
  rfl

/-- They are passes of the run. -/
lemma first_lt : flight.first < flight.passes :=
  (flight.reaches.sent _ (List.mem_filter.mp (List.head_mem flight.heard)).1).1

lemma last_lt : flight.last < flight.passes :=
  (flight.reaches.sent _ (List.mem_filter.mp (List.getLast_mem flight.heard)).1).1

end Flight

/-- The server tells the flights apart: the second one begins with packet 0, after another packet,
or more than a second before the end of the first one. -/
def ToldApart (before after : Flight) : Prop :=
  after.first = 0 ∧ before.last ≠ 0 ∨
    numberAdd (readTimestamp after.faultFlags after.first) 1000000 <
      readTimestamp before.faultFlags before.last

instance (before after : Flight) : Decidable (ToldApart before after) :=
  inferInstanceAs (Decidable (_ ∨ _))

variable [LawfulLibm] {flights : List Flight} {flight : Flight}

/-- In a flight the server resets at most once. -/
lemma Flight.resets_append_le (capacity : ℕ+) (before : List Datagram) (flight : Flight) :
    resets capacity (before ++ flight.datagrams) ≤ resets capacity before + 1 := by
  obtain ⟨-, hresets⟩ :=
    flight.reaches.filter_segment_append capacity flight.executes flight.few before
  rw [Flight.datagrams, hresets]
  split
  · exact le_rfl
  · exact Nat.le_succ _

/-- In the first one it does not. -/
lemma resets_flatMap_le (capacity : ℕ+) (flights : List Flight) :
    resets capacity (flights.flatMap Flight.datagrams) ≤ flights.length - 1 := by
  induction flights using List.reverseRecOn with
  | nil => exact le_rfl
  | append_singleton flights flight ih =>
    rw [List.flatMap_append, List.flatMap_singleton, List.length_append, List.length_singleton]
    rcases List.eq_nil_or_concat flights with rfl | ⟨earlier, previous, rfl⟩
    · obtain ⟨-, hresets⟩ :=
        flight.reaches.filter_segment_append capacity flight.executes flight.few []
      rw [isTold_nil, if_neg Bool.false_ne_true] at hresets
      exact hresets.le
    · have hone := Flight.resets_append_le capacity
        ((earlier.concat previous).flatMap Flight.datagrams) flight
      rw [List.length_concat] at ih ⊢
      omega

/-- **The server resets only at the first packet of a flight that it can read**, whatever came
before. -/
lemma Flight.resets_append_ne (capacity : ℕ+) (before : List Datagram) {flight : Flight}
    {earlier rest : List Datagram} {datagram : Datagram}
    (hsplit : flight.datagrams = earlier ++ datagram :: rest)
    (hreset : resets capacity (before ++ (earlier ++ [datagram])) ≠
      resets capacity (before ++ earlier)) :
    datagram.sample?.isSome ∧ ∀ unread ∈ earlier, unread.sample? = none := by
  obtain ⟨arrivals, later, harrivals, rfl, hlater⟩ := List.map_eq_append_iff.mp hsplit
  obtain ⟨arrival, later, rfl, rfl, -⟩ := List.map_eq_cons_iff.mp hlater
  have hreaches := flight.reaches
  rw [harrivals, List.append_cons] at hreaches
  have hbegins := hreaches.of_append
  -- A reset means that the packet meets the restart test.
  rw [← List.append_assoc, resets_concat] at hreset
  have hmeets : (run capacity (before ++ arrivals.map Arrival.datagram)).meetsRestartTest
      arrival.datagram = true := by
    by_contra hnot
    rw [if_neg hnot] at hreset
    exact hreset rfl
  constructor
  · by_contra hnone
    rw [Option.not_isSome_iff_eq_none] at hnone
    rw [meetsRestartTest, hnone] at hmeets
    exact Bool.false_ne_true hmeets
  · have hheard : intact flight.options arrivals = [] := by
      by_contra hheard
      rw [hbegins.meetsRestartTest_append_eq_false capacity flight.executes flight.few hheard]
        at hmeets
      exact Bool.false_ne_true hmeets
    have hfilter := hbegins.of_append.filter_isSome flight.few
    rw [hheard, List.map_nil, List.filter_eq_nil_iff] at hfilter
    intro unread hunread
    simpa using hfilter unread hunread

/-- A server that knows the first flight alone. -/
lemma isTold_eq (capacity : ℕ+) {before : List Datagram}
    (hbefore : (run capacity before).withoutRejects =
      (run capacity flight.datagrams).withoutRejects) (next : Flight) :
    isTold capacity before (intact next.options next.arrivals) =
      decide (ToldApart flight next) := by
  have hfirst := List.head_mem next.heard
  have hhead : (intact next.options next.arrivals).head? =
      some ((intact next.options next.arrivals).head next.heard) :=
    List.head?_eq_some_head next.heard
  obtain ⟨hmem, hintact⟩ := List.mem_filter.mp hfirst
  obtain ⟨sample, hsample, hsequence, htime⟩ :=
    next.reaches.exists_sample_of_intact next.few hmem hintact
  -- What the server knows of the first flight.
  obtain ⟨hcounted, -⟩ := counted_run capacity flight.executes flight.few
    (flight.reaches.arrives flight.few)
  have hsame := hbefore.trans (flight.reaches.withoutRejects_eq capacity flight.few)
  rw [isTold, hhead, Option.any_some, meetsRestartTest_congr hsame, meetsRestartTest, hsample,
    Option.any_some, restarted, sequenceRestarted, simulationClockRestarted, hcounted.latest,
    hcounted.latestTimestampUs, List.getLast?_eq_some_getLast flight.heard, hsequence, htime]
  change (((next.first == 0) && some flight.last != none && some flight.last != some 0) ||
    decide (numberAdd (readTimestamp next.faultFlags next.first) 1000000 <
      readTimestamp flight.faultFlags flight.last)) = _
  rw [Bool.eq_iff_iff, decide_eq_true_iff]
  simp [ToldApart]

/-- **Run lemma**: after flights that the server tells apart it knows the last one alone. -/
lemma filter_segment_flights (capacity : ℕ+)
    (hchain : (flights ++ [flight]).IsChain ToldApart) :
    (segment capacity ((flights ++ [flight]).flatMap Flight.datagrams)).filter
        (·.sample?.isSome) = flight.datagrams.filter (·.sample?.isSome) ∧
      resets capacity ((flights ++ [flight]).flatMap Flight.datagrams) = flights.length := by
  induction flights using List.reverseRecOn generalizing flight with
  | nil =>
    obtain ⟨hsegment, hresets⟩ :=
      flight.reaches.filter_segment_append capacity flight.executes flight.few []
    rw [isTold_nil] at hsegment hresets
    rw [List.nil_append, List.flatMap_singleton]
    exact ⟨hsegment, hresets⟩
  | append_singleton flights previous ih =>
    obtain ⟨hearlier, -, hlast⟩ := List.isChain_append.mp hchain
    have htold : ToldApart previous flight :=
      hlast previous List.getLast?_concat flight rfl
    obtain ⟨hsegment, hresets⟩ := ih hearlier
    obtain ⟨hsegment', hresets'⟩ := flight.reaches.filter_segment_append capacity
      flight.executes flight.few ((flights ++ [previous]).flatMap Flight.datagrams)
    rw [isTold_eq capacity (withoutRejects_of_filter_segment hsegment), decide_eq_true htold]
      at hsegment' hresets'
    rw [List.flatMap_append, List.flatMap_singleton]
    refine ⟨hsegment', hresets'.trans ?_⟩
    rw [hresets, List.length_append, List.length_singleton, if_pos rfl]

/-- **Flights are told apart.** Let flights follow each other, each with at least one packet that
arrives intact, all of them in order within each flight. Then the server says at most once for
every flight but the first that a new one has begun, and only when the first packet arrives that
it can read of that flight. If each flight is told apart from the one before, it says so exactly
once for each; what it takes for its current flight, and keeps the end of, are the intact packets
of the last one, and it counts as lost the passes between the first and the last of them of which
it got none. The next flight, if it is not told apart, is taken for a part of that flight, and
nothing is said.

**Proof sketch.** A later packet of a flight is not number 0 and not of an earlier time, so that
only the first intact one may meet the restart test; when it does the server forgets all that it
knew. -/
theorem flights_told_apart (capacity : ℕ+) :
    (∀ flights : List Flight,
      resets capacity (flights.flatMap Flight.datagrams) ≤ flights.length - 1) ∧
    (∀ (flights : List Flight) (flight : Flight),
      let before := flights.flatMap Flight.datagrams
      resets capacity (before ++ flight.datagrams) ≤ resets capacity before + 1 ∧
      ∀ earlier datagram rest, flight.datagrams = earlier ++ datagram :: rest →
        resets capacity (before ++ (earlier ++ [datagram])) ≠
            resets capacity (before ++ earlier) →
          datagram.sample?.isSome ∧ ∀ unread ∈ earlier, unread.sample? = none) ∧
    ∀ (flights : List Flight) (flight next : Flight),
      (flights ++ [flight]).IsChain ToldApart →
        let datagrams := (flights ++ [flight]).flatMap Flight.datagrams
        resets capacity datagrams = flights.length ∧
        List.Forall₂ (fun i sample => Server.Agrees (packet flight.faultFlags i) sample)
          flight.steps (flightSamples capacity datagrams) ∧
        (run capacity datagrams).history.toArray =
          (flightSamples capacity datagrams).rtake capacity ∧
        (run capacity datagrams).metrics.valid = flight.steps.length ∧
        (run capacity datagrams).metrics.lost = (missing flight.steps).card ∧
        (run capacity datagrams).metrics.reordered = 0 ∧
        (¬ToldApart flight next →
          resets capacity (datagrams ++ next.datagrams) = flights.length ∧
            flightSamples capacity (datagrams ++ next.datagrams) =
              flightSamples capacity datagrams ++ samples next.datagrams) := by
  refine ⟨resets_flatMap_le capacity, fun flights flight => ⟨?_, ?_⟩, ?_⟩
  · exact Flight.resets_append_le capacity _ flight
  · intro earlier datagram rest hsplit hreset
    exact Flight.resets_append_ne capacity _ hsplit hreset
  intro flights flight next hchain datagrams
  obtain ⟨hsegment, hresets⟩ := filter_segment_flights capacity hchain
  have hsame := withoutRejects_of_filter_segment hsegment
  have hintact := flight.reaches.withoutRejects_eq capacity flight.few
  obtain ⟨hcounted, -⟩ := counted_run capacity flight.executes flight.few
    (flight.reaches.arrives flight.few)
  have hmetrics := congrArg TelemetryServer.metrics (hsame.trans hintact)
  simp only [TelemetryServer.withoutRejects, StreamMetrics.mk.injEq] at hmetrics
  obtain ⟨-, hvalid, -, hlost, hreordered⟩ := hmetrics
  have hsamples : flightSamples capacity datagrams = samples flight.datagrams := by
    rw [flightSamples, ← samples_filter, hsegment, samples_filter]
  refine ⟨hresets, ?_, ?_, ?_, ?_, ?_, fun hnot => ?_⟩
  · rw [hsamples]
    exact (flight.reaches.samples_agree flight.few).1
  · exact toArray_history_run datagrams
  · rw [hvalid, hcounted.valid, Flight.steps, List.length_map]
  · rw [hlost, hcounted.lost]
    rfl
  · rw [hreordered, hcounted.reordered]
  · obtain ⟨hsegment', hresets'⟩ := next.reaches.filter_segment_append capacity
      next.executes next.few datagrams
    rw [isTold_eq capacity hsame, decide_eq_false hnot] at hsegment' hresets'
    refine ⟨hresets'.trans hresets, ?_⟩
    rw [flightSamples, ← samples_filter]
    change samples ((segment capacity
      (datagrams ++ next.arrivals.map Arrival.datagram)).filter _) = _
    rw [hsegment', if_neg Bool.false_ne_true, samples, List.filterMap_append, ← samples,
      ← samples, samples_filter, samples_filter]
    rfl

end Flights

/-! ## How far apart -/

section Apart

variable [Libm] {options options' : Options} {f g : ℕ → BitVec 32} {n m i : ℕ}

/-- The clock does not depend on the faults. -/
lemma timestampUs_congr (hrun : Executes options f n) (hrun' : Executes options' g m)
    (hn : i < n) (hm : i < m) : (packet f i).timestampUs = (packet g i).timestampUs := by
  have hclock : ∀ k ≤ i + 1, (after f k).simulation.state.simulationTimeS =
      (after g k).simulation.state.simulationTimeS := by
    intro k hk
    induction k with
    | zero => rfl
    | succ k ih =>
      rw [simulationTimeS_after_succ hrun (by omega), simulationTimeS_after_succ hrun' (by omega),
        ih (by omega)]
  show timestampOf (after f (i + 1)).simulation.state.simulationTimeS =
    timestampOf (after g (i + 1)).simulation.state.simulationTimeS
  rw [hclock (i + 1) le_rfl]

/-- A timestamp is read as it is, and so is a second later. -/
lemma readTimestamp_eq (hrun : Executes options f n) (hn : n ≤ 2 ^ 31) (hi : i < n) :
    readTimestamp f i = (packet f i).timestampUs.toNat ∧
      numberAdd (readTimestamp f i) 1000000 = readTimestamp f i + 1000000 := by
  have hnear := abs_le.mp (abs_timestampUs_sub_le hrun hn hi)
  have hi' : (i : ℝ) + 1 ≤ 2147483648 := by
    exact_mod_cast (Nat.succ_le_of_lt hi).trans (hn.trans (by norm_num))
  have hreal : ((packet f i).timestampUs.toNat : ℝ) < 4503599627370496 := by linarith [hnear.2]
  have hlt : (packet f i).timestampUs.toNat < 2 ^ 52 := by exact_mod_cast hreal
  have hread : readTimestamp f i = (packet f i).timestampUs.toNat :=
    Ieee754.roundNat_of_lt (by decide) (by omega)
  rw [hread]
  exact ⟨rfl, Ieee754.roundNat_of_lt (by decide) (by omega)⟩

variable {before after : Flight}

/-- How far the end of a flight is from an earlier start of the next one, on their clocks. -/
lemma abs_readTimestamp_sub_le (hle : after.first ≤ before.last) :
    |(readTimestamp before.faultFlags before.last : ℝ) -
        readTimestamp after.faultFlags after.first - 10000 * (before.last - after.first)| ≤
      2 + ((before.last : ℝ) - after.first) / 50 := by
  have hlt := lt_of_le_of_lt hle before.last_lt
  rw [(readTimestamp_eq before.executes before.few before.last_lt).1,
    (readTimestamp_eq after.executes after.few after.first_lt).1,
    timestampUs_congr after.executes before.executes after.first_lt hlt]
  exact abs_timestampUs_sub_timestampUs_le before.executes before.few hle before.last_lt

/-- A start that is 101 numbers below is more than a second earlier. -/
lemma toldApart_of_far (h : after.first + 101 ≤ before.last) : ToldApart before after := by
  have hapart := abs_le.mp (abs_readTimestamp_sub_le (by omega : after.first ≤ before.last))
  have hfar : (after.first : ℝ) + 101 ≤ before.last := by exact_mod_cast h
  right
  rw [(readTimestamp_eq after.executes after.few after.first_lt).2]
  have : (readTimestamp after.faultFlags after.first : ℝ) + 1000000 <
      readTimestamp before.faultFlags before.last := by linarith [hapart.1]
  exact_mod_cast this

/-- One that is more than a second earlier is 100 numbers below. -/
lemma ToldApart.far (h : ToldApart before after) :
    after.first = 0 ∧ before.last ≠ 0 ∨ after.first + 100 ≤ before.last := by
  rcases h with hzero | hclock
  · exact Or.inl hzero
  · right
    rw [(readTimestamp_eq after.executes after.few after.first_lt).2] at hclock
    by_contra hnear
    rcases Nat.lt_or_ge after.first before.last with hlt | hle
    · have hapart := abs_le.mp (abs_readTimestamp_sub_le hlt.le)
      have hnear' : (before.last : ℝ) ≤ after.first + 99 := by
        exact_mod_cast (by omega : before.last ≤ after.first + 99)
      have : (readTimestamp after.faultFlags after.first : ℝ) + 1000000 <
          readTimestamp before.faultFlags before.last := by exact_mod_cast hclock
      linarith [hapart.2]
    · -- It would be of a later time.
      have hlt := lt_of_le_of_lt hle after.first_lt
      have hmono := timestampUs_le after.executes after.few hle after.first_lt
      rw [(readTimestamp_eq before.executes before.few before.last_lt).1,
        (readTimestamp_eq after.executes after.few after.first_lt).1,
        timestampUs_congr before.executes after.executes before.last_lt hlt] at hclock
      omega

/-- **How far apart flights have to be**: the server tells them apart if the first packet of the
second one that it reads is number 0, unless that is all it has of the first one, or if it is at
least 101 numbers below the last one of the first flight; and not if it is some other number that
is not at least 100 below. -/
theorem toldApart_of_passes (before after : Flight) :
    (after.first = 0 ∧ before.last ≠ 0 ∨ after.first + 101 ≤ before.last →
        ToldApart before after) ∧
      (ToldApart before after →
        after.first = 0 ∧ before.last ≠ 0 ∨ after.first + 100 ≤ before.last) := by
  refine ⟨?_, ToldApart.far⟩
  rintro (hzero | hfar)
  · exact Or.inl hzero
  · exact toldApart_of_far hfar

end Apart

/-- A dozen passes without a fault; the packets of some of them arrive. -/
def dozen (steps : List ℕ) (hordered : steps.Pairwise (· < ·)) (hlt : ∀ i ∈ steps, i < 12)
    (hne : steps ≠ []) : @Flight coarseLibm :=
  let libm := coarseLibm
  { options := {}
    faultFlags := fun _ => 0
    passes := 12
    arrivals := arrivalsOf (fun _ => 0) (fun _ => 0) steps
    executes := by
      show ∀ i < 12, _
      decide +kernel
    few := by norm_num
    reaches :=
      have h : Arrives {} (fun _ => 0) 12 (arrivalsOf (fun _ => 0) (fun _ => 0) steps) :=
        arrives_arrivalsOf _ (by norm_num) hordered fun i hi => ⟨hlt i hi, Or.inl rfl, Or.inl rfl⟩
      ⟨h.ordered, h.sent⟩
    heard := by
      intro h
      have hnone := List.filter_eq_nil_iff.mp h
      obtain ⟨i, hi⟩ := List.exists_mem_of_ne_nil steps hne
      exact hnone _ (List.mem_map_of_mem hi) rfl }

lemma steps_dozen (steps : List ℕ) (hordered : steps.Pairwise (· < ·))
    (hlt : ∀ i ∈ steps, i < 12) (hne : steps ≠ []) :
    @Flight.steps coarseLibm (dozen steps hordered hlt hne) = steps := by
  let libm := coarseLibm
  have hintact : intact {} (arrivalsOf (fun _ => 0) (fun _ => 0) steps) =
      arrivalsOf (fun _ => 0) (fun _ => 0) steps :=
    List.filter_eq_self.mpr fun arrival _ => rfl
  show (intact {} (arrivalsOf (fun _ => 0) (fun _ => 0) steps)).map Arrival.step = steps
  rw [hintact, map_step_arrivalsOf]

/-- The second flight begins with packet 0, at which the server resets; the third one with packet 7,
too late to be noticed. -/
theorem flights_told_apart_dozens :
    let first := dozen [3, 8, 11] (by decide) (by decide) (by decide)
    let second := dozen [0, 5] (by decide) (by decide) (by decide)
    let third := dozen [7] (by decide) (by decide) (by decide)
    resets 4 ([first, second, third].flatMap (@Flight.datagrams coarseLibm)) ≤ 2 ∧
      (∃ datagram rest, @Flight.datagrams coarseLibm second = [] ++ datagram :: rest ∧
        resets 4 ([first].flatMap (@Flight.datagrams coarseLibm) ++ ([] ++ [datagram])) ≠
          resets 4 ([first].flatMap (@Flight.datagrams coarseLibm) ++ []) ∧
        datagram.sample?.isSome) ∧
      (run 4 ([first, second].flatMap (@Flight.datagrams coarseLibm))).metrics.lost = 4 ∧
      resets 4 ([first, second].flatMap (@Flight.datagrams coarseLibm) ++
        @Flight.datagrams coarseLibm third) = 1 := by
  intro first second third
  let libm := coarseLibm
  have lawful := lawful_coarseLibm
  let alone := dozen [0] (by decide) (by decide) (by decide)
  have hfirst : Flight.last first = 11 := by
    have hlast := Flight.getLast?_steps first
    rw [steps_dozen] at hlast
    exact (Option.some_inj.mp hlast).symm
  have hsecond : Flight.first second = 0 ∧ Flight.last second = 5 := by
    have hhead := Flight.head?_steps second
    have hlast := Flight.getLast?_steps second
    rw [steps_dozen] at hhead hlast
    exact ⟨(Option.some_inj.mp hhead).symm, (Option.some_inj.mp hlast).symm⟩
  have halone : Flight.first alone = 0 := by
    have hhead := Flight.head?_steps alone
    rw [steps_dozen] at hhead
    exact (Option.some_inj.mp hhead).symm
  have hthird : Flight.first third = 7 := by
    have hhead := Flight.head?_steps third
    rw [steps_dozen] at hhead
    exact (Option.some_inj.mp hhead).symm
  have htold : ToldApart first second := Or.inl ⟨hsecond.1, by rw [hfirst]; decide⟩
  have htoldAlone : ToldApart first alone := Or.inl ⟨halone, by rw [hfirst]; decide⟩
  have hnot : ¬ToldApart second third := by
    intro htold
    have hfar := htold.far
    rw [hthird, hsecond.2] at hfar
    omega
  have hchain : ([first] ++ [second]).IsChain ToldApart := List.isChain_pair.mpr htold
  have hchainAlone : ([first] ++ [alone]).IsChain ToldApart := List.isChain_pair.mpr htoldAlone
  have hmissing : (missing (Flight.steps second)).card = 4 := by
    rw [steps_dozen]
    decide
  obtain ⟨datagram, rest, hsplit, hsingle⟩ : ∃ datagram rest,
      Flight.datagrams second = [] ++ datagram :: rest ∧ Flight.datagrams alone = [datagram] :=
    ⟨_, _, rfl, rfl⟩
  clear_value first second third alone
  obtain ⟨hbound, honce, htoldApart⟩ := flights_told_apart 4
  obtain ⟨hresetsFirst, -⟩ := htoldApart [] first third (List.isChain_singleton first)
  obtain ⟨hresetsAlone, -⟩ := htoldApart [first] alone third hchainAlone
  obtain ⟨-, -, -, -, hlost, -, hmerged⟩ := htoldApart [first] second third hchain
  have hreset : resets 4 ([first].flatMap Flight.datagrams ++ ([] ++ [datagram])) ≠
      resets 4 ([first].flatMap Flight.datagrams ++ []) := by
    have hdatagrams : [alone].flatMap Flight.datagrams = [datagram] := by
      rw [List.flatMap_singleton, hsingle]
    rw [List.flatMap_append, hdatagrams] at hresetsAlone
    rw [List.nil_append] at hresetsFirst ⊢
    rw [List.append_nil, hresetsAlone, hresetsFirst, List.length_singleton, List.length_nil]
    exact one_ne_zero
  have hread := ((honce [first] second).2 [] datagram rest hsplit hreset).1
  have hresets := (hmerged hnot).1
  rw [List.length_singleton] at hresets
  exact ⟨hbound [first, second, third], ⟨datagram, rest, hsplit, hreset, hread⟩,
    hlost.trans hmissing, hresets⟩

end FlightDeck.System
