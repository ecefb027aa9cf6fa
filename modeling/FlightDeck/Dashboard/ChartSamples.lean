import FlightDeck.Dashboard.CurrentFlight
import FlightDeck.Lib.Stride

set_option relaxedAutoImplicit false
set_option autoImplicit false

/-!
# What is drawn of a flight

The charts and the trajectory show a thinned out history, of at most one sample more than asked
for. The trajectory is drawn by `TrajectoryTrail` of `dashboard/src/RocketView.tsx` into a buffer
of fixed size, which would drop the oldest points of a longer one.

## Main definitions

* `chartPositions` — the positions of the samples that `chartSamples` keeps.
* `trajectory`, `TrajectoryTrail.drawn` — the points of the trajectory, and those drawn.

## Main results

* `map_some_chartSamples` — `chartSamples` keeps the samples at these positions.
* `chartSamples_covers` — they cover the history, and all of the trajectory is drawn.
-/

namespace FlightDeck.Dashboard

open Server

/-! ## The samples of a chart -/

/-- The positions of the samples that `chartSamples` keeps, in a history of `length` samples. -/
def chartPositions (length maximum : ℕ) : List ℕ :=
  if length ≤ maximum then List.range length
  else Stride.withLast length (Stride.multiples (length ⌈/⌉ maximum) length)

/-- The indices of a list are its positions. -/
lemma map_snd_zipIdx {α : Type*} (l : List α) : l.zipIdx.map Prod.snd = List.range l.length := by
  rw [List.zipIdx_map_snd, List.range_eq_range']

/-- The element that comes with an index. -/
lemma getElem?_of_mem_zipIdx {α : Type*} {l : List α} {x : α × ℕ} (h : x ∈ l.zipIdx) :
    l[x.2]? = some x.1 := List.mk_mem_zipIdx_iff_getElem?.mp h

/-- The indexed samples that `chartSamples` keeps. -/
lemma exists_chartSamples (samples : List TelemetrySample) (maximum : ℕ) :
    ∃ kept : List (TelemetrySample × ℕ), chartSamples samples maximum = kept.map Prod.fst ∧
      kept.map Prod.snd = chartPositions samples.length maximum ∧
      ∀ sample ∈ kept, sample ∈ samples.zipIdx := by
  unfold chartSamples chartPositions
  split_ifs with hshort
  · exact ⟨samples.zipIdx, (List.zipIdx_map_fst 0 samples).symm, map_snd_zipIdx samples,
      fun _ h => h⟩
  · obtain ⟨front, latest, rfl⟩ : ∃ front latest, samples = front ++ [latest] := by
      rcases List.eq_nil_or_concat samples with rfl | ⟨front, latest, rfl⟩
      · simp at hshort
      · exact ⟨front, latest, List.concat_eq_append⟩
    set samples := front ++ [latest] with hsamples
    set stride := samples.length ⌈/⌉ maximum
    set result := samples.zipIdx.filter fun sample => sample.2 % stride == 0 with hresult
    have hindices : result.map Prod.snd = Stride.multiples stride samples.length := by
      rw [Stride.multiples, ← map_snd_zipIdx, List.filter_map]
      rfl
    have hmem : ∀ sample ∈ result, sample ∈ samples.zipIdx := fun _ => List.mem_of_mem_filter
    have hlast : samples.zipIdx.getLast? = some (latest, samples.length - 1) := by
      simp [hsamples, List.zipIdx_append]
    -- The last sample kept is the latest one if it has the last index.
    have hsame : result.getLast? = some (latest, samples.length - 1) ↔
        (Stride.multiples stride samples.length).getLast? = some (samples.length - 1) := by
      rw [← hindices, List.getLast?_map]
      constructor
      · intro heq
        rw [heq]
        rfl
      · intro heq
        obtain ⟨⟨sample, index⟩, hkept, rfl⟩ := Option.map_eq_some_iff.mp heq
        have hsample := getElem?_of_mem_zipIdx (hmem _ (List.mem_of_getLast? hkept))
        have hlatest := getElem?_of_mem_zipIdx (List.mem_of_getLast? hlast)
        obtain rfl : sample = latest := Option.some_inj.mp (hsample.symm.trans hlatest)
        exact hkept
    simp only [hlast, ← hresult]
    by_cases hfull : result.getLast? = some (latest, samples.length - 1)
    · rw [if_neg (not_not.mpr hfull), Stride.withLast, if_neg (not_not.mpr (hsame.mp hfull))]
      exact ⟨result, rfl, hindices, hmem⟩
    · rw [if_pos hfull, Stride.withLast, if_pos (hsame.not.mp hfull)]
      refine ⟨result ++ [(latest, samples.length - 1)], rfl, ?_, ?_⟩
      · rw [List.map_append, hindices]
        rfl
      · rw [List.forall_mem_append, List.forall_mem_singleton]
        exact ⟨hmem, List.mem_of_getLast? hlast⟩

/-- **What a chart shows**: the samples at the positions kept. -/
lemma map_some_chartSamples (samples : List TelemetrySample) (maximum : ℕ) :
    (chartSamples samples maximum).map some =
      (chartPositions samples.length maximum).map (samples[·]?) := by
  obtain ⟨kept, hsamples, hpositions, hmem⟩ := exists_chartSamples samples maximum
  rw [hsamples, ← hpositions, List.map_map, List.map_map]
  refine List.map_congr_left fun sample hsample => ?_
  exact (getElem?_of_mem_zipIdx (hmem sample hsample)).symm

variable {maximum : ℕ}

/-- The positions kept cover the history. -/
lemma covers_chartPositions (h : 0 < maximum) (length : ℕ) :
    Stride.Covers length (length ⌈/⌉ maximum) (chartPositions length maximum) := by
  have hstride : 0 < length → 0 < length ⌈/⌉ maximum := fun hlength =>
    Nat.pos_of_mul_pos_left (hlength.trans_le (le_smul_ceilDiv h))
  unfold chartPositions
  split_ifs with hshort
  · exact Stride.covers_range hstride
  · have hlength : 0 < length := by omega
    exact Stride.covers_withLast_multiples (hstride hlength) hlength

/-- There is at most one more of them than asked for. -/
lemma length_chartPositions_le (h : 0 < maximum) (length : ℕ) :
    (chartPositions length maximum).length ≤ maximum + 1 := by
  unfold chartPositions
  split_ifs with hshort
  · rw [List.length_range]
    omega
  · have hlength : 0 < length := by omega
    have hstride : 0 < length ⌈/⌉ maximum :=
      Nat.pos_of_mul_pos_left (hlength.trans_le (le_smul_ceilDiv h))
    refine (Stride.length_withLast_le _ _).trans (Nat.add_le_add_right ?_ 1)
    rw [Stride.length_multiples hstride]
    exact Stride.ceilDiv_ceilDiv_le h hlength

lemma length_chartSamples (samples : List TelemetrySample) (maximum : ℕ) :
    (chartSamples samples maximum).length = (chartPositions samples.length maximum).length := by
  simpa using congrArg List.length (map_some_chartSamples samples maximum)

/-! ## The trajectory -/

/-- `MAX_TRAIL_POINTS`. -/
def MAX_TRAIL_POINTS : ℕ := 512

/-- `trajectory` in `App`, the points that are passed on to the view. -/
def trajectory (samples : List TelemetrySample) : List (Fin 3 → BitVec 64) :=
  (chartSamples samples 500).map TelemetrySample.positionM

/-- The points that `TrajectoryTrail` writes into its buffer and draws. -/
def TrajectoryTrail.drawn {Position : Type*} (positions : List Position) : List Position :=
  let count := min positions.length MAX_TRAIL_POINTS
  let offset := positions.length - count
  (List.range count).filterMap fun index => positions[offset + index]?

/-- No more points than fit are all drawn. -/
lemma drawn_eq_self {Position : Type*} {positions : List Position}
    (h : positions.length ≤ MAX_TRAIL_POINTS) : TrajectoryTrail.drawn positions = positions := by
  have hrange : (List.range positions.length).map (positions[·]?) = positions.map some := by
    apply List.ext_getElem
    · simp
    · intro i _ hi
      rw [List.length_map] at hi
      simp [hi]
  simp only [TrajectoryTrail.drawn, min_eq_left h, Nat.sub_self, Nat.zero_add]
  calc (List.range positions.length).filterMap (positions[·]?)
      = ((List.range positions.length).map (positions[·]?)).filterMap id := by
        rw [List.filterMap_map]
        rfl
    _ = positions := by rw [hrange, List.filterMap_map]; simp

/-- **Charts cover the flight.** Whatever the history and the number of samples asked for, the
samples kept are those at positions that increase; the first and the newest one are among them if
there is any; there is at most one more than asked for; and from one to the next there are no
more than `length / maximum` positions, rounded up.

So the trajectory of 500 points fits the buffer of 512, and all of it is drawn. -/
theorem chartSamples_covers (h : 1 ≤ maximum) (samples : List TelemetrySample) :
    (∃ positions : List ℕ,
      (chartSamples samples maximum).map some = positions.map (samples[·]?) ∧
        positions.Pairwise (· < ·) ∧
        (samples ≠ [] →
          positions.head? = some 0 ∧ positions.getLast? = some (samples.length - 1)) ∧
        positions.IsChain fun i j => j - i ≤ samples.length ⌈/⌉ maximum) ∧
      (chartSamples samples maximum).length ≤ maximum + 1 ∧
      (trajectory samples).length ≤ MAX_TRAIL_POINTS ∧
      TrajectoryTrail.drawn (trajectory samples) = trajectory samples := by
  have hcovers := covers_chartPositions h samples.length
  have htrajectory : (trajectory samples).length ≤ MAX_TRAIL_POINTS := by
    have hle := length_chartPositions_le (show 0 < 500 by decide) samples.length
    rw [trajectory, List.length_map, length_chartSamples]
    exact hle.trans (by decide)
  refine ⟨⟨_, map_some_chartSamples samples maximum, hcovers.increasing, ?_, ?_⟩, ?_,
    htrajectory, drawn_eq_self htrajectory⟩
  · intro hne
    have hpos := List.length_pos_iff.mpr hne
    exact ⟨hcovers.first hpos, hcovers.last hpos⟩
  · refine hcovers.gaps.imp ?_
    intro i j hij
    omega
  · rw [length_chartSamples]
    exact length_chartPositions_le h samples.length

/-- Seven samples and a chart of three: the first one, every third one and the last one. -/
theorem chartSamples_covers_seven :
    (chartSamples (List.replicate 7 UseTelemetry.padSample) 3).length ≤ 4 :=
  (chartSamples_covers (by decide) (List.replicate 7 UseTelemetry.padSample)).2.1

end FlightDeck.Dashboard
