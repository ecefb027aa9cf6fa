import FlightDeck.Server.Telemetry
import Mathlib.Algebra.Order.Floor.Div

set_option relaxedAutoImplicit false
set_option autoImplicit false

/-!
# Which samples the dashboard keeps

The functions of `dashboard/src/telemetry-utils.ts` that decide what is displayed.

## Main definitions

* `startsNewFlight`, `shouldRetainSample` — the tests made of a sample and the one before it.
* `displaySamples` — what is kept of a whole history.
* `chartSamples` — what is drawn of it.
-/

namespace FlightDeck.Dashboard

open Server

/-- `startsNewFlight`. -/
def startsNewFlight (previous : Option TelemetrySample) (current : TelemetrySample) : Bool :=
  match previous with
  | none => false
  | some previous =>
    let sequenceRestarted := current.sequence == 0 && previous.sequence != 0
    let simulationClockRestarted : Bool :=
      numberAdd current.timestampUs 1000000 < previous.timestampUs
    sequenceRestarted || simulationClockRestarted

/-- The default of the parameter `stride`. -/
def defaultStride : ℕ := 5

/-- `shouldRetainSample`. -/
def shouldRetainSample (previous : Option TelemetrySample) (current : TelemetrySample)
    (stride : ℕ) : Bool :=
  match previous with
  | none => true
  | some previous =>
    current.sequence % stride == 0 || current.missionPhase != previous.missionPhase ||
      current.faultFlags != previous.faultFlags || current.missionPhase == .landed

/-- The body of the loop of `displaySamples`. Each sample comes with its index in the message,
which tells it from an equal one: `!==` compares objects. -/
def retain (stride : ℕ) (retained : List (TelemetrySample × ℕ)) (sample : TelemetrySample × ℕ) :
    List (TelemetrySample × ℕ) :=
  if shouldRetainSample (retained.getLast?.map Prod.fst) sample.1 stride then retained ++ [sample]
  else retained

/-- `displaySamples`. -/
def displaySamples (samples : List TelemetrySample) (stride : ℕ) : List TelemetrySample :=
  let retained := samples.zipIdx.foldl (retain stride) []
  let retained :=
    match samples.zipIdx.getLast? with
    | none => retained
    | some latest => if retained.getLast? ≠ some latest then retained ++ [latest] else retained
  retained.map Prod.fst

/-- `chartSamples`. Here too each sample comes with its index. The quotient of two numbers below
`2 ^ 32`, as lengths of arrays are, is rounded to a whole number only if it is one, so rounding
it up is the division that rounds up. -/
def chartSamples (samples : List TelemetrySample) (maximum : ℕ) : List TelemetrySample :=
  if samples.length ≤ maximum then samples
  else
    let stride := samples.length ⌈/⌉ maximum
    let result := samples.zipIdx.filter fun sample => sample.2 % stride == 0
    let result :=
      match samples.zipIdx.getLast? with
      | none => result
      | some latest => if result.getLast? ≠ some latest then result ++ [latest] else result
    result.map Prod.fst

end FlightDeck.Dashboard
