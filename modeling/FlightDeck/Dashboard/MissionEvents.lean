import FlightDeck.Dashboard.Retention
import FlightDeck.Lib.JsInt

set_option relaxedAutoImplicit false
set_option autoImplicit false

/-!
# Mission events

The events that `dashboard/src/mission-events.ts` derives from the samples on the screen: one at
each change of the mission phase and one for each fault bit that changes. The samples on the
screen are thinned out, but only where neither phase nor faults change, so the thinned stream
has the events of the full one. The one thing it may get wrong is what it says of a touchdown:
this is read from the sample before it, and the last sample kept may be an older one.

## Main definitions

* `deriveMissionEvents` — the events of a list of samples.
* `MissionEvent.Agrees` — equal events, but for what is said of a touchdown.
* `TouchdownsAgree` — what is said of every touchdown is what the full stream says.
* `KeepsTouchdownClass` — the last sample kept before a touchdown is in the class of the last one
  received.

## Main results

* `derive_displaySamples` — thinning out loses no event and adds none.
* `touchdownsAgree_iff` — exactly when what is said of touchdowns is right.
-/

namespace FlightDeck.Dashboard

open Server Decimation

/-! ## Deriving the events -/

/-- The field `category`. -/
inductive EventCategory where
  | phase
  | fault
  deriving DecidableEq

/-- The field `severity`. -/
inductive Severity where
  | info
  | warning
  | critical
  deriving DecidableEq

/-- `MissionEvent`. -/
@[ext]
structure MissionEvent where
  /-- What React tells it by. -/
  id : String
  /-- The time of the sample it is about. -/
  timestampUs : ℕ
  /-- The number of that sample. -/
  sequence : ℕ
  /-- A change of phase or of a fault. -/
  category : EventCategory
  /-- How bad it is. -/
  severity : Severity
  /-- The text shown. -/
  label : String
  deriving DecidableEq

/-- The text that stands for a phase, `missionPhase`. -/
def phaseName : MissionPhase → String
  | .prelaunch => "PRELAUNCH"
  | .poweredAscent => "POWERED_ASCENT"
  | .coast => "COAST"
  | .descent => "DESCENT"
  | .landingBurn => "LANDING_BURN"
  | .landed => "LANDED"

/-- `PHASE_EVENTS`. -/
def PHASE_EVENTS : MissionPhase → Option String
  | .prelaunch => none
  | .poweredAscent => some "LIFTOFF / POWERED ASCENT"
  | .coast => some "MAIN ENGINE CUTOFF"
  | .descent => some "APOGEE / DESCENT INITIATED"
  | .landingBurn => some "LANDING BURN IGNITION"
  | .landed => some "TOUCHDOWN"

/-- An entry of `FAULTS`. -/
structure Fault where
  /-- The bit of `faultFlags`. -/
  mask : ℕ
  /-- Its name. -/
  label : String
  /-- How bad it is while it is active. -/
  severity : Severity

/-- `FAULTS`. -/
def FAULTS : List Fault :=
  [{ mask := 1, label := "THRUSTER LOSS", severity := .critical },
    { mask := 2, label := "SENSOR NOISE", severity := .warning },
    { mask := 4, label := "PACKET LOSS", severity := .warning }]

/-- The label of a touchdown, from the sample before it. -/
def touchdownLabel (previous : TelemetrySample) : String :=
  let touchdownSpeed := (Float.ofBits ⟨previous.truthVelocityMps 2⟩).abs
  if touchdownSpeed ≤ 3 then "SOFT TOUCHDOWN"
  else if touchdownSpeed ≤ 8 then "HARD LANDING"
  else "VEHICLE IMPACT"

/-- The label of a change of phase; there is none for a return to the pad. -/
def phaseLabel (previous sample : TelemetrySample) : Option String :=
  if sample.missionPhase = .landed then some (touchdownLabel previous)
  else PHASE_EVENTS sample.missionPhase

/-- The severity that goes with a label of a change of phase. -/
def phaseSeverity (label : String) : Severity :=
  if label = "HARD LANDING" then .warning
  else if label = "VEHICLE IMPACT" then .critical
  else .info

/-- The `id` of a change of phase. -/
def phaseEventId (sequence : ℕ) (phase : MissionPhase) : String :=
  toString sequence ++ "-phase-" ++ phaseName phase

/-- The event of a change of phase. -/
def phaseEvent (sample : TelemetrySample) (label : String) : MissionEvent where
  id := phaseEventId sample.sequence sample.missionPhase
  timestampUs := sample.timestampUs
  sequence := sample.sequence
  category := .phase
  severity := phaseSeverity label
  label := label

/-- The event of a change of phase between two samples. -/
def phaseEvents (previous sample : TelemetrySample) : List MissionEvent :=
  if sample.missionPhase ≠ previous.missionPhase then
    match phaseLabel previous sample with
    | none => []
    | some label => [phaseEvent sample label]
  else []

/-- The events of the faults that change between two samples. -/
def faultEvents (previous sample : TelemetrySample) : List MissionEvent :=
  let changed := JsInt.xor previous.faultFlags sample.faultFlags
  FAULTS.filterMap fun fault =>
    if JsInt.and changed fault.mask = 0 then none
    else
      let active := JsInt.and sample.faultFlags fault.mask ≠ 0
      some {
        id := toString sample.sequence ++ "-fault-" ++ toString fault.mask
        timestampUs := sample.timestampUs
        sequence := sample.sequence
        category := .fault
        severity := if active then fault.severity else .info
        label := fault.label ++ " " ++ if active then "ACTIVE" else "CLEARED" }

/-- The body of the loop: the events of a sample, given the one before it. -/
def sampleEvents (previous : Option TelemetrySample) (sample : TelemetrySample) :
    List MissionEvent :=
  match previous with
  | none => []
  | some previous => phaseEvents previous sample ++ faultEvents previous sample

/-- `deriveMissionEvents`. -/
def deriveMissionEvents (samples : List TelemetrySample) : List MissionEvent :=
  (samples.foldl
    (fun (now : List MissionEvent × Option TelemetrySample) sample =>
      (now.1 ++ sampleEvents now.2 sample, some sample)) ([], none)).1

/-- The events are those observed along the stream. -/
lemma deriveMissionEvents_eq (samples : List TelemetrySample) :
    deriveMissionEvents samples = along sampleEvents none samples := by
  rw [deriveMissionEvents, foldl_observe, List.nil_append]

/-! ## What the events depend on -/

/-- Faults that do not change make no event. -/
lemma faultEvents_of_eq {previous sample : TelemetrySample}
    (h : previous.faultFlags = sample.faultFlags) : faultEvents previous sample = [] := by
  have hchanged : JsInt.xor previous.faultFlags sample.faultFlags = 0 := by
    rw [h, JsInt.xor, BitVec.xor_self]
    rfl
  have hand : ∀ mask : ℕ, JsInt.and 0 mask = 0 := by
    intro mask
    rw [JsInt.and, show JsInt.bits 0 = 0#32 from rfl, BitVec.zero_and]
    rfl
  simp [faultEvents, hchanged, hand]

/-- Between samples with the same phase and faults there is no event. -/
lemma sampleEvents_of_key_eq {previous : Option TelemetrySample} {sample : TelemetrySample}
    (h : previous.map retentionKey = some (retentionKey sample)) :
    sampleEvents previous sample = [] := by
  cases previous with
  | none => rfl
  | some previous =>
    obtain ⟨hphase, hfaults⟩ := Prod.mk.inj (Option.some_inj.mp h)
    rw [sampleEvents, faultEvents_of_eq hfaults, phaseEvents, if_neg (by simp [hphase])]
    rfl

/-- The event of a touchdown. -/
def MissionEvent.IsTouchdown (event : MissionEvent) : Prop :=
  event.category = .phase ∧ event.id = phaseEventId event.sequence .landed

instance (event : MissionEvent) : Decidable event.IsTouchdown :=
  inferInstanceAs (Decidable (_ ∧ _))

/-- Two events agree: they are equal, but for what is said of a touchdown. -/
structure MissionEvent.Agrees (event other : MissionEvent) : Prop where
  /-- The same id. -/
  id : event.id = other.id
  /-- The same time. -/
  timestampUs : event.timestampUs = other.timestampUs
  /-- The same sample. -/
  sequence : event.sequence = other.sequence
  /-- The same category. -/
  category : event.category = other.category
  /-- The same label, touchdowns apart. -/
  label : ¬ event.IsTouchdown → event.label = other.label
  /-- The same severity, touchdowns apart. -/
  severity : ¬ event.IsTouchdown → event.severity = other.severity

/-- Events agree with themselves. -/
lemma agree_refl (events : List MissionEvent) : List.Forall₂ MissionEvent.Agrees events events :=
  List.forall₂_same.mpr fun _ _ => ⟨rfl, rfl, rfl, rfl, fun _ => rfl, fun _ => rfl⟩

/-- The event of a touchdown takes its label from the sample before it. -/
lemma phaseEvents_of_touchdown {previous sample : TelemetrySample}
    (hprevious : previous.missionPhase ≠ .landed) (hsample : sample.missionPhase = .landed) :
    phaseEvents previous sample = [phaseEvent sample (touchdownLabel previous)] := by
  rw [phaseEvents, phaseLabel, if_pos hsample, hsample, if_pos hprevious.symm]

/-- Nothing but the label of a touchdown is taken from the earlier sample beyond its phase. -/
lemma phaseEvents_congr {previous other sample : TelemetrySample}
    (hphase : previous.missionPhase = other.missionPhase)
    (hlabel : sample.missionPhase = .landed → previous.missionPhase ≠ .landed →
      touchdownLabel previous = touchdownLabel other) :
    phaseEvents previous sample = phaseEvents other sample := by
  rcases eq_or_ne sample.missionPhase .landed with hlanded | hlanded
  · rcases eq_or_ne previous.missionPhase .landed with hprevious | hprevious
    · rw [phaseEvents, phaseEvents, ← hphase, hlanded, hprevious, if_neg (by simp),
        if_neg (by simp)]
    · rw [phaseEvents_of_touchdown hprevious hlanded,
        phaseEvents_of_touchdown (hphase ▸ hprevious) hlanded, hlabel hlanded hprevious]
  · rw [phaseEvents, phaseEvents, phaseLabel, phaseLabel, if_neg hlanded, if_neg hlanded, hphase]

/-- Touchdown events of one sample agree, whatever they say. -/
lemma phaseEvent_agrees {sample : TelemetrySample} (h : sample.missionPhase = .landed)
    (label other : String) : (phaseEvent sample label).Agrees (phaseEvent sample other) := by
  have hmark : (phaseEvent sample label).IsTouchdown := ⟨rfl, by simp only [phaseEvent, h]⟩
  exact ⟨rfl, rfl, rfl, rfl, absurd hmark, absurd hmark⟩

/-- Earlier samples in the same phase lead to events that agree. -/
lemma phaseEvents_agree {previous other : TelemetrySample} (sample : TelemetrySample)
    (hphase : previous.missionPhase = other.missionPhase) :
    List.Forall₂ MissionEvent.Agrees (phaseEvents previous sample) (phaseEvents other sample) := by
  by_cases htouchdown : sample.missionPhase = .landed ∧ previous.missionPhase ≠ .landed
  · obtain ⟨hlanded, hprevious⟩ := htouchdown
    rw [phaseEvents_of_touchdown hprevious hlanded,
      phaseEvents_of_touchdown (hphase ▸ hprevious) hlanded]
    exact List.Forall₂.cons (phaseEvent_agrees hlanded _ _) List.Forall₂.nil
  · rw [phaseEvents_congr hphase fun hlanded hprevious => absurd ⟨hlanded, hprevious⟩ htouchdown]
    exact agree_refl _

/-- Earlier samples with the same phase and faults lead to events that agree. -/
lemma sampleEvents_agree {previous other : Option TelemetrySample} (sample : TelemetrySample)
    (h : previous.map retentionKey = other.map retentionKey) :
    List.Forall₂ MissionEvent.Agrees (sampleEvents previous sample) (sampleEvents other sample) := by
  cases previous <;> cases other
  case none.none => exact List.Forall₂.nil
  case none.some => cases h
  case some.none => cases h
  case some.some previous other =>
    obtain ⟨hphase, hfaults⟩ := Prod.mk.inj (Option.some_inj.mp h)
    have hfaultEvents : faultEvents previous sample = faultEvents other sample := by
      rw [faultEvents, faultEvents, hfaults]
    rw [sampleEvents, sampleEvents, hfaultEvents]
    exact List.rel_append (phaseEvents_agree sample hphase) (agree_refl _)

/-- They lead to the same events if a touchdown has the same label. -/
lemma sampleEvents_congr {previous other sample : TelemetrySample}
    (h : some (retentionKey previous) = some (retentionKey other))
    (hlabel : sample.missionPhase = .landed → previous.missionPhase ≠ .landed →
      touchdownLabel previous = touchdownLabel other) :
    sampleEvents (some previous) sample = sampleEvents (some other) sample := by
  obtain ⟨hphase, hfaults⟩ := Prod.mk.inj (Option.some_inj.mp h)
  rw [sampleEvents, sampleEvents, phaseEvents_congr hphase hlabel, faultEvents, faultEvents, hfaults]

/-! ## Thinning out -/

/-- The last sample of a list makes no event unless the rule keeps it, so that `displaySamples`
appends it makes no difference. -/
lemma deriveMissionEvents_displaySamples (samples : List TelemetrySample) (stride : ℕ) :
    deriveMissionEvents (displaySamples samples stride) =
      along sampleEvents none (thin (retains stride) none samples) := by
  rcases List.eq_nil_or_concat samples with rfl | ⟨samples, latest, rfl⟩
  · rfl
  rw [List.concat_eq_append, deriveMissionEvents_eq, displaySamples_concat, thin_append]
  cases hkeep : retains stride (samples.getLast?.or none) latest with
  | true => rw [thin_cons_of_keep hkeep, thin_nil]
  | false =>
    have hkey := (keepsChanges_retains stride).getLast?_thin none samples
    have hquiet := sampleEvents_of_key_eq
      (hkey.trans ((keepsChanges_retains stride).of_drop hkeep))
    rw [thin_cons_of_drop hkeep, thin_nil, List.append_nil, along_append, along, hquiet]
    simp [along]

/-- What is kept makes the events of the whole, but for what is said of touchdowns. -/
lemma along_thin_agrees (samples : List TelemetrySample) (stride : ℕ) :
    List.Forall₂ MissionEvent.Agrees
      (along sampleEvents none (thin (retains stride) none samples))
      (along sampleEvents none samples) :=
  along_thin (keepsChanges_retains stride) sampleEvents_of_key_eq sampleEvents_agree rfl samples

/-- **Thinning out loses no event and adds none**: whatever the stride, the samples on the screen
have the events of the full list, in the same order, equal but for what is said of touchdowns. -/
theorem derive_displaySamples (samples : List TelemetrySample) (stride : ℕ) :
    List.Forall₂ MissionEvent.Agrees (deriveMissionEvents (displaySamples samples stride))
      (deriveMissionEvents samples) := by
  rw [deriveMissionEvents_displaySamples, deriveMissionEvents_eq]
  exact along_thin_agrees samples stride

/-! ## Touchdowns -/

/-- Every touchdown on the screen has the label and the severity it has in the full list. -/
def TouchdownsAgree (samples : List TelemetrySample) (stride : ℕ) : Prop :=
  ∀ (k : ℕ) (event full : MissionEvent),
    (deriveMissionEvents (displaySamples samples stride))[k]? = some event →
    (deriveMissionEvents samples)[k]? = some full → event.IsTouchdown →
      event.label = full.label ∧ event.severity = full.severity

/-- Before every touchdown, the last sample received has its speed in the class of the last one
kept: none of those in between is kept. -/
def KeepsTouchdownClass (samples : List TelemetrySample) (stride : ℕ) : Prop :=
  ∀ before kept dropped landing after,
    samples = before ++ kept :: (dropped ++ landing :: after) →
      shouldRetainSample before.getLast? kept stride = true →
        (∀ sample ∈ dropped, shouldRetainSample (some kept) sample stride = false) →
          kept.missionPhase ≠ .landed → landing.missionPhase = .landed →
            ∀ last ∈ dropped.getLast?, touchdownLabel kept = touchdownLabel last

/-- What is said of touchdowns is all that may be wrong. -/
lemma touchdownsAgree_iff_eq (samples : List TelemetrySample) (stride : ℕ) :
    TouchdownsAgree samples stride ↔
      deriveMissionEvents (displaySamples samples stride) = deriveMissionEvents samples := by
  constructor
  · intro h
    have hagree := along_thin_agrees samples stride
    rw [← deriveMissionEvents_displaySamples, ← deriveMissionEvents_eq] at hagree
    refine List.ext_getElem hagree.length_eq fun k hk hk' => ?_
    obtain ⟨hid, htimestampUs, hsequence, hcategory, hlabel, hseverity⟩ := hagree.get hk hk'
    have hwords : (deriveMissionEvents (displaySamples samples stride))[k].label =
          (deriveMissionEvents samples)[k].label ∧
        (deriveMissionEvents (displaySamples samples stride))[k].severity =
          (deriveMissionEvents samples)[k].severity := by
      by_cases htouchdown : (deriveMissionEvents (displaySamples samples stride))[k].IsTouchdown
      · exact h k _ _ (List.getElem?_eq_getElem hk) (List.getElem?_eq_getElem hk') htouchdown
      · exact ⟨hlabel htouchdown, hseverity htouchdown⟩
    exact MissionEvent.ext hid htimestampUs hsequence hcategory hwords.2 hwords.1
  · intro h k event full hevent hfull _
    rw [h, hfull] at hevent
    obtain rfl : full = event := Option.some_inj.mp hevent
    exact ⟨rfl, rfl⟩

/-- **When touchdowns are classified right**: exactly if before every touchdown the last sample
that the rule keeps is in the class of the last one received.

**Proof sketch.** Thinning changes no event exactly if at every sample the last one kept leads to
the same events as the neighbour. The two have the same phase and faults, so only a touchdown can
tell them apart, and only by its label. -/
theorem touchdownsAgree_iff (samples : List TelemetrySample) (stride : ℕ) :
    TouchdownsAgree samples stride ↔ KeepsTouchdownClass samples stride := by
  have hrule := keepsChanges_retains stride
  rw [touchdownsAgree_iff_eq, deriveMissionEvents_displaySamples, deriveMissionEvents_eq,
    along_thin_eq_iff hrule sampleEvents_of_key_eq
      (fun sample h => (sampleEvents_agree sample h).length_eq) rfl]
  constructor
  · intro h before kept dropped landing after hsamples hkept hdropped hairborne hlanding last hlast
    have hlastKept : (thin (retains stride) none (before ++ kept :: dropped)).getLast? =
        some kept :=
      (hrule.getLast?_thin_eq_some_iff none _ kept).mpr
        ⟨before, dropped, rfl, by rwa [Option.or_none], hdropped⟩
    have hlastSeen : (before ++ kept :: dropped).getLast? = some last := by
      rw [List.getLast?_append, getLast?_cons_or, Option.mem_def.mp hlast]
      rfl
    have hphase : last.missionPhase ≠ .landed := by
      have hkey := hrule.of_drop (hdropped last (List.mem_of_getLast? hlast))
      rw [← (Prod.mk.inj (Option.some_inj.mp hkey)).1]
      exact hairborne
    have hevents := h (before ++ kept :: dropped) landing after (by rw [hsamples]; simp)
    rw [hlastKept, hlastSeen, Option.some_or, Option.some_or, sampleEvents, sampleEvents,
      phaseEvents_of_touchdown hairborne hlanding, phaseEvents_of_touchdown hphase hlanding]
      at hevents
    exact congrArg MissionEvent.label (List.cons.inj hevents).1
  · intro hclass before landing after hsamples
    rw [Option.or_none, Option.or_none]
    have hkeys := hrule.getLast?_thin none before
    rw [Option.or_none, Option.or_none] at hkeys
    cases hkept : (thin (retains stride) none before).getLast? with
    | none =>
      rw [hkept, Option.map_none, eq_comm, Option.map_eq_none_iff] at hkeys
      rw [hkeys]
    | some kept =>
      obtain ⟨earlier, dropped, rfl, hkeep, hdropped⟩ :=
        (hrule.getLast?_thin_eq_some_iff none before kept).mp hkept
      rw [Option.or_none] at hkeep
      rw [hkept, List.getLast?_append, getLast?_cons_or] at hkeys
      rw [List.getLast?_append, getLast?_cons_or]
      cases hlast : dropped.getLast? with
      | none => rfl
      | some last =>
        rw [hlast] at hkeys
        refine sampleEvents_congr hkeys fun hlanding hairborne => ?_
        exact hclass earlier kept dropped landing after (by rw [hsamples]; simp) hkeep hdropped
          hairborne hlanding last hlast

/-- A packet with a phase and a vertical speed, the latter as a pattern. -/
def verticalSample (sequence : ℕ) (missionPhase : MissionPhase) (speed : BitVec 64) :
    TelemetrySample :=
  { UseTelemetry.padSample with
    sequence
    timestampUs := 10000 * sequence
    missionPhase
    truthVelocityMps := ![0, 0, speed] }

/-- A soft landing: the last packets come down at 3.0625 and 2.96875 m/s. -/
def softLanding : List TelemetrySample :=
  [verticalSample 5 .landingBurn 0xC008800000000000, verticalSample 6 .landingBurn 0xC007C00000000000,
    verticalSample 7 .landed 0]

/-- The packet that tells it is soft is not kept. -/
theorem not_touchdownsAgree_softLanding : ¬ TouchdownsAgree softLanding 5 := by
  rw [touchdownsAgree_iff_eq]
  intro h
  have hlabels := congrArg (List.map MissionEvent.label) h
  revert hlabels
  decide +kernel

end FlightDeck.Dashboard
