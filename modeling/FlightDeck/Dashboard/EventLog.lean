import FlightDeck.Dashboard.MissionEvents

set_option relaxedAutoImplicit false
set_option autoImplicit false

/-!
# The event log

What can be read off the events alone. Those of one fault, one after the other, tell all that
happened to its bit; and the ids tell all events apart, as React needs them to, provided that no
two samples have the same number.

## Main definitions

* `faultBit` — the bit of a fault in a sample.
* `faultEdge`, `applyEvent` — what an event says of a fault.

## Main results

* `filterMap_faultEdge_sampleEvents` — one sample makes one event of a fault if its bit changes.
* `numberedBy_of_mem_sampleEvents` — an id begins with the number of its sample.
* `eventLog_faithful` — the log of faults, and the ids.
-/

namespace FlightDeck.Dashboard

open Server Decimation

/-! ## The bits of the faults -/

/-- `(sample.faultFlags & fault.mask) !== 0`. -/
def faultBit (fault : Fault) (sample : TelemetrySample) : Bool :=
  JsInt.and sample.faultFlags fault.mask ≠ 0

/-- What an event says of a fault: `ACTIVE` or `CLEARED`, and nothing if it is about something
else. -/
def faultEdge (fault : Fault) (event : MissionEvent) : Option Bool :=
  if event.id = toString event.sequence ++ "-fault-" ++ toString fault.mask then
    if event.label = fault.label ++ " ACTIVE" then some true
    else if event.label = fault.label ++ " CLEARED" then some false
    else none
  else none

/-- The bit of a fault after an event. -/
def applyEvent (fault : Fault) (bit : Bool) (event : MissionEvent) : Bool :=
  (faultEdge fault event).getD bit

/-- The masks are single bits. -/
lemma exists_mask_eq_two_pow {fault : Fault} (h : fault ∈ FAULTS) :
    ∃ k < 32, fault.mask = 2 ^ k := by
  simp only [FAULTS, List.mem_cons, List.not_mem_nil, or_false] at h
  rcases h with rfl | rfl | rfl
  · exact ⟨0, by decide, rfl⟩
  · exact ⟨1, by decide, rfl⟩
  · exact ⟨2, by decide, rfl⟩

/-- A fault has changed exactly if its bit has. -/
lemma and_changed_eq_zero_iff {fault : Fault} (h : fault ∈ FAULTS)
    (previous sample : TelemetrySample) :
    JsInt.and (JsInt.xor previous.faultFlags sample.faultFlags) fault.mask = 0 ↔
      faultBit fault previous = faultBit fault sample := by
  obtain ⟨k, hk, hmask⟩ := exists_mask_eq_two_pow h
  simp only [faultBit, hmask, JsInt.and_xor_two_pow_eq_zero _ _ hk, JsInt.and_two_pow_ne_zero _ hk,
    Bool.decide_eq_true]

/-! ## Ids -/

/-- The characters of an id, up to the second dash. -/
lemma toList_id (sequence : ℕ) (kind rest : String) :
    (toString sequence ++ kind ++ rest).toList =
      Nat.toDigits 10 sequence ++ (kind.toList ++ rest.toList) := by
  simp

/-- The digits of a number tell it. -/
lemma toDigits_inj {m n : ℕ} : Nat.toDigits 10 m = Nat.toDigits 10 n ↔ m = n := by
  constructor
  · intro h
    have hnumber := congrArg (fun digits => Nat.ofDigitChars 10 digits 0) h
    simpa only [Nat.ofDigitChars_toDigits (b := 10) (by decide) (by decide)] using hnumber
  · rintro rfl
    rfl

/-- A dash ends the number that an id begins with. -/
lemma eq_of_digits_append_eq {m n : ℕ} {a b : List Char}
    (h : Nat.toDigits 10 m ++ '-' :: a = Nat.toDigits 10 n ++ '-' :: b) : m = n := by
  have hdigits : ∀ (k : ℕ) (rest : List Char),
      (Nat.toDigits 10 k ++ '-' :: rest).takeWhile Char.isDigit = Nat.toDigits 10 k := by
    intro k rest
    rw [List.takeWhile_append_of_pos fun c hc =>
      Nat.isDigit_of_mem_toDigits (by decide) (by decide) hc]
    simp
  rw [← toDigits_inj, ← hdigits m a, h, hdigits]

/-- Ids with the same number differ in what follows it. -/
lemma id_inj (sequence : ℕ) (kind other rest last : String) :
    toString sequence ++ kind ++ rest = toString sequence ++ other ++ last ↔
      kind ++ rest = other ++ last := by
  rw [← String.toList_inj, toList_id, toList_id, List.append_cancel_left_eq, ← String.toList_append,
    ← String.toList_append, String.toList_inj]

/-- The id of a fault is that of no change of phase. -/
lemma phaseEventId_ne (sequence mask : ℕ) (phase : MissionPhase) :
    phaseEventId sequence phase ≠ toString sequence ++ "-fault-" ++ toString mask := by
  rw [phaseEventId, ne_eq, id_inj, ← String.toList_inj]
  simp

/-- The ids of different masks differ. -/
lemma faultId_inj (sequence mask other : ℕ) :
    toString sequence ++ "-fault-" ++ toString mask =
      toString sequence ++ "-fault-" ++ toString other ↔ mask = other := by
  rw [id_inj, ← String.toList_inj, ← toDigits_inj]
  simp

/-! ## The events of one sample -/

/-- The event of a fault that has changed. -/
def faultEvent (sample : TelemetrySample) (fault : Fault) : MissionEvent where
  id := toString sample.sequence ++ "-fault-" ++ toString fault.mask
  timestampUs := sample.timestampUs
  sequence := sample.sequence
  category := .fault
  severity := if faultBit fault sample then fault.severity else .info
  label := fault.label ++ " " ++ if faultBit fault sample then "ACTIVE" else "CLEARED"

/-- The faults that have changed make events. -/
lemma faultEvents_eq (previous sample : TelemetrySample) :
    faultEvents previous sample =
      (FAULTS.filter fun fault => faultBit fault previous ≠ faultBit fault sample).map
        (faultEvent sample) := by
  rw [faultEvents, ← List.filterMap_eq_map, List.filterMap_filter]
  refine List.filterMap_congr ?_
  intro fault hfault
  by_cases hsame : faultBit fault previous = faultBit fault sample
  · rw [if_pos ((and_changed_eq_zero_iff hfault previous sample).mpr hsame)]
    simp [hsame]
  · have hchanged : decide (faultBit fault previous ≠ faultBit fault sample) = true :=
      decide_eq_true hsame
    rw [if_neg ((and_changed_eq_zero_iff hfault previous sample).not.mpr hsame), if_pos hchanged]
    simp only [Function.comp_apply, faultEvent, faultBit, decide_eq_true_eq]

/-- The events of a change of phase. -/
lemma eq_phaseEvent_of_mem_phaseEvents {previous sample : TelemetrySample} {event : MissionEvent}
    (h : event ∈ phaseEvents previous sample) : ∃ label, event = phaseEvent sample label := by
  unfold phaseEvents at h
  split_ifs at h
  · cases hlabel : phaseLabel previous sample with
    | none => simp [hlabel] at h
    | some label => exact ⟨label, by simpa [hlabel] using h⟩
  · simp at h

/-- A change of phase says nothing of a fault. -/
lemma faultEdge_phaseEvent (fault : Fault) (sample : TelemetrySample) (label : String) :
    faultEdge fault (phaseEvent sample label) = none :=
  if_neg (phaseEventId_ne sample.sequence fault.mask sample.missionPhase)

/-- The event of another fault says nothing of a fault. -/
lemma faultEdge_faultEvent_of_ne {fault other : Fault} (h : other.mask ≠ fault.mask)
    (sample : TelemetrySample) : faultEdge fault (faultEvent sample other) = none :=
  if_neg ((faultId_inj sample.sequence other.mask fault.mask).not.mpr h)

/-- The event of a fault tells its bit. -/
lemma faultEdge_faultEvent_self (fault : Fault) (sample : TelemetrySample) :
    faultEdge fault (faultEvent sample fault) = some (faultBit fault sample) := by
  have hlabel : ∀ text : String, fault.label ++ " " ++ text = fault.label ++ (" " ++ text) :=
    fun text => String.append_assoc
  have hdifferent : fault.label ++ " CLEARED" ≠ fault.label ++ " ACTIVE" := by
    rw [ne_eq, ← String.toList_inj]
    simp
  refine (if_pos rfl).trans ?_
  simp only [faultEvent, hlabel]
  cases faultBit fault sample with
  | true => exact if_pos rfl
  | false => exact (if_neg hdifferent).trans (if_pos rfl)

/-- **Step lemma**: a sample makes one event of a fault if its bit has changed, which tells the new
one, and none otherwise. -/
lemma filterMap_faultEdge_sampleEvents {fault : Fault} (h : fault ∈ FAULTS)
    (previous sample : TelemetrySample) :
    (sampleEvents (some previous) sample).filterMap (faultEdge fault) =
      if faultBit fault previous ≠ faultBit fault sample then [faultBit fault sample] else [] := by
  have hphase : (phaseEvents previous sample).filterMap (faultEdge fault) = [] := by
    rw [List.filterMap_eq_nil_iff]
    intro event hevent
    obtain ⟨label, rfl⟩ := eq_phaseEvent_of_mem_phaseEvents hevent
    exact faultEdge_phaseEvent fault sample label
  have hothers : ∀ faults : List Fault, (∀ other ∈ faults, other.mask ≠ fault.mask) →
      (faults.map (faultEvent sample)).filterMap (faultEdge fault) = [] := by
    intro faults hfaults
    rw [List.filterMap_map, List.filterMap_eq_nil_iff]
    exact fun other hother => faultEdge_faultEvent_of_ne (hfaults other hother) sample
  -- The fault stands in the table once, between others with other masks.
  obtain ⟨before, after, hsplit, hbefore, hafter⟩ : ∃ before after,
      FAULTS = before ++ fault :: after ∧ (∀ other ∈ before, other.mask ≠ fault.mask) ∧
        ∀ other ∈ after, other.mask ≠ fault.mask := by
    simp only [FAULTS, List.mem_cons, List.not_mem_nil, or_false] at h
    rcases h with rfl | rfl | rfl
    · exact ⟨[], _, rfl, by simp, by simp⟩
    · exact ⟨[_], [_], rfl, by simp, by simp⟩
    · exact ⟨[_, _], [], rfl, by simp, by simp⟩
  rw [sampleEvents, List.filterMap_append, hphase, List.nil_append, faultEvents_eq, hsplit,
    List.filter_append, List.map_append, List.filterMap_append,
    hothers _ fun other hother => hbefore other (List.mem_of_mem_filter hother), List.nil_append]
  split_ifs with hchanged
  · rw [List.filter_cons_of_pos (by simpa using hchanged), List.map_cons, List.filterMap_cons,
      faultEdge_faultEvent_self,
      hothers _ fun other hother => hafter other (List.mem_of_mem_filter hother)]
  · rw [List.filter_cons_of_neg (by simpa using hchanged),
      hothers _ fun other hother => hafter other (List.mem_of_mem_filter hother)]

/-! ## The ids of one sample -/

/-- An id begins with a number and a dash. -/
def NumberedBy (id : String) (sequence : ℕ) : Prop :=
  ∃ rest, id.toList = Nat.toDigits 10 sequence ++ '-' :: rest

/-- It tells the number. -/
lemma NumberedBy.unique {id : String} {m n : ℕ} (hm : NumberedBy id m) (hn : NumberedBy id n) :
    m = n := by
  obtain ⟨rest, hrest⟩ := hm
  obtain ⟨last, hlast⟩ := hn
  exact eq_of_digits_append_eq (hrest.symm.trans hlast)

/-- An id begins with the number of its sample. -/
lemma numberedBy_of_mem_sampleEvents (previous : Option TelemetrySample) (sample : TelemetrySample) :
    ∀ event ∈ sampleEvents previous sample, NumberedBy event.id sample.sequence := by
  intro event h
  cases previous with
  | none => simp [sampleEvents] at h
  | some previous =>
    rw [sampleEvents, List.mem_append, faultEvents_eq, List.mem_map] at h
    rcases h with h | ⟨fault, -, rfl⟩
    · obtain ⟨label, rfl⟩ := eq_phaseEvent_of_mem_phaseEvents h
      exact ⟨_, toList_id _ _ _⟩
    · exact ⟨_, toList_id _ _ _⟩

/-- The events of one sample have different ids. -/
lemma nodup_ids_sampleEvents (previous : Option TelemetrySample) (sample : TelemetrySample) :
    ((sampleEvents previous sample).map MissionEvent.id).Nodup := by
  cases previous with
  | none => exact List.nodup_nil
  | some previous =>
    have hphase : ((phaseEvents previous sample).map MissionEvent.id).Nodup := by
      unfold phaseEvents
      split_ifs
      · cases phaseLabel previous sample <;> simp
      · simp
    have hfaults : ((faultEvents previous sample).map MissionEvent.id).Nodup := by
      have hmasks : (FAULTS.map Fault.mask).Nodup := by decide
      rw [faultEvents_eq, List.map_map]
      refine List.Nodup.map_on ?_ ((List.Nodup.of_map _ hmasks).filter _)
      intro fault hfault other hother hid
      exact List.inj_on_of_nodup_map hmasks (List.mem_of_mem_filter hfault)
        (List.mem_of_mem_filter hother) ((faultId_inj _ _ _).mp hid)
    rw [sampleEvents, List.map_append, List.nodup_append']
    refine ⟨hphase, hfaults, ?_⟩
    intro id hid hlater
    obtain ⟨event, hevent, rfl⟩ := List.mem_map.mp hid
    obtain ⟨label, rfl⟩ := eq_phaseEvent_of_mem_phaseEvents hevent
    rw [faultEvents_eq, List.map_map] at hlater
    obtain ⟨fault, -, hsame⟩ := List.mem_map.mp hlater
    exact phaseEventId_ne sample.sequence fault.mask sample.missionPhase hsame.symm

/-! ## The log -/

/-- Applying events passes through what they say, one after the other. -/
lemma scanl_applyEvent (fault : Fault) (bit : Bool) (events : List MissionEvent) :
    (events.filter fun event => (faultEdge fault event).isSome).scanl (applyEvent fault) bit =
      bit :: events.filterMap (faultEdge fault) := by
  induction events generalizing bit with
  | nil => rfl
  | cons event events ih =>
    cases hedge : faultEdge fault event with
    | none => simp [hedge, ih]
    | some active =>
      have happly : applyEvent fault bit event = active := by rw [applyEvent, hedge]; rfl
      rw [List.filter_cons_of_pos (by simp [hedge]), List.scanl_cons, happly, ih,
        List.filterMap_cons, hedge]

/-- After the events of one sample the bit is that of the sample. -/
lemma foldl_applyEvent_eq (fault : Fault) (bit : Bool) (events : List MissionEvent) :
    events.foldl (applyEvent fault) bit = (events.filterMap (faultEdge fault)).getLastD bit := by
  induction events generalizing bit with
  | nil => rfl
  | cons event events ih =>
    rw [List.foldl_cons, ih, applyEvent]
    cases hedge : faultEdge fault event with
    | none => rw [List.filterMap_cons_none hedge, Option.getD_none]
    | some active => rw [List.filterMap_cons_some hedge, Option.getD_some, List.getLastD_cons]

/-- **Run lemma**: after all events the bit is that of the last sample. -/
lemma foldl_applyEvent_along {fault : Fault} (h : fault ∈ FAULTS) (first : TelemetrySample)
    (samples : List TelemetrySample) :
    (along sampleEvents (some first) samples).foldl (applyEvent fault) (faultBit fault first) =
      faultBit fault (samples.getLastD first) := by
  induction samples generalizing first with
  | nil => rfl
  | cons sample samples ih =>
    have hsample : (sampleEvents (some first) sample).foldl (applyEvent fault)
        (faultBit fault first) = faultBit fault sample := by
      rw [foldl_applyEvent_eq, filterMap_faultEdge_sampleEvents h]
      split_ifs with hchanged
      · rfl
      · exact not_not.mp hchanged
    rw [along, List.foldl_append, hsample, ih, List.getLastD_cons]

/-- **A faithful log.** For every list of samples with at least one element and each of the three
faults: from the bit of the first sample on, the events of the fault lead through the successive
values of the bit, each of them once, to that of the last sample; so the events alternate. If
the samples have different numbers, the events have different ids. -/
theorem eventLog_faithful (first : TelemetrySample) (rest : List TelemetrySample) :
    let samples := first :: rest
    let events := deriveMissionEvents samples
    (∀ fault ∈ FAULTS,
      let log := events.filter fun event => (faultEdge fault event).isSome
      log.scanl (applyEvent fault) (faultBit fault first) =
          (samples.map (faultBit fault)).destutter (· ≠ ·) ∧
        events.foldl (applyEvent fault) (faultBit fault first) =
          faultBit fault (samples.getLast (List.cons_ne_nil first rest)) ∧
        (events.filterMap (faultEdge fault)).IsChain (· ≠ ·)) ∧
      ((samples.map TelemetrySample.sequence).Nodup → (events.map MissionEvent.id).Nodup) := by
  intro samples events
  have hevents : events = along sampleEvents (some first) rest := by
    rw [show events = deriveMissionEvents (first :: rest) from rfl, deriveMissionEvents_eq, along]
    rfl
  refine ⟨?_, ?_⟩
  · intro fault hfault
    have hlog := filterMap_along_changes (filterMap_faultEdge_sampleEvents hfault) first rest
    rw [← hevents] at hlog
    refine ⟨?_, ?_, ?_⟩
    · rw [scanl_applyEvent, hlog]
      rfl
    · rw [hevents, foldl_applyEvent_along hfault, List.getLast_eq_getLastD]
    · have hchain := List.isChain_destutter' (· ≠ ·) (rest.map (faultBit fault))
        (faultBit fault first)
      rw [← hlog] at hchain
      exact hchain.of_cons
  · intro hnodup
    rw [show events = along sampleEvents none samples from deriveMissionEvents_eq samples]
    exact nodup_map_along numberedBy_of_mem_sampleEvents NumberedBy.unique nodup_ids_sampleEvents
      none hnodup

/-- A thruster loss that comes and goes after the first sample. -/
def briefLoss : List TelemetrySample :=
  [{ UseTelemetry.padSample with sequence := 1, faultFlags := 1 },
    { UseTelemetry.padSample with sequence := 2 }]

/-- Its events end with the bit cleared, and have different ids. -/
theorem eventLog_faithful_briefLoss :
    (∀ fault ∈ FAULTS, (deriveMissionEvents (UseTelemetry.padSample :: briefLoss)).foldl
        (applyEvent fault) (faultBit fault UseTelemetry.padSample) = false) ∧
      ((deriveMissionEvents (UseTelemetry.padSample :: briefLoss)).map MissionEvent.id).Nodup := by
  have hlog := eventLog_faithful UseTelemetry.padSample briefLoss
  refine ⟨?_, hlog.2 (by decide)⟩
  intro fault hfault
  rw [(hlog.1 fault hfault).2.1]
  simp [briefLoss, faultBit, UseTelemetry.padSample, JsInt.and, JsInt.bits]

end FlightDeck.Dashboard
