import Sentinel.Spec.FusionAssessment
import Sentinel.Spec.FusionDeliveries

/-! # Quarantined sources and the hypotheses of others

The core ignores an event of a quarantined source, and so does every column but the list of ignored
signals; yet an applied event is known by organisation and event id alone, so it can take the place
of a later one. -/

namespace Sentinel.Fusion

/-! ## The assessment after a history -/

/-- The assessment of a window nothing has been applied to. -/
def Assessment.initial : Assessment :=
  { state := 0
    threatProbability := 0
    detectionConfidence := 0
    sourceDiversity := 0
    operationalSeverity := deriveSeverity 0 (derivePotentialImpact [])
    potentialImpact := derivePotentialImpact []
    incidentCandidateLatched := false
    incidentCandidateDeEscalated := false
    incidentCandidateEmissions := 0
    signals := []
    supportingEventIds := []
    contradictingEventIds := []
    transitions := [] }

/-- What the store says about a window; nothing is the initial assessment. -/
def Db.assessment (db : Db) (window : String) : Assessment :=
  match db.findByCorrelationKey window with
  | some row => (db.record row).assessment
  | none => .initial

/-- The events applied to a window that its assessment rests on. -/
def counted (window : String) (history : List NormalisedEvent) : List MappedEvent :=
  (accepted window history).filter fun m => !m.isQuarantined

section Assessed

variable {mint : Mint} {history : List NormalisedEvent} {db : Db} {window : String}

/-- The assessment is a function of the events that count. -/
theorem Settled.assessment_eq (h : Settled mint history db) (correlation : CorrelationKey)
    (id candidate : String) :
    db.assessment window =
      ((Record.opened correlation id candidate).replay (counted window history)).assessment := by
  rw [Db.assessment]
  cases hfind : db.findByCorrelationKey window with
  | some row =>
    obtain ⟨hrow, hkey⟩ := findByCorrelationKey_eq_some hfind
    rcases h.windows window with ⟨row', hrow', hkey', c, i, d, hreplay⟩ | ⟨hnone, _⟩
    · obtain rfl := Table.eq_of_key h.inv.windows hrow' hrow (hkey'.trans hkey.symm)
      simp only [hreplay]
      exact (alike_replay ..).assessment
    · exact absurd hkey (hnone row hrow)
  | none =>
    have hnone := findByCorrelationKey_eq_none hfind
    rcases h.windows window with ⟨row, hrow, hkey, _⟩ | ⟨_, hempty⟩
    · exact absurd hkey (hnone row hrow)
    · rw [counted, hempty]
      rfl

/-- Its accepted signals are those of the events that count. -/
theorem Settled.signals_eq (h : Settled mint history db) :
    (db.assessment window).signals =
      (counted window history).map fun m => processSignal m.signal := by
  -- the identity of the window does not matter to its assessment
  have hany : CorrelationKey := ⟨"", "", none, "", 0, 0, ""⟩
  rw [h.assessment_eq hany "" "", signals_replay, counted, List.filter_filter]
  simp

end Assessed

/-! ## Two histories -/

/-- A delivery of the longer history: one of the original history, or one inserted, which
    is of a quarantined source. -/
inductive Entry
  | original (event : NormalisedEvent)
  | inserted (event : NormalisedEvent) (quarantined : event.sourceTrust = .quarantined)

def Entry.event : Entry → NormalisedEvent
  | original event | inserted event _ => event

def Entry.original? : Entry → Option NormalisedEvent
  | original event => some event
  | inserted .. => none

/-- The history without the inserted events. -/
def original (entries : List Entry) : List NormalisedEvent := entries.filterMap (·.original?)

/-- The history with them. -/
def extended (entries : List Entry) : List NormalisedEvent := entries.map (·.event)

theorem original_subset {entries : List Entry} {event : NormalisedEvent}
    (h : event ∈ original entries) : event ∈ extended entries := by
  obtain ⟨entry, hentry, hevent⟩ := List.mem_filterMap.mp h
  cases entry with
  | original e =>
    cases hevent
    exact List.mem_map.mpr ⟨_, hentry, rfl⟩
  | inserted e hq => cases hevent

/-- The event would count in the original history, and an inserted one stands in front of
    it under its organisation and event id. -/
structure Suppressed (before : List Entry) (event : NormalisedEvent) : Prop where
  mapped : ∃ m, event.mapped = .ok m
  source : event.sourceTrust ≠ .quarantined
  first : event.key ∉ (original before).map (·.key)
  taken : event.key ∈ (extended before).map (·.key)

/-- No inserted event takes the place of one that counts. -/
def NoneSuppressed (entries : List Entry) : Prop :=
  ∀ i event, entries[i]? = some (.original event) → ¬ Suppressed (entries.take i) event

/-- What an event adds to the events that count, if it is the first of its id. -/
def contribution (window : String) (event : NormalisedEvent) : List MappedEvent :=
  (mappedFor window event).toList.filter fun m => !m.isQuarantined

section Counted

variable {window : String} {history : List NormalisedEvent} {event : NormalisedEvent}
  {m : MappedEvent}

theorem counted_of_known (h : event.key ∈ history.map (·.key)) :
    counted window (history ++ [event]) = counted window history := by
  rw [counted, accepted_of_known h, counted]

theorem counted_of_new (h : event.key ∉ history.map (·.key)) :
    counted window (history ++ [event]) = counted window history ++ contribution window event := by
  rw [counted, accepted_of_new h, List.filter_append, counted, contribution]

theorem isQuarantined_of_mapped (h : event.mapped = .ok m) :
    m.isQuarantined = true ↔ event.sourceTrust = .quarantined := by
  have hsource := (mapEventToSignal_source m.mapped).2
  rw [MappedEvent.isQuarantined, Signal.isQuarantined_iff, hsource,
    NormalisedEvent.event_of_mapped h]

theorem mappedFor_eq_some (h : mappedFor window event = some m) : event.mapped = .ok m := by
  unfold mappedFor at h
  split at h
  next hmapped =>
    split at h
    · cases h
      exact hmapped
    · cases h
  · cases h

/-- A quarantined source contributes nothing, and neither does an event without a rule. -/
theorem contribution_eq_nil (h : event.sourceTrust = .quarantined ∨ ¬ ∃ m, event.mapped = .ok m) :
    contribution window event = [] := by
  rw [contribution, List.filter_eq_nil_iff]
  intro m hm
  have hmapped := mappedFor_eq_some (Option.mem_toList.mp hm)
  rcases h with hq | hnone
  · simp [(isQuarantined_of_mapped hmapped).mpr hq]
  · exact absurd ⟨m, hmapped⟩ hnone

/-- Any other event contributes itself to its window. -/
theorem contribution_self (hmapped : event.mapped = .ok m)
    (hsource : event.sourceTrust ≠ .quarantined) :
    contribution m.correlation.key event = [m] := by
  have hq : m.isQuarantined = false := by
    rw [Bool.eq_false_iff, Ne, isQuarantined_of_mapped hmapped]
    exact hsource
  have hfor : mappedFor m.correlation.key event = some m := by
    rw [mappedFor, hmapped]
    exact if_pos rfl
  rw [contribution, hfor]
  simp [hq]

theorem counted_of_quarantined (hq : event.sourceTrust = .quarantined) :
    counted window (history ++ [event]) = counted window history := by
  by_cases hknown : event.key ∈ history.map (·.key)
  · exact counted_of_known hknown
  · rw [counted_of_new hknown, contribution_eq_nil (.inl hq), List.append_nil]

end Counted

section Histories

variable {entries : List Entry} {window : String} {event : NormalisedEvent}

theorem original_concat_original :
    original (entries ++ [.original event]) = original entries ++ [event] := by
  simp [original, Entry.original?]

theorem extended_concat_original :
    extended (entries ++ [.original event]) = extended entries ++ [event] := by
  simp [extended, Entry.event]

theorem original_concat_inserted {hq : event.sourceTrust = .quarantined} :
    original (entries ++ [.inserted event hq]) = original entries := by
  simp [original, Entry.original?]

theorem extended_concat_inserted {hq : event.sourceTrust = .quarantined} :
    extended (entries ++ [.inserted event hq]) = extended entries ++ [event] := by
  simp [extended, Entry.event]

/-- One more original event: both histories count the same more, or it is suppressed and
    only the original one counts it. -/
theorem counted_concat_original (entries : List Entry) (event : NormalisedEvent)
    (window : String) :
    ∃ added : List MappedEvent, ∃ lost : List MappedEvent,
      counted window (extended (entries ++ [.original event])) =
        counted window (extended entries) ++ added ∧
      counted window (original (entries ++ [.original event])) =
        counted window (original entries) ++ lost ++ added ∧
      (¬ Suppressed entries event → lost = []) ∧
      (Suppressed entries event → lost = contribution window event) := by
  rw [extended_concat_original, original_concat_original]
  by_cases hextended : event.key ∈ (extended entries).map (·.key)
  · by_cases horiginal : event.key ∈ (original entries).map (·.key)
    · refine ⟨[], [], ?_, ?_, fun _ => rfl, fun hsuppressed => absurd horiginal hsuppressed.first⟩
      · rw [counted_of_known hextended, List.append_nil]
      · rw [counted_of_known horiginal, List.append_nil, List.append_nil]
    · refine ⟨[], contribution window event, ?_, ?_, fun hsuppressed => ?_, fun _ => rfl⟩
      · rw [counted_of_known hextended, List.append_nil]
      · rw [counted_of_new horiginal, List.append_nil]
      · refine contribution_eq_nil ?_
        by_contra hcounts
        rw [not_or, not_not] at hcounts
        exact hsuppressed ⟨hcounts.2, hcounts.1, horiginal, hextended⟩
  · have horiginal : event.key ∉ (original entries).map (·.key) := fun hmem => by
      obtain ⟨e, he, hkey⟩ := List.mem_map.mp hmem
      exact hextended (List.mem_map.mpr ⟨e, original_subset he, hkey⟩)
    refine ⟨contribution window event, [], ?_, ?_, fun _ => rfl,
      fun hsuppressed => absurd hsuppressed.taken hextended⟩
    · rw [counted_of_new hextended]
    · rw [counted_of_new horiginal, List.append_nil]

theorem NoneSuppressed.of_concat {entry : Entry} (h : NoneSuppressed (entries ++ [entry])) :
    NoneSuppressed entries := fun i e he => by
  have hlt := (List.getElem?_eq_some_iff.mp he).1
  have hnone := h i e (by rw [List.getElem?_append_left hlt, he])
  rwa [List.take_append_of_le_length hlt.le] at hnone

theorem NoneSuppressed.last (h : NoneSuppressed (entries ++ [.original event])) :
    ¬ Suppressed entries event := by
  have hnone := h entries.length event (by simp)
  rwa [List.take_left] at hnone

/-- If nothing is suppressed, the same events count in both histories. -/
theorem NoneSuppressed.counted_eq (h : NoneSuppressed entries) (window : String) :
    counted window (extended entries) = counted window (original entries) := by
  induction entries using List.reverseRecOn with
  | nil => rfl
  | append_singleton entries entry ih =>
    have hrest := ih h.of_concat
    cases entry with
    | original event =>
      obtain ⟨added, lost, hextended, horiginal, hnone, _⟩ :=
        counted_concat_original entries event window
      rw [hextended, horiginal, hrest, hnone h.last, List.append_nil]
    | inserted event hq =>
      rw [extended_concat_inserted, original_concat_inserted, counted_of_quarantined hq, hrest]

/-- The longer history never counts more events. -/
theorem length_counted_le (entries : List Entry) (window : String) :
    (counted window (extended entries)).length ≤ (counted window (original entries)).length := by
  induction entries using List.reverseRecOn with
  | nil => exact le_rfl
  | append_singleton entries entry ih =>
    cases entry with
    | original event =>
      obtain ⟨added, lost, hextended, horiginal, _, _⟩ :=
        counted_concat_original entries event window
      rw [hextended, horiginal]
      simp only [List.length_append]
      omega
    | inserted event hq =>
      rw [extended_concat_inserted, original_concat_inserted, counted_of_quarantined hq]
      exact ih

/-- Once an event is suppressed, the longer history counts fewer. -/
theorem length_counted_lt {i : Nat} (he : entries[i]? = some (.original event))
    (hsuppressed : Suppressed (entries.take i) event) {m : MappedEvent}
    (hmapped : event.mapped = .ok m) :
    (counted m.correlation.key (extended entries)).length <
      (counted m.correlation.key (original entries)).length := by
  induction entries using List.reverseRecOn with
  | nil => simp at he
  | append_singleton entries entry ih =>
    by_cases hlast : i < entries.length
    · -- suppressed before the last entry
      rw [List.getElem?_append_left hlast] at he
      rw [List.take_append_of_le_length hlast.le] at hsuppressed
      have hrest := ih he hsuppressed
      cases entry with
      | original event' =>
        obtain ⟨added, lost, hextended, horiginal, _, _⟩ :=
          counted_concat_original entries event' m.correlation.key
        rw [hextended, horiginal]
        simp only [List.length_append]
        omega
      | inserted event' hq =>
        rw [extended_concat_inserted, original_concat_inserted, counted_of_quarantined hq]
        exact hrest
    · -- the last entry is the one
      have hlength := (List.getElem?_eq_some_iff.mp he).1
      rw [List.length_append, List.length_singleton] at hlength
      obtain rfl : i = entries.length := by omega
      rw [List.getElem?_concat_length, Option.some.injEq] at he
      rw [List.take_left] at hsuppressed
      subst he
      obtain ⟨added, lost, hextended, horiginal, _, hlost⟩ :=
        counted_concat_original entries event m.correlation.key
      have hle := length_counted_le entries m.correlation.key
      rw [hextended, horiginal, hlost hsuppressed, contribution_self hmapped hsuppressed.source]
      simp only [List.length_append, List.length_singleton]
      omega

end Histories

/-- Inserting events of quarantined sources leaves the assessment of every window as it
    is exactly when no inserted event takes the place of one that counts. -/
theorem quarantined_noninterference (mint : Mint) (entries : List Entry) :
    (∀ window, (deliverAll mint (extended entries)).assessment window =
        (deliverAll mint (original entries)).assessment window) ↔ NoneSuppressed entries := by
  have hextended := settled_deliverAll mint (extended entries)
  have horiginal := settled_deliverAll mint (original entries)
  constructor
  · intro hagree i event he hsuppressed
    obtain ⟨m, hmapped⟩ := hsuppressed.mapped
    have hfewer := length_counted_lt he hsuppressed hmapped
    have hsignals := congrArg (fun a => a.signals.length) (hagree m.correlation.key)
    simp only [hextended.signals_eq, horiginal.signals_eq, List.length_map] at hsignals
    omega
  · intro hnone window
    -- the identity of the window does not matter to its assessment
    have hany : CorrelationKey := ⟨"", "", none, "", 0, 0, ""⟩
    rw [hextended.assessment_eq hany "" "", horiginal.assessment_eq hany "" "",
      hnone.counted_eq window]

/-- Ids that are the correlation key itself. -/
def Mint.plain : Mint where
  id := fun key => key
  incidentCandidateId := fun key => key
  id_injective := fun _ _ h => h
  incidentCandidateId_injective := fun _ _ h => h

/-- A door reports a refused credential. -/
def deniedAtDoor : NormalisedEvent :=
  { eventId := "evt_1", organisationId := "org", siteId := "site", zoneId := none
    sourceType := .access, sourceId := "door", sourceTrust := .trusted
    eventType := "access_denied_attempt", confidence := 9 / 10, occurredAt := 0, metadata := [] }

/-- A quarantined camera has used the id of the door's event before. -/
def takenId : List Entry :=
  [.inserted { deniedAtDoor with sourceType := .camera, sourceId := "camera"
                                 sourceTrust := .quarantined, eventType := "person_detected" } rfl,
   .original deniedAtDoor]

theorem takenId_interferes :
    (deliverAll .plain (extended takenId)).assessment (deriveCorrelationKey deniedAtDoor).key ≠
      (deliverAll .plain (original takenId)).assessment (deriveCorrelationKey deniedAtDoor).key := by
  decide +kernel

end Sentinel.Fusion
