import Sentinel.Native.FusionService
import Sentinel.Spec.ThreatStateInvariant

/-! # What the store keeps of a hypothesis

A hypothesis is stored as one row and a log of transition rows.  `Record.absorb` is
what one committed application does to the two together.  This file relates a record
to the pure core, with nothing of the database left in the statements. -/

namespace Sentinel.Fusion

/-- A hypothesis as stored: its row and its transitions in the order of insertion. -/
structure Record where
  row : HypothesisRow
  log : List TransitionRow

def HypothesisRow.absorb (row : HypothesisRow) (m : MappedEvent) : HypothesisRow :=
  (applyParams row m).write row

namespace Record

/-- A committed application. -/
def absorb (r : Record) (m : MappedEvent) : Record :=
  { row := r.row.absorb m
    log := r.log ++ (applyParams r.row m).transitionRows }

/-- A row just created for a window. -/
def opened (correlation : CorrelationKey) (id incidentCandidateId : String) : Record :=
  { row := (windowSeed correlation).row id incidentCandidateId, log := [] }

/-- The record after the events, in this order. -/
def replay (first : Record) (history : List MappedEvent) : Record :=
  history.foldl absorb first

@[simp] theorem replay_nil (first : Record) : first.replay [] = first := rfl

theorem replay_concat (first : Record) (history : List MappedEvent) (m : MappedEvent) :
    first.replay (history ++ [m]) = (first.replay history).absorb m := by
  rw [replay, List.foldl_append]
  rfl

/-- What every application preserves holds of every replay. -/
theorem replay_invariant {inv : Record → Prop} {first : Record} {history : List MappedEvent}
    (hfirst : inv first) (habsorb : ∀ r m, inv r → inv (r.absorb m)) :
    inv (first.replay history) := by
  induction history using List.reverseRecOn with
  | nil => exact hfirst
  | append_singleton history m ih =>
    rw [replay_concat]
    exact habsorb _ m ih

@[simp] theorem absorb_row (r : Record) (m : MappedEvent) :
    (r.absorb m).row = r.row.absorb m := rfl

end Record

/-! ## The columns an application keeps -/

section Kept

variable (row : HypothesisRow) (m : MappedEvent)

@[simp] theorem absorb_id : (row.absorb m).id = row.id := rfl

@[simp] theorem absorb_incidentCandidateId :
    (row.absorb m).incidentCandidateId = row.incidentCandidateId := rfl

@[simp] theorem absorb_correlationKey : (row.absorb m).correlationKey = row.correlationKey := rfl

@[simp] theorem absorb_version : (row.absorb m).version = row.version + 1 := rfl

end Kept

/-! ## The potential impact and the earlier transitions, seen from the core

The core never reads the transitions, and the potential impact decides nothing but the
severity; so a fold of `applySignal` commutes with setting the one and prefixing the
other. -/

namespace ThreatHypothesis

def withImpact (impact : PotentialImpact) (h : ThreatHypothesis) : ThreatHypothesis :=
  { h with
    potentialImpact := impact
    operationalSeverity := deriveSeverity h.state impact }

/-- The hypothesis with earlier transitions put back in front. -/
def prefixed (earlier : List Transition) (h : ThreatHypothesis) : ThreatHypothesis :=
  { h with transitions := earlier ++ h.transitions }

@[simp] theorem withImpact_withImpact (i j : PotentialImpact) (h : ThreatHypothesis) :
    (h.withImpact i).withImpact j = h.withImpact j := rfl

theorem createHypothesis_withImpact (id : String) (i j : PotentialImpact) :
    (createHypothesis id i).withImpact j = createHypothesis id j := rfl

end ThreatHypothesis

theorem applySignal_withImpact (impact : PotentialImpact) (h : ThreatHypothesis)
    (signal : Signal) :
    applySignal (h.withImpact impact) signal = (applySignal h signal).withImpact impact := by
  unfold applySignal
  split
  · rfl
  · rfl

theorem applySignal_prefixed (earlier : List Transition) (h : ThreatHypothesis)
    (signal : Signal) :
    applySignal (h.prefixed earlier) signal = (applySignal h signal).prefixed earlier := by
  unfold applySignal
  split
  · rfl
  · simp only [ThreatHypothesis.prefixed, ThreatHypothesis.mk.injEq, true_and]
    by_cases hchange :
        (assessState h.state (h.signals ++ [processSignal signal]) signal).1 ≠ h.state
    · refine (if_pos hchange).trans ?_
      rw [List.append_assoc]
      exact congrArg (earlier ++ ·) (if_pos hchange).symm
    · exact (if_neg hchange).trans (congrArg (earlier ++ ·) (if_neg hchange).symm)

theorem foldl_applySignal_withImpact (impact : PotentialImpact) (h : ThreatHypothesis)
    (signals : List Signal) :
    signals.foldl applySignal (h.withImpact impact) =
      (signals.foldl applySignal h).withImpact impact := by
  induction signals generalizing h with
  | nil => rfl
  | cons signal signals ih => rw [List.foldl_cons, List.foldl_cons, applySignal_withImpact, ih]

/-! ## A record is a hypothesis of the core -/

def TransitionRow.transition (t : TransitionRow) : Transition :=
  { fromState := t.fromState
    toState := t.toState
    signalId := t.eventId
    reason := t.reason }

def Record.hypothesis (r : Record) : ThreatHypothesis :=
  { id := r.row.id
    state := r.row.state
    detectionConfidence := r.row.detectionConfidence
    threatProbability := r.row.threatProbability
    potentialImpact := r.row.potentialImpact
    operationalSeverity := r.row.operationalSeverity
    signals := r.row.signals
    ignoredSignals := r.row.ignoredSignals
    transitions := r.log.map (·.transition) }

/-- The rows an application inserts record the transitions the core returned. -/
theorem map_transition_transitionRows (row : HypothesisRow) (m : MappedEvent) :
    (applyParams row m).transitionRows.map (·.transition) = (assess row m).transitions := by
  refine List.ext_getElem? fun i => ?_
  simp only [ApplyEventParams.transitionRows, applyParams, List.getElem?_map,
    List.getElem?_mapIdx]
  cases (assess row m).transitions[i]? <;> rfl

/-- The core's hypothesis under the impact of the row, with the log put back. -/
theorem hypothesis_withImpact (r : Record) (impact : PotentialImpact) :
    r.hypothesis.withImpact impact =
      (rebuildHypothesis r.row impact).prefixed (r.log.map (·.transition)) := by
  simp [Record.hypothesis, ThreatHypothesis.withImpact, rebuildHypothesis,
    ThreatHypothesis.prefixed]

theorem assess_id (row : HypothesisRow) (m : MappedEvent) : (assess row m).id = row.id := by
  rw [assess, applySignal_id]
  rfl

theorem assess_potentialImpact (row : HypothesisRow) (m : MappedEvent) :
    (assess row m).potentialImpact = (row.absorb m).potentialImpact := by
  rw [assess, applySignal_potentialImpact]
  rw [show (row.absorb m).potentialImpact = (assess row m).potentialImpact from rfl]
  rw [assess, applySignal_potentialImpact]

/-- One committed application is one application of the signal, under the impact that
    the row then has. -/
theorem hypothesis_absorb (r : Record) (m : MappedEvent) :
    (r.absorb m).hypothesis =
      applySignal (r.hypothesis.withImpact (r.absorb m).row.potentialImpact) m.signal := by
  have himpact : (r.absorb m).row.potentialImpact =
      derivePotentialImpact (nextImpactFamilies r.row m.signal m.impactFamily) := by
    rw [Record.absorb_row, ← assess_potentialImpact, assess, applySignal_potentialImpact]
    rfl
  rw [himpact, hypothesis_withImpact, applySignal_prefixed]
  have hid := assess_id r.row m
  unfold assess at hid
  simp only [Record.hypothesis, Record.absorb, List.map_append, map_transition_transitionRows,
    ThreatHypothesis.prefixed, ThreatHypothesis.mk.injEq]
  refine ⟨?_, rfl, rfl, rfl, rfl, rfl, rfl, rfl, rfl⟩
  exact hid.symm

/-- A replayed record is the fold of `applySignal` over the events' signals, under the
    potential impact it ends with. -/
theorem hypothesis_replay (correlation : CorrelationKey) (id incidentCandidateId : String)
    (history : List MappedEvent) :
    ((Record.opened correlation id incidentCandidateId).replay history).hypothesis =
      (history.map (·.signal)).foldl applySignal (createHypothesis id
        ((Record.opened correlation id incidentCandidateId).replay history).row.potentialImpact) := by
  induction history using List.reverseRecOn with
  | nil => rfl
  | append_singleton history m ih =>
    rw [Record.replay_concat, hypothesis_absorb, ih, ← foldl_applySignal_withImpact,
      ThreatHypothesis.createHypothesis_withImpact, List.map_append, List.foldl_append]
    rfl

/-- An application keeps the families that were there. -/
theorem mem_nextImpactFamilies {row : HypothesisRow} {signal : Signal}
    {impactFamily : Option ImpactFamily} {family : String}
    (h : family ∈ row.supportingImpactFamilies) :
    family ∈ nextImpactFamilies row signal impactFamily := by
  simp [nextImpactFamilies, h]

theorem impactScore_derivePotentialImpact_mono {families families' : List String}
    (h : ∀ family ∈ families, family ∈ families') :
    impactScore (derivePotentialImpact families) ≤
      impactScore (derivePotentialImpact families') := by
  unfold derivePotentialImpact
  split
  next hhigh =>
    obtain ⟨family, hmem, hfamily⟩ := List.any_eq_true.mp hhigh
    rw [if_pos (List.any_eq_true.mpr ⟨family, h family hmem, hfamily⟩)]
  next => split <;> decide

/-! ## The columns of a record agree -/

/-- The two columns of the latch remember between them whether it ever emitted. -/
def HypothesisRow.LatchRemembers (row : HypothesisRow) : Prop :=
  0 < row.incidentCandidateEmissions ↔
    row.incidentCandidateLatched = true ∨ row.incidentCandidateDeEscalated = true

/-- What holds of a record at all times. -/
structure Record.WellFormed (r : Record) : Prop where
  owner : ∀ t ∈ r.log, t.hypothesisId = r.row.id
  sequence : r.log.map (·.sequence) = List.range r.row.transitionCount
  potentialImpact : r.row.potentialImpact = derivePotentialImpact r.row.supportingImpactFamilies
  operationalSeverity :
    r.row.operationalSeverity = deriveSeverity r.row.state r.row.potentialImpact
  sourceDiversity : r.row.sourceDiversity = computeDiverseSupportingCount r.row.signals
  supportingEventIds :
    r.row.supportingEventIds = (ofKind .supporting r.row.signals).map (·.signalId)
  contradictingEventIds :
    r.row.contradictingEventIds = (ofKind .contradicting r.row.signals).map (·.signalId)
  latched : r.row.incidentCandidateLatched = decide (incidentCandidateStateThreshold ≤ r.row.state)
  emitted : r.row.LatchRemembers

theorem wellFormed_opened (correlation : CorrelationKey) (id incidentCandidateId : String) :
    (Record.opened correlation id incidentCandidateId).WellFormed where
  owner := fun _ h => nomatch h
  sequence := rfl
  potentialImpact := rfl
  operationalSeverity := rfl
  sourceDiversity := rfl
  supportingEventIds := rfl
  contradictingEventIds := rfl
  latched := rfl
  emitted := by simp [HypothesisRow.LatchRemembers, Record.opened, WindowSeed.row]

theorem length_transitionRows (params : ApplyEventParams) :
    params.transitionRows.length = params.transitions.length := by
  rw [ApplyEventParams.transitionRows, List.length_mapIdx]

/-- The new transitions are numbered from the first free number. -/
theorem map_sequence_transitionRows (params : ApplyEventParams) :
    params.transitionRows.map (·.sequence) =
      (List.range params.transitions.length).map (params.firstTransitionSequence + ·) := by
  refine List.ext_getElem (by simp [length_transitionRows]) fun i _ _ => ?_
  simp [ApplyEventParams.transitionRows]

theorem owner_transitionRows {params : ApplyEventParams} {t : TransitionRow}
    (h : t ∈ params.transitionRows) : t.hypothesisId = params.hypothesisId := by
  rw [ApplyEventParams.transitionRows, List.mem_mapIdx] at h
  obtain ⟨_, _, rfl⟩ := h
  rfl

theorem decideLatch_latched (row : HypothesisRow) (state : ThreatState) :
    (decideLatch row state).latched = decide (incidentCandidateStateThreshold ≤ state) := by
  unfold decideLatch
  split
  next h =>
    rw [decide_eq_true h]
    split <;> rfl
  next h => rw [decide_eq_false h]

/-- What the latch does to the count of emissions, and what it says when it emits. -/
theorem decideLatch_emissions (row : HypothesisRow) (state : ThreatState) :
    (decideLatch row state).emit = false ∧
        (decideLatch row state).emissions = row.incidentCandidateEmissions ∧
        ((decideLatch row state).latched = true ∨ (decideLatch row state).deEscalated = true ↔
          row.incidentCandidateLatched = true ∨ row.incidentCandidateDeEscalated = true) ∨
      (decideLatch row state).emit = true ∧ row.incidentCandidateLatched = false ∧
        (decideLatch row state).emissions = row.incidentCandidateEmissions + 1 ∧
        (decideLatch row state).latched = true ∧
        (decideLatch row state).reEscalation = row.incidentCandidateDeEscalated := by
  unfold decideLatch
  by_cases hstate : incidentCandidateStateThreshold ≤ state
  · by_cases hlatched : row.incidentCandidateLatched = true
    · left
      simp [hstate, hlatched]
    · right
      simp [hstate, hlatched]
  · left
    simp [hstate, or_comm]

theorem Record.WellFormed.absorb {r : Record} (h : r.WellFormed) (m : MappedEvent) :
    (r.absorb m).WellFormed where
  owner := fun t ht => by
    rcases List.mem_append.mp ht with ht | ht
    · exact h.owner t ht
    · exact owner_transitionRows ht
  sequence := by
    have hcount : (r.absorb m).row.transitionCount =
        r.row.transitionCount + (applyParams r.row m).transitions.length := rfl
    rw [hcount, List.range_add, ← h.sequence, Record.absorb, List.map_append,
      map_sequence_transitionRows]
    rfl
  potentialImpact := by
    rw [Record.absorb_row, ← assess_potentialImpact, assess, applySignal_potentialImpact]
    rfl
  operationalSeverity := by
    have hsame : (assess r.row m).operationalSeverity =
        deriveSeverity (assess r.row m).state (assess r.row m).potentialImpact :=
      applySignal_severity rfl
    exact hsame
  sourceDiversity := rfl
  supportingEventIds := rfl
  contradictingEventIds := rfl
  latched := decideLatch_latched r.row (assess r.row m).state
  emitted := by
    have hemissions : (r.absorb m).row.incidentCandidateEmissions =
        (decideLatch r.row (assess r.row m).state).emissions := rfl
    have hlatched : (r.absorb m).row.incidentCandidateLatched =
        (decideLatch r.row (assess r.row m).state).latched := rfl
    have hdeEscalated : (r.absorb m).row.incidentCandidateDeEscalated =
        (decideLatch r.row (assess r.row m).state).deEscalated := rfl
    rw [HypothesisRow.LatchRemembers, hemissions, hlatched, hdeEscalated]
    rcases decideLatch_emissions r.row (assess r.row m).state with
      ⟨_, hsame, hcolumns⟩ | ⟨_, _, hnext, hheld, _⟩
    · rw [hsame, hcolumns]
      exact h.emitted
    · simp [hnext, hheld]

theorem wellFormed_replay (correlation : CorrelationKey) (id incidentCandidateId : String)
    (history : List MappedEvent) :
    ((Record.opened correlation id incidentCandidateId).replay history).WellFormed :=
  Record.replay_invariant (wellFormed_opened ..) fun _ m h => h.absorb m

/-- An application never lowers the potential impact. -/
theorem impactScore_absorb {r : Record} (h : r.WellFormed) (m : MappedEvent) :
    impactScore r.row.potentialImpact ≤ impactScore (r.absorb m).row.potentialImpact := by
  rw [h.potentialImpact, (h.absorb m).potentialImpact]
  exact impactScore_derivePotentialImpact_mono fun family hfamily =>
    mem_nextImpactFamilies hfamily

/-- An application either emits nothing and leaves the count alone, or emits the next
    number, as a re-escalation unless it is the first. -/
theorem emission_of_absorb {row : HypothesisRow} (h : row.LatchRemembers) (m : MappedEvent) :
    candidateMessage row (row.absorb m) m = none ∧
        (row.absorb m).incidentCandidateEmissions = row.incidentCandidateEmissions ∨
      ∃ c, candidateMessage row (row.absorb m) m = some c ∧ c.hypothesisId = row.id ∧
        c.emissionNumber = row.incidentCandidateEmissions + 1 ∧
        (row.absorb m).incidentCandidateEmissions = row.incidentCandidateEmissions + 1 ∧
        c.reEscalation = decide (c.emissionNumber ≠ 1) := by
  rcases decideLatch_emissions row (assess row m).state with
    ⟨hsilent, hsame, _⟩ | ⟨hemit, hreleased, hnext, _, hagain⟩
  · left
    exact ⟨by simp [candidateMessage, hsilent], hsame⟩
  · right
    have hre : (decideLatch row (assess row m).state).reEscalation =
        decide (row.incidentCandidateEmissions + 1 ≠ 1) := by
      have hemitted := h
      rw [HypothesisRow.LatchRemembers, hreleased] at hemitted
      rw [hagain, Bool.eq_iff_iff, decide_eq_true_eq]
      simp only [Bool.false_eq_true, false_or] at hemitted
      rw [← hemitted]
      omega
    refine ⟨_, if_pos hemit, rfl, hnext, hnext, ?_⟩
    show (decideLatch row _).reEscalation = decide ((decideLatch row _).emissions ≠ 1)
    rw [hre, hnext]

end Sentinel.Fusion
