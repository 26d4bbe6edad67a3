import Sentinel.Spec.FusionRecord

/-! # The assessment of a window

What Fusion concludes about a window apart from the identity of the row and the list of ignored
signals: the event of a quarantined source leaves it alone, and a history can be replayed without
such events. -/

namespace Sentinel.Fusion

/-! ## The assessment of a window -/

/-- What Fusion concludes about a window: everything but the identity of the row, its
    version, the list of ignored signals and the text that counts them. -/
structure Assessment where
  state : ThreatState
  threatProbability : ℚ
  detectionConfidence : ℚ
  sourceDiversity : Nat
  operationalSeverity : OperationalSeverity
  potentialImpact : PotentialImpact
  incidentCandidateLatched : Bool
  incidentCandidateDeEscalated : Bool
  incidentCandidateEmissions : Nat
  signals : List ProcessedSignal
  supportingEventIds : List String
  contradictingEventIds : List String
  transitions : List TransitionRow
deriving DecidableEq

def Record.assessment (r : Record) : Assessment :=
  { state := r.row.state
    threatProbability := r.row.threatProbability
    detectionConfidence := r.row.detectionConfidence
    sourceDiversity := r.row.sourceDiversity
    operationalSeverity := r.row.operationalSeverity
    potentialImpact := r.row.potentialImpact
    incidentCandidateLatched := r.row.incidentCandidateLatched
    incidentCandidateDeEscalated := r.row.incidentCandidateDeEscalated
    incidentCandidateEmissions := r.row.incidentCandidateEmissions
    signals := r.row.signals
    supportingEventIds := r.row.supportingEventIds
    contradictingEventIds := r.row.contradictingEventIds
    transitions := r.log.map fun t => { t with hypothesisId := "" } }

/-- Two records that agree in all that decides what they become. -/
structure Record.Alike (r r' : Record) : Prop where
  assessment : r.assessment = r'.assessment
  transitionCount : r.row.transitionCount = r'.row.transitionCount
  families : ∀ family,
    family ∈ r.row.supportingImpactFamilies ↔ family ∈ r'.row.supportingImpactFamilies

namespace Record.Alike

variable {r r' r'' : Record}

theorem refl (r : Record) : r.Alike r := ⟨rfl, rfl, fun _ => .rfl⟩

theorem symm (h : r.Alike r') : r'.Alike r :=
  ⟨h.assessment.symm, h.transitionCount.symm, fun family => (h.families family).symm⟩

theorem trans (h : r.Alike r') (h' : r'.Alike r'') : r.Alike r'' :=
  ⟨h.assessment.trans h'.assessment, h.transitionCount.trans h'.transitionCount,
    fun family => (h.families family).trans (h'.families family)⟩

end Record.Alike

theorem derivePotentialImpact_congr {families families' : List String}
    (h : ∀ family, family ∈ families ↔ family ∈ families') :
    derivePotentialImpact families = derivePotentialImpact families' := by
  unfold derivePotentialImpact
  have hany : (families.any fun family => highImpactFamilies.contains family) =
      families'.any fun family => highImpactFamilies.contains family := by
    rw [Bool.eq_iff_iff, List.any_eq_true, List.any_eq_true]
    exact exists_congr fun family => and_congr_left fun _ => h family
  rw [hany]

theorem mem_nextImpactFamilies_iff {row : HypothesisRow} {signal : Signal}
    {impactFamily : Option ImpactFamily} {family : String} :
    family ∈ nextImpactFamilies row signal impactFamily ↔
      family ∈ row.supportingImpactFamilies ∨
        signal.sourceTrust ≠ .quarantined ∧ ∃ f ∈ impactFamily, f.text = family := by
  rw [nextImpactFamilies, JsText.mem_sort, List.mem_dedup, List.mem_append]
  by_cases hq : signal.sourceTrust = .quarantined <;> simp [hq]

/-- The part of a hypothesis that the core's decisions rest on. -/
def ThreatHypothesis.core (h : ThreatHypothesis) : ThreatHypothesis :=
  { h with id := "", ignoredSignals := [] }

theorem core_applySignal (h : ThreatHypothesis) (signal : Signal) :
    (applySignal h signal).core = (applySignal h.core signal).core := by
  unfold applySignal
  split <;> rfl

/-- A latch that stands as the state demands is left alone at the same state. -/
theorem decideLatch_same {row : HypothesisRow}
    (h : row.incidentCandidateLatched = decide (incidentCandidateStateThreshold ≤ row.state)) :
    (decideLatch row row.state).latched = row.incidentCandidateLatched ∧
      (decideLatch row row.state).deEscalated = row.incidentCandidateDeEscalated ∧
      (decideLatch row row.state).emissions = row.incidentCandidateEmissions := by
  unfold decideLatch
  by_cases hstate : incidentCandidateStateThreshold ≤ row.state
  · rw [decide_eq_true hstate] at h
    simp [hstate, h]
  · rw [decide_eq_false hstate] at h
    simp [hstate, h]

theorem decideLatch_congr {row row' : HypothesisRow} (state : ThreatState)
    (hlatched : row.incidentCandidateLatched = row'.incidentCandidateLatched)
    (hdeEscalated : row.incidentCandidateDeEscalated = row'.incidentCandidateDeEscalated)
    (hemissions : row.incidentCandidateEmissions = row'.incidentCandidateEmissions) :
    decideLatch row state = decideLatch row' state := by
  unfold decideLatch
  rw [hlatched, hdeEscalated, hemissions]

/-- The event of a quarantined source leaves the assessment alone. -/
theorem Record.WellFormed.alike_absorb {r : Record} (h : r.WellFormed) {m : MappedEvent}
    (hq : m.signal.sourceTrust = .quarantined) : (r.absorb m).Alike r := by
  have hfamilies : ∀ family, family ∈ nextImpactFamilies r.row m.signal m.impactFamily ↔
      family ∈ r.row.supportingImpactFamilies := fun family => by
    simp [mem_nextImpactFamilies_iff, hq]
  have himpact : derivePotentialImpact (nextImpactFamilies r.row m.signal m.impactFamily) =
      r.row.potentialImpact := by
    rw [derivePotentialImpact_congr hfamilies, h.potentialImpact]
  have hassess : assess r.row m = { rebuildHypothesis r.row r.row.potentialImpact with
      ignoredSignals := r.row.ignoredSignals ++ [m.signal] } := by
    rw [assess, himpact, applySignal_of_quarantined hq]
    rfl
  have hparams : (applyParams r.row m).transitionRows = [] := by
    simp [ApplyEventParams.transitionRows, applyParams, hassess, rebuildHypothesis]
  obtain ⟨hlatched, hdeEscalated, hemissions⟩ := decideLatch_same h.latched
  refine ⟨?_, ?_, hfamilies⟩
  · have hstate : (assess r.row m).state = r.row.state := by rw [hassess]; rfl
    have hsignals : (assess r.row m).signals = r.row.signals := by rw [hassess]; rfl
    simp only [Record.assessment, Assessment.mk.injEq]
    refine ⟨hstate, ?_, ?_, ?_, ?_, ?_, ?_, ?_, ?_, hsignals, ?_, ?_, ?_⟩
    · show (assess r.row m).threatProbability = _
      rw [hassess]
      rfl
    · show (assess r.row m).detectionConfidence = _
      rw [hassess]
      rfl
    · show computeDiverseSupportingCount (assess r.row m).signals = _
      rw [hsignals, h.sourceDiversity]
    · show (assess r.row m).operationalSeverity = _
      rw [hassess, h.operationalSeverity]
      rfl
    · show (assess r.row m).potentialImpact = _
      rw [hassess]
      rfl
    · show (decideLatch r.row (assess r.row m).state).latched = _
      rw [hstate, hlatched]
    · show (decideLatch r.row (assess r.row m).state).deEscalated = _
      rw [hstate, hdeEscalated]
    · show (decideLatch r.row (assess r.row m).state).emissions = _
      rw [hstate, hemissions]
    · show (ofKind .supporting (assess r.row m).signals).map (·.signalId) = _
      rw [hsignals, h.supportingEventIds]
    · show (ofKind .contradicting (assess r.row m).signals).map (·.signalId) = _
      rw [hsignals, h.contradictingEventIds]
    · rw [Record.absorb, hparams, List.append_nil]
  · show r.row.transitionCount + (applyParams r.row m).transitions.length = _
    rw [← length_transitionRows, hparams]
    rfl

/-- The rows an application inserts, without their owner. -/
theorem map_transitionRows_congr {row row' : HypothesisRow} {m : MappedEvent}
    (hcount : row.transitionCount = row'.transitionCount)
    (htransitions : (assess row m).transitions = (assess row' m).transitions) :
    ((applyParams row m).transitionRows.map fun t => { t with hypothesisId := "" }) =
      (applyParams row' m).transitionRows.map fun t => { t with hypothesisId := "" } := by
  refine List.ext_getElem? fun i => ?_
  simp only [ApplyEventParams.transitionRows, applyParams, hcount, htransitions,
    List.getElem?_map, List.getElem?_mapIdx, Option.map_map]
  rfl

theorem Record.Alike.absorb {r r' : Record} (h : r.Alike r') (m : MappedEvent) :
    (r.absorb m).Alike (r'.absorb m) := by
  have hassessment := h.assessment
  simp only [Record.assessment, Assessment.mk.injEq] at hassessment
  obtain ⟨hstate, hthreat, hdetection, _, _, _, hlatched, hdeEscalated, hemissions, hsignals,
    _, _, hlog⟩ := hassessment
  have hfamilies : ∀ family, family ∈ nextImpactFamilies r.row m.signal m.impactFamily ↔
      family ∈ nextImpactFamilies r'.row m.signal m.impactFamily := fun family => by
    rw [mem_nextImpactFamilies_iff, mem_nextImpactFamilies_iff, h.families]
  have hcore : (assess r.row m).core = (assess r'.row m).core := by
    rw [assess, assess, core_applySignal, core_applySignal (rebuildHypothesis r'.row _)]
    simp only [rebuildHypothesis, ThreatHypothesis.core, hstate, hthreat, hdetection, hsignals,
      derivePotentialImpact_congr hfamilies]
  simp only [ThreatHypothesis.core, ThreatHypothesis.mk.injEq, true_and] at hcore
  obtain ⟨hstate', hdetection', hthreat', himpact', hseverity', hsignals', htransitions'⟩ := hcore
  have hlatch : decideLatch r.row (assess r.row m).state =
      decideLatch r'.row (assess r'.row m).state := by
    rw [hstate', decideLatch_congr _ hlatched hdeEscalated hemissions]
  refine ⟨?_, ?_, hfamilies⟩
  · simp only [Record.assessment, Assessment.mk.injEq]
    refine ⟨hstate', hthreat', hdetection', congrArg computeDiverseSupportingCount hsignals',
      hseverity', himpact', congrArg Latch.latched hlatch, congrArg Latch.deEscalated hlatch,
      congrArg Latch.emissions hlatch, hsignals', ?_, ?_, ?_⟩
    · exact congrArg (fun signals => (ofKind .supporting signals).map (·.signalId)) hsignals'
    · exact congrArg (fun signals => (ofKind .contradicting signals).map (·.signalId)) hsignals'
    · rw [Record.absorb, Record.absorb, List.map_append, List.map_append, hlog,
        map_transitionRows_congr h.transitionCount htransitions']
  · show r.row.transitionCount + ((assess r.row m).transitions.map _).length =
      r'.row.transitionCount + ((assess r'.row m).transitions.map _).length
    rw [h.transitionCount, List.length_map, List.length_map, htransitions']

/-! ## Replays of a window -/

def MappedEvent.isQuarantined (m : MappedEvent) : Bool := m.signal.isQuarantined

theorem alike_opened (correlation correlation' : CorrelationKey) (id id' candidate candidate' : String) :
    (Record.opened correlation id candidate).Alike (Record.opened correlation' id' candidate') :=
  ⟨rfl, rfl, fun _ => .rfl⟩

/-- Only the events of sources that are not quarantined matter to the assessment. -/
theorem alike_replay (correlation correlation' : CorrelationKey)
    (id id' candidate candidate' : String) (history : List MappedEvent) :
    ((Record.opened correlation id candidate).replay history).Alike
      ((Record.opened correlation' id' candidate').replay
        (history.filter fun m => !m.isQuarantined)) := by
  induction history using List.reverseRecOn with
  | nil => exact alike_opened ..
  | append_singleton history m ih =>
    rw [Record.replay_concat, List.filter_append]
    by_cases hq : m.isQuarantined = true
    · have hsource := Signal.isQuarantined_iff.mp hq
      simp only [List.filter_cons, hq, Bool.not_true, Bool.false_eq_true, if_false,
        List.filter_nil, List.append_nil]
      exact ((wellFormed_replay ..).alike_absorb hsource).trans ih
    · simp only [List.filter_cons, hq, Bool.not_false, if_true, List.filter_nil,
        Record.replay_concat]
      exact ih.absorb m

/-- The signals of the assessment are those of the events that count. -/
theorem signals_replay (correlation : CorrelationKey) (id candidate : String)
    (history : List MappedEvent) :
    ((Record.opened correlation id candidate).replay history).assessment.signals =
      (history.filter fun m => !m.isQuarantined).map fun m => processSignal m.signal := by
  have hrun := (threatState_run id
    ((Record.opened correlation id candidate).replay history).row.potentialImpact
    (history.map (·.signal))).signals
  rw [← hypothesis_replay] at hrun
  have hsignals : ((Record.opened correlation id candidate).replay history).assessment.signals =
      ((history.map (·.signal)).filter fun s => !s.isQuarantined).map processSignal := hrun
  rw [hsignals, List.filter_map, List.map_map]
  rfl

end Sentinel.Fusion
