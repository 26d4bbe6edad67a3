import Mathlib.Data.List.Induction
import Sentinel.ForStd.List
import Sentinel.ForStd.Walk
import Sentinel.Native.ThreatState

/-! # Invariants of the threat-state machine

What holds of a hypothesis after any finite run of `applySignal` from `createHypothesis`. -/

namespace Sentinel.Fusion

/-! ## Ranges -/

theorem clamp01_nonneg (x : ℚ) : 0 ≤ clamp01 x := le_min zero_le_one (le_max_left 0 x)

theorem clamp01_le_one (x : ℚ) : clamp01 x ≤ 1 := min_le_left 1 _

/-- A value in the unit interval. -/
def InUnit (x : ℚ) : Prop := 0 ≤ x ∧ x ≤ 1

theorem inUnit_clamp01 (x : ℚ) : InUnit (clamp01 x) := ⟨clamp01_nonneg x, clamp01_le_one x⟩

theorem inUnit_zero : InUnit 0 := ⟨le_rfl, zero_le_one⟩

/-! ## One step -/

section Step

variable {hypothesis : ThreatHypothesis} {signal : Signal}

/-- A quarantined source is recorded, and nothing else changes. -/
theorem applySignal_of_quarantined (h : signal.sourceTrust = .quarantined) :
    applySignal hypothesis signal =
      { hypothesis with ignoredSignals := hypothesis.ignoredSignals ++ [signal] } := by
  rw [applySignal, if_pos h]

theorem applySignal_id : (applySignal hypothesis signal).id = hypothesis.id := by
  unfold applySignal
  split <;> rfl

theorem applySignal_potentialImpact :
    (applySignal hypothesis signal).potentialImpact = hypothesis.potentialImpact := by
  unfold applySignal
  split <;> rfl

theorem applySignal_signals (h : signal.sourceTrust ≠ .quarantined) :
    (applySignal hypothesis signal).signals = hypothesis.signals ++ [processSignal signal] := by
  rw [applySignal, if_neg h]

theorem applySignal_ignoredSignals (h : signal.sourceTrust ≠ .quarantined) :
    (applySignal hypothesis signal).ignoredSignals = hypothesis.ignoredSignals := by
  rw [applySignal, if_neg h]

theorem applySignal_state (h : signal.sourceTrust ≠ .quarantined) :
    (applySignal hypothesis signal).state =
      (assessState hypothesis.state (hypothesis.signals ++ [processSignal signal]) signal).1 := by
  rw [applySignal, if_neg h]

theorem applySignal_threatProbability (h : signal.sourceTrust ≠ .quarantined) :
    (applySignal hypothesis signal).threatProbability =
      computeThreatProbability (hypothesis.signals ++ [processSignal signal]) := by
  rw [applySignal, if_neg h]

theorem applySignal_detectionConfidence (h : signal.sourceTrust ≠ .quarantined) :
    (applySignal hypothesis signal).detectionConfidence =
      computeDetectionConfidence (hypothesis.signals ++ [processSignal signal]) := by
  rw [applySignal, if_neg h]

theorem applySignal_operationalSeverity (h : signal.sourceTrust ≠ .quarantined) :
    (applySignal hypothesis signal).operationalSeverity =
      deriveSeverity (applySignal hypothesis signal).state hypothesis.potentialImpact := by
  rw [applySignal, if_neg h]

/-- The severity stays the one derived from the state and the impact. -/
theorem applySignal_severity
    (h : hypothesis.operationalSeverity =
      deriveSeverity hypothesis.state hypothesis.potentialImpact) :
    (applySignal hypothesis signal).operationalSeverity =
      deriveSeverity (applySignal hypothesis signal).state
        (applySignal hypothesis signal).potentialImpact := by
  by_cases hq : signal.sourceTrust = .quarantined
  · rw [applySignal_of_quarantined hq]
    exact h
  · rw [applySignal_potentialImpact]
    exact applySignal_operationalSeverity hq

/-- At most one transition is appended, from the state before to the state after. -/
theorem applySignal_transitions (hypothesis : ThreatHypothesis) (signal : Signal) :
    (applySignal hypothesis signal).transitions = hypothesis.transitions ∧
        (applySignal hypothesis signal).state = hypothesis.state ∨
      ∃ t : Transition, t.fromState = hypothesis.state ∧
        t.toState = (applySignal hypothesis signal).state ∧ t.toState ≠ t.fromState ∧
        t.signalId = signal.signalId ∧
        (applySignal hypothesis signal).transitions = hypothesis.transitions ++ [t] := by
  by_cases h : signal.sourceTrust = .quarantined
  · rw [applySignal_of_quarantined h]
    exact .inl ⟨rfl, rfl⟩
  · rw [applySignal, if_neg h]
    by_cases hchange :
        (assessState hypothesis.state (hypothesis.signals ++ [processSignal signal]) signal).1 ≠
          hypothesis.state
    · refine .inr ⟨_, ?_, ?_, ?_, ?_, if_pos hchange⟩
      · rfl
      · rfl
      · exact hchange
      · rfl
    · exact .inl ⟨if_neg hchange, not_not.mp hchange⟩

end Step

/-! ## What a high state rests on -/

/-- The evidence behind the states from 3 up: two independent supporting sources, or a
    human-authorised field report. -/
def Corroborated (signals : List ProcessedSignal) : Prop :=
  2 ≤ computeDiverseSupportingCount signals ∨
    ∃ s ∈ signals, s.kind = .supporting ∧ s.humanAuthorised = some true ∧ s.sourceType = .field

theorem mem_ofKind {kind : SignalKind} {signals : List ProcessedSignal} {s : ProcessedSignal} :
    s ∈ ofKind kind signals ↔ s ∈ signals ∧ s.kind = kind := by
  simp [ofKind]

/-- The diversity cap lets a state of 3 or more through only on corroboration. -/
theorem corroborated_of_ceiling {signals : List ProcessedSignal}
    (h : 3 ≤ computeDiversityCeiling (computeDiverseSupportingCount signals)
      (ofKind .supporting signals)) : Corroborated signals := by
  by_cases hdiverse : 2 ≤ computeDiverseSupportingCount signals
  · exact .inl hdiverse
  · right
    rw [computeDiversityCeiling, if_neg hdiverse] at h
    by_cases hnone : ((ofKind .supporting signals).filter (·.qualifyingHuman)).length = 0
    · simp only [hnone, if_true] at h
      exact absurd h (by decide)
    · obtain ⟨s, hs⟩ := List.exists_mem_of_length_pos (Nat.pos_of_ne_zero hnone)
      obtain ⟨hs, hhuman⟩ := List.mem_filter.mp hs
      obtain ⟨hs, hkind⟩ := mem_ofKind.mp hs
      simp only [ProcessedSignal.qualifyingHuman, Bool.and_eq_true, decide_eq_true_eq] at hhuman
      exact ⟨s, hs, hkind, hhuman.1, hhuman.2⟩

theorem stateFromProbability_le (p : ℚ) : stateFromProbability p ≤ 4 := by
  unfold stateFromProbability
  split_ifs <;> decide

theorem cappedState_le_ceiling (previous : ThreatState) (signals : List ProcessedSignal)
    (signal : Signal) :
    cappedState previous signals signal ≤
      computeDiversityCeiling (computeDiverseSupportingCount signals)
        (ofKind .supporting signals) := by
  unfold cappedState
  split
  · exact (min_le_left _ _).trans (min_le_right _ _)
  · exact min_le_right _ _

/-- Without the life-safety gate no history reaches state 5. -/
theorem cappedState_le_four (previous : ThreatState) (signals : List ProcessedSignal)
    (signal : Signal) : cappedState previous signals signal ≤ 4 := by
  have hbase := stateFromProbability_le (computeThreatProbability signals)
  unfold cappedState
  split
  · exact ((min_le_left _ _).trans (min_le_left _ _)).trans hbase
  · exact (min_le_left _ _).trans hbase

section Assess

variable {previous : ThreatState} {signals : List ProcessedSignal} {signal : Signal}

/-- The gate opens only on a state that is already 3 or more. -/
theorem corroborated_of_assessState (h : 3 ≤ (assessState previous signals signal).1) :
    Corroborated signals := by
  have hcapped : 3 ≤ cappedState previous signals signal := by
    by_cases hgate : (lifeSafetyEligible signal &&
        decide (3 ≤ cappedState previous signals signal)) = true
    · rw [Bool.and_eq_true, decide_eq_true_eq] at hgate
      exact hgate.2
    · simpa [assessState, hgate] using h
  exact corroborated_of_ceiling (hcapped.trans (cappedState_le_ceiling ..))

/-- State 5 is the gate's, never the probability's. -/
theorem lifeSafetyEligible_of_assessState (h : (assessState previous signals signal).1 = 5) :
    lifeSafetyEligible signal = true := by
  by_contra hgate
  have hcapped : (assessState previous signals signal).1 = cappedState previous signals signal := by
    simp [assessState, hgate]
  have hle := cappedState_le_four previous signals signal
  rw [← hcapped, h] at hle
  exact absurd hle (by decide)

end Assess

/-- The signal armed the life-safety rule, from a trusted or a human source. -/
theorem lifeSafetyEligible_iff {signal : Signal} :
    lifeSafetyEligible signal = true ↔
      signal.lifeSafety = some true ∧
        (signal.sourceTrust = .trusted ∨ signal.humanAuthorised = some true) := by
  simp [lifeSafetyEligible]

/-! ## Every run -/

def Signal.isQuarantined (signal : Signal) : Bool := signal.sourceTrust = .quarantined

theorem Signal.isQuarantined_iff {signal : Signal} :
    signal.isQuarantined = true ↔ signal.sourceTrust = .quarantined := by
  simp [isQuarantined]

/-- What holds of a hypothesis after the given signals. -/
structure RunInvariant (inputs : List Signal) (h : ThreatHypothesis) : Prop where
  /-- The accepted signals, weighted, in the order they came in. -/
  signals : h.signals = (inputs.filter fun s => !s.isQuarantined).map processSignal
  /-- The rest of them, as they came in. -/
  ignoredSignals : h.ignoredSignals = inputs.filter (·.isQuarantined)
  weightedConfidence : ∀ s ∈ h.signals, InUnit s.weightedConfidence
  threatProbability : InUnit h.threatProbability
  detectionConfidence : InUnit h.detectionConfidence
  corroborated : 3 ≤ h.state → Corroborated h.signals
  lifeSafety : h.state = 5 → ∃ s, h.signals.getLast? = some s ∧ s.lifeSafety = some true ∧
    (s.sourceTrust = .trusted ∨ s.humanAuthorised = some true)
  operationalSeverity : h.operationalSeverity = deriveSeverity h.state h.potentialImpact
  /-- The log leads from state 0 to the current state, and every entry changes the state. -/
  transitions : Walk Transition.fromState Transition.toState 0 h.transitions h.state
  changes : ∀ t ∈ h.transitions, t.toState ≠ t.fromState

theorem runInvariant_createHypothesis (id : String) (impact : PotentialImpact) :
    RunInvariant [] (createHypothesis id impact) where
  signals := rfl
  ignoredSignals := rfl
  weightedConfidence := fun _ h => nomatch h
  threatProbability := inUnit_zero
  detectionConfidence := inUnit_zero
  corroborated := fun h => absurd h (by simp [createHypothesis])
  lifeSafety := fun h => absurd h (by simp [createHypothesis])
  operationalSeverity := rfl
  transitions := rfl
  changes := fun _ h => nomatch h

section Preserved

variable {inputs : List Signal} {h : ThreatHypothesis} {signal : Signal}

/-- The log stays a walk to the current state, whatever the signal does to the state. -/
theorem RunInvariant.transitions_applySignal (hinv : RunInvariant inputs h) :
    Walk Transition.fromState Transition.toState 0 (applySignal h signal).transitions
        (applySignal h signal).state ∧
      ∀ t ∈ (applySignal h signal).transitions, t.toState ≠ t.fromState := by
  rcases applySignal_transitions h signal with
    ⟨hsame, hstate⟩ | ⟨t, hsource, htarget, hchange, _, happend⟩
  · rw [hsame, hstate]
    exact ⟨hinv.transitions, hinv.changes⟩
  · rw [happend]
    refine ⟨hinv.transitions.concat hsource htarget, fun u hu => ?_⟩
    rcases List.of_mem_concat hu with hu | rfl
    · exact hinv.changes u hu
    · exact hchange

/-- A quarantined source moves only the record of what was ignored. -/
theorem RunInvariant.quarantined (hinv : RunInvariant inputs h)
    (hq : signal.sourceTrust = .quarantined) :
    RunInvariant (inputs ++ [signal]) (applySignal h signal) := by
  have hfilter : signal.isQuarantined = true := Signal.isQuarantined_iff.mpr hq
  rw [applySignal_of_quarantined hq]
  exact
    { hinv with
      signals := by simpa [List.filter_append, hfilter] using hinv.signals
      ignoredSignals := by simpa [List.filter_append, hfilter] using hinv.ignoredSignals }

/-- Any other signal is appended, and everything is derived anew from the history. -/
theorem RunInvariant.accepted (hinv : RunInvariant inputs h)
    (hq : signal.sourceTrust ≠ .quarantined) :
    RunInvariant (inputs ++ [signal]) (applySignal h signal) where
  signals := by
    have hfilter : signal.isQuarantined = false := by
      simpa [Signal.isQuarantined] using hq
    rw [applySignal_signals hq, hinv.signals]
    simp [List.filter_append, hfilter]
  ignoredSignals := by
    have hfilter : signal.isQuarantined = false := by
      simpa [Signal.isQuarantined] using hq
    rw [applySignal_ignoredSignals hq, hinv.ignoredSignals]
    simp [List.filter_append, hfilter]
  weightedConfidence := fun s hs => by
    rw [applySignal_signals hq] at hs
    rcases List.of_mem_concat hs with hs | rfl
    · exact hinv.weightedConfidence s hs
    · exact inUnit_clamp01 _
  threatProbability := by
    rw [applySignal_threatProbability hq]
    exact inUnit_clamp01 _
  detectionConfidence := by
    rw [applySignal_detectionConfidence hq]
    exact inUnit_clamp01 _
  corroborated := fun hstate => by
    rw [applySignal_state hq] at hstate
    rw [applySignal_signals hq]
    exact corroborated_of_assessState hstate
  lifeSafety := fun hstate => by
    rw [applySignal_state hq] at hstate
    have heligible := lifeSafetyEligible_of_assessState hstate
    refine ⟨processSignal signal, ?_, lifeSafetyEligible_iff.mp heligible⟩
    rw [applySignal_signals hq, List.getLast?_concat]
  operationalSeverity := by
    rw [applySignal_potentialImpact]
    exact applySignal_operationalSeverity hq
  transitions := hinv.transitions_applySignal.1
  changes := hinv.transitions_applySignal.2

theorem RunInvariant.applySignal (hinv : RunInvariant inputs h) :
    RunInvariant (inputs ++ [signal]) (applySignal h signal) := by
  by_cases hq : signal.sourceTrust = .quarantined
  · exact hinv.quarantined hq
  · exact hinv.accepted hq

end Preserved

/-- What holds of a hypothesis after every finite run of `applySignal`. -/
theorem threatState_run (id : String) (impact : PotentialImpact) (inputs : List Signal) :
    RunInvariant inputs (inputs.foldl applySignal (createHypothesis id impact)) := by
  -- the invariant speaks of all signals so far, so the run is taken apart at its end
  induction inputs using List.reverseRecOn with
  | nil => exact runInvariant_createHypothesis id impact
  | append_singleton inputs signal ih =>
    rw [List.foldl_append, List.foldl_cons, List.foldl_nil]
    exact ih.applySignal

end Sentinel.Fusion
