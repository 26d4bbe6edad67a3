import Sentinel.Spec.ThreatStateContradiction

/-! # The order of the signals

Every number of a hypothesis is a function of the accepted signals that does not look at their
order.  The state is one too, but for the forced de-escalation and the life-safety gate. -/

namespace Sentinel.Fusion

section Perm

variable {a b : List ProcessedSignal}

theorem combineNoisyOr_perm {a b : List ℚ} (h : a.Perm b) :
    combineNoisyOr a = combineNoisyOr b := by
  rw [combineNoisyOr_eq, combineNoisyOr_eq, (h.map _).prod_eq]

theorem ofKind_perm (kind : SignalKind) (h : a.Perm b) : (ofKind kind a).Perm (ofKind kind b) :=
  h.filter _

theorem strength_perm (kind : SignalKind) (h : a.Perm b) : strength kind a = strength kind b :=
  combineNoisyOr_perm ((ofKind_perm kind h).map _)

theorem computeThreatProbability_perm (h : a.Perm b) :
    computeThreatProbability a = computeThreatProbability b := by
  show clamp01 (strength .supporting a - strength .contradicting a) =
    clamp01 (strength .supporting b - strength .contradicting b)
  rw [strength_perm .supporting h, strength_perm .contradicting h]

theorem computeDetectionConfidence_perm (h : a.Perm b) :
    computeDetectionConfidence a = computeDetectionConfidence b :=
  combineNoisyOr_perm (h.map _)

theorem computeDiverseSupportingCount_perm (h : a.Perm b) :
    computeDiverseSupportingCount a = computeDiverseSupportingCount b :=
  (((ofKind_perm .supporting h).filter _).map _).dedup.length_eq

theorem computeDiversityCeiling_perm (count : Nat) (h : a.Perm b) :
    computeDiversityCeiling count a = computeDiversityCeiling count b := by
  have hhuman := h.filter (·.qualifyingHuman)
  simp only [computeDiversityCeiling, hhuman.length_eq, hhuman.any_eq]

theorem historyState_perm (h : a.Perm b) : historyState a = historyState b := by
  rw [historyState, historyState, computeThreatProbability_perm h,
    computeDiverseSupportingCount_perm h, computeDiversityCeiling_perm _ (ofKind_perm _ h)]

end Perm

/-! ## Runs -/

/-- Neither a strong contradiction nor one that arms life safety, unless it is ignored. -/
def Plain (signal : Signal) : Prop :=
  signal.sourceTrust ≠ .quarantined →
    contradictionForced signal = false ∧ lifeSafetyEligible signal = false

instance (signal : Signal) : Decidable (Plain signal) := inferInstanceAs (Decidable (_ → _))

/-- Without forced de-escalation and the gate, the state is the one that the history gives. -/
theorem state_eq_historyState (id : String) (impact : PotentialImpact) {inputs : List Signal}
    (hplain : ∀ signal ∈ inputs, Plain signal) :
    (inputs.foldl applySignal (createHypothesis id impact)).state =
      historyState (inputs.foldl applySignal (createHypothesis id impact)).signals := by
  induction inputs using List.reverseRecOn with
  | nil => exact (by decide +kernel : (0 : ThreatState) = historyState [])
  | append_singleton inputs signal ih =>
    have hbefore := ih fun other hother => hplain other (List.mem_append_left _ hother)
    rw [List.foldl_append, List.foldl_cons, List.foldl_nil]
    by_cases hq : signal.sourceTrust = .quarantined
    · rw [applySignal_of_quarantined hq]
      exact hbefore
    · obtain ⟨hforced, hgate⟩ :=
        hplain signal (List.mem_append_right _ (List.mem_singleton_self signal)) hq
      rw [applySignal_signals hq]
      obtain ⟨heligible, -⟩ | ⟨-, hcapped⟩ := applySignal_state_cases
        (h := inputs.foldl applySignal (createHypothesis id impact)) hq
      · exact absurd heligible (by simp [hgate])
      · rw [hcapped, cappedState_eq, if_neg (by simp [hforced])]

/-- Two orders of the same signals give the same numbers, and without strong contradictions and
    life safety the same state and severity. -/
theorem order_independent (id : String) (impact : PotentialImpact) {inputs inputs' : List Signal}
    (hperm : inputs.Perm inputs') :
    let h := inputs.foldl applySignal (createHypothesis id impact)
    let h' := inputs'.foldl applySignal (createHypothesis id impact)
    h.threatProbability = h'.threatProbability ∧ h.detectionConfidence = h'.detectionConfidence ∧
      computeDiverseSupportingCount h.signals = computeDiverseSupportingCount h'.signals ∧
      ((∀ signal ∈ inputs, Plain signal) →
        h.state = h'.state ∧ h.operationalSeverity = h'.operationalSeverity) := by
  intro h h'
  have hrun := threatState_run id impact inputs
  have hrun' := threatState_run id impact inputs'
  have hderived : Derived h := (grounded_run id impact inputs).2
  have hderived' : Derived h' := (grounded_run id impact inputs').2
  have hsignals : h.signals.Perm h'.signals := by
    rw [hrun.signals, hrun'.signals]
    exact (hperm.filter _).map processSignal
  refine ⟨?_, ?_, computeDiverseSupportingCount_perm hsignals, fun hplain => ?_⟩
  · rw [hderived.1, hderived'.1, computeThreatProbability_perm hsignals]
  · rw [hderived.2, hderived'.2, computeDetectionConfidence_perm hsignals]
  · have hstate : h.state = h'.state := by
      rw [state_eq_historyState id impact hplain,
        state_eq_historyState id impact fun signal hsignal => hplain signal (hperm.mem_iff.mpr hsignal)]
      exact historyState_perm hsignals
    have himpact (signals : List Signal) :
        (signals.foldl applySignal (createHypothesis id impact)).potentialImpact = impact := by
      induction signals using List.reverseRecOn with
      | nil => rfl
      | append_singleton signals signal ih =>
        rw [List.foldl_append, List.foldl_cons, List.foldl_nil, applySignal_potentialImpact, ih]
    refine ⟨hstate, ?_⟩
    rw [hrun.operationalSeverity, hrun'.operationalSeverity, hstate, himpact, himpact]

/-- A report and a weak contradiction. -/
def reportAndDoubt : List Signal :=
  [trustedSignal "s1" "cam-1" .supporting (7 / 10),
    trustedSignal "s2" "cam-2" .contradicting (1 / 10)]

theorem order_independent_reportAndDoubt :
    let h := reportAndDoubt.foldl applySignal (createHypothesis "H1" .high)
    let h' := reportAndDoubt.reverse.foldl applySignal (createHypothesis "H1" .high)
    h.threatProbability = h'.threatProbability ∧ h.state = h'.state ∧
      h.operationalSeverity = h'.operationalSeverity := by
  obtain ⟨hprobability, -, -, hstate⟩ :=
    order_independent "H1" .high (List.reverse_perm reportAndDoubt).symm
  exact ⟨hprobability, hstate (by decide +kernel)⟩

end Sentinel.Fusion
