import Sentinel.Spec.ThreatStateInvariant
import Mathlib.Algebra.BigOperators.Group.List.Lemmas
import Mathlib.Tactic.Linarith

/-! # When a contradiction raises the threat state

A contradicting signal never adds support.  The state is at least what the history gives, except
after a strong contradiction has forced it from 2 to 1; and the life-safety gate does not ask for a
supporting signal. -/

namespace Sentinel.Fusion

/-! ## Strengths -/

theorem clamp01_of_inUnit {x : ℚ} (h : InUnit x) : clamp01 x = x := by
  rw [clamp01, max_eq_right h.1, min_eq_right h.2]

/-- The accumulator of `combineNoisyOr`. -/
theorem foldl_complements (weights : List ℚ) (acc : ℚ) :
    weights.foldl (fun acc w => acc * (1 - clamp01 w)) acc =
      acc * (weights.map fun w => 1 - clamp01 w).prod := by
  induction weights generalizing acc with
  | nil => simp
  | cons w weights ih => rw [List.foldl_cons, ih, List.map_cons, List.prod_cons, mul_assoc]

theorem inUnit_prod_complements (weights : List ℚ) :
    InUnit (weights.map fun w => 1 - clamp01 w).prod := by
  induction weights with
  | nil => exact ⟨zero_le_one, le_rfl⟩
  | cons w weights ih =>
    have hnonneg := clamp01_nonneg w
    have hle := clamp01_le_one w
    rw [List.map_cons, List.prod_cons]
    exact ⟨mul_nonneg (by linarith) ih.1, mul_le_one₀ (by linarith) ih.1 ih.2⟩

theorem combineNoisyOr_eq (weights : List ℚ) :
    combineNoisyOr weights = 1 - (weights.map fun w => 1 - clamp01 w).prod := by
  have hunit := inUnit_prod_complements weights
  rw [combineNoisyOr, foldl_complements, one_mul]
  exact clamp01_of_inUnit ⟨by linarith [hunit.2], by linarith [hunit.1]⟩

/-- One more weight closes its share of what is open. -/
theorem combineNoisyOr_concat (weights : List ℚ) (w : ℚ) :
    combineNoisyOr (weights ++ [w]) = 1 - (1 - combineNoisyOr weights) * (1 - clamp01 w) := by
  rw [combineNoisyOr_eq, combineNoisyOr_eq, List.map_append, List.prod_append]
  simp

def strength (kind : SignalKind) (signals : List ProcessedSignal) : ℚ :=
  combineNoisyOr ((ofKind kind signals).map (·.weightedConfidence))

theorem strength_inUnit (kind : SignalKind) (signals : List ProcessedSignal) :
    InUnit (strength kind signals) := inUnit_clamp01 _

section Contradicting

variable {signals : List ProcessedSignal} {signal : Signal}

theorem ofKind_supporting_concat (hkind : signal.kind = .contradicting) :
    ofKind .supporting (signals ++ [processSignal signal]) = ofKind .supporting signals := by
  have hskip : ¬ (processSignal signal).kind = .supporting := by
    show ¬ signal.kind = .supporting
    rw [hkind]
    decide
  rw [ofKind, ofKind, List.filter_append]
  simp [hskip]

theorem strength_supporting_concat (hkind : signal.kind = .contradicting) :
    strength .supporting (signals ++ [processSignal signal]) = strength .supporting signals := by
  rw [strength, strength, ofKind_supporting_concat hkind]

theorem strength_contradicting_concat (hkind : signal.kind = .contradicting) :
    strength .contradicting (signals ++ [processSignal signal]) =
      1 - (1 - strength .contradicting signals) *
        (1 - (processSignal signal).weightedConfidence) := by
  have htake : (processSignal signal).kind = .contradicting := hkind
  have hlast : ofKind .contradicting (signals ++ [processSignal signal]) =
      ofKind .contradicting signals ++ [processSignal signal] := by
    rw [ofKind, ofKind, List.filter_append]
    simp [htake]
  rw [strength, strength, hlast, List.map_append, List.map_cons, List.map_nil,
    combineNoisyOr_concat]
  congr 2
  rw [clamp01_of_inUnit]
  exact inUnit_clamp01 _

end Contradicting

/-! ## The state that a history gives -/

/-- The state from the probability, under the diversity cap. -/
def historyState (signals : List ProcessedSignal) : ThreatState :=
  min (stateFromProbability (computeThreatProbability signals))
    (computeDiversityCeiling (computeDiverseSupportingCount signals) (ofKind .supporting signals))

theorem two_le_ceiling (count : Nat) (supporting : List ProcessedSignal) :
    2 ≤ computeDiversityCeiling count supporting := by
  unfold computeDiversityCeiling
  split
  · decide
  · simp only
    split_ifs <;> decide

theorem le_stateFromProbability {p : ℚ} :
    (1 ≤ stateFromProbability p ↔ 2 / 10 ≤ p) ∧ (2 ≤ stateFromProbability p ↔ 4 / 10 ≤ p) ∧
      (3 ≤ stateFromProbability p ↔ 65 / 100 ≤ p) := by
  unfold stateFromProbability
  split_ifs with h4 h3 h2 h1
  · exact ⟨iff_of_true (by decide) (by linarith), iff_of_true (by decide) (by linarith),
      iff_of_true (by decide) (by linarith)⟩
  · exact ⟨iff_of_true (by decide) (by linarith), iff_of_true (by decide) (by linarith),
      iff_of_true (by decide) h3⟩
  · exact ⟨iff_of_true (by decide) (by linarith), iff_of_true (by decide) h2,
      iff_of_false (by decide) h3⟩
  · exact ⟨iff_of_true (by decide) h1, iff_of_false (by decide) h2,
      iff_of_false (by decide) h3⟩
  · exact ⟨iff_of_false (by decide) h1, iff_of_false (by decide) h2,
      iff_of_false (by decide) h3⟩

/-- The probability reaches a positive threshold when the strengths are that far apart. -/
theorem le_threatProbability {signals : List ProcessedSignal} {t : ℚ} (hpos : 0 < t) (hle : t ≤ 1) :
    t ≤ computeThreatProbability signals ↔
      t ≤ strength .supporting signals - strength .contradicting signals := by
  show t ≤ min 1 (max 0 _) ↔ _
  rw [le_min_iff, le_max_iff]
  constructor
  · rintro ⟨-, hzero | hdiff⟩
    · linarith
    · exact hdiff
  · exact fun hdiff => ⟨hle, .inr hdiff⟩

theorem le_historyState_iff {signals : List ProcessedSignal} {n : ThreatState} :
    n ≤ historyState signals ↔ n ≤ stateFromProbability (computeThreatProbability signals) ∧
      n ≤ computeDiversityCeiling (computeDiverseSupportingCount signals)
        (ofKind .supporting signals) := le_min_iff

theorem one_le_historyState {signals : List ProcessedSignal} :
    1 ≤ historyState signals ↔
      2 / 10 ≤ strength .supporting signals - strength .contradicting signals := by
  have hceiling : 1 ≤ computeDiversityCeiling (computeDiverseSupportingCount signals)
      (ofKind .supporting signals) := le_trans (by decide) (two_le_ceiling _ _)
  rw [le_historyState_iff, and_iff_left hceiling, le_stateFromProbability.1,
    le_threatProbability (by norm_num) (by norm_num)]

theorem two_le_historyState {signals : List ProcessedSignal} :
    2 ≤ historyState signals ↔
      4 / 10 ≤ strength .supporting signals - strength .contradicting signals := by
  rw [le_historyState_iff, and_iff_left (two_le_ceiling _ _), le_stateFromProbability.2.1,
    le_threatProbability (by norm_num) (by norm_num)]

theorem three_le_historyState {signals : List ProcessedSignal} :
    3 ≤ historyState signals ↔
      65 / 100 ≤ strength .supporting signals - strength .contradicting signals ∧
        3 ≤ computeDiversityCeiling (computeDiverseSupportingCount signals)
          (ofKind .supporting signals) := by
  rw [le_historyState_iff, le_stateFromProbability.2.2,
    le_threatProbability (by norm_num) (by norm_num)]

theorem cappedState_eq (previous : ThreatState) (signals : List ProcessedSignal) (signal : Signal) :
    cappedState previous signals signal =
      if contradictionForced signal then
        min (historyState signals) (clampState (max 0 ((previous.val : Int) - 1)))
      else historyState signals := rfl

/-! ## Reachable hypotheses -/

/-- The state is at least what the history gives, or a strong contradiction has forced it from 2
    to 1 where the history still gives 2. -/
def Grounded (h : ThreatHypothesis) : Prop :=
  historyState h.signals ≤ h.state ∨
    h.state = 1 ∧ strength .supporting h.signals = 1 ∧ strength .contradicting h.signals = 6 / 10

theorem clampState_pred (state : ThreatState) :
    (clampState (max 0 ((state.val : Int) - 1))).val = state.val - 1 := by
  revert state
  decide

theorem contradictionForced_iff {signal : Signal} :
    contradictionForced signal = true ↔ signal.kind = .contradicting ∧
      6 / 10 ≤ (processSignal signal).weightedConfidence := by
  simp [contradictionForced]

section Step

variable {h : ThreatHypothesis} {signal : Signal}

/-- A strong contradiction leaves at most 2 to the history. -/
theorem strength_of_forced (hforced : contradictionForced signal = true) :
    6 / 10 ≤ strength .contradicting (h.signals ++ [processSignal signal]) ∧
      strength .supporting (h.signals ++ [processSignal signal]) ≤ 1 ∧
      historyState (h.signals ++ [processSignal signal]) ≤ 2 := by
  obtain ⟨hkind, hweight⟩ := contradictionForced_iff.mp hforced
  have hsupport := (strength_inUnit .supporting (h.signals ++ [processSignal signal])).2
  have hopen := strength_inUnit .contradicting h.signals
  have hstrong : 6 / 10 ≤ strength .contradicting (h.signals ++ [processSignal signal]) := by
    have hunit : (processSignal signal).weightedConfidence ≤ 1 := clamp01_le_one _
    rw [strength_contradicting_concat hkind]
    have hshare := mul_le_mul_of_nonneg_right
      (show 1 - strength .contradicting h.signals ≤ 1 by linarith [hopen.1])
      (show 0 ≤ 1 - (processSignal signal).weightedConfidence by linarith)
    linarith
  refine ⟨hstrong, hsupport, ?_⟩
  by_contra hthree
  have hthree' : 3 ≤ historyState (h.signals ++ [processSignal signal]) :=
    Fin.add_one_le_of_lt (not_le.mp hthree)
  have hfar := (three_le_historyState.mp hthree').1
  linarith

/-- Where a strong contradiction forces the state below what the history gives. -/
theorem forced_below (hgrounded : Grounded h) (hforced : contradictionForced signal = true)
    (hlt : clampState (max 0 ((h.state.val : Int) - 1)) <
      historyState (h.signals ++ [processSignal signal])) :
    h.state = 2 ∧ strength .supporting (h.signals ++ [processSignal signal]) = 1 ∧
      strength .contradicting (h.signals ++ [processSignal signal]) = 6 / 10 := by
  obtain ⟨hkind, hweight⟩ := contradictionForced_iff.mp hforced
  obtain ⟨hstrong, hsupport, htwo⟩ := strength_of_forced (h := h) hforced
  have hpred := clampState_pred h.state
  have hltVal : (clampState (max 0 ((h.state.val : Int) - 1))).val <
      (historyState (h.signals ++ [processSignal signal])).val := hlt
  have htwoVal : (historyState (h.signals ++ [processSignal signal])).val ≤ 2 := htwo
  have hone : 1 ≤ historyState (h.signals ++ [processSignal signal]) := by
    show 1 ≤ (historyState (h.signals ++ [processSignal signal])).val
    omega
  have hnear := one_le_historyState.mp hone
  by_cases hstate : h.state.val ≤ 1
  · -- the history was at 2 or more before the signal, which the state then was too
    exfalso
    rw [strength_supporting_concat hkind, strength_contradicting_concat hkind] at hnear
    rw [strength_supporting_concat hkind] at hsupport
    have hopen := strength_inUnit .contradicting h.signals
    have hshare := mul_le_mul_of_nonneg_left
      (show 1 - (processSignal signal).weightedConfidence ≤ 4 / 10 by linarith)
      (show 0 ≤ 1 - strength .contradicting h.signals by linarith [hopen.2])
    obtain hkept | ⟨-, hfull, hsix⟩ := hgrounded
    · have hbelow : ¬ 2 ≤ historyState h.signals := by
        intro habove
        have hstate' : 2 ≤ h.state := habove.trans hkept
        have : 2 ≤ h.state.val := hstate'
        omega
      rw [two_le_historyState, not_le] at hbelow
      linarith
    · rw [hfull, hsix] at hnear
      linarith
  · have hstate2 : h.state.val = 2 := by omega
    have hreach : 2 ≤ historyState (h.signals ++ [processSignal signal]) := by
      show 2 ≤ (historyState (h.signals ++ [processSignal signal])).val
      omega
    have hfar := two_le_historyState.mp hreach
    exact ⟨Fin.ext hstate2, by linarith, by linarith⟩

/-- The state after an accepted signal, by whether the gate opens. -/
theorem applySignal_state_cases (hq : signal.sourceTrust ≠ .quarantined) :
    (lifeSafetyEligible signal = true ∧
        3 ≤ cappedState h.state (h.signals ++ [processSignal signal]) signal ∧
        (applySignal h signal).state = 5) ∨
      ¬ (lifeSafetyEligible signal = true ∧
        3 ≤ cappedState h.state (h.signals ++ [processSignal signal]) signal) ∧
        (applySignal h signal).state =
          cappedState h.state (h.signals ++ [processSignal signal]) signal := by
  rw [applySignal_state hq, assessState]
  by_cases hgate : lifeSafetyEligible signal = true ∧
      3 ≤ cappedState h.state (h.signals ++ [processSignal signal]) signal
  · exact .inl ⟨hgate.1, hgate.2, by simp [hgate.1, hgate.2]⟩
  · exact .inr ⟨hgate, if_neg fun hopen => hgate (by simpa using hopen)⟩

theorem Grounded.applySignal (hgrounded : Grounded h) : Grounded (applySignal h signal) := by
  by_cases hq : signal.sourceTrust = .quarantined
  · rw [applySignal_of_quarantined hq]
    exact hgrounded
  · rw [Grounded, applySignal_signals hq]
    obtain ⟨-, -, hfive⟩ | ⟨-, hcapped⟩ := applySignal_state_cases (h := h) hq
    · rw [hfive]
      exact .inl (Fin.le_last _)
    · rw [hcapped, cappedState_eq]
      by_cases hforced : contradictionForced signal = true
      · rw [if_pos hforced]
        obtain hle | hlt := le_or_gt (historyState (h.signals ++ [processSignal signal]))
          (clampState (max 0 ((h.state.val : Int) - 1)))
        · exact .inl (by rw [min_eq_left hle])
        · obtain ⟨hstate, hstrengths⟩ := forced_below hgrounded hforced hlt
          refine .inr ⟨?_, hstrengths⟩
          rw [min_eq_right hlt.le, hstate]
          rfl
      · rw [if_neg hforced]
        exact .inl le_rfl

end Step

/-- The numbers of a hypothesis are those of its history. -/
def Derived (h : ThreatHypothesis) : Prop :=
  h.threatProbability = computeThreatProbability h.signals ∧
    h.detectionConfidence = computeDetectionConfidence h.signals

theorem Derived.applySignal {h : ThreatHypothesis} {signal : Signal} (hderived : Derived h) :
    Derived (applySignal h signal) := by
  by_cases hq : signal.sourceTrust = .quarantined
  · rw [applySignal_of_quarantined hq]
    exact hderived
  · rw [Derived, applySignal_threatProbability hq, applySignal_detectionConfidence hq,
      applySignal_signals hq]
    exact ⟨rfl, rfl⟩

theorem grounded_run (id : String) (impact : PotentialImpact) (inputs : List Signal) :
    Grounded (inputs.foldl applySignal (createHypothesis id impact)) ∧
      Derived (inputs.foldl applySignal (createHypothesis id impact)) := by
  induction inputs using List.reverseRecOn with
  | nil =>
    have hstate : historyState [] ≤ 0 := by decide +kernel
    have hprobability : 0 = computeThreatProbability [] := by decide +kernel
    have hconfidence : 0 = computeDetectionConfidence [] := by decide +kernel
    exact ⟨.inl hstate, hprobability, hconfidence⟩
  | append_singleton inputs signal ih =>
    rw [List.foldl_append, List.foldl_cons, List.foldl_nil]
    exact ⟨ih.1.applySignal, ih.2.applySignal⟩

/-- SEV1 is the most severe. -/
def OperationalSeverity.number : OperationalSeverity → Nat
  | sev1 => 1
  | sev2 => 2
  | sev3 => 3
  | sev4 => 4
  | sev5 => 5

section Raises

variable {h : ThreatHypothesis} {signal : Signal}

end Raises

def trustedSignal (signalId sourceId : String) (kind : SignalKind) (confidence : ℚ) : Signal where
  signalId
  sourceId
  sourceType := .camera
  sourceTrust := .trusted
  kind
  confidence
  humanAuthorised := some false
  lifeSafety := some false

end Sentinel.Fusion
