import Mathlib.Algebra.Order.Floor.Ring
import Mathlib.Data.List.Dedup
import Mathlib.Data.Rat.Floor
import Mathlib.Order.Fin.Basic

/-! # The threat-state machine

The pure core of Fusion (`modules/fusion/core/threatState.ts`).  A hypothesis
accumulates signals; every signal from a source that is not quarantined is weighted
by the trust in its source, appended for good, and the probabilities, the source
diversity and the state are computed anew from the whole history.

Confidences and probabilities are exact rationals. -/

namespace Sentinel.Fusion

/-- `ThreatStateSchema`: 0 NORMAL, 1 OBSERVE, 2 SUSPICIOUS, 3 PROBABLE_THREAT,
    4 VERIFIED_THREAT, 5 CRITICAL_LIFE_SAFETY. -/
abbrev ThreatState := Fin 6

instance neZeroThreatState : NeZero (5 + 1) := ⟨Nat.succ_ne_zero 5⟩

def threatStateNames : ThreatState → String
  | 0 => "NORMAL"
  | 1 => "OBSERVE"
  | 2 => "SUSPICIOUS"
  | 3 => "PROBABLE_THREAT"
  | 4 => "VERIFIED_THREAT"
  | 5 => "CRITICAL_LIFE_SAFETY"

inductive SourceType
  | camera | access | field | sensor | cyber | intel
deriving DecidableEq

inductive SourceTrust
  | trusted | degraded | suspicious | quarantined
deriving DecidableEq

inductive SignalKind
  | supporting | contradicting
deriving DecidableEq

inductive PotentialImpact
  | low | moderate | high | extreme
deriving DecidableEq

/-- `OperationalSeveritySchema`; `sev1` is the most severe. -/
inductive OperationalSeverity
  | sev1 | sev2 | sev3 | sev4 | sev5
deriving DecidableEq

/-- `Signal`.  The two flags are optional members. -/
structure Signal where
  signalId : String
  sourceId : String
  sourceType : SourceType
  sourceTrust : SourceTrust
  kind : SignalKind
  confidence : ℚ
  humanAuthorised : Option Bool
  lifeSafety : Option Bool
deriving DecidableEq

/-- A signal that was accepted and weighted. -/
structure ProcessedSignal extends Signal where
  weightedConfidence : ℚ
deriving DecidableEq

structure Transition where
  fromState : ThreatState
  toState : ThreatState
  signalId : String
  reason : String

structure ThreatHypothesis where
  id : String
  state : ThreatState
  detectionConfidence : ℚ
  threatProbability : ℚ
  potentialImpact : PotentialImpact
  operationalSeverity : OperationalSeverity
  signals : List ProcessedSignal
  ignoredSignals : List Signal
  transitions : List Transition

/-! ## Severity -/

def impactScore : PotentialImpact → Nat
  | .low => 0
  | .moderate => 1
  | .high => 2
  | .extreme => 3

def deriveSeverity (state : ThreatState) (potentialImpact : PotentialImpact) :
    OperationalSeverity :=
  if state = 5 then .sev1
  else
    let score := state.val + impactScore potentialImpact
    if score ≤ 1 then .sev5
    else if score ≤ 3 then .sev4
    else if score ≤ 5 then .sev3
    else if score ≤ 6 then .sev2
    else .sev1

def createHypothesis (id : String) (potentialImpact : PotentialImpact) : ThreatHypothesis :=
  { id
    state := 0
    detectionConfidence := 0
    threatProbability := 0
    potentialImpact
    operationalSeverity := deriveSeverity 0 potentialImpact
    signals := []
    ignoredSignals := []
    transitions := [] }

/-! ## Aggregation -/

def clamp01 (x : ℚ) : ℚ := min 1 (max 0 x)

/-- `clampState` on integers, which `Math.round` leaves alone. -/
def clampState (n : Int) : ThreatState := ⟨(min 5 (max 0 n)).toNat, by omega⟩

def trustWeight : SourceTrust → ℚ
  | .trusted => 1
  | .degraded => 1 / 2
  | .suspicious => 1 / 4
  | .quarantined => 0

def combineNoisyOr (weights : List ℚ) : ℚ :=
  let productOfComplements := weights.foldl (fun acc w => acc * (1 - clamp01 w)) 1
  clamp01 (1 - productOfComplements)

def ofKind (kind : SignalKind) (signals : List ProcessedSignal) : List ProcessedSignal :=
  signals.filter fun s => s.kind = kind

def computeThreatProbability (signals : List ProcessedSignal) : ℚ :=
  let aggregateSupport := combineNoisyOr ((ofKind .supporting signals).map (·.weightedConfidence))
  let contradictionStrength :=
    combineNoisyOr ((ofKind .contradicting signals).map (·.weightedConfidence))
  clamp01 (aggregateSupport - contradictionStrength)

def computeDetectionConfidence (signals : List ProcessedSignal) : ℚ :=
  combineNoisyOr (signals.map (·.weightedConfidence))

/-- The size of a `Set` of source ids. -/
def computeDiverseSupportingCount (signals : List ProcessedSignal) : Nat :=
  (((ofKind .supporting signals).filter fun s => 1 / 2 ≤ s.weightedConfidence).map
    (·.sourceId)).dedup.length

def stateFromProbability (p : ℚ) : ThreatState :=
  if 85 / 100 ≤ p then 4
  else if 65 / 100 ≤ p then 3
  else if 4 / 10 ≤ p then 2
  else if 2 / 10 ≤ p then 1
  else 0

/-- A human-authorised field report. -/
def ProcessedSignal.qualifyingHuman (s : ProcessedSignal) : Bool :=
  s.humanAuthorised = some true && s.sourceType = .field

def computeDiversityCeiling (diverseSupportingCount : Nat)
    (supportingSignals : List ProcessedSignal) : ThreatState :=
  if 2 ≤ diverseSupportingCount then 4
  else
    let qualifyingHuman := supportingSignals.filter (·.qualifyingHuman)
    if qualifyingHuman.length = 0 then 2
    else if qualifyingHuman.any fun s => 9 / 10 ≤ s.confidence then 4
    else 3

/-! ## The reason of a transition -/

/-- `Number.prototype.toFixed`: the nearest multiple of `10 ^ -digits`, the larger of
    two that are as near. -/
def toFixed (x : ℚ) (digits : Nat) : String :=
  let scaled := ⌊|x| * 10 ^ digits + 1 / 2⌋.toNat
  let fraction := toString (scaled % 10 ^ digits)
  (if x < 0 then "-" else "") ++ toString (scaled / 10 ^ digits) ++
    (if digits = 0 then "" else
      "." ++ String.ofList (List.replicate (digits - fraction.length) '0') ++ fraction)

structure ReasonParams where
  lifeSafetyTriggered : Bool
  contradictionForced : Bool
  contradictionWeighted : Option ℚ
  diversityCapped : Bool
  diverseSupportingCount : Nat
  ceiling : ThreatState
  threatProbability : ℚ

def buildReason (p : ReasonParams) : String :=
  let parts :=
    (if p.lifeSafetyTriggered then
      ["life-safety gate triggered: lifeSafety signal from a trusted or human-authorised source " ++
        "with pre-gate state >= 3"] else []) ++
    (if p.contradictionForced then
      [s!"strong contradiction (weighted confidence {toFixed (p.contradictionWeighted.getD 0) 2} " ++
        ">= 0.60) forced de-escalation by at least one level"] else []) ++
    (if p.diversityCapped then
      [s!"source-diversity cap applied: only {p.diverseSupportingCount} diverse supporting " ++
        s!"source(s) (<2), ceiling={p.ceiling.val}"] else [])
  if parts.length = 0 then
    s!"recomputed from aggregate threat probability {toFixed p.threatProbability 3}"
  else
    "; ".intercalate parts

/-! ## Applying a signal -/

/-- Rule 2: the signal with its confidence weighted by the trust in its source. -/
def processSignal (signal : Signal) : ProcessedSignal :=
  { signal with
    weightedConfidence := clamp01 (clamp01 signal.confidence * trustWeight signal.sourceTrust) }

/-- Rule 6: a strong contradiction forces the state down from the previous one. -/
def contradictionForced (signal : Signal) : Bool :=
  signal.kind = .contradicting && 6 / 10 ≤ (processSignal signal).weightedConfidence

/-- The state from the history, the diversity cap and the forced de-escalation. -/
def cappedState (previous : ThreatState) (signals : List ProcessedSignal) (signal : Signal) :
    ThreatState :=
  let baseState := stateFromProbability (computeThreatProbability signals)
  let ceiling :=
    computeDiversityCeiling (computeDiverseSupportingCount signals) (ofKind .supporting signals)
  let state := min baseState ceiling
  if contradictionForced signal then min state (clampState (max 0 ((previous.val : Int) - 1)))
  else state

/-- Rule 7: the only way into state 5. -/
def lifeSafetyEligible (signal : Signal) : Bool :=
  signal.lifeSafety = some true &&
    (signal.sourceTrust = .trusted || signal.humanAuthorised = some true)

/-- The state after the signal, and whether the life-safety gate set it. -/
def assessState (previous : ThreatState) (signals : List ProcessedSignal) (signal : Signal) :
    ThreatState × Bool :=
  let state := cappedState previous signals signal
  let lifeSafetyTriggered := lifeSafetyEligible signal && decide (3 ≤ state)
  (if lifeSafetyTriggered then 5 else state, lifeSafetyTriggered)

def applySignal (hypothesis : ThreatHypothesis) (signal : Signal) : ThreatHypothesis :=
  -- rule 1: a quarantined source is recorded and moves nothing
  if signal.sourceTrust = .quarantined then
    { hypothesis with ignoredSignals := hypothesis.ignoredSignals ++ [signal] }
  else
    let processedSignal := processSignal signal
    let signals := hypothesis.signals ++ [processedSignal]
    let threatProbability := computeThreatProbability signals
    let diverseSupportingCount := computeDiverseSupportingCount signals
    let ceiling := computeDiversityCeiling diverseSupportingCount (ofKind .supporting signals)
    let (state, lifeSafetyTriggered) := assessState hypothesis.state signals signal
    { hypothesis with
      state
      detectionConfidence := computeDetectionConfidence signals
      threatProbability
      operationalSeverity := deriveSeverity state hypothesis.potentialImpact
      signals
      transitions :=
        if state ≠ hypothesis.state then
          hypothesis.transitions ++
            [{ fromState := hypothesis.state
               toState := state
               signalId := signal.signalId
               reason := buildReason
                { lifeSafetyTriggered
                  contradictionForced := contradictionForced signal
                  contradictionWeighted :=
                    if contradictionForced signal then some processedSignal.weightedConfidence
                    else none
                  diversityCapped := decide (ceiling < stateFromProbability threatProbability)
                  diverseSupportingCount
                  ceiling
                  threatProbability } }]
        else hypothesis.transitions }

end Sentinel.Fusion
