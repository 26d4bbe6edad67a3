import Sentinel.ForStd.JsText
import Sentinel.Native.ThreatState

/-! # Fusion rules

What Fusion reads out of one normalised event: the hypothesis it belongs to
(`core/correlation.ts`), the signal it carries (`core/eventRules.ts`), and the text
that explains the hypothesis afterwards (`core/explanation.ts`).  Everything here is a
function of its arguments. -/

namespace Sentinel.Fusion

/-- The fields of `NormalisedEvent` that Fusion reads.  `occurredAt` is the instant
    that `occurred_at` denotes, in milliseconds; `metadata` lists the members of the
    metadata object that are exactly `true`. -/
structure NormalisedEvent where
  eventId : String
  organisationId : String
  siteId : String
  zoneId : Option String
  sourceType : SourceType
  sourceId : String
  sourceTrust : SourceTrust
  eventType : String
  confidence : ℚ
  occurredAt : Int
  metadata : List String
deriving DecidableEq

/-! ## Correlation -/

def correlationWindowMs : Int := 15 * 60 * 1000

def siteWideZone : String := "site-wide"

structure CorrelationKey where
  organisationId : String
  siteId : String
  zoneId : Option String
  zoneKey : String
  windowStart : Int
  windowEnd : Int
  key : String

def windowStartFor (occurredAt : Int) : Int :=
  occurredAt / correlationWindowMs * correlationWindowMs

def serialiseCorrelationKey (organisationId siteId zoneKey : String) (windowStart : Int) :
    String :=
  "\u001f".intercalate [organisationId, siteId, zoneKey, JsText.toISOString windowStart]

def deriveCorrelationKey (input : NormalisedEvent) : CorrelationKey :=
  let zoneKey := input.zoneId.getD siteWideZone
  let windowStart := windowStartFor input.occurredAt
  { organisationId := input.organisationId
    siteId := input.siteId
    zoneId := input.zoneId
    zoneKey
    windowStart
    windowEnd := windowStart + correlationWindowMs
    key := serialiseCorrelationKey input.organisationId input.siteId zoneKey windowStart }

def describeCorrelationKey (key : CorrelationKey) : String :=
  s!"{key.organisationId}/{key.siteId}/{key.zoneKey} @ " ++
    s!"{JsText.toISOString key.windowStart}..{JsText.toISOString key.windowEnd}"

/-! ## The rule table -/

def fusionRulesVersion : String := "fusion-rules-1.0.0"

def fusionCoreVersion : String := "fusion-threat-state-1.0.0"

def fusionRuleVersions : List String := [fusionRulesVersion, fusionCoreVersion]

inductive ImpactFamily
  | presence | motion | behaviour | access | threatLike | violence | field

def ImpactFamily.text : ImpactFamily → String
  | presence => "PRESENCE"
  | motion => "MOTION"
  | behaviour => "BEHAVIOUR"
  | access => "ACCESS"
  | threatLike => "THREAT_LIKE"
  | violence => "VIOLENCE"
  | field => "FIELD"

def highImpactFamilies : List String :=
  [ImpactFamily.access, .threatLike, .violence, .field].map (·.text)

def derivePotentialImpact (supportingFamilies : List String) : PotentialImpact :=
  if supportingFamilies.any fun family => highImpactFamilies.contains family then .high
  else .moderate

structure EventTypeRule where
  eventType : String
  kind : SignalKind
  impactFamily : ImpactFamily
  requiresMetadataFlag : Option String := none
  humanAuthorisedFromMetadataFlag : Option String := none

def eventTypeRules : List EventTypeRule :=
  [{ eventType := "person_detected", kind := .supporting, impactFamily := .presence },
   { eventType := "loitering_detected", kind := .supporting, impactFamily := .behaviour },
   { eventType := "motion_detected", kind := .supporting, impactFamily := .motion },
   { eventType := "access_denied_attempt", kind := .supporting, impactFamily := .access },
   { eventType := "zone.restricted.entry", kind := .supporting, impactFamily := .access },
   { eventType := "object.threat_like", kind := .supporting, impactFamily := .threatLike },
   { eventType := "violence.possible", kind := .supporting, impactFamily := .violence },
   { eventType := "field.hostile_observation", kind := .supporting, impactFamily := .field
     humanAuthorisedFromMetadataFlag := some "human_authorised" },
   { eventType := "field.report.hostile", kind := .supporting, impactFamily := .field
     humanAuthorisedFromMetadataFlag := some "human_authorised" },
   { eventType := "access_granted_valid", kind := .contradicting, impactFamily := .access
     requiresMetadataFlag := some "schedule_match" },
   { eventType := "access.granted.valid", kind := .contradicting, impactFamily := .access
     requiresMetadataFlag := some "schedule_match" }]

/-- The table is looked up by exact event type, which no two rules share. -/
example : (eventTypeRules.map (·.eventType)).Nodup := by decide

def ruleFor (eventType : String) : Option EventTypeRule :=
  eventTypeRules.find? fun rule => rule.eventType = eventType

inductive IgnoreReason
  | noRule | conditionNotMet

/-- `SignalMapping`: a signal with the impact family it contributes, or the reason why
    there is none. -/
inductive SignalMapping
  | signal (signal : Signal) (impactFamily : Option ImpactFamily)
  | ignored (reason : IgnoreReason)

def metadataFlag (metadata : List String) (key : String) : Bool := metadata.contains key

def mapEventToSignal (event : NormalisedEvent) : SignalMapping :=
  match ruleFor event.eventType with
  | none => .ignored .noRule
  | some rule =>
    if rule.requiresMetadataFlag.any fun flag => !metadataFlag event.metadata flag then
      .ignored .conditionNotMet
    else
      .signal
        { signalId := event.eventId
          sourceId := event.sourceId
          sourceType := event.sourceType
          sourceTrust := event.sourceTrust
          kind := rule.kind
          confidence := event.confidence
          humanAuthorised :=
            some (rule.humanAuthorisedFromMetadataFlag.any (metadataFlag event.metadata))
          lifeSafety := some (metadataFlag event.metadata "life_safety") }
        (if rule.kind = .supporting then some rule.impactFamily else none)

theorem mapEventToSignal_source {event : NormalisedEvent} {signal : Signal}
    {family : Option ImpactFamily} (h : mapEventToSignal event = .signal signal family) :
    signal.signalId = event.eventId ∧ signal.sourceTrust = event.sourceTrust := by
  unfold mapEventToSignal at h
  split at h
  · cases h
  · split at h
    · cases h
    · simp only [SignalMapping.signal.injEq] at h
      obtain ⟨rfl, _⟩ := h
      exact ⟨rfl, rfl⟩

/-! ## The explanation -/

/-- The sources of the signals, each once, in order. -/
def distinctSources (signals : List ProcessedSignal) : List String :=
  JsText.sort (signals.map (·.sourceId)).dedup

/-- Noisy-OR aggregate of a signal subset. -/
def aggregate (signals : List ProcessedSignal) : ℚ :=
  let product :=
    signals.foldl (fun acc s => acc * (1 - min 1 (max 0 s.weightedConfidence))) 1
  min 1 (max 0 (1 - product))

def describeStateDriver (hypothesis : ThreatHypothesis) (supporting : List ProcessedSignal) :
    String :=
  let diverse := computeDiverseSupportingCount hypothesis.signals
  if hypothesis.state = 5 then
    "State 5 was reached through the life-safety gate, which requires a life-safety signal " ++
      "from a trusted or human-authorised source while the hypothesis already stood at " ++
      "PROBABLE_THREAT or above."
  else if diverse < 2 then
    if supporting.any (·.qualifyingHuman) then
      s!"Only {diverse} independent supporting source(s) reached the trust-weighted 0.50 " ++
        "threshold, so the source-diversity cap applies; it is relaxed here because a " ++
        "human-authorised field report is present."
    else
      s!"Only {diverse} independent supporting source(s) reached the trust-weighted 0.50 " ++
        "threshold, so the source-diversity cap holds this hypothesis at SUSPICIOUS (2) or " ++
        "below no matter how strong the aggregate evidence becomes."
  else
    s!"{diverse} independent supporting sources reached the trust-weighted 0.50 threshold, " ++
      "so the source-diversity cap does not constrain this hypothesis."

def PotentialImpact.text : PotentialImpact → String
  | low => "LOW"
  | moderate => "MODERATE"
  | high => "HIGH"
  | extreme => "EXTREME"

def OperationalSeverity.text : OperationalSeverity → String
  | sev1 => "SEV1"
  | sev2 => "SEV2"
  | sev3 => "SEV3"
  | sev4 => "SEV4"
  | sev5 => "SEV5"

def buildConfidenceExplanation (hypothesis : ThreatHypothesis)
    (correlationDescription : String) (ruleVersions : List String) : String :=
  let supporting := ofKind .supporting hypothesis.signals
  let contradicting := ofKind .contradicting hypothesis.signals
  let state :=
    s!"Threat state {hypothesis.state.val} ({threatStateNames hypothesis.state}) over " ++
      s!"{correlationDescription}."
  let support :=
    if supporting.length = 0 then "No supporting evidence has been observed in this window."
    else
      let sources := distinctSources supporting
      let names := ", ".intercalate sources
      s!"Supporting evidence: {supporting.length} signal(s) from {sources.length} source(s) " ++
        s!"({names}), combined by noisy-OR over trust-weighted confidences to an aggregate " ++
        s!"support of {toFixed (aggregate supporting) 2}."
  let contradiction :=
    if contradicting.length = 0 then
      "Contradicting evidence: none observed. No signal so far weakens this hypothesis; " ++
        "contradictions are searched for on every event, not only when the hypothesis is " ++
        "challenged."
    else
      let sources := distinctSources contradicting
      let names := ", ".intercalate sources
      s!"Contradicting evidence: {contradicting.length} signal(s) from {sources.length} " ++
        s!"source(s) ({names}), combined to a contradiction strength of " ++
        s!"{toFixed (aggregate contradicting) 2}, which is subtracted from aggregate support. " ++
        "Contradictions are retained permanently and are never pruned from this record."
  let ignored :=
    if hypothesis.ignoredSignals.length > 0 then
      [s!"{hypothesis.ignoredSignals.length} signal(s) from quarantined sources were recorded " ++
        "but excluded from every computation."]
    else []
  let values :=
    "Separated values (§11.3, never collapsed into one score): detection confidence " ++
      s!"{toFixed hypothesis.detectionConfidence 2}; threat probability " ++
      s!"{toFixed hypothesis.threatProbability 2}; potential impact " ++
      s!"{hypothesis.potentialImpact.text}; operational severity " ++
      s!"{hypothesis.operationalSeverity.text}."
  let versions := ", ".intercalate ruleVersions
  " ".intercalate
    ([state, describeStateDriver hypothesis supporting, support, contradiction] ++ ignored ++
      [values, s!"Produced by rule versions: {versions}."])

end Sentinel.Fusion
