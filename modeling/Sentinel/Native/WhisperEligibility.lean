import Sentinel.Native.DeviceTrust
import Sentinel.Native.WhisperService
import Sentinel.Native.WhisperSignals

/-! # The eligibility of a recognition

`evaluateWhisperRuntimeEligibility` (`packages/contracts/src/whisper.ts`) and the steps of
`WhisperService.recognise` that lead to it (`modules/whisper/whisper.service.ts`).  The replay
identity names the authenticated context's organisation, actor and device; the fingerprint is that
of the signed statement.  Parsing comes before, and a result that does not parse leaves no trace. -/

namespace Sentinel.Whisper

/-- `AuthenticatedWhisperDeviceContext`; its key is what the verifier looks up. -/
structure DeviceContext where
  organisationId : String
  actorUserId : String
  deviceId : String
  authorisedSiteIds : List String
  deviceTrust : DeviceTrust.Trust

/-- `DeviceActionWhisperResult`, less what no step reads. -/
structure DeviceActionResult where
  organisationId : String
  siteId : String
  actorUserId : String
  deviceId : String
  whisperSignalId : String
  whisperSignalVersion : Nat
  deviceActionId : String
  recognisedAt : Int
  confidence : ℚ
  antiReplayNonce : String
  traceId : String

/-- The signal of `WhisperRuntimeEligibilityInput`. -/
structure GateSignal where
  whisperSignalId : String
  organisationId : String
  siteId : Option String
  status : SignalStatus
  signalVersion : Nat
  deviceActionId : String
  authorisedUserIds : List String
  contextRequirements : List (String × String)
  minimumConfidence : ℚ
  responseProtocolId : Option String

/-- `WhisperFreshnessOutcome`. -/
inductive Freshness
  | fresh | stale | futureSkew
deriving DecidableEq

def maxWhisperRecognitionAgeMs : Int := 120000

def maxWhisperRecognitionFutureSkewMs : Int := 5000

/-- `classifyWhisperRecognitionFreshness`. -/
def classifyFreshness (recognisedAt receivedAt : Int) : Freshness :=
  let ageMs := receivedAt - recognisedAt
  if ageMs < -maxWhisperRecognitionFutureSkewMs then .futureSkew
  else if ageMs > maxWhisperRecognitionAgeMs then .stale
  else .fresh

def deviceTrustPermitsInvocation (trust : DeviceTrust.Trust) : Bool := trust = .trusted

/-- The unsatisfied keys of `evaluateWhisperContextRequirements`. -/
def unsatisfiedKeys (requirements serverFacts : List (String × String)) : List String :=
  (requirements.map (·.1)).filter fun key =>
    match serverFacts.lookup key with
    | none => true
    | some fact => requirements.lookup key ≠ some fact

structure EligibilityInput where
  signal : GateSignal
  context : DeviceContext
  result : DeviceActionResult
  actorHoldsCurrentAuthority : Bool
  serverFacts : List (String × String)
  freshness : Freshness

def evaluateRuntimeEligibility (input : EligibilityInput) : Eligibility :=
  let { signal, context, result, .. } := input
  if result.organisationId ≠ context.organisationId then .ineligible .deviceContextMismatch
  else if result.actorUserId ≠ context.actorUserId then .ineligible .deviceContextMismatch
  else if result.deviceId ≠ context.deviceId then .ineligible .deviceContextMismatch
  else if !context.authorisedSiteIds.contains result.siteId then .ineligible .siteScopeMismatch
  else if signal.organisationId ≠ context.organisationId then .ineligible .signalScopeMismatch
  else if signal.siteId ≠ none ∧ signal.siteId ≠ some result.siteId then
    .ineligible .signalScopeMismatch
  else if signal.whisperSignalId ≠ result.whisperSignalId then .ineligible .signalIdentityMismatch
  else if !deviceTrustPermitsInvocation context.deviceTrust then
    .ineligible .deviceTrustInsufficient
  else if signal.status ≠ .active then .ineligible .signalNotActive
  else if signal.signalVersion ≠ result.whisperSignalVersion then
    .ineligible .signalVersionMismatch
  else if signal.deviceActionId ≠ result.deviceActionId then .ineligible .deviceActionMismatch
  else if !signal.authorisedUserIds.contains context.actorUserId then .ineligible .actorNotEligible
  else if !input.actorHoldsCurrentAuthority then .ineligible .actorNotEligible
  else if input.freshness = .futureSkew then .ineligible .recognitionFutureSkew
  else if input.freshness = .stale then .ineligible .recognitionStale
  else if result.confidence < signal.minimumConfidence then .ineligible .confidenceBelowThreshold
  else if unsatisfiedKeys signal.contextRequirements input.serverFacts ≠ [] then
    .ineligible .contextNotSatisfied
  else if !isAllowlistedResponseProtocol signal.responseProtocolId then
    .ineligible .protocolNotAllowlisted
  else .eligible

/-! ## Presentations -/

/-- The principal of a call, as far as `recognise` reads it. -/
structure Principal where
  organisationId : String
  userId : String

/-- The arguments of one call of `recognise`. -/
structure Presentation where
  context : DeviceContext
  result : DeviceActionResult
  principal : Principal

/-- What the server finds in the steps 2 to 6. -/
structure Facts where
  /-- The answer of the signature verifier. -/
  verified : Bool := true
  stored : Option SignalVersionRow := none
  /-- Whether the actor is on duty, where the server can tell. -/
  onDuty : Option Bool := none
  receivedAt : Int := 0
  holdsInvoke : Bool := true
  invokeScope : SiteScope := .orgWide

/-- What `findVersionForRuntime` may answer. -/
def Facts.For (facts : Facts) (presentation : Presentation) : Bool :=
  facts.stored.all fun row =>
    row.organisationId = presentation.context.organisationId ∧
      row.whisperSignalId = presentation.result.whisperSignalId ∧
      row.signalVersion = presentation.result.whisperSignalVersion

def unresolvableSignalPlaceholder (context : DeviceContext) (result : DeviceActionResult) :
    GateSignal :=
  { whisperSignalId := result.whisperSignalId
    organisationId := context.organisationId
    siteId := some (result.siteId ++ "\x00unresolved")
    status := .retired
    signalVersion := result.whisperSignalVersion
    deviceActionId := result.deviceActionId
    authorisedUserIds := []
    contextRequirements := []
    minimumConfidence := 1
    responseProtocolId := none }

def toGateSignal (row : SignalVersionRow) : GateSignal :=
  { whisperSignalId := row.whisperSignalId
    organisationId := row.organisationId
    siteId := row.siteId
    status := row.status
    signalVersion := row.signalVersion
    deviceActionId := row.configuration.deviceActionId
    authorisedUserIds := row.configuration.authorisedUserIds
    contextRequirements := row.configuration.contextRequirements
    minimumConfidence := row.configuration.minimumConfidence
    responseProtocolId := row.configuration.responseProtocolId }

/-- `serverFacts`, each by the canonical JSON of its value. -/
def Facts.serverFacts (facts : Facts) : List (String × String) :=
  (facts.onDuty.map fun onDuty => ("on_duty", if onDuty then "true" else "false")).toList

def Presentation.eligibilityInput (presentation : Presentation) (facts : Facts) :
    EligibilityInput :=
  { signal :=
      match facts.stored with
      | none => unresolvableSignalPlaceholder presentation.context presentation.result
      | some row => toGateSignal row
    context := presentation.context
    result := presentation.result
    actorHoldsCurrentAuthority :=
      facts.holdsInvoke && facts.invokeScope.covers (some presentation.result.siteId)
    serverFacts := facts.serverFacts
    freshness := classifyFreshness presentation.result.recognisedAt facts.receivedAt }

/-- The steps of `recognise` up to the receipt. -/
def Presentation.gate (presentation : Presentation) (facts : Facts) : Gate :=
  if presentation.principal.organisationId ≠ presentation.context.organisationId ∨
      presentation.principal.userId ≠ presentation.context.actorUserId then
    .refused .deviceContextMismatch
  else if !facts.verified then .refused .signatureInvalid
  else
    .judged
      { eligibility := evaluateRuntimeEligibility (presentation.eligibilityInput facts)
        storedVersionId := facts.stored.map (·.id)
        receivedAt := facts.receivedAt }

section Steps

variable (text : Constitution.Text)
-- `whisperRecognitionFingerprint`: a digest of the canonical signed statement
variable (recognitionFingerprint : DeviceActionResult → String)

/-- What the receipt and the incidents domain get of a presentation. -/
def Presentation.recognition (presentation : Presentation) : Recognition :=
  { identity :=
      { organisationId := presentation.context.organisationId
        siteId := presentation.result.siteId
        actorUserId := presentation.context.actorUserId
        deviceId := presentation.context.deviceId
        whisperSignalId := presentation.result.whisperSignalId
        whisperSignalVersion := presentation.result.whisperSignalVersion
        antiReplayNonce := presentation.result.antiReplayNonce }
    recognitionFingerprint := recognitionFingerprint presentation.result
    confidence := presentation.result.confidence
    traceId := presentation.result.traceId }

/-- The system of `recognise` with the gate computed: the calls of `whisper` are those of
    the presentations, in their order. -/
structure Duress where
  whisper : State
  presentations : List Presentation

def Duress.init : Duress := { whisper := .init, presentations := [] }

inductive DuressLabel
  | recognise (presentation : Presentation)
  | advance (call : Nat) (facts : Facts) (env : Env)
  | throws (call : Nat) (effect : Option (Facts × Env))
  | fail (call : Nat)
  | incidents (label : Incidents.Label)

/-- The environment of a step, its gate computed. -/
def Presentation.env (presentation : Presentation) (facts : Facts) (env : Env) : Env :=
  { env with gate := presentation.gate facts }

/-- The step of `Whisper.step` that a step of a call is. -/
def Duress.label (s : Duress) : DuressLabel → Option Label
  | .recognise presentation => some (.recognise (presentation.recognition recognitionFingerprint))
  | .advance i facts env => do
    let presentation ← s.presentations[i]?
    if facts.For presentation then some (.advance i (presentation.env facts env)) else none
  | .throws i none => some (.throws i none)
  | .throws i (some (facts, env)) => do
    let presentation ← s.presentations[i]?
    if facts.For presentation then some (.throws i (some (presentation.env facts env))) else none
  | .fail i => some (.fail i)
  | .incidents label => some (.incidents label)

/-- The presentations after a step. -/
def Duress.presented (s : Duress) : DuressLabel → List Presentation
  | .recognise presentation => s.presentations ++ [presentation]
  | _ => s.presentations

def Duress.step (s : Duress) (label : DuressLabel) : Option Duress := do
  let whisper ← Whisper.step text s.whisper (← s.label recognitionFingerprint label)
  some { whisper, presentations := s.presented label }

/-- What a call does about its eligibility: it has the gate evaluate it, and it claims the
    receipt it goes on with. -/
inductive DuressEvent
  | evaluated (call : Nat) (input : EligibilityInput)
  | claimed (call : Nat) (receiptId : String)

def Duress.event (s : Duress) : DuressLabel → Option DuressEvent
  | .advance i facts env => do
    let worker ← s.whisper.workers[i]?
    let presentation ← s.presentations[i]?
    match worker.phase, presentation.gate facts with
    | .gate, .judged _ => some (.evaluated i (presentation.eligibilityInput facts))
    | .claim _ receiptId, _ =>
      (s.whisper.receipts.claimReceipt receiptId env.now).1.map fun _ => .claimed i receiptId
    | _, _ => none
  | _ => none

end Steps

end Sentinel.Whisper
