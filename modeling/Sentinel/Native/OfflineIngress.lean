import Sentinel.Native.FieldOfflineReplay
import Sentinel.Native.OfflineOutbox

/-! # The offline-queue route

What `POST device-gateway/operations/offline-queue` answers: the decisions of
`DeviceOfflineIngressService.submit` (`device-offline-ingress.service.ts`) in their order, and the
status and body that `DeviceGatewayController.submitOfflineQueue` and the global exception filter
build.  The facts the ingress resolves from elsewhere are its input. -/

namespace Sentinel.OfflineIngress

open FieldOffline
open OfflineOutbox (JsonElement JsonObject jsonString jsonLong jsonOptional)

/-! ## The ingress -/

/-- `DeviceGatewayRefusal`, as far as the ingress files one. -/
inductive GatewayRefusal
  | envelopeMalformed | offlineEnvelopeRefused | registryKeyUnresolvable
deriving DecidableEq

/-- The signed envelope of a queued operation, the fields the ingress reads. -/
structure QueuedEnvelope where
  offlineOperationId : String
  organisationId : String
  siteId : String
  actorUserId : String
  deviceId : String
  keyId : String
  keyVersion : Nat
  operationKind : String
  policyLeaseId : String

/-- `AuthenticatedDeviceContext`, the fields the ingress binds against. -/
structure GatewayContext where
  organisationId : String
  actorUserId : String
  deviceId : String
  authorisedSiteIds : List String
deriving DecidableEq

/-- What `authenticateQueueSubmission` answers. -/
inductive Authentication
  | authenticated (context : GatewayContext) (targetId siteId : String)
  | refused
  | conflict

structure RegistryKey where
  keyId : String
  keyVersion : Nat

/-- What one submission resolves to before the replay service is asked. -/
structure IngressFacts where
  authentication : Authentication
  /-- `DeviceOfflineOperationEnvelopeSchema.safeParse`. -/
  envelope : Option QueuedEnvelope
  registeredKey : Option RegistryKey
  /-- `bindClaimedSignatureProfile`. -/
  profileBound : Bool
  /-- The refusal of `evaluateOfflineOperationAdmissibility`, if it is one. -/
  inadmissible : Option String

/-- `WP29A_ADMITTED_OFFLINE_OPERATION_KINDS`. -/
def admittedOfflineOperationKinds : List String := ["INCIDENT_FIELD_MESSAGE_ACKNOWLEDGE"]

def bindEnvelopeToContext (envelope : QueuedEnvelope) (context : GatewayContext)
    (proofSiteId : String) : Bool :=
  envelope.organisationId = context.organisationId &&
    envelope.deviceId = context.deviceId &&
    envelope.actorUserId = context.actorUserId &&
    envelope.siteId = proofSiteId &&
    context.authorisedSiteIds.contains envelope.siteId

/-- A refusal of the ingress, with what it files in the audit: nothing when the gateway
    has already filed it. -/
inductive IngressRefusal
  | unauthenticated
  | authenticationConflict
  | refused (refusal : GatewayRefusal) (contractRefusal : Option String)
deriving DecidableEq

/-- `DeviceOfflineIngressService.submit` up to the replay service. -/
def judge (facts : IngressFacts) : Except IngressRefusal (QueuedEnvelope × GatewayContext) :=
  match facts.authentication with
  | .conflict => .error .authenticationConflict
  | .refused => .error .unauthenticated
  | .authenticated context targetId siteId =>
    match facts.envelope with
    | none => .error (.refused .envelopeMalformed (some "QUEUED_ENVELOPE_UNPARSEABLE"))
    | some envelope =>
      if targetId ≠ envelope.offlineOperationId then
        .error (.refused .envelopeMalformed (some "QUEUED_OPERATION_ID_MISBOUND"))
      else if !bindEnvelopeToContext envelope context siteId then
        .error (.refused .offlineEnvelopeRefused (some "IDENTITY_BINDING_MISMATCH"))
      else if !admittedOfflineOperationKinds.contains envelope.operationKind then
        .error (.refused .offlineEnvelopeRefused (some "OPERATION_KIND_NOT_ADMITTED"))
      else
        match facts.registeredKey with
        | none => .error (.refused .registryKeyUnresolvable none)
        | some key =>
          if envelope.keyId ≠ key.keyId ∨ envelope.keyVersion ≠ key.keyVersion then
            .error (.refused .offlineEnvelopeRefused (some "REGISTRY_KEY_MISMATCH"))
          else if !facts.profileBound then
            .error (.refused .offlineEnvelopeRefused (some "SIGNATURE_PROFILE_CLAIM_MISMATCH"))
          else
            match facts.inadmissible with
            | some refusal => .error (.refused .offlineEnvelopeRefused (some refusal))
            | none => .ok (envelope, context)

inductive IngressResult
  | accepted (submission : SubmissionOutcome)
  | refused
  | conflict

/-- What a refusal is answered with: a nonce reused with changed semantics conflicts. -/
def IngressRefusal.result : IngressRefusal → IngressResult
  | .unauthenticated => .refused
  | .authenticationConflict => .conflict
  | .refused .offlineEnvelopeRefused (some "NONCE_REUSED_WITH_CHANGED_SEMANTICS") => .conflict
  | .refused _ _ => .refused

/-! ## The replay service behind it -/

/-- How `FieldOfflineReplayService.submit` ends for its caller in a state of central: its
    preflight answered, or one of its workers did or threw. -/
inductive Replayed (env : Env) (s : State) : Option SubmissionOutcome → Prop
  | preflight (principal : Principal) (context : DeviceContext)
      (rawOperation : Except (List String) Operation) (policyLeaseId : Option String)
      (siteExists : Bool) (outcome : SubmissionOutcome)
      (h : FieldOffline.preflight env principal context rawOperation policyLeaseId siteExists =
        .error outcome) : Replayed env s (some outcome)
  | answered (worker : Worker) (hworker : worker ∈ s.workers) (outcome : SubmissionOutcome)
      (hphase : worker.phase = .answered outcome) : Replayed env s (some outcome)
  | threw (worker : Worker) (hworker : worker ∈ s.workers) (hphase : worker.phase = .threw) :
      Replayed env s none

/-! ## Wire text -/

def OperationKind.wire : OperationKind → String
  | .fieldAssignmentAccept => "FIELD_ASSIGNMENT_ACCEPT"
  | .fieldAssignmentDecline => "FIELD_ASSIGNMENT_DECLINE"
  | .fieldAssignmentStart => "FIELD_ASSIGNMENT_START"
  | .fieldAssignmentComplete => "FIELD_ASSIGNMENT_COMPLETE"
  | .incidentFieldMessageSend => "INCIDENT_FIELD_MESSAGE_SEND"
  | .incidentFieldMessageAcknowledge => "INCIDENT_FIELD_MESSAGE_ACKNOWLEDGE"

def AssignmentStatus.wire : AssignmentStatus → String
  | .requested => "REQUESTED"
  | .accepted => "ACCEPTED"
  | .declined => "DECLINED"
  | .inProgress => "IN_PROGRESS"
  | .completed => "COMPLETED"
  | .cancelled => "CANCELLED"
  | .expired => "EXPIRED"

def Outcome.wire : Outcome → String
  | .applied => "APPLIED"
  | .rejected => "REJECTED"

def ConflictCode.wire : ConflictCode → String
  | .deviceContextMismatch => "DEVICE_CONTEXT_MISMATCH"
  | .siteScopeMismatch => "SITE_SCOPE_MISMATCH"
  | .sequenceGap => "SEQUENCE_GAP"
  | .sequenceReused => "SEQUENCE_REUSED"
  | .sequenceStale => "SEQUENCE_STALE"
  | .operationIdReused => "OPERATION_ID_REUSED"
  | .operationNotAllowed => "OPERATION_NOT_ALLOWED"
  | .operationInProgress => "OPERATION_IN_PROGRESS"
  | .domainRejected => "DOMAIN_REJECTED"
  | .unknownOutcome => "UNKNOWN_OUTCOME"

def member (key : String) (value : JsonElement) : List Char × JsonElement := (key.toList, value)

def jsonNull : JsonElement := .literal "null".toList

def jsonBool (b : Bool) : JsonElement := .literal (if b then "true" else "false").toList

/-- A number, or `null`. -/
def jsonOptionalNat : Option Nat → JsonElement
  | none => jsonNull
  | some n => jsonLong n

def SnapshotValue.json : SnapshotValue → JsonElement
  | .text value => jsonString value
  | .status value => jsonString (AssignmentStatus.wire value)
  | .count value => jsonLong value

def snapshotJson : Option Snapshot → JsonElement
  | none => jsonNull
  | some snapshot => .object (snapshot.map fun field => member field.1 (SnapshotValue.json field.2))

/-- `Date.toISOString` is the parameter. -/
def resultJson (toIsoString : Int → String) (result : OperationResult) : JsonObject :=
  [member "schema_version" (jsonLong 2),
   member "offline_operation_id" (jsonString result.offlineOperationId),
   member "device_sequence" (jsonLong result.deviceSequence),
   member "operation_kind" (jsonString (OperationKind.wire result.operationKind)),
   member "outcome" (jsonString (Outcome.wire result.outcome)),
   member "replayed" (jsonBool result.replayed),
   member "finalized_at" (jsonString (toIsoString result.finalizedAt)),
   member "next_expected_sequence" (jsonOptionalNat result.nextExpectedSequence),
   member "result_ref" (jsonOptional result.resultRef),
   member "result_snapshot" (snapshotJson result.resultSnapshot),
   member "trace_id" (jsonString result.traceId)]

def conflictJson (conflict : ReplayConflict) : JsonObject :=
  [member "schema_version" (jsonLong 2),
   member "conflict_code" (jsonString (ConflictCode.wire conflict.conflictCode)),
   member "offline_operation_id" (jsonOptional conflict.offlineOperationId),
   member "device_sequence" (jsonOptionalNat conflict.deviceSequence),
   member "expected_sequence" (jsonOptionalNat conflict.expectedSequence),
   member "received_sequence" (jsonOptionalNat conflict.receivedSequence),
   member "trace_id" (jsonString conflict.traceId)]

/-- `OfflineSubmissionOutcome`, unreinterpreted. -/
def outcomeJson (toIsoString : Int → String) : SubmissionOutcome → JsonObject
  | .result result =>
    [member "kind" (jsonString "result"),
      member "result" (.object (resultJson toIsoString result))]
  | .conflict conflict =>
    [member "kind" (jsonString "conflict"), member "conflict" (.object (conflictJson conflict))]
  | .invalid issues =>
    [member "kind" (jsonString "invalid"), member "issues" (.array (issues.map jsonString))]

/-! ## The answer -/

/-- How the handling of a request ends. -/
inductive RouteEnd
  /-- A guard's or the body parser's `HttpException`, before the controller runs. -/
  | guarded (status : Nat) (message : String)
  | ingress (result : IngressResult)
  /-- Anything else that is thrown. -/
  | fault

/-- A status and a JSON body. -/
structure Response where
  status : Nat
  body : JsonObject

/-- The body of the global exception filter. -/
def errorBody (message traceId : String) : JsonObject :=
  [member "error" (jsonString message), member "trace_id" (jsonString traceId)]

/-- `submitOfflineQueue`, and the exception filter around it. -/
def respond (toIsoString : Int → String) (traceId : String) : RouteEnd → Response
  | .guarded status message => ⟨status, errorBody message traceId⟩
  | .ingress (.accepted submission) =>
    ⟨201, [member "submission" (.object (outcomeJson toIsoString submission))]⟩
  | .ingress .refused => ⟨403, errorBody "DEVICE_REQUEST_REFUSED" traceId⟩
  | .ingress .conflict => ⟨409, errorBody "DEVICE_REQUEST_CONFLICT" traceId⟩
  | .fault => ⟨500, errorBody "Internal server error" traceId⟩

/-- The ends the route can come to in a state of central. -/
inductive Ends (env : Env) (s : State) : RouteEnd → Prop
  /-- A session that is not authenticated or lacks the action, a body that is no JSON. -/
  | guarded (status : Nat) (message : String) (hstatus : 400 ≤ status ∧ status < 500)
      (hconflict : status ≠ 409) : Ends env s (.guarded status message)
  | refused (facts : IngressFacts) (refusal : IngressRefusal) (h : judge facts = .error refusal) :
      Ends env s (.ingress refusal.result)
  | replayed (outcome : SubmissionOutcome) (h : Replayed env s (some outcome)) :
      Ends env s (.ingress (.accepted outcome))
  | threw : Ends env s .fault

end Sentinel.OfflineIngress
