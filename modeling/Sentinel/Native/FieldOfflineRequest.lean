import Sentinel.Native.DeviceCanonicalJson
import Sentinel.Native.EdgeRequest
import Sentinel.Native.OfflineIngress

/-! # The semantic request of a queued operation

The second half of the offline contract (`packages/contracts/src/field-offline.ts`): what
`FieldOfflineOperationV2Schema` accepts, the text that `canonicaliseOfflineSemanticRequest` gives an
operation, and the preimage of its downstream idempotency key.  Text is UTF-16, and a payload is an
object whose properties have an order; an optional one may be left out, which is not `null`. -/

namespace Sentinel.FieldOfflineRequest

open DeviceCanonicalJson (Text Value)
open FieldOffline (OperationKind AssignmentStatus AssignmentAction ConflictCode
  classifyOfflineSequence maxOfflineDeviceSequence)
open Utf16 (ascii)

/-- An ASCII text of the source. -/
def units (text : String) : Text := ascii text.toList

/-! ## Payloads -/

structure AssignmentTransitionPayload where
  assignmentId : Text
  expectedStatus : AssignmentStatus

/-- `OfflineIncidentMessageSendPayload`: `none` is a property left out, `some none` is `null`. -/
structure MessageSendPayload where
  incidentId : Text
  recipientUserIds : List Text
  body : Option (Option Text)
  mediaRefs : Option (List Text)
  retentionClass : Text
  expiresAt : Option (Option Text)

structure MessageAcknowledgePayload where
  messageId : Text

/-- The payload of each kind; the four assignment kinds share one. -/
inductive Payload
  | assignment (action : AssignmentAction) (payload : AssignmentTransitionPayload)
  | messageSend (payload : MessageSendPayload)
  | messageAcknowledge (payload : MessageAcknowledgePayload)

def Payload.kind : Payload → OperationKind
  | .assignment .accept _ => .fieldAssignmentAccept
  | .assignment .decline _ => .fieldAssignmentDecline
  | .assignment .start _ => .fieldAssignmentStart
  | .assignment .complete _ => .fieldAssignmentComplete
  | .messageSend _ => .incidentFieldMessageSend
  | .messageAcknowledge _ => .incidentFieldMessageAcknowledge

/-- `string | null`. -/
def nullable : Option Text → Value
  | none => .null
  | some text => .string text

def texts (elements : List Text) : Value := .list (elements.map .string)

/-- The properties a payload can have. -/
def Payload.fields : Payload → List (Text × Option Value)
  | .assignment _ payload =>
    [(units "assignment_id", some (.string payload.assignmentId)),
      (units "expected_status",
        some (.string (units (OfflineIngress.AssignmentStatus.wire payload.expectedStatus))))]
  | .messageSend payload =>
    [(units "incident_id", some (.string payload.incidentId)),
      (units "recipient_user_ids", some (texts payload.recipientUserIds)),
      (units "body", payload.body.map nullable),
      (units "media_refs", payload.mediaRefs.map texts),
      (units "retention_class", some (.string payload.retentionClass)),
      (units "expires_at", payload.expiresAt.map nullable)]
  | .messageAcknowledge payload => [(units "message_id", some (.string payload.messageId))]

structure PayloadObject where
  payload : Payload
  entries : List (Text × Value)
  entries_perm : entries.Perm (JsObject.present payload.fields)

/-! ## Operations -/

/-- `FieldOfflineOperationV2`, without the literal `schema_version`. -/
structure Operation where
  offlineOperationId : Text
  organisationId : Text
  siteId : Text
  deviceId : Text
  deviceSequence : Nat
  idempotencyKey : Text
  createdAt : Text
  traceId : Text
  object : PayloadObject

variable (operation : Operation)

def Operation.payload : Payload := operation.object.payload

/-- `operation_kind`, the discriminant. -/
def Operation.operationKind : OperationKind := operation.payload.kind

/-! ## What the schema accepts -/

/-- A text of `1` to `max` UTF-16 units. -/
def isBounded (max : Nat) (text : Text) : Bool := 1 ≤ text.length ∧ text.length ≤ max

def isScopedId (text : Text) : Bool := isBounded 256 text

def isHexDigit (unit : UInt16) : Bool :=
  (0x30 ≤ unit ∧ unit ≤ 0x39) ∨ (0x61 ≤ unit ∧ unit ≤ 0x66) ∨ (0x41 ≤ unit ∧ unit ≤ 0x46)

/-- `z.string().uuid()`. -/
def isUuid (text : Text) : Bool :=
  let groups := text.splitOn 0x2d
  groups.map List.length = [8, 4, 4, 4, 12] ∧ groups.all (·.all isHexDigit)

/-- `z.string().datetime()`, which takes ASCII alone. -/
def isTimestamp (text : Text) : Bool :=
  text.all (· < 0x80) &&
    (JsDate.parse (String.ofList (text.map fun unit => Char.ofNat unit.toNat))).isSome

def maxIncidentFieldMessageBodyBytes : Nat := 16 * 1024

def maxIncidentFieldMessageMediaRefs : Nat := 64

/-- A message says something: `body ?? null` and `media_refs ?? []` are not both empty. -/
def MessageSendPayload.hasContent (payload : MessageSendPayload) : Bool :=
  payload.body.join.isSome || payload.mediaRefs.getD [] ≠ []

/-- `OfflineIncidentMessageSendPayloadSchema`. -/
def MessageSendPayload.accepted (payload : MessageSendPayload) : Bool :=
  isUuid payload.incidentId &&
    payload.recipientUserIds.all isScopedId &&
    decide (1 ≤ payload.recipientUserIds.length ∧ payload.recipientUserIds.length ≤ 128) &&
    payload.body.join.all (· ≠ []) &&
    (payload.mediaRefs.getD []).all (isBounded 512) &&
    decide ((payload.mediaRefs.getD []).length ≤ maxIncidentFieldMessageMediaRefs) &&
    isBounded 128 payload.retentionClass &&
    payload.expiresAt.join.all isTimestamp &&
    decide payload.recipientUserIds.Nodup &&
    payload.hasContent &&
    payload.body.join.all fun body =>
      (EdgeRequest.utf8Bytes body).length ≤ maxIncidentFieldMessageBodyBytes

def Payload.accepted : Payload → Bool
  | .assignment _ payload => isUuid payload.assignmentId
  | .messageSend payload => payload.accepted
  | .messageAcknowledge payload => isUuid payload.messageId

/-- `FieldOfflineOperationV2Schema`. -/
def Operation.accepted : Bool :=
  isUuid operation.offlineOperationId &&
    isScopedId operation.organisationId &&
    isScopedId operation.siteId &&
    isScopedId operation.deviceId &&
    decide (operation.deviceSequence ≤ maxOfflineDeviceSequence) &&
    isScopedId operation.idempotencyKey &&
    isTimestamp operation.createdAt &&
    isScopedId operation.traceId &&
    operation.payload.accepted

/-! ## The namespace -/

/-- `OfflineReplayNamespace`: the authenticated values. -/
structure ReplayNamespace where
  organisationId : Text
  siteId : Text
  userId : Text
  deviceId : Text

/-- `AuthenticatedFieldDeviceContext`, without the sites it is authorised for. -/
structure DeviceContext where
  organisationId : Text
  userId : Text
  deviceId : Text

/-- The checks of `bindDeviceContext` on the envelope's claims: a mismatch is refused before any
    receipt is read. -/
def bindsClaims (context : DeviceContext) (operation : Operation) : Bool :=
  operation.organisationId = context.organisationId ∧ operation.deviceId = context.deviceId

/-- The namespace `submit` builds; the site is the envelope's. -/
def replayNamespace (context : DeviceContext) (operation : Operation) : ReplayNamespace where
  organisationId := context.organisationId
  siteId := operation.siteId
  userId := context.userId
  deviceId := context.deviceId

/-! ## The canonical semantic request -/

/-- `[...recipient_user_ids].sort()`, by UTF-16 units. -/
def sortTexts (elements : List Text) : List Text := elements.insertionSort (· ≤ ·)

def Payload.normalise : Payload → Payload
  | .messageSend payload =>
    .messageSend { payload with recipientUserIds := sortTexts payload.recipientUserIds }
  | payload => payload

/-- `{ ...payload, recipient_user_ids }`: the property keeps its place. -/
def withRecipients (recipients : List Text) (entries : List (Text × Value)) : List (Text × Value) :=
  entries.map fun entry =>
    if entry.1 = units "recipient_user_ids" then (entry.1, texts recipients) else entry

theorem withRecipients_present (payload : MessageSendPayload) (recipients : List Text) :
    withRecipients recipients (JsObject.present (Payload.messageSend payload).fields) =
      JsObject.present
        (Payload.messageSend { payload with recipientUserIds := recipients }).fields := by
  have hkeys : units "incident_id" ≠ units "recipient_user_ids" ∧
      units "body" ≠ units "recipient_user_ids" ∧
      units "media_refs" ≠ units "recipient_user_ids" ∧
      units "retention_class" ≠ units "recipient_user_ids" ∧
      units "expires_at" ≠ units "recipient_user_ids" := by decide
  obtain ⟨hincident, hbody, hmedia, hretention, hexpires⟩ := hkeys
  cases hb : payload.body <;> cases hm : payload.mediaRefs <;> cases he : payload.expiresAt <;>
    simp [withRecipients, JsObject.present, Payload.fields, hb, hm, he, hincident, hbody, hmedia,
      hretention, hexpires]

/-- `normaliseOfflineOperation`, on the payload. -/
def PayloadObject.normalise (object : PayloadObject) : PayloadObject :=
  match object with
  | ⟨.messageSend payload, entries, hperm⟩ =>
    let recipients := sortTexts payload.recipientUserIds
    { payload := .messageSend { payload with recipientUserIds := recipients }
      entries := withRecipients recipients entries
      entries_perm := withRecipients_present payload recipients ▸ hperm.map _ }
  | object => object

/-- `normaliseOfflineOperation`: the recipients are a set, and every other array is left as sent. -/
def normaliseOfflineOperation : Operation :=
  { operation with object := operation.object.normalise }

/-- `canonicalOfflineJson`, whose `sortKeysDeep` is that of the device's contract. -/
def canonicalOfflineJson (value : Value) : Text :=
  DeviceCanonicalJson.stringify (DeviceCanonicalJson.sortKeysDeep value)

def ReplayNamespace.toValue (ns : ReplayNamespace) : Value :=
  .map [(units "organisation_id", .string ns.organisationId), (units "site_id", .string ns.siteId),
    (units "user_id", .string ns.userId), (units "device_id", .string ns.deviceId)]

/-- The object that `canonicaliseOfflineSemanticRequest` writes: `trace_id` is not part of it. -/
def semanticRequest (ns : ReplayNamespace) (operation : Operation) : Value :=
  let normalised := normaliseOfflineOperation operation
  .map [(units "namespace", ns.toValue),
    (units "offline_operation_id", .string normalised.offlineOperationId),
    (units "device_sequence", .integer normalised.deviceSequence),
    (units "idempotency_key", .string normalised.idempotencyKey),
    (units "operation_kind",
      .string (units (OfflineIngress.OperationKind.wire normalised.operationKind))),
    (units "payload", .map normalised.object.entries),
    (units "created_at", .string normalised.createdAt)]

def canonicaliseOfflineSemanticRequest (ns : ReplayNamespace) (operation : Operation) : Text :=
  canonicalOfflineJson (semanticRequest ns operation)

/-! ## The fingerprint and the downstream key -/

section Digest

-- SHA-256 of a text's UTF-8, in hexadecimal
variable (sha256Hex : Text → Text)

variable (ns : ReplayNamespace)

def fingerprintOfflineSemanticRequest (operation : Operation) : Text :=
  sha256Hex (canonicaliseOfflineSemanticRequest ns operation)

/-- What `deriveOfflineDownstreamIdempotencyKey` joins with line breaks. -/
def downstreamParts (offlineOperationId : Text) (operationKind : OperationKind) : List Text :=
  [ns.organisationId, ns.siteId, ns.userId, ns.deviceId, offlineOperationId,
    units (OfflineIngress.OperationKind.wire operationKind)]

def downstreamPreimage (offlineOperationId : Text) (operationKind : OperationKind) : Text :=
  [0x0a].intercalate (downstreamParts ns offlineOperationId operationKind)

def deriveOfflineDownstreamIdempotencyKey (offlineOperationId : Text)
    (operationKind : OperationKind) : Text :=
  units "offline:" ++ sha256Hex (downstreamPreimage ns offlineOperationId operationKind)

/-- The conflict that `admit` answers an operation with, at a position that has a receipt. -/
def admitConflict (lastFinalizedSequence : Option Nat) (receiptFingerprint : Text)
    (receiptFinalized : Bool) (ns : ReplayNamespace) (operation : Operation) :
    Option ConflictCode :=
  let requestFingerprint := fingerprintOfflineSemanticRequest sha256Hex ns operation
  match classifyOfflineSequence lastFinalizedSequence operation.deviceSequence
      (some (receiptFingerprint = requestFingerprint)) with
  | .sequenceGap => some .sequenceGap
  | .sequenceReused => some .sequenceReused
  | .sequenceStale => some .sequenceStale
  | .replay => if receiptFinalized then none else some .unknownOutcome
  | .fresh =>
    -- an earlier attempt crashed at this position
    if receiptFingerprint ≠ requestFingerprint then some .sequenceReused else none

end Digest

end Sentinel.FieldOfflineRequest
