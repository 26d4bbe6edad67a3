import Sentinel.Native.EdgeTrustedTime
import Sentinel.Native.EventsService
import Sentinel.Native.FieldOfflineReplay
import Sentinel.Native.IncidentStore

/-! # The Field tables

The tables of `prisma/schema/field.prisma` and `prisma/schema/field-messaging.prisma`, the schemas
of assignments, operative states and incident messages (`packages/contracts/src/field.ts`,
`modules/field`, `modules/field-messaging`), and the identity rows the two modules look up.  A text
is Unicode; its length is counted in UTF-16 units where the source counts it so. -/

namespace Sentinel.Field

open CanonicalJson (Json)
open EdgeTrustedTime (isUuid isScopedId)
open Events (Instant Timestamp isSafeSubjectToken serializedByteLength)
open FieldOffline (AssignmentStatus)
open Fusion (OperationalSeverity)
open Incidents (DeliveryState)

/-- `.min(1).max(max)`. -/
def isBounded (max : Nat) (text : String) : Bool :=
  let length := (text.toList.flatMap JsText.codeUnits).length
  1 ≤ length ∧ length ≤ max

/-- An id that the database client draws: the text of a uuid. -/
structure Uuid where
  text : String
  isUuid_text : isUuid text = true

/-! ## Identity and incidents -/

/-- A row of `sites`. -/
structure Site where
  id : String
  organisationId : String

/-- A row of `role_assignments`. -/
structure RoleAssignment where
  role : String
  siteId : Option String

/-- A row of `users`, with its roles. -/
structure User where
  id : String
  organisationId : String
  roles : List RoleAssignment

/-- What a scope clause reads of a row of `incidents`. -/
structure Incident where
  id : String
  organisationId : String
  siteId : String

/-- The rows of other modules: they come and go. -/
structure Directory where
  sites : List Site
  users : List User
  incidents : List Incident

/-- The authenticated caller. -/
structure Principal where
  organisationId : String
  userId : String

/-! ## Assignments -/

inductive AssignmentAction
  | accept | decline | start | complete | cancel
deriving DecidableEq

def AssignmentAction.target : AssignmentAction → AssignmentStatus
  | .accept => .accepted
  | .decline => .declined
  | .start => .inProgress
  | .complete => .completed
  | .cancel => .cancelled

def allowedStatusTransitions : AssignmentStatus → List AssignmentStatus
  | .requested => [.accepted, .declined, .cancelled, .expired]
  | .accepted => [.inProgress, .cancelled, .expired]
  | .inProgress => [.completed, .cancelled]
  | .declined | .completed | .cancelled | .expired => []

def canTransitionFieldAssignmentStatus (source target : AssignmentStatus) : Bool :=
  (allowedStatusTransitions source).contains target

def statusText : AssignmentStatus → String
  | .requested => "REQUESTED"
  | .accepted => "ACCEPTED"
  | .declined => "DECLINED"
  | .inProgress => "IN_PROGRESS"
  | .completed => "COMPLETED"
  | .cancelled => "CANCELLED"
  | .expired => "EXPIRED"

/-- What `CreateAssignmentInputSchema` accepts; an absent value is `null`. -/
structure CreateAssignmentInput where
  siteId : String
  incidentId : Option String
  assigneeUserId : String
  assignmentType : String
  priority : OperationalSeverity
  needToKnowSummary : String
  expiresAt : Option Instant
  idempotencyKey : String
  siteId_safe : isSafeSubjectToken siteId = true
  incidentId_uuid : incidentId.all isUuid = true
  assigneeUserId_ne : assigneeUserId ≠ ""
  assignmentType_bounded : isBounded 128 assignmentType = true
  needToKnowSummary_bounded : isBounded 8192 needToKnowSummary = true
  idempotencyKey_bounded : isBounded 256 idempotencyKey = true

/-- What `AssignmentActionInputSchema` accepts. -/
structure AssignmentActionInput where
  expectedStatus : AssignmentStatus
  idempotencyKey : String
  idempotencyKey_bounded : isBounded 256 idempotencyKey = true

/-- A row of `field_assignments`. -/
structure FieldAssignment where
  id : String
  organisationId : String
  siteId : String
  incidentId : Option String
  assigneeUserId : String
  assignmentType : String
  priority : OperationalSeverity
  status : AssignmentStatus
  deliveryState : DeliveryState
  needToKnowSummary : String
  idempotencyKey : String
  expiresAt : Option Timestamp
  acceptedAt : Option Timestamp
  startedAt : Option Timestamp
  completedAt : Option Timestamp
  cancelledAt : Option Timestamp
  declinedAt : Option Timestamp
  createdByUserId : String
  updatedByUserId : String
  acceptedByUserId : Option String
  createdAt : Timestamp
  updatedAt : Timestamp

def maxSummaryBytes : Nat := 8 * 1024

/-- `FieldAssignmentSchema` on a row, as `assertAssignmentContract` spells it; every stored instant
    is printed as a text that the schema reads. -/
def FieldAssignment.meetsContract (row : FieldAssignment) : Bool :=
  isScopedId row.id && isScopedId row.organisationId && isScopedId row.siteId &&
    row.incidentId.all isScopedId && isScopedId row.assigneeUserId &&
    isBounded 128 row.assignmentType && row.needToKnowSummary ≠ "" &&
    row.needToKnowSummary.utf8ByteSize ≤ maxSummaryBytes &&
    isScopedId row.createdByUserId && isScopedId row.updatedByUserId &&
    row.acceptedByUserId.all isScopedId &&
    row.createdAt.ms ≤ row.updatedAt.ms &&
    row.expiresAt.all (row.createdAt.ms ≤ ·.ms) &&
    (row.status ∉ [.accepted, .inProgress, .completed] ||
      row.acceptedAt.isSome && row.acceptedByUserId.isSome) &&
    row.acceptedAt.all (row.createdAt.ms ≤ ·.ms) &&
    row.acceptedByUserId.all (· = row.assigneeUserId) &&
    (row.status ≠ .completed || row.completedAt.isSome) &&
    row.completedAt.all (row.createdAt.ms ≤ ·.ms) &&
    row.completedAt.all fun completed => row.acceptedAt.all (·.ms ≤ completed.ms)

/-- A row of `field_assignment_action_idempotency`. -/
structure AssignmentActionRow where
  assignmentId : String
  action : AssignmentAction
  idempotencyKey : String
  actorUserId : String

inductive FieldState
  | available | patrol | observing | responding | onScene | needSupport | compromised | offDuty

/-- The payload of a row of `field_audit_log`. -/
inductive AuditPayload
  | created (assignmentId assigneeUserId : String) (incidentId : Option String)
  | transition (assignmentId : String) (fromStatus toStatus : AssignmentStatus)
      (action : AssignmentAction)
  | state (userId : String) (state : FieldState) (sourceAt receivedAt : Timestamp)

/-- A row of `field_audit_log`. -/
structure AuditRow where
  organisationId : String
  siteId : String
  assignmentId : Option String
  actorUserId : String
  kind : String
  payload : AuditPayload

/-- The payload of a row of `field_outbox`, beside its kind and scope. -/
inductive OutboxPayload
  | assignment (assignmentId : String)
  | state (userId : String)

/-- A row of `field_outbox`. -/
structure OutboxRow where
  id : String
  organisationId : String
  siteId : String
  kind : String
  payload : OutboxPayload
  createdAt : Timestamp
  publishedAt : Option Timestamp

/-! ## Operative states -/

/-- What `StateUpdateInputSchema` accepts; a location is an object. -/
structure StateUpdateInput where
  siteId : String
  deviceId : String
  state : FieldState
  location : Option (List (List Char × Json))
  sourceAt : Instant
  freshnessMs : Nat
  idempotencyKey : String
  traceId : String
  siteId_safe : isSafeSubjectToken siteId = true
  deviceId_bounded : isBounded 256 deviceId = true
  idempotencyKey_bounded : isBounded 256 idempotencyKey = true
  traceId_bounded : isBounded 256 traceId = true

/-- The columns that `field_operative_current_states` and `field_operative_state_history` share. -/
structure OperativeState where
  organisationId : String
  siteId : String
  userId : String
  deviceId : String
  state : FieldState
  location : Option (List (List Char × Json))
  sourceAt : Timestamp
  receivedAt : Timestamp
  clientFreshnessMs : Nat
  authoritativeFreshnessMs : Nat
  traceId : String

/-- A row of `field_operative_current_states`. -/
structure CurrentState extends OperativeState where
  id : String
  updatedAt : Timestamp

/-- A row of `field_state_update_idempotency`. -/
structure StateUpdateRow where
  organisationId : String
  siteId : String
  userId : String
  deviceId : String
  idempotencyKey : String
deriving DecidableEq

def maxBoundedJsonBytes : Nat := 16 * 1024

/-- `FieldOperativeStateUpdateSchema`, as `validateStateContract` spells it. -/
def OperativeState.meetsContract (state : OperativeState) : Bool :=
  isScopedId state.organisationId && isScopedId state.siteId && isScopedId state.userId &&
    isScopedId state.deviceId &&
    (state.location.all fun location =>
      (serializedByteLength (.object location)).any (· ≤ maxBoundedJsonBytes)) &&
    isBounded 256 state.traceId

/-! ## Messages -/

/-- `MAX_INCIDENT_FIELD_MESSAGE_BODY_BYTES`. -/
def maxMessageBodyBytes : Nat := 16 * 1024

/-- `MAX_INCIDENT_FIELD_MESSAGE_BYTES`. -/
def maxMessageBytes : Nat := 64 * 1024

/-- `MAX_INCIDENT_FIELD_MESSAGE_MEDIA_REFS`. -/
def maxMessageMediaRefs : Nat := 64

/-- What `SendMessageInputSchema` accepts; an absent value is `null` or no references. -/
structure SendMessageInput where
  recipientUserIds : List String
  body : Option String
  mediaRefs : List String
  retentionClass : String
  expiresAt : Option Instant
  idempotencyKey : String
  traceId : String
  recipientUserIds_bounded : recipientUserIds.all (isBounded 256) = true
  recipientUserIds_length : 1 ≤ recipientUserIds.length ∧ recipientUserIds.length ≤ 128
  body_ne : body.all (· ≠ "") = true
  mediaRefs_bounded : mediaRefs.all (isBounded 512) = true
  mediaRefs_length : mediaRefs.length ≤ maxMessageMediaRefs
  retentionClass_bounded : isBounded 128 retentionClass = true
  idempotencyKey_bounded : isBounded 256 idempotencyKey = true
  traceId_bounded : isBounded 256 traceId = true

/-- A row of `incident_field_messages`. -/
structure FieldMessage where
  id : String
  organisationId : String
  siteId : String
  incidentId : String
  senderUserId : String
  body : Option String
  mediaRefs : List String
  retentionClass : String
  sentAt : Timestamp
  expiresAt : Option Timestamp
  idempotencyKey : String
  traceId : String

/-- A row of `incident_field_message_recipients`, the key of which is the message and the user. -/
structure Recipient where
  messageId : String
  organisationId : String
  siteId : String
  recipientUserId : String
  deliveryState : DeliveryState
  deliveredAt : Option Timestamp
  acknowledgedAt : Option Timestamp

structure MessageWithRecipients where
  message : FieldMessage
  recipients : List Recipient

/-- A row of `incident_field_message_action_idempotency`, with the action `acknowledge`. -/
structure AcknowledgeRow where
  messageId : String
  recipientUserId : String
  idempotencyKey : String
deriving DecidableEq

/-- The kind and the payload of a row of `incident_timeline_entries`, as far as messages write them. -/
inductive TimelineKind
  /-- `INCIDENT_FIELD_MESSAGE_SENT`. -/
  | messageSent (recipientCount : Nat) (retentionClass traceId : String)
  /-- `INCIDENT_FIELD_MESSAGE_ACKNOWLEDGED`. -/
  | messageAcknowledged (acknowledgedAt : Timestamp)

/-- A row of `incident_timeline_entries`. -/
structure TimelineEntry where
  incidentId : String
  actorUserId : String
  messageId : String
  kind : TimelineKind

/-- A row of `incident_field_message_outbox`; its payload is the incident and the message. -/
structure MessageOutboxRow where
  id : String
  organisationId : String
  siteId : String
  recipientUserId : String
  incidentId : String
  messageId : String
  createdAt : Timestamp
  publishedAt : Option Timestamp
deriving DecidableEq

/-- The object that `IncidentFieldMessageSchema` is asked about. -/
def messageJson (message : FieldMessage) (recipientUserIds : List String) : Json :=
  let text (value : String) : Json := .string value.toList
  let nullable (value : Option String) : Json := value.elim (.literal "null".toList) text
  .object
    [("schema_version".toList, .literal ['1']),
      ("incident_field_message_id".toList, text message.id),
      ("organisation_id".toList, text message.organisationId),
      ("site_id".toList, text message.siteId),
      ("incident_id".toList, text message.incidentId),
      ("sender_user_id".toList, text message.senderUserId),
      ("recipient_user_ids".toList, .array (recipientUserIds.map text)),
      ("body".toList, nullable message.body),
      ("media_refs".toList, .array (message.mediaRefs.map text)),
      ("delivery_state".toList, text "REQUESTED"),
      ("retention_class".toList, text message.retentionClass),
      ("sent_at".toList, text (JsText.toISOString message.sentAt.ms)),
      ("expires_at".toList, nullable (message.expiresAt.map fun at' => JsText.toISOString at'.ms)),
      ("trace_id".toList, text message.traceId)]

/-- The message takes more bytes than the contract allows. -/
def FieldMessage.oversized (message : FieldMessage) (recipientUserIds : List String) : Bool :=
  (serializedByteLength (messageJson message recipientUserIds)).all (maxMessageBytes < ·)

/-- `IncidentFieldMessageSchema` on a message and its recipients. -/
def FieldMessage.meetsContract (message : FieldMessage) (recipientUserIds : List String) : Bool :=
  isScopedId message.id && isScopedId message.organisationId && isScopedId message.siteId &&
    isScopedId message.incidentId && isScopedId message.senderUserId &&
    recipientUserIds.all isScopedId && recipientUserIds ≠ [] && recipientUserIds.length ≤ 128 &&
    decide recipientUserIds.Nodup &&
    (message.body.all fun body => body ≠ "" && body.utf8ByteSize ≤ maxMessageBodyBytes) &&
    message.mediaRefs.all (isBounded 512) && message.mediaRefs.length ≤ maxMessageMediaRefs &&
    isBounded 128 message.retentionClass && isScopedId message.traceId &&
    (message.body.isSome || message.mediaRefs ≠ []) &&
    message.expiresAt.all (message.sentAt.ms ≤ ·.ms) &&
    !message.oversized recipientUserIds

/-! ## The database -/

structure Db where
  directory : Directory
  assignments : List FieldAssignment
  assignmentActions : List AssignmentActionRow
  currentStates : List CurrentState
  stateHistory : List OperativeState
  stateUpdates : List StateUpdateRow
  audit : List AuditRow
  outbox : List OutboxRow
  messages : List FieldMessage
  recipients : List Recipient
  acknowledgements : List AcknowledgeRow
  timeline : List TimelineEntry
  messageOutbox : List MessageOutboxRow

end Sentinel.Field
