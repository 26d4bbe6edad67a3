/-! # Offline operation contract

The wire contract of queued field operations
(`packages/contracts/src/field-offline.ts`): the admitted operation kinds and
their payloads, the sequence classifier, the receipt lifecycle and the outcomes
a submission can have.  `schema_version` is the literal 2 of every envelope,
result and conflict, and is left out. -/

namespace Sentinel.FieldOffline

/-! ## Operations -/

inductive OperationKind
  | fieldAssignmentAccept
  | fieldAssignmentDecline
  | fieldAssignmentStart
  | fieldAssignmentComplete
  | incidentFieldMessageSend
  | incidentFieldMessageAcknowledge
deriving DecidableEq

inductive AssignmentStatus
  | requested | accepted | declined | inProgress | completed | cancelled | expired
deriving DecidableEq

/-- `FieldAssignmentAction`, as far as the queue can name it. -/
inductive AssignmentAction
  | accept | decline | start | complete

/-- `ACTION_TARGETS`: the status each action lands. -/
def AssignmentAction.target : AssignmentAction → AssignmentStatus
  | .accept => .accepted
  | .decline => .declined
  | .start => .inProgress
  | .complete => .completed

structure AssignmentTransitionPayload where
  assignmentId : String
  expectedStatus : AssignmentStatus

structure MessageSendPayload where
  incidentId : String
  recipientUserIds : List String
  body : Option String
  mediaRefs : Option (List String)
  retentionClass : String
  expiresAt : Option String

structure MessageAcknowledgePayload where
  messageId : String

/-- The discriminated union of kinds: the four assignment kinds share one
    payload and differ in the action they name. -/
inductive Payload
  | assignment (action : AssignmentAction) (payload : AssignmentTransitionPayload)
  | messageSend (payload : MessageSendPayload)
  | messageAcknowledge (payload : MessageAcknowledgePayload)

def Payload.kind : Payload → OperationKind
  | .assignment .accept _ => .fieldAssignmentAccept
  | .assignment .decline _ => .fieldAssignmentDecline
  | .assignment .start _ => .fieldAssignmentStart
  | .assignment .complete _ => .fieldAssignmentComplete
  | .messageSend _ => .incidentFieldMessageSend
  | .messageAcknowledge _ => .incidentFieldMessageAcknowledge

def offlineSequenceStart : Nat := 0

/-- `MAX_OFFLINE_DEVICE_SEQUENCE`, the largest safe integer. -/
def maxOfflineDeviceSequence : Nat := 9007199254740991

/-- A parsed `FieldOfflineOperationV2`.  The schema's bound on `device_sequence`
    is a field, so no operation can name a position past it. -/
structure Operation where
  offlineOperationId : String
  organisationId : String
  siteId : String
  deviceId : String
  deviceSequence : Nat
  deviceSequence_le : deviceSequence ≤ maxOfflineDeviceSequence
  idempotencyKey : String
  createdAt : String
  traceId : String
  payload : Payload

/-- `operation_kind`, the discriminant. -/
def Operation.operationKind (operation : Operation) : OperationKind :=
  operation.payload.kind

/-- `OfflineReplayNamespace`: the authenticated values a cursor belongs to. -/
structure ReplayNamespace where
  organisationId : String
  siteId : String
  userId : String
  deviceId : String
deriving DecidableEq

structure DeviceContext where
  organisationId : String
  userId : String
  deviceId : String
  authorisedSiteIds : List String

/-- What `canonicaliseOfflineSemanticRequest` digests: everything but `trace_id`, so a
    retry with a fresh trace is the same request. -/
structure SemanticRequest where
  replayNamespace : ReplayNamespace
  offlineOperationId : String
  deviceSequence : Nat
  idempotencyKey : String
  operationKind : OperationKind
  payload : Payload
  createdAt : String

def semanticRequest (ns : ReplayNamespace) (operation : Operation) : SemanticRequest where
  replayNamespace := ns
  offlineOperationId := operation.offlineOperationId
  deviceSequence := operation.deviceSequence
  idempotencyKey := operation.idempotencyKey
  operationKind := operation.operationKind
  payload := operation.payload
  createdAt := operation.createdAt

/-! ## Sequence classification -/

inductive SequenceClassification
  | fresh | sequenceGap | replay | sequenceReused | sequenceStale
deriving DecidableEq

/-- `nextExpectedOfflineSequence`: `none` when every position is consumed. -/
def nextExpectedOfflineSequence : Option Nat → Option Nat
  | none => some offlineSequenceStart
  | some lastFinalizedSequence =>
    if lastFinalizedSequence ≥ maxOfflineDeviceSequence then none
    else some (lastFinalizedSequence + 1)

/-- The part of `classifyOfflineSequence` that looks at the receipt: `none` when
    there is none, else whether it carries the same semantic request. -/
def classifyByReceipt : Option Bool → SequenceClassification
  | some true => .replay
  | some false => .sequenceReused
  | none => .sequenceStale

def classifyOfflineSequence (lastFinalizedSequence : Option Nat) (incomingSequence : Nat)
    (receipt : Option Bool) : SequenceClassification :=
  match nextExpectedOfflineSequence lastFinalizedSequence with
  | some nextExpected =>
    if incomingSequence = nextExpected then .fresh
    else if incomingSequence > nextExpected then .sequenceGap
    else classifyByReceipt receipt
  | none => classifyByReceipt receipt

/-! ## Receipts and outcomes -/

/-- `OfflineOperationOutcome`. -/
inductive Outcome
  | applied | rejected
deriving DecidableEq

inductive ReceiptStatus
  | received | applying | applied | rejected | unknown
deriving DecidableEq

/-- `offlineReceiptAdvancesCursor`: APPLIED and REJECTED consume their position. -/
def offlineReceiptAdvancesCursor (status : ReceiptStatus) : Bool :=
  [ReceiptStatus.applied, ReceiptStatus.rejected].contains status

/-- The status a receipt is finalized with is the outcome itself. -/
def Outcome.status : Outcome → ReceiptStatus
  | .applied => .applied
  | .rejected => .rejected

inductive ConflictCode
  | deviceContextMismatch
  | siteScopeMismatch
  | sequenceGap
  | sequenceReused
  | sequenceStale
  | operationIdReused
  | operationNotAllowed
  | operationInProgress
  | domainRejected
  | unknownOutcome
deriving DecidableEq

/-- A value inside a result snapshot: the allowlist admits identifiers, states
    and counts only. -/
inductive SnapshotValue
  | text (value : String)
  | status (value : AssignmentStatus)
  | count (value : Nat)
deriving DecidableEq

/-- `resultSnapshot`: an object, in the order its fields are written. -/
abbrev Snapshot := List (String × SnapshotValue)

structure OperationResult where
  offlineOperationId : String
  deviceSequence : Nat
  operationKind : OperationKind
  outcome : Outcome
  replayed : Bool
  finalizedAt : Int
  nextExpectedSequence : Option Nat
  resultRef : Option String
  resultSnapshot : Option Snapshot
  traceId : String

structure ReplayConflict where
  conflictCode : ConflictCode
  offlineOperationId : Option String
  deviceSequence : Option Nat
  expectedSequence : Option Nat
  receivedSequence : Option Nat
  traceId : String

inductive SubmissionOutcome
  | result (result : OperationResult)
  | conflict (conflict : ReplayConflict)
  | invalid (issues : List String)

end Sentinel.FieldOffline
