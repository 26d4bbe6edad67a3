import Sentinel.ForStd.Transition
import Sentinel.Native.FieldOfflineStore

/-! # Offline replay executor

`FieldOfflineReplayService` (`field-offline.service.ts`): a submission becomes a worker, which moves
by one repository transaction, one domain call or one read at a time.  The label of a step carries
what the environment decides: the clock, the id the database generates, what the domain answers, and
how the transaction ended for its caller. -/

namespace Sentinel.FieldOffline

/-! ## Identity binding -/

structure RoleAssignment where
  role : String
  siteId : Option String

/-- The part of `Principal` the executor reads. -/
structure Principal where
  userId : String
  organisationId : String
  roles : List RoleAssignment

/-- What the executor takes from elsewhere: the role table of `identity/roles.ts`,
    the two SHA-256 digests of the contract, and the schema every result leaves
    through (its byte budget on the snapshot can refuse one). -/
structure Env where
  roleHasAction : String → String → Bool
  fingerprintOfflineSemanticRequest : ReplayNamespace → Operation → String
  deriveOfflineDownstreamIdempotencyKey : ReplayNamespace → String → OperationKind → String
  resultParses : OperationResult → Bool

variable (env : Env)

def Principal.hasAction (principal : Principal) (action : String) : Bool :=
  principal.roles.any fun assignment => env.roleHasAction assignment.role action

structure SiteScope where
  orgWide : Bool
  siteIds : List String

def intersectSiteScope (principal : Principal) (action : String) : SiteScope :=
  let granting := principal.roles.filter fun assignment => env.roleHasAction assignment.role action
  { orgWide := granting.any fun assignment => assignment.siteId = none
    siteIds := (granting.filterMap RoleAssignment.siteId).eraseDups }

def requiredActionForKind : OperationKind → String
  | .fieldAssignmentAccept => "field.assignment.act"
  | .fieldAssignmentDecline => "field.assignment.act"
  | .fieldAssignmentStart => "field.assignment.act"
  | .fieldAssignmentComplete => "field.assignment.act"
  | .incidentFieldMessageSend => "field.message.send"
  | .incidentFieldMessageAcknowledge => "field.message.acknowledge"

/-- `bindDeviceContext`: the capability is checked before the scope, which is
    empty when no role grants the action at all. -/
def bindDeviceContext (principal : Principal) (context : DeviceContext) (operation : Operation)
    (requiredAction : String) : Option ConflictCode :=
  if principal.organisationId ≠ context.organisationId then some .deviceContextMismatch
  else if principal.userId ≠ context.userId then some .deviceContextMismatch
  else if operation.organisationId ≠ context.organisationId then some .deviceContextMismatch
  else if operation.deviceId ≠ context.deviceId then some .deviceContextMismatch
  else if !context.authorisedSiteIds.contains operation.siteId then some .siteScopeMismatch
  else if !principal.hasAction env requiredAction then some .operationNotAllowed
  else
    let scope := intersectSiteScope env principal requiredAction
    if !scope.orgWide && !scope.siteIds.contains operation.siteId then some .siteScopeMismatch
    else none

/-! ## Safe outcomes -/

/-- `conflict`: the code and the caller's own echoed identifiers. -/
def conflict (conflictCode : ConflictCode) (operation : Operation)
    (expectedSequence : Option Nat) : SubmissionOutcome :=
  .conflict {
    conflictCode := conflictCode
    offlineOperationId := some operation.offlineOperationId
    deviceSequence := some operation.deviceSequence
    expectedSequence := expectedSequence
    receivedSequence := some operation.deviceSequence
    traceId := operation.traceId }

variable (submission : Submission) (receipt : StoredReceipt)

def StoredReceipt.isFinalized : Bool :=
  offlineReceiptAdvancesCursor receipt.status

/-- The result a finalized receipt is answered with. -/
def resultOf (outcome : Outcome) (replayed : Bool) (finalizedAt : Int)
    (lastFinalizedSequence : Option Nat) (resultRef : Option String)
    (resultSnapshot : Option Snapshot) (traceId : String) : OperationResult where
  offlineOperationId := receipt.offlineOperationId
  deviceSequence := receipt.deviceSequence
  operationKind := receipt.operationKind
  outcome := outcome
  replayed := replayed
  finalizedAt := finalizedAt
  nextExpectedSequence := nextExpectedOfflineSequence lastFinalizedSequence
  resultRef := resultRef
  resultSnapshot := resultSnapshot
  traceId := traceId

/-- `replayStoredResult`: rebuilt purely from receipt columns. -/
def replayStoredResult (operation : Operation) (receipt : StoredReceipt)
    (lastFinalizedSequence : Option Nat) : SubmissionOutcome :=
  match receipt.outcome, receipt.finalizedAt with
  | some outcome, some finalizedAt =>
    .result (resultOf receipt outcome true finalizedAt lastFinalizedSequence receipt.resultRef
      receipt.resultSnapshot operation.traceId)
  | _, _ =>
    conflict .unknownOutcome operation (nextExpectedOfflineSequence lastFinalizedSequence)

/-! ## Submission -/

/-- What `submit` holds once the operation is bound to its authenticated
    namespace. -/
structure Submission where
  principal : Principal
  replayNamespace : ReplayNamespace
  operation : Operation
  requestFingerprint : String
  downstreamIdempotencyKey : String
  policyLeaseId : Option String

/-- `submit` up to the first write: parsing, identity binding, the namespace and
    the site check.  A refusal here leaves no trace. -/
def preflight (principal : Principal) (context : DeviceContext)
    (rawOperation : Except (List String) Operation) (policyLeaseId : Option String)
    (siteExistsInOrganisation : Bool) : Except SubmissionOutcome Submission :=
  match rawOperation with
  | .error issues => .error (.invalid issues)
  | .ok operation =>
    let requiredAction := requiredActionForKind operation.operationKind
    match bindDeviceContext env principal context operation requiredAction with
    | some bindingFailure => .error (conflict bindingFailure operation none)
    | none =>
      let ns : ReplayNamespace := {
        organisationId := context.organisationId
        siteId := operation.siteId
        userId := context.userId
        deviceId := context.deviceId }
      if !siteExistsInOrganisation then .error (conflict .siteScopeMismatch operation none)
      else
        .ok {
          principal := principal
          replayNamespace := ns
          operation := operation
          requestFingerprint := env.fingerprintOfflineSemanticRequest ns operation
          downstreamIdempotencyKey :=
            env.deriveOfflineDownstreamIdempotencyKey ns operation.offlineOperationId
              operation.operationKind
          policyLeaseId := policyLeaseId }

inductive Admission
  | proceed (receipt : StoredReceipt) (lastFinalizedSequence : Option Nat)
  | replay (receipt : StoredReceipt) (lastFinalizedSequence : Option Nat)
  | refuse (conflictCode : ConflictCode) (expectedSequence : Option Nat)

/-- The insert `admit` makes for a position nothing holds yet. -/
def Submission.createInput : Db.CreateReceiptInput where
  replayNamespace := submission.replayNamespace
  offlineOperationId := submission.operation.offlineOperationId
  deviceSequence := submission.operation.deviceSequence
  operationKind := submission.operation.operationKind
  requestFingerprint := submission.requestFingerprint
  downstreamIdempotencyKey := submission.downstreamIdempotencyKey
  clientCreatedAt := submission.operation.createdAt
  firstTraceId := submission.operation.traceId
  policyLeaseId := submission.policyLeaseId

/-- The FRESH arm of `admit`: a receipt already sitting at the position is
    examined before the submission is treated as new. -/
def admitFresh (db : Db) (submission : Submission) (lastFinalizedSequence : Option Nat)
    (receipt : Option StoredReceipt) (newId : String) (now : Int) : Option (Db × Admission) :=
  match receipt with
  | some receipt =>
    if receipt.requestFingerprint ≠ submission.requestFingerprint then
      some (db, .refuse .sequenceReused (nextExpectedOfflineSequence lastFinalizedSequence))
    else if receipt.isFinalized then some (db, .replay receipt lastFinalizedSequence)
    else some (db, .proceed receipt lastFinalizedSequence)
  | none =>
    match db.createReceipt submission.createInput newId now with
    | none => none
    | some (db', created) => some (db', .proceed created lastFinalizedSequence)

/-- The REPLAY arm of `admit`: only a finalized receipt answers. -/
def admitReplay (lastFinalizedSequence : Option Nat) (receipt : Option StoredReceipt) : Admission :=
  match receipt with
  | some receipt =>
    if receipt.isFinalized then .replay receipt lastFinalizedSequence
    else .refuse .unknownOutcome (nextExpectedOfflineSequence lastFinalizedSequence)
  | none => .refuse .unknownOutcome (nextExpectedOfflineSequence lastFinalizedSequence)

/-- `admit`, the transaction under the cursor lock; `none` when it throws. -/
def admitOperation (db : Db) (submission : Submission) (newId : String) (now : Int) :
    Option (Db × Admission) :=
  match db.lockCursor submission.replayNamespace with
  | none => none
  | some lastFinalizedSequence =>
    let ns := submission.replayNamespace
    let incoming := submission.operation.deviceSequence
    let expectedSequence := nextExpectedOfflineSequence lastFinalizedSequence
    let byOperationId := db.findReceiptByOperationId ns submission.operation.offlineOperationId
    if byOperationId.any (·.deviceSequence ≠ incoming) then
      some (db, .refuse .operationIdReused expectedSequence)
    else
      let receipt := db.findReceiptBySequence ns incoming
      let sameRequest :=
        receipt.map fun stored => decide (stored.requestFingerprint = submission.requestFingerprint)
      match classifyOfflineSequence lastFinalizedSequence incoming sameRequest with
      | .sequenceGap => some (db, .refuse .sequenceGap expectedSequence)
      | .sequenceReused => some (db, .refuse .sequenceReused expectedSequence)
      | .sequenceStale => some (db, .refuse .sequenceStale expectedSequence)
      | .replay => some (db, admitReplay lastFinalizedSequence receipt)
      | .fresh => admitFresh db submission lastFinalizedSequence receipt newId now

/-! ## Domain calls -/

structure ExecutionEffect where
  resultRef : String
  resultSnapshot : Snapshot

/-- What the views of the domain services show the executor. -/
inductive DomainView
  | assignment (id : String) (status : AssignmentStatus)
  | message (id incidentId : String) (recipients : Nat)
  | acknowledgement (id : String)

/-- What the evidence probes of the domain services return for a committed effect. -/
inductive DomainEvidence
  | transition
  | send (id incidentId : String) (recipientCount : Nat)
  | acknowledgement

/-- How a domain call ends: a view, an `HttpException`, or any other throw. -/
inductive DomainAnswer
  | view (view : DomainView)
  | httpException (status : Nat)
  | fault

def assignmentSnapshot (assignmentId : String) (status : AssignmentStatus) : Snapshot :=
  [("assignment_id", .text assignmentId), ("status", .status status)]

def messageSnapshot (id incidentId : String) (recipientCount : Nat) : Snapshot :=
  [("incident_field_message_id", .text id), ("incident_id", .text incidentId),
    ("recipient_count", .count recipientCount)]

/-- The effect `execute` builds from the view its domain call returned; a view of
    another kind is not an answer that call can give. -/
def executeEffect : Payload → DomainView → Option ExecutionEffect
  | .assignment _ _, .assignment id status => some ⟨id, assignmentSnapshot id status⟩
  | .messageSend _, .message id incidentId recipients =>
    some ⟨id, messageSnapshot id incidentId recipients⟩
  | .messageAcknowledge _, .acknowledgement id =>
    some ⟨id, [("incident_field_message_id", .text id)]⟩
  | _, _ => none

/-- The effect `probeCommittedEffect` rebuilds from evidence.  The status of a
    recovered transition is the action's target, not the live status. -/
def probeEffect : Payload → DomainEvidence → Option ExecutionEffect
  | .assignment action payload, .transition =>
    some ⟨payload.assignmentId, assignmentSnapshot payload.assignmentId action.target⟩
  | .messageSend _, .send id incidentId recipientCount =>
    some ⟨id, messageSnapshot id incidentId recipientCount⟩
  | .messageAcknowledge payload, .acknowledgement =>
    some ⟨payload.messageId, [("incident_field_message_id", .text payload.messageId)]⟩
  | _, _ => none

/-- `deterministicRejectionStatus`, on the status of an `HttpException`. -/
def deterministicRejectionStatus (status : Nat) : Option Nat :=
  if 400 ≤ status ∧ status < 500 then some status else none

/-! ## Workers -/

/-- What one claimed attempt carries: the receipt as admission read it, the
    expected sequence it answers with, and its fencing token. -/
structure Attempt where
  receipt : StoredReceipt
  expectedSequence : Option Nat
  claimGeneration : Nat

/-- What an attempt is about to record. -/
inductive Verdict
  | applied (effect : ExecutionEffect)
  | rejected (httpStatus : Nat)

/-- The point of `submit` a worker has come to. -/
inductive Phase
  | ensuringCursor
  | admitting
  | claiming (receipt : StoredReceipt) (expectedSequence : Option Nat)
  | probing (attempt : Attempt)
  | executing (attempt : Attempt)
  | finalizing (attempt : Attempt) (verdict : Verdict)
  | markingUnknown (attempt : Attempt)
  | rereadingReceipt (receiptId : String)
  | rereadingCursor (current : Option StoredReceipt)
  | answered (outcome : SubmissionOutcome)
  | threw
  | crashed

/-- One call of `submit` past its preflight. -/
structure Worker where
  submission : Submission
  phase : Phase

/-- How a transaction ended for its caller: acknowledged, rolled back with an
    error, or committed with its acknowledgement lost. -/
inductive Delivery
  | acknowledged
  | rolledBack
  | acknowledgementLost

/-- The database after a transaction and what its caller learns. -/
def deliver {β : Type} (delivery : Delivery) (db : Db) (committed : Db × β) : Db × Option β :=
  match delivery with
  | .acknowledged => (committed.1, some committed.2)
  | .rolledBack => (db, none)
  | .acknowledgementLost => (committed.1, none)

/-- One move of a worker, with what the environment decides in it. -/
inductive Move
  | ensureCursor (delivery : Delivery)
  | admitOperation (delivery : Delivery) (newId : String) (now : Int)
  | claim (delivery : Delivery) (now : Int)
  | probe (evidence : Option DomainEvidence)
  | probeFault
  | execute (answer : DomainAnswer)
  | finalize (delivery : Delivery) (now : Int)
  | markUnknown (delivery : Delivery)
  | reread
  | rereadFault
  | crash

/-- `finalizeIdentity` of `executeAndFinalize`. -/
def Attempt.finalizeIdentity (attempt : Attempt) (submission : Submission) :
    Db.FinalizeIdentity where
  replayNamespace := submission.replayNamespace
  receiptId := attempt.receipt.id
  offlineOperationId := attempt.receipt.offlineOperationId
  deviceSequence := attempt.receipt.deviceSequence
  operationKind := attempt.receipt.operationKind
  requestFingerprint := attempt.receipt.requestFingerprint
  traceId := submission.operation.traceId
  claimGeneration := attempt.claimGeneration

/-- The columns each verdict finalizes with.  A rejection stores the status code
    and nothing else. -/
def Verdict.finalizeVerdict : Verdict → Db.FinalizeVerdict
  | .applied effect => ⟨.applied, none, some effect.resultRef, some effect.resultSnapshot⟩
  | .rejected httpStatus =>
    ⟨.rejected, some .domainRejected, none, some [("http_status", .count httpStatus)]⟩

/-- `result`: an outcome its schema refuses escapes as a throw. -/
def answerResult (result : OperationResult) : Phase :=
  if env.resultParses result then .answered (.result result) else .threw

/-- A stored outcome on its way out. -/
def answerReplay (operation : Operation) (receipt : StoredReceipt)
    (lastFinalizedSequence : Option Nat) : Phase :=
  match replayStoredResult operation receipt lastFinalizedSequence with
  | .result result => answerResult env result
  | outcome => .answered outcome

/-- After `admit` returned. -/
def afterAdmission : Admission → Phase
  | .refuse conflictCode expectedSequence =>
    .answered (conflict conflictCode submission.operation expectedSequence)
  | .replay receipt lastFinalizedSequence =>
    answerReplay env submission.operation receipt lastFinalizedSequence
  | .proceed receipt lastFinalizedSequence =>
    .claiming receipt (nextExpectedOfflineSequence lastFinalizedSequence)

/-- After `claimForProcessing` returned: generation 1 goes straight to the domain,
    a later one asks for evidence first. -/
def afterClaim (expectedSequence : Option Nat) : Option Nat → Phase
  | none => .answered (conflict .operationInProgress submission.operation expectedSequence)
  | some claimGeneration =>
    let attempt : Attempt := ⟨receipt, expectedSequence, claimGeneration⟩
    if claimGeneration > 1 then .probing attempt else .executing attempt

/-- After the domain call; `none` when the view is of another kind. -/
def afterExecute (attempt : Attempt) : DomainAnswer → Option Phase
  | .view view =>
    (executeEffect submission.operation.payload view).map fun effect =>
      .finalizing attempt (.applied effect)
  | .httpException status =>
    match deterministicRejectionStatus status with
    | some httpStatus => some (.finalizing attempt (.rejected httpStatus))
    | none => some (.markingUnknown attempt)
  | .fault => some (.markingUnknown attempt)

/-- After `finalizeAndAdvance`; a throw goes to `markUnknown`. -/
def afterFinalize (attempt : Attempt) (verdict : Verdict) : Option Db.FinalizeOutcome → Phase
  | none => .markingUnknown attempt
  | some .lost => .rereadingReceipt attempt.receipt.id
  | some (.finalized finalizedAt lastFinalizedSequence) =>
    let columns := verdict.finalizeVerdict
    answerResult env (resultOf attempt.receipt columns.outcome false finalizedAt
      lastFinalizedSequence columns.resultRef columns.resultSnapshot
      submission.operation.traceId)

/-- After `markUnknown`; a throw escapes. -/
def afterMarkUnknown (attempt : Attempt) : Option Db.MarkUnknownOutcome → Phase
  | none => .threw
  | some .lost => .rereadingReceipt attempt.receipt.id
  | some .marked =>
    .answered (conflict .unknownOutcome submission.operation attempt.expectedSequence)

/-- The end of `reportLostFence`. -/
def afterLostFence (current : Option StoredReceipt) (lastFinalizedSequence : Option Nat) : Phase :=
  let expectedSequence := nextExpectedOfflineSequence lastFinalizedSequence
  match current with
  | none => .answered (conflict .unknownOutcome submission.operation expectedSequence)
  | some receipt =>
    if receipt.isFinalized then
      answerReplay env submission.operation receipt lastFinalizedSequence
    else if receipt.status = .applying then
      .answered (conflict .operationInProgress submission.operation expectedSequence)
    else .answered (conflict .unknownOutcome submission.operation expectedSequence)

/-- A worker that still has moves to make. -/
def Phase.live : Phase → Bool
  | .answered _ | .threw | .crashed => false
  | _ => true

/-- One atomic step of one worker: the next database and where the worker is
    then.  `none` when the move is not the one `submit` makes next. -/
def moveWorker (db : Db) (worker : Worker) (move : Move) : Option (Db × Phase) :=
  let submission := worker.submission
  match worker.phase, move with
  | .ensuringCursor, .ensureCursor delivery =>
    let (db', ensured) := deliver delivery db (db.ensureCursor submission.replayNamespace, ())
    some (db', if ensured.isSome then .admitting else .threw)
  | .admitting, .admitOperation delivery newId now =>
    match admitOperation db submission newId now with
    | none => some (db, .threw)
    | some admitted =>
      let (db', admission) := deliver delivery db admitted
      some (db', admission.elim .threw (afterAdmission env submission))
  | .claiming receipt expectedSequence, .claim delivery now =>
    match db.claimForProcessing receipt.id now with
    | none => some (db, .threw)
    | some claimed =>
      let (db', claim) := deliver delivery db claimed
      some (db', claim.elim .threw (afterClaim submission receipt expectedSequence))
  | .probing attempt, .probe evidence =>
    match evidence with
    | none => some (db, .executing attempt)
    | some evidence =>
      (probeEffect submission.operation.payload evidence).map fun effect =>
        (db, .finalizing attempt (.applied effect))
  | .probing _, .probeFault => some (db, .threw)
  | .executing attempt, .execute answer =>
    (afterExecute submission attempt answer).map (db, ·)
  | .finalizing attempt verdict, .finalize delivery now =>
    let (db', finalized) := deliver delivery db
      (db.finalizeAndAdvance (attempt.finalizeIdentity submission) verdict.finalizeVerdict now)
    some (db', afterFinalize env submission attempt verdict finalized)
  | .markingUnknown attempt, .markUnknown delivery =>
    let (db', marked) := deliver delivery db
      (db.markUnknown (attempt.finalizeIdentity submission))
    some (db', afterMarkUnknown submission attempt marked)
  | .rereadingReceipt receiptId, .reread =>
    some (db, .rereadingCursor (db.getReceiptById receiptId))
  | .rereadingCursor current, .reread =>
    some (db, afterLostFence env submission current (db.readCursor submission.replayNamespace))
  | .rereadingReceipt _, .rereadFault => some (db, .threw)
  | .rereadingCursor _, .rereadFault => some (db, .threw)
  | phase, .crash => if phase.live then some (db, .crashed) else none
  | _, _ => none

/-! ## The system -/

/-- The database and every submission made so far. -/
structure State where
  db : Db
  workers : List Worker

/-- Before any submission. -/
def State.init : State := ⟨Db.empty, []⟩

/-- A step of the whole system. -/
inductive Label
  | submit (principal : Principal) (context : DeviceContext)
      (rawOperation : Except (List String) Operation) (policyLeaseId : Option String)
      (siteExistsInOrganisation : Bool)
  | move (worker : Nat) (move : Move)

/-- Execute one step.  A submission refused by its preflight becomes no worker. -/
def step (s : State) : Label → Option State
  | .submit principal context rawOperation policyLeaseId siteExistsInOrganisation =>
    match preflight env principal context rawOperation policyLeaseId siteExistsInOrganisation with
    | .error _ => some s
    | .ok submission => some { s with workers := s.workers ++ [⟨submission, .ensuringCursor⟩] }
  | .move i move =>
    match s.workers[i]? with
    | none => none
    | some worker =>
      match moveWorker env s.db worker move with
      | none => none
      | some (db', phase) =>
        some { db := db', workers := s.workers.set i { worker with phase := phase } }

end Sentinel.FieldOffline
