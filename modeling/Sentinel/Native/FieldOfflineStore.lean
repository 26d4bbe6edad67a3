import Mathlib.Logic.Function.Basic
import Sentinel.ForStd.Table
import Sentinel.Native.FieldOffline

/-! # Offline receipts and cursors

`FieldOfflineRepository` (`field-offline.repository.ts`) over the two tables of
`field-offline.prisma`.  Each function is one transaction of the repository: it
maps the committed database to the next one, and `none` is the transaction that
the database itself aborts.  Instants are milliseconds. -/

namespace Sentinel.FieldOffline

def offlineProcessingLeaseMs : Int := 60000

/-- The largest value of the `attempt_count` column, a 32-bit integer. -/
def maxAttemptCount : Nat := 2147483647

/-- `OfflineStoredReceipt`: the projection every attempt reads back. -/
structure StoredReceipt where
  id : String
  offlineOperationId : String
  deviceSequence : Nat
  operationKind : OperationKind
  requestFingerprint : String
  downstreamIdempotencyKey : String
  status : ReceiptStatus
  outcome : Option Outcome
  conflictCode : Option ConflictCode
  resultRef : Option String
  resultSnapshot : Option Snapshot
  finalizedAt : Option Int
deriving DecidableEq

/-- A row of `field_offline_operation_receipts`. -/
structure ReceiptRow extends StoredReceipt where
  replayNamespace : ReplayNamespace
  clientCreatedAt : String
  firstReceivedAt : Int
  processingClaimedAt : Option Int
  attemptCount : Nat
  firstTraceId : String
  policyLeaseId : Option String
deriving DecidableEq

/-- What an audit row of the replay executor carries: identity and disposition. -/
structure AuditRow where
  organisationId : String
  siteId : String
  actorUserId : String
  kind : String
  offlineOperationId : String
  deviceId : String
  deviceSequence : Nat
  operationKind : OperationKind
  disposition : ReceiptStatus
  outcome : Option Outcome
  conflictCode : Option ConflictCode
  requestFingerprint : String
  traceId : String

def auditOfflineOperationReceived : String := "OFFLINE_OPERATION_RECEIVED"

def auditOfflineOperationFinalized : String := "OFFLINE_OPERATION_FINALIZED"

/-- The committed database: `none` where a namespace has no cursor row,
    `some none` where its row holds SQL NULL. -/
structure Db where
  cursors : ReplayNamespace → Option (Option Nat)
  receipts : List ReceiptRow
  audit : List AuditRow

/-- The database before any submission. -/
def Db.empty : Db := ⟨fun _ => none, [], []⟩

/-- A `uuid` column holds the value, not the spelling: text with upper-case hex
    digits reads back in lower case. -/
def uuidValue (text : String) : String :=
  String.ofList (text.toList.map Char.toLower)

namespace Db

/-! ## Cursor -/

variable (db : Db) (ns : ReplayNamespace)

/-- `ensureCursor`: losing the create race is a no-op. -/
def ensureCursor : Db :=
  match db.cursors ns with
  | none => { db with cursors := Function.update db.cursors ns (some none) }
  | some _ => db

/-- `lockCursor`, and `readCursor` without the lock. -/
def lockCursor : Option (Option Nat) :=
  db.cursors ns

def readCursor : Option Nat :=
  (db.cursors ns).join

/-! ## Receipts -/

/-- The row at a queue position. -/
def rowBySequence (deviceSequence : Nat) : Option ReceiptRow :=
  db.receipts.find? fun row => row.replayNamespace = ns ∧ row.deviceSequence = deviceSequence

def rowByOperationId (offlineOperationId : String) : Option ReceiptRow :=
  db.receipts.find? fun row =>
    row.replayNamespace = ns ∧ row.offlineOperationId = uuidValue offlineOperationId

def findReceiptBySequence (deviceSequence : Nat) : Option StoredReceipt :=
  (db.rowBySequence ns deviceSequence).map ReceiptRow.toStoredReceipt

def findReceiptByOperationId (offlineOperationId : String) : Option StoredReceipt :=
  (db.rowByOperationId ns offlineOperationId).map ReceiptRow.toStoredReceipt

def getReceiptById (receiptId : String) : Option StoredReceipt :=
  (db.receipts.find? fun row => row.id = receiptId).map ReceiptRow.toStoredReceipt

structure CreateReceiptInput where
  replayNamespace : ReplayNamespace
  offlineOperationId : String
  deviceSequence : Nat
  operationKind : OperationKind
  requestFingerprint : String
  downstreamIdempotencyKey : String
  clientCreatedAt : String
  firstTraceId : String
  policyLeaseId : Option String

/-- The row an insert writes; `id` is the column's generated default. -/
def CreateReceiptInput.row (input : CreateReceiptInput) (id : String) (now : Int) : ReceiptRow where
  id := id
  offlineOperationId := uuidValue input.offlineOperationId
  deviceSequence := input.deviceSequence
  operationKind := input.operationKind
  requestFingerprint := input.requestFingerprint
  downstreamIdempotencyKey := input.downstreamIdempotencyKey
  status := .received
  outcome := none
  conflictCode := none
  resultRef := none
  resultSnapshot := none
  finalizedAt := none
  replayNamespace := input.replayNamespace
  clientCreatedAt := input.clientCreatedAt
  firstReceivedAt := now
  processingClaimedAt := none
  attemptCount := 0
  firstTraceId := input.firstTraceId
  policyLeaseId := input.policyLeaseId

/-- The primary key and the two composite unique indexes of the receipts table. -/
def violatesUnique (row : ReceiptRow) : Bool :=
  db.receipts.any fun stored =>
    stored.id = row.id ∨
      stored.replayNamespace = row.replayNamespace ∧
        (stored.deviceSequence = row.deviceSequence ∨
          stored.offlineOperationId = row.offlineOperationId)

/-- `createReceipt`: `none` when a unique index refuses the row. -/
def createReceipt (input : CreateReceiptInput) (id : String) (now : Int) :
    Option (Db × StoredReceipt) :=
  let row := input.row id now
  if db.violatesUnique row then none
  else
    some
      ({ db with
          receipts := db.receipts ++ [row]
          audit := db.audit ++ [{
            organisationId := input.replayNamespace.organisationId
            siteId := input.replayNamespace.siteId
            actorUserId := input.replayNamespace.userId
            kind := auditOfflineOperationReceived
            offlineOperationId := input.offlineOperationId
            deviceId := input.replayNamespace.deviceId
            deviceSequence := input.deviceSequence
            operationKind := input.operationKind
            disposition := .received
            outcome := none
            conflictCode := none
            requestFingerprint := input.requestFingerprint
            traceId := input.firstTraceId }] },
        row.toStoredReceipt)

/-- `updateMany`: the rows matching `where_` are rewritten by `data`. -/
def updateMany (where_ : ReceiptRow → Bool) (data : ReceiptRow → ReceiptRow) : Db :=
  { db with receipts := Table.rewrite where_ data db.receipts }

/-- The `count` an `updateMany` reports. -/
def countWhere (where_ : ReceiptRow → Bool) : Nat :=
  db.receipts.countP where_

/-- The claim predicate of `claimForProcessing`: RECEIVED and UNKNOWN outright,
    APPLYING only once its claim has aged past the lease. -/
def claimable (receiptId : String) (now : Int) (row : ReceiptRow) : Bool :=
  row.id = receiptId ∧
    (row.status = .received ∨ row.status = .unknown ∨
      row.status = .applying ∧
        row.processingClaimedAt.any (· < now - offlineProcessingLeaseMs))

/-- The columns a claim writes. -/
def claimRow (now : Int) (row : ReceiptRow) : ReceiptRow :=
  { row with
    status := .applying
    processingClaimedAt := some now
    attemptCount := row.attemptCount + 1 }

/-- `claimForProcessing`: the claim generation, or `none` inside when the claim
    is lost.  The outer `none` is the integer column overflowing. -/
def claimForProcessing (receiptId : String) (now : Int) : Option (Db × Option Nat) :=
  if db.receipts.any fun row => claimable receiptId now row ∧ row.attemptCount ≥ maxAttemptCount then
    none
  else
    let claimed := db.updateMany (claimable receiptId now) (claimRow now)
    if db.countWhere (claimable receiptId now) ≠ 1 then some (claimed, none)
    else
      match claimed.receipts.find? fun row => row.id = receiptId with
      | none => none
      | some row => some (claimed, some row.attemptCount)

/-- The identity every fenced write of one attempt carries: `MarkUnknownInput`,
    and `FinalizeInput` without its outcome. -/
structure FinalizeIdentity where
  replayNamespace : ReplayNamespace
  receiptId : String
  offlineOperationId : String
  deviceSequence : Nat
  operationKind : OperationKind
  requestFingerprint : String
  traceId : String
  claimGeneration : Nat

/-- The outcome half of `FinalizeInput`. -/
structure FinalizeVerdict where
  outcome : Outcome
  conflictCode : Option ConflictCode
  resultRef : Option String
  resultSnapshot : Option Snapshot

inductive FinalizeOutcome
  | finalized (finalizedAt : Int) (lastFinalizedSequence : Option Nat)
  | lost

inductive MarkUnknownOutcome
  | marked
  | lost

/-- The claim fence `(id, status = APPLYING, attemptCount = claimGeneration)`. -/
def fenced (identity : FinalizeIdentity) (row : ReceiptRow) : Bool :=
  row.id = identity.receiptId ∧ row.status = .applying ∧
    row.attemptCount = identity.claimGeneration

/-- The audit row both fenced writes leave. -/
def finalizedAudit (identity : FinalizeIdentity) (disposition : ReceiptStatus)
    (outcome : Option Outcome) (conflictCode : Option ConflictCode) : AuditRow where
  organisationId := identity.replayNamespace.organisationId
  siteId := identity.replayNamespace.siteId
  actorUserId := identity.replayNamespace.userId
  kind := auditOfflineOperationFinalized
  offlineOperationId := identity.offlineOperationId
  deviceId := identity.replayNamespace.deviceId
  deviceSequence := identity.deviceSequence
  operationKind := identity.operationKind
  disposition := disposition
  outcome := outcome
  conflictCode := conflictCode
  requestFingerprint := identity.requestFingerprint
  traceId := identity.traceId

/-- The columns a finalization writes. -/
def finalizeRow (verdict : FinalizeVerdict) (now : Int) (row : ReceiptRow) : ReceiptRow :=
  { row with
    status := verdict.outcome.status
    outcome := some verdict.outcome
    conflictCode := verdict.conflictCode
    resultRef := verdict.resultRef
    resultSnapshot := verdict.resultSnapshot
    finalizedAt := some now }

def advanceCursor (sequence : Nat) : Db :=
  match db.cursors ns with
  | none => db
  | some none => { db with cursors := Function.update db.cursors ns (some (some sequence)) }
  | some (some last) =>
    if last < sequence then
      { db with cursors := Function.update db.cursors ns (some (some sequence)) }
    else db

def finalizeAndAdvance (identity : FinalizeIdentity) (verdict : FinalizeVerdict)
    (now : Int) : Db × FinalizeOutcome :=
  if db.countWhere (fenced identity) = 0 then (db, .lost)
  else
    let advanced :=
      (db.updateMany (fenced identity) (finalizeRow verdict now)).advanceCursor
        identity.replayNamespace identity.deviceSequence
    ({ advanced with
        audit := advanced.audit ++ [finalizedAudit identity verdict.outcome.status
          (some verdict.outcome) verdict.conflictCode] },
      .finalized now (advanced.readCursor identity.replayNamespace))

/-- `markUnknown`: the cursor does not move. -/
def markUnknown (identity : FinalizeIdentity) : Db × MarkUnknownOutcome :=
  if db.countWhere (fenced identity) = 0 then (db, .lost)
  else
    let marked := db.updateMany (fenced identity) fun row => { row with status := .unknown }
    ({ marked with
        audit := marked.audit ++ [finalizedAudit identity .unknown none (some .unknownOutcome)] },
      .marked)

end Db

end Sentinel.FieldOffline
