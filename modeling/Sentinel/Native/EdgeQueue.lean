import Mathlib.Algebra.Group.Int.Defs
import Mathlib.Algebra.Group.Nat.Defs
import Sentinel.ForStd.Table

/-! # The Edge durable queue: states, rows and schema

The local queue states and their transition table (`edge-queue.state.ts`), the two
tables of the queue database, and what their CHECK constraints, unique indexes and
triggers (`edge-queue.schema.ts`) let a statement do.

A row keeps the signed envelope once: the indexed columns are written from it and the
schema makes both immutable. -/

namespace Sentinel.EdgeQueue

/-! ## States -/

inductive EdgeQueueState
  | storedLocal | readyToForward | forwarding | centralReceived | centralApplying
  | centralApplied | failedRetryable | failedTerminal | unknown
deriving DecidableEq

def edgeQueueSettledStates : List EdgeQueueState := [.centralApplied, .failedTerminal]

def edgeQueueCentralAcknowledgedStates : List EdgeQueueState :=
  [.centralReceived, .centralApplying, .centralApplied, .failedTerminal]

def edgeQueueForwardableStates : List EdgeQueueState :=
  [.readyToForward, .failedRetryable, .unknown, .centralReceived, .centralApplying]

def isEdgeQueueSettledState (state : EdgeQueueState) : Bool :=
  edgeQueueSettledStates.contains state

inductive EdgeOperationState
  | queued | terminal

def toEdgeOperationState (state : EdgeQueueState) : EdgeOperationState :=
  if isEdgeQueueSettledState state then .terminal else .queued

/-- `EdgeQueueFailureCategory`, the reason of an UNKNOWN transport result. -/
inductive FailureCategory
  | notAttempted | connectFailed | timedOut | transportError | responseUnintelligible
deriving DecidableEq

def edgeQueueStateForFailureCategory : FailureCategory → EdgeQueueState
  | .notAttempted => .readyToForward
  | .connectFailed => .failedRetryable
  | .timedOut => .unknown
  | .transportError => .unknown
  | .responseUnintelligible => .unknown

def edgeQueueInitialFailureCategory : FailureCategory := .notAttempted

def edgeQueueTransitions : EdgeQueueState → List EdgeQueueState
  | .storedLocal => [.readyToForward]
  | .readyToForward => [.forwarding]
  | .forwarding =>
    [.centralReceived, .centralApplying, .centralApplied, .failedTerminal, .failedRetryable,
      .unknown, .readyToForward]
  | .centralReceived => [.forwarding, .centralApplying, .centralApplied, .failedTerminal, .unknown]
  | .centralApplying => [.forwarding, .centralApplied, .failedTerminal, .unknown]
  | .failedRetryable => [.readyToForward, .forwarding]
  | .unknown => [.readyToForward, .forwarding]
  | .centralApplied => []
  | .failedTerminal => []

def canTransitionEdgeQueueState (source target : EdgeQueueState) : Bool :=
  (edgeQueueTransitions source).contains target

def edgeQueueCrashInterruptedState : EdgeQueueState := .forwarding

def edgeQueueCrashRecoveryCategory : FailureCategory := .transportError

def edgeQueueRetryDelayMs (attemptCount : Nat) : Int :=
  if attemptCount = 0 then 0 else min (5000 * 2 ^ min (attemptCount - 1) 40) 900000

def edgeQueueSchemaVersion : Nat := 1

def edgeQueueMaxMonotonicPosition : Nat := 9007199254740991

/-- `EdgeTransportTerminalAnswer`: the two answers of central that end an entry. -/
inductive TerminalAnswer
  | centralAccepted (centralReference : String)
  | centralRefused (refusalCode : String)
deriving DecidableEq

inductive TransportResult
  | terminal (answer : TerminalAnswer)
  | unknown (reason : FailureCategory)

/-! ## Rows -/

/-- The device-signed envelope: the fields the store indexes, and its JSON text. -/
structure Envelope where
  offlineOperationId : String
  organisationId : String
  siteId : String
  actorUserId : String
  deviceId : String
  deviceSequence : Int
  policyLeaseId : String
  payloadDigest : String
  json : String
deriving DecidableEq

/-- `EDGE_QUEUE_NAMESPACE_COLUMNS`. -/
def Envelope.namespaceColumns (envelope : Envelope) : String × String × String × String :=
  (envelope.organisationId, envelope.siteId, envelope.actorUserId, envelope.deviceId)

/-- A row of `edge_queued_operation`. -/
structure Row where
  envelope : Envelope
  payloadCanonicalJson : String
  receiptJson : Option String
  position : Nat
  queueState : EdgeQueueState
  settlement : Option TerminalAnswer
  attemptCount : Nat
  failureCategory : Option FailureCategory
  firstStoredMonotonicMs : Int
  lastAttemptMonotonicMs : Option Int
  nextAttemptMonotonicMs : Int
deriving DecidableEq

/-- `EdgeStoredOperation`, the value the frozen contract parses. -/
structure StoredOperation where
  envelope : Envelope
  payloadCanonicalJson : String
  receiptJson : Option String
  position : Nat
  state : EdgeOperationState
  settlement : Option TerminalAnswer

/-- What `toEntry` hands to the contract. -/
def Row.stored (row : Row) : StoredOperation where
  envelope := row.envelope
  payloadCanonicalJson := row.payloadCanonicalJson
  receiptJson := row.receiptJson
  position := row.position
  state := toEdgeOperationState row.queueState
  settlement := row.settlement

def settlementProves (state : EdgeQueueState) (settlement : Option TerminalAnswer) : Bool :=
  match state, settlement with
  | .centralApplied, some (.centralAccepted _) => true
  | .centralApplied, _ => false
  | .failedTerminal, some (.centralRefused _) => true
  | .failedTerminal, _ => false
  | _, _ => true

def Row.checks (row : Row) : Bool :=
  2 ≤ row.payloadCanonicalJson.length &&
  row.envelope.payloadDigest ≠ "" &&
  row.envelope.organisationId ≠ "" && row.envelope.siteId ≠ "" &&
  row.envelope.actorUserId ≠ "" && row.envelope.deviceId ≠ "" &&
  0 ≤ row.envelope.deviceSequence &&
  row.envelope.deviceSequence ≤ edgeQueueMaxMonotonicPosition &&
  row.envelope.policyLeaseId ≠ "" &&
  row.position ≤ edgeQueueMaxMonotonicPosition &&
  0 ≤ row.firstStoredMonotonicMs && row.lastAttemptMonotonicMs.all (0 ≤ ·) &&
  0 ≤ row.nextAttemptMonotonicMs &&
  -- `edge_queue_settlement_matches_state`
  isEdgeQueueSettledState row.queueState = row.settlement.isSome &&
  settlementProves row.queueState row.settlement &&
  -- `edge_queue_answer_or_reason`
  (row.settlement.isNone || row.failureCategory.isNone) &&
  (edgeQueueCentralAcknowledgedStates.contains row.queueState || row.failureCategory.isSome)

/-- The one row of `edge_queue_counter`. -/
structure Counter where
  schemaVersion : Nat
  nextPosition : Nat
  lastObservedMonotonicMs : Int
  consecutiveUnknown : Nat
deriving DecidableEq

/-- The database: the counter row and the queue table. -/
structure Db where
  counter : Counter
  rows : List Row
deriving DecidableEq

/-- The database after the schema has first been applied. -/
def Db.initial : Db := ⟨⟨edgeQueueSchemaVersion, 0, 0, 0⟩, []⟩

/-- `settlement_json IS NOT NULL`. -/
def Row.settled (row : Row) : Bool := row.settlement.isSome

/-! ## Statements -/

/-- What a store operation may throw. -/
inductive EdgeQueueError
  /-- `EdgeQueueTransitionError`. -/
  | transition (source target : EdgeQueueState)
  | notStorable (message : String)
  /-- `MalformedEdgeQueueError`. -/
  | malformed (message : String)
  /-- A constraint or a trigger of the schema. -/
  | sql (message : String)
  /-- The answer handed to `settle` does not parse. -/
  | invalidAnswer
  /-- The witness callback threw. -/
  | witnessThrew
deriving DecidableEq

/-- `UPDATE edge_queue_counter`, under `edge_queue_counter_never_rewinds` and the CHECKs. -/
def updateCounter (db : Db) (counter : Counter) : Except EdgeQueueError Db :=
  if counter.nextPosition < db.counter.nextPosition ∨
      counter.lastObservedMonotonicMs < db.counter.lastObservedMonotonicMs then
    .error (.sql "edge queue: the monotonic counter and clock may not move backwards")
  else if edgeQueueMaxMonotonicPosition < counter.nextPosition ∨
      counter.lastObservedMonotonicMs < 0 then
    .error (.sql "CHECK constraint failed")
  else .ok { db with counter := counter }

/-- `INSERT INTO edge_queued_operation`, under the primary key, the unique index, the
    CHECKs and `edge_queue_position_below_counter`. -/
def insertRow (db : Db) (row : Row) : Except EdgeQueueError Db :=
  if db.counter.nextPosition ≤ row.position then
    .error (.sql "edge queue: refusing an entry at or beyond the next monotonic position")
  else if !row.checks then .error (.sql "CHECK constraint failed")
  else if db.rows.any fun held =>
      held.envelope.offlineOperationId = row.envelope.offlineOperationId ||
        (held.envelope.namespaceColumns = row.envelope.namespaceColumns &&
          held.envelope.deviceSequence = row.envelope.deviceSequence) then
    .error (.sql "UNIQUE constraint failed")
  else .ok { db with rows := db.rows ++ [row] }

/-- The update triggers: a settled row is final, the signed bytes and the identity are
    immutable, and a receipt is written once. -/
def updateAllowed (old new : Row) : Except EdgeQueueError Unit :=
  if old.settled then
    .error (.sql "edge queue: central has answered this operation and its record is final")
  else if new.envelope ≠ old.envelope ∨ new.payloadCanonicalJson ≠ old.payloadCanonicalJson ∨
      new.position ≠ old.position ∨ new.firstStoredMonotonicMs ≠ old.firstStoredMonotonicMs then
    .error (.sql
      "edge queue: the signed envelope and the identity of a stored operation are immutable")
  else if old.receiptJson.isSome ∧ new.receiptJson ≠ old.receiptJson then
    .error (.sql "edge queue: an Edge receipt is written once and never replaced")
  else if !new.checks then .error (.sql "CHECK constraint failed")
  else .ok ()

/-- `UPDATE edge_queued_operation` on the rows selected: aborted by the first row the
    schema does not let change so. -/
def updateRows (db : Db) (selected : Row → Bool) (change : Row → Row) : Except EdgeQueueError Db :=
  match (db.rows.filter selected).findSome? fun row =>
      match updateAllowed row (change row) with
      | .error failure => some failure
      | .ok () => none with
  | some failure => .error failure
  | none => .ok { db with rows := Table.rewrite selected change db.rows }

/-- `DELETE FROM edge_queued_operation`, under `edge_queue_no_unsettled_delete`. -/
def deleteRows (db : Db) (selected : Row → Bool) : Except EdgeQueueError Db :=
  if db.rows.any fun row => selected row && !row.settled then
    .error (.sql "edge queue: an operation central has not answered may not be deleted")
  else .ok { db with rows := db.rows.filter fun row => !selected row }

end Sentinel.EdgeQueue
