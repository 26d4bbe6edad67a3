import Mathlib.Data.List.Sort
import Sentinel.Native.EdgeQueue

/-! # The Edge durable queue: operations

`SqliteEdgeOperationStore` (`edge-queue.store.ts`): every operation is one immediate
transaction, rolled back when the work throws or the process dies before the commit.

The frozen contract's `EdgeStoredOperationSchema.parse` is the parameter `parses`, so
what is proved holds whatever the contract accepts. -/

namespace Sentinel.EdgeQueue

/-- The two bounds of the store's options. -/
structure Bounds where
  maxUnsettled : Nat
  settledRetention : Nat

/-- The durable clock's two halves, fixed when the process opens the store. -/
structure Process where
  origin : Int
  base : Int

/-- `durableNowMs`, from a reading of the process clock. -/
def Process.durableNowMs (process : Process) (reading : Int) : Int :=
  process.base + max 0 (reading - process.origin)

variable (parses : StoredOperation → Bool)

/-! ## Reading -/

variable (row : Row) (db : Db)

def toEntry : Except EdgeQueueError Row :=
  if parses row.stored then .ok row
  else .error (.malformed "a stored entry no longer satisfies the frozen contract")

/-- The row under an operation id. -/
def Db.rowOf (offlineOperationId : String) : Option Row :=
  db.rows.find? fun row => row.envelope.offlineOperationId = offlineOperationId

def find (offlineOperationId : String) : Except EdgeQueueError (Option Row) :=
  match db.rowOf offlineOperationId with
  | none => .ok none
  | some row => (toEntry parses row).map some

def unsettledCount : Nat := db.rows.countP fun row => !row.settled

def settledCount : Nat := db.rows.countP Row.settled

/-! ## Ordering -/

/-- The oldest unsettled entry of its namespace: its device sequence is the least. -/
def isHead (row : Row) : Bool :=
  db.rows.all fun held =>
    held.settled || held.envelope.namespaceColumns ≠ row.envelope.namespaceColumns ||
      row.envelope.deviceSequence ≤ held.envelope.deviceSequence

/-- What `forwardableHeads` selects. -/
def isForwardableHead (now : Int) (db : Db) (row : Row) : Bool :=
  !row.settled && edgeQueueForwardableStates.contains row.queueState &&
    row.nextAttemptMonotonicMs ≤ now && isHead db row

def forwardableHeads (now : Int) (limit : Nat) (db : Db) : Except EdgeQueueError (List Row) :=
  (((db.rows.filter (isForwardableHead now db)).insertionSort
    fun a b => a.position ≤ b.position).take limit).mapM (toEntry parses)

/-! ## Retention -/

/-- The order retention sweeps in: when the row was first stored, then its position. -/
def olderThan (a b : Row) : Prop :=
  a.firstStoredMonotonicMs < b.firstStoredMonotonicMs ∨
    (a.firstStoredMonotonicMs = b.firstStoredMonotonicMs ∧ a.position ≤ b.position)

instance : DecidableRel olderThan := fun _ _ => inferInstanceAs (Decidable (_ ∨ _))

/-- The ids of the oldest settled rows, at most `limit` of them. -/
def oldestSettled (limit : Nat) : List String :=
  (((db.rows.filter Row.settled).insertionSort olderThan).take limit).map
    fun row => row.envelope.offlineOperationId

/-- `reclaimSettledInTransaction`, and the statement of `pruneSettled`. -/
def reclaimSettled (limit : Nat) : Except EdgeQueueError Db :=
  deleteRows db fun row => (oldestSettled db limit).contains row.envelope.offlineOperationId

/-- `pruneSettled`: how many rows went. -/
def pruneSettled (limit : Int) (db : Db) : Except EdgeQueueError (Nat × Db) :=
  if limit ≤ 0 then .ok (0, db)
  else do
    let pruned ← reclaimSettled db limit.toNat
    return (db.rows.length - pruned.rows.length, pruned)

/-! ## Admission -/

/-- `EdgeQueueAdmissionInput`.  The witness receives the allocated position; it returns
    a receipt, returns `null`, or throws (`none`). -/
structure AdmissionInput where
  envelope : Envelope
  payloadCanonicalJson : String
  witness : Nat → Option (Option String)

/-- `EdgeQueueAdmission`. -/
inductive Admission
  | admitted (entry : Row)
  | duplicateOperationId
  | sequencePositionAlreadyHeld
  | atCapacity (unsettled capacity : Nat)
  | positionSpaceExhausted
deriving DecidableEq

def admittedRow (input : AdmissionInput) (allocated : Nat) (receipt : Option String) (now : Int) :
    Row where
  envelope := input.envelope
  payloadCanonicalJson := input.payloadCanonicalJson
  receiptJson := receipt
  position := allocated
  queueState := .storedLocal
  settlement := none
  attemptCount := 0
  failureCategory := some edgeQueueInitialFailureCategory
  firstStoredMonotonicMs := now
  lastAttemptMonotonicMs := none
  nextAttemptMonotonicMs := now

/-- `input.witness?.(allocated) ?? null`. -/
def AdmissionInput.receipt (input : AdmissionInput) (allocated : Nat) :
    Except EdgeQueueError (Option String) :=
  match input.witness allocated with
  | none => .error .witnessThrew
  | some receipt => .ok receipt

/-- Validation, not storage: the parsed value is discarded. -/
def requireStorable : Except EdgeQueueError Unit :=
  if parses row.stored then .ok ()
  else .error (.notStorable
    "the operation does not satisfy the frozen stored-operation contract; nothing was allocated")

def readBack (offlineOperationId : String) : Except EdgeQueueError Row := do
  match ← find parses db offlineOperationId with
  | none => throw (.malformed "the admitted operation is not readable back")
  | some entry => return entry

/-- The part of `admit` after the refusals: the counter advances, the receipt is
    minted, and the row lands. -/
def storeOperation (now : Int) (input : AdmissionInput) (db : Db) :
    Except EdgeQueueError (Admission × Db) := do
  let allocated := db.counter.nextPosition
  let advanced ← updateCounter db { db.counter with
    nextPosition := allocated + 1
    lastObservedMonotonicMs := max db.counter.lastObservedMonotonicMs now }
  let receipt ← input.receipt allocated
  requireStorable parses (admittedRow input allocated receipt now)
  let stored ← insertRow advanced (admittedRow input allocated receipt now)
  let entry ← readBack parses stored input.envelope.offlineOperationId
  return (.admitted entry, stored)

/-- The sweep every admission starts with: settled rows beyond the retention bound. -/
def sweepSettled (bounds : Bounds) (db : Db) : Except EdgeQueueError Db :=
  let excess := settledCount db - bounds.settledRetention
  if 0 < excess then reclaimSettled db excess else .ok db

/-- `admit`. -/
def admission (bounds : Bounds) (now : Int) (input : AdmissionInput) (db : Db) :
    Except EdgeQueueError (Admission × Db) := do
  let db ← sweepSettled bounds db
  match ← find parses db input.envelope.offlineOperationId with
  | some _ => return (.duplicateOperationId, db)
  | none =>
    if db.rows.any fun held =>
        held.envelope.namespaceColumns = input.envelope.namespaceColumns &&
          held.envelope.deviceSequence = input.envelope.deviceSequence then
      return (.sequencePositionAlreadyHeld, db)
    else if bounds.maxUnsettled ≤ unsettledCount db then
      return (.atCapacity (unsettledCount db) bounds.maxUnsettled, db)
    else if edgeQueueMaxMonotonicPosition ≤ db.counter.nextPosition then
      return (.positionSpaceExhausted, db)
    else storeOperation parses now input db

/-! ## State changes -/

def markClock (now : Int) (db : Db) : Except EdgeQueueError Db :=
  updateCounter db { db.counter with
    lastObservedMonotonicMs := max db.counter.lastObservedMonotonicMs now }

/-- `transitionTo`.  Staying in a state is not a transition, so the table is asked only
    when the state changes. -/
def transitionTo (markedAt : Int) (offlineOperationId : String) (target : EdgeQueueState)
    (apply : Row → Db → Except EdgeQueueError Db) (db : Db) :
    Except EdgeQueueError (Bool × Db) :=
  match db.rowOf offlineOperationId with
  | none => .ok (false, db)
  | some current =>
    if current.settled then .ok (false, db)
    else if current.queueState ≠ target ∧
        !canTransitionEdgeQueueState current.queueState target then
      .error (.transition current.queueState target)
    else do
      let db ← apply current db
      let db ← markClock markedAt db
      return (true, db)

/-- The `WHERE offline_operation_id = ?` of the state changes. -/
def hasId (offlineOperationId : String) (row : Row) : Bool :=
  row.envelope.offlineOperationId = offlineOperationId

def markReadyToForward (markedAt : Int) (offlineOperationId : String) (db : Db) :
    Except EdgeQueueError (Bool × Db) :=
  transitionTo markedAt offlineOperationId .readyToForward (fun _ db =>
    updateRows db (hasId offlineOperationId) fun row => { row with queueState := .readyToForward }) db

/-- `claimForForwarding`: the attempt is written ahead of the request. -/
def claimForForwarding (now markedAt : Int) (offlineOperationId : String) (db : Db) :
    Except EdgeQueueError (Bool × Db) :=
  transitionTo markedAt offlineOperationId .forwarding (fun current db =>
    let attempt := current.attemptCount + 1
    updateRows db (hasId offlineOperationId) fun row =>
      { row with
        queueState := .forwarding
        attemptCount := attempt
        failureCategory := some edgeQueueCrashRecoveryCategory
        lastAttemptMonotonicMs := some now
        nextAttemptMonotonicMs := now + edgeQueueRetryDelayMs attempt }) db

inductive CentralProgress
  | centralReceived | centralApplying

def CentralProgress.state : CentralProgress → EdgeQueueState
  | .centralReceived => .centralReceived
  | .centralApplying => .centralApplying

/-- Central has been heard from, so the link is not the problem. -/
def resetConsecutiveUnknown : Except EdgeQueueError Db :=
  updateCounter db { db.counter with consecutiveUnknown := 0 }

def recordCentralProgress (markedAt : Int) (offlineOperationId : String) (progress : CentralProgress)
    (db : Db) : Except EdgeQueueError (Bool × Db) :=
  transitionTo markedAt offlineOperationId progress.state (fun _ db => do
    let db ← updateRows db (hasId offlineOperationId) fun row =>
      { row with queueState := progress.state, failureCategory := none }
    resetConsecutiveUnknown db) db

/-- `recordTransportUnknown`: the state follows from the reason. -/
def recordTransportUnknown (markedAt : Int) (offlineOperationId : String) (reason : FailureCategory)
    (db : Db) : Except EdgeQueueError (Bool × Db) :=
  let target := edgeQueueStateForFailureCategory reason
  transitionTo markedAt offlineOperationId target (fun _ db => do
    let db ← updateRows db (hasId offlineOperationId) fun row =>
      { row with queueState := target, failureCategory := some reason }
    let counter := { db.counter with consecutiveUnknown := db.counter.consecutiveUnknown + 1 }
    if reason = .notAttempted then return db else updateCounter db counter) db

def TerminalAnswer.settledState : TerminalAnswer → EdgeQueueState
  | .centralAccepted _ => .centralApplied
  | .centralRefused _ => .failedTerminal

/-- `settle`.  The answer is whatever the caller hands in, `none` when it does not parse
    as a transport result. -/
def settle (markedAt : Int) (offlineOperationId : String) (answer : Option TransportResult) (db : Db) :
    Except EdgeQueueError (Bool × Db) :=
  match answer with
  | none => .error .invalidAnswer
  | some (.unknown _) => .error (.transition .forwarding .centralApplied)
  | some (.terminal answer) =>
    transitionTo markedAt offlineOperationId answer.settledState (fun _ db => do
      let db ← updateRows db (hasId offlineOperationId) fun row =>
        { row with
          queueState := answer.settledState
          settlement := some answer
          failureCategory := none }
      resetConsecutiveUnknown db) db

/-! ## Opening -/

/-- `recoverInterruptedAttempts`: what was in flight when the process died is UNKNOWN. -/
def recoverInterruptedAttempts : Except EdgeQueueError Db :=
  updateRows db
    (fun row => row.queueState = edgeQueueCrashInterruptedState && !row.settled)
    fun row =>
      { row with
        queueState := edgeQueueStateForFailureCategory edgeQueueCrashRecoveryCategory
        failureCategory := some edgeQueueCrashRecoveryCategory }

/-- The constructor: refuse a queue that cannot be trusted, then recover. -/
def openStore (reading : Int) (db : Db) : Except EdgeQueueError (Process × Db) :=
  if db.counter.schemaVersion ≠ edgeQueueSchemaVersion then
    .error (.malformed ("the stored queue is schema version " ++
      toString db.counter.schemaVersion ++ ", not " ++ toString edgeQueueSchemaVersion ++
      "; a box on a site LAN does not migrate itself"))
  else if db.rows.any fun row => db.counter.nextPosition ≤ row.position then
    .error (.malformed "a stored entry holds a monotonic position at or beyond the next position")
  else do
    let recovered ← recoverInterruptedAttempts db
    return (⟨reading, db.counter.lastObservedMonotonicMs⟩, recovered)

/-! ## Runs -/

/-- One call on the open store, whatever its arguments. -/
inductive Call
  | admission (input : AdmissionInput)
  | markReadyToForward (offlineOperationId : String)
  | claimForForwarding (offlineOperationId : String)
  | recordCentralProgress (offlineOperationId : String) (progress : CentralProgress)
  | recordTransportUnknown (offlineOperationId : String) (reason : FailureCategory)
  | settle (offlineOperationId : String) (answer : Option TransportResult)
  | pruneSettled (limit : Int)

/-- What a call returns. -/
inductive Answer
  | admission (outcome : Admission)
  | changed (changed : Bool)
  | pruned (count : Nat)

/-- The transaction of a call, with the durable instants it reads: the one it works with
    and the one it marks the clock with. -/
def perform (bounds : Bounds) (now markedAt : Int) (db : Db) :
    Call → Except EdgeQueueError (Answer × Db)
  | .admission input =>
    (admission parses bounds now input db).map fun (outcome, db) => (.admission outcome, db)
  | .markReadyToForward id =>
    (markReadyToForward markedAt id db).map fun (changed, db) => (.changed changed, db)
  | .claimForForwarding id =>
    (claimForForwarding now markedAt id db).map fun (changed, db) => (.changed changed, db)
  | .recordCentralProgress id progress =>
    (recordCentralProgress markedAt id progress db).map fun (changed, db) => (.changed changed, db)
  | .recordTransportUnknown id reason =>
    (recordTransportUnknown markedAt id reason db).map fun (changed, db) => (.changed changed, db)
  | .settle id answer =>
    (settle markedAt id answer db).map fun (changed, db) => (.changed changed, db)
  | .pruneSettled limit => (pruneSettled limit db).map fun (count, db) => (.pruned count, db)

/-- The database on disk, the process that has it open, and the history of the run: the
    positions admissions took and the positions claims were made on, in order. -/
structure State where
  db : Db
  process : Option Process
  admissions : List Nat
  claims : List Nat

/-- A fresh queue that nobody has opened. -/
def State.initial : State := ⟨.initial, none, [], []⟩

/-- One step of a run, with the readings of the process clock it makes.  A call that
    `crashes` dies before its commit, so SQLite rolls its transaction back and the
    process is gone. -/
inductive Label
  | call (call : Call) (reading markReading : Int) (crashes : Bool)
  | close
  | reopen (reading : Int)

/-- The positions an answered call admits. -/
def admittedBy : Answer → List Nat
  | .admission (.admitted entry) => [entry.position]
  | _ => []

/-- The positions an answered call claims. -/
def claimedBy : Call → Answer → List Nat
  | .claimForForwarding id, .changed true => ((db.rowOf id).map Row.position).toList
  | _, _ => []

/-- One step; `none` when it is not possible in the state. -/
def step (bounds : Bounds) (s : State) : Label → Option State
  | .call call reading markReading crashes =>
    match s.process with
    | none => none
    | some process =>
      if crashes then some { s with process := none }
      else
        match perform parses bounds (process.durableNowMs reading)
            (process.durableNowMs markReading) s.db call with
        | .error _ => some s
        | .ok (answer, db) =>
          some { s with
            db := db
            admissions := s.admissions ++ admittedBy answer
            claims := s.claims ++ claimedBy s.db call answer }
  | .close => some { s with process := none }
  | .reopen reading =>
    match s.process with
    | some _ => none
    | none =>
      match openStore reading s.db with
      | .error _ => some s
      | .ok (process, db) => some { s with process := some process, db := db }

end Sentinel.EdgeQueue
