import Sentinel.ForStd.Transaction
import Sentinel.Native.EdgeQueueStore

/-! # The Edge durable queue: one admission as its transaction

`admit` statement by statement, with what each statement has done still there when a later one, the
witness or the contract throws, and the wrapper `transact` around it. -/

namespace Sentinel.EdgeQueue

open Transaction (Work statement query)

variable (parses : StoredOperation → Bool)

/-- The draw of a position: the counter row moves on. -/
def advanceCounter (allocated : Nat) (now : Int) (db : Db) : Except EdgeQueueError Db :=
  updateCounter db { db.counter with
    nextPosition := allocated + 1
    lastObservedMonotonicMs := max db.counter.lastObservedMonotonicMs now }

/-- Settled rows beyond retention are reclaimed first. -/
def sweepWork (bounds : Bounds) : Work EdgeQueueError Db Unit := do
  let excess := settledCount (← get) - bounds.settledRetention
  if 0 < excess then statement fun db => reclaimSettled db excess

/-- The draw, the receipt, the contract and the insert. -/
def storeWork (now : Int) (input : AdmissionInput) : Work EdgeQueueError Db Admission := do
  let allocated := (← get).counter.nextPosition
  statement (advanceCounter allocated now)
  -- the counter has moved when the witness runs
  let receipt ← query fun _ => input.receipt allocated
  let row := admittedRow input allocated receipt now
  query fun _ => requireStorable parses row
  statement fun db => insertRow db row
  let entry ← query fun db => readBack parses db input.envelope.offlineOperationId
  return .admitted entry

/-- The work of `admit`: every refusal before the draw. -/
def admissionWork (bounds : Bounds) (now : Int) (input : AdmissionInput) :
    Work EdgeQueueError Db Admission := do
  sweepWork bounds
  match ← query fun db => find parses db input.envelope.offlineOperationId with
  | some _ => return .duplicateOperationId
  | none =>
    let db ← get
    if db.rows.any fun held =>
        held.envelope.namespaceColumns = input.envelope.namespaceColumns &&
          held.envelope.deviceSequence = input.envelope.deviceSequence then
      return .sequencePositionAlreadyHeld
    else if bounds.maxUnsettled ≤ unsettledCount db then
      return .atCapacity (unsettledCount db) bounds.maxUnsettled
    else if edgeQueueMaxMonotonicPosition ≤ db.counter.nextPosition then
      return .positionSpaceExhausted
    else storeWork parses now input

/-- `admit`. -/
def admissionTransaction (bounds : Bounds) (now : Int) (input : AdmissionInput) :
    Work EdgeQueueError Db Admission :=
  Transaction.transact (admissionWork parses bounds now input)

end Sentinel.EdgeQueue
