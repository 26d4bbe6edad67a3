import Sentinel.ForStd.Table

/-! # The Whisper receipts

The table `whisper_recognition_receipts` and the repository's operations on it
(`modules/whisper/whisper.repository.ts`), each one statement or one
transaction of the database.  The replay identity is a key over seven columns, and the
write of a verdict is fenced on the claim it was reached under. -/

namespace Sentinel.Whisper

inductive ConflictCode
  | deviceContextMismatch | siteScopeMismatch | signalScopeMismatch | signalIdentityMismatch
  | signalNotActive | signalVersionMismatch | actorNotEligible | deviceTrustInsufficient
  | deviceActionMismatch | contextNotSatisfied | confidenceBelowThreshold | recognitionStale
  | recognitionFutureSkew | signatureInvalid | replayIdentityReused | protocolNotAllowlisted
deriving DecidableEq

inductive ReceiptStatus
  | received | applying | applied | refused | unknown
deriving DecidableEq

inductive ReceiptOutcome
  | accepted | refused
deriving DecidableEq

structure ReplayIdentity where
  organisationId : String
  siteId : String
  actorUserId : String
  deviceId : String
  whisperSignalId : String
  whisperSignalVersion : Nat
  antiReplayNonce : String
deriving DecidableEq

structure ReceiptRow where
  id : String
  identity : ReplayIdentity
  signalVersionId : Option String
  recognitionFingerprint : String
  status : ReceiptStatus
  outcome : Option ReceiptOutcome
  conflictCode : Option ConflictCode
  incidentId : Option String
  attemptCount : Nat
  processingClaimedAt : Option Int
  recordedAt : Int
  finalizedAt : Option Int
  traceId : String

/-- `TERMINAL_RECEIPT_STATUSES`. -/
def ReceiptStatus.terminal (status : ReceiptStatus) : Bool := status = .applied || status = .refused

def ReceiptRow.isFinalized (row : ReceiptRow) : Bool := row.status.terminal

def whisperProcessingLeaseMs : Int := 60000

structure Receipts where
  rows : List ReceiptRow
  rows_id : (rows.map (·.id)).Nodup
  rows_identity : (rows.map (·.identity)).Nodup

namespace Receipts

def empty : Receipts := { rows := [], rows_id := List.nodup_nil, rows_identity := List.nodup_nil }

variable (receipts : Receipts) (row : ReceiptRow)

def findReceiptByIdentity (identity : ReplayIdentity) : Option ReceiptRow :=
  receipts.rows.find? fun row => row.identity = identity

def getReceiptById (receiptId : String) : Option ReceiptRow :=
  receipts.rows.find? fun row => row.id = receiptId

/-- The `create` of `ensureReceipt`; `none` is a unique violation. -/
def create : Option Receipts :=
  if h : (∀ old ∈ receipts.rows, old.id ≠ row.id) ∧
      (∀ old ∈ receipts.rows, old.identity ≠ row.identity) then
    some
      { rows := receipts.rows ++ [row]
        rows_id := Table.nodup_map_concat receipts.rows_id h.1
        rows_identity := Table.nodup_map_concat receipts.rows_identity h.2 }
  else none

/-- An update that keeps the columns of the keys. -/
def update (p : ReceiptRow → Bool) (f : ReceiptRow → ReceiptRow)
    (hid : ∀ row, (f row).id = row.id) (hidentity : ∀ row, (f row).identity = row.identity) :
    Receipts :=
  { rows := Table.rewrite p f receipts.rows
    rows_id := Table.nodup_map_rewrite receipts.rows_id hid
    rows_identity := Table.nodup_map_rewrite receipts.rows_identity hidentity }

/-- What `claimReceipt` may claim: what nobody has, or what was claimed before the lease. -/
def claimable (receiptId : String) (now : Int) (row : ReceiptRow) : Bool :=
  row.id = receiptId ∧
    (row.status = .received ∨ row.status = .unknown ∨
      (row.status = .applying ∧
        row.processingClaimedAt.any fun claimedAt => claimedAt < now - whisperProcessingLeaseMs))

/-- The row once claimed. -/
def claimed (now : Int) (row : ReceiptRow) : ReceiptRow :=
  { row with
    status := .applying
    processingClaimedAt := some now
    attemptCount := row.attemptCount + 1 }

/-- `claimReceipt`: the generation, if the claim was won. -/
def claimReceipt (receiptId : String) (now : Int) : Option Nat × Receipts :=
  match receipts.rows.find? (claimable receiptId now) with
  | none => (none, receipts)
  | some row =>
    (some (row.attemptCount + 1),
      receipts.update (claimable receiptId now) (claimed now) (fun _ => rfl) fun _ => rfl)

def fenced (receiptId : String) (claimGeneration : Nat) (row : ReceiptRow) : Bool :=
  row.id = receiptId ∧ row.status = .applying ∧ row.attemptCount = claimGeneration

/-- `FinalizeReceiptInput`, without the audit entry. -/
structure Finalization where
  receiptId : String
  claimGeneration : Nat
  status : ReceiptStatus
  outcome : ReceiptOutcome
  conflictCode : Option ConflictCode
  incidentId : Option String

/-- The row once finalized. -/
def finalized (input : Finalization) (now : Int) (row : ReceiptRow) : ReceiptRow :=
  { row with
    status := input.status
    outcome := some input.outcome
    conflictCode := input.conflictCode
    incidentId := input.incidentId
    finalizedAt := some now }

/-- `finalizeReceipt`: whether the fence held. -/
def finalizeReceipt (input : Finalization) (now : Int) : Bool × Receipts :=
  if receipts.rows.any (fenced input.receiptId input.claimGeneration) then
    (true, receipts.update (fenced input.receiptId input.claimGeneration) (finalized input now)
      (fun _ => rfl) fun _ => rfl)
  else (false, receipts)

def markReceiptUnknown (receiptId : String) (claimGeneration : Nat) : Receipts :=
  receipts.update (fenced receiptId claimGeneration) (fun row => { row with status := .unknown })
    (fun _ => rfl) fun _ => rfl

end Receipts

end Sentinel.Whisper
