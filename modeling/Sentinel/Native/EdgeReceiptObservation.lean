import Sentinel.ForStd.Transition
import Sentinel.Native.EdgeTrustedTime

/-! # Observations of Edge receipts

`EdgeReceiptObservationService.record` (`modules/edge-gateway/edge-receipt-observation.service.ts`):
a call takes a step for its read and one for its upsert, one statement over a table with a unique
index on the organisation and the receipt fingerprint. -/

namespace Sentinel.EdgeReceiptObservation

open EdgeTrustedTime (VerifiedEvidence)

/-- `AdmittedEdgeWitness`, less the time that the Edge claims, which is not recorded. -/
structure AdmittedEdgeWitness where
  organisationId : String
  siteId : String
  edgeId : String
  edgeKeyId : String
  edgeKeyVersion : Nat
  witnessedOperationFingerprint : String
  edgeMonotonicPosition : Option Int
  receiptFingerprint : String
deriving DecidableEq

/-- The argument of `record`. -/
structure Input where
  witness : AdmittedEdgeWitness
  verifiedTime : Option VerifiedEvidence
  offlineOperationId : Option String
  traceId : Option String
deriving DecidableEq

/-- A row of `edge_receipt_observations`. -/
structure Row where
  id : String
  organisationId : String
  siteId : String
  edgeId : String
  edgeKeyId : String
  edgeKeyVersion : Nat
  offlineOperationId : Option String
  witnessedOperationFingerprint : String
  receiptFingerprint : String
  trustedTimeAnchorId : Option String
  trustedTimeAnchorFingerprint : Option String
  verifiedEdgeTrustedTime : Option Int
  edgeMonotonicPosition : Option Int
  observedAt : Int
  traceId : Option String
deriving DecidableEq

/-- What the database draws for a new row. -/
structure Draw where
  id : String
  observedAt : Int

/-- `organisationId_receiptFingerprint` of a presentation. -/
def Input.key (input : Input) : String × String :=
  (input.witness.organisationId, input.witness.receiptFingerprint)

/-- The columns of the unique index. -/
def Row.key (row : Row) : String × String := (row.organisationId, row.receiptFingerprint)

def findUnique (rows : List Row) (key : String × String) : Option Row := rows.find? (·.key = key)

/-- The `create` of the upsert. -/
def Input.create (input : Input) (draw : Draw) : Row where
  id := draw.id
  organisationId := input.witness.organisationId
  siteId := input.witness.siteId
  edgeId := input.witness.edgeId
  edgeKeyId := input.witness.edgeKeyId
  edgeKeyVersion := input.witness.edgeKeyVersion
  offlineOperationId := input.offlineOperationId
  witnessedOperationFingerprint := input.witness.witnessedOperationFingerprint
  receiptFingerprint := input.witness.receiptFingerprint
  trustedTimeAnchorId := input.verifiedTime.map (·.anchorId)
  trustedTimeAnchorFingerprint := input.verifiedTime.map (·.anchorFingerprint)
  verifiedEdgeTrustedTime := input.verifiedTime.map (·.verifiedTrustedTime)
  edgeMonotonicPosition :=
    (input.verifiedTime.map (·.edgeMonotonicPosition)).or input.witness.edgeMonotonicPosition
  observedAt := draw.observedAt
  traceId := input.traceId

/-- The upsert, whose `update` is empty. -/
def upsert (rows : List Row) (input : Input) (draw : Draw) : List Row :=
  match findUnique rows input.key with
  | some _ => rows
  | none => rows ++ [input.create draw]

/-- `EdgeObservationOutcome`. -/
inductive Outcome
  | firstSeen | converged | conflict | notRecorded
deriving DecidableEq

def semanticsChanged (existing : Row) (input : Input) : Bool :=
  existing.witnessedOperationFingerprint ≠ input.witness.witnessedOperationFingerprint ∨
    (existing.offlineOperationId ≠ none ∧ input.offlineOperationId ≠ none ∧
      existing.offlineOperationId ≠ input.offlineOperationId)

/-! ## Calls at once -/

/-- Where a call stands: before its read, before the upsert after a read that found nothing, with an
    answer, or ended without one. -/
inductive Phase
  | started | absent | answered (outcome : Outcome) | ended

structure Call where
  input : Input
  phase : Phase

structure State where
  rows : List Row
  calls : List Call

def State.initial : State := ⟨[], []⟩

/-- What a call gets of its read. -/
inductive Found
  | result | error

/-- What a call gets of its upsert: a result, an error, or nothing because its process has stopped;
    in the last two the statement took effect or not. -/
inductive Reply
  | result
  | error (applied : Bool)
  | stopped (applied : Bool)

def Reply.applied : Reply → Bool
  | .result => true
  | .error applied => applied
  | .stopped applied => applied

/-- The upsert is inside the `try`. -/
def Reply.phase : Reply → Phase
  | .result => .answered .firstSeen
  | .error _ => .answered .notRecorded
  | .stopped _ => .ended

/-- What the read is followed by; it is outside the `try`. -/
def readPhase (rows : List Row) (input : Input) : Found → Phase
  | .error => .ended
  | .result =>
    match findUnique rows input.key with
    | none => .absent
    | some existing =>
      if semanticsChanged existing input then .answered .conflict else .answered .converged

inductive Label
  | call (input : Input)
  | read (i : Nat) (found : Found)
  | write (i : Nat) (draw : Draw) (reply : Reply)

def step (s : State) : Label → Option State
  | .call input => some { s with calls := s.calls ++ [⟨input, .started⟩] }
  | .read i found =>
    match s.calls[i]? with
    | some ⟨input, .started⟩ =>
      some { s with calls := s.calls.set i ⟨input, readPhase s.rows input found⟩ }
    | _ => none
  | .write i draw reply =>
    match s.calls[i]? with
    | some ⟨input, .absent⟩ =>
      some
        { rows := if reply.applied then upsert s.rows input draw else s.rows
          calls := s.calls.set i ⟨input, reply.phase⟩ }
    | _ => none

/-- An answer: to which presentation, and with which row of its receipt in the table. -/
structure Answer where
  input : Input
  outcome : Outcome
  row : Option Row
deriving DecidableEq

/-- The answer of a call in a state, if it has one. -/
def answerOf (s : State) (i : Nat) : Option Answer :=
  match s.calls[i]? with
  | some ⟨input, .answered outcome⟩ => some ⟨input, outcome, findUnique s.rows input.key⟩
  | _ => none

/-- The answer that a step gives. -/
def answer (s : State) (label : Label) : Option Answer :=
  match label, step s label with
  | .read i _, some t => answerOf t i
  | .write i _ _, some t => answerOf t i
  | _, _ => none

/-- The answers of a run, in the order in which they are given. -/
def answers (labels : List Label) : List Answer := Transition.trace step answer .initial labels

end Sentinel.EdgeReceiptObservation
