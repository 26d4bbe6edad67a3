import Sentinel.Native.FieldOfflineReplay
import Sentinel.Native.OfflineSubmission

/-! # One device's queue against central

The outbox of one device (`OfflineOutbox.kt`) drained oldest first through the replay service
(`field-offline.service.ts`).  Several actors at several sites queue on the device; every queued
entry is submitted in the namespace it was signed for, and leaves the queue once central holds a
final receipt for it. -/

namespace Sentinel.DeviceQueue

open FieldOffline (ReplayNamespace Operation Payload SemanticRequest SequenceClassification
  Principal semanticRequest classifyOfflineSequence maxOfflineDeviceSequence uuidValue)
open OfflineOutbox (OfflineOutboxEntry OfflineEnqueueResult OutboxFailure JsonCodec Stored)

/-- What central takes from elsewhere: the replay executor's environment, the digest of a
    semantic request, and the schema of each kind's payload. -/
structure Central where
  executor : FieldOffline.Env
  /-- Normalised recipients, canonical JSON, SHA-256. -/
  digest : SemanticRequest → String
  /-- The operation kind and the payload text, parsed, or the issues found. -/
  parsePayload : String → String → Except (List String) Payload

/-- The executor with the digest as its fingerprint. -/
def Central.env (central : Central) : FieldOffline.Env :=
  { central.executor with
    fingerprintOfflineSemanticRequest := fun ns operation =>
      central.digest (semanticRequest ns operation) }

/-- The identity the device was provisioned with. -/
structure Device where
  organisationId : String
  deviceId : String

variable (codec : JsonCodec) (maxDepth : Nat) (central : Central) (device : Device)

/-! ## Entries as operations -/

/-- The namespace central replays an entry in: the ingress binds the authenticated context
    to the organisation, the actor and the device of the signed envelope. -/
def namespaceOf (entry : OfflineOutboxEntry) : ReplayNamespace where
  organisationId := entry.organisationId
  siteId := entry.siteId
  userId := entry.actorUserId
  deviceId := entry.deviceId

/-- `FieldOfflineOperationV2Schema.safeParse` on the operation the ingress builds from the
    envelope, with the trace of the request. -/
def operationOf (entry : OfflineOutboxEntry) (traceId : String) :
    Except (List String) Operation :=
  match central.parsePayload entry.operationKind entry.payloadJson with
  | .error issues => .error issues
  | .ok payload =>
    if entry.deviceSequence < 0 then .error ["Number must be greater than or equal to 0"]
    else if h : entry.deviceSequence.toNat ≤ maxOfflineDeviceSequence then
      .ok {
        offlineOperationId := entry.offlineOperationId
        organisationId := entry.organisationId
        siteId := entry.siteId
        deviceId := entry.deviceId
        deviceSequence := entry.deviceSequence.toNat
        deviceSequence_le := h
        idempotencyKey := entry.idempotencyKey
        createdAt := entry.createdAt
        traceId := traceId
        payload := payload }
    else .error ["Number must be less than or equal to 9007199254740991"]

/-- How `admit` classifies an operation in a namespace. -/
def classification (db : FieldOffline.Db) (ns : ReplayNamespace) (operation : Operation) :
    SequenceClassification :=
  classifyOfflineSequence (db.readCursor ns) operation.deviceSequence
    ((db.findReceiptBySequence ns operation.deviceSequence).map fun stored =>
      decide (stored.requestFingerprint =
        central.env.fingerprintOfflineSemanticRequest ns operation))

/-- Central holds a final receipt for the entry, at its position in its namespace. -/
def Finalized (db : FieldOffline.Db) (entry : OfflineOutboxEntry) : Prop :=
  ∃ row ∈ db.receipts, row.replayNamespace = namespaceOf entry ∧
    (row.deviceSequence : Int) = entry.deviceSequence ∧
    row.offlineOperationId = uuidValue entry.offlineOperationId ∧ row.isFinalized = true

instance (db : FieldOffline.Db) (entry : OfflineOutboxEntry) : Decidable (Finalized db entry) :=
  inferInstanceAs (Decidable (∃ row ∈ db.receipts, _))

/-! ## The system -/

/-- The stored queue, every entry it ever took in order, and central. -/
structure State where
  stored : Stored
  queued : List OfflineOutboxEntry
  central : FieldOffline.State

/-- A fresh device and an empty central. -/
def State.initial : State := ⟨none, [], .init⟩

/-- One step, with what the environment decides in it. -/
inductive Label
  /-- An actor at a site queues what was signed as `entry`; the device fills in its own
      identity and the allocated sequence. -/
  | enqueue (entry : OfflineOutboxEntry) (writable : Bool)
  | recordEdgeReceipt (offlineOperationId receipt : String) (writable : Bool)
  /-- `submitNext`, past the gateway. -/
  | submitNext (principal : Principal) (authorisedSiteIds : List String)
      (siteExistsInOrganisation : Bool) (traceId attemptedAt : String) (writable : Bool)
  /-- A submission of another device. -/
  | otherDevice (principal : Principal) (context : FieldOffline.DeviceContext)
      (rawOperation : Except (List String) Operation) (policyLeaseId : Option String)
      (siteExistsInOrganisation : Bool)
  /-- One move of one of central's workers. -/
  | central (worker : Nat) (move : FieldOffline.Move)
  /-- `settleInOutbox` on the oldest entry, once its receipt is final. -/
  | settle (writableMark writableRemove : Bool)

/-- The entry builder of an `enqueue`. -/
def Device.build (entry : OfflineOutboxEntry) (sequence : Int) : Option OfflineOutboxEntry :=
  some { entry with
    organisationId := device.organisationId
    deviceId := device.deviceId
    deviceSequence := sequence }

/-- The entry an answer to `enqueue` took, if it did. -/
def taken : Except OutboxFailure OfflineEnqueueResult → List OfflineOutboxEntry
  | .ok ⟨.queued, some entry⟩ => [entry]
  | _ => []

/-- `peekNext` on the stored text. -/
def peekNext (stored : Stored) : Option OfflineOutboxEntry :=
  match OfflineOutbox.load codec stored with
  | .error _ => none
  | .ok snapshot => snapshot.peekNext

/-- `submitNext`: the attempt is recorded before the request goes out. -/
def submitNext (s : State) (principal : Principal) (authorisedSiteIds : List String)
    (siteExistsInOrganisation : Bool) (traceId attemptedAt : String) (writable : Bool) :
    Option State :=
  match peekNext codec s.stored with
  | none => none
  | some entry =>
    match OfflineOutbox.markAttempt codec writable s.stored entry.offlineOperationId
        attemptedAt with
    | (.error _, _) => none
    | (.ok _, stored) =>
      let context : FieldOffline.DeviceContext :=
        { organisationId := entry.organisationId
          userId := entry.actorUserId
          deviceId := entry.deviceId
          authorisedSiteIds := authorisedSiteIds }
      (FieldOffline.step central.env s.central (.submit principal context
        (operationOf central entry traceId) (some entry.policyLeaseId)
        siteExistsInOrganisation)).map fun central => { s with stored := stored, central := central }

/-- The oldest entry leaves the queue, its receipt being final. -/
def settle (s : State) (writableMark writableRemove : Bool) : Option State :=
  match peekNext codec s.stored with
  | none => none
  | some entry =>
    if Finalized s.central.db entry then
      some { s with
        stored := (OfflineSubmission.settleInOutbox codec writableMark writableRemove s.stored
          entry).2 }
    else none

/-- One step; `none` when it is not possible in the state. -/
def step (s : State) : Label → Option State
  | .enqueue entry writable =>
    let result := OfflineOutbox.enqueue codec maxDepth writable s.stored entry.offlineOperationId
      (device.build entry)
    some { s with stored := result.2, queued := s.queued ++ taken result.1 }
  | .recordEdgeReceipt offlineOperationId receipt writable =>
    some { s with
      stored := (OfflineOutbox.recordEdgeReceipt codec writable s.stored offlineOperationId
        receipt).2 }
  | .submitNext principal authorisedSiteIds siteExists traceId attemptedAt writable =>
    submitNext codec central s principal authorisedSiteIds siteExists traceId attemptedAt writable
  | .otherDevice principal context rawOperation policyLeaseId siteExists =>
    if context.deviceId = device.deviceId then none
    else
      (FieldOffline.step central.env s.central (.submit principal context rawOperation
        policyLeaseId siteExists)).map fun central => { s with central := central }
  | .central worker move =>
    (FieldOffline.step central.env s.central (.move worker move)).map fun central =>
      { s with central := central }
  | .settle writableMark writableRemove => settle codec s writableMark writableRemove

end Sentinel.DeviceQueue
