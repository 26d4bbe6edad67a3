import Sentinel.ForStd.KeyWrites
import Sentinel.Native.OfflineOutbox

/-! # The cached policy lease of the field client

`PolicyLeaseCache`, `PolicyLease` and `OfflineQueueAdmission` of the Android client
(`apps/field-mobile-android/.../store`).  The cache is nine keys of a key/value store that
other parts of the client share; `remember` and `forget` go through them one by one, and the
process may die between two of them. -/

namespace Sentinel.PolicyLeaseCache

open JsonText (Json)
open KeyWrites (writes)
open OfflineOutbox (JsonCodec JsonElement OfflineOutboxEntry OutboxFailure Stored isBlank
  isWhitespace jsonString)

/-- The JSON library, with what it prints for an array. -/
structure LeaseCodec extends JsonCodec where
  print_array : ∀ elements, ∃ inner, print (.array elements) = '[' :: (inner ++ [']'])

structure PolicyLease where
  leaseId : String
  organisationId : String
  siteId : String
  deviceId : String
  actorUserId : String
  authorityBasisId : String
  scope : List String
  issuedAt : String
  expiresAt : String
deriving DecidableEq

/-! ## Keys -/

def keyLeaseId : String := "lease_id"
def keyLeaseOrganisationId : String := "lease_organisation_id"
def keyLeaseSiteId : String := "lease_site_id"
def keyLeaseDeviceId : String := "lease_device_id"
def keyLeaseActorUserId : String := "lease_actor_user_id"
def keyLeaseAuthorityBasisId : String := "lease_authority_basis_id"
def keyLeaseScope : String := "lease_scope"
def keyLeaseIssuedAt : String := "lease_issued_at"
def keyLeaseExpiresAt : String := "lease_expires_at"

def persistableKeys : List String :=
  [keyLeaseId, keyLeaseOrganisationId, keyLeaseSiteId, keyLeaseDeviceId, keyLeaseActorUserId,
    keyLeaseAuthorityBasisId, keyLeaseScope, keyLeaseIssuedAt, keyLeaseExpiresAt]

/-- `KeyValueStore`: the protected preference file, whoever wrote its keys. -/
abbrev KeyValueStore := String → Option String

/-! ## Reading -/

variable (codec : LeaseCodec) (backing : KeyValueStore)

def readOrNull (key : String) : Option String :=
  (backing key).filter fun text => !isBlank text.toList

/-- The kinds of a scope array; one that is not a string spoils it all. -/
def kindsOf : List JsonElement → Option (List String)
  | [] => some []
  | .string text :: elements => do
    let kinds ← kindsOf elements
    return String.ofList text :: kinds
  | _ :: _ => none

/-- `readScope`, on the text of its key. -/
def parseScope (text : String) : Option (List String) :=
  match codec.parseToJsonElement text.toList with
  | .ok (.array elements) => kindsOf elements
  | _ => none

def readScope : Option (List String) := do
  let text ← readOrNull backing keyLeaseScope
  parseScope codec text

def read : Option PolicyLease := do
  let leaseId ← readOrNull backing keyLeaseId
  let organisationId ← readOrNull backing keyLeaseOrganisationId
  let siteId ← readOrNull backing keyLeaseSiteId
  let deviceId ← readOrNull backing keyLeaseDeviceId
  let actorUserId ← readOrNull backing keyLeaseActorUserId
  let authorityBasisId ← readOrNull backing keyLeaseAuthorityBasisId
  let issuedAt ← readOrNull backing keyLeaseIssuedAt
  let expiresAt ← readOrNull backing keyLeaseExpiresAt
  let scope ← readScope codec backing
  guard (scope ≠ [])
  return { leaseId, organisationId, siteId, deviceId, actorUserId, authorityBasisId, scope, issuedAt,
           expiresAt }

/-! ## Writing -/

/-- `String.trim`. -/
def trim (text : List Char) : List Char :=
  ((text.dropWhile isWhitespace).reverse.dropWhile isWhitespace).reverse

/-- `put`: what the key holds afterwards, nothing when the value is blank. -/
def put (key value : String) : String × Option String :=
  let trimmed := trim value.toList
  (key, if trimmed = [] then none else some (String.ofList trimmed))

def encodeScope (scope : List String) : String :=
  String.ofList (codec.print (.array (scope.map jsonString)))

/-- The nine writes of `remember`, in order. -/
def rememberWrites (lease : PolicyLease) : List (String × Option String) :=
  [put keyLeaseId lease.leaseId,
    put keyLeaseOrganisationId lease.organisationId,
    put keyLeaseSiteId lease.siteId,
    put keyLeaseDeviceId lease.deviceId,
    put keyLeaseActorUserId lease.actorUserId,
    put keyLeaseAuthorityBasisId lease.authorityBasisId,
    put keyLeaseScope (encodeScope codec lease.scope),
    put keyLeaseIssuedAt lease.issuedAt,
    put keyLeaseExpiresAt lease.expiresAt]

/-- The nine removals of `forget`, in order. -/
def forgetWrites : List (String × Option String) := persistableKeys.map fun key => (key, none)

/-- `PolicyLeaseCache.forget`, as far as its first `done` removals. -/
def forget (done : Nat) : KeyValueStore :=
  writes backing (forgetWrites.take done)

/-- `PolicyLeaseCache.remember`, as far as its first `done` writes. -/
def remember (lease : Option PolicyLease) (done : Nat) : KeyValueStore :=
  match lease with
  | none => forget backing done
  | some lease => writes backing ((rememberWrites codec lease).take done)

/-! ## Runs -/

/-- A call, and how many of its writes the process lives to make. -/
inductive CacheEvent
  | remember (lease : Option PolicyLease) (done : Nat)
  | forget (done : Nat)

/-- The store, and the leases that have been passed to `remember`. -/
structure CacheState where
  backing : KeyValueStore
  remembered : List PolicyLease

/-- One call, complete or cut short.  Every call is possible in every state. -/
def cacheStep (s : CacheState) : CacheEvent → Option CacheState
  | .remember lease done =>
    some ⟨remember codec s.backing lease done, s.remembered ++ lease.toList⟩
  | .forget done => some { s with backing := forget s.backing done }

/-! ## Admission to the queue -/

inductive LeaseStanding
  | windowUnreadable | notYetValid | inForce | expired
deriving DecidableEq

def PolicyLease.permits (lease : PolicyLease) (operationKind : String) : Bool :=
  lease.scope.contains operationKind

/-- `PolicyLease.standingAt`.  Instants are counted on one scale, `none` when the text is
    not an instant. -/
def PolicyLease.standingAt (parseOrNull : String → Option Int) (lease : PolicyLease) (now : Int) :
    LeaseStanding :=
  match parseOrNull lease.issuedAt, parseOrNull lease.expiresAt with
  | some issued, some expires =>
    if now < issued then .notYetValid else if now < expires then .inForce else .expired
  | _, _ => .windowUnreadable

inductive LocalAdmissionOutcome
  | queued | noCachedLease | leaseActorMismatch | leaseIdentityMismatch | leaseScopeMismatch
  | leaseNotYetValid | leaseExpired | leaseWindowUnreadable | duplicateOperationId | queueFull
  | sequenceExhausted

def admissionOutcome : OfflineOutbox.OfflineEnqueueOutcome → LocalAdmissionOutcome
  | .queued => .queued
  | .duplicateOperationId => .duplicateOperationId
  | .queueFull => .queueFull
  | .sequenceExhausted => .sequenceExhausted

structure LocalAdmission where
  outcome : LocalAdmissionOutcome
  entry : Option OfflineOutboxEntry

/-- The operation a caller offers, in whose name, and when. -/
structure OfferedOperation where
  offlineOperationId : String
  operationKind : String
  organisationId : String
  siteId : String
  actorUserId : String
  deviceId : String
  now : Int

/-- The refusals of `offer` before the queue is asked, in its order. -/
def leaseRefusal (parseOrNull : String → Option Int) (granted : PolicyLease)
    (operation : OfferedOperation) : Option LocalAdmissionOutcome :=
  if granted.actorUserId ≠ operation.actorUserId then some .leaseActorMismatch
  else if granted.organisationId ≠ operation.organisationId ∨ granted.siteId ≠ operation.siteId ∨
      granted.deviceId ≠ operation.deviceId then some .leaseIdentityMismatch
  else if !granted.permits operation.operationKind then some .leaseScopeMismatch
  else
    match granted.standingAt parseOrNull operation.now with
    | .inForce => none
    | .notYetValid => some .leaseNotYetValid
    | .expired => some .leaseExpired
    | .windowUnreadable => some .leaseWindowUnreadable

/-- `OfflineQueueAdmission.offer`.  The builder receives the lease that was checked and the
    allocated sequence; `none` when it throws. -/
def offer (codec : JsonCodec) (maxDepth : Nat) (writable : Bool) (parseOrNull : String → Option Int)
    (stored : Stored) (operation : OfferedOperation) (lease : Option PolicyLease)
    (build : PolicyLease → Int → Option OfflineOutboxEntry) :
    Except OutboxFailure LocalAdmission × Stored :=
  match lease with
  | none => (.ok ⟨.noCachedLease, none⟩, stored)
  | some granted =>
    match leaseRefusal parseOrNull granted operation with
    | some outcome => (.ok ⟨outcome, none⟩, stored)
    | none =>
      let result := OfflineOutbox.enqueue codec maxDepth writable stored
        operation.offlineOperationId (build granted)
      (result.1.map fun answer => ⟨admissionOutcome answer.outcome, answer.entry⟩, result.2)

/-- The codec of the compact text, for runs on fixed inputs. -/
def compactCodec : LeaseCodec where
  toJsonCodec := OfflineOutbox.compactCodec
  print_array _ := ⟨_, rfl⟩

end Sentinel.PolicyLeaseCache
