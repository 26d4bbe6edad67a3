import Sentinel.Native.DeviceReplay
import Sentinel.Native.DeviceTrust
import Sentinel.Native.FieldOffline

/-! # May a queued statement take effect

The contract `packages/contracts/src/device-offline.ts`: the envelope of a queued operation, the
statement its signature covers, its one-shot identity, and the evaluator that decides whether it is
admitted.  Instants are texts, read by `parseInstant` (`parseAuthoritativeInstant`). -/

namespace Sentinel.OfflineAdmissibility

open FieldOffline (OperationKind)
open DeviceTrust (KeyLifecycleState deviceKeyStatePermitsNewOperations)

/-! ## The signed statement -/

/-- `DeviceOfflineOperationEnvelope`, without the schema version and the signature. -/
structure OperationEnvelope where
  offlineOperationId : String
  organisationId : String
  siteId : String
  actorUserId : String
  deviceId : String
  keyId : String
  keyVersion : Nat
  operationKind : OperationKind
  deviceSequence : Nat
  idempotencyKey : String
  payloadDigest : String
  policyLeaseId : String
  nonce : String
  createdAt : String
  claimedSignatureProfile : String
deriving DecidableEq

/-- `DeviceOfflineOperationStatementInput`: the server's profile in place of the claimed one. -/
structure StatementInput where
  offlineOperationId : String
  organisationId : String
  siteId : String
  actorUserId : String
  deviceId : String
  keyId : String
  keyVersion : Nat
  operationKind : OperationKind
  deviceSequence : Nat
  idempotencyKey : String
  payloadDigest : String
  policyLeaseId : String
  nonce : String
  createdAt : String
  signatureProfile : String

/-- `deviceOfflineOperationStatementInput`. -/
def OperationEnvelope.statementInput (envelope : OperationEnvelope)
    (serverResolvedProfile : String) : StatementInput :=
  { offlineOperationId := envelope.offlineOperationId
    organisationId := envelope.organisationId
    siteId := envelope.siteId
    actorUserId := envelope.actorUserId
    deviceId := envelope.deviceId
    keyId := envelope.keyId
    keyVersion := envelope.keyVersion
    operationKind := envelope.operationKind
    deviceSequence := envelope.deviceSequence
    idempotencyKey := envelope.idempotencyKey
    payloadDigest := envelope.payloadDigest
    policyLeaseId := envelope.policyLeaseId
    nonce := envelope.nonce
    createdAt := envelope.createdAt
    signatureProfile := serverResolvedProfile }

/-- `DeviceOfflineOperationReplayIdentity`, whose canonical JSON is the replay key. -/
structure ReplayIdentity where
  organisationId : String
  siteId : String
  actorUserId : String
  deviceId : String
  keyVersion : Nat
  nonce : String
deriving DecidableEq

/-- `deviceOfflineOperationReplayIdentity`. -/
def OperationEnvelope.replayIdentity (envelope : OperationEnvelope) : ReplayIdentity :=
  { organisationId := envelope.organisationId
    siteId := envelope.siteId
    actorUserId := envelope.actorUserId
    deviceId := envelope.deviceId
    keyVersion := envelope.keyVersion
    nonce := envelope.nonce }

def deviceSignatureProfiles : List String := ["P256_ECDSA_SHA256"]

/-- `bindClaimedSignatureProfile`: the bound profile. -/
def bindClaimedSignatureProfile (claimed serverResolved : String) : Option String :=
  if !deviceSignatureProfiles.contains serverResolved then none
  else if claimed ≠ serverResolved then none
  else some serverResolved

/-! ## What the server holds -/

/-- `DevicePolicyLease`, without the schema version and the authority basis. -/
structure PolicyLease where
  leaseId : String
  organisationId : String
  siteId : String
  deviceId : String
  actorUserId : String
  scope : List OperationKind
  issuedAt : String
  expiresAt : String
deriving DecidableEq

/-- `DeviceRegistryKeyRecord`, the fields the evaluator reads. -/
structure RegistryKeyRecord where
  organisationId : String
  deviceId : String
  keyId : String
  keyVersion : Nat
  signatureProfile : String
  status : KeyLifecycleState
  revokedAt : Option String
deriving DecidableEq

inductive EdgeTrust
  | trusted | suspended | revoked
deriving DecidableEq

/-- `DeviceEdgeReceipt`, the fields the evaluator reads. -/
structure EdgeReceipt where
  edgeId : String
  edgeKeyId : String
  edgeKeyVersion : Nat
  witnessedOperationFingerprint : String
  edgeTrustedTime : Option String
  claimedEdgeSignatureProfile : String

/-- `EdgeRegistryKeyRecord`, the fields the evaluator reads. -/
structure EdgeKeyRecord where
  organisationId : String
  edgeId : String
  edgeKeyId : String
  edgeKeyVersion : Nat
  signatureProfile : String
  status : KeyLifecycleState
  edgeTrust : EdgeTrust
  authorisedSiteIds : List String
  revokedAt : Option String

/-- `DeviceOfflineWitness`. -/
inductive Witness
  | none
  | edge (receipt : EdgeReceipt) (registeredEdgeKey : EdgeKeyRecord) (edgeSignatureVerified : Bool)

inductive LeaseStanding
  | valid | notYetValid | expired | timeNotAuthoritative

def deviceKeyStatePermitsHistoricalVerification (state : KeyLifecycleState) : Bool :=
  state = .current ∨ state = .rotated

/-- `DEVICE_OFFLINE_STALE_TOLERANT_OPERATION_KINDS`. -/
def staleTolerantOperationKinds : List OperationKind := [.incidentFieldMessageAcknowledge]

/-- `deviceOfflineOperationRequiresTimeWitness`. -/
def requiresTimeWitness (kind : OperationKind) : Bool := !staleTolerantOperationKinds.contains kind

inductive AdmissibilityRefusal
  | signatureNotVerified | credentialRevoked | payloadDigestMismatch
  | leaseMissing | leaseIdentityMismatch | leaseScopeMismatch | leaseNotInForce
  | noTrustworthyTimeWitness | edgeNotTrusted | edgeSignatureNotVerified
  | witnessFingerprintMismatch | leaseActorMismatch
  | signatureProfileClaimMismatch | edgeSignatureProfileClaimMismatch | edgeKeyNotUsable
  | registryIdentityMismatch | registryKeyMismatch | deviceKeyNotUsable
  | edgeOrganisationMismatch | edgeCredentialRevoked | edgeSiteNotAuthorised
  | nonceReusedWithChangedSemantics | nonceConsumptionMisbound | nonceConsumptionInconsistent
  | timeNotAuthoritative
deriving DecidableEq

def AdmissibilityRefusal.text : AdmissibilityRefusal → String
  | signatureNotVerified => "SIGNATURE_NOT_VERIFIED"
  | credentialRevoked => "CREDENTIAL_REVOKED"
  | payloadDigestMismatch => "PAYLOAD_DIGEST_MISMATCH"
  | leaseMissing => "LEASE_MISSING"
  | leaseIdentityMismatch => "LEASE_IDENTITY_MISMATCH"
  | leaseScopeMismatch => "LEASE_SCOPE_MISMATCH"
  | leaseNotInForce => "LEASE_NOT_IN_FORCE"
  | noTrustworthyTimeWitness => "NO_TRUSTWORTHY_TIME_WITNESS"
  | edgeNotTrusted => "EDGE_NOT_TRUSTED"
  | edgeSignatureNotVerified => "EDGE_SIGNATURE_NOT_VERIFIED"
  | witnessFingerprintMismatch => "WITNESS_FINGERPRINT_MISMATCH"
  | leaseActorMismatch => "LEASE_ACTOR_MISMATCH"
  | signatureProfileClaimMismatch => "SIGNATURE_PROFILE_CLAIM_MISMATCH"
  | edgeSignatureProfileClaimMismatch => "EDGE_SIGNATURE_PROFILE_CLAIM_MISMATCH"
  | edgeKeyNotUsable => "EDGE_KEY_NOT_USABLE"
  | registryIdentityMismatch => "REGISTRY_IDENTITY_MISMATCH"
  | registryKeyMismatch => "REGISTRY_KEY_MISMATCH"
  | deviceKeyNotUsable => "DEVICE_KEY_NOT_USABLE"
  | edgeOrganisationMismatch => "EDGE_ORGANISATION_MISMATCH"
  | edgeCredentialRevoked => "EDGE_CREDENTIAL_REVOKED"
  | edgeSiteNotAuthorised => "EDGE_SITE_NOT_AUTHORISED"
  | nonceReusedWithChangedSemantics => "NONCE_REUSED_WITH_CHANGED_SEMANTICS"
  | nonceConsumptionMisbound => "NONCE_CONSUMPTION_MISBOUND"
  | nonceConsumptionInconsistent => "NONCE_CONSUMPTION_INCONSISTENT"
  | timeNotAuthoritative => "TIME_NOT_AUTHORITATIVE"

/-- The consumption fact handed to the evaluator: `DeviceNonceConsumption` with the identity and
    the fingerprint it is about. -/
structure ConsumptionFact where
  replayIdentity : ReplayIdentity
  statementFingerprint : String
  consumption : DeviceReplay.Consumption

structure AdmissibilityInput where
  envelope : OperationEnvelope
  lease : Option PolicyLease
  witness : Witness
  now : String
  expectedPayloadDigest : String
  deviceRevokedAt : Option String
  signatureVerified : Bool
  registeredKey : RegistryKeyRecord
  consumption : ConsumptionFact

inductive TimeBasis
  | edgeWitness | serverReceipt
deriving DecidableEq

/-- The admitted half of `DeviceOfflineAdmissibility`: with a stored outcome to converge on, or
    without one to proceed. -/
structure Admission where
  timeBasis : TimeBasis
  establishedAt : String
  operationFingerprint : String
  storedOutcomeRef : Option String
deriving DecidableEq

section Evaluator

variable (parseInstant : String → Option Int)
-- `deviceOfflineOperationFingerprint`: SHA-256 of the canonical statement
variable (fingerprint : StatementInput → String)

/-- `classifyDevicePolicyLease`: expiry is exclusive. -/
def classifyDevicePolicyLease (lease : PolicyLease) (instant : String) : LeaseStanding :=
  match parseInstant instant, parseInstant lease.issuedAt, parseInstant lease.expiresAt with
  | some instant, some issued, some expires =>
    if instant < issued then .notYetValid
    else if expires ≤ instant then .expired
    else .valid
  | _, _, _ => .timeNotAuthoritative

/-- The checks on the registry's record of the device key, and the profile it selects. -/
def bindRegisteredKey (envelope : OperationEnvelope) (registeredKey : RegistryKeyRecord) :
    Except AdmissibilityRefusal String :=
  if registeredKey.organisationId ≠ envelope.organisationId ∨
      registeredKey.deviceId ≠ envelope.deviceId then
    .error .registryIdentityMismatch
  else if registeredKey.keyId ≠ envelope.keyId ∨
      registeredKey.keyVersion ≠ envelope.keyVersion then
    .error .registryKeyMismatch
  else if !deviceKeyStatePermitsNewOperations registeredKey.status then .error .deviceKeyNotUsable
  else if registeredKey.revokedAt ≠ none then .error .credentialRevoked
  else
    match bindClaimedSignatureProfile envelope.claimedSignatureProfile
      registeredKey.signatureProfile with
    | none => .error .signatureProfileClaimMismatch
    | some profile => .ok profile

/-- The checks on the lease the envelope names. -/
def bindLease (envelope : OperationEnvelope) (lease : Option PolicyLease) :
    Except AdmissibilityRefusal PolicyLease :=
  match lease with
  | none => .error .leaseMissing
  | some lease =>
    if lease.leaseId ≠ envelope.policyLeaseId then .error .leaseIdentityMismatch
    else if lease.organisationId ≠ envelope.organisationId ∨ lease.siteId ≠ envelope.siteId ∨
        lease.deviceId ≠ envelope.deviceId then
      .error .leaseIdentityMismatch
    else if lease.actorUserId ≠ envelope.actorUserId then .error .leaseActorMismatch
    else if !lease.scope.contains envelope.operationKind then .error .leaseScopeMismatch
    else .ok lease

/-- The consumption fact: consistent, about this statement, and not a reuse.  What it leaves is the
    outcome an exact duplicate converges on. -/
def judgeConsumption (envelope : OperationEnvelope) (statementFingerprint : String)
    (fact : ConsumptionFact) : Except AdmissibilityRefusal (Option String) :=
  if !fact.consumption.isConsistent then .error .nonceConsumptionInconsistent
  else if fact.replayIdentity ≠ envelope.replayIdentity ∨
      fact.statementFingerprint ≠ statementFingerprint then
    .error .nonceConsumptionMisbound
  else
    match fact.consumption with
    | .reusedWithChangedSemantics => .error .nonceReusedWithChangedSemantics
    | .exactDuplicate storedOutcomeRef => .ok (some storedOutcomeRef)
    | .firstSeen => .ok none

def witnessedTime (envelope : OperationEnvelope) (statementFingerprint : String) :
    Witness → Except AdmissibilityRefusal String
  | .none => .error .noTrustworthyTimeWitness
  | .edge receipt key edgeSignatureVerified =>
    if key.organisationId ≠ envelope.organisationId then .error .edgeOrganisationMismatch
    else if !key.authorisedSiteIds.contains envelope.siteId then .error .edgeSiteNotAuthorised
    else if key.edgeId ≠ receipt.edgeId ∨ key.edgeKeyId ≠ receipt.edgeKeyId ∨
        key.edgeKeyVersion ≠ receipt.edgeKeyVersion ∨
        !deviceKeyStatePermitsHistoricalVerification key.status then
      .error .edgeKeyNotUsable
    else if key.revokedAt ≠ none then .error .edgeCredentialRevoked
    else if key.edgeTrust ≠ .trusted then .error .edgeNotTrusted
    else if bindClaimedSignatureProfile receipt.claimedEdgeSignatureProfile
        key.signatureProfile = none then
      .error .edgeSignatureProfileClaimMismatch
    else if !edgeSignatureVerified then .error .edgeSignatureNotVerified
    else if receipt.witnessedOperationFingerprint ≠ statementFingerprint then
      .error .witnessFingerprintMismatch
    else
      match receipt.edgeTrustedTime with
      | none => .error .noTrustworthyTimeWitness
      | some time => .ok time

/-- The checks on the signature, the withdrawal of the device and the payload. -/
def bindStatement (input : AdmissibilityInput) : Except AdmissibilityRefusal Unit :=
  if !input.signatureVerified then .error .signatureNotVerified
  else if input.deviceRevokedAt ≠ none then .error .credentialRevoked
  else if input.envelope.payloadDigest ≠ input.expectedPayloadDigest then
    .error .payloadDigestMismatch
  else .ok ()

/-- The clock that establishes the authority window, and its reading. -/
def establishedTime (input : AdmissibilityInput) (statementFingerprint : String) :
    Except AdmissibilityRefusal (TimeBasis × String) :=
  if requiresTimeWitness input.envelope.operationKind then
    (witnessedTime input.envelope statementFingerprint input.witness).map fun edgeTime =>
      (.edgeWitness, edgeTime)
  else .ok (.serverReceipt, input.now)

def leaseInForce (lease : PolicyLease) (instant : String) : Except AdmissibilityRefusal Unit :=
  match classifyDevicePolicyLease parseInstant lease instant with
  | .timeNotAuthoritative => .error .timeNotAuthoritative
  | .valid => .ok ()
  | _ => .error .leaseNotInForce

def evaluateOfflineOperationAdmissibility (input : AdmissibilityInput) :
    Except AdmissibilityRefusal Admission := do
  let envelope := input.envelope
  let profile ← bindRegisteredKey envelope input.registeredKey
  bindStatement input
  let lease ← bindLease envelope input.lease
  let statementFingerprint := fingerprint (envelope.statementInput profile)
  let storedOutcomeRef ← judgeConsumption envelope statementFingerprint input.consumption
  let (timeBasis, establishedAt) ← establishedTime input statementFingerprint
  leaseInForce parseInstant lease establishedAt
  return { timeBasis, establishedAt, storedOutcomeRef, operationFingerprint := statementFingerprint }

end Evaluator

end Sentinel.OfflineAdmissibility
