import Sentinel.Native.DeviceRegistry
import Sentinel.Native.OfflineAdmissibility

/-! # Is a proof good for its context

The contract of a device request (`packages/contracts/src/device-context.ts`): the proof a device
signs, its one-shot identity, and the evaluator that judges it against the persisted context and the
registry; beside it the evaluator of the two principals (`device-identity.ts`).  The columns of a
context that are instants are milliseconds; `parseInstant` is `parseAuthoritativeInstant`. -/

namespace Sentinel.DeviceRequestProof

open DeviceTrust (Trust)
open OfflineAdmissibility (bindClaimedSignatureProfile)

inductive Purpose
  | fieldOperation | offlineSync | reconnectHandshake | whisperDeviceAction | deviceKeyRotation
  | edgeTransportDescriptor
deriving DecidableEq

def devicePurposePermittedTrust : Purpose → List Trust
  | .fieldOperation => [.trusted, .degraded]
  | .offlineSync => [.trusted, .degraded]
  | .reconnectHandshake => [.trusted, .degraded, .suspicious, .offline]
  | .whisperDeviceAction => [.trusted]
  | .deviceKeyRotation => [.trusted, .degraded]
  | .edgeTransportDescriptor => [.trusted, .degraded]

def deviceTrustPermitsPurpose (trust : Trust) (purpose : Purpose) : Bool :=
  (devicePurposePermittedTrust purpose).contains trust

/-- `DeviceRequestProof`, without the schema version and the signature. -/
structure RequestProof where
  contextId : String
  organisationId : String
  siteId : String
  actorUserId : String
  deviceId : String
  keyId : String
  keyVersion : Nat
  purpose : Purpose
  payloadDigest : String
  nonce : String
  issuedAt : String
  claimedSignatureProfile : String
deriving DecidableEq

/-- `DeviceRequestProofStatementInput`. -/
structure StatementInput where
  contextId : String
  organisationId : String
  siteId : String
  actorUserId : String
  deviceId : String
  keyId : String
  keyVersion : Nat
  purpose : Purpose
  payloadDigest : String
  nonce : String
  issuedAt : String
  signatureProfile : String

def RequestProof.statementInput (proof : RequestProof) (serverResolvedProfile : String) :
    StatementInput :=
  { contextId := proof.contextId
    organisationId := proof.organisationId
    siteId := proof.siteId
    actorUserId := proof.actorUserId
    deviceId := proof.deviceId
    keyId := proof.keyId
    keyVersion := proof.keyVersion
    purpose := proof.purpose
    payloadDigest := proof.payloadDigest
    nonce := proof.nonce
    issuedAt := proof.issuedAt
    signatureProfile := serverResolvedProfile }

/-- `DeviceRequestProofReplayIdentity`, whose canonical JSON is the replay key. -/
structure ReplayIdentity where
  organisationId : String
  siteId : String
  actorUserId : String
  deviceId : String
  keyVersion : Nat
  nonce : String
deriving DecidableEq

def RequestProof.replayIdentity (proof : RequestProof) : ReplayIdentity :=
  { organisationId := proof.organisationId
    siteId := proof.siteId
    actorUserId := proof.actorUserId
    deviceId := proof.deviceId
    keyVersion := proof.keyVersion
    nonce := proof.nonce }

/-- `AuthenticatedDeviceContext`, without the schema version and the trust nobody reads. -/
structure DeviceContext where
  contextId : String
  organisationId : String
  actorUserId : String
  deviceId : String
  authorisedSiteIds : List String
  keyId : String
  keyVersion : Nat
  issuedAt : Int
  expiresAt : Int

structure ActorFacts where
  userId : String
  authorisedSiteIds : List String
  holdsRequiredCapability : Bool

/-- `DeviceRegistryFacts`, without the disposition that is only reported. -/
structure RegistryFacts where
  organisationId : String
  deviceId : String
  keyId : String
  keyVersion : Nat
  signatureProfile : String
  trust : Trust
  revoked : Bool
  actor : ActorFacts

/-- `DeviceRequestProofRefusal`, those the evaluator answers. -/
inductive ProofRefusal
  | contextExpired | contextNotYetValid | contextIdentityMismatch | contextOrganisationMismatch
  | contextActorMismatch | contextDeviceMismatch | contextSiteNotAuthorised | contextKeyMismatch
  | credentialRevoked | keyVersionRotated | purposeNotAllowed | proofStale | proofFutureSkew
  | payloadDigestMismatch | possessionNotProven | signatureProfileClaimMismatch
  | deviceTrustNotPermitted | actorAuthorityRemoved | siteEntitlementLost
  | registryIdentityMismatch | nonceReusedWithChangedSemantics | nonceConsumptionMisbound
  | nonceConsumptionInconsistent | timeNotAuthoritative
deriving DecidableEq

/-- The consumption fact with the identity and the fingerprint it is about. -/
structure ConsumptionFact where
  replayIdentity : ReplayIdentity
  statementFingerprint : String
  consumption : DeviceReplay.Consumption

structure EvaluationInput where
  context : DeviceContext
  proof : RequestProof
  now : Int
  expectedPayloadDigest : String
  registered : RegistryFacts
  verified : Bool
  expectedPurpose : Purpose
  consumption : ConsumptionFact

def deviceRequestProofMaxAgeMs : Int := 60000

def deviceRequestProofMaxFutureSkewMs : Int := 5000

section Evaluator

variable (parseInstant : String → Option Int)
-- `deviceRequestProofFingerprint`: SHA-256 of the canonical statement
variable (fingerprint : StatementInput → String)

variable (input : EvaluationInput)

/-- The context is live, and the proof is about it. -/
def checkContext : Except ProofRefusal Unit :=
  let context := input.context
  let proof := input.proof
  if input.now < context.issuedAt then .error .contextNotYetValid
  else if context.expiresAt ≤ input.now then .error .contextExpired
  else if proof.organisationId ≠ context.organisationId then .error .contextOrganisationMismatch
  else if proof.actorUserId ≠ context.actorUserId then .error .contextActorMismatch
  else if proof.deviceId ≠ context.deviceId then .error .contextDeviceMismatch
  else if proof.contextId ≠ context.contextId then .error .contextIdentityMismatch
  else if !context.authorisedSiteIds.contains proof.siteId then .error .contextSiteNotAuthorised
  else if proof.keyId ≠ context.keyId ∨ proof.keyVersion ≠ context.keyVersion then
    .error .contextKeyMismatch
  else .ok ()

/-- The registry's facts are about this device, its key is the one of the context and stands. -/
def checkRegistered : Except ProofRefusal Unit :=
  let context := input.context
  let registered := input.registered
  if registered.organisationId ≠ context.organisationId ∨
      registered.deviceId ≠ context.deviceId then
    .error .registryIdentityMismatch
  else if registered.revoked then .error .credentialRevoked
  else if registered.keyId ≠ context.keyId then .error .contextKeyMismatch
  else if registered.keyVersion ≠ context.keyVersion then .error .keyVersionRotated
  else .ok ()

/-- The purpose, the trust it takes, and the authority of the actor now. -/
def checkAuthority : Except ProofRefusal Unit :=
  let registered := input.registered
  if input.proof.purpose ≠ input.expectedPurpose then .error .purposeNotAllowed
  else if !deviceTrustPermitsPurpose registered.trust input.proof.purpose then
    .error .deviceTrustNotPermitted
  else if registered.actor.userId ≠ input.context.actorUserId then .error .actorAuthorityRemoved
  else if !registered.actor.holdsRequiredCapability then .error .actorAuthorityRemoved
  else if !registered.actor.authorisedSiteIds.contains input.proof.siteId then
    .error .siteEntitlementLost
  else .ok ()

/-- The proof is fresh, and about this body. -/
def checkFreshness (proofIssued : Int) : Except ProofRefusal Unit :=
  let proofAgeMs := input.now - proofIssued
  if proofAgeMs < -deviceRequestProofMaxFutureSkewMs then .error .proofFutureSkew
  else if deviceRequestProofMaxAgeMs < proofAgeMs then .error .proofStale
  else if input.proof.payloadDigest ≠ input.expectedPayloadDigest then
    .error .payloadDigestMismatch
  else .ok ()

/-- The consumption fact is consistent, about this statement, and no reuse. -/
def checkConsumption (statementFingerprint : String) : Except ProofRefusal Unit :=
  let fact := input.consumption
  if !fact.consumption.isConsistent then .error .nonceConsumptionInconsistent
  else if fact.replayIdentity ≠ input.proof.replayIdentity ∨
      fact.statementFingerprint ≠ statementFingerprint then
    .error .nonceConsumptionMisbound
  else if fact.consumption = .reusedWithChangedSemantics then
    .error .nonceReusedWithChangedSemantics
  else .ok ()

/-- `DeviceRequestProofDecision`, admitted. -/
inductive Effect
  | proceed
  | convergeOnStoredOutcome (storedOutcomeRef : String)

def evaluateDeviceRequestProof : Except ProofRefusal Effect :=
  match parseInstant input.proof.issuedAt with
  | none => .error .timeNotAuthoritative
  | some proofIssued => do
    checkContext input
    checkRegistered input
    checkAuthority input
    match bindClaimedSignatureProfile input.proof.claimedSignatureProfile
      input.registered.signatureProfile with
    | none => .error .signatureProfileClaimMismatch
    | some profile =>
      checkFreshness input proofIssued
      checkConsumption input (fingerprint (input.proof.statementInput profile))
      if !input.verified then .error .possessionNotProven
      else
        match input.consumption.consumption with
        | .exactDuplicate storedOutcomeRef => .ok (.convergeOnStoredOutcome storedOutcomeRef)
        | _ => .ok .proceed

end Evaluator

/-! ## The two principals -/

inductive PrincipalRefusal
  | userNotAuthenticated | deviceNotAuthenticated | deviceTrustInsufficient
  | siteAuthorityMissing | policyNotSatisfied

structure OperationPrincipals where
  userAuthenticated : Bool
  deviceAuthenticated : Bool
  deviceTrust : Trust
  requiredTrust : List Trust
  siteAuthorityGranted : Bool
  policySatisfied : Bool

def evaluateDeviceOperationPrincipals (input : OperationPrincipals) :
    Except PrincipalRefusal Unit :=
  if !input.userAuthenticated then .error .userNotAuthenticated
  else if !input.deviceAuthenticated then .error .deviceNotAuthenticated
  else if !input.requiredTrust.contains input.deviceTrust then .error .deviceTrustInsufficient
  else if !input.siteAuthorityGranted then .error .siteAuthorityMissing
  else if !input.policySatisfied then .error .policyNotSatisfied
  else .ok ()

/-! ## The standing of a device -/

def effectiveDeviceTrust (persistedTrust : Trust) (standing : DeviceTrust.AttestationStanding) :
    Trust :=
  if persistedTrust ≠ .trusted then persistedTrust
  else if DeviceTrust.attestationStandingPermitsTrusted standing then .trusted
  else .degraded

def deviceLevelWithdrawn (device : DeviceRegistry.DeviceRow) : Bool :=
  device.revokedAt ≠ none ∨ device.trust = .compromised

def keyLevelWithdrawn : Option DeviceRegistry.DeviceKeyRow → Bool
  | none => true
  | some key =>
    key.revokedAt ≠ none ∨ !DeviceTrust.deviceKeyStatePermitsNewOperations key.status

end Sentinel.DeviceRequestProof
