import Sentinel.ForStd.Except
import Sentinel.Native.DeviceRegistry
import Sentinel.Native.OfflineAdmissibility

/-! # The contract of a key rotation

`packages/contracts/src/device-key-rotation.ts`: the records of the ceremony, what their schemas
accept, and the evaluator that admits a rotation.  The key a rotation proposes is named by the
request, and the challenge and the verdict on possession repeat the proposal; instants are
milliseconds. -/

namespace Sentinel.DeviceKeyRotation

open DeviceTrust (KeyStorage KeyLifecycleState)
open DeviceReplay (Consumption)
open OfflineAdmissibility (bindClaimedSignatureProfile)

def deviceKeyRotationChallengeMaxAgeMs : Int := 120000

structure RotationRequest where
  rotationRequestId : String
  organisationId : String
  deviceId : String
  currentKeyId : String
  currentKeyVersion : Nat
  proposedKeyId : String
  proposedKeyVersion : Nat
  newPublicKey : String
  newPublicKeyThumbprint : String
  newKeyStorage : KeyStorage
  serverResolvedSignatureProfile : String
  requestedAt : Int
deriving DecidableEq

/-- The fields that bind a challenge or a verdict to one request and what it proposes. -/
structure Proposal where
  organisationId : String
  deviceId : String
  rotationRequestId : String
  rotationRequestFingerprint : String
  currentKeyId : String
  currentKeyVersion : Nat
  proposedKeyId : String
  proposedKeyVersion : Nat
  newPublicKeyThumbprint : String
deriving DecidableEq

def RotationRequest.proposal (request : RotationRequest) (fingerprint : String) : Proposal :=
  { organisationId := request.organisationId
    deviceId := request.deviceId
    rotationRequestId := request.rotationRequestId
    rotationRequestFingerprint := fingerprint
    currentKeyId := request.currentKeyId
    currentKeyVersion := request.currentKeyVersion
    proposedKeyId := request.proposedKeyId
    proposedKeyVersion := request.proposedKeyVersion
    newPublicKeyThumbprint := request.newPublicKeyThumbprint }

structure RotationChallenge where
  challengeId : String
  proposal : Proposal
  nonce : String
  issuedAt : Int
  expiresAt : Int
deriving DecidableEq

structure PossessionStatementInput where
  proposal : Proposal
  rotationChallengeId : String
  nonce : String
  signatureProfile : String

/-- `DeviceKeyRotationPossessionVerificationResult`. -/
structure PossessionVerification where
  proposal : Proposal
  rotationChallengeId : String
  signatureProfile : String
  canonicalStatementFingerprint : String
  verified : Bool
  verifiedAt : Int

/-- `DeviceKeyRotationReplayIdentity`. -/
structure ReplayIdentity where
  organisationId : String
  deviceId : String
  rotationRequestId : String
  rotationChallengeId : String
  currentKeyId : String
  currentKeyVersion : Nat
  proposedKeyId : String
  proposedKeyVersion : Nat
  nonce : String
deriving DecidableEq

/-- `deviceKeyRotationReplayIdentity` of a request and its challenge. -/
def replayIdentity (request : RotationRequest) (challenge : RotationChallenge) : ReplayIdentity :=
  { organisationId := request.organisationId
    deviceId := request.deviceId
    rotationRequestId := request.rotationRequestId
    rotationChallengeId := challenge.challengeId
    currentKeyId := request.currentKeyId
    currentKeyVersion := request.currentKeyVersion
    proposedKeyId := request.proposedKeyId
    proposedKeyVersion := request.proposedKeyVersion
    nonce := challenge.nonce }

/-! ## The schemas

The columns come from the server's own rows, so of the shapes only those are kept that say
something beyond the type of the column. -/

/-- `DeviceKeyVersionSchema`. -/
def isKeyVersion (version : Nat) : Bool := 0 < version ∧ version ≤ 1000000

/-- `DeviceKeyRotationRequestSchema`; `thumbprint` derives the thumbprint of a canonical key. -/
def requestParses (thumbprint : String → Option String) (request : RotationRequest) : Bool :=
  isKeyVersion request.currentKeyVersion ∧ isKeyVersion request.proposedKeyVersion ∧
    thumbprint request.newPublicKey = some request.newPublicKeyThumbprint ∧
    request.proposedKeyVersion = request.currentKeyVersion + 1 ∧
    request.proposedKeyId ≠ request.currentKeyId

/-- `DeviceKeyRotationChallengeSchema`. -/
def challengeParses (challenge : RotationChallenge) : Bool :=
  isKeyVersion challenge.proposal.currentKeyVersion ∧
    isKeyVersion challenge.proposal.proposedKeyVersion ∧
    challenge.issuedAt < challenge.expiresAt ∧
    challenge.expiresAt - challenge.issuedAt ≤ deviceKeyRotationChallengeMaxAgeMs ∧
    challenge.proposal.proposedKeyVersion = challenge.proposal.currentKeyVersion + 1

/-- `DeviceKeyRotationPossessionVerificationResultSchema`. -/
def verificationParses (verification : PossessionVerification) : Bool :=
  isKeyVersion verification.proposal.currentKeyVersion ∧
    isKeyVersion verification.proposal.proposedKeyVersion

/-! ## The evaluator -/

/-- `DeviceKeyRotationRefusal`, without the refusals of checks that cannot fail here: the instants
    of the ceremony can be read, and the store's fact is about this request. -/
inductive RotationRefusal
  | signatureProfileClaimMismatch | rotationRequestMisbound | challengeMisbound | staleRotation
  | newKeyNotRuntimeValid | rotationConsumptionInconsistent | rotationReusedWithChangedSemantics
  | continuityProofMisbound | continuityNotProven | possessionVerificationMisbound
  | possessionStatementMismatch | possessionProfileMismatch | challengeNotYetIssued
  | possessionVerifiedInFuture | challengeExpired | possessionNotProven
deriving DecidableEq

/-- `DeviceKeyRotationRegistryFacts`. -/
structure RegistryFacts where
  organisationId : String
  deviceId : String
  currentKeyId : String
  currentKeyVersion : Nat
  currentKeyStatus : KeyLifecycleState
  currentKeyRevoked : Bool
  deviceRevoked : Bool
  serverResolvedSignatureProfile : String

structure Continuity where
  verified : Bool
  purposePayloadDigest : String

structure AdmissibilityInput where
  request : RotationRequest
  challenge : RotationChallenge
  possessionVerification : PossessionVerification
  continuity : Option Continuity
  newKeyRuntimeValid : Bool
  registered : RegistryFacts
  consumption : Consumption
  now : Int

/-- `DeviceKeyRotationDecision`, admitted. -/
inductive Decision
  | rotate (sourceKeyVersion targetKeyVersion : Nat)
  | converge (storedOutcomeRef : String)

/-- The request is about the device the registry re-read, and the challenge about the request. -/
def checkBindings (input : AdmissibilityInput) (fingerprint : String) :
    Except RotationRefusal Unit :=
  if input.request.organisationId ≠ input.registered.organisationId ∨
      input.request.deviceId ≠ input.registered.deviceId then
    .error .rotationRequestMisbound
  else if input.challenge.proposal ≠ input.request.proposal fingerprint then
    .error .challengeMisbound
  else .ok ()

/-- STALE_ROTATION: the registry as it is now. -/
def checkRegistry (input : AdmissibilityInput) : Except RotationRefusal Unit :=
  if input.registered.currentKeyId ≠ input.request.currentKeyId ∨
      input.registered.currentKeyVersion ≠ input.request.currentKeyVersion ∨
      input.registered.currentKeyStatus ≠ .current ∨ input.registered.currentKeyRevoked ∨
      input.registered.deviceRevoked then
    .error .staleRotation
  else .ok ()

/-- The one-shot identity. -/
def checkConsumption (input : AdmissibilityInput) : Except RotationRefusal Unit :=
  if !input.consumption.isConsistent then .error .rotationConsumptionInconsistent
  else if input.consumption = .reusedWithChangedSemantics then
    .error .rotationReusedWithChangedSemantics
  else .ok ()

/-- The current key authorised this exact proposal. -/
def checkContinuity (input : AdmissibilityInput) (fingerprint : String) :
    Except RotationRefusal Unit :=
  match input.continuity with
  | none => .error .continuityProofMisbound
  | some continuity =>
    if continuity.purposePayloadDigest ≠ fingerprint then .error .continuityProofMisbound
    else if !continuity.verified then .error .continuityNotProven
    else .ok ()

/-- Possession of the new key, as a bound verdict of the server within the challenge's window. -/
def checkPossession (possessionFingerprint : PossessionStatementInput → String)
    (input : AdmissibilityInput) (fingerprint profile : String) : Except RotationRefusal Unit :=
  let challenge := input.challenge
  let verification := input.possessionVerification
  if verification.proposal ≠ input.request.proposal fingerprint ∨
      verification.rotationChallengeId ≠ challenge.challengeId then
    .error .possessionVerificationMisbound
  else if verification.canonicalStatementFingerprint ≠
      possessionFingerprint
        { proposal := input.request.proposal fingerprint
          rotationChallengeId := challenge.challengeId
          nonce := challenge.nonce
          signatureProfile := profile } then
    .error .possessionStatementMismatch
  else if verification.signatureProfile ≠ profile then .error .possessionProfileMismatch
  else if verification.verifiedAt < challenge.issuedAt then .error .challengeNotYetIssued
  else if input.now < verification.verifiedAt then .error .possessionVerifiedInFuture
  else if challenge.expiresAt ≤ verification.verifiedAt then .error .challengeExpired
  else if !verification.verified then .error .possessionNotProven
  else .ok ()

/-- `evaluateDeviceKeyRotation`; the fingerprints are digests of the canonical statements. -/
def evaluateDeviceKeyRotation (requestFingerprint : RotationRequest → String)
    (possessionFingerprint : PossessionStatementInput → String) (input : AdmissibilityInput) :
    Except RotationRefusal Decision :=
  match bindClaimedSignatureProfile input.request.serverResolvedSignatureProfile
    input.registered.serverResolvedSignatureProfile with
  | none => .error .signatureProfileClaimMismatch
  | some profile => do
    let fingerprint := requestFingerprint input.request
    checkBindings input fingerprint
    checkRegistry input
    if !input.newKeyRuntimeValid then .error .newKeyNotRuntimeValid
    else do
      checkConsumption input
      checkContinuity input fingerprint
      checkPossession possessionFingerprint input fingerprint profile
      match input.consumption with
      | .exactDuplicate storedOutcomeRef => .ok (.converge storedOutcomeRef)
      | _ => .ok (.rotate input.request.currentKeyVersion input.request.proposedKeyVersion)

/-! ## What an admitted rotation has passed -/

section Admitted

variable {requestFingerprint : RotationRequest → String}
  {possessionFingerprint : PossessionStatementInput → String} {input : AdmissibilityInput}

theorem checkBindings_ok {fingerprint : String} (h : checkBindings input fingerprint = .ok ()) :
    input.request.organisationId = input.registered.organisationId ∧
      input.request.deviceId = input.registered.deviceId ∧
      input.challenge.proposal = input.request.proposal fingerprint := by
  simp only [checkBindings, Except.ite_error_eq_ok, not_or, not_not] at h
  exact ⟨h.1.1, h.1.2, h.2.1⟩

theorem checkRegistry_ok (h : checkRegistry input = .ok ()) :
    input.registered.currentKeyId = input.request.currentKeyId ∧
      input.registered.currentKeyVersion = input.request.currentKeyVersion ∧
      input.registered.currentKeyStatus = .current := by
  simp only [checkRegistry, Except.ite_error_eq_ok, not_or, not_not] at h
  exact ⟨h.1.1, h.1.2.1, h.1.2.2.1⟩

/-- A rotation is admitted for the key that is current now, and for an identity never seen. -/
theorem evaluateDeviceKeyRotation_rotate {source target : Nat}
    (h : evaluateDeviceKeyRotation requestFingerprint possessionFingerprint input =
      .ok (.rotate source target)) :
    (input.request.organisationId = input.registered.organisationId ∧
      input.request.deviceId = input.registered.deviceId) ∧
      (input.registered.currentKeyId = input.request.currentKeyId ∧
        input.registered.currentKeyVersion = input.request.currentKeyVersion ∧
        input.registered.currentKeyStatus = .current) ∧
      input.consumption = .firstSeen := by
  unfold evaluateDeviceKeyRotation at h
  split at h
  · cases h
  · obtain ⟨_, hbindings, h⟩ := Except.bind_eq_ok.mp h
    obtain ⟨_, hregistry, h⟩ := Except.bind_eq_ok.mp h
    obtain ⟨-, h⟩ := Except.ite_error_eq_ok.mp h
    obtain ⟨_, hconsumption, h⟩ := Except.bind_eq_ok.mp h
    obtain ⟨_, -, h⟩ := Except.bind_eq_ok.mp h
    obtain ⟨_, -, h⟩ := Except.bind_eq_ok.mp h
    obtain ⟨horganisation, hdevice, -⟩ := checkBindings_ok hbindings
    refine ⟨⟨horganisation, hdevice⟩, checkRegistry_ok hregistry, ?_⟩
    cases hseen : input.consumption with
    | firstSeen => rfl
    | exactDuplicate ref =>
      rw [hseen] at h
      cases h
    | reusedWithChangedSemantics =>
      -- refused by the check of the identity
      simp [checkConsumption, hseen, Consumption.isConsistent] at hconsumption

end Admitted

end Sentinel.DeviceKeyRotation
