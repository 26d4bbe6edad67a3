import Sentinel.Native.DeviceRegistry
import Sentinel.Native.OfflineAdmissibility

/-! # The enrolment commit gate

The contract `packages/contracts/src/device-identity.ts`: the records of one enrolment ceremony, the
verdict the server records on possession (`device-enrollment.service.ts`), and the gate that decides
whether the ceremony commits.  Instants are texts, read by `parseInstant`
(`parseAuthoritativeInstant`); digests and canonical texts are parameters. -/

namespace Sentinel.DeviceEnrollment

open DeviceRegistry (AttestationOutcome)
open DeviceTrust (KeyStorage)
open OfflineAdmissibility (bindClaimedSignatureProfile)

/-! ## Records -/

/-- `DeviceCustodySchema`. -/
inductive Custody
  | personal | controlledShared
deriving DecidableEq

structure AttestationEvidence where
  outcome : AttestationOutcome
  evaluatedAt : String
  attestationReference : Option String
deriving DecidableEq

/-- `DeviceEnrollmentRequest`, without the schema version. -/
structure EnrollmentRequest where
  enrollmentRequestId : String
  organisationId : String
  siteId : String
  intendedUserId : String
  bootstrapGrantId : String
  custody : Custody
  claimedSignatureProfile : String
  keyStorage : KeyStorage
  publicKey : String
  publicKeyThumbprint : String
  attestation : AttestationEvidence
  requestedAt : String
deriving DecidableEq

/-- `DeviceEnrollmentBootstrapGrant`, the fields the gate reads. -/
structure BootstrapGrant where
  grantId : String
  organisationId : String
  siteId : String
  intendedUserId : String
  issuedAt : String
  expiresAt : String
  consumedAt : Option String
  revokedAt : Option String
deriving DecidableEq

/-- `DeviceEnrollmentApproval`, the fields the gate reads. -/
structure EnrollmentApproval where
  enrollmentRequestId : String
  enrollmentRequestFingerprint : String
  organisationId : String
  siteId : String
  custody : Custody
  approvedAt : String
deriving DecidableEq

structure PossessionChallenge where
  challengeId : String
  enrollmentRequestId : String
  nonce : String
  issuedAt : String
  expiresAt : String
deriving DecidableEq

structure PossessionResponse where
  challengeId : String
  enrollmentRequestId : String
  claimedSignatureProfile : String
  signature : String
  answeredAt : String

/-- `DevicePossessionStatementInput`: what the enrolling device signs. -/
structure PossessionStatementInput where
  challengeId : String
  enrollmentRequestId : String
  enrollmentRequestFingerprint : String
  nonce : String
  publicKeyThumbprint : String
  signatureProfile : String

structure PossessionVerificationResult where
  verified : Bool
  challengeId : String
  enrollmentRequestId : String
  enrollmentRequestFingerprint : String
  publicKeyThumbprint : String
  possessionStatementFingerprint : String
  signatureProfile : String
  verifiedAt : String
deriving DecidableEq

structure GrantReplayIdentity where
  organisationId : String
  siteId : String
  intendedUserId : String
  grantId : String

structure ChallengeReplayIdentity where
  organisationId : String
  siteId : String
  intendedUserId : String
  enrollmentRequestId : String
  challengeId : String
  nonce : String

/-- The outcomes of `DeviceNonceConsumption`. -/
inductive ConsumptionOutcome
  | firstSeen | exactDuplicate | reusedWithChangedSemantics
deriving DecidableEq

/-- `DeviceNonceConsumption` as it arrives from the store. -/
structure NonceConsumption where
  source : String
  outcome : ConsumptionOutcome
  replayKey : String
  statementFingerprint : String
  storedOutcomeRef : Option String

/-- `isConsistentDeviceNonceConsumption`: an exact duplicate names an outcome, nothing else does. -/
def NonceConsumption.isConsistent (fact : NonceConsumption) : Bool :=
  fact.source = "SENTINEL_NONCE_STORE" && fact.replayKey ≠ "" && fact.statementFingerprint ≠ "" &&
    match fact.outcome with
    | .exactDuplicate => fact.storedOutcomeRef.any fun ref => !JsText.isBlank ref
    | _ => fact.storedOutcomeRef.isNone

/-! ## The gate -/

inductive EnrollmentRefusal
  | bootstrapGrantMissing | bootstrapGrantUnusable | bootstrapScopeMismatch | bootstrapGrantReused
  | bootstrapConsumptionMisbound | bootstrapConsumptionInconsistent
  | requestExpired | requestPrecedesGrant | requestNotYetMade
  | approvalMissing | approvalFingerprintMismatch | approvalNotYetMade | approvalPrecedesRequest
  | userNotAuthenticated | userNotIntended
  | challengeMissing | challengeMisbound | challengeExpired | challengeNotYetIssued
  | challengePrecedesApproval | possessionVerifiedInFuture | challengeReused
  | challengeConsumptionMisbound | challengeConsumptionInconsistent
  | possessionNotProven | possessionVerificationMissing | possessionVerificationMisbound
  | possessionStatementMismatch | possessionProfileMismatch | signatureProfileClaimMismatch
  | timeNotAuthoritative
deriving DecidableEq

structure CommitInput where
  request : EnrollmentRequest
  grant : Option BootstrapGrant
  approval : Option EnrollmentApproval
  challenge : Option PossessionChallenge
  possessionVerification : Option PossessionVerificationResult
  serverSelectedSignatureProfile : String
  grantConsumption : NonceConsumption
  challengeConsumption : NonceConsumption
  authenticatedUserId : Option String
  now : String

/-- `DeviceEnrollmentCommitDecision`; a refusal is the error. -/
inductive CommitDecision
  | commit (enrollmentRequestFingerprint : String)
  | converge (enrollmentRequestFingerprint : String) (storedOutcomeRef : Option String)
deriving DecidableEq

def deviceEnrollmentRequestMaxAgeMs : Int := 900000

def deviceEnrollmentBootstrapMaxAgeMs : Int := 600000

inductive BootstrapGrantStanding
  | usable | notYetValid | expired | consumed | revoked | timeNotAuthoritative
deriving DecidableEq

/-- The canonical texts and digests of a ceremony. -/
structure Digests where
  /-- `deviceEnrollmentRequestFingerprint`. -/
  request : EnrollmentRequest → String
  possessionStatement : PossessionStatementInput → String
  /-- `deviceBootstrapGrantReplayKey`. -/
  grantReplayKey : GrantReplayIdentity → String
  /-- `devicePossessionChallengeReplayKey`. -/
  challengeReplayKey : ChallengeReplayIdentity → String

def BootstrapGrant.replayIdentity (grant : BootstrapGrant) : GrantReplayIdentity :=
  ⟨grant.organisationId, grant.siteId, grant.intendedUserId, grant.grantId⟩

def PossessionChallenge.replayIdentity (challenge : PossessionChallenge)
    (request : EnrollmentRequest) : ChallengeReplayIdentity :=
  ⟨request.organisationId, request.siteId, request.intendedUserId, request.enrollmentRequestId,
    challenge.challengeId, challenge.nonce⟩

def PossessionChallenge.statement (challenge : PossessionChallenge) (request : EnrollmentRequest)
    (fingerprint profile : String) : PossessionStatementInput :=
  ⟨challenge.challengeId, request.enrollmentRequestId, fingerprint, challenge.nonce,
    request.publicKeyThumbprint, profile⟩

def bootstrapGrantMatchesScope (grant : BootstrapGrant) (request : EnrollmentRequest) : Bool :=
  grant.organisationId = request.organisationId && grant.siteId = request.siteId &&
    grant.intendedUserId = request.intendedUserId

/-- A consumption fact about this identity and this request, which reports no reuse. -/
def judgeFact (fact : NonceConsumption) (replayKey fingerprint : String)
    (inconsistent misbound reused : EnrollmentRefusal) : Except EnrollmentRefusal Unit :=
  if !fact.isConsistent then .error inconsistent
  else if fact.replayKey ≠ replayKey ∨ fact.statementFingerprint ≠ fingerprint then .error misbound
  else if fact.outcome = .reusedWithChangedSemantics then .error reused
  else .ok ()

section Gate

variable (parseInstant : String → Option Int) (digests : Digests)

/-- `classifyDeviceBootstrapGrant`: expiry is exclusive. -/
def classifyDeviceBootstrapGrant (grant : BootstrapGrant) (now : String) : BootstrapGrantStanding :=
  if grant.revokedAt ≠ none then .revoked
  else if grant.consumedAt ≠ none then .consumed
  else
    match parseInstant now, parseInstant grant.issuedAt, parseInstant grant.expiresAt with
    | some now, some issued, some expires =>
      if now < issued then .notYetValid
      else if expires ≤ now then .expired
      else .usable
    | _, _, _ => .timeNotAuthoritative

def approvalMatchesEnrollmentRequest (approval : EnrollmentApproval)
    (request : EnrollmentRequest) : Bool :=
  approval.enrollmentRequestId = request.enrollmentRequestId &&
    approval.enrollmentRequestFingerprint = digests.request request &&
    approval.organisationId = request.organisationId && approval.siteId = request.siteId &&
    approval.custody = request.custody

variable (input : CommitInput)

/-- 1. The grant, and the report on its one-shot identity. -/
def bindGrant (fingerprint : String) : Except EnrollmentRefusal BootstrapGrant :=
  match input.grant with
  | none => .error .bootstrapGrantMissing
  | some grant =>
    if grant.grantId ≠ input.request.bootstrapGrantId then .error .bootstrapScopeMismatch
    else
      match classifyDeviceBootstrapGrant parseInstant grant input.now with
      | .timeNotAuthoritative => .error .timeNotAuthoritative
      | .usable =>
        if !bootstrapGrantMatchesScope grant input.request then .error .bootstrapScopeMismatch
        else
          (judgeFact input.grantConsumption (digests.grantReplayKey grant.replayIdentity) fingerprint
            .bootstrapConsumptionInconsistent .bootstrapConsumptionMisbound
            .bootstrapGrantReused).map fun _ => grant
      | _ => .error .bootstrapGrantUnusable

/-- The instants of the server's clock and of the request, which is live and after its grant. -/
def requestInstants (grant : BootstrapGrant) : Except EnrollmentRefusal (Int × Int) :=
  match parseInstant input.now, parseInstant input.request.requestedAt,
    parseInstant grant.issuedAt with
  | some now, some requested, some grantIssued =>
    if now - requested < 0 then .error .requestNotYetMade
    else if deviceEnrollmentRequestMaxAgeMs < now - requested then .error .requestExpired
    else if requested < grantIssued then .error .requestPrecedesGrant
    else .ok (now, requested)
  | _, _, _ => .error .timeNotAuthoritative

/-- 2. The approval, bound to the exact request fingerprint, and its instant. -/
def approvalInstant (now requested : Int) : Except EnrollmentRefusal Int :=
  match input.approval with
  | none => .error .approvalMissing
  | some approval =>
    if !approvalMatchesEnrollmentRequest digests approval input.request then
      .error .approvalFingerprintMismatch
    else
      match parseInstant approval.approvedAt with
      | none => .error .timeNotAuthoritative
      | some approved =>
        if now < approved then .error .approvalNotYetMade
        else if approved < requested then .error .approvalPrecedesRequest
        else .ok approved

/-- 3. The intended user, authenticated now. -/
def bindUser : Except EnrollmentRefusal Unit :=
  match input.authenticatedUserId with
  | none => .error .userNotAuthenticated
  | some userId => if userId ≠ input.request.intendedUserId then .error .userNotIntended else .ok ()

/-- 4. The challenge, and the report on its one-shot identity. -/
def bindChallenge (fingerprint : String) : Except EnrollmentRefusal PossessionChallenge :=
  match input.challenge with
  | none => .error .challengeMissing
  | some challenge =>
    if challenge.enrollmentRequestId ≠ input.request.enrollmentRequestId then
      .error .challengeMisbound
    else
      (judgeFact input.challengeConsumption
        (digests.challengeReplayKey (challenge.replayIdentity input.request)) fingerprint
        .challengeConsumptionInconsistent .challengeConsumptionMisbound
        .challengeReused).map fun _ => challenge

/-- 5. The server's verdict on possession, bound to this ceremony. -/
def bindVerification (fingerprint profile : String)
    (challenge : PossessionChallenge) : Except EnrollmentRefusal PossessionVerificationResult :=
  match input.possessionVerification with
  | none => .error .possessionVerificationMissing
  | some verification =>
    if verification.challengeId ≠ challenge.challengeId ∨
        verification.enrollmentRequestId ≠ input.request.enrollmentRequestId ∨
        verification.enrollmentRequestFingerprint ≠ fingerprint ∨
        verification.publicKeyThumbprint ≠ input.request.publicKeyThumbprint then
      .error .possessionVerificationMisbound
    else if verification.possessionStatementFingerprint ≠
        digests.possessionStatement (challenge.statement input.request fingerprint profile) then
      .error .possessionStatementMismatch
    else if verification.signatureProfile ≠ profile then .error .possessionProfileMismatch
    else .ok verification

/-- The verdict's instant, inside the challenge's window and after the approval. -/
def possessionWindow (challenge : PossessionChallenge) (verification : PossessionVerificationResult)
    (now approved : Int) : Except EnrollmentRefusal Unit :=
  match parseInstant verification.verifiedAt, parseInstant challenge.issuedAt,
    parseInstant challenge.expiresAt with
  | some verified, some issued, some expires =>
    if now < issued then .error .challengeNotYetIssued
    else if issued < approved then .error .challengePrecedesApproval
    else if verified < issued then .error .challengeNotYetIssued
    else if now < verified then .error .possessionVerifiedInFuture
    else if expires ≤ verified then .error .challengeExpired
    else .ok ()
  | _, _, _ => .error .timeNotAuthoritative

/-- What the two facts leave to do: only when both are seen for the first time is it a commit. -/
def commitOutcome (fingerprint : String) (grantFact challengeFact : NonceConsumption) :
    Except EnrollmentRefusal CommitDecision :=
  if grantFact.outcome = .exactDuplicate ∧ challengeFact.outcome = .exactDuplicate then
    if grantFact.storedOutcomeRef ≠ challengeFact.storedOutcomeRef then
      .error .bootstrapConsumptionInconsistent
    else .ok (.converge fingerprint challengeFact.storedOutcomeRef)
  else if challengeFact.outcome = .exactDuplicate then
    .ok (.converge fingerprint challengeFact.storedOutcomeRef)
  else if grantFact.outcome = .exactDuplicate then
    .ok (.converge fingerprint grantFact.storedOutcomeRef)
  else .ok (.commit fingerprint)

def evaluateDeviceEnrollmentCommit : Except EnrollmentRefusal CommitDecision :=
  let fingerprint := digests.request input.request
  match bindClaimedSignatureProfile input.request.claimedSignatureProfile
    input.serverSelectedSignatureProfile with
  | none => .error .signatureProfileClaimMismatch
  | some profile => do
    let grant ← bindGrant parseInstant digests input fingerprint
    let (now, requested) ← requestInstants parseInstant input grant
    let approved ← approvalInstant parseInstant digests input now requested
    bindUser input
    let challenge ← bindChallenge digests input fingerprint
    let verification ← bindVerification digests input fingerprint profile challenge
    possessionWindow parseInstant challenge verification now approved
    if !verification.verified then .error .possessionNotProven
    else commitOutcome fingerprint input.grantConsumption input.challengeConsumption

end Gate

/-! ## The verdict on possession -/

def serverSelectedSignatureProfile : String := "P256_ECDSA_SHA256"

/-- `DeviceKeyService.verifySignature`: key, message, signature, the server's profile and the claimed. -/
abbrev VerifySignature := String → PossessionStatementInput → String → String → String → Bool

/-- The verdict `verifyPossession` writes on an answer to a challenge of a request whose row names
    `rowProfile`, at the database's instant; none where the answer is refused as misbound. -/
def verifyPossession (digests : Digests) (verifySignature : VerifySignature)
    (request : EnrollmentRequest) (rowProfile : String) (challenge : PossessionChallenge)
    (response : PossessionResponse) (verifiedAt : String) : Option PossessionVerificationResult :=
  if challenge.enrollmentRequestId ≠ request.enrollmentRequestId then none
  else if response.challengeId ≠ challenge.challengeId ∨
      response.enrollmentRequestId ≠ request.enrollmentRequestId then none
  else
    let fingerprint := digests.request request
    let statement := challenge.statement request fingerprint serverSelectedSignatureProfile
    some
      { verified := verifySignature request.publicKey statement response.signature rowProfile
          response.claimedSignatureProfile
        challengeId := challenge.challengeId
        enrollmentRequestId := request.enrollmentRequestId
        enrollmentRequestFingerprint := fingerprint
        publicKeyThumbprint := request.publicKeyThumbprint
        possessionStatementFingerprint := digests.possessionStatement statement
        signatureProfile := serverSelectedSignatureProfile
        verifiedAt := verifiedAt }

end Sentinel.DeviceEnrollment
