import Sentinel.ForStd.Transition
import Sentinel.Native.DeviceEnrollment
import Sentinel.Native.EdgeRequest

/-! # The enrolment ceremony

`DeviceEnrollmentService` (`modules/shield/device-enrollment.service.ts`) over the tables of the
ceremony (`shield.repository.ts`).  A call is one step: the columns it decides on before its
transaction are never rewritten, except the state of the request, which its transaction is fenced
on.  Security events, the registry rows of the device and the nonce store are left out; what the
commit learns from them comes with the step. -/

namespace Sentinel.EnrollmentCeremony

open DeviceEnrollment
open DeviceRegistry (AttestationOutcome Principal intersectSiteScope)
open DeviceTrust (KeyStorage)
open EdgeRequest (isDigest isNonce)
open EdgeTrustedTime (isInstantWindow isScopedId)
open JsText (toISOString)
open OfflineAdmissibility (bindClaimedSignatureProfile deviceSignatureProfiles)

/-! ## Rows -/

inductive EnrollmentState
  | requested | approved | possessionProven | enrolled | rejected | expired | revoked
deriving DecidableEq

def allowedDeviceEnrollmentTransitions : EnrollmentState → List EnrollmentState
  | .requested => [.approved, .rejected, .expired]
  | .approved => [.possessionProven, .rejected, .expired]
  | .possessionProven => [.enrolled, .rejected, .expired]
  | .enrolled => [.revoked]
  | .rejected | .expired | .revoked => []

def canTransitionDeviceEnrollment (source target : EnrollmentState) : Bool :=
  (allowedDeviceEnrollmentTransitions source).contains target

/-- `BootstrapGrantRow`, with the digest it is found by. -/
structure BootstrapGrantRow where
  id : String
  organisationId : String
  siteId : String
  intendedUserId : String
  issuedByUserId : String
  tokenDigest : String
  issuedAt : Int
  expiresAt : Int
  consumedAt : Option Int
  revokedAt : Option Int
deriving DecidableEq

structure EnrollmentRequestRow where
  id : String
  organisationId : String
  siteId : String
  intendedUserId : String
  bootstrapGrantId : String
  custody : Custody
  custodyRegimeId : Option String
  approvedSemanticsDigest : String
  publicKey : String
  publicKeyThumbprint : String
  keyStorage : KeyStorage
  claimedSignatureProfile : String
  serverSelectedSignatureProfile : String
  requestFingerprint : String
  attestationOutcome : AttestationOutcome
  attestationEvaluatedAt : Int
  attestationReference : Option String
  requestedAt : Int
  state : EnrollmentState
deriving DecidableEq

structure EnrollmentApprovalRow where
  id : String
  organisationId : String
  enrollmentRequestId : String
  approvedByUserId : String
  approvedRequestFingerprint : String
  approvedSiteId : String
  approvedIntendedUserId : String
  approvedCustody : Custody
  approvedCustodyRegimeId : Option String
  approvedSemanticsDigest : String
  approvedAt : Int
deriving DecidableEq

structure PossessionChallengeRow where
  id : String
  organisationId : String
  enrollmentRequestId : String
  nonce : String
  issuedAt : Int
  expiresAt : Int
deriving DecidableEq

structure PossessionVerificationRow where
  id : String
  organisationId : String
  challengeId : String
  enrollmentRequestId : String
  enrollmentRequestFingerprint : String
  publicKeyThumbprint : String
  possessionStatementFingerprint : String
  signatureProfile : String
  verified : Bool
  verifiedAt : Int
deriving DecidableEq

/-- `DeviceCustodyRegimeRow`, the columns the ceremony reads. -/
structure CustodyRegime where
  siteId : String
  retiredAt : Option Int

/-! ## Contract structures -/

/-- What the service takes from cryptography. -/
structure Platform where
  digests : Digests
  /-- `deriveP256PublicKeyThumbprint`, of a key in canonical form. -/
  thumbprint : String → Option String
  /-- `decodeCanonicalP256PublicKey` takes the key. -/
  isCanonicalPublicKey : String → Bool
  isRuntimeValidPublicKey : String → Bool
  /-- `decodeCanonicalP256Signature` takes the signature. -/
  isCanonicalSignature : String → Bool
  /-- The crypto provider's verdict on a key, a statement and a signature. -/
  verifies : String → PossessionStatementInput → String → Bool
  /-- `approvedEnrollmentSemanticsDigest`. -/
  semanticsDigest : String → Custody → Option String → String
  /-- `digestBootstrapToken`. -/
  tokenDigest : String → String

def isTimestamp (text : String) : Bool := (JsDate.parse text).isSome

def devicePossessionChallengeMaxAgeMs : Int := 120000

def EnrollmentRequestRow.contract (row : EnrollmentRequestRow) : EnrollmentRequest :=
  { enrollmentRequestId := row.id
    organisationId := row.organisationId
    siteId := row.siteId
    intendedUserId := row.intendedUserId
    bootstrapGrantId := row.bootstrapGrantId
    custody := row.custody
    claimedSignatureProfile := row.claimedSignatureProfile
    keyStorage := row.keyStorage
    publicKey := row.publicKey
    publicKeyThumbprint := row.publicKeyThumbprint
    attestation :=
      { outcome := row.attestationOutcome
        evaluatedAt := toISOString row.attestationEvaluatedAt
        attestationReference := row.attestationReference }
    requestedAt := toISOString row.requestedAt }

/-- `DeviceEnrollmentBootstrapGrantSchema`, on the structure a row is rebuilt to. -/
def BootstrapGrantRow.toContract (row : BootstrapGrantRow) : Option BootstrapGrant :=
  let grant : BootstrapGrant :=
    ⟨row.id, row.organisationId, row.siteId, row.intendedUserId, toISOString row.issuedAt,
      toISOString row.expiresAt, row.consumedAt.map toISOString, row.revokedAt.map toISOString⟩
  if isScopedId grant.grantId && isScopedId grant.organisationId && isScopedId grant.siteId &&
      isScopedId grant.intendedUserId && isScopedId row.issuedByUserId &&
      grant.consumedAt.all isTimestamp && grant.revokedAt.all isTimestamp &&
      isInstantWindow grant.issuedAt grant.expiresAt deviceEnrollmentBootstrapMaxAgeMs then
    some grant
  else none

/-- `DeviceEnrollmentApprovalSchema`, on the structure a row is rebuilt to. -/
def EnrollmentApprovalRow.toContract (row : EnrollmentApprovalRow) : Option EnrollmentApproval :=
  let approval : EnrollmentApproval :=
    ⟨row.enrollmentRequestId, row.approvedRequestFingerprint, row.organisationId,
      row.approvedSiteId, row.approvedCustody, toISOString row.approvedAt⟩
  if isScopedId row.id && isScopedId approval.enrollmentRequestId &&
      isDigest approval.enrollmentRequestFingerprint && isScopedId approval.organisationId &&
      isScopedId approval.siteId && isScopedId row.approvedByUserId &&
      isTimestamp approval.approvedAt then
    some approval
  else none

/-- `DevicePossessionChallengeSchema`, on the structure a row is rebuilt to. -/
def PossessionChallengeRow.toContract (row : PossessionChallengeRow) : Option PossessionChallenge :=
  let challenge : PossessionChallenge :=
    ⟨row.id, row.enrollmentRequestId, row.nonce, toISOString row.issuedAt,
      toISOString row.expiresAt⟩
  if isScopedId challenge.challengeId && isScopedId challenge.enrollmentRequestId &&
      isNonce challenge.nonce &&
      isInstantWindow challenge.issuedAt challenge.expiresAt devicePossessionChallengeMaxAgeMs then
    some challenge
  else none

/-- `DevicePossessionVerificationResultSchema`, on the structure a row is rebuilt to. -/
def PossessionVerificationRow.toContract (row : PossessionVerificationRow) :
    Option PossessionVerificationResult :=
  let verification : PossessionVerificationResult :=
    ⟨row.verified, row.challengeId, row.enrollmentRequestId, row.enrollmentRequestFingerprint,
      row.publicKeyThumbprint, row.possessionStatementFingerprint, row.signatureProfile,
      toISOString row.verifiedAt⟩
  if isScopedId verification.challengeId && isScopedId verification.enrollmentRequestId &&
      isDigest verification.enrollmentRequestFingerprint &&
      isDigest verification.publicKeyThumbprint &&
      isDigest verification.possessionStatementFingerprint &&
      deviceSignatureProfiles.contains verification.signatureProfile &&
      isTimestamp verification.verifiedAt then
    some verification
  else none

namespace Platform

variable (platform : Platform)

/-- `DeviceEnrollmentRequestSchema`. -/
def requestParses (request : EnrollmentRequest) : Bool :=
  isScopedId request.enrollmentRequestId && isScopedId request.organisationId &&
    isScopedId request.siteId && isScopedId request.intendedUserId &&
    isScopedId request.bootstrapGrantId &&
    deviceSignatureProfiles.contains request.claimedSignatureProfile &&
    platform.isCanonicalPublicKey request.publicKey && isDigest request.publicKeyThumbprint &&
    isTimestamp request.attestation.evaluatedAt &&
    request.attestation.attestationReference.all isScopedId && isTimestamp request.requestedAt &&
    platform.thumbprint request.publicKey = some request.publicKeyThumbprint

def toContractRequest (row : EnrollmentRequestRow) : Option EnrollmentRequest :=
  if platform.requestParses row.contract then some row.contract else none

/-- `P256KeyImporter.verifySignature`. -/
def verifySignature : VerifySignature :=
  fun registeredPublicKey message signature serverResolvedProfile claimedProfile =>
    (bindClaimedSignatureProfile claimedProfile serverResolvedProfile).isSome &&
      platform.isCanonicalSignature signature &&
      platform.isRuntimeValidPublicKey registeredPublicKey &&
      platform.verifies registeredPublicKey message signature

end Platform

/-! ## The store -/

/-- `ShieldRefusalCode`, the refusals of the ceremony. -/
inductive ShieldRefusal
  | notAuthorised | siteNotInScope | siteNotFound | userNotFound
  | bootstrapGrantNotFound | bootstrapContextMismatch | bootstrapGrantUnusable
  | malformedContractStructure | publicKeyNotRuntimeValid
  | custodyRegimeRequired | custodyRegimeNotPermitted | custodyRegimeNotFound | custodyRegimeRetired
  | enrollmentRequestConflict | enrollmentRequestNotFound | alreadyApproved | enrollmentStateInvalid
  | issuerMayNotApprove | intendedUserMayNotApprove
  | approvalFingerprintMismatch | approvedSemanticsMismatch | approvalMissing
  | approvedCustodyRegimeMismatch | approvalRecordInconsistent
  | possessionChallengeNotFound | possessionChallengeMisbound | possessionVerificationNotFound
  | replayOutcomeUnresolvable | replayOutcomeDiverged
  | gate (refusal : EnrollmentRefusal)
deriving DecidableEq

/-- The tables of the ceremony and the clock of the database, in milliseconds. -/
structure Store where
  clock : Int
  grants : List BootstrapGrantRow
  requests : List EnrollmentRequestRow
  approvals : List EnrollmentApprovalRow
  challenges : List PossessionChallengeRow
  verifications : List PossessionVerificationRow
deriving DecidableEq

namespace Store

def initial : Store := ⟨0, [], [], [], [], []⟩

/-- `findBootstrapGrantByTokenDigest`, across organisations. -/
def findBootstrapGrantByTokenDigest (s : Store) (tokenDigest : String) : Option BootstrapGrantRow :=
  s.grants.find? fun row => row.tokenDigest = tokenDigest

/-- `findBootstrapGrant` and `lockBootstrapGrant`. -/
def findBootstrapGrant (s : Store) (organisationId id : String) : Option BootstrapGrantRow :=
  s.grants.find? fun row => row.id = id ∧ row.organisationId = organisationId

/-- `findEnrollmentRequest` and `lockEnrollmentRequest`. -/
def findEnrollmentRequest (s : Store) (organisationId id : String) : Option EnrollmentRequestRow :=
  s.requests.find? fun row => row.id = id ∧ row.organisationId = organisationId

/-- `findEnrollmentRequestByGrant` and `lockEnrollmentRequestByGrant`. -/
def findEnrollmentRequestByGrant (s : Store) (organisationId bootstrapGrantId : String) :
    Option EnrollmentRequestRow :=
  s.requests.find? fun row =>
    row.organisationId = organisationId ∧ row.bootstrapGrantId = bootstrapGrantId

/-- `lockEnrollmentApproval`. -/
def findEnrollmentApproval (s : Store) (organisationId enrollmentRequestId : String) :
    Option EnrollmentApprovalRow :=
  s.approvals.find? fun row =>
    row.organisationId = organisationId ∧ row.enrollmentRequestId = enrollmentRequestId

/-- `findPossessionChallenge` and `lockPossessionChallenge`. -/
def findPossessionChallenge (s : Store) (organisationId id : String) :
    Option PossessionChallengeRow :=
  s.challenges.find? fun row => row.id = id ∧ row.organisationId = organisationId

/-- `lockPossessionVerification`. -/
def findPossessionVerification (s : Store) (organisationId challengeId : String) :
    Option PossessionVerificationRow :=
  s.verifications.find? fun row =>
    row.organisationId = organisationId ∧ row.challengeId = challengeId

/-- The rows `advanceEnrollmentState` updates. -/
def fenced (organisationId id : String) (source : EnrollmentState) (row : EnrollmentRequestRow) :
    Bool :=
  row.id = id ∧ row.organisationId = organisationId ∧ row.state = source

/-- `advanceEnrollmentState`, with how many rows it updated. -/
def advanceEnrollmentState (s : Store) (organisationId id : String)
    (source target : EnrollmentState) : Nat × Store :=
  let requests := Table.rewrite (fenced organisationId id source)
    (fun row => { row with state := target }) s.requests
  (s.requests.countP (fenced organisationId id source), { s with requests })

def burnBootstrapGrant (s : Store) (organisationId id : String) : Store :=
  let grants := Table.rewrite
    (fun row => row.id = id ∧ row.organisationId = organisationId ∧ row.consumedAt = none)
    (fun row => { row with consumedAt := some s.clock }) s.grants
  { s with grants }

/-- The update of `revokeBootstrapGrant`. -/
def withdrawBootstrapGrant (s : Store) (organisationId id : String) : Store :=
  let grants := Table.rewrite
    (fun row => row.id = id ∧ row.organisationId = organisationId ∧ row.revokedAt = none)
    (fun row => { row with revokedAt := some s.clock }) s.grants
  { s with grants }

end Store

/-- What a call answers: a refusal, a driver error that reaches its caller, or its own outcome. -/
inductive Answer (α : Type)
  | refused (refusal : ShieldRefusal)
  | failed
  | done (outcome : α)
deriving DecidableEq

/-! ## The calls -/

def checkDeviceAuthority (principal : Principal) (action organisationId siteId : String) :
    Option ShieldRefusal :=
  if !DeviceRegistry.checkDeviceAuthority principal action organisationId then some .notAuthorised
  else
    let scope := intersectSiteScope principal action
    if scope.orgWide || scope.siteIds.contains siteId then none else some .siteNotInScope

def actionDeviceEnrollmentIssue : String := "device.enrollment.issue"

def actionDeviceEnrollmentApprove : String := "device.enrollment.approve"

structure GrantScope where
  organisationId : String
  siteId : String
  intendedUserId : String

/-- `EnrollmentRequestSubmission`. -/
structure Submission extends GrantScope where
  bootstrapToken : String
  custody : Custody
  publicKey : String
  keyStorage : KeyStorage
  claimedSignatureProfile : String
  custodyRegimeId : Option String

def submissionMatchesRequest (submission : Submission) (row : EnrollmentRequestRow) : Bool :=
  row.organisationId = submission.organisationId && row.siteId = submission.siteId &&
    row.intendedUserId = submission.intendedUserId && row.custody = submission.custody &&
    row.custodyRegimeId = submission.custodyRegimeId && row.publicKey = submission.publicKey &&
    row.keyStorage = submission.keyStorage &&
    row.claimedSignatureProfile = submission.claimedSignatureProfile

/-- What a regime of the catalogue says at a site. -/
def judgeRegime (regime : Option CustodyRegime) (siteId : String) : Option ShieldRefusal :=
  match regime with
  | none => some .custodyRegimeNotFound
  | some regime =>
    if regime.siteId ≠ siteId then some .custodyRegimeNotFound
    else if regime.retiredAt ≠ none then some .custodyRegimeRetired
    else none

/-- `resolveSubmittedCustodyRegime`, with the catalogue's answer. -/
def resolveSubmittedCustodyRegime (submission : Submission) (regime : Option CustodyRegime) :
    Option ShieldRefusal :=
  match submission.custody, submission.custodyRegimeId with
  | .controlledShared, none => some .custodyRegimeRequired
  | .personal, some _ => some .custodyRegimeNotPermitted
  | .personal, none => none
  | .controlledShared, some _ => judgeRegime regime submission.siteId

/-- The outcomes of `createEnrollmentRequest`. -/
inductive Created
  | requested (enrollmentRequestId requestFingerprint : String)
      (attestationOutcome : AttestationOutcome)
  | converged (enrollmentRequestId requestFingerprint : String)
      (attestationOutcome : AttestationOutcome)

/-- What the commit learns outside the tables of the ceremony. -/
structure Surroundings where
  /-- The catalogue's row of the request's regime, locked. -/
  regime : Option CustodyRegime
  /-- What `resolveCanonicalEnrollmentOutcome` refuses. -/
  unresolved : Option ShieldRefusal
  grantConsumption : NonceConsumption
  challengeConsumption : NonceConsumption

structure LockedCommitState where
  request : EnrollmentRequestRow
  approval : EnrollmentApprovalRow
  grant : BootstrapGrantRow
  contractRequest : EnrollmentRequest
  contractGrant : BootstrapGrant
  contractApproval : EnrollmentApproval
  contractChallenge : PossessionChallenge
  contractVerification : PossessionVerificationResult
  fingerprint : String
deriving DecidableEq

section Calls

variable (platform : Platform) (s : Store)

variable (principal : Principal)

/-- `issueBootstrapGrant`: the draw is the row's id and the token. -/
def issueBootstrapGrant (scope : GrantScope) (siteExists userExists : Bool)
    (id bootstrapToken : String) : Answer String × Store :=
  match checkDeviceAuthority principal actionDeviceEnrollmentIssue scope.organisationId
    scope.siteId with
  | some refusal => (.refused refusal, s)
  | none =>
    if !siteExists then (.refused .siteNotFound, s)
    else if !userExists then (.refused .userNotFound, s)
    else
      (.done id,
        { s with grants := s.grants ++
            [⟨id, scope.organisationId, scope.siteId, scope.intendedUserId, principal.userId,
              platform.tokenDigest bootstrapToken, s.clock,
              s.clock + deviceEnrollmentBootstrapMaxAgeMs, none, none⟩] })

def revokeBootstrapGrant (organisationId grantId : String) : Answer String × Store :=
  match s.findBootstrapGrant organisationId grantId with
  | none => (.refused .bootstrapGrantNotFound, s)
  | some grant =>
    if checkDeviceAuthority principal actionDeviceEnrollmentIssue organisationId grant.siteId ≠
        none then
      (.refused .bootstrapGrantNotFound, s)
    else (.done grant.id, s.withdrawBootstrapGrant organisationId grantId)

/-- `presentBootstrapGrant`: a grant presented out of its context burns. -/
def presentBootstrapGrant (scope : GrantScope) (bootstrapToken : String) :
    Answer BootstrapGrantRow × Store :=
  match s.findBootstrapGrantByTokenDigest (platform.tokenDigest bootstrapToken) with
  | none => (.refused .bootstrapGrantNotFound, s)
  | some grant =>
    if grant.organisationId ≠ scope.organisationId ∨ grant.siteId ≠ scope.siteId ∨
        grant.intendedUserId ≠ scope.intendedUserId then
      (.refused .bootstrapContextMismatch, s.burnBootstrapGrant grant.organisationId grant.id)
    else
      match grant.toContract with
      | none => (.refused .malformedContractStructure, s)
      | some contractGrant =>
        if classifyDeviceBootstrapGrant JsDate.parse contractGrant (toISOString s.clock) ≠
            .usable then
          (.refused .bootstrapGrantUnusable, s)
        else (.done grant, s)

def draftRequest (submission : Submission) (grant : BootstrapGrantRow) (thumbprint : String)
    (evidence : AttestationEvidence) (id : String) : EnrollmentRequest :=
  { enrollmentRequestId := id
    organisationId := submission.organisationId
    siteId := submission.siteId
    intendedUserId := submission.intendedUserId
    bootstrapGrantId := grant.id
    custody := submission.custody
    claimedSignatureProfile := submission.claimedSignatureProfile
    keyStorage := submission.keyStorage
    publicKey := submission.publicKey
    publicKeyThumbprint := thumbprint
    attestation := evidence
    requestedAt := toISOString s.clock }

/-- The row of a draft the schema took, whose instants it read. -/
def requestRow (submission : Submission) (draft : EnrollmentRequest) : EnrollmentRequestRow :=
  let fingerprint := platform.digests.request draft
  { id := draft.enrollmentRequestId
    organisationId := submission.organisationId
    siteId := submission.siteId
    intendedUserId := submission.intendedUserId
    bootstrapGrantId := draft.bootstrapGrantId
    custody := submission.custody
    custodyRegimeId := submission.custodyRegimeId
    approvedSemanticsDigest :=
      platform.semanticsDigest fingerprint submission.custody submission.custodyRegimeId
    publicKey := submission.publicKey
    publicKeyThumbprint := draft.publicKeyThumbprint
    keyStorage := submission.keyStorage
    claimedSignatureProfile := submission.claimedSignatureProfile
    serverSelectedSignatureProfile
    requestFingerprint := fingerprint
    attestationOutcome := draft.attestation.outcome
    attestationEvaluatedAt := (JsDate.parse draft.attestation.evaluatedAt).getD 0
    attestationReference := draft.attestation.attestationReference
    requestedAt := s.clock
    state := .requested }

/-- `createEnrollmentRequest`, with the catalogue's regime, the evaluator's evidence and the id. -/
def createEnrollmentRequest (submission : Submission) (regime : Option CustodyRegime)
    (evidence : AttestationEvidence) (id : String) : Answer Created × Store :=
  match presentBootstrapGrant platform s submission.toGrantScope submission.bootstrapToken with
  | (.refused refusal, s') => (.refused refusal, s')
  | (.failed, s') => (.failed, s')
  | (.done grant, _) =>
    if !platform.isRuntimeValidPublicKey submission.publicKey then
      (.refused .publicKeyNotRuntimeValid, s)
    else
      match platform.thumbprint submission.publicKey with
      | none => (.failed, s)
      | some thumbprint =>
        match resolveSubmittedCustodyRegime submission regime with
        | some refusal => (.refused refusal, s)
        | none =>
          match s.findEnrollmentRequestByGrant grant.organisationId grant.id with
          | some existing =>
            if !submissionMatchesRequest submission existing then
              (.refused .enrollmentRequestConflict, s)
            else
              (.done (.converged existing.id existing.requestFingerprint
                existing.attestationOutcome), s)
          | none =>
            let draft := draftRequest s submission grant thumbprint evidence id
            if !platform.requestParses draft then (.refused .malformedContractStructure, s)
            else
              let row := requestRow platform s submission draft
              (.done (.requested row.id row.requestFingerprint row.attestationOutcome),
                { s with requests := s.requests ++ [row] })

/-- What stands against an approval of a request, once its caller has authority at its site. -/
def checkApproval (request : EnrollmentRequestRow)
    (expectedRequestFingerprint : String) : Option ShieldRefusal :=
  if request.state ≠ .requested then
    some (if request.state = .approved then .alreadyApproved else .enrollmentStateInvalid)
  else
    match s.findBootstrapGrant request.organisationId request.bootstrapGrantId with
    | none => some .bootstrapGrantNotFound
    | some grant =>
      if grant.issuedByUserId = principal.userId then some .issuerMayNotApprove
      else if request.intendedUserId = principal.userId then some .intendedUserMayNotApprove
      else
        match platform.toContractRequest request with
        | none => some .malformedContractStructure
        | some contractRequest =>
          let fingerprint := platform.digests.request contractRequest
          if fingerprint ≠ expectedRequestFingerprint ∨
              fingerprint ≠ request.requestFingerprint then
            some .approvalFingerprintMismatch
          else if platform.semanticsDigest fingerprint request.custody request.custodyRegimeId ≠
              request.approvedSemanticsDigest then
            some .approvedSemanticsMismatch
          else if !canTransitionDeviceEnrollment .requested .approved then
            some .enrollmentStateInvalid
          else none

def approvalRow (request : EnrollmentRequestRow) (id : String) : EnrollmentApprovalRow :=
  { id
    organisationId := request.organisationId
    enrollmentRequestId := request.id
    approvedByUserId := principal.userId
    approvedRequestFingerprint := platform.digests.request request.contract
    approvedSiteId := request.siteId
    approvedIntendedUserId := request.intendedUserId
    approvedCustody := request.custody
    approvedCustodyRegimeId := request.custodyRegimeId
    approvedSemanticsDigest := platform.semanticsDigest
      (platform.digests.request request.contract) request.custody request.custodyRegimeId
    approvedAt := s.clock }

/-- `approveEnrollmentRequest`: one approval a request, or the insert fails. -/
def approveEnrollmentRequest (organisationId enrollmentRequestId
    expectedRequestFingerprint id : String) : Answer String × Store :=
  match s.findEnrollmentRequest organisationId enrollmentRequestId with
  | none => (.refused .enrollmentRequestNotFound, s)
  | some request =>
    if checkDeviceAuthority principal actionDeviceEnrollmentApprove organisationId request.siteId ≠
        none then
      (.refused .enrollmentRequestNotFound, s)
    else
      match checkApproval platform s principal request expectedRequestFingerprint with
      | some refusal => (.refused refusal, s)
      | none =>
        let (advanced, s') :=
          s.advanceEnrollmentState organisationId request.id .requested .approved
        if advanced ≠ 1 then (.refused .alreadyApproved, s)
        else if (s.findEnrollmentApproval organisationId request.id).isSome then (.failed, s)
        else
          let approval := approvalRow platform s principal request id
          (.done id, { s' with approvals := s.approvals ++ [approval] })

/-- `issuePossessionChallenge`: the draw is the row's id and the nonce. -/
def issuePossessionChallenge (organisationId enrollmentRequestId id nonce : String) :
    Answer PossessionChallengeRow × Store :=
  if principal.organisationId ≠ organisationId then (.refused .enrollmentRequestNotFound, s)
  else
    match s.findEnrollmentRequest organisationId enrollmentRequestId with
    | none => (.refused .enrollmentRequestNotFound, s)
    | some request =>
      if request.intendedUserId ≠ principal.userId then (.refused .enrollmentRequestNotFound, s)
      else if request.state ≠ .approved ∧ request.state ≠ .possessionProven then
        (.refused .enrollmentStateInvalid, s)
      else
        let challenge : PossessionChallengeRow :=
          ⟨id, organisationId, request.id, nonce, s.clock,
            s.clock + devicePossessionChallengeMaxAgeMs⟩
        (.done challenge, { s with challenges := s.challenges ++ [challenge] })

/-- The verdict on an answer to a challenge of the request. -/
def verificationRow (request : EnrollmentRequestRow) (contractRequest : EnrollmentRequest)
    (challenge : PossessionChallengeRow) (response : PossessionResponse) (id : String) :
    PossessionVerificationRow :=
  let fingerprint := platform.digests.request contractRequest
  let statement : PossessionStatementInput :=
    ⟨challenge.id, request.id, fingerprint, challenge.nonce, request.publicKeyThumbprint,
      serverSelectedSignatureProfile⟩
  { id
    organisationId := request.organisationId
    challengeId := challenge.id
    enrollmentRequestId := request.id
    enrollmentRequestFingerprint := fingerprint
    publicKeyThumbprint := request.publicKeyThumbprint
    possessionStatementFingerprint := platform.digests.possessionStatement statement
    signatureProfile := serverSelectedSignatureProfile
    verified := platform.verifySignature request.publicKey statement response.signature
      request.serverSelectedSignatureProfile response.claimedSignatureProfile
    verifiedAt := s.clock }

/-- `verifyPossession`, on the response the schema reads; it answers with the verdict it stored.  A
    challenge has one verdict, or the insert fails; a positive one advances the request, or nothing
    is stored. -/
def verifyPossession (organisationId enrollmentRequestId challengeId : String)
    (response : Option PossessionResponse) (id : String) :
    Answer PossessionVerificationRow × Store :=
  match response with
  | none => (.refused .malformedContractStructure, s)
  | some response =>
    match s.findEnrollmentRequest organisationId enrollmentRequestId with
    | none => (.refused .enrollmentRequestNotFound, s)
    | some request =>
      match s.findPossessionChallenge organisationId challengeId with
      | none => (.refused .possessionChallengeNotFound, s)
      | some challenge =>
        if challenge.enrollmentRequestId ≠ request.id then
          (.refused .possessionChallengeMisbound, s)
        else if response.challengeId ≠ challenge.id ∨ response.enrollmentRequestId ≠ request.id then
          (.refused .possessionChallengeMisbound, s)
        else
          match platform.toContractRequest request with
          | none => (.refused .malformedContractStructure, s)
          | some contractRequest =>
            let row := verificationRow platform s request contractRequest challenge response id
            if (s.findPossessionVerification organisationId challenge.id).isSome then (.failed, s)
            else
              let written := { s with verifications := s.verifications ++ [row] }
              if !row.verified then (.done row, written)
              else
                let (advanced, s') := written.advanceEnrollmentState organisationId request.id
                  .approved .possessionProven
                if advanced ≠ 1 then (.refused .enrollmentStateInvalid, s) else (.done row, s')

def lockCommitState (organisationId enrollmentRequestId challengeId : String) :
    Except ShieldRefusal LockedCommitState :=
  match s.findEnrollmentRequest organisationId enrollmentRequestId with
  | none => .error .enrollmentRequestNotFound
  | some request =>
    match s.findBootstrapGrant organisationId request.bootstrapGrantId with
    | none => .error .bootstrapGrantNotFound
    | some grant =>
      match s.findEnrollmentApproval organisationId request.id with
      | none => .error .approvalMissing
      | some approval =>
        match s.findPossessionChallenge organisationId challengeId with
        | none => .error .possessionChallengeNotFound
        | some challenge =>
          if challenge.enrollmentRequestId ≠ request.id then .error .possessionChallengeMisbound
          else
            match s.findPossessionVerification organisationId challenge.id with
            | none => .error .possessionVerificationNotFound
            | some verification =>
              match platform.toContractRequest request, grant.toContract, approval.toContract,
                challenge.toContract, verification.toContract with
              | some contractRequest, some contractGrant, some contractApproval,
                some contractChallenge, some contractVerification =>
                .ok ⟨request, approval, grant, contractRequest, contractGrant, contractApproval,
                  contractChallenge, contractVerification,
                  platform.digests.request contractRequest⟩
              | _, _, _, _, _ => .error .malformedContractStructure

/-- What the commit decides on the locked rows before it spends anything. -/
def prevalidate (locked : LockedCommitState) (surroundings : Surroundings) : Option ShieldRefusal :=
  if locked.grant.issuedByUserId = locked.approval.approvedByUserId then some .issuerMayNotApprove
  else if locked.request.intendedUserId = locked.approval.approvedByUserId then
    some .intendedUserMayNotApprove
  else if !platform.isRuntimeValidPublicKey locked.request.publicKey then
    some .publicKeyNotRuntimeValid
  else if platform.semanticsDigest locked.fingerprint locked.contractRequest.custody
      locked.request.custodyRegimeId ≠ locked.approval.approvedSemanticsDigest then
    some .approvedSemanticsMismatch
  else if locked.approval.approvedCustodyRegimeId ≠ locked.request.custodyRegimeId then
    some .approvedCustodyRegimeMismatch
  else if platform.semanticsDigest locked.approval.approvedRequestFingerprint
      locked.approval.approvedCustody locked.approval.approvedCustodyRegimeId ≠
        locked.approval.approvedSemanticsDigest then
    some .approvalRecordInconsistent
  else
    match locked.request.custodyRegimeId.bind
      fun _ => judgeRegime surroundings.regime locked.contractRequest.siteId with
    | some refusal => some refusal
    | none =>
      match surroundings.unresolved with
      | some refusal => some refusal
      | none =>
        -- `DeviceCustodyAssociationSchema`: a shared device names its regime, a personal one none
        if decide (locked.contractRequest.custody = .controlledShared) ≠
            locked.approval.approvedCustodyRegimeId.isSome then
          some .malformedContractStructure
        else none

/-- What the gate is handed. -/
def LockedCommitState.commitInput (locked : LockedCommitState) (principal : Principal)
    (surroundings : Surroundings) (now : Int) : CommitInput :=
  { request := locked.contractRequest
    grant := some locked.contractGrant
    approval := some locked.contractApproval
    challenge := some locked.contractChallenge
    possessionVerification := some locked.contractVerification
    serverSelectedSignatureProfile
    grantConsumption := surroundings.grantConsumption
    challengeConsumption := surroundings.challengeConsumption
    authenticatedUserId := some principal.userId
    now := toISOString now }

/-- `commitEnrollment`; it answers with what the gate decided. -/
def commitEnrollment
    (organisationId enrollmentRequestId challengeId : String) (surroundings : Surroundings) :
    Answer CommitDecision × Store :=
  match lockCommitState platform s organisationId enrollmentRequestId challengeId with
  | .error refusal => (.refused refusal, s)
  | .ok locked =>
    match prevalidate platform locked surroundings with
    | some refusal => (.refused refusal, s)
    | none =>
      match evaluateDeviceEnrollmentCommit JsDate.parse platform.digests
        (locked.commitInput principal surroundings s.clock) with
      | .error refusal => (.refused (.gate refusal), s)
      | .ok (.converge fingerprint reference) => (.done (.converge fingerprint reference), s)
      | .ok (.commit fingerprint) =>
        let (enrolled, s') := s.advanceEnrollmentState organisationId locked.request.id
          .possessionProven .enrolled
        if enrolled ≠ 1 then (.refused .enrollmentStateInvalid, s)
        else (.done (.commit fingerprint), s')

end Calls

/-! ## Steps -/

/-- The clock stays in the years a contract timestamp can write, with the longest window to come. -/
def horizon : Int := 253402300800000 - deviceEnrollmentBootstrapMaxAgeMs

inductive Label
  | tick (ms : Nat)
  | issueGrant (principal : Principal) (scope : GrantScope) (siteExists userExists : Bool)
      (id bootstrapToken : String)
  | revokeGrant (principal : Principal) (organisationId grantId : String)
  | present (scope : GrantScope) (bootstrapToken : String)
  | create (submission : Submission) (regime : Option CustodyRegime)
      (evidence : AttestationEvidence) (id : String)
  | approve (principal : Principal) (organisationId enrollmentRequestId
      expectedRequestFingerprint id : String)
  | issueChallenge (principal : Principal) (organisationId enrollmentRequestId id nonce : String)
  | verify (organisationId enrollmentRequestId challengeId : String)
      (response : Option PossessionResponse) (id : String)
  | commit (principal : Principal) (organisationId enrollmentRequestId challengeId : String)
      (surroundings : Surroundings)

section Steps

variable (platform : Platform)

/-- What a step draws: identifiers the database mints and no row has, of the form the schemas take;
    a token no grant has; a nonce of 32 bytes in base64url.  The users of the tenant have minted
    identifiers too. -/
def Store.mints (s : Store) : Label → Bool
  | .tick ms => s.clock + ms < horizon
  | .issueGrant _ _ _ _ id bootstrapToken =>
    !(s.grants.map (·.id)).contains id &&
      !(s.grants.map (·.tokenDigest)).contains (platform.tokenDigest bootstrapToken)
  | .create _ _ _ id => !(s.requests.map (·.id)).contains id
  | .approve principal _ _ _ id => isScopedId principal.userId && isScopedId id
  | .issueChallenge _ _ _ id nonce =>
    !(s.challenges.map (·.id)).contains id && isScopedId id && isNonce nonce
  | .revokeGrant .. | .present .. | .verify .. | .commit .. => true

def Store.after (s : Store) : Label → Store
  | .tick ms => { s with clock := s.clock + ms }
  | .issueGrant principal scope siteExists userExists id bootstrapToken =>
    (issueBootstrapGrant platform s principal scope siteExists userExists id bootstrapToken).2
  | .revokeGrant principal organisationId grantId =>
    (revokeBootstrapGrant s principal organisationId grantId).2
  | .present scope bootstrapToken => (presentBootstrapGrant platform s scope bootstrapToken).2
  | .create submission regime evidence id =>
    (createEnrollmentRequest platform s submission regime evidence id).2
  | .approve principal organisationId enrollmentRequestId expectedRequestFingerprint id =>
    (approveEnrollmentRequest platform s principal organisationId enrollmentRequestId
      expectedRequestFingerprint id).2
  | .issueChallenge principal organisationId enrollmentRequestId id nonce =>
    (issuePossessionChallenge s principal organisationId enrollmentRequestId id nonce).2
  | .verify organisationId enrollmentRequestId challengeId response id =>
    (verifyPossession platform s organisationId enrollmentRequestId challengeId response id).2
  | .commit principal organisationId enrollmentRequestId challengeId surroundings =>
    (commitEnrollment platform s principal organisationId enrollmentRequestId challengeId
      surroundings).2

def step (s : Store) (label : Label) : Option Store :=
  if s.mints platform label then some (s.after platform label) else none

end Steps

end Sentinel.EnrollmentCeremony
