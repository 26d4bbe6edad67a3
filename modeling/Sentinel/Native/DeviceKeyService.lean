import Sentinel.Native.DeviceKeyRotation
import Sentinel.Native.DeviceRequestProof
import Sentinel.Native.DeviceTrustService

/-! # The device key service

`DeviceKeyService` (`modules/shield/device-key.service.ts`) over the tables of the registry: a
rotation is requested, challenged, its new key's possession verified, and committed.  A call is a
worker that reads, and then runs one transaction, which holds the rows it decides on locked.  Beside
the rotations run the declarations of the trust service and the enrolments.  `δ` is the digest of a
replay key. -/

namespace Sentinel.DeviceKeys

open DeviceTrust (KeyStorage Trust)
open DeviceRegistry (DeviceRow DeviceKeyRow DeviceSiteScopeRow Principal SecurityEventEnvelope
  checkGlobalDeviceMutationAuthority)
open DeviceReplay (Consumptions ConsumptionRow Consumption)
open DeviceKeyRotation
open DeviceRequestProof (RequestProof StatementInput)

def serverSelectedSignatureProfile : String := "P256_ECDSA_SHA256"

def actionDeviceKeyRotate : String := "device.key.rotate"

/-- What the service takes from cryptography: digests of canonical statements, and the checks of
    the key importer. -/
structure Platform (δ : Type) where
  /-- `deriveP256PublicKeyThumbprint`, of a key in canonical form. -/
  thumbprint : String → Option String
  isRuntimeValidPublicKey : String → Bool
  requestFingerprint : RotationRequest → String
  possessionFingerprint : PossessionStatementInput → String
  verifyRequestProof : String → StatementInput → String → Bool
  verifyPossession : String → PossessionStatementInput → String → Bool
  /-- The digest of `deviceKeyRotationReplayKey`. -/
  replayDigest : ReplayIdentity → δ

/-! ## Tables

The rows of `devices` and `device_keys` that the trust service reads are `DeviceRegistry.Db`; the
columns only the key service reads stand beside them, under the key of the row. -/

structure DeviceColumns where
  deviceId : String
  sequenceNamespaceId : String

structure DeviceKeyColumns where
  id : String
  organisationId : String
  keyId : String
  publicKey : String
  publicKeyThumbprint : String
  signatureProfile : String
  registeredAt : Int

inductive RotationState
  | requested | challenged | rotated
deriving DecidableEq

structure RotationRequestRow extends RotationRequest where
  requestFingerprint : String
  state : RotationState
deriving DecidableEq

inductive KeySecurityEvent (δ : Type)
  | keyRotated (envelope : SecurityEventEnvelope) (rotationRequestId : String)
      (rotationRequestFingerprint : String) (source target : String × Nat)
      (newPublicKeyThumbprint : String) (newKeyStorage : KeyStorage) (signatureProfile : String)
  | replayConflict (envelope : SecurityEventEnvelope) (replayIdentityDigest : δ)
      (presentedStatementFingerprint : String) (outcome : RotationRefusal)

structure Db (δ : Type) where
  shield : DeviceRegistry.Db
  deviceColumns : List DeviceColumns
  deviceKeyColumns : List DeviceKeyColumns
  rotationRequests : List RotationRequestRow
  rotationChallenges : List RotationChallenge
  rotationVerifications : List PossessionVerification
  consumptions : Consumptions δ
  keyEvents : List (KeySecurityEvent δ)

namespace Db

variable {δ : Type}

/-! ## Reads -/

variable (db : Db δ)

/-- The columns of a device beside its row. -/
def columnsOf (device : DeviceRow) : Option DeviceColumns :=
  db.deviceColumns.find? fun columns => columns.deviceId = device.id

def keyColumnsOf (key : DeviceKeyRow) : Option DeviceKeyColumns :=
  db.deviceKeyColumns.find? fun columns =>
    columns.organisationId = key.organisationId ∧ columns.keyId = key.keyId

/-- `findDeviceKeyRowById`.  The column holds UUIDs: a text that is none matches no row. -/
def findDeviceKeyRowById (organisationId id : String) : Option DeviceKeyRow :=
  (db.deviceKeyColumns.find? fun columns =>
    columns.id = id ∧ columns.organisationId = organisationId).bind fun columns =>
      db.shield.findDeviceKeyByKeyId organisationId columns.keyId

/-- The where clause of the reads and updates of a rotation request. -/
def isRequest (organisationId id : String) (row : RotationRequestRow) : Bool :=
  row.rotationRequestId = id ∧ row.organisationId = organisationId

/-- `findRotationRequest` and `lockRotationRequest`. -/
def findRotationRequest (organisationId id : String) : Option RotationRequestRow :=
  db.rotationRequests.find? (isRequest organisationId id)

/-- `findRotationChallenge` and `lockRotationChallenge`. -/
def findRotationChallenge (organisationId id : String) : Option RotationChallenge :=
  db.rotationChallenges.find? fun row =>
    row.challengeId = id ∧ row.proposal.organisationId = organisationId

/-- `lockRotationVerification`. -/
def findRotationVerification (organisationId rotationChallengeId : String) :
    Option PossessionVerification :=
  db.rotationVerifications.find? fun row =>
    row.proposal.organisationId = organisationId ∧ row.rotationChallengeId = rotationChallengeId

/-! ## Writes

An insert is `none` where a unique index refuses the row. -/

/-- `createDeviceKey`, with `device_key_version_key` and `device_keys_one_current_key`. -/
def createDeviceKey (key : DeviceKeyRow) (columns : DeviceKeyColumns) : Option (Db δ) :=
  if db.deviceKeyColumns.any (·.id = columns.id) then none
  else if db.shield.deviceKeys.any fun old => old.organisationId = key.organisationId ∧
      old.deviceId = key.deviceId ∧ old.keyVersion = key.keyVersion then none
  else if db.shield.deviceKeys.any fun old => old.organisationId = key.organisationId ∧
      old.deviceId = key.deviceId ∧ old.status = .current ∧ key.status = .current then none
  else
    (db.shield.createDeviceKey key).map fun shield =>
      { db with shield, deviceKeyColumns := db.deviceKeyColumns ++ [columns] }

def createDevice (device : DeviceRow) (columns : DeviceColumns) : Option (Db δ) :=
  if h : ∀ old ∈ db.shield.devices, old.id ≠ device.id then
    some
      { db with
        shield :=
          { db.shield with
            devices := db.shield.devices ++ [device]
            devices_key := Table.nodup_map_concat db.shield.devices_key h }
        deviceColumns := db.deviceColumns ++ [columns] }
  else none

def createRotationRequest (row : RotationRequestRow) : Option (Db δ) :=
  if db.rotationRequests.any (·.rotationRequestId = row.rotationRequestId) then none
  else some { db with rotationRequests := db.rotationRequests ++ [row] }

/-- `setRotationRequestState`, fenced on the state the caller read. -/
def setRotationRequestState (organisationId id : String)
    (source target : RotationState) : Nat × Db δ :=
  let hit (row : RotationRequestRow) := isRequest organisationId id row && row.state = source
  (db.rotationRequests.countP hit,
    { db with
      rotationRequests := Table.rewrite hit (fun row => { row with state := target })
        db.rotationRequests })

def createRotationChallenge (row : RotationChallenge) : Option (Db δ) :=
  if db.rotationChallenges.any (·.challengeId = row.challengeId) then none
  else some { db with rotationChallenges := db.rotationChallenges ++ [row] }

/-- `createRotationVerification`, with `rotation_verification_challenge_key`. -/
def createRotationVerification (row : PossessionVerification) : Option (Db δ) :=
  if db.rotationVerifications.any fun old =>
      old.proposal.organisationId = row.proposal.organisationId ∧
        old.rotationChallengeId = row.rotationChallengeId then none
  else some { db with rotationVerifications := db.rotationVerifications ++ [row] }

end Db

/-! ## The request, the challenge, the verdict -/

inductive KeyRefusal
  | deviceNotFound | deviceHasNoCurrentKey | publicKeyNotRuntimeValid | malformedContractStructure
  | rotationRequestNotFound | rotationStateInvalid | rotationChallengeNotFound | challengeMisbound
  | possessionVerificationMissing | rotationOutcomeUnresolvable | staleRotation
  | contract (refusal : RotationRefusal)
deriving DecidableEq

structure RequestInput where
  organisationId : String
  deviceId : String
  newPublicKey : String
  newKeyStorage : KeyStorage
deriving DecidableEq

structure ChallengeInput where
  organisationId : String
  rotationRequestId : String
deriving DecidableEq

/-- `DeviceKeyRotationPossessionResponse`, parsed. -/
structure PossessionResponse where
  challengeId : String
  rotationRequestId : String
  claimedSignatureProfile : String
  signature : String
deriving DecidableEq

structure VerifyInput where
  organisationId : String
  rotationRequestId : String
  challengeId : String
  /-- `none` where the schema refuses the response. -/
  response : Option PossessionResponse
deriving DecidableEq

/-- The choices of the environment in one step: the database's clock, and the random values the
    server draws. -/
structure Env where
  now : Int := 0
  id : String := ""
  keyId : String := ""
  nonce : String := ""

section Ceremony

variable {δ : Type} (platform : Platform δ)

/-- The row `requestKeyRotation` inserts: the server names the key and its version. -/
def draftRequest (input : RequestInput) (device : DeviceRow) (key : DeviceKeyRow) (env : Env) :
    Option RotationRequest :=
  (platform.thumbprint input.newPublicKey).bind fun newPublicKeyThumbprint =>
    let request : RotationRequest :=
      { rotationRequestId := env.id
        organisationId := input.organisationId
        deviceId := device.id
        currentKeyId := key.keyId
        currentKeyVersion := key.keyVersion
        proposedKeyId := env.keyId
        proposedKeyVersion := key.keyVersion + 1
        newPublicKey := input.newPublicKey
        newPublicKeyThumbprint
        newKeyStorage := input.newKeyStorage
        serverResolvedSignatureProfile := serverSelectedSignatureProfile
        requestedAt := env.now }
    if requestParses platform.thumbprint request then some request else none

/-- The statement of possession of a request's new key. -/
def possessionStatement (row : RotationRequestRow) (challenge : RotationChallenge) :
    PossessionStatementInput :=
  { proposal := row.toRotationRequest.proposal row.requestFingerprint
    rotationChallengeId := challenge.challengeId
    nonce := challenge.nonce
    signatureProfile := serverSelectedSignatureProfile }

variable (principal : Principal) (locked : LockedRotationState) (input : CommitInput) (db : Db δ)
  (env : Env)

/-- The checks of `verifyRotationPossession`, and the signature's verdict. -/
def verifyResponse (input : VerifyInput) :
    Except KeyRefusal (RotationRequestRow × RotationChallenge × Bool) :=
  match input.response with
  | none => .error .malformedContractStructure
  | some response =>
    match db.findRotationRequest input.organisationId input.rotationRequestId with
    | none => .error .rotationRequestNotFound
    | some request =>
      match db.findRotationChallenge input.organisationId input.challengeId with
      | none => .error .rotationChallengeNotFound
      | some challenge =>
        if challenge.proposal.rotationRequestId ≠ request.rotationRequestId then
          .error .challengeMisbound
        else if response.challengeId ≠ challenge.challengeId ∨
            response.rotationRequestId ≠ request.rotationRequestId then
          .error .challengeMisbound
        else
          .ok (request, challenge,
            (OfflineAdmissibility.bindClaimedSignatureProfile response.claimedSignatureProfile
                request.serverResolvedSignatureProfile).isSome &&
              platform.verifyPossession request.newPublicKey (possessionStatement request challenge)
                response.signature)

/-- The row `verifyRotationPossession` inserts. -/
def verificationRow (request : RotationRequestRow) (challenge : RotationChallenge)
    (verified : Bool) (now : Int) : PossessionVerification :=
  { proposal := request.toRotationRequest.proposal request.requestFingerprint
    rotationChallengeId := challenge.challengeId
    signatureProfile := serverSelectedSignatureProfile
    canonicalStatementFingerprint :=
      platform.possessionFingerprint (possessionStatement request challenge)
    verified
    verifiedAt := now }

/-- The row `issueRotationChallenge` inserts. -/
def challengeRow (request : RotationRequestRow) (env : Env) : RotationChallenge :=
  { challengeId := env.id
    proposal := request.toRotationRequest.proposal request.requestFingerprint
    nonce := env.nonce
    issuedAt := env.now
    expiresAt := env.now + deviceKeyRotationChallengeMaxAgeMs }

/-- The transaction of `issueRotationChallenge`: the challenge and the state, or neither. -/
def issueTransaction (input : ChallengeInput) (request : RotationRequestRow) (env : Env)
    (db : Db δ) : Option (Db δ) :=
  (db.createRotationChallenge (challengeRow request env)).bind fun db =>
    let (advanced, db) := db.setRotationRequestState input.organisationId request.rotationRequestId
      request.state .challenged
    if advanced ≠ 1 then none else some db

/-! ## The commit -/

/-- A presented `DeviceRequestProof`, with its signature. -/
structure ContinuityProof where
  proof : RequestProof
  signature : String
deriving DecidableEq

structure CommitInput where
  organisationId : String
  rotationRequestId : String
  challengeId : String
  /-- `none` where the schema refuses the proof. -/
  continuityProof : Option ContinuityProof
  traceId : String
deriving DecidableEq

structure LockedRotationState where
  device : DeviceRow
  deviceColumns : DeviceColumns
  currentKey : DeviceKeyRow
  currentKeyColumns : DeviceKeyColumns
  request : RotationRequestRow
  challenge : RotationChallenge
  verification : PossessionVerification

/-- The fingerprint of the request, recomputed from its row. -/
def LockedRotationState.fingerprint : String :=
  platform.requestFingerprint locked.request.toRotationRequest

/-- The identity the ceremony is consumed under. -/
def LockedRotationState.digest : δ :=
  platform.replayDigest (replayIdentity locked.request.toRotationRequest locked.challenge)

/-- The device and its current key, as `lockRotationState` reads them. -/
def lockCurrentKey (organisationId deviceId : String) :
    Except KeyRefusal ((DeviceRow × DeviceColumns) × DeviceKeyRow × DeviceKeyColumns) :=
  match db.shield.findDevice organisationId deviceId with
  | none => .error .deviceNotFound
  | some device =>
    match db.columnsOf device with
    | none => .error .deviceNotFound
    | some deviceColumns =>
      match device.currentKeyId.bind (db.shield.findDeviceKeyByKeyId organisationId) with
      | none => .error .deviceHasNoCurrentKey
      | some currentKey =>
        match db.keyColumnsOf currentKey with
        | none => .error .deviceHasNoCurrentKey
        | some currentKeyColumns => .ok ((device, deviceColumns), currentKey, currentKeyColumns)

def lockRotationState (organisationId rotationRequestId challengeId : String) :
    Except KeyRefusal LockedRotationState :=
  match db.findRotationRequest organisationId rotationRequestId with
  | none => .error .rotationRequestNotFound
  | some request =>
    match db.findRotationChallenge organisationId challengeId with
    | none => .error .rotationChallengeNotFound
    | some challenge =>
      if challenge.proposal.rotationRequestId ≠ request.rotationRequestId then
        .error .challengeMisbound
      else
        match lockCurrentKey db organisationId request.deviceId with
        | .error refusal => .error refusal
        | .ok ((device, deviceColumns), currentKey, currentKeyColumns) =>
          match db.findRotationVerification organisationId challenge.challengeId with
          | none => .error .possessionVerificationMissing
          | some verification =>
            if !requestParses platform.thumbprint request.toRotationRequest ∨
                !challengeParses challenge ∨ !verificationParses verification then
              .error .malformedContractStructure
            else
              .ok { device, deviceColumns, currentKey, currentKeyColumns, request, challenge,
                    verification }

/-- `verifyContinuityProof`, against the registry's row of the current key. -/
def verifyContinuityProof (raw : Option ContinuityProof) (locked : LockedRotationState) :
    Option Continuity :=
  match raw with
  | none => none
  | some ⟨proof, signature⟩ =>
    if proof.purpose ≠ .deviceKeyRotation then none
    else if proof.organisationId ≠ locked.device.organisationId ∨
        proof.deviceId ≠ locked.device.id ∨ proof.keyId ≠ locked.currentKey.keyId ∨
        proof.keyVersion ≠ locked.currentKey.keyVersion then
      none
    else
      some
        { verified :=
            (OfflineAdmissibility.bindClaimedSignatureProfile proof.claimedSignatureProfile
                locked.currentKeyColumns.signatureProfile).isSome &&
              platform.verifyRequestProof locked.currentKeyColumns.publicKey
                (proof.statementInput serverSelectedSignatureProfile) signature
          purposePayloadDigest := proof.payloadDigest }

/-- `CommitKeyRotationOutcome`; `failed` is an error of the database that reaches the caller. -/
inductive CommitOutcome
  | rotated (deviceId sequenceNamespaceId : String) (source target : String × Nat)
  | converged (deviceId storedOutcomeRef : String) (target : String × Nat)
      (committedKeyLifecycleState : DeviceTrust.KeyLifecycleState)
  | refused (refusal : KeyRefusal)
  | failed
deriving DecidableEq

/-- How the transaction is rolled back. -/
inductive Abort
  | rollback (refusal : KeyRefusal)
  | failed

/-- `resolveCommittedRotation`: is the stored reference the key this rotation proposed?  The key's
    lifecycle state is not asked. -/
def resolveCommittedRotation (locked : LockedRotationState)
    (storedOutcomeRef : String) : Option DeviceKeyRow :=
  match db.findDeviceKeyRowById locked.device.organisationId storedOutcomeRef with
  | none => none
  | some key =>
    if key.deviceId ≠ locked.device.id then none
    else if key.keyId ≠ locked.request.proposedKeyId then none
    else if key.keyVersion ≠ locked.request.proposedKeyVersion then none
    else some key

/-- What the evaluator is asked about the locked rows. -/
def LockedRotationState.admissibility (continuity : Option Continuity)
    (consumption : Consumption) (now : Int) : AdmissibilityInput :=
  { request := locked.request.toRotationRequest
    challenge := locked.challenge
    possessionVerification := locked.verification
    continuity
    newKeyRuntimeValid := platform.isRuntimeValidPublicKey locked.request.newPublicKey
    registered :=
      { organisationId := locked.device.organisationId
        deviceId := locked.device.id
        currentKeyId := locked.currentKey.keyId
        currentKeyVersion := locked.currentKey.keyVersion
        currentKeyStatus := locked.currentKey.status
        currentKeyRevoked := locked.currentKey.revokedAt.isSome
        deviceRevoked := locked.device.revokedAt.isSome || locked.device.trust = .compromised
        serverResolvedSignatureProfile := serverSelectedSignatureProfile }
    consumption
    now }

def LockedRotationState.newKey (organisationId : String) : DeviceKeyRow :=
  { organisationId
    deviceId := locked.device.id
    keyId := locked.request.proposedKeyId
    keyVersion := locked.request.proposedKeyVersion
    keyStorage := locked.request.newKeyStorage
    status := .current
    rotatedAt := none
    revokedAt := none
    revocationDisposition := none }

def LockedRotationState.newKeyColumns (organisationId : String) (env : Env) : DeviceKeyColumns :=
  { id := env.id
    organisationId
    keyId := locked.request.proposedKeyId
    publicKey := locked.request.newPublicKey
    publicKeyThumbprint := locked.request.newPublicKeyThumbprint
    signatureProfile := serverSelectedSignatureProfile
    registeredAt := env.now }

def LockedRotationState.rotatedEvent (principal : Principal)
    (input : CommitInput) (now : Int) : KeySecurityEvent δ :=
  .keyRotated
    { organisationId := input.organisationId
      deviceId := locked.device.id
      actorUserId := some principal.userId
      occurredAt := now
      traceId := input.traceId }
    locked.request.rotationRequestId (locked.fingerprint platform)
    (locked.currentKey.keyId, locked.currentKey.keyVersion)
    (locked.request.proposedKeyId, locked.request.proposedKeyVersion)
    locked.request.newPublicKeyThumbprint locked.request.newKeyStorage
    serverSelectedSignatureProfile

/-- The effect of a rotation: the old key leaves, the new one comes, the pointer and the state of
    the request advance, each fenced, and all or none. -/
def rotateTransaction (locked : LockedRotationState) (db : Db δ) : Except Abort (Db δ) :=
  let (superseded, shield) :=
    db.shield.markDeviceKeyRotated input.organisationId locked.currentKey.keyId env.now
  if superseded ≠ 1 then .error (.rollback .staleRotation)
  else
    match { db with shield }.createDeviceKey (locked.newKey input.organisationId)
      (locked.newKeyColumns input.organisationId env) with
    | none => .error .failed
    | some db =>
      let (advanced, shield) := db.shield.advanceDeviceCurrentKey input.organisationId
        locked.device.id (locked.currentKey.keyId, locked.currentKey.keyVersion)
        (locked.request.proposedKeyId, locked.request.proposedKeyVersion)
      if advanced ≠ 1 then .error (.rollback .staleRotation)
      else
        let (stateAdvanced, db) := { db with shield }.setRotationRequestState input.organisationId
          locked.request.rotationRequestId locked.request.state .rotated
        if stateAdvanced ≠ 1 then .error (.rollback .rotationStateInvalid)
        else
          .ok { db with
                keyEvents := db.keyEvents ++ [locked.rotatedEvent platform principal input env.now] }

/-- The outcome reference an identical ceremony has left behind. -/
def storedRotation [DecidableEq δ] (organisationId : String) (digest : δ)
    (fingerprint : String) : Option String :=
  (db.consumptions.peek organisationId digest).bind fun row =>
    if row.statementFingerprint = fingerprint then row.storedOutcomeRef else none

/-- The part of the transaction from the first consumption on: every refusal is a rollback. -/
def rotateOnce [DecidableEq δ]
    (locked : LockedRotationState) (db : Db δ) : Except Abort (CommitOutcome × Db δ) :=
  let (consumptions, consumption) := db.consumptions.consume
    { organisationId := input.organisationId
      replayIdentityDigest := locked.digest platform
      statementFingerprint := locked.fingerprint platform
      storedOutcomeRef := some env.id }
  match evaluateDeviceKeyRotation platform.requestFingerprint platform.possessionFingerprint
    (locked.admissibility platform (verifyContinuityProof platform input.continuityProof locked)
      consumption env.now) with
  | .error refusal => .error (.rollback (.contract refusal))
  | .ok (.converge _) => .error (.rollback .rotationOutcomeUnresolvable)
  | .ok (.rotate _ _) =>
    (rotateTransaction platform principal input env locked { db with consumptions }).map fun db =>
      (.rotated locked.device.id locked.deviceColumns.sequenceNamespaceId
        (locked.currentKey.keyId, locked.currentKey.keyVersion)
        (locked.request.proposedKeyId, locked.request.proposedKeyVersion), db)

/-- The refusals that leave a record in the audit trail. -/
def isReplayConflict : RotationRefusal → Bool
  | .rotationReusedWithChangedSemantics => true
  | .rotationConsumptionInconsistent => true
  | _ => false

/-- The record of a replay conflict, written after the rollback. -/
def recordConflict (locked : LockedRotationState) (refusal : KeyRefusal) (db : Db δ) : Db δ :=
  match refusal with
  | .contract refusal =>
    if isReplayConflict refusal then
      { db with
        keyEvents := db.keyEvents ++
          [.replayConflict
            { organisationId := input.organisationId
              deviceId := locked.device.id
              actorUserId := some principal.userId
              occurredAt := env.now
              traceId := input.traceId }
            (locked.digest platform) (locked.fingerprint platform) refusal] }
    else db
  | _ => db

def commitKeyRotation [DecidableEq δ] (db : Db δ) : CommitOutcome × Db δ :=
  match lockRotationState platform db input.organisationId input.rotationRequestId
    input.challengeId with
  | .error refusal => (.refused refusal, db)
  | .ok locked =>
    if !checkGlobalDeviceMutationAuthority principal actionDeviceKeyRotate input.organisationId
        (db.shield.listDeviceSiteIds input.organisationId locked.device.id) then
      (.refused .rotationRequestNotFound, db)
    else
      match storedRotation db input.organisationId (locked.digest platform)
        (locked.fingerprint platform) with
      | some storedOutcomeRef =>
        -- a ceremony that has been spent is read back, before anything is judged
        match resolveCommittedRotation db locked storedOutcomeRef with
        | none => (.refused .rotationOutcomeUnresolvable, db)
        | some key =>
          (.converged locked.device.id storedOutcomeRef (key.keyId, key.keyVersion) key.status, db)
      | none =>
        match rotateOnce platform principal input env locked db with
        | .ok result => result
        | .error (.rollback refusal) =>
          (.refused refusal, recordConflict platform principal input env locked refusal db)
        | .error .failed => (.failed, db)

end Ceremony

/-! ## Calls in progress -/

/-- Where a call of the key service stands. -/
inductive Phase
  | requestStart (principal : Principal) (input : RequestInput)
  | requestKey (input : RequestInput) (device : DeviceRow)
  | requestInsert (input : RequestInput) (device : DeviceRow) (key : DeviceKeyRow)
  | issueStart (principal : Principal) (input : ChallengeInput)
  | issueInsert (input : ChallengeInput) (request : RotationRequestRow)
  | verifyStart (input : VerifyInput)
  | verifyInsert (request : RotationRequestRow) (challenge : RotationChallenge) (verified : Bool)
  | commitStart (principal : Principal) (input : CommitInput)
  /-- A call that has returned, or failed. -/
  | done (refusal : Option KeyRefusal)
  | committed (input : CommitInput) (outcome : CommitOutcome)
deriving DecidableEq

variable {δ : Type} [DecidableEq δ]

/-- The next step of a call; `none` when it has returned. -/
def Phase.advance (platform : Platform δ) (db : Db δ) (env : Env) : Phase → Option (Db δ × Phase)
  | .requestStart principal input =>
    match db.shield.findDevice input.organisationId input.deviceId with
    | none => some (db, .done (some .deviceNotFound))
    | some device =>
      if !checkGlobalDeviceMutationAuthority principal actionDeviceKeyRotate input.organisationId
          (db.shield.listDeviceSiteIds input.organisationId device.id) then
        some (db, .done (some .deviceNotFound))
      else some (db, .requestKey input device)
  | .requestKey input device =>
    match db.shield.currentKey device with
    | none => some (db, .done (some .deviceHasNoCurrentKey))
    | some key =>
      if !platform.isRuntimeValidPublicKey input.newPublicKey then
        some (db, .done (some .publicKeyNotRuntimeValid))
      else some (db, .requestInsert input device key)
  | .requestInsert input device key =>
    match draftRequest platform input device key env with
    | none => some (db, .done (some .malformedContractStructure))
    | some request =>
      let row : RotationRequestRow :=
        { toRotationRequest := request
          requestFingerprint := platform.requestFingerprint request
          state := .requested }
      some ((db.createRotationRequest row).getD db, .done none)
  | .issueStart principal input =>
    match db.findRotationRequest input.organisationId input.rotationRequestId with
    | none => some (db, .done (some .rotationRequestNotFound))
    | some request =>
      if !checkGlobalDeviceMutationAuthority principal actionDeviceKeyRotate input.organisationId
          (db.shield.listDeviceSiteIds input.organisationId request.deviceId) then
        some (db, .done (some .rotationRequestNotFound))
      else if request.state = .rotated then some (db, .done (some .rotationStateInvalid))
      else some (db, .issueInsert input request)
  | .issueInsert input request =>
    match issueTransaction input request env db with
    | none => some (db, .done (some .rotationStateInvalid))
    | some db => some (db, .done none)
  | .verifyStart input =>
    match verifyResponse platform db input with
    | .error refusal => some (db, .done (some refusal))
    | .ok (request, challenge, verified) => some (db, .verifyInsert request challenge verified)
  | .verifyInsert request challenge verified =>
    let row := verificationRow platform request challenge verified env.now
    some ((db.createRotationVerification row).getD db, .done none)
  | .commitStart principal input =>
    let (outcome, db) := commitKeyRotation platform principal input env db
    some (db, .committed input outcome)
  | .done _ | .committed .. => none

/-! ## The system -/

structure State (δ : Type) where
  db : Db δ
  trust : List DeviceRegistry.Worker
  ceremonies : List Phase

/-- An empty registry. -/
def State.init : State δ where
  db :=
    { shield :=
        { devices := []
          deviceKeys := []
          deviceSiteScopes := []
          attestationObservations := []
          trustTransitions := []
          securityEvents := []
          devices_key := List.nodup_nil
          deviceKeys_key := Table.nodup_nil_pair }
      deviceColumns := []
      deviceKeyColumns := []
      rotationRequests := []
      rotationChallenges := []
      rotationVerifications := []
      consumptions := Consumptions.empty
      keyEvents := [] }
  trust := []
  ceremonies := []

inductive TrustCall
  | recordAttestationObservation (input : DeviceRegistry.AttestationInput)
  | changeDeviceTrust (principal : Principal) (input : DeviceRegistry.ChangeInput)
  | declareDisposition (principal : Principal) (input : DeviceRegistry.DispositionInput)

def TrustCall.worker : TrustCall → DeviceRegistry.Worker
  | recordAttestationObservation input => .observe input
  | changeDeviceTrust principal input => .change principal input
  | declareDisposition principal input => .declare principal input

inductive KeyCall
  | requestKeyRotation (principal : Principal) (input : RequestInput)
  | issueRotationChallenge (principal : Principal) (input : ChallengeInput)
  | verifyRotationPossession (input : VerifyInput)
  | commitKeyRotation (principal : Principal) (input : CommitInput)

def KeyCall.phase : KeyCall → Phase
  | requestKeyRotation principal input => .requestStart principal input
  | issueRotationChallenge principal input => .issueStart principal input
  | verifyRotationPossession input => .verifyStart input
  | commitKeyRotation principal input => .commitStart principal input

/-- What an enrolment writes to the device and the key table: a device and its first key. -/
structure Enrolment where
  organisationId : String
  deviceId : String
  sequenceNamespaceId : String
  trust : Trust
  keyRowId : String
  keyId : String
  publicKey : String
  publicKeyThumbprint : String
  keyStorage : KeyStorage
  registeredAt : Int

def Enrolment.device (enrolment : Enrolment) : DeviceRow :=
  { id := enrolment.deviceId
    organisationId := enrolment.organisationId
    trust := enrolment.trust
    revocationDisposition := none
    revokedAt := none
    currentKeyId := some enrolment.keyId
    currentKeyVersion := some 1 }

def Enrolment.key (enrolment : Enrolment) : DeviceKeyRow :=
  { organisationId := enrolment.organisationId
    deviceId := enrolment.deviceId
    keyId := enrolment.keyId
    keyVersion := 1
    keyStorage := enrolment.keyStorage
    status := .current
    rotatedAt := none
    revokedAt := none
    revocationDisposition := none }

def Enrolment.keyColumns (enrolment : Enrolment) : DeviceKeyColumns :=
  { id := enrolment.keyRowId
    organisationId := enrolment.organisationId
    keyId := enrolment.keyId
    publicKey := enrolment.publicKey
    publicKeyThumbprint := enrolment.publicKeyThumbprint
    signatureProfile := serverSelectedSignatureProfile
    registeredAt := enrolment.registeredAt }

/-- The device and the key, or neither. -/
def Enrolment.write (enrolment : Enrolment) (db : Db δ) : Option (Db δ) :=
  (db.createDevice enrolment.device
    { deviceId := enrolment.deviceId
      sequenceNamespaceId := enrolment.sequenceNamespaceId }).bind fun db =>
    db.createDeviceKey enrolment.key enrolment.keyColumns

inductive Label (δ : Type)
  | enrol (enrolment : Enrolment)
  | trustCall (call : TrustCall)
  | trustAdvance (worker : Nat) (env : DeviceRegistry.Env)
  | keyCall (call : KeyCall)
  | keyAdvance (ceremony : Nat) (env : Env)
  /-- The tables beside the devices and their keys change: the sites a device is in use at, the
      observations, and the recorded transitions, of which an enrolment writes the first. -/
  | surround (deviceSiteScopes : List DeviceSiteScopeRow)
      (attestationObservations : List DeviceRegistry.AttestationObservationRow)
      (trustTransitions : List DeviceRegistry.TrustTransitionRow)
  /-- Another ceremony consumes its identity. -/
  | consume (row : ConsumptionRow δ)

def step (platform : Platform δ) (s : State δ) : Label δ → Option (State δ)
  | .enrol enrolment => (enrolment.write s.db).map fun db => { s with db }
  | .trustCall call => some { s with trust := s.trust ++ [call.worker] }
  | .trustAdvance i env => do
    let worker ← s.trust[i]?
    let (shield, worker', _) ← worker.advance s.db.shield env
    some { s with db := { s.db with shield }, trust := s.trust.set i worker' }
  | .keyCall call => some { s with ceremonies := s.ceremonies ++ [call.phase] }
  | .keyAdvance i env => do
    let phase ← s.ceremonies[i]?
    let (db, phase') ← phase.advance platform s.db env
    some { s with db, ceremonies := s.ceremonies.set i phase' }
  | .surround deviceSiteScopes attestationObservations trustTransitions =>
    some { s with
           db := { s.db with
                   shield := { s.db.shield with
                     deviceSiteScopes, attestationObservations, trustTransitions } } }
  | .consume row =>
    some { s with db := { s.db with consumptions := (s.db.consumptions.consume row).1 } }

end Sentinel.DeviceKeys
