import Sentinel.ForStd.Transition
import Sentinel.Native.DeviceRequestProof

/-! # The device gateway

`DeviceGatewayService.execute` (`modules/device-gateway/device-gateway.service.ts`):
a preflight that commits nothing, then one transaction that locks the context, the device and its
key, judges the proof again, claims its one-shot identity and has the domain cause the effect.  What
the domain does in that transaction, and whether it finds evidence of an effect, is chosen by the
run. -/

namespace Sentinel.DeviceGateway

open DeviceTrust (Trust)
open DeviceRegistry (Db DeviceRow DeviceKeyRow)
open DeviceReplay DeviceRequestProof

/-! ## Operations -/

inductive OperationKind
  | fieldStateUpdate | assignmentAccept | assignmentDecline | incidentFieldMessageAcknowledge
  | deviceAction | offlineQueueSubmit
deriving DecidableEq

def OperationKind.text : OperationKind → String
  | fieldStateUpdate => "FIELD_STATE_UPDATE"
  | assignmentAccept => "ASSIGNMENT_ACCEPT"
  | assignmentDecline => "ASSIGNMENT_DECLINE"
  | incidentFieldMessageAcknowledge => "INCIDENT_FIELD_MESSAGE_ACKNOWLEDGE"
  | deviceAction => "DEVICE_ACTION"
  | offlineQueueSubmit => "OFFLINE_QUEUE_SUBMIT"

/-- `DEVICE_GATEWAY_TARGET_TYPE_FOR_KIND`. -/
def targetTypeForKind : OperationKind → String
  | .fieldStateUpdate => "FIELD_OPERATIVE_STATE"
  | .assignmentAccept => "FIELD_ASSIGNMENT"
  | .assignmentDecline => "FIELD_ASSIGNMENT"
  | .incidentFieldMessageAcknowledge => "INCIDENT_FIELD_MESSAGE"
  | .deviceAction => "DEVICE_ACTION_STATEMENT"
  | .offlineQueueSubmit => "FIELD_OFFLINE_OPERATION"

/-- `DEVICE_GATEWAY_PURPOSE_FOR_KIND`. -/
def purposeForKind : OperationKind → Purpose
  | .fieldStateUpdate => .fieldOperation
  | .assignmentAccept => .fieldOperation
  | .assignmentDecline => .fieldOperation
  | .incidentFieldMessageAcknowledge => .fieldOperation
  | .deviceAction => .whisperDeviceAction
  | .offlineQueueSubmit => .offlineSync

def permittedTrustFor (kind : OperationKind) : List Trust :=
  devicePurposePermittedTrust (purposeForKind kind)

/-- `DeviceGatewayRefusal`, those of an operation. -/
inductive GatewayRefusal
  | envelopeMalformed | proofMalformed | operationKindConflict | contextNotUsable
  | deviceNotUsable | registryKeyUnresolvable | actorNotUsable | siteNotUsable | proofRefused
  | principalsRefused | replayConflict | duplicateUnresolvable | domainEffectNotAuthoritative
  | domainEffectRefused | proofOrganisationMismatch | sessionActorMismatch

/-- `contract_refusal`: the verdict of a frozen evaluator, or of the store. -/
inductive ContractRefusal
  | proof (refusal : ProofRefusal)
  | principals (refusal : PrincipalRefusal)

structure Refusal where
  refusal : GatewayRefusal
  contractRefusal : Option ContractRefusal := none

/-- `RequestBodySchema`, parsed; a payload is text the schema of its kind reads. -/
structure RequestBody where
  payload : Option String
  operationKind : Option String
  targetType : Option String
  targetId : Option String

structure EnvelopeIdentity where
  organisationId : String
  siteId : String
  actorUserId : String
  deviceId : String
  targetId : String

structure OperationEnvelope where
  operationKind : OperationKind
  organisationId : String
  siteId : String
  actorUserId : String
  deviceId : String
  targetType : String
  targetId : String
  semanticPayload : String

structure DomainIdempotencyInput where
  organisationId : String
  contextId : String
  actorUserId : String
  deviceId : String
  keyId : String
  keyVersion : Nat
  operationKind : OperationKind
  targetType : String
  targetId : String
  deviceNonce : String
  payloadDigest : String

/-- What the gateway takes from parsers and from cryptography. -/
structure Platform where
  parseInstant : String → Option Int
  /-- `deviceRequestProofFingerprint`. -/
  fingerprint : StatementInput → String
  /-- The payload schema of a kind. -/
  parsePayload : OperationKind → String → Option String
  /-- `deviceGatewayEnvelopeDigest`; a payload that has no canonical form throws. -/
  envelopeDigest : OperationEnvelope → Option String
  /-- `deviceGatewayDomainIdempotencyKey`. -/
  domainIdempotencyKey : DomainIdempotencyInput → String

/-! ## Tables -/

/-- `IssuedContextRow`, with its site bindings. -/
structure ContextRow where
  id : String
  organisationId : String
  actorUserId : String
  deviceId : String
  keyId : String
  keyVersion : Nat
  issuedAt : Int
  expiresAt : Int
  closedAt : Option Int
  establishmentId : String
  siteIds : List String
deriving DecidableEq

/-- The one-shot identities of the store: those of request proofs, and those of other ceremonies,
    whose keys carry other domains. -/
inductive ReplayKey
  | requestProof (identity : ReplayIdentity)
  | other (key : String)
deriving DecidableEq

/-- `findContext`, and the read of `lockContext`. -/
def findContext (contexts : List ContextRow) (organisationId contextId : String) :
    Option ContextRow :=
  contexts.find? fun row => row.id = contextId ∧ row.organisationId = organisationId

/-- The profile of a record: the one that the record's schema admits. -/
def registeredSignatureProfile : String := "P256_ECDSA_SHA256"

/-- `DeviceRegistryKeyRecordSchema`: the status and the instants tell one story. -/
def keyRecordParses (key : DeviceKeyRow) : Bool :=
  !(key.status = .current ∧ (key.rotatedAt ≠ none ∨ key.revokedAt ≠ none)) ∧
    !(key.status = .rotated ∧ key.rotatedAt = none) ∧
    !((key.status = .revoked ∨ key.status = .compromised) ∧ key.revokedAt = none) ∧
    !(key.status ≠ .revoked ∧ key.status ≠ .compromised ∧ key.revocationDisposition ≠ none)

def resolveRegistryKeyRecord (db : Db) (organisationId keyId : String) : Option DeviceKeyRow :=
  match db.findDeviceKeyByKeyId organisationId keyId with
  | none => none
  | some key => if keyRecordParses key then some key else none

/-! ## The facts -/

/-- `resolveFacts`, resolved. -/
structure Facts where
  context : DeviceContext
  registered : RegistryFacts
  credentialIntact : Bool
  deviceSiteAuthorityGranted : Bool

/-- The context as the evaluator takes it. -/
def ContextRow.deviceContext (row : ContextRow) : DeviceContext :=
  { contextId := row.id
    organisationId := row.organisationId
    actorUserId := row.actorUserId
    deviceId := row.deviceId
    authorisedSiteIds := row.siteIds
    keyId := row.keyId
    keyVersion := row.keyVersion
    issuedAt := row.issuedAt
    expiresAt := row.expiresAt }

def credentialAdmitsNewOperations (db : Db) (device : DeviceRow) : Bool :=
  !deviceLevelWithdrawn device ∧
    !keyLevelWithdrawn (device.currentKeyId.bind (db.findDeviceKeyByKeyId device.organisationId))

/-- `resolveFacts`: the device and its current key from the registry, the actor from the tables of
    users and roles. -/
def resolveFacts (db : Db) (row : ContextRow) (proof : RequestProof) (actor : Option ActorFacts)
    (now : Int) : Except GatewayRefusal Facts :=
  match db.findDevice row.organisationId row.deviceId with
  | none => .error .deviceNotUsable
  | some device =>
    match device.currentKeyId with
    | none => .error .registryKeyUnresolvable
    | some currentKeyId =>
      match resolveRegistryKeyRecord db row.organisationId currentKeyId with
      | none => .error .registryKeyUnresolvable
      | some key =>
        match actor with
        | none => .error .actorNotUsable
        | some actor =>
          if row.siteIds = [] then .error .contextNotUsable
          else
            let credentialIntact := credentialAdmitsNewOperations db device
            .ok
              { context := row.deviceContext
                registered :=
                  { organisationId := key.organisationId
                    deviceId := key.deviceId
                    keyId := key.keyId
                    keyVersion := key.keyVersion
                    signatureProfile := registeredSignatureProfile
                    trust := effectiveDeviceTrust device.trust
                      (DeviceRegistry.effectiveAttestationStanding db.attestationObservations
                        row.organisationId device.id now)
                    revoked := !credentialIntact
                    actor }
                credentialIntact
                deviceSiteAuthorityGranted :=
                  (db.listDeviceSiteIds row.organisationId device.id).contains proof.siteId }

section Gateway

variable (platform : Platform)

/-- `parseOperationEnvelope`: the envelope and its digest. -/
def parseOperationEnvelope (kind : OperationKind) (identity : EnvelopeIdentity)
    (body : Option RequestBody) : Except GatewayRefusal (OperationEnvelope × String) :=
  match body with
  | none => .error .envelopeMalformed
  | some body =>
    let targetType := targetTypeForKind kind
    if body.operationKind.any (· ≠ kind.text) then .error .operationKindConflict
    else if body.targetType.any (· ≠ targetType) then .error .operationKindConflict
    else if body.targetId.any (· ≠ identity.targetId) then .error .operationKindConflict
    else
      match platform.parsePayload kind (body.payload.getD "{}") with
      | none => .error .envelopeMalformed
      | some semanticPayload =>
        let envelope : OperationEnvelope :=
          { operationKind := kind
            organisationId := identity.organisationId
            siteId := identity.siteId
            actorUserId := identity.actorUserId
            deviceId := identity.deviceId
            targetType
            targetId := identity.targetId
            semanticPayload }
        match platform.envelopeDigest envelope with
        | none => .error .envelopeMalformed
        | some digest => .ok (envelope, digest)

/-! ## The judgement -/

/-- What `judge` is asked, beside the facts. -/
structure Judged where
  kind : OperationKind
  proof : RequestProof
  now : Int
  expectedPayloadDigest : String
  verified : Bool
  sessionAuthenticated : Bool
  fingerprint : String

/-- `judge`: the two evaluators, with the authority of the actor between them. -/
def judge (input : Judged) (facts : Facts) (stored : Option (ConsumptionRow ReplayKey)) :
    Except Refusal Effect :=
  let decision := evaluateDeviceRequestProof platform.parseInstant platform.fingerprint
    { context := facts.context
      proof := input.proof
      now := input.now
      expectedPayloadDigest := input.expectedPayloadDigest
      registered := facts.registered
      verified := input.verified
      expectedPurpose := purposeForKind input.kind
      consumption :=
        ⟨input.proof.replayIdentity, input.fingerprint, classify input.fingerprint stored⟩ }
  match decision with
  | .error refusal =>
    .error
      { refusal :=
          if refusal = .nonceReusedWithChangedSemantics then .replayConflict else .proofRefused
        contractRefusal := some (.proof refusal) }
  | .ok effect =>
    if !facts.registered.actor.holdsRequiredCapability then .error { refusal := .actorNotUsable }
    else
      let admission := evaluateDeviceOperationPrincipals
        { userAuthenticated := input.sessionAuthenticated
          deviceAuthenticated := input.verified && facts.credentialIntact
          deviceTrust := facts.registered.trust
          requiredTrust := permittedTrustFor input.kind
          siteAuthorityGranted :=
            facts.registered.actor.authorisedSiteIds.contains input.proof.siteId &&
              facts.deviceSiteAuthorityGranted
          policySatisfied := true }
      match admission with
      | .error refusal =>
        .error { refusal := .principalsRefused, contractRefusal := some (.principals refusal) }
      | .ok () => .ok effect

/-! ## The preflight -/

/-- The session of a request. -/
structure Principal where
  organisationId : String
  userId : String

def sessionAuthenticatedBy (principal : Principal) : Bool :=
  principal.organisationId.length > 0 ∧ principal.userId.length > 0

/-- A presentation: a signed operation on a route. -/
structure Request where
  principal : Principal
  kind : OperationKind
  proof : Option RequestProof
  /-- `RequestBodySchema.safeParse`. -/
  body : Option RequestBody
  targetId : Option String

/-- What the reads of one phase answer beside the gateway's own tables: the registry, the actor
    for the action of the kind, the clock, and the verifier's verdict on the signature. -/
structure Reading where
  db : Db
  actor : Option ActorFacts
  now : Int
  verified : Bool

/-- `GatewayAuthenticatedRequest`. -/
structure Prepared where
  kind : OperationKind
  proof : RequestProof
  contextRow : ContextRow
  sessionAuthenticated : Bool
  envelope : OperationEnvelope
  digest : String
  verified : Bool
  fingerprint : String

def resolveProvenContext (contexts : List ContextRow) (principal : Principal)
    (proof : Option RequestProof) : Except GatewayRefusal (RequestProof × ContextRow) :=
  match proof with
  | none => .error .proofMalformed
  | some proof =>
    match findContext contexts principal.organisationId proof.contextId with
    | none => .error .contextNotUsable
    | some row =>
      if proof.organisationId ≠ row.organisationId then .error .proofOrganisationMismatch
      else if principal.userId ≠ row.actorUserId then .error .sessionActorMismatch
      else .ok (proof, row)

/-- What the store holds for the identity of a proof. -/
def storedFor (consumptions : Consumptions ReplayKey) (organisationId : String)
    (proof : RequestProof) : Option (ConsumptionRow ReplayKey) :=
  consumptions.peek organisationId (.requestProof proof.replayIdentity)

/-- What `judge` is asked about a prepared request. -/
def Prepared.judged (prepared : Prepared) (now : Int) : Judged :=
  { kind := prepared.kind
    proof := prepared.proof
    now
    expectedPayloadDigest := prepared.digest
    verified := prepared.verified
    sessionAuthenticated := prepared.sessionAuthenticated
    fingerprint := prepared.fingerprint }

/-- `authenticateRequest`, which commits nothing. -/
def authenticateRequest (contexts : List ContextRow) (consumptions : Consumptions ReplayKey)
    (request : Request) (reading : Reading) : Except Refusal Prepared :=
  match resolveProvenContext contexts request.principal request.proof with
  | .error refusal => .error { refusal }
  | .ok (proof, contextRow) =>
    let identity : EnvelopeIdentity :=
      { organisationId := contextRow.organisationId
        siteId := proof.siteId
        actorUserId := contextRow.actorUserId
        deviceId := contextRow.deviceId
        targetId := request.targetId.getD contextRow.actorUserId }
    match parseOperationEnvelope platform request.kind identity request.body with
    | .error refusal => .error { refusal }
    | .ok (envelope, digest) =>
      match resolveFacts reading.db contextRow proof reading.actor reading.now with
      | .error refusal => .error { refusal }
      | .ok facts =>
        let prepared : Prepared :=
          { kind := request.kind
            proof, contextRow, envelope, digest
            sessionAuthenticated := sessionAuthenticatedBy request.principal
            verified := reading.verified
            fingerprint := platform.fingerprint
              (proof.statementInput facts.registered.signatureProfile) }
        (judge platform (prepared.judged reading.now) facts
          (storedFor consumptions contextRow.organisationId proof)).map fun _ => prepared

/-! ## The effect transaction -/

/-- A request inside its transaction. -/
structure Claim where
  prepared : Prepared
  domainIdempotencyKey : String

variable (s : State) (claim : Claim)

def Claim.organisationId : String := claim.prepared.contextRow.organisationId

/-- The one-shot identity of the proof. -/
def Claim.identity : ReplayIdentity := claim.prepared.proof.replayIdentity

def Claim.consumptionRow : ConsumptionRow ReplayKey :=
  { organisationId := claim.organisationId
    replayIdentityDigest := .requestProof claim.identity
    statementFingerprint := claim.prepared.fingerprint
    storedOutcomeRef := some claim.domainIdempotencyKey }

/-- What the transaction decides under its locks, once it has read the rows it holds. -/
def decideUnderLock (contexts : List ContextRow) (consumptions : Consumptions ReplayKey)
    (prepared : Prepared) (reading : Reading) : Except Refusal (Claim × Effect) :=
  let row := prepared.contextRow
  match findContext contexts row.organisationId row.id with
  | none => .error { refusal := .contextNotUsable }
  | some locked =>
    if locked.closedAt ≠ none then .error { refusal := .contextNotUsable }
    else if !locked.siteIds.contains prepared.proof.siteId then .error { refusal := .siteNotUsable }
    else
      match resolveFacts reading.db locked prepared.proof reading.actor reading.now with
      | .error refusal => .error { refusal }
      | .ok facts =>
        match judge platform (prepared.judged reading.now) facts
          (storedFor consumptions locked.organisationId prepared.proof) with
        | .error refusal => .error refusal
        | .ok effect =>
          let domainIdempotencyKey := platform.domainIdempotencyKey
            { organisationId := locked.organisationId
              contextId := locked.id
              actorUserId := locked.actorUserId
              deviceId := locked.deviceId
              keyId := facts.registered.keyId
              keyVersion := facts.registered.keyVersion
              operationKind := prepared.kind
              targetType := prepared.envelope.targetType
              targetId := prepared.envelope.targetId
              deviceNonce := prepared.proof.nonce
              payloadDigest := prepared.digest }
          .ok ({ prepared, domainIdempotencyKey }, effect)

/-- Where a presentation stands. -/
inductive Phase
  | received (request : Request)
  /-- A queued submission, which `execute` refuses before its preflight. -/
  | declined
  | ready (prepared : Prepared)
  -- inside the transaction, with its locks
  | proceeding (claim : Claim)
  | claimed (claim : Claim)
  | applied (claim : Claim)
  | converging (claim : Claim) (storedOutcomeRef : String)
  | resolved (claim : Claim)
  -- answered, or thrown
  | committed (claim : Claim)
  | converged (claim : Claim)
  | refused (refusal : Refusal)
  | failed

/-- The presentation has been answered, or has thrown. -/
def Phase.isOver : Phase → Bool
  | .declined | .committed _ | .converged _ | .refused _ | .failed => true
  | _ => false

/-- The claim of a presentation inside its transaction. -/
def Phase.inTransaction? : Phase → Option Claim
  | .proceeding claim | .claimed claim | .applied claim | .converging claim _ | .resolved claim =>
    some claim
  | _ => none

/-- The claim of a presentation whose row is inserted and not committed. -/
def Phase.inserted? : Phase → Option Claim
  | .claimed claim | .applied claim => some claim
  | _ => none

/-- An effect of the domain, committed together with the presentation it was caused by. -/
structure DomainEffect where
  presentation : Nat
  identity : ReplayIdentity
  statementFingerprint : String
  domainIdempotencyKey : String

structure State where
  contexts : List ContextRow
  db : Db
  consumptions : Consumptions ReplayKey
  effects : List DomainEffect
  presentations : List Phase

/-- What a domain service answers: it applied the operation, with or without a row that shows it,
    or refused it. -/
inductive DomainOutcome
  | applied (authoritative : Bool)
  | refused

inductive Label
  | present (request : Request)
  /-- The reads of the preflight take no lock, so they are given. -/
  | preflight (i : Nat) (reading : Reading)
  /-- The transaction has its locks; everything it judges is read after the last of them. -/
  | lock (i : Nat) (actor : Option ActorFacts) (now : Int)
  | consume (i : Nat)
  | apply (i : Nat) (outcome : DomainOutcome)
  | probe (i : Nat) (evidence : Bool)
  | commit (i : Nat)
  /-- The commit lands and its answer is lost. -/
  | commitLost (i : Nat)
  /-- Something throws or the process dies: the transaction rolls back. -/
  | fail (i : Nat)
  /-- Everyone else changes the contexts and the registry, as far as no row is locked. -/
  | environment (contexts : List ContextRow) (db : Db)
  /-- Another ceremony spends an identity of its own. -/
  | consumeElsewhere (organisationId key statementFingerprint : String)
      (storedOutcomeRef : Option String)

/-- Two transactions want one row: a context, a device or a key. -/
def Prepared.sharesLock (prepared other : Prepared) : Bool :=
  prepared.contextRow.organisationId = other.contextRow.organisationId ∧
    (prepared.contextRow.id = other.contextRow.id ∨
      prepared.contextRow.deviceId = other.contextRow.deviceId ∨
      prepared.contextRow.keyId = other.contextRow.keyId)

/-- Another transaction holds a row that this one has to lock. -/
def State.blocksLock (prepared : Prepared) : Bool :=
  s.presentations.any fun phase =>
    phase.inTransaction?.any fun claim => prepared.sharesLock claim.prepared

/-- Another transaction has inserted the same identity and is not done. -/
def State.blocksInsert : Bool :=
  s.presentations.any fun phase =>
    phase.inserted?.any fun other => other.consumptionRow.key = claim.consumptionRow.key

/-- The rows that the transactions hold are what they were. -/
def State.keepsLocked (contexts : List ContextRow) (db : Db) : Bool :=
  s.presentations.all fun phase =>
    phase.inTransaction?.all fun claim =>
      let row := claim.prepared.contextRow
      findContext contexts row.organisationId row.id =
          findContext s.contexts row.organisationId row.id ∧
        db.findDevice row.organisationId row.deviceId =
          s.db.findDevice row.organisationId row.deviceId ∧
        db.findDeviceKeyByKeyId row.organisationId row.keyId =
          s.db.findDeviceKeyByKeyId row.organisationId row.keyId

def State.moves (i : Nat) (phase : Phase) : State :=
  { s with presentations := s.presentations.set i phase }

/-- The insert and the effect land together. -/
def State.lands (i : Nat) (claim : Claim) : State :=
  { s with
    consumptions := (s.consumptions.consume claim.consumptionRow).1
    effects := s.effects ++
      [{ presentation := i
         identity := claim.identity
         statementFingerprint := claim.prepared.fingerprint
         domainIdempotencyKey := claim.domainIdempotencyKey }] }

/-- `execute` after its preflight, under the locks. -/
def afterLock : Except Refusal (Claim × Effect) → Phase
  | .error refusal => .refused refusal
  | .ok (claim, .proceed) => .proceeding claim
  | .ok (claim, .convergeOnStoredOutcome storedOutcomeRef) => .converging claim storedOutcomeRef

/-- `execute` after its claim. -/
def afterConsume : Consumption → Phase
  | .firstSeen => .claimed claim
  | .exactDuplicate storedOutcomeRef => .converging claim storedOutcomeRef
  | .reusedWithChangedSemantics =>
    .refused
      { refusal := .replayConflict
        contractRefusal := some (.proof .nonceReusedWithChangedSemantics) }

/-- `applyDomainEffect` and the check of what it returns. -/
def afterApply : DomainOutcome → Phase
  | .applied true => .applied claim
  | .applied false => .refused { refusal := .domainEffectNotAuthoritative }
  | .refused => .refused { refusal := .domainEffectRefused }

/-- `converge`: the reference is the one this operation derives, and the domain has evidence. -/
def afterProbe (storedOutcomeRef : String) (evidence : Bool) : Phase :=
  if storedOutcomeRef ≠ claim.domainIdempotencyKey then
    .refused { refusal := .duplicateUnresolvable }
  else if !evidence then .refused { refusal := .duplicateUnresolvable }
  else .resolved claim

def step : Label → Option State
  | .present request =>
    let phase := if request.kind = .offlineQueueSubmit then .declined else .received request
    some { s with presentations := s.presentations ++ [phase] }
  | .preflight i reading =>
    match s.presentations[i]? with
    | some (.received request) =>
      match authenticateRequest platform s.contexts s.consumptions request reading with
      | .error refusal => some (s.moves i (.refused refusal))
      | .ok prepared => some (s.moves i (.ready prepared))
    | _ => none
  | .lock i actor now =>
    match s.presentations[i]? with
    | some (.ready prepared) =>
      if s.blocksLock prepared then none
      else
        let reading : Reading := { db := s.db, actor, now, verified := prepared.verified }
        some (s.moves i (afterLock
          (decideUnderLock platform s.contexts s.consumptions prepared reading)))
    | _ => none
  | .consume i =>
    match s.presentations[i]? with
    | some (.proceeding claim) =>
      if s.blocksInsert claim then none
      else
        some (s.moves i (afterConsume claim (s.consumptions.consume claim.consumptionRow).2))
    | _ => none
  | .apply i outcome =>
    match s.presentations[i]? with
    | some (.claimed claim) => some (s.moves i (afterApply claim outcome))
    | _ => none
  | .probe i evidence =>
    match s.presentations[i]? with
    | some (.converging claim storedOutcomeRef) =>
      some (s.moves i (afterProbe claim storedOutcomeRef evidence))
    | _ => none
  | .commit i =>
    match s.presentations[i]? with
    | some (.applied claim) => some ((s.lands i claim).moves i (.committed claim))
    | some (.resolved claim) => some (s.moves i (.converged claim))
    | _ => none
  | .commitLost i =>
    match s.presentations[i]? with
    | some (.applied claim) => some ((s.lands i claim).moves i .failed)
    | some (.resolved _) => some (s.moves i .failed)
    | _ => none
  | .fail i =>
    match s.presentations[i]? with
    | some phase => if phase.isOver then none else some (s.moves i .failed)
    | none => none
  | .environment contexts db =>
    if s.keepsLocked contexts db then some { s with contexts, db } else none
  | .consumeElsewhere organisationId key statementFingerprint storedOutcomeRef =>
    let row : ConsumptionRow ReplayKey :=
      { organisationId, replayIdentityDigest := .other key, statementFingerprint, storedOutcomeRef }
    some { s with consumptions := (s.consumptions.consume row).1 }

end Gateway

/-- No presentation yet, and nothing consumed. -/
def State.initial (contexts : List ContextRow) (db : Db) : State :=
  { contexts, db, consumptions := Consumptions.empty, effects := [], presentations := [] }

end Sentinel.DeviceGateway
