import Sentinel.Native.DeviceReplay

/-! # The Edge registry

The tables of `migrations/20260906120000_wp29b_edge_registry` with their unique indexes, the
statements of `EdgeRegistryRepository`, and the ceremony of `EdgeEnrolmentService`
(`modules/edge-registry/edge-enrolment.service.ts`).  A transaction is one step; the reads before it
are of columns that never change, except for the state of a request, which
`issuePossessionChallenge` reads in a step of its own.  The signature profile, which is one
constant, and the audit events are left out. -/

namespace Sentinel.EdgeRegistry

open DeviceReplay

/-- `randomUUID`: a text that is not blank. -/
structure Uuid where
  text : String
  visible : JsText.isBlank text = false
deriving DecidableEq

inductive EnrolmentState
  | pending | active | withdrawn
deriving DecidableEq

inductive EdgeTrust
  | suspended | trusted | revoked
deriving DecidableEq

inductive RequestState
  | pending | activated | rejected
deriving DecidableEq

inductive KeyStatus
  | current | rotated | revoked
deriving DecidableEq

structure AuthorityRow where
  id : String
  organisationId : String
  siteId : String
  issuedByUserId : String
  secretDigest : String
  issuedAt : Int
  expiresAt : Int
  consumedAt : Option Int
  revokedAt : Option Int

structure EdgeRow where
  id : Uuid
  organisationId : String
  siteId : String
  enrolledByUserId : String
  enrolmentState : EnrolmentState
  edgeTrust : EdgeTrust
  activatedAt : Option Int
  withdrawnAt : Option Int
deriving DecidableEq

structure RequestRow where
  id : String
  organisationId : String
  siteId : String
  authorityId : String
  edgeId : Uuid
  offeredPublicKey : String
  offeredPublicKeyThumbprint : String
  state : RequestState
  requestFingerprint : String
deriving DecidableEq

structure ChallengeRow where
  id : String
  organisationId : String
  enrolmentRequestId : String
  nonce : String
  issuedAt : Int
  expiresAt : Int

structure VerificationRow where
  organisationId : String
  challengeId : String
  enrolmentRequestId : String
  enrolmentRequestFingerprint : String
  publicKeyThumbprint : String
  possessionStatementFingerprint : String
  verified : Bool
  verifiedAt : Int

structure KeyRow where
  organisationId : String
  edgeId : Uuid
  enrolmentRequestId : String
  edgeKeyId : String
  edgeKeyVersion : Nat
  publicKey : String
  publicKeyThumbprint : String
  status : KeyStatus
  registeredAt : Int
  activatedAt : Int
  revokedAt : Option Int

/-- `EdgeRefusalCode`, as far as the ceremony answers it. -/
inductive Refusal
  | notAuthorised | organisationNotFound | siteNotInOrganisation
  | authorityNotFound | authoritySiteMismatch | authorityNotUsable | authorityAlreadyConsumed
  | publicKeyNotRuntimeValid
  | enrolmentRequestNotFound | enrolmentStateInvalid
  | challengeNotFound | challengeExpired | challengeMisbound
  | possessionNotVerified | edgeNotFound | edgeStateInvalid
  | replayConflict | replayFactInconsistent
deriving DecidableEq

/-- `EdgeEnrolmentAuthorityStanding`, for instants that are readable. -/
inductive Standing
  | usable | notYetValid | expired | consumed | revoked

def classifyEdgeEnrolmentAuthority (authority : AuthorityRow) (now : Int) : Standing :=
  if authority.revokedAt ≠ none then .revoked
  else if authority.consumedAt ≠ none then .consumed
  else if now < authority.issuedAt then .notYetValid
  else if now ≥ authority.expiresAt then .expired
  else .usable

/-- `EDGE_ENROLMENT_AUTHORITY_MAX_AGE_MS`. -/
def authorityMaxAgeMs : Int := 600000

def possessionChallengeMaxAgeMs : Int := 120000

/-- The one-shot identities of the ceremony, each with a domain of its own. -/
inductive ReplayIdentity
  | edgeAuthority (organisationId siteId authorityId : String)
  | edgePossession (organisationId siteId enrolmentRequestId challengeId nonce : String)
deriving DecidableEq

structure RequestIdentity where
  organisationId : String
  siteId : String
  authorityId : String
  edgeId : Uuid
  publicKeyThumbprint : String

/-- `EdgeEnrolmentPossessionStatementInput`. -/
structure PossessionStatement where
  challengeId : String
  enrolmentRequestId : String
  enrolmentRequestFingerprint : String
  nonce : String
  publicKeyThumbprint : String
  edgeId : Uuid
  organisationId : String
  siteId : String

/-! ## The tables -/

structure Registry (δ : Type) where
  authorities : List AuthorityRow
  edges : List EdgeRow
  requests : List RequestRow
  challenges : List ChallengeRow
  verifications : List VerificationRow
  keys : List KeyRow
  consumptions : Consumptions δ
  authorities_id : (authorities.map (·.id)).Nodup
  edges_id : (edges.map (·.id)).Nodup
  requests_id : (requests.map (·.id)).Nodup
  requests_authority : (requests.map fun row => (row.organisationId, row.authorityId)).Nodup
  /-- `edge_enrolment_request_edge_key`. -/
  requests_edge : (requests.map fun row => (row.organisationId, row.edgeId)).Nodup
  challenges_id : (challenges.map (·.id)).Nodup

namespace Registry

variable {δ : Type} [DecidableEq δ]

def empty : Registry δ :=
  { authorities := [], edges := [], requests := [], challenges := [], verifications := []
    keys := [], consumptions := .empty
    authorities_id := List.nodup_nil
    edges_id := List.nodup_nil
    requests_id := List.nodup_nil
    requests_authority := List.nodup_nil
    requests_edge := List.nodup_nil
    challenges_id := List.nodup_nil }

variable (registry : Registry δ)

def findAuthorityByDigest (organisationId secretDigest : String) : Option AuthorityRow :=
  registry.authorities.find? fun row =>
    row.organisationId = organisationId ∧ row.secretDigest = secretDigest

/-- `findAuthorityByIdForRead`, and `lockAuthority` in a transaction. -/
def findAuthority (organisationId authorityId : String) : Option AuthorityRow :=
  registry.authorities.find? fun row => row.organisationId = organisationId ∧ row.id = authorityId

/-- `findEnrolmentRequest`, and `lockEnrolmentRequest` in a transaction. -/
def findRequest (organisationId requestId : String) : Option RequestRow :=
  registry.requests.find? fun row => row.organisationId = organisationId ∧ row.id = requestId

def findChallenge (organisationId challengeId : String) : Option ChallengeRow :=
  registry.challenges.find? fun row => row.organisationId = organisationId ∧ row.id = challengeId

def findVerification (organisationId challengeId : String) : Option VerificationRow :=
  registry.verifications.find? fun row =>
    row.organisationId = organisationId ∧ row.challengeId = challengeId

/-- `findEdge`, and `lockEdge` in a transaction. -/
def findEdge (organisationId : String) (edgeId : Uuid) : Option EdgeRow :=
  registry.edges.find? fun row => row.organisationId = organisationId ∧ row.id = edgeId

/-- `createEnrolmentAuthority`; `none` is a unique violation, as in the creations below. -/
def createAuthority (row : AuthorityRow) : Option (Registry δ) :=
  if h : (∀ old ∈ registry.authorities, old.id ≠ row.id) ∧
      ∀ old ∈ registry.authorities,
        (old.organisationId, old.secretDigest) ≠ (row.organisationId, row.secretDigest) then
    some
      { registry with
        authorities := registry.authorities ++ [row]
        authorities_id := Table.nodup_map_concat registry.authorities_id h.1 }
  else none

/-- `createPendingEdge`. -/
def createEdge (row : EdgeRow) : Option (Registry δ) :=
  if h : ∀ old ∈ registry.edges, old.id ≠ row.id then
    some
      { registry with
        edges := registry.edges ++ [row]
        edges_id := Table.nodup_map_concat registry.edges_id h }
  else none

/-- `createEnrolmentRequest`. -/
def createRequest (row : RequestRow) : Option (Registry δ) :=
  if h : (∀ old ∈ registry.requests, old.id ≠ row.id) ∧
      (∀ old ∈ registry.requests,
        (old.organisationId, old.authorityId) ≠ (row.organisationId, row.authorityId)) ∧
      ∀ old ∈ registry.requests,
        (old.organisationId, old.edgeId) ≠ (row.organisationId, row.edgeId) then
    some
      { registry with
        requests := registry.requests ++ [row]
        requests_id := Table.nodup_map_concat registry.requests_id h.1
        requests_authority := Table.nodup_map_concat registry.requests_authority h.2.1
        requests_edge := Table.nodup_map_concat registry.requests_edge h.2.2 }
  else none

/-- `createPossessionChallenge`. -/
def createChallenge (row : ChallengeRow) : Option (Registry δ) :=
  if h : ∀ old ∈ registry.challenges, old.id ≠ row.id then
    some
      { registry with
        challenges := registry.challenges ++ [row]
        challenges_id := Table.nodup_map_concat registry.challenges_id h }
  else none

/-- `createRegistryKey`, with its three unique indexes.  The partial one on CURRENT keys follows
    from that on versions, since the version is always 1. -/
def createKey (row : KeyRow) : Option (Registry δ) :=
  if (∀ old ∈ registry.keys, (old.organisationId, old.edgeId, old.edgeKeyVersion) ≠
        (row.organisationId, row.edgeId, row.edgeKeyVersion)) ∧
      (∀ old ∈ registry.keys, (old.organisationId, old.edgeKeyId) ≠
        (row.organisationId, row.edgeKeyId)) ∧
      ∀ old ∈ registry.keys, (old.organisationId, old.enrolmentRequestId) ≠
        (row.organisationId, row.enrolmentRequestId) then
    some { registry with keys := registry.keys ++ [row] }
  else none

def updateAuthorities (p : AuthorityRow → Bool)
    (f : AuthorityRow → AuthorityRow) (hid : ∀ row, (f row).id = row.id) : Registry δ :=
  { registry with
    authorities := Table.rewrite p f registry.authorities
    authorities_id := Table.nodup_map_rewrite registry.authorities_id hid }

def updateEdges (p : EdgeRow → Bool) (f : EdgeRow → EdgeRow)
    (hid : ∀ row, (f row).id = row.id) : Registry δ :=
  { registry with
    edges := Table.rewrite p f registry.edges
    edges_id := Table.nodup_map_rewrite registry.edges_id hid }

def isUnconsumed (authorityId : String) (row : AuthorityRow) : Bool :=
  row.id = authorityId ∧ row.consumedAt = none

/-- `markAuthorityConsumed`: whether a row was hit. -/
def markAuthorityConsumed (authorityId : String) (consumedAt : Int) : Bool × Registry δ :=
  (registry.authorities.any (isUnconsumed authorityId),
    registry.updateAuthorities (isUnconsumed authorityId)
      (fun row => { row with consumedAt := some consumedAt }) fun _ => rfl)

def isUnspent (organisationId authorityId : String) (row : AuthorityRow) : Bool :=
  row.id = authorityId ∧ row.organisationId = organisationId ∧ row.revokedAt = none ∧
    row.consumedAt = none

def revokeAuthority (organisationId authorityId : String) (revokedAt : Int) : Bool × Registry δ :=
  (registry.authorities.any (isUnspent organisationId authorityId),
    registry.updateAuthorities (isUnspent organisationId authorityId)
      (fun row => { row with revokedAt := some revokedAt }) fun _ => rfl)

def isPendingEdge (organisationId : String) (edgeId : Uuid) (row : EdgeRow) : Bool :=
  row.id = edgeId ∧ row.organisationId = organisationId ∧ row.enrolmentState = .pending

def activateEdge (organisationId : String) (edgeId : Uuid)
    (activatedAt : Int) : Bool × Registry δ :=
  (registry.edges.any (isPendingEdge organisationId edgeId),
    registry.updateEdges (isPendingEdge organisationId edgeId)
      (fun row => { row with
        enrolmentState := .active, edgeTrust := .trusted, activatedAt := some activatedAt })
      fun _ => rfl)

def isRegisteredEdge (organisationId : String) (edgeId : Uuid) (row : EdgeRow) : Bool :=
  row.id = edgeId ∧ row.organisationId = organisationId ∧ row.enrolmentState ≠ .withdrawn

def withdrawEdge (organisationId : String) (edgeId : Uuid)
    (withdrawnAt : Int) : Bool × Registry δ :=
  (registry.edges.any (isRegisteredEdge organisationId edgeId),
    registry.updateEdges (isRegisteredEdge organisationId edgeId)
      (fun row => { row with
        enrolmentState := .withdrawn, edgeTrust := .revoked, withdrawnAt := some withdrawnAt })
      fun _ => rfl)

def revokeKeys (organisationId : String) (edgeId : Uuid) (revokedAt : Int) : Registry δ :=
  { registry with
    keys := Table.rewrite
      (fun row => row.organisationId = organisationId ∧ row.edgeId = edgeId ∧ row.revokedAt = none)
      (fun row => { row with status := .revoked, revokedAt := some revokedAt }) registry.keys }

def isPendingRequest (organisationId requestId : String) (row : RequestRow) : Bool :=
  row.id = requestId ∧ row.organisationId = organisationId ∧ row.state = .pending

/-- `advanceRequestState`, from PENDING to ACTIVATED. -/
def advanceRequest (organisationId requestId : String) : Bool × Registry δ :=
  (registry.requests.any (isPendingRequest organisationId requestId),
    { registry with
      requests := Table.rewrite (isPendingRequest organisationId requestId)
        (fun row => { row with state := .activated }) registry.requests
      requests_id := Table.nodup_map_rewrite registry.requests_id fun _ => rfl
      requests_authority := Table.nodup_map_rewrite registry.requests_authority fun _ => rfl
      requests_edge := Table.nodup_map_rewrite registry.requests_edge fun _ => rfl })

end Registry

/-! ## The ceremony -/

/-- A person, the actions of the roles and the sites of the assignments (null is every one). -/
structure Principal where
  organisationId : String
  userId : String
  actions : List String
  siteIds : List (Option String)

def checkEdgeAuthority (principal : Principal) (action organisationId siteId : String) :
    Option Refusal :=
  if principal.organisationId ≠ organisationId then some .notAuthorised
  else if !principal.actions.contains action then some .notAuthorised
  else if principal.siteIds.any fun scope => scope = none ∨ scope = some siteId then none
  else some .notAuthorised

def actionEdgeEnrolmentAuthorise : String := "edge.enrolment.authorise"

def actionEdgeRevoke : String := "edge.revoke"

/-- The body of a request for enrolment. -/
structure RequestInput where
  organisationId : String
  claimedSiteId : String
  authoritySecret : String
  offeredPublicKey : String

structure CompleteInput where
  organisationId : String
  enrolmentRequestId : String
  challengeId : String
  signature : String

inductive Completion
  | enrolled (edgeId : Uuid) (edgeKeyId : String) (edgeKeyVersion : Nat)
  | converged (edgeId : String)
  | refused (refusal : Refusal)
deriving DecidableEq

/-- The rows a completion has locked and read. -/
structure Ceremony where
  request : RequestRow
  challenge : ChallengeRow
  authority : AuthorityRow
  edge : EdgeRow

/-- The statement an Edge signs. -/
def Ceremony.statement (ceremony : Ceremony) : PossessionStatement :=
  { challengeId := ceremony.challenge.id
    enrolmentRequestId := ceremony.request.id
    enrolmentRequestFingerprint := ceremony.request.requestFingerprint
    nonce := ceremony.challenge.nonce
    publicKeyThumbprint := ceremony.request.offeredPublicKeyThumbprint
    edgeId := ceremony.edge.id
    organisationId := ceremony.edge.organisationId
    siteId := ceremony.edge.siteId }

/-- `edgeEnrolmentAuthorityReplayKey`. -/
def Ceremony.authorityIdentity (ceremony : Ceremony) : ReplayIdentity :=
  .edgeAuthority ceremony.edge.organisationId ceremony.edge.siteId ceremony.authority.id

/-- `edgeEnrolmentPossessionReplayKey`. -/
def Ceremony.challengeIdentity (ceremony : Ceremony) : ReplayIdentity :=
  .edgePossession ceremony.edge.organisationId ceremony.edge.siteId ceremony.request.id
    ceremony.challenge.id ceremony.challenge.nonce

/-- The registry key of an enrolment. -/
def Ceremony.key (ceremony : Ceremony) (edgeKeyId : String) (now : Int) : KeyRow :=
  { organisationId := ceremony.edge.organisationId
    edgeId := ceremony.edge.id
    enrolmentRequestId := ceremony.request.id
    edgeKeyId
    edgeKeyVersion := 1
    publicKey := ceremony.request.offeredPublicKey
    publicKeyThumbprint := ceremony.request.offeredPublicKeyThumbprint
    status := .current
    registeredAt := now
    activatedAt := now
    revokedAt := none }

section Steps

variable {δ : Type} [DecidableEq δ]

variable (registry : Registry δ)

/-- The reads of a completion, up to the statement. -/
def Registry.ceremony (input : CompleteInput) (now : Int) : Except Refusal Ceremony :=
  match registry.findRequest input.organisationId input.enrolmentRequestId with
  | none => .error .enrolmentRequestNotFound
  | some request =>
    match registry.findChallenge input.organisationId input.challengeId with
    | none => .error .challengeNotFound
    | some challenge =>
      if challenge.enrolmentRequestId ≠ request.id then .error .challengeMisbound
      else if now ≥ challenge.expiresAt then .error .challengeExpired
      else
        match registry.findAuthority input.organisationId request.authorityId with
        | none => .error .authorityNotFound
        | some authority =>
          match registry.findEdge input.organisationId request.edgeId with
          | none => .error .edgeNotFound
          | some edge => .ok { request, challenge, authority, edge }

/-- The verdict on a challenge: the first one is recorded and stays. -/
def Registry.recordVerdict (organisationId : String) (ceremony : Ceremony)
    (fingerprint : String) (verified : Bool) (now : Int) : Registry δ :=
  match registry.findVerification organisationId ceremony.challenge.id with
  | some _ => registry
  | none =>
    { registry with
      verifications := registry.verifications ++
        [{ organisationId
           challengeId := ceremony.challenge.id
           enrolmentRequestId := ceremony.request.id
           enrolmentRequestFingerprint := ceremony.request.requestFingerprint
           publicKeyThumbprint := ceremony.request.offeredPublicKeyThumbprint
           possessionStatementFingerprint := fingerprint
           verified
           verifiedAt := now }] }

/-- Whether the proof stands, with the verdict already recorded. -/
def Registry.possessionStands (organisationId : String)
    (ceremony : Ceremony) (fingerprint : String) (verified : Bool) : Bool :=
  verified ∧ (registry.findVerification organisationId ceremony.challenge.id).all fun verdict =>
    verdict.verified ∧ verdict.possessionStatementFingerprint = fingerprint

/-- What both one-shot identities are consumed against: the outcome already stored, if any. -/
def Registry.outcomeRef (digest : ReplayIdentity → δ)
    (organisationId : String) (ceremony : Ceremony) : String :=
  ((registry.consumptions.peek organisationId (digest ceremony.authorityIdentity)).bind
    (·.storedOutcomeRef)).getD ceremony.edge.id.text

/-- The row of one of the identities. -/
def Registry.consumption (digest : ReplayIdentity → δ)
    (organisationId : String) (ceremony : Ceremony) (fingerprint : String)
    (identity : ReplayIdentity) : ConsumptionRow δ :=
  { organisationId
    replayIdentityDigest := digest identity
    statementFingerprint := fingerprint
    storedOutcomeRef := some (registry.outcomeRef digest organisationId ceremony) }

/-- The effects of a completion, once both identities are consumed; `none` is a unique violation
    and rolls it back. -/
def Registry.enrol (ceremony : Ceremony) (edgeKeyId : String) (now : Int) :
    Option (Registry δ × Completion) :=
  match registry.markAuthorityConsumed ceremony.authority.id now with
  | (false, _) => some (registry, .refused .authorityAlreadyConsumed)
  | (true, marked) => do
    let keyed ← marked.createKey (ceremony.key edgeKeyId now)
    match keyed.activateEdge ceremony.edge.organisationId ceremony.edge.id now with
    | (false, _) => some (keyed, .refused .edgeStateInvalid)
    | (true, activated) =>
      match activated.advanceRequest ceremony.edge.organisationId ceremony.request.id with
      | (false, _) => some (activated, .refused .enrolmentStateInvalid)
      | (true, advanced) => some (advanced, .enrolled ceremony.edge.id edgeKeyId 1)

/-- The consumptions of a completion whose proof stands, and what follows from them.  A refusal
    is an answer, not a throw: what is written stays. -/
def Registry.spend (digest : ReplayIdentity → δ) (organisationId : String)
    (ceremony : Ceremony) (fingerprint edgeKeyId : String) (now : Int) :
    Option (Registry δ × Completion) :=
  let row := registry.consumption digest organisationId ceremony fingerprint
  let authority := registry.consumptions.consume (row ceremony.authorityIdentity)
  let challenge := authority.1.consume (row ceremony.challengeIdentity)
  let spent := { registry with consumptions := challenge.1 }
  if !authority.2.isConsistent then some (spent, .refused .replayFactInconsistent)
  else if authority.2 = .reusedWithChangedSemantics then some (spent, .refused .replayConflict)
  else if !challenge.2.isConsistent then some (spent, .refused .replayFactInconsistent)
  else if challenge.2 = .reusedWithChangedSemantics then some (spent, .refused .replayConflict)
  else
    match authority.2 with
    | .exactDuplicate storedOutcomeRef => some (spent, .converged storedOutcomeRef)
    | _ => spent.enrol ceremony edgeKeyId now

end Steps

/-! ## The service -/

/-- What the ceremony takes from cryptography. -/
structure Platform (δ : Type) where
  /-- SHA-256 of a replay key. -/
  digest : ReplayIdentity → δ
  secretDigest : String → String
  isRuntimeValidPublicKey : String → Bool
  /-- `deriveP256PublicKeyThumbprint`. -/
  thumbprint : String → String
  /-- `edgeEnrolmentRequestFingerprint`. -/
  requestFingerprint : RequestIdentity → String
  /-- `edgeEnrolmentPossessionStatementFingerprint`. -/
  possessionFingerprint : PossessionStatement → String
  /-- `verifySignature` by a public key of the canonical statement. -/
  verifySignature : String → PossessionStatement → String → Bool

/-- The registry, and the requests that `issuePossessionChallenge` has read as PENDING and not
    yet written a challenge for. -/
structure State (δ : Type) where
  registry : Registry δ
  issuing : List RequestRow

inductive Label
  | issueEnrolmentAuthority (principal : Principal) (organisationId siteId secret authorityId : String)
      (organisationExists siteExists : Bool) (now : Int)
  | revokeEnrolmentAuthority (principal : Principal) (organisationId authorityId : String) (now : Int)
  | requestEnrolment (input : RequestInput) (edgeId : Uuid) (requestId : String) (now : Int)
  /-- The read of `issuePossessionChallenge`, and its transaction. -/
  | readRequest (organisationId requestId : String)
  | createChallenge (i : Nat) (challengeId nonce : String) (now : Int)
  | completeEnrolment (input : CompleteInput) (edgeKeyId : String) (now : Int)
  | withdrawEdge (principal : Principal) (organisationId : String) (edgeId : Uuid) (now : Int)

inductive Answer
  | issued | revoked | requested (edgeId : Uuid) | pending | challenged
  | completed (completion : Completion)
  | withdrawn (edgeId : Uuid)
  | refused (refusal : Refusal)
deriving DecidableEq

section Service

variable {δ : Type} [DecidableEq δ] (platform : Platform δ)

namespace Registry

variable (registry : Registry δ)

def issueEnrolmentAuthority (principal : Principal)
    (organisationId siteId secret authorityId : String) (organisationExists siteExists : Bool)
    (now : Int) : Option (Registry δ × Answer) :=
  match checkEdgeAuthority principal actionEdgeEnrolmentAuthorise organisationId siteId with
  | some refusal => some (registry, .refused refusal)
  | none =>
    if !organisationExists then some (registry, .refused .organisationNotFound)
    else if !siteExists then some (registry, .refused .siteNotInOrganisation)
    else
      (registry.createAuthority
        { id := authorityId, organisationId, siteId
          issuedByUserId := principal.userId
          secretDigest := platform.secretDigest secret
          issuedAt := now
          expiresAt := now + authorityMaxAgeMs
          consumedAt := none
          revokedAt := none }).map (·, .issued)

def revokeEnrolmentAuthority (principal : Principal)
    (organisationId authorityId : String) (now : Int) : Registry δ × Answer :=
  match registry.findAuthority organisationId authorityId with
  | none => (registry, .refused .authorityNotFound)
  | some authority =>
    match checkEdgeAuthority principal actionEdgeEnrolmentAuthorise organisationId
        authority.siteId with
    | some refusal => (registry, .refused refusal)
    | none =>
      match registry.revokeAuthority organisationId authorityId now with
      | (true, revoked) => (revoked, .revoked)
      | (false, _) => (registry, .refused .authorityNotUsable)

def requestEnrolment (input : RequestInput) (edgeId : Uuid)
    (requestId : String) (now : Int) : Option (Registry δ × Answer) :=
  match registry.findAuthorityByDigest input.organisationId
      (platform.secretDigest input.authoritySecret) with
  | none => some (registry, .refused .authorityNotFound)
  | some authority =>
    match classifyEdgeEnrolmentAuthority authority now with
    | .consumed => some (registry, .refused .authorityAlreadyConsumed)
    | .revoked | .expired | .notYetValid => some (registry, .refused .authorityNotUsable)
    | .usable =>
      if authority.siteId ≠ input.claimedSiteId then
        -- a probe burns the authority
        some ((registry.markAuthorityConsumed authority.id now).2, .refused .authoritySiteMismatch)
      else if !platform.isRuntimeValidPublicKey input.offeredPublicKey then
        some (registry, .refused .publicKeyNotRuntimeValid)
      else do
        let pending ← registry.createEdge
          { id := edgeId
            organisationId := authority.organisationId
            siteId := authority.siteId
            enrolledByUserId := authority.issuedByUserId
            enrolmentState := .pending
            edgeTrust := .suspended
            activatedAt := none
            withdrawnAt := none }
        let requested ← pending.createRequest
          { id := requestId
            organisationId := authority.organisationId
            siteId := authority.siteId
            authorityId := authority.id
            edgeId
            offeredPublicKey := input.offeredPublicKey
            offeredPublicKeyThumbprint := platform.thumbprint input.offeredPublicKey
            state := .pending
            requestFingerprint := platform.requestFingerprint
              { organisationId := authority.organisationId
                siteId := authority.siteId
                authorityId := authority.id
                edgeId
                publicKeyThumbprint := platform.thumbprint input.offeredPublicKey } }
        some (requested, .requested edgeId)

def completeEnrolment (input : CompleteInput) (edgeKeyId : String)
    (now : Int) : Option (Registry δ × Completion) :=
  match registry.ceremony input now with
  | .error refusal => some (registry, .refused refusal)
  | .ok ceremony =>
    let fingerprint := platform.possessionFingerprint ceremony.statement
    let verified := platform.verifySignature ceremony.request.offeredPublicKey ceremony.statement
      input.signature
    let judged := registry.recordVerdict input.organisationId ceremony fingerprint verified now
    if registry.possessionStands input.organisationId ceremony fingerprint verified then
      judged.spend platform.digest input.organisationId ceremony fingerprint edgeKeyId now
    else some (judged, .refused .possessionNotVerified)

/-- `withdrawEdge` of the service. -/
def withdraw (principal : Principal) (organisationId : String)
    (edgeId : Uuid) (now : Int) : Registry δ × Answer :=
  match registry.findEdge organisationId edgeId with
  | none => (registry, .refused .edgeNotFound)
  | some edge =>
    match checkEdgeAuthority principal actionEdgeRevoke organisationId edge.siteId with
    | some refusal => (registry, .refused refusal)
    | none =>
      match registry.withdrawEdge organisationId edgeId now with
      | (true, withdrawn) => (withdrawn.revokeKeys organisationId edgeId now, .withdrawn edgeId)
      | (false, _) => (registry, .refused .edgeStateInvalid)

end Registry

def State.init : State δ := { registry := .empty, issuing := [] }

/-- A step with what it answers; `none` throws, and changes nothing. -/
def State.call (s : State δ) : Label → Option (State δ × Answer)
  | .issueEnrolmentAuthority principal organisationId siteId secret authorityId organisationExists
      siteExists now =>
    (s.registry.issueEnrolmentAuthority platform principal organisationId siteId secret authorityId
      organisationExists siteExists now).map fun (registry, answer) => ({ s with registry }, answer)
  | .revokeEnrolmentAuthority principal organisationId authorityId now =>
    let (registry, answer) :=
      s.registry.revokeEnrolmentAuthority principal organisationId authorityId now
    some ({ s with registry }, answer)
  | .requestEnrolment input edgeId requestId now =>
    (s.registry.requestEnrolment platform input edgeId requestId now).map fun (registry, answer) =>
      ({ s with registry }, answer)
  | .readRequest organisationId requestId =>
    match s.registry.findRequest organisationId requestId with
    | none => some (s, .refused .enrolmentRequestNotFound)
    | some request =>
      if request.state ≠ .pending then some (s, .refused .enrolmentStateInvalid)
      else some ({ s with issuing := s.issuing ++ [request] }, .pending)
  | .createChallenge i challengeId nonce now => do
    let request ← s.issuing[i]?
    let registry ← s.registry.createChallenge
      { id := challengeId
        organisationId := request.organisationId
        enrolmentRequestId := request.id
        nonce
        issuedAt := now
        expiresAt := now + possessionChallengeMaxAgeMs }
    some ({ registry, issuing := s.issuing.eraseIdx i }, .challenged)
  | .completeEnrolment input edgeKeyId now =>
    (s.registry.completeEnrolment platform input edgeKeyId now).map fun (registry, completion) =>
      ({ s with registry }, .completed completion)
  | .withdrawEdge principal organisationId edgeId now =>
    let (registry, answer) := s.registry.withdraw principal organisationId edgeId now
    some ({ s with registry }, answer)

def step (s : State δ) (label : Label) : Option (State δ) := (s.call platform label).map (·.1)

def answered (s : State δ) (label : Label) : Option Answer := (s.call platform label).map (·.2)

end Service

end Sentinel.EdgeRegistry
