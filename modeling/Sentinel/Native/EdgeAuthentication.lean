import Sentinel.ForStd.Except
import Sentinel.Native.EdgeRegistry
import Sentinel.Native.EdgeRequest

/-! # The Edge authentication boundary

`EdgeAuthenticationService` (`modules/edge-gateway/edge-authentication.service.ts`) over the tables
of the Edge registry.  Each read of a call is a step, as is the transaction that consumes the
one-shot identity and the record in the audit.  `δ` is the digest of a replay key. -/

namespace Sentinel.EdgeAuthentication

open EdgeRegistry (Registry Uuid KeyRow EdgeRow KeyStatus EdgeTrust)
open EdgeRequest
open EdgeTrustedTime (isScopedId)
open DeviceReplay

inductive Refusal
  | proofMalformed | routeNotCanonical | requestBindingMismatch | edgeKeyNotResolved
  | edgeIdentityMismatch | edgeRecordNotRepresentable | edgeSiteBindingInvalid | edgeKeyNotUsable
  | edgeNotTrusted | edgeNotActive | bodyDigestMismatch | signatureProfileClaimMismatch
  | possessionNotProven | timeNotAuthoritative | trustedTimeClaimNotPlausible
  | replayFactInconsistent | requestReplayed

structure AuthenticationInput where
  /-- `none` where the strict object refuses the shape. -/
  proof : Option ProofFields
  method : String
  route : String
  body : Body

structure KeyRecord where
  organisationId : String
  edgeId : String
  edgeKeyId : String
  edgeKeyVersion : Nat
  publicKey : String
  publicKeyThumbprint : String
  signatureProfile : String
  status : KeyStatus
  edgeTrust : EdgeTrust
  authorisedSiteIds : List String
  revokedAt : Option Int

structure Context where
  edgeId : Uuid
  organisationId : String
  siteId : String
  registryKeyId : String
  signatureProfile : String
  purpose : Purpose
  method : Method
  route : String
  trustedTime : ClaimStanding
  statementFingerprint : String

/-- What the boundary takes from cryptography. -/
structure Platform (δ : Type) where
  registry : EdgeRegistry.Platform δ
  isCanonicalSignature : String → Bool
  /-- `decodeCanonicalP256PublicKey` takes the key. -/
  isCanonicalPublicKey : String → Bool
  sha256Hex : List UInt8 → String
  /-- The digest of `edgeRequestReplayKey`. -/
  requestDigest : ReplayIdentity → δ
  /-- The verdict of the crypto provider on a key, a message and a signature. -/
  verifies : String → String → String → Bool

/-! ## Reads -/

section Reads

variable {δ : Type}

/-- `findRegistryKeyByKeyIdAcrossTenants`: a key that two tenants name is none. -/
def findRegistryKeyByKeyIdAcrossTenants (registry : Registry δ) (edgeKeyId : String) :
    Option KeyRow :=
  match registry.keys.filter (·.edgeKeyId = edgeKeyId) with
  | [key] => some key
  | _ => none

def findRegistryKeyByKeyId (registry : Registry δ) (organisationId edgeKeyId : String) :
    Option KeyRow :=
  registry.keys.find? fun key => key.organisationId = organisationId ∧ key.edgeKeyId = edgeKeyId

end Reads

section Judge

variable {δ : Type} (platform : Platform δ)

/-- `EdgeRegistryKeyRecordSchema`. -/
def KeyRecord.parses (record : KeyRecord) : Bool :=
  isScopedId record.organisationId && isScopedId record.edgeId && isScopedId record.edgeKeyId &&
    (0 < record.edgeKeyVersion ∧ record.edgeKeyVersion ≤ 1000000 : Bool) &&
    platform.isCanonicalPublicKey record.publicKey && isDigest record.publicKeyThumbprint &&
    record.signatureProfile = EdgeRequest.signatureProfile &&
    0 < record.authorisedSiteIds.length && record.authorisedSiteIds.all isScopedId &&
    platform.registry.thumbprint record.publicKey = record.publicKeyThumbprint &&
    !(record.status = .revoked && record.revokedAt.isNone)

/-- The record `resolveEdgeRegistryKeyRecord` assembles from a key and its Edge. -/
def keyRecord (key : KeyRow) (edge : EdgeRow) : KeyRecord :=
  { organisationId := key.organisationId
    edgeId := key.edgeId.text
    edgeKeyId := key.edgeKeyId
    edgeKeyVersion := key.edgeKeyVersion
    publicKey := key.publicKey
    publicKeyThumbprint := key.publicKeyThumbprint
    signatureProfile
    status := key.status
    edgeTrust := edge.edgeTrust
    authorisedSiteIds := [edge.siteId]
    revokedAt := key.revokedAt }

def bindRequest (input : AuthenticationInput) : Except Refusal ProofFields :=
  match input.proof with
  | none => .error .proofMalformed
  | some proof =>
    if !proof.parses platform.isCanonicalSignature then .error .proofMalformed
    else if checkCanonicalEdgeRequestRoute input.route ≠ none then .error .routeNotCanonical
    else if input.method ≠ proof.method.text ∨ input.route ≠ proof.route then
      .error .requestBindingMismatch
    else .ok proof

/-- `verifySignature`, with the claim bound to the resolved profile. -/
def verifySignature (record : KeyRecord) (proof : ProofFields) (message : String) : Bool :=
  proof.claimedSignatureProfile = record.signatureProfile &&
    platform.isCanonicalSignature proof.signature &&
    platform.verifies record.publicKey message proof.signature

def checkRecord (input : AuthenticationInput) (proof : ProofFields) (edge : EdgeRow)
    (record : KeyRecord) : Except Refusal Unit :=
  if record.authorisedSiteIds ≠ [edge.siteId] then .error .edgeSiteBindingInvalid
  else if record.status ≠ .current ∨ record.revokedAt ≠ none then .error .edgeKeyNotUsable
  else if record.edgeTrust ≠ .trusted then .error .edgeNotTrusted
  else if edge.enrolmentState ≠ .active then .error .edgeNotActive
  else if platform.sha256Hex input.body.toBytes ≠ proof.bodyDigest then .error .bodyDigestMismatch
  else if proof.claimedSignatureProfile ≠ record.signatureProfile then
    .error .signatureProfileClaimMismatch
  else if !verifySignature platform record proof
      (canonicalEdgeRequestStatement (proof.statementInput record.signatureProfile)) then
    .error .possessionNotProven
  else .ok ()

def edgeRequestFingerprint (statement : StatementInput) : String :=
  platform.sha256Hex (canonicalEdgeRequestStatement statement).toUTF8.data.toList

/-- The slot a request is spent in: the tenant and the Edge are the registry's. -/
def replayIdentity (key : KeyRow) (proof : ProofFields) : ReplayIdentity :=
  { organisationId := key.organisationId
    edgeId := key.edgeId.text
    registryKeyId := proof.registryKeyId
    requestId := proof.requestId }

def consumptionRow (key : KeyRow) (proof : ProofFields) (record : KeyRecord) : ConsumptionRow δ :=
  let fingerprint := edgeRequestFingerprint platform (proof.statementInput record.signatureProfile)
  { organisationId := key.organisationId
    replayIdentityDigest := platform.requestDigest (replayIdentity key proof)
    statementFingerprint := fingerprint
    storedOutcomeRef := some fingerprint }

/-- `mintAuthenticatedEdgeContext`, of what the service hands it. -/
def mintContext (key : KeyRow) (edge : EdgeRow) (record : KeyRecord) (proof : ProofFields)
    (trustedTime : ClaimStanding) : Context :=
  { edgeId := key.edgeId
    organisationId := key.organisationId
    siteId := edge.siteId
    registryKeyId := record.edgeKeyId
    signatureProfile := record.signatureProfile
    purpose := proof.purpose
    method := proof.method
    route := proof.route
    trustedTime
    statementFingerprint :=
      edgeRequestFingerprint platform (proof.statementInput record.signatureProfile) }

end Judge

/-! ## Calls in progress -/

/-- `EdgeAuthenticationOutcome`, with the proof that was judged. -/
inductive Outcome
  | authenticated (proof : ProofFields) (context : Context)
  | refused (refusal : Refusal) (organisationId : Option String) (edgeId : Option Uuid)

/-- Where a call stands: the read or the write it does next. -/
inductive Phase
  | findKeyAcrossTenants (input : AuthenticationInput)
  | findEdge (input : AuthenticationInput) (proof : ProofFields) (key : KeyRow)
  | findKey (input : AuthenticationInput) (proof : ProofFields) (key : KeyRow) (edge : EdgeRow)
  | findRecordEdge (input : AuthenticationInput) (proof : ProofFields) (key : KeyRow)
      (edge : EdgeRow) (recordKey : KeyRow)
  | readClock (input : AuthenticationInput) (proof : ProofFields) (key : KeyRow) (edge : EdgeRow)
      (record : KeyRecord)
  | consume (input : AuthenticationInput) (proof : ProofFields) (key : KeyRow) (edge : EdgeRow)
      (record : KeyRecord) (trustedTime : ClaimStanding)
  | audit (input : AuthenticationInput) (outcome : Outcome)
  | answered (input : AuthenticationInput) (outcome : Outcome)
  | failed (input : AuthenticationInput)

/-- The choices of the environment in one step. -/
structure Env where
  /-- The database's clock. -/
  now : Int := 0
  /-- Whether the insert of the audit event goes through. -/
  audited : Bool := true

variable {δ : Type} [DecidableEq δ]

def refuseEdge (input : AuthenticationInput) (key : KeyRow) (refusal : Refusal) : Phase :=
  .audit input (.refused refusal (some key.organisationId) (some key.edgeId))

/-- A refusal before there is a tenant. -/
def refuse (input : AuthenticationInput) (refusal : Refusal) : Phase :=
  .audit input (.refused refusal none none)

/-- The outcome of a consumption. -/
def spent (platform : Platform δ) (input : AuthenticationInput) (proof : ProofFields) (key : KeyRow)
    (edge : EdgeRow) (record : KeyRecord) (trustedTime : ClaimStanding)
    (consumption : Consumption) : Phase :=
  if !consumption.isConsistent then refuseEdge input key .replayFactInconsistent
  else if consumption ≠ .firstSeen then refuseEdge input key .requestReplayed
  else .audit input (.authenticated proof (mintContext platform key edge record proof trustedTime))

/-- The next step of a call; `none` when it has returned. -/
def Phase.advance (platform : Platform δ) (registry : Registry δ) (env : Env) :
    Phase → Option (Registry δ × Phase)
  | .findKeyAcrossTenants input =>
    match bindRequest platform input with
    | .error refusal => some (registry, refuse input refusal)
    | .ok proof =>
      match findRegistryKeyByKeyIdAcrossTenants registry proof.registryKeyId with
      | none => some (registry, refuse input .edgeKeyNotResolved)
      | some key => some (registry, .findEdge input proof key)
  | .findEdge input proof key =>
    match registry.findEdge key.organisationId key.edgeId with
    | none => some (registry, refuse input .edgeKeyNotResolved)
    | some edge =>
      if proof.edgeId ≠ key.edgeId.text then
        some (registry, refuseEdge input key .edgeIdentityMismatch)
      else some (registry, .findKey input proof key edge)
  | .findKey input proof key edge =>
    match findRegistryKeyByKeyId registry key.organisationId proof.registryKeyId with
    | none => some (registry, refuseEdge input key .edgeRecordNotRepresentable)
    | some recordKey => some (registry, .findRecordEdge input proof key edge recordKey)
  | .findRecordEdge input proof key edge recordKey =>
    match registry.findEdge key.organisationId recordKey.edgeId with
    | none => some (registry, refuseEdge input key .edgeRecordNotRepresentable)
    | some recordEdge =>
      let record := keyRecord recordKey recordEdge
      if !record.parses platform then
        some (registry, refuseEdge input key .edgeRecordNotRepresentable)
      else
        match checkRecord platform input proof edge record with
        | .error refusal => some (registry, refuseEdge input key refusal)
        | .ok _ => some (registry, .readClock input proof key edge record)
  | .readClock input proof key edge record =>
    match classifyEdgeRequestTrustedTimeClaim proof env.now with
    | .notAuthoritative => some (registry, refuseEdge input key .timeNotAuthoritative)
    | .futureSkewed => some (registry, refuseEdge input key .trustedTimeClaimNotPlausible)
    | trustedTime => some (registry, .consume input proof key edge record trustedTime)
  | .consume input proof key edge record trustedTime =>
    let (consumptions, consumption) :=
      registry.consumptions.consume (consumptionRow platform key proof record)
    some ({ registry with consumptions },
      spent platform input proof key edge record trustedTime consumption)
  | .audit input outcome =>
    some (registry, if env.audited then .answered input outcome else .failed input)
  | .answered .. | .failed _ => none

/-! ## The system -/

structure State (δ : Type) where
  registry : EdgeRegistry.State δ
  calls : List Phase

def State.init : State δ := { registry := .init, calls := [] }

inductive Label (δ : Type)
  /-- A call of the enrolment ceremony, or a withdrawal. -/
  | registry (label : EdgeRegistry.Label)
  | authenticate (input : AuthenticationInput)
  | advance (call : Nat) (env : Env)
  /-- Another ceremony consumes its identity. -/
  | consume (row : ConsumptionRow δ)

def step (platform : Platform δ) (s : State δ) : Label δ → Option (State δ)
  | .registry label =>
    (EdgeRegistry.step platform.registry s.registry label).map fun registry => { s with registry }
  | .authenticate input => some { s with calls := s.calls ++ [.findKeyAcrossTenants input] }
  | .advance i env => do
    let phase ← s.calls[i]?
    let (registry, phase') ← phase.advance platform s.registry.registry env
    some { registry := { s.registry with registry }, calls := s.calls.set i phase' }
  | .consume row =>
    some { s with
           registry := { s.registry with
             registry := { s.registry.registry with
               consumptions := (s.registry.registry.consumptions.consume row).1 } } }

end Sentinel.EdgeAuthentication
