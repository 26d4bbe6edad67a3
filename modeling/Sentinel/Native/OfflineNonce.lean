import Sentinel.Native.OfflineAdmissibility
import Sentinel.Native.OfflineIngress

/-! # Concurrent submissions of queued operations

`DeviceOfflineIngressService.submit` (`device-offline-ingress.service.ts`) between its awaits on
the anti-replay store.  A submission reads the identity of its statement in one transaction, is
judged on what it read, spends the identity in a second transaction and goes on to the domain;
other submissions take steps in between. -/

namespace Sentinel.OfflineNonce

open OfflineAdmissibility DeviceReplay
open OfflineIngress (Authentication GatewayContext IngressRefusal QueuedEnvelope
  admittedOfflineOperationKinds bindEnvelopeToContext)

/-- The fields of an envelope that the ingress binds. -/
def queued (envelope : OperationEnvelope) : QueuedEnvelope :=
  { offlineOperationId := envelope.offlineOperationId
    organisationId := envelope.organisationId
    siteId := envelope.siteId
    actorUserId := envelope.actorUserId
    deviceId := envelope.deviceId
    keyId := envelope.keyId
    keyVersion := envelope.keyVersion
    operationKind := OfflineIngress.OperationKind.wire envelope.operationKind
    policyLeaseId := envelope.policyLeaseId }

/-- What a submission carries, and what the server's tables answer it before the store is asked. -/
structure Request where
  authentication : Authentication
  /-- `DeviceOfflineOperationEnvelopeSchema.safeParse`. -/
  envelope : Option OperationEnvelope
  registeredKey : Option RegistryKeyRecord
  /-- The digest of the payload that arrived. -/
  expectedPayloadDigest : String
  signatureVerified : Bool
  lease : Option PolicyLease
  deviceRevokedAt : Option String

/-- A submission whose envelope is bound to its context, key and profile. -/
structure Submission where
  context : GatewayContext
  envelope : OperationEnvelope
  registeredKey : RegistryKeyRecord
  profile : String
  expectedPayloadDigest : String
  signatureVerified : Bool
  lease : Option PolicyLease
  deviceRevokedAt : Option String
  sameOrganisation : envelope.organisationId = context.organisationId
  boundProfile : bindClaimedSignatureProfile envelope.claimedSignatureProfile
    registeredKey.signatureProfile = some profile
deriving DecidableEq

/-- The one-shot identity of the queued statement. -/
def Submission.identity (submission : Submission) : ReplayIdentity :=
  submission.envelope.replayIdentity

/-- What the queued statement's fingerprint is taken of. -/
def Submission.statement (submission : Submission) : StatementInput :=
  submission.envelope.statementInput submission.profile

/-- What the ingress takes from the clock and from cryptography. -/
structure Platform (δ : Type) where
  /-- `Date.parse`. -/
  parseInstant : String → Option Int
  /-- `deviceOfflineOperationFingerprint`. -/
  fingerprint : StatementInput → String
  /-- SHA-256 of a replay key. -/
  digest : ReplayIdentity → δ

/-- `earliestInstant`: an instant that cannot be read is one all the same. -/
def earliestInstant (parseInstant : String → Option Int) : Option String → Option String →
    Option String
  | none, right => right
  | left, none => left
  | some left, some right =>
    match parseInstant left, parseInstant right with
    | none, _ => some left
    | _, none => some right
    | some leftMs, some rightMs => if leftMs ≤ rightMs then some left else some right

theorem sameOrganisation_of_bind {envelope : OperationEnvelope} {context : GatewayContext}
    {siteId : String} (h : bindEnvelopeToContext (queued envelope) context siteId = true) :
    envelope.organisationId = context.organisationId := by
  rw [bindEnvelopeToContext] at h
  simp only [Bool.and_eq_true, decide_eq_true_eq] at h
  exact h.1.1.1.1

section Submit

variable {δ : Type} (platform : Platform δ)

/-- `submit` up to the read of the anti-replay store. -/
def prepare (request : Request) : Except IngressRefusal Submission :=
  match request.authentication with
  | .conflict => .error .authenticationConflict
  | .refused => .error .unauthenticated
  | .authenticated context targetId siteId =>
    match request.envelope with
    | none => .error (.refused .envelopeMalformed (some "QUEUED_ENVELOPE_UNPARSEABLE"))
    | some envelope =>
      if targetId ≠ envelope.offlineOperationId then
        .error (.refused .envelopeMalformed (some "QUEUED_OPERATION_ID_MISBOUND"))
      else if hbound : bindEnvelopeToContext (queued envelope) context siteId = true then
        if !admittedOfflineOperationKinds.contains (queued envelope).operationKind then
          .error (.refused .offlineEnvelopeRefused (some "OPERATION_KIND_NOT_ADMITTED"))
        else
          match request.registeredKey with
          | none => .error (.refused .registryKeyUnresolvable none)
          | some key =>
            if envelope.keyId ≠ key.keyId ∨ envelope.keyVersion ≠ key.keyVersion then
              .error (.refused .offlineEnvelopeRefused (some "REGISTRY_KEY_MISMATCH"))
            else
              match hprofile : bindClaimedSignatureProfile envelope.claimedSignatureProfile
                key.signatureProfile with
              | none =>
                .error (.refused .offlineEnvelopeRefused (some "SIGNATURE_PROFILE_CLAIM_MISMATCH"))
              | some profile =>
                .ok
                  { context, envelope, profile
                    registeredKey := key
                    expectedPayloadDigest := request.expectedPayloadDigest
                    signatureVerified := request.signatureVerified
                    lease := request.lease
                    deviceRevokedAt := earliestInstant platform.parseInstant
                      request.deviceRevokedAt key.revokedAt
                    sameOrganisation := sameOrganisation_of_bind hbound
                    boundProfile := hprofile }
      else .error (.refused .offlineEnvelopeRefused (some "IDENTITY_BINDING_MISMATCH"))

/-- The facts of a submission as the route's model takes them, with the evaluator's refusal. -/
def Request.ingressFacts (request : Request) (inadmissible : Option String) :
    OfflineIngress.IngressFacts :=
  { authentication := request.authentication
    envelope := request.envelope.map queued
    registeredKey := request.registeredKey.map fun key => ⟨key.keyId, key.keyVersion⟩
    profileBound :=
      match request.envelope, request.registeredKey with
      | some envelope, some key =>
        (bindClaimedSignatureProfile envelope.claimedSignatureProfile key.signatureProfile).isSome
      | _, _ => false
    inadmissible }

def buildConsumptionFact (identity : ReplayIdentity) (statementFingerprint : String) :
    Option (ConsumptionRow δ) → ConsumptionFact
  | none => ⟨identity, statementFingerprint, .firstSeen⟩
  | some peeked =>
    let ref := JsText.trim (peeked.storedOutcomeRef.getD "")
    if peeked.statementFingerprint = statementFingerprint ∧ ref ≠ "" then
      ⟨identity, peeked.statementFingerprint, .exactDuplicate ref⟩
    else ⟨identity, peeked.statementFingerprint, .reusedWithChangedSemantics⟩

/-- What the evaluator is asked: no Edge witnesses a submission. -/
def Submission.admissibilityInput (submission : Submission) (peeked : Option (ConsumptionRow δ))
    (now : String) : AdmissibilityInput :=
  { envelope := submission.envelope
    lease := submission.lease
    witness := .none
    now
    expectedPayloadDigest := submission.expectedPayloadDigest
    deviceRevokedAt := submission.deviceRevokedAt
    signatureVerified := submission.signatureVerified
    registeredKey := submission.registeredKey
    consumption := buildConsumptionFact submission.identity
      (platform.fingerprint submission.statement) peeked }

def Submission.consumptionRow (submission : Submission) : ConsumptionRow δ :=
  { organisationId := submission.context.organisationId
    replayIdentityDigest := platform.digest submission.identity
    statementFingerprint := platform.fingerprint submission.statement
    storedOutcomeRef := some submission.envelope.offlineOperationId }

/-! ## The submissions and the store -/

/-- Where a submission stands, with what its calls have returned. -/
inductive Phase (δ : Type)
  | peeking (submission : Submission)
  /-- Admitted on what it peeked. -/
  | consuming (submission : Submission) (peeked : Option (ConsumptionRow δ))
  /-- `consume` has returned; what it returned is not looked at. -/
  | forwarding (submission : Submission) (consumption : Consumption)
  /-- `FieldOfflineReplayService.submit` has been called. -/
  | forwarded (submission : Submission) (consumption : Consumption)
  | refused (refusal : IngressRefusal)
  | failed
deriving DecidableEq

structure State (δ : Type) where
  consumptions : Consumptions δ
  submissions : List (Phase δ)

/-- No submission yet, whatever other ceremonies have spent. -/
def State.initial (consumptions : Consumptions δ) : State δ := { consumptions, submissions := [] }

inductive Label (δ : Type)
  | submit (request : Request)
  | peek (i : Nat) (now : String)
  | consume (i : Nat)
  | forward (i : Nat)
  /-- A call of the submission throws, or its process dies. -/
  | fail (i : Nat)
  /-- Another ceremony spends an identity. -/
  | consumeElsewhere (row : ConsumptionRow δ)

def State.moves (s : State δ) (i : Nat) (phase : Phase δ) : State δ :=
  { s with submissions := s.submissions.set i phase }

variable [DecidableEq δ]

def Submission.stored (submission : Submission) (consumptions : Consumptions δ) :
    Option (ConsumptionRow δ) :=
  consumptions.peek submission.context.organisationId (platform.digest submission.identity)

/-- A submission that has read the store, judged on what it read. -/
def Submission.judged (submission : Submission) (peeked : Option (ConsumptionRow δ))
    (now : String) : Phase δ :=
  match evaluateOfflineOperationAdmissibility platform.parseInstant platform.fingerprint
    (submission.admissibilityInput platform peeked now) with
  | .error refusal => .refused (.refused .offlineEnvelopeRefused (some refusal.text))
  | .ok _ => .consuming submission peeked

def step (s : State δ) : Label δ → Option (State δ)
  | .submit request =>
    match prepare platform request with
    | .error refusal => some { s with submissions := s.submissions ++ [.refused refusal] }
    | .ok submission => some { s with submissions := s.submissions ++ [.peeking submission] }
  | .peek i now =>
    match s.submissions[i]? with
    | some (.peeking submission) =>
      let peeked := submission.stored platform s.consumptions
      some (s.moves i (submission.judged platform peeked now))
    | _ => none
  | .consume i =>
    match s.submissions[i]? with
    | some (.consuming submission _) =>
      let (consumptions, consumption) :=
        s.consumptions.consume (submission.consumptionRow platform)
      some { s.moves i (.forwarding submission consumption) with consumptions }
    | _ => none
  | .forward i =>
    match s.submissions[i]? with
    | some (.forwarding submission consumption) =>
      some (s.moves i (.forwarded submission consumption))
    | _ => none
  | .fail i =>
    match s.submissions[i]? with
    | some (.peeking _) | some (.consuming _ _) | some (.forwarding _ _) => some (s.moves i .failed)
    | _ => none
  | .consumeElsewhere row => some { s with consumptions := (s.consumptions.consume row).1 }

end Submit

end Sentinel.OfflineNonce
