import Sentinel.Spec.OfflineNonceReuse

/-! # What admits a queued operation, and what does not

Two queued operations that differ in nothing but the device's own `created_at`, and in the
fingerprints that follow from it, get the same answer; and an operation is admitted exactly when
every condition the evaluator names holds. -/

namespace Sentinel.OfflineAdmissibility

open OfflineNonce (bindRegisteredKey_profile)
open DeviceTrust (deviceKeyStatePermitsNewOperations)

section

variable {parseInstant : String → Option Int} {fingerprint : StatementInput → String}

/-- The fingerprint of the statement, under the registry's signature profile. -/
def AdmissibilityInput.statementFingerprint (fingerprint : StatementInput → String)
    (input : AdmissibilityInput) : String :=
  fingerprint (input.envelope.statementInput input.registeredKey.signatureProfile)

/-! ## Device time -/

/-- A fingerprint kept with an operation, derived anew: the operation's own follows the operation, and
    any other stays what it is. -/
inductive Rederived (operation operation' : String) : String → String → Prop
  | own : Rederived operation operation' operation operation'
  | other (text : String) (h : text ≠ operation) (h' : text ≠ operation') :
      Rederived operation operation' text text

variable {operation operation' : String} {envelope : OperationEnvelope}
  {input : AdmissibilityInput}

theorem Rederived.iff {text text' : String}
    (h : Rederived operation operation' text text') : text = operation ↔ text' = operation' := by
  cases h with
  | own => exact iff_of_true rfl rfl
  | other text h h' => exact iff_of_false h h'

/-- The same witness, with the fingerprint of its receipt derived anew. -/
inductive SameWitness (operation operation' : String) : Witness → Witness → Prop
  | none : SameWitness operation operation' .none .none
  | edge (receipt : EdgeReceipt) (witnessed' : String) (key : EdgeKeyRecord) (verified : Bool)
      (h : Rederived operation operation' receipt.witnessedOperationFingerprint witnessed') :
      SameWitness operation operation' (.edge receipt key verified)
        (.edge { receipt with witnessedOperationFingerprint := witnessed' } key verified)

/-- The same input, dated otherwise by the device: what is derived from the date is derived anew. -/
structure Redated (fingerprint : StatementInput → String) (input input' : AdmissibilityInput) :
    Prop where
  envelope : input'.envelope = { input.envelope with createdAt := input'.envelope.createdAt }
  lease : input'.lease = input.lease
  now : input'.now = input.now
  expectedPayloadDigest : input'.expectedPayloadDigest = input.expectedPayloadDigest
  deviceRevokedAt : input'.deviceRevokedAt = input.deviceRevokedAt
  signatureVerified : input'.signatureVerified = input.signatureVerified
  registeredKey : input'.registeredKey = input.registeredKey
  replayIdentity : input'.consumption.replayIdentity = input.consumption.replayIdentity
  consumption : input'.consumption.consumption = input.consumption.consumption
  consumed : Rederived (input.statementFingerprint fingerprint)
    (input'.statementFingerprint fingerprint) input.consumption.statementFingerprint
      input'.consumption.statementFingerprint
  witness : SameWitness (input.statementFingerprint fingerprint)
    (input'.statementFingerprint fingerprint) input.witness input'.witness

/-- What an admission decides: the outcome to converge on if there is one, the clock that decided
    and its reading. -/
def Admission.verdict (admission : Admission) : Option String × TimeBasis × String :=
  (admission.storedOutcomeRef, admission.timeBasis, admission.establishedAt)

theorem judgeConsumption_redated {envelope' : OperationEnvelope}
    {fact fact' : ConsumptionFact} (hidentity : envelope'.replayIdentity = envelope.replayIdentity)
    (hreplay : fact'.replayIdentity = fact.replayIdentity)
    (hconsumption : fact'.consumption = fact.consumption)
    (habout : fact.statementFingerprint = operation ↔ fact'.statementFingerprint = operation') :
    judgeConsumption envelope' operation' fact' = judgeConsumption envelope operation fact := by
  rw [judgeConsumption, judgeConsumption, hidentity, hreplay, hconsumption]
  simp only [Ne, habout]

theorem witnessedTime_redated {createdAt : String}
    {witness witness' : Witness} (h : SameWitness operation operation' witness witness') :
    witnessedTime { envelope with createdAt } operation' witness' =
      witnessedTime envelope operation witness := by
  cases h with
  | none => rfl
  | edge receipt witnessed' key verified hwitnessed =>
    simp only [witnessedTime, Ne, hwitnessed.iff]

theorem bindRegisteredKey_bound {key : RegistryKeyRecord}
    {profile : String} (h : bindRegisteredKey envelope key = .ok profile) :
    profile = key.signatureProfile := by
  have hbound := bindRegisteredKey_profile h
  rw [bindClaimedSignatureProfile] at hbound
  split at hbound
  · cases hbound
  split at hbound
  · cases hbound
  · exact (Option.some.inj hbound).symm

/-- The evaluation on a bound key, whose statement has the fingerprint `operation`. -/
def verdictOn (parseInstant : String → Option Int) (input : AdmissibilityInput)
    (operation : String) : Except AdmissibilityRefusal (Option String × TimeBasis × String) := do
  bindStatement input
  let lease ← bindLease input.envelope input.lease
  let storedOutcomeRef ← judgeConsumption input.envelope operation input.consumption
  let (timeBasis, establishedAt) ← establishedTime input operation
  leaseInForce parseInstant lease establishedAt
  return (storedOutcomeRef, timeBasis, establishedAt)

/-- What an evaluation decides is decided on the registry's profile. -/
theorem evaluate_verdict (input : AdmissibilityInput) :
    (evaluateOfflineOperationAdmissibility parseInstant fingerprint input).map
        Admission.verdict =
      bindRegisteredKey input.envelope input.registeredKey >>= fun _ =>
        verdictOn parseInstant input (input.statementFingerprint fingerprint) := by
  rw [evaluateOfflineOperationAdmissibility]
  cases hbound : bindRegisteredKey input.envelope input.registeredKey with
  | error refusal => rfl
  | ok profile =>
    obtain rfl := bindRegisteredKey_bound hbound
    simp only [verdictOn, AdmissibilityInput.statementFingerprint, Except.ok_bind, Except.bind_map]
    rfl

/-- The answer does not depend on the device's date. -/
theorem evaluate_redated {input' : AdmissibilityInput} (h : Redated fingerprint input input') :
    (evaluateOfflineOperationAdmissibility parseInstant fingerprint input').map
        Admission.verdict =
      (evaluateOfflineOperationAdmissibility parseInstant fingerprint input).map
        Admission.verdict := by
  have hkey : bindRegisteredKey input'.envelope input'.registeredKey =
      bindRegisteredKey input.envelope input.registeredKey := by
    rw [h.envelope, h.registeredKey]
    rfl
  have hstatement : bindStatement input' = bindStatement input := by
    rw [bindStatement, bindStatement, h.signatureVerified, h.deviceRevokedAt,
      h.expectedPayloadDigest, h.envelope]
  have hlease : bindLease input'.envelope input'.lease = bindLease input.envelope input.lease := by
    rw [h.envelope, h.lease]
    rfl
  have hconsumed : judgeConsumption input'.envelope (input'.statementFingerprint fingerprint)
      input'.consumption =
        judgeConsumption input.envelope (input.statementFingerprint fingerprint)
          input.consumption := by
    refine judgeConsumption_redated ?_ h.replayIdentity h.consumption h.consumed.iff
    rw [h.envelope]
    rfl
  have htime : establishedTime input' (input'.statementFingerprint fingerprint) =
      establishedTime input (input.statementFingerprint fingerprint) := by
    rw [establishedTime, establishedTime, h.now, h.envelope, witnessedTime_redated h.witness]
  rw [evaluate_verdict, evaluate_verdict, verdictOn, verdictOn, hkey, hstatement, hlease, hconsumed,
    htime]

/-! ## The conditions -/

/-- The registry's record is about the key the envelope names, and the key may author new work. -/
structure KeyBinds (envelope : OperationEnvelope) (key : RegistryKeyRecord) : Prop where
  organisation : key.organisationId = envelope.organisationId
  device : key.deviceId = envelope.deviceId
  keyId : key.keyId = envelope.keyId
  keyVersion : key.keyVersion = envelope.keyVersion
  current : deviceKeyStatePermitsNewOperations key.status = true
  notRevoked : key.revokedAt = none
  profile : key.signatureProfile ∈ deviceSignatureProfiles
  claimed : envelope.claimedSignatureProfile = key.signatureProfile

theorem bindClaimedSignatureProfile_eq_some {claimed serverResolved bound : String} :
    bindClaimedSignatureProfile claimed serverResolved = some bound ↔
      serverResolved ∈ deviceSignatureProfiles ∧ claimed = serverResolved ∧
        bound = serverResolved := by
  rw [bindClaimedSignatureProfile]
  split
  · rename_i hunknown
    simp only [Bool.not_eq_true', ← Bool.not_eq_true, List.contains_iff_mem] at hunknown
    exact ⟨(fun h => nomatch h), fun h => absurd h.1 hunknown⟩
  · rename_i hknown
    simp only [Bool.not_eq_true, Bool.not_eq_false', List.contains_iff_mem] at hknown
    split
    · rename_i hother
      exact ⟨(fun h => nomatch h), fun h => absurd h.2.1 hother⟩
    · rename_i hsame
      rw [not_not] at hsame
      exact ⟨fun h => ⟨hknown, hsame, (Option.some.inj h).symm⟩, fun h => by rw [h.2.2]⟩

theorem bindRegisteredKey_ok_iff {key : RegistryKeyRecord} {profile : String} :
    bindRegisteredKey envelope key = .ok profile ↔
      KeyBinds envelope key ∧ profile = key.signatureProfile := by
  rw [bindRegisteredKey, Except.ite_error_eq_ok, Except.ite_error_eq_ok, Except.ite_error_eq_ok,
    Except.ite_error_eq_ok]
  simp only [not_or, not_not, Bool.not_eq_true, Bool.not_eq_false']
  constructor
  · rintro ⟨⟨horganisation, hdevice⟩, ⟨hkeyId, hkeyVersion⟩, hcurrent, hstands, h⟩
    cases hbound : bindClaimedSignatureProfile envelope.claimedSignatureProfile
        key.signatureProfile with
    | none =>
      rw [hbound] at h
      cases h
    | some bound =>
      rw [hbound] at h
      cases h
      obtain ⟨hprofile, hclaimed, rfl⟩ := bindClaimedSignatureProfile_eq_some.mp hbound
      exact ⟨⟨horganisation, hdevice, hkeyId, hkeyVersion, hcurrent, hstands, hprofile, hclaimed⟩,
        rfl⟩
  · rintro ⟨h, rfl⟩
    have hbound := bindClaimedSignatureProfile_eq_some.mpr ⟨h.profile, h.claimed, rfl⟩
    rw [hbound]
    exact ⟨⟨h.organisation, h.device⟩, ⟨h.keyId, h.keyVersion⟩, h.current, h.notRevoked, rfl⟩

/-- The lease is the one the envelope names, and it covers the actor and the kind of operation. -/
structure LeaseBinds (envelope : OperationEnvelope) (lease : PolicyLease) : Prop where
  leaseId : lease.leaseId = envelope.policyLeaseId
  organisation : lease.organisationId = envelope.organisationId
  site : lease.siteId = envelope.siteId
  device : lease.deviceId = envelope.deviceId
  actor : lease.actorUserId = envelope.actorUserId
  kind : envelope.operationKind ∈ lease.scope

theorem bindLease_ok_iff {lease : Option PolicyLease} {bound : PolicyLease} :
    bindLease envelope lease = .ok bound ↔ lease = some bound ∧ LeaseBinds envelope bound := by
  cases lease with
  | none => exact ⟨(fun h => nomatch h), fun h => nomatch h.1⟩
  | some lease =>
    rw [bindLease, Except.ite_error_eq_ok, Except.ite_error_eq_ok, Except.ite_error_eq_ok,
      Except.ite_error_eq_ok]
    simp only [not_or, not_not, Bool.not_eq_true, Bool.not_eq_false', List.contains_iff_mem]
    constructor
    · rintro ⟨hleaseId, ⟨horganisation, hsite, hdevice⟩, hactor, hkind, h⟩
      cases h
      exact ⟨rfl, hleaseId, horganisation, hsite, hdevice, hactor, hkind⟩
    · rintro ⟨hsome, h⟩
      cases hsome
      exact ⟨h.leaseId, ⟨h.organisation, h.site, h.device⟩, h.actor, h.kind, rfl⟩

/-- The reading is readable and within the lease, whose end is outside. -/
def InForce (parseInstant : String → Option Int) (lease : PolicyLease) (instant : String) : Prop :=
  ∃ reading issued expires, parseInstant instant = some reading ∧
    parseInstant lease.issuedAt = some issued ∧ parseInstant lease.expiresAt = some expires ∧
      issued ≤ reading ∧ reading < expires

theorem leaseInForce_ok_iff {lease : PolicyLease} {instant : String} {ok : Unit} :
    leaseInForce parseInstant lease instant = .ok ok ↔ InForce parseInstant lease instant := by
  rw [leaseInForce, classifyDevicePolicyLease, InForce]
  cases hreading : parseInstant instant with
  | none => simp
  | some reading =>
    cases hissued : parseInstant lease.issuedAt with
    | none => simp
    | some issued =>
      cases hexpires : parseInstant lease.expiresAt with
      | none => simp
      | some expires =>
        by_cases hearly : reading < issued
        · simp [hearly]
        by_cases hlate : expires ≤ reading
        · simp [hearly, hlate]
        · simp [hearly, hlate, Int.not_lt.mp hearly, Int.not_le.mp hlate]

/-- The consumption fact is about this statement, and its one-shot identity was not spent on another;
    an exact duplicate leaves the outcome to converge on. -/
structure ConsumptionBinds (envelope : OperationEnvelope) (operation : String)
    (fact : ConsumptionFact) (storedOutcomeRef : Option String) : Prop where
  consistent : fact.consumption.isConsistent = true
  identity : fact.replayIdentity = envelope.replayIdentity
  operation : fact.statementFingerprint = operation
  outcome : fact.consumption = .firstSeen ∧ storedOutcomeRef = none ∨
    ∃ ref, fact.consumption = .exactDuplicate ref ∧ storedOutcomeRef = some ref

theorem judgeConsumption_ok_iff {fact : ConsumptionFact} {storedOutcomeRef : Option String} :
    judgeConsumption envelope operation fact = .ok storedOutcomeRef ↔
      ConsumptionBinds envelope operation fact storedOutcomeRef := by
  rw [judgeConsumption, Except.ite_error_eq_ok, Except.ite_error_eq_ok]
  simp only [not_or, not_not, Bool.not_eq_true, Bool.not_eq_false']
  constructor
  · rintro ⟨hconsistent, ⟨hidentity, hoperation⟩, h⟩
    refine ⟨hconsistent, hidentity, hoperation, ?_⟩
    split at h
    · cases h
    next ref hduplicate => exact .inr ⟨ref, hduplicate, (Except.ok.inj h).symm⟩
    next hfirst => exact .inl ⟨hfirst, (Except.ok.inj h).symm⟩
  · intro h
    refine ⟨h.consistent, ⟨h.identity, h.operation⟩, ?_⟩
    obtain ⟨hfirst, rfl⟩ | ⟨ref, hduplicate, rfl⟩ := h.outcome
    · rw [hfirst]
    · rw [hduplicate]

/-- A registered and trusted Edge of the operation's tenant and site, whose key may still verify, has
    signed that it witnessed this operation. -/
structure WitnessBinds (envelope : OperationEnvelope) (operation : String) (receipt : EdgeReceipt)
    (key : EdgeKeyRecord) : Prop where
  organisation : key.organisationId = envelope.organisationId
  site : envelope.siteId ∈ key.authorisedSiteIds
  edgeId : key.edgeId = receipt.edgeId
  edgeKeyId : key.edgeKeyId = receipt.edgeKeyId
  edgeKeyVersion : key.edgeKeyVersion = receipt.edgeKeyVersion
  verifies : deviceKeyStatePermitsHistoricalVerification key.status = true
  notRevoked : key.revokedAt = none
  trusted : key.edgeTrust = .trusted
  profile : key.signatureProfile ∈ deviceSignatureProfiles
  claimed : receipt.claimedEdgeSignatureProfile = key.signatureProfile
  witnessed : receipt.witnessedOperationFingerprint = operation

theorem witnessedTime_ok_iff {time : String} {witness : Witness} :
    witnessedTime envelope operation witness = .ok time ↔
      ∃ receipt key, witness = .edge receipt key true ∧
        WitnessBinds envelope operation receipt key ∧ receipt.edgeTrustedTime = some time := by
  cases witness with
  | none => exact ⟨(fun h => nomatch h), fun ⟨_, _, h, _⟩ => nomatch h⟩
  | edge receipt key verified =>
    have hprofile : bindClaimedSignatureProfile receipt.claimedEdgeSignatureProfile
        key.signatureProfile ≠ none ↔ key.signatureProfile ∈ deviceSignatureProfiles ∧
          receipt.claimedEdgeSignatureProfile = key.signatureProfile := by
      rw [Option.ne_none_iff_exists']
      simp only [bindClaimedSignatureProfile_eq_some]
      exact ⟨fun ⟨_, h, h', _⟩ => ⟨h, h'⟩, fun ⟨h, h'⟩ => ⟨_, h, h', rfl⟩⟩
    simp only [witnessedTime, Except.ite_error_eq_ok, not_or, not_not, Bool.not_eq_true,
      Bool.not_eq_false', List.contains_iff_mem, hprofile]
    constructor
    · rintro ⟨horganisation, hsite, ⟨hedgeId, hkeyId, hversion, hverifies⟩, hstands, htrusted,
        ⟨hregistered, hclaimed⟩, rfl, hwitnessed, hread⟩
      have htime : receipt.edgeTrustedTime = some time := by
        split at hread
        · cases hread
        next reading hreading => rw [hreading, Except.ok.inj hread]
      exact ⟨receipt, key, rfl, ⟨horganisation, hsite, hedgeId, hkeyId, hversion, hverifies, hstands,
        htrusted, hregistered, hclaimed, hwitnessed⟩, htime⟩
    · rintro ⟨receipt', key', hsame, h, htime⟩
      obtain ⟨rfl, rfl, rfl⟩ := Witness.edge.inj hsame
      exact ⟨h.organisation, h.site, ⟨h.edgeId, h.edgeKeyId, h.edgeKeyVersion, h.verifies⟩,
        h.notRevoked, h.trusted, ⟨h.profile, h.claimed⟩, rfl, h.witnessed,
        by rw [htime]⟩

/-- The clock that decides: the Edge's for an operation bound in time, the server's for another. -/
def Decides (input : AdmissibilityInput) (operation : String) (admission : Admission) : Prop :=
  if requiresTimeWitness input.envelope.operationKind then
    admission.timeBasis = .edgeWitness ∧ ∃ receipt key, input.witness = .edge receipt key true ∧
      WitnessBinds input.envelope operation receipt key ∧
        receipt.edgeTrustedTime = some admission.establishedAt
  else admission.timeBasis = .serverReceipt ∧ admission.establishedAt = input.now

theorem establishedTime_ok_iff {admission : Admission} :
    establishedTime input operation = .ok (admission.timeBasis, admission.establishedAt) ↔
      Decides input operation admission := by
  rw [establishedTime, Decides]
  split
  · simp only [Except.map_eq_ok, witnessedTime_ok_iff, Prod.mk.injEq]
    constructor
    · rintro ⟨time, hwitness, hbasis, rfl⟩
      exact ⟨hbasis.symm, hwitness⟩
    · rintro ⟨hbasis, hwitness⟩
      exact ⟨_, hwitness, hbasis.symm, rfl⟩
  · rw [Except.ok.injEq, Prod.mk.injEq]
    exact and_congr eq_comm eq_comm

/-- Every condition the evaluator names: the key, the signature and the withdrawal of the device, the
    payload, the lease, the one-shot identity, and the clock that places the operation in the
    lease. -/
structure Admissible (parseInstant : String → Option Int) (fingerprint : StatementInput → String)
    (input : AdmissibilityInput) (admission : Admission) : Prop where
  key : KeyBinds input.envelope input.registeredKey
  signature : input.signatureVerified = true
  device : input.deviceRevokedAt = none
  payload : input.envelope.payloadDigest = input.expectedPayloadDigest
  lease : ∃ lease, input.lease = some lease ∧ LeaseBinds input.envelope lease ∧
    InForce parseInstant lease admission.establishedAt
  consumption : ConsumptionBinds input.envelope (input.statementFingerprint fingerprint)
    input.consumption admission.storedOutcomeRef
  clock : Decides input (input.statementFingerprint fingerprint) admission
  operation : admission.operationFingerprint = input.statementFingerprint fingerprint

theorem bindStatement_ok_iff {ok : Unit} :
    bindStatement input = .ok ok ↔ input.signatureVerified = true ∧ input.deviceRevokedAt = none ∧
      input.envelope.payloadDigest = input.expectedPayloadDigest := by
  rw [bindStatement, Except.ite_error_eq_ok, Except.ite_error_eq_ok, Except.ite_error_eq_ok]
  simp

/-- An operation is admitted exactly when every condition holds. -/
theorem evaluate_ok_iff {admission : Admission} :
    evaluateOfflineOperationAdmissibility parseInstant fingerprint input = .ok admission ↔
      Admissible parseInstant fingerprint input admission := by
  rw [evaluateOfflineOperationAdmissibility]
  simp only [Except.bind_eq_ok, bindRegisteredKey_ok_iff, bindStatement_ok_iff, bindLease_ok_iff,
    judgeConsumption_ok_iff, leaseInForce_ok_iff]
  constructor
  · rintro ⟨profile, ⟨hkey, rfl⟩, -, ⟨hsignature, hdevice, hpayload⟩, lease, ⟨hlease, hbinds⟩,
      storedOutcomeRef, hconsumption, ⟨timeBasis, establishedAt⟩, htime, -, hforce, h⟩
    cases h
    exact ⟨hkey, hsignature, hdevice, hpayload, ⟨lease, hlease, hbinds, hforce⟩, hconsumption,
      establishedTime_ok_iff.mp htime, rfl⟩
  · intro h
    obtain ⟨lease, hlease, hbinds, hforce⟩ := h.lease
    refine ⟨_, ⟨h.key, rfl⟩, (), ⟨h.signature, h.device, h.payload⟩, lease, ⟨hlease, hbinds⟩, _,
      h.consumption, _, establishedTime_ok_iff.mpr h.clock, (), hforce, ?_⟩
    exact congrArg (fun operationFingerprint => Except.ok { admission with operationFingerprint })
      h.operation.symm

/-- **Device time decides nothing.**  Inputs that differ in the device's date alone, with what is
derived from it derived anew, are answered alike. -/
theorem admissibility_ignores_createdAt :
    (∀ input input', Redated fingerprint input input' →
      (evaluateOfflineOperationAdmissibility parseInstant fingerprint input').map
          Admission.verdict =
        (evaluateOfflineOperationAdmissibility parseInstant fingerprint input).map
          Admission.verdict) ∧
      ∀ input admission,
        evaluateOfflineOperationAdmissibility parseInstant fingerprint input = .ok admission ↔
          Admissible parseInstant fingerprint input admission :=
  ⟨fun _ _ h => evaluate_redated h, fun _ _ => evaluate_ok_iff⟩

end

/-- The start of an assignment, witnessed by the site's Edge while its lease was in force and
    reconciled after. -/
def witnessedStart (createdAt : String) : AdmissibilityInput :=
  let envelope := { OfflineNonce.acknowledgement createdAt with operationKind := .fieldAssignmentStart }
  let operation := OfflineNonce.samplePlatform.fingerprint
    (envelope.statementInput "P256_ECDSA_SHA256")
  { envelope
    lease := some ⟨"lease-1", "org-a", "site-1", "device-1", "operative-1", [.fieldAssignmentStart],
      "2026-08-14T09:00:00.000Z", "2026-08-14T18:00:00.000Z"⟩
    witness := .edge
      ⟨"edge-1", "edge-key-1", 1, operation, some "2026-08-14T10:00:00.000Z", "P256_ECDSA_SHA256"⟩
      ⟨"org-a", "edge-1", "edge-key-1", 1, "P256_ECDSA_SHA256", .current, .trusted, ["site-1"], none⟩
      true
    now := "2026-08-15T10:00:00.000Z"
    expectedPayloadDigest := "payload"
    deviceRevokedAt := none
    signatureVerified := true
    registeredKey := ⟨"org-a", "device-1", "key-1", 1, "P256_ECDSA_SHA256", .current, none⟩
    consumption := ⟨envelope.replayIdentity, operation, .firstSeen⟩ }

theorem redated_witnessedStart (createdAt createdAt' : String) :
    Redated OfflineNonce.samplePlatform.fingerprint (witnessedStart createdAt)
      (witnessedStart createdAt') where
  envelope := rfl
  lease := rfl
  now := rfl
  expectedPayloadDigest := rfl
  deviceRevokedAt := rfl
  signatureVerified := rfl
  registeredKey := rfl
  replayIdentity := rfl
  consumption := rfl
  consumed := .own
  witness := .edge _ _ _ _ .own

/-- Dated back by years, the start is admitted on the same reading of the same clock. -/
theorem admissibility_ignores_createdAt_backdated :
    (evaluateOfflineOperationAdmissibility OfflineNonce.samplePlatform.parseInstant
        OfflineNonce.samplePlatform.fingerprint (witnessedStart "1999-01-01T00:00:00.000Z")).map
          Admission.verdict =
      .ok (none, .edgeWitness, "2026-08-14T10:00:00.000Z") ∧
    ∃ admission, Admissible OfflineNonce.samplePlatform.parseInstant
      OfflineNonce.samplePlatform.fingerprint (witnessedStart "2026-08-14T10:00:00.000Z")
        admission := by
  have hadmitted : evaluateOfflineOperationAdmissibility OfflineNonce.samplePlatform.parseInstant
      OfflineNonce.samplePlatform.fingerprint (witnessedStart "2026-08-14T10:00:00.000Z") =
        .ok ⟨.edgeWitness, "2026-08-14T10:00:00.000Z", "nonce-4 2026-08-14T10:00:00.000Z", none⟩ := by
    decide
  refine ⟨?_, _, (admissibility_ignores_createdAt.2 _ _).mp hadmitted⟩
  rw [admissibility_ignores_createdAt.1 _ _ (redated_witnessedStart "2026-08-14T10:00:00.000Z" _),
    hadmitted]
  rfl

end Sentinel.OfflineAdmissibility
