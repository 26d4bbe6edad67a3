import Sentinel.Native.DeviceRegistry

/-! # The device trust service

`DeviceTrustService` (`modules/shield/device-trust.service.ts`): attestation observations, trust
changes and dispositions, each as the reads it does on its own and the one transaction it then runs,
and beside them the writes of a key rotation.  Within a transaction the standing is read first and
the rest commits as one step. -/

namespace Sentinel.DeviceRegistry

open DeviceTrust (Trust AttestationStanding KeyStorage KeyLifecycleState TransitionRefusal
  TransitionBasis ControlledRestorationDecision evaluateDeviceTrustTransition
  attestationStandingPermitsTrusted deviceTrustRestorationRequiredFrom
  deviceTrustRestorationCapability deviceTrustUpwardTargets)

/-- The refusals the service answers with (`ShieldRefusal`). -/
inductive ShieldRefusal
  | deviceNotFound
  | deviceKeyNotFound
  | deviceCredentialWithdrawn
  | transition (refusal : TransitionRefusal)
deriving DecidableEq

def actionDeviceTrustManage : String := "device.trust.manage"

def actionDeviceTrustRestore : String := "device.trust.restore"

def actionDeviceRevoke : String := "device.revoke"

/-! ## The transition -/

/-- The input of `applyTrustTransition`. -/
structure TransitionInput where
  device : DeviceRow
  key : Option DeviceKeyRow
  target : Trust
  reason : String
  evidenceRefs : List String
  authorisedByUserId : Option String
  restorationDecision : Option ControlledRestorationDecision
  standing : AttestationStanding
  now : Int
  traceId : String

/-- The basis handed to the evaluator. -/
def TransitionInput.basis (input : TransitionInput) (db : Db) : TransitionBasis where
  controlledRestoration := input.restorationDecision
  attestationStanding := input.standing
  -- without a key row SOFTWARE is the fail-closed stand-in
  keyStorage := input.key.elim .software DeviceKeyRow.keyStorage
  credentialContinuityIntact := credentialContinuityIntact input.key
  revoked := input.device.revokedAt.isSome || !credentialContinuityIntact input.key
  previouslyEligible := db.hasHeldTrusted input.device.organisationId input.device.id

inductive ChangeDeviceTrustOutcome
  | changed (previousTrust newTrust : Trust)
  | refused (refusal : ShieldRefusal)

def applyTrustTransition (input : TransitionInput) (db : Db) : ChangeDeviceTrustOutcome × Db :=
  match evaluateDeviceTrustTransition input.device.trust input.target (input.basis db) with
  | some refusal => (.refused (.transition refusal), db)
  | none =>
    let (moved, db) :=
      db.setDeviceTrust input.device.organisationId input.device.id input.device.trust input.target
    if moved ≠ 1 then (.refused .deviceCredentialWithdrawn, db)
    else
      (.changed input.device.trust input.target,
        db.appendTrustTransition
          { organisationId := input.device.organisationId
            deviceId := input.device.id
            previousTrust := input.device.trust
            newTrust := input.target
            reason := input.reason
            evidenceRefs := input.evidenceRefs ++ ["attestation:" ++ standingText input.standing]
            authorisedByUserId := input.authorisedByUserId
            occurredAt := input.now
            traceId := input.traceId })

/-! ## Attestation observations -/

structure AttestationInput where
  organisationId : String
  deviceId : String
  traceId : String

/-- What the attestation seam answers with. -/
structure AttestationEvidence where
  outcome : AttestationOutcome
  attestationReference : Option String
  evaluatedAt : Int

/-- The transition an observation asks for. -/
def attestationMove (input : AttestationInput) (device : DeviceRow) (key : DeviceKeyRow)
    (observation : AttestationObservationRow) (standing : AttestationStanding) (target : Trust)
    (reason : String) : TransitionInput :=
  { device, target, reason, standing
    key := some key
    evidenceRefs := ["observation:" ++ observation.id]
    authorisedByUserId := none
    restorationDecision := none
    now := observation.observedAt
    traceId := input.traceId }

/-- The rest of `recordAttestationObservation`'s transaction, once the standing over the
    history with the observation in it is known.  `device` and `key` are the rows as they
    were read before the transaction. -/
def observeTransaction (input : AttestationInput) (device : DeviceRow) (key : DeviceKeyRow)
    (observation : AttestationObservationRow) (standing : AttestationStanding) (db : Db) : Db :=
  let db := db.appendAttestationObservation observation
  let move := attestationMove input device key observation standing
  let envelope : SecurityEventEnvelope :=
    { organisationId := input.organisationId
      deviceId := device.id
      actorUserId := none
      occurredAt := observation.observedAt
      traceId := input.traceId }
  if standing = .negative ∧ device.trust ≠ .quarantined then
    let reason := "ATTESTATION_" ++ observation.outcome.text
    match applyTrustTransition (move .quarantined reason) db with
    | (.changed previousTrust _, db) =>
      db.recordEvent envelope (.deviceQuarantined previousTrust reason)
    | (.refused _, db) => db
  else if device.trust = .trusted ∧ !attestationStandingPermitsTrusted standing then
    -- ageing: ignorance, so DEGRADED and not QUARANTINED
    let reason := "ATTESTATION_STANDING_" ++ standingText standing
    match applyTrustTransition (move .degraded reason) db with
    | (.changed previousTrust newTrust, db) =>
      db.recordEvent envelope (.trustChanged previousTrust newTrust reason none)
    | (.refused _, db) => db
  else db

/-! ## Trust changes -/

structure ChangeInput where
  organisationId : String
  deviceId : String
  target : Trust
  reason : String
  traceId : String

variable (principal : Principal) (input : DispositionInput) (device : DeviceRow)
  (key : DeviceKeyRow) (db : Db) (standing : AttestationStanding)

/-- The checks of `changeDeviceTrust` on the device and the sites read before the
    transaction. -/
def changePrecheck (input : ChangeInput) (device : DeviceRow)
    (siteIds : List String) : Option ShieldRefusal :=
  if !checkGlobalDeviceMutationAuthority principal actionDeviceTrustManage input.organisationId
      siteIds then
    some .deviceNotFound
  else if deviceTrustRestorationRequiredFrom.contains device.trust ∧
      !principal.hasAction actionDeviceTrustRestore then
    some (.transition .restorationDecisionRequired)
  else none

/-- The rest of `changeDeviceTrust`'s transaction on the rows it is decided on. -/
def changeTransaction (input : ChangeInput) (subject : DeviceRow)
    (key : Option DeviceKeyRow) (standing : AttestationStanding) (now : Int) (db : Db) :
    ChangeDeviceTrustOutcome × Db :=
  let needsRestoration := deviceTrustRestorationRequiredFrom.contains subject.trust
  let mayRestore := principal.hasAction actionDeviceTrustRestore
  if needsRestoration ∧ !mayRestore then
    (.refused (.transition .restorationDecisionRequired), db)
  else
    let decision : Option ControlledRestorationDecision :=
      if needsRestoration ∧ mayRestore then
        some ⟨principal.userId, deviceTrustRestorationCapability, JsText.toISOString now⟩
      else none
    match applyTrustTransition
        { device := subject, key, target := input.target, reason := input.reason
          evidenceRefs := []
          authorisedByUserId := some principal.userId
          restorationDecision := decision
          standing, now, traceId := input.traceId } db with
    | (.changed previousTrust newTrust, db) =>
      (.changed previousTrust newTrust,
        db.recordEvent
          { organisationId := input.organisationId, deviceId := subject.id
            actorUserId := some principal.userId, occurredAt := now, traceId := input.traceId }
          (.trustChanged previousTrust newTrust input.reason (some principal.userId)))
    | (.refused refusal, db) => (.refused refusal, db)

/-! ## Dispositions -/

structure DispositionInput where
  organisationId : String
  deviceId : String
  disposition : RevocationDisposition
  reason : String
  traceId : String

inductive DeclareDispositionOutcome
  | declared (disposition : RevocationDisposition) (previousTrust newTrust : Trust)
      (keyStatus : KeyLifecycleState) (restorationPathRemains : Bool)
  | refused (refusal : ShieldRefusal)
deriving DecidableEq

/-- `newTrust`: where a disposition leaves the device. -/
def RevocationDisposition.newTrust : RevocationDisposition → Trust
  | compromisedKey => .compromised
  | lost | stolen => .quarantined

/-- `revokesDeviceCredential`: a LOST device may come back. -/
def RevocationDisposition.revokesDeviceCredential (disposition : RevocationDisposition) : Bool :=
  disposition ≠ .lost

/-- `keyTarget`: what becomes of the key. -/
def RevocationDisposition.keyTarget : RevocationDisposition → Option KeyLifecycleState
  | lost => none
  | stolen => some .revoked
  | compromisedKey => some .compromised

/-- The checks of `declareDisposition` on the device and the sites it has read. -/
def declarePrecheck (siteIds : List String) : Option ShieldRefusal :=
  if !checkGlobalDeviceMutationAuthority principal actionDeviceRevoke input.organisationId
      siteIds then
    some .deviceNotFound
  else if device.trust = .compromised then some (.transition .sourceStateTerminal)
  else none

/-- The check on the key, before the transaction opens. -/
def declareKeyPrecheck : Option ShieldRefusal :=
  match input.disposition.keyTarget with
  | none => none
  | some target =>
    if !canTransitionDeviceKeyLifecycle key.status target then some .deviceCredentialWithdrawn
    else none

def declarationEvents (previousTrust : Trust) (now : Int) : List SecurityEventPayload :=
  let disposition := input.disposition
  (match disposition with
    | .lost =>
      [.deviceLost previousTrust disposition.newTrust disposition,
        .deviceQuarantined previousTrust input.reason]
    | .stolen =>
      [.deviceStolen previousTrust disposition.newTrust disposition key.keyId key.keyVersion,
        .keyRevoked key.keyId key.keyVersion disposition]
    | .compromisedKey => [.keyCompromised key.keyId key.keyVersion disposition]) ++
  (if disposition.revokesDeviceCredential then
    [.deviceRevoked disposition previousTrust disposition.newTrust (JsText.toISOString now)]
  else [])

/-- The transition a declaration asks for. -/
def dispositionMove (now : Int) : TransitionInput :=
  { device, standing, now
    key := some key
    target := input.disposition.newTrust
    reason := input.reason
    evidenceRefs := ["disposition:" ++ input.disposition.text]
    authorisedByUserId := some principal.userId
    restorationDecision := none
    traceId := input.traceId }

/-- The key level of a declaration: what the key's status becomes, and a rollback when
    another path has moved the key. -/
def withdrawKey (now : Int) (db : Db) : Except ShieldRefusal (KeyLifecycleState × Db) :=
  match input.disposition.keyTarget with
  | none => .ok (key.status, db)
  | some target =>
    let (withdrawn, db) :=
      db.withdrawDeviceKey input.organisationId key.keyId key.status target now input.disposition
    if withdrawn ≠ 1 then .error .deviceCredentialWithdrawn else .ok (target, db)

/-- The rest of `declareDisposition`'s transaction.  An error is a rollback; a refusal
    returned normally commits what has been written. -/
def declareTransaction (now : Int) (db : Db) :
    Except ShieldRefusal (DeclareDispositionOutcome × Db) :=
  let disposition := input.disposition
  match applyTrustTransition (dispositionMove principal input device key standing now) db with
  | (.refused refusal, db) => .ok (.refused refusal, db)
  | (.changed previousTrust _, db) => do
    let db := db.setDeviceRevocation input.organisationId device.id disposition
      (if disposition.revokesDeviceCredential then some now else none) disposition.newTrust
    let (keyStatus, db) ← withdrawKey input key now db
    let envelope : SecurityEventEnvelope :=
      { organisationId := input.organisationId
        deviceId := device.id
        actorUserId := some principal.userId
        occurredAt := now
        traceId := input.traceId }
    let db := (declarationEvents input key previousTrust now).foldl (·.recordEvent envelope ·) db
    .ok (.declared disposition previousTrust disposition.newTrust keyStatus (disposition = .lost),
      db)

/-- The transaction seen from outside: a rollback leaves the tables as they were. -/
def commit : Except ShieldRefusal (DeclareDispositionOutcome × Db) → DeclareDispositionOutcome × Db
  | .error refusal => (.refused refusal, db)
  | .ok result => result

/-- `declareDisposition` with nothing else between its steps. -/
def declareDisposition (now : Int) (db : Db) : DeclareDispositionOutcome × Db :=
  match db.findDevice input.organisationId input.deviceId with
  | none => (.refused .deviceNotFound, db)
  | some device =>
    match declarePrecheck principal input device
        (db.listDeviceSiteIds input.organisationId device.id) with
    | some refusal => (.refused refusal, db)
    | none =>
      match db.currentKey device with
      | none => (.refused .deviceKeyNotFound, db)
      | some key =>
        match declareKeyPrecheck input key with
        | some refusal => (.refused refusal, db)
        | none =>
          commit db (declareTransaction principal input device key
            (effectiveAttestationStanding db.attestationObservations input.organisationId
              device.id now) now db)

/-! ## Key rotation -/

/-- What a rotation request that has passed its checks asks the registry to do. -/
structure RotationInput where
  organisationId : String
  deviceId : String
  source : String × Nat
  target : String × Nat
  keyStorage : KeyStorage

/-- The writes of a key rotation: three with one fate. -/
def rotateTransaction (input : RotationInput) (now : Int) (db : Db) : Option Db := do
  let (superseded, db) := db.markDeviceKeyRotated input.organisationId input.source.1 now
  if superseded ≠ 1 then none
  else
    let db ← db.createDeviceKey
      { organisationId := input.organisationId
        deviceId := input.deviceId
        keyId := input.target.1
        keyVersion := input.target.2
        keyStorage := input.keyStorage
        status := .current
        rotatedAt := none
        revokedAt := none
        revocationDisposition := none }
    let (advanced, db) :=
      db.advanceDeviceCurrentKey input.organisationId input.deviceId input.source input.target
    if advanced ≠ 1 then none else some db

/-! ## Calls in progress -/

/-- Where a call stands. -/
inductive Worker
  | observe (input : AttestationInput)
  | observeKey (input : AttestationInput) (device : DeviceRow)
  | observeEvaluate (input : AttestationInput) (device : DeviceRow) (key : DeviceKeyRow)
  | observeStanding (input : AttestationInput) (device : DeviceRow) (key : DeviceKeyRow)
      (evidence : AttestationEvidence)
  | observeCommit (input : AttestationInput) (device : DeviceRow) (key : DeviceKeyRow)
      (observation : AttestationObservationRow) (standing : AttestationStanding)
  | change (principal : Principal) (input : ChangeInput)
  | changeSites (principal : Principal) (input : ChangeInput) (device : DeviceRow)
  | changeStanding (principal : Principal) (input : ChangeInput) (device : DeviceRow)
  | changeCommit (principal : Principal) (input : ChangeInput) (device : DeviceRow)
      (key : Option DeviceKeyRow) (standing : AttestationStanding) (now : Int)
  | declare (principal : Principal) (input : DispositionInput)
  | declareSites (principal : Principal) (input : DispositionInput) (device : DeviceRow)
  | declareKey (principal : Principal) (input : DispositionInput) (device : DeviceRow)
  | declareStanding (principal : Principal) (input : DispositionInput) (device : DeviceRow)
      (key : DeviceKeyRow)
  | declareCommit (principal : Principal) (input : DispositionInput) (device : DeviceRow)
      (key : DeviceKeyRow) (standing : AttestationStanding) (now : Int)
  | rotate (input : RotationInput)
  | observed (result : Except ShieldRefusal AttestationOutcome)
  | changed (outcome : ChangeDeviceTrustOutcome)
  | declared (outcome : DeclareDispositionOutcome)
  | rotated (done : Bool)

/-- The choices of the environment in one step: the database's clock, the attestation
    seam's answer, and the id the database generates for an observation. -/
structure Env where
  now : Int := 0
  evidence : AttestationEvidence := ⟨.unavailable, none, 0⟩
  observationId : String := ""

/-- A committed attestation observation, with the trust of the device row right after it. -/
structure AttestationCommit where
  organisationId : String
  deviceId : String
  standing : AttestationStanding
  trust : Option Trust
deriving DecidableEq

/-- The rows an upward change is decided on are locked, hence those of the commit; any
    other change is decided on those read earlier. -/
def changeSubject (input : ChangeInput) (device : DeviceRow)
    (key : Option DeviceKeyRow) : Option (DeviceRow × Option DeviceKeyRow) :=
  if deviceTrustUpwardTargets.contains input.target then
    (db.findDevice input.organisationId device.id).map fun locked => (locked, db.currentKey locked)
  else some (device, key)

/-- The next step of a call; `none` when it has returned. -/
def Worker.advance (env : Env) : Worker → Option (Db × Worker × List AttestationCommit)
  | .observe input =>
    match db.findDevice input.organisationId input.deviceId with
    | none => some (db, .observed (.error .deviceNotFound), [])
    | some device => some (db, .observeKey input device, [])
  | .observeKey input device =>
    match db.currentKey device with
    | none => some (db, .observed (.error .deviceKeyNotFound), [])
    | some key => some (db, .observeEvaluate input device key, [])
  | .observeEvaluate input device key =>
    some (db, .observeStanding input device key env.evidence, [])
  | .observeStanding input device key evidence =>
    let observation : AttestationObservationRow :=
      { id := env.observationId
        organisationId := input.organisationId
        deviceId := some device.id
        outcome := evidence.outcome
        attestationReference := evidence.attestationReference
        evaluatedAt := evidence.evaluatedAt
        observedAt := env.now
        traceId := input.traceId }
    -- the transaction sees its own row and those committed so far
    let standing := effectiveAttestationStanding (db.attestationObservations ++ [observation])
      input.organisationId device.id env.now
    some (db, .observeCommit input device key observation standing, [])
  | .observeCommit input device key observation standing =>
    let db := observeTransaction input device key observation standing db
    some (db, .observed (.ok observation.outcome),
      [{ organisationId := device.organisationId
         deviceId := device.id
         standing
         trust := (db.findDevice device.organisationId device.id).map (·.trust) }])
  | .change principal input =>
    match db.findDevice input.organisationId input.deviceId with
    | none => some (db, .changed (.refused .deviceNotFound), [])
    | some device => some (db, .changeSites principal input device, [])
  | .changeSites principal input device =>
    match changePrecheck principal input device
        (db.listDeviceSiteIds input.organisationId device.id) with
    | some refusal => some (db, .changed (.refused refusal), [])
    | none => some (db, .changeStanding principal input device, [])
  | .changeStanding principal input device =>
    some (db, .changeCommit principal input device (db.currentKey device)
      (effectiveAttestationStanding db.attestationObservations input.organisationId device.id
        env.now) env.now, [])
  | .changeCommit principal input device key standing now =>
    match changeSubject db input device key with
    | none => some (db, .changed (.refused .deviceNotFound), [])
    | some (subject, key) =>
      let (outcome, db) := changeTransaction principal input subject key standing now db
      some (db, .changed outcome, [])
  | .declare principal input =>
    match db.findDevice input.organisationId input.deviceId with
    | none => some (db, .declared (.refused .deviceNotFound), [])
    | some device => some (db, .declareSites principal input device, [])
  | .declareSites principal input device =>
    match declarePrecheck principal input device
        (db.listDeviceSiteIds input.organisationId device.id) with
    | some refusal => some (db, .declared (.refused refusal), [])
    | none => some (db, .declareKey principal input device, [])
  | .declareKey principal input device =>
    match db.currentKey device with
    | none => some (db, .declared (.refused .deviceKeyNotFound), [])
    | some key =>
      match declareKeyPrecheck input key with
      | some refusal => some (db, .declared (.refused refusal), [])
      | none => some (db, .declareStanding principal input device key, [])
  | .declareStanding principal input device key =>
    some (db, .declareCommit principal input device key
      (effectiveAttestationStanding db.attestationObservations input.organisationId device.id
        env.now) env.now, [])
  | .declareCommit principal input device key standing now =>
    let (outcome, db) :=
      commit db (declareTransaction principal input device key standing now db)
    some (db, .declared outcome, [])
  | .rotate input =>
    match rotateTransaction input env.now db with
    | none => some (db, .rotated false, [])
    | some db => some (db, .rotated true, [])
  | .observed .. | .changed .. | .declared .. | .rotated .. => none

/-! ## The system -/

structure State where
  db : Db
  workers : List Worker
  /-- Every attestation observation committed so far. -/
  commits : List AttestationCommit

/-- A registry nothing is in progress on. -/
def State.idle : State := { db, workers := [], commits := [] }

/-- The calls a client can start. -/
inductive Call
  | recordAttestationObservation (input : AttestationInput)
  | changeDeviceTrust (principal : Principal) (input : ChangeInput)
  | declareDisposition (principal : Principal) (input : DispositionInput)
  | rotateKey (input : RotationInput)

def Call.worker : Call → Worker
  | recordAttestationObservation input => .observe input
  | changeDeviceTrust principal input => .change principal input
  | declareDisposition principal input => .declare principal input
  | rotateKey input => .rotate input

inductive Label
  | call (call : Call)
  | advance (worker : Nat) (env : Env)

/-- One step of the system: a call comes in, or a worker moves. -/
def step (s : State) : Label → Option State
  | .call call => some { s with workers := s.workers ++ [call.worker] }
  | .advance i env => do
    let worker ← s.workers[i]?
    let (db, worker', commits) ← worker.advance s.db env
    some { db, workers := s.workers.set i worker', commits := s.commits ++ commits }

end Sentinel.DeviceRegistry
