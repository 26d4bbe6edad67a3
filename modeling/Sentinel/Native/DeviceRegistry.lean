import Sentinel.ForStd.JsText
import Sentinel.ForStd.Table
import Sentinel.Native.DeviceTrust

/-! # The device registry tables

The tables of the device registry and the reads and writes `ShieldRepository` does
for the trust service (`modules/shield/shield.repository.ts`),
the authority check of `shield.authority.ts` and the attestation standing of
`attestation.standing.ts`.  Columns no trust operation reads or writes (custody,
provenance, the public key) are left out. -/

namespace Sentinel.DeviceRegistry

open DeviceTrust (Trust AttestationStanding KeyStorage KeyLifecycleState)

inductive RevocationDisposition
  | lost | stolen | compromisedKey
deriving DecidableEq

inductive AttestationOutcome
  | verified | negative | invalid | revoked | unavailable
deriving DecidableEq

def RevocationDisposition.text : RevocationDisposition → String
  | lost => "LOST"
  | stolen => "STOLEN"
  | compromisedKey => "COMPROMISED_KEY"

def AttestationOutcome.text : AttestationOutcome → String
  | verified => "VERIFIED"
  | negative => "NEGATIVE"
  | invalid => "INVALID"
  | revoked => "REVOKED"
  | unavailable => "UNAVAILABLE"

def standingText : AttestationStanding → String
  | .current => "CURRENT"
  | .lastKnownGood => "LAST_KNOWN_GOOD"
  | .expired => "EXPIRED"
  | .negative => "NEGATIVE"
  | .ineligible => "INELIGIBLE"
  | .inconsistent => "INCONSISTENT"

/-! ## Rows -/

structure DeviceRow where
  id : String
  organisationId : String
  trust : Trust
  revocationDisposition : Option RevocationDisposition
  revokedAt : Option Int
  currentKeyId : Option String
  currentKeyVersion : Option Nat
deriving DecidableEq

structure DeviceKeyRow where
  organisationId : String
  deviceId : String
  keyId : String
  keyVersion : Nat
  keyStorage : KeyStorage
  status : KeyLifecycleState
  rotatedAt : Option Int
  revokedAt : Option Int
  revocationDisposition : Option RevocationDisposition
deriving DecidableEq

structure DeviceSiteScopeRow where
  organisationId : String
  deviceId : String
  siteId : String
  releasedAt : Option Int
deriving DecidableEq

structure AttestationObservationRow where
  id : String
  organisationId : String
  deviceId : Option String
  outcome : AttestationOutcome
  attestationReference : Option String
  evaluatedAt : Int
  observedAt : Int
  traceId : String
deriving DecidableEq

structure TrustTransitionRow where
  organisationId : String
  deviceId : String
  previousTrust : Trust
  newTrust : Trust
  reason : String
  evidenceRefs : List String
  authorisedByUserId : Option String
  occurredAt : Int
  traceId : String
deriving DecidableEq

inductive SecurityEventPayload
  | trustChanged (previousTrust newTrust : Trust) (reason : String)
      (authorisedByUserId : Option String)
  | deviceQuarantined (previousTrust : Trust) (reason : String)
  | deviceLost (previousTrust newTrust : Trust) (disposition : RevocationDisposition)
  | deviceStolen (previousTrust newTrust : Trust) (disposition : RevocationDisposition)
      (keyId : String) (keyVersion : Nat)
  | deviceRevoked (disposition : RevocationDisposition) (previousTrust newTrust : Trust)
      (revokedAt : String)
  | keyRevoked (keyId : String) (keyVersion : Nat) (disposition : RevocationDisposition)
  | keyCompromised (keyId : String) (keyVersion : Nat) (disposition : RevocationDisposition)
deriving DecidableEq

structure SecurityEventEnvelope where
  organisationId : String
  deviceId : String
  actorUserId : Option String
  occurredAt : Int
  traceId : String
deriving DecidableEq

structure SecurityEventRow where
  envelope : SecurityEventEnvelope
  payload : SecurityEventPayload
deriving DecidableEq

/-- The tables, with the keys the schema declares. -/
structure Db where
  devices : List DeviceRow
  deviceKeys : List DeviceKeyRow
  deviceSiteScopes : List DeviceSiteScopeRow
  attestationObservations : List AttestationObservationRow
  trustTransitions : List TrustTransitionRow
  securityEvents : List SecurityEventRow
  devices_key : (devices.map (·.id)).Nodup
  deviceKeys_key : (deviceKeys.map fun key => (key.organisationId, key.keyId)).Nodup
deriving DecidableEq

namespace Db

/-! ## Reads -/

/-- The where clause of the device reads and updates. -/
def isDevice (organisationId deviceId : String) (device : DeviceRow) : Bool :=
  device.id = deviceId ∧ device.organisationId = organisationId

/-- The where clause of the key reads and updates. -/
def isDeviceKey (organisationId keyId : String) (key : DeviceKeyRow) : Bool :=
  key.organisationId = organisationId ∧ key.keyId = keyId

variable (db : Db)

def findDevice (organisationId deviceId : String) : Option DeviceRow :=
  db.devices.find? (isDevice organisationId deviceId)

def findDeviceKeyByKeyId (organisationId keyId : String) : Option DeviceKeyRow :=
  db.deviceKeys.find? (isDeviceKey organisationId keyId)

def currentKey (device : DeviceRow) : Option DeviceKeyRow :=
  device.currentKeyId.bind (db.findDeviceKeyByKeyId device.organisationId)

/-- `listDeviceSiteIds`: the sites the device is in use at now. -/
def listDeviceSiteIds (organisationId deviceId : String) : List String :=
  (db.deviceSiteScopes.filter fun scope =>
    scope.organisationId = organisationId ∧ scope.deviceId = deviceId ∧
      scope.releasedAt = none).map (·.siteId)

def hasHeldTrusted (organisationId deviceId : String) : Bool :=
  db.trustTransitions.any fun transition =>
    transition.organisationId = organisationId ∧ transition.deviceId = deviceId ∧
      transition.newTrust = .trusted

/-- The order the observation reads sort by: `evaluatedAt desc, id desc`. -/
def newer (a b : AttestationObservationRow) : AttestationObservationRow :=
  if a.evaluatedAt < b.evaluatedAt ∨ (a.evaluatedAt = b.evaluatedAt ∧ a.id < b.id) then b else a

/-- The first row in that order. -/
def newest : List AttestationObservationRow → Option AttestationObservationRow
  | [] => none
  | row :: rows => some (rows.foldl newer row)

/-- `latestAttestationObservation`, over the rows a transaction sees. -/
def latestAttestationObservation (rows : List AttestationObservationRow)
    (organisationId deviceId : String) : Option AttestationObservationRow :=
  newest (rows.filter fun row => row.organisationId = organisationId ∧ row.deviceId = some deviceId)

/-- `latestDecisiveAttestation`: the newest that is not UNAVAILABLE. -/
def latestDecisiveAttestation (rows : List AttestationObservationRow)
    (organisationId deviceId : String) : Option AttestationObservationRow :=
  newest (rows.filter fun row => row.organisationId = organisationId ∧
    row.deviceId = some deviceId ∧ row.outcome ≠ .unavailable)

/-! ## Writes

An update answers with the number of rows it hit. -/

def updateDevices (p : DeviceRow → Bool) (f : DeviceRow → DeviceRow)
    (h : ∀ device, (f device).id = device.id) : Nat × Db :=
  (db.devices.countP p,
    { db with
      devices := Table.rewrite p f db.devices
      devices_key := Table.nodup_map_rewrite db.devices_key h })

def updateDeviceKeys (p : DeviceKeyRow → Bool) (f : DeviceKeyRow → DeviceKeyRow)
    (h : ∀ key, ((f key).organisationId, (f key).keyId) = (key.organisationId, key.keyId)) :
    Nat × Db :=
  (db.deviceKeys.countP p,
    { db with
      deviceKeys := Table.rewrite p f db.deviceKeys
      deviceKeys_key := Table.nodup_map_rewrite db.deviceKeys_key h })

/-- `setDeviceTrust`, fenced on the trust the caller believes it is leaving. -/
def setDeviceTrust (organisationId deviceId : String) (source target : Trust) : Nat × Db :=
  db.updateDevices (fun device => isDevice organisationId deviceId device && device.trust = source)
    (fun device => { device with trust := target }) fun _ => rfl

def setDeviceRevocation (organisationId deviceId : String)
    (disposition : RevocationDisposition) (revokedAt : Option Int) (trust : Trust) : Db :=
  (db.updateDevices (isDevice organisationId deviceId)
    (fun device => { device with revocationDisposition := some disposition, revokedAt, trust })
    fun _ => rfl).2

/-- `withdrawDeviceKey`, fenced on the status the withdrawal was decided against. -/
def withdrawDeviceKey (organisationId keyId : String)
    (source target : KeyLifecycleState) (revokedAt : Int) (disposition : RevocationDisposition) :
    Nat × Db :=
  db.updateDeviceKeys
    (fun key => isDeviceKey organisationId keyId key && key.status = source)
    (fun key => { key with
      status := target
      revokedAt := some revokedAt
      revocationDisposition := some disposition })
    fun _ => rfl

def markDeviceKeyRotated (organisationId keyId : String) (now : Int) : Nat × Db :=
  db.updateDeviceKeys
    (fun key => isDeviceKey organisationId keyId key && key.status = .current)
    (fun key => { key with status := .rotated, rotatedAt := some now }) fun _ => rfl

/-- `createDeviceKey`; `none` when the key id is taken. -/
def createDeviceKey (key : DeviceKeyRow) : Option Db :=
  if h : ∀ old ∈ db.deviceKeys,
      (old.organisationId, old.keyId) ≠ (key.organisationId, key.keyId) then
    some { db with
      deviceKeys := db.deviceKeys ++ [key]
      deviceKeys_key := Table.nodup_map_concat db.deviceKeys_key h }
  else none

/-- `advanceDeviceCurrentKey`, fenced on the pair it advances from. -/
def advanceDeviceCurrentKey (organisationId deviceId : String)
    (source target : String × Nat) : Nat × Db :=
  db.updateDevices
    (fun device => isDevice organisationId deviceId device &&
      device.currentKeyId = some source.1 && device.currentKeyVersion = some source.2)
    (fun device => { device with
      currentKeyId := some target.1
      currentKeyVersion := some target.2 })
    fun _ => rfl

def appendTrustTransition (row : TrustTransitionRow) : Db :=
  { db with trustTransitions := db.trustTransitions ++ [row] }

def appendAttestationObservation (row : AttestationObservationRow) : Db :=
  { db with attestationObservations := db.attestationObservations ++ [row] }

/-- `DeviceSecurityAudit.record`. -/
def recordEvent (envelope : SecurityEventEnvelope) (payload : SecurityEventPayload) : Db :=
  { db with securityEvents := db.securityEvents ++ [⟨envelope, payload⟩] }

end Db

/-! ## Keys -/

def allowedDeviceKeyLifecycleTransitions : KeyLifecycleState → List KeyLifecycleState
  | .current => [.rotated, .revoked, .compromised]
  | .rotated => [.revoked, .compromised]
  | .revoked => [.compromised]
  | .compromised => []

def canTransitionDeviceKeyLifecycle (source target : KeyLifecycleState) : Bool :=
  (allowedDeviceKeyLifecycleTransitions source).contains target

/-- `credentialContinuityIntact`: a missing key row is a lost credential. -/
def credentialContinuityIntact : Option DeviceKeyRow → Bool
  | none => false
  | some key => key.revokedAt.isNone && DeviceTrust.deviceKeyStatePermitsNewOperations key.status

/-! ## Authority -/

/-- A role assignment, with the actions the role grants; no site is the whole
    organisation. -/
structure RoleAssignment where
  actions : List String
  siteId : Option String
deriving DecidableEq

structure Principal where
  userId : String
  organisationId : String
  roles : List RoleAssignment
deriving DecidableEq

variable (principal : Principal)

def Principal.hasAction (action : String) : Bool :=
  principal.roles.any fun role => role.actions.contains action

structure SiteScope where
  orgWide : Bool
  siteIds : List String

def intersectSiteScope (action : String) : SiteScope :=
  let granting := principal.roles.filter fun role => role.actions.contains action
  { orgWide := granting.any fun role => role.siteId.isNone
    siteIds := granting.filterMap (·.siteId) }

/-- `checkDeviceAuthority` for the whole device (`siteId` null), as a yes or no. -/
def checkDeviceAuthority (action organisationId : String) : Bool :=
  principal.organisationId = organisationId ∧ principal.hasAction action

def hasOrganisationWideDeviceAuthority (action organisationId : String) : Bool :=
  principal.organisationId = organisationId && principal.hasAction action &&
    (intersectSiteScope principal action).orgWide

/-- `checkGlobalDeviceMutationAuthority`: authority over the whole organisation, or over
    every site the device is in use at, of which there is one.  `false` is the refusal
    DEVICE_NOT_FOUND. -/
def checkGlobalDeviceMutationAuthority (action organisationId : String)
    (deviceSiteIds : List String) : Bool :=
  if !checkDeviceAuthority principal action organisationId then false
  else if hasOrganisationWideDeviceAuthority principal action organisationId then true
  else if deviceSiteIds.length = 0 then false
  else deviceSiteIds.all (intersectSiteScope principal action).siteIds.contains

/-! ## The attestation standing -/

def deviceAttestationUnavailableGraceMs : Int := 21600000

def deviceNegativeAttestationOutcomes : List AttestationOutcome := [.negative, .invalid, .revoked]

inductive SelectedAttestationEvidence
  | evidence (outcome : AttestationOutcome) (lastVerifiedAt : Option Int)
      (hasPriorVerified : Bool)
  | inconsistent

def selectAttestationEvidence (latest decisive : Option AttestationObservationRow) (now : Int) :
    SelectedAttestationEvidence :=
  match latest with
  | none => .evidence .unavailable none false
  | some latest =>
    -- a record from the future vouches for nothing
    if now < latest.evaluatedAt ∨ decisive.any (fun row => now < row.evaluatedAt) then .inconsistent
    else
      match decisive with
      | none => .evidence .unavailable none false
      | some decisive =>
        if latest.evaluatedAt < decisive.evaluatedAt then .inconsistent
        else if decisive.outcome ≠ .verified then .evidence decisive.outcome none false
        else
          .evidence (if latest.outcome = .unavailable then .unavailable else .verified)
            (some decisive.evaluatedAt) true

def evaluateAttestationStanding (outcome : AttestationOutcome) (lastVerifiedAt : Option Int)
    (hasPriorVerified : Bool) (now : Int) : AttestationStanding :=
  if deviceNegativeAttestationOutcomes.contains outcome then .negative
  else if outcome = .verified then .current
  else if !hasPriorVerified then .ineligible
  else
    match lastVerifiedAt with
    | none => .ineligible
    | some lastVerified =>
      if now - lastVerified < 0 then .inconsistent
      else if deviceAttestationUnavailableGraceMs < now - lastVerified then .expired
      else .lastKnownGood

def resolveAttestationStanding (latest decisive : Option AttestationObservationRow) (now : Int) :
    AttestationStanding :=
  match selectAttestationEvidence latest decisive now with
  | .inconsistent => .inconsistent
  | .evidence outcome lastVerifiedAt hasPriorVerified =>
    evaluateAttestationStanding outcome lastVerifiedAt hasPriorVerified now

/-- `effectiveAttestationStanding`, over the rows the transaction sees. -/
def effectiveAttestationStanding (rows : List AttestationObservationRow)
    (organisationId deviceId : String) (now : Int) : AttestationStanding :=
  resolveAttestationStanding (Db.latestAttestationObservation rows organisationId deviceId)
    (Db.latestDecisiveAttestation rows organisationId deviceId) now

end Sentinel.DeviceRegistry
