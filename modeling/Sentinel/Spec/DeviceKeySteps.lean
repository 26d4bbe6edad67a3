import Sentinel.Native.DeviceKeyService
import Sentinel.Spec.DeviceDisposition

/-! # What a call leaves of the key registry

The calls of the trust service move trust and withdraw keys; they leave the pointer alone.  A commit
of the key service either rotates, with all its writes, or writes the audit trail alone. -/

namespace Sentinel.DeviceRegistry

open DeviceTrust (Trust AttestationStanding KeyLifecycleState)

/-! ## Later versions of the rows -/

/-- A device row with its identity and its pointer kept. -/
structure SameDevice (device later : DeviceRow) : Prop where
  id : later.id = device.id
  organisationId : later.organisationId = device.organisationId
  currentKeyId : later.currentKeyId = device.currentKeyId
  currentKeyVersion : later.currentKeyVersion = device.currentKeyVersion

theorem SameDevice.refl (device : DeviceRow) : SameDevice device device := ⟨rfl, rfl, rfl, rfl⟩

theorem SameDevice.trans {a b c : DeviceRow} (h₁ : SameDevice a b) (h₂ : SameDevice b c) :
    SameDevice a c :=
  ⟨h₂.id.trans h₁.id, h₂.organisationId.trans h₁.organisationId,
    h₂.currentKeyId.trans h₁.currentKeyId, h₂.currentKeyVersion.trans h₁.currentKeyVersion⟩

/-- A key row with its identity kept, that has not become CURRENT. -/
structure KeyFollows (key later : DeviceKeyRow) : Prop where
  organisationId : later.organisationId = key.organisationId
  deviceId : later.deviceId = key.deviceId
  keyId : later.keyId = key.keyId
  keyVersion : later.keyVersion = key.keyVersion
  retired : key.status ≠ .current → later.status ≠ .current

theorem KeyFollows.refl (key : DeviceKeyRow) : KeyFollows key key := ⟨rfl, rfl, rfl, rfl, id⟩

theorem KeyFollows.trans {a b c : DeviceKeyRow} (h₁ : KeyFollows a b) (h₂ : KeyFollows b c) :
    KeyFollows a c :=
  ⟨h₂.organisationId.trans h₁.organisationId, h₂.deviceId.trans h₁.deviceId,
    h₂.keyId.trans h₁.keyId, h₂.keyVersion.trans h₁.keyVersion, h₂.retired ∘ h₁.retired⟩

/-- An update of the status to anything but CURRENT. -/
theorem KeyFollows.retire {status : KeyLifecycleState} (hstatus : status ≠ .current)
    (key : DeviceKeyRow) (rotatedAt revokedAt : Option Int)
    (revocationDisposition : Option RevocationDisposition) :
    KeyFollows key { key with status, rotatedAt, revokedAt, revocationDisposition } :=
  ⟨rfl, rfl, rfl, rfl, fun _ => hstatus⟩

/-- The devices and the keys, each in its place. -/
structure Db.Keeps (db later : Db) : Prop where
  devices : Table.Follows SameDevice db.devices later.devices
  deviceKeys : Table.Follows KeyFollows db.deviceKeys later.deviceKeys

namespace Db.Keeps

variable {db later : Db}

theorem same (hdevices : later.devices = db.devices) (hkeys : later.deviceKeys = db.deviceKeys) :
    Keeps db later := by
  refine ⟨?_, ?_⟩
  · rw [hdevices]
    exact .refl SameDevice.refl _
  · rw [hkeys]
    exact .refl KeyFollows.refl _

theorem refl (db : Db) : Keeps db db := same rfl rfl

theorem trans {latest : Db} (h₁ : Keeps db later) (h₂ : Keeps later latest) : Keeps db latest :=
  ⟨h₁.devices.trans @SameDevice.trans h₂.devices, h₁.deviceKeys.trans @KeyFollows.trans h₂.deviceKeys⟩

end Db.Keeps

/-! ## The writes of the trust service -/

theorem Db.setDeviceTrust_keeps (db : Db) (organisationId deviceId : String)
    (source target : Trust) : Keeps db (db.setDeviceTrust organisationId deviceId source target).2 :=
  ⟨.rewrite SameDevice.refl fun _ _ => ⟨rfl, rfl, rfl, rfl⟩, .refl KeyFollows.refl _⟩

theorem Db.setDeviceRevocation_keeps (db : Db) (organisationId deviceId : String)
    (disposition : RevocationDisposition) (revokedAt : Option Int) (trust : Trust) :
    Keeps db (db.setDeviceRevocation organisationId deviceId disposition revokedAt trust) :=
  ⟨.rewrite SameDevice.refl fun _ _ => ⟨rfl, rfl, rfl, rfl⟩, .refl KeyFollows.refl _⟩

theorem Db.withdrawDeviceKey_keeps (db : Db) (organisationId keyId : String)
    (source : KeyLifecycleState) {target : KeyLifecycleState} (htarget : target ≠ .current)
    (revokedAt : Int) (disposition : RevocationDisposition) :
    Keeps db
      (db.withdrawDeviceKey organisationId keyId source target revokedAt disposition).2 :=
  ⟨.refl SameDevice.refl _, .rewrite KeyFollows.refl fun key _ => .retire htarget key ..⟩

theorem applyTrustTransition_keeps {input : TransitionInput} {db db' : Db}
    {outcome : ChangeDeviceTrustOutcome} (h : applyTrustTransition input db = (outcome, db')) :
    Db.Keeps db db' := by
  simp only [applyTrustTransition] at h
  split at h
  · cases h
    exact .refl db
  · split at h
    · cases h
      exact db.setDeviceTrust_keeps ..
    · cases h
      exact (db.setDeviceTrust_keeps ..).trans (.same rfl rfl)

theorem observeTransaction_keeps (input : AttestationInput) (device : DeviceRow)
    (key : DeviceKeyRow) (observation : AttestationObservationRow) (standing : AttestationStanding)
    (db : Db) : Db.Keeps db (observeTransaction input device key observation standing db) := by
  have happend : Db.Keeps db (db.appendAttestationObservation observation) := .same rfl rfl
  simp only [observeTransaction]
  split
  · split
    · rename_i moved hmoved
      exact (happend.trans (applyTrustTransition_keeps hmoved)).trans (.same rfl rfl)
    · rename_i moved hmoved
      exact happend.trans (applyTrustTransition_keeps hmoved)
  · split
    · split
      · rename_i moved hmoved
        exact (happend.trans (applyTrustTransition_keeps hmoved)).trans (.same rfl rfl)
      · rename_i moved hmoved
        exact happend.trans (applyTrustTransition_keeps hmoved)
    · exact happend

theorem changeTransaction_keeps (principal : Principal) (input : ChangeInput) (subject : DeviceRow)
    (key : Option DeviceKeyRow) (standing : AttestationStanding) (now : Int) (db : Db) :
    Db.Keeps db (changeTransaction principal input subject key standing now db).2 := by
  simp only [changeTransaction]
  split
  · exact .refl db
  · split
    · rename_i moved hmoved
      exact (applyTrustTransition_keeps hmoved).trans (.same rfl rfl)
    · rename_i moved hmoved
      exact applyTrustTransition_keeps hmoved

theorem RevocationDisposition.keyTarget_ne_current {disposition : RevocationDisposition}
    {target : KeyLifecycleState} (h : disposition.keyTarget = some target) : target ≠ .current := by
  cases disposition with
  | lost => cases h
  | stolen | compromisedKey =>
    cases h
    decide

theorem withdrawKey_keeps {input : DispositionInput} {key : DeviceKeyRow} {now : Int} {db db' : Db}
    {status : KeyLifecycleState} (h : withdrawKey input key now db = .ok (status, db')) :
    Db.Keeps db db' := by
  unfold withdrawKey at h
  split at h
  · cases h
    exact .refl db
  · rename_i target htarget
    obtain ⟨-, h⟩ := Except.ite_error_eq_ok.mp h
    cases h
    exact db.withdrawDeviceKey_keeps _ _ _ (RevocationDisposition.keyTarget_ne_current htarget) ..

theorem declareTransaction_keeps (principal : Principal) (input : DispositionInput)
    (device : DeviceRow) (key : DeviceKeyRow) (standing : AttestationStanding) (now : Int)
    (db : Db) :
    Db.Keeps db (commit db (declareTransaction principal input device key standing now db)).2 := by
  cases htx : declareTransaction principal input device key standing now db with
  | error refusal =>
    -- the rollback
    exact .refl db
  | ok result =>
    show Db.Keeps db result.2
    simp only [declareTransaction] at htx
    split at htx
    · rename_i moved hmoved
      rw [← Except.ok.inj htx]
      exact applyTrustTransition_keeps hmoved
    · rename_i moved hmoved
      obtain ⟨⟨status, withdrawn⟩, hwithdraw, hdone⟩ := Except.bind_eq_ok.mp htx
      rw [← Except.ok.inj hdone]
      obtain ⟨hdevices, hkeys⟩ := Db.recordEvents_frame _ (declarationEvents input key _ now)
        withdrawn
      exact (((applyTrustTransition_keeps hmoved).trans (Db.setDeviceRevocation_keeps ..)).trans
        (withdrawKey_keeps hwithdraw)).trans (.same hdevices hkeys)

/-- The calls that rotate a key by the writes alone, without a ceremony. -/
def Worker.rotates : Worker → Bool
  | .rotate _ => true
  | _ => false

/-- What a step that is known to be one leaves. -/
theorem keeps_of_some {db db' after : Db} {worker next : Worker}
    {commits commits' : List AttestationCommit} (hkeeps : Db.Keeps db after)
    (hrotates : worker.rotates = false)
    (h : some (after, worker, commits) = some (db', next, commits')) :
    Db.Keeps db db' ∧ next.rotates = false := by
  cases h
  exact ⟨hkeeps, hrotates⟩

/-- A call of the trust service keeps the devices and the keys. -/
theorem advance_keeps {worker next : Worker} {db db' : Db} {env : Env}
    {commits : List AttestationCommit} (hrotates : worker.rotates = false)
    (h : worker.advance db env = some (db', next, commits)) :
    Db.Keeps db db' ∧ next.rotates = false := by
  cases worker with
  | observe | observeKey | change | changeSites | declare | declareSites =>
    simp only [Worker.advance] at h
    split at h <;> exact keeps_of_some (.refl db) rfl h
  | declareKey =>
    simp only [Worker.advance] at h
    split at h
    · exact keeps_of_some (.refl db) rfl h
    · split at h <;> exact keeps_of_some (.refl db) rfl h
  | observeEvaluate | observeStanding | changeStanding | declareStanding =>
    exact keeps_of_some (.refl db) rfl h
  | observeCommit => exact keeps_of_some (observeTransaction_keeps ..) rfl h
  | changeCommit =>
    simp only [Worker.advance] at h
    split at h
    · exact keeps_of_some (.refl db) rfl h
    · exact keeps_of_some (changeTransaction_keeps ..) rfl h
  | declareCommit => exact keeps_of_some (declareTransaction_keeps ..) rfl h
  | rotate => cases hrotates
  | observed | changed | declared | rotated => cases h

end Sentinel.DeviceRegistry

namespace Sentinel.DeviceKeys

open DeviceRegistry (DeviceRow DeviceKeyRow Principal KeyFollows)
open DeviceReplay (ConsumptionRow)
open DeviceKeyRotation

variable {δ : Type}

/-! ## What no step takes back -/

/-- A rotation request with all it proposes. -/
def SameRequest (request later : RotationRequestRow) : Prop :=
  later.toRotationRequest = request.toRotationRequest

theorem SameRequest.refl (request : RotationRequestRow) : SameRequest request request := rfl

/-- A later version of the tables: devices and keys keep their identity and keys do not return,
    rotation requests keep what they propose, and the rest is only added to. -/
structure Db.Extends (db later : Db δ) : Prop where
  devices : Table.Grows (fun a b : DeviceRow => b.id = a.id ∧ b.organisationId = a.organisationId)
    db.shield.devices later.shield.devices
  deviceKeys : Table.Grows KeyFollows db.shield.deviceKeys later.shield.deviceKeys
  deviceColumns : db.deviceColumns <+: later.deviceColumns
  deviceKeyColumns : db.deviceKeyColumns <+: later.deviceKeyColumns
  rotationRequests : Table.Grows SameRequest db.rotationRequests later.rotationRequests
  rotationChallenges : db.rotationChallenges <+: later.rotationChallenges
  rotationVerifications : db.rotationVerifications <+: later.rotationVerifications
  consumptions : db.consumptions.rows <+: later.consumptions.rows

namespace Db.Extends

variable {db later : Db δ}

theorem refl (db : Db δ) : Extends db db where
  devices := .refl (fun _ => ⟨rfl, rfl⟩) _
  deviceKeys := .refl KeyFollows.refl _
  deviceColumns := List.prefix_rfl
  deviceKeyColumns := List.prefix_rfl
  rotationRequests := .refl SameRequest.refl _
  rotationChallenges := List.prefix_rfl
  rotationVerifications := List.prefix_rfl
  consumptions := List.prefix_rfl

theorem trans {latest : Db δ} (h₁ : Extends db later) (h₂ : Extends later latest) :
    Extends db latest where
  devices := h₁.devices.trans (fun _ _ _ hab hbc => ⟨hbc.1.trans hab.1, hbc.2.trans hab.2⟩) h₂.devices
  deviceKeys := h₁.deviceKeys.trans @KeyFollows.trans h₂.deviceKeys
  deviceColumns := h₁.deviceColumns.trans h₂.deviceColumns
  deviceKeyColumns := h₁.deviceKeyColumns.trans h₂.deviceKeyColumns
  rotationRequests :=
    h₁.rotationRequests.trans (fun _ _ _ hab hbc => hbc.trans hab) h₂.rotationRequests
  rotationChallenges := h₁.rotationChallenges.trans h₂.rotationChallenges
  rotationVerifications := h₁.rotationVerifications.trans h₂.rotationVerifications
  consumptions := h₁.consumptions.trans h₂.consumptions

theorem findDevice (h : Extends db later) {organisationId deviceId : String} {device : DeviceRow}
    (hfind : db.shield.findDevice organisationId deviceId = some device) :
    ∃ device', later.shield.findDevice organisationId deviceId = some device' ∧
      device'.id = device.id := by
  obtain ⟨device', hfind', hid, -⟩ := h.devices.find?
    (fun hab => by rw [DeviceRegistry.Db.isDevice, DeviceRegistry.Db.isDevice, hab.1, hab.2]) hfind
  exact ⟨device', hfind', hid⟩

theorem findDeviceKeyByKeyId (h : Extends db later) {organisationId keyId : String}
    {key : DeviceKeyRow}
    (hfind : db.shield.findDeviceKeyByKeyId organisationId keyId = some key) :
    ∃ key', later.shield.findDeviceKeyByKeyId organisationId keyId = some key' ∧
      KeyFollows key key' :=
  h.deviceKeys.find?
    (fun hab => by
      rw [DeviceRegistry.Db.isDeviceKey, DeviceRegistry.Db.isDeviceKey, hab.organisationId,
        hab.keyId])
    hfind

theorem findDeviceKeyRowById (h : Extends db later) {organisationId id : String}
    {key : DeviceKeyRow} (hfind : db.findDeviceKeyRowById organisationId id = some key) :
    ∃ key', later.findDeviceKeyRowById organisationId id = some key' ∧ KeyFollows key key' := by
  rw [Db.findDeviceKeyRowById, Option.bind_eq_some_iff] at hfind
  obtain ⟨columns, hcolumns, hkey⟩ := hfind
  obtain ⟨key', hkey', hfollows⟩ := h.findDeviceKeyByKeyId hkey
  refine ⟨key', ?_, hfollows⟩
  rw [Db.findDeviceKeyRowById, h.deviceKeyColumns.find?_eq_some hcolumns, Option.bind_some]
  exact hkey'

theorem findRotationRequest (h : Extends db later) {organisationId id : String}
    {request : RotationRequestRow} (hfind : db.findRotationRequest organisationId id = some request) :
    ∃ request', later.findRotationRequest organisationId id = some request' ∧
      request'.toRotationRequest = request.toRotationRequest :=
  h.rotationRequests.find? (fun hab => by rw [isRequest, isRequest, hab]) hfind

theorem peek [DecidableEq δ] (h : Extends db later) {organisationId : String} {digest : δ}
    {row : ConsumptionRow δ} (hpeek : db.consumptions.peek organisationId digest = some row) :
    later.consumptions.peek organisationId digest = some row :=
  h.consumptions.find?_eq_some hpeek

end Db.Extends

/-! ## A commit -/

section Commit

variable {platform : Platform δ} {principal : Principal} {input : CommitInput}
  {env : Env} {locked : LockedRotationState} {db db' : Db δ}

/-- The writes of a rotation, table by table. -/
structure Rotates (input : CommitInput) (env : Env) (locked : LockedRotationState)
    (db db' : Db δ) : Prop where
  devices : db'.shield.devices =
    Table.rewrite
      (fun device => DeviceRegistry.Db.isDevice input.organisationId locked.device.id device &&
        device.currentKeyId = some locked.currentKey.keyId &&
        device.currentKeyVersion = some locked.currentKey.keyVersion)
      (fun device => { device with
        currentKeyId := some locked.request.proposedKeyId
        currentKeyVersion := some locked.request.proposedKeyVersion })
      db.shield.devices
  deviceKeys : db'.shield.deviceKeys =
    Table.rewrite
      (fun key => DeviceRegistry.Db.isDeviceKey input.organisationId locked.currentKey.keyId key &&
        key.status = .current)
      (fun key => { key with status := .rotated, rotatedAt := some env.now })
      db.shield.deviceKeys ++ [locked.newKey input.organisationId]
  deviceColumns : db'.deviceColumns = db.deviceColumns
  deviceKeyColumns :
    db'.deviceKeyColumns = db.deviceKeyColumns ++ [locked.newKeyColumns input.organisationId env]
  rotationRequests : Table.Follows SameRequest db.rotationRequests db'.rotationRequests
  rotationChallenges : db'.rotationChallenges = db.rotationChallenges
  rotationVerifications : db'.rotationVerifications = db.rotationVerifications
  consumptions : db'.consumptions = db.consumptions
  /-- The id of the new row was free. -/
  fresh : ∀ columns ∈ db.deviceKeyColumns, columns.id ≠ env.id

/-- An insert of a key that no unique index refuses. -/
theorem Db.createDeviceKey_eq_some {key : DeviceKeyRow} {columns : DeviceKeyColumns}
    (h : db.createDeviceKey key columns = some db') :
    ∃ shield, db' = { db with
                      shield
                      deviceKeyColumns := db.deviceKeyColumns ++ [columns] } ∧
      shield.devices = db.shield.devices ∧ shield.deviceKeys = db.shield.deviceKeys ++ [key] ∧
      ∀ old ∈ db.deviceKeyColumns, old.id ≠ columns.id := by
  unfold Db.createDeviceKey at h
  split at h
  · cases h
  · rename_i hfresh
    split at h
    · cases h
    · split at h
      · cases h
      · obtain ⟨shield, hshield, rfl⟩ := Option.map_eq_some_iff.mp h
        unfold DeviceRegistry.Db.createDeviceKey at hshield
        split at hshield
        · cases hshield
          refine ⟨_, rfl, rfl, rfl, fun old hold heq => hfresh ?_⟩
          exact List.any_eq_true.mpr ⟨old, hold, decide_eq_true heq⟩
        · cases hshield

theorem rotateTransaction_ok [DecidableEq δ]
    (h : rotateTransaction platform principal input env locked db = .ok db') :
    Rotates input env locked db db' := by
  simp only [rotateTransaction] at h
  obtain ⟨-, h⟩ := Except.ite_error_eq_ok.mp h
  split at h
  · cases h
  · rename_i created hcreated
    obtain ⟨-, h⟩ := Except.ite_error_eq_ok.mp h
    obtain ⟨-, h⟩ := Except.ite_error_eq_ok.mp h
    obtain ⟨shield, rfl, hdevices, hkeys, hfresh⟩ := Db.createDeviceKey_eq_some hcreated
    cases h
    exact
      { devices := congrArg (Table.rewrite _ _) hdevices
        deviceKeys := hkeys
        deviceColumns := rfl
        deviceKeyColumns := rfl
        rotationRequests := .rewrite SameRequest.refl fun _ _ => rfl
        rotationChallenges := rfl
        rotationVerifications := rfl
        consumptions := rfl
        fresh := hfresh }

/-- The row under which a ceremony consumes its identity. -/
def LockedRotationState.consumption (platform : Platform δ) (locked : LockedRotationState)
    (organisationId id : String) : ConsumptionRow δ :=
  { organisationId
    replayIdentityDigest := locked.digest platform
    statementFingerprint := locked.fingerprint platform
    storedOutcomeRef := some id }

/-- What a commit that rotates has found, and what it leaves. -/
structure Rotated [DecidableEq δ] (platform : Platform δ) (input : CommitInput) (env : Env)
    (locked : LockedRotationState) (db db' : Db δ) : Prop where
  locks : lockRotationState platform db input.organisationId input.rotationRequestId
    input.challengeId = .ok locked
  deviceId : locked.request.deviceId = locked.device.id
  currentKeyVersion : locked.request.currentKeyVersion = locked.currentKey.keyVersion
  current : locked.currentKey.status = .current
  unseen : db.consumptions.peek input.organisationId (locked.digest platform) = none
  writes : Rotates input env locked
    { db with
      consumptions :=
        (db.consumptions.consume (locked.consumption platform input.organisationId env.id)).1 } db'

/-- A refused ceremony can leave a record in the audit trail. -/
theorem recordConflict_tables (refusal : KeyRefusal) :
    ∃ events, recordConflict platform principal input env locked refusal db =
      { db with keyEvents := db.keyEvents ++ events } := by
  have hnone : db = { db with keyEvents := db.keyEvents ++ [] } := by rw [List.append_nil]
  cases refusal with
  | contract refusal =>
    simp only [recordConflict]
    split
    · exact ⟨_, rfl⟩
    · exact ⟨[], hnone⟩
  | _ => exact ⟨[], hnone⟩

variable [DecidableEq δ]

theorem rotateOnce_ok {outcome : CommitOutcome}
    (hlocks : lockRotationState platform db input.organisationId input.rotationRequestId
      input.challengeId = .ok locked)
    (h : rotateOnce platform principal input env locked db = .ok (outcome, db')) :
    Rotated platform input env locked db db' ∧
      outcome = .rotated locked.device.id locked.deviceColumns.sequenceNamespaceId
        (locked.currentKey.keyId, locked.currentKey.keyVersion)
        (locked.request.proposedKeyId, locked.request.proposedKeyVersion) := by
  simp only [rotateOnce] at h
  split at h
  · cases h
  · cases h
  · rename_i source target hadmitted
    obtain ⟨⟨-, hdevice⟩, ⟨-, hversion, hstatus⟩, hfirst⟩ :=
      evaluateDeviceKeyRotation_rotate hadmitted
    obtain ⟨rotated, hwrites, hresult⟩ := Except.map_eq_ok.mp h
    cases hresult
    exact
      ⟨{ locks := hlocks
         deviceId := hdevice
         currentKeyVersion := hversion.symm
         current := hstatus
         unseen := DeviceReplay.Consumptions.peek_of_consume_firstSeen hfirst
         writes := rotateTransaction_ok hwrites }, rfl⟩

/-- A commit rotates, or leaves every table but the audit trail as it was. -/
theorem commitKeyRotation_cases {outcome : CommitOutcome}
    (h : commitKeyRotation platform principal input env db = (outcome, db')) :
    (∃ locked, Rotated platform input env locked db db' ∧
      outcome = .rotated locked.device.id locked.deviceColumns.sequenceNamespaceId
        (locked.currentKey.keyId, locked.currentKey.keyVersion)
        (locked.request.proposedKeyId, locked.request.proposedKeyVersion)) ∨
    ((∀ deviceId sequenceNamespaceId source target,
        outcome ≠ .rotated deviceId sequenceNamespaceId source target) ∧
      ∃ events, db' = { db with keyEvents := db.keyEvents ++ events }) := by
  have hnone : db = { db with keyEvents := db.keyEvents ++ [] } := by rw [List.append_nil]
  unfold commitKeyRotation at h
  split at h
  · cases h
    exact .inr ⟨nofun, [], hnone⟩
  · rename_i locked hlocks
    split at h
    · cases h
      exact .inr ⟨nofun, [], hnone⟩
    · split at h
      · split at h
        · cases h
          exact .inr ⟨nofun, [], hnone⟩
        · cases h
          exact .inr ⟨nofun, [], hnone⟩
      · split at h
        · rename_i result hrotates
          cases h
          exact .inl ⟨locked, rotateOnce_ok hlocks hrotates⟩
        · cases h
          exact .inr ⟨nofun, recordConflict_tables _⟩
        · cases h
          exact .inr ⟨nofun, [], hnone⟩

end Commit

/-! ## The steps before the commit -/

/-- A step that moves nothing but the records of ceremonies and the audit trail. -/
structure Db.RecordsCeremony (db later : Db δ) : Prop where
  shield : later.shield = db.shield
  deviceColumns : later.deviceColumns = db.deviceColumns
  deviceKeyColumns : later.deviceKeyColumns = db.deviceKeyColumns
  consumptions : later.consumptions = db.consumptions
  rotationRequests : Table.Grows SameRequest db.rotationRequests later.rotationRequests
  rotationChallenges : db.rotationChallenges <+: later.rotationChallenges
  rotationVerifications : db.rotationVerifications <+: later.rotationVerifications

namespace Db.RecordsCeremony

variable {db later : Db δ}

theorem refl (db : Db δ) : RecordsCeremony db db :=
  ⟨rfl, rfl, rfl, rfl, .refl SameRequest.refl _, List.prefix_rfl, List.prefix_rfl⟩

theorem audit (db : Db δ) (events : List (KeySecurityEvent δ)) :
    RecordsCeremony db { db with keyEvents := db.keyEvents ++ events } :=
  ⟨rfl, rfl, rfl, rfl, .refl SameRequest.refl _, List.prefix_rfl, List.prefix_rfl⟩

theorem createRotationRequest (db : Db δ) (row : RotationRequestRow) :
    RecordsCeremony db ((db.createRotationRequest row).getD db) := by
  unfold Db.createRotationRequest
  split
  · exact .refl db
  · exact ⟨rfl, rfl, rfl, rfl, .append SameRequest.refl _ _, List.prefix_rfl, List.prefix_rfl⟩

theorem createRotationVerification (db : Db δ) (row : PossessionVerification) :
    RecordsCeremony db ((db.createRotationVerification row).getD db) := by
  unfold Db.createRotationVerification
  split
  · exact .refl db
  · exact ⟨rfl, rfl, rfl, rfl, .refl SameRequest.refl _, List.prefix_rfl, List.prefix_append _ _⟩

theorem setRotationRequestState (db : Db δ) (organisationId id : String)
    (source target : RotationState) :
    Table.Follows SameRequest db.rotationRequests
      (db.setRotationRequestState organisationId id source target).2.rotationRequests :=
  .rewrite SameRequest.refl fun _ _ => rfl

theorem issueTransaction {input : ChallengeInput} {request : RotationRequestRow} {env : Env}
    (h : issueTransaction input request env db = some later) : RecordsCeremony db later := by
  obtain ⟨challenged, hchallenge, h⟩ := Option.bind_eq_some_iff.mp h
  unfold Db.createRotationChallenge at hchallenge
  split at hchallenge
  · cases hchallenge
  · cases hchallenge
    simp only at h
    split at h
    · cases h
    · cases h
      exact ⟨rfl, rfl, rfl, rfl, (setRotationRequestState ..).grows, List.prefix_append _ _,
        List.prefix_rfl⟩

theorem toExtends (h : RecordsCeremony db later) : Extends db later where
  devices := by
    rw [h.shield]
    exact .refl (fun _ => ⟨rfl, rfl⟩) _
  deviceKeys := by
    rw [h.shield]
    exact .refl KeyFollows.refl _
  deviceColumns := h.deviceColumns ▸ List.prefix_rfl
  deviceKeyColumns := h.deviceKeyColumns ▸ List.prefix_rfl
  rotationRequests := h.rotationRequests
  rotationChallenges := h.rotationChallenges
  rotationVerifications := h.rotationVerifications
  consumptions := h.consumptions ▸ List.prefix_rfl

end Db.RecordsCeremony

variable [DecidableEq δ]

/-- Has the call returned from a commit? -/
def Phase.isCommitted : Phase → Bool
  | .committed .. => true
  | _ => false

/-- A step of a call records something about its ceremony, or is the commit. -/
theorem advance_cases {platform : Platform δ} {db db' : Db δ} {env : Env} {phase next : Phase}
    (h : phase.advance platform db env = some (db', next)) :
    (Db.RecordsCeremony db db' ∧ next.isCommitted = false) ∨
    ∃ principal input outcome, phase = .commitStart principal input ∧
      next = .committed input outcome ∧
      commitKeyRotation platform principal input env db = (outcome, db') := by
  have hsame : ∀ {after : Phase}, some (db, after) = some (db', next) →
      after.isCommitted = false → Db.RecordsCeremony db db' ∧ next.isCommitted = false := by
    intro after heq hafter
    cases heq
    exact ⟨.refl db, hafter⟩
  cases phase with
  | requestStart principal input =>
    simp only [Phase.advance] at h
    left
    split at h
    · exact hsame h rfl
    · split at h <;> exact hsame h rfl
  | requestKey input device =>
    simp only [Phase.advance] at h
    left
    split at h
    · exact hsame h rfl
    · split at h <;> exact hsame h rfl
  | requestInsert input device key =>
    simp only [Phase.advance] at h
    left
    split at h
    · exact hsame h rfl
    · cases h
      exact ⟨.createRotationRequest db _, rfl⟩
  | issueStart principal input =>
    simp only [Phase.advance] at h
    left
    split at h
    · exact hsame h rfl
    · split at h
      · exact hsame h rfl
      · split at h <;> exact hsame h rfl
  | issueInsert input request =>
    simp only [Phase.advance] at h
    left
    split at h
    · exact hsame h rfl
    · rename_i issued hissued
      cases h
      exact ⟨.issueTransaction hissued, rfl⟩
  | verifyStart input =>
    left
    simp only [Phase.advance] at h
    cases hresponse : verifyResponse platform db input with
    | error refusal =>
      rw [hresponse] at h
      exact hsame h rfl
    | ok verdict =>
      rw [hresponse] at h
      exact hsame h rfl
  | verifyInsert request challenge verified =>
    left
    cases h
    exact ⟨.createRotationVerification db _, rfl⟩
  | commitStart principal input =>
    right
    simp only [Phase.advance, Option.some.injEq, Prod.mk.injEq] at h
    obtain ⟨hdb, hnext⟩ := h
    exact ⟨principal, input, _, rfl, hnext.symm, Prod.ext rfl hdb⟩
  | done | committed => cases h

end Sentinel.DeviceKeys
