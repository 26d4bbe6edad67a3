import Sentinel.Native.DeviceTrustService
import Sentinel.ForStd.Except

/-! # What a disposition leaves behind

A declaration composes a trust transition, the device-level revocation and the key-level withdrawal
in one transaction, and writes all of them or nothing. -/

namespace Sentinel.DeviceRegistry

open DeviceTrust (Trust AttestationStanding KeyStorage KeyLifecycleState TransitionRefusal
  evaluateDeviceTrustTransition)

namespace Db

/-! ## Reads after writes -/

variable {organisationId deviceId : String} {device : DeviceRow} {key : DeviceKeyRow} {db : Db}

theorem isDevice_iff : isDevice organisationId deviceId device = true ↔
      device.id = deviceId ∧ device.organisationId = organisationId := by
  simp [isDevice]

theorem isDeviceKey_iff {keyId : String} : isDeviceKey organisationId keyId key = true ↔
      key.organisationId = organisationId ∧ key.keyId = keyId := by
  simp [isDeviceKey]

theorem findDevice_eq_some (h : db.findDevice organisationId deviceId = some device) :
    device ∈ db.devices ∧ device.id = deviceId ∧ device.organisationId = organisationId :=
  ⟨List.mem_of_find?_eq_some h, isDevice_iff.mp (List.find?_some h)⟩

theorem findDeviceKeyByKeyId_eq_some {keyId : String}
    (h : db.findDeviceKeyByKeyId organisationId keyId = some key) :
    key ∈ db.deviceKeys ∧ key.organisationId = organisationId ∧ key.keyId = keyId :=
  ⟨List.mem_of_find?_eq_some h, isDeviceKey_iff.mp (List.find?_some h)⟩

/-- The current key of a device is in the table, under the id the device names. -/
theorem currentKey_eq_some (h : db.currentKey device = some key) :
    device.currentKeyId = some key.keyId ∧ key ∈ db.deviceKeys ∧
      key.organisationId = device.organisationId := by
  rw [currentKey, Option.bind_eq_some_iff] at h
  obtain ⟨keyId, hid, hfind⟩ := h
  obtain ⟨hmem, horg, rfl⟩ := findDeviceKeyByKeyId_eq_some hfind
  exact ⟨hid, hmem, horg⟩

theorem findDevice_updateDevices {p : DeviceRow → Bool} {f : DeviceRow → DeviceRow}
    {h : ∀ device, (f device).id = device.id}
    (horg : ∀ device, (f device).organisationId = device.organisationId)
    (organisationId deviceId : String) :
    (db.updateDevices p f h).2.findDevice organisationId deviceId =
      (db.findDevice organisationId deviceId).map fun device =>
        if p device then f device else device := by
  rw [findDevice, updateDevices, Table.find?_rewrite]
  · rfl
  · intro device
    rw [isDevice, isDevice, h, horg]

theorem findDeviceKeyByKeyId_updateDeviceKeys {p : DeviceKeyRow → Bool}
    {f : DeviceKeyRow → DeviceKeyRow}
    {h : ∀ key, ((f key).organisationId, (f key).keyId) = (key.organisationId, key.keyId)}
    (organisationId keyId : String) :
    (db.updateDeviceKeys p f h).2.findDeviceKeyByKeyId organisationId keyId =
      (db.findDeviceKeyByKeyId organisationId keyId).map fun key =>
        if p key then f key else key := by
  rw [findDeviceKeyByKeyId, updateDeviceKeys, Table.find?_rewrite]
  · rfl
  · intro key
    obtain ⟨horg, hid⟩ := Prod.mk.inj (h key)
    rw [isDeviceKey, isDeviceKey, horg, hid]

/-! ## Fences -/

theorem setDeviceTrust_hit
    (h : db.findDevice organisationId deviceId = some device) (target : Trust) :
    (db.setDeviceTrust organisationId deviceId device.trust target).1 = 1 := by
  obtain ⟨hmem, hid, horg⟩ := findDevice_eq_some h
  apply Table.countP_eq_one (k := deviceId) db.devices_key _ hmem
  · simp [isDevice, hid, horg]
  · intro row _ hrow
    simp only [isDevice, Bool.and_eq_true, decide_eq_true_eq] at hrow
    exact hrow.1.1

theorem setDeviceTrust_miss {source target : Trust}
    (h : (db.setDeviceTrust organisationId deviceId source target).1 ≠ 1) :
    (db.setDeviceTrust organisationId deviceId source target).2 = db := by
  have hrows := Table.rewrite_of_countP_ne_one (k := deviceId)
    (f := fun device : DeviceRow => { device with trust := target }) db.devices_key (by
      intro row _ hrow
      simp only [isDevice, Bool.and_eq_true, decide_eq_true_eq] at hrow
      exact hrow.1.1) h
  simp only [setDeviceTrust, updateDevices]
  congr 1

theorem withdrawDeviceKey_hit (hmem : key ∈ db.deviceKeys)
    (target : KeyLifecycleState) (revokedAt : Int) (disposition : RevocationDisposition) :
    (db.withdrawDeviceKey key.organisationId key.keyId key.status target revokedAt
      disposition).1 = 1 := by
  apply Table.countP_eq_one (k := (key.organisationId, key.keyId)) db.deviceKeys_key _ hmem
  · simp [isDeviceKey]
  · intro row _ hrow
    simp only [isDeviceKey, Bool.and_eq_true, decide_eq_true_eq] at hrow
    rw [hrow.1.1, hrow.1.2]

@[simp] theorem findDevice_appendTrustTransition (db : Db) (row : TrustTransitionRow) :
    (db.appendTrustTransition row).findDevice = db.findDevice := rfl

@[simp] theorem findDevice_appendAttestationObservation (db : Db)
    (row : AttestationObservationRow) :
    (db.appendAttestationObservation row).findDevice = db.findDevice := rfl

@[simp] theorem findDevice_recordEvent (db : Db) (envelope : SecurityEventEnvelope)
    (payload : SecurityEventPayload) :
    (db.recordEvent envelope payload).findDevice = db.findDevice := rfl

/-- Recording events leaves the device and the key table as they were. -/
theorem recordEvents_frame (envelope : SecurityEventEnvelope) (payloads : List SecurityEventPayload)
    (db : Db) :
    (payloads.foldl (·.recordEvent envelope ·) db).devices = db.devices ∧
      (payloads.foldl (·.recordEvent envelope ·) db).deviceKeys = db.deviceKeys := by
  induction payloads generalizing db with
  | nil => exact ⟨rfl, rfl⟩
  | cons payload payloads ih =>
    obtain ⟨hdevices, hkeys⟩ := ih (db.recordEvent envelope payload)
    exact ⟨hdevices, hkeys⟩

end Db

/-! ## The transition -/

variable {db db' : Db} {refusal : ShieldRefusal} {input : DispositionInput} {device : DeviceRow}
  {key : DeviceKeyRow}

/-- A refused transition writes nothing: the verdict comes first, and the update is
    fenced. -/
theorem applyTrustTransition_refused {input : TransitionInput}
    (h : applyTrustTransition input db = (.refused refusal, db')) :
    db' = db := by
  simp only [applyTrustTransition] at h
  split at h
  · exact (Prod.mk.inj h).2.symm
  · split at h
    · rename_i hmiss
      rw [← (Prod.mk.inj h).2]
      exact Db.setDeviceTrust_miss hmiss
    · cases (Prod.mk.inj h).1

/-- A transition the evaluator allows on the stored row goes through. -/
theorem applyTrustTransition_allowed (input : TransitionInput)
    (hfind : db.findDevice input.device.organisationId input.device.id = some input.device)
    (hallowed : evaluateDeviceTrustTransition input.device.trust input.target (input.basis db) =
      none) :
    ∃ row, applyTrustTransition input db = (.changed input.device.trust input.target,
      (db.setDeviceTrust input.device.organisationId input.device.id input.device.trust
        input.target).2.appendTrustTransition row) := by
  have hhit := Db.setDeviceTrust_hit hfind input.target
  simp only [applyTrustTransition, hallowed]
  rw [if_neg (not_not_intro hhit)]
  exact ⟨_, rfl⟩

/-- QUARANTINED is no upward target: the evaluator asks for nothing but the matrix. -/
theorem evaluate_quarantined {source : Trust} (hcompromised : source ≠ .compromised)
    (hquarantined : source ≠ .quarantined) (basis : DeviceTrust.TransitionBasis) :
    evaluateDeviceTrustTransition source .quarantined basis = none := by
  cases source with
  | compromised => exact absurd rfl hcompromised
  | quarantined => exact absurd rfl hquarantined
  | trusted | degraded | suspicious | offline => rfl

/-! ## Refused declarations -/

theorem declareTransaction_refused {principal : Principal} {standing : AttestationStanding}
    {now : Int}
    (h : commit db (declareTransaction principal input device key standing now db) =
      (.refused refusal, db')) : db' = db := by
  cases htx : declareTransaction principal input device key standing now db with
  | error refusal' =>
    -- the rollback
    rw [htx] at h
    exact (Prod.mk.inj h).2.symm
  | ok result =>
    rw [htx] at h
    obtain rfl : result = (.refused refusal, db') := h
    simp only [declareTransaction] at htx
    split at htx
    · rename_i moved hmoved
      obtain ⟨hrefused, rfl⟩ := Prod.mk.inj (Except.ok.inj htx)
      exact applyTrustTransition_refused hmoved
    · -- past the transition there are only a rollback and DECLARED
      obtain ⟨⟨keyStatus, written⟩, _, hdone⟩ := Except.bind_eq_ok.mp htx
      cases (Prod.mk.inj (Except.ok.inj hdone)).1

theorem declareDisposition_refused {principal : Principal} {now : Int}
    (h : declareDisposition principal input now db = (.refused refusal, db')) : db' = db := by
  unfold declareDisposition at h
  split at h
  · exact (Prod.mk.inj h).2.symm
  · split at h
    · exact (Prod.mk.inj h).2.symm
    · split at h
      · exact (Prod.mk.inj h).2.symm
      · split at h
        · exact (Prod.mk.inj h).2.symm
        · exact declareTransaction_refused h

/-- A call of `declareDisposition` in progress. -/
def Worker.declares : Worker → Bool
  | .declare .. | .declareSites .. | .declareKey .. | .declareStanding .. | .declareCommit .. => true
  | _ => false

/-- A step of a declaration that writes anything ends it as DECLARED, whatever the other
    calls have done since its reads. -/
theorem declares_advance {worker next : Worker} {env : Env}
    {commits : List AttestationCommit} (hdeclares : worker.declares = true)
    (h : worker.advance db env = some (db', next, commits)) :
    db' = db ∨ ∃ disposition previousTrust newTrust keyStatus restorable,
      next = .declared (.declared disposition previousTrust newTrust keyStatus restorable) := by
  cases worker with
  | declare | declareSites | declareKey | declareStanding =>
    left
    simp only [Worker.advance] at h
    repeat' split at h
    all_goals exact (Prod.mk.inj (Option.some.inj h)).1.symm
  | declareCommit principal input device key standing now =>
    simp only [Worker.advance] at h
    obtain ⟨rfl, rest⟩ := Prod.mk.inj (Option.some.inj h)
    obtain ⟨rfl, _⟩ := Prod.mk.inj rest
    cases houtcome : commit db (declareTransaction principal input device key standing now db) with
    | mk outcome written =>
      cases outcome with
      | refused refusal =>
        left
        exact declareTransaction_refused houtcome
      | declared disposition previousTrust newTrust keyStatus restorable =>
        right
        exact ⟨_, _, _, _, _, rfl⟩
  | _ => cases hdeclares

/-! ## Declarations that take effect -/

/-- The device row a declaration leaves. -/
def RevocationDisposition.deviceAfter (disposition : RevocationDisposition) (now : Int)
    (device : DeviceRow) : DeviceRow :=
  { device with
    trust := disposition.newTrust
    revocationDisposition := some disposition
    revokedAt := if disposition.revokesDeviceCredential then some now else none }

/-- The key row a declaration leaves. -/
def RevocationDisposition.keyAfter (disposition : RevocationDisposition) (now : Int)
    (key : DeviceKeyRow) : DeviceKeyRow :=
  match disposition.keyTarget with
  | none => key
  | some target =>
    { key with
      status := target
      revokedAt := some now
      revocationDisposition := some disposition }

/-- Both places a disposition moves trust to lie below: the matrix alone decides. -/
theorem evaluate_newTrust {source : Trust} {disposition : RevocationDisposition}
    (hcompromised : source ≠ .compromised) (hmoves : source ≠ disposition.newTrust)
    (basis : DeviceTrust.TransitionBasis) :
    evaluateDeviceTrustTransition source disposition.newTrust basis = none := by
  cases disposition with
  | lost | stolen => exact evaluate_quarantined hcompromised hmoves basis
  | compromisedKey =>
    cases source with
    | compromised => exact absurd rfl hcompromised
    | trusted | degraded | suspicious | quarantined | offline => rfl

theorem findDevice_setDeviceTrust {organisationId deviceId : String}
    (h : db.findDevice organisationId deviceId = some device) (target : Trust) :
    (db.setDeviceTrust organisationId deviceId device.trust target).2.findDevice organisationId
      deviceId = some { device with trust := target } := by
  obtain ⟨_, hid, horg⟩ := Db.findDevice_eq_some h
  rw [Db.setDeviceTrust, Db.findDevice_updateDevices, h]
  · simp [Db.isDevice, hid, horg]
  · intro
    rfl

theorem findDevice_setDeviceRevocation {organisationId deviceId : String}
    (h : db.findDevice organisationId deviceId = some device)
    (disposition : RevocationDisposition) (revokedAt : Option Int) (trust : Trust) :
    (db.setDeviceRevocation organisationId deviceId disposition revokedAt trust).findDevice
      organisationId deviceId =
      some { device with revocationDisposition := some disposition, revokedAt, trust } := by
  obtain ⟨_, hid, horg⟩ := Db.findDevice_eq_some h
  rw [Db.setDeviceRevocation, Db.findDevice_updateDevices, h]
  · simp [Db.isDevice, hid, horg]
  · intro
    rfl

/-- A key in the table that may move where the disposition sends it is moved there, and
    no device row changes. -/
theorem withdrawKey_found (db : Db) (now : Int) (horg : key.organisationId = input.organisationId)
    (hkey : db.findDeviceKeyByKeyId input.organisationId key.keyId = some key) :
    ∃ db', withdrawKey input key now db = .ok ((input.disposition.keyAfter now key).status, db') ∧
      db'.findDevice = db.findDevice ∧
      db'.findDeviceKeyByKeyId input.organisationId key.keyId =
        some (input.disposition.keyAfter now key) := by
  cases htarget : input.disposition.keyTarget with
  | none =>
    refine ⟨db, ?_, rfl, ?_⟩
    · simp only [withdrawKey, RevocationDisposition.keyAfter, htarget]
    · simp only [RevocationDisposition.keyAfter, htarget, hkey]
  | some target =>
    have hmem := (Db.findDeviceKeyByKeyId_eq_some hkey).1
    have hhit := Db.withdrawDeviceKey_hit hmem target now input.disposition
    rw [horg] at hhit
    refine ⟨(db.withdrawDeviceKey input.organisationId key.keyId key.status target now
      input.disposition).2, ?_, rfl, ?_⟩
    · simp only [withdrawKey, RevocationDisposition.keyAfter, htarget]
      rw [if_neg (not_not_intro hhit)]
    · rw [Db.withdrawDeviceKey, Db.findDeviceKeyByKeyId_updateDeviceKeys, hkey]
      simp [RevocationDisposition.keyAfter, htarget, Db.isDeviceKey, horg]

/-- What a declaration leaves when trust is not where the disposition puts it already. -/
theorem declareTransaction_declared (principal : Principal) (standing : AttestationStanding)
    (now : Int)
    (hfind : db.findDevice input.organisationId device.id = some device)
    (hkey : db.currentKey device = some key) (hcompromised : device.trust ≠ .compromised)
    (hmoves : device.trust ≠ input.disposition.newTrust) :
    ∃ db', declareTransaction principal input device key standing now db =
        .ok (.declared input.disposition device.trust input.disposition.newTrust
          (input.disposition.keyAfter now key).status (input.disposition = .lost), db') ∧
      db'.findDevice input.organisationId device.id =
        some (input.disposition.deviceAfter now device) ∧
      db'.currentKey (input.disposition.deviceAfter now device) =
        some (input.disposition.keyAfter now key) := by
  obtain ⟨_, _, horg⟩ := Db.findDevice_eq_some hfind
  obtain ⟨hid, _, hkeyOrg⟩ := Db.currentKey_eq_some hkey
  have hkeyFound : db.findDeviceKeyByKeyId input.organisationId key.keyId = some key := by
    rw [Db.currentKey, hid, Option.bind_some, horg] at hkey
    exact hkey
  obtain ⟨row, hmoved⟩ := applyTrustTransition_allowed
    (dispositionMove principal input device key standing now) (horg ▸ hfind)
    (evaluate_newTrust hcompromised hmoves _)
  have htrust := findDevice_setDeviceTrust hfind input.disposition.newTrust
  -- the tables between the transition and the key withdrawal
  let quarantined := (db.setDeviceTrust input.organisationId device.id device.trust
    input.disposition.newTrust).2.appendTrustTransition row
  let revoked := quarantined.setDeviceRevocation input.organisationId device.id input.disposition
    (if input.disposition.revokesDeviceCredential then some now else none)
    input.disposition.newTrust
  have hrevoked : revoked.findDevice input.organisationId device.id =
      some (input.disposition.deviceAfter now device) :=
    findDevice_setDeviceRevocation htrust ..
  obtain ⟨withdrawn, hwithdraw, hdevices, hkeys⟩ :=
    withdrawKey_found revoked now (hkeyOrg.trans horg) hkeyFound
  have hmoved' : applyTrustTransition (dispositionMove principal input device key standing now) db =
      (.changed device.trust input.disposition.newTrust, quarantined) := by
    rw [hmoved]
    simp only [dispositionMove, horg, quarantined]
  let envelope : SecurityEventEnvelope :=
    { organisationId := input.organisationId
      deviceId := device.id
      actorUserId := some principal.userId
      occurredAt := now
      traceId := input.traceId }
  have hdone : declareTransaction principal input device key standing now db =
      .ok (.declared input.disposition device.trust input.disposition.newTrust
        (input.disposition.keyAfter now key).status (input.disposition = .lost),
        (declarationEvents input key device.trust now).foldl (·.recordEvent envelope ·)
          withdrawn) := by
    simp only [declareTransaction, hmoved']
    show (withdrawKey input key now revoked >>= _) = _
    rw [hwithdraw]
    rfl
  obtain ⟨hframe, hframeKeys⟩ := Db.recordEvents_frame envelope
    (declarationEvents input key device.trust now) withdrawn
  refine ⟨_, hdone, ?_, ?_⟩
  · rw [Db.findDevice, hframe]
    exact (congrFun (congrFun hdevices _) _).trans hrevoked
  · rw [Db.currentKey]
    show (device.currentKeyId.bind _) = _
    rw [hid, Option.bind_some, Db.findDeviceKeyByKeyId, hframeKeys, ← hkeys]
    show Db.findDeviceKeyByKeyId withdrawn device.organisationId key.keyId = _
    rw [horg]

/-! ## The declaration as a whole -/

/-- An authorised STOLEN or LOST declaration quarantines a device that is neither COMPROMISED nor
QUARANTINED and whose current key is CURRENT; STOLEN also revokes the device and its key.  A refused
declaration leaves the tables as they were. -/
theorem declaration_restricts (principal : Principal) (input : DispositionInput) (now : Int)
    (db : Db) :
    (∀ device key, db.findDevice input.organisationId input.deviceId = some device →
      checkGlobalDeviceMutationAuthority principal actionDeviceRevoke input.organisationId
        (db.listDeviceSiteIds input.organisationId input.deviceId) = true →
      db.currentKey device = some key → key.status = .current →
      device.trust ≠ .compromised → device.trust ≠ .quarantined →
      input.disposition ≠ .compromisedKey →
      ∃ after device' key',
        declareDisposition principal input now db =
          (.declared input.disposition device.trust .quarantined key'.status
            (input.disposition = .lost), after) ∧
        after.findDevice input.organisationId input.deviceId = some device' ∧
        after.currentKey device' = some key' ∧
        device'.trust = .quarantined ∧
        (input.disposition = .stolen → device'.revokedAt = some now ∧ key'.status = .revoked) ∧
        (input.disposition = .lost → device'.revokedAt = none ∧ key' = key)) ∧
    (∀ refusal after, declareDisposition principal input now db = (.refused refusal, after) →
      after = db) ∧
    (∀ (worker next : Worker) (stored after : Db) (env : Env) (commits : List AttestationCommit),
      worker.declares = true → worker.advance stored env = some (after, next, commits) →
      after = stored ∨ ∃ disposition previousTrust newTrust keyStatus restorable,
        next = .declared (.declared disposition previousTrust newTrust keyStatus restorable)) := by
  refine ⟨?_, fun refusal after h => declareDisposition_refused h,
    fun worker next stored after env commits => declares_advance⟩
  intro device key hfind hauth hkey hcurrent hcompromised hquarantined hdisposition
  obtain ⟨_, hid, _⟩ := Db.findDevice_eq_some hfind
  have hnew : input.disposition.newTrust = .quarantined := by
    cases hd : input.disposition with
    | lost | stolen => rfl
    | compromisedKey => exact absurd hd hdisposition
  have hprecheck : declarePrecheck principal input device
      (db.listDeviceSiteIds input.organisationId device.id) = none := by
    rw [hid]
    simp [declarePrecheck, hauth, hcompromised]
  have hkeyPrecheck : declareKeyPrecheck input key = none := by
    simp only [declareKeyPrecheck, hcurrent]
    cases input.disposition <;> rfl
  obtain ⟨after, hdone, hdevice', hkey'⟩ := declareTransaction_declared principal
    (effectiveAttestationStanding db.attestationObservations input.organisationId device.id now)
    now (hid ▸ hfind) hkey hcompromised (hnew ▸ hquarantined)
  refine ⟨after, _, _, ?_, hid ▸ hdevice', hkey', hnew, ?_, ?_⟩
  · simp only [declareDisposition, hfind, hprecheck, hkey, hkeyPrecheck, hdone, commit, hnew]
  · intro hstolen
    simp [RevocationDisposition.deviceAfter, RevocationDisposition.keyAfter, hstolen,
      RevocationDisposition.revokesDeviceCredential, RevocationDisposition.keyTarget]
  · intro hlost
    simp [RevocationDisposition.deviceAfter, RevocationDisposition.keyAfter, hlost,
      RevocationDisposition.revokesDeviceCredential, RevocationDisposition.keyTarget]

def enrolled (trust : Trust) : Db where
  devices :=
    [{ id := "dev", organisationId := "org", trust, revocationDisposition := none
       revokedAt := none, currentKeyId := some "key", currentKeyVersion := some 1 }]
  deviceKeys :=
    [{ organisationId := "org", deviceId := "dev", keyId := "key", keyVersion := 1
       keyStorage := .hardwareBacked, status := .current, rotatedAt := none, revokedAt := none
       revocationDisposition := none }]
  deviceSiteScopes := []
  attestationObservations := []
  trustTransitions := []
  securityEvents := []
  devices_key := by simp
  deviceKeys_key := by simp

/-- Someone who may declare dispositions in the whole organisation. -/
def commander : Principal :=
  { userId := "user", organisationId := "org", roles := [⟨[actionDeviceRevoke], none⟩] }

/-- A declaration about the enrolled device. -/
def declaration (disposition : RevocationDisposition) : DispositionInput :=
  { organisationId := "org", deviceId := "dev", disposition, reason := "", traceId := "" }

/-- The trusted device is declared STOLEN. -/
theorem declaration_restricts_stolen :
    ∃ after device' key',
      declareDisposition commander (declaration .stolen) 5 (enrolled .trusted) =
        (.declared .stolen .trusted .quarantined key'.status false, after) ∧
      after.findDevice "org" "dev" = some device' ∧ after.currentKey device' = some key' ∧
      device'.trust = .quarantined ∧ device'.revokedAt = some 5 ∧ key'.status = .revoked := by
  obtain ⟨after, device', key', hdone, hdevice, hkey, htrust, hstolen, _⟩ :=
    (declaration_restricts commander (declaration .stolen) 5 (enrolled .trusted)).1 _ _ rfl
      (by decide) rfl rfl (by decide) (by decide) (by decide)
  exact ⟨after, device', key', hdone, hdevice, hkey, htrust, hstolen rfl⟩

/-- A LOST device keeps its credential, and a device already quarantined as LOST cannot be
    declared STOLEN: it stays unrevoked with its key CURRENT. -/
theorem declaration_lostThenStolen :
    let lost := (declareDisposition commander (declaration .lost) 5 (enrolled .trusted)).2
    let stolen := declareDisposition commander (declaration .stolen) 6 lost
    (lost.findDevice "org" "dev").map (fun device => (device.trust, device.revokedAt)) =
        some (.quarantined, none) ∧
      (lost.findDeviceKeyByKeyId "org" "key").map (·.status) = some .current ∧
      stolen = (.refused (.transition .transitionNotInMatrix), lost) := by
  decide

end Sentinel.DeviceRegistry
