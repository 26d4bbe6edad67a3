import Sentinel.ForStd.Transition
import Sentinel.ForStd.List
import Sentinel.Spec.DeviceKeySteps

/-! # The device key registry

The keys of a device are numbered from 1, the pointer names the last of them, and a key that is
CURRENT is the one the pointer names. -/

namespace Sentinel.DeviceKeys

open DeviceRegistry (DeviceRow DeviceKeyRow Principal SameDevice KeyFollows
  checkGlobalDeviceMutationAuthority)
open DeviceReplay (ConsumptionRow)
open DeviceKeyRotation

variable {δ : Type}

/-! ## The keys of one device -/

def ownedBy (device : DeviceRow) (key : DeviceKeyRow) : Bool :=
  key.organisationId = device.organisationId ∧ key.deviceId = device.id

theorem ownedBy_iff {device : DeviceRow} {key : DeviceKeyRow} :
    ownedBy device key = true ↔
      key.organisationId = device.organisationId ∧ key.deviceId = device.id := by
  simp [ownedBy]

theorem filter_ownedBy_concat_self {device : DeviceRow} {key : DeviceKeyRow}
    (h : ownedBy device key = true) (keys : List DeviceKeyRow) :
    (keys ++ [key]).filter (ownedBy device) = keys.filter (ownedBy device) ++ [key] := by
  rw [List.filter_append, List.filter_cons_of_pos h, List.filter_nil]

theorem filter_ownedBy_concat_other {device : DeviceRow} {key : DeviceKeyRow}
    (h : ¬ ownedBy device key = true) (keys : List DeviceKeyRow) :
    (keys ++ [key]).filter (ownedBy device) = keys.filter (ownedBy device) := by
  rw [List.filter_append, List.filter_cons_of_neg h, List.filter_nil, List.append_nil]

/-- The keys of a device, in the order they were created. -/
def Db.keysOf (db : Db δ) (device : DeviceRow) : List DeviceKeyRow :=
  db.shield.deviceKeys.filter (ownedBy device)

structure Lineage (device : DeviceRow) (keys : List DeviceKeyRow) : Prop where
  versions : keys.map (·.keyVersion) = List.range' 1 keys.length
  pointer : ∃ key ∈ keys, device.currentKeyId = some key.keyId ∧
    device.currentKeyVersion = some key.keyVersion ∧ key.keyVersion = keys.length
  live : ∀ key ∈ keys, key.status = .current → device.currentKeyId = some key.keyId

namespace Lineage

variable {device device' : DeviceRow} {keys keys' : List DeviceKeyRow}

/-- A new device with its first key. -/
theorem single {key : DeviceKeyRow} (hversion : key.keyVersion = 1)
    (hid : device.currentKeyId = some key.keyId) (hpointer : device.currentKeyVersion = some 1) :
    Lineage device [key] where
  versions := by
    rw [List.map_singleton, hversion]
    rfl
  pointer := ⟨key, List.mem_singleton.mpr rfl, hid, hversion ▸ hpointer, hversion⟩
  live := fun other hother _ => List.mem_singleton.mp hother ▸ hid

/-- Later versions of the same rows. -/
theorem follows (h : Lineage device keys) (hdevice : SameDevice device device')
    (hkeys : Table.Follows KeyFollows keys keys') : Lineage device' keys' where
  versions := by
    rw [hkeys.map_eq (·.keyVersion) fun hab => hab.keyVersion, hkeys.length_eq]
    exact h.versions
  pointer := by
    obtain ⟨key, hkey, hid, hversion, hlast⟩ := h.pointer
    obtain ⟨key', hkey', hfollows⟩ := hkeys.exists_later hkey
    refine ⟨key', hkey', ?_, ?_, ?_⟩
    · rw [hdevice.currentKeyId, hid, hfollows.keyId]
    · rw [hdevice.currentKeyVersion, hversion, hfollows.keyVersion]
    · rw [hfollows.keyVersion, hkeys.length_eq, hlast]
  live := by
    intro key' hkey' hcurrent
    obtain ⟨key, hkey, hfollows⟩ := hkeys.exists_earlier hkey'
    have hwas : key.status = .current := by
      by_contra hne
      exact hfollows.retired hne hcurrent
    rw [hdevice.currentKeyId, h.live key hkey hwas, hfollows.keyId]

/-- The keys after a rotation: the old ones, none of them CURRENT, and the new one. -/
theorem rotate (h : Lineage device keys) (hkeys : Table.Follows KeyFollows keys keys')
    (hretired : ∀ key ∈ keys', key.status ≠ .current) {new : DeviceKeyRow}
    (hversion : new.keyVersion = keys.length + 1) (hid : device'.currentKeyId = some new.keyId)
    (hpointer : device'.currentKeyVersion = some new.keyVersion) :
    Lineage device' (keys' ++ [new]) where
  versions := by
    rw [List.map_append, hkeys.map_eq (·.keyVersion) fun hab => hab.keyVersion, h.versions, List.length_append,
      hkeys.length_eq, List.map_singleton, hversion, Nat.add_comm keys.length 1]
    exact List.range'_1_concat.symm
  pointer := by
    refine ⟨new, List.mem_append_right _ (List.mem_singleton.mpr rfl), hid, hpointer, ?_⟩
    rw [List.length_append, hkeys.length_eq, hversion]
    rfl
  live := by
    intro key hkey hcurrent
    rcases List.of_mem_concat hkey with hold | rfl
    · exact absurd hcurrent (hretired key hold)
    · exact hid

/-- The versions are 1 to the number of keys. -/
theorem version_le (h : Lineage device keys) {key : DeviceKeyRow} (hkey : key ∈ keys) :
    key.keyVersion ≤ keys.length := by
  have hmem : key.keyVersion ∈ List.range' 1 keys.length :=
    h.versions ▸ List.mem_map_of_mem hkey
  have hbounds := List.mem_range'_1.mp hmem
  omega

end Lineage

/-! ## The tables -/

structure Registered (db : Db δ) : Prop where
  lineage : ∀ device ∈ db.shield.devices, Lineage device (db.keysOf device)
  owned : ∀ key ∈ db.shield.deviceKeys, ∃ device ∈ db.shield.devices,
    key.organisationId = device.organisationId ∧ key.deviceId = device.id
  deviceColumns : db.deviceColumns.map (·.deviceId) = db.shield.devices.map (·.id)
  deviceKeyColumns : db.deviceKeyColumns.map (fun columns => (columns.organisationId, columns.keyId)) =
    db.shield.deviceKeys.map fun key => (key.organisationId, key.keyId)
  ids : (db.deviceKeyColumns.map (·.id)).Nodup

/-- Ownership is a matter of columns that later versions keep. -/
theorem keysOf_follows {db later : Db δ} {device device' : DeviceRow}
    (hdevice : SameDevice device device')
    (hkeys : Table.Follows KeyFollows db.shield.deviceKeys later.shield.deviceKeys) :
    Table.Follows KeyFollows (db.keysOf device) (later.keysOf device') := by
  have howner : ownedBy device' = ownedBy device := by
    funext key
    rw [ownedBy, ownedBy, hdevice.organisationId, hdevice.id]
  rw [Db.keysOf, Db.keysOf, howner]
  exact hkeys.filter fun hab => by rw [ownedBy, ownedBy, hab.organisationId, hab.deviceId]

theorem findDeviceKeyByKeyId_of_mem {db : DeviceRegistry.Db} {key : DeviceKeyRow}
    (hmem : key ∈ db.deviceKeys) :
    db.findDeviceKeyByKeyId key.organisationId key.keyId = some key := by
  have hself : DeviceRegistry.Db.isDeviceKey key.organisationId key.keyId key = true :=
    DeviceRegistry.Db.isDeviceKey_iff.mpr ⟨rfl, rfl⟩
  have hsome := List.find?_isSome.mpr ⟨key, hmem, hself⟩
  obtain ⟨found, hfound⟩ := Option.isSome_iff_exists.mp hsome
  obtain ⟨hfoundMem, horg, hid⟩ := DeviceRegistry.Db.findDeviceKeyByKeyId_eq_some hfound
  have hsame : (found.organisationId, found.keyId) = (key.organisationId, key.keyId) := by
    rw [horg, hid]
  rw [Table.eq_of_key db.deviceKeys_key hfoundMem hmem hsame] at hfound
  exact hfound

namespace Registered

variable {db later : Db δ}

/-- A step that keeps the devices and the keys, and their columns. -/
theorem keeps (h : Registered db) (hshield : db.shield.Keeps later.shield)
    (hdeviceColumns : later.deviceColumns = db.deviceColumns)
    (hdeviceKeyColumns : later.deviceKeyColumns = db.deviceKeyColumns) : Registered later where
  lineage := by
    intro device' hdevice'
    obtain ⟨device, hdevice, hsame⟩ := hshield.devices.exists_earlier hdevice'
    exact (h.lineage device hdevice).follows hsame (keysOf_follows hsame hshield.deviceKeys)
  owned := by
    intro key' hkey'
    obtain ⟨key, hkey, hfollows⟩ := hshield.deviceKeys.exists_earlier hkey'
    obtain ⟨device, hdevice, horg, hid⟩ := h.owned key hkey
    obtain ⟨device', hdevice', hsame⟩ := hshield.devices.exists_later hdevice
    refine ⟨device', hdevice', ?_, ?_⟩
    · rw [hfollows.organisationId, horg, hsame.organisationId]
    · rw [hfollows.deviceId, hid, hsame.id]
  deviceColumns := by
    rw [hdeviceColumns, h.deviceColumns, hshield.devices.map_eq (·.id) fun hab => hab.id]
  deviceKeyColumns := by
    rw [hdeviceKeyColumns, h.deviceKeyColumns,
      hshield.deviceKeys.map_eq (fun key => (key.organisationId, key.keyId))
        fun hab => by rw [hab.organisationId, hab.keyId]]
  ids := hdeviceKeyColumns ▸ h.ids

/-- An empty registry. -/
theorem init : Registered (State.init : State δ).db where
  lineage := nofun
  owned := nofun
  deviceColumns := rfl
  deviceKeyColumns := rfl
  ids := List.nodup_nil

/-- The device has the columns of the key service. -/
theorem exists_columnsOf (h : Registered db) {device : DeviceRow}
    (hdevice : device ∈ db.shield.devices) : ∃ columns, db.columnsOf device = some columns := by
  have hid : device.id ∈ db.deviceColumns.map (·.deviceId) :=
    h.deviceColumns ▸ List.mem_map_of_mem hdevice
  obtain ⟨columns, hcolumns, hcid⟩ := List.mem_map.mp hid
  exact Option.isSome_iff_exists.mp
    (List.find?_isSome.mpr ⟨columns, hcolumns, decide_eq_true hcid⟩)

theorem exists_keyColumnsOf (h : Registered db) {key : DeviceKeyRow}
    (hkey : key ∈ db.shield.deviceKeys) : ∃ columns, db.keyColumnsOf key = some columns := by
  have hid : (key.organisationId, key.keyId) ∈
      db.deviceKeyColumns.map (fun columns => (columns.organisationId, columns.keyId)) := by
    rw [h.deviceKeyColumns]
    exact List.mem_map.mpr ⟨key, hkey, rfl⟩
  obtain ⟨columns, hcolumns, hcid⟩ := List.mem_map.mp hid
  exact Option.isSome_iff_exists.mp
    (List.find?_isSome.mpr ⟨columns, hcolumns, decide_eq_true (Prod.mk.inj hcid)⟩)

/-- The key that the pointer of a device names. -/
theorem exists_currentKey (h : Registered db) {device : DeviceRow}
    (hdevice : device ∈ db.shield.devices) :
    ∃ key ∈ db.keysOf device, device.currentKeyId = some key.keyId ∧
      device.currentKeyVersion = some key.keyVersion ∧
      key.keyVersion = (db.keysOf device).length ∧
      device.currentKeyId.bind (db.shield.findDeviceKeyByKeyId device.organisationId) = some key := by
  obtain ⟨key, hkey, hid, hversion, hlast⟩ := (h.lineage device hdevice).pointer
  refine ⟨key, hkey, hid, hversion, hlast, ?_⟩
  obtain ⟨hmem, howner⟩ := List.mem_filter.mp hkey
  obtain ⟨horg, -⟩ := ownedBy_iff.mp howner
  rw [hid, Option.bind_some, ← horg]
  exact findDeviceKeyByKeyId_of_mem hmem

/-- A new device has no keys, and no other device gets any. -/
theorem enrol (h : Registered db) {enrolment : Enrolment}
    (hwrite : enrolment.write db = some later) : Registered later := by
  obtain ⟨created, hdevice, hkey⟩ := Option.bind_eq_some_iff.mp hwrite
  unfold Db.createDevice at hdevice
  split at hdevice
  · rename_i hfreshDevice
    obtain ⟨shield, rfl, hdevices, hkeys, hfreshId⟩ := Db.createDeviceKey_eq_some hkey
    cases hdevice
    exact
      { lineage := by
          intro device hdevice
          simp only [hdevices, List.mem_append, List.mem_singleton] at hdevice
          rw [Db.keysOf, hkeys]
          cases hdevice with
          | inl hold =>
            have hother : ¬ ownedBy device enrolment.key = true := fun howner =>
              hfreshDevice device hold (ownedBy_iff.mp howner).2.symm
            rw [filter_ownedBy_concat_other hother]
            exact h.lineage device hold
          | inr hnew =>
            subst hnew
            have hnone : db.shield.deviceKeys.filter (ownedBy enrolment.device) = [] := by
              refine List.filter_eq_nil_iff.mpr fun key hkey howner => ?_
              obtain ⟨device, hmem, -, hid⟩ := h.owned key hkey
              exact hfreshDevice device hmem (hid.symm.trans (ownedBy_iff.mp howner).2)
            have hself : ownedBy enrolment.device enrolment.key = true :=
              ownedBy_iff.mpr ⟨rfl, rfl⟩
            rw [filter_ownedBy_concat_self hself]
            show Lineage _ (db.shield.deviceKeys.filter (ownedBy enrolment.device) ++ _)
            rw [hnone]
            exact .single rfl rfl rfl
        owned := by
          intro key hkey
          simp only [hkeys, List.mem_append, List.mem_singleton] at hkey
          simp only [hdevices]
          cases hkey with
          | inl hold =>
            obtain ⟨device, hmem, howner⟩ := h.owned key hold
            exact ⟨device, List.mem_append_left _ hmem, howner⟩
          | inr hnew =>
            subst hnew
            exact ⟨enrolment.device, List.mem_append_right _ (List.mem_singleton.mpr rfl), rfl, rfl⟩
        deviceColumns := by
          simp only [hdevices, List.map_append, h.deviceColumns]
          rfl
        deviceKeyColumns := by
          simp only [hkeys, List.map_append, h.deviceKeyColumns]
          rfl
        ids := Table.nodup_map_concat h.ids hfreshId }
  · cases hdevice

end Registered

theorem Enrolment.write_extends {db db' : Db δ} {enrolment : Enrolment}
    (hwrite : enrolment.write db = some db') : db.Extends db' := by
  obtain ⟨created, hdevice, hkey⟩ := Option.bind_eq_some_iff.mp hwrite
  unfold Db.createDevice at hdevice
  split at hdevice
  · obtain ⟨shield, rfl, hdevices, hkeys, -⟩ := Db.createDeviceKey_eq_some hkey
    cases hdevice
    exact
      { devices := by
          rw [hdevices]
          exact .append (fun _ => ⟨rfl, rfl⟩) _ _
        deviceKeys := by
          rw [hkeys]
          exact .append KeyFollows.refl _ _
        deviceColumns := List.prefix_append _ _
        deviceKeyColumns := List.prefix_append _ _
        rotationRequests := .refl SameRequest.refl _
        rotationChallenges := List.prefix_rfl
        rotationVerifications := List.prefix_rfl
        consumptions := List.prefix_rfl }
  · cases hdevice

/-- A step of the trust service takes nothing back. -/
theorem Db.extends_of_keeps {db : Db δ} {shield : DeviceRegistry.Db}
    (hkeeps : db.shield.Keeps shield) : db.Extends { db with shield } where
  devices := by
    obtain ⟨f, hf, hdevices⟩ := hkeeps.devices
    exact Table.Follows.grows ⟨f, fun device => ⟨(hf device).id, (hf device).organisationId⟩, hdevices⟩
  deviceKeys := hkeeps.deviceKeys.grows
  deviceColumns := List.prefix_rfl
  deviceKeyColumns := List.prefix_rfl
  rotationRequests := .refl SameRequest.refl _
  rotationChallenges := List.prefix_rfl
  rotationVerifications := List.prefix_rfl
  consumptions := List.prefix_rfl

/-! ## What holds of every device in every reachable state -/

/-- The keys of a device, as the registry promises them. -/
structure KeysSound (db : Db δ) (device : DeviceRow) : Prop where
  columns : ∃ columns, db.columnsOf device = some columns
  one_current : ((db.keysOf device).filter (·.status = .current)).length ≤ 1
  versions : (db.keysOf device).map (·.keyVersion) = List.range' 1 (db.keysOf device).length
  pointer : ∃ key ∈ db.keysOf device, device.currentKeyId = some key.keyId ∧
    device.currentKeyVersion = some key.keyVersion ∧
    ∀ other ∈ db.keysOf device, other.keyVersion ≤ key.keyVersion
  current : ∀ key ∈ db.keysOf device, key.status = .current →
    device.currentKeyId = some key.keyId ∧ device.currentKeyVersion = some key.keyVersion

theorem Registered.keysSound {db : Db δ} (h : Registered db) {device : DeviceRow}
    (hdevice : device ∈ db.shield.devices) : KeysSound db device := by
  have hlineage := h.lineage device hdevice
  obtain ⟨last, hlast, hid, hversion, hlength⟩ := hlineage.pointer
  -- a key of the device is the one under its id
  have hsame : ∀ a ∈ db.keysOf device, ∀ b ∈ db.keysOf device, a.keyId = b.keyId → a = b := by
    intro a ha b hb hkeyId
    obtain ⟨haMem, haOwner⟩ := List.mem_filter.mp ha
    obtain ⟨hbMem, hbOwner⟩ := List.mem_filter.mp hb
    refine Table.eq_of_key db.shield.deviceKeys_key haMem hbMem ?_
    rw [(ownedBy_iff.mp haOwner).1, (ownedBy_iff.mp hbOwner).1, hkeyId]
  have hcurrent : ∀ key ∈ db.keysOf device, key.status = .current → key = last := by
    intro key hkey hstatus
    have hkeyId := hlineage.live key hkey hstatus
    rw [hid] at hkeyId
    exact hsame key hkey last hlast (Option.some.inj hkeyId).symm
  refine ⟨h.exists_columnsOf hdevice, ?_, hlineage.versions, ⟨last, hlast, hid, hversion, ?_⟩, ?_⟩
  · have hnodup : ((db.keysOf device).map id).Nodup := by
      rw [List.map_id]
      exact (List.Nodup.of_map _ db.shield.deviceKeys_key).filter _
    have hcount : (db.keysOf device).countP (fun key => key.status = .current) ≤ 1 :=
      Table.countP_le_one (k := last) hnodup fun key hkey hstatus =>
        hcurrent key hkey (of_decide_eq_true hstatus)
    rwa [List.countP_eq_length_filter] at hcount
  · intro other hother
    rw [hlength]
    exact hlineage.version_le hother
  · intro key hkey hstatus
    obtain rfl := hcurrent key hkey hstatus
    exact ⟨hid, hversion⟩

/-- The namespace of a device and the end of a key are for ever. -/
structure Stable (db later : Db δ) : Prop where
  namespaces : ∀ organisationId deviceId device columns,
    db.shield.findDevice organisationId deviceId = some device →
    db.columnsOf device = some columns →
    ∃ device', later.shield.findDevice organisationId deviceId = some device' ∧
      later.columnsOf device' = some columns
  retired : ∀ organisationId keyId key,
    db.shield.findDeviceKeyByKeyId organisationId keyId = some key → key.status ≠ .current →
    ∃ key', later.shield.findDeviceKeyByKeyId organisationId keyId = some key' ∧
      key'.deviceId = key.deviceId ∧ key'.keyVersion = key.keyVersion ∧ key'.status ≠ .current

theorem Db.Extends.stable {db later : Db δ} (h : db.Extends later) : Stable db later where
  namespaces := by
    intro organisationId deviceId device columns hdevice hcolumns
    obtain ⟨device', hdevice', hid⟩ := h.findDevice hdevice
    refine ⟨device', hdevice', ?_⟩
    rw [Db.columnsOf, hid]
    exact h.deviceColumns.find?_eq_some hcolumns
  retired := by
    intro organisationId keyId key hkey hstatus
    obtain ⟨key', hkey', hfollows⟩ := h.findDeviceKeyByKeyId hkey
    exact ⟨key', hkey', hfollows.deviceId, hfollows.keyVersion, hfollows.retired hstatus⟩

/-! ## Rotations -/

/-- The rows of a ceremony, and what ties them together. -/
structure Locks (platform : Platform δ) (db : Db δ)
    (organisationId rotationRequestId challengeId : String) (locked : LockedRotationState) :
    Prop where
  request : db.findRotationRequest organisationId rotationRequestId = some locked.request
  challenge : db.findRotationChallenge organisationId challengeId = some locked.challenge
  bound : locked.challenge.proposal.rotationRequestId = locked.request.rotationRequestId
  device : db.shield.findDevice organisationId locked.request.deviceId = some locked.device
  deviceColumns : db.columnsOf locked.device = some locked.deviceColumns
  currentKey : locked.device.currentKeyId.bind (db.shield.findDeviceKeyByKeyId organisationId) =
    some locked.currentKey
  currentKeyColumns : db.keyColumnsOf locked.currentKey = some locked.currentKeyColumns
  verification : db.findRotationVerification organisationId locked.challenge.challengeId =
    some locked.verification
  requestParses : requestParses platform.thumbprint locked.request.toRotationRequest = true
  challengeParses : challengeParses locked.challenge = true
  verificationParses : verificationParses locked.verification = true

theorem lockCurrentKey_eq_ok {db : Db δ} {organisationId deviceId : String} {device : DeviceRow}
    {deviceColumns : DeviceColumns} {currentKey : DeviceKeyRow}
    {currentKeyColumns : DeviceKeyColumns} :
    lockCurrentKey db organisationId deviceId =
        .ok ((device, deviceColumns), currentKey, currentKeyColumns) ↔
      db.shield.findDevice organisationId deviceId = some device ∧
      db.columnsOf device = some deviceColumns ∧
      device.currentKeyId.bind (db.shield.findDeviceKeyByKeyId organisationId) = some currentKey ∧
      db.keyColumnsOf currentKey = some currentKeyColumns := by
  constructor
  · intro h
    unfold lockCurrentKey at h
    split at h
    · cases h
    · rename_i found hfound
      split at h
      · cases h
      · rename_i columns hcolumns
        split at h
        · cases h
        · rename_i key hkey
          split at h
          · cases h
          · rename_i keyColumns hkeyColumns
            cases h
            exact ⟨hfound, hcolumns, hkey, hkeyColumns⟩
  · rintro ⟨hfound, hcolumns, hkey, hkeyColumns⟩
    simp only [lockCurrentKey, hfound, hcolumns, hkey, hkeyColumns]

theorem lockRotationState_eq_ok {platform : Platform δ} {db : Db δ}
    {organisationId rotationRequestId challengeId : String} {locked : LockedRotationState} :
    lockRotationState platform db organisationId rotationRequestId challengeId = .ok locked ↔
      Locks platform db organisationId rotationRequestId challengeId locked := by
  constructor
  · intro h
    unfold lockRotationState at h
    split at h
    · cases h
    · rename_i request hrequest
      split at h
      · cases h
      · rename_i challenge hchallenge
        obtain ⟨hbound, h⟩ := Except.ite_error_eq_ok.mp h
        split at h
        · cases h
        · rename_i device deviceColumns currentKey currentKeyColumns hcurrent
          obtain ⟨hdevice, hdeviceColumns, hkey, hkeyColumns⟩ := lockCurrentKey_eq_ok.mp hcurrent
          split at h
          · cases h
          · rename_i verification hverification
            obtain ⟨hparses, h⟩ := Except.ite_error_eq_ok.mp h
            simp only [not_or, Bool.not_eq_true', Bool.not_eq_false] at hparses
            cases h
            exact
              { request := hrequest
                challenge := hchallenge
                bound := not_not.mp hbound
                device := hdevice
                deviceColumns := hdeviceColumns
                currentKey := hkey
                currentKeyColumns := hkeyColumns
                verification := hverification
                requestParses := hparses.1
                challengeParses := hparses.2.1
                verificationParses := hparses.2.2 }
  · intro h
    have hcurrent := lockCurrentKey_eq_ok.mpr
      ⟨h.device, h.deviceColumns, h.currentKey, h.currentKeyColumns⟩
    simp [lockRotationState, h.request, h.challenge, h.bound, hcurrent, h.verification,
      h.requestParses, h.challengeParses, h.verificationParses]

section Rotation

variable [DecidableEq δ] {platform : Platform δ} {input : CommitInput} {env : Env}
  {locked : LockedRotationState} {db db' : Db δ}

theorem rotated_follows (input : CommitInput) (env : Env) (locked : LockedRotationState)
    (keys : List DeviceKeyRow) :
    Table.Follows KeyFollows keys
      (Table.rewrite
        (fun key => DeviceRegistry.Db.isDeviceKey input.organisationId locked.currentKey.keyId key &&
          key.status = .current)
        (fun key => { key with status := .rotated, rotatedAt := some env.now }) keys) :=
  .rewrite KeyFollows.refl fun key _ => .retire (by decide) key ..

/-- The current key that a commit locks is the last of the device's keys, and the one the pointer
    names. -/
theorem Rotated.currentKey (hrotated : Rotated platform input env locked db db')
    (h : Registered db) :
    locked.device ∈ db.shield.devices ∧ locked.device.organisationId = input.organisationId ∧
      locked.device.currentKeyId = some locked.currentKey.keyId ∧
      locked.device.currentKeyVersion = some locked.currentKey.keyVersion ∧
      locked.currentKey.keyVersion = (db.keysOf locked.device).length := by
  have hlocks := lockRotationState_eq_ok.mp hrotated.locks
  obtain ⟨hmem, -, horg⟩ := DeviceRegistry.Db.findDevice_eq_some hlocks.device
  obtain ⟨key, -, hid, hversion, hlast, hbind⟩ := h.exists_currentKey hmem
  rw [horg, hlocks.currentKey] at hbind
  cases hbind
  exact ⟨hmem, horg, hid, hversion, hlast⟩

theorem Rotated.proposedKeyVersion (hrotated : Rotated platform input env locked db db') :
    locked.request.proposedKeyVersion = locked.currentKey.keyVersion + 1 := by
  have hparses := (lockRotationState_eq_ok.mp hrotated.locks).requestParses
  simp only [requestParses, decide_eq_true_eq] at hparses
  rw [hparses.2.2.2.1, hrotated.currentKeyVersion]

theorem Rotated.lineage_self (hrotated : Rotated platform input env locked db db')
    (h : Registered db) {device' : DeviceRow} (hid : device'.id = locked.device.id)
    (horg : device'.organisationId = locked.device.organisationId)
    (hpointer : device'.currentKeyId = some locked.request.proposedKeyId)
    (hpointerVersion : device'.currentKeyVersion = some locked.request.proposedKeyVersion) :
    Lineage device' (db'.keysOf device') := by
  obtain ⟨hmem, hdeviceOrg, hcurrent, -, hlast⟩ := hrotated.currentKey h
  have hlineage := h.lineage _ hmem
  have howner : ownedBy device' = ownedBy locked.device := by
    funext key
    rw [ownedBy, ownedBy, hid, horg]
  have hnew : ownedBy locked.device (locked.newKey input.organisationId) = true :=
    ownedBy_iff.mpr ⟨hdeviceOrg.symm, rfl⟩
  rw [Db.keysOf, howner, hrotated.writes.deviceKeys, filter_ownedBy_concat_self hnew]
  refine hlineage.rotate
    ((rotated_follows input env locked _).filter fun hab => ?_) ?_ ?_ hpointer hpointerVersion
  · rw [ownedBy, ownedBy, hab.organisationId, hab.deviceId]
  · -- the key that was CURRENT is the one that has been marked
    intro key hkey hstatus
    obtain ⟨hkeyMem, hkeyOwner⟩ := List.mem_filter.mp hkey
    obtain ⟨old, hold, rfl⟩ := Table.mem_rewrite.mp hkeyMem
    split at hstatus
    · cases hstatus
    · rename_i hmiss
      rw [if_neg hmiss] at hkeyOwner
      have hkeyId := hlineage.live old (List.mem_filter.mpr ⟨hold, hkeyOwner⟩) hstatus
      have hsame : old.keyId = locked.currentKey.keyId :=
        Option.some.inj (hkeyId.symm.trans hcurrent)
      apply hmiss
      rw [Bool.and_eq_true]
      exact ⟨DeviceRegistry.Db.isDeviceKey_iff.mpr
        ⟨(ownedBy_iff.mp hkeyOwner).1.trans hdeviceOrg, hsame⟩, decide_eq_true hstatus⟩
  · show locked.request.proposedKeyVersion = _
    rw [hrotated.proposedKeyVersion, hlast]

/-- The keys of every other device. -/
theorem Rotated.lineage_other (hrotated : Rotated platform input env locked db db')
    (h : Registered db) {device : DeviceRow} (hdevice : device ∈ db.shield.devices)
    (hne : device.id ≠ locked.device.id) : Lineage device (db'.keysOf device) := by
  have hother : ¬ ownedBy device (locked.newKey input.organisationId) = true := fun howner =>
    hne (ownedBy_iff.mp howner).2.symm
  rw [Db.keysOf, hrotated.writes.deviceKeys, filter_ownedBy_concat_other hother]
  refine (h.lineage device hdevice).follows (.refl device)
    ((rotated_follows input env locked _).filter fun hab => ?_)
  rw [ownedBy, ownedBy, hab.organisationId, hab.deviceId]

theorem Registered.rotated (h : Registered db)
    (hrotated : Rotated platform input env locked db db') : Registered db' where
  lineage := by
    obtain ⟨hmem, horg, hcurrent, hversion, -⟩ := hrotated.currentKey h
    intro device' hdevice'
    rw [hrotated.writes.devices] at hdevice'
    obtain ⟨device, hdevice, rfl⟩ := Table.mem_rewrite.mp hdevice'
    split
    · rename_i hhit
      simp only [Bool.and_eq_true, DeviceRegistry.Db.isDevice_iff] at hhit
      obtain rfl := Table.eq_of_key db.shield.devices_key hdevice hmem hhit.1.1.1
      exact hrotated.lineage_self h rfl rfl rfl rfl
    · rename_i hmiss
      refine hrotated.lineage_other h hdevice fun hid => hmiss ?_
      obtain rfl := Table.eq_of_key db.shield.devices_key hdevice hmem hid
      simp [DeviceRegistry.Db.isDevice, horg, hcurrent, hversion]
  owned := by
    obtain ⟨hmem, horg, -⟩ := hrotated.currentKey h
    -- a device that moved its pointer is still the owner
    have hlater : ∀ device ∈ db.shield.devices, ∃ device' ∈ db'.shield.devices,
        device'.organisationId = device.organisationId ∧ device'.id = device.id := by
      intro device hdevice
      rw [hrotated.writes.devices]
      refine ⟨_, Table.mem_rewrite.mpr ⟨device, hdevice, rfl⟩, ?_⟩
      split <;> exact ⟨rfl, rfl⟩
    intro key hkey
    rw [hrotated.writes.deviceKeys] at hkey
    cases List.mem_append.mp hkey with
    | inl hold =>
      obtain ⟨old, holdMem, hfollows⟩ :=
        (rotated_follows input env locked _).exists_earlier hold
      obtain ⟨device, hdevice, howner⟩ := h.owned old holdMem
      obtain ⟨device', hdevice', hsame⟩ := hlater device hdevice
      refine ⟨device', hdevice', ?_, ?_⟩
      · rw [hfollows.organisationId, howner.1, hsame.1]
      · rw [hfollows.deviceId, howner.2, hsame.2]
    | inr hnew =>
      obtain ⟨device', hdevice', hsame⟩ := hlater _ hmem
      rw [List.mem_singleton.mp hnew]
      exact ⟨device', hdevice', (hsame.1.trans horg).symm, hsame.2.symm⟩
  deviceColumns := by
    have hids : db'.shield.devices.map (·.id) = db.shield.devices.map (·.id) := by
      rw [hrotated.writes.devices]
      exact Table.map_rewrite _ fun _ => rfl
    rw [hrotated.writes.deviceColumns, hids]
    exact h.deviceColumns
  deviceKeyColumns := by
    have hkeys := (rotated_follows input env locked db.shield.deviceKeys).map_eq
      (fun key => (key.organisationId, key.keyId)) fun hab => by rw [hab.organisationId, hab.keyId]
    rw [hrotated.writes.deviceKeyColumns, hrotated.writes.deviceKeys, List.map_append,
      List.map_append, hkeys, ← h.deviceKeyColumns]
    rfl
  ids := by
    rw [hrotated.writes.deviceKeyColumns]
    exact Table.nodup_map_concat h.ids hrotated.writes.fresh

/-- A rotation takes nothing back. -/
theorem Rotated.toExtends (hrotated : Rotated platform input env locked db db') :
    db.Extends db' where
  devices := by
    rw [hrotated.writes.devices]
    exact (Table.Follows.rewrite (fun _ => ⟨rfl, rfl⟩) fun _ _ => ⟨rfl, rfl⟩).grows
  deviceKeys := by
    rw [hrotated.writes.deviceKeys]
    exact ⟨_, _, rotated_follows input env locked _, rfl⟩
  deviceColumns := hrotated.writes.deviceColumns ▸ List.prefix_rfl
  deviceKeyColumns := hrotated.writes.deviceKeyColumns ▸ List.prefix_append _ _
  rotationRequests := hrotated.writes.rotationRequests.grows
  rotationChallenges := hrotated.writes.rotationChallenges ▸ List.prefix_rfl
  rotationVerifications := hrotated.writes.rotationVerifications ▸ List.prefix_rfl
  consumptions := hrotated.writes.consumptions ▸ DeviceReplay.Consumptions.prefix_consume

end Rotation

end Sentinel.DeviceKeys
