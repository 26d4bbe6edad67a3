import Sentinel.Spec.DeviceKeyRegistry

/-! # Rotations and their retries

What a committed rotation leaves (the records of the ceremony, the consumed identity, the key under
the id the consumption names) is never taken back, so every later retry converges. -/

namespace Sentinel.DeviceKeys

open DeviceRegistry (DeviceRow DeviceKeyRow Principal KeyFollows checkGlobalDeviceMutationAuthority)
open DeviceReplay (ConsumptionRow)
open DeviceKeyRotation

variable {δ : Type} [DecidableEq δ] {platform : Platform δ}

/-! ## What a rotation leaves -/

/-- The records of a committed ceremony, and the reference its identity was consumed with. -/
structure Landed (platform : Platform δ) (db : Db δ) (input : CommitInput)
    (request : RotationRequest) (challenge : RotationChallenge)
    (verification : PossessionVerification) (ref : String) : Prop where
  requested : ∃ row, db.findRotationRequest input.organisationId input.rotationRequestId = some row ∧
    row.toRotationRequest = request
  challenged : db.findRotationChallenge input.organisationId input.challengeId = some challenge
  bound : challenge.proposal.rotationRequestId = request.rotationRequestId
  enrolled : ∃ device, db.shield.findDevice input.organisationId request.deviceId = some device
  verdict : db.findRotationVerification input.organisationId challenge.challengeId =
    some verification
  requestParses : requestParses platform.thumbprint request = true
  challengeParses : challengeParses challenge = true
  verificationParses : verificationParses verification = true
  consumed : ∃ row, db.consumptions.peek input.organisationId
      (platform.replayDigest (replayIdentity request challenge)) = some row ∧
    row.statementFingerprint = platform.requestFingerprint request ∧ row.storedOutcomeRef = some ref
  created : ∃ key, db.findDeviceKeyRowById input.organisationId ref = some key ∧
    key.deviceId = request.deviceId ∧ key.keyId = request.proposedKeyId ∧
    key.keyVersion = request.proposedKeyVersion

namespace Landed

variable {db later : Db δ} {input : CommitInput} {request : RotationRequest}
  {challenge : RotationChallenge} {verification : PossessionVerification} {ref : String}

theorem mono (h : Landed platform db input request challenge verification ref)
    (hextends : db.Extends later) :
    Landed platform later input request challenge verification ref where
  requested := by
    obtain ⟨row, hrow, hrequest⟩ := h.requested
    obtain ⟨row', hrow', hsame⟩ := hextends.findRotationRequest hrow
    exact ⟨row', hrow', hsame.trans hrequest⟩
  challenged := hextends.rotationChallenges.find?_eq_some h.challenged
  bound := h.bound
  enrolled := by
    obtain ⟨device, hdevice⟩ := h.enrolled
    obtain ⟨device', hdevice', -⟩ := hextends.findDevice hdevice
    exact ⟨device', hdevice'⟩
  verdict := hextends.rotationVerifications.find?_eq_some h.verdict
  requestParses := h.requestParses
  challengeParses := h.challengeParses
  verificationParses := h.verificationParses
  consumed := by
    obtain ⟨row, hrow, hfields⟩ := h.consumed
    exact ⟨row, hextends.peek hrow, hfields⟩
  created := by
    obtain ⟨key, hkey, hdevice, hid, hversion⟩ := h.created
    obtain ⟨key', hkey', hfollows⟩ := hextends.findDeviceKeyRowById hkey
    exact ⟨key', hkey', hfollows.deviceId.trans hdevice, hfollows.keyId.trans hid,
      hfollows.keyVersion.trans hversion⟩

/-- The commit finds the rows of the ceremony, whatever has become of the device's keys. -/
theorem locks (h : Landed platform db input request challenge verification ref)
    (hregistered : Registered db) :
    ∃ locked, lockRotationState platform db input.organisationId input.rotationRequestId
        input.challengeId = .ok locked ∧
      locked.request.toRotationRequest = request ∧ locked.challenge = challenge ∧
      locked.device.id = request.deviceId ∧
      locked.device.organisationId = input.organisationId := by
  obtain ⟨row, hrow, rfl⟩ := h.requested
  obtain ⟨device, hdevice⟩ := h.enrolled
  obtain ⟨hmem, hid, horg⟩ := DeviceRegistry.Db.findDevice_eq_some hdevice
  obtain ⟨columns, hcolumns⟩ := hregistered.exists_columnsOf hmem
  obtain ⟨key, hkey, -, -, -, hcurrent⟩ := hregistered.exists_currentKey hmem
  obtain ⟨keyColumns, hkeyColumns⟩ :=
    hregistered.exists_keyColumnsOf (List.mem_filter.mp hkey).1
  refine ⟨⟨device, columns, key, keyColumns, row, challenge, verification⟩,
    lockRotationState_eq_ok.mpr ?_, rfl, rfl, hid, horg⟩
  exact
    { request := hrow
      challenge := h.challenged
      bound := h.bound
      device := hdevice
      deviceColumns := hcolumns
      currentKey := horg ▸ hcurrent
      currentKeyColumns := hkeyColumns
      verification := h.verdict
      requestParses := h.requestParses
      challengeParses := h.challengeParses
      verificationParses := h.verificationParses }

/-- An authorised retry answers with the key of the rotation, and writes nothing. -/
theorem converges (h : Landed platform db input request challenge verification ref)
    (hregistered : Registered db) {principal : Principal}
    (hauthority : checkGlobalDeviceMutationAuthority principal actionDeviceKeyRotate
      input.organisationId
      (db.shield.listDeviceSiteIds input.organisationId request.deviceId) = true) (env : Env) :
    ∃ key, db.shield.findDeviceKeyByKeyId input.organisationId request.proposedKeyId = some key ∧
      key.deviceId = request.deviceId ∧ key.keyVersion = request.proposedKeyVersion ∧
      commitKeyRotation platform principal input env db =
        (.converged request.deviceId ref (request.proposedKeyId, request.proposedKeyVersion)
          key.status, db) := by
  obtain ⟨locked, hlocks, hrequest, hchallenge, hdeviceId, horg⟩ := h.locks hregistered
  obtain ⟨row, hrow, hfingerprint, href⟩ := h.consumed
  obtain ⟨key, hkey, hkeyDevice, hkeyId, hkeyVersion⟩ := h.created
  have hstored : storedRotation db input.organisationId (locked.digest platform)
      (locked.fingerprint platform) = some ref := by
    rw [storedRotation, LockedRotationState.digest, LockedRotationState.fingerprint, hrequest,
      hchallenge, hrow, Option.bind_some, if_pos hfingerprint, href]
  have hresolved : resolveCommittedRotation db locked ref = some key := by
    have hproposedId : key.keyId = locked.request.proposedKeyId := by rw [hkeyId, ← hrequest]
    have hproposedVersion : key.keyVersion = locked.request.proposedKeyVersion := by
      rw [hkeyVersion, ← hrequest]
    rw [resolveCommittedRotation, horg, hkey]
    simp [hkeyDevice, hdeviceId, hproposedId, hproposedVersion]
  have hfound : db.shield.findDeviceKeyByKeyId input.organisationId key.keyId = some key := by
    obtain ⟨columns, -, hcolumnsKey⟩ := Option.bind_eq_some_iff.mp hkey
    obtain ⟨hmem, hkeyOrg, -⟩ := DeviceRegistry.Db.findDeviceKeyByKeyId_eq_some hcolumnsKey
    exact hkeyOrg ▸ findDeviceKeyByKeyId_of_mem hmem
  refine ⟨key, hkeyId ▸ hfound, hkeyDevice, hkeyVersion, ?_⟩
  unfold commitKeyRotation
  simp only [hlocks, hdeviceId, hauthority, hstored, hresolved, hkeyId, hkeyVersion]
  rfl

end Landed

theorem Rotated.landed {input : CommitInput} {env : Env} {locked : LockedRotationState}
    {db db' : Db δ} (hrotated : Rotated platform input env locked db db') (h : Registered db) :
    Landed platform db' input locked.request.toRotationRequest locked.challenge
      locked.verification env.id := by
  have hlocks := lockRotationState_eq_ok.mp hrotated.locks
  have hextends := hrotated.toExtends
  obtain ⟨device, hdevice, hid⟩ := hextends.findDevice hlocks.device
  have hrequest := hextends.findRotationRequest hlocks.request
  exact
    { requested := hrequest
      challenged := hextends.rotationChallenges.find?_eq_some hlocks.challenge
      bound := hlocks.bound
      enrolled := ⟨device, hdevice⟩
      verdict := hextends.rotationVerifications.find?_eq_some hlocks.verification
      requestParses := hlocks.requestParses
      challengeParses := hlocks.challengeParses
      verificationParses := hlocks.verificationParses
      consumed := by
        refine ⟨locked.consumption platform input.organisationId env.id, ?_, rfl, rfl⟩
        have hinserted : locked.consumption platform input.organisationId env.id ∈
            (db.consumptions.consume
              (locked.consumption platform input.organisationId env.id)).1.rows :=
          DeviceReplay.Consumptions.mem_consume_self hrotated.unseen
        rw [hrotated.writes.consumptions]
        exact DeviceReplay.Consumptions.peek_of_mem hinserted
      created := by
        have hcolumns : locked.newKeyColumns input.organisationId env ∈ db'.deviceKeyColumns := by
          rw [hrotated.writes.deviceKeyColumns]
          exact List.mem_append_right _ (List.mem_singleton.mpr rfl)
        have hkey : locked.newKey input.organisationId ∈ db'.shield.deviceKeys := by
          rw [hrotated.writes.deviceKeys]
          exact List.mem_append_right _ (List.mem_singleton.mpr rfl)
        refine ⟨locked.newKey input.organisationId, ?_, hrotated.deviceId.symm, rfl, rfl⟩
        -- the id of the row is its own
        have hfound : (db'.deviceKeyColumns.find? fun columns => columns.id = env.id ∧
            columns.organisationId = input.organisationId) =
              some (locked.newKeyColumns input.organisationId env) :=
          Table.find?_eq_some (h.rotated hrotated).ids hcolumns ⟨rfl, rfl⟩ fun _ hother => hother.1
        rw [Db.findDeviceKeyRowById, hfound]
        exact findDeviceKeyByKeyId_of_mem hkey }

/-! ## The system -/

/-- Every committed rotation has landed, and only ceremonies rotate keys. -/
structure Inv (platform : Platform δ) (s : State δ) : Prop where
  registered : Registered s.db
  trust : ∀ worker ∈ s.trust, worker.rotates = false
  landed : ∀ input deviceId sequenceNamespaceId source target,
    .committed input (.rotated deviceId sequenceNamespaceId source target) ∈ s.ceremonies →
    ∃ request challenge verification ref,
      Landed platform s.db input request challenge verification ref ∧
      request.deviceId = deviceId ∧
      (request.proposedKeyId, request.proposedKeyVersion) = target

theorem Inv.init : Inv platform (State.init : State δ) := by
  refine ⟨.init, fun worker hmem => ?_, fun input deviceId _ source target hmem => ?_⟩
  · exact (List.not_mem_nil hmem).elim
  · exact (List.not_mem_nil hmem).elim

theorem Inv.landed_mono {s : State δ} (h : Inv platform s) {db : Db δ}
    (hextends : s.db.Extends db) (input : CommitInput) (deviceId sequenceNamespaceId : String)
    (source target : String × Nat)
    (hmem : .committed input (.rotated deviceId sequenceNamespaceId source target) ∈ s.ceremonies) :
    ∃ request challenge verification ref,
      Landed platform db input request challenge verification ref ∧
      request.deviceId = deviceId ∧
      (request.proposedKeyId, request.proposedKeyVersion) = target := by
  obtain ⟨request, challenge, verification, ref, hlanded, hfields⟩ := h.landed _ _ _ _ _ hmem
  exact ⟨request, challenge, verification, ref, hlanded.mono hextends, hfields⟩

/-- One step of a ceremony. -/
theorem Inv.keyAdvance {s : State δ} (h : Inv platform s) {i : Nat} {env : Env} {phase next : Phase}
    {db : Db δ} (hadvance : phase.advance platform s.db env = some (db, next)) :
    Inv platform { s with db, ceremonies := s.ceremonies.set i next } ∧ s.db.Extends db := by
  have hold : ∀ {other}, other ∈ s.ceremonies.set i next → other = next ∨ other ∈ s.ceremonies :=
    fun hmem => (List.mem_or_eq_of_mem_set hmem).symm
  cases advance_cases hadvance with
  | inl hrecords =>
    obtain ⟨hrecords, hnext⟩ := hrecords
    refine ⟨⟨?_, h.trust, ?_⟩, hrecords.toExtends⟩
    · exact h.registered.keeps (hrecords.shield ▸ .refl _) hrecords.deviceColumns
        hrecords.deviceKeyColumns
    · intro input deviceId sequenceNamespaceId source target hmem
      cases hold hmem with
      | inl hnew =>
        rw [← hnew] at hnext
        cases hnext
      | inr hmem => exact h.landed_mono hrecords.toExtends _ _ _ _ _ hmem
  | inr hcommit =>
    obtain ⟨principal, input, outcome, rfl, rfl, hcommit⟩ := hcommit
    cases commitKeyRotation_cases hcommit with
    | inl hrotates =>
      obtain ⟨locked, hrotated, rfl⟩ := hrotates
      refine ⟨⟨h.registered.rotated hrotated, h.trust, ?_⟩, hrotated.toExtends⟩
      intro input' deviceId sequenceNamespaceId source target hmem
      cases hold hmem with
      | inl hnew =>
        cases hnew
        exact ⟨_, _, _, _, hrotated.landed h.registered, hrotated.deviceId, rfl⟩
      | inr hmem => exact h.landed_mono hrotated.toExtends _ _ _ _ _ hmem
    | inr hrefuses =>
      obtain ⟨houtcome, events, rfl⟩ := hrefuses
      have hrecords := Db.RecordsCeremony.audit s.db events
      refine ⟨⟨?_, h.trust, ?_⟩, hrecords.toExtends⟩
      · exact h.registered.keeps (.refl _) rfl rfl
      · intro input' deviceId sequenceNamespaceId source target hmem
        cases hold hmem with
        | inl hnew =>
          cases hnew
          exact (houtcome _ _ _ _ rfl).elim
        | inr hmem => exact h.landed_mono hrecords.toExtends _ _ _ _ _ hmem

/-- One step of the system, in any order. -/
theorem Inv.step {s s' : State δ} {label : Label δ} (h : Inv platform s)
    (hstep : step platform s label = some s') : Inv platform s' ∧ s.db.Extends s'.db := by
  cases label with
  | enrol enrolment =>
    obtain ⟨db, hwrite, rfl⟩ := Option.map_eq_some_iff.mp hstep
    have hextends := enrolment.write_extends hwrite
    exact ⟨⟨h.registered.enrol hwrite, h.trust, h.landed_mono hextends⟩, hextends⟩
  | trustCall call =>
    cases hstep
    refine ⟨⟨h.registered, ?_, h.landed⟩, .refl _⟩
    intro worker hworker
    rcases List.of_mem_concat hworker with hold | rfl
    · exact h.trust worker hold
    · cases call <;> rfl
  | trustAdvance i env =>
    simp only [DeviceKeys.step, Option.bind_eq_bind, Option.bind_eq_some_iff] at hstep
    obtain ⟨worker, hworker, ⟨shield, next, commits⟩, hadvance, hstep⟩ := hstep
    cases hstep
    obtain ⟨hkeeps, hnext⟩ := DeviceRegistry.advance_keeps
      (h.trust worker (List.mem_of_getElem? hworker)) hadvance
    have hextends := Db.extends_of_keeps hkeeps
    refine ⟨⟨h.registered.keeps hkeeps rfl rfl, ?_, h.landed_mono hextends⟩, hextends⟩
    intro other hother
    cases List.mem_or_eq_of_mem_set hother with
    | inl hold => exact h.trust other hold
    | inr hnew => rw [hnew, hnext]
  | keyCall call =>
    cases hstep
    refine ⟨⟨h.registered, h.trust, ?_⟩, .refl _⟩
    intro input deviceId sequenceNamespaceId source target hmem
    cases List.mem_append.mp hmem with
    | inl hold => exact h.landed _ _ _ _ _ hold
    | inr hnew => cases call <;> cases List.mem_singleton.mp hnew
  | keyAdvance i env =>
    simp only [DeviceKeys.step, Option.bind_eq_bind, Option.bind_eq_some_iff] at hstep
    obtain ⟨phase, -, ⟨db, next⟩, hadvance, hstep⟩ := hstep
    cases hstep
    exact h.keyAdvance hadvance
  | surround deviceSiteScopes attestationObservations trustTransitions =>
    cases hstep
    have hkeeps : s.db.shield.Keeps { s.db.shield with
        deviceSiteScopes, attestationObservations, trustTransitions } := .same rfl rfl
    have hextends := Db.extends_of_keeps hkeeps
    exact ⟨⟨h.registered.keeps hkeeps rfl rfl, h.trust, h.landed_mono hextends⟩, hextends⟩
  | consume row =>
    cases hstep
    have hextends : s.db.Extends
        { s.db with consumptions := (s.db.consumptions.consume row).1 } :=
      { Db.Extends.refl s.db with consumptions := DeviceReplay.Consumptions.prefix_consume }
    exact ⟨⟨h.registered.keeps (.refl _) rfl rfl, h.trust, h.landed_mono hextends⟩, hextends⟩

theorem Inv.run {s s' : State δ} {labels : List (Label δ)} (h : Inv platform s)
    (hrun : Transition.run (DeviceKeys.step platform) s labels = some s') :
    Inv platform s' ∧ s.db.Extends s'.db :=
  ⟨Transition.run_invariant (fun hinv hstep => (Inv.step hinv hstep).1) h hrun,
    Transition.run_mono (r := fun s t : State δ => s.db.Extends t.db) (fun s => .refl s.db)
      .trans (fun hinv hstep => (Inv.step hinv hstep).1) (fun hinv hstep => (Inv.step hinv hstep).2)
      h hrun⟩

/-! ## What holds in every reachable state -/

/-- What a commit does: it creates the key it reports, or it is a refusal and changes nothing but
    the audit trail. -/
structure CommitSound (db : Db δ) (input : CommitInput) (outcome : CommitOutcome) (db' : Db δ) :
    Prop where
  rotated : ∀ deviceId sequenceNamespaceId source target,
    outcome = .rotated deviceId sequenceNamespaceId source target →
    db.shield.findDeviceKeyByKeyId input.organisationId target.1 = none ∧
    ∃ key, db'.shield.findDeviceKeyByKeyId input.organisationId target.1 = some key ∧
      key.deviceId = deviceId ∧ key.keyVersion = target.2 ∧ key.status = .current
  unmoved : (∀ deviceId sequenceNamespaceId source target,
      outcome ≠ .rotated deviceId sequenceNamespaceId source target) →
    ∃ events, db' = { db with keyEvents := db.keyEvents ++ events }

theorem commitSound {principal : Principal} {input : CommitInput} {env : Env} {db db' : Db δ}
    {outcome : CommitOutcome}
    (hcommit : commitKeyRotation platform principal input env db = (outcome, db')) :
    CommitSound db input outcome db' := by
  cases commitKeyRotation_cases hcommit with
  | inl hrotates =>
    obtain ⟨locked, hrotated, rfl⟩ := hrotates
    refine ⟨?_, fun hnot => (hnot _ _ _ _ rfl).elim⟩
    intro deviceId sequenceNamespaceId source target houtcome
    cases houtcome
    have hkey : locked.newKey input.organisationId ∈ db'.shield.deviceKeys := by
      rw [hrotated.writes.deviceKeys]
      exact List.mem_append_right _ (List.mem_singleton.mpr rfl)
    refine ⟨?_, locked.newKey input.organisationId, findDeviceKeyByKeyId_of_mem hkey, rfl, rfl, rfl⟩
    -- a key under this id would have kept the insert out
    cases hfound : db.shield.findDeviceKeyByKeyId input.organisationId
      locked.request.proposedKeyId with
    | none => rfl
    | some old =>
      obtain ⟨hold, horg, hid⟩ := DeviceRegistry.Db.findDeviceKeyByKeyId_eq_some hfound
      obtain ⟨later, hlater, hfollows⟩ :=
        (rotated_follows input env locked _).exists_later hold
      have hnodup := db'.shield.deviceKeys_key
      rw [hrotated.writes.deviceKeys, List.map_append, List.nodup_append] at hnodup
      refine (hnodup.2.2 _ (List.mem_map.mpr ⟨later, hlater, rfl⟩) _
        (List.mem_map.mpr ⟨_, List.mem_singleton.mpr rfl, rfl⟩) ?_).elim
      rw [hfollows.organisationId, hfollows.keyId, horg, hid]
      rfl
  | inr hrefuses =>
    obtain ⟨houtcome, hdb⟩ := hrefuses
    exact ⟨fun _ _ _ _ heq => (houtcome _ _ _ _ heq).elim, fun _ => hdb⟩

/-- The keys of every device are sound in every reachable state, nothing a later step does takes
back a namespace or the end of a key, and an authorised retry of a committed rotation answers in
every later state with the key this rotation created, and changes nothing. -/
theorem key_registry_run (platform : Platform δ) (labels : List (Label δ)) (s : State δ)
    (hrun : Transition.run (DeviceKeys.step platform) State.init labels = some s) :
    (∀ device ∈ s.db.shield.devices, KeysSound s.db device) ∧
    (∀ principal input env outcome db',
      commitKeyRotation platform principal input env s.db = (outcome, db') →
      CommitSound s.db input outcome db') ∧
    (∀ labels' s', Transition.run (DeviceKeys.step platform) s labels' = some s' →
      Stable s.db s'.db) ∧
    (∀ input deviceId sequenceNamespaceId source target,
      .committed input (.rotated deviceId sequenceNamespaceId source target) ∈ s.ceremonies →
      ∃ ref, ∀ labels' s', Transition.run (DeviceKeys.step platform) s labels' = some s' →
        ∀ principal continuityProof traceId env,
          checkGlobalDeviceMutationAuthority principal actionDeviceKeyRotate input.organisationId
            (s'.db.shield.listDeviceSiteIds input.organisationId deviceId) = true →
          ∃ key, s'.db.shield.findDeviceKeyByKeyId input.organisationId target.1 = some key ∧
            key.deviceId = deviceId ∧ key.keyVersion = target.2 ∧
            commitKeyRotation platform principal { input with continuityProof, traceId } env s'.db =
              (.converged deviceId ref target key.status, s'.db)) := by
  have hinv : Inv platform s := (Inv.init.run hrun).1
  refine ⟨fun device hdevice => hinv.registered.keysSound hdevice,
    fun _ _ _ _ _ hcommit => commitSound hcommit,
    fun labels' s' hlater => (hinv.run hlater).2.stable, ?_⟩
  intro input deviceId sequenceNamespaceId source target hmem
  obtain ⟨request, challenge, verification, ref, hlanded, rfl, rfl⟩ := hinv.landed _ _ _ _ _ hmem
  refine ⟨ref, fun labels' s' hlater principal continuityProof traceId env hauthority => ?_⟩
  obtain ⟨hinv', hextends⟩ := hinv.run hlater
  -- the records of the ceremony do not depend on the proof and the trace the retry comes with
  have hretry : Landed platform s'.db { input with continuityProof, traceId } request challenge
      verification ref :=
    let later := hlanded.mono hextends
    ⟨later.requested, later.challenged, later.bound, later.enrolled, later.verdict,
      later.requestParses, later.challengeParses, later.verificationParses, later.consumed,
      later.created⟩
  exact hretry.converges hinv'.registered hauthority env

/-! ## A run -/

section Example

/-- A platform on which every signature verifies. -/
def trusting : Platform ReplayIdentity where
  thumbprint := some
  isRuntimeValidPublicKey := fun _ => true
  requestFingerprint := fun request => request.rotationRequestId
  possessionFingerprint := fun statement => statement.nonce
  verifyRequestProof := fun _ _ _ => true
  verifyPossession := fun _ _ _ => true
  replayDigest := id

/-- Someone who may rotate every key of the organisation. -/
def keyOfficer : Principal :=
  { userId := "officer", organisationId := "org", roles := [⟨[actionDeviceKeyRotate], none⟩] }

def continuityOfFirstKey : ContinuityProof where
  proof :=
    { contextId := "context", organisationId := "org", siteId := "site", actorUserId := "officer"
      deviceId := "dev", keyId := "k1", keyVersion := 1, purpose := .deviceKeyRotation
      payloadDigest := "request", nonce := "n", issuedAt := ""
      claimedSignatureProfile := serverSelectedSignatureProfile }
  signature := ""

def commitOfRotation : CommitInput where
  organisationId := "org"
  rotationRequestId := "request"
  challengeId := "challenge"
  continuityProof := some continuityOfFirstKey
  traceId := "trace"

/-- A device is enrolled, and its key is rotated once. -/
def rotationRun : List (Label ReplayIdentity) :=
  [.enrol
      { organisationId := "org", deviceId := "dev", sequenceNamespaceId := "ns", trust := .trusted
        keyRowId := "row1", keyId := "k1", publicKey := "pk1", publicKeyThumbprint := "pk1"
        keyStorage := .hardwareBacked, registeredAt := 0 },
    .keyCall (.requestKeyRotation keyOfficer ⟨"org", "dev", "pk2", .hardwareBacked⟩),
    .keyAdvance 0 {}, .keyAdvance 0 {},
    .keyAdvance 0 { id := "request", keyId := "k2" },
    .keyCall (.issueRotationChallenge keyOfficer ⟨"org", "request"⟩),
    .keyAdvance 1 {}, .keyAdvance 1 { id := "challenge", nonce := "n" },
    .keyCall (.verifyRotationPossession ⟨"org", "request", "challenge",
      some ⟨"challenge", "request", serverSelectedSignatureProfile, ""⟩⟩),
    .keyAdvance 2 {}, .keyAdvance 2 { now := 1 },
    .keyCall (.commitKeyRotation keyOfficer commitOfRotation),
    .keyAdvance 3 { now := 2, id := "row2" }]

/-- The rotation went through, and a retry with another proof answers with its key. -/
theorem key_registry_run_rotated :
    let s := (Transition.run (DeviceKeys.step trusting) State.init rotationRun).getD State.init
    (∀ device ∈ s.db.shield.devices, KeysSound s.db device) ∧
      ∃ (ref : String) (key : DeviceKeyRow), key.keyVersion = 2 ∧
        commitKeyRotation trusting keyOfficer
            { commitOfRotation with continuityProof := none, traceId := "retry" } {} s.db =
          (.converged "dev" ref ("k2", 2) key.status, s.db) := by
  have hrun : Transition.run (DeviceKeys.step trusting) State.init rotationRun =
      some ((Transition.run (DeviceKeys.step trusting) State.init rotationRun).getD State.init) :=
    Transition.run_eq_some_getD (by decide)
  obtain ⟨hsound, -, -, hretry⟩ := key_registry_run trusting rotationRun _ hrun
  obtain ⟨ref, hconverges⟩ := hretry commitOfRotation "dev" "ns" ("k1", 1) ("k2", 2)
    (by decide)
  obtain ⟨key, -, -, hversion, hanswer⟩ :=
    hconverges [] _ rfl keyOfficer none "retry" {} (by decide)
  exact ⟨hsound, ref, key, hversion, hanswer⟩

end Example

end Sentinel.DeviceKeys
