import Sentinel.ForStd.Except
import Sentinel.Native.DeviceGateway

/-! # What one step of the gateway can do -/

namespace Sentinel.DeviceGateway

open DeviceReplay Consumptions DeviceRequestProof

/-! ## The evaluator -/

section Evaluator

variable {parseInstant : String → Option Int} {fingerprint : StatementInput → String}
  {input : EvaluationInput} {effect : Effect}

/-- What an admitted proof has passed. -/
theorem evaluate_ok (h : evaluateDeviceRequestProof parseInstant fingerprint input = .ok effect) :
    checkContext input = .ok () ∧ checkRegistered input = .ok () ∧
      ∀ storedOutcomeRef, effect = .convergeOnStoredOutcome storedOutcomeRef →
        input.consumption.consumption = .exactDuplicate storedOutcomeRef := by
  rw [evaluateDeviceRequestProof] at h
  cases hinstant : parseInstant input.proof.issuedAt with
  | none =>
    rw [hinstant] at h
    cases h
  | some proofIssued =>
    rw [hinstant] at h
    obtain ⟨_, hcontext, h⟩ := Except.bind_eq_ok.mp h
    obtain ⟨_, hregistered, h⟩ := Except.bind_eq_ok.mp h
    obtain ⟨_, _, h⟩ := Except.bind_eq_ok.mp h
    refine ⟨hcontext, hregistered, ?_⟩
    rintro storedOutcomeRef rfl
    split at h
    · cases h
    · obtain ⟨_, _, h⟩ := Except.bind_eq_ok.mp h
      obtain ⟨_, _, h⟩ := Except.bind_eq_ok.mp h
      rw [Except.ite_error_eq_ok] at h
      obtain ⟨_, h⟩ := h
      split at h
      · rename_i ref hduplicate
        cases h
        exact hduplicate
      · cases h

/-- A proof that passes the context names its organisation and its key. -/
theorem checkContext_ok (h : checkContext input = .ok ()) :
    input.proof.organisationId = input.context.organisationId := by
  simp only [checkContext, Except.ite_error_eq_ok] at h
  exact not_not.mp h.2.2.1

/-- The registry's key stands and is the one of the context. -/
theorem checkRegistered_ok (h : checkRegistered input = .ok ()) :
    input.registered.revoked = false ∧ input.registered.keyId = input.context.keyId ∧
      input.registered.keyVersion = input.context.keyVersion := by
  simp only [checkRegistered, Except.ite_error_eq_ok] at h
  obtain ⟨_, hrevoked, hkey, hversion, _⟩ := h
  exact ⟨by simpa using hrevoked, not_not.mp hkey, not_not.mp hversion⟩

end Evaluator

section Steps

variable {platform : Platform} {contexts : List ContextRow} {consumptions : Consumptions ReplayKey}
  {prepared : Prepared} {reading : Reading} {claim : Claim} {effect : Effect} {s s' : State}
  {label : Label}

/-! ## Under the locks -/

/-- What a judgement that admits has found. -/
theorem judge_ok {input : Judged} {facts : Facts} {stored : Option (ConsumptionRow ReplayKey)}
    (h : judge platform input facts stored = .ok effect) :
    input.proof.organisationId = facts.context.organisationId ∧
      facts.registered.revoked = false ∧ facts.registered.keyId = facts.context.keyId ∧
      facts.registered.keyVersion = facts.context.keyVersion ∧
      ∀ storedOutcomeRef, effect = .convergeOnStoredOutcome storedOutcomeRef →
        classify input.fingerprint stored = .exactDuplicate storedOutcomeRef := by
  simp only [judge] at h
  split at h
  · cases h
  · rename_i admitted hdecision
    rw [Except.ite_error_eq_ok] at h
    obtain ⟨_, h⟩ := h
    split at h
    · cases h
    · cases h
      obtain ⟨hcontext, hregistered, hconverge⟩ := evaluate_ok hdecision
      obtain ⟨hrevoked, hkey, hversion⟩ := checkRegistered_ok hregistered
      exact ⟨checkContext_ok hcontext, hrevoked, hkey, hversion, hconverge⟩

theorem findContext_eq_some {organisationId contextId : String} {row : ContextRow}
    (h : findContext contexts organisationId contextId = some row) :
    row.id = contextId ∧ row.organisationId = organisationId :=
  (Table.of_find? h).2

/-- The context is closed, or its device is withdrawn, or its key is not the one in force. -/
def fenced (contexts : List ContextRow) (db : DeviceRegistry.Db) (prepared : Prepared) : Bool :=
  match findContext contexts prepared.contextRow.organisationId prepared.contextRow.id with
  | none => true
  | some row =>
    row.closedAt ≠ none ||
      match db.findDevice row.organisationId row.deviceId with
      | none => true
      | some device =>
        deviceLevelWithdrawn device || device.currentKeyId ≠ some row.keyId ||
          keyLevelWithdrawn (db.findDeviceKeyByKeyId row.organisationId row.keyId) ||
          (db.findDeviceKeyByKeyId row.organisationId row.keyId).any fun key =>
            key.keyVersion ≠ row.keyVersion

/-- The facts of a device: its current key, and whether either row has withdrawn it. -/
theorem resolveFacts_ok {db : DeviceRegistry.Db} {row : ContextRow} {proof : RequestProof}
    {actor : Option ActorFacts} {now : Int} {facts : Facts}
    (h : resolveFacts db row proof actor now = .ok facts) :
    facts.context = row.deviceContext ∧
      ∃ device key, db.findDevice row.organisationId row.deviceId = some device ∧
        device.currentKeyId = some facts.registered.keyId ∧
        db.findDeviceKeyByKeyId row.organisationId facts.registered.keyId = some key ∧
        key.keyVersion = facts.registered.keyVersion ∧
        facts.registered.revoked = !credentialAdmitsNewOperations db device := by
  rw [resolveFacts] at h
  split at h
  · cases h
  rename_i device hdevice
  split at h
  · cases h
  rename_i currentKeyId hcurrent
  split at h
  · cases h
  rename_i key hkey
  split at h
  · cases h
  rw [Except.ite_error_eq_ok] at h
  cases h.2
  -- the record that was resolved is the row the pointer names
  have hfound : db.findDeviceKeyByKeyId row.organisationId currentKeyId = some key := by
    rw [resolveRegistryKeyRecord] at hkey
    split at hkey
    · cases hkey
    · rename_i found hfound
      split at hkey
      · cases hkey
        exact hfound
      · cases hkey
  have hid : key.keyId = currentKeyId := (Table.of_find? hfound).2.2
  refine ⟨rfl, device, key, hdevice, ?_, ?_, rfl, rfl⟩
  · rw [hcurrent]
    exact congrArg some hid.symm
  · show db.findDeviceKeyByKeyId row.organisationId key.keyId = some key
    rw [hid]
    exact hfound

theorem decideUnderLock_ok
    (h : decideUnderLock platform contexts consumptions prepared reading = .ok (claim, effect)) :
    claim.prepared = prepared ∧ claim.organisationId = claim.identity.organisationId ∧
      fenced contexts reading.db prepared = false ∧
      ∀ storedOutcomeRef, effect = .convergeOnStoredOutcome storedOutcomeRef →
        classify claim.prepared.fingerprint
          (consumptions.peek claim.organisationId (.requestProof claim.identity)) =
            .exactDuplicate storedOutcomeRef := by
  simp only [decideUnderLock] at h
  split at h
  · cases h
  rename_i locked hlocked
  rw [Except.ite_error_eq_ok, Except.ite_error_eq_ok] at h
  obtain ⟨hopen, _, h⟩ := h
  split at h
  · cases h
  rename_i facts hfacts
  split at h
  · cases h
  rename_i admitted hjudge
  cases h
  obtain ⟨hcontext, device, key, hdevice, hcurrent, hkey, hversion, hrevoked⟩ :=
    resolveFacts_ok hfacts
  obtain ⟨horganisation, hstands, hkeyId, hkeyVersion, hconverge⟩ := judge_ok hjudge
  obtain ⟨_, hsame⟩ := findContext_eq_some hlocked
  rw [hcontext] at horganisation hkeyId hkeyVersion
  have hcontextKey : facts.registered.keyId = locked.keyId := hkeyId
  have hcontextVersion : facts.registered.keyVersion = locked.keyVersion := hkeyVersion
  refine ⟨rfl, ?_, ?_, ?_⟩
  · exact (horganisation.trans hsame).symm
  · -- nothing that fences the context was committed
    have hcredential : credentialAdmitsNewOperations reading.db device = true := by
      rw [hstands] at hrevoked
      simpa using hrevoked.symm
    have hintact := of_decide_eq_true hcredential
    have hdeviceIds : device.id = locked.deviceId ∧ device.organisationId = locked.organisationId :=
      (Table.of_find? hdevice).2
    rw [hcurrent, Option.bind_some, hdeviceIds.2, hkey] at hintact
    rw [hcontextKey] at hcurrent hkey
    rw [fenced, hlocked]
    dsimp only
    rw [hdevice]
    dsimp only
    rw [hcurrent, hkey, Option.any_some, hversion, hcontextVersion]
    have hnotClosed : locked.closedAt = none := not_not.mp hopen
    simp only [Bool.not_eq_true'] at hintact
    simp [hnotClosed, hintact.1, hintact.2]
  · intro storedOutcomeRef heffect
    have hduplicate := hconverge storedOutcomeRef heffect
    rw [storedFor, hsame] at hduplicate
    exact hduplicate

/-! ## The steps -/

def State.stored (s : State) (claim : Claim) : Option (ConsumptionRow ReplayKey) :=
  s.consumptions.peek claim.organisationId (.requestProof claim.identity)

/-- The ways a presentation moves on while nothing is committed. -/
inductive Moves (s : State) : Phase → Phase → Prop
  | prepare (request : Request) (prepared : Prepared) :
      Moves s (.received request) (.ready prepared)
  | refuse (phase : Phase) (refusal : Refusal) (running : phase.isOver = false) :
      Moves s phase (.refused refusal)
  | fail (phase : Phase) (running : phase.isOver = false) : Moves s phase .failed
  | proceed (claim : Claim) (named : claim.organisationId = claim.identity.organisationId)
      (unfenced : fenced s.contexts s.db claim.prepared = false) :
      Moves s (.ready claim.prepared) (.proceeding claim)
  | converge (claim : Claim) (storedOutcomeRef : String)
      (named : claim.organisationId = claim.identity.organisationId)
      (unfenced : fenced s.contexts s.db claim.prepared = false)
      (duplicate : classify claim.prepared.fingerprint (s.stored claim) =
        .exactDuplicate storedOutcomeRef) :
      Moves s (.ready claim.prepared) (.converging claim storedOutcomeRef)
  | claims (claim : Claim) (new : s.stored claim = none)
      (alone : s.blocksInsert claim = false) : Moves s (.proceeding claim) (.claimed claim)
  | overtaken (claim : Claim) (storedOutcomeRef : String)
      (duplicate : classify claim.prepared.fingerprint (s.stored claim) =
        .exactDuplicate storedOutcomeRef) :
      Moves s (.proceeding claim) (.converging claim storedOutcomeRef)
  | applies (claim : Claim) : Moves s (.claimed claim) (.applied claim)
  | resolves (claim : Claim) :
      Moves s (.converging claim claim.domainIdempotencyKey) (.resolved claim)
  | converges (claim : Claim) : Moves s (.resolved claim) (.converged claim)

inductive Change (s : State) : State → Prop
  | presents (phase : Phase) (new : phase = .declined ∨ ∃ request, phase = .received request) :
      Change s { s with presentations := s.presentations ++ [phase] }
  | moves (i : Nat) (phase phase' : Phase) (found : s.presentations[i]? = some phase)
      (moves : Moves s phase phase') : Change s (s.moves i phase')
  | lands (i : Nat) (claim : Claim) (phase : Phase)
      (found : s.presentations[i]? = some (.applied claim))
      (answered : phase = .committed claim ∨ phase = .failed) :
      Change s ((s.lands i claim).moves i phase)
  | environment (contexts : List ContextRow) (db : DeviceRegistry.Db)
      (keeps : s.keepsLocked contexts db = true) : Change s { s with contexts, db }
  | elsewhere (row : ConsumptionRow ReplayKey) (key : String)
      (other : row.replayIdentityDigest = .other key) :
      Change s { s with consumptions := (s.consumptions.consume row).1 }

theorem moves_afterLock {reading : Reading} (hdb : reading.db = s.db) :
    Moves s (.ready prepared) (afterLock
      (decideUnderLock platform s.contexts s.consumptions prepared reading)) := by
  cases hdecided : decideUnderLock platform s.contexts s.consumptions prepared reading with
  | error refusal => exact .refuse _ refusal rfl
  | ok decided =>
    obtain ⟨claim, effect⟩ := decided
    obtain ⟨rfl, hnamed, hunfenced, hconverge⟩ := decideUnderLock_ok hdecided
    rw [hdb] at hunfenced
    cases effect with
    | proceed => exact .proceed claim hnamed hunfenced
    | convergeOnStoredOutcome storedOutcomeRef =>
      exact .converge claim storedOutcomeRef hnamed hunfenced (hconverge storedOutcomeRef rfl)

theorem moves_afterConsume (hblocked : s.blocksInsert claim = false) :
    Moves s (.proceeding claim)
      (afterConsume claim (s.consumptions.consume claim.consumptionRow).2) := by
  cases hstored : s.stored claim with
  | none =>
    have hfirst : (s.consumptions.consume claim.consumptionRow).2 = .firstSeen :=
      consume_firstSeen hstored
    rw [hfirst]
    exact .claims claim hstored hblocked
  | some stored =>
    have hclassified : (s.consumptions.consume claim.consumptionRow).2 =
        classify claim.prepared.fingerprint (s.stored claim) := by
      have hconsumed : s.consumptions.consume claim.consumptionRow =
          (s.consumptions, classify claim.prepared.fingerprint (some stored)) :=
        consume_of_some hstored
      rw [hconsumed, hstored]
    rw [hclassified]
    cases hduplicate : classify claim.prepared.fingerprint (s.stored claim) with
    | firstSeen =>
      rw [hstored, classify] at hduplicate
      split at hduplicate <;> cases hduplicate
    | exactDuplicate storedOutcomeRef => exact .overtaken claim storedOutcomeRef hduplicate
    | reusedWithChangedSemantics => exact .refuse _ _ rfl

theorem step_change (h : step platform s label = some s') : Change s s' := by
  cases label with
  | present request =>
    cases h
    refine .presents _ ?_
    split
    · exact .inl rfl
    · exact .inr ⟨request, rfl⟩
  | preflight i reading =>
    simp only [step] at h
    split at h
    · rename_i request hfound
      split at h <;> cases h
      · exact .moves i _ _ hfound (.refuse _ _ rfl)
      · exact .moves i _ _ hfound (.prepare _ _)
    · cases h
  | lock i actor now =>
    simp only [step] at h
    split at h
    · rename_i prepared hfound
      split at h
      · cases h
      · cases h
        exact .moves i _ _ hfound (moves_afterLock rfl)
    · cases h
  | consume i =>
    simp only [step] at h
    split at h
    · rename_i claim hfound
      split at h
      · cases h
      · rename_i hblocked
        cases h
        exact .moves i _ _ hfound (moves_afterConsume (by simpa using hblocked))
    · cases h
  | apply i outcome =>
    simp only [step] at h
    split at h
    · rename_i claim hfound
      cases h
      refine .moves i _ _ hfound ?_
      match outcome with
      | .applied true => exact .applies claim
      | .applied false | .refused => exact .refuse _ _ rfl
    · cases h
  | probe i evidence =>
    simp only [step] at h
    split at h
    · rename_i claim storedOutcomeRef hfound
      cases h
      refine .moves i _ _ hfound ?_
      rw [afterProbe]
      split
      · exact .refuse _ _ rfl
      · rename_i href
        obtain rfl := not_not.mp href
        split
        · exact .refuse _ _ rfl
        · exact .resolves claim
    · cases h
  | commit i =>
    simp only [step] at h
    split at h
    · rename_i claim hfound
      cases h
      exact .lands i claim _ hfound (.inl rfl)
    · rename_i claim hfound
      cases h
      exact .moves i _ _ hfound (.converges claim)
    · cases h
  | commitLost i =>
    simp only [step] at h
    split at h
    · rename_i claim hfound
      cases h
      exact .lands i claim _ hfound (.inr rfl)
    · rename_i claim hfound
      cases h
      exact .moves i _ _ hfound (.fail _ rfl)
    · cases h
  | fail i =>
    simp only [step] at h
    split at h
    · rename_i phase hfound
      split at h
      · cases h
      · rename_i hrunning
        cases h
        exact .moves i _ _ hfound (.fail _ (by simpa using hrunning))
    · cases h
  | environment contexts db =>
    simp only [step] at h
    split at h
    · rename_i hkeeps
      cases h
      exact .environment contexts db hkeeps
    · cases h
  | consumeElsewhere organisationId key statementFingerprint storedOutcomeRef =>
    cases h
    exact .elsewhere _ key rfl

end Steps

end Sentinel.DeviceGateway
