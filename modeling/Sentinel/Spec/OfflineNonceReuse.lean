import Sentinel.ForStd.Except
import Sentinel.ForStd.List
import Sentinel.Native.OfflineNonce

/-! # One offline nonce, one statement

The identity of a queued statement is read and spent in two transactions, and what the second one
reports is not looked at. -/

namespace Sentinel.OfflineNonce

open OfflineAdmissibility DeviceReplay Consumptions
open OfflineIngress (admittedOfflineOperationKinds bindEnvelopeToContext)

section Evaluator

variable {parseInstant : String → Option Int} {fingerprint : StatementInput → String}
  {input : AdmissibilityInput} {admission : Admission} {profile : String}

theorem bindRegisteredKey_profile {envelope : OperationEnvelope} {key : RegistryKeyRecord}
    (h : bindRegisteredKey envelope key = .ok profile) :
    bindClaimedSignatureProfile envelope.claimedSignatureProfile key.signatureProfile =
      some profile := by
  rw [bindRegisteredKey, Except.ite_error_eq_ok, Except.ite_error_eq_ok, Except.ite_error_eq_ok,
    Except.ite_error_eq_ok] at h
  obtain ⟨_, _, _, _, h⟩ := h
  cases hbound : bindClaimedSignatureProfile envelope.claimedSignatureProfile
      key.signatureProfile with
  | none =>
    rw [hbound] at h
    cases h
  | some bound =>
    rw [hbound] at h
    rw [Except.ok.inj h]

/-- A consumption fact passes when it is about the statement and reports no reuse. -/
theorem judgeConsumption_ok {envelope : OperationEnvelope} {statementFingerprint : String}
    {fact : ConsumptionFact} {storedOutcomeRef : Option String}
    (h : judgeConsumption envelope statementFingerprint fact = .ok storedOutcomeRef) :
    fact.statementFingerprint = statementFingerprint ∧
      fact.consumption ≠ .reusedWithChangedSemantics := by
  rw [judgeConsumption, Except.ite_error_eq_ok, Except.ite_error_eq_ok] at h
  obtain ⟨_, hbound, h⟩ := h
  rw [not_or, not_not, not_not] at hbound
  constructor
  · exact hbound.2
  · intro hreused
    rw [hreused] at h
    cases h

/-- What the evaluator admits was seen for the first time, or consumed on this very statement. -/
theorem consumption_of_admitted
    (h : evaluateOfflineOperationAdmissibility parseInstant fingerprint input = .ok admission)
    (hprofile : bindClaimedSignatureProfile input.envelope.claimedSignatureProfile
      input.registeredKey.signatureProfile = some profile) :
    input.consumption.statementFingerprint = fingerprint (input.envelope.statementInput profile) ∧
      input.consumption.consumption ≠ .reusedWithChangedSemantics := by
  rw [evaluateOfflineOperationAdmissibility] at h
  obtain ⟨bound, hbound, h⟩ := Except.bind_eq_ok.mp h
  obtain ⟨_, _, h⟩ := Except.bind_eq_ok.mp h
  obtain ⟨_, _, h⟩ := Except.bind_eq_ok.mp h
  obtain ⟨_, hjudged, _⟩ := Except.bind_eq_ok.mp h
  have hsame : bound = profile :=
    Option.some.inj ((bindRegisteredKey_profile hbound).symm.trans hprofile)
  rw [← hsame]
  exact judgeConsumption_ok hjudged

end Evaluator

section Ingress

variable {δ : Type} (platform : Platform δ) (request : Request)

end Ingress

section Runs

variable {δ : Type} [DecidableEq δ] {platform : Platform δ} {s s' : State δ} {label : Label δ}
  {submission : Submission} {consumption : Consumption} {peeked : Option (ConsumptionRow δ)}
  {consumptions consumptions' : Consumptions δ} {phase : Phase δ} {i : Nat}

omit [DecidableEq δ] in
/-- A submission that goes on after its peek has found nothing, or its own statement. -/
theorem peeked_of_judged {now : String}
    (h : submission.judged platform peeked now = .consuming submission peeked) :
    ∀ stored, peeked = some stored →
      stored.statementFingerprint = platform.fingerprint submission.statement := by
  rintro stored rfl
  rw [Submission.judged] at h
  cases hadmissible : evaluateOfflineOperationAdmissibility platform.parseInstant
      platform.fingerprint (submission.admissibilityInput platform (some stored) now) with
  | error refusal =>
    rw [hadmissible] at h
    cases h
  | ok admission =>
    have hfact := (consumption_of_admitted hadmissible submission.boundProfile).1
    -- both arms of the fact carry the fingerprint that was read
    have hread : (buildConsumptionFact submission.identity
        (platform.fingerprint submission.statement) (some stored)).statementFingerprint =
          stored.statementFingerprint := by
      rw [buildConsumptionFact]
      split <;> rfl
    exact hread.symm.trans hfact

/-! ## The invariant -/

def Submission.Spent (submission : Submission) (platform : Platform δ)
    (consumptions : Consumptions δ) : Prop :=
  ∃ stored, submission.stored platform consumptions = some stored ∧
    stored.statementFingerprint = platform.fingerprint submission.statement

/-- What holds of a submission where it stands. -/
def Phase.Sound (platform : Platform δ) (consumptions : Consumptions δ) : Phase δ → Prop
  | .consuming submission (some _) => submission.Spent platform consumptions
  | .forwarding submission consumption | .forwarded submission consumption =>
    submission.Spent platform consumptions ∧ consumption ≠ .reusedWithChangedSemantics
  | _ => True

/-- Whether the identity of a submission that found it unspent is still so, or was spent on the
    same statement. -/
def Submission.isUndisturbed (submission : Submission) (platform : Platform δ)
    (consumptions : Consumptions δ) : Bool :=
  (submission.stored platform consumptions).all fun stored =>
    stored.statementFingerprint = platform.fingerprint submission.statement

/-- No other statement was spent on the identity between the peek of a submission and its own
    consumption. -/
def undisturbed (platform : Platform δ) (s : State δ) : Label δ → Bool
  | .consume i =>
    match s.submissions[i]? with
    | some (.consuming submission none) => submission.isUndisturbed platform s.consumptions
    | _ => true
  | _ => true

theorem Submission.Spent.consume (h : submission.Spent platform consumptions)
    (row : ConsumptionRow δ) : submission.Spent platform (consumptions.consume row).1 := by
  obtain ⟨stored, hstored, hfingerprint⟩ := h
  exact ⟨stored, peek_consume_of_some hstored, hfingerprint⟩

theorem Phase.Sound.consume (h : phase.Sound platform consumptions) (row : ConsumptionRow δ) :
    phase.Sound platform (consumptions.consume row).1 := by
  match phase, h with
  | .consuming submission (some _), h => exact Submission.Spent.consume h row
  | .forwarding submission consumption, h => exact ⟨h.1.consume row, h.2⟩
  | .forwarded submission consumption, h => exact ⟨h.1.consume row, h.2⟩
  | .consuming _ none, _ | .peeking _, _ | .refused _, _ | .failed, _ => exact trivial

/-- An undisturbed consumption spends the identity on the statement of the submission. -/
theorem spent_of_consume (h : submission.isUndisturbed platform consumptions = true) :
    submission.Spent platform (consumptions.consume (submission.consumptionRow platform)).1 ∧
      (consumptions.consume (submission.consumptionRow platform)).2 ≠
        .reusedWithChangedSemantics := by
  cases hstored : submission.stored platform consumptions with
  | none =>
    have hnone : consumptions.peek (submission.consumptionRow platform).organisationId
        (submission.consumptionRow platform).replayIdentityDigest = none := hstored
    constructor
    · refine ⟨submission.consumptionRow platform, ?_, rfl⟩
      rw [Submission.stored] at hstored ⊢
      rw [peek_consume, hstored, Option.none_or]
      exact if_pos rfl
    · rw [consume_firstSeen hnone]
      exact fun hne => nomatch hne
  | some stored =>
    have hsome : consumptions.peek (submission.consumptionRow platform).organisationId
        (submission.consumptionRow platform).replayIdentityDigest = some stored := hstored
    have hsame : stored.statementFingerprint = platform.fingerprint submission.statement := by
      rw [Submission.isUndisturbed, hstored, Option.all_some] at h
      exact of_decide_eq_true h
    constructor
    · exact ⟨stored, peek_consume_of_some hstored, hsame⟩
    · rw [consume_of_some hsome]
      show ite (stored.statementFingerprint = platform.fingerprint submission.statement) _ _ ≠ _
      rw [if_pos hsame]
      exact fun hne => nomatch hne

/-- Every submission stands well. -/
def Inv (platform : Platform δ) (s : State δ) : Prop :=
  ∀ phase ∈ s.submissions, phase.Sound platform s.consumptions

theorem inv_append (hs : Inv platform s) (hphase : phase.Sound platform s.consumptions) :
    Inv platform { s with submissions := s.submissions ++ [phase] } := by
  intro other hother
  rcases List.of_mem_concat hother with hother | rfl
  · exact hs other hother
  · exact hphase

theorem inv_moves (hs : Inv platform s) (hphase : phase.Sound platform s.consumptions) :
    Inv platform (s.moves i phase) := by
  intro other hother
  rcases List.mem_or_eq_of_mem_set hother with hother | rfl
  · exact hs other hother
  · exact hphase

theorem inv_consume (hs : Inv platform s) (row : ConsumptionRow δ) :
    Inv platform { s with consumptions := (s.consumptions.consume row).1 } := fun phase hphase =>
  (hs phase hphase).consume row

/-- A step whose consumption is undisturbed keeps every submission well. -/
theorem inv_step (hs : Inv platform s) (hcondition : undisturbed platform s label = true)
    (h : step platform s label = some s') : Inv platform s' := by
  cases label with
  | submit request =>
    simp only [step] at h
    split at h <;> cases h
    · exact inv_append hs trivial
    · exact inv_append hs trivial
  | peek i now =>
    simp only [step] at h
    split at h
    · rename_i submission hphase
      cases h
      apply inv_moves hs
      -- the evaluator has refused, or the fact it was shown is about this statement
      cases hjudged : submission.judged platform (submission.stored platform s.consumptions)
          now with
      | consuming judgedSubmission found =>
        have hsame : judgedSubmission = submission ∧
            found = submission.stored platform s.consumptions := by
          rw [Submission.judged] at hjudged
          split at hjudged <;> cases hjudged
          exact ⟨rfl, rfl⟩
        obtain ⟨rfl, rfl⟩ := hsame
        cases hstored : judgedSubmission.stored platform s.consumptions with
        | none => exact trivial
        | some stored =>
          rw [hstored] at hjudged
          exact ⟨stored, hstored, peeked_of_judged hjudged stored rfl⟩
      | forwarding _ _ | forwarded _ _ =>
        rw [Submission.judged] at hjudged
        split at hjudged <;> cases hjudged
      | peeking _ | refused _ | failed => exact trivial
    · cases h
  | consume i =>
    simp only [step] at h
    split at h
    · rename_i submission found hphase
      cases h
      have hsafe : submission.isUndisturbed platform s.consumptions = true := by
        cases found with
        | none =>
          rw [undisturbed, hphase] at hcondition
          exact hcondition
        | some stored =>
          -- the row that was read is still the one that is stored
          obtain ⟨row, hrow, hfingerprint⟩ : submission.Spent platform s.consumptions :=
            hs _ (List.mem_of_getElem? hphase)
          rw [Submission.isUndisturbed, hrow, Option.all_some]
          exact decide_eq_true hfingerprint
      exact inv_moves (inv_consume hs _) (spent_of_consume hsafe)
    · cases h
  | forward i =>
    simp only [step] at h
    split at h
    · rename_i submission consumption hphase
      cases h
      have hsound : Phase.Sound platform s.consumptions (.forwarding submission consumption) :=
        hs _ (List.mem_of_getElem? hphase)
      exact inv_moves hs hsound
    · cases h
  | fail i =>
    simp only [step] at h
    split at h <;> cases h
    · exact inv_moves hs trivial
    · exact inv_moves hs trivial
    · exact inv_moves hs trivial
  | consumeElsewhere row =>
    cases h
    exact inv_consume hs row

/-- In every run in which no submission is disturbed between its peek and its consumption, one
    identity reaches the domain with one statement, and no submission goes on whose consumption
    reported a reuse. -/
theorem one_statement_each_identity (platform : Platform δ) (consumptions : Consumptions δ)
    (labels : List (Label δ)) (s : State δ)
    (hall : Transition.RunAll (step platform) (fun s label => undisturbed platform s label = true)
      (State.initial consumptions) labels)
    (hrun : Transition.run (step platform) (State.initial consumptions) labels = some s) :
    (∀ first second firstConsumption secondConsumption,
        .forwarded first firstConsumption ∈ s.submissions →
        .forwarded second secondConsumption ∈ s.submissions →
        first.identity = second.identity →
        platform.fingerprint first.statement = platform.fingerprint second.statement) ∧
      ∀ submission consumption, .forwarded submission consumption ∈ s.submissions →
        consumption ≠ .reusedWithChangedSemantics := by
  have hinv : Inv platform s := by
    apply Transition.runAll_invariant (fun hs hcondition h => inv_step hs hcondition h) _ hall hrun
    exact fun _ h => nomatch h
  constructor
  · intro first second _ _ hfirst hsecond hidentity
    obtain ⟨⟨row, hrow, hsame⟩, _⟩ := hinv _ hfirst
    obtain ⟨⟨row', hrow', hsame'⟩, _⟩ := hinv _ hsecond
    -- both read the row of the one identity, in the organisation that is part of it
    have horganisation : first.context.organisationId = second.context.organisationId := by
      rw [← first.sameOrganisation, ← second.sameOrganisation]
      exact congrArg ReplayIdentity.organisationId hidentity
    rw [Submission.stored, horganisation, hidentity] at hrow
    have hrows : row = row' := Option.some.inj (hrow.symm.trans hrow')
    rw [← hsame, ← hsame', hrows]
  · intro submission consumption hforwarded
    exact (hinv _ hforwarded).2

end Runs

/-! ## A nonce that is used twice -/

/-- The instants and digests of the runs below. -/
def samplePlatform : Platform ReplayIdentity :=
  { parseInstant := fun text =>
      if text = "2026-08-14T09:00:00.000Z" then some 1786698000000
      else if text = "2026-08-14T10:00:00.000Z" then some 1786701600000
      else if text = "2026-08-14T18:00:00.000Z" then some 1786730400000
      else none
    fingerprint := fun statement => statement.nonce ++ " " ++ statement.createdAt
    digest := id }

/-- An acknowledgement the device has signed at an instant, always under one nonce. -/
def acknowledgement (createdAt : String) : OperationEnvelope :=
  { offlineOperationId := "7d1f3f6e-0c1b-4a52-9d6a-4f0a5b1c2d3e"
    organisationId := "org-a"
    siteId := "site-1"
    actorUserId := "operative-1"
    deviceId := "device-1"
    keyId := "key-1"
    keyVersion := 1
    operationKind := .incidentFieldMessageAcknowledge
    deviceSequence := 4
    idempotencyKey := "ack-4"
    payloadDigest := "payload"
    policyLeaseId := "lease-1"
    nonce := "nonce-4"
    createdAt
    claimedSignatureProfile := "P256_ECDSA_SHA256" }

/-- Its submission over a connection that was authenticated for it. -/
def acknowledges (createdAt : String) : Request :=
  { authentication := .authenticated ⟨"org-a", "operative-1", "device-1", ["site-1"]⟩
      "7d1f3f6e-0c1b-4a52-9d6a-4f0a5b1c2d3e" "site-1"
    envelope := some (acknowledgement createdAt)
    registeredKey := some ⟨"org-a", "device-1", "key-1", 1, "P256_ECDSA_SHA256", .current, none⟩
    expectedPayloadDigest := "payload"
    signatureVerified := true
    lease := some ⟨"lease-1", "org-a", "site-1", "device-1", "operative-1",
      [.incidentFieldMessageAcknowledge], "2026-08-14T09:00:00.000Z", "2026-08-14T18:00:00.000Z"⟩
    deviceRevokedAt := none }

/-- The submission as it is prepared. -/
def acknowledging (createdAt : String) : Submission :=
  { context := ⟨"org-a", "operative-1", "device-1", ["site-1"]⟩
    envelope := acknowledgement createdAt
    registeredKey := ⟨"org-a", "device-1", "key-1", 1, "P256_ECDSA_SHA256", .current, none⟩
    profile := "P256_ECDSA_SHA256"
    expectedPayloadDigest := "payload"
    signatureVerified := true
    lease := some ⟨"lease-1", "org-a", "site-1", "device-1", "operative-1",
      [.incidentFieldMessageAcknowledge], "2026-08-14T09:00:00.000Z", "2026-08-14T18:00:00.000Z"⟩
    deviceRevokedAt := none
    sameOrganisation := rfl
    boundProfile := by
      show bindClaimedSignatureProfile "P256_ECDSA_SHA256" "P256_ECDSA_SHA256" = _
      decide }

/-- One statement, submitted and submitted again. -/
def retried : List (Label ReplayIdentity) :=
  [.submit (acknowledges "2026-08-14T09:10:00.000Z"), .peek 0 "2026-08-14T10:00:00.000Z",
    .consume 0, .forward 0,
    .submit (acknowledges "2026-08-14T09:10:00.000Z"), .peek 1 "2026-08-14T10:00:00.000Z",
    .consume 1, .forward 1]

theorem one_statement_each_identity_retried :
    ∃ s, Transition.run (step samplePlatform) (State.initial Consumptions.empty) retried = some s ∧
      (∀ first second firstConsumption secondConsumption,
        .forwarded first firstConsumption ∈ s.submissions →
        .forwarded second secondConsumption ∈ s.submissions →
        first.identity = second.identity →
        samplePlatform.fingerprint first.statement =
          samplePlatform.fingerprint second.statement) ∧
      ∀ submission consumption, .forwarded submission consumption ∈ s.submissions →
        consumption ≠ .reusedWithChangedSemantics := by
  have hrun : Transition.run (step samplePlatform) (State.initial Consumptions.empty) retried =
      some ((Transition.run (step samplePlatform) (State.initial Consumptions.empty)
        retried).getD (State.initial Consumptions.empty)) :=
    Transition.run_eq_some_getD (by decide)
  exact ⟨_, hrun, one_statement_each_identity samplePlatform Consumptions.empty retried _
    (Transition.runAll_of_checked (fun _ _ h => h) (by decide)) hrun⟩

/-- Two statements under one nonce, both read before either is spent. -/
def overtaken : List (Label ReplayIdentity) :=
  [.submit (acknowledges "2026-08-14T09:10:00.000Z"),
    .submit (acknowledges "2026-08-14T09:20:00.000Z"),
    .peek 0 "2026-08-14T10:00:00.000Z", .peek 1 "2026-08-14T10:00:00.000Z",
    .consume 0, .consume 1, .forward 0, .forward 1]

/-- Both reach the domain, the second one although its consumption reports the reuse. -/
theorem overtaken_forwards :
    ∃ s, Transition.run (step samplePlatform) (State.initial Consumptions.empty) overtaken =
        some s ∧
      .forwarded (acknowledging "2026-08-14T09:10:00.000Z") .firstSeen ∈ s.submissions ∧
      .forwarded (acknowledging "2026-08-14T09:20:00.000Z") .reusedWithChangedSemantics ∈
        s.submissions ∧
      (acknowledging "2026-08-14T09:10:00.000Z").identity =
        (acknowledging "2026-08-14T09:20:00.000Z").identity ∧
      samplePlatform.fingerprint (acknowledging "2026-08-14T09:10:00.000Z").statement ≠
        samplePlatform.fingerprint (acknowledging "2026-08-14T09:20:00.000Z").statement := by
  have hrun : Transition.run (step samplePlatform) (State.initial Consumptions.empty) overtaken =
      some ((Transition.run (step samplePlatform) (State.initial Consumptions.empty)
        overtaken).getD (State.initial Consumptions.empty)) :=
    Transition.run_eq_some_getD (by decide)
  exact ⟨_, hrun, by decide, by decide, rfl, by decide⟩

end Sentinel.OfflineNonce
