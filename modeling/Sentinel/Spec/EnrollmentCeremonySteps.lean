import Sentinel.ForStd.List
import Sentinel.Native.EnrollmentCeremony

/-! # What the calls of the enrolment ceremony store

Every call leaves the tables as they are or makes one of a few changes, and each change keeps what
the commit needs to find. -/

namespace Sentinel.EnrollmentCeremony

open DeviceEnrollment
open DeviceRegistry (Principal)
open EdgeRequest (isDigest isNonce)
open EdgeTrustedTime (isInstantWindow isScopedId)
open JsText (toISOString)
open Transition

variable {platform : Platform} {s t : Store}

/-! ## Instants -/

/-- The instants the clock reads, and those of the windows that open on it. -/
def Writable (ms : Int) : Prop := 0 ≤ ms ∧ ms < 253402300800000

variable {ms : Int} {organisationId id bootstrapToken enrollmentRequestId : String}
  {row : EnrollmentRequestRow} {principal : Principal} {scope : GrantScope}
  {grant : BootstrapGrantRow} {submission : Submission} {evidence : AttestationEvidence}
  {source : EnrollmentState}

theorem parse_instant (h : Writable ms) : JsDate.parse (toISOString ms) = some ms :=
  JsDate.parse_toISOString ⟨by have := h.1; omega, h.2⟩

theorem isTimestamp_instant (h : Writable ms) : isTimestamp (toISOString ms) = true := by
  rw [isTimestamp, parse_instant h]
  rfl

/-- An instant the schema read is written again as one it reads. -/
theorem isTimestamp_rewritten {text : String} (h : isTimestamp text = true) :
    isTimestamp (toISOString ((JsDate.parse text).getD 0)) = true := by
  obtain ⟨ms, hms⟩ := Option.isSome_iff_exists.mp h
  rw [hms, Option.getD_some, isTimestamp, JsDate.parse_toISOString (JsDate.parse_bounds hms)]
  rfl

/-! ## What the tables hold -/

/-- The platform's digests are SHA-256 in hexadecimal, and whoever holds a key can sign with it. -/
structure Platform.Lawful (platform : Platform) : Prop where
  request_isDigest : ∀ request, isDigest (platform.digests.request request) = true
  statement_isDigest : ∀ statement, isDigest (platform.digests.possessionStatement statement) = true
  signs : ∀ publicKey statement, platform.isRuntimeValidPublicKey publicKey = true →
    ∃ signature, platform.isCanonicalSignature signature = true ∧
      platform.verifies publicKey statement signature = true

/-- What the rest of the ceremony relies on in the row of a request. -/
structure Stands (platform : Platform) (s : Store) (row : EnrollmentRequestRow) : Prop where
  parses : platform.requestParses row.contract = true
  profile : row.serverSelectedSignatureProfile = serverSelectedSignatureProfile
  runtimeValid : platform.isRuntimeValidPublicKey row.publicKey = true
  grant : ∃ grant, s.findBootstrapGrant row.organisationId row.bootstrapGrantId = some grant ∧
    grant.toContract.isSome = true
  approval : row.state ≠ .requested →
    (s.findEnrollmentApproval row.organisationId row.id).isSome = true

structure Inv (platform : Platform) (s : Store) : Prop where
  clock : 0 ≤ s.clock ∧ s.clock < horizon
  grantIds : (s.grants.map (·.id)).Nodup
  requestIds : (s.requests.map (·.id)).Nodup
  requests : ∀ row ∈ s.requests, Stands platform s row
  approvals : ∀ row ∈ s.approvals, row.toContract.isSome = true ∧ 0 ≤ row.approvedAt ∧
    row.approvedAt ≤ s.clock
  verdicts : ∀ row ∈ s.verifications, row.challengeId ∈ s.challenges.map (·.id)

theorem Inv.writable (h : Inv platform s) : Writable s.clock := by
  obtain ⟨hzero, hhorizon⟩ := h.clock
  rw [horizon, deviceEnrollmentBootstrapMaxAgeMs] at hhorizon
  exact ⟨hzero, by omega⟩

theorem inv_initial : Inv platform Store.initial := by
  constructor
  · decide
  all_goals simp [Store.initial]

/-! ## Lookups -/

theorem findEnrollmentRequest_eq_some (h : s.findEnrollmentRequest organisationId id = some row) :
    row ∈ s.requests ∧ row.id = id ∧ row.organisationId = organisationId :=
  Table.of_find? h

/-- A grant is found under its own id. -/
theorem findBootstrapGrant_of_mem (hids : (s.grants.map (·.id)).Nodup) {row : BootstrapGrantRow}
    (hmem : row ∈ s.grants) : s.findBootstrapGrant row.organisationId row.id = some row :=
  Table.find?_eq_some hids hmem ⟨rfl, rfl⟩ fun _ hother => hother.1

theorem countP_fenced (hids : (s.requests.map (·.id)).Nodup)
    (hmem : row ∈ s.requests) (source : EnrollmentState) :
    s.requests.countP (Store.fenced row.organisationId row.id source) =
      if row.state = source then 1 else 0 := by
  have hkey : ∀ other ∈ s.requests,
      Store.fenced row.organisationId row.id source other = true → other.id = row.id := by
    intro other _ hfenced
    simp only [Store.fenced, decide_eq_true_eq] at hfenced
    exact hfenced.1
  split
  · rename_i hstate
    apply Table.countP_eq_one hids hkey hmem
    simp [Store.fenced, hstate]
  · rename_i hstate
    apply List.countP_eq_zero.mpr
    intro other hother hfenced
    have hsame := Table.eq_of_key hids hother hmem (hkey other hother hfenced)
    simp only [Store.fenced, decide_eq_true_eq] at hfenced
    exact hstate (hsame ▸ hfenced.2.2)

/-! ## Steps -/

/-- The changes a step can make. -/
inductive Changes (platform : Platform) (s : Store) : Store → Prop
  | none : Changes platform s s
  | tick (ms : Nat) (hhorizon : s.clock + ms < horizon) :
    Changes platform s { s with clock := s.clock + ms }
  | grant (row : BootstrapGrantRow) (hfresh : row.id ∉ s.grants.map (·.id)) :
    Changes platform s { s with grants := s.grants ++ [row] }
  | burn (organisationId id : String) : Changes platform s (s.burnBootstrapGrant organisationId id)
  | withdraw (organisationId id : String) :
    Changes platform s (s.withdrawBootstrapGrant organisationId id)
  | request (row : EnrollmentRequestRow) (grant : BootstrapGrantRow) (hmem : grant ∈ s.grants)
    (hcontract : grant.toContract.isSome = true) (hgrant : row.bootstrapGrantId = grant.id)
    (horganisation : row.organisationId = grant.organisationId)
    (hfresh : row.id ∉ s.requests.map (·.id)) (hparses : platform.requestParses row.contract = true)
    (hprofile : row.serverSelectedSignatureProfile = serverSelectedSignatureProfile)
    (hvalid : platform.isRuntimeValidPublicKey row.publicKey = true)
    (hstate : row.state = .requested) :
    Changes platform s { s with requests := s.requests ++ [row] }
  | approve (approval : EnrollmentApprovalRow) (hcontract : approval.toContract.isSome = true)
    (hat : approval.approvedAt = s.clock) :
    Changes platform s
      { (s.advanceEnrollmentState approval.organisationId approval.enrollmentRequestId .requested
          .approved).2 with
        approvals := s.approvals ++ [approval] }
  | challenge (row : PossessionChallengeRow) :
    Changes platform s { s with challenges := s.challenges ++ [row] }
  | verdict (row : PossessionVerificationRow)
    (hchallenge : row.challengeId ∈ s.challenges.map (·.id)) :
    Changes platform s { s with verifications := s.verifications ++ [row] }
  | prove (row : PossessionVerificationRow) (hchallenge : row.challengeId ∈ s.challenges.map (·.id))
    (organisationId id : String) :
    Changes platform s
      ({ s with verifications := s.verifications ++ [row] }.advanceEnrollmentState organisationId id
        .approved .possessionProven).2
  | enrol (organisationId id : String) :
    Changes platform s
      (s.advanceEnrollmentState organisationId id .possessionProven .enrolled).2

theorem issueBootstrapGrant_changes {siteExists userExists : Bool}
    (hfresh : id ∉ s.grants.map (·.id)) :
    Changes platform s
      (issueBootstrapGrant platform s principal scope siteExists userExists id
        bootstrapToken).2 := by
  rw [issueBootstrapGrant]
  repeat' split
  case isFalse => exact .grant _ hfresh
  all_goals exact .none

theorem revokeBootstrapGrant_changes {grantId : String} :
    Changes platform s (revokeBootstrapGrant s principal organisationId grantId).2 := by
  rw [revokeBootstrapGrant]
  repeat' split
  case isFalse => exact .withdraw _ _
  all_goals exact .none

theorem presentBootstrapGrant_changes :
    Changes platform s (presentBootstrapGrant platform s scope bootstrapToken).2 := by
  rw [presentBootstrapGrant]
  split
  · exact .none
  split
  · exact .burn _ _
  repeat' split
  all_goals exact .none

theorem presentBootstrapGrant_done
    (h : presentBootstrapGrant platform s scope bootstrapToken = (.done grant, t)) :
    grant ∈ s.grants ∧ grant.toContract.isSome = true ∧
      grant.organisationId = scope.organisationId := by
  rw [presentBootstrapGrant] at h
  split at h
  · cases h
  next found hfind =>
    split at h
    · cases h
    next hscope =>
      split at h
      · cases h
      next contractGrant hcontract =>
        split at h
        · cases h
        · simp only [not_or, not_not] at hscope
          cases h
          exact ⟨List.mem_of_find?_eq_some hfind, by rw [hcontract]; rfl, hscope.1⟩

/-- The row's request is the draft, with the instant of the evidence written again. -/
theorem requestRow_contract {thumbprint : String} : (requestRow platform s submission
        (draftRequest s submission grant thumbprint evidence id)).contract =
      { draftRequest s submission grant thumbprint evidence id with
        attestation :=
          { evidence with
            evaluatedAt := toISOString ((JsDate.parse evidence.evaluatedAt).getD 0) } } := rfl

theorem requestParses_requestRow {thumbprint : String}
    (h : platform.requestParses (draftRequest s submission grant thumbprint evidence id) = true) :
    platform.requestParses (requestRow platform s submission
      (draftRequest s submission grant thumbprint evidence id)).contract = true := by
  rw [requestRow_contract]
  simp only [Platform.requestParses, draftRequest, Bool.and_eq_true] at h ⊢
  obtain ⟨⟨⟨⟨hscopes, hevaluated⟩, hreference⟩, hrequested⟩, hthumbprint⟩ := h
  exact ⟨⟨⟨⟨hscopes, isTimestamp_rewritten hevaluated⟩, hreference⟩, hrequested⟩, hthumbprint⟩

theorem createEnrollmentRequest_changes {regime : Option CustodyRegime}
    (hfresh : id ∉ s.requests.map (·.id)) :
    Changes platform s (createEnrollmentRequest platform s submission regime evidence id).2 := by
  have hpresent : Changes platform s (presentBootstrapGrant platform s submission.toGrantScope
    submission.bootstrapToken).2 := presentBootstrapGrant_changes
  rw [createEnrollmentRequest]
  split
  next refusal s' hpresented => rwa [hpresented] at hpresent
  next s' hpresented => rwa [hpresented] at hpresent
  next grant s' hpresented =>
    obtain ⟨hmem, hcontract, horganisation⟩ := presentBootstrapGrant_done hpresented
    split
    · exact .none
    next hvalid =>
      split
      · exact .none
      split
      · exact .none
      split
      · split <;> exact .none
      dsimp only
      split
      · exact .none
      next hparses =>
        -- the only branch that inserts
        simp only [Bool.not_eq_true, Bool.not_eq_false'] at hvalid hparses
        exact .request _ grant hmem hcontract rfl horganisation.symm hfresh
          (requestParses_requestRow hparses) rfl hvalid rfl

/-- The fields of a parsed request that other rows copy. -/
theorem requestParses_scopes {request : EnrollmentRequest}
    (h : platform.requestParses request = true) :
    isScopedId request.enrollmentRequestId = true ∧ isScopedId request.organisationId = true ∧
      isScopedId request.siteId = true ∧ isDigest request.publicKeyThumbprint = true := by
  simp only [Platform.requestParses, Bool.and_eq_true] at h
  -- the checks in the order of the schema
  obtain ⟨⟨⟨⟨⟨⟨⟨⟨⟨⟨⟨hid, horganisation⟩, hsite⟩, -⟩, -⟩, -⟩, -⟩, hthumbprint⟩, -⟩, -⟩, -⟩, -⟩ := h
  exact ⟨hid, horganisation, hsite, hthumbprint⟩

theorem toContractRequest_eq_some {request : EnrollmentRequest} :
    platform.toContractRequest row = some request ↔
      platform.requestParses row.contract = true ∧ row.contract = request := by
  rw [Platform.toContractRequest]
  split
  next hparses => simp [hparses]
  next hparses => simp [hparses]

theorem checkApproval_eq_none {request : EnrollmentRequestRow}
    {fingerprint : String} (h : checkApproval platform s principal request fingerprint = none) :
    request.state = .requested ∧ platform.requestParses request.contract = true := by
  rw [checkApproval] at h
  split at h
  · cases h
  next hstate =>
    rw [not_not] at hstate
    split at h
    · cases h
    split at h
    · cases h
    split at h
    · cases h
    split at h
    · cases h
    next hcontract => exact ⟨hstate, (toContractRequest_eq_some.mp hcontract).1⟩

theorem approvalRow_toContract (hlaw : platform.Lawful) (hclock : Writable s.clock)
    {request : EnrollmentRequestRow}
    (hparses : platform.requestParses request.contract = true)
    (huser : isScopedId principal.userId = true) (hid : isScopedId id = true) :
    (approvalRow platform s principal request id).toContract.isSome = true := by
  obtain ⟨hrequest, horganisation, hsite, -⟩ := requestParses_scopes hparses
  have hfingerprint := hlaw.request_isDigest request.contract
  have hinstant := isTimestamp_instant hclock
  rw [EnrollmentApprovalRow.toContract]
  simp only [approvalRow, EnrollmentRequestRow.contract]
    at hrequest horganisation hsite hfingerprint ⊢
  simp [hrequest, horganisation, hsite, hfingerprint, hinstant, huser, hid]

theorem approveEnrollmentRequest_changes (hlaw : platform.Lawful) (hclock : Writable s.clock)
    {fingerprint : String}
    (huser : isScopedId principal.userId = true) (hid : isScopedId id = true) :
    Changes platform s (approveEnrollmentRequest platform s principal organisationId
      enrollmentRequestId fingerprint id).2 := by
  rw [approveEnrollmentRequest]
  split
  · exact .none
  next request hfind =>
    obtain ⟨-, -, horganisation⟩ := findEnrollmentRequest_eq_some hfind
    split
    · exact .none
    split
    · exact .none
    next hcheck =>
      obtain ⟨-, hparses⟩ := checkApproval_eq_none hcheck
      dsimp only
      split
      · exact .none
      split
      · exact .none
      · subst horganisation
        exact .approve _ (approvalRow_toContract hlaw hclock hparses huser hid) rfl

theorem issuePossessionChallenge_changes {nonce : String} : Changes platform s
      (issuePossessionChallenge s principal organisationId enrollmentRequestId id nonce).2 := by
  rw [issuePossessionChallenge]
  repeat' split
  case isFalse => exact .challenge _
  all_goals exact .none

theorem verifyPossession_changes {challengeId : String} {response : Option PossessionResponse} :
    Changes platform s (verifyPossession platform s organisationId enrollmentRequestId challengeId
      response id).2 := by
  rw [verifyPossession.eq_def]
  split
  · exact .none
  split
  · exact .none
  split
  · exact .none
  next challenge hchallenge =>
    have hmem : challenge.id ∈ s.challenges.map (·.id) :=
      List.mem_map_of_mem (List.mem_of_find?_eq_some hchallenge)
    split
    · exact .none
    split
    · exact .none
    split
    · exact .none
    dsimp only
    split
    · exact .none
    split
    · exact .verdict _ hmem
    split
    · exact .none
    · exact .prove _ hmem _ _

theorem commitEnrollment_changes {challengeId : String} {surroundings : Surroundings} :
    Changes platform s (commitEnrollment platform s principal organisationId enrollmentRequestId
      challengeId surroundings).2 := by
  rw [commitEnrollment]
  split
  · exact .none
  split
  · exact .none
  split
  · exact .none
  · exact .none
  dsimp only
  split
  · exact .none
  · exact .enrol _ _

theorem step_changes (hlaw : platform.Lawful) (hclock : Writable s.clock) {label : Label}
    (h : step platform s label = some t) : Changes platform s t := by
  rw [step] at h
  split at h
  next hmints =>
    cases h
    cases label with
    | tick ms => exact .tick ms (of_decide_eq_true hmints)
    | issueGrant principal scope siteExists userExists id bootstrapToken =>
      simp only [Store.mints, Bool.and_eq_true, Bool.not_eq_true', List.contains_eq_mem,
        decide_eq_false_iff_not] at hmints
      exact issueBootstrapGrant_changes hmints.1
    | revokeGrant principal organisationId grantId => exact revokeBootstrapGrant_changes
    | present scope bootstrapToken => exact presentBootstrapGrant_changes
    | create submission regime evidence id =>
      simp only [Store.mints, Bool.not_eq_true', List.contains_eq_mem,
        decide_eq_false_iff_not] at hmints
      exact createEnrollmentRequest_changes hmints
    | approve principal organisationId enrollmentRequestId fingerprint id =>
      simp only [Store.mints, Bool.and_eq_true] at hmints
      exact approveEnrollmentRequest_changes hlaw hclock hmints.1 hmints.2
    | issueChallenge principal organisationId enrollmentRequestId id nonce =>
      exact issuePossessionChallenge_changes
    | verify organisationId enrollmentRequestId challengeId response id =>
      exact verifyPossession_changes
    | commit principal organisationId enrollmentRequestId challengeId surroundings =>
      exact commitEnrollment_changes
  next => cases h

/-! ## The invariant -/

/-- What a change keeps for the rows that rely on it: the grants that rebuild, and the approvals. -/
structure Keeps (s t : Store) : Prop where
  grants : ∀ organisationId id grant, s.findBootstrapGrant organisationId id = some grant →
    grant.toContract.isSome = true →
      ∃ grant', t.findBootstrapGrant organisationId id = some grant' ∧
        grant'.toContract.isSome = true
  approvals : ∀ organisationId id, (s.findEnrollmentApproval organisationId id).isSome = true →
    (t.findEnrollmentApproval organisationId id).isSome = true

theorem Stands.mono (h : Stands platform s row) (hkeeps : Keeps s t) : Stands platform t row := by
  obtain ⟨grant, hfind, hcontract⟩ := h.grant
  exact ⟨h.parses, h.profile, h.runtimeValid, hkeeps.grants _ _ grant hfind hcontract,
    fun hstate => hkeeps.approvals _ _ (h.approval hstate)⟩

/-- Tables that are the same, or have more rows, keep what is found in them. -/
theorem Keeps.of_append {grants : List BootstrapGrantRow} {approvals : List EnrollmentApprovalRow}
    (hgrants : t.grants = s.grants ++ grants)
    (happrovals : t.approvals = s.approvals ++ approvals) :
    Keeps s t := by
  constructor
  · intro organisationId id grant hfind hcontract
    refine ⟨grant, ?_, hcontract⟩
    rw [Store.findBootstrapGrant] at hfind ⊢
    rw [hgrants, List.find?_append, hfind]
    rfl
  · intro organisationId id hsome
    rw [Store.findEnrollmentApproval] at hsome ⊢
    rw [happrovals, List.find?_append]
    cases hfind : s.approvals.find? fun row =>
        row.organisationId = organisationId ∧ row.enrollmentRequestId = id with
    | none => rw [hfind] at hsome; cases hsome
    | some approval => rfl

/-- A grant that rebuilds does so with an instant of the clock stamped on it. -/
theorem toContract_stamped {row : BootstrapGrantRow} (hms : Writable ms)
    (h : row.toContract.isSome = true) :
    ({ row with consumedAt := some ms }).toContract.isSome = true ∧
      ({ row with revokedAt := some ms }).toContract.isSome = true := by
  have hinstant := isTimestamp_instant hms
  rw [BootstrapGrantRow.toContract] at h
  dsimp only at h
  split at h
  next hchecks =>
    simp only [Bool.and_eq_true] at hchecks
    obtain ⟨⟨⟨hscopes, hconsumed⟩, hrevoked⟩, hwindow⟩ := hchecks
    constructor
    · simp [BootstrapGrantRow.toContract, hscopes, hrevoked, hwindow, hinstant]
    · simp [BootstrapGrantRow.toContract, hscopes, hconsumed, hwindow, hinstant]
  next => cases h

theorem Keeps.of_stamp {p : BootstrapGrantRow → Bool} {f : BootstrapGrantRow → BootstrapGrantRow}
    (hf : ∀ row, (f row).id = row.id ∧ (f row).organisationId = row.organisationId ∧
      (row.toContract.isSome = true → (f row).toContract.isSome = true))
    (hgrants : t.grants = Table.rewrite p f s.grants) (happrovals : t.approvals = s.approvals) :
    Keeps s t := by
  constructor
  · intro organisationId id grant hfind hcontract
    rw [Store.findBootstrapGrant] at hfind ⊢
    rw [hgrants, Table.find?_rewrite (fun row => by simp [(hf row).1, (hf row).2.1]), hfind]
    refine ⟨_, rfl, ?_⟩
    show (if p grant = true then f grant else grant).toContract.isSome = true
    split
    · exact (hf grant).2.2 hcontract
    · exact hcontract
  · intro organisationId id hsome
    rwa [Store.findEnrollmentApproval, happrovals]

theorem stands_advance {target : EnrollmentState}
    (hstands : ∀ row ∈ s.requests, Stands platform s row) (hkeeps : Keeps s t)
    (happroved : ∀ row ∈ s.requests, Store.fenced organisationId id source row = true →
      (t.findEnrollmentApproval row.organisationId row.id).isSome = true)
    (hmem : row ∈ (s.advanceEnrollmentState organisationId id source target).2.requests) :
    Stands platform t row := by
  obtain ⟨old, hold, hrow⟩ := Table.mem_rewrite.mp hmem
  have hlater := (hstands old hold).mono hkeeps
  split at hrow
  next hfenced =>
    subst hrow
    -- only the state differs, and the contract does not read it
    exact ⟨hlater.parses, hlater.profile, hlater.runtimeValid, hlater.grant,
      fun _ => happroved old hold hfenced⟩
  next => exact hrow ▸ hlater

theorem map_id_advance {target : EnrollmentState} :
    (s.advanceEnrollmentState organisationId id source target).2.requests.map (·.id) =
      s.requests.map (·.id) :=
  Table.map_rewrite _ fun _ => rfl

/-- A fence on a later state than the first holds requests that are approved. -/
theorem approved_of_fenced
    (hstands : ∀ row ∈ s.requests, Stands platform s row) (hkeeps : Keeps s t)
    (hsource : source ≠ .requested) (hmem : row ∈ s.requests)
    (hfenced : Store.fenced organisationId id source row = true) :
    (t.findEnrollmentApproval row.organisationId row.id).isSome = true := by
  simp only [Store.fenced, decide_eq_true_eq] at hfenced
  apply hkeeps.approvals
  apply (hstands row hmem).approval
  rw [hfenced.2.2]
  exact hsource

theorem ne_of_fresh {α : Type} {rows : List α} {key : α → String}
    (hfresh : id ∉ rows.map key) (old : α) (hold : old ∈ rows) : key old ≠ id := by
  intro hsame
  apply hfresh
  rw [← hsame]
  exact List.mem_map_of_mem hold

theorem Changes.inv (hinv : Inv platform s) (h : Changes platform s t) : Inv platform t := by
  have hwritable := hinv.writable
  cases h with
  | none => exact hinv
  | tick ms hhorizon =>
    have hzero := hinv.clock.1
    refine ⟨⟨?_, hhorizon⟩, hinv.grantIds, hinv.requestIds, fun request hmem =>
      (hinv.requests request hmem).mono (.of_append (List.append_nil _).symm
        (List.append_nil _).symm), ?_, hinv.verdicts⟩
    · show 0 ≤ s.clock + ms
      omega
    · intro row hrow
      obtain ⟨hcontract, hafter, hbefore⟩ := hinv.approvals row hrow
      refine ⟨hcontract, hafter, ?_⟩
      show row.approvedAt ≤ s.clock + ms
      omega
  | grant row hfresh =>
    have hkeeps : Keeps s { s with grants := s.grants ++ [row] } :=
      .of_append rfl (List.append_nil _).symm
    exact ⟨hinv.clock, Table.nodup_map_concat hinv.grantIds (ne_of_fresh hfresh), hinv.requestIds,
      fun request hmem => (hinv.requests request hmem).mono hkeeps, hinv.approvals, hinv.verdicts⟩
  | burn organisationId id =>
    have hkeeps : Keeps s (s.burnBootstrapGrant organisationId id) :=
      .of_stamp (f := fun row => { row with consumedAt := some s.clock })
        (fun row => ⟨rfl, rfl, fun h => (toContract_stamped hwritable h).1⟩) rfl rfl
    refine ⟨hinv.clock, ?_, hinv.requestIds, fun row hmem => (hinv.requests row hmem).mono hkeeps,
      hinv.approvals, hinv.verdicts⟩
    have hids : (s.burnBootstrapGrant organisationId id).grants.map (·.id) = s.grants.map (·.id) :=
      Table.map_rewrite _ fun _ => rfl
    rw [hids]
    exact hinv.grantIds
  | withdraw organisationId id =>
    have hkeeps : Keeps s (s.withdrawBootstrapGrant organisationId id) :=
      .of_stamp (f := fun row => { row with revokedAt := some s.clock })
        (fun row => ⟨rfl, rfl, fun h => (toContract_stamped hwritable h).2⟩) rfl rfl
    refine ⟨hinv.clock, ?_, hinv.requestIds, fun row hmem => (hinv.requests row hmem).mono hkeeps,
      hinv.approvals, hinv.verdicts⟩
    have hids : (s.withdrawBootstrapGrant organisationId id).grants.map (·.id) =
        s.grants.map (·.id) := Table.map_rewrite _ fun _ => rfl
    rw [hids]
    exact hinv.grantIds
  | request row grant hmem hcontract hgrant horganisation hfresh hparses hprofile hvalid hstate =>
    have hkeeps : Keeps s { s with requests := s.requests ++ [row] } :=
      .of_append (List.append_nil _).symm (List.append_nil _).symm
    have hids := Table.nodup_map_concat hinv.requestIds (ne_of_fresh hfresh)
    refine ⟨hinv.clock, hinv.grantIds, hids, ?_, hinv.approvals, hinv.verdicts⟩
    intro other hother
    rcases List.of_mem_concat hother with hold | rfl
    · exact (hinv.requests other hold).mono hkeeps
    · have hfound := findBootstrapGrant_of_mem hinv.grantIds hmem
      rw [← hgrant, ← horganisation] at hfound
      exact ⟨hparses, hprofile, hvalid, ⟨grant, hfound, hcontract⟩, fun h => (h hstate).elim⟩
  | approve approval hcontract hat =>
    have hkeeps : Keeps s
        { (s.advanceEnrollmentState approval.organisationId approval.enrollmentRequestId
          .requested .approved).2 with approvals := s.approvals ++ [approval] } :=
      .of_append (List.append_nil _).symm rfl
    refine ⟨hinv.clock, hinv.grantIds, ?_, ?_, ?_, hinv.verdicts⟩
    · rw [map_id_advance]
      exact hinv.requestIds
    · intro row hmem
      refine stands_advance hinv.requests hkeeps ?_ hmem
      intro old _ hfenced
      simp only [Store.fenced, decide_eq_true_eq] at hfenced
      -- the approval is the one just written
      rw [Store.findEnrollmentApproval, List.find?_isSome]
      refine ⟨approval, by simp, ?_⟩
      simp [hfenced.1, hfenced.2.1]
    · intro row hrow
      rcases List.of_mem_concat hrow with hold | rfl
      · exact hinv.approvals row hold
      · rw [hat]
        exact ⟨hcontract, hinv.clock.1, Int.le_refl _⟩
  | challenge row =>
    refine ⟨hinv.clock, hinv.grantIds, hinv.requestIds, fun request hmem =>
      (hinv.requests request hmem).mono (.of_append (List.append_nil _).symm
        (List.append_nil _).symm), hinv.approvals, ?_⟩
    intro verification hmem
    rw [List.map_append]
    exact List.mem_append_left _ (hinv.verdicts verification hmem)
  | verdict row hchallenge =>
    refine ⟨hinv.clock, hinv.grantIds, hinv.requestIds, fun request hmem =>
      (hinv.requests request hmem).mono (.of_append (List.append_nil _).symm
        (List.append_nil _).symm), hinv.approvals, ?_⟩
    intro verification hmem
    rcases List.of_mem_concat hmem with hold | rfl
    · exact hinv.verdicts verification hold
    · exact hchallenge
  | prove row hchallenge organisationId id =>
    have hkeeps : Keeps s
        ({ s with verifications := s.verifications ++ [row] }.advanceEnrollmentState organisationId
          id .approved .possessionProven).2 :=
      .of_append (List.append_nil _).symm (List.append_nil _).symm
    refine ⟨hinv.clock, hinv.grantIds, ?_, ?_, hinv.approvals, ?_⟩
    · rw [map_id_advance]
      exact hinv.requestIds
    · intro request hmem
      exact stands_advance hinv.requests hkeeps
        (fun _ hold => approved_of_fenced hinv.requests hkeeps (by decide) hold) hmem
    · intro verification hmem
      rcases List.of_mem_concat hmem with hold | rfl
      · exact hinv.verdicts verification hold
      · exact hchallenge
  | enrol organisationId id =>
    have hkeeps : Keeps s
        (s.advanceEnrollmentState organisationId id .possessionProven .enrolled).2 :=
      .of_append (List.append_nil _).symm (List.append_nil _).symm
    refine ⟨hinv.clock, hinv.grantIds, ?_, ?_, hinv.approvals, hinv.verdicts⟩
    · rw [map_id_advance]
      exact hinv.requestIds
    · intro request hmem
      exact stands_advance hinv.requests hkeeps
        (fun _ hold => approved_of_fenced hinv.requests hkeeps (by decide) hold) hmem

theorem step_inv (hlaw : platform.Lawful) (hinv : Inv platform s) {label : Label}
    (h : step platform s label = some t) : Inv platform t :=
  (step_changes hlaw hinv.writable h).inv hinv

/-- The invariant holds in every reachable store. -/
theorem reached_inv (hlaw : platform.Lawful) {labels : List Label}
    (hrun : run (step platform) Store.initial labels = some s) : Inv platform s :=
  run_invariant (fun hinv hstep => step_inv hlaw hinv hstep) inv_initial hrun

end Sentinel.EnrollmentCeremony
