import Sentinel.Native.DeviceEnrollment
import Sentinel.Spec.OfflineAdmissibilityTime

/-! # When an enrolment commits

Each stage of the commit gate has one lemma, which says when it passes. -/

namespace Sentinel.DeviceEnrollment

open OfflineAdmissibility (bindClaimedSignatureProfile_eq_some deviceSignatureProfiles)

/-! ## What each stage asks -/

/-- A consumption fact about this identity and this request. -/
structure FactBinds (fact : NonceConsumption) (replayKey fingerprint : String) : Prop where
  consistent : fact.isConsistent = true
  replayKey : fact.replayKey = replayKey
  fingerprint : fact.statementFingerprint = fingerprint

theorem judgeFact_ok_iff {fact : NonceConsumption} {replayKey fingerprint : String}
    {inconsistent misbound reused : EnrollmentRefusal} {ok : Unit} :
    judgeFact fact replayKey fingerprint inconsistent misbound reused = .ok ok ↔
      FactBinds fact replayKey fingerprint ∧ fact.outcome ≠ .reusedWithChangedSemantics := by
  simp only [judgeFact, Except.ite_error_eq_ok, not_or, not_not, Bool.not_eq_true,
    Bool.not_eq_false']
  constructor
  · intro ⟨hconsistent, ⟨hkey, hfingerprint⟩, hreused, _⟩
    exact ⟨⟨hconsistent, hkey, hfingerprint⟩, hreused⟩
  · intro ⟨h, hreused⟩
    exact ⟨h.consistent, ⟨h.replayKey, h.fingerprint⟩, hreused, trivial⟩

section

variable {parseInstant : String → Option Int} {digests : Digests}

/-- A grant neither withdrawn nor spent, inside the window it names, whose end is outside. -/
structure GrantUsable (parseInstant : String → Option Int) (grant : BootstrapGrant) (now : String) :
    Prop where
  notRevoked : grant.revokedAt = none
  notConsumed : grant.consumedAt = none
  window : ∃ reading issued expires, parseInstant now = some reading ∧
    parseInstant grant.issuedAt = some issued ∧ parseInstant grant.expiresAt = some expires ∧
      issued ≤ reading ∧ reading < expires

variable {grant : BootstrapGrant} {input : CommitInput} {fingerprint : String} {now : Int}
  {challenge : PossessionChallenge} {verification : PossessionVerificationResult}

theorem classifyDeviceBootstrapGrant_usable_iff {now : String} :
    classifyDeviceBootstrapGrant parseInstant grant now = .usable ↔
      GrantUsable parseInstant grant now := by
  have hstructure : GrantUsable parseInstant grant now ↔ grant.revokedAt = none ∧
      grant.consumedAt = none ∧ ∃ reading issued expires, parseInstant now = some reading ∧
        parseInstant grant.issuedAt = some issued ∧ parseInstant grant.expiresAt = some expires ∧
          issued ≤ reading ∧ reading < expires :=
    ⟨fun h => ⟨h.1, h.2, h.3⟩, fun h => ⟨h.1, h.2.1, h.2.2⟩⟩
  rw [hstructure, classifyDeviceBootstrapGrant]
  by_cases hrevoked : grant.revokedAt = none
  · by_cases hconsumed : grant.consumedAt = none
    · cases hnow : parseInstant now <;> cases hissued : parseInstant grant.issuedAt <;>
        cases hexpires : parseInstant grant.expiresAt <;> simp [hrevoked, hconsumed]
      next reading issued expires =>
        by_cases hearly : reading < issued
        · simp [hearly]
        by_cases hlate : expires ≤ reading
        · simp [hearly, hlate]
        · simp [hearly, hlate]
          omega
    · simp [hrevoked, hconsumed]
  · simp [hrevoked]

/-- The grant is the one the request names, usable now and in the request's scope. -/
structure GrantBinds (parseInstant : String → Option Int) (input : CommitInput)
    (grant : BootstrapGrant) : Prop where
  presented : input.grant = some grant
  grantId : grant.grantId = input.request.bootstrapGrantId
  usable : GrantUsable parseInstant grant input.now
  organisation : grant.organisationId = input.request.organisationId
  site : grant.siteId = input.request.siteId
  intendedUser : grant.intendedUserId = input.request.intendedUserId

theorem bootstrapGrantMatchesScope_iff {request : EnrollmentRequest} :
    bootstrapGrantMatchesScope grant request = true ↔
      grant.organisationId = request.organisationId ∧ grant.siteId = request.siteId ∧
        grant.intendedUserId = request.intendedUserId := by
  simp [bootstrapGrantMatchesScope, and_assoc]

theorem bindGrant_ok_iff : bindGrant parseInstant digests input fingerprint = .ok grant ↔
      GrantBinds parseInstant input grant ∧
        FactBinds input.grantConsumption (digests.grantReplayKey grant.replayIdentity)
          fingerprint ∧
        input.grantConsumption.outcome ≠ .reusedWithChangedSemantics := by
  rw [bindGrant]
  cases hpresented : input.grant with
  | none => exact ⟨(fun h => nomatch h), fun h => nomatch hpresented.symm.trans h.1.presented⟩
  | some presented =>
    rw [Except.ite_error_eq_ok, not_not]
    constructor
    · intro ⟨hgrantId, h⟩
      -- Only a usable standing reaches the scope.
      split at h
      · cases h
      next husable =>
        rw [Except.ite_error_eq_ok, Except.map_eq_ok] at h
        simp only [Bool.not_eq_true, Bool.not_eq_false'] at h
        obtain ⟨hscope, _, hfact, rfl⟩ := h
        obtain ⟨horganisation, hsite, huser⟩ := bootstrapGrantMatchesScope_iff.mp hscope
        have husable := classifyDeviceBootstrapGrant_usable_iff.mp husable
        exact ⟨⟨hpresented, hgrantId, husable, horganisation, hsite, huser⟩,
          judgeFact_ok_iff.mp hfact⟩
      · cases h
    · intro ⟨h, hfact⟩
      obtain rfl := Option.some.inj (hpresented.symm.trans h.presented)
      have hscope := bootstrapGrantMatchesScope_iff.mpr ⟨h.organisation, h.site, h.intendedUser⟩
      have husable := classifyDeviceBootstrapGrant_usable_iff.mpr h.usable
      simp only [husable, hscope, Except.ite_error_eq_ok, Except.map_eq_ok]
      exact ⟨h.grantId, by simp, (), judgeFact_ok_iff.mpr hfact, trivial⟩

theorem requestInstants_ok_iff {requested : Int} :
    requestInstants parseInstant input grant = .ok (now, requested) ↔
      parseInstant input.now = some now ∧ parseInstant input.request.requestedAt = some requested ∧
        now - requested ≤ deviceEnrollmentRequestMaxAgeMs ∧
          ∃ grantIssued, parseInstant grant.issuedAt = some grantIssued ∧
            grantIssued ≤ requested ∧ requested ≤ now := by
  rw [requestInstants]
  constructor
  · intro h
    split at h
    next now' requested' grantIssued hnow hrequested hissued =>
      simp only [Except.ite_error_eq_ok, Except.ok.injEq, Prod.mk.injEq] at h
      obtain ⟨hmade, hlive, hgrant, rfl, rfl⟩ := h
      exact ⟨hnow, hrequested, by omega, grantIssued, hissued, by omega, by omega⟩
    · cases h
  · intro ⟨hnow, hrequested, hlive, grantIssued, hissued, hgrant, hmade⟩
    have hmade' : ¬ now - requested < 0 := by omega
    simp [hnow, hrequested, hissued, hmade', Int.not_lt.mpr hlive, Int.not_lt.mpr hgrant]

/-- The approval names the request, its fingerprint, its tenant, its site and its custody. -/
structure ApprovalCovers (digests : Digests) (approval : EnrollmentApproval)
    (request : EnrollmentRequest) : Prop where
  requestId : approval.enrollmentRequestId = request.enrollmentRequestId
  fingerprint : approval.enrollmentRequestFingerprint = digests.request request
  organisation : approval.organisationId = request.organisationId
  site : approval.siteId = request.siteId
  custody : approval.custody = request.custody

theorem approvalMatchesEnrollmentRequest_iff {approval : EnrollmentApproval}
    {request : EnrollmentRequest} :
    approvalMatchesEnrollmentRequest digests approval request = true ↔
      ApprovalCovers digests approval request := by
  simp only [approvalMatchesEnrollmentRequest, Bool.and_eq_true, decide_eq_true_eq]
  exact ⟨fun ⟨⟨⟨⟨hrequest, hfingerprint⟩, horganisation⟩, hsite⟩, hcustody⟩ =>
    ⟨hrequest, hfingerprint, horganisation, hsite, hcustody⟩,
    fun h => ⟨⟨⟨⟨h.requestId, h.fingerprint⟩, h.organisation⟩, h.site⟩, h.custody⟩⟩

theorem approvalInstant_ok_iff {requested approved : Int} :
    approvalInstant parseInstant digests input now requested = .ok approved ↔
      ∃ approval, input.approval = some approval ∧ ApprovalCovers digests approval input.request ∧
        parseInstant approval.approvedAt = some approved ∧ requested ≤ approved ∧
          approved ≤ now := by
  rw [approvalInstant]
  cases input.approval with
  | none => exact ⟨(fun h => nomatch h), fun ⟨_, h, _⟩ => nomatch h⟩
  | some presented =>
    simp only [Except.ite_error_eq_ok, Bool.not_eq_true, Bool.not_eq_false',
      approvalMatchesEnrollmentRequest_iff]
    constructor
    · intro ⟨hcovers, h⟩
      split at h
      · cases h
      next approved' hread =>
        simp only [Except.ite_error_eq_ok, Except.ok.injEq] at h
        obtain ⟨hmade, hafter, rfl⟩ := h
        exact ⟨presented, rfl, hcovers, hread, by omega, by omega⟩
    · intro ⟨approval, hsame, hcovers, hread, hafter, hmade⟩
      cases hsame
      exact ⟨hcovers, by simp [hread, Int.not_lt.mpr hafter, Int.not_lt.mpr hmade]⟩

theorem bindUser_ok_iff {ok : Unit} :
    bindUser input = .ok ok ↔ input.authenticatedUserId = some input.request.intendedUserId := by
  rw [bindUser]
  cases input.authenticatedUserId with
  | none => exact ⟨(fun h => nomatch h), fun h => nomatch h⟩
  | some userId => simp

/-- The challenge is the request's own. -/
structure ChallengeBinds (input : CommitInput) (challenge : PossessionChallenge) : Prop where
  presented : input.challenge = some challenge
  request : challenge.enrollmentRequestId = input.request.enrollmentRequestId

theorem bindChallenge_ok_iff : bindChallenge digests input fingerprint = .ok challenge ↔
      ChallengeBinds input challenge ∧
        FactBinds input.challengeConsumption
          (digests.challengeReplayKey (challenge.replayIdentity input.request)) fingerprint ∧
        input.challengeConsumption.outcome ≠ .reusedWithChangedSemantics := by
  rw [bindChallenge]
  cases hpresented : input.challenge with
  | none => exact ⟨(fun h => nomatch h), fun h => nomatch hpresented.symm.trans h.1.presented⟩
  | some presented =>
    simp only [Except.ite_error_eq_ok, not_not, Except.map_eq_ok, judgeFact_ok_iff]
    constructor
    · rintro ⟨hrequest, _, hfact, rfl⟩
      exact ⟨⟨hpresented, hrequest⟩, hfact⟩
    · intro ⟨h, hfact⟩
      obtain rfl := Option.some.inj (hpresented.symm.trans h.presented)
      exact ⟨h.request, (), hfact, rfl⟩

/-- The verdict is about this challenge, this request, this key, the statement this ceremony has the
    device sign, and the profile the server selected. -/
structure VerdictBinds (digests : Digests) (input : CommitInput) (challenge : PossessionChallenge)
    (verification : PossessionVerificationResult) : Prop where
  presented : input.possessionVerification = some verification
  challengeId : verification.challengeId = challenge.challengeId
  requestId : verification.enrollmentRequestId = input.request.enrollmentRequestId
  fingerprint : verification.enrollmentRequestFingerprint = digests.request input.request
  key : verification.publicKeyThumbprint = input.request.publicKeyThumbprint
  statement : verification.possessionStatementFingerprint = digests.possessionStatement
    (challenge.statement input.request (digests.request input.request)
      input.serverSelectedSignatureProfile)
  profile : verification.signatureProfile = input.serverSelectedSignatureProfile

theorem bindVerification_ok_iff : bindVerification digests input (digests.request input.request)
        input.serverSelectedSignatureProfile challenge = .ok verification ↔
      VerdictBinds digests input challenge verification := by
  rw [bindVerification]
  cases hpresented : input.possessionVerification with
  | none => exact ⟨(fun h => nomatch h), fun h => nomatch hpresented.symm.trans h.presented⟩
  | some presented =>
    simp only [Except.ite_error_eq_ok, not_or, not_not]
    constructor
    · intro ⟨⟨hchallenge, hrequest, hfingerprint, hkey⟩, hstatement, hprofile, h⟩
      cases h
      exact ⟨hpresented, hchallenge, hrequest, hfingerprint, hkey, hstatement, hprofile⟩
    · intro h
      obtain rfl := Option.some.inj (hpresented.symm.trans h.presented)
      exact ⟨⟨h.challengeId, h.requestId, h.fingerprint, h.key⟩, h.statement, h.profile, rfl⟩

theorem possessionWindow_ok_iff {approved : Int} {ok : Unit} :
    possessionWindow parseInstant challenge verification now approved = .ok ok ↔
      ∃ verified issued expires, parseInstant verification.verifiedAt = some verified ∧
        parseInstant challenge.issuedAt = some issued ∧
          parseInstant challenge.expiresAt = some expires ∧ approved ≤ issued ∧
            issued ≤ verified ∧ verified ≤ now ∧ verified < expires := by
  rw [possessionWindow]
  constructor
  · intro h
    split at h
    next verified issued expires hverified hissued hexpires =>
      simp only [Except.ite_error_eq_ok] at h
      exact ⟨verified, issued, expires, hverified, hissued, hexpires, by omega, by omega, by omega,
        by omega⟩
    · cases h
  · intro ⟨verified, issued, expires, hverified, hissued, hexpires, hafter, hwithin, hmade, hlive⟩
    simp only [hverified, hissued, hexpires, Except.ite_error_eq_ok]
    exact ⟨by omega, by omega, by omega, by omega, by omega, trivial⟩

/-- What commits: neither fact names an earlier outcome. -/
theorem commitOutcome_commit_iff {fingerprint' : String}
    {grantFact challengeFact : NonceConsumption} :
    commitOutcome fingerprint grantFact challengeFact = .ok (.commit fingerprint') ↔
      fingerprint' = fingerprint ∧ grantFact.outcome ≠ .exactDuplicate ∧
        challengeFact.outcome ≠ .exactDuplicate := by
  rw [commitOutcome]
  by_cases hgrant : grantFact.outcome = .exactDuplicate
  · by_cases hchallenge : challengeFact.outcome = .exactDuplicate
    · by_cases hsame : grantFact.storedOutcomeRef = challengeFact.storedOutcomeRef
      · simp [hgrant, hchallenge, hsame]
      · simp [hgrant, hchallenge, hsame]
    · simp [hgrant, hchallenge]
  · by_cases hchallenge : challengeFact.outcome = .exactDuplicate
    · simp [hgrant, hchallenge]
    · simp [hgrant, hchallenge, eq_comm]

/-! ## The ceremony -/

/-- The server's instants, from the grant to the verdict and to now, read and in order. -/
def Ordered (parseInstant : String → Option Int) (input : CommitInput) (grant : BootstrapGrant)
    (approval : EnrollmentApproval) (challenge : PossessionChallenge)
    (verification : PossessionVerificationResult) : Prop :=
  ∃ grantIssued requested approved issued verified now expires,
    (parseInstant grant.issuedAt = some grantIssued ∧
      parseInstant input.request.requestedAt = some requested ∧
      parseInstant approval.approvedAt = some approved ∧
      parseInstant challenge.issuedAt = some issued ∧
      parseInstant verification.verifiedAt = some verified ∧ parseInstant input.now = some now ∧
      parseInstant challenge.expiresAt = some expires) ∧
    (grantIssued ≤ requested ∧ requested ≤ approved ∧ approved ≤ issued ∧ issued ≤ verified ∧
      verified ≤ now) ∧
    verified < expires

/-- The records of one ceremony, each bound to this request, seen for the first time and in order. -/
structure Ceremony (parseInstant : String → Option Int) (digests : Digests) (input : CommitInput)
    (grant : BootstrapGrant) (approval : EnrollmentApproval) (challenge : PossessionChallenge)
    (verification : PossessionVerificationResult) : Prop where
  known : input.serverSelectedSignatureProfile ∈ deviceSignatureProfiles
  claimed : input.request.claimedSignatureProfile = input.serverSelectedSignatureProfile
  grantBinds : GrantBinds parseInstant input grant
  grantFact : FactBinds input.grantConsumption (digests.grantReplayKey grant.replayIdentity)
    (digests.request input.request)
  grantFirstSeen : input.grantConsumption.outcome = .firstSeen
  approved : input.approval = some approval
  approvalCovers : ApprovalCovers digests approval input.request
  challengeBinds : ChallengeBinds input challenge
  challengeFact : FactBinds input.challengeConsumption
    (digests.challengeReplayKey (challenge.replayIdentity input.request))
    (digests.request input.request)
  challengeFirstSeen : input.challengeConsumption.outcome = .firstSeen
  verdictBinds : VerdictBinds digests input challenge verification
  ordered : Ordered parseInstant input grant approval challenge verification

def RequestLive (parseInstant : String → Option Int) (input : CommitInput) : Prop :=
  ∃ now requested, parseInstant input.now = some now ∧
    parseInstant input.request.requestedAt = some requested ∧
      now - requested ≤ deviceEnrollmentRequestMaxAgeMs

/-- Everything a commit rests on: the ceremony, a positive verdict, the intended user signed in, and a
    request that is still live. -/
structure Committable (parseInstant : String → Option Int) (digests : Digests)
    (input : CommitInput) : Prop where
  ceremony : ∃ grant approval challenge verification,
    Ceremony parseInstant digests input grant approval challenge verification ∧
      verification.verified = true
  user : input.authenticatedUserId = some input.request.intendedUserId
  live : RequestLive parseInstant input

def GrantWithinLifetime (parseInstant : String → Option Int) (grant : BootstrapGrant) : Prop :=
  ∃ issued expires, parseInstant grant.issuedAt = some issued ∧
    parseInstant grant.expiresAt = some expires ∧
      expires - issued ≤ deviceEnrollmentBootstrapMaxAgeMs

/-- A request in the chain is no older than its grant, and a usable grant is younger than its
    lifetime. -/
theorem Ceremony.requestLive {approval : EnrollmentApproval}
    (h : Ceremony parseInstant digests input grant approval challenge verification)
    (hlifetime : GrantWithinLifetime parseInstant grant) : RequestLive parseInstant input := by
  obtain ⟨grantIssued, requested, -, -, -, now, -, ⟨hissued, hrequested, -, -, -, hnow, -⟩,
    ⟨hgrant, -⟩, -⟩ := h.ordered
  obtain ⟨now', -, expires, hnow', -, hexpires, -, hunexpired⟩ := h.grantBinds.usable.window
  obtain ⟨issued', expires', hissued', hexpires', hbound⟩ := hlifetime
  obtain rfl := Option.some.inj (hnow.symm.trans hnow')
  obtain rfl := Option.some.inj (hexpires.symm.trans hexpires')
  obtain rfl := Option.some.inj (hissued.symm.trans hissued')
  have hmax : deviceEnrollmentBootstrapMaxAgeMs ≤ deviceEnrollmentRequestMaxAgeMs := by decide
  exact ⟨now, requested, hnow, hrequested, by omega⟩

/-- A fact that reports no reuse and names no earlier outcome is seen for the first time. -/
theorem firstSeen_iff {outcome : ConsumptionOutcome} :
    outcome = .firstSeen ↔ outcome ≠ .reusedWithChangedSemantics ∧ outcome ≠ .exactDuplicate := by
  cases outcome <;> simp

theorem evaluate_commit_iff :
    evaluateDeviceEnrollmentCommit parseInstant digests input = .ok (.commit fingerprint) ↔
      fingerprint = digests.request input.request ∧ Committable parseInstant digests input := by
  rw [evaluateDeviceEnrollmentCommit]
  constructor
  · intro h
    split at h
    · cases h
    next profile hbound =>
      obtain ⟨hknown, hclaimed, rfl⟩ := bindClaimedSignatureProfile_eq_some.mp hbound
      -- A gate that succeeds has passed every stage.
      simp only [Except.bind_eq_ok, Except.ite_error_eq_ok, Bool.not_eq_true, Bool.not_eq_false',
        Prod.exists] at h
      obtain ⟨grant, hgrant, now, requested, hrequest, approved, happroval, _, huser, challenge,
        hchallenge, verification, hverdict, _, hwindow, hverified, hcommit⟩ := h
      obtain ⟨hgrant, hgrantFact, hgrantReused⟩ := bindGrant_ok_iff.mp hgrant
      obtain ⟨hnow, hrequested, hlive, grantIssued, hissued, hafterGrant, -⟩ :=
        requestInstants_ok_iff.mp hrequest
      obtain ⟨approval, hpresented, hcovers, happroved, hafterRequest, -⟩ :=
        approvalInstant_ok_iff.mp happroval
      obtain ⟨hchallenge, hchallengeFact, hchallengeReused⟩ := bindChallenge_ok_iff.mp hchallenge
      obtain ⟨verified, issued, expires, hverifiedAt, hissuedAt, hexpiresAt, hafterApproval,
        hafterIssue, hmade, hunexpired⟩ := possessionWindow_ok_iff.mp hwindow
      obtain ⟨rfl, hgrantDuplicate, hchallengeDuplicate⟩ := commitOutcome_commit_iff.mp hcommit
      have hordered : Ordered parseInstant input grant approval challenge verification :=
        ⟨grantIssued, requested, approved, issued, verified, now, expires,
          ⟨hissued, hrequested, happroved, hissuedAt, hverifiedAt, hnow, hexpiresAt⟩,
          ⟨hafterGrant, hafterRequest, hafterApproval, hafterIssue, hmade⟩, hunexpired⟩
      have hceremony : Ceremony parseInstant digests input grant approval challenge verification :=
        ⟨hknown, hclaimed, hgrant, hgrantFact, firstSeen_iff.mpr ⟨hgrantReused, hgrantDuplicate⟩,
          hpresented, hcovers, hchallenge, hchallengeFact,
          firstSeen_iff.mpr ⟨hchallengeReused, hchallengeDuplicate⟩,
          bindVerification_ok_iff.mp hverdict, hordered⟩
      exact ⟨rfl, ⟨grant, approval, challenge, verification, hceremony, hverified⟩,
        bindUser_ok_iff.mp huser, now, requested, hnow, hrequested, hlive⟩
  · intro ⟨hfingerprint, ⟨grant, approval, challenge, verification, h, hverified⟩, huser, hlive⟩
    subst hfingerprint
    obtain ⟨grantIssued, requested, approved, issued, verified, now, expires,
      ⟨hissued, hrequested, happroved, hissuedAt, hverifiedAt, hnow, hexpiresAt⟩,
      ⟨hafterGrant, hafterRequest, hafterApproval, hafterIssue, hmade⟩, hunexpired⟩ := h.ordered
    obtain ⟨now', requested', hnow', hrequested', hlive⟩ := hlive
    obtain rfl := Option.some.inj (hnow.symm.trans hnow')
    obtain rfl := Option.some.inj (hrequested.symm.trans hrequested')
    rw [bindClaimedSignatureProfile_eq_some.mpr ⟨h.known, h.claimed, rfl⟩]
    simp only [Except.bind_eq_ok, Except.ite_error_eq_ok, Bool.not_eq_true, Bool.not_eq_false',
      Prod.exists]
    have hgrantOnce := firstSeen_iff.mp h.grantFirstSeen
    have hchallengeOnce := firstSeen_iff.mp h.challengeFirstSeen
    have hgrant := bindGrant_ok_iff.mpr ⟨h.grantBinds, h.grantFact, hgrantOnce.1⟩
    have hrequest := requestInstants_ok_iff.mpr
      ⟨hnow, hrequested, hlive, grantIssued, hissued, hafterGrant, by omega⟩
    have happroval : approvalInstant parseInstant digests input now requested = .ok approved :=
      approvalInstant_ok_iff.mpr
        ⟨approval, h.approved, h.approvalCovers, happroved, hafterRequest, by omega⟩
    have hchallenge := bindChallenge_ok_iff.mpr
      ⟨h.challengeBinds, h.challengeFact, hchallengeOnce.1⟩
    have hwindow : possessionWindow parseInstant challenge verification now approved = .ok () :=
      possessionWindow_ok_iff.mpr ⟨verified, issued, expires, hverifiedAt, hissuedAt, hexpiresAt,
        hafterApproval, hafterIssue, hmade, hunexpired⟩
    have hcommit := commitOutcome_commit_iff.mpr
      ⟨Eq.refl (digests.request input.request), hgrantOnce.2, hchallengeOnce.2⟩
    exact ⟨grant, hgrant, now, requested, hrequest, approved, happroval, (), bindUser_ok_iff.mpr huser,
      challenge, hchallenge, verification, bindVerification_ok_iff.mpr h.verdictBinds, (), hwindow,
      hverified, hcommit⟩

/-- **The gate commits soundly.**  A commit is returned exactly when the records are those of one
ceremony, in order and seen for the first time, the verdict is positive, the intended user is signed
in and the request is live.  A fact seen before never commits. -/
theorem enrolment_commit_sound :
    (∀ input fingerprint,
      evaluateDeviceEnrollmentCommit parseInstant digests input = .ok (.commit fingerprint) ↔
        fingerprint = digests.request input.request ∧ Committable parseInstant digests input) ∧
    (∀ input grant approval challenge verification,
      Ceremony parseInstant digests input grant approval challenge verification →
        GrantWithinLifetime parseInstant grant → RequestLive parseInstant input) ∧
    (∀ input fingerprint,
      input.grantConsumption.outcome ≠ .firstSeen ∨
          input.challengeConsumption.outcome ≠ .firstSeen →
        evaluateDeviceEnrollmentCommit parseInstant digests input ≠ .ok (.commit fingerprint)) ∧
    ∀ (input : CommitInput) verifySignature rowProfile challenge response answeredAt verifiedAt,
      let possessionVerification := verifyPossession digests verifySignature input.request rowProfile
        challenge response verifiedAt
      let possessionVerification' := verifyPossession digests verifySignature input.request rowProfile
        challenge { response with answeredAt } verifiedAt
      evaluateDeviceEnrollmentCommit parseInstant digests
          { input with possessionVerification := possessionVerification' } =
        evaluateDeviceEnrollmentCommit parseInstant digests
          { input with possessionVerification } := by
  refine ⟨fun _ _ => evaluate_commit_iff, fun _ _ _ _ _ h => h.requestLive, ?_,
    fun _ _ _ _ _ _ _ => rfl⟩
  intro input fingerprint hseen hcommit
  obtain ⟨grant, approval, challenge, verification, h, -⟩ :=
    (evaluate_commit_iff.mp hcommit).2.ceremony
  cases hseen with
  | inl hgrant => exact hgrant h.grantFirstSeen
  | inr hchallenge => exact hchallenge h.challengeFirstSeen

end

/-! ## A ceremony nobody is signed in to -/

/-- The instants of the ceremony below, a minute apart. -/
def sampleInstant (text : String) : Option Int :=
  [("2026-08-14T09:00:00.000Z", 1786698000000), ("2026-08-14T09:01:00.000Z", 1786698060000),
    ("2026-08-14T09:02:00.000Z", 1786698120000), ("2026-08-14T09:03:00.000Z", 1786698180000),
    ("2026-08-14T09:04:00.000Z", 1786698240000), ("2026-08-14T09:05:00.000Z", 1786698300000),
    ("2026-08-14T09:08:00.000Z", 1786698480000)].lookup text

/-- Digests that keep the names they cover. -/
def sampleDigests : Digests :=
  { request := fun request => "request " ++ request.enrollmentRequestId
    possessionStatement := fun statement => "statement " ++ statement.challengeId
    grantReplayKey := fun identity => "grant " ++ identity.grantId
    challengeReplayKey := fun identity => "challenge " ++ identity.challengeId }

def sampleGrant : BootstrapGrant :=
  ⟨"grant-1", "org-a", "site-1", "operative-1", "2026-08-14T09:00:00.000Z",
    "2026-08-14T09:08:00.000Z", none, none⟩

def sampleApproval : EnrollmentApproval :=
  ⟨"request-1", "request request-1", "org-a", "site-1", .personal, "2026-08-14T09:02:00.000Z"⟩

def sampleChallenge : PossessionChallenge :=
  ⟨"challenge-1", "request-1", "nonce-1", "2026-08-14T09:03:00.000Z", "2026-08-14T09:08:00.000Z"⟩

def sampleVerdict (verified : Bool) : PossessionVerificationResult :=
  ⟨verified, "challenge-1", "request-1", "request request-1", "thumbprint", "statement challenge-1",
    "P256_ECDSA_SHA256", "2026-08-14T09:04:00.000Z"⟩

def sampleRequest : EnrollmentRequest :=
  ⟨"request-1", "org-a", "site-1", "operative-1", "grant-1", .personal, "P256_ECDSA_SHA256",
    .hardwareBacked, "key", "thumbprint",
    ⟨.verified, "2026-08-14T09:00:00.000Z", some "attestation-1"⟩, "2026-08-14T09:01:00.000Z"⟩

/-- The store's first sight of a one-shot identity of the request. -/
def sampleFact (replayKey : String) : NonceConsumption :=
  ⟨"SENTINEL_NONCE_STORE", .firstSeen, replayKey, "request request-1", none⟩

/-- One enrolment, from its grant to its verdict, committed by whoever is signed in. -/
def enrolment (authenticatedUserId : Option String) (verified : Bool) : CommitInput :=
  { request := sampleRequest
    grant := some sampleGrant
    approval := some sampleApproval
    challenge := some sampleChallenge
    possessionVerification := some (sampleVerdict verified)
    serverSelectedSignatureProfile := serverSelectedSignatureProfile
    grantConsumption := sampleFact "grant grant-1"
    challengeConsumption := sampleFact "challenge challenge-1"
    authenticatedUserId
    now := "2026-08-14T09:05:00.000Z" }

theorem ceremony_enrolment (authenticatedUserId : Option String) (verified : Bool) :
    Ceremony sampleInstant sampleDigests (enrolment authenticatedUserId verified) sampleGrant
      sampleApproval sampleChallenge (sampleVerdict verified) := by
  have hfingerprint : "request request-1" = sampleDigests.request sampleRequest := by decide
  have hgrantFact : FactBinds (sampleFact "grant grant-1")
      (sampleDigests.grantReplayKey sampleGrant.replayIdentity)
        (sampleDigests.request sampleRequest) := ⟨by decide, by decide, hfingerprint⟩
  have hchallengeFact : FactBinds (sampleFact "challenge challenge-1")
      (sampleDigests.challengeReplayKey (sampleChallenge.replayIdentity sampleRequest))
        (sampleDigests.request sampleRequest) := ⟨by decide, by decide, hfingerprint⟩
  have hstatement : "statement challenge-1" = sampleDigests.possessionStatement
      (sampleChallenge.statement sampleRequest (sampleDigests.request sampleRequest)
        serverSelectedSignatureProfile) := by decide
  have hknown : serverSelectedSignatureProfile ∈ deviceSignatureProfiles := by decide
  exact
    { known := hknown
      claimed := rfl
      grantBinds := ⟨rfl, rfl, ⟨rfl, rfl, 1786698300000, 1786698000000, 1786698480000, rfl, rfl, rfl,
        by decide, by decide⟩, rfl, rfl, rfl⟩
      grantFact := hgrantFact
      grantFirstSeen := rfl
      approved := rfl
      approvalCovers := ⟨rfl, hfingerprint, rfl, rfl, rfl⟩
      challengeBinds := ⟨rfl, rfl⟩
      challengeFact := hchallengeFact
      challengeFirstSeen := rfl
      verdictBinds := ⟨rfl, rfl, rfl, hfingerprint, rfl, hstatement, rfl⟩
      ordered := ⟨1786698000000, 1786698060000, 1786698120000, 1786698180000, 1786698240000,
        1786698300000, 1786698480000, ⟨rfl, rfl, rfl, rfl, rfl, rfl, rfl⟩, by decide⟩ }

/-- The same ceremony commits for the intended user, not again once the grant is spent, and not with
    nobody signed in. -/
theorem enrolment_commit_sound_intended :
    evaluateDeviceEnrollmentCommit sampleInstant sampleDigests (enrolment (some "operative-1") true) =
        .ok (.commit "request request-1") ∧
      RequestLive sampleInstant (enrolment none false) ∧
      evaluateDeviceEnrollmentCommit sampleInstant sampleDigests
          { enrolment (some "operative-1") true with
            grantConsumption := ⟨"SENTINEL_NONCE_STORE", .exactDuplicate, "grant grant-1",
              "request request-1", some "device-1"⟩ } ≠ .ok (.commit "request request-1") := by
  have hlifetime : GrantWithinLifetime sampleInstant sampleGrant :=
    ⟨1786698000000, 1786698480000, by decide⟩
  have hlive := enrolment_commit_sound.2.1 _ _ _ _ _ (ceremony_enrolment none false) hlifetime
  have hcommittable : Committable sampleInstant sampleDigests (enrolment (some "operative-1") true) :=
    ⟨⟨_, _, _, _, ceremony_enrolment (some "operative-1") true, rfl⟩, rfl, hlive⟩
  refine ⟨(enrolment_commit_sound.1 _ _).mpr ⟨by decide, hcommittable⟩, hlive, ?_⟩
  exact enrolment_commit_sound.2.2.1 _ _ (.inl (by decide))

/-- A whole ceremony, in order and under a grant of the schema's lifetime, does not commit with
    nobody signed in, with somebody else signed in, or on a verdict that is bound and negative. -/
theorem ceremony_refused :
    (∀ authenticatedUserId verified,
      Ceremony sampleInstant sampleDigests (enrolment authenticatedUserId verified) sampleGrant
          sampleApproval sampleChallenge (sampleVerdict verified) ∧
        GrantWithinLifetime sampleInstant sampleGrant) ∧
      evaluateDeviceEnrollmentCommit sampleInstant sampleDigests (enrolment none true) =
        .error .userNotAuthenticated ∧
      evaluateDeviceEnrollmentCommit sampleInstant sampleDigests
        (enrolment (some "operative-2") true) = .error .userNotIntended ∧
      evaluateDeviceEnrollmentCommit sampleInstant sampleDigests
        (enrolment (some "operative-1") false) = .error .possessionNotProven := by
  have hlifetime : GrantWithinLifetime sampleInstant sampleGrant :=
    ⟨1786698000000, 1786698480000, by decide⟩
  exact ⟨fun user verified => ⟨ceremony_enrolment user verified, hlifetime⟩, by decide,
    by decide, by decide⟩

end Sentinel.DeviceEnrollment
