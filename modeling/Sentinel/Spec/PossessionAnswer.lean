import Sentinel.Spec.DeviceEnrollmentCommit
import Sentinel.Spec.EnrollmentCeremonySteps

/-! # Answering a possession challenge

A challenge is issued for a request that is APPROVED or POSSESSION_PROVEN; a positive verdict is
stored only where it takes the request from APPROVED. -/

namespace Sentinel.EnrollmentCeremony

open DeviceEnrollment
open DeviceRegistry (Principal)
open EdgeRequest (isDigest isNonce)
open EdgeTrustedTime (isInstantWindow isScopedId)
open JsText (toISOString)
open OfflineAdmissibility (bindClaimedSignatureProfile deviceSignatureProfiles)
open Transition

variable {platform : Platform} {s t : Store} {request : EnrollmentRequestRow}
  {challenge : PossessionChallengeRow} {response : PossessionResponse} {id : String}

/-! ## Correct answers -/

def possessionStatement (platform : Platform) (request : EnrollmentRequestRow)
    (challenge : PossessionChallengeRow) : PossessionStatementInput :=
  ⟨challenge.id, request.id, platform.digests.request request.contract, challenge.nonce,
    request.publicKeyThumbprint, serverSelectedSignatureProfile⟩

/-- A response that names the challenge and the request, and carries a canonical signature by the
    request's key over the challenge's statement. -/
structure Answers (platform : Platform) (request : EnrollmentRequestRow)
    (challenge : PossessionChallengeRow) (response : PossessionResponse) : Prop where
  challengeId : response.challengeId = challenge.id
  requestId : response.enrollmentRequestId = request.id
  profile : response.claimedSignatureProfile = serverSelectedSignatureProfile
  canonical : platform.isCanonicalSignature response.signature = true
  signed : platform.verifies request.publicKey (possessionStatement platform request challenge)
    response.signature = true

/-- The gate's checks of a verdict pass: what it is bound to, its window and its sign. -/
structure Usable (platform : Platform) (locked : LockedCommitState) (now : Int) : Prop where
  bound : ∀ principal surroundings,
    bindVerification platform.digests (locked.commitInput principal surroundings now)
      locked.fingerprint serverSelectedSignatureProfile locked.contractChallenge =
        .ok locked.contractVerification
  window : ∃ approved, JsDate.parse locked.contractApproval.approvedAt = some approved ∧
    possessionWindow JsDate.parse locked.contractChallenge locked.contractVerification now
      approved = .ok ()
  verified : locked.contractVerification.verified = true

/-- Any correct answer presented before the challenge expires, with nothing but time in between, is
    verified and recorded, and the commit then finds its verdict usable. -/
def Answerable (platform : Platform) (s : Store) (organisationId enrollmentRequestId : String)
    (challenge : PossessionChallengeRow) : Prop :=
  ∀ (elapsed : Nat) (t : Store) (request : EnrollmentRequestRow) (response : PossessionResponse)
    (id : String), step platform s (.tick elapsed) = some t → t.clock < challenge.expiresAt →
    t.findEnrollmentRequest organisationId enrollmentRequestId = some request →
    Answers platform request challenge response →
    ∃ verdict u, verifyPossession platform t organisationId enrollmentRequestId challenge.id
        (some response) id = (.done verdict, u) ∧ verdict.verified = true ∧
      verdict ∈ u.verifications ∧
      ∀ (later : Nat) (v : Store), step platform u (.tick later) = some v →
        ∃ locked, lockCommitState platform v organisationId enrollmentRequestId challenge.id =
            .ok locked ∧
          verdict.toContract = some locked.contractVerification ∧ Usable platform locked v.clock

/-! ## The calls -/

theorem step_tick {ms : Nat} :
    step platform s (.tick ms) = some t ↔
      s.clock + ms < horizon ∧ t = { s with clock := s.clock + ms } := by
  rw [step]
  by_cases h : s.clock + ms < horizon
  · simp [Store.mints, Store.after, h, eq_comm]
  · simp [Store.mints, h]

theorem issuePossessionChallenge_done {principal : Principal}
    {organisationId enrollmentRequestId nonce : String}
    (h : issuePossessionChallenge s principal organisationId enrollmentRequestId id nonce =
      (.done challenge, t)) :
    ∃ request, s.findEnrollmentRequest organisationId enrollmentRequestId = some request ∧
      (request.state = .approved ∨ request.state = .possessionProven) ∧
      challenge = ⟨id, organisationId, request.id, nonce, s.clock,
        s.clock + devicePossessionChallengeMaxAgeMs⟩ ∧
      t = { s with challenges := s.challenges ++ [challenge] } := by
  rw [issuePossessionChallenge] at h
  split at h
  · cases h
  split at h
  · cases h
  next request hfind =>
    split at h
    · cases h
    split at h
    · cases h
    next hstate =>
      rw [Prod.mk.injEq, Answer.done.injEq] at h
      obtain ⟨rfl, rfl⟩ := h
      refine ⟨request, hfind, ?_, rfl, rfl⟩
      by_cases happroved : request.state = .approved
      · exact .inl happroved
      · exact .inr (by simpa [happroved] using hstate)

theorem verified_of_answers (t : Store) (id : String) (hstands : Stands platform s request)
    (hanswers : Answers platform request challenge response) :
    (verificationRow platform t request request.contract challenge response id).verified =
      true := by
  have hbound : bindClaimedSignatureProfile serverSelectedSignatureProfile
      serverSelectedSignatureProfile = some serverSelectedSignatureProfile := by decide
  have hsigned := hanswers.signed
  rw [possessionStatement] at hsigned
  simp [verificationRow, Platform.verifySignature, hanswers.profile, hstands.profile, hbound,
    hanswers.canonical, hstands.runtimeValid, hsigned]

/-! ## Issued challenges -/

structure Issued (s : Store) (organisationId enrollmentRequestId : String)
    (request : EnrollmentRequestRow) (challenge : PossessionChallengeRow) : Prop where
  found : s.findEnrollmentRequest organisationId enrollmentRequestId = some request
  fresh : challenge.id ∉ s.challenges.map (·.id)
  organisation : challenge.organisationId = organisationId
  request : challenge.enrollmentRequestId = request.id
  issuedAt : challenge.issuedAt = s.clock
  expiresAt : challenge.expiresAt = s.clock + devicePossessionChallengeMaxAgeMs
  mintedId : isScopedId challenge.id = true
  mintedNonce : isNonce challenge.nonce = true

/-- The store when an answer to a challenge it just issued arrives. -/
def Store.presented (s : Store) (challenge : PossessionChallengeRow) (now : Int) : Store :=
  { s with challenges := s.challenges ++ [challenge], clock := now }

/-- The store with the verdict on the answer, and its request advanced. -/
def Store.proven (platform : Platform) (s : Store) (request : EnrollmentRequestRow)
    (challenge : PossessionChallengeRow) (response : PossessionResponse) (id : String) : Store :=
  ({ s with verifications := s.verifications ++
      [verificationRow platform s request request.contract challenge response id]
    }.advanceEnrollmentState request.organisationId request.id .approved .possessionProven).2

section Issue

variable {organisationId enrollmentRequestId : String} {now : Int}

theorem findPossessionChallenge_presented (now : Int)
    (h : Issued s organisationId enrollmentRequestId request challenge) :
    (s.presented challenge now).findPossessionChallenge organisationId challenge.id =
      some challenge := by
  have hnone : s.challenges.find? (fun row => row.id = challenge.id ∧
      row.organisationId = organisationId) = none := by
    apply List.find?_eq_none.mpr
    intro row hrow hsame
    simp only [decide_eq_true_eq] at hsame
    apply h.fresh
    rw [← hsame.1]
    exact List.mem_map_of_mem hrow
  rw [Store.findPossessionChallenge, Store.presented, List.find?_append, hnone]
  simp [h.organisation]

/-- Every verdict is on a challenge that stood before. -/
theorem findPossessionVerification_presented (now : Int) (hinv : Inv platform s)
    (h : Issued s organisationId enrollmentRequestId request challenge) :
    (s.presented challenge now).findPossessionVerification organisationId challenge.id = none := by
  apply List.find?_eq_none.mpr
  intro row hrow hsame
  have hstood := hinv.verdicts row hrow
  simp only [decide_eq_true_eq] at hsame
  rw [hsame.2] at hstood
  exact h.fresh hstood

/-- A correct answer is stored where the fence picks its request. -/
theorem verifyPossession_answered (now : Int) (id : String) (hinv : Inv platform s)
    (h : Issued s organisationId enrollmentRequestId request challenge)
    (hanswers : Answers platform request challenge response) :
    verifyPossession platform (s.presented challenge now) organisationId enrollmentRequestId
        challenge.id (some response) id =
      if request.state = .approved then
        (.done (verificationRow platform (s.presented challenge now) request request.contract
          challenge response id),
          (s.presented challenge now).proven platform request challenge response id)
      else (.refused .enrollmentStateInvalid, s.presented challenge now) := by
  obtain ⟨hmem, -, horganisation⟩ := findEnrollmentRequest_eq_some h.found
  have hstands := hinv.requests request hmem
  have hcontract := toContractRequest_eq_some.mpr ⟨hstands.parses, rfl⟩
  have hverified := verified_of_answers (s.presented challenge now) id hstands hanswers
  have hrequest : (s.presented challenge now).findEnrollmentRequest organisationId
      enrollmentRequestId = some request := h.found
  have hfound := findPossessionChallenge_presented now h
  have hfirst := findPossessionVerification_presented now hinv h
  -- the fence counts the one request of the id, if it is approved
  have hcount : (s.presented challenge now).requests.countP
      (Store.fenced organisationId request.id .approved) =
        if request.state = .approved then 1 else 0 :=
    horganisation ▸ countP_fenced hinv.requestIds hmem .approved
  rw [verifyPossession.eq_def]
  simp only [hrequest, hfound, h.request, hanswers.challengeId, hanswers.requestId, hcontract,
    hfirst, hverified, ne_eq, not_true_eq_false, or_self, if_false, Option.isSome_none,
    Bool.false_eq_true, Bool.not_true, Store.advanceEnrollmentState, hcount, Store.proven,
    horganisation]
  by_cases hstate : request.state = .approved
  · simp [hstate]
  · simp [hstate]

/-! ## What the commit finds -/

/-- A challenge the store minted rebuilds. -/
theorem challenge_toContract (hinv : Inv platform s)
    (h : Issued s organisationId enrollmentRequestId request challenge) :
    challenge.toContract = some ⟨challenge.id, request.id, challenge.nonce,
      toISOString challenge.issuedAt, toISOString challenge.expiresAt⟩ := by
  obtain ⟨hmem, -, -⟩ := findEnrollmentRequest_eq_some h.found
  have hrequest : isScopedId request.id = true :=
    (requestParses_scopes (hinv.requests request hmem).parses).1
  obtain ⟨hzero, hhorizon⟩ := hinv.clock
  rw [horizon, deviceEnrollmentBootstrapMaxAgeMs] at hhorizon
  have hmax : devicePossessionChallengeMaxAgeMs = 120000 := rfl
  have hissued : JsDate.parse (toISOString s.clock) = some s.clock :=
    parse_instant ⟨hzero, by omega⟩
  have hexpires : JsDate.parse (toISOString (s.clock + devicePossessionChallengeMaxAgeMs)) =
      some (s.clock + devicePossessionChallengeMaxAgeMs) := parse_instant ⟨by omega, by omega⟩
  have hwindow : isInstantWindow (toISOString challenge.issuedAt) (toISOString challenge.expiresAt)
      devicePossessionChallengeMaxAgeMs = true := by
    rw [isInstantWindow, h.issuedAt, h.expiresAt, hissued, hexpires]
    simp only [decide_eq_true_eq]
    omega
  simp [PossessionChallengeRow.toContract, h.mintedId, h.request, hrequest, h.mintedNonce, hwindow]

/-- The verdict on an answer, as the contract structure. -/
theorem verificationRow_toContract (id : String) (hlaw : platform.Lawful) (hclock : Writable t.clock)
    (hstands : Stands platform s request) (hid : isScopedId challenge.id = true)
    (hanswers : Answers platform request challenge response) :
    (verificationRow platform t request request.contract challenge response id).toContract =
      some ⟨true, challenge.id, request.id, platform.digests.request request.contract,
        request.publicKeyThumbprint,
        platform.digests.possessionStatement (possessionStatement platform request challenge),
        serverSelectedSignatureProfile, toISOString t.clock⟩ := by
  obtain ⟨hrequest, -, -, hthumbprint⟩ := requestParses_scopes hstands.parses
  have hverified := verified_of_answers t id hstands hanswers
  have hfingerprint := hlaw.request_isDigest request.contract
  have hstatement := hlaw.statement_isDigest (possessionStatement platform request challenge)
  have hinstant := isTimestamp_instant hclock
  have hprofile : deviceSignatureProfiles.contains serverSelectedSignatureProfile = true := by
    decide
  simp only [EnrollmentRequestRow.contract] at hrequest hthumbprint
  rw [PossessionVerificationRow.toContract, if_pos, hverified]
  · rfl
  · simp only [verificationRow, Bool.and_eq_true]
    exact ⟨⟨⟨⟨⟨⟨hid, hrequest⟩, hfingerprint⟩, hthumbprint⟩, hstatement⟩, hprofile⟩, hinstant⟩

theorem approval_instant {approval : EnrollmentApprovalRow} {contract : EnrollmentApproval}
    (h : approval.toContract = some contract) :
    contract.approvedAt = toISOString approval.approvedAt := by
  rw [EnrollmentApprovalRow.toContract] at h
  dsimp only at h
  split at h
  · rw [← Option.some.inj h]
  · cases h

/-- The request of a verdict, found again. -/
theorem findEnrollmentRequest_proven (hrequest : s.findEnrollmentRequest organisationId
      enrollmentRequestId = some request) (hstate : request.state = .approved) :
    (s.proven platform request challenge response id).findEnrollmentRequest organisationId
      enrollmentRequestId = some { request with state := .possessionProven } := by
  rw [Store.findEnrollmentRequest] at hrequest ⊢
  show (Table.rewrite (Store.fenced request.organisationId request.id .approved)
    (fun row => { row with state := .possessionProven }) s.requests).find?
      (fun row => row.id = enrollmentRequestId ∧ row.organisationId = organisationId) = _
  refine (Table.find?_rewrite fun row => ?_).trans ?_
  · rfl
  · rw [hrequest]
    simp [Store.fenced, hstate]

/-- In the store a verdict leaves, the commit finds it. -/
theorem lockCommitState_proven (now : Int) (hlaw : platform.Lawful) (hinv : Inv platform s)
    (h : Issued s organisationId enrollmentRequestId request challenge)
    (hstate : request.state = .approved) (hanswers : Answers platform request challenge response)
    (hnow : s.clock ≤ now) (hlive : now < challenge.expiresAt) {later : Int} (hlater : now ≤ later)
    {v : Store}
    (hv : v = { (s.presented challenge now).proven platform request challenge response id with
      clock := later }) :
    ∃ locked, lockCommitState platform v organisationId enrollmentRequestId challenge.id =
        .ok locked ∧
      (verificationRow platform (s.presented challenge now) request request.contract challenge
        response id).toContract = some locked.contractVerification ∧
      Usable platform locked later := by
  obtain ⟨hmem, -, horganisation⟩ := findEnrollmentRequest_eq_some h.found
  have hstands := hinv.requests request hmem
  have hyears : challenge.expiresAt < 253402300800000 := by
    have hhorizon := hinv.clock.2
    have hmax : devicePossessionChallengeMaxAgeMs = 120000 := rfl
    rw [horizon, deviceEnrollmentBootstrapMaxAgeMs] at hhorizon
    rw [h.expiresAt]
    omega
  have hzero := hinv.clock.1
  -- the grant and the approval stand behind the request
  obtain ⟨grant, hgrant, hcontractGrant⟩ := hstands.grant
  obtain ⟨contractGrant, hcontractGrant⟩ := Option.isSome_iff_exists.mp hcontractGrant
  have happroval := hstands.approval (by rw [hstate]; decide)
  obtain ⟨approval, happroval⟩ := Option.isSome_iff_exists.mp happroval
  obtain ⟨hcontractApproval, happrovedZero, happroved⟩ :=
    hinv.approvals approval (List.mem_of_find?_eq_some happroval)
  obtain ⟨contractApproval, hcontractApproval⟩ := Option.isSome_iff_exists.mp hcontractApproval
  rw [horganisation] at hgrant happroval
  -- the verdict is the first on its challenge
  have hfirst := findPossessionVerification_presented now hinv h
  have hfound := findPossessionChallenge_presented now h
  have hwritable : Writable (s.presented challenge now).clock := ⟨by show 0 ≤ now; omega,
    by show now < _; omega⟩
  have hcontractVerification := verificationRow_toContract id hlaw hwritable hstands
    h.mintedId hanswers
  have hverdict : v.findPossessionVerification organisationId challenge.id =
      some (verificationRow platform (s.presented challenge now) request request.contract challenge
        response id) := by
    rw [Store.findPossessionVerification] at hfirst ⊢
    subst hv
    show ((s.presented challenge now).verifications ++ [_]).find? _ = _
    rw [List.find?_append, hfirst]
    simp [verificationRow, horganisation]
  have hrequest : v.findEnrollmentRequest organisationId enrollmentRequestId =
      some { request with state := .possessionProven } := by
    subst hv
    exact findEnrollmentRequest_proven (s := s.presented challenge now) h.found hstate
  refine ⟨⟨{ request with state := .possessionProven }, approval, grant, request.contract,
    contractGrant, contractApproval, ⟨challenge.id, request.id, challenge.nonce,
      toISOString challenge.issuedAt, toISOString challenge.expiresAt⟩, _,
    platform.digests.request request.contract⟩, ?_, hcontractVerification, ?_⟩
  · have hchallenge := challenge_toContract hinv h
    have hcontract : platform.toContractRequest { request with state := .possessionProven } =
        some request.contract := toContractRequest_eq_some.mpr ⟨hstands.parses, rfl⟩
    have hgrant' : v.findBootstrapGrant organisationId request.bootstrapGrantId = some grant := by
      rw [hv]
      exact hgrant
    have happroval' : v.findEnrollmentApproval organisationId request.id = some approval := by
      rw [hv]
      exact happroval
    have hfound' : v.findPossessionChallenge organisationId challenge.id = some challenge := by
      rw [hv]
      exact hfound
    simp only [lockCommitState, hrequest, hgrant', happroval', hfound', hverdict, h.request,
      hcontract, hcontractGrant, hcontractApproval, hchallenge, hcontractVerification, ne_eq,
      not_true_eq_false, if_false]
  · refine ⟨fun principal surroundings => ?_, ⟨approval.approvedAt, ?_, ?_⟩, rfl⟩
    · exact bindVerification_ok_iff.mpr ⟨rfl, rfl, rfl, rfl, rfl, rfl, rfl⟩
    · show JsDate.parse contractApproval.approvedAt = _
      rw [approval_instant hcontractApproval]
      exact parse_instant ⟨happrovedZero, by omega⟩
    · have hissued := h.issuedAt
      have hexpires := h.expiresAt
      apply possessionWindow_ok_iff.mpr
      exact ⟨now, challenge.issuedAt, challenge.expiresAt, parse_instant hwritable,
        parse_instant ⟨by omega, by omega⟩, parse_instant ⟨by omega, by omega⟩, by omega, by omega,
        hlater, hlive⟩

end Issue

theorem issued_of_done {principal : Principal} {organisationId enrollmentRequestId nonce : String}
    (hmints : s.mints platform
      (.issueChallenge principal organisationId enrollmentRequestId id nonce) = true)
    (hissue : issuePossessionChallenge s principal organisationId enrollmentRequestId id nonce =
      (.done challenge, t)) :
    ∃ request, Issued s organisationId enrollmentRequestId request challenge ∧
      (request.state = .approved ∨ request.state = .possessionProven) ∧
      t = s.presented challenge s.clock := by
  obtain ⟨request, hfound, hstate, rfl, rfl⟩ := issuePossessionChallenge_done hissue
  simp only [Store.mints, Bool.and_eq_true, Bool.not_eq_true', List.contains_eq_mem,
    decide_eq_false_iff_not] at hmints
  exact ⟨request, ⟨hfound, hmints.1.1, rfl, rfl, rfl, rfl, hmints.1.2, hmints.2⟩, hstate, rfl⟩

/-- **When an issued challenge can be answered.**  In every reachable store every correct answer to
it in time is verified and recorded, and the commit then finds its verdict usable, exactly when the
request is APPROVED at the issue. -/
theorem answerable_iff_approved (hlaw : platform.Lawful) {labels : List Label}
    {principal : Principal} {organisationId enrollmentRequestId nonce : String}
    (hrun : run (step platform) Store.initial labels = some s)
    (hmints : s.mints platform
      (.issueChallenge principal organisationId enrollmentRequestId id nonce) = true)
    (hissue : issuePossessionChallenge s principal organisationId enrollmentRequestId id nonce =
      (.done challenge, t)) :
    Answerable platform t organisationId enrollmentRequestId challenge ↔
      ∃ request, s.findEnrollmentRequest organisationId enrollmentRequestId = some request ∧
        request.state = .approved := by
  have hinv := reached_inv hlaw hrun
  obtain ⟨request, hissued, hstate, rfl⟩ := issued_of_done hmints hissue
  constructor
  · intro hanswerable
    refine ⟨request, hissued.found, ?_⟩
    -- the device answers at once
    obtain ⟨hmem, -, -⟩ := findEnrollmentRequest_eq_some hissued.found
    obtain ⟨signature, hcanonical, hsigned⟩ := hlaw.signs request.publicKey
      (possessionStatement platform request challenge) (hinv.requests request hmem).runtimeValid
    have hanswers : Answers platform request challenge
        ⟨challenge.id, request.id, serverSelectedSignatureProfile, signature, ""⟩ :=
      ⟨rfl, rfl, rfl, hcanonical, hsigned⟩
    have htick : step platform (s.presented challenge s.clock) (.tick 0) =
        some (s.presented challenge s.clock) := by
      refine step_tick.mpr ⟨?_, ?_⟩
      · simpa [Store.presented] using hinv.clock.2
      · simp [Store.presented]
    have hlive : (s.presented challenge s.clock).clock < challenge.expiresAt := by
      show s.clock < challenge.expiresAt
      rw [hissued.expiresAt, devicePossessionChallengeMaxAgeMs]
      omega
    obtain ⟨verdict, u, hverify, -⟩ :=
      hanswerable 0 _ request _ "" htick hlive hissued.found hanswers
    rw [verifyPossession_answered s.clock "" hinv hissued hanswers] at hverify
    by_contra hproven
    rw [if_neg hproven] at hverify
    cases hverify
  · rintro ⟨request', hfound, happroved⟩
    obtain rfl := Option.some.inj (hissued.found.symm.trans hfound)
    intro elapsed t request' response verdictId htick hlive hfound' hanswers
    obtain ⟨-, rfl⟩ := step_tick.mp htick
    obtain rfl := Option.some.inj (hissued.found.symm.trans hfound')
    have hpresented : { s.presented challenge s.clock with
        clock := (s.presented challenge s.clock).clock + elapsed } =
          s.presented challenge (s.clock + elapsed) := rfl
    rw [hpresented] at hlive ⊢
    have hverify := verifyPossession_answered (s.clock + elapsed) verdictId hinv
      hissued hanswers
    rw [if_pos happroved] at hverify
    refine ⟨_, _, hverify, verified_of_answers _ _ (hinv.requests request ?_) hanswers, ?_, ?_⟩
    · exact (findEnrollmentRequest_eq_some hissued.found).1
    · exact List.mem_append_right _ (List.mem_singleton.mpr rfl)
    · intro later v hlater
      obtain ⟨-, rfl⟩ := step_tick.mp hlater
      refine lockCommitState_proven (s.clock + elapsed) hlaw hinv hissued happroved hanswers
        (by omega) hlive ?_ rfl
      show s.clock + elapsed ≤ s.clock + elapsed + later
      omega

/-! ## A ceremony whose first answer is lost -/

/-- A digest of 64 letters that keeps how a text begins. -/
def letterDigest (text : String) : String :=
  let letters := text.toList.map fun c => ['a', 'b', 'c', 'd', 'e', 'f'].getD (c.toNat % 6) 'a'
  String.ofList ((letters ++ List.replicate 64 '0').take 64)

theorem isDigest_letterDigest (text : String) : isDigest (letterDigest text) = true := by
  have hletter : ∀ n < 6, (fun c : Char => decide (c.isDigit = true ∨ 'a' ≤ c ∧ c ≤ 'f'))
      (['a', 'b', 'c', 'd', 'e', 'f'].getD n 'a') = true := by decide
  rw [isDigest, letterDigest, String.toList_ofList]
  simp only [Bool.decide_and, Bool.and_eq_true, decide_eq_true_eq, Bool.decide_eq_true]
  constructor
  · simp
  · rw [List.all_eq_true]
    intro c hc
    cases List.mem_append.mp (List.mem_of_mem_take hc) with
    | inl hmapped =>
      obtain ⟨c', -, rfl⟩ := List.mem_map.mp hmapped
      exact hletter _ (Nat.mod_lt _ (by omega))
    | inr hpadding =>
      rw [(List.mem_replicate.mp hpadding).2]
      rfl

def namedPlatform : Platform :=
  { digests :=
      { request := fun request => letterDigest ("request " ++ request.enrollmentRequestId)
        possessionStatement := fun statement => letterDigest ("statement " ++ statement.challengeId)
        grantReplayKey := fun identity => "grant " ++ identity.grantId
        challengeReplayKey := fun identity => "challenge " ++ identity.challengeId }
    thumbprint := fun publicKey => some (letterDigest publicKey)
    isCanonicalPublicKey := fun _ => true
    isRuntimeValidPublicKey := fun _ => true
    isCanonicalSignature := fun _ => true
    verifies := fun publicKey statement signature =>
      signature = publicKey ++ " signs " ++ statement.challengeId
    semanticsDigest := fun fingerprint _ _ => fingerprint
    tokenDigest := fun token => "digest of " ++ token }

theorem namedPlatform_lawful : namedPlatform.Lawful :=
  ⟨fun _ => isDigest_letterDigest _, fun _ => isDigest_letterDigest _,
    fun _ _ _ => ⟨_, rfl, decide_eq_true rfl⟩⟩

def issuer : Principal := ⟨"issuer", "org-a", [⟨[actionDeviceEnrollmentIssue], none⟩]⟩

def approver : Principal :=
  ⟨"approver", "org-a", [⟨[actionDeviceEnrollmentApprove], some "site-1"⟩]⟩

def operative : Principal := ⟨"operative", "org-a", []⟩

/-- The request, under a grant for the operative. -/
def sampleRow (state : EnrollmentState) : EnrollmentRequestRow :=
  { id := "request-1"
    organisationId := "org-a"
    siteId := "site-1"
    intendedUserId := "operative"
    bootstrapGrantId := "grant-1"
    custody := .personal
    custodyRegimeId := none
    approvedSemanticsDigest := letterDigest "request request-1"
    publicKey := "key"
    publicKeyThumbprint := letterDigest "key"
    keyStorage := .hardwareBacked
    claimedSignatureProfile := serverSelectedSignatureProfile
    serverSelectedSignatureProfile
    requestFingerprint := letterDigest "request request-1"
    attestationOutcome := .verified
    attestationEvaluatedAt := 0
    attestationReference := some "attestation-1"
    requestedAt := 1000
    state }

/-- The store once a third person has approved the request. -/
def approvedStore : Store :=
  { clock := 2000
    grants := [⟨"grant-1", "org-a", "site-1", "operative", "issuer", "digest of token", 0, 600000,
      none, none⟩]
    requests := [sampleRow .approved]
    approvals := [⟨"approval-1", "org-a", "request-1", "approver", letterDigest "request request-1",
      "site-1", "operative", .personal, none, letterDigest "request request-1", 2000⟩]
    challenges := []
    verifications := [] }

theorem run_approved :
    run (step namedPlatform) Store.initial
      [.issueGrant issuer ⟨"org-a", "site-1", "operative"⟩ true true "grant-1" "token",
        .tick 1000,
        .create ⟨⟨"org-a", "site-1", "operative"⟩, "token", .personal, "key", .hardwareBacked,
          serverSelectedSignatureProfile, none⟩ none
          ⟨.verified, "1970-01-01T00:00:00.000Z", some "attestation-1"⟩ "request-1",
        .tick 1000,
        .approve approver "org-a" "request-1" (letterDigest "request request-1") "approval-1"] =
      some approvedStore := by decide +kernel

/-- A challenge the operative is issued. -/
def challengeNamed (id : String) : PossessionChallengeRow :=
  ⟨id, "org-a", "request-1", "nonce of " ++ id, 2000, 122000⟩

/-- The operative's answer to it. -/
def answerTo (id : String) : PossessionResponse :=
  ⟨id, "request-1", serverSelectedSignatureProfile, "key signs " ++ id, "1970-01-01T00:00:02.000Z"⟩

theorem answers_answerTo (id : String) (state : EnrollmentState) :
    Answers namedPlatform (sampleRow state) (challengeNamed id) (answerTo id) :=
  ⟨rfl, rfl, rfl, rfl, decide_eq_true rfl⟩

/-- The store once the first challenge is answered; the device does not hear of it. -/
def answeredStore : Store :=
  (approvedStore.presented (challengeNamed "challenge-1") 2000).proven namedPlatform
    (sampleRow .approved) (challengeNamed "challenge-1") (answerTo "challenge-1") "verdict-1"

theorem run_answered :
    run (step namedPlatform) approvedStore
      [.issueChallenge operative "org-a" "request-1" "challenge-1" "nonce of challenge-1",
        .verify "org-a" "request-1" "challenge-1" (some (answerTo "challenge-1")) "verdict-1"] =
      some answeredStore := by decide +kernel

/-- The first challenge of an approved request can be answered. -/
theorem answerable_iff_approved_first :
    Answerable namedPlatform (approvedStore.presented (challengeNamed "challenge-1") 2000) "org-a"
      "request-1" (challengeNamed "challenge-1") := by
  have hmints : approvedStore.mints namedPlatform (.issueChallenge operative "org-a" "request-1"
      "challenge-1" "nonce of challenge-1") = true := by decide +kernel
  exact (answerable_iff_approved (t := approvedStore.presented (challengeNamed "challenge-1") 2000)
    namedPlatform_lawful run_approved hmints rfl).mpr ⟨sampleRow .approved, rfl, rfl⟩

/-- A challenge issued after the answer was lost cannot: the correct answer to it is refused, and a
    commit that names it finds no verdict. -/
theorem fresh_challenge_unanswerable :
    Reaches (step namedPlatform) Store.initial answeredStore ∧
      issuePossessionChallenge answeredStore operative "org-a" "request-1" "challenge-2"
          "nonce of challenge-2" =
        (.done (challengeNamed "challenge-2"),
          answeredStore.presented (challengeNamed "challenge-2") 2000) ∧
      Answers namedPlatform (sampleRow .possessionProven) (challengeNamed "challenge-2")
        (answerTo "challenge-2") ∧
      verifyPossession namedPlatform (answeredStore.presented (challengeNamed "challenge-2") 2000)
          "org-a" "request-1" "challenge-2" (some (answerTo "challenge-2")) "verdict-2" =
        (.refused .enrollmentStateInvalid,
          answeredStore.presented (challengeNamed "challenge-2") 2000) ∧
      lockCommitState namedPlatform (answeredStore.presented (challengeNamed "challenge-2") 2000)
        "org-a" "request-1" "challenge-2" = .error .possessionVerificationNotFound ∧
      ¬ Answerable namedPlatform (answeredStore.presented (challengeNamed "challenge-2") 2000)
        "org-a" "request-1" (challengeNamed "challenge-2") := by
  have hverify : verifyPossession namedPlatform
      (answeredStore.presented (challengeNamed "challenge-2") 2000) "org-a" "request-1"
        "challenge-2" (some (answerTo "challenge-2")) "verdict-2" =
      (.refused .enrollmentStateInvalid,
        answeredStore.presented (challengeNamed "challenge-2") 2000) := by decide +kernel
  refine ⟨⟨_, run_append_eq_some.mpr ⟨_, run_approved, run_answered⟩⟩, by decide +kernel,
    answers_answerTo "challenge-2" .possessionProven, hverify, by decide +kernel, ?_⟩
  intro hanswerable
  obtain ⟨verdict, u, hdone, -⟩ := hanswerable 0
    (answeredStore.presented (challengeNamed "challenge-2") 2000) (sampleRow .possessionProven)
    (answerTo "challenge-2") "verdict-2" (step_tick.mpr ⟨by decide, rfl⟩) (by decide) (by decide)
    (answers_answerTo "challenge-2" .possessionProven)
  have hsame := hverify.symm.trans hdone
  cases hsame

end Sentinel.EnrollmentCeremony
