import Sentinel.Spec.ConstitutionApprovers

/-! # Approvers by other spellings

The decision looks at approvals as a set and at identifiers in their normal form, but asks a record
of roles for the normal form and then for the identifier as it is spelled. -/

namespace Sentinel.Constitution

/-- Somebody with this normal form approved. -/
def Named (text : Text) (request : Request) (id : String) : Prop :=
  ∃ approval ∈ request.approvals, normaliseApproverId text approval.userId = id

/-- The same request, with the same people named by any spelling, in any order and any number of
    times, and with any record of roles. -/
structure Respelled (text : Text) (request request' : Request) : Prop where
  action : request'.action = request.action
  actor : request'.actor = { request.actor with userId := request'.actor.userId }
  actorId : normaliseApproverId text request'.actor.userId =
    normaliseApproverId text request.actor.userId
  target : request'.target = request.target
  named : ∀ id, Named text request id ↔ Named text request' id

/-- Every spelling of an identifier has the same roles, in the one record and in the other. -/
def ResolveAlike (text : Text) (roles roles' : Record (List String)) : Prop :=
  ∀ userId userId', normaliseApproverId text userId = normaliseApproverId text userId' →
    normaliseApproverId text userId ≠ "" →
      ∀ role, role ∈ resolves text roles userId ↔ role ∈ resolves text roles' userId'

theorem length_eq_of_mem_iff {a b : List String} (ha : a.Nodup) (hb : b.Nodup)
    (h : ∀ x, x ∈ a ↔ x ∈ b) : a.length = b.length :=
  ((List.perm_ext_iff_of_nodup ha hb).mpr h).length_eq

theorem length_le_of_mem {a b : List String} (ha : a.Nodup) (h : ∀ x ∈ a, x ∈ b) :
    a.length ≤ b.length :=
  (List.subperm_of_subset ha h).length_le

section

variable {text : Text} {request request' : Request} {policy : Policy}

theorem mem_selfApprovalIds {id : String} :
    id ∈ selfApprovalIds text request ↔
      Named text request id ∧ id = normaliseApproverId text request.actor.userId := by
  simp only [selfApprovalIds, mem_uniqueSorted, List.mem_map, List.mem_filter, decide_eq_true_eq,
    Named]
  constructor
  · rintro ⟨approval, ⟨hmem, hself⟩, rfl⟩
    exact ⟨⟨approval, hmem, rfl⟩, hself⟩
  · rintro ⟨⟨approval, hmem, rfl⟩, hself⟩
    exact ⟨approval, ⟨hmem, hself⟩, rfl⟩

theorem mem_candidateIds (htext : text.Lawful) {id : String} :
    (∃ approval, IsCandidate text request approval ∧
        normaliseApproverId text approval.userId = id) ↔
      Named text request id ∧ id ≠ normaliseApproverId text request.actor.userId ∧ id ≠ "" := by
  constructor
  · rintro ⟨approval, ⟨hmem, hother, husable⟩, rfl⟩
    exact ⟨⟨approval, hmem, rfl⟩, hother, (htext.usable_iff _).mp husable⟩
  · rintro ⟨⟨approval, hmem, rfl⟩, hother, husable⟩
    exact ⟨approval, ⟨hmem, hother, (htext.usable_iff _).mpr husable⟩, rfl⟩

/-- Whether the check on roles passes, by who is named and who is eligible. -/
theorem checkApprovalRoleAuthorised_iff (htext : text.Lawful) :
    checkApprovalRoleAuthorised text request policy = true ↔
      requiredApprovers request policy = 0 ∨ ∀ id, Named text request id →
        id ≠ normaliseApproverId text request.actor.userId → id ≠ "" →
          id ∈ eligibleApproverIds text request policy := by
  rw [checkApprovalRoleAuthorised, decide_eq_true_eq, List.all_eq_true]
  refine or_congr Iff.rfl (forall_congr' fun id => ?_)
  rw [mem_uniqueSorted, List.mem_map, List.contains_iff_mem]
  simp only [mem_candidateApprovals]
  rw [mem_candidateIds htext]
  exact ⟨fun h hnamed hother husable => h ⟨hnamed, hother, husable⟩, fun h hall =>
    h hall.1 hall.2.1 hall.2.2⟩

/-- The trace depends on who is named, who is eligible and which roles they have. -/
theorem trace_congr (htext : text.Lawful) (h : Respelled text request request')
    (heligible : ∀ id, id ∈ eligibleApproverIds text request policy ↔
      id ∈ eligibleApproverIds text request' policy)
    (hroles : ∀ id ∈ eligibleApproverIds text request policy, ∀ role,
      role ∈ authorisingRolesFor text request policy id ↔
        role ∈ authorisingRolesFor text request' policy id) :
    trace text request policy = trace text request' policy := by
  have hrequired : requiredApprovers request policy = requiredApprovers request' policy := by
    rw [requiredApprovers, requiredApprovers, h.action]
  have hself : checkApprovalSelfExclusion text request policy =
      checkApprovalSelfExclusion text request' policy := by
    have hlength : (selfApprovalIds text request).length =
        (selfApprovalIds text request').length :=
      length_eq_of_mem_iff (nodup_uniqueSorted _) (nodup_uniqueSorted _) fun id => by
        rw [mem_selfApprovalIds, mem_selfApprovalIds, h.named, h.actorId]
    rw [checkApprovalSelfExclusion, checkApprovalSelfExclusion, hrequired, hlength]
  have hauthorised : checkApprovalRoleAuthorised text request policy =
      checkApprovalRoleAuthorised text request' policy := by
    rw [Bool.eq_iff_iff, checkApprovalRoleAuthorised_iff htext,
      checkApprovalRoleAuthorised_iff htext, hrequired, h.actorId]
    simp only [h.named, heligible]
  have hdistinct : checkApprovalDistinctSufficient text request policy =
      checkApprovalDistinctSufficient text request' policy := by
    have hcount : (eligibleApproverIds text request policy).length =
        (eligibleApproverIds text request' policy).length :=
      length_eq_of_mem_iff (nodup_uniqueSorted _) (nodup_uniqueSorted _) heligible
    have hcovered : (uniqueSorted ((eligibleApproverIds text request policy).flatMap
        (authorisingRolesFor text request policy))).length =
          (uniqueSorted ((eligibleApproverIds text request' policy).flatMap
            (authorisingRolesFor text request' policy))).length := by
      refine length_eq_of_mem_iff (nodup_uniqueSorted _) (nodup_uniqueSorted _) fun role => ?_
      rw [mem_uniqueSorted, mem_uniqueSorted, List.mem_flatMap, List.mem_flatMap]
      constructor
      · rintro ⟨id, hid, hrole⟩
        exact ⟨id, (heligible id).mp hid, (hroles id hid role).mp hrole⟩
      · rintro ⟨id, hid, hrole⟩
        have hid' := (heligible id).mpr hid
        exact ⟨id, hid', (hroles id hid' role).mpr hrole⟩
    rw [checkApprovalDistinctSufficient, checkApprovalDistinctSufficient, hrequired, hcount,
      hcovered, h.action]
  have hactor := h.actor
  simp only [trace, checkActionNotProhibited, checkActionKnown, checkActionCategoryKnown,
    checkRolePermitsAction, checkOrganisationMatch, checkClassificationConsistent,
    checkClearanceSufficient, checkDeviceTrustAcceptable, checkPurposePresent, hself, hauthorised,
    hdistinct, h.action, h.target]
  rw [hactor]

theorem decision_congr (haction : request'.action = request.action)
    (htrace : trace text request policy = trace text request' policy) :
    (evaluate text request policy).decision = (evaluate text request' policy).decision := by
  simp only [evaluate, htrace, haction]

/-- Other spellings change nothing where the records answer alike. -/
theorem decision_respelled (htext : text.Lawful) (h : Respelled text request request')
    (halike : ResolveAlike text request.approverRoles request'.approverRoles) :
    (evaluate text request policy).decision = (evaluate text request' policy).decision := by
  have hauthorised {userId userId' : String}
      (hsame : normaliseApproverId text userId = normaliseApproverId text userId')
      (husable : normaliseApproverId text userId ≠ "") (role : String) :
      role ∈ authorisingRolesFor text request policy userId ↔
        role ∈ authorisingRolesFor text request' policy userId' := by
    rw [mem_authorisingRolesFor, mem_authorisingRolesFor, h.action,
      halike userId userId' hsame husable role]
  have hnormal {id : String} (hid : id ∈ eligibleApproverIds text request policy) :
      normaliseApproverId text id ≠ "" := by
    obtain ⟨approval, hcandidate, -, rfl⟩ := mem_eligibleApproverIds_iff.mp hid
    rw [htext.normalise_normalise]
    exact (htext.usable_iff _).mp hcandidate.2.2
  refine decision_congr h.action (trace_congr htext h (fun id => ?_) fun id hid role =>
    hauthorised rfl (hnormal hid) role)
  rw [mem_eligibleApproverIds_iff, mem_eligibleApproverIds_iff]
  constructor
  · rintro ⟨approval, hcandidate, ⟨role, hrole⟩, rfl⟩
    have husable := (htext.usable_iff _).mp hcandidate.2.2
    obtain ⟨approval', hmem', hsame⟩ := (h.named _).mp ⟨approval, hcandidate.1, rfl⟩
    refine ⟨approval', ⟨hmem', ?_, ?_⟩, ⟨role, (hauthorised hsame.symm husable role).mp hrole⟩, hsame⟩
    · rw [hsame, h.actorId]
      exact hcandidate.2.1
    · rw [htext.usable_iff, hsame]
      exact husable
  · rintro ⟨approval', hcandidate, ⟨role, hrole⟩, rfl⟩
    have husable := (htext.usable_iff _).mp hcandidate.2.2
    obtain ⟨approval, hmem, hsame⟩ := (h.named _).mpr ⟨approval', hcandidate.1, rfl⟩
    refine ⟨approval, ⟨hmem, ?_, ?_⟩,
      ⟨role, (hauthorised hsame (hsame ▸ husable) role).mpr hrole⟩, hsame⟩
    · rw [hsame, ← h.actorId]
      exact hcandidate.2.1
    · rw [htext.usable_iff, hsame]
      exact husable

def Request.withApprovals (request : Request) (approvals : List Approval) : Request :=
  { request with approvals }

/-- Only which approvals there are matters, not their order or their number. -/
theorem decision_approvals (htext : text.Lawful) {approvals : List Approval}
    (h : ∀ approval, approval ∈ approvals ↔ approval ∈ request.approvals) :
    (evaluate text (request.withApprovals approvals) policy).decision =
      (evaluate text request policy).decision := by
  have hcandidate (approval : Approval) :
      IsCandidate text (request.withApprovals approvals) approval ↔
        IsCandidate text request approval := and_congr (h approval) Iff.rfl
  have hsame : Respelled text request (request.withApprovals approvals) := by
    refine ⟨rfl, rfl, rfl, rfl, fun id => exists_congr fun approval => ?_⟩
    rw [← h approval]
    exact Iff.rfl
  have heligible (id : String) : id ∈ eligibleApproverIds text request policy ↔
      id ∈ eligibleApproverIds text (request.withApprovals approvals) policy := by
    rw [mem_eligibleApproverIds_iff, mem_eligibleApproverIds_iff]
    exact exists_congr fun approval => and_congr (hcandidate approval).symm Iff.rfl
  have htrace : trace text request policy = trace text (request.withApprovals approvals) policy :=
    trace_congr htext hsame heligible fun _ _ _ => Iff.rfl
  have hdecision : (evaluate text request policy).decision =
      (evaluate text (request.withApprovals approvals) policy).decision :=
    decision_congr rfl htrace
  exact hdecision.symm

/-- Another authorised approval, of somebody else's, adds at most an eligible approver. -/
theorem eligible_added {approvals : List Approval} {approval : Approval}
    (h : ∀ given, given ∈ approvals ↔ given = approval ∨ given ∈ request.approvals) {id : String}
    (hid : id ∈ eligibleApproverIds text request policy) :
    id ∈ eligibleApproverIds text (request.withApprovals approvals) policy := by
  obtain ⟨given, ⟨hmem, hother, husable⟩, hrole, hnormal⟩ := mem_eligibleApproverIds_iff.mp hid
  exact mem_eligibleApproverIds_iff.mpr
    ⟨given, ⟨(h given).mpr (.inr hmem), hother, husable⟩, hrole, hnormal⟩

/-- An ALLOW survives another authorised approval of somebody else's. -/
theorem allow_added (htext : text.Lawful) {approvals : List Approval} {approval : Approval}
    (h : ∀ given, given ∈ approvals ↔ given = approval ∨ given ∈ request.approvals)
    (hauthorised : isRoleAuthorisedApprover text request policy approval.userId = true)
    (hother : normaliseApproverId text approval.userId ≠
      normaliseApproverId text request.actor.userId)
    (hallow : (evaluate text request policy).decision = .allow) :
    (evaluate text (request.withApprovals approvals) policy).decision = .allow := by
  have hselfBefore : checkApprovalSelfExclusion text request policy = true :=
    evaluate_allow_iff.mp hallow ⟨.approvalSelfExclusion, .approval,
      checkApprovalSelfExclusion text request policy⟩ (by simp [trace])
  have hrolesBefore : checkApprovalRoleAuthorised text request policy = true :=
    evaluate_allow_iff.mp hallow ⟨.approvalRoleAuthorised, .approval,
      checkApprovalRoleAuthorised text request policy⟩ (by simp [trace])
  have hdistinctBefore : checkApprovalDistinctSufficient text request policy = true :=
    evaluate_allow_iff.mp hallow ⟨.approvalDistinctSufficient, .approval,
      checkApprovalDistinctSufficient text request policy⟩ (by simp [trace])
  have hself : ∀ id, Named text (request.withApprovals approvals) id →
      id = normaliseApproverId text request.actor.userId → Named text request id := by
    rintro id ⟨given, hmem, rfl⟩ hid
    obtain rfl | hmem := (h given).mp hmem
    · exact absurd hid hother
    · exact ⟨given, hmem, rfl⟩
  have hexclusion : checkApprovalSelfExclusion text (request.withApprovals approvals) policy =
      true := by
    have hbefore := hselfBefore
    simp only [checkApprovalSelfExclusion, decide_eq_true_eq, List.length_eq_zero_iff] at hbefore ⊢
    refine hbefore.imp_right fun hnone => List.eq_nil_iff_forall_not_mem.mpr fun id hid => ?_
    obtain ⟨hnamed, hactor⟩ := mem_selfApprovalIds.mp hid
    have hmem : id ∈ selfApprovalIds text request :=
      mem_selfApprovalIds.mpr ⟨hself id hnamed hactor, hactor⟩
    rw [hnone] at hmem
    cases hmem
  have hroles : checkApprovalRoleAuthorised text (request.withApprovals approvals) policy =
      true := by
    have hbefore := hrolesBefore
    rw [checkApprovalRoleAuthorised_iff htext] at hbefore ⊢
    refine hbefore.imp_right fun hall id hnamed hid husable => ?_
    obtain ⟨given, hmem, rfl⟩ := hnamed
    obtain rfl | hgiven := (h given).mp hmem
    · exact mem_eligibleApproverIds_iff.mpr ⟨given, ⟨hmem, hid, (htext.usable_iff _).mpr husable⟩,
        isRoleAuthorisedApprover_iff.mp hauthorised, rfl⟩
    · exact eligible_added h (hall _ ⟨given, hgiven, rfl⟩ hid husable)
  have hdistinct : checkApprovalDistinctSufficient text (request.withApprovals approvals) policy =
      true := by
    obtain ⟨hcount, hdiverse⟩ := distinct_of_allow hallow
    have hmore : (eligibleApproverIds text request policy).length ≤
        (eligibleApproverIds text (request.withApprovals approvals) policy).length :=
      length_le_of_mem (nodup_uniqueSorted _) fun _ hid => eligible_added h hid
    have hcovered : (uniqueSorted ((eligibleApproverIds text request policy).flatMap
        (authorisingRolesFor text request policy))).length ≤
          (uniqueSorted ((eligibleApproverIds text (request.withApprovals approvals)
            policy).flatMap (authorisingRolesFor text request policy))).length := by
      refine length_le_of_mem (nodup_uniqueSorted _) fun role hrole => ?_
      rw [mem_uniqueSorted, List.mem_flatMap] at hrole
      obtain ⟨id, hid, hheld⟩ := hrole
      exact mem_uniqueSorted.mpr (List.mem_flatMap.mpr ⟨id, eligible_added h hid, hheld⟩)
    simp only [checkApprovalDistinctSufficient, Bool.and_eq_true, Bool.or_eq_true,
      decide_eq_true_eq, Bool.not_eq_true']
    refine ⟨le_trans hcount hmore, ?_⟩
    cases hasks : policy.requireRoleDiversity request.action with
    | false => exact .inl hasks
    | true => exact .inr (le_trans (hdiverse hasks) hcovered)
  -- the hard checks do not look at the approvals
  have htrace : trace text request policy = trace text (request.withApprovals approvals) policy := by
    simp only [trace, hexclusion, hroles, hdistinct, hselfBefore, hrolesBefore, hdistinctBefore]
    rfl
  have hdecision : (evaluate text request policy).decision =
      (evaluate text (request.withApprovals approvals) policy).decision :=
    decision_congr rfl htrace
  rw [← hdecision, hallow]

end

/-! ## A probe

A request whose decision is the answer to whether an identifier has a role. -/

/-- One action, which one holder of the role has to approve. -/
def probePolicy (role : String) : Policy where
  version := ""
  categories := [("probe", ⟨.one, "", [role], false⟩)]
  actions := [("probe", "probe")]
  roles := [("", ["probe"])]
  prohibitedActions := []

/-- The action, approved under one identifier. -/
def probeRequest (roles : Record (List String)) (userId : String) : Request where
  action := "probe"
  actor :=
    { userId := "", roles := [""], organisationId := "", clearance := some 0, purpose := none
      deviceTrust := .trusted }
  target :=
    { organisationId := "", siteId := none, classification := .publicData
      classificationLevel := some 0 }
  approvals := [⟨userId, "", ""⟩]
  approverRoles := roles

section Probe

variable {text : Text} {roles : Record (List String)} {userId role : String}

theorem Text.Lawful.normalise_empty (htext : text.Lawful) : normaliseApproverId text "" = "" := by
  rw [normaliseApproverId, htext.trim_empty, (htext.toLowerCase_eq_empty "").mpr rfl]

theorem mem_authorisingRolesFor_probe {role' : String} :
    role' ∈ authorisingRolesFor text (probeRequest roles userId) (probePolicy role) userId ↔
      role' ∈ resolves text roles userId ∧ role' = role := by
  rw [mem_authorisingRolesFor]
  refine and_congr Iff.rfl ?_
  show role' ∈ [role] ↔ role' = role
  exact List.mem_singleton

theorem mem_eligibleApproverIds_probe (htext : text.Lawful)
    (husable : normaliseApproverId text userId ≠ "") {id : String} :
    id ∈ eligibleApproverIds text (probeRequest roles userId) (probePolicy role) ↔
      id = normaliseApproverId text userId ∧ role ∈ resolves text roles userId := by
  rw [mem_eligibleApproverIds_iff]
  constructor
  · rintro ⟨approval, ⟨hmem, -, -⟩, ⟨role', hrole⟩, rfl⟩
    obtain rfl : approval = ⟨userId, "", ""⟩ := List.mem_singleton.mp hmem
    obtain ⟨hresolved, rfl⟩ := mem_authorisingRolesFor_probe.mp hrole
    exact ⟨rfl, hresolved⟩
  · rintro ⟨rfl, hresolved⟩
    refine ⟨⟨userId, "", ""⟩, ⟨List.mem_singleton.mpr rfl, ?_, ?_⟩,
      ⟨role, mem_authorisingRolesFor_probe.mpr ⟨hresolved, rfl⟩⟩, rfl⟩
    · show normaliseApproverId text userId ≠ normaliseApproverId text ""
      rwa [htext.normalise_empty]
    · exact (htext.usable_iff userId).mpr husable

/-- The action is allowed exactly where the identifier has the role. -/
theorem allow_probe_iff (htext : text.Lawful) (husable : normaliseApproverId text userId ≠ "") :
    (evaluate text (probeRequest roles userId) (probePolicy role)).decision = .allow ↔
      role ∈ resolves text roles userId := by
  have heligible {id : String} :
      id ∈ eligibleApproverIds text (probeRequest roles userId) (probePolicy role) ↔
        id = normaliseApproverId text userId ∧ role ∈ resolves text roles userId :=
    mem_eligibleApproverIds_probe htext husable
  constructor
  · intro hallow
    obtain ⟨hcount, -⟩ := distinct_of_allow hallow
    obtain ⟨id, hid⟩ := List.exists_mem_of_length_pos hcount
    exact (heligible.mp hid).2
  · intro hresolved
    have hmem := heligible.mpr ⟨rfl, hresolved⟩
    have hnamed {id : String} (hid : Named text (probeRequest roles userId) id) :
        id = normaliseApproverId text userId := by
      obtain ⟨approval, happroval, rfl⟩ := hid
      rw [List.mem_singleton.mp happroval]
    have hself : checkApprovalSelfExclusion text (probeRequest roles userId) (probePolicy role) =
        true := by
      rw [checkApprovalSelfExclusion, decide_eq_true_eq, List.length_eq_zero_iff]
      refine .inr (List.eq_nil_iff_forall_not_mem.mpr fun id hid => husable ?_)
      obtain ⟨hid, hactor⟩ := mem_selfApprovalIds.mp hid
      rw [← hnamed hid, hactor]
      exact htext.normalise_empty
    have hroles : checkApprovalRoleAuthorised text (probeRequest roles userId) (probePolicy role) =
        true :=
      (checkApprovalRoleAuthorised_iff htext).mpr (.inr fun id hid _ _ => hnamed hid ▸ hmem)
    have hdistinct : checkApprovalDistinctSufficient text (probeRequest roles userId)
        (probePolicy role) = true := by
      have hcount : 1 ≤ (eligibleApproverIds text (probeRequest roles userId)
        (probePolicy role)).length := List.length_pos_of_mem hmem
      rw [checkApprovalDistinctSufficient, Bool.and_eq_true, decide_eq_true_eq]
      exact ⟨hcount, rfl⟩
    have hlevel : effectiveClassificationLevel (probeRequest roles userId).target = 0 := max_self 0
    have hpurpose : checkPurposePresent text (probeRequest roles userId) = true := by
      rw [checkPurposePresent, hlevel]
      exact decide_eq_true (.inl (by decide))
    refine evaluate_allow_iff.mpr fun entry hentry => ?_
    simp only [trace, hself, hroles, hdistinct, List.mem_cons, List.not_mem_nil, or_false] at hentry
    rcases hentry with rfl | rfl | rfl | rfl | rfl | rfl | rfl | rfl | rfl | rfl | rfl | rfl
    · rfl
    · rfl
    · rfl
    · rfl
    · rfl
    · rfl
    · exact decide_eq_true (le_of_eq hlevel)
    · rfl
    · exact hpurpose
    · rfl
    · rfl
    · rfl

end Probe

/-! ## The exact condition -/

def held (roles : Record (List String)) (key : String) : List String := (lookup roles key).getD []

/-- What the records hold for a spelling of an identifier they hold for its normal form, and they
    hold the same. -/
structure KeyedAlike (text : Text) (roles roles' : Record (List String)) : Prop where
  keyed : ∀ userId, normaliseApproverId text userId ≠ "" →
    ∀ role ∈ resolves text roles userId, role ∈ held roles (normaliseApproverId text userId)
  keyed' : ∀ userId, normaliseApproverId text userId ≠ "" →
    ∀ role ∈ resolves text roles' userId, role ∈ held roles' (normaliseApproverId text userId)
  same : ∀ userId, normaliseApproverId text userId ≠ "" → ∀ role,
    role ∈ held roles (normaliseApproverId text userId) ↔
      role ∈ held roles' (normaliseApproverId text userId)

section

variable {text : Text} {roles roles' : Record (List String)}

theorem resolves_normalise (htext : text.Lawful) (roles : Record (List String)) (userId : String) :
    resolves text roles (normaliseApproverId text userId) =
      held roles (normaliseApproverId text userId) := by
  rw [resolves, htext.normalise_normalise, Option.or_self, held]

/-- The normal form is asked for first. -/
theorem resolves_of_held {userId role : String}
    (h : role ∈ held roles (normaliseApproverId text userId)) :
    role ∈ resolves text roles userId := by
  rw [held] at h
  rw [resolves]
  cases hlookup : lookup roles (normaliseApproverId text userId) with
  | none =>
    rw [hlookup] at h
    cases h
  | some roles =>
    rw [hlookup] at h
    rwa [Option.some_or]

theorem resolveAlike_iff (htext : text.Lawful) :
    ResolveAlike text roles roles' ↔ KeyedAlike text roles roles' := by
  have hnormal (userId : String) : normaliseApproverId text (normaliseApproverId text userId) =
      normaliseApproverId text userId := htext.normalise_normalise userId
  constructor
  · intro h
    have hcross (userId : String) (husable : normaliseApproverId text userId ≠ "") (role : String) :
        role ∈ resolves text roles userId ↔
          role ∈ held roles' (normaliseApproverId text userId) := by
      rw [← resolves_normalise htext]
      exact h userId _ (hnormal userId).symm husable role
    have hcross' (userId : String) (husable : normaliseApproverId text userId ≠ "")
        (role : String) : role ∈ held roles (normaliseApproverId text userId) ↔
          role ∈ resolves text roles' userId := by
      rw [← resolves_normalise htext]
      exact h _ userId (hnormal userId) (by rwa [hnormal]) role
    have hsame (userId : String) (husable : normaliseApproverId text userId ≠ "") (role : String) :
        role ∈ held roles (normaliseApproverId text userId) ↔
          role ∈ held roles' (normaliseApproverId text userId) := by
      rw [← resolves_normalise htext roles, ← resolves_normalise htext roles']
      exact h _ _ rfl (by rwa [hnormal]) role
    refine ⟨fun userId husable role hrole => ?_, fun userId husable role hrole => ?_, hsame⟩
    · exact (hsame userId husable role).mpr ((hcross userId husable role).mp hrole)
    · exact (hsame userId husable role).mp ((hcross' userId husable role).mpr hrole)
  · intro h userId userId' hsame husable role
    constructor
    · intro hrole
      have hheld := (h.same userId husable role).mp (h.keyed userId husable role hrole)
      exact resolves_of_held (hsame ▸ hheld)
    · intro hrole
      have hheld := (h.same userId' (hsame ▸ husable) role).mpr
        (h.keyed' userId' (hsame ▸ husable) role hrole)
      exact resolves_of_held (hsame ▸ hheld)

theorem mem_keys_of_lookup {α : Type} {record : Record α} {key : String} {value : α}
    (h : lookup record key = some value) : key ∈ record.map (·.1) := by
  obtain ⟨entry, hfind, -⟩ := Option.map_eq_some_iff.mp h
  have hkey : entry.1 = key := by simpa using List.find?_some hfind
  exact List.mem_map.mpr ⟨entry, List.mem_of_find?_eq_some hfind, hkey⟩

theorem keyedAlike_of_normal
    (hnormal : ∀ key ∈ roles.map (·.1), normaliseApproverId text key = key) :
    KeyedAlike text roles roles := by
  have hkeyed (userId : String) (_ : normaliseApproverId text userId ≠ "") (role : String)
      (hrole : role ∈ resolves text roles userId) :
      role ∈ held roles (normaliseApproverId text userId) := by
    rw [held]
    rw [resolves] at hrole
    cases hlookup : lookup roles (normaliseApproverId text userId) with
    | some found => rwa [hlookup, Option.some_or] at hrole
    | none =>
      rw [hlookup, Option.none_or] at hrole
      cases hraw : lookup roles userId with
      | none =>
        rw [hraw] at hrole
        cases hrole
      | some found =>
        rw [hnormal userId (mem_keys_of_lookup hraw), hraw] at hlookup
        cases hlookup
  exact ⟨hkeyed, hkeyed, fun _ _ _ => Iff.rfl⟩

/-- The decision does not depend on spelling exactly where the records of roles are keyed alike;
order, repetition and further authorised approvals never take an ALLOW away. -/
theorem decision_invariant_iff (htext : text.Lawful) (roles roles' : Record (List String)) :
    ((∀ policy request request', Respelled text request request' →
        request.approverRoles = roles → request'.approverRoles = roles' →
          (evaluate text request policy).decision = (evaluate text request' policy).decision) ∧
      (∀ policy request approvals, request.approverRoles = roles →
        (∀ approval, approval ∈ approvals ↔ approval ∈ request.approvals) →
          (evaluate text (request.withApprovals approvals) policy).decision =
            (evaluate text request policy).decision) ∧
      (∀ policy request approvals, ∀ approval : Approval, request.approverRoles = roles →
        (∀ given, given ∈ approvals ↔ given = approval ∨ given ∈ request.approvals) →
        isRoleAuthorisedApprover text request policy approval.userId = true →
        normaliseApproverId text approval.userId ≠
          normaliseApproverId text request.actor.userId →
        (evaluate text request policy).decision = .allow →
          (evaluate text (request.withApprovals approvals) policy).decision = .allow)) ↔
      KeyedAlike text roles roles' := by
  constructor
  · rintro ⟨hspelling, -, -⟩
    refine (resolveAlike_iff htext).mp fun userId userId' hsame husable role => ?_
    have hrespelled : Respelled text (probeRequest roles userId) (probeRequest roles' userId') := by
      refine ⟨rfl, rfl, rfl, rfl, fun id => ?_⟩
      simp [Named, probeRequest, hsame]
    have hdecision := hspelling (probePolicy role) _ _ hrespelled rfl rfl
    rw [← allow_probe_iff htext husable, ← allow_probe_iff htext (hsame ▸ husable), hdecision]
  · intro hkeyed
    refine ⟨fun policy request request' h hroles hroles' => ?_,
      fun policy request approvals _ h => decision_approvals htext h,
      fun policy request approvals approval _ h hauthorised hother hallow =>
        allow_added htext h hauthorised hother hallow⟩
    have halike := (resolveAlike_iff htext).mpr hkeyed
    subst hroles hroles'
    exact decision_respelled htext h halike

end

/-- Two officers' approvals, by other spellings, in the other order and one of them twice. -/
def disableProtectionAgain : Request :=
  { disableProtection with
    approvals := [⟨" BOB", "", "t"⟩, ⟨"alice", "", "t"⟩, ⟨"ALICE ", "", "t"⟩] }

theorem respelled_disableProtection :
    Respelled asciiText disableProtection disableProtectionAgain := by
  refine ⟨rfl, rfl, rfl, rfl, fun id => ?_⟩
  have hnames : (disableProtection.approvals.map fun approval =>
      normaliseApproverId asciiText approval.userId) = ["alice", "bob"] := by decide
  have hnames' : (disableProtectionAgain.approvals.map fun approval =>
      normaliseApproverId asciiText approval.userId) = ["bob", "alice", "alice"] := by
    decide
  have hnamed (request : Request) : Named asciiText request id ↔
      id ∈ request.approvals.map fun approval => normaliseApproverId asciiText approval.userId :=
    List.mem_map.symm
  rw [hnamed, hnamed, hnames, hnames']
  simp [or_comm]

theorem decision_invariant_iff_disableProtection :
    (evaluate asciiText disableProtection sentinelBaselinePolicy).decision =
      (evaluate asciiText disableProtectionAgain sentinelBaselinePolicy).decision :=
  ((decision_invariant_iff asciiText_lawful disableProtection.approverRoles
    disableProtection.approverRoles).mpr (keyedAlike_of_normal (by decide))).1 _ _ _
      respelled_disableProtection rfl rfl

/-! ## Two spellings of one request -/

/-- The baseline, with two different roles asked for. -/
def diversePolicy : Policy :=
  { sentinelBaselinePolicy with
    categories := sentinelBaselinePolicy.categories.map fun entry =>
      (entry.1, { entry.2 with requireRoleDiversity := true }) }

/-- A protection disabled with the approvals of two people, one of them by the given name. -/
def disableProtectionBy (userId : String) : Request :=
  { disableProtection with
    approvals := [⟨userId, "security.officer", "t"⟩, ⟨"bob", "platform.admin", "t"⟩]
    approverRoles := [(userId, ["security.officer"]), ("bob", ["platform.admin"])] }

/-- One spelling allows the action and the other does not: whether an approver is eligible is asked
by the spelling too, which roles he brings only by the normal form. -/
theorem decision_spelled :
    Respelled asciiText (disableProtectionBy "alice") (disableProtectionBy "Alice") ∧
      (evaluate asciiText (disableProtectionBy "alice") diversePolicy).decision = .allow ∧
      (evaluate asciiText (disableProtectionBy "Alice") diversePolicy).decision =
        .requireTwoPerson := by
  refine ⟨⟨rfl, rfl, rfl, rfl, fun id => ?_⟩, by decide, by decide +kernel⟩
  have hsame : normaliseApproverId asciiText "Alice" = normaliseApproverId asciiText "alice" := by
    decide
  simp [Named, disableProtectionBy, hsame]

end Sentinel.Constitution
