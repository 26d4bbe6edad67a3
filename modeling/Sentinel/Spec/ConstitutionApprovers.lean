import Sentinel.Spec.ConstitutionSoundness

/-! # The approvers behind an ALLOW

Which approvals make an approver eligible, and what two-person control and role diversity then
give: two people other than the actor, with an authorising role each, and with two different ones
where the category asks for that. -/

namespace Sentinel.Constitution

/-- What `trim` and `toLowerCase` do: both are done after one application, and lower case neither
    makes nor removes white space or text. -/
structure Text.Lawful (text : Text) : Prop where
  trim_trim : ∀ s, text.trim (text.trim s) = text.trim s
  trim_empty : text.trim "" = ""
  toLowerCase_toLowerCase : ∀ s, text.toLowerCase (text.toLowerCase s) = text.toLowerCase s
  trim_toLowerCase : ∀ s, text.trim (text.toLowerCase s) = text.toLowerCase (text.trim s)
  toLowerCase_eq_empty : ∀ s, text.toLowerCase s = "" ↔ s = ""

section Laws

variable {text : Text}

theorem Text.Lawful.normalise_normalise (h : text.Lawful) (id : String) :
    normaliseApproverId text (normaliseApproverId text id) = normaliseApproverId text id := by
  rw [normaliseApproverId, normaliseApproverId, h.trim_toLowerCase, h.trim_trim,
    h.toLowerCase_toLowerCase]

/-- An identifier is blank exactly when nothing is left of it in its normal form. -/
theorem Text.Lawful.usable_iff (h : text.Lawful) (id : String) :
    0 < (text.trim id).length ↔ normaliseApproverId text id ≠ "" := by
  rw [normaliseApproverId, Ne, h.toLowerCase_eq_empty, Nat.pos_iff_ne_zero, Ne,
    String.length_eq_zero_iff]

end Laws

/-- The roles that a record holds for an identifier. -/
def resolves (text : Text) (roles : Record (List String)) (userId : String) : List String :=
  ((lookup roles (normaliseApproverId text userId)).or (lookup roles userId)).getD []

section

variable {text : Text} {request : Request} {policy : Policy}

theorem mem_authorisingRolesFor {userId role : String} :
    role ∈ authorisingRolesFor text request policy userId ↔
      role ∈ resolves text request.approverRoles userId ∧
        role ∈ policy.approvalRoles request.action := by
  rw [authorisingRolesFor, List.mem_filter, List.contains_iff_mem]
  exact Iff.rfl

theorem isRoleAuthorisedApprover_iff {userId : String} :
    isRoleAuthorisedApprover text request policy userId = true ↔
      ∃ role, role ∈ authorisingRolesFor text request policy userId := by
  have hany : ((resolvedRolesFor text request userId).any
      (policy.approvalRoles request.action).contains) = true ↔
        ∃ role, role ∈ authorisingRolesFor text request policy userId := by
    simp only [List.any_eq_true, authorisingRolesFor, List.mem_filter]
  rw [isRoleAuthorisedApprover]
  split
  · -- nobody is authorised when no role is
    rename_i hnone
    refine iff_of_false Bool.false_ne_true fun ⟨role, hrole⟩ => ?_
    have hmem := (mem_authorisingRolesFor.mp hrole).2
    rw [List.eq_nil_of_length_eq_zero hnone] at hmem
    cases hmem
  · exact hany

/-- Whose approval can count. -/
def IsCandidate (text : Text) (request : Request) (approval : Approval) : Prop :=
  approval ∈ request.approvals ∧
    normaliseApproverId text approval.userId ≠ normaliseApproverId text request.actor.userId ∧
      0 < (text.trim approval.userId).length

theorem mem_candidateApprovals {approval : Approval} :
    approval ∈ candidateApprovals text request ↔ IsCandidate text request approval := by
  rw [candidateApprovals, List.mem_filter, decide_eq_true_eq]
  exact Iff.rfl

theorem mem_eligibleApproverIds_iff {id : String} :
    id ∈ eligibleApproverIds text request policy ↔
      ∃ approval, IsCandidate text request approval ∧
        (∃ role, role ∈ authorisingRolesFor text request policy approval.userId) ∧
          normaliseApproverId text approval.userId = id := by
  simp only [eligibleApproverIds, mem_uniqueSorted, List.mem_map, List.mem_filter,
    mem_candidateApprovals, isRoleAuthorisedApprover_iff, and_assoc]

/-- As many distinct eligible approvers as the category asks for. -/
theorem distinct_of_allow (h : (evaluate text request policy).decision = .allow) :
    requiredApprovers request policy ≤ (eligibleApproverIds text request policy).length ∧
      (policy.requireRoleDiversity request.action = true →
        requiredApprovers request policy ≤ (uniqueSorted
          ((eligibleApproverIds text request policy).flatMap
            (authorisingRolesFor text request policy))).length) := by
  have hsufficient : checkApprovalDistinctSufficient text request policy = true :=
    evaluate_allow_iff.mp h ⟨.approvalDistinctSufficient, .approval,
      checkApprovalDistinctSufficient text request policy⟩ (by simp [trace])
  simp only [checkApprovalDistinctSufficient, Bool.and_eq_true, Bool.or_eq_true,
    decide_eq_true_eq, Bool.not_eq_true'] at hsufficient
  refine ⟨hsufficient.1, fun hdiverse => ?_⟩
  exact hsufficient.2.resolve_left (by simp [hdiverse])

/-- A role of an eligible identifier is a role of the approver who is identified. -/
theorem authorisingRolesFor_normalise (htext : text.Lawful) {userId role : String}
    (hrole : role ∈ authorisingRolesFor text request policy (normaliseApproverId text userId)) :
    role ∈ authorisingRolesFor text request policy userId := by
  rw [mem_authorisingRolesFor, resolves, htext.normalise_normalise, Option.or_self] at hrole
  rw [mem_authorisingRolesFor, resolves]
  refine ⟨?_, hrole.2⟩
  obtain ⟨hresolved, -⟩ := hrole
  cases hlookup : lookup request.approverRoles (normaliseApproverId text userId) with
  | none =>
    rw [hlookup] at hresolved
    cases hresolved
  | some roles =>
    rw [hlookup] at hresolved
    rwa [Option.some_or]

end

/-- Two different elements of a list without repetition. -/
theorem exists_two_of_length {α : Type} {l : List α} (hnodup : l.Nodup) (h : 2 ≤ l.length) :
    ∃ a ∈ l, ∃ b ∈ l, a ≠ b := by
  match l, h with
  | a :: b :: _, _ =>
    refine ⟨a, List.mem_cons_self, b, List.mem_cons_of_mem _ List.mem_cons_self, ?_⟩
    rintro rfl
    exact (List.nodup_cons.mp hnodup).1 List.mem_cons_self

/-- Where two roles are held among several people who hold one each, two of the people can be
    given different roles. -/
theorem exists_two_roles {α β : Type} {people : List α} {holds : α → β → Prop}
    (hheld : ∀ a ∈ people, ∃ r, holds a r) (htwo : ∃ a ∈ people, ∃ b ∈ people, a ≠ b)
    {r r' : β} (hne : r ≠ r') {c d : α} (hc : c ∈ people) (hd : d ∈ people) (hcr : holds c r)
    (hdr : holds d r') :
    ∃ a ∈ people, ∃ b ∈ people, a ≠ b ∧ ∃ q q', holds a q ∧ holds b q' ∧ q ≠ q' := by
  by_cases hcd : c = d
  · -- one person holds both roles, and any other takes one that the first leaves
    subst hcd
    obtain ⟨e, he, hec⟩ : ∃ e ∈ people, e ≠ c := by
      obtain ⟨a, ha, b, hb, hab⟩ := htwo
      by_cases hac : a = c
      · exact ⟨b, hb, fun hbc => hab (hac.trans hbc.symm)⟩
      · exact ⟨a, ha, hac⟩
    obtain ⟨q, hq⟩ := hheld e he
    by_cases hqr : q = r
    · exact ⟨e, he, c, hc, hec, q, r', hq, hdr, hqr ▸ hne⟩
    · exact ⟨e, he, c, hc, hec, q, r, hq, hcr, hqr⟩
  · exact ⟨c, hc, d, hd, hcd, r, r', hcr, hdr, hne⟩

section

variable {text : Text} {request : Request} {policy : Policy}

/-- Two people other than the actor who approved, with an authorising role each, and where the
    category asks for diversity with two different ones. -/
def TwoPersonControl (text : Text) (request : Request) (policy : Policy) : Prop :=
  ∃ a ∈ request.approvals, ∃ b ∈ request.approvals,
    normaliseApproverId text a.userId ≠ normaliseApproverId text b.userId ∧
      normaliseApproverId text a.userId ≠ normaliseApproverId text request.actor.userId ∧
      normaliseApproverId text b.userId ≠ normaliseApproverId text request.actor.userId ∧
      ∃ role ∈ authorisingRolesFor text request policy a.userId,
        ∃ role' ∈ authorisingRolesFor text request policy b.userId,
          (policy.requireRoleDiversity request.action = true → role ≠ role')

/-- An ALLOW rests on every hard check, and where the rule asks for it on two-person control. -/
theorem allow_sound (htext : text.Lawful)
    (h : (evaluate text request policy).decision = .allow) :
    (∀ entry ∈ trace text request policy, entry.severity = .hard → entry.passed = true) ∧
      (policy.requirement request.action = .twoPerson → TwoPersonControl text request policy) := by
  refine ⟨fun entry hentry _ => evaluate_allow_iff.mp h entry hentry, fun htwo => ?_⟩
  obtain ⟨hcount, hroles⟩ := distinct_of_allow h
  rw [requiredApprovers, htwo, requiredApproverCount] at hcount hroles
  have hpeople := exists_two_of_length (nodup_uniqueSorted _) hcount
  have hheld : ∀ id ∈ eligibleApproverIds text request policy, ∃ role, ∃ approval,
      IsCandidate text request approval ∧ normaliseApproverId text approval.userId = id ∧
        role ∈ authorisingRolesFor text request policy approval.userId := by
    intro id hid
    obtain ⟨approval, hcandidate, ⟨role, hrole⟩, hnormal⟩ := mem_eligibleApproverIds_iff.mp hid
    exact ⟨role, approval, hcandidate, hnormal, hrole⟩
  by_cases hdiverse : policy.requireRoleDiversity request.action = true
  · obtain ⟨r, hr, r', hr', hne⟩ :=
      exists_two_of_length (nodup_uniqueSorted _) (hroles hdiverse)
    rw [mem_uniqueSorted, List.mem_flatMap] at hr hr'
    obtain ⟨c, hc, hcr⟩ := hr
    obtain ⟨d, hd, hdr⟩ := hr'
    have hholder : ∀ {id role}, id ∈ eligibleApproverIds text request policy →
        role ∈ authorisingRolesFor text request policy id → ∃ approval,
          IsCandidate text request approval ∧ normaliseApproverId text approval.userId = id ∧
            role ∈ authorisingRolesFor text request policy approval.userId := by
      intro id role hid hrole
      obtain ⟨approval, hcandidate, -, rfl⟩ := mem_eligibleApproverIds_iff.mp hid
      exact ⟨approval, hcandidate, rfl, authorisingRolesFor_normalise htext hrole⟩
    obtain ⟨a, -, b, -, hab, q, q', ⟨x, hx, rfl, hxq⟩, ⟨y, hy, rfl, hyq⟩, hqq⟩ :=
      exists_two_roles hheld hpeople hne hc hd (hholder hc hcr) (hholder hd hdr)
    exact ⟨x, hx.1, y, hy.1, hab, hx.2.1, hy.2.1, q, hxq, q', hyq, fun _ => hqq⟩
  · obtain ⟨a, ha, b, hb, hab⟩ := hpeople
    obtain ⟨q, x, hx, rfl, hxq⟩ := hheld a ha
    obtain ⟨q', y, hy, rfl, hyq⟩ := hheld b hb
    exact ⟨x, hx.1, y, hy.1, hab, hx.2.1, hy.2.1, q, hxq, q', hyq, fun hd => absurd hd hdiverse⟩

end

/-! ## ASCII identifiers -/

/-- Lower case as far as the letters A to Z go. -/
def asciiLower (c : Char) : Char :=
  if 'A' ≤ c ∧ c ≤ 'Z' then Char.ofNat (c.toNat + 32) else c

theorem asciiLower_cases (c : Char) :
    asciiLower c = c ∨ (65 ≤ c.toNat ∧ c.toNat ≤ 90) ∧ (asciiLower c).toNat = c.toNat + 32 := by
  rw [asciiLower]
  split
  · rename_i hupper
    have hbounds : 65 ≤ c.toNat ∧ c.toNat ≤ 90 := hupper
    refine .inr ⟨hbounds, ?_⟩
    have hvalid : (c.toNat + 32).isValidChar := .inl (by omega)
    rw [Char.ofNat, dif_pos hvalid]
    rfl
  · exact .inl rfl

theorem isSpace_asciiLower (c : Char) : JsText.isSpace (asciiLower c) = JsText.isSpace c := by
  obtain hsame | ⟨hbounds, hlower⟩ := asciiLower_cases c
  · rw [hsame]
  · have hnot (d : Char) (hd : 65 ≤ d.toNat ∧ d.toNat ≤ 122) : JsText.isSpace d = false := by
      simp only [JsText.isSpace, decide_eq_false_iff_not, List.contains_eq_mem, List.mem_cons,
        List.not_mem_nil, or_false, decide_eq_true_eq]
      omega
    rw [hnot c (by omega), hnot _ (by omega)]

theorem asciiLower_asciiLower (c : Char) : asciiLower (asciiLower c) = asciiLower c := by
  obtain hsame | ⟨hbounds, hlower⟩ := asciiLower_cases c
  · rw [hsame, hsame]
  · obtain hsame' | ⟨hbounds', -⟩ := asciiLower_cases (asciiLower c)
    · exact hsame'
    · omega

/-- Identifiers of ASCII letters. -/
def asciiText : Text where
  trim := JsText.trim
  toLowerCase s := String.ofList (s.toList.map asciiLower)

theorem asciiText_lawful : asciiText.Lawful where
  trim_trim := JsText.trim_trim
  trim_empty := by decide
  toLowerCase_toLowerCase s := by
    show String.ofList ((String.ofList (s.toList.map asciiLower)).toList.map asciiLower) = _
    rw [String.toList_ofList, List.map_map]
    refine congrArg String.ofList (List.map_congr_left fun c _ => asciiLower_asciiLower c)
  trim_toLowerCase s := by
    have hspace : JsText.isSpace ∘ asciiLower = JsText.isSpace := funext isSpace_asciiLower
    apply String.toList_injective
    show (JsText.trim (String.ofList (s.toList.map asciiLower))).toList =
      (String.ofList ((JsText.trim s).toList.map asciiLower)).toList
    rw [JsText.toList_trim, String.toList_ofList, String.toList_ofList, JsText.toList_trim,
      List.rdropWhile, List.rdropWhile, List.dropWhile_map, hspace, ← List.map_reverse,
      List.dropWhile_map, hspace, List.map_reverse]
  toLowerCase_eq_empty s := by
    show String.ofList (s.toList.map asciiLower) = "" ↔ s = ""
    rw [← String.toList_inj, String.toList_ofList, String.toList_empty, List.map_eq_nil_iff,
      ← String.toList_inj, String.toList_empty]

/-- A request to disable a protection, with two officers' approvals. -/
def disableProtection : Request where
  action := "security.protection.disable"
  actor :=
    { userId := "director", roles := ["org.security.director"], organisationId := "org-1"
      clearance := some 5, purpose := some "maintenance", deviceTrust := .trusted }
  target :=
    { organisationId := "org-1", siteId := none, classification := .internal
      classificationLevel := some 1 }
  approvals := [⟨"Alice", "security.officer", "t"⟩, ⟨"bob", "security.officer", "t"⟩]
  approverRoles := [("alice", ["security.officer"]), ("bob", ["platform.admin"])]

theorem allow_sound_disableProtection :
    TwoPersonControl asciiText disableProtection sentinelBaselinePolicy :=
  (allow_sound asciiText_lawful (by decide)).2 (by decide +kernel)

end Sentinel.Constitution
