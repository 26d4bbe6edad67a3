import Sentinel.Native.Constitution

/-! # What an ALLOW of the constitution means

The decision is ALLOW exactly when every check passes; and under two-person control an
ALLOW counts two approvers that differ from each other and from the actor, also after
their identifiers are normalised. -/

namespace Sentinel.Constitution

@[simp] theorem mem_uniqueSorted {value : String} {values : List String} :
    value ∈ uniqueSorted values ↔ value ∈ values := by
  rw [uniqueSorted, JsText.mem_sort, List.mem_dedup]

theorem nodup_uniqueSorted (values : List String) : (uniqueSorted values).Nodup := by
  rw [uniqueSorted, JsText.sort]
  exact (List.perm_insertionSort _ _).nodup_iff.mpr (List.nodup_dedup values)

section

variable {text : Text} {request : Request} {policy : Policy}

/-- Deny by default: ALLOW needs every check. -/
theorem evaluate_allow_iff :
    (evaluate text request policy).decision = .allow ↔
      ∀ entry ∈ trace text request policy, entry.passed = true := by
  have hfailed : ∀ severity, ((trace text request policy).any fun entry =>
      entry.severity = severity && !entry.passed) = false ↔
        ∀ entry ∈ trace text request policy, entry.severity = severity → entry.passed = true := by
    intro severity
    simp [List.any_eq_false]
  constructor
  · intro h entry hentry
    simp only [evaluate] at h
    split at h
    · cases h
    · rename_i hhard
      split at h
      · split at h <;> cases h
      · rename_i happroval
        rw [Bool.not_eq_true] at hhard happroval
        cases hseverity : entry.severity with
        | hard => exact (hfailed .hard).mp hhard entry hentry hseverity
        | approval => exact (hfailed .approval).mp happroval entry hentry hseverity
  · intro h
    simp only [evaluate]
    rw [if_neg, if_neg]
    · rw [Bool.not_eq_true, hfailed]
      exact fun entry hentry _ => h entry hentry
    · rw [Bool.not_eq_true, hfailed]
      exact fun entry hentry _ => h entry hentry

theorem mem_eligibleApproverIds {id : String} (h : id ∈ eligibleApproverIds text request policy) :
    ∃ approval ∈ request.approvals, normaliseApproverId text approval.userId = id ∧
      id ≠ normaliseApproverId text request.actor.userId := by
  rw [eligibleApproverIds, mem_uniqueSorted, List.mem_map] at h
  obtain ⟨approval, happroval, rfl⟩ := h
  have hcandidate := List.mem_of_mem_filter happroval
  rw [candidateApprovals, List.mem_filter, decide_eq_true_eq] at hcandidate
  exact ⟨approval, hcandidate.1, rfl, hcandidate.2.1⟩

/-- Two-person control: an ALLOW rests on approvals of two people. -/
theorem two_approvers (hpolicy : policy.requirement request.action = .twoPerson)
    (h : (evaluate text request policy).decision = .allow) :
    ∃ a ∈ request.approvals, ∃ b ∈ request.approvals,
      normaliseApproverId text a.userId ≠ normaliseApproverId text b.userId := by
  have hsufficient : checkApprovalDistinctSufficient text request policy = true :=
    evaluate_allow_iff.mp h
      ⟨.approvalDistinctSufficient, .approval, checkApprovalDistinctSufficient text request policy⟩
      (by simp [trace])
  simp only [checkApprovalDistinctSufficient, Bool.and_eq_true, decide_eq_true_eq,
    requiredApprovers, hpolicy, requiredApproverCount] at hsufficient
  have hnodup : (eligibleApproverIds text request policy).Nodup := nodup_uniqueSorted _
  match heligible : eligibleApproverIds text request policy with
  | [] | [_] =>
    rw [heligible] at hsufficient
    simp at hsufficient
  | first :: second :: rest =>
    have hmem : first ∈ eligibleApproverIds text request policy ∧
        second ∈ eligibleApproverIds text request policy := by
      rw [heligible]
      simp
    obtain ⟨a, ha, hfirst, _⟩ := mem_eligibleApproverIds hmem.1
    obtain ⟨b, hb, hsecond, _⟩ := mem_eligibleApproverIds hmem.2
    rw [heligible] at hnodup
    refine ⟨a, ha, b, hb, ?_⟩
    rw [hfirst, hsecond]
    rintro rfl
    simp at hnodup

end

end Sentinel.Constitution
