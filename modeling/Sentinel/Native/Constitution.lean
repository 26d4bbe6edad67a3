import Mathlib.Data.List.Dedup
import Mathlib.Data.Rat.Defs
import Mathlib.Algebra.Order.Ring.Rat
import Sentinel.ForStd.JsText

/-! # The constitution evaluator

The pure evaluator of `modules/constitution/constitution.engine.ts`: twelve checks, all of
them run, and a decision that is ALLOW only when every one passes.  The texts of summaries
and reasons and the compared values of a trace entry are left out.

A number is a rational or, when it is not finite, nothing.  What `trim` and `toLowerCase`
do to an identifier is a parameter. -/

namespace Sentinel.Constitution

/-- `String.prototype.trim` and `String.prototype.toLowerCase`. -/
structure Text where
  trim : String → String
  toLowerCase : String → String

/-- A plain object used as a dictionary. -/
abbrev Record (α : Type) := List (String × α)

/-- `lookup`: own properties only. -/
def lookup {α : Type} (record : Record α) (key : String) : Option α :=
  (record.find? fun entry => entry.1 = key).map (·.2)

/-! ## Requests -/

inductive DeviceTrust
  | trusted | degraded | suspicious | quarantined | compromised

inductive Classification
  | publicData | internal | sensitive | restricted | evidence | secrets

structure Actor where
  userId : String
  roles : List String
  organisationId : String
  clearance : Option ℚ
  purpose : Option String
  deviceTrust : DeviceTrust

structure Target where
  organisationId : String
  siteId : Option String
  classification : Classification
  classificationLevel : Option ℚ

structure Approval where
  userId : String
  role : String
  givenAt : String

structure Request where
  action : String
  actor : Actor
  target : Target
  approvals : List Approval
  approverRoles : Record (List String)

/-! ## Policies -/

inductive ApprovalRequirement
  | none | one | twoPerson
deriving DecidableEq

structure ActionCategory where
  approval : ApprovalRequirement
  description : String
  approvalRoles : List String
  requireRoleDiversity : Bool

structure Policy where
  version : String
  categories : Record ActionCategory
  actions : Record String
  roles : Record (List String)
  prohibitedActions : List String

/-! ## Decisions -/

inductive Decision
  | allow | deny | requireApproval | requireTwoPerson
deriving DecidableEq

inductive CheckSeverity
  | hard | approval
deriving DecidableEq

/-- `CHECK_SEQUENCE`, in its order. -/
inductive CheckId
  | actionNotProhibited
  | actionKnown
  | actionCategoryKnown
  | rolePermitsAction
  | organisationMatch
  | classificationConsistent
  | clearanceSufficient
  | deviceTrustAcceptable
  | purposePresent
  | approvalSelfExclusion
  | approvalRoleAuthorised
  | approvalDistinctSufficient
deriving DecidableEq

structure TraceEntry where
  check : CheckId
  severity : CheckSeverity
  passed : Bool
deriving DecidableEq

structure ConstitutionDecision where
  decision : Decision
  policyVersion : String
  trace : List TraceEntry

/-! ## Helpers -/

def classificationLevels : Classification → ℚ
  | .publicData => 0
  | .internal => 1
  | .sensitive => 2
  | .restricted => 3
  | .evidence => 4
  | .secrets => 5

def maxClassificationLevel : ℚ := 5

def purposeRequiredAtLevel : ℚ := 2

def suspiciousDeviceMaxLevel : ℚ := 1

/-- `effectiveClassificationLevel`: the more restrictive of the two declarations. -/
def effectiveClassificationLevel (target : Target) : ℚ :=
  match target.classificationLevel with
  | none => maxClassificationLevel
  | some level => max (classificationLevels target.classification) level

def requiredApproverCount : ApprovalRequirement → Nat
  | .none => 0
  | .one => 1
  | .twoPerson => 2

def deviceTrustAcceptable (trust : DeviceTrust) (effectiveLevel : ℚ) : Bool :=
  match trust with
  | .trusted | .degraded => true
  | .suspicious => effectiveLevel ≤ suspiciousDeviceMaxLevel
  | .quarantined | .compromised => false

def uniqueSorted (values : List String) : List String := JsText.sort values.dedup

def normaliseApproverId (text : Text) (id : String) : String := text.toLowerCase (text.trim id)

namespace Policy

/-- The category an action is registered under. -/
def category (policy : Policy) (action : String) : Option ActionCategory :=
  (lookup policy.actions action).bind (lookup policy.categories)

/-- `requirement` of the context: the strictest when the category cannot be resolved. -/
def requirement (policy : Policy) (action : String) : ApprovalRequirement :=
  (policy.category action).elim .twoPerson (·.approval)

/-- `approvalRoles` of the context: an unresolved category authorises nobody. -/
def approvalRoles (policy : Policy) (action : String) : List String :=
  (policy.category action).elim [] (·.approvalRoles)

/-- `requireRoleDiversity` of the context. -/
def requireRoleDiversity (policy : Policy) (action : String) : Bool :=
  (policy.category action).elim false (·.requireRoleDiversity)

end Policy

section Evaluation

variable (text : Text) (request : Request) (policy : Policy)

/-- `candidateApprovals`: not the actor's own, and with a usable user id. -/
def candidateApprovals : List Approval :=
  request.approvals.filter fun approval =>
    normaliseApproverId text approval.userId ≠ normaliseApproverId text request.actor.userId ∧
      (text.trim approval.userId).length > 0

def resolvedRolesFor (userId : String) : List String :=
  ((lookup request.approverRoles (normaliseApproverId text userId)).or
    (lookup request.approverRoles userId)).getD []

def authorisingRolesFor (userId : String) : List String :=
  (resolvedRolesFor text request userId).filter (policy.approvalRoles request.action).contains

def isRoleAuthorisedApprover (userId : String) : Bool :=
  if (policy.approvalRoles request.action).length = 0 then false
  else (resolvedRolesFor text request userId).any (policy.approvalRoles request.action).contains

def eligibleApproverIds : List String :=
  uniqueSorted (((candidateApprovals text request).filter fun approval =>
    isRoleAuthorisedApprover text request policy approval.userId).map fun approval =>
      normaliseApproverId text approval.userId)

def selfApprovalIds : List String :=
  uniqueSorted ((request.approvals.filter fun approval =>
    normaliseApproverId text approval.userId = normaliseApproverId text request.actor.userId).map
      fun approval => normaliseApproverId text approval.userId)

/-- `requiredApprovers` of the context. -/
def requiredApprovers : Nat := requiredApproverCount (policy.requirement request.action)

/-! ## The checks -/

def checkActionNotProhibited : Bool := !policy.prohibitedActions.contains request.action

def checkActionKnown : Bool := (lookup policy.actions request.action).isSome

def checkActionCategoryKnown : Bool := (policy.category request.action).isSome

def checkRolePermitsAction : Bool :=
  request.actor.roles.any fun role =>
    (lookup policy.roles role).any (·.contains request.action)

def checkOrganisationMatch : Bool :=
  request.actor.organisationId = request.target.organisationId

def checkClassificationConsistent : Bool :=
  request.target.classificationLevel = some (classificationLevels request.target.classification)

def checkClearanceSufficient : Bool :=
  request.actor.clearance.any fun clearance => effectiveClassificationLevel request.target ≤ clearance

def checkDeviceTrustAcceptable : Bool :=
  deviceTrustAcceptable request.actor.deviceTrust (effectiveClassificationLevel request.target)

def checkPurposePresent : Bool :=
  effectiveClassificationLevel request.target < purposeRequiredAtLevel ∨
    0 < (text.trim (request.actor.purpose.getD "")).length

def checkApprovalSelfExclusion : Bool :=
  requiredApprovers request policy = 0 ∨ (selfApprovalIds text request).length = 0

def checkApprovalRoleAuthorised : Bool :=
  let candidateIds := uniqueSorted ((candidateApprovals text request).map fun approval =>
    normaliseApproverId text approval.userId)
  requiredApprovers request policy = 0 ∨
    candidateIds.all (eligibleApproverIds text request policy).contains

def checkApprovalDistinctSufficient : Bool :=
  let eligible := eligibleApproverIds text request policy
  let distinctAuthorisingRoles :=
    uniqueSorted (eligible.flatMap (authorisingRolesFor text request policy))
  let roleDiverse := !policy.requireRoleDiversity request.action ||
    decide (requiredApprovers request policy ≤ distinctAuthorisingRoles.length)
  decide (requiredApprovers request policy ≤ eligible.length) && roleDiverse

/-- `CHECKS`: every check runs and reports. -/
def trace : List TraceEntry :=
  [⟨.actionNotProhibited, .hard, checkActionNotProhibited request policy⟩,
    ⟨.actionKnown, .hard, checkActionKnown request policy⟩,
    ⟨.actionCategoryKnown, .hard, checkActionCategoryKnown request policy⟩,
    ⟨.rolePermitsAction, .hard, checkRolePermitsAction request policy⟩,
    ⟨.organisationMatch, .hard, checkOrganisationMatch request⟩,
    ⟨.classificationConsistent, .hard, checkClassificationConsistent request⟩,
    ⟨.clearanceSufficient, .hard, checkClearanceSufficient request⟩,
    ⟨.deviceTrustAcceptable, .hard, checkDeviceTrustAcceptable request⟩,
    ⟨.purposePresent, .hard, checkPurposePresent text request⟩,
    ⟨.approvalSelfExclusion, .approval, checkApprovalSelfExclusion text request policy⟩,
    ⟨.approvalRoleAuthorised, .approval, checkApprovalRoleAuthorised text request policy⟩,
    ⟨.approvalDistinctSufficient, .approval,
      checkApprovalDistinctSufficient text request policy⟩]

def evaluate : ConstitutionDecision :=
  let trace := trace text request policy
  let failed (severity : CheckSeverity) : Bool :=
    trace.any fun entry => entry.severity = severity && !entry.passed
  { decision :=
      if failed .hard then .deny
      else if failed .approval then
        if policy.requirement request.action = .twoPerson then .requireTwoPerson
        else .requireApproval
      else .allow
    policyVersion := policy.version
    trace }

end Evaluation

/-! ## The baseline -/

def sentinelBaselinePolicy : Policy where
  version := "sentinel-constitution-1.2.0"
  categories :=
    [("routine_read", ⟨.none, "Read of operational records.", [], false⟩),
      ("routine_write", ⟨.none, "Annotation of operational records.", [], false⟩),
      ("response_dispatch_standard",
        ⟨.none, "Dispatch through an ordinary, policy-authorised response channel.", [], false⟩),
      ("response_dispatch_silent",
        ⟨.twoPerson, "Silent field dispatch that must not reveal protective coordination.",
          ["site.commander"], false⟩),
      ("sensitive_data_export",
        ⟨.one, "Export of sensitive data outside the platform.",
          ["org.security.director", "platform.admin", "security.officer", "site.commander"],
          false⟩),
      ("account_privilege_change",
        ⟨.one, "Change to a user account role or privilege.",
          ["org.security.director", "platform.admin"], false⟩),
      ("exceptional_tracking_powers",
        ⟨.twoPerson, "§58.2 Use of exceptional tracking powers.",
          ["org.security.director", "security.officer", "site.commander"], false⟩),
      ("controlled_reality_high_activation",
        ⟨.twoPerson, "§58.2 High-level Controlled Reality activation.",
          ["org.security.director", "security.officer", "site.commander"], false⟩),
      ("disable_critical_security_protection",
        ⟨.twoPerson, "§58.2 Disabling a critical security protection.",
          ["org.security.director", "platform.admin", "security.officer"], false⟩),
      ("export_restricted_biometric_evidence",
        ⟨.twoPerson, "§58.2 Export of restricted biometric evidence.",
          ["evidence.custodian", "org.security.director"], false⟩),
      ("modify_evidence_retention_legal_hold",
        ⟨.twoPerson, "§58.2 Modification of evidence retention under legal hold.",
          ["evidence.custodian", "org.security.director"], false⟩),
      ("alter_core_constitution_rules",
        ⟨.twoPerson, "§58.2 Alteration of core Constitution rules.",
          ["constitution.steward", "org.security.director", "platform.admin",
            "security.officer"], false⟩),
      ("irreversible_integrity_destruction",
        ⟨.twoPerson, "Destruction of integrity records (prohibited in this policy).",
          ["org.security.director", "platform.admin"], false⟩)]
  actions :=
    [("incident.view", "routine_read"),
      ("incident.annotate", "routine_write"),
      ("response.dispatch.standard", "response_dispatch_standard"),
      ("response.dispatch.silent", "response_dispatch_silent"),
      ("report.export.summary", "sensitive_data_export"),
      ("user.role.grant", "account_privilege_change"),
      ("tracking.exceptional.enable", "exceptional_tracking_powers"),
      ("reality.controlled.activate.high", "controlled_reality_high_activation"),
      ("security.protection.disable", "disable_critical_security_protection"),
      ("evidence.biometric.export.restricted", "export_restricted_biometric_evidence"),
      ("evidence.retention.modify.legalhold", "modify_evidence_retention_legal_hold"),
      ("constitution.rules.alter.core", "alter_core_constitution_rules"),
      ("audit.ledger.delete", "irreversible_integrity_destruction"),
      ("surveillance.mass.covert.enable", "exceptional_tracking_powers"),
      ("evidence.legalhold.destroy", "modify_evidence_retention_legal_hold"),
      ("constitution.evaluator.bypass", "alter_core_constitution_rules")]
  roles :=
    [("viewer", ["incident.view"]),
      ("system.response", ["response.dispatch.standard", "response.dispatch.silent"]),
      ("analyst", ["incident.view", "incident.annotate", "report.export.summary"]),
      ("evidence.custodian",
        ["incident.view", "evidence.biometric.export.restricted",
          "evidence.retention.modify.legalhold"]),
      ("security.officer",
        ["incident.view", "tracking.exceptional.enable", "reality.controlled.activate.high",
          "security.protection.disable"]),
      ("site.commander",
        ["incident.view", "incident.annotate", "reality.controlled.activate.high"]),
      ("org.security.director",
        ["incident.view", "incident.annotate", "report.export.summary", "user.role.grant",
          "tracking.exceptional.enable", "security.protection.disable"]),
      ("platform.admin", ["incident.view", "user.role.grant"]),
      ("constitution.steward", ["incident.view", "constitution.rules.alter.core"])]
  prohibitedActions :=
    ["audit.ledger.delete", "surveillance.mass.covert.enable", "evidence.legalhold.destroy",
      "constitution.evaluator.bypass"]

end Sentinel.Constitution
