import Sentinel.Native.Constitution

/-! # The policy store

The validation of a policy in `modules/constitution/constitution.validation.ts`, the shape that
`parsePolicy` asks for, and the rows and transactions of
`modules/constitution/constitution.repository.ts`.  Every transaction is serialisable, so it is
one function of the rows.

A stored body is the policy it was written from. -/

namespace Sentinel.Constitution

/-! ## Validation -/

inductive PolicyValidationCode
  | categoryDangling
  | actionUnregistered
  | prohibitedActionGranted
  | approvalRolesEmpty
  | approvalRoleUnregistered

structure PolicyValidationIssue where
  code : PolicyValidationCode
  message : String

def has {α : Type} (record : Record α) (key : String) : Bool := (lookup record key).isSome

def sortedKeys {α : Type} (record : Record α) : List String := JsText.sort (record.map (·.1))

def ApprovalRequirement.name : ApprovalRequirement → String
  | .none => "NONE"
  | .one => "ONE"
  | .twoPerson => "TWO_PERSON"

namespace Policy

variable (policy : Policy)

/-- Rule 1: dangling category references. -/
def danglingIssues (action : String) : List PolicyValidationIssue :=
  let categoryId := (lookup policy.actions action).getD ""
  if has policy.categories categoryId then []
  else [⟨.categoryDangling,
    s!"action '{action}' maps to category '{categoryId}', which the policy does not " ++
      "define; the action's approval requirement could never be resolved."⟩]

/-- Rules 2 and 3: role grants of unregistered and of prohibited actions. -/
def grantIssues (role action : String) : List PolicyValidationIssue :=
  (if has policy.actions action then []
    else [⟨.actionUnregistered,
      s!"role '{role}' grants action '{action}', which is not registered in the policy; " ++
        "a grant of an unknown action can never take effect and hides a typo or a removal."⟩]) ++
  (if policy.prohibitedActions.contains action then
      [⟨.prohibitedActionGranted,
        s!"role '{role}' grants action '{action}', which is on the prohibition list; a role " ++
          "grant must never appear to authorise a permanently prohibited action."⟩]
    else [])

/-- Rules 4 and 5: approval authority that is missing or not defined. -/
def approvalIssues (categoryId : String) : List PolicyValidationIssue :=
  match lookup policy.categories categoryId with
  | none => []
  | some category =>
    (if category.approval ≠ .none ∧ category.approvalRoles = [] then
        [⟨.approvalRolesEmpty,
          s!"category '{categoryId}' requires approval '{category.approval.name}' but declares no " ++
            "approval_roles; no approver could ever be authorised, so the control is " ++
            "unsatisfiable."⟩]
      else []) ++
    (JsText.sort category.approvalRoles).flatMap fun role =>
      if has policy.roles role then []
      else [⟨.approvalRoleUnregistered,
        s!"category '{categoryId}' names approval role '{role}', which the policy does not " ++
          "define; approval authority must reference a registered role."⟩]

def validate : List PolicyValidationIssue :=
  (sortedKeys policy.actions).flatMap policy.danglingIssues ++
  ((sortedKeys policy.roles).flatMap fun role =>
    (JsText.sort ((lookup policy.roles role).getD [])).flatMap (policy.grantIssues role)) ++
  (sortedKeys policy.categories).flatMap policy.approvalIssues

/-! ## Shape -/

/-- The issue of an empty string under `z.string().min(1)`. -/
def emptyIssue (path value : String) : List String :=
  if value = "" then [s!"{path}: String must contain at least 1 character(s)"] else []

def emptyIssues (path : String) (values : List String) : List String :=
  values.zipIdx.flatMap fun entry => emptyIssue s!"{path}.{entry.2}" entry.1

/-- The issues of `PolicyBodySchema`: those that a value of the type can still have. -/
def shapeIssues : List String :=
  emptyIssue "version" policy.version ++
  (policy.categories.flatMap fun entry =>
    emptyIssue s!"categories.{entry.1}.description" entry.2.description ++
      emptyIssues s!"categories.{entry.1}.approval_roles" entry.2.approvalRoles) ++
  (policy.actions.flatMap fun entry => emptyIssue s!"actions.{entry.1}" entry.2) ++
  (policy.roles.flatMap fun entry => emptyIssues s!"roles.{entry.1}" entry.2) ++
  emptyIssues "prohibitedActions" policy.prohibitedActions

end Policy

/-- What the store and the service throw. -/
inductive ConstitutionError
  | policyShape (issues : List String)
  | policyValidation (policyVersion : String) (issues : List PolicyValidationIssue)
  /-- P2002 on the version. -/
  | versionTaken (version : String)
  | policyNotFound (version : String)
  | policyNotActivatable (version : String)
  | singleActivePolicy (activeCount : Nat)
  | noActivePolicy
  | policyIntegrity (message : String)
  | constitutionNotLoaded
  /-- An awaited operation was rejected. -/
  | rejected

def parsePolicy (body : Policy) : Except ConstitutionError Policy :=
  if body.shapeIssues = [] then .ok body else .error (.policyShape body.shapeIssues)

def assertValidPolicy (policy : Policy) : Except ConstitutionError Policy :=
  if policy.validate = [] then .ok policy
  else .error (.policyValidation policy.version policy.validate)

/-! ## Rows -/

inductive PolicyStatus
  | draft | active | retired
deriving DecidableEq

structure StoredPolicy where
  id : String
  version : String
  body : Policy
  contentSha256 : String
  status : PolicyStatus
  createdBy : String
  createdAt : Int
  activatedAt : Option Int

def StoredPolicy.isActive (row : StoredPolicy) : Bool := row.status = .active

def bootstrapAuthor : String := "system.bootstrap"

/-- What the module takes from elsewhere. -/
structure Platform where
  text : Text
  policyContentSha256 : Policy → String

/-- The identifier and the time a statement takes. -/
structure Stamp where
  id : String
  now : Int

def findActive (rows : List StoredPolicy) : Option StoredPolicy := rows.find? (·.isActive)

def findByVersion (rows : List StoredPolicy) (version : String) : Option StoredPolicy :=
  rows.find? (·.version = version)

/-- The row that a policy is first stored as. -/
def storedAs (platform : Platform) (policy : Policy) (status : PolicyStatus) (createdBy : String)
    (activatedAt : Option Int) (stamp : Stamp) : StoredPolicy where
  id := stamp.id
  version := policy.version
  body := policy
  contentSha256 := platform.policyContentSha256 policy
  status
  createdBy
  createdAt := stamp.now
  activatedAt

def createDraft (platform : Platform) (rows : List StoredPolicy) (policy : Policy)
    (createdBy : String) (stamp : Stamp) : Except ConstitutionError (List StoredPolicy) := do
  let policy ← assertValidPolicy policy
  if (findByVersion rows policy.version).isSome then throw (.versionTaken policy.version)
  return rows ++ [storedAs platform policy .draft createdBy none stamp]

/-- `updateMany({ where: { status: 'active', version: { not: version } } })`. -/
def retireOthers (version : String) (rows : List StoredPolicy) : List StoredPolicy :=
  rows.map fun row =>
    if row.isActive ∧ row.version ≠ version then { row with status := .retired } else row

/-- `update({ where: { version } })`. -/
def makeActive (version : String) (now : Int) (rows : List StoredPolicy) : List StoredPolicy :=
  rows.map fun row =>
    if row.version = version then { row with status := .active, activatedAt := some now } else row

def activate (rows : List StoredPolicy) (version : String) (now : Int) :
    Except ConstitutionError (List StoredPolicy) :=
  match findByVersion rows version with
  | none => .error (.policyNotFound version)
  | some target =>
    if target.status = .retired then .error (.policyNotActivatable version)
    else
      let updated :=
        if target.isActive then rows else makeActive version now (retireOthers version rows)
      if updated.countP (·.isActive) = 1 then .ok updated
      else .error (.singleActivePolicy (updated.countP (·.isActive)))

def seedBaselineOnce (platform : Platform) (rows : List StoredPolicy) (stamp : Stamp) :
    Except ConstitutionError (List StoredPolicy) :=
  if rows.length > 0 then .ok rows
  else do
    let baseline ← assertValidPolicy sentinelBaselinePolicy
    return rows ++ [storedAs platform baseline .active bootstrapAuthor (some stamp.now) stamp]

/-! ## The baseline is valid -/

namespace Policy

variable {policy : Policy}

/-- A policy without issues, in the order of its own lists. -/
theorem validate_eq_nil
    (hactions : ∀ entry ∈ policy.actions, policy.danglingIssues entry.1 = [])
    (hroles : ∀ entry ∈ policy.roles,
      ∀ action ∈ (lookup policy.roles entry.1).getD [], policy.grantIssues entry.1 action = [])
    (hcategories : ∀ entry ∈ policy.categories, policy.approvalIssues entry.1 = []) :
    policy.validate = [] := by
  have hdangling : (sortedKeys policy.actions).flatMap policy.danglingIssues = [] := by
    simpa [sortedKeys] using fun action categoryId h => hactions (action, categoryId) h
  have hgrants : ((sortedKeys policy.roles).flatMap fun role =>
      (JsText.sort ((lookup policy.roles role).getD [])).flatMap (policy.grantIssues role)) = [] := by
    simpa [sortedKeys] using fun role grants h => hroles (role, grants) h
  have happrovals : (sortedKeys policy.categories).flatMap policy.approvalIssues = [] := by
    simpa [sortedKeys] using fun categoryId category h => hcategories (categoryId, category) h
  rw [validate, hdangling, hgrants, happrovals]
  rfl

/-- Rules 4 and 5 find nothing in a category whose roles are all defined. -/
theorem approvalIssues_eq_nil {categoryId : String}
    (h : ∀ category, lookup policy.categories categoryId = some category →
      (category.approval = .none ∨ category.approvalRoles ≠ []) ∧
        ∀ role ∈ category.approvalRoles, has policy.roles role = true) :
    policy.approvalIssues categoryId = [] := by
  rw [approvalIssues]
  cases hlookup : lookup policy.categories categoryId with
  | none => rfl
  | some category =>
    obtain ⟨hsome, hdefined⟩ := h category hlookup
    have hempty : ¬ (category.approval ≠ .none ∧ category.approvalRoles = []) := by
      rintro ⟨hneeded, hnone⟩
      exact hsome.elim hneeded (fun h => h hnone)
    simp only [if_neg hempty, List.nil_append, List.flatMap_eq_nil_iff, JsText.mem_sort]
    intro role hrole
    rw [if_pos (hdefined role hrole)]

end Policy

/-- The certified baseline is a coherent constitution. -/
theorem validate_sentinelBaselinePolicy : sentinelBaselinePolicy.validate = [] := by
  refine Policy.validate_eq_nil (by decide +kernel) (by decide +kernel) fun entry hentry => ?_
  have hall : ∀ entry ∈ sentinelBaselinePolicy.categories,
      ∀ category ∈ lookup sentinelBaselinePolicy.categories entry.1,
        (category.approval = .none ∨ category.approvalRoles ≠ []) ∧
          ∀ role ∈ category.approvalRoles, has sentinelBaselinePolicy.roles role = true := by
    decide +kernel
  exact Policy.approvalIssues_eq_nil fun category hcategory => hall entry hentry category hcategory

end Sentinel.Constitution
