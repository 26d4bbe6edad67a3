import Sentinel.Native.ConstitutionService
import Sentinel.Native.DecisionLedger

/-! # The stored body of a policy

`modules/constitution` where it is about what a row holds: a draft as an object in memory, which may
have members that `Policy` does not name, the JSON that `policyBody` makes of it, what
`PolicyBodySchema` reads of that, and the hash over either (`constitution.hash.ts`).
`activatePolicy` and `reload` are one call each, and every awaited operation may fail. -/

namespace Sentinel.ConstitutionBody

open Utf16 (ascii)
open DecisionLedger (Text Json JsValue protoKey nullJson textArray canonicalJson)
open Constitution (ApprovalRequirement ActionCategory Policy PolicyValidationIssue PolicyStatus Stamp
  LoadedPolicy ActivatePolicyCommand DecisionRecordInput ConstitutionDecision Env evaluate
  activationRequest bootstrapAuthor sentinelBaselinePolicy)

/-- What the module takes from elsewhere. -/
structure Platform where
  text : Constitution.Text
  sha256Hex : Text → String

/-! ## A policy as an object -/

/-- An `ActionCategory` with whatever else its object has. -/
structure CategoryBody where
  approval : ApprovalRequirement
  description : Text
  approvalRoles : List Text
  requireRoleDiversity : Option Bool
  others : List (Text × JsValue)

/-- A `Policy` with whatever else its object has. -/
structure PolicyBody where
  version : Text
  categories : List (Text × CategoryBody)
  actions : List (Text × Text)
  roles : List (Text × List Text)
  prohibitedActions : List Text
  others : List (Text × JsValue)

def key (name : String) : Text := ascii name.toList

/-- The members that `ActionCategorySchema` names. -/
def categoryKeys : List Text :=
  [key "approval", key "description", key "approval_roles", key "require_role_diversity"]

/-- The members that `PolicyBodySchema` names. -/
def policyKeys : List Text :=
  [key "version", key "categories", key "actions", key "roles", key "prohibitedActions"]

def booleanValue (value : Bool) : JsValue := .literal (key (if value then "true" else "false"))

def CategoryBody.toJs (category : CategoryBody) : JsValue := .object
  ([(key "approval", .string (key category.approval.name)),
    (key "description", .string category.description),
    (key "approval_roles", textArray category.approvalRoles),
    (key "require_role_diversity", category.requireRoleDiversity.elim .absent booleanValue)] ++
    category.others)

variable (platform : Platform) (body : PolicyBody)

def PolicyBody.toJs : JsValue := .object
  ([(key "version", .string body.version),
    (key "categories", .object (body.categories.map (Prod.map id CategoryBody.toJs))),
    (key "actions", .object (body.actions.map (Prod.map id .string))),
    (key "roles", .object (body.roles.map (Prod.map id textArray))),
    (key "prohibitedActions", textArray body.prohibitedActions)] ++ body.others)

/-- The keys of an object are all different, the other members are none of those named, and what is
    written of it is JSON. -/
structure PolicyBody.IsObject (body : PolicyBody) : Prop where
  categories : (body.categories.map Prod.fst).Nodup
  actions : (body.actions.map Prod.fst).Nodup
  roles : (body.roles.map Prod.fst).Nodup
  others : (body.others.map Prod.fst).Nodup
  others_new : ∀ member ∈ body.others, member.1 ∉ policyKeys
  category_others : ∀ entry ∈ body.categories, (entry.2.others.map Prod.fst).Nodup
  category_others_new : ∀ entry ∈ body.categories, ∀ member ∈ entry.2.others,
    member.1 ∉ categoryKeys
  json : ∀ json, body.toJs.canonicalised = some json → json.Valid

/-- What `createDraft` can be called with. -/
structure Draft where
  body : PolicyBody
  isObject : body.IsObject

/-- Text as the evaluator has it: what the store keeps is well formed. -/
def asString (text : Text) : String := String.ofList (Utf16.chars text)

def CategoryBody.toCategory (category : CategoryBody) : ActionCategory where
  approval := category.approval
  description := asString category.description
  approvalRoles := category.approvalRoles.map asString
  requireRoleDiversity := category.requireRoleDiversity.getD false

def PolicyBody.toPolicy : Policy where
  version := asString body.version
  categories := body.categories.map (Prod.map asString CategoryBody.toCategory)
  actions := body.actions.map (Prod.map asString asString)
  roles := body.roles.map (Prod.map asString (List.map asString))
  prohibitedActions := body.prohibitedActions.map asString

/-- `policyBody`: `JSON.parse(JSON.stringify(policy))`. -/
def PolicyBody.policyBody : Json := body.toJs.stringified.getD nullJson

def PolicyBody.policyContentSha256 : String :=
  platform.sha256Hex (canonicalJson body.toJs)

/-! ## `PolicyBodySchema` -/

def member (members : List (Text × Json)) (name : String) : Option Json :=
  (members.find? fun member => member.1 = key name).map Prod.snd

/-- Each of the parts, or nothing. -/
def parseAll {α β : Type} (parse : α → Option β) : List α → Option (List β)
  | [] => some []
  | a :: as => do
    let b ← parse a
    let bs ← parseAll parse as
    return b :: bs

/-- `z.string().min(1)`. -/
def parseText : Json → Option Text
  | .string text => if text = [] then none else some text
  | _ => none

/-- `z.array(z.string().min(1))`. -/
def parseTexts : Json → Option (List Text)
  | .array elements => parseAll parseText elements
  | _ => none

/-- `z.record`: every member is parsed, and one named `__proto__` is left out. -/
def parseRecord {β : Type} (parse : Json → Option β) : Json → Option (List (Text × β))
  | .object members => do
    let entries ← parseAll (fun entry => (parse entry.2).map (entry.1, ·)) members
    return entries.filter fun entry => entry.1 ≠ protoKey
  | _ => none

/-- `z.enum(['NONE', 'ONE', 'TWO_PERSON'])`. -/
def parseApproval : Json → Option ApprovalRequirement
  | .string text => [.none, .one, .twoPerson].find? fun approval => text = key approval.name
  | _ => none

/-- `z.boolean().optional()`. -/
def parseDiversity : Option Json → Option (Option Bool)
  | none => some none
  | some (.literal lexeme) =>
    if lexeme = key "true" then some (some true)
    else if lexeme = key "false" then some (some false)
    else none
  | some _ => none

/-- `ActionCategorySchema`, which strips what it does not name. -/
def parseCategory : Json → Option CategoryBody
  | .object members => do
    let approval ← (member members "approval").bind parseApproval
    let description ← (member members "description").bind parseText
    let approvalRoles ← (member members "approval_roles").bind parseTexts
    let requireRoleDiversity ← parseDiversity (member members "require_role_diversity")
    return { approval, description, approvalRoles, requireRoleDiversity, others := [] }
  | _ => none

/-- `PolicyBodySchema`, which strips what it does not name. -/
def parseBody : Json → Option PolicyBody
  | .object members => do
    let version ← (member members "version").bind parseText
    let categories ← (member members "categories").bind (parseRecord parseCategory)
    let actions ← (member members "actions").bind (parseRecord parseText)
    let roles ← (member members "roles").bind (parseRecord parseTexts)
    let prohibitedActions ← (member members "prohibitedActions").bind parseTexts
    return { version, categories, actions, roles, prohibitedActions, others := [] }
  | _ => none

/-- What the store and the service throw. -/
inductive PolicyError
  /-- `PolicyShapeError`, without the texts of its issues. -/
  | policyShape
  | policyValidation (policyVersion : String) (issues : List PolicyValidationIssue)
  | versionTaken (version : String)
  | policyNotFound (version : String)
  | policyNotActivatable (version : String)
  | singleActivePolicy (activeCount : Nat)
  | noActivePolicy
  | policyIntegrity (message : String)
  | constitutionNotLoaded
  /-- An awaited operation was rejected. -/
  | rejected

def parsePolicy (body : Json) : Except PolicyError PolicyBody :=
  match parseBody body with
  | none => .error .policyShape
  | some parsed => .ok parsed

def assertValidPolicy (policy : Policy) : Except PolicyError Policy :=
  if policy.validate = [] then .ok policy
  else .error (.policyValidation policy.version policy.validate)

/-! ## Rows -/

structure StoredRow where
  id : String
  version : String
  body : Json
  contentSha256 : String
  status : PolicyStatus
  createdBy : String
  createdAt : Int
  activatedAt : Option Int

def StoredRow.isActive (row : StoredRow) : Bool := row.status = .active

def findActive (rows : List StoredRow) : Option StoredRow := rows.find? (·.isActive)

def findByVersion (rows : List StoredRow) (version : String) : Option StoredRow :=
  rows.find? (·.version = version)

/-- The row that a policy is first stored as. -/
def storedAs (status : PolicyStatus) (createdBy : String)
    (activatedAt : Option Int) (stamp : Stamp) : StoredRow where
  id := stamp.id
  version := asString body.version
  body := body.policyBody
  contentSha256 := body.policyContentSha256 platform
  status
  createdBy
  createdAt := stamp.now
  activatedAt

def createDraft (rows : List StoredRow) (policy : Draft) (createdBy : String)
    (stamp : Stamp) : Except PolicyError (List StoredRow) := do
  let _ ← assertValidPolicy policy.body.toPolicy
  if (findByVersion rows (asString policy.body.version)).isSome then
    throw (.versionTaken (asString policy.body.version))
  return rows ++ [storedAs platform policy.body .draft createdBy none stamp]

/-- `updateMany({ where: { status: 'active', version: { not: version } } })`. -/
def retireOthers (version : String) (rows : List StoredRow) : List StoredRow :=
  rows.map fun row =>
    if row.isActive ∧ row.version ≠ version then { row with status := .retired } else row

/-- `update({ where: { version } })`. -/
def makeActive (version : String) (now : Int) (rows : List StoredRow) : List StoredRow :=
  rows.map fun row =>
    if row.version = version then { row with status := .active, activatedAt := some now } else row

def activate (rows : List StoredRow) (version : String) (now : Int) :
    Except PolicyError (List StoredRow) :=
  match findByVersion rows version with
  | none => .error (.policyNotFound version)
  | some target =>
    if target.status = .retired then .error (.policyNotActivatable version)
    else
      let updated :=
        if target.isActive then rows else makeActive version now (retireOthers version rows)
      if updated.countP (·.isActive) = 1 then .ok updated
      else .error (.singleActivePolicy (updated.countP (·.isActive)))

/-- `SENTINEL_BASELINE_POLICY` as an object. -/
def baselineBody : PolicyBody where
  version := Utf16.units sentinelBaselinePolicy.version
  categories := sentinelBaselinePolicy.categories.map fun entry =>
    (Utf16.units entry.1,
      ⟨entry.2.approval, Utf16.units entry.2.description, entry.2.approvalRoles.map Utf16.units,
        none, []⟩)
  actions := sentinelBaselinePolicy.actions.map (Prod.map Utf16.units Utf16.units)
  roles := sentinelBaselinePolicy.roles.map (Prod.map Utf16.units (List.map Utf16.units))
  prohibitedActions := sentinelBaselinePolicy.prohibitedActions.map Utf16.units
  others := []

def seedBaselineOnce (rows : List StoredRow) (stamp : Stamp) :
    Except PolicyError (List StoredRow) :=
  if rows.length > 0 then .ok rows
  else do
    let _ ← assertValidPolicy baselineBody.toPolicy
    return rows ++ [storedAs platform baselineBody .active bootstrapAuthor (some stamp.now) stamp]

/-! ## The service -/

def loadStored (stored : StoredRow) : Except PolicyError LoadedPolicy := do
  let parsed ← parsePolicy stored.body
  let policy ← assertValidPolicy parsed.toPolicy
  let recomputed := parsed.policyContentSha256 platform
  if recomputed ≠ stored.contentSha256 then
    throw (.policyIntegrity
      (s!"Stored content hash for policy '{stored.version}' is {stored.contentSha256} but the " ++
        s!"stored body hashes to {recomputed}; the policy row has been altered outside the " ++
        "Constitution."))
  if policy.version ≠ stored.version then
    throw (.policyIntegrity
      s!"Policy row '{stored.version}' holds a body declaring version '{policy.version}'.")
  return { policy, version := stored.version, contentSha256 := stored.contentSha256
           createdBy := stored.createdBy, activatedAt := stored.activatedAt }

/-- How an awaited operation ends; a lost one has taken effect, and its answer does not arrive. -/
inductive Fate
  | done | rejected | lost
deriving DecidableEq

/-- The ends of the operations that `activatePolicy` awaits, in their order. -/
structure Fates where
  append : Fate
  lookUp : Fate
  commit : Fate
  seed : Fate
  read : Fate

/-- The tables, and what the instance has loaded. -/
structure Service where
  rows : List StoredRow
  ledger : List DecisionRecordInput
  loaded : Option LoadedPolicy

def reload (s : Service) (stamp : Stamp) (seed read : Fate) :
    Service × Except PolicyError LoadedPolicy :=
  if seed = .rejected then (s, .error .rejected)
  else
    match seedBaselineOnce platform s.rows stamp with
    | .error error => (s, .error error)
    | .ok rows =>
      if seed = .lost ∨ read ≠ .done then ({ s with rows }, .error .rejected)
      else
        match findActive rows with
        | none => ({ s with rows }, .error .noActivePolicy)
        | some stored =>
          match loadStored platform stored with
          | .error error => ({ s with rows }, .error error)
          | .ok loaded => ({ s with rows, loaded := some loaded }, .ok loaded)

structure ActivationResult where
  activated : Bool
  decision : ConstitutionDecision
  active : LoadedPolicy

/-- `activatePolicy` from its gate on: the candidate, the transaction and the reload. -/
def activateCandidate (s : Service) (command : ActivatePolicyCommand)
    (decision : ConstitutionDecision) (env : Env) (fates : Fates) :
    Service × Except PolicyError ActivationResult :=
  if fates.lookUp ≠ .done then (s, .error .rejected)
  else
    match findByVersion s.rows command.version with
    | none => (s, .error (.policyNotFound command.version))
    | some candidateRow =>
      match parsePolicy candidateRow.body >>= fun parsed => assertValidPolicy parsed.toPolicy with
      | .error error => (s, .error error)
      | .ok _ =>
        if fates.commit = .rejected then (s, .error .rejected)
        else
          match activate s.rows command.version env.stamp.now with
          | .error error => (s, .error error)
          | .ok rows =>
            if fates.commit = .lost then ({ s with rows }, .error .rejected)
            else
              let reloaded := reload platform { s with rows } env.stamp fates.seed fates.read
              (reloaded.1, reloaded.2.map fun active => ⟨true, decision, active⟩)

def activatePolicy (s : Service) (command : ActivatePolicyCommand) (env : Env)
    (fates : Fates) : Service × Except PolicyError ActivationResult :=
  match s.loaded with
  | none => (s, .error .constitutionNotLoaded)
  | some loaded =>
    let request := activationRequest command
    let decision := evaluate platform.text request loaded.policy
    let record : DecisionRecordInput :=
      { request, decision, policyContentSha256 := loaded.contentSha256, entryId := env.entryId
        decidedAt := env.stamp.now, traceId := command.traceId.getD env.traceId }
    if fates.append = .rejected then (s, .error .rejected)
    else
      let s := { s with ledger := s.ledger ++ [record] }
      if fates.append = .lost then (s, .error .rejected)
      else if decision.decision ≠ .allow then (s, .ok ⟨false, decision, loaded⟩)
      else activateCandidate platform s command decision env fates

end Sentinel.ConstitutionBody
