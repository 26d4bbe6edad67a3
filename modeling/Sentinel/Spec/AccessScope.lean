import Sentinel.ForStd.Except
import Sentinel.Native.AccessGuard

/-! # Which scopes an admitted request names

The guard judges a request by the first organisation and the first site it finds, so an admission
covers the request for every caller only where each kind of scope is named once. -/

namespace Sentinel.AccessGuard

variable {request : Request} {keys : List String} {id : String}

/-! ## What a request names -/

def Value.identifiers : Value → List String
  | .text value => [value].filter (·.length > 0)
  | .array strings => strings.filter (·.length > 0)
  | .other => []

/-- The identifiers of a request under some names, wherever they stand. -/
def Request.identifiers (request : Request) (keys : List String) : List String :=
  request.sources.flatMap fun source => keys.flatMap fun key =>
    ((source key).map Value.identifiers).getD []

def Principal.Grants (principal : Principal) (action siteId : String) : Prop :=
  ∃ assignment ∈ principal.roles, roleHasAction assignment.role action = true ∧
    (assignment.siteId = none ∨ assignment.siteId = some siteId)

def Admits (principal : Principal) (required : RequiredActionMetadata) (request : Request) : Prop :=
  canActivate (some principal) request (some required) = .ok ()

/-- Every scope that the request names is the principal's. -/
def Covers (principal : Principal) (required : RequiredActionMetadata) (request : Request) : Prop :=
  (∀ id ∈ request.identifiers organisationParamKeys, id = principal.organisationId) ∧
    ∀ id ∈ request.identifiers siteParamKeys, principal.Grants required.action id

theorem siteAllowed_iff {siteId : Option String} :
    siteId.all (· = id) = true ↔ siteId = none ∨ siteId = some id := by
  cases siteId <;> simp

/-- What is admitted: each conjunct of the rule, on the first values found. -/
theorem admits_iff {principal : Principal} {required : RequiredActionMetadata} :
    Admits principal required request ↔
      (∃ assignment ∈ principal.roles, roleHasAction assignment.role required.action = true) ∧
      (∀ id, findRequestValue request organisationParamKeys = some id →
        id = principal.organisationId) ∧
      (∀ id, findRequestValue request siteParamKeys = some id →
        principal.Grants required.action id) ∧
      required.classification ≤ principal.clearance ∧
      (purposeRequiredFrom ≤ required.classification →
        ∃ purpose, request.purposeHeader.head? = some purpose ∧ (JsText.trim purpose).length ≠ 0) := by
  simp only [Admits, canActivate, Except.ite_error_eq_ok, and_true]
  refine and_congr ?_ (and_congr ?_ (and_congr ?_ (and_congr not_lt ?_)))
  · simp [List.filter_eq_nil_iff]
  · cases findRequestValue request organisationParamKeys <;> simp
  · cases findRequestValue request siteParamKeys with
    | none => simp
    | some id => simp [Principal.Grants, siteAllowed_iff, or_iff_not_imp_left]
  · cases request.purposeHeader.head? <;> simp

/-! ## Which requests are covered -/

/-- **No privilege by combination.**  Whom the guard admits, it admits for one of his assignments
alone. -/
theorem admits_iff_one {principal : Principal} {required : RequiredActionMetadata}
    {request : Request} : Admits principal required request ↔
      ∃ assignment ∈ principal.roles,
        Admits { principal with roles := [assignment] } required request := by
  simp only [admits_iff, Principal.Grants, List.mem_singleton, exists_eq_left]
  constructor
  · rintro ⟨⟨assignment, hmem, hgrants⟩, horganisation, hsite, hrest⟩
    cases hfind : findRequestValue request siteParamKeys with
    | none => exact ⟨assignment, hmem, hgrants, horganisation, nofun, hrest⟩
    | some id =>
      obtain ⟨other, hother, hgrants, hscope⟩ := hsite id hfind
      exact ⟨other, hother, hgrants, horganisation,
        fun _ heq => Option.some.inj heq ▸ ⟨hgrants, hscope⟩, hrest⟩
  · rintro ⟨assignment, hmem, hgrants, horganisation, hsite, hrest⟩
    exact ⟨⟨assignment, hmem, hgrants⟩, horganisation,
      fun id hfind => ⟨assignment, hmem, hsite id hfind⟩, hrest⟩

end Sentinel.AccessGuard
