import Sentinel.Native.FieldOfflineReplay

/-! # Replay executor and domain service together

The domain call runs in no transaction of the executor and carries no claim
generation.  `DomainService` states what the executor relies on of the services
it calls; `recoveryStep` runs the executor against one of them, whose eligibility
state anyone may change in between. -/

namespace Sentinel.FieldOffline

structure DomainCall where
  principal : Principal
  siteScope : SiteScope
  operation : Operation
  downstreamIdempotencyKey : String

/-- A domain service with its own transaction and idempotency table.  `Choice` is
    what can go wrong inside one call, `Drift` what others do to the state its
    eligibility rules read. -/
structure DomainService where
  State : Type
  Choice : Type
  Drift : Type
  /-- How many effects have committed under a key. -/
  committed : State → String → Nat
  /-- The evidence row of a key, as the probe of the payload's kind reads it. -/
  evidence : State → Payload → String → Option DomainEvidence
  /-- Whether the eligibility rules would let this call through now. -/
  eligible : State → DomainCall → Bool
  call : State → DomainCall → Choice → State × DomainAnswer
  drift : State → Drift → State
  /-- The effect and its evidence row commit together. -/
  evidence_iff_committed : ∀ state payload key,
    (evidence state payload key).isSome ↔ 0 < committed state key
  /-- Eligibility is checked first, whatever the idempotency table says. -/
  ineligible_writes_nothing : ∀ state call' choice, eligible state call' = false →
    (call state call' choice).1 = state
  /-- A deterministic refusal wrote nothing. -/
  refused_writes_nothing : ∀ state call' choice status,
    (call state call' choice).2 = .httpException status →
    (deterministicRejectionStatus status).isSome → (call state call' choice).1 = state
  /-- A key commits at most once. -/
  committed_once : ∀ state call' choice, 0 < committed state call'.downstreamIdempotencyKey →
    committed (call state call' choice).1 call'.downstreamIdempotencyKey =
      committed state call'.downstreamIdempotencyKey
  /-- What has committed stays committed. -/
  committed_mono : ∀ state call' choice key,
    committed state key ≤ committed (call state call' choice).1 key
  /-- A call commits under its own key only. -/
  committed_frame : ∀ state call' choice key, key ≠ call'.downstreamIdempotencyKey →
    committed (call state call' choice).1 key = committed state key
  /-- What others do to eligibility commits nothing under a downstream key. -/
  committed_drift : ∀ state change key, committed (drift state change) key = committed state key

/-- The call `execute` makes for an attempt. -/
def Attempt.domainCall (env : Env) (attempt : Attempt) (submission : Submission) : DomainCall where
  principal := submission.principal
  siteScope := intersectSiteScope env submission.principal
    (requiredActionForKind submission.operation.operationKind)
  operation := submission.operation
  downstreamIdempotencyKey := attempt.receipt.downstreamIdempotencyKey

/-- The executor and one domain service. -/
structure RecoveryState (domain : DomainService) where
  central : State
  domain : domain.State

/-- A step of the executor and its domain.  Probes and calls are answered by the
    domain; every other move is the executor's own. -/
inductive RecoveryLabel (domain : DomainService)
  | central (label : Label)
  | probe (worker : Nat)
  | call (worker : Nat) (choice : domain.Choice)
  | drift (change : domain.Drift)

def Move.asksDomain : Move → Bool
  | .probe _ => true
  | .execute _ => true
  | _ => false

def Label.asksDomain : Label → Bool
  | .move _ next => next.asksDomain
  | .submit .. => false

/-- The attempt of a worker about to probe. -/
def Phase.probed : Phase → Option Attempt
  | .probing attempt => some attempt
  | _ => none

/-- The attempt of a worker about to call the domain. -/
def Phase.executed : Phase → Option Attempt
  | .executing attempt => some attempt
  | _ => none

/-- Execute one step of the executor and its domain. -/
def recoveryStep (env : Env) (domain : DomainService) (s : RecoveryState domain) :
    RecoveryLabel domain → Option (RecoveryState domain)
  | .central label =>
    if label.asksDomain then none
    else (step env s.central label).map fun central => { s with central := central }
  | .probe i =>
    match s.central.workers[i]? with
    | none => none
    | some worker =>
      match worker.phase.probed with
      | none => none
      | some attempt =>
        let evidence := domain.evidence s.domain worker.submission.operation.payload
          attempt.receipt.downstreamIdempotencyKey
        (step env s.central (.move i (.probe evidence))).map fun central =>
          { s with central := central }
  | .call i choice =>
    match s.central.workers[i]? with
    | none => none
    | some worker =>
      match worker.phase.executed with
      | none => none
      | some attempt =>
        let answered := domain.call s.domain (attempt.domainCall env worker.submission) choice
        (step env s.central (.move i (.execute answered.2))).map fun central =>
          { central := central, domain := answered.1 }
  | .drift change => some { s with domain := domain.drift s.domain change }

/-! ## One assignment as a domain -/

def allowedAssignmentTransitions : AssignmentStatus → List AssignmentStatus
  | .requested => [.accepted, .declined, .cancelled, .expired]
  | .accepted => [.inProgress, .cancelled, .expired]
  | .inProgress => [.completed, .cancelled]
  | .declined | .completed | .cancelled | .expired => []

structure AssignmentTable where
  id : String
  organisationId : String
  siteId : String
  assigneeUserId : String
  status : AssignmentStatus
  idempotencyKeys : List String

namespace AssignmentTable

variable (table : AssignmentTable)

/-- The lookup and the assignee rule, both ahead of the idempotency table. -/
def refusal (call : DomainCall) (assignmentId : String) : Option Nat :=
  if table.id ≠ assignmentId ∨ table.organisationId ≠ call.principal.organisationId ∨
      !(call.siteScope.orgWide || call.siteScope.siteIds.contains table.siteId) then some 404
  else if table.assigneeUserId ≠ call.principal.userId then some 403
  else none

/-- The expected-status rule and the transition table, behind it. -/
def admits (action : AssignmentAction) (payload : AssignmentTransitionPayload) : Bool :=
  table.status = payload.expectedStatus ∧
    (allowedAssignmentTransitions table.status).contains action.target

/-- `transitionAssignment` on the row: a duplicate and a no-op answer with the
    current row, an update writes the row and its idempotency key together. -/
def transition (call : DomainCall) (action : AssignmentAction)
    (payload : AssignmentTransitionPayload) : AssignmentTable × DomainAnswer :=
  match table.refusal call payload.assignmentId with
  | some status => (table, .httpException status)
  | none =>
    if table.idempotencyKeys.contains call.downstreamIdempotencyKey then
      (table, .view (.assignment table.id table.status))
    else if table.status = action.target then
      (table, .view (.assignment table.id table.status))
    else if !table.admits action payload then (table, .httpException 409)
    else
      ({ table with
          status := action.target
          idempotencyKeys := call.downstreamIdempotencyKey :: table.idempotencyKeys },
        .view (.assignment table.id action.target))

/-- A transition as its caller sees it: the transaction may be rolled back, or
    commit with its acknowledgement lost. -/
def call (call : DomainCall) (delivery : Delivery) : AssignmentTable × DomainAnswer :=
  match call.operation.payload with
  | .assignment action payload =>
    match delivery with
    | .acknowledged => table.transition call action payload
    | .rolledBack => (table, .fault)
    | .acknowledgementLost => ((table.transition call action payload).1, .fault)
  | _ => (table, .httpException 404)

/-- Whether a transition would pass every rule. -/
def eligible (call : DomainCall) : Bool :=
  match call.operation.payload with
  | .assignment action payload =>
    table.refusal call payload.assignmentId = none ∧ table.status ≠ action.target ∧
      table.admits action payload
  | _ => false

/-- The evidence row of a key. -/
def evidence (payload : Payload) (key : String) : Option DomainEvidence :=
  if table.idempotencyKeys.contains key then
    match payload with
    | .assignment _ _ => some .transition
    | .messageSend send => some (.send key send.incidentId send.recipientUserIds.length)
    | .messageAcknowledge _ => some .acknowledgement
  else none

/-- A transition without a view it could have committed under changes nothing. -/
theorem transition_of_not_admitted {table : AssignmentTable} {call : DomainCall}
    {action : AssignmentAction} {payload : AssignmentTransitionPayload}
    (h : ¬(table.refusal call payload.assignmentId = none ∧ table.status ≠ action.target ∧
      table.admits action payload = true)) : (table.transition call action payload).1 = table := by
  unfold transition
  split
  · rfl
  · rename_i hrefusal
    split
    · rfl
    · split
      · rfl
      · rename_i hstatus
        split
        · rfl
        · rename_i hadmits
          exact absurd ⟨hrefusal, hstatus, by simpa using hadmits⟩ h

/-- A transition writes nothing, or the first row under its key. -/
theorem transition_keys (call : DomainCall) (action : AssignmentAction)
    (payload : AssignmentTransitionPayload) :
    (table.transition call action payload).1 = table ∨
      call.downstreamIdempotencyKey ∉ table.idempotencyKeys ∧
        (table.transition call action payload).1.idempotencyKeys =
          call.downstreamIdempotencyKey :: table.idempotencyKeys := by
  unfold transition
  split
  · exact .inl rfl
  · split
    · exact .inl rfl
    · rename_i hkey
      split
      · exact .inl rfl
      · split
        · exact .inl rfl
        · exact .inr ⟨by simpa using hkey, rfl⟩

theorem call_keys (call : DomainCall) (delivery : Delivery) : (table.call call delivery).1 = table ∨
      call.downstreamIdempotencyKey ∉ table.idempotencyKeys ∧
        (table.call call delivery).1.idempotencyKeys =
          call.downstreamIdempotencyKey :: table.idempotencyKeys := by
  unfold AssignmentTable.call
  split
  · cases delivery with
    | acknowledged => exact transition_keys table call _ _
    | rolledBack => exact .inl rfl
    | acknowledgementLost => exact transition_keys table call _ _
  · exact .inl rfl

/-- A transition answered by an `HttpException` left the row alone. -/
theorem transition_of_httpException {table : AssignmentTable} {call : DomainCall}
    {action : AssignmentAction} {payload : AssignmentTransitionPayload} {status : Nat}
    (h : (table.transition call action payload).2 = .httpException status) :
    (table.transition call action payload).1 = table := by
  refine transition_of_not_admitted fun ⟨hrefusal, hstatus, hadmits⟩ => ?_
  unfold transition at h
  simp only [hrefusal, hstatus, hadmits] at h
  split at h <;> simp at h

theorem call_of_httpException {table : AssignmentTable} {call : DomainCall} {delivery : Delivery}
    {status : Nat} (h : (table.call call delivery).2 = .httpException status) :
    (table.call call delivery).1 = table := by
  unfold AssignmentTable.call at h ⊢
  split
  · rename_i hpayload
    simp only [hpayload] at h
    cases delivery with
    | acknowledged => exact transition_of_httpException h
    | rolledBack => rfl
    | acknowledgementLost => cases h
  · rfl

end AssignmentTable

/-- The assignment row as a domain service.  Others may reassign it and move its
    status at any time. -/
def assignmentDomain : DomainService where
  State := AssignmentTable
  Choice := Delivery
  Drift := String × AssignmentStatus
  committed := fun table key => table.idempotencyKeys.count key
  evidence := AssignmentTable.evidence
  eligible := AssignmentTable.eligible
  call := AssignmentTable.call
  drift := fun table change => { table with assigneeUserId := change.1, status := change.2 }
  evidence_iff_committed := fun table payload key => by
    unfold AssignmentTable.evidence
    split
    · rename_i hkey
      have hmem : key ∈ table.idempotencyKeys := by simpa using hkey
      cases payload <;> simp [List.count_pos_iff, hmem]
    · rename_i hkey
      have hmem : key ∉ table.idempotencyKeys := by simpa using hkey
      simp [List.count_eq_zero_of_not_mem hmem]
  ineligible_writes_nothing := fun table call delivery h => by
    unfold AssignmentTable.eligible at h
    unfold AssignmentTable.call
    split
    · rename_i hpayload
      simp only [hpayload, decide_eq_false_iff_not] at h
      cases delivery with
      | acknowledged => exact AssignmentTable.transition_of_not_admitted h
      | rolledBack => rfl
      | acknowledgementLost => exact AssignmentTable.transition_of_not_admitted h
    · rfl
  refused_writes_nothing := fun _ _ _ _ h _ => AssignmentTable.call_of_httpException h
  committed_once := fun table call delivery h => by
    rcases AssignmentTable.call_keys table call delivery with hsame | ⟨hnew, _⟩
    · rw [hsame]
    · exact absurd (List.count_pos_iff.mp h) hnew
  committed_mono := fun table call delivery key => by
    rcases AssignmentTable.call_keys table call delivery with hsame | ⟨_, hkeys⟩
    · simp only [hsame, Nat.le_refl]
    · rw [hkeys]
      exact List.count_le_count_cons
  committed_frame := fun table call delivery key hne => by
    rcases AssignmentTable.call_keys table call delivery with hsame | ⟨_, hkeys⟩
    · rw [hsame]
    · rw [hkeys, List.count_cons_of_ne hne.symm]
  committed_drift := fun _ _ _ => rfl

end Sentinel.FieldOffline
