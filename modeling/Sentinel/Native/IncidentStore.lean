import Sentinel.Native.Constitution
import Sentinel.Native.FusionService

/-! # The incident tables

The tables of the incidents domain and the repository's operations on them
(`modules/incidents/incidents.repository.ts`), each one transaction
of the database.  The keys the schema declares are fields, so that an insert that would
break one fails as the unique violation the code catches.  The update outbox mirrors the
timeline and is left out, as are the columns of the status workflow. -/

namespace Sentinel.Incidents

open Fusion (OperationalSeverity ThreatState)

/-! ## Rows -/

inductive ResponseMode
  | standard | silent
deriving DecidableEq

inductive DeliveryState
  | requested | delivered | acknowledged | executed | failed | unknown
deriving DecidableEq

def allowedDeliveryTransitions : DeliveryState → List DeliveryState
  | .requested => [.delivered, .failed, .unknown]
  | .delivered => [.acknowledged, .failed, .unknown]
  | .acknowledged => [.executed, .failed, .unknown]
  | .executed => []
  | .failed => [.requested]
  | .unknown => [.requested, .delivered, .acknowledged, .executed, .failed]

def canTransition (source target : DeliveryState) : Bool :=
  (allowedDeliveryTransitions source).contains target

/-- What opened an incident, `source_kind`. -/
inductive SourceKind
  | fusionHypothesis | whisperRecognition
deriving DecidableEq

inductive TaskType
  | preserveEvidence | notifyCommander | dispatchField
deriving DecidableEq

def playbookProofAV1 : String := "PB-PROOF-A@1"

/-- `CRITICAL_PLAYBOOK_SEVERITIES`. -/
def critical (severity : OperationalSeverity) : Bool := severity = .sev1 || severity = .sev2

structure IncidentRow where
  id : String
  hypothesisId : Option String
  incidentCandidateId : Option String
  sourceKind : SourceKind
  sourceRef : String
  organisationId : String
  siteId : String
  incidentType : String
  severity : OperationalSeverity
  threatState : ThreatState
  confidence : ℚ
  responseMode : ResponseMode
  relatedEventIds : List String
  supportingEventIds : List String
  contradictingEventIds : List String
  hypothesisUpdatedAt : Option Int
  hypothesisTriggeringEventId : Option String
  hypothesisVersion : Option Nat
  playbookVersion : Option String
  proofAStartedAt : Option Int
deriving DecidableEq

structure ResponseTaskRow where
  id : String
  incidentId : String
  taskType : TaskType
  playbookVersion : String
  deliveryState : DeliveryState
  evidenceSnapshotStartedAt : Option Int
  evidenceSnapshotId : Option String
  completedAt : Option Int
  acknowledgedAt : Option Int
  acknowledgedByUserId : Option String
deriving DecidableEq

structure SilentApprovalRow where
  taskId : String
  userId : String
  claimedRole : String
  approvedAt : Int
deriving DecidableEq

inductive TimelinePayload
  | incidentOpened (sourceKind : SourceKind) (sourceRef : String) (severity : OperationalSeverity)
  | hypothesisUpdated (hypothesisId : String) (sourceAt : Int) (threatState : ThreatState)
      (severity : OperationalSeverity) (playbookStarted : Bool)
  | silentApprovalRecorded (taskId : String) (claimedRole : String)
  | constitution (taskId : String) (action : String) (decision : Constitution.Decision)
      (traceId : String) (trace : List Constitution.TraceEntry)
      (approvals : List SilentApprovalRow)
  | fieldDispatchDelivered (taskId : String) (responseMode : ResponseMode) (destination : String)
  | fieldDispatchAcknowledged (taskId : String) (acknowledgedAt : Int)
  | evidenceSnapshotPreserved (taskId : String) (evidenceId : String)
  | evidenceSnapshotSkipped (taskId : String)
deriving DecidableEq

structure TimelineEntryRow where
  incidentId : String
  actorUserId : Option String
  payload : TimelinePayload

/-- The identity of an incident by its source, `incidents_source_identity_key`. -/
def IncidentRow.source (incident : IncidentRow) : String × SourceKind × String :=
  (incident.organisationId, incident.sourceKind, incident.sourceRef)

def ResponseTaskRow.slot (task : ResponseTaskRow) : String × TaskType :=
  (task.incidentId, task.taskType)

def SilentApprovalRow.key (approval : SilentApprovalRow) : String × String :=
  (approval.taskId, approval.userId)

/-- `SiteScope`: everywhere, or a list of sites. -/
structure SiteScope where
  orgWide : Bool
  siteIds : List String
deriving DecidableEq

def SiteScope.covers (scope : SiteScope) (siteId : String) : Bool :=
  scope.orgWide || scope.siteIds.contains siteId

structure Db where
  incidents : List IncidentRow
  tasks : List ResponseTaskRow
  silentApprovals : List SilentApprovalRow
  /-- The task ids of `response_dispatch_handoffs`. -/
  handoffs : List String
  timeline : List TimelineEntryRow
  incidents_id : (incidents.map (·.id)).Nodup
  incidents_hypothesis : (incidents.filterMap (·.hypothesisId)).Nodup
  incidents_source : (incidents.map (·.source)).Nodup
  tasks_id : (tasks.map (·.id)).Nodup
  tasks_slot : (tasks.map (·.slot)).Nodup
  silentApprovals_key : (silentApprovals.map (·.key)).Nodup
  handoffs_key : handoffs.Nodup

namespace Db

def empty : Db where
  incidents := []
  tasks := []
  silentApprovals := []
  handoffs := []
  timeline := []
  incidents_id := List.nodup_nil
  incidents_hypothesis := List.nodup_nil
  incidents_source := List.nodup_nil
  tasks_id := List.nodup_nil
  tasks_slot := List.nodup_nil
  silentApprovals_key := Table.nodup_nil_pair
  handoffs_key := List.nodup_nil

/-! ## Reads -/

variable (db : Db)

/-- `incident.findUnique` by id. -/
def findIncident (incidentId : String) : Option IncidentRow :=
  db.incidents.find? fun incident => incident.id = incidentId

/-- `incident.findUnique` by hypothesis. -/
def findByHypothesis (hypothesisId : String) : Option IncidentRow :=
  db.incidents.find? fun incident => incident.hypothesisId = some hypothesisId

def findForHypothesis (hypothesisId organisationId : String) : Option IncidentRow :=
  db.incidents.find? fun incident =>
    incident.hypothesisId = some hypothesisId ∧ incident.organisationId = organisationId

def findByWhisperRecognition (organisationId recognitionFingerprint : String) :
    Option IncidentRow :=
  db.incidents.find? fun incident =>
    incident.source = (organisationId, .whisperRecognition, recognitionFingerprint)

def findTaskById (taskId : String) : Option ResponseTaskRow :=
  db.tasks.find? fun task => task.id = taskId

def findTaskOfType (incidentId : String) (taskType : TaskType) : Option ResponseTaskRow :=
  db.tasks.find? fun task => task.slot = (incidentId, taskType)

/-- `findTask`: the task of the incident with its incident, within the caller's scope. -/
def findTask (incidentId taskId organisationId : String) (scope : SiteScope) :
    Option (ResponseTaskRow × IncidentRow) := do
  let task ← db.findTaskById taskId
  let incident ← db.findIncident task.incidentId
  if task.incidentId = incidentId ∧ incident.organisationId = organisationId ∧
      scope.covers incident.siteId then
    some (task, incident)
  else none

/-- `listSilentApprovals`, in the order they were given. -/
def listSilentApprovals (taskId : String) : List SilentApprovalRow :=
  (db.silentApprovals.filter fun approval => approval.taskId = taskId).insertionSort
    fun a b => a.approvedAt ≤ b.approvedAt

/-! ## Writes -/

/-- A new timeline entry. -/
def note (incidentId : String) (actorUserId : Option String) (payload : TimelinePayload) : Db :=
  { db with timeline := db.timeline ++ [⟨incidentId, actorUserId, payload⟩] }

/-- The insert of an incident; `none` is a unique violation. -/
def insertIncident (row : IncidentRow) : Option Db :=
  if h : (∀ old ∈ db.incidents, old.id ≠ row.id) ∧
      (∀ old ∈ db.incidents, old.source ≠ row.source) ∧
      (∀ id ∈ row.hypothesisId, ∀ old ∈ db.incidents, old.hypothesisId ≠ some id) then
    some { db with
      incidents := db.incidents ++ [row]
      incidents_id := Table.nodup_map_concat db.incidents_id h.1
      incidents_source := Table.nodup_map_concat db.incidents_source h.2.1
      incidents_hypothesis := Table.nodup_filterMap_concat db.incidents_hypothesis h.2.2 }
  else none

def updateIncidents (p : IncidentRow → Bool) (f : IncidentRow → IncidentRow)
    (hid : ∀ row, (f row).id = row.id) (hsource : ∀ row, (f row).source = row.source)
    (hhypothesis : ∀ row, (f row).hypothesisId = row.hypothesisId) : Db :=
  { db with
    incidents := Table.rewrite p f db.incidents
    incidents_id := Table.nodup_map_rewrite db.incidents_id hid
    incidents_source := Table.nodup_map_rewrite db.incidents_source hsource
    incidents_hypothesis := by
      rw [Table.filterMap_rewrite _ hhypothesis]
      exact db.incidents_hypothesis }

def insertTask (row : ResponseTaskRow) : Db :=
  if h : (∀ old ∈ db.tasks, old.id ≠ row.id) ∧ (∀ old ∈ db.tasks, old.slot ≠ row.slot) then
    { db with
      tasks := db.tasks ++ [row]
      tasks_id := Table.nodup_map_concat db.tasks_id h.1
      tasks_slot := Table.nodup_map_concat db.tasks_slot h.2 }
  else db

def updateTasks (p : ResponseTaskRow → Bool) (f : ResponseTaskRow → ResponseTaskRow)
    (hid : ∀ row, (f row).id = row.id) (hslot : ∀ row, (f row).slot = row.slot) : Db :=
  { db with
    tasks := Table.rewrite p f db.tasks
    tasks_id := Table.nodup_map_rewrite db.tasks_id hid
    tasks_slot := Table.nodup_map_rewrite db.tasks_slot hslot }

/-- The insert of an approval; `none` is a unique violation. -/
def insertSilentApproval (row : SilentApprovalRow) : Option Db :=
  if h : ∀ old ∈ db.silentApprovals, old.key ≠ row.key then
    some { db with
      silentApprovals := db.silentApprovals ++ [row]
      silentApprovals_key := Table.nodup_map_concat db.silentApprovals_key h }
  else none

/-- The insert of a hand-off; `none` is a unique violation. -/
def insertHandoff (taskId : String) : Option Db :=
  if h : taskId ∉ db.handoffs then
    some { db with
      handoffs := db.handoffs ++ [taskId]
      handoffs_key := by
        rw [← List.concat_eq_append, List.nodup_concat]
        exact ⟨h, db.handoffs_key⟩ }
  else none

/-! ## Opening an incident -/

/-- The transaction of `createFromCandidate` and of `createFromWhisperRecognition`: the
    row and its first timeline entry. -/
def openIncident (row : IncidentRow) : Option Db :=
  (db.insertIncident row).map fun db =>
    db.note row.id none (.incidentOpened row.sourceKind row.sourceRef row.severity)

/-! ## The playbook tasks -/

/-- A task as `createMany` inserts it. -/
def newTask (incidentId : String) (ids : TaskType → String) (taskType : TaskType) :
    ResponseTaskRow :=
  { id := ids taskType
    incidentId, taskType
    playbookVersion := playbookProofAV1
    deliveryState := .requested
    evidenceSnapshotStartedAt := none
    evidenceSnapshotId := none
    completedAt := none
    acknowledgedAt := none
    acknowledgedByUserId := none }

/-- The `createMany` of the three tasks, which skips duplicates. -/
def createProofATasks (incidentId : String) (ids : TaskType → String) : Db :=
  [TaskType.preserveEvidence, .notifyCommander, .dispatchField].foldl
    (fun db taskType => db.insertTask (newTask incidentId ids taskType)) db

def claimEvidenceSnapshot (taskId : String) (now : Int) : Db :=
  db.updateTasks (fun task => task.id = taskId ∧ task.evidenceSnapshotStartedAt = none)
    (fun task => { task with evidenceSnapshotStartedAt := some now }) (fun _ => rfl) fun _ => rfl

/-- `completeEvidenceSnapshot`; `none` throws. -/
def completeEvidenceSnapshot (taskId : String) (evidenceId : Option String) (now : Int) :
    Option Db := do
  let task ← db.findTaskById taskId
  if task.completedAt.isSome then some db
  else
    let db := db.updateTasks (fun task => task.id = taskId)
      (fun task => { task with evidenceSnapshotId := evidenceId, completedAt := some now })
      (fun _ => rfl) fun _ => rfl
    some (db.note task.incidentId none (match evidenceId with
      | some evidenceId => .evidenceSnapshotPreserved taskId evidenceId
      | none => .evidenceSnapshotSkipped taskId))

/-! ## Assessments -/

/-- The arguments of `advanceFromHypothesis`. -/
structure AdvanceInput where
  hypothesisId : String
  organisationId : String
  sourceAt : Int
  triggeringEventId : String
  hypothesisVersion : Nat
  state : ThreatState
  severity : OperationalSeverity
  confidence : ℚ
  supportingEventIds : List String
  contradictingEventIds : List String

/-- The row after a newer assessment. -/
def AdvanceInput.apply (input : AdvanceInput) (startedProofA : Bool) (row : IncidentRow) :
    IncidentRow :=
  { row with
    threatState := input.state
    severity := input.severity
    confidence := input.confidence
    supportingEventIds := input.supportingEventIds
    contradictingEventIds := input.contradictingEventIds
    relatedEventIds := (input.supportingEventIds ++ input.contradictingEventIds).eraseDups
    hypothesisUpdatedAt := some input.sourceAt
    hypothesisTriggeringEventId := some input.triggeringEventId
    hypothesisVersion := some input.hypothesisVersion
    playbookVersion := if startedProofA then some playbookProofAV1 else row.playbookVersion
    proofAStartedAt := if startedProofA then some input.sourceAt else row.proofAStartedAt }

/-- `isOlder || isDuplicate`. -/
def notNewer (current : IncidentRow) (version : Nat) : Bool :=
  current.hypothesisVersion.any fun stored => version ≤ stored

/-- `advanceFromHypothesis`: the incident afterwards and whether the playbook was
    started; `none` when there is nothing to advance. -/
def advanceFromHypothesis (input : AdvanceInput) (ids : TaskType → String) :
    Option (IncidentRow × Bool) × Db :=
  match db.findForHypothesis input.hypothesisId input.organisationId with
  | none => (none, db)
  | some current =>
    if notNewer current input.hypothesisVersion then (none, db)
    else
      let startedProofA := critical input.severity && current.proofAStartedAt.isNone
      let db := db.updateIncidents (fun row => row.id = current.id) (input.apply startedProofA)
        (fun _ => rfl) (fun _ => rfl) fun _ => rfl
      let db := if startedProofA then db.createProofATasks current.id ids else db
      let db := db.note current.id none (.hypothesisUpdated input.hypothesisId input.sourceAt
        input.state input.severity startedProofA)
      (some (input.apply startedProofA current, startedProofA), db)

/-! ## The dispatch -/

/-- `recordSilentApproval`: whether the approval is new; `none` throws. -/
def recordSilentApproval (taskId userId : String) (now : Int) : Option (Bool × Db) := do
  let task ← db.findTaskById taskId
  match db.insertSilentApproval ⟨taskId, userId, "site.commander", now⟩ with
  | none => some (false, db)
  | some db =>
    some (true,
      db.note task.incidentId (some userId) (.silentApprovalRecorded taskId "site.commander"))

/-- `recordConstitutionDecision`; `none` throws. -/
def recordConstitutionDecision (taskId : String) (payload : TimelinePayload) : Option Db := do
  let task ← db.findTaskById taskId
  some (db.note task.incidentId none payload)

/-- The transaction of `createLocalDispatchHandoff`. -/
inductive Handoff
  | accepted (task : Option ResponseTaskRow)
  | uniqueViolation
  | error

def createLocalDispatchHandoff (taskId : String) (responseMode : ResponseMode) : Handoff × Db :=
  match db.findTaskById taskId with
  | none => (.error, db)
  | some task =>
    match db.insertHandoff taskId with
    | none => (.uniqueViolation, db)
    | some inserted =>
      if task.deliveryState = .requested then
        let written := (inserted.updateTasks
          (fun task => task.id = taskId ∧ task.deliveryState = .requested)
          (fun task => { task with deliveryState := .delivered }) (fun _ => rfl) fun _ => rfl).note
            task.incidentId none (.fieldDispatchDelivered taskId responseMode
              "local:field-dispatch-inbox")
        (.accepted (written.findTaskById taskId), written)
      else
        -- the fence hits no row: the transaction, hand-off included, is rolled back
        (.error, db)

def acknowledgeTask (taskId actorUserId : String) (now : Int) : Option Db := do
  let task ← db.findTaskById taskId
  if task.deliveryState ≠ .delivered then none
  else
    some ((db.updateTasks (fun task => task.id = taskId)
      (fun task => { task with
        deliveryState := .acknowledged
        acknowledgedAt := some now
        acknowledgedByUserId := some actorUserId }) (fun _ => rfl) fun _ => rfl).note
          task.incidentId (some actorUserId) (.fieldDispatchAcknowledged taskId now))

end Db

end Sentinel.Incidents
