import Sentinel.Native.IncidentStore

/-! # The incidents service

`IncidentsService` (`modules/incidents/incidents.service.ts`): the two Fusion consumers, the silent
approvals, the acknowledgement and the Whisper entry, all of which meet in the playbook `runProofA`
and its field dispatch.  A worker moves one statement or one transaction at a time, and may fail or
die at any of them; a redelivery is a new call.  Reading the detail view and publishing it, which
end every call, are left out. -/

namespace Sentinel.Incidents

open Fusion (OperationalSeverity ThreatState)
open Constitution (Policy Text)

/-! ## Messages -/

/-- `IncidentCandidateMessage` as it is received. -/
structure Candidate extends Fusion.IncidentCandidateMessage where
  emittedAt : Int
deriving DecidableEq

/-- The members of the hypothesis view that the consumer keeps. -/
structure HypothesisView where
  hypothesisId : String
  organisationId : String
  siteId : String
  state : ThreatState
  operationalSeverity : OperationalSeverity
  threatProbability : ℚ
  supportingEventIds : List String
  contradictingEventIds : List String
deriving DecidableEq

/-- The message of `handleHypothesisUpdate`. -/
structure HypothesisUpdate where
  triggeringEventId : String
  hypothesisVersion : Nat
  emittedAt : Int
  hypothesis : HypothesisView
deriving DecidableEq

def hypothesisView (row : Fusion.HypothesisRow) : HypothesisView :=
  { hypothesisId := row.id
    organisationId := row.organisationId
    siteId := row.siteId
    state := row.state
    operationalSeverity := row.operationalSeverity
    threatProbability := row.threatProbability
    supportingEventIds := row.supportingEventIds
    contradictingEventIds := row.contradictingEventIds }

/-- `OpenWhisperSilentIncidentInput`, without the trace id. -/
structure WhisperInput where
  organisationId : String
  siteId : String
  recognitionFingerprint : String
  confidence : ℚ
deriving DecidableEq

def responseModeForCandidate (candidate : Candidate) : ResponseMode :=
  let flags := candidate.ruleOrModelVersions.flatMap JsText.words
  if flags.contains "coercion".toList || flags.contains "duress".toList then .silent
  else .standard

/-! ## The rows and arguments the service builds -/

/-- The row of `createFromCandidate`. -/
def candidateRow (candidate : Candidate) (id : String) : IncidentRow :=
  { id
    hypothesisId := some candidate.hypothesisId
    incidentCandidateId := some candidate.incidentCandidateId
    sourceKind := .fusionHypothesis
    sourceRef := candidate.hypothesisId
    organisationId := candidate.organisationId
    siteId := candidate.siteId
    incidentType := "fusion.hypothesis"
    severity := candidate.operationalSeverity
    threatState := candidate.threatState
    confidence := candidate.threatProbability
    responseMode := responseModeForCandidate candidate
    relatedEventIds :=
      (candidate.supportingEventIds ++ candidate.contradictingEventIds).eraseDups
    supportingEventIds := candidate.supportingEventIds.eraseDups
    contradictingEventIds := candidate.contradictingEventIds.eraseDups
    hypothesisUpdatedAt := some candidate.emittedAt
    hypothesisTriggeringEventId := none
    hypothesisVersion := some candidate.hypothesisVersion
    playbookVersion := if critical candidate.operationalSeverity then some playbookProofAV1 else none
    proofAStartedAt := none }

/-- The row of `createFromWhisperRecognition`. -/
def whisperRow (input : WhisperInput) (id : String) (now : Int) : IncidentRow :=
  { id
    hypothesisId := none
    incidentCandidateId := none
    sourceKind := .whisperRecognition
    sourceRef := input.recognitionFingerprint
    organisationId := input.organisationId
    siteId := input.siteId
    incidentType := "whisper.device-action"
    severity := .sev2
    threatState := 2
    confidence := input.confidence
    responseMode := .silent
    relatedEventIds := []
    supportingEventIds := []
    contradictingEventIds := []
    hypothesisUpdatedAt := none
    hypothesisTriggeringEventId := none
    hypothesisVersion := none
    playbookVersion := some playbookProofAV1
    proofAStartedAt := some now }

/-- The arguments `handleHypothesisUpdate` advances with. -/
def HypothesisUpdate.advanceInput (message : HypothesisUpdate) : Db.AdvanceInput :=
  { hypothesisId := message.hypothesis.hypothesisId
    organisationId := message.hypothesis.organisationId
    sourceAt := message.emittedAt
    triggeringEventId := message.triggeringEventId
    hypothesisVersion := message.hypothesisVersion
    state := message.hypothesis.state
    severity := message.hypothesis.operationalSeverity
    confidence := message.hypothesis.threatProbability
    supportingEventIds := message.hypothesis.supportingEventIds.eraseDups
    contradictingEventIds := message.hypothesis.contradictingEventIds.eraseDups }

def differsFromCandidate (latest : Fusion.HypothesisRow) (candidate : Candidate) : Bool :=
  latest.state ≠ candidate.threatState ||
    latest.operationalSeverity ≠ candidate.operationalSeverity ||
    latest.threatProbability ≠ candidate.threatProbability ||
    String.intercalate "\x00" latest.supportingEventIds ≠
      String.intercalate "\x00" candidate.supportingEventIds ||
    String.intercalate "\x00" latest.contradictingEventIds ≠
      String.intercalate "\x00" candidate.contradictingEventIds

/-- The update `handleCandidate` catches up with, given the Fusion row and the instant it
    was last written. -/
def catchUp (candidate : Candidate) (latest : Fusion.HypothesisRow) (updatedAt : Int) :
    Option HypothesisUpdate :=
  if candidate.hypothesisVersion < latest.version ∨
      (latest.version = candidate.hypothesisVersion ∧ differsFromCandidate latest candidate) then
    some
      { triggeringEventId := "candidate-catchup:" ++ JsText.toISOString updatedAt
        emittedAt := updatedAt
        hypothesisVersion := latest.version
        hypothesis := hypothesisView latest }
  else none

/-! ## The dispatch gate -/

def silentDispatchAction : String := "response.dispatch.silent"

def standardDispatchAction : String := "response.dispatch.standard"

def ResponseMode.action : ResponseMode → String
  | standard => standardDispatchAction
  | silent => silentDispatchAction

/-- `responseMode.toLowerCase()`. -/
def ResponseMode.text : ResponseMode → String
  | standard => "standard"
  | silent => "silent"

/-- A constitution in force: one that keeps silent dispatch under two-person control, as
    the baseline does. -/
structure ActivePolicy where
  policy : Policy
  silentTwoPerson : policy.requirement silentDispatchAction = .twoPerson

def baselinePolicy : ActivePolicy :=
  { policy := Constitution.sentinelBaselinePolicy
    silentTwoPerson := by decide +kernel }

/-- The request a dispatch is evaluated on.  `runProofA` passes no approvals. -/
def dispatchRequest (mode : ResponseMode) (organisationId siteId : String)
    (approvals : List SilentApprovalRow) : Constitution.Request :=
  { action := mode.action
    actor :=
      { userId := "system:incident-response"
        roles := ["system.response"]
        organisationId
        clearance := some 5
        purpose := some (mode.text ++ "-response-dispatch")
        deviceTrust := .trusted }
    target :=
      { organisationId
        siteId := some siteId
        classification := .sensitive
        classificationLevel := some 2 }
    approvals := approvals.map fun approval =>
      { userId := approval.userId
        role := approval.claimedRole
        givenAt := JsText.toISOString approval.approvedAt }
    approverRoles := approvals.map fun approval => (approval.userId, ["site.commander"]) }

/-! ## Calls in progress -/

inductive Call
  | handleCandidate (candidate : Candidate)
  | handleHypothesisUpdate (message : HypothesisUpdate)
  | approveSilentDispatch (organisationId incidentId taskId actorUserId : String)
      (scope : SiteScope)
  | acknowledge (organisationId incidentId taskId actorUserId : String) (scope : SiteScope)
  | openWhisperSilentIncident (input : WhisperInput)
deriving DecidableEq

/-- The arguments of `runProofA`. -/
structure ProofA where
  incidentId : String
  organisationId : String
  siteId : String
  responseMode : ResponseMode
  supportingEventIds : List String
  contradictingEventIds : List String
deriving DecidableEq

/-- The arguments, with the mode from where the caller takes it. -/
def IncidentRow.proofA (incident : IncidentRow) (responseMode : ResponseMode) : ProofA :=
  { incidentId := incident.id
    organisationId := incident.organisationId
    siteId := incident.siteId
    responseMode
    supportingEventIds := incident.supportingEventIds
    contradictingEventIds := incident.contradictingEventIds }

/-- Where a call stands. -/
inductive Phase
  | start
  -- opening the incident
  | existing
  | latest (incident : IncidentRow)
  -- `handleHypothesisUpdate`
  | find (message : HypothesisUpdate)
  | advance (message : HypothesisUpdate)
  | reread (message : HypothesisUpdate)
  -- `runProofA`
  | tasks (proof : ProofA)
  | readTasks (proof : ProofA)
  | claimEvidence (proof : ProofA) (preserve dispatch : ResponseTaskRow)
  | snapshot (proof : ProofA) (preserve dispatch : ResponseTaskRow)
  | completeEvidence (proof : ProofA) (preserve dispatch : ResponseTaskRow)
      (evidenceId : Option String)
  | evaluate (proof : ProofA) (dispatch : ResponseTaskRow)
  -- `approveSilentDispatch`
  | recordApproval (task : ResponseTaskRow) (incident : IncidentRow)
  | listApprovals (task : ResponseTaskRow) (incident : IncidentRow)
  | evaluateApprovals (task : ResponseTaskRow) (incident : IncidentRow)
      (approvals : List SilentApprovalRow)
  -- the verdict and the hand-off
  | decided (taskId : String) (mode : ResponseMode) (decision : Constitution.Decision)
      (payload : TimelinePayload)
  | handoff (taskId : String) (mode : ResponseMode)
  | handoffExisting (taskId : String)
  -- `acknowledge`
  | acknowledgeTask (task : ResponseTaskRow)
  | acknowledgeReread
  -- the call has returned, or thrown or died
  | returned
  | failed
deriving DecidableEq

structure Worker where
  call : Call
  phase : Phase
deriving DecidableEq

/-- The choices of the environment in one step: the clock, the ids the database
    generates, the evidence item the snapshot is preserved as, the Fusion row, and the
    constitution in force. -/
structure Env where
  now : Int := 0
  id : String := ""
  taskIds : TaskType → String := fun _ => ""
  evidenceId : String := ""
  latest : Option (Fusion.HypothesisRow × Int) := none
  policy : ActivePolicy := baselinePolicy

/-- After the incident of a candidate is there: a critical one runs the playbook in the
    candidate's own mode, any other looks for a newer assessment. -/
def afterCandidate (candidate : Candidate) (incident : IncidentRow) : Phase :=
  if critical incident.severity then
    .tasks (incident.proofA (responseModeForCandidate candidate))
  else .latest incident

section Steps

variable (text : Text)

/-- The evaluation of a dispatch, and the entry that records it. -/
def judge (policy : ActivePolicy) (taskId organisationId siteId : String)
    (mode : ResponseMode) (approvals : List SilentApprovalRow) (traceId : String) : Phase :=
  let decision :=
    Constitution.evaluate text (dispatchRequest mode organisationId siteId approvals) policy.policy
  .decided taskId mode decision.decision
    (.constitution taskId mode.action decision.decision traceId decision.trace approvals)

/-- The next step of a call; `none` when it is over. -/
def Worker.advance (db : Db) (env : Env) (worker : Worker) : Option (Db × Phase) :=
  match worker.phase with
  | .start =>
    match worker.call with
    | .handleCandidate candidate =>
      let row := candidateRow candidate env.id
      match db.openIncident row with
      | some db => some (db, afterCandidate candidate row)
      | none => some (db, .existing)
    | .handleHypothesisUpdate message => some (db, .find message)
    | .approveSilentDispatch organisationId incidentId taskId _ scope =>
      match db.findTask incidentId taskId organisationId scope with
      | some (task, incident) =>
        if task.taskType = .dispatchField ∧ incident.responseMode = .silent then
          some (db, .recordApproval task incident)
        else some (db, .failed)
      | none => some (db, .failed)
    | .acknowledge organisationId incidentId taskId _ scope =>
      match db.findTask incidentId taskId organisationId scope with
      | some (task, _) =>
        if task.taskType ≠ .dispatchField then some (db, .failed)
        else if task.deliveryState = .acknowledged then some (db, .returned)
        else if canTransition task.deliveryState .acknowledged then
          some (db, .acknowledgeTask task)
        else some (db, .failed)
      | none => some (db, .failed)
    | .openWhisperSilentIncident input =>
      let row := whisperRow input env.id env.now
      match db.openIncident row with
      | some db => some (db, .tasks (row.proofA .silent))
      | none => some (db, .existing)
  | .existing =>
    match worker.call with
    | .handleCandidate candidate =>
      match db.findByHypothesis candidate.hypothesisId with
      | some incident => some (db, afterCandidate candidate incident)
      | none => some (db, .failed)
    | .openWhisperSilentIncident input =>
      match db.findByWhisperRecognition input.organisationId input.recognitionFingerprint with
      | some incident => some (db, .tasks (incident.proofA .silent))
      | none => some (db, .failed)
    | _ => none
  | .latest _ =>
    match worker.call with
    | .handleCandidate candidate =>
      match env.latest with
      | some (latest, updatedAt) =>
        match catchUp candidate latest updatedAt with
        | some message => some (db, .find message)
        | none => some (db, .returned)
      | none => some (db, .returned)
    | _ => none
  | .find message =>
    match db.findForHypothesis message.hypothesis.hypothesisId message.hypothesis.organisationId with
    | some _ => some (db, .advance message)
    | none => some (db, .failed)
  | .advance message =>
    match db.advanceFromHypothesis message.advanceInput env.taskIds with
    | (none, db) => some (db, .reread message)
    | (some (incident, startedProofA), db) =>
      if startedProofA then some (db, .tasks (incident.proofA incident.responseMode))
      else some (db, .returned)
  | .reread message =>
    match db.findForHypothesis message.hypothesis.hypothesisId message.hypothesis.organisationId with
    | some incident =>
      if incident.proofAStartedAt.isSome ∧ critical incident.severity then
        some (db, .tasks (incident.proofA incident.responseMode))
      else some (db, .returned)
    | none => some (db, .returned)
  | .tasks proof => some (db.createProofATasks proof.incidentId env.taskIds, .readTasks proof)
  | .readTasks proof =>
    match db.findTaskOfType proof.incidentId .preserveEvidence,
        db.findTaskOfType proof.incidentId .notifyCommander,
        db.findTaskOfType proof.incidentId .dispatchField with
    | some preserve, some _, some dispatch =>
      if preserve.completedAt.isSome then some (db, .evaluate proof dispatch)
      else some (db, .claimEvidence proof preserve dispatch)
    | _, _, _ => some (db, .failed)
  | .claimEvidence proof preserve dispatch =>
    let db := db.claimEvidenceSnapshot preserve.id env.now
    if (proof.supportingEventIds ++ proof.contradictingEventIds).eraseDups.length > 0 then
      some (db, .snapshot proof preserve dispatch)
    else some (db, .completeEvidence proof preserve dispatch none)
  | .snapshot proof preserve dispatch =>
    some (db, .completeEvidence proof preserve dispatch (some env.evidenceId))
  | .completeEvidence proof preserve dispatch evidenceId =>
    match db.completeEvidenceSnapshot preserve.id evidenceId env.now with
    | some db => some (db, .evaluate proof dispatch)
    | none => some (db, .failed)
  | .evaluate proof dispatch =>
    if dispatch.deliveryState = .requested then
      some (db, judge text env.policy dispatch.id proof.organisationId proof.siteId
        proof.responseMode []
        ("incident:" ++ proof.incidentId ++ ":task:" ++ dispatch.id ++ ":dispatch:" ++
          proof.responseMode.text))
    else some (db, .returned)
  | .recordApproval task incident =>
    match worker.call with
    | .approveSilentDispatch _ _ _ actorUserId _ =>
      match db.recordSilentApproval task.id actorUserId env.now with
      | none => some (db, .failed)
      | some (created, db) =>
        if !created then some (db, .returned)
        else if task.deliveryState = .requested then some (db, .listApprovals task incident)
        else some (db, .returned)
    | _ => none
  | .listApprovals task incident =>
    some (db, .evaluateApprovals task incident (db.listSilentApprovals task.id))
  | .evaluateApprovals task incident approvals =>
    some (db, judge text env.policy task.id incident.organisationId incident.siteId .silent
      approvals
      ("incident:" ++ incident.id ++ ":task:" ++ task.id ++ ":dispatch:silent:approval-count:" ++
        toString approvals.length))
  | .decided taskId mode decision payload =>
    match db.recordConstitutionDecision taskId payload with
    | none => some (db, .failed)
    | some db =>
      if decision = .allow then some (db, .handoff taskId mode) else some (db, .returned)
  | .handoff taskId mode =>
    match db.createLocalDispatchHandoff taskId mode with
    | (.accepted task, db) =>
      if task.any fun task => task.deliveryState = .delivered then some (db, .returned)
      else some (db, .failed)
    | (.uniqueViolation, db) => some (db, .handoffExisting taskId)
    | (.error, db) => some (db, .failed)
  | .handoffExisting taskId =>
    if (db.findTaskById taskId).any fun task => task.deliveryState = .delivered then
      some (db, .returned)
    else some (db, .failed)
  | .acknowledgeTask task =>
    match worker.call with
    | .acknowledge _ _ _ actorUserId _ =>
      match db.acknowledgeTask task.id actorUserId env.now with
      | some db => some (db, .returned)
      | none => some (db, .acknowledgeReread)
    | _ => none
  | .acknowledgeReread =>
    match worker.call with
    | .acknowledge organisationId incidentId taskId _ scope =>
      match db.findTask incidentId taskId organisationId scope with
      | some (task, _) =>
        if task.deliveryState = .acknowledged then some (db, .returned) else some (db, .failed)
      | none => some (db, .failed)
    | _ => none
  | .returned | .failed => none

/-! ## The system -/

structure State where
  db : Db
  workers : List Worker

def State.init : State := { db := .empty, workers := [] }

inductive Label
  | call (call : Call)
  | advance (worker : Nat) (env : Env)
  | fail (worker : Nat)

/-- A call that is not over. -/
def Worker.running (worker : Worker) : Bool := worker.phase ≠ .returned ∧ worker.phase ≠ .failed

/-- One step of the system: a call comes in, a worker moves, or its process dies or its
    next statement throws. -/
def step (s : State) : Label → Option State
  | .call call => some { s with workers := s.workers ++ [⟨call, .start⟩] }
  | .advance i env => do
    let worker ← s.workers[i]?
    let (db, phase) ← worker.advance text s.db env
    some { db, workers := s.workers.set i { worker with phase } }
  | .fail i => do
    let worker ← s.workers[i]?
    if worker.running then
      some { s with workers := s.workers.set i { worker with phase := .failed } }
    else none

end Steps

end Sentinel.Incidents
