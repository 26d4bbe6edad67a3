import Sentinel.ForStd.Table
import Sentinel.Native.CanonicalJson
import Sentinel.Native.PatrolTiming

/-! # Patrols

The tables of `prisma/schema/patrol.prisma`, the transactions of `PatrolRepository` and what
`PatrolService` checks before them (`modules/patrol`).  The rows that a foreign key hangs under a
route or a run are held in it.  A transaction is one step; the role of the operative is read in a
step of its own.  Trace ids, and the audit, the timeline and the outbox, which are only written, are
left out. -/

namespace Sentinel.Patrol

open CanonicalJson (Json canonicalJson)

/-! ## The tables -/

structure CheckpointDefinition where
  name : String
  zoneId : Option String
  location : Option Json
  offsets : Offsets

/-- A row of `patrol_checkpoints`. -/
structure CheckpointRow where
  id : String
  sequenceNumber : Nat
  name : String
  zoneId : Option String
  location : Option Json
  offsets : Offsets

/-- A row of `patrol_route_versions`, with its checkpoints in the order of their numbers. -/
structure RouteVersion where
  version : Nat
  publishedByUserId : String
  idempotencyKey : String
  checkpoints : List CheckpointRow

/-- A row of `patrol_routes`, with its versions. -/
structure Route where
  id : String
  organisationId : String
  siteId : String
  name : String
  currentVersion : Nat
  createdByUserId : String
  idempotencyKey : String
  versions : List RouteVersion

/-- A row of `patrol_run_checkpoints`. -/
structure RunCheckpoint where
  id : String
  patrolCheckpointId : String
  sequenceNumber : Nat
  window : CheckpointWindow
  state : CheckpointState
  resolvedAt : Option Int
  verificationId : Option String

/-- A row of `patrol_checkpoint_verifications`; its site, route and version are the run's. -/
structure Verification where
  id : String
  patrolRunCheckpointId : String
  patrolCheckpointId : String
  operativeUserId : String
  deviceId : String
  verificationMethod : String
  verificationContext : Json
  sourceAt : Int
  recordedAt : Int
  idempotencyKey : String

/-- The actions recorded in `patrol_run_action_idempotency`. -/
inductive RunAction
  | start | cancel | abandon
deriving DecidableEq

/-- A row of `patrol_run_action_idempotency`. -/
structure ActionRow where
  actorUserId : String
  action : RunAction
  idempotencyKey : String
deriving DecidableEq

/-- A row of `patrol_runs`, with its checkpoints, verifications and recorded actions. -/
structure Run where
  id : String
  organisationId : String
  siteId : String
  patrolRouteId : String
  routeVersion : Nat
  assignedOperativeUserId : String
  incidentId : Option String
  status : RunStatus
  scheduledStartAt : Int
  startedAt : Option Int
  endedAt : Option Int
  abandonReason : Option String
  createdByUserId : String
  idempotencyKey : String
  checkpoints : List RunCheckpoint
  verifications : List Verification
  actions : List ActionRow

/-- A row of `field_assignments`. -/
structure AssignmentRow where
  organisationId : String
  siteId : String
  incidentId : String
  assigneeUserId : String
  status : String

structure RoleRow where
  userId : String
  organisationId : String
  role : String
  siteId : String

structure Db where
  routes : List Route
  runs : List Run
  assignments : List AssignmentRow
  roles : List RoleRow
  routes_id : (routes.map (·.id)).Nodup
  runs_id : (runs.map (·.id)).Nodup

def Db.empty : Db :=
  { routes := [], runs := [], assignments := [], roles := []
    routes_id := List.nodup_nil
    runs_id := List.nodup_nil }

/-! ## Reads -/

inductive SiteScope
  | orgWide
  | sites (siteIds : List String)
deriving DecidableEq

/-- `siteAllowed`, and the site clause of the queries. -/
def SiteScope.allows : SiteScope → String → Bool
  | .orgWide, _ => true
  | .sites siteIds, siteId => siteIds.contains siteId

/-- The authenticated caller, with the sites that its roles reach for the action. -/
structure Caller where
  organisationId : String
  userId : String
  siteScope : SiteScope
deriving DecidableEq

variable (db : Db) (route : Route)

/-- A route by its id, in the tenant and the scope. -/
def Db.findRoute (organisationId routeId : String) (siteScope : SiteScope) : Option Route :=
  db.routes.find? fun route =>
    route.id = routeId ∧ route.organisationId = organisationId ∧ siteScope.allows route.siteId

/-- A run by its id, in the tenant and the scope. -/
def Db.findRun (organisationId runId : String) (siteScope : SiteScope) : Option Run :=
  db.runs.find? fun run =>
    run.id = runId ∧ run.organisationId = organisationId ∧ siteScope.allows run.siteId

/-- The version that `patrol_route_version_publish_idem_key` names. -/
def Route.findPublished (publishedByUserId idempotencyKey : String) : Option RouteVersion :=
  route.versions.find? fun version =>
    version.publishedByUserId = publishedByUserId ∧ version.idempotencyKey = idempotencyKey

/-- The checkpoints of a version of a route; none where there is no such version. -/
def Route.definitions (version : Nat) : List CheckpointRow :=
  ((route.versions.find? (·.version = version)).map (·.checkpoints)).getD []

/-- The definitions of the version a run is pinned to. -/
def Db.definitions (run : Run) : List CheckpointRow :=
  ((db.routes.find? (·.id = run.patrolRouteId)).map (·.definitions run.routeVersion)).getD []

/-- `lockAssignmentStatuses`. -/
def Db.assignmentStatuses (organisationId siteId incidentId userId : String) : List String :=
  (db.assignments.filter fun row =>
    row.organisationId = organisationId ∧ row.siteId = siteId ∧ row.incidentId = incidentId ∧
      row.assigneeUserId = userId).map (·.status)

def Db.operativeCanReceive (organisationId siteId userId : String) : Bool :=
  db.roles.any fun row =>
    row.userId = userId ∧ row.organisationId = organisationId ∧ row.role = "field.operative" ∧
      row.siteId = siteId

def assignmentAllowsScheduling (status : String) : Bool :=
  ["REQUESTED", "ACCEPTED", "IN_PROGRESS"].contains status

def assignmentAllowsExecution (status : String) : Bool :=
  ["ACCEPTED", "IN_PROGRESS"].contains status

/-! ## Writes -/

def Db.putRoute : Db :=
  { db with
    routes := Table.replace Route.id route db.routes
    routes_id := Table.nodup_map_replace db.routes_id }

def Db.putRun (run : Run) : Db :=
  { db with
    runs := Table.replace Run.id run db.runs
    runs_id := Table.nodup_map_replace db.runs_id }

/-- The row violates no unique index of `patrol_routes`. -/
def Db.admitsRoute : Prop :=
  (∀ old ∈ db.routes, old.id ≠ route.id) ∧ ∀ old ∈ db.routes,
    (old.organisationId, old.siteId, old.createdByUserId, old.idempotencyKey) ≠
      (route.organisationId, route.siteId, route.createdByUserId, route.idempotencyKey)

instance (db : Db) (route : Route) : Decidable (db.admitsRoute route) :=
  inferInstanceAs (Decidable (_ ∧ _))

/-- `patrolRoute.create`; `none` is a unique violation. -/
def Db.createRouteRow : Option Db :=
  if h : db.admitsRoute route then
    some
      { db with
        routes := db.routes ++ [route]
        routes_id := Table.nodup_map_concat db.routes_id h.1 }
  else none

/-- The row violates no unique index of `patrol_runs`. -/
def Db.admitsRun (run : Run) : Prop :=
  (∀ old ∈ db.runs, old.id ≠ run.id) ∧ ∀ old ∈ db.runs,
    (old.organisationId, old.siteId, old.createdByUserId, old.idempotencyKey) ≠
      (run.organisationId, run.siteId, run.createdByUserId, run.idempotencyKey)

instance (db : Db) (run : Run) : Decidable (db.admitsRun run) :=
  inferInstanceAs (Decidable (_ ∧ _))

/-- `patrolRun.create`; `none` is a unique violation. -/
def Db.createRunRow (run : Run) : Option Db :=
  if h : db.admitsRun run then
    some
      { db with
        runs := db.runs ++ [run]
        runs_id := Table.nodup_map_concat db.runs_id h.1 }
  else none

/-! ## Requests and answers -/

/-- What the transactions take from elsewhere: the rows of sites, zones and incidents, which are
    never deleted, and the JSON that a column gives back. -/
structure Platform where
  siteExistsInOrganisation : String → String → Bool
  zoneExists : String → String → Bool
  incidentInScope : String → String → String → Bool
  jsonb : Json → Json

/-- Generated ids, none of them twice. -/
structure Ids where
  next : Nat → String
  injective : Function.Injective next

/-- The database's clock, and the ids a transaction generates. -/
structure Env where
  now : Int
  id : String
  ids : Ids

structure CreateRouteInput where
  siteId : String
  name : String
  checkpoints : List CheckpointDefinition
  idempotencyKey : String

structure PublishVersionInput where
  routeId : String
  checkpoints : List CheckpointDefinition
  idempotencyKey : String

structure ScheduleRunInput where
  patrolRouteId : String
  assignedOperativeUserId : String
  incidentId : Option String
  scheduledStartAt : Int
  idempotencyKey : String
deriving DecidableEq

structure RunActionInput where
  runId : String
  idempotencyKey : String

/-- The two ways to abandon a run; command must carry its reason. -/
inductive AbandonMode
  | operative (reason : Option String)
  | command (reason : String)

def AbandonMode.isOperative : AbandonMode → Bool
  | .operative _ => true
  | .command _ => false

def AbandonMode.reason : AbandonMode → Option String
  | .operative reason => reason
  | .command reason => some reason

structure VerifyInput where
  runId : String
  runCheckpointId : String
  deviceId : String
  verificationMethod : String
  verificationContext : Json
  sourceAt : Int
  idempotencyKey : String

inductive Command
  | createRoute (input : CreateRouteInput)
  | publishVersion (input : PublishVersionInput)
  | scheduleRun (input : ScheduleRunInput)
  | startRun (input : RunActionInput)
  | cancelRun (input : RunActionInput)
  | abandonRun (input : RunActionInput) (mode : AbandonMode)
  | verifyCheckpoint (input : VerifyInput)

/-- The representation of a route at a version: `RouteWithCheckpoints`. -/
structure RouteView where
  id : String
  organisationId : String
  siteId : String
  name : String
  currentVersion : Nat
  createdByUserId : String
  checkpoints : List CheckpointRow

def Route.view (version : RouteVersion) : RouteView :=
  { id := route.id
    organisationId := route.organisationId
    siteId := route.siteId
    name := route.name
    currentVersion := version.version
    createdByUserId := route.createdByUserId
    checkpoints := version.checkpoints }

/-- The refusals of the repository and of the service. -/
inductive Refusal
  | forbidden | siteNotFound | zonesUnknown | routeNotFound
  | notFieldOperative | incidentNotInScope | operativeNotEligible
  | runNotFound
  | conflict (currentStatus : RunStatus)
  | assignmentNotActive (currentStatus : Option String)
  | versionIntegrity
  | runNotInProgress (currentStatus : RunStatus)
  | alreadyResolved (currentState : CheckpointState)
  | outOfOrder (blockingSequence : Option Nat)
  | tooEarly (windowOpensAt : Int)
  | expired (missedAfter : Int)
deriving DecidableEq

inductive WriteKind
  | created | duplicate

inductive ActionKind
  | created | updated | duplicate | noop

inductive VerifyKind
  | verified | duplicate

/-- What a command answers; `failed` is a rethrown database error. -/
inductive Answer
  | route (kind : WriteKind) (view : RouteView)
  | run (kind : ActionKind) (run : Run)
  | verification (kind : VerifyKind) (verification : Verification) (checkpoint : RunCheckpoint)
      (runStatus : RunStatus)
  | idempotencyConflict
  | refused (refusal : Refusal)
  | failed

/-! ## Routes -/

/-- The canonical text of a location, JSON null where there is none. -/
def canonicalLocation : Option Json → String
  | none => "null"
  | some location => canonicalJson location

def sameCheckpointDefinitions (rows : List CheckpointRow) (definitions : List CheckpointDefinition) :
    Bool :=
  rows.length = definitions.length ∧ (rows.zip definitions).all fun (row, definition) =>
    row.name = definition.name ∧ row.zoneId = definition.zoneId ∧
      canonicalLocation row.location = canonicalLocation definition.location ∧
      row.offsets = definition.offsets

section Transactions

variable (platform : Platform)

/-- `validateZones`. -/
def zonesExist (siteId : String) (checkpoints : List CheckpointDefinition) : Bool :=
  checkpoints.all fun checkpoint => checkpoint.zoneId.all (platform.zoneExists siteId)

/-- `createCheckpointRows`: the server numbers them, from 1. -/
def createCheckpointRows (ids : Ids) (checkpoints : List CheckpointDefinition) :
    List CheckpointRow :=
  checkpoints.mapIdx fun index checkpoint =>
    { id := ids.next index
      sequenceNumber := index + 1
      name := checkpoint.name
      zoneId := checkpoint.zoneId
      location := checkpoint.location.map platform.jsonb
      offsets := checkpoint.offsets }

variable (db : Db) (caller : Caller) (input : ScheduleRunInput)

def newRoute (input : CreateRouteInput) (env : Env) : Route :=
  { id := env.id
    organisationId := caller.organisationId
    siteId := input.siteId
    name := input.name
    currentVersion := 1
    createdByUserId := caller.userId
    idempotencyKey := input.idempotencyKey
    versions :=
      [{ version := 1
         publishedByUserId := caller.userId
         idempotencyKey := input.idempotencyKey
         checkpoints := createCheckpointRows platform env.ids input.checkpoints }] }

def Db.findCreatedRoute (siteId idempotencyKey : String) : Option Route :=
  db.routes.find? fun route =>
    route.organisationId = caller.organisationId ∧ route.siteId = siteId ∧
      route.createdByUserId = caller.userId ∧ route.idempotencyKey = idempotencyKey

/-- The version that answers a `createRoute` under a key that is taken. -/
def replayCreateRoute (input : CreateRouteInput) : Answer :=
  match db.findCreatedRoute caller input.siteId input.idempotencyKey with
  | none => .failed
  | some route =>
    match route.findPublished caller.userId input.idempotencyKey with
    | none => .failed
    | some established =>
      if route.name ≠ input.name ∨ !sameCheckpointDefinitions established.checkpoints
          input.checkpoints then .idempotencyConflict
      else .route .duplicate (route.view established)

/-- `createRoute`, of the service and the repository. -/
def createRoute (input : CreateRouteInput) (env : Env) : Db × Answer :=
  if !caller.siteScope.allows input.siteId then (db, .refused .forbidden)
  else if !platform.siteExistsInOrganisation caller.organisationId input.siteId then
    (db, .refused .siteNotFound)
  else if !zonesExist platform input.siteId input.checkpoints then (db, .refused .zonesUnknown)
  else
    let route := newRoute platform caller input env
    match db.createRouteRow route with
    | none => (db, replayCreateRoute db caller input)
    | some db' =>
      (db', .route .created
        { id := route.id
          organisationId := route.organisationId
          siteId := route.siteId
          name := route.name
          currentVersion := route.currentVersion
          createdByUserId := route.createdByUserId
          checkpoints := route.definitions 1 })

/-- The route with its pointer moved to a new version. -/
def Route.publish (route : Route) (published : RouteVersion) : Route :=
  { route with
    currentVersion := published.version
    versions := route.versions ++ [published] }

/-- The version that a caller publishes next. -/
def newVersion (route : Route) (input : PublishVersionInput) (ids : Ids) : RouteVersion :=
  { version := route.currentVersion + 1
    publishedByUserId := caller.userId
    idempotencyKey := input.idempotencyKey
    checkpoints := createCheckpointRows platform ids input.checkpoints }

/-- `publishVersion`, of the service and the repository. -/
def publishVersion (input : PublishVersionInput) (env : Env) : Db × Answer :=
  match db.findRoute caller.organisationId input.routeId caller.siteScope with
  | none => (db, .refused .routeNotFound)
  | some route =>
    if !zonesExist platform route.siteId input.checkpoints then (db, .refused .zonesUnknown)
    else
      match route.findPublished caller.userId input.idempotencyKey with
      | some duplicate =>
        if !sameCheckpointDefinitions duplicate.checkpoints input.checkpoints then
          (db, .idempotencyConflict)
        else (db, .route .duplicate (route.view duplicate))
      | none =>
        let published := newVersion platform caller route input env.ids
        let updated := route.publish published
        (db.putRoute updated, .route .created (updated.view published))

/-! ## Scheduling -/

/-- What `scheduleRun` of the service reads first; `none` lets the transaction begin. -/
def checkSchedule : Option Refusal :=
  match db.findRoute caller.organisationId input.patrolRouteId caller.siteScope with
  | none => some .routeNotFound
  | some route =>
    if !db.operativeCanReceive caller.organisationId route.siteId input.assignedOperativeUserId then
      some .notFieldOperative
    else none

def checkIncident (siteId : String) (input : ScheduleRunInput) : Option Refusal :=
  match input.incidentId with
  | none => none
  | some incidentId =>
    if !platform.incidentInScope caller.organisationId siteId incidentId then
      some .incidentNotInScope
    else if !(db.assignmentStatuses caller.organisationId siteId incidentId
        input.assignedOperativeUserId).any assignmentAllowsScheduling then
      some .operativeNotEligible
    else none

def newRun (route : Route) (input : ScheduleRunInput) (id : String) : Run :=
  { id
    organisationId := caller.organisationId
    siteId := route.siteId
    patrolRouteId := route.id
    routeVersion := route.currentVersion
    assignedOperativeUserId := input.assignedOperativeUserId
    incidentId := input.incidentId
    status := .scheduled
    scheduledStartAt := input.scheduledStartAt
    startedAt := none
    endedAt := none
    abandonReason := none
    createdByUserId := caller.userId
    idempotencyKey := input.idempotencyKey
    checkpoints := []
    verifications := []
    actions := [] }

/-- The run that a caller scheduled at a site under a key. -/
def Db.findScheduledRun (siteId idempotencyKey : String) : Option Run :=
  db.runs.find? fun run =>
    run.organisationId = caller.organisationId ∧ run.siteId = siteId ∧
      run.createdByUserId = caller.userId ∧ run.idempotencyKey = idempotencyKey

/-- The run that answers a schedule under a key that is taken. -/
def replaySchedule (siteId : String) (input : ScheduleRunInput) : Answer :=
  match db.findScheduledRun caller siteId input.idempotencyKey with
  | none => .failed
  | some run =>
    if run.patrolRouteId = input.patrolRouteId ∧
        run.assignedOperativeUserId = input.assignedOperativeUserId ∧
        run.incidentId = input.incidentId ∧ run.scheduledStartAt = input.scheduledStartAt then
      .run .duplicate run
    else .idempotencyConflict

/-- `scheduleRun` of the repository. -/
def scheduleRun (id : String) : Db × Answer :=
  match db.findRoute caller.organisationId input.patrolRouteId caller.siteScope with
  | none => (db, .refused .routeNotFound)
  | some route =>
    match checkIncident platform db caller route.siteId input with
    | some refusal => (db, .refused refusal)
    | none =>
      let run := newRun caller route input id
      match db.createRunRow run with
      | none => (db, replaySchedule db caller route.siteId input)
      | some db' => (db', .run .created run)

end Transactions

/-! ## The life of a run -/

variable (db : Db) (run : Run) (caller : Caller) (checkpoint : RunCheckpoint)

/-- `findActionDuplicate`. -/
def Run.hasAction (actorUserId : String) (action : RunAction) (idempotencyKey : String) : Bool :=
  run.actions.contains { actorUserId, action, idempotencyKey }

def Run.recordAction (actorUserId : String) (action : RunAction) (idempotencyKey : String) : Run :=
  { run with actions := run.actions ++ [{ actorUserId, action, idempotencyKey }] }

/-- The refusal of a run that is executed without an active assignment. -/
def Db.checkExecution (actorUserId : String) : Option Refusal :=
  match run.incidentId with
  | none => none
  | some incidentId =>
    let statuses := db.assignmentStatuses run.organisationId run.siteId incidentId actorUserId
    if statuses.any assignmentAllowsExecution then none
    else some (.assignmentNotActive statuses.head?)

/-- The checkpoints of a run that starts, one for each definition. -/
def materialise (startedAt : Int) (ids : Ids) (definitions : List CheckpointRow) :
    List RunCheckpoint :=
  definitions.mapIdx fun index definition =>
    { id := ids.next index
      patrolCheckpointId := definition.id
      sequenceNumber := definition.sequenceNumber
      window := materialiseCheckpointWindow startedAt definition.offsets
      state := .pending
      resolvedAt := none
      verificationId := none }

/-- A run that is under way. -/
def Run.start (startedAt : Int) (created : List RunCheckpoint) : Run :=
  { run with
    status := .inProgress
    startedAt := some startedAt
    checkpoints := run.checkpoints ++ created }

def startRun (input : RunActionInput) (env : Env) : Db × Answer :=
  match db.findRun caller.organisationId input.runId caller.siteScope with
  | none => (db, .refused .runNotFound)
  | some run =>
    if run.assignedOperativeUserId ≠ caller.userId then (db, .refused .runNotFound)
    else if run.hasAction caller.userId .start input.idempotencyKey then (db, .run .duplicate run)
    else if run.status = .inProgress then (db, .run .noop run)
    else if !canTransitionPatrolRunStatus run.status .inProgress then
      (db, .refused (.conflict run.status))
    else
      match db.checkExecution run caller.userId with
      | some refusal => (db, .refused refusal)
      | none =>
        let definitions := db.definitions run
        if definitions.isEmpty then (db, .refused .versionIntegrity)
        else
          let created := materialise env.now env.ids definitions
          if created.length ≠ definitions.length then (db, .refused .versionIntegrity)
          else
            let updated := (run.start env.now created).recordAction caller.userId .start
              input.idempotencyKey
            (db.putRun updated, .run .updated updated)

/-- A run that is called off. -/
def Run.cancel (endedAt : Int) : Run :=
  { run with status := .cancelled, endedAt := some endedAt }

def cancelRun (input : RunActionInput) (env : Env) : Db × Answer :=
  match db.findRun caller.organisationId input.runId caller.siteScope with
  | none => (db, .refused .runNotFound)
  | some run =>
    if run.hasAction caller.userId .cancel input.idempotencyKey then (db, .run .duplicate run)
    else if run.status = .cancelled then (db, .run .noop { run with checkpoints := [] })
    else if !canTransitionPatrolRunStatus run.status .cancelled then
      (db, .refused (.conflict run.status))
    else
      let updated := (run.cancel env.now).recordAction caller.userId .cancel input.idempotencyKey
      (db.putRun updated, .run .updated { updated with checkpoints := [] })

def abandonCheckpoint (now : Int) (checkpoint : RunCheckpoint) : RunCheckpoint :=
  match resolveAbandonedCheckpointState now checkpoint.state checkpoint.window.missedAfter with
  | none => checkpoint
  | some state => { checkpoint with state }

/-- A run that is given up. -/
def Run.abandon (endedAt : Int) (abandonReason : Option String) : Run :=
  { run with
    status := .abandoned
    endedAt := some endedAt
    abandonReason
    checkpoints := run.checkpoints.map (abandonCheckpoint endedAt) }

def abandonRun (input : RunActionInput) (mode : AbandonMode) (env : Env) : Db × Answer :=
  match db.findRun caller.organisationId input.runId caller.siteScope with
  | none => (db, .refused .runNotFound)
  | some run =>
    if mode.isOperative ∧ run.assignedOperativeUserId ≠ caller.userId then
      (db, .refused .runNotFound)
    else if run.hasAction caller.userId .abandon input.idempotencyKey then
      if mode.reason ≠ run.abandonReason then (db, .idempotencyConflict)
      else (db, .run .duplicate run)
    else if run.status = .abandoned then (db, .run .noop run)
    else if !canTransitionPatrolRunStatus run.status .abandoned then
      (db, .refused (.conflict run.status))
    else
      let updated := (run.abandon env.now mode.reason).recordAction caller.userId .abandon
        input.idempotencyKey
      (db.putRun updated, .run .updated updated)

def completeIfFinished (endedAt : Int) : Run :=
  if run.status ≠ .inProgress then run
  else if !canCompletePatrolRun (run.checkpoints.map (·.state)) then run
  else { run with status := .completed, endedAt := some endedAt }

/-! ## Verification and the sweep -/

/-- The verification that `patrol_verification_idem_key` names. -/
def Run.findVerification (runCheckpointId operativeUserId idempotencyKey : String) :
    Option Verification :=
  run.verifications.find? fun row =>
    row.patrolRunCheckpointId = runCheckpointId ∧ row.operativeUserId = operativeUserId ∧
      row.idempotencyKey = idempotencyKey

def Run.findCheckpoint (checkpointId : String) : Option RunCheckpoint :=
  run.checkpoints.find? (·.id = checkpointId)

def Run.putCheckpoint : Run :=
  { run with checkpoints := Table.replace RunCheckpoint.id checkpoint run.checkpoints }

/-- A verification is the one that a request established. -/
def sameVerification (established : Verification) (input : VerifyInput) : Bool :=
  established.deviceId = input.deviceId ∧
    established.verificationMethod = input.verificationMethod ∧
    canonicalJson established.verificationContext = canonicalJson input.verificationContext ∧
    established.sourceAt = input.sourceAt

/-- The lowest number below a checkpoint's whose checkpoint is still pending. -/
def Run.blockingSequence : Option Nat :=
  ((run.checkpoints.filter fun sibling =>
    sibling.sequenceNumber < checkpoint.sequenceNumber ∧ sibling.state = .pending).map
      (·.sequenceNumber)).min?

def newVerification (platform : Platform) (caller : Caller) (input : VerifyInput) (env : Env)
    (checkpoint : RunCheckpoint) : Verification :=
  { id := env.id
    patrolRunCheckpointId := checkpoint.id
    patrolCheckpointId := checkpoint.patrolCheckpointId
    operativeUserId := caller.userId
    deviceId := input.deviceId
    verificationMethod := input.verificationMethod
    verificationContext := platform.jsonb input.verificationContext
    sourceAt := input.sourceAt
    recordedAt := env.now
    idempotencyKey := input.idempotencyKey }

def RunCheckpoint.resolve (outcome : CheckpointState)
    (verification : Verification) : RunCheckpoint :=
  { checkpoint with
    state := outcome
    resolvedAt := some verification.recordedAt
    verificationId := some verification.id }

def Run.verify (outcome : CheckpointState) (verification : Verification) : Run :=
  { run.putCheckpoint (checkpoint.resolve outcome verification) with
    verifications := run.verifications ++ [verification] }

/-- The writes of a verification in time. -/
def recordVerification (platform : Platform) (db : Db) (caller : Caller) (input : VerifyInput)
    (env : Env) (run : Run) (checkpoint : RunCheckpoint) (outcome : CheckpointState) :
    Db × Answer :=
  let verification := newVerification platform caller input env checkpoint
  let completed := completeIfFinished (run.verify checkpoint outcome verification) env.now
  (db.putRun completed, .verification .verified verification
    (checkpoint.resolve outcome verification) completed.status)

def verifyCheckpoint (platform : Platform) (db : Db) (caller : Caller) (input : VerifyInput)
    (env : Env) : Db × Answer :=
  match db.findRun caller.organisationId input.runId caller.siteScope with
  | none => (db, .refused .runNotFound)
  | some run =>
    if run.assignedOperativeUserId ≠ caller.userId then (db, .refused .runNotFound)
    else
      match run.findCheckpoint input.runCheckpointId with
      | none => (db, .refused .runNotFound)
      | some checkpoint =>
        match run.findVerification checkpoint.id caller.userId input.idempotencyKey with
        | some established =>
          if !sameVerification established input then (db, .idempotencyConflict)
          else (db, .verification .duplicate established checkpoint run.status)
        | none =>
          if run.status ≠ .inProgress then (db, .refused (.runNotInProgress run.status))
          else
            match db.checkExecution run caller.userId with
            | some refusal => (db, .refused refusal)
            | none =>
              if checkpoint.state ≠ .pending then
                (db, .refused (.alreadyResolved checkpoint.state))
              else if !canVerifySequence checkpoint.sequenceNumber
                  (run.checkpoints.map fun sibling => (sibling.sequenceNumber, sibling.state)) then
                (db, .refused (.outOfOrder (run.blockingSequence checkpoint)))
              else
                match resolveCheckpointTiming env.now checkpoint.window with
                | .tooEarly => (db, .refused (.tooEarly checkpoint.window.windowOpensAt))
                | .expired => (db, .refused (.expired checkpoint.window.missedAfter))
                | .verified => recordVerification platform db caller input env run checkpoint .verified
                | .late => recordVerification platform db caller input env run checkpoint .late

/-- One candidate of `sweepMissedOnce`, re-judged under the run lock. -/
def sweepMissed (runId checkpointId : String) (now : Int) : Db :=
  match db.runs.find? (·.id = runId) with
  | none => db
  | some run =>
    if run.status ≠ .inProgress then db
    else
      match run.findCheckpoint checkpointId with
      | none => db
      | some checkpoint =>
        if !isCheckpointMissed now checkpoint.state checkpoint.window.missedAfter then db
        else db.putRun (completeIfFinished (run.putCheckpoint { checkpoint with state := .missed }) now)

/-! ## The system -/

/-- The tables, the database's clock, and the schedules whose operative has been found eligible. -/
structure State where
  db : Db
  clock : Int
  scheduling : List (Caller × ScheduleRunInput)

def State.init : State := { db := .empty, clock := 0, scheduling := [] }

inductive Label
  | call (caller : Caller) (command : Command) (env : Env)
  /-- The transaction of a schedule. -/
  | commitSchedule (i : Nat) (env : Env)
  /-- The sweep takes up a candidate. -/
  | sweep (runId checkpointId : String) (now : Int)
  /-- Field assignments and roles change. -/
  | assignments (rows : List AssignmentRow)
  | roles (rows : List RoleRow)

/-- A command in one transaction, of the six that are one. -/
def execute (platform : Platform) (db : Db) (caller : Caller) (env : Env) :
    Command → Option (Db × Answer)
  | .createRoute input => some (createRoute platform db caller input env)
  | .publishVersion input => some (publishVersion platform db caller input env)
  | .scheduleRun input => (checkSchedule db caller input).map fun refusal => (db, .refused refusal)
  | .startRun input => some (startRun db caller input env)
  | .cancelRun input => some (cancelRun db caller input env)
  | .abandonRun input mode => some (abandonRun db caller input mode env)
  | .verifyCheckpoint input => some (verifyCheckpoint platform db caller input env)

def State.call (platform : Platform) (s : State) :
    Label → Option (State × Option (Caller × Command × Answer))
  | .call caller command env =>
    if env.now < s.clock then none
    else
      match execute platform s.db caller env command, command with
      | some (db, answer), command =>
        some ({ s with db, clock := env.now }, some (caller, command, answer))
      | none, .scheduleRun input =>
        some ({ s with clock := env.now, scheduling := s.scheduling ++ [(caller, input)] }, none)
      | none, _ => none
  | .commitSchedule i env =>
    if env.now < s.clock then none
    else
      match s.scheduling[i]? with
      | none => none
      | some (caller, input) =>
        let (db, answer) := scheduleRun platform s.db caller input env.id
        some ({ db, clock := env.now, scheduling := s.scheduling.eraseIdx i },
          some (caller, .scheduleRun input, answer))
  | .sweep runId checkpointId now =>
    if now < s.clock then none
    else some ({ s with db := sweepMissed s.db runId checkpointId now, clock := now }, none)
  | .assignments assignments => some ({ s with db := { s.db with assignments } }, none)
  | .roles roles => some ({ s with db := { s.db with roles } }, none)

def step (platform : Platform) (s : State) (label : Label) : Option State :=
  (s.call platform label).map (·.1)

end Sentinel.Patrol
