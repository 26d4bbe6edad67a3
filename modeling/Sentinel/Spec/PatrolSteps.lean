import Sentinel.Native.Patrol

/-! # What a patrol transaction does

A command either commits, in one of seven ways, or leaves the tables alone.  What no transaction
takes back: the columns that identify a route or a run, the versions of a route, and the recorded
actions and verifications of a run. -/

namespace Sentinel.Patrol

open CanonicalJson (Json canonicalJson)

/-! ## Finders -/

theorem Db.findRoute_eq_some {db : Db} {organisationId routeId : String} {siteScope : SiteScope}
    {route : Route} (h : db.findRoute organisationId routeId siteScope = some route) :
    route ∈ db.routes ∧ route.id = routeId ∧ route.organisationId = organisationId ∧
      siteScope.allows route.siteId = true :=
  Table.of_find? h

theorem Db.findRun_eq_some {db : Db} {organisationId runId : String} {siteScope : SiteScope}
    {run : Run} (h : db.findRun organisationId runId siteScope = some run) :
    run ∈ db.runs ∧ run.id = runId ∧ run.organisationId = organisationId ∧
      siteScope.allows run.siteId = true :=
  Table.of_find? h

theorem Run.findCheckpoint_eq_some {run : Run} {checkpointId : String} {checkpoint : RunCheckpoint}
    (h : run.findCheckpoint checkpointId = some checkpoint) :
    checkpoint ∈ run.checkpoints ∧ checkpoint.id = checkpointId :=
  Table.of_find? h

theorem Db.createRouteRow_eq_some {db db' : Db} {route : Route}
    (h : db.createRouteRow route = some db') :
    db.admitsRoute route ∧ db'.routes = db.routes ++ [route] ∧ db'.runs = db.runs ∧
      db'.assignments = db.assignments ∧ db'.roles = db.roles := by
  unfold Db.createRouteRow at h
  split at h
  · rename_i hadmits
    cases h
    exact ⟨hadmits, rfl, rfl, rfl, rfl⟩
  · cases h

theorem Db.createRunRow_eq_some {db db' : Db} {run : Run} (h : db.createRunRow run = some db') :
    db.admitsRun run ∧ db'.runs = db.runs ++ [run] ∧ db'.routes = db.routes ∧
      db'.assignments = db.assignments ∧ db'.roles = db.roles := by
  unfold Db.createRunRow at h
  split at h
  · rename_i hadmits
    cases h
    exact ⟨hadmits, rfl, rfl, rfl, rfl⟩
  · cases h

/-! ## Commits -/

/-- An answer that a transaction has written something for. -/
def Answer.isCommit : Answer → Bool
  | .route .created _ | .run .created _ | .run .updated _ | .verification .verified .. => true
  | _ => false

variable {platform : Platform}

/-- The seven ways to commit. -/
inductive Commits (platform : Platform) (db : Db) (caller : Caller) (env : Env) :
    Command → Answer → Db → Prop
  | createRoute {input : CreateRouteInput} {db' : Db}
      (hsite : platform.siteExistsInOrganisation caller.organisationId input.siteId = true)
      (hcreate : db.createRouteRow (newRoute platform caller input env) = some db') :
      Commits platform db caller env (.createRoute input)
        (.route .created ((newRoute platform caller input env).view
          { version := 1
            publishedByUserId := caller.userId
            idempotencyKey := input.idempotencyKey
            checkpoints := createCheckpointRows platform env.ids input.checkpoints })) db'
  | publishVersion {input : PublishVersionInput} {route : Route}
      (hroute : db.findRoute caller.organisationId input.routeId caller.siteScope = some route)
      (hnew : route.findPublished caller.userId input.idempotencyKey = none) :
      Commits platform db caller env (.publishVersion input)
        (.route .created ((route.publish (newVersion platform caller route input env.ids)).view
          (newVersion platform caller route input env.ids)))
        (db.putRoute (route.publish (newVersion platform caller route input env.ids)))
  | scheduleRun {input : ScheduleRunInput} {route : Route} {db' : Db}
      (hroute : db.findRoute caller.organisationId input.patrolRouteId caller.siteScope = some route)
      (hincident : checkIncident platform db caller route.siteId input = none)
      (hcreate : db.createRunRow (newRun caller route input env.id) = some db') :
      Commits platform db caller env (.scheduleRun input)
        (.run .created (newRun caller route input env.id)) db'
  | startRun {input : RunActionInput} {run updated : Run}
      (hrun : db.findRun caller.organisationId input.runId caller.siteScope = some run)
      (hassigned : run.assignedOperativeUserId = caller.userId)
      (hstatus : run.status = .scheduled)
      (hdefinitions : db.definitions run ≠ [])
      (hupdated : updated = (run.start env.now (materialise env.now env.ids
        (db.definitions run))).recordAction caller.userId .start input.idempotencyKey) :
      Commits platform db caller env (.startRun input) (.run .updated updated) (db.putRun updated)
  | cancelRun {input : RunActionInput} {run updated : Run}
      (hrun : db.findRun caller.organisationId input.runId caller.siteScope = some run)
      (hstatus : run.status = .scheduled)
      (hupdated : updated = (run.cancel env.now).recordAction caller.userId .cancel
        input.idempotencyKey) :
      Commits platform db caller env (.cancelRun input)
        (.run .updated { updated with checkpoints := [] }) (db.putRun updated)
  | abandonRun {input : RunActionInput} {mode : AbandonMode} {run updated : Run}
      (hrun : db.findRun caller.organisationId input.runId caller.siteScope = some run)
      (hstatus : run.status = .inProgress)
      (hupdated : updated = (run.abandon env.now mode.reason).recordAction caller.userId .abandon
        input.idempotencyKey) :
      Commits platform db caller env (.abandonRun input mode) (.run .updated updated)
        (db.putRun updated)
  | verifyCheckpoint {input : VerifyInput} {run updated : Run} {checkpoint : RunCheckpoint}
      {outcome : CheckpointState} {verification : Verification}
      (hrun : db.findRun caller.organisationId input.runId caller.siteScope = some run)
      (hassigned : run.assignedOperativeUserId = caller.userId)
      (hcheckpoint : run.findCheckpoint input.runCheckpointId = some checkpoint)
      (hnew : run.findVerification checkpoint.id caller.userId input.idempotencyKey = none)
      (hstatus : run.status = .inProgress)
      (hpending : checkpoint.state = .pending)
      (hsequence : canVerifySequence checkpoint.sequenceNumber
        (run.checkpoints.map fun sibling => (sibling.sequenceNumber, sibling.state)) = true)
      (htiming : outcome = .verified ∧
          resolveCheckpointTiming env.now checkpoint.window = .verified ∨
        outcome = .late ∧ resolveCheckpointTiming env.now checkpoint.window = .late)
      (hverification : verification = newVerification platform caller input env checkpoint)
      (hupdated : updated = completeIfFinished (run.verify checkpoint outcome verification) env.now) :
      Commits platform db caller env (.verifyCheckpoint input)
        (.verification .verified verification (checkpoint.resolve outcome verification)
          updated.status) (db.putRun updated)

/-- The tables are as they were, and the answer says so. -/
def Kept (db : Db) (result : Db × Answer) : Prop := result.1 = db ∧ result.2.isCommit = false

/-- A command that has committed, or changed nothing. -/
def Handled (platform : Platform) (db : Db) (caller : Caller) (env : Env) (command : Command)
    (result : Db × Answer) : Prop :=
  Kept db result ∨ Commits platform db caller env command result.2 result.1

variable {db : Db} {caller : Caller} {env : Env}

theorem replayCreateRoute_isCommit (input : CreateRouteInput) :
    (replayCreateRoute db caller input).isCommit = false := by
  unfold replayCreateRoute
  split
  · rfl
  · split
    · rfl
    · split <;> rfl

theorem createRoute_cases (input : CreateRouteInput) :
    Handled platform db caller env (.createRoute input)
      (createRoute platform db caller input env) := by
  unfold createRoute
  split
  · exact .inl ⟨rfl, rfl⟩
  · split
    · exact .inl ⟨rfl, rfl⟩
    · rename_i hsite
      split
      · exact .inl ⟨rfl, rfl⟩
      · dsimp only
        cases hcreate : db.createRouteRow (newRoute platform caller input env) with
        | none => exact .inl ⟨rfl, replayCreateRoute_isCommit input⟩
        | some db' => exact .inr (.createRoute (by simpa using hsite) hcreate)

theorem publishVersion_cases (input : PublishVersionInput) :
    Handled platform db caller env (.publishVersion input)
      (publishVersion platform db caller input env) := by
  unfold publishVersion
  cases hroute : db.findRoute caller.organisationId input.routeId caller.siteScope with
  | none => exact .inl ⟨rfl, rfl⟩
  | some route =>
    dsimp only
    split
    · exact .inl ⟨rfl, rfl⟩
    · cases hnew : route.findPublished caller.userId input.idempotencyKey with
      | none => exact .inr (.publishVersion hroute hnew)
      | some duplicate =>
        dsimp only
        split
        · exact .inl ⟨rfl, rfl⟩
        · exact .inl ⟨rfl, rfl⟩

theorem replaySchedule_isCommit (siteId : String) (input : ScheduleRunInput) :
    (replaySchedule db caller siteId input).isCommit = false := by
  unfold replaySchedule
  split
  · rfl
  · split <;> rfl

theorem scheduleRun_cases (input : ScheduleRunInput) :
    Handled platform db caller env (.scheduleRun input)
      (scheduleRun platform db caller input env.id) := by
  unfold scheduleRun
  cases hroute : db.findRoute caller.organisationId input.patrolRouteId caller.siteScope with
  | none => exact .inl ⟨rfl, rfl⟩
  | some route =>
    dsimp only
    cases hincident : checkIncident platform db caller route.siteId input with
    | some refusal => exact .inl ⟨rfl, rfl⟩
    | none =>
      dsimp only
      cases hcreate : db.createRunRow (newRun caller route input env.id) with
      | none => exact .inl ⟨rfl, replaySchedule_isCommit route.siteId input⟩
      | some db' => exact .inr (.scheduleRun hroute hincident hcreate)

/-- Only a scheduled run starts or is cancelled, and only a run in progress is abandoned. -/
theorem eq_of_canTransition {source target : RunStatus}
    (h : canTransitionPatrolRunStatus source target = true) :
    (target = .inProgress ∨ target = .cancelled) ∧ source = .scheduled ∨
      (target = .completed ∨ target = .abandoned) ∧ source = .inProgress := by
  cases source <;> cases target <;> revert h <;> decide

theorem startRun_cases (input : RunActionInput) :
    Handled platform db caller env (.startRun input) (startRun db caller input env) := by
  unfold startRun
  cases hrun : db.findRun caller.organisationId input.runId caller.siteScope with
  | none => exact .inl ⟨rfl, rfl⟩
  | some run =>
    dsimp only
    split
    · exact .inl ⟨rfl, rfl⟩
    · rename_i hassigned
      split
      · exact .inl ⟨rfl, rfl⟩
      · split
        · exact .inl ⟨rfl, rfl⟩
        · split
          · exact .inl ⟨rfl, rfl⟩
          · rename_i htransition
            have hstatus : run.status = .scheduled := by
              have hmove := eq_of_canTransition (by simpa using htransition)
              simpa using hmove
            cases hexecution : db.checkExecution run caller.userId with
            | some refusal => exact .inl ⟨rfl, rfl⟩
            | none =>
              dsimp only
              split
              · exact .inl ⟨rfl, rfl⟩
              · rename_i hdefinitions
                split
                · exact .inl ⟨rfl, rfl⟩
                · refine .inr (.startRun hrun (not_not.mp hassigned) hstatus ?_ rfl)
                  simpa using hdefinitions

theorem cancelRun_cases (input : RunActionInput) :
    Handled platform db caller env (.cancelRun input) (cancelRun db caller input env) := by
  unfold cancelRun
  cases hrun : db.findRun caller.organisationId input.runId caller.siteScope with
  | none => exact .inl ⟨rfl, rfl⟩
  | some run =>
    dsimp only
    split
    · exact .inl ⟨rfl, rfl⟩
    · split
      · exact .inl ⟨rfl, rfl⟩
      · split
        · exact .inl ⟨rfl, rfl⟩
        · rename_i htransition
          have hstatus : run.status = .scheduled := by
            have hmove := eq_of_canTransition (by simpa using htransition)
            simpa using hmove
          exact .inr (.cancelRun hrun hstatus rfl)

theorem abandonRun_cases (input : RunActionInput) (mode : AbandonMode) :
    Handled platform db caller env (.abandonRun input mode)
      (abandonRun db caller input mode env) := by
  unfold abandonRun
  cases hrun : db.findRun caller.organisationId input.runId caller.siteScope with
  | none => exact .inl ⟨rfl, rfl⟩
  | some run =>
    dsimp only
    split
    · exact .inl ⟨rfl, rfl⟩
    · split
      · split
        · exact .inl ⟨rfl, rfl⟩
        · exact .inl ⟨rfl, rfl⟩
      · split
        · exact .inl ⟨rfl, rfl⟩
        · split
          · exact .inl ⟨rfl, rfl⟩
          · rename_i htransition
            have hstatus : run.status = .inProgress := by
              have hmove := eq_of_canTransition (by simpa using htransition)
              simpa using hmove
            exact .inr (.abandonRun hrun hstatus rfl)

theorem verifyCheckpoint_cases (input : VerifyInput) :
    Handled platform db caller env (.verifyCheckpoint input)
      (verifyCheckpoint platform db caller input env) := by
  unfold verifyCheckpoint
  cases hrun : db.findRun caller.organisationId input.runId caller.siteScope with
  | none => exact .inl ⟨rfl, rfl⟩
  | some run =>
    dsimp only
    split
    · exact .inl ⟨rfl, rfl⟩
    · rename_i hassigned
      cases hcheckpoint : run.findCheckpoint input.runCheckpointId with
      | none => exact .inl ⟨rfl, rfl⟩
      | some checkpoint =>
        dsimp only
        cases hnew : run.findVerification checkpoint.id caller.userId input.idempotencyKey with
        | some established =>
          dsimp only
          split
          · exact .inl ⟨rfl, rfl⟩
          · exact .inl ⟨rfl, rfl⟩
        | none =>
          dsimp only
          split
          · exact .inl ⟨rfl, rfl⟩
          · rename_i hstatus
            cases hexecution : db.checkExecution run caller.userId with
            | some refusal => exact .inl ⟨rfl, rfl⟩
            | none =>
              dsimp only
              split
              · exact .inl ⟨rfl, rfl⟩
              · rename_i hpending
                split
                · exact .inl ⟨rfl, rfl⟩
                · rename_i hsequence
                  cases htiming : resolveCheckpointTiming env.now checkpoint.window with
                  | tooEarly => exact .inl ⟨rfl, rfl⟩
                  | expired => exact .inl ⟨rfl, rfl⟩
                  | verified =>
                    exact .inr (.verifyCheckpoint hrun (not_not.mp hassigned) hcheckpoint hnew
                      (not_not.mp hstatus) (not_not.mp hpending) (by simpa using hsequence)
                      (.inl ⟨rfl, htiming⟩) rfl rfl)
                  | late =>
                    exact .inr (.verifyCheckpoint hrun (not_not.mp hassigned) hcheckpoint hnew
                      (not_not.mp hstatus) (not_not.mp hpending) (by simpa using hsequence)
                      (.inr ⟨rfl, htiming⟩) rfl rfl)

/-- Every command that is one transaction. -/
theorem execute_cases {command : Command} {db' : Db} {answer : Answer}
    (h : execute platform db caller env command = some (db', answer)) :
    Handled platform db caller env command (db', answer) := by
  cases command with
  | createRoute input => exact Option.some.inj h ▸ createRoute_cases input
  | publishVersion input => exact Option.some.inj h ▸ publishVersion_cases input
  | scheduleRun input =>
    obtain ⟨refusal, -, heq⟩ := Option.map_eq_some_iff.mp h
    cases heq
    exact .inl ⟨rfl, rfl⟩
  | startRun input => exact Option.some.inj h ▸ startRun_cases input
  | cancelRun input => exact Option.some.inj h ▸ cancelRun_cases input
  | abandonRun input mode => exact Option.some.inj h ▸ abandonRun_cases input mode
  | verifyCheckpoint input => exact Option.some.inj h ▸ verifyCheckpoint_cases input

/-! ## What no transaction takes back -/

/-- A route with the columns that identify it, and its versions in their places. -/
structure SameRoute (route later : Route) : Prop where
  id : later.id = route.id
  organisationId : later.organisationId = route.organisationId
  siteId : later.siteId = route.siteId
  name : later.name = route.name
  createdByUserId : later.createdByUserId = route.createdByUserId
  idempotencyKey : later.idempotencyKey = route.idempotencyKey
  versions : route.versions <+: later.versions

theorem SameRoute.refl (route : Route) : SameRoute route route :=
  ⟨rfl, rfl, rfl, rfl, rfl, rfl, List.prefix_refl _⟩

theorem SameRoute.trans {a b c : Route} (h₁ : SameRoute a b) (h₂ : SameRoute b c) :
    SameRoute a c :=
  ⟨h₂.id.trans h₁.id, h₂.organisationId.trans h₁.organisationId, h₂.siteId.trans h₁.siteId,
    h₂.name.trans h₁.name, h₂.createdByUserId.trans h₁.createdByUserId,
    h₂.idempotencyKey.trans h₁.idempotencyKey, h₁.versions.trans h₂.versions⟩

/-- A checkpoint that stays what it is, once it has left PENDING. -/
structure CheckpointLater (checkpoint later : RunCheckpoint) : Prop where
  id : later.id = checkpoint.id
  patrolCheckpointId : later.patrolCheckpointId = checkpoint.patrolCheckpointId
  sequenceNumber : later.sequenceNumber = checkpoint.sequenceNumber
  window : later.window = checkpoint.window
  settled : checkpoint.state ≠ .pending → later = checkpoint

theorem CheckpointLater.refl (checkpoint : RunCheckpoint) : CheckpointLater checkpoint checkpoint :=
  ⟨rfl, rfl, rfl, rfl, fun _ => rfl⟩

theorem CheckpointLater.trans {a b c : RunCheckpoint} (h₁ : CheckpointLater a b)
    (h₂ : CheckpointLater b c) : CheckpointLater a c where
  id := h₂.id.trans h₁.id
  patrolCheckpointId := h₂.patrolCheckpointId.trans h₁.patrolCheckpointId
  sequenceNumber := h₂.sequenceNumber.trans h₁.sequenceNumber
  window := h₂.window.trans h₁.window
  settled := by
    intro hstate
    obtain rfl := h₁.settled hstate
    exact h₂.settled hstate

/-- A run with its pinned columns, and with all that has been recorded for it. -/
structure Run.Later (run later : Run) : Prop where
  id : later.id = run.id
  organisationId : later.organisationId = run.organisationId
  siteId : later.siteId = run.siteId
  patrolRouteId : later.patrolRouteId = run.patrolRouteId
  routeVersion : later.routeVersion = run.routeVersion
  assignedOperativeUserId : later.assignedOperativeUserId = run.assignedOperativeUserId
  incidentId : later.incidentId = run.incidentId
  scheduledStartAt : later.scheduledStartAt = run.scheduledStartAt
  createdByUserId : later.createdByUserId = run.createdByUserId
  idempotencyKey : later.idempotencyKey = run.idempotencyKey
  checkpoints : Table.Grows CheckpointLater run.checkpoints later.checkpoints
  verifications : run.verifications <+: later.verifications
  actions : run.actions <+: later.actions
  abandoned : run.status = .abandoned →
    later.status = .abandoned ∧ later.abandonReason = run.abandonReason

namespace Run.Later

theorem refl (run : Run) : run.Later run :=
  ⟨rfl, rfl, rfl, rfl, rfl, rfl, rfl, rfl, rfl, rfl, .refl CheckpointLater.refl _,
    List.prefix_refl _, List.prefix_refl _, fun h => ⟨h, rfl⟩⟩

theorem trans {a b c : Run} (h₁ : a.Later b) (h₂ : b.Later c) : a.Later c where
  id := h₂.id.trans h₁.id
  organisationId := h₂.organisationId.trans h₁.organisationId
  siteId := h₂.siteId.trans h₁.siteId
  patrolRouteId := h₂.patrolRouteId.trans h₁.patrolRouteId
  routeVersion := h₂.routeVersion.trans h₁.routeVersion
  assignedOperativeUserId := h₂.assignedOperativeUserId.trans h₁.assignedOperativeUserId
  incidentId := h₂.incidentId.trans h₁.incidentId
  scheduledStartAt := h₂.scheduledStartAt.trans h₁.scheduledStartAt
  createdByUserId := h₂.createdByUserId.trans h₁.createdByUserId
  idempotencyKey := h₂.idempotencyKey.trans h₁.idempotencyKey
  checkpoints := h₁.checkpoints.trans @CheckpointLater.trans h₂.checkpoints
  verifications := h₁.verifications.trans h₂.verifications
  actions := h₁.actions.trans h₂.actions
  abandoned := by
    intro hstatus
    obtain ⟨hlater, hreason⟩ := h₁.abandoned hstatus
    obtain ⟨hlatest, hreason'⟩ := h₂.abandoned hlater
    exact ⟨hlatest, hreason'.trans hreason⟩

variable {run : Run}

theorem recordAction (actorUserId : String) (action : RunAction) (idempotencyKey : String) :
    run.Later (run.recordAction actorUserId action idempotencyKey) :=
  { refl run with
    actions := List.prefix_append _ _
    abandoned := fun h => ⟨h, rfl⟩ }

theorem start (hstatus : run.status = .scheduled) (startedAt : Int) (created : List RunCheckpoint) :
    run.Later (run.start startedAt created) :=
  { refl run with
    checkpoints := .append CheckpointLater.refl _ _
    abandoned := fun h => absurd (hstatus.symm.trans h) (by decide) }

theorem cancel (hstatus : run.status = .scheduled) (endedAt : Int) :
    run.Later (run.cancel endedAt) :=
  { refl run with abandoned := fun h => absurd (hstatus.symm.trans h) (by decide) }

theorem abandonCheckpoint_later (now : Int) (checkpoint : RunCheckpoint) :
    CheckpointLater checkpoint (abandonCheckpoint now checkpoint) := by
  unfold abandonCheckpoint
  split
  · exact .refl checkpoint
  · rename_i state hstate
    refine ⟨rfl, rfl, rfl, rfl, fun hsettled => ?_⟩
    rw [resolveAbandonedCheckpointState, if_pos hsettled] at hstate
    cases hstate

theorem abandon (hstatus : run.status = .inProgress) (endedAt : Int) (reason : Option String) :
    run.Later (run.abandon endedAt reason) :=
  { refl run with
    checkpoints := Table.Follows.grows
      ⟨abandonCheckpoint endedAt, abandonCheckpoint_later endedAt, rfl⟩
    abandoned := fun h => absurd (hstatus.symm.trans h) (by decide) }

theorem putCheckpoint {checkpoint resolved : RunCheckpoint}
    (hids : (run.checkpoints.map RunCheckpoint.id).Nodup) (hmem : checkpoint ∈ run.checkpoints)
    (hlater : CheckpointLater checkpoint resolved) : run.Later (run.putCheckpoint resolved) :=
  { refl run with
    checkpoints :=
      (Table.Follows.replace CheckpointLater.refl hids hmem hlater.id.symm hlater).grows
    abandoned := fun h => ⟨h, rfl⟩ }

theorem verify {checkpoint : RunCheckpoint} {outcome : CheckpointState}
    {verification : Verification} (hids : (run.checkpoints.map RunCheckpoint.id).Nodup)
    (hmem : checkpoint ∈ run.checkpoints) (hpending : checkpoint.state = .pending) :
    run.Later (run.verify checkpoint outcome verification) := by
  have hput : run.Later (run.putCheckpoint (checkpoint.resolve outcome verification)) :=
    putCheckpoint hids hmem ⟨rfl, rfl, rfl, rfl, fun h => absurd hpending h⟩
  exact
    { hput with
      verifications := List.prefix_append _ _
      abandoned := fun h => ⟨h, rfl⟩ }

theorem complete (endedAt : Int) : run.Later (completeIfFinished run endedAt) := by
  unfold completeIfFinished
  split
  · exact refl run
  · rename_i hstatus
    split
    · exact refl run
    · exact { refl run with
              abandoned := fun h => absurd ((not_not.mp hstatus).symm.trans h) (by decide) }

end Run.Later

structure Db.Extends (db later : Db) : Prop where
  routes : Table.Grows SameRoute db.routes later.routes
  runs : Table.Grows Run.Later db.runs later.runs

namespace Db.Extends

theorem same {db later : Db} (hroutes : later.routes = db.routes) (hruns : later.runs = db.runs) :
    db.Extends later where
  routes := by
    rw [hroutes]
    exact .refl SameRoute.refl _
  runs := by
    rw [hruns]
    exact .refl Run.Later.refl _

theorem refl (db : Db) : db.Extends db := same rfl rfl

theorem trans {a b c : Db} (h₁ : a.Extends b) (h₂ : b.Extends c) : a.Extends c :=
  ⟨h₁.routes.trans @SameRoute.trans h₂.routes, h₁.runs.trans @Run.Later.trans h₂.runs⟩

theorem putRoute {route updated : Route} (hmem : route ∈ db.routes)
    (hlater : SameRoute route updated) : db.Extends (db.putRoute updated) where
  routes :=
    (Table.Follows.replace SameRoute.refl db.routes_id hmem hlater.id.symm hlater).grows
  runs := .refl Run.Later.refl _

theorem putRun {run updated : Run} (hmem : run ∈ db.runs) (hlater : run.Later updated) :
    db.Extends (db.putRun updated) where
  routes := .refl SameRoute.refl _
  runs := (Table.Follows.replace Run.Later.refl db.runs_id hmem hlater.id.symm hlater).grows

end Db.Extends

def Db.CheckpointIds (db : Db) : Prop :=
  ∀ run ∈ db.runs, (run.checkpoints.map RunCheckpoint.id).Nodup

theorem Commits.extends {command : Command} {answer : Answer} {db' : Db} (hids : db.CheckpointIds)
    (h : Commits platform db caller env command answer db') : db.Extends db' := by
  cases h with
  | createRoute _ hcreate =>
    obtain ⟨-, hroutes, hruns, -⟩ := Db.createRouteRow_eq_some hcreate
    exact ⟨hroutes ▸ .append SameRoute.refl _ _, hruns ▸ .refl Run.Later.refl _⟩
  | publishVersion hroute =>
    refine .putRoute (Db.findRoute_eq_some hroute).1 ?_
    exact { SameRoute.refl _ with versions := List.prefix_append _ _ }
  | scheduleRun _ _ hcreate =>
    obtain ⟨-, hruns, hroutes, -⟩ := Db.createRunRow_eq_some hcreate
    exact ⟨hroutes ▸ .refl SameRoute.refl _, hruns ▸ .append Run.Later.refl _ _⟩
  | startRun hrun _ hstatus _ hupdated =>
    subst hupdated
    exact .putRun (Db.findRun_eq_some hrun).1 ((Run.Later.start hstatus _ _).trans (.recordAction ..))
  | cancelRun hrun hstatus hupdated =>
    subst hupdated
    exact .putRun (Db.findRun_eq_some hrun).1 ((Run.Later.cancel hstatus _).trans (.recordAction ..))
  | abandonRun hrun hstatus hupdated =>
    subst hupdated
    exact .putRun (Db.findRun_eq_some hrun).1
      ((Run.Later.abandon hstatus _ _).trans (.recordAction ..))
  | verifyCheckpoint hrun _ hcheckpoint _ _ hpending _ _ _ hupdated =>
    subst hupdated
    have hmem := (Db.findRun_eq_some hrun).1
    exact .putRun hmem ((Run.Later.verify (hids _ hmem)
      (Run.findCheckpoint_eq_some hcheckpoint).1 hpending).trans (.complete _))

end Sentinel.Patrol
