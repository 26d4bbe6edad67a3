import Sentinel.Spec.PatrolRunSafety

/-! # Patrol commands and their replays

What a commit leaves behind is never taken back.  Six commands look the key up before anything that
can change; `scheduleRun` judges the operative, his role and his assignment, first. -/

namespace Sentinel.Patrol

open CanonicalJson (canonicalJson)

/-! ## Semantic requests -/

/-- The columns that a definition is compared by. -/
def CheckpointDefinition.meaning (definition : CheckpointDefinition) :
    String × Option String × String × Offsets :=
  (definition.name, definition.zoneId, canonicalLocation definition.location, definition.offsets)

def CheckpointRow.meaning (row : CheckpointRow) : String × Option String × String × Offsets :=
  (row.name, row.zoneId, canonicalLocation row.location, row.offsets)

theorem sameCheckpointDefinitions_iff {rows : List CheckpointRow}
    {definitions : List CheckpointDefinition} :
    sameCheckpointDefinitions rows definitions = true ↔
      rows.map (·.meaning) = definitions.map (·.meaning) := by
  induction rows generalizing definitions with
  | nil => cases definitions <;> simp [sameCheckpointDefinitions]
  | cons row rows ih =>
    cases definitions with
    | nil => simp [sameCheckpointDefinitions]
    | cons definition definitions =>
      rw [List.map_cons, List.map_cons, List.cons.injEq, ← ih]
      simp only [sameCheckpointDefinitions, List.length_cons, Nat.add_right_cancel_iff,
        List.zip_cons_cons, List.all_cons, Bool.and_eq_true, decide_eq_true_eq,
        CheckpointRow.meaning, CheckpointDefinition.meaning, Prod.mk.injEq]
      constructor
      · rintro ⟨hlength, hhead, hall⟩
        exact ⟨hhead, hlength, hall⟩
      · rintro ⟨hhead, hlength, hall⟩
        exact ⟨hlength, hhead, hall⟩

/-- Two requests of one command that mean the same; the identity is apart from this. -/
def SameRequest : Command → Command → Prop
  | .createRoute a, .createRoute b =>
    a.name = b.name ∧ a.checkpoints.map (·.meaning) = b.checkpoints.map (·.meaning)
  | .publishVersion a, .publishVersion b =>
    a.checkpoints.map (·.meaning) = b.checkpoints.map (·.meaning)
  | .scheduleRun a, .scheduleRun b =>
    a.patrolRouteId = b.patrolRouteId ∧ a.assignedOperativeUserId = b.assignedOperativeUserId ∧
      a.incidentId = b.incidentId ∧ a.scheduledStartAt = b.scheduledStartAt
  | .startRun _, .startRun _ | .cancelRun _, .cancelRun _ => True
  | .abandonRun _ a, .abandonRun _ b => a.reason = b.reason
  | .verifyCheckpoint a, .verifyCheckpoint b =>
    a.deviceId = b.deviceId ∧ a.verificationMethod = b.verificationMethod ∧
      canonicalJson a.verificationContext = canonicalJson b.verificationContext ∧
      a.sourceAt = b.sourceAt
  | _, _ => False

/-- Two calls of one actor under one key, in the scope that the command's index has beside them. -/
def SameIdentity (db : Db) (first later : Caller × Command) : Prop :=
  later.1.organisationId = first.1.organisationId ∧ later.1.userId = first.1.userId ∧
    match first.2, later.2 with
    | .createRoute a, .createRoute b => b.siteId = a.siteId ∧ b.idempotencyKey = a.idempotencyKey
    | .publishVersion a, .publishVersion b =>
      b.routeId = a.routeId ∧ b.idempotencyKey = a.idempotencyKey
    | .scheduleRun a, .scheduleRun b => b.idempotencyKey = a.idempotencyKey ∧
      -- the site is the route's
      ∀ route ∈ db.routes, ∀ route' ∈ db.routes, route.id = a.patrolRouteId →
        route'.id = b.patrolRouteId → route'.siteId = route.siteId
    | .startRun a, .startRun b | .cancelRun a, .cancelRun b | .abandonRun a _, .abandonRun b _ =>
      b.runId = a.runId ∧ b.idempotencyKey = a.idempotencyKey
    | .verifyCheckpoint a, .verifyCheckpoint b => b.runId = a.runId ∧
      b.runCheckpointId = a.runCheckpointId ∧ b.idempotencyKey = a.idempotencyKey
    | _, _ => False

/-- The route is in the caller's tenant and in the scope of its roles. -/
def ReachesRoute (db : Db) (caller : Caller) (routeId : String) : Prop :=
  ∃ route ∈ db.routes, route.id = routeId ∧ route.organisationId = caller.organisationId ∧
    caller.siteScope.allows route.siteId = true

/-- The run is in the caller's tenant and in the scope of its roles. -/
def ReachesRun (db : Db) (caller : Caller) (runId : String) : Prop :=
  ∃ run ∈ db.runs, run.id = runId ∧ run.organisationId = caller.organisationId ∧
    caller.siteScope.allows run.siteId = true

/-- The caller may act where the command acts. -/
def Authorised (db : Db) (caller : Caller) : Command → Prop
  | .createRoute input => caller.siteScope.allows input.siteId = true
  | .publishVersion input => ReachesRoute db caller input.routeId
  | .scheduleRun input => ReachesRoute db caller input.patrolRouteId
  | .startRun input | .cancelRun input => ReachesRun db caller input.runId
  | .abandonRun input mode => ReachesRun db caller input.runId ∧
    (mode.isOperative = true → ∀ run ∈ db.runs, run.id = input.runId →
      run.assignedOperativeUserId = caller.userId)
  | .verifyCheckpoint input => ReachesRun db caller input.runId

/-- An answer that replays the record another one established. -/
def Replays (db : Db) : Answer → Answer → Prop
  | .route .created view, .route .duplicate view' => view' = view
  | .run _ run, .run .duplicate run' => run' ∈ db.runs ∧ run'.id = run.id
  | .verification .verified verification _ _, .verification .duplicate verification' _ _ =>
    verification' = verification
  | _, _ => False

/-- A later call is answered by the record, or as a conflict where it means something else. -/
def AnsweredByRecord (db : Db) (first : Command × Answer) (later : Command × Answer) : Prop :=
  (SameRequest first.1 later.1 → Replays db first.2 later.2) ∧
    (¬ SameRequest first.1 later.1 → later.2 = .idempotencyConflict)

theorem not_answeredByRecord_refused {db : Db} {first : Command × Answer} {command : Command}
    {refusal : Refusal} : ¬ AnsweredByRecord db first (command, .refused refusal) := by
  intro h
  by_cases hsame : SameRequest first.1 command
  · have hreplays := h.1 hsame
    unfold Replays at hreplays
    split at hreplays <;> simp_all
  · cases h.2 hsame

/-! ## What a commit establishes -/

section Established

variable {platform : Platform} {db later : Db} {caller : Caller} {env : Env}

/-- The record of a commit, wherever the later histories have taken it. -/
def Established (platform : Platform) (db : Db) (caller : Caller) : Command → Answer → Prop
  | .createRoute input, answer =>
    platform.siteExistsInOrganisation caller.organisationId input.siteId = true ∧
    ∃ route version, db.findCreatedRoute caller input.siteId input.idempotencyKey = some route ∧
      route.findPublished caller.userId input.idempotencyKey = some version ∧
      route.name = input.name ∧
      version.checkpoints.map (·.meaning) = input.checkpoints.map (·.meaning) ∧
      answer = .route .created (route.view version)
  | .publishVersion input, answer => ∃ route ∈ db.routes, ∃ version, route.id = input.routeId ∧
      route.findPublished caller.userId input.idempotencyKey = some version ∧
      version.checkpoints.map (·.meaning) = input.checkpoints.map (·.meaning) ∧
      answer = .route .created (route.view version)
  | .scheduleRun input, answer => ∃ run established,
      db.findScheduledRun caller run.siteId input.idempotencyKey = some run ∧
      (∃ route ∈ db.routes, route.id = input.patrolRouteId ∧ route.siteId = run.siteId) ∧
      run.patrolRouteId = input.patrolRouteId ∧
      run.assignedOperativeUserId = input.assignedOperativeUserId ∧
      run.incidentId = input.incidentId ∧ run.scheduledStartAt = input.scheduledStartAt ∧
      answer = .run .created established ∧ established.id = run.id
  | .startRun input, answer => ∃ run ∈ db.runs, ∃ established, run.id = input.runId ∧
      run.assignedOperativeUserId = caller.userId ∧
      run.hasAction caller.userId .start input.idempotencyKey = true ∧
      answer = .run .updated established ∧ established.id = run.id
  | .cancelRun input, answer => ∃ run ∈ db.runs, ∃ established, run.id = input.runId ∧
      run.hasAction caller.userId .cancel input.idempotencyKey = true ∧
      answer = .run .updated established ∧ established.id = run.id
  | .abandonRun input mode, answer => ∃ run ∈ db.runs, ∃ established, run.id = input.runId ∧
      run.hasAction caller.userId .abandon input.idempotencyKey = true ∧
      run.status = .abandoned ∧ run.abandonReason = mode.reason ∧
      answer = .run .updated established ∧ established.id = run.id
  | .verifyCheckpoint input, answer => ∃ run ∈ db.runs, ∃ checkpoint verification resolved status,
      run.id = input.runId ∧ run.assignedOperativeUserId = caller.userId ∧
      run.findCheckpoint input.runCheckpointId = some checkpoint ∧
      run.findVerification checkpoint.id caller.userId input.idempotencyKey = some verification ∧
      verification.deviceId = input.deviceId ∧
      verification.verificationMethod = input.verificationMethod ∧
      canonicalJson verification.verificationContext = canonicalJson input.verificationContext ∧
      verification.sourceAt = input.sourceAt ∧
      answer = .verification .verified verification resolved status

theorem SameRoute.view {a b : Route} (h : SameRoute a b) (version : RouteVersion) :
    b.view version = a.view version := by
  simp only [Route.view, h.id, h.organisationId, h.siteId, h.name, h.createdByUserId]

theorem SameRoute.findPublished {a b : Route} (h : SameRoute a b) {userId key : String}
    {version : RouteVersion} (hfind : a.findPublished userId key = some version) :
    b.findPublished userId key = some version :=
  h.versions.find?_eq_some hfind

theorem Run.Later.hasAction {a b : Run} (h : a.Later b) {userId key : String} {action : RunAction}
    (haction : a.hasAction userId action key = true) : b.hasAction userId action key = true :=
  List.contains_iff_mem.mpr (h.actions.subset (List.contains_iff_mem.mp haction))

/-- No later history takes a record back. -/
theorem Established.mono {command : Command} {answer : Answer}
    (h : Established platform db caller command answer) (hextends : db.Extends later) :
    Established platform later caller command answer := by
  cases command with
  | createRoute input =>
    obtain ⟨hsite, route, version, hroute, hversion, hname, hmeaning, hanswer⟩ := h
    obtain ⟨route', hroute', hsame⟩ := hextends.routes.find? (fun hab => by
      rw [hab.organisationId, hab.siteId, hab.createdByUserId, hab.idempotencyKey]) hroute
    exact ⟨hsite, route', version, hroute', hsame.findPublished hversion, hsame.name.trans hname,
      hmeaning, by rw [hanswer, hsame.view]⟩
  | publishVersion input =>
    obtain ⟨route, hmem, version, hid, hversion, hmeaning, hanswer⟩ := h
    obtain ⟨route', hmem', hsame⟩ := hextends.routes.exists_later hmem
    exact ⟨route', hmem', version, hsame.id.trans hid, hsame.findPublished hversion, hmeaning,
      by rw [hanswer, hsame.view]⟩
  | scheduleRun input =>
    obtain ⟨run, established, hrun, ⟨route, hmem, hid, hsite⟩, hroute, hoperative, hincident,
      hstart, hanswer, hestablished⟩ := h
    obtain ⟨run', hrun', hsame⟩ := hextends.runs.find? (fun hab => by
      rw [hab.organisationId, hab.siteId, hab.createdByUserId, hab.idempotencyKey]) hrun
    obtain ⟨route', hmem', hsameRoute⟩ := hextends.routes.exists_later hmem
    refine ⟨run', established, ?_, ⟨route', hmem', hsameRoute.id.trans hid, ?_⟩,
      hsame.patrolRouteId.trans hroute, hsame.assignedOperativeUserId.trans hoperative,
      hsame.incidentId.trans hincident, hsame.scheduledStartAt.trans hstart, hanswer,
      hestablished.trans hsame.id.symm⟩
    · rw [hsame.siteId]
      exact hrun'
    · rw [hsameRoute.siteId, hsite, hsame.siteId]
  | startRun input =>
    obtain ⟨run, hmem, established, hid, hassigned, haction, hanswer, hestablished⟩ := h
    obtain ⟨run', hmem', hsame⟩ := hextends.runs.exists_later hmem
    exact ⟨run', hmem', established, hsame.id.trans hid,
      hsame.assignedOperativeUserId.trans hassigned, hsame.hasAction haction, hanswer,
      hestablished.trans hsame.id.symm⟩
  | cancelRun input =>
    obtain ⟨run, hmem, established, hid, haction, hanswer, hestablished⟩ := h
    obtain ⟨run', hmem', hsame⟩ := hextends.runs.exists_later hmem
    exact ⟨run', hmem', established, hsame.id.trans hid, hsame.hasAction haction, hanswer,
      hestablished.trans hsame.id.symm⟩
  | abandonRun input mode =>
    obtain ⟨run, hmem, established, hid, haction, hstatus, hreason, hanswer, hestablished⟩ := h
    obtain ⟨run', hmem', hsame⟩ := hextends.runs.exists_later hmem
    obtain ⟨hstatus', hreason'⟩ := hsame.abandoned hstatus
    exact ⟨run', hmem', established, hsame.id.trans hid, hsame.hasAction haction, hstatus',
      hreason'.trans hreason, hanswer, hestablished.trans hsame.id.symm⟩
  | verifyCheckpoint input =>
    obtain ⟨run, hmem, checkpoint, verification, resolved, status, hid, hassigned, hcheckpoint,
      hverification, hdevice, hmethod, hcontext, hsource, hanswer⟩ := h
    obtain ⟨run', hmem', hsame⟩ := hextends.runs.exists_later hmem
    obtain ⟨checkpoint', hcheckpoint', hlater⟩ :=
      hsame.checkpoints.find? (fun hab => by rw [hab.id]) hcheckpoint
    refine ⟨run', hmem', checkpoint', verification, resolved, status, hsame.id.trans hid,
      hsame.assignedOperativeUserId.trans hassigned, hcheckpoint', ?_, hdevice, hmethod, hcontext,
      hsource, hanswer⟩
    rw [hlater.id]
    exact hsame.verifications.find?_eq_some hverification

/-! ### At the commit -/

theorem canonicalLocation_jsonb
    (hjsonb : ∀ value, canonicalJson (platform.jsonb value) = canonicalJson value)
    (location : Option CanonicalJson.Json) :
    canonicalLocation (location.map platform.jsonb) = canonicalLocation location := by
  cases location with
  | none => rfl
  | some location => exact hjsonb location

theorem map_meaning_createCheckpointRows
    (hjsonb : ∀ value, canonicalJson (platform.jsonb value) = canonicalJson value) (ids : Ids)
    (checkpoints : List CheckpointDefinition) :
    (createCheckpointRows platform ids checkpoints).map (·.meaning) =
      checkpoints.map (·.meaning) := by
  refine List.ext_getElem (by simp [createCheckpointRows]) fun i _ _ => ?_
  simp only [createCheckpointRows, List.getElem_map, List.getElem_mapIdx, CheckpointRow.meaning,
    CheckpointDefinition.meaning, canonicalLocation_jsonb hjsonb]

theorem mem_putRun {run updated : Run} (hmem : run ∈ db.runs) (hid : updated.id = run.id) :
    updated ∈ (db.putRun updated).runs :=
  Table.mem_replace_self hmem hid.symm

theorem hasAction_recordAction (run : Run) (userId key : String) (action : RunAction) :
    (run.recordAction userId action key).hasAction userId action key = true :=
  List.contains_iff_mem.mpr (List.mem_append_right _ (List.mem_singleton.mpr rfl))

theorem completeIfFinished_verifications (run : Run) (now : Int) :
    (completeIfFinished run now).verifications = run.verifications := by
  unfold completeIfFinished
  split
  · rfl
  · split <;> rfl

theorem Commits.established
    (hjsonb : ∀ value, canonicalJson (platform.jsonb value) = canonicalJson value)
    {command : Command} {answer : Answer} (hids : db.CheckpointIds)
    (h : Commits platform db caller env command answer later) :
    Established platform later caller command answer := by
  cases h with
  | @createRoute input _ hsite hcreate =>
    obtain ⟨hadmits, hroutes, -⟩ := Db.createRouteRow_eq_some hcreate
    refine ⟨hsite, newRoute platform caller input env, _, ?_, ?_, rfl,
      map_meaning_createCheckpointRows hjsonb env.ids input.checkpoints, rfl⟩
    · rw [Db.findCreatedRoute, hroutes]
      refine List.find?_concat (fun old hold => decide_eq_false fun hsame => ?_)
        (decide_eq_true ⟨rfl, rfl, rfl, rfl⟩)
      refine hadmits.2 old hold ?_
      rw [hsame.1, hsame.2.1, hsame.2.2.1, hsame.2.2.2]
      rfl
    · exact List.find?_cons_of_pos (decide_eq_true ⟨rfl, rfl⟩)
  | @publishVersion input route hroute hnew =>
    obtain ⟨hmem, hid, -⟩ := Db.findRoute_eq_some hroute
    refine ⟨_, Table.mem_replace_self hmem rfl, _, hid, ?_,
      map_meaning_createCheckpointRows hjsonb env.ids input.checkpoints, rfl⟩
    refine List.find?_concat (fun old hold => ?_) (decide_eq_true ⟨rfl, rfl⟩)
    exact Bool.eq_false_iff.mpr (List.find?_eq_none.mp hnew old hold)
  | @scheduleRun input route _ hroute hincident hcreate =>
    obtain ⟨hadmits, hruns, hroutes, -⟩ := Db.createRunRow_eq_some hcreate
    obtain ⟨hmem, hid, -⟩ := Db.findRoute_eq_some hroute
    refine ⟨newRun caller route input env.id, _, ?_, ⟨route, hroutes ▸ hmem, hid, rfl⟩, hid, rfl,
      rfl, rfl, rfl, rfl⟩
    rw [Db.findScheduledRun, hruns]
    refine List.find?_concat (fun old hold => decide_eq_false fun hsame => ?_)
      (decide_eq_true ⟨rfl, rfl, rfl, rfl⟩)
    refine hadmits.2 old hold ?_
    rw [hsame.1, hsame.2.1, hsame.2.2.1, hsame.2.2.2]
    rfl
  | startRun hrun hassigned _ _ hupdated =>
    subst hupdated
    obtain ⟨hmem, hid, -⟩ := Db.findRun_eq_some hrun
    exact ⟨_, mem_putRun hmem rfl, _, hid, hassigned, hasAction_recordAction _ _ _ _, rfl, rfl⟩
  | cancelRun hrun _ hupdated =>
    subst hupdated
    obtain ⟨hmem, hid, -⟩ := Db.findRun_eq_some hrun
    exact ⟨_, mem_putRun hmem rfl, _, hid, hasAction_recordAction _ _ _ _, rfl, rfl⟩
  | abandonRun hrun _ hupdated =>
    subst hupdated
    obtain ⟨hmem, hid, -⟩ := Db.findRun_eq_some hrun
    exact ⟨_, mem_putRun hmem rfl, _, hid, hasAction_recordAction _ _ _ _, rfl, rfl, rfl, rfl⟩
  | @verifyCheckpoint input run updated checkpoint outcome verification hrun hassigned hcheckpoint
      hnew _ hpending _ _ hverification hupdated =>
    obtain ⟨hmem, hid, -⟩ := Db.findRun_eq_some hrun
    have hlater : run.Later updated := by
      rw [hupdated]
      exact (Run.Later.verify (hids _ hmem) (Run.findCheckpoint_eq_some hcheckpoint).1
        hpending).trans (.complete _)
    obtain ⟨checkpoint', hcheckpoint', hsame⟩ :=
      hlater.checkpoints.find? (fun hab => by rw [hab.id]) hcheckpoint
    have hfound : updated.findVerification checkpoint.id caller.userId input.idempotencyKey =
        some verification := by
      rw [Run.findVerification, hupdated, completeIfFinished_verifications]
      refine List.find?_concat (fun old hold => ?_) ?_
      · exact Bool.eq_false_iff.mpr (List.find?_eq_none.mp hnew old hold)
      · rw [hverification]
        exact decide_eq_true ⟨rfl, rfl, rfl⟩
    refine ⟨updated, mem_putRun hmem hlater.id, checkpoint', verification, _, _,
      hlater.id.trans hid, hlater.assignedOperativeUserId.trans hassigned, hcheckpoint', ?_, ?_, ?_,
      ?_, ?_, rfl⟩
    · rw [hsame.id]
      exact hfound
    · rw [hverification]
      rfl
    · rw [hverification]
      rfl
    · rw [hverification]
      exact hjsonb input.verificationContext
    · rw [hverification]
      rfl

end Established

/-! ## The later call -/

section Later

variable {platform : Platform} {db : Db} {first caller : Caller} {env : Env} {answer : Answer}

theorem findRoute_of_mem {route : Route} (hmem : route ∈ db.routes)
    (horganisation : route.organisationId = caller.organisationId)
    (hscope : caller.siteScope.allows route.siteId = true) :
    db.findRoute caller.organisationId route.id caller.siteScope = some route :=
  Table.find?_eq_some db.routes_id hmem ⟨rfl, horganisation, hscope⟩ fun _ hother => hother.1

theorem findRun_of_mem {run : Run} (hmem : run ∈ db.runs)
    (horganisation : run.organisationId = caller.organisationId)
    (hscope : caller.siteScope.allows run.siteId = true) :
    db.findRun caller.organisationId run.id caller.siteScope = some run :=
  Table.find?_eq_some db.runs_id hmem ⟨rfl, horganisation, hscope⟩ fun _ hother => hother.1

theorem findRun_of_reaches {run : Run} {runId : String} (h : ReachesRun db caller runId)
    (hmem : run ∈ db.runs) (hid : run.id = runId) :
    db.findRun caller.organisationId runId caller.siteScope = some run := by
  obtain ⟨reached, hreached, hreachedId, horganisation, hscope⟩ := h
  obtain rfl := Table.eq_of_key db.runs_id hmem hreached (hid.trans hreachedId.symm)
  rw [← hid]
  exact findRun_of_mem hmem horganisation hscope

theorem findRoute_of_reaches {route : Route} {routeId : String}
    (h : ReachesRoute db caller routeId) (hmem : route ∈ db.routes) (hid : route.id = routeId) :
    db.findRoute caller.organisationId routeId caller.siteScope = some route := by
  obtain ⟨reached, hreached, hreachedId, horganisation, hscope⟩ := h
  obtain rfl := Table.eq_of_key db.routes_id hmem hreached (hid.trans hreachedId.symm)
  rw [← hid]
  exact findRoute_of_mem hmem horganisation hscope

/-- A call that passes is answered by the record and writes nothing; any other is refused. -/
def Decided (db : Db) (first : Command × Answer) (command : Command) (result : Db × Answer)
    (passes : Prop) : Prop :=
  (passes → result.1 = db ∧ AnsweredByRecord db first (command, result.2)) ∧
    (¬ passes → ∃ refusal, result.2 = .refused refusal)

theorem Decided.iff {first : Command × Answer} {command : Command} {result : Db × Answer}
    {passes : Prop} (h : Decided db first command result passes) :
    result.1 = db ∧ AnsweredByRecord db first (command, result.2) ↔ passes := by
  refine ⟨fun hanswered => ?_, h.1⟩
  by_contra hrefused
  obtain ⟨refusal, hrefusal⟩ := h.2 hrefused
  rw [hrefusal] at hanswered
  exact not_answeredByRecord_refused hanswered.2

theorem createRoute_decided {input₀ input : CreateRouteInput}
    (h : Established platform db first (.createRoute input₀) answer)
    (hidentity : SameIdentity db (first, .createRoute input₀) (caller, .createRoute input))
    (hauthorised : Authorised db caller (.createRoute input)) :
    Decided db (.createRoute input₀, answer) (.createRoute input)
      (createRoute platform db caller input env)
      (zonesExist platform input.siteId input.checkpoints = true) := by
  obtain ⟨hsite, route, version, hroute, hversion, hname, hmeaning, rfl⟩ := h
  obtain ⟨horganisation, huser, hinputSite, hkey⟩ := hidentity
  have hscope : caller.siteScope.allows input.siteId = true := hauthorised
  have hfound : db.findCreatedRoute caller input.siteId input.idempotencyKey = some route := by
    have horg : caller.organisationId = first.organisationId := horganisation
    have husr : caller.userId = first.userId := huser
    rw [Db.findCreatedRoute, horg, husr, hinputSite, hkey]
    exact hroute
  have hpublished : route.findPublished caller.userId input.idempotencyKey = some version := by
    have husr : caller.userId = first.userId := huser
    rw [husr, hkey]
    exact hversion
  have hexists : platform.siteExistsInOrganisation caller.organisationId input.siteId = true := by
    have horg : caller.organisationId = first.organisationId := horganisation
    rw [horg, hinputSite]
    exact hsite
  have htaken : db.createRouteRow (newRoute platform caller input env) = none := by
    refine dif_neg fun hadmits => ?_
    obtain ⟨hmem, h₁, h₂, h₃, h₄⟩ := Table.of_find? hfound
    refine hadmits.2 route hmem ?_
    rw [h₁, h₂, h₃, h₄]
    rfl
  refine ⟨fun hzones => ?_, fun hzones => ⟨.zonesUnknown, ?_⟩⟩
  · have heq : createRoute platform db caller input env =
        (db, replayCreateRoute db caller input) := by
      simp only [createRoute, hscope, hexists, hzones, htaken, Bool.not_true, Bool.false_eq_true,
        if_false]
    rw [heq]
    refine ⟨rfl, fun hsame => ?_, fun hdifferent => ?_⟩
    · have hsameRows : sameCheckpointDefinitions version.checkpoints input.checkpoints = true :=
        sameCheckpointDefinitions_iff.mpr (hmeaning.trans hsame.2)
      have hsameName : route.name = input.name := hname.trans hsame.1
      simp only [replayCreateRoute, hfound, hpublished, hsameRows, hsameName, ne_eq,
        not_true_eq_false, Bool.not_true, Bool.false_eq_true, or_self, if_false]
      rfl
    · have hconflict : route.name ≠ input.name ∨
          (!sameCheckpointDefinitions version.checkpoints input.checkpoints) = true := by
        by_contra hneither
        rw [not_or, not_not, Bool.not_eq_true', Bool.not_eq_false] at hneither
        exact hdifferent ⟨hname.symm.trans hneither.1,
          hmeaning.symm.trans (sameCheckpointDefinitions_iff.mp hneither.2)⟩
      simp only [replayCreateRoute, hfound, hpublished]
      rw [if_pos hconflict]
  · simp only [createRoute, hscope, hexists, hzones, Bool.not_true, Bool.false_eq_true, if_false,
      Bool.not_false, if_true]

/-- The zones of a version that is published exist, as far as the caller reaches the route. -/
def publishZonesExist (platform : Platform) (db : Db) (caller : Caller)
    (input : PublishVersionInput) : Prop :=
  ∀ route, db.findRoute caller.organisationId input.routeId caller.siteScope = some route →
    zonesExist platform route.siteId input.checkpoints = true

theorem publishVersion_decided {input₀ input : PublishVersionInput}
    (h : Established platform db first (.publishVersion input₀) answer)
    (hidentity : SameIdentity db (first, .publishVersion input₀) (caller, .publishVersion input))
    (hauthorised : Authorised db caller (.publishVersion input)) :
    Decided db (.publishVersion input₀, answer) (.publishVersion input)
      (publishVersion platform db caller input env) (publishZonesExist platform db caller input) := by
  obtain ⟨route, hmem, version, hid, hversion, hmeaning, rfl⟩ := h
  obtain ⟨-, huser, hrouteId, hkey⟩ := hidentity
  have hfound : db.findRoute caller.organisationId input.routeId caller.siteScope = some route :=
    findRoute_of_reaches hauthorised hmem (hid.trans hrouteId.symm)
  have hpublished : route.findPublished caller.userId input.idempotencyKey = some version := by
    have husr : caller.userId = first.userId := huser
    rw [husr, hkey]
    exact hversion
  refine ⟨fun hzones => ?_, fun hzones => ⟨.zonesUnknown, ?_⟩⟩
  · have hexist := hzones route hfound
    by_cases hsame : sameCheckpointDefinitions version.checkpoints input.checkpoints = true
    · have heq : publishVersion platform db caller input env =
          (db, .route .duplicate (route.view version)) := by
        simp only [publishVersion, hfound, hexist, hpublished, hsame, Bool.not_true,
          Bool.false_eq_true, if_false]
      rw [heq]
      refine ⟨rfl, fun _ => rfl, fun hdifferent => (hdifferent ?_).elim⟩
      exact hmeaning.symm.trans (sameCheckpointDefinitions_iff.mp hsame)
    · have heq : publishVersion platform db caller input env = (db, .idempotencyConflict) := by
        simp only [publishVersion, hfound, hexist, hpublished, hsame, Bool.not_true,
          Bool.false_eq_true, if_false, Bool.not_false, if_true]
      rw [heq]
      refine ⟨rfl, fun hsameRequest => (hsame ?_).elim, fun _ => rfl⟩
      exact sameCheckpointDefinitions_iff.mpr (hmeaning.trans hsameRequest)
  · have hexist : zonesExist platform route.siteId input.checkpoints = false := by
      refine Bool.eq_false_iff.mpr fun hexist => hzones fun other hother => ?_
      rw [hfound] at hother
      exact Option.some.inj hother ▸ hexist
    simp only [publishVersion, hfound, hexist, Bool.not_false, if_true]

/-- The incident of a schedule is in scope, and the operative has an assignment that allows it. -/
def incidentEligible (platform : Platform) (db : Db) (caller : Caller) (input : ScheduleRunInput) :
    Prop :=
  ∀ route, db.findRoute caller.organisationId input.patrolRouteId caller.siteScope = some route →
    checkIncident platform db caller route.siteId input = none

theorem scheduleRun_decided {input₀ input : ScheduleRunInput} {id : String}
    (h : Established platform db first (.scheduleRun input₀) answer)
    (hidentity : SameIdentity db (first, .scheduleRun input₀) (caller, .scheduleRun input))
    (hauthorised : Authorised db caller (.scheduleRun input)) :
    Decided db (.scheduleRun input₀, answer) (.scheduleRun input)
      (scheduleRun platform db caller input id) (incidentEligible platform db caller input) := by
  obtain ⟨run, established, hrun, ⟨route₀, hmem₀, hid₀, hsite₀⟩, hroute, hoperative, hincident,
    hstart, rfl, hestablished⟩ := h
  obtain ⟨horganisation, huser, hkey, hsites⟩ := hidentity
  obtain ⟨route, hmem, hid, horg, hscope⟩ := hauthorised
  have hfound : db.findRoute caller.organisationId input.patrolRouteId caller.siteScope =
      some route := by
    rw [← hid]
    exact findRoute_of_mem hmem horg hscope
  have hsite : route.siteId = run.siteId := by
    rw [hsites route₀ hmem₀ route hmem hid₀ hid, hsite₀]
  have hscheduled : db.findScheduledRun caller route.siteId input.idempotencyKey = some run := by
    have horg' : caller.organisationId = first.organisationId := horganisation
    have husr : caller.userId = first.userId := huser
    rw [Db.findScheduledRun, horg', husr, hsite, hkey]
    exact hrun
  have htaken : db.createRunRow (newRun caller route input id) = none := by
    refine dif_neg fun hadmits => ?_
    obtain ⟨hmemRun, h₁, h₂, h₃, h₄⟩ := Table.of_find? hscheduled
    refine hadmits.2 run hmemRun ?_
    rw [h₁, h₂, h₃, h₄]
    rfl
  refine ⟨fun heligible => ?_, fun hineligible => ?_⟩
  · have heq : scheduleRun platform db caller input id =
        (db, replaySchedule db caller route.siteId input) := by
      simp only [scheduleRun, hfound, heligible route hfound, htaken]
    rw [heq, replaySchedule, hscheduled]
    dsimp only
    refine ⟨rfl, fun hsame => ?_, fun hdifferent => ?_⟩
    · obtain ⟨hsameRoute, hsameOperative, hsameIncident, hsameStart⟩ := hsame
      rw [if_pos ⟨hroute.trans hsameRoute, hoperative.trans hsameOperative,
        hincident.trans hsameIncident, hstart.trans hsameStart⟩]
      exact ⟨List.mem_of_find?_eq_some hscheduled, hestablished.symm⟩
    · refine if_neg fun hsame => hdifferent ?_
      exact ⟨hroute.symm.trans hsame.1, hoperative.symm.trans hsame.2.1,
        hincident.symm.trans hsame.2.2.1, hstart.symm.trans hsame.2.2.2⟩
  · cases hcheck : checkIncident platform db caller route.siteId input with
    | none =>
      refine (hineligible fun other hother => ?_).elim
      rw [hfound] at hother
      exact Option.some.inj hother ▸ hcheck
    | some refusal =>
      refine ⟨refusal, ?_⟩
      simp only [scheduleRun, hfound, hcheck]

/-- A call that looks its key up before anything that changes. -/
theorem Decided.always {first : Command × Answer} {command : Command} {answer : Answer}
    (h : AnsweredByRecord db first (command, answer)) :
    Decided db first command (db, answer) True :=
  ⟨fun _ => ⟨rfl, h⟩, fun hnever => (hnever trivial).elim⟩

theorem startRun_decided {input₀ input : RunActionInput}
    (h : Established platform db first (.startRun input₀) answer)
    (hidentity : SameIdentity db (first, .startRun input₀) (caller, .startRun input))
    (hauthorised : Authorised db caller (.startRun input)) :
    Decided db (.startRun input₀, answer) (.startRun input) (startRun db caller input env) True := by
  obtain ⟨run, hmem, established, hid, hassigned, haction, rfl, hestablished⟩ := h
  obtain ⟨-, huser, hrunId, hkey⟩ := hidentity
  have husr : caller.userId = first.userId := huser
  have hfound := findRun_of_reaches hauthorised hmem (hid.trans hrunId.symm)
  rw [← husr] at hassigned haction
  rw [← hkey] at haction
  have heq : startRun db caller input env = (db, .run .duplicate run) := by
    simp only [startRun, hfound, hassigned, haction, ne_eq, not_true_eq_false, if_false, if_true]
  rw [heq]
  exact .always ⟨fun _ => ⟨hmem, hestablished.symm⟩, fun hdifferent => (hdifferent trivial).elim⟩

theorem cancelRun_decided {input₀ input : RunActionInput}
    (h : Established platform db first (.cancelRun input₀) answer)
    (hidentity : SameIdentity db (first, .cancelRun input₀) (caller, .cancelRun input))
    (hauthorised : Authorised db caller (.cancelRun input)) :
    Decided db (.cancelRun input₀, answer) (.cancelRun input) (cancelRun db caller input env)
      True := by
  obtain ⟨run, hmem, established, hid, haction, rfl, hestablished⟩ := h
  obtain ⟨-, huser, hrunId, hkey⟩ := hidentity
  have husr : caller.userId = first.userId := huser
  have hfound := findRun_of_reaches hauthorised hmem (hid.trans hrunId.symm)
  rw [← husr, ← hkey] at haction
  have heq : cancelRun db caller input env = (db, .run .duplicate run) := by
    simp only [cancelRun, hfound, haction, if_true]
  rw [heq]
  exact .always ⟨fun _ => ⟨hmem, hestablished.symm⟩, fun hdifferent => (hdifferent trivial).elim⟩

theorem abandonRun_decided {input₀ input : RunActionInput} {mode₀ mode : AbandonMode}
    (h : Established platform db first (.abandonRun input₀ mode₀) answer)
    (hidentity : SameIdentity db (first, .abandonRun input₀ mode₀) (caller, .abandonRun input mode))
    (hauthorised : Authorised db caller (.abandonRun input mode)) :
    Decided db (.abandonRun input₀ mode₀, answer) (.abandonRun input mode)
      (abandonRun db caller input mode env) True := by
  obtain ⟨run, hmem, established, hid, haction, -, hreason, rfl, hestablished⟩ := h
  obtain ⟨-, huser, hrunId, hkey⟩ := hidentity
  obtain ⟨hreaches, hoperative⟩ := hauthorised
  have husr : caller.userId = first.userId := huser
  have hfound := findRun_of_reaches hreaches hmem (hid.trans hrunId.symm)
  rw [← husr, ← hkey] at haction
  have hvisible : ¬ (mode.isOperative = true ∧ run.assignedOperativeUserId ≠ caller.userId) :=
    fun hhidden => hhidden.2 (hoperative hhidden.1 run hmem (hid.trans hrunId.symm))
  by_cases hsame : mode₀.reason = mode.reason
  · have heq : abandonRun db caller input mode env = (db, .run .duplicate run) := by
      simp only [abandonRun, hfound, if_neg hvisible, haction, if_true]
      rw [if_neg (not_not_intro (hsame.symm.trans hreason.symm))]
    rw [heq]
    exact .always ⟨fun _ => ⟨hmem, hestablished.symm⟩, fun hdifferent => (hdifferent hsame).elim⟩
  · have hother : mode.reason ≠ run.abandonReason := fun heq => hsame (heq.trans hreason).symm
    have heq : abandonRun db caller input mode env = (db, .idempotencyConflict) := by
      simp only [abandonRun, hfound, if_neg hvisible, haction, if_true]
      rw [if_pos hother]
    rw [heq]
    exact .always ⟨fun hsameRequest => (hsame hsameRequest).elim, fun _ => rfl⟩

theorem verifyCheckpoint_decided {input₀ input : VerifyInput}
    (h : Established platform db first (.verifyCheckpoint input₀) answer)
    (hidentity : SameIdentity db (first, .verifyCheckpoint input₀) (caller, .verifyCheckpoint input))
    (hauthorised : Authorised db caller (.verifyCheckpoint input)) :
    Decided db (.verifyCheckpoint input₀, answer) (.verifyCheckpoint input)
      (verifyCheckpoint platform db caller input env) True := by
  obtain ⟨run, hmem, checkpoint, verification, resolved, status, hid, hassigned, hcheckpoint,
    hverification, hdevice, hmethod, hcontext, hsource, rfl⟩ := h
  obtain ⟨-, huser, hrunId, hcheckpointId, hkey⟩ := hidentity
  have husr : caller.userId = first.userId := huser
  have hfound := findRun_of_reaches hauthorised hmem (hid.trans hrunId.symm)
  rw [← husr] at hassigned hverification
  rw [← hkey] at hverification
  rw [← hcheckpointId] at hcheckpoint
  by_cases hsame : sameVerification verification input = true
  · have heq : verifyCheckpoint platform db caller input env =
        (db, .verification .duplicate verification checkpoint run.status) := by
      simp only [verifyCheckpoint, hfound, hassigned, hcheckpoint, hverification, hsame, ne_eq,
        not_true_eq_false, if_false, Bool.not_true, Bool.false_eq_true]
    rw [heq]
    refine .always ⟨fun _ => rfl, fun hdifferent => (hdifferent ?_).elim⟩
    obtain ⟨hsameDevice, hsameMethod, hsameContext, hsameSource⟩ := of_decide_eq_true hsame
    exact ⟨hdevice.symm.trans hsameDevice, hmethod.symm.trans hsameMethod,
      hcontext.symm.trans hsameContext, hsource.symm.trans hsameSource⟩
  · have heq : verifyCheckpoint platform db caller input env = (db, .idempotencyConflict) := by
      simp only [verifyCheckpoint, hfound, hassigned, hcheckpoint, hverification, hsame, ne_eq,
        not_true_eq_false, if_false, Bool.not_false, if_true]
    rw [heq]
    refine .always ⟨fun hsameRequest => (hsame ?_).elim, fun _ => rfl⟩
    obtain ⟨hsameDevice, hsameMethod, hsameContext, hsameSource⟩ := hsameRequest
    exact decide_eq_true ⟨hdevice.trans hsameDevice, hmethod.trans hsameMethod,
      hcontext.trans hsameContext, hsource.trans hsameSource⟩

end Later

/-! ## Runs -/

section Runs

variable {platform : Platform}

def answered (platform : Platform) (s : State) (label : Label) : Option (Caller × Command × Answer) :=
  (s.call platform label).bind (·.2)

/-- The calls of a run with their answers, in order. -/
def answers (platform : Platform) (labels : List Label) : List (Caller × Command × Answer) :=
  Transition.trace (step platform) (answered platform) .init labels

/-- A commit that a step answers stands in the tables it leaves. -/
theorem established_of_answered
    (hjsonb : ∀ value, canonicalJson (platform.jsonb value) = canonicalJson value) {s s' : State}
    {label : Label} {caller : Caller} {command : Command} {answer : Answer} (hsound : s.Sound)
    (hcall : s.call platform label = some (s', some (caller, command, answer)))
    (hcommit : answer.isCommit = true) : Established platform s'.db caller command answer := by
  have hids : s.db.CheckpointIds := Db.Sound.checkpointIds hsound
  have hhandled : ∀ {env : Env} {result : Db × Answer},
      Handled platform s.db caller env command result → result.2.isCommit = true →
        Established platform result.1 caller command result.2 := by
    intro env result hhandled hcommit
    cases hhandled with
    | inl kept =>
      rw [kept.2] at hcommit
      cases hcommit
    | inr commits => exact commits.established hjsonb hids
  cases label with
  | call caller' command' env =>
    simp only [State.call] at hcall
    split at hcall
    · cases hcall
    · split at hcall
      · rename_i hexecute
        cases hcall
        exact hhandled (execute_cases hexecute) hcommit
      · cases hcall
      · cases hcall
  | commitSchedule i env =>
    simp only [State.call] at hcall
    split at hcall
    · cases hcall
    · split at hcall
      · cases hcall
      · cases hcall
        exact hhandled (scheduleRun_cases _) hcommit
  | sweep runId checkpointId now =>
    simp only [State.call] at hcall
    split at hcall <;> cases hcall
  | assignments rows => cases hcall
  | roles rows => cases hcall

/-- Every record that was committed in a run stands at its end. -/
theorem established_run
    (hjsonb : ∀ value, canonicalJson (platform.jsonb value) = canonicalJson value)
    {labels : List Label} {s : State}
    (hrun : Transition.run (step platform) .init labels = some s) :
    ∀ entry ∈ answers platform labels, entry.2.2.isCommit = true →
      Established platform s.db entry.1 entry.2.1 entry.2.2 := by
  have hstep : ∀ {s : State} {log : List (Caller × Command × Answer)} {label : Label} {s' : State},
      (s.Sound ∧ ∀ entry ∈ log, entry.2.2.isCommit = true →
        Established platform s.db entry.1 entry.2.1 entry.2.2) → True →
      step platform s label = some s' →
      s'.Sound ∧ ∀ entry ∈ log ++ (answered platform s label).toList, entry.2.2.isCommit = true →
        Established platform s'.db entry.1 entry.2.1 entry.2.2 := by
    intro s log label s' h _ hstep
    obtain ⟨hsound, hlog⟩ := h
    have hextends : s.db.Extends s'.db :=
      (dbStep_of_step hstep).2.extends (Db.Sound.checkpointIds hsound)
    refine ⟨hsound.step hstep, fun entry hentry hcommit => ?_⟩
    cases List.mem_append.mp hentry with
    | inl hold => exact (hlog entry hold hcommit).mono hextends
    | inr hnew =>
      obtain ⟨⟨next, reply⟩, hcall, rfl⟩ := Option.map_eq_some_iff.mp hstep
      rw [answered, hcall, Option.bind_some, Option.mem_toList] at hnew
      have hreply : reply = some entry := hnew
      subst hreply
      exact established_of_answered hjsonb hsound hcall hcommit
  have hall : Transition.RunAll (step platform) (fun _ _ => True) State.init labels :=
    Transition.runAll_of_forall fun _ _ => trivial
  have hinit : State.init.Sound ∧ ∀ entry ∈ ([] : List (Caller × Command × Answer)),
      entry.2.2.isCommit = true →
        Established platform State.init.db entry.1 entry.2.1 entry.2.2 :=
    ⟨State.Sound.init, fun _ hentry => (List.not_mem_nil hentry).elim⟩
  have hend := Transition.runAll_trace_invariant (answered platform)
    (fun (s : State) log => s.Sound ∧ ∀ entry ∈ log, entry.2.2.isCommit = true →
      Established platform s.db entry.1 entry.2.1 entry.2.2) hstep hinit hall hrun
  exact hend.2

/-- The validations that a command meets before its key is looked up. -/
def PassesChecks (platform : Platform) (db : Db) (caller : Caller) : Command → Prop
  | .createRoute input => zonesExist platform input.siteId input.checkpoints = true
  | .publishVersion input => publishZonesExist platform db caller input
  -- the role of the operative
  | .scheduleRun input => checkSchedule db caller input = none
  | .startRun _ | .cancelRun _ | .abandonRun .. | .verifyCheckpoint _ => True

/-- A command in one transaction, under a key that is taken. -/
theorem execute_decided {db : Db} {first caller : Caller} {env : Env} {command₀ command : Command}
    {answer₀ : Answer} {result : Db × Answer}
    (hestablished : Established platform db first command₀ answer₀)
    (hidentity : SameIdentity db (first, command₀) (caller, command))
    (hauthorised : Authorised db caller command)
    (hexecute : execute platform db caller env command = some result) :
    Decided db (command₀, answer₀) command result (PassesChecks platform db caller command) := by
  cases command with
  | createRoute input =>
    cases hexecute
    cases command₀ with
    | createRoute input₀ => exact createRoute_decided hestablished hidentity hauthorised
    | _ => exact hidentity.2.2.elim
  | publishVersion input =>
    cases hexecute
    cases command₀ with
    | publishVersion input₀ => exact publishVersion_decided hestablished hidentity hauthorised
    | _ => exact hidentity.2.2.elim
  | scheduleRun input =>
    obtain ⟨refusal, hcheck, rfl⟩ := Option.map_eq_some_iff.mp hexecute
    refine ⟨fun hpasses => ?_, fun _ => ⟨refusal, rfl⟩⟩
    cases hcheck.symm.trans hpasses
  | startRun input =>
    cases hexecute
    cases command₀ with
    | startRun input₀ => exact startRun_decided hestablished hidentity hauthorised
    | _ => exact hidentity.2.2.elim
  | cancelRun input =>
    cases hexecute
    cases command₀ with
    | cancelRun input₀ => exact cancelRun_decided hestablished hidentity hauthorised
    | _ => exact hidentity.2.2.elim
  | abandonRun input mode =>
    cases hexecute
    cases command₀ with
    | abandonRun input₀ mode₀ => exact abandonRun_decided hestablished hidentity hauthorised
    | _ => exact hidentity.2.2.elim
  | verifyCheckpoint input =>
    cases hexecute
    cases command₀ with
    | verifyCheckpoint input₀ => exact verifyCheckpoint_decided hestablished hidentity hauthorised
    | _ => exact hidentity.2.2.elim

/-- The validations that the step of a call meets before its key is looked up. -/
def Passes (platform : Platform) (s : State) : Label → Prop
  | .call caller command _ => PassesChecks platform s.db caller command
  | .commitSchedule i _ => ∀ caller input, s.scheduling[i]? = some (caller, input) →
    incidentEligible platform s.db caller input
  | .sweep .. | .assignments _ | .roles _ => True

/-- **Patrol commands replay** exactly where the later call passes the validations that come
    before the lookup of its key. -/
theorem replay_stable
    (hjsonb : ∀ value, canonicalJson (platform.jsonb value) = canonicalJson value)
    {labels : List Label} {s s' : State} {label : Label} {first caller : Caller}
    {command₀ command : Command} {answer₀ answer : Answer}
    (hrun : Transition.run (step platform) .init labels = some s)
    (hlog : (first, command₀, answer₀) ∈ answers platform labels)
    (hcommit : answer₀.isCommit = true)
    (hcall : s.call platform label = some (s', some (caller, command, answer)))
    (hidentity : SameIdentity s.db (first, command₀) (caller, command))
    (hauthorised : Authorised s.db caller command) :
    s'.db = s.db ∧ AnsweredByRecord s.db (command₀, answer₀) (command, answer) ↔
      Passes platform s label := by
  have hestablished : Established platform s.db first command₀ answer₀ :=
    established_run hjsonb hrun _ hlog hcommit
  cases label with
  | call caller' command' env =>
    simp only [State.call] at hcall
    split at hcall
    · cases hcall
    · split at hcall
      · rename_i hexecute
        cases hcall
        exact (execute_decided hestablished hidentity hauthorised hexecute).iff
      · cases hcall
      · cases hcall
  | commitSchedule i env =>
    simp only [State.call] at hcall
    split at hcall
    · cases hcall
    · split at hcall
      · cases hcall
      · rename_i caller' input hscheduling
        cases hcall
        cases command₀ with
        | scheduleRun input₀ =>
          refine (scheduleRun_decided hestablished hidentity hauthorised).iff.trans ?_
          refine ⟨fun heligible other otherInput hother => ?_, fun hpasses => ?_⟩
          · cases hscheduling.symm.trans hother
            exact heligible
          · exact hpasses _ _ hscheduling
        | _ => exact hidentity.2.2.elim
  | sweep runId checkpointId now =>
    simp only [State.call] at hcall
    split at hcall <;> cases hcall
  | assignments rows => cases hcall
  | roles rows => cases hcall

end Runs

/-! The guard's route is created twice under one key, and a run of it scheduled twice, with the
guard's role gone in between. -/

/-- The step of a command that is one transaction. -/
theorem call_of_execute {platform : Platform} {s : State} {caller : Caller} {command : Command}
    {env : Env} {db : Db} {answer : Answer} (hclock : s.clock ≤ env.now)
    (h : execute platform s.db caller env command = some (db, answer)) :
    s.call platform (.call caller command env) =
      some ({ s with db, clock := env.now }, some (caller, command, answer)) := by
  simp only [State.call, h]
  rw [if_neg (not_lt.mpr hclock)]

def startEnv : Env := { now := 0, id := "r", ids := tally }

theorem zero_le_offset : 0 ≤ 500 := by decide

theorem offset_le_end : 500 ≤ 1000 := by decide

def roundInput : CreateRouteInput :=
  { siteId := "s", name := "round"
    checkpoints := [{ name := "gate", zoneId := none, location := none
                      offsets := ⟨0, 500, 1000, zero_le_offset, offset_le_end⟩ }]
    idempotencyKey := "k" }

/-- The call that creates the route, made once and retried. -/
def roundCall : Label := .call guard (.createRoute roundInput) startEnv

/-- The first call creates the route, and the retry is answered by it. -/
theorem replay_stable_retried :
    ∃ (s s' : State) (answer₀ answer : Answer),
      (guard, .createRoute roundInput, answer₀) ∈ answers plainPlatform [roundCall] ∧
        s.call plainPlatform roundCall =
          some (s', some (guard, .createRoute roundInput, answer)) ∧
        s'.db = s.db ∧ AnsweredByRecord s.db (.createRoute roundInput, answer₀)
          (.createRoute roundInput, answer) := by
  let result := createRoute plainPlatform State.init.db guard roundInput startEnv
  let s : State := { State.init with db := result.1, clock := 0 }
  let again := createRoute plainPlatform s.db guard roundInput startEnv
  have hfirst : State.init.call plainPlatform roundCall =
      some (s, some (guard, .createRoute roundInput, result.2)) :=
    call_of_execute (by decide) rfl
  have hsecond : s.call plainPlatform roundCall =
      some ({ s with db := again.1, clock := 0 },
        some (guard, .createRoute roundInput, again.2)) :=
    call_of_execute le_rfl rfl
  have hrun : Transition.run (step plainPlatform) .init [roundCall] = some s := by
    rw [Transition.run, step, hfirst]
    rfl
  have hlog : (guard, .createRoute roundInput, result.2) ∈ answers plainPlatform [roundCall] := by
    rw [answers, Transition.trace, answered, hfirst]
    exact List.mem_append_left _ (List.mem_singleton.mpr rfl)
  have hstable := replay_stable (fun _ => rfl) hrun hlog (by decide) hsecond
    ⟨rfl, rfl, rfl, rfl⟩ rfl
  have hpasses : Passes plainPlatform s roundCall := by
    show zonesExist plainPlatform roundInput.siteId roundInput.checkpoints = true
    decide
  exact ⟨s, _, _, _, hlog, hsecond, hstable.mpr hpasses⟩

def shiftInput : ScheduleRunInput :=
  { patrolRouteId := "r", assignedOperativeUserId := "guard", incidentId := none
    scheduledStartAt := 0, idempotencyKey := "k" }

/-- The run is scheduled, and then the guard loses the role. -/
def relievedRun : List Label :=
  [.roles [{ userId := "guard", organisationId := "org", role := "field.operative", siteId := "s" }],
    .call guard (.createRoute roundInput) startEnv, .call guard (.scheduleRun shiftInput) startEnv,
    .commitSchedule 0 startEnv, .roles []]

def scheduleInput : Command → Option ScheduleRunInput
  | .scheduleRun input => some input
  | _ => none

theorem eq_of_scheduleInput {command : Command} {input : ScheduleRunInput}
    (h : scheduleInput command = some input) : command = .scheduleRun input := by
  cases command <;> cases h
  rfl

theorem relieved_not_replayed :
    ¬ ∀ (labels : List Label) (s s' : State) (label : Label) (first caller : Caller)
      (command₀ command : Command) (answer₀ answer : Answer),
      Transition.run (step plainPlatform) .init labels = some s →
      (first, command₀, answer₀) ∈ answers plainPlatform labels → answer₀.isCommit = true →
      s.call plainPlatform label = some (s', some (caller, command, answer)) →
      SameIdentity s.db (first, command₀) (caller, command) → Authorised s.db caller command →
      s'.db = s.db ∧ AnsweredByRecord s.db (command₀, answer₀) (command, answer) := by
  intro h
  have hrows : (Transition.run (step plainPlatform) .init relievedRun).map
      (fun s => (s.clock, s.db.routes.map fun route => (route.id, route.organisationId),
        checkSchedule s.db guard shiftInput)) =
      some (0, [("r", "org")], some .notFieldOperative) := by decide
  obtain ⟨s, hrun, hrow⟩ := Option.map_eq_some_iff.mp hrows
  obtain ⟨hclock, hrest⟩ := Prod.mk.inj hrow
  obtain ⟨hroutes, hcheck⟩ := Prod.mk.inj hrest
  have hlogged : (answers plainPlatform relievedRun).map
      (fun entry => (entry.1, scheduleInput entry.2.1, entry.2.2.isCommit)) =
      [(guard, none, true), (guard, some shiftInput, true)] := by decide
  have hentry : (guard, some shiftInput, true) ∈ (answers plainPlatform relievedRun).map
      (fun entry => (entry.1, scheduleInput entry.2.1, entry.2.2.isCommit)) := by
    rw [hlogged]
    exact List.mem_cons_of_mem _ List.mem_cons_self
  obtain ⟨⟨first, command₀, answer₀⟩, hlog, heq⟩ := List.mem_map.mp hentry
  obtain ⟨rfl, hrest⟩ := Prod.mk.inj heq
  obtain ⟨hinput, hcommit⟩ := Prod.mk.inj hrest
  obtain rfl := eq_of_scheduleInput hinput
  have hexecute : execute plainPlatform s.db guard startEnv (.scheduleRun shiftInput) =
      some (s.db, .refused .notFieldOperative) := by
    rw [execute, hcheck]
    rfl
  have hcall := call_of_execute (hclock ▸ le_rfl) hexecute
  obtain ⟨route, hone, hroute⟩ := List.map_eq_singleton_iff.mp hroutes
  obtain ⟨hid, horganisation⟩ := Prod.mk.inj hroute
  have hmem : route ∈ s.db.routes := hone ▸ List.mem_singleton.mpr rfl
  have hidentity : SameIdentity s.db (guard, .scheduleRun shiftInput)
      (guard, .scheduleRun shiftInput) := by
    refine ⟨rfl, rfl, rfl, fun a ha b hb ha' hb' => ?_⟩
    rw [Table.eq_of_key s.db.routes_id ha hb (ha'.trans hb'.symm)]
  have hanswered := h relievedRun s _ _ _ _ _ _ _ _ hrun hlog hcommit hcall hidentity
    ⟨route, hmem, hid, horganisation, rfl⟩
  exact not_answeredByRecord_refused hanswered.2

end Sentinel.Patrol
