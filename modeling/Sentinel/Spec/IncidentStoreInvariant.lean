import Sentinel.ForStd.List
import Sentinel.Native.IncidentsService

/-! # What a write to the incident tables changes

Every operation of the repository only adds (`Db.Grows`).  `Worker.Writes` says which operation a
step of a call performs, so that what holds of the tables is proved once for each operation. -/

namespace Sentinel.Incidents

namespace Db

/-! ## Reads -/

variable {db : Db} {incidentId organisationId taskId : String} {row : IncidentRow}

theorem findIncident_eq_some
    (h : db.findIncident incidentId = some row) : row ∈ db.incidents ∧ row.id = incidentId :=
  Table.of_find? h

theorem findByHypothesis_eq_some {hypothesisId : String}
    (h : db.findByHypothesis hypothesisId = some row) :
    row ∈ db.incidents ∧ row.hypothesisId = some hypothesisId :=
  Table.of_find? h

theorem findForHypothesis_eq_some {hypothesisId : String}
    (h : db.findForHypothesis hypothesisId organisationId = some row) :
    row ∈ db.incidents ∧ row.hypothesisId = some hypothesisId ∧
      row.organisationId = organisationId :=
  Table.of_find? h

theorem findByWhisperRecognition_eq_some {fingerprint : String}
    (h : db.findByWhisperRecognition organisationId fingerprint = some row) :
    row ∈ db.incidents ∧ row.source = (organisationId, .whisperRecognition, fingerprint) :=
  Table.of_find? h

theorem findTaskById_eq_some {row : ResponseTaskRow}
    (h : db.findTaskById taskId = some row) : row ∈ db.tasks ∧ row.id = taskId :=
  Table.of_find? h

theorem findTaskOfType_eq_some {taskType : TaskType}
    {row : ResponseTaskRow} (h : db.findTaskOfType incidentId taskType = some row) :
    row ∈ db.tasks ∧ row.slot = (incidentId, taskType) :=
  Table.of_find? h

theorem findTask_eq_some {scope : SiteScope} {task : ResponseTaskRow} {incident : IncidentRow}
    (h : db.findTask incidentId taskId organisationId scope = some (task, incident)) :
    task ∈ db.tasks ∧ task.id = taskId ∧ incident ∈ db.incidents ∧
      incident.id = task.incidentId := by
  simp only [findTask, Option.bind_eq_bind, Option.bind_eq_some_iff] at h
  obtain ⟨task', htask, incident', hincident, hscope⟩ := h
  split at hscope
  · cases hscope
    obtain ⟨hmem, hid⟩ := findTaskById_eq_some htask
    obtain ⟨himem, hiid⟩ := findIncident_eq_some hincident
    exact ⟨hmem, hid, himem, hiid⟩
  · cases hscope

theorem findTaskById_of_mem {task : ResponseTaskRow} (h : task ∈ db.tasks) :
    db.findTaskById task.id = some task :=
  Table.find?_eq_some db.tasks_id h rfl fun _ => id

theorem mem_listSilentApprovals {approval : SilentApprovalRow} :
    approval ∈ db.listSilentApprovals taskId ↔
      approval ∈ db.silentApprovals ∧ approval.taskId = taskId := by
  rw [listSilentApprovals, List.mem_insertionSort, List.mem_filter, decide_eq_true_eq]

/-! ## Growth -/

/-- What every operation keeps. -/
structure Grows (db db' : Db) : Prop where
  incidents : ∀ row ∈ db.incidents, ∃ row' ∈ db'.incidents, row'.id = row.id ∧
    row'.responseMode = row.responseMode ∧ row'.hypothesisId = row.hypothesisId
  tasks : ∀ task ∈ db.tasks, ∃ task' ∈ db'.tasks, task'.id = task.id ∧ task'.slot = task.slot ∧
    (task.deliveryState ≠ .requested → task'.deliveryState ≠ .requested)
  silentApprovals : ∀ approval ∈ db.silentApprovals, approval ∈ db'.silentApprovals
  timeline : ∀ entry ∈ db.timeline, entry ∈ db'.timeline

namespace Grows

theorem refl (db : Db) : db.Grows db :=
  ⟨fun row h => ⟨row, h, rfl, rfl, rfl⟩, fun task h => ⟨task, h, rfl, rfl, id⟩, fun _ => id,
    fun _ => id⟩

theorem trans {db₁ db₂ db₃ : Db} (h₁ : db₁.Grows db₂) (h₂ : db₂.Grows db₃) : db₁.Grows db₃ where
  incidents row hrow := by
    obtain ⟨row', hrow', hid, hmode, hhypothesis⟩ := h₁.incidents row hrow
    obtain ⟨row'', hrow'', hid', hmode', hhypothesis'⟩ := h₂.incidents row' hrow'
    exact ⟨row'', hrow'', hid'.trans hid, hmode'.trans hmode, hhypothesis'.trans hhypothesis⟩
  tasks task htask := by
    obtain ⟨task', htask', hid, hslot, hkeep⟩ := h₁.tasks task htask
    obtain ⟨task'', htask'', hid', hslot', hkeep'⟩ := h₂.tasks task' htask'
    exact ⟨task'', htask'', hid'.trans hid, hslot'.trans hslot, hkeep' ∘ hkeep⟩
  silentApprovals approval h := h₂.silentApprovals _ (h₁.silentApprovals _ h)
  timeline entry h := h₂.timeline _ (h₁.timeline _ h)

theorem note (db : Db) (incidentId : String) (actor : Option String) (payload : TimelinePayload) :
    db.Grows (db.note incidentId actor payload) :=
  { refl db with timeline := fun _ h => List.mem_append_left _ h }

theorem insertIncident {db db' : Db} {row : IncidentRow} (h : db.insertIncident row = some db') :
    db.Grows db' := by
  rw [Db.insertIncident] at h
  split at h
  · cases h
    exact { refl db with
      incidents := fun old hold => ⟨old, List.mem_append_left _ hold, rfl, rfl, rfl⟩ }
  · cases h

theorem updateIncidents {db : Db} {p : IncidentRow → Bool} {f : IncidentRow → IncidentRow}
    {hid hsource hhypothesis} (hmode : ∀ row, (f row).responseMode = row.responseMode) :
    db.Grows (db.updateIncidents p f hid hsource hhypothesis) :=
  { refl db with
    incidents := fun row hrow => by
      refine ⟨_, Table.mem_rewrite.mpr ⟨row, hrow, rfl⟩, ?_⟩
      split
      · exact ⟨hid row, hmode row, hhypothesis row⟩
      · exact ⟨rfl, rfl, rfl⟩ }

theorem insertTask (db : Db) (row : ResponseTaskRow) : db.Grows (db.insertTask row) := by
  rw [Db.insertTask]
  split
  · exact { refl db with
      tasks := fun old hold => ⟨old, List.mem_append_left _ hold, rfl, rfl, id⟩ }
  · exact refl db

theorem updateTasks {db : Db} {p : ResponseTaskRow → Bool} {f : ResponseTaskRow → ResponseTaskRow}
    {hid hslot}
    (hkeep : ∀ row, p row = true → row.deliveryState ≠ .requested →
      (f row).deliveryState ≠ .requested) : db.Grows (db.updateTasks p f hid hslot) :=
  { refl db with
    tasks := fun row hrow => by
      refine ⟨_, Table.mem_rewrite.mpr ⟨row, hrow, rfl⟩, ?_⟩
      split
      · exact ⟨hid row, hslot row, hkeep row ‹_›⟩
      · exact ⟨rfl, rfl, id⟩ }

theorem createProofATasks (db : Db) (incidentId : String) (ids : TaskType → String) :
    db.Grows (db.createProofATasks incidentId ids) :=
  ((insertTask db _).trans (insertTask _ _)).trans (insertTask _ _)

end Grows

end Db

/-! ## What a step writes -/

/-- The operation a step of a call performs on the tables. -/
inductive Worker.Writes (env : Env) (db : Db) (worker : Worker) : Db → Prop
  | nothing : Writes env db worker db
  | openCandidate {candidate : Candidate} {db' : Db}
      (call : worker.call = .handleCandidate candidate) (phase : worker.phase = .start)
      (write : db.openIncident (candidateRow candidate env.id) = some db') :
      Writes env db worker db'
  | openWhisper {input : WhisperInput} {db' : Db}
      (call : worker.call = .openWhisperSilentIncident input) (phase : worker.phase = .start)
      (write : db.openIncident (whisperRow input env.id env.now) = some db') :
      Writes env db worker db'
  | advanced {message : HypothesisUpdate} (phase : worker.phase = .advance message) :
      Writes env db worker (db.advanceFromHypothesis message.advanceInput env.taskIds).2
  | created {proof : ProofA} (phase : worker.phase = .tasks proof) :
      Writes env db worker (db.createProofATasks proof.incidentId env.taskIds)
  | claimed (taskId : String) : Writes env db worker (db.claimEvidenceSnapshot taskId env.now)
  | completed {taskId : String} {evidenceId : Option String} {db' : Db}
      (write : db.completeEvidenceSnapshot taskId evidenceId env.now = some db') :
      Writes env db worker db'
  | approved {organisationId incidentId taskId actorUserId : String} {scope : SiteScope}
      {task : ResponseTaskRow} {incident : IncidentRow} {isNew : Bool} {db' : Db}
      (call : worker.call =
        .approveSilentDispatch organisationId incidentId taskId actorUserId scope)
      (phase : worker.phase = .recordApproval task incident)
      (write : db.recordSilentApproval task.id actorUserId env.now = some (isNew, db')) :
      Writes env db worker db'
  | recorded {taskId : String} {mode : ResponseMode} {decision : Constitution.Decision}
      {payload : TimelinePayload} {db' : Db}
      (phase : worker.phase = .decided taskId mode decision payload)
      (write : db.recordConstitutionDecision taskId payload = some db') :
      Writes env db worker db'
  | handedOff {taskId : String} {mode : ResponseMode}
      (phase : worker.phase = .handoff taskId mode) :
      Writes env db worker (db.createLocalDispatchHandoff taskId mode).2
  | acknowledged {taskId actorUserId : String} {db' : Db}
      (write : db.acknowledgeTask taskId actorUserId env.now = some db') :
      Writes env db worker db'

variable {text : Constitution.Text} {db db' : Db} {env : Env} {phase : Phase}

theorem advance_advance {call : Call} {message : HypothesisUpdate}
    (h : Worker.advance text db env ⟨call, .advance message⟩ = some (db', phase)) :
    db' = (db.advanceFromHypothesis message.advanceInput env.taskIds).2 := by
  simp only [Worker.advance] at h
  repeat' split at h
  all_goals
    cases h
    simp_all

theorem advance_handoff {call : Call} {taskId : String} {mode : ResponseMode}
    (h : Worker.advance text db env ⟨call, .handoff taskId mode⟩ = some (db', phase)) :
    db' = (db.createLocalDispatchHandoff taskId mode).2 := by
  simp only [Worker.advance] at h
  repeat' split at h
  all_goals
    cases h
    simp_all

theorem advance_writes {worker : Worker} (h : worker.advance text db env = some (db', phase)) :
    worker.Writes env db db' := by
  obtain ⟨call, now⟩ := worker
  cases now with
  | start =>
    cases call with
    | handleCandidate candidate =>
      simp only [Worker.advance] at h
      split at h
      · rename_i opened hopen
        cases h
        exact .openCandidate rfl rfl hopen
      · cases h
        exact .nothing
    | openWhisperSilentIncident input =>
      simp only [Worker.advance] at h
      split at h
      · rename_i opened hopen
        cases h
        exact .openWhisper rfl rfl hopen
      · cases h
        exact .nothing
    | handleHypothesisUpdate | approveSilentDispatch | acknowledge =>
      simp only [Worker.advance] at h
      repeat' split at h
      all_goals
        cases h
        exact .nothing
  | advance message =>
    exact advance_advance h ▸ .advanced rfl
  | tasks proof =>
    cases h
    exact .created rfl
  | claimEvidence proof preserve dispatch =>
    simp only [Worker.advance] at h
    split at h
    all_goals
      cases h
      exact .claimed preserve.id
  | completeEvidence proof preserve dispatch evidenceId =>
    simp only [Worker.advance] at h
    split at h
    · rename_i written hwrite
      cases h
      exact .completed hwrite
    · cases h
      exact .nothing
  | recordApproval task incident =>
    cases call with
    | approveSilentDispatch organisationId incidentId taskId actorUserId scope =>
      simp only [Worker.advance] at h
      split at h
      · cases h
        exact .nothing
      · rename_i isNew written hwrite
        repeat' split at h
        all_goals
          cases h
          exact .approved rfl rfl hwrite
    | _ => cases h
  | decided taskId mode decision payload =>
    simp only [Worker.advance] at h
    split at h
    · cases h
      exact .nothing
    · rename_i written hwrite
      split at h
      all_goals
        cases h
        exact .recorded rfl hwrite
  | handoff taskId mode =>
    exact advance_handoff h ▸ .handedOff rfl
  | acknowledgeTask task =>
    cases call with
    | acknowledge organisationId incidentId taskId actorUserId scope =>
      simp only [Worker.advance] at h
      split at h
      · rename_i written hwrite
        cases h
        exact .acknowledged hwrite
      · cases h
        exact .nothing
    | _ => cases h
  | returned | failed => cases h
  | _ =>
    -- the other steps only read
    simp only [Worker.advance] at h
    repeat' split at h
    all_goals first
      | contradiction
      | cases h
        exact .nothing

/-! ## The tables after a step -/

namespace Db

variable {db db' : Db} {taskId : String} {now : Int}

theorem openIncident_eq_some {row : IncidentRow} (h : db.openIncident row = some db') :
    ∃ inserted, db.insertIncident row = some inserted ∧
      db' = inserted.note row.id none
        (.incidentOpened row.sourceKind row.sourceRef row.severity) := by
  rw [openIncident, Option.map_eq_some_iff] at h
  obtain ⟨inserted, hinsert, rfl⟩ := h
  exact ⟨inserted, hinsert, rfl⟩

theorem insertIncident_eq_some {row : IncidentRow} (h : db.insertIncident row = some db') :
    db'.incidents = db.incidents ++ [row] ∧ db'.tasks = db.tasks ∧
      db'.silentApprovals = db.silentApprovals ∧ db'.handoffs = db.handoffs := by
  rw [insertIncident] at h
  split at h
  · cases h
    exact ⟨rfl, rfl, rfl, rfl⟩
  · cases h

theorem mem_insertTask {row task : ResponseTaskRow} (h : task ∈ (db.insertTask row).tasks) :
    task ∈ db.tasks ∨ task = row := by
  rw [insertTask] at h
  split at h
  · exact (List.mem_append.mp h).imp_right List.mem_singleton.mp
  · exact .inl h

/-- A task of the incident after `createMany`: it was there, or is fresh. -/
theorem mem_createProofATasks {incidentId : String} {ids : TaskType → String}
    {task : ResponseTaskRow} (h : task ∈ (db.createProofATasks incidentId ids).tasks) :
    task ∈ db.tasks ∨ ∃ taskType, task = newTask incidentId ids taskType := by
  rcases mem_insertTask h with h | rfl
  · rcases mem_insertTask h with h | rfl
    · exact (mem_insertTask h).imp_right fun h => ⟨_, h⟩
    · exact .inr ⟨_, rfl⟩
  · exact .inr ⟨_, rfl⟩

theorem createProofATasks_frame (db : Db) (incidentId : String) (ids : TaskType → String) :
    (db.createProofATasks incidentId ids).incidents = db.incidents ∧
      (db.createProofATasks incidentId ids).silentApprovals = db.silentApprovals ∧
      (db.createProofATasks incidentId ids).handoffs = db.handoffs ∧
      (db.createProofATasks incidentId ids).timeline = db.timeline := by
  have hinsert : ∀ (db : Db) (row : ResponseTaskRow),
      (db.insertTask row).incidents = db.incidents ∧
        (db.insertTask row).silentApprovals = db.silentApprovals ∧
        (db.insertTask row).handoffs = db.handoffs ∧
        (db.insertTask row).timeline = db.timeline := fun db row => by
    rw [insertTask]
    split <;> exact ⟨rfl, rfl, rfl, rfl⟩
  simp only [createProofATasks, List.foldl_cons, List.foldl_nil, hinsert, and_self]

theorem recordSilentApproval_eq_some {userId : String}
    {isNew : Bool} (h : db.recordSilentApproval taskId userId now = some (isNew, db')) :
    (∃ task ∈ db.tasks, task.id = taskId) ∧
      ((isNew = false ∧ db' = db ∧ ∃ old ∈ db.silentApprovals, old.key = (taskId, userId)) ∨
        (isNew = true ∧ ∃ incidentId inserted,
          db.insertSilentApproval ⟨taskId, userId, "site.commander", now⟩ = some inserted ∧
          inserted.silentApprovals =
            db.silentApprovals ++ [⟨taskId, userId, "site.commander", now⟩] ∧
          db' = inserted.note incidentId (some userId)
            (.silentApprovalRecorded taskId "site.commander"))) := by
  simp only [recordSilentApproval, Option.bind_eq_bind, Option.bind_eq_some_iff] at h
  obtain ⟨task, htask, h⟩ := h
  obtain ⟨hmem, hid⟩ := findTaskById_eq_some htask
  refine ⟨⟨task, hmem, hid⟩, ?_⟩
  split at h
  · rename_i hnone
    cases h
    refine .inl ⟨rfl, rfl, ?_⟩
    rw [insertSilentApproval] at hnone
    split at hnone
    · cases hnone
    · rename_i hold
      simpa [SilentApprovalRow.key] using hold
  · rename_i inserted hinsert
    cases h
    refine .inr ⟨rfl, _, inserted, hinsert, ?_, rfl⟩
    rw [insertSilentApproval] at hinsert
    split at hinsert
    · cases hinsert
      rfl
    · cases hinsert

theorem recordConstitutionDecision_eq_some
    {payload : TimelinePayload} (h : db.recordConstitutionDecision taskId payload = some db') :
    ∃ incidentId, db' = db.note incidentId none payload := by
  simp only [recordConstitutionDecision, Option.bind_eq_bind, Option.bind_eq_some_iff] at h
  obtain ⟨task, _, h⟩ := h
  exact ⟨_, (Option.some.inj h).symm⟩

theorem insertSilentApproval_grows {row : SilentApprovalRow}
    (h : db.insertSilentApproval row = some db') : db.Grows db' ∧ db'.tasks = db.tasks ∧
      db'.incidents = db.incidents ∧ db'.handoffs = db.handoffs := by
  rw [insertSilentApproval] at h
  split at h
  · cases h
    exact ⟨{ Grows.refl db with silentApprovals := fun _ h => List.mem_append_left _ h }, rfl, rfl,
      rfl⟩
  · cases h

/-- What a hand-off transaction has done. -/
theorem createLocalDispatchHandoff_cases (db : Db) (taskId : String) (mode : ResponseMode) :
    (db.createLocalDispatchHandoff taskId mode).2 = db ∨
      ∃ task inserted, db.findTaskById taskId = some task ∧ task.deliveryState = .requested ∧
        db.insertHandoff taskId = some inserted ∧
        (db.createLocalDispatchHandoff taskId mode).2 =
          (inserted.updateTasks (fun task => task.id = taskId ∧ task.deliveryState = .requested)
            (fun task => { task with deliveryState := .delivered }) (fun _ => rfl)
            fun _ => rfl).note task.incidentId none
              (.fieldDispatchDelivered taskId mode "local:field-dispatch-inbox") := by
  rw [createLocalDispatchHandoff]
  split
  · exact .inl rfl
  · rename_i task htask
    split
    · exact .inl rfl
    · rename_i inserted hinsert
      split
      · exact .inr ⟨task, inserted, htask, ‹_›, hinsert, rfl⟩
      · exact .inl rfl

theorem insertHandoff_eq_some (h : db.insertHandoff taskId = some db') :
    db.Grows db' ∧ db'.tasks = db.tasks ∧ db'.incidents = db.incidents ∧
      db'.silentApprovals = db.silentApprovals ∧ db'.timeline = db.timeline ∧
      db'.handoffs = db.handoffs ++ [taskId] := by
  rw [insertHandoff] at h
  split at h
  · cases h
    exact ⟨{ Grows.refl db with }, rfl, rfl, rfl, rfl, rfl⟩
  · cases h

theorem acknowledgeTask_eq_some {actorUserId : String}
    (h : db.acknowledgeTask taskId actorUserId now = some db') :
    ∃ task, db.findTaskById taskId = some task ∧ task.deliveryState = .delivered ∧
      db' = (db.updateTasks (fun task => task.id = taskId)
        (fun task => { task with
          deliveryState := .acknowledged
          acknowledgedAt := some now
          acknowledgedByUserId := some actorUserId }) (fun _ => rfl) fun _ => rfl).note
            task.incidentId (some actorUserId) (.fieldDispatchAcknowledged taskId now) := by
  simp only [acknowledgeTask, Option.bind_eq_bind, Option.bind_eq_some_iff] at h
  obtain ⟨task, htask, h⟩ := h
  split at h
  · cases h
  · rename_i hstate
    exact ⟨task, htask, not_not.mp hstate, (Option.some.inj h).symm⟩

theorem completeEvidenceSnapshot_eq_some {evidenceId : Option String}
    (h : db.completeEvidenceSnapshot taskId evidenceId now = some db') :
    db' = db ∨ ∃ incidentId payload,
      db' = (db.updateTasks (fun task => task.id = taskId)
        (fun task => { task with evidenceSnapshotId := evidenceId, completedAt := some now })
        (fun _ => rfl) fun _ => rfl).note incidentId none payload := by
  simp only [completeEvidenceSnapshot, Option.bind_eq_bind, Option.bind_eq_some_iff] at h
  obtain ⟨task, _, h⟩ := h
  split at h
  · exact .inl (Option.some.inj h).symm
  · exact .inr ⟨_, _, (Option.some.inj h).symm⟩

/-- What an assessment has done. -/
theorem advanceFromHypothesis_cases (db : Db) (input : AdvanceInput) (ids : TaskType → String) :
    (db.advanceFromHypothesis input ids = (none, db) ∧
      ∀ current, db.findForHypothesis input.hypothesisId input.organisationId = some current →
        notNewer current input.hypothesisVersion = true) ∨
      ∃ current startedProofA, db.findForHypothesis input.hypothesisId input.organisationId =
          some current ∧ notNewer current input.hypothesisVersion = false ∧
        (db.advanceFromHypothesis input ids).1 =
          some (input.apply startedProofA current, startedProofA) ∧
        ∃ tasked payload, (db.advanceFromHypothesis input ids).2 =
            Db.note tasked current.id none payload ∧
          (tasked = db.updateIncidents (fun row => row.id = current.id)
            (input.apply startedProofA) (fun _ => rfl) (fun _ => rfl) (fun _ => rfl) ∨
          tasked = (db.updateIncidents (fun row => row.id = current.id)
            (input.apply startedProofA) (fun _ => rfl) (fun _ => rfl)
            (fun _ => rfl)).createProofATasks current.id ids) := by
  rw [advanceFromHypothesis]
  split
  · rename_i hnone
    exact .inl ⟨rfl, fun _ hsome => nomatch hnone.symm.trans hsome⟩
  · rename_i current hcurrent
    split
    · rename_i hold
      exact .inl ⟨rfl, fun _ hsome => Option.some.inj (hcurrent.symm.trans hsome) ▸ hold⟩
    · rename_i hnewer
      refine .inr ⟨current, _, hcurrent, by simpa using hnewer, rfl, _, _, rfl, ?_⟩
      split
      · exact .inr rfl
      · exact .inl rfl

/-- The incidents after an advance: as they were when there is none or it is not newer,
    else with its row rewritten. -/
theorem incidents_advanceFromHypothesis (db : Db) (input : AdvanceInput)
    (ids : TaskType → String) :
    ((db.advanceFromHypothesis input ids).2.incidents = db.incidents ∧
      ∀ current, db.findForHypothesis input.hypothesisId input.organisationId = some current →
        notNewer current input.hypothesisVersion = true) ∨
    ∃ current started, db.findForHypothesis input.hypothesisId input.organisationId = some current ∧
      notNewer current input.hypothesisVersion = false ∧
      (db.advanceFromHypothesis input ids).2.incidents =
        Table.rewrite (fun row => row.id = current.id) (input.apply started) db.incidents := by
  rcases advanceFromHypothesis_cases db input ids with ⟨hnone, hold⟩ | hsome
  · rw [hnone]
    exact .inl ⟨rfl, hold⟩
  · obtain ⟨current, started, hcurrent, hnewer, _, tasked, payload, hwritten, htasked⟩ := hsome
    refine .inr ⟨current, started, hcurrent, hnewer, ?_⟩
    rw [hwritten]
    rcases htasked with rfl | rfl
    · rfl
    · exact (createProofATasks_frame ..).1

end Db

variable {env : Env} {db db' : Db} {worker : Worker} {text : Constitution.Text}

/-- A step keeps what is in the tables. -/
theorem Worker.Writes.grows (h : worker.Writes env db db') : db.Grows db' := by
  cases h with
  | nothing => exact .refl db
  | openCandidate _ _ write | openWhisper _ _ write =>
    obtain ⟨inserted, hinsert, rfl⟩ := Db.openIncident_eq_some write
    exact (Db.Grows.insertIncident hinsert).trans (.note ..)
  | advanced phase =>
    rcases Db.advanceFromHypothesis_cases db _ env.taskIds with ⟨hnone, _⟩ | hsome
    · rw [hnone]
      exact .refl db
    · obtain ⟨current, started, _, _, _, tasked, payload, hwritten, htasked⟩ := hsome
      rw [hwritten]
      refine Db.Grows.trans ?_ (.note ..)
      rcases htasked with rfl | rfl
      · exact .updateIncidents fun _ => rfl
      · refine Db.Grows.trans ?_ (Db.Grows.createProofATasks ..)
        exact .updateIncidents fun _ => rfl
  | created phase => exact .createProofATasks ..
  | claimed taskId => exact .updateTasks fun _ _ => id
  | completed write =>
    rcases Db.completeEvidenceSnapshot_eq_some write with rfl | ⟨_, _, rfl⟩
    · exact .refl _
    · refine Db.Grows.trans ?_ (Db.Grows.note ..)
      exact .updateTasks fun _ _ => id
  | approved _ _ write =>
    rcases (Db.recordSilentApproval_eq_some write).2 with ⟨_, rfl, _⟩ |
      ⟨_, _, inserted, hinsert, _, rfl⟩
    · exact .refl _
    · exact (Db.insertSilentApproval_grows hinsert).1.trans (.note ..)
  | recorded _ write =>
    obtain ⟨_, rfl⟩ := Db.recordConstitutionDecision_eq_some write
    exact .note ..
  | handedOff phase =>
    rename_i taskId mode
    rcases Db.createLocalDispatchHandoff_cases db taskId mode with hsame | hdone
    · rw [hsame]
      exact .refl db
    · obtain ⟨task, inserted, _, _, hinsert, hwritten⟩ := hdone
      rw [hwritten]
      refine (Db.insertHandoff_eq_some hinsert).1.trans (Db.Grows.trans ?_ (Db.Grows.note ..))
      refine Db.Grows.updateTasks fun row hrow hstate => ?_
      simp only [decide_eq_true_eq] at hrow
      exact absurd hrow.2 hstate
  | acknowledged write =>
    obtain ⟨task, _, _, rfl⟩ := Db.acknowledgeTask_eq_some write
    refine Db.Grows.trans ?_ (Db.Grows.note ..)
    exact .updateTasks fun _ _ _ => nofun

/-- Where a task of the tables after a step comes from: it was there and no less done, it
    is fresh, or it has just been handed off. -/
theorem Worker.Writes.tasks
    (h : worker.Writes env db db') {task' : ResponseTaskRow} (hmem : task' ∈ db'.tasks) :
    (∃ task ∈ db.tasks, task.id = task'.id ∧ task.slot = task'.slot ∧
      (task'.deliveryState ≠ .requested → task.deliveryState ≠ .requested)) ∨
    (task'.deliveryState = .requested ∧
      ((∃ proof, worker.phase = .tasks proof ∧ proof.incidentId = task'.incidentId) ∨
        ∃ incident ∈ db.incidents, incident.id = task'.incidentId)) ∨
    (∃ mode, worker.phase = .handoff task'.id mode ∧
      ∃ task ∈ db.tasks, task.id = task'.id ∧ task.slot = task'.slot) := by
  have hkept : task' ∈ db.tasks → ∃ task ∈ db.tasks, task.id = task'.id ∧ task.slot = task'.slot ∧
      (task'.deliveryState ≠ .requested → task.deliveryState ≠ .requested) :=
    fun hold => ⟨task', hold, rfl, rfl, id⟩
  cases h with
  | nothing => exact .inl (hkept hmem)
  | openCandidate _ _ write | openWhisper _ _ write =>
    obtain ⟨inserted, hinsert, rfl⟩ := Db.openIncident_eq_some write
    exact .inl (hkept ((Db.insertIncident_eq_some hinsert).2.1 ▸ hmem))
  | advanced phase =>
    rcases Db.advanceFromHypothesis_cases db _ env.taskIds with ⟨hnone, _⟩ | hsome
    · rw [hnone] at hmem
      exact .inl (hkept hmem)
    · obtain ⟨current, started, hcurrent, _, _, tasked, payload, hwritten, htasked⟩ := hsome
      rw [hwritten] at hmem
      rcases htasked with rfl | rfl
      · exact .inl (hkept hmem)
      · rcases Db.mem_createProofATasks hmem with hold | ⟨taskType, rfl⟩
        · exact .inl (hkept hold)
        · exact .inr (.inl ⟨rfl, .inr ⟨current, (Db.findForHypothesis_eq_some hcurrent).1, rfl⟩⟩)
  | created phase =>
    rcases Db.mem_createProofATasks hmem with hold | ⟨taskType, rfl⟩
    · exact .inl (hkept hold)
    · exact .inr (.inl ⟨rfl, .inl ⟨_, phase, rfl⟩⟩)
  | claimed taskId =>
    obtain ⟨old, hold, rfl⟩ := Table.mem_rewrite.mp hmem
    refine .inl ⟨old, hold, ?_⟩
    split <;> exact ⟨rfl, rfl, id⟩
  | completed write =>
    rcases Db.completeEvidenceSnapshot_eq_some write with rfl | ⟨_, _, rfl⟩
    · exact .inl (hkept hmem)
    · obtain ⟨old, hold, rfl⟩ := Table.mem_rewrite.mp hmem
      refine .inl ⟨old, hold, ?_⟩
      split <;> exact ⟨rfl, rfl, id⟩
  | approved _ _ write =>
    rcases (Db.recordSilentApproval_eq_some write).2 with ⟨_, rfl, _⟩ |
      ⟨_, _, inserted, hinsert, _, rfl⟩
    · exact .inl (hkept hmem)
    · exact .inl (hkept ((Db.insertSilentApproval_grows hinsert).2.1 ▸ hmem))
  | recorded _ write =>
    obtain ⟨_, rfl⟩ := Db.recordConstitutionDecision_eq_some write
    exact .inl (hkept hmem)
  | handedOff phase =>
    rename_i taskId mode
    rcases Db.createLocalDispatchHandoff_cases db taskId mode with hsame | hdone
    · rw [hsame] at hmem
      exact .inl (hkept hmem)
    · obtain ⟨task, inserted, _, _, hinsert, hwritten⟩ := hdone
      rw [hwritten] at hmem
      obtain ⟨old, hold, rfl⟩ := Table.mem_rewrite.mp hmem
      rw [(Db.insertHandoff_eq_some hinsert).2.1] at hold
      split
      · rename_i hhit
        simp only [decide_eq_true_eq] at hhit
        exact .inr (.inr ⟨mode, hhit.1 ▸ phase, old, hold, rfl, rfl⟩)
      · exact .inl ⟨old, hold, rfl, rfl, id⟩
  | acknowledged write =>
    obtain ⟨task, htask, hstate, rfl⟩ := Db.acknowledgeTask_eq_some write
    obtain ⟨htaskMem, htaskId⟩ := Db.findTaskById_eq_some htask
    obtain ⟨old, hold, rfl⟩ := Table.mem_rewrite.mp hmem
    refine .inl ⟨old, hold, ?_⟩
    split
    · rename_i hhit
      have hsame : old = task :=
        Table.eq_of_key db.tasks_id hold htaskMem ((of_decide_eq_true hhit).trans htaskId.symm)
      exact ⟨rfl, rfl, fun _ => by simp [hsame, hstate]⟩
    · exact ⟨rfl, rfl, id⟩

/-- Only the entry of the Whisper runtime brings an incident of a recognition. -/
theorem Worker.Writes.sources (h : worker.Writes env db db')
    (hentry : ∀ input, worker.call = .openWhisperSilentIncident input → worker.phase ≠ .start)
    {row' : IncidentRow} (hmem : row' ∈ db'.incidents)
    (hkind : row'.sourceKind = .whisperRecognition) :
    ∃ row ∈ db.incidents, row.source = row'.source := by
  have hkept : db'.incidents = db.incidents → ∃ row ∈ db.incidents, row.source = row'.source :=
    fun hsame => ⟨row', hsame ▸ hmem, rfl⟩
  cases h with
  | nothing | claimed => exact hkept rfl
  | openCandidate _ _ write =>
    obtain ⟨inserted, hinsert, rfl⟩ := Db.openIncident_eq_some write
    have hadded : row' ∈ inserted.incidents := hmem
    rw [(Db.insertIncident_eq_some hinsert).1] at hadded
    rcases List.of_mem_concat hadded with hold | rfl
    · exact ⟨row', hold, rfl⟩
    · cases hkind
  | openWhisper call phase => exact absurd phase (hentry _ call)
  | advanced phase =>
    rcases db.incidents_advanceFromHypothesis _ env.taskIds with ⟨hsame, _⟩ | hwritten
    · exact hkept hsame
    · obtain ⟨current, started, _, _, hrewritten⟩ := hwritten
      rw [hrewritten] at hmem
      obtain ⟨old, hold, rfl⟩ := Table.mem_rewrite.mp hmem
      refine ⟨old, hold, ?_⟩
      split <;> rfl
  | created phase => exact hkept (Db.createProofATasks_frame db _ env.taskIds).1
  | completed write =>
    rcases Db.completeEvidenceSnapshot_eq_some write with rfl | ⟨_, _, rfl⟩
    all_goals exact hkept rfl
  | approved _ _ write =>
    rcases (Db.recordSilentApproval_eq_some write).2 with ⟨_, rfl, _⟩ |
      ⟨_, _, inserted, hinsert, _, rfl⟩
    · exact hkept rfl
    · exact hkept (Db.insertSilentApproval_grows hinsert).2.2.1
  | recorded _ write =>
    obtain ⟨_, rfl⟩ := Db.recordConstitutionDecision_eq_some write
    exact hkept rfl
  | handedOff phase =>
    rename_i taskId mode
    rcases Db.createLocalDispatchHandoff_cases db taskId mode with hsame | hdone
    · exact hkept (by rw [hsame])
    · obtain ⟨task, inserted, _, _, hinsert, hwritten⟩ := hdone
      refine hkept ?_
      rw [hwritten]
      exact (Db.insertHandoff_eq_some hinsert).2.2.1
  | acknowledged write =>
    obtain ⟨task, _, _, rfl⟩ := Db.acknowledgeTask_eq_some write
    exact hkept rfl

/-- No step leads back to the start of a call. -/
theorem advance_ne_start
    {phase : Phase} (h : worker.advance text db env = some (db', phase)) : phase ≠ .start := by
  rintro rfl
  obtain ⟨call, now⟩ := worker
  cases now with
  | start | existing =>
    cases call
    all_goals
      simp only [Worker.advance, afterCandidate] at h
      repeat' split at h
      all_goals first
        | contradiction
        | cases h
  | _ =>
    simp only [Worker.advance, judge] at h
    repeat' split at h
    all_goals first
      | contradiction
      | cases h

theorem step_advance_eq_some {s s' : State} {i : Nat} (h : step text s (.advance i env) = some s') :
    ∃ worker db phase, s.workers[i]? = some worker ∧
      worker.advance text s.db env = some (db, phase) ∧
      s' = { db, workers := s.workers.set i { worker with phase } } := by
  simp only [step, Option.bind_eq_bind, Option.bind_eq_some_iff] at h
  obtain ⟨worker, hworker, ⟨db, phase⟩, hadvance, hs'⟩ := h
  exact ⟨worker, db, phase, hworker, hadvance, (Option.some.inj hs').symm⟩

theorem step_fail_eq_some {s s' : State} {i : Nat} (h : step text s (.fail i) = some s') :
    ∃ worker, s.workers[i]? = some worker ∧ worker.running = true ∧
      s' = { s with workers := s.workers.set i { worker with phase := .failed } } := by
  simp only [step, Option.bind_eq_bind, Option.bind_eq_some_iff] at h
  obtain ⟨worker, hworker, hs'⟩ := h
  split at hs'
  · exact ⟨worker, hworker, ‹_›, (Option.some.inj hs').symm⟩
  · cases hs'

end Sentinel.Incidents
