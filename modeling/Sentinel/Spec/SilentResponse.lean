import Sentinel.Spec.ConstitutionSoundness
import Sentinel.Spec.IncidentStoreInvariant

/-! # Silent response needs two people

Every entry point takes the mode from the stored row but one: a candidate for an incident that is
already there brings its own. -/

namespace Sentinel.Incidents

open Constitution (Text)

/-! ## What the gate rests on -/

def Db.TwoApprovals (db : Db) (taskId : String) : Prop :=
  ∃ a ∈ db.silentApprovals, ∃ b ∈ db.silentApprovals,
    a.taskId = taskId ∧ b.taskId = taskId ∧ a.userId ≠ b.userId

/-- A call about the incident takes it for SILENT if it is stored so. -/
def Db.ModeKept (db : Db) (incidentId : String) (mode : ResponseMode) : Prop :=
  ∃ incident ∈ db.incidents, incident.id = incidentId ∧
    (incident.responseMode = .silent → mode = .silent)

/-- The task may be handed off. -/
def Db.Cleared (db : Db) (taskId : String) : Prop :=
  ∃ task ∈ db.tasks, task.id = taskId ∧ ∃ incident ∈ db.incidents, incident.id = task.incidentId ∧
    (incident.responseMode = .silent → db.TwoApprovals taskId)

/-- No task of a SILENT incident has left REQUESTED without two approvals. -/
def Db.Guarded (db : Db) : Prop :=
  ∀ task ∈ db.tasks, ∃ incident ∈ db.incidents, incident.id = task.incidentId ∧
    (incident.responseMode = .silent → task.deliveryState ≠ .requested → db.TwoApprovals task.id)

section Grown

variable {db db' : Db} (hgrows : db.Grows db')
include hgrows

theorem Db.TwoApprovals.grown {taskId : String} (h : db.TwoApprovals taskId) :
    db'.TwoApprovals taskId := by
  obtain ⟨a, ha, b, hb, hrest⟩ := h
  exact ⟨a, hgrows.silentApprovals a ha, b, hgrows.silentApprovals b hb, hrest⟩

theorem Db.ModeKept.grown {incidentId : String} {mode : ResponseMode}
    (h : db.ModeKept incidentId mode) : db'.ModeKept incidentId mode := by
  obtain ⟨incident, hincident, hid, hmode⟩ := h
  obtain ⟨incident', hincident', hid', hmode', _⟩ := hgrows.incidents incident hincident
  exact ⟨incident', hincident', hid'.trans hid, fun hsilent => hmode (hmode' ▸ hsilent)⟩

theorem Db.Cleared.grown {taskId : String} (h : db.Cleared taskId) : db'.Cleared taskId := by
  obtain ⟨task, htask, hid, incident, hincident, hiid, happroved⟩ := h
  obtain ⟨task', htask', hid', hslot', _⟩ := hgrows.tasks task htask
  obtain ⟨incident', hincident', hiid', hmode', _⟩ := hgrows.incidents incident hincident
  refine ⟨task', htask', hid'.trans hid, incident', hincident', ?_, fun hsilent => ?_⟩
  · rw [hiid', hiid]
    exact (Prod.mk.inj hslot').1.symm
  · exact (happroved (hmode' ▸ hsilent)).grown hgrows

/-- A task of the tables stays there under its id. -/
theorem Db.Grows.hasTask {taskId : String} (h : ∃ task ∈ db.tasks, task.id = taskId) :
    ∃ task ∈ db'.tasks, task.id = taskId := by
  obtain ⟨task, htask, hid⟩ := h
  obtain ⟨task', htask', hid', _⟩ := hgrows.tasks task htask
  exact ⟨task', htask', hid'.trans hid⟩

/-- A task of the tables stays there under its id, in its incident. -/
theorem Db.Grows.hasTaskIn {taskId incidentId : String}
    (h : ∃ task ∈ db.tasks, task.id = taskId ∧ task.incidentId = incidentId) :
    ∃ task ∈ db'.tasks, task.id = taskId ∧ task.incidentId = incidentId := by
  obtain ⟨task, htask, hid, hincident⟩ := h
  obtain ⟨task', htask', hid', hslot', _⟩ := hgrows.tasks task htask
  exact ⟨task', htask', hid'.trans hid, (Prod.mk.inj hslot').1.trans hincident⟩

end Grown

/-- What a call in progress owes to the tables. -/
def Phase.Sound (db : Db) : Phase → Prop
  | .tasks proof | .readTasks proof => db.ModeKept proof.incidentId proof.responseMode
  | .claimEvidence proof _ dispatch | .snapshot proof _ dispatch
  | .completeEvidence proof _ dispatch _ | .evaluate proof dispatch =>
    db.ModeKept proof.incidentId proof.responseMode ∧
      ∃ task ∈ db.tasks, task.id = dispatch.id ∧ task.incidentId = proof.incidentId
  | .recordApproval task _ | .listApprovals task _ => ∃ row ∈ db.tasks, row.id = task.id
  | .evaluateApprovals task _ approvals =>
    (∃ row ∈ db.tasks, row.id = task.id) ∧
      ∀ approval ∈ approvals, approval ∈ db.silentApprovals ∧ approval.taskId = task.id
  | .decided taskId _ decision _ => decision = .allow → db.Cleared taskId
  | .handoff taskId _ => db.Cleared taskId
  | _ => True

theorem Phase.Sound.grown {db db' : Db} (hgrows : db.Grows db') {phase : Phase}
    (h : phase.Sound db) : phase.Sound db' := by
  cases phase with
  | tasks | readTasks => exact Db.ModeKept.grown hgrows h
  | claimEvidence | snapshot | completeEvidence | evaluate =>
    exact ⟨Db.ModeKept.grown hgrows h.1, hgrows.hasTaskIn h.2⟩
  | recordApproval | listApprovals => exact hgrows.hasTask h
  | evaluateApprovals =>
    exact ⟨hgrows.hasTask h.1, fun approval happroval =>
      (h.2 approval happroval).imp_left (hgrows.silentApprovals approval)⟩
  | decided => exact fun hallow => (h hallow).grown hgrows
  | handoff => exact Db.Cleared.grown hgrows h
  | _ => trivial

/-! ## The evaluation -/

/-- An ALLOW for a silent dispatch rests on two of the approvals it was evaluated on. -/
theorem silent_allow {text : Text} {policy : ActivePolicy} {organisationId siteId : String}
    {approvals : List SilentApprovalRow}
    (h : (Constitution.evaluate text (dispatchRequest .silent organisationId siteId approvals)
      policy.policy).decision = .allow) :
    ∃ a ∈ approvals, ∃ b ∈ approvals, a.userId ≠ b.userId := by
  obtain ⟨x, hx, y, hy, hne⟩ := Constitution.two_approvers policy.silentTwoPerson h
  obtain ⟨a, ha, rfl⟩ := List.mem_map.mp hx
  obtain ⟨b, hb, rfl⟩ := List.mem_map.mp hy
  exact ⟨a, ha, b, hb, fun heq => hne (congrArg _ heq)⟩

/-- A candidate for an incident that is there and critical carries SILENT if the incident is
    stored SILENT. -/
def KeepsMode (s : State) : Label → Prop
  | .advance i _ => ∀ candidate incident,
      s.workers[i]? = some ⟨.handleCandidate candidate, .existing⟩ →
      s.db.findByHypothesis candidate.hypothesisId = some incident →
      critical incident.severity = true → incident.responseMode = .silent →
      responseModeForCandidate candidate = .silent
  | _ => True

/-- The playbook that follows a candidate takes the incident for what it is stored as. -/
theorem afterCandidate_sound {db : Db} {candidate : Candidate} {incident : IncidentRow}
    (hmem : incident ∈ db.incidents)
    (hmode : critical incident.severity = true → incident.responseMode = .silent →
      responseModeForCandidate candidate = .silent) :
    (afterCandidate candidate incident).Sound db := by
  rw [afterCandidate]
  split
  · exact ⟨incident, hmem, rfl, hmode ‹_›⟩
  · trivial

theorem mem_openIncident {db db' : Db} {row : IncidentRow} (h : db.openIncident row = some db') :
    row ∈ db'.incidents := by
  obtain ⟨inserted, hinsert, rfl⟩ := Db.openIncident_eq_some h
  show row ∈ inserted.incidents
  rw [(Db.insertIncident_eq_some hinsert).1]
  exact List.mem_append_right _ (List.mem_singleton_self row)

theorem advanceFromHypothesis_modeKept {db : Db} {input : Db.AdvanceInput} {ids : TaskType → String}
    {incident : IncidentRow} {started : Bool} {db' : Db}
    (h : db.advanceFromHypothesis input ids = (some (incident, started), db'))
    (hgrows : db.Grows db') : db'.ModeKept incident.id incident.responseMode := by
  rcases db.advanceFromHypothesis_cases input ids with ⟨hnone, _⟩ | hsome
  · rw [hnone] at h
    cases (Prod.mk.inj h).1
  · obtain ⟨current, started', hcurrent, _, hresult, _⟩ := hsome
    rw [h] at hresult
    cases hresult
    have hstored : db.ModeKept current.id current.responseMode :=
      ⟨current, (Db.findForHypothesis_eq_some hcurrent).1, rfl, id⟩
    exact hstored.grown hgrows

/-- Where a call stands after its step, given that it keeps the stored mode. -/
theorem advance_sound {text : Text} {worker : Worker} {db db' : Db} {env : Env} {phase : Phase}
    (hguarded : db.Guarded) (hsound : worker.phase.Sound db)
    (hkeeps : ∀ candidate incident, worker = ⟨.handleCandidate candidate, .existing⟩ →
      db.findByHypothesis candidate.hypothesisId = some incident →
      critical incident.severity = true → incident.responseMode = .silent →
      responseModeForCandidate candidate = .silent)
    (h : worker.advance text db env = some (db', phase)) : phase.Sound db' := by
  have hgrows : db.Grows db' := (advance_writes h).grows
  obtain ⟨call, now⟩ := worker
  cases now with
  | start =>
    cases call with
    | handleCandidate candidate =>
      simp only [Worker.advance] at h
      split at h
      · rename_i hopen
        cases h
        exact afterCandidate_sound (mem_openIncident hopen) fun _ hsilent => hsilent
      · cases h
        trivial
    | openWhisperSilentIncident input =>
      simp only [Worker.advance] at h
      split at h
      · rename_i hopen
        cases h
        exact ⟨_, mem_openIncident hopen, rfl, fun _ => rfl⟩
      · cases h
        trivial
    | approveSilentDispatch organisationId incidentId taskId actorUserId scope =>
      simp only [Worker.advance] at h
      split at h
      · rename_i task incident hfind
        obtain ⟨htask, _⟩ := Db.findTask_eq_some hfind
        split at h
        all_goals cases h
        · exact ⟨task, htask, rfl⟩
        · trivial
      · cases h
        trivial
    | handleHypothesisUpdate | acknowledge =>
      simp only [Worker.advance] at h
      repeat' split at h
      all_goals
        cases h
        trivial
  | existing =>
    cases call with
    | handleCandidate candidate =>
      simp only [Worker.advance] at h
      split at h
      · rename_i incident hfind
        cases h
        exact afterCandidate_sound (Db.findByHypothesis_eq_some hfind).1
          (hkeeps candidate incident rfl hfind)
      · cases h
        trivial
    | openWhisperSilentIncident input =>
      simp only [Worker.advance] at h
      split at h
      · rename_i incident hfind
        cases h
        exact ⟨incident, (Db.findByWhisperRecognition_eq_some hfind).1, rfl, fun _ => rfl⟩
      · cases h
        trivial
    | _ => cases h
  | advance message =>
    simp only [Worker.advance] at h
    split at h
    · cases h
      trivial
    · rename_i incident started written hadvanced
      split at h
      all_goals cases h
      · exact advanceFromHypothesis_modeKept hadvanced hgrows
      · trivial
  | reread message =>
    simp only [Worker.advance] at h
    split at h
    · rename_i incident hfind
      split at h
      all_goals cases h
      · exact ⟨incident, (Db.findForHypothesis_eq_some hfind).1, rfl, id⟩
      · trivial
    · cases h
      trivial
  | tasks proof =>
    cases h
    exact Db.ModeKept.grown hgrows hsound
  | readTasks proof =>
    simp only [Worker.advance] at h
    split at h
    · rename_i preserve notify dispatch _ _ hdispatch
      obtain ⟨htask, hslot⟩ := Db.findTaskOfType_eq_some hdispatch
      have hproof : db.ModeKept proof.incidentId proof.responseMode ∧
          ∃ task ∈ db.tasks, task.id = dispatch.id ∧ task.incidentId = proof.incidentId :=
        ⟨hsound, dispatch, htask, rfl, (Prod.mk.inj hslot).1⟩
      split at h
      all_goals
        cases h
        exact hproof
    · cases h
      trivial
  | claimEvidence proof preserve dispatch =>
    simp only [Worker.advance] at h
    split at h
    all_goals
      cases h
      exact ⟨Db.ModeKept.grown hgrows hsound.1, hgrows.hasTaskIn hsound.2⟩
  | snapshot proof preserve dispatch =>
    cases h
    exact hsound
  | completeEvidence proof preserve dispatch evidenceId =>
    simp only [Worker.advance] at h
    split at h
    · cases h
      exact ⟨Db.ModeKept.grown hgrows hsound.1, hgrows.hasTaskIn hsound.2⟩
    · cases h
      trivial
  | evaluate proof dispatch =>
    simp only [Worker.advance] at h
    split at h
    · cases h
      intro hallow
      obtain ⟨⟨incident, hincident, hiid, hmode⟩, task, htask, hid, htaskIncident⟩ := hsound
      refine ⟨task, htask, hid, incident, hincident, hiid.trans htaskIncident.symm, ?_⟩
      -- a SILENT playbook passes no approvals, and is not allowed
      intro hsilent
      rw [hmode hsilent] at hallow
      obtain ⟨a, ha, _⟩ := silent_allow hallow
      cases ha
    · cases h
      trivial
  | recordApproval task incident =>
    have hkept := hgrows.hasTask hsound
    cases call with
    | approveSilentDispatch =>
      simp only [Worker.advance] at h
      repeat' split at h
      all_goals
        cases h
        first
          | exact hkept
          | trivial
    | _ => cases h
  | listApprovals task incident =>
    cases h
    exact ⟨hsound, fun approval happroval => Db.mem_listSilentApprovals.mp happroval⟩
  | evaluateApprovals task incident approvals =>
    cases h
    intro hallow
    obtain ⟨⟨row, hrow, hid⟩, happrovals⟩ := hsound
    obtain ⟨stored, hstored, hiid, _⟩ := hguarded row hrow
    refine ⟨row, hrow, hid, stored, hstored, hiid, fun _ => ?_⟩
    obtain ⟨a, ha, b, hb, hne⟩ := silent_allow hallow
    exact ⟨a, (happrovals a ha).1, b, (happrovals b hb).1, (happrovals a ha).2,
      (happrovals b hb).2, hne⟩
  | decided taskId mode decision payload =>
    simp only [Worker.advance] at h
    split at h
    · cases h
      trivial
    · split at h
      all_goals cases h
      · exact (hsound ‹_›).grown hgrows
      · trivial
  | _ =>
    simp only [Worker.advance] at h
    repeat' split at h
    all_goals first
      | contradiction
      | cases h
        trivial

/-- A step keeps every task of a SILENT incident guarded. -/
theorem Db.Guarded.step {db db' : Db} {env : Env} {worker : Worker} (hguarded : db.Guarded)
    (hsound : worker.phase.Sound db) (h : worker.Writes env db db') : db'.Guarded := by
  have hgrows := h.grows
  intro task' htask'
  rcases h.tasks htask' with ⟨task, htask, hid, hslot, hstate⟩ | ⟨hrequested, hincident⟩ |
    ⟨mode, hphase, task, htask, hid, hslot⟩
  · obtain ⟨incident, hincident, hiid, happroved⟩ := hguarded task htask
    obtain ⟨incident', hincident', hiid', hmode', _⟩ := hgrows.incidents incident hincident
    refine ⟨incident', hincident', ?_, fun hsilent hdone => ?_⟩
    · rw [hiid', hiid]
      exact (Prod.mk.inj hslot).1
    · exact hid ▸ (happroved (hmode' ▸ hsilent) (hstate hdone)).grown hgrows
  · -- a fresh task
    have hstored : ∃ incident ∈ db.incidents, incident.id = task'.incidentId := by
      rcases hincident with ⟨proof, hphase, hid⟩ | hincident
      · rw [hphase] at hsound
        obtain ⟨incident, hincident, hiid, _⟩ := hsound
        exact ⟨incident, hincident, hiid.trans hid⟩
      · exact hincident
    obtain ⟨incident, hincident, hiid⟩ := hstored
    obtain ⟨incident', hincident', hiid', _⟩ := hgrows.incidents incident hincident
    exact ⟨incident', hincident', hiid'.trans hiid, fun _ hdone => absurd hrequested hdone⟩
  · -- the hand-off: its worker was cleared
    rw [hphase] at hsound
    obtain ⟨cleared, hcleared, hcid, incident, hincident, hiid, happroved⟩ := hsound
    obtain rfl : cleared = task := Table.eq_of_key db.tasks_id hcleared htask (hcid.trans hid.symm)
    obtain ⟨incident', hincident', hiid', hmode', _⟩ := hgrows.incidents incident hincident
    refine ⟨incident', hincident', ?_, fun hsilent _ => ?_⟩
    · rw [hiid', hiid]
      exact (Prod.mk.inj hslot).1
    · exact (happroved (hmode' ▸ hsilent)).grown hgrows

/-! ## Runs -/

/-- The tables are guarded, and every call owes them what it should. -/
structure State.Sound (s : State) : Prop where
  guarded : s.db.Guarded
  workers : ∀ worker ∈ s.workers, worker.phase.Sound s.db

theorem State.sound_init : State.init.Sound where
  guarded := by
    intro task htask
    cases htask
  workers := by
    intro worker hworker
    cases hworker

theorem State.Sound.step {text : Text} {s s' : State} {label : Label} (hs : s.Sound)
    (hkeeps : KeepsMode s label) (h : Incidents.step text s label = some s') : s'.Sound := by
  cases label with
  | call call =>
    cases h
    refine ⟨hs.guarded, fun worker hworker => ?_⟩
    rcases List.of_mem_concat hworker with hold | rfl
    · exact hs.workers worker hold
    · trivial
  | advance i env =>
    obtain ⟨worker, db, phase, hworker, hadvance, rfl⟩ := step_advance_eq_some h
    have hsound := hs.workers worker (List.mem_of_getElem? hworker)
    have hwrites := advance_writes hadvance
    refine ⟨hs.guarded.step hsound hwrites, fun other hother => ?_⟩
    rcases List.mem_or_eq_of_mem_set hother with hold | rfl
    · exact (hs.workers other hold).grown hwrites.grows
    · exact advance_sound hs.guarded hsound
        (fun candidate incident hcall => hkeeps candidate incident (hcall ▸ hworker)) hadvance
  | fail i =>
    obtain ⟨worker, _, _, rfl⟩ := step_fail_eq_some h
    refine ⟨hs.guarded, fun other hother => ?_⟩
    rcases List.mem_or_eq_of_mem_set hother with hold | rfl
    · exact hs.workers other hold
    · trivial

/-- In every run in which each candidate for an incident stored SILENT carries SILENT, a field
    dispatch of a SILENT incident leaves REQUESTED only with silent approvals by two users. -/
theorem silentDispatch_twoApprovals {text : Text} {labels : List Label} {s : State}
    (hkeeps : Transition.RunAll (step text) KeepsMode .init labels)
    (h : Transition.run (step text) .init labels = some s) :
    ∀ task ∈ s.db.tasks, ∀ incident ∈ s.db.incidents, incident.id = task.incidentId →
      incident.responseMode = .silent → task.deliveryState ≠ .requested →
      ∃ a ∈ s.db.silentApprovals, ∃ b ∈ s.db.silentApprovals,
        a.taskId = task.id ∧ b.taskId = task.id ∧ a.userId ≠ b.userId := by
  have hsound : s.Sound := Transition.runAll_invariant State.Sound.step State.sound_init hkeeps h
  intro task htask incident hincident hid hsilent hdone
  obtain ⟨stored, hstored, hsid, happroved⟩ := hsound.guarded task htask
  obtain rfl := Table.eq_of_key s.db.incidents_id hstored hincident (hsid.trans hid.symm)
  exact happroved hsilent hdone

/-! ## A candidate in another mode -/

/-- Identifiers without capitals and outer blanks. -/
def plainText : Text := { trim := id, toLowerCase := id }

def criticalCandidate (rulePack : String) : Candidate :=
  { incidentCandidateId := "c", hypothesisId := "h", organisationId := "org", siteId := "site"
    zoneId := none, threatState := 5, detectionConfidence := 1, threatProbability := 1
    potentialImpact := .extreme, operationalSeverity := .sev1, supportingEventIds := []
    contradictingEventIds := [], confidenceExplanation := "", ruleOrModelVersions := [rulePack]
    reEscalation := false, emissionNumber := 1, triggeringEventId := "e", hypothesisVersion := 1
    emittedAt := 0 }

/-- The ids the database generates for the incident and its tasks. -/
def plainEnv : Env :=
  { id := "incident"
    taskIds := fun
      | .preserveEvidence => "preserve"
      | .notifyCommander => "notify"
      | .dispatchField => "dispatch" }

/-- A coercion candidate opens the incident, and a candidate under the given rule pack
    follows. -/
def coercionThen (rulePack : String) : List Label :=
  [.call (.handleCandidate (criticalCandidate "coercion-v1"))] ++
    List.replicate 7 (.advance 0 plainEnv) ++
    [.call (.handleCandidate (criticalCandidate rulePack))] ++
    List.replicate 5 (.advance 1 plainEnv)

def keepsModeCheck (s : State) : Label → Bool
  | .advance i _ =>
    match s.workers[i]? with
    | some ⟨.handleCandidate candidate, .existing⟩ =>
      (s.db.findByHypothesis candidate.hypothesisId).all fun incident =>
        !critical incident.severity || incident.responseMode = .standard ||
          responseModeForCandidate candidate = .silent
    | _ => true
  | _ => true

theorem keepsMode_of_checked {s : State} {label : Label} (h : keepsModeCheck s label = true) :
    KeepsMode s label := by
  cases label with
  | call | fail => trivial
  | advance i env =>
    intro candidate incident hworker hfind hcritical hsilent
    simpa [keepsModeCheck, hworker, hfind, hcritical, hsilent] using h

/-- A further coercion candidate keeps the dispatch waiting. -/
theorem silentDispatch_twoApprovals_coercion :
    let s := (Transition.run (step plainText) .init (coercionThen "coercion-v2")).getD .init
    ∀ task ∈ s.db.tasks, ∀ incident ∈ s.db.incidents, incident.id = task.incidentId →
      incident.responseMode = .silent → task.deliveryState ≠ .requested →
      ∃ a ∈ s.db.silentApprovals, ∃ b ∈ s.db.silentApprovals,
        a.taskId = task.id ∧ b.taskId = task.id ∧ a.userId ≠ b.userId := by
  exact silentDispatch_twoApprovals
    (Transition.runAll_of_checked (fun _ _ => keepsMode_of_checked) (by decide))
    (Transition.run_eq_some_getD (by decide))

/-- A standard candidate dispatches the SILENT incident without any approval. -/
theorem standardCandidate_dispatches :
    ∃ s, Transition.run (step plainText) .init
        (coercionThen "fusion-rules-v1" ++ List.replicate 2 (.advance 1 plainEnv)) = some s ∧
      s.db.incidents.map (·.responseMode) = [.silent] ∧
      s.db.tasks.map (fun task => (task.taskType, task.deliveryState)) =
        [(.preserveEvidence, .requested), (.notifyCommander, .requested),
          (.dispatchField, .delivered)] ∧
      s.db.silentApprovals = [] := by
  have hrun : (Transition.run (step plainText) .init
      (coercionThen "fusion-rules-v1" ++ List.replicate 2 (.advance 1 plainEnv))).isSome = true := by
    decide
  refine ⟨_, Transition.run_eq_some_getD hrun, ?_⟩
  decide

/-! ## Runs keep the record -/

theorem step_grows {text : Text} {s s' : State} {label : Label} (h : step text s label = some s') :
    s.db.Grows s'.db := by
  cases label with
  | call call => cases h; exact .refl _
  | advance i env =>
    obtain ⟨worker, db, phase, -, hadvance, rfl⟩ := step_advance_eq_some h
    exact (advance_writes hadvance).grows
  | fail i =>
    obtain ⟨worker, -, -, rfl⟩ := step_fail_eq_some h
    exact .refl _

/-- **The record of an incident is never taken back**, whatever is called and wherever a call stops:
incidents keep their identity and mode, tasks their slot, none returns to REQUESTED, and approvals
and timeline entries stay. -/
theorem record_grows {text : Text} {s s' : State} {labels : List Label}
    (h : Transition.run (step text) s labels = some s') : s.db.Grows s'.db :=
  Transition.run_mono (r := fun s s' => s.db.Grows s'.db) (fun s => .refl s.db) Db.Grows.trans
    (fun _ _ => trivial) (fun _ => step_grows) trivial h

theorem record_grows_coercion :
    let opened :=
      (Transition.run (step plainText) .init (coercionThen "fusion-rules-v1")).getD .init
    opened.db.Grows ((Transition.run (step plainText) opened
      (List.replicate 2 (.advance 1 plainEnv))).getD opened).db := by
  exact record_grows (Transition.run_eq_some_getD (by decide))

end Sentinel.Incidents
