import Sentinel.Spec.SilentResponse

/-! # Retrying a silent approval

`approveSilentDispatch` records the approval, then evaluates the dispatch and hands it off, and
answers at once when the approval was recorded before.  So a retry speaks for the call that recorded
it. -/

namespace Sentinel.Incidents

open Constitution (Text)

/-! ## What a retry vouches for -/

def TwoListed (approvals : List SilentApprovalRow) : Prop :=
  ∃ a ∈ approvals, ∃ b ∈ approvals, a.userId ≠ b.userId

/-- The dispatch has been delivered, or was evaluated on the approvals of two users and
    not allowed. -/
def Db.Settled (db : Db) (taskId : String) : Prop :=
  (∃ task ∈ db.tasks, task.id = taskId ∧ task.deliveryState ≠ .requested) ∨
    ∃ entry ∈ db.timeline, ∃ decision traceId trace approvals,
      entry.payload =
        .constitution taskId silentDispatchAction decision traceId trace approvals ∧
      decision ≠ .allow ∧ TwoListed approvals

theorem Db.Settled.grown {db db' : Db} (hgrows : db.Grows db') {taskId : String}
    (h : db.Settled taskId) : db'.Settled taskId := by
  rcases h with ⟨task, htask, hid, hstate⟩ | ⟨entry, hentry, hrest⟩
  · obtain ⟨task', htask', hid', _, hkeep⟩ := hgrows.tasks task htask
    exact .inl ⟨task', htask', hid'.trans hid, hkeep hstate⟩
  · exact .inr ⟨entry, hgrows.timeline entry hentry, hrest⟩

/-- The call is on its way to settle the dispatch: it will evaluate it on the approvals of
    two users, or it has and is to record the verdict or to hand the task off. -/
def Phase.Carries (db : Db) (taskId : String) : Phase → Prop
  | .listApprovals task _ => task.id = taskId ∧ db.TwoApprovals taskId
  | .evaluateApprovals task _ approvals => task.id = taskId ∧ TwoListed approvals
  | .decided id _ decision payload => id = taskId ∧ ∃ traceId trace approvals,
      payload = .constitution taskId silentDispatchAction decision traceId trace approvals ∧
        TwoListed approvals
  | .handoff id _ => id = taskId
  | _ => False

/-- As long as a dispatch with two approvals is not settled, the last call that carries it
    does not die, and no retry finds its approval recorded while one carries it. -/
def Uninterrupted (s : State) : Label → Prop
  | .call _ => True
  | .advance i _ => ∀ organisationId incidentId taskId userId scope task incident,
      s.workers[i]? =
        some ⟨.approveSilentDispatch organisationId incidentId taskId userId scope,
          .recordApproval task incident⟩ →
      (∃ approval ∈ s.db.silentApprovals, approval.key = (task.id, userId)) →
      ¬ s.db.Settled task.id →
      ∀ other ∈ s.workers, ¬ other.phase.Carries s.db task.id
  | .fail i => ∀ worker taskId, s.workers[i]? = some worker → worker.phase.Carries s.db taskId →
      ¬ s.db.Settled taskId →
      ∃ j other, j ≠ i ∧ s.workers[j]? = some other ∧ other.phase.Carries s.db taskId

/-! ## The tables -/

/-- Approvals are about tasks, and a task that was handed off has left REQUESTED. -/
structure Db.Linked (db : Db) : Prop where
  approvals : ∀ approval ∈ db.silentApprovals, ∃ task ∈ db.tasks, task.id = approval.taskId
  handoffs : ∀ taskId ∈ db.handoffs,
    ∃ task ∈ db.tasks, task.id = taskId ∧ task.deliveryState ≠ .requested

theorem Db.TwoApprovals.hasTask {db : Db} (hdb : db.Linked) {taskId : String}
    (h : db.TwoApprovals taskId) : ∃ task ∈ db.tasks, task.id = taskId := by
  obtain ⟨a, ha, _, _, rfl, _⟩ := h
  exact hdb.approvals a ha

/-- What a step does to the approvals and the hand-offs. -/
theorem Worker.Writes.linked {env : Env} {db db' : Db} {worker : Worker}
    (h : worker.Writes env db db') :
    (db'.silentApprovals = db.silentApprovals ∨
      ∃ organisationId incidentId taskId userId scope task incident,
        worker = ⟨.approveSilentDispatch organisationId incidentId taskId userId scope,
          .recordApproval task incident⟩ ∧
        (∃ row ∈ db.tasks, row.id = task.id) ∧
        db'.silentApprovals =
          db.silentApprovals ++ [⟨task.id, userId, "site.commander", env.now⟩]) ∧
    (db'.handoffs = db.handoffs ∨
      ∃ taskId, db'.handoffs = db.handoffs ++ [taskId] ∧
        ∃ task ∈ db'.tasks, task.id = taskId ∧ task.deliveryState ≠ .requested) := by
  cases h with
  | nothing => exact ⟨.inl rfl, .inl rfl⟩
  | openCandidate _ _ write | openWhisper _ _ write =>
    obtain ⟨inserted, hinsert, rfl⟩ := Db.openIncident_eq_some write
    obtain ⟨_, _, happrovals, hhandoffs⟩ := Db.insertIncident_eq_some hinsert
    exact ⟨.inl happrovals, .inl hhandoffs⟩
  | advanced phase =>
    rcases Db.advanceFromHypothesis_cases db _ env.taskIds with ⟨hnone, _⟩ | hsome
    · rw [hnone]
      exact ⟨.inl rfl, .inl rfl⟩
    · obtain ⟨current, started, _, _, _, tasked, payload, hwritten, htasked⟩ := hsome
      rw [hwritten]
      rcases htasked with rfl | rfl
      · exact ⟨.inl rfl, .inl rfl⟩
      · obtain ⟨_, happrovals, hhandoffs, _⟩ := Db.createProofATasks_frame
          (db.updateIncidents (fun row => row.id = current.id)
            (Db.AdvanceInput.apply _ started) (fun _ => rfl) (fun _ => rfl) (fun _ => rfl))
          current.id env.taskIds
        exact ⟨.inl happrovals, .inl hhandoffs⟩
  | created phase =>
    obtain ⟨_, happrovals, hhandoffs, _⟩ := Db.createProofATasks_frame db _ env.taskIds
    exact ⟨.inl happrovals, .inl hhandoffs⟩
  | claimed taskId => exact ⟨.inl rfl, .inl rfl⟩
  | completed write =>
    rcases Db.completeEvidenceSnapshot_eq_some write with rfl | ⟨_, _, rfl⟩
    all_goals exact ⟨.inl rfl, .inl rfl⟩
  | approved call phase write =>
    obtain ⟨htask, hcases⟩ := Db.recordSilentApproval_eq_some write
    rcases hcases with ⟨_, rfl, _⟩ | ⟨_, _, inserted, hinsert, happrovals, rfl⟩
    · exact ⟨.inl rfl, .inl rfl⟩
    · obtain ⟨_, _⟩ := worker
      obtain rfl := call
      obtain rfl := phase
      exact ⟨.inr ⟨_, _, _, _, _, _, _, rfl, htask, happrovals⟩,
        .inl (Db.insertSilentApproval_grows hinsert).2.2.2⟩
  | recorded _ write =>
    obtain ⟨_, rfl⟩ := Db.recordConstitutionDecision_eq_some write
    exact ⟨.inl rfl, .inl rfl⟩
  | handedOff phase =>
    rename_i taskId mode
    rcases Db.createLocalDispatchHandoff_cases db taskId mode with hsame | hdone
    · rw [hsame]
      exact ⟨.inl rfl, .inl rfl⟩
    · obtain ⟨task, inserted, htask, hstate, hinsert, hwritten⟩ := hdone
      obtain ⟨htaskMem, hid⟩ := Db.findTaskById_eq_some htask
      obtain ⟨_, htasks, _, happrovals, _, hhandoffs⟩ := Db.insertHandoff_eq_some hinsert
      rw [hwritten]
      refine ⟨.inl happrovals, .inr ⟨taskId, hhandoffs, { task with deliveryState := .delivered },
        ?_, hid, nofun⟩⟩
      show _ ∈ Table.rewrite _ _ inserted.tasks
      exact Table.mem_rewrite.mpr ⟨task, htasks ▸ htaskMem, by simp [hid, hstate]⟩
  | acknowledged write =>
    obtain ⟨task, _, _, rfl⟩ := Db.acknowledgeTask_eq_some write
    exact ⟨.inl rfl, .inl rfl⟩

theorem Db.Linked.step {env : Env} {db db' : Db} {worker : Worker} (hdb : db.Linked)
    (h : worker.Writes env db db') : db'.Linked := by
  have hgrows := h.grows
  obtain ⟨happrovals, hhandoffs⟩ := h.linked
  refine ⟨fun approval happroval => ?_, fun taskId hhandoff => ?_⟩
  · rcases happrovals with heq | ⟨_, _, _, _, _, task, _, _, htask, heq⟩
    · exact hgrows.hasTask (hdb.approvals approval (heq ▸ happroval))
    · rw [heq] at happroval
      rcases List.of_mem_concat happroval with hold | rfl
      · exact hgrows.hasTask (hdb.approvals approval hold)
      · exact hgrows.hasTask htask
  · have hkept : taskId ∈ db.handoffs →
        ∃ task ∈ db'.tasks, task.id = taskId ∧ task.deliveryState ≠ .requested := fun hold => by
      obtain ⟨task, htask, hid, hstate⟩ := hdb.handoffs taskId hold
      obtain ⟨task', htask', hid', _, hkeep⟩ := hgrows.tasks task htask
      exact ⟨task', htask', hid'.trans hid, hkeep hstate⟩
    rcases hhandoffs with heq | ⟨handed, heq, hdone⟩
    · exact hkept (heq ▸ hhandoff)
    · rw [heq] at hhandoff
      rcases List.of_mem_concat hhandoff with hold | rfl
      · exact hkept hold
      · exact hdone

/-! ## Carrying a dispatch to its end -/

section Carried

variable {text : Text} {db db' : Db} {env : Env} {taskId : String}

theorem Phase.Carries.grown (hgrows : db.Grows db') {phase : Phase}
    (h : phase.Carries db taskId) : phase.Carries db' taskId := by
  cases phase with
  | listApprovals => exact h.imp_right fun happroved => happroved.grown hgrows
  | evaluateApprovals | decided | handoff => exact h
  | _ => exact h.elim

theorem Db.TwoApprovals.listed (h : db.TwoApprovals taskId) :
    TwoListed (db.listSilentApprovals taskId) := by
  obtain ⟨a, ha, b, hb, hata, hbta, hne⟩ := h
  exact ⟨a, Db.mem_listSilentApprovals.mpr ⟨ha, hata⟩, b,
    Db.mem_listSilentApprovals.mpr ⟨hb, hbta⟩, hne⟩

/-- After the hand-off of a task of the tables, whatever its outcome, the task has left
    REQUESTED. -/
theorem createLocalDispatchHandoff_settles (hdb : db.Linked) (mode : ResponseMode)
    (htask : ∃ task ∈ db.tasks, task.id = taskId) :
    (db.createLocalDispatchHandoff taskId mode).2.Settled taskId := by
  obtain ⟨task, hmem, rfl⟩ := htask
  rcases Db.createLocalDispatchHandoff_cases db task.id mode with hsame | hdone
  · rw [hsame]
    by_cases hhandoff : task.id ∈ db.handoffs
    · exact .inl (hdb.handoffs _ hhandoff)
    · -- not handed off before, so the fence found it past REQUESTED
      refine .inl ⟨task, hmem, rfl, fun hstate => ?_⟩
      have hdelivered := congrArg Db.handoffs hsame
      rw [Db.createLocalDispatchHandoff, Db.findTaskById_of_mem hmem] at hdelivered
      simp only [Db.insertHandoff, hhandoff, not_false_eq_true, dite_true, hstate, if_true,
        Db.note, Db.updateTasks] at hdelivered
      exact absurd (congrArg List.length hdelivered) (by simp)
  · obtain ⟨found, inserted, hfind, hstate, hinsert, hwritten⟩ := hdone
    rw [hwritten]
    refine .inl ⟨{ task with deliveryState := .delivered }, ?_, rfl, fun h => by cases h⟩
    obtain rfl : task = found := Option.some.inj ((Db.findTaskById_of_mem hmem).symm.trans hfind)
    show _ ∈ Table.rewrite _ _ inserted.tasks
    rw [(Db.insertHandoff_eq_some hinsert).2.1]
    exact Table.mem_rewrite.mpr ⟨task, hmem, by simp [hstate]⟩

/-- A call that carries a dispatch goes on carrying it until it is settled. -/
theorem advance_carries {worker : Worker} {phase : Phase} (hdb : db.Linked)
    (happroved : db.TwoApprovals taskId) (hcarries : worker.phase.Carries db taskId)
    (h : worker.advance text db env = some (db', phase)) :
    phase.Carries db' taskId ∨ db'.Settled taskId := by
  obtain ⟨task, htask, hid⟩ := happroved.hasTask hdb
  obtain ⟨call, now⟩ := worker
  cases now with
  | listApprovals read incident =>
    cases h
    exact .inl ⟨hcarries.1, hcarries.1 ▸ hcarries.2.listed⟩
  | evaluateApprovals read incident approvals =>
    cases h
    obtain ⟨rfl, hlisted⟩ := hcarries
    exact .inl ⟨rfl, _, _, approvals, rfl, hlisted⟩
  | decided id mode decision payload =>
    obtain ⟨rfl, traceId, trace, approvals, rfl, hlisted⟩ := hcarries
    simp only [Worker.advance] at h
    split at h
    · -- the task is there, so recording does not throw
      rename_i hnone
      rw [Db.recordConstitutionDecision, ← hid, Db.findTaskById_of_mem htask] at hnone
      cases hnone
    · rename_i written hwrite
      obtain ⟨incidentId, rfl⟩ := Db.recordConstitutionDecision_eq_some hwrite
      split at h
      all_goals cases h
      · exact .inl rfl
      · exact .inr (.inr ⟨_, List.mem_append_right _ (List.mem_singleton_self _), decision,
          traceId, trace, approvals, rfl, ‹_›, hlisted⟩)
  | handoff id mode =>
    obtain rfl := hcarries
    rw [advance_handoff h]
    exact .inr (createLocalDispatchHandoff_settles hdb mode ⟨task, htask, hid⟩)
  | _ => exact hcarries.elim

end Carried

/-! ## Approving calls -/

section Approving

variable {text : Text} {db db' : Db} {env : Env} {organisationId incidentId taskId userId : String}
  {scope : SiteScope} {phase : Phase}

/-- The first step of an approving call only reads the task. -/
theorem advance_start
    (h : Worker.advance text db env
      ⟨.approveSilentDispatch organisationId incidentId taskId userId scope, .start⟩ =
        some (db', phase)) :
    db' = db ∧ (phase = .failed ∨
      ∃ task incident, phase = .recordApproval task incident ∧ task ∈ db.tasks ∧
        task.id = taskId) := by
  simp only [Worker.advance] at h
  split at h
  · rename_i task incident hfind
    obtain ⟨htask, hid, _⟩ := Db.findTask_eq_some hfind
    split at h
    all_goals cases h
    · exact ⟨rfl, .inr ⟨task, incident, rfl, htask, hid⟩⟩
    · exact ⟨rfl, .inl rfl⟩
  · cases h
    exact ⟨rfl, .inl rfl⟩

/-- The second records the approval: a retry returns at once, a first call goes on unless
    it read the task past REQUESTED. -/
theorem advance_recordApproval {task : ResponseTaskRow} {incident : IncidentRow}
    (h : Worker.advance text db env
      ⟨.approveSilentDispatch organisationId incidentId taskId userId scope,
        .recordApproval task incident⟩ = some (db', phase)) :
    (phase = .failed ∧ db' = db) ∨
    (phase = .returned ∧ db' = db ∧
      ∃ approval ∈ db.silentApprovals, approval.key = (task.id, userId)) ∨
    ((∀ approval ∈ db.silentApprovals, approval.key ≠ (task.id, userId)) ∧
      db'.silentApprovals =
        db.silentApprovals ++ [⟨task.id, userId, "site.commander", env.now⟩] ∧
      (phase = .listApprovals task incident ∨
        phase = .returned ∧ task.deliveryState ≠ .requested)) := by
  simp only [Worker.advance] at h
  split at h
  · cases h
    exact .inl ⟨rfl, rfl⟩
  · rename_i isNew written hwrite
    rcases (Db.recordSilentApproval_eq_some hwrite).2 with ⟨rfl, rfl, hold⟩ |
      ⟨rfl, _, inserted, hinsert, happrovals, rfl⟩
    · cases h
      exact .inr (.inl ⟨rfl, rfl, hold⟩)
    · have hnew : ∀ approval ∈ db.silentApprovals, approval.key ≠ (task.id, userId) := by
        intro approval happroval hkey
        rw [Db.insertSilentApproval, dif_neg] at hinsert
        · cases hinsert
        · exact fun hfresh => hfresh approval happroval hkey
      rw [if_neg (by simp)] at h
      split at h
      all_goals cases h
      · exact .inr (.inr ⟨hnew, happrovals, .inl rfl⟩)
      · exact .inr (.inr ⟨hnew, happrovals, .inr ⟨rfl, ‹_›⟩⟩)

/-- Only the first step leads to the second. -/
theorem advance_to_recordApproval {worker : Worker} {task : ResponseTaskRow}
    {incident : IncidentRow}
    (h : worker.advance text db env = some (db', .recordApproval task incident)) :
    db' = db ∧ task ∈ db.tasks := by
  obtain ⟨call, now⟩ := worker
  cases now with
  | start =>
    cases call with
    | approveSilentDispatch =>
      obtain ⟨rfl, hfailed | ⟨_, _, hphase, htask, _⟩⟩ := advance_start h
      · cases hfailed
      · obtain ⟨rfl, rfl⟩ := Phase.recordApproval.inj hphase
        exact ⟨rfl, htask⟩
    | handleCandidate candidate =>
      simp only [Worker.advance, afterCandidate] at h
      repeat' split at h
      all_goals cases h
    | _ =>
      simp only [Worker.advance] at h
      repeat' split at h
      all_goals cases h
  | _ =>
    exfalso
    simp only [Worker.advance, afterCandidate, judge] at h
    repeat' split at h
    all_goals first
      | contradiction
      | cases h

end Approving

/-! ## Runs -/

/-- Every dispatch with two approvals is settled or carried; and a call that read a task
    past REQUESTED read what is so. -/
structure State.Carried (s : State) : Prop where
  linked : s.db.Linked
  reads : ∀ worker ∈ s.workers, ∀ task incident, worker.phase = .recordApproval task incident →
    task.deliveryState ≠ .requested →
    ∃ row ∈ s.db.tasks, row.id = task.id ∧ row.deliveryState ≠ .requested
  carried : ∀ taskId, s.db.TwoApprovals taskId → s.db.Settled taskId ∨
    ∃ (i : Nat) (worker : Worker), s.workers[i]? = some worker ∧
      worker.phase.Carries s.db taskId

theorem State.carried_init : State.init.Carried where
  linked := by
    refine ⟨fun approval happroval => ?_, fun taskId hhandoff => ?_⟩
    · cases happroval
    · cases hhandoff
  reads := by
    intro worker hworker
    cases hworker
  carried := by
    rintro taskId ⟨a, ha, _⟩
    cases ha

/-- The second approval of a task is recorded by a call that then carries it, unless the
    task had left REQUESTED. -/
theorem advance_secondApproval {text : Text} {worker : Worker} {db db' : Db} {env : Env}
    {phase : Phase} {taskId : String} (h : worker.advance text db env = some (db', phase))
    (hreads : ∀ task incident, worker.phase = .recordApproval task incident →
      task.deliveryState ≠ .requested →
      ∃ row ∈ db.tasks, row.id = task.id ∧ row.deliveryState ≠ .requested)
    (hbefore : ¬ db.TwoApprovals taskId) (hafter : db'.TwoApprovals taskId) :
    phase.Carries db' taskId ∨ db'.Settled taskId := by
  have hwrites := advance_writes h
  rcases hwrites.linked.1 with hsame | hadded
  · rw [Db.TwoApprovals, hsame] at hafter
    exact absurd hafter hbefore
  · obtain ⟨organisationId, incidentId, claimed, userId, scope, task, incident, rfl, _, hadd⟩ :=
      hadded
    obtain rfl : task.id = taskId := by
      -- otherwise both approvals were there before
      by_contra hne
      refine hbefore ?_
      obtain ⟨a, ha, b, hb, hat, hbt, hdistinct⟩ := hafter
      rw [hadd, List.mem_append, List.mem_singleton] at ha hb
      have hold : ∀ {approval : SilentApprovalRow},
          approval ∈ db.silentApprovals ∨ approval = ⟨task.id, userId, "site.commander", env.now⟩ →
          approval.taskId = taskId → approval ∈ db.silentApprovals := by
        rintro approval (hmem | rfl) hid
        · exact hmem
        · exact absurd hid hne
      exact ⟨a, hold ha hat, b, hold hb hbt, hat, hbt, hdistinct⟩
    rcases advance_recordApproval h with ⟨_, rfl⟩ | ⟨_, rfl, _⟩ | ⟨_, _, hlist | ⟨_, hdone⟩⟩
    · exact absurd hafter hbefore
    · exact absurd hafter hbefore
    · rw [hlist]
      exact .inl ⟨rfl, hafter⟩
    · have hsettled : db.Settled task.id := .inl (hreads task incident rfl hdone)
      exact .inr (hsettled.grown hwrites.grows)

theorem State.Carried.step {text : Text} {s s' : State} {label : Label} (hs : s.Carried)
    (hlabel : Uninterrupted s label) (h : Incidents.step text s label = some s') : s'.Carried := by
  cases label with
  | call call =>
    cases h
    refine ⟨hs.linked, fun worker hworker task incident hphase => ?_, fun taskId happroved => ?_⟩
    · rcases List.of_mem_concat hworker with hold | rfl
      · exact hs.reads worker hold task incident hphase
      · cases hphase
    · refine (hs.carried taskId happroved).imp_right ?_
      rintro ⟨i, worker, hworker, hcarries⟩
      refine ⟨i, worker, ?_, hcarries⟩
      rw [List.getElem?_append_left (List.getElem?_eq_some_iff.mp hworker).1, hworker]
  | fail i =>
    obtain ⟨worker, hworker, _, rfl⟩ := step_fail_eq_some h
    refine ⟨hs.linked, fun other hother task incident hphase => ?_, fun taskId happroved => ?_⟩
    · rcases List.mem_or_eq_of_mem_set hother with hold | rfl
      · exact hs.reads other hold task incident hphase
      · cases hphase
    · by_cases hsettled : s.db.Settled taskId
      · exact .inl hsettled
      · obtain ⟨j, other, hother, hcarries⟩ := (hs.carried taskId happroved).resolve_left hsettled
        right
        by_cases hij : j = i
        · -- the last one does not die
          obtain rfl := hij
          obtain ⟨k, third, hki, hthird, hcarries⟩ := hlabel other taskId hother hcarries hsettled
          exact ⟨k, third, (List.getElem?_set_ne hki.symm).trans hthird, hcarries⟩
        · exact ⟨j, other, (List.getElem?_set_ne (Ne.symm hij)).trans hother, hcarries⟩
  | advance i env =>
    obtain ⟨worker, db, phase, hworker, hadvance, rfl⟩ := step_advance_eq_some h
    have hmem := List.mem_of_getElem? hworker
    have hwrites := advance_writes hadvance
    have hgrows := hwrites.grows
    have hmoved : (s.workers.set i { worker with phase })[i]? = some { worker with phase } :=
      List.getElem?_set_self (List.getElem?_eq_some_iff.mp hworker).1
    refine ⟨hs.linked.step hwrites, fun other hother task incident hphase hdone => ?_,
      fun taskId happroved => ?_⟩
    · rcases List.mem_or_eq_of_mem_set hother with hold | rfl
      · obtain ⟨row, hrow, hid, hstate⟩ := hs.reads other hold task incident hphase hdone
        obtain ⟨row', hrow', hid', _, hkeep⟩ := hgrows.tasks row hrow
        exact ⟨row', hrow', hid'.trans hid, hkeep hstate⟩
      · obtain rfl : phase = .recordApproval task incident := hphase
        obtain ⟨rfl, htask⟩ := advance_to_recordApproval hadvance
        exact ⟨task, htask, rfl, hdone⟩
    · have hcarrier : phase.Carries db taskId ∨ db.Settled taskId → db.Settled taskId ∨
          ∃ (j : Nat) (other : Worker),
            (s.workers.set i { worker with phase })[j]? = some other ∧
            other.phase.Carries db taskId :=
        fun hnext => hnext.symm.imp_right fun hcarries => ⟨i, _, hmoved, hcarries⟩
      by_cases hbefore : s.db.TwoApprovals taskId
      · rcases hs.carried taskId hbefore with hsettled | ⟨j, other, hother, hcarries⟩
        · exact .inl (hsettled.grown hgrows)
        · by_cases hij : j = i
          · obtain rfl := hij
            obtain rfl := Option.some.inj (hworker.symm.trans hother)
            exact hcarrier (advance_carries hs.linked hbefore hcarries hadvance)
          · exact .inr ⟨j, other, (List.getElem?_set_ne (Ne.symm hij)).trans hother,
              hcarries.grown hgrows⟩
      · exact hcarrier (advance_secondApproval hadvance (hs.reads worker hmem) hbefore happroved)

/-- Where a later retry of the approval stands: it has not recorded anything, and returns
    only when the dispatch is settled. -/
def Phase.Retried (db : Db) (taskId : String) : Phase → Prop
  | .start | .failed => True
  | .recordApproval task _ => task.id = taskId
  | .returned => db.Settled taskId
  | _ => False

theorem Phase.Retried.grown {db db' : Db} {taskId : String} (hgrows : db.Grows db')
    {phase : Phase} (h : phase.Retried db taskId) : phase.Retried db' taskId := by
  cases phase with
  | start | failed => trivial
  | recordApproval => exact h
  | returned => exact Db.Settled.grown hgrows h
  | _ => exact h.elim

/-- The task has two approvals, one by the user, and the user's calls from the `from`-th on
    are retries. -/
structure State.RetriedFrom (start : Nat) (taskId userId : String) (s : State) : Prop where
  carried : s.Carried
  approved : s.db.TwoApprovals taskId
  mine : ∃ approval ∈ s.db.silentApprovals, approval.key = (taskId, userId)
  workers : ∀ i ≥ start, ∀ organisationId incidentId scope phase,
    s.workers[i]? =
      some ⟨.approveSilentDispatch organisationId incidentId taskId userId scope, phase⟩ →
    phase.Retried s.db taskId

theorem State.RetriedFrom.step {text : Text} {start : Nat} {taskId userId : String} {s s' : State}
    {label : Label} (hs : s.RetriedFrom start taskId userId) (hlabel : Uninterrupted s label)
    (h : Incidents.step text s label = some s') : s'.RetriedFrom start taskId userId := by
  have hcarried := hs.carried.step hlabel h
  cases label with
  | call call =>
    cases h
    refine ⟨hcarried, hs.approved, hs.mine, fun i hi organisationId incidentId scope phase hget => ?_⟩
    rw [List.getElem?_append] at hget
    split at hget
    · exact hs.workers i hi _ _ _ _ hget
    · have hnew := List.mem_singleton.mp (List.mem_of_getElem? hget)
      obtain rfl : phase = .start := congrArg Worker.phase hnew
      trivial
  | fail i =>
    obtain ⟨worker, hworker, _, rfl⟩ := step_fail_eq_some h
    refine ⟨hcarried, hs.approved, hs.mine, fun j hj organisationId incidentId scope phase hget => ?_⟩
    by_cases hij : i = j
    · obtain rfl := hij
      rw [List.getElem?_set_self (List.getElem?_eq_some_iff.mp hworker).1] at hget
      obtain rfl : .failed = phase := congrArg Worker.phase (Option.some.inj hget)
      trivial
    · exact hs.workers j hj _ _ _ _ ((List.getElem?_set_ne hij).symm.trans hget)
  | advance i env =>
    obtain ⟨worker, db, phase', hworker, hadvance, rfl⟩ := step_advance_eq_some h
    have hgrows := (advance_writes hadvance).grows
    obtain ⟨mine, hmine, hkey⟩ := hs.mine
    refine ⟨hcarried, hs.approved.grown hgrows,
      ⟨mine, hgrows.silentApprovals mine hmine, hkey⟩,
      fun j hj organisationId incidentId scope phase hget => ?_⟩
    by_cases hij : i = j
    · obtain rfl := hij
      rw [List.getElem?_set_self (List.getElem?_eq_some_iff.mp hworker).1] at hget
      obtain ⟨call, now⟩ := worker
      obtain ⟨rfl, rfl⟩ := Worker.mk.inj (Option.some.inj hget)
      have hnow := hs.workers i hj _ _ _ _ hworker
      cases now with
      | start =>
        obtain ⟨rfl, rfl | ⟨task, incident, rfl, _, hid⟩⟩ := advance_start hadvance
        · trivial
        · exact hid
      | recordApproval task incident =>
        obtain rfl : task.id = taskId := hnow
        rcases advance_recordApproval hadvance with ⟨rfl, _⟩ | ⟨rfl, rfl, hold⟩ | ⟨hnew, _⟩
        · trivial
        · -- no call carries the dispatch, so it is settled
          by_contra hsettled
          have hnone := hlabel _ _ _ _ _ _ _ hworker hold hsettled
          rcases hs.carried.carried _ hs.approved with hdone | ⟨k, other, hother, hcarries⟩
          · exact hsettled hdone
          · exact hnone other (List.mem_of_getElem? hother) hcarries
        · exact absurd hkey (hnew mine hmine)
      | returned | failed => cases hadvance
      | _ => exact hnow.elim
    · exact (hs.workers j hj _ _ _ _ ((List.getElem?_set_ne hij).symm.trans hget)).grown hgrows

/-- In every run in which no dispatch is left by the last call that carries it, and no retry passes
one that is carried, a retry after the approvals of two users vouches for the dispatch. -/
theorem silentApproval_retrySettles {text : Text} {labels later : List Label} {recorded s : State}
    (huninterrupted : Transition.RunAll (step text) Uninterrupted .init (labels ++ later))
    (hrecorded : Transition.run (step text) .init labels = some recorded)
    (h : Transition.run (step text) recorded later = some s) {a b : SilentApprovalRow}
    (ha : a ∈ recorded.db.silentApprovals) (hb : b ∈ recorded.db.silentApprovals)
    (htask : a.taskId = b.taskId) (hdistinct : a.userId ≠ b.userId)
    {i : Nat} (hlater : recorded.workers.length ≤ i) {organisationId incidentId : String}
    {scope : SiteScope}
    (hretried : s.workers[i]? = some
      ⟨.approveSilentDispatch organisationId incidentId a.taskId a.userId scope, .returned⟩) :
    s.db.Settled a.taskId := by
  have hcarried : recorded.Carried := Transition.runAll_invariant State.Carried.step
    State.carried_init huninterrupted.append_left hrecorded
  have hstart : recorded.RetriedFrom recorded.workers.length a.taskId a.userId :=
    { carried := hcarried
      approved := ⟨a, ha, b, hb, rfl, htask.symm, hdistinct⟩
      mine := ⟨a, ha, rfl⟩
      workers := fun j hj _ _ _ _ hget => by
        rw [List.getElem?_eq_none hj] at hget
        cases hget }
  have hend := Transition.runAll_invariant State.RetriedFrom.step hstart
    (huninterrupted.append_right hrecorded) h
  exact hend.workers i hlater _ _ _ _ hretried

/-! ## A crash between recording and evaluating -/

instance (approvals : List SilentApprovalRow) : Decidable (TwoListed approvals) :=
  inferInstanceAs (Decidable (∃ a ∈ approvals, ∃ b ∈ approvals, a.userId ≠ b.userId))

def Db.settledCheck (db : Db) (taskId : String) : Bool :=
  (db.tasks.any fun task => task.id = taskId ∧ task.deliveryState ≠ .requested) ||
    db.timeline.any fun entry =>
      match entry.payload with
      | .constitution id action decision _ _ approvals =>
        id = taskId ∧ action = silentDispatchAction ∧ decision ≠ .allow ∧ TwoListed approvals
      | _ => false

theorem Db.Settled.checked {db : Db} {taskId : String} (h : db.Settled taskId) :
    db.settledCheck taskId = true := by
  rw [Db.settledCheck, Bool.or_eq_true, List.any_eq_true, List.any_eq_true]
  refine h.imp ?_ ?_
  · rintro ⟨task, htask, hrest⟩
    exact ⟨task, htask, decide_eq_true hrest⟩
  · rintro ⟨entry, hentry, decision, traceId, trace, approvals, hpayload, hrest⟩
    refine ⟨entry, hentry, ?_⟩
    rw [hpayload]
    exact decide_eq_true ⟨rfl, rfl, hrest⟩

/-- A call that may carry a dispatch. -/
def Phase.underway : Phase → Bool
  | .listApprovals .. | .evaluateApprovals .. | .decided .. | .handoff .. => true
  | _ => false

/-- A check of `Uninterrupted` that looks for calls under way only. -/
def uninterruptedCheck (s : State) : Label → Bool
  | .call _ => true
  | .advance i _ =>
    match s.workers[i]? with
    | some ⟨.approveSilentDispatch _ _ _ userId _, .recordApproval task _⟩ =>
      (s.db.silentApprovals.all fun approval => approval.key ≠ (task.id, userId)) ||
        s.workers.all fun worker => !worker.phase.underway
    | _ => true
  | .fail _ => false

theorem Phase.Carries.underway {db : Db} {taskId : String} {phase : Phase}
    (h : phase.Carries db taskId) : phase.underway = true := by
  cases phase with
  | listApprovals | evaluateApprovals | decided | handoff => rfl
  | _ => exact h.elim

theorem uninterrupted_of_checked {s : State} {label : Label}
    (h : uninterruptedCheck s label = true) : Uninterrupted s label := by
  cases label with
  | call => trivial
  | fail => cases h
  | advance i env =>
    intro organisationId incidentId taskId userId scope task incident hworker hold _ other hother
    simp only [uninterruptedCheck, hworker, Bool.or_eq_true, List.all_eq_true,
      decide_eq_true_eq, Bool.not_eq_true'] at h
    intro hcarries
    obtain ⟨approval, happroval, hkey⟩ := hold
    rcases h with hnew | hidle
    · exact hnew approval happroval hkey
    · exact absurd hcarries.underway (by simp [hidle other hother])

def approveAs (userId : String) : Label :=
  .call (.approveSilentDispatch "org" "incident" "dispatch" userId
    { orgWide := true, siteIds := [] })

/-- A coercion candidate opens the incident, Alice approves, and Bob's approval is recorded. -/
def aliceThenBob : List Label :=
  [.call (.handleCandidate (criticalCandidate "coercion-v1"))] ++
    List.replicate 7 (.advance 0 plainEnv) ++
    [approveAs "alice"] ++ List.replicate 5 (.advance 1 plainEnv) ++
    [approveAs "bob"] ++ List.replicate 2 (.advance 2 plainEnv)

/-- Bob's call goes on to the hand-off, and his retry finds the dispatch delivered. -/
theorem silentApproval_retrySettles_bob :
    ((Transition.run (step plainText) .init (aliceThenBob ++
      List.replicate 4 (.advance 2 plainEnv) ++
        [approveAs "bob", .advance 3 plainEnv, .advance 3 plainEnv])).getD .init).db.Settled
      "dispatch" := by
  have hrun : (Transition.run (step plainText) .init (aliceThenBob ++
      List.replicate 4 (.advance 2 plainEnv) ++
        [approveAs "bob", .advance 3 plainEnv, .advance 3 plainEnv])).isSome = true := by
    decide
  have hend := Transition.run_eq_some_getD hrun
  obtain ⟨recorded, hrecorded, hlater⟩ := Transition.run_append_eq_some.mp hend
  have hstate : recorded = (Transition.run (step plainText) .init (aliceThenBob ++
      List.replicate 4 (.advance 2 plainEnv))).getD .init := by
    rw [hrecorded, Option.getD_some]
  have hretried : ((Transition.run (step plainText) .init (aliceThenBob ++
      List.replicate 4 (.advance 2 plainEnv) ++
        [approveAs "bob", .advance 3 plainEnv, .advance 3 plainEnv])).getD .init).workers[3]? =
      some ⟨.approveSilentDispatch "org" "incident" "dispatch" "bob"
        { orgWide := true, siteIds := [] }, .returned⟩ := by
    decide
  exact silentApproval_retrySettles (a := ⟨"dispatch", "bob", "site.commander", 0⟩)
    (b := ⟨"dispatch", "alice", "site.commander", 0⟩)
    (Transition.runAll_of_checked (fun _ _ => uninterrupted_of_checked) (by decide))
    hrecorded hlater (by rw [hstate]; decide) (by rw [hstate]; decide) rfl
    (by decide) (i := 3) (by rw [hstate]; decide) hretried

/-- Bob's call dies after recording; his retry and Alice's both return, and the dispatch is
    neither delivered nor evaluated on both approvals. -/
theorem crashedApproval_unsent :
    ∃ recorded s,
      Transition.run (step plainText) .init (aliceThenBob ++ [.fail 2]) = some recorded ∧
      Transition.run (step plainText) recorded
        [approveAs "alice", .advance 3 plainEnv, .advance 3 plainEnv,
          approveAs "bob", .advance 4 plainEnv, .advance 4 plainEnv] = some s ∧
      recorded.db.silentApprovals.map (·.key) = [("dispatch", "alice"), ("dispatch", "bob")] ∧
      s.workers.map (·.phase) = [.returned, .returned, .failed, .returned, .returned] ∧
      ¬ s.db.Settled "dispatch" := by
  have hrun : (Transition.run (step plainText) .init (aliceThenBob ++ [.fail 2])).isSome = true := by
    decide
  have hretries : (Transition.run (step plainText)
      ((Transition.run (step plainText) .init (aliceThenBob ++ [.fail 2])).getD .init)
      [approveAs "alice", .advance 3 plainEnv, .advance 3 plainEnv,
        approveAs "bob", .advance 4 plainEnv, .advance 4 plainEnv]).isSome = true := by
    decide
  refine ⟨_, _, Transition.run_eq_some_getD hrun, Transition.run_eq_some_getD hretries, ?_, ?_,
    fun hsettled => ?_⟩
  · decide
  · decide
  · exact absurd hsettled.checked (by decide)

end Sentinel.Incidents
