import Sentinel.ForStd.List
import Sentinel.Native.FieldService

/-! # The steps of the Field services

What the transactions commit, and which step of which call takes one.  Every other step leaves the
database as it is. -/

namespace Sentinel.Field

open CanonicalJson (Json)
open Events (Timestamp)
open FieldOffline (SiteScope)
open Incidents (DeliveryState)

variable {db db' : Db} {draw : Draw} {principal : Principal} {phase : Phase}

/-! ## Transactions -/

variable {siteScope : SiteScope} {idempotencyKey : String} {phase' : Phase} {receipt : Bool}
  {worker : Worker} {s t : State} {label : Label} {i : Nat}

/-- A row is inserted where neither its id nor its key is taken. -/
theorem createAssignment_eq_ok {input : CreateAssignmentInput} {row : FieldAssignment}
    (h : db.createAssignment principal input draw = .ok (row, db')) :
    row = assignmentRow principal input draw ∧
      (∀ other ∈ db.assignments, other.id ≠ row.id ∧ other.key ≠ row.key) ∧
      db'.assignments = db.assignments ++ [row] ∧ db'.messages = db.messages ∧
      db'.recipients = db.recipients ∧ db'.acknowledgements = db.acknowledgements ∧
      db'.timeline = db.timeline ∧ db'.messageOutbox = db.messageOutbox ∧
      db'.currentStates = db.currentStates ∧ db'.stateHistory = db.stateHistory := by
  simp only [Db.createAssignment] at h
  split at h
  · cases h
  · split at h
    · cases h
    · rename_i hfits
      cases h
      refine ⟨rfl, fun other hother => ?_, rfl, rfl, rfl, rfl, rfl, rfl, rfl, rfl⟩
      have hmiss := List.any_eq_false.mp (Bool.eq_false_iff.mpr hfits) other hother
      rw [decide_eq_true_eq, not_or] at hmiss
      exact hmiss

/-- What a transition writes beside its audit: the status and the stamps of one row. -/
theorem transitionAssignment_eq_some {assignmentId : String}
    {action : AssignmentAction} {input : AssignmentActionInput} {result : TransitionResult}
    (h : db.transitionAssignment principal siteScope assignmentId action input draw =
      some (result, db')) :
    ((∃ id, db'.assignments = Table.rewrite (·.id = id)
        (·.transitioned action principal.userId draw) db.assignments) ∧
      ∃ row, result = .updated row) ∧
      db'.messages = db.messages ∧ db'.recipients = db.recipients ∧
      db'.acknowledgements = db.acknowledgements ∧ db'.timeline = db.timeline ∧
      db'.messageOutbox = db.messageOutbox ∧ db'.currentStates = db.currentStates ∧
      db'.stateHistory = db.stateHistory ∨ db' = db := by
  simp only [Db.transitionAssignment] at h
  split at h
  · cases h
    exact .inr rfl
  · rename_i current hfind
    split at h
    · cases h
      exact .inr rfl
    · split at h
      · cases h
        exact .inr rfl
      · split at h
        · cases h
          exact .inr rfl
        · split at h
          · cases h
            exact .inr rfl
          · split at h
            · cases h
              exact .inl ⟨⟨⟨current.id, rfl⟩, _, rfl⟩, rfl, rfl, rfl, rfl, rfl, rfl, rfl⟩
            · cases h

theorem recordState_eq_ok {state : OperativeState} {current : CurrentState}
    (h : db.recordState state idempotencyKey draw = .ok (current, db')) :
    let identity : StateUpdateRow :=
      ⟨state.organisationId, state.siteId, state.userId, state.deviceId, idempotencyKey⟩
    identity ∈ db.stateUpdates ∧ db' = db ∨
      identity ∉ db.stateUpdates ∧ db'.currentStates = upsertState db.currentStates state draw ∧
      db'.stateHistory = db.stateHistory ++ [state] ∧ db'.assignments = db.assignments ∧
      db'.messages = db.messages ∧ db'.recipients = db.recipients ∧
      db'.acknowledgements = db.acknowledgements ∧ db'.timeline = db.timeline ∧
      db'.messageOutbox = db.messageOutbox := by
  simp only [Db.recordState] at h
  split at h
  · rename_i hknown
    split at h
    · cases h
    · cases h
      exact .inl ⟨hknown, rfl⟩
  · rename_i hnew
    split at h
    · cases h
    · split at h
      · cases h
      · split at h
        · cases h
        · cases h
          exact .inr ⟨hnew, rfl, rfl, rfl, rfl, rfl, rfl, rfl, rfl⟩

/-- A message is inserted with its recipients where neither its id nor its key is taken. -/
theorem send_eq_ok {siteId incidentId : String} {input : SendMessageInput}
    {row : MessageWithRecipients}
    (h : db.send principal siteId incidentId input draw = .ok (row, db')) :
    let message := messageRow principal siteId incidentId input draw.rowId.text draw.storedAt
    row = db'.withRecipients message ∧
      (∀ other ∈ db.messages, other.id ≠ message.id ∧ other.key ≠ message.key) ∧
      db'.messages = db.messages ++ [message] ∧
      db'.recipients = db.recipients ++ input.recipientUserIds.map (fun recipientUserId =>
        ⟨message.id, message.organisationId, message.siteId, recipientUserId, .requested, none,
          none⟩) ∧
      db'.acknowledgements = db.acknowledgements ∧
      db'.timeline = db.timeline ++ [⟨message.incidentId, message.senderUserId, message.id,
        .messageSent input.recipientUserIds.length message.retentionClass message.traceId⟩] ∧
      db'.messageOutbox = db.messageOutbox ++ input.recipientUserIds.zipIdx.map (fun (user, i) =>
        ⟨(draw.outboxId i).text, message.organisationId, message.siteId, user, message.incidentId,
          message.id, draw.storedAt, none⟩) ∧
      db'.assignments = db.assignments ∧ db'.currentStates = db.currentStates ∧
      db'.stateHistory = db.stateHistory := by
  simp only [Db.send] at h
  split at h
  · cases h
  · split at h
    · cases h
    · rename_i hfits
      cases h
      refine ⟨rfl, fun other hother => ?_, rfl, rfl, rfl, rfl, rfl, rfl, rfl, rfl⟩
      have hmiss := List.any_eq_false.mp (Bool.eq_false_iff.mpr hfits) other hother
      rw [decide_eq_true_eq, not_or] at hmiss
      exact hmiss

/-- A row is acknowledged together with its evidence, or nothing is written. -/
theorem acknowledge_eq_ok {messageId recipientUserId : String}
    {requiredState : DeliveryState} {result : AcknowledgeResult}
    (h : db.acknowledge messageId recipientUserId idempotencyKey requiredState draw =
      .ok (result, db')) :
    db' = db ∨ ∃ message locked,
      db.messages.find? (·.id = messageId) = some message ∧
      (db.withRecipients message).recipients.find? (·.recipientUserId = recipientUserId) =
        some locked ∧
      locked.deliveryState = requiredState ∧
      db'.recipients = Table.rewrite
        (fun row => row.messageId = messageId ∧ row.recipientUserId = recipientUserId)
        (fun row => { row with deliveryState := .acknowledged, acknowledgedAt := some draw.now })
        db.recipients ∧
      db'.acknowledgements =
        db.acknowledgements ++ [⟨messageId, recipientUserId, idempotencyKey⟩] ∧
      db'.timeline = db.timeline ++
        [⟨message.incidentId, recipientUserId, messageId, .messageAcknowledged draw.now⟩] ∧
      db'.messageOutbox = db.messageOutbox ++
        [⟨(draw.outboxId 0).text, message.organisationId, message.siteId, recipientUserId,
          message.incidentId, messageId, draw.storedAt, none⟩] ∧
      db'.messages = db.messages ∧ db'.assignments = db.assignments ∧
      db'.currentStates = db.currentStates ∧ db'.stateHistory = db.stateHistory ∧
      result = .acknowledged (db'.withRecipients message) := by
  simp only [Db.acknowledge] at h
  split at h
  · cases h
  · rename_i message hmessage
    split at h
    · cases h
      exact .inl rfl
    · rename_i locked hlocked
      split at h
      · cases h
        exact .inl rfl
      · split at h
        · cases h
          exact .inl rfl
        · split at h
          · cases h
            exact .inl rfl
          · rename_i hstate
            cases h
            exact .inr ⟨message, locked, hmessage, hlocked, not_not.mp hstate, rfl, rfl, rfl, rfl,
              rfl, rfl, rfl, rfl, rfl⟩

/-! ## One step of a call -/

/-- What a step of a call does to the database. -/
inductive Writes (db : Db) (draw : Draw) : Worker → Db → Phase → Prop
  | nothing (worker : Worker) (phase : Phase) : Writes db draw worker db phase
  | created {principal : Principal} {siteScope : SiteScope} {input : CreateAssignmentInput}
      {row : FieldAssignment} {db' : Db}
      (commit : db.createAssignment principal input draw = .ok (row, db')) :
      Writes db draw ⟨.createAssignment principal siteScope input, .incidentFound⟩ db'
        (answerAssignment row)
  | transitioned {principal : Principal} {siteScope : SiteScope} {assignmentId : String}
      {action : AssignmentAction} {input : AssignmentActionInput} {result : TransitionResult}
      {db' : Db}
      (commit : db.transitionAssignment principal siteScope assignmentId action input draw =
        some (result, db')) :
      Writes db draw ⟨.transitionAssignment principal siteScope assignmentId action input, .started⟩
        db' result.phase
  | recorded {principal : Principal} {siteScope : SiteScope} {input : StateUpdateInput}
      {state : OperativeState} {current : CurrentState} {db' : Db}
      (commit : db.recordState state input.idempotencyKey draw = .ok (current, db')) :
      Writes db draw ⟨.recordState principal siteScope input, .received state⟩ db'
        (.returned (.state current))
  | sent {principal : Principal} {siteScope : SiteScope} {siteId incidentId : String}
      {input : SendMessageInput} {row : MessageWithRecipients} {db' : Db}
      (commit : db.send principal siteId incidentId input draw = .ok (row, db')) :
      Writes db draw ⟨.send principal siteScope incidentId input, .sendable siteId⟩ db'
        (answerMessage row)
  | acknowledged {principal : Principal} {siteScope : SiteScope} {messageId idempotencyKey : String}
      {result : AcknowledgeResult} {db' : Db}
      (commit : db.acknowledge messageId principal.userId idempotencyKey acknowledgeRequiresState
        draw = .ok (result, db')) :
      Writes db draw ⟨.acknowledge principal siteScope messageId idempotencyKey, .locked⟩ db'
        result.phase
  | delivered (subject : String) (raw : Option Json)
      (organisationId recipientUserId incidentId messageId : String) (read : DeliveryState) :
      Writes db draw
        ⟨.handleMessage subject raw,
          .deliverable organisationId recipientUserId incidentId messageId read⟩
        (db.deliver messageId recipientUserId read draw.now)
        (.returned (.delivered
          ((db.findRecipient messageId recipientUserId).any (·.deliveryState = read))))

theorem advanceCreate_writes {input : CreateAssignmentInput}
    (h : advanceCreate db draw principal siteScope input phase = some (db', phase')) :
    Writes db draw ⟨.createAssignment principal siteScope input, phase⟩ db' phase' := by
  cases phase with
  | started =>
    simp only [advanceCreate] at h
    split at h
    · cases h
      exact .nothing _ _
    · split at h <;> cases h <;> exact .nothing _ _
  | siteFound =>
    simp only [advanceCreate] at h
    split at h <;> cases h <;> exact .nothing _ _
  | assigneeFound =>
    simp only [advanceCreate] at h
    split at h
    · cases h
      exact .nothing _ _
    · split at h <;> cases h <;> exact .nothing _ _
  | incidentFound =>
    simp only [advanceCreate] at h
    split at h
    · rename_i hcommit
      cases h
      exact .created hcommit
    · cases h
      exact .nothing _ _
    · cases h
      exact .nothing _ _
  | keyTaken =>
    simp only [advanceCreate] at h
    split at h <;> cases h <;> exact .nothing _ _
  | _ => cases h

theorem advanceRecord_writes {input : StateUpdateInput}
    (h : advanceRecord db draw principal siteScope input phase = some (db', phase')) :
    Writes db draw ⟨.recordState principal siteScope input, phase⟩ db' phase' := by
  cases phase with
  | started =>
    simp only [advanceRecord] at h
    split at h
    · cases h
      exact .nothing _ _
    · split at h
      · cases h
        exact .nothing _ _
      · split at h <;> cases h <;> exact .nothing _ _
  | received state =>
    simp only [advanceRecord] at h
    split at h
    · rename_i hcommit
      cases h
      exact .recorded hcommit
    · cases h
      exact .nothing _ _
  | _ => cases h

theorem advanceSend_writes {incidentId : String} {input : SendMessageInput}
    (h : advanceSend db draw principal siteScope incidentId input phase = some (db', phase')) :
    Writes db draw ⟨.send principal siteScope incidentId input, phase⟩ db' phase' := by
  cases phase with
  | started =>
    simp only [advanceSend] at h
    split at h
    · cases h
      exact .nothing _ _
    · split at h <;> cases h <;> exact .nothing _ _
  | incidentScoped siteId =>
    simp only [advanceSend] at h
    split at h
    · cases h
      exact .nothing _ _
    · split at h <;> cases h <;> exact .nothing _ _
  | siteScoped siteId =>
    simp only [advanceSend] at h
    split at h <;> cases h <;> exact .nothing _ _
  | sendable siteId =>
    simp only [advanceSend] at h
    split at h
    · rename_i hcommit
      cases h
      exact .sent hcommit
    · cases h
      exact .nothing _ _
    · cases h
      exact .nothing _ _
  | sendTaken =>
    simp only [advanceSend] at h
    split at h <;> cases h <;> exact .nothing _ _
  | _ => cases h

theorem advanceAcknowledge_writes {messageId : String}
    (h : advanceAcknowledge db draw principal siteScope messageId idempotencyKey phase =
      some (db', phase')) :
    Writes db draw ⟨.acknowledge principal siteScope messageId idempotencyKey, phase⟩ db' phase' := by
  cases phase with
  | started =>
    simp only [advanceAcknowledge] at h
    split at h <;> cases h <;> exact .nothing _ _
  | named =>
    cases h
    exact .nothing _ _
  | locked =>
    simp only [advanceAcknowledge] at h
    split at h
    · rename_i hcommit
      cases h
      exact .acknowledged hcommit
    · cases h
      exact .nothing _ _
  | _ => cases h

theorem advanceNotification_writes {subject : String} {raw : Option Json}
    (h : advanceNotification db draw receipt subject raw phase = some (db', phase')) :
    Writes db draw ⟨.handleMessage subject raw, phase⟩ db' phase' := by
  cases phase with
  | started =>
    simp only [advanceNotification] at h
    split at h <;> cases h <;> exact .nothing _ _
  | notified =>
    simp only [advanceNotification] at h
    split at h <;> cases h <;> exact .nothing _ _
  | receipted =>
    simp only [advanceNotification] at h
    split at h
    · cases h
      exact .nothing _ _
    · split at h <;> cases h <;> exact .nothing _ _
  | deliverable =>
    cases h
    exact .delivered ..
  | _ => cases h

theorem advance_writes
    (h : worker.advance db draw receipt = some (db', phase)) : Writes db draw worker db' phase := by
  obtain ⟨call, standing⟩ := worker
  cases call with
  | createAssignment => exact advanceCreate_writes h
  | transitionAssignment =>
    cases standing with
    | started =>
      simp only [Worker.advance] at h
      split at h
      · cases h
        exact .nothing _ _
      · rename_i hcommit
        cases h
        exact .transitioned hcommit
    | _ => cases h
  | recordState => exact advanceRecord_writes h
  | send => exact advanceSend_writes h
  | acknowledge => exact advanceAcknowledge_writes h
  | handleMessage => exact advanceNotification_writes h

/-- A call that has answered or thrown takes no more steps. -/
theorem isOpen_of_advance
    (h : worker.advance db draw receipt = some (db', phase)) : worker.phase.isOpen = true := by
  obtain ⟨call, standing⟩ := worker
  cases call <;> cases standing <;> first | rfl | cases h

/-- A step that changes the tables is the last one of its call. -/
theorem Writes.closes (h : Writes db draw worker db' phase) : db' = db ∨ phase.isOpen = false := by
  cases h with
  | nothing => exact .inl rfl
  | @created _ _ _ row =>
    refine .inr ?_
    by_cases hcontract : row.meetsContract = true <;> simp [answerAssignment, hcontract, Phase.isOpen]
  | @transitioned _ _ _ _ _ result =>
    exact .inr (by cases result <;> rfl)
  | recorded => exact .inr rfl
  | @sent _ _ _ _ _ row =>
    refine .inr ?_
    by_cases hcontract : row.meetsContract = true <;> simp [answerMessage, hcontract, Phase.isOpen]
  | @acknowledged _ _ _ _ result =>
    exact .inr (by cases result <;> rfl)
  | delivered => exact .inr rfl

/-- A step starts a call, lets a call take a step or fails it, or changes the rows of others. -/
theorem step_cases (h : step s label = some t) :
    (∃ call, label = .call call ∧ t = { s with workers := s.workers ++ [⟨call, .started⟩] }) ∨
    (∃ i draw receipt worker db phase, label = .advance i draw receipt ∧
      s.workers[i]? = some worker ∧ s.blocks worker = false ∧
      worker.advance s.db draw receipt = some (db, phase) ∧
      t = ⟨db, s.workers.set i ⟨worker.call, phase⟩⟩) ∨
    (∃ i worker, label = .fail i ∧ s.workers[i]? = some worker ∧ worker.phase.isOpen = true ∧
      t = { s with workers := s.workers.set i ⟨worker.call, .thrown .failure⟩ }) ∨
    ∃ directory, label = .directory directory ∧ t = { s with db := { s.db with directory } } := by
  cases label with
  | call call => exact .inl ⟨call, rfl, (Option.some.inj h).symm⟩
  | advance i draw receipt =>
    obtain ⟨worker, hworker, hstep⟩ := Option.bind_eq_some_iff.mp h
    split at hstep
    · cases hstep
    · rename_i hblocks
      obtain ⟨⟨db, phase⟩, hadvance, rfl⟩ := Option.map_eq_some_iff.mp hstep
      exact .inr (.inl ⟨i, draw, receipt, worker, db, phase, rfl, hworker,
        Bool.eq_false_iff.mpr hblocks, hadvance, rfl⟩)
  | fail i =>
    obtain ⟨worker, hworker, hstep⟩ := Option.bind_eq_some_iff.mp h
    split at hstep
    · rename_i hopen
      exact .inr (.inr (.inl ⟨i, worker, rfl, hworker, hopen, (Option.some.inj hstep).symm⟩))
    · cases hstep
  | directory directory => exact .inr (.inr (.inr ⟨directory, rfl, (Option.some.inj h).symm⟩))

theorem advance_eq_some (h : step s (.advance i draw receipt) = some t) :
    ∃ worker db phase, s.workers[i]? = some worker ∧ s.blocks worker = false ∧
      worker.advance s.db draw receipt = some (db, phase) ∧
      t = ⟨db, s.workers.set i ⟨worker.call, phase⟩⟩ := by
  obtain ⟨call, hlabel, -⟩ | ⟨j, draw', receipt', worker, db, phase, hlabel, hrest⟩ |
    ⟨j, worker, hlabel, -⟩ | ⟨directory, hlabel, -⟩ := step_cases h
  · cases hlabel
  · cases hlabel
    exact ⟨worker, db, phase, hrest⟩
  · cases hlabel
  · cases hlabel

theorem step_of_run {u : State} {earlier later : List Label}
    (hrun : Transition.run step s (earlier ++ label :: later) = some u)
    (hearlier : Transition.run step s earlier = some t) :
    ∃ v, step t label = some v ∧ Transition.run step v later = some u := by
  obtain ⟨t', ht', hrest⟩ := Transition.run_append_eq_some.mp hrun
  obtain rfl := Option.some.inj (ht'.symm.trans hearlier)
  exact Transition.run_cons_eq_some.mp hrest

/-- A call that has answered or thrown stays as it is. -/
theorem step_of_closed (hi : s.workers[i]? = some worker) (hclosed : worker.phase.isOpen = false)
    (h : step s label = some t) : t.workers[i]? = some worker := by
  have hlt := (List.getElem?_eq_some_iff.mp hi).1
  have hother : ∀ {j other}, s.workers[j]? = some other → other.phase.isOpen = true → j ≠ i := by
    rintro j other hj hopen rfl
    rw [Option.some.inj (hj.symm.trans hi), hclosed] at hopen
    exact Bool.noConfusion hopen
  obtain ⟨call, -, rfl⟩ | ⟨j, draw, receipt, other, db, phase, -, hj, -, hadvance, rfl⟩ |
    ⟨j, other, -, hj, hopen, rfl⟩ | ⟨directory, -, rfl⟩ := step_cases h
  · rwa [List.getElem?_append_left hlt]
  · rwa [List.getElem?_set_ne (hother hj (isOpen_of_advance hadvance))]
  · rwa [List.getElem?_set_ne (hother hj hopen)]
  · exact hi

theorem run_of_closed {labels : List Label}
    (hi : s.workers[i]? = some worker) (hclosed : worker.phase.isOpen = false)
    (hrun : Transition.run step s labels = some t) : t.workers[i]? = some worker :=
  have hstep : ∀ {s : State} {label : Label} {t : State}, s.workers[i]? = some worker →
      step s label = some t → t.workers[i]? = some worker := fun hi h => step_of_closed hi hclosed h
  Transition.run_invariant hstep hi hrun

/-! ## One site

The site of the example runs: a commander, a dispatcher and two operatives, one incident. -/

def oneSite : Directory where
  sites := [⟨"site-a", "org-a"⟩]
  users := [⟨"commander", "org-a", [⟨"site.commander", none⟩]⟩,
    ⟨"dispatcher", "org-a", [⟨"dispatcher", some "site-a"⟩]⟩,
    ⟨"operative-1", "org-a", [⟨"field.operative", some "site-a"⟩]⟩,
    ⟨"operative-2", "org-a", [⟨"field.operative", some "site-a"⟩]⟩]
  incidents := [⟨"5b0e1a52-7c1d-4f0e-9a51-2f0d3c6a7b10", "org-a", "site-a"⟩]

def commander : Principal := ⟨"org-a", "commander"⟩

def dispatcher : Principal := ⟨"org-a", "dispatcher"⟩

def operative : Principal := ⟨"org-a", "operative-1"⟩

def anySite : SiteScope := ⟨true, []⟩

theorem lt_1000 : 1000 < 253402300800000 := by decide

theorem lt_2000 : 2000 < 253402300800000 := by decide

theorem lt_3000 : 3000 < 253402300800000 := by decide

theorem lt_4000 : 4000 < 253402300800000 := by decide

theorem ms_bounds {ms : Nat} (h : ms < 253402300800000) :
    -62167219200000 ≤ (ms : Int) ∧ (ms : Int) < 253402300800000 := by omega

theorem operative_ne : "operative-1" ≠ "" := by decide

theorem epoch_reads : JsDate.parse "1970-01-01T00:00:00.000Z" = some 0 := by decide +kernel

theorem trace_bounded : isBounded 256 "trace-1" = true := by decide

theorem siteA_safe : Events.isSafeSubjectToken "site-a" = true := by decide

/-- A draw at the given instant, with one of two ids. -/
def drawAt (ms : Nat) (second : Bool) (h : ms < 253402300800000 := by
    first | exact lt_1000 | exact lt_2000 | exact lt_3000 | exact lt_4000 | decide) : Draw :=
  let id : Uuid := bif second then ⟨"0c9f7b52-2f6e-4d0a-8b3e-6a1d5e4c3b22", by decide⟩
    else ⟨"0c9f7b52-2f6e-4d0a-8b3e-6a1d5e4c3b11", by decide⟩
  { rowId := id
    outboxId := fun _ => id
    now := ⟨ms, ms_bounds h⟩
    storedAt := ⟨ms, ms_bounds h⟩ }

end Sentinel.Field
