import Sentinel.Spec.FieldSteps

/-! # Replayed Field requests

A request whose idempotency key is taken is answered with the row that the key names, whatever the
row orders or says.  The answer is right exactly where that row is one of the same request. -/

namespace Sentinel.Field

open Events (Timestamp)
open FieldOffline (SiteScope)
open Fusion (OperationalSeverity)

variable {db db' : Db} {draw : Draw} {worker : Worker} {phase : Phase}

/-! ## What a row orders and what a message says -/

structure Order where
  assigneeUserId : String
  incidentId : Option String
  assignmentType : String
  priority : OperationalSeverity
  needToKnowSummary : String
  expiresAt : Option Timestamp
deriving DecidableEq

def FieldAssignment.order (row : FieldAssignment) : Order :=
  ⟨row.assigneeUserId, row.incidentId, row.assignmentType, row.priority, row.needToKnowSummary,
    row.expiresAt⟩

def CreateAssignmentInput.order (input : CreateAssignmentInput) : Order :=
  ⟨input.assigneeUserId, input.incidentId, input.assignmentType, input.priority,
    input.needToKnowSummary, input.expiresAt.map (·.date)⟩

/-- The message, as it is stored, goes to the recipients of the request and says what it says. -/
structure MessageWithRecipients.Carries (row : MessageWithRecipients) (input : SendMessageInput) :
    Prop where
  recipients : (row.recipients.map (·.recipientUserId)).Perm input.recipientUserIds
  body : row.message.body = input.body
  mediaRefs : row.message.mediaRefs = input.mediaRefs
  retentionClass : row.message.retentionClass = input.retentionClass
  expiresAt : row.message.expiresAt = input.expiresAt.map (·.date)

/-- A success is about a stored row under the key of the request that is as the request has it. -/
def Worker.Truthful (db : Db) (worker : Worker) : Prop :=
  match worker.call, worker.phase with
  | .createAssignment principal _ input, .returned (.assignment row) =>
    ∃ stored ∈ db.assignments, stored.id = row.id ∧
      stored.key = (principal.organisationId, input.siteId, input.idempotencyKey) ∧
      stored.order = input.order
  | .send principal _ incidentId input, .returned (.message row) =>
    ∃ stored ∈ db.messages, stored.id = row.message.id ∧
      stored.key = (principal.organisationId, incidentId, principal.userId, input.idempotencyKey) ∧
      (db.withRecipients stored).Carries input
  | _, _ => True

/-! ## The tables -/

structure Db.Keyed (db : Db) : Prop where
  assignments : (db.assignments.map (·.key)).Nodup
  messages : (db.messages.map (·.key)).Nodup
  recipients : ∀ row ∈ db.recipients, ∃ message ∈ db.messages, message.id = row.messageId

/-- Rows stay, and keep what they order or say. -/
structure Db.Grows (db db' : Db) : Prop where
  assignments : ∀ row ∈ db.assignments, ∃ row' ∈ db'.assignments,
    row'.id = row.id ∧ row'.key = row.key ∧ row'.order = row.order
  messages : ∀ message ∈ db.messages, message ∈ db'.messages ∧
    (db'.withRecipients message).recipients.map (·.recipientUserId) =
      (db.withRecipients message).recipients.map (·.recipientUserId)

theorem Db.Grows.refl (db : Db) : db.Grows db where
  assignments row hrow := ⟨row, hrow, rfl, rfl, rfl⟩
  messages _ hmessage := ⟨hmessage, rfl⟩

/-- Neither assignments nor messages and recipients change. -/
theorem Db.Grows.of_eq (hassignments : db'.assignments = db.assignments)
    (hmessages : db'.messages = db.messages) (hrecipients : db'.recipients = db.recipients) :
    db.Grows db' where
  assignments row hrow := ⟨row, hassignments ▸ hrow, rfl, rfl, rfl⟩
  messages message hmessage := by
    refine ⟨hmessages ▸ hmessage, ?_⟩
    simp only [Db.withRecipients, hrecipients]

theorem Db.Keyed.of_eq (h : db.Keyed) (hassignments : db'.assignments = db.assignments)
    (hmessages : db'.messages = db.messages) (hrecipients : db'.recipients = db.recipients) :
    db'.Keyed where
  assignments := hassignments ▸ h.assignments
  messages := hmessages ▸ h.messages
  recipients := by
    rw [hrecipients, hmessages]
    exact h.recipients

/-- The recipients of a message by name, when rows are rewritten that keep theirs. -/
theorem names_rewrite (p : Recipient → Bool) (f : Recipient → Recipient)
    (hmessage : ∀ row, (f row).messageId = row.messageId)
    (huser : ∀ row, (f row).recipientUserId = row.recipientUserId) (rows : List Recipient)
    (id : String) :
    ((Table.rewrite p f rows).filter (·.messageId = id)).map (·.recipientUserId) =
      (rows.filter (·.messageId = id)).map (·.recipientUserId) :=
  Table.map_filter_rewrite _ (fun row => by rw [hmessage]) huser

/-- Only the delivery columns of recipient rows change. -/
theorem Db.Grows.of_rewrite {p : Recipient → Bool} {f : Recipient → Recipient}
    (hassignments : db'.assignments = db.assignments) (hmessages : db'.messages = db.messages)
    (hrecipients : db'.recipients = Table.rewrite p f db.recipients)
    (hmessage : ∀ row, (f row).messageId = row.messageId)
    (huser : ∀ row, (f row).recipientUserId = row.recipientUserId) : db.Grows db' where
  assignments row hrow := ⟨row, hassignments ▸ hrow, rfl, rfl, rfl⟩
  messages message hmem := by
    refine ⟨hmessages ▸ hmem, ?_⟩
    simp only [Db.withRecipients, hrecipients]
    exact names_rewrite p f hmessage huser _ _

theorem Db.Keyed.of_rewrite {p : Recipient → Bool} {f : Recipient → Recipient} (h : db.Keyed)
    (hassignments : db'.assignments = db.assignments) (hmessages : db'.messages = db.messages)
    (hrecipients : db'.recipients = Table.rewrite p f db.recipients)
    (hmessage : ∀ row, (f row).messageId = row.messageId) : db'.Keyed where
  assignments := hassignments ▸ h.assignments
  messages := hmessages ▸ h.messages
  recipients row hrow := by
    rw [hrecipients] at hrow
    obtain ⟨old, hold, rfl⟩ := Table.mem_rewrite.mp hrow
    rw [hmessages]
    split
    · rw [hmessage]
      exact h.recipients old hold
    · exact h.recipients old hold

@[simp] theorem transitioned_key (row : FieldAssignment) (action : AssignmentAction)
    (actorUserId : String) : (row.transitioned action actorUserId draw).key = row.key := rfl

@[simp] theorem transitioned_order (row : FieldAssignment) (action : AssignmentAction)
    (actorUserId : String) : (row.transitioned action actorUserId draw).order = row.order := rfl

theorem sent_recipients (hkeyed : db.Keyed) {message : FieldMessage}
    (hnew : ∀ other ∈ db.messages, other.id ≠ message.id) {users : List String}
    {toRow : String → Recipient} (hid : ∀ user, (toRow user).messageId = message.id)
    (hrecipients : db'.recipients = db.recipients ++ users.map toRow) :
    (db'.withRecipients message).recipients = users.map toRow := by
  show db'.recipients.filter (fun row => row.messageId = message.id) = _
  have hold : db.recipients.filter (fun row => row.messageId = message.id) = [] := by
    rw [List.filter_eq_nil_iff]
    intro row hrow hmatch
    obtain ⟨other, hother, hsame⟩ := hkeyed.recipients row hrow
    exact hnew other hother (hsame.trans (of_decide_eq_true hmatch))
  rw [hrecipients, List.filter_append, hold, List.nil_append, List.filter_eq_self]
  intro row hrow
  obtain ⟨user, -, rfl⟩ := List.mem_map.mp hrow
  exact decide_eq_true (hid user)

/-- The tables keep their keys, and the rows what they order or say. -/
theorem writes_grows (hkeyed : db.Keyed) (h : Writes db draw worker db' phase) :
    db.Grows db' ∧ db'.Keyed := by
  cases h with
  | nothing => exact ⟨.refl db, hkeyed⟩
  | created commit =>
    obtain ⟨-, hnew, hassignments, hmessages, hrecipients, -⟩ := createAssignment_eq_ok commit
    refine ⟨⟨fun row hrow => ⟨row, hassignments ▸ List.mem_append_left _ hrow, rfl, rfl, rfl⟩,
      fun message hmessage => ⟨hmessages ▸ hmessage, ?_⟩⟩, ?_, hmessages ▸ hkeyed.messages, ?_⟩
    · simp only [Db.withRecipients, hrecipients]
    · rw [hassignments]
      exact Table.nodup_map_concat hkeyed.assignments fun other hother => (hnew other hother).2
    · rw [hrecipients, hmessages]
      exact hkeyed.recipients
  | transitioned commit =>
    obtain ⟨⟨⟨id, hassignments⟩, -⟩, hmessages, hrecipients, -⟩ | rfl :=
      transitionAssignment_eq_some commit
    · refine ⟨⟨fun row hrow => ?_, fun message hmessage => ⟨hmessages ▸ hmessage, ?_⟩⟩, ?_,
        hmessages ▸ hkeyed.messages, ?_⟩
      · rw [hassignments]
        by_cases hhit : row.id = id
        · exact ⟨_, Table.mem_rewrite_of_hit hrow (decide_eq_true hhit), rfl, rfl, rfl⟩
        · exact ⟨row, Table.mem_rewrite_of_miss hrow (decide_eq_false hhit), rfl, rfl, rfl⟩
      · simp only [Db.withRecipients, hrecipients]
      · rw [hassignments]
        exact Table.nodup_map_rewrite hkeyed.assignments fun row => transitioned_key row _ _
      · rw [hrecipients, hmessages]
        exact hkeyed.recipients
    · exact ⟨.refl _, hkeyed⟩
  | recorded commit =>
    obtain ⟨-, rfl⟩ | ⟨-, -, -, hassignments, hmessages, hrecipients, -⟩ := recordState_eq_ok commit
    · exact ⟨.refl _, hkeyed⟩
    · exact ⟨.of_eq hassignments hmessages hrecipients,
        hkeyed.of_eq hassignments hmessages hrecipients⟩
  | sent commit =>
    obtain ⟨-, hnew, hmessages, hrecipients, -, -, -, hassignments, -⟩ := send_eq_ok commit
    refine ⟨⟨fun row hrow => ⟨row, hassignments ▸ hrow, rfl, rfl, rfl⟩,
      fun message hmessage => ⟨hmessages ▸ List.mem_append_left _ hmessage, ?_⟩⟩,
      hassignments ▸ hkeyed.assignments, ?_, ?_⟩
    · -- the recipients that are new are those of another message
      simp only [Db.withRecipients, hrecipients, List.filter_append, List.map_append]
      rw [List.append_right_eq_self, List.map_eq_nil_iff, List.filter_eq_nil_iff]
      intro row hrow hmatch
      obtain ⟨user, -, rfl⟩ := List.mem_map.mp hrow
      exact (hnew message hmessage).1 (of_decide_eq_true hmatch).symm
    · rw [hmessages]
      exact Table.nodup_map_concat hkeyed.messages fun other hother => (hnew other hother).2
    · intro row hrow
      rw [hmessages]
      rw [hrecipients] at hrow
      cases List.mem_append.mp hrow with
      | inl hold =>
        obtain ⟨message, hmessage, hid⟩ := hkeyed.recipients row hold
        exact ⟨message, List.mem_append_left _ hmessage, hid⟩
      | inr hadded =>
        obtain ⟨user, -, rfl⟩ := List.mem_map.mp hadded
        exact ⟨_, List.mem_append_right _ List.mem_cons_self, rfl⟩
  | acknowledged commit =>
    obtain rfl | ⟨_, _, -, -, -, hrecipients, -, -, -, hmessages, hassignments, -⟩ :=
      acknowledge_eq_ok commit
    · exact ⟨.refl _, hkeyed⟩
    · exact ⟨.of_rewrite hassignments hmessages hrecipients (fun _ => rfl) (fun _ => rfl),
        hkeyed.of_rewrite hassignments hmessages hrecipients fun _ => rfl⟩
  | delivered =>
    exact ⟨.of_rewrite rfl rfl rfl (fun _ => rfl) (fun _ => rfl),
      hkeyed.of_rewrite rfl rfl rfl fun _ => rfl⟩

/-! ## Answers -/

variable {principal : Principal} {s t : State} {label : Label}

/-- `createAssignment` answers with the row it has inserted, or with the one it has found. -/
theorem advanceCreate_returned {siteScope : SiteScope}
    {input : CreateAssignmentInput} {answer : Answer}
    (h : advanceCreate db draw principal siteScope input phase = some (db', .returned answer)) :
    (∃ row, db.createAssignment principal input draw = .ok (row, db') ∧
      answer = .assignment row) ∨
    phase = .keyTaken ∧ db' = db ∧ ∃ existing,
      db.findAssignmentByKey principal input = some existing ∧ existing.meetsContract = true ∧
        answer = .assignment existing := by
  cases phase with
  | started =>
    simp only [advanceCreate] at h
    split at h
    · cases h
    · split at h <;> cases h
  | siteFound =>
    simp only [advanceCreate] at h
    split at h <;> cases h
  | assigneeFound =>
    simp only [advanceCreate] at h
    split at h
    · cases h
    · split at h <;> cases h
  | incidentFound =>
    simp only [advanceCreate] at h
    split at h
    · rename_i row after hcommit
      simp only [answerAssignment, Option.some.injEq, Prod.mk.injEq] at h
      obtain ⟨rfl, hphase⟩ := h
      split at hphase
      · cases hphase
        exact .inl ⟨row, hcommit, rfl⟩
      · cases hphase
    · cases h
    · cases h
  | keyTaken =>
    simp only [advanceCreate] at h
    split at h
    · cases h
    · rename_i existing hfind
      simp only [answerAssignment, Option.some.injEq, Prod.mk.injEq] at h
      obtain ⟨rfl, hphase⟩ := h
      split at hphase
      · rename_i hcontract
        cases hphase
        exact .inr ⟨rfl, rfl, existing, hfind, hcontract, rfl⟩
      · cases hphase
  | _ => cases h

/-- `send` answers with the message it has inserted, or with the one it has found. -/
theorem advanceSend_returned {siteScope : SiteScope} {incidentId : String}
    {input : SendMessageInput} {answer : Answer}
    (h : advanceSend db draw principal siteScope incidentId input phase =
      some (db', .returned answer)) :
    (∃ siteId row, db.send principal siteId incidentId input draw = .ok (row, db') ∧
      answer = .message row) ∨
    phase = .sendTaken ∧ db' = db ∧ ∃ existing,
      db.findMessageByKey principal incidentId input = some existing ∧
        existing.meetsContract = true ∧ answer = .message existing := by
  cases phase with
  | started =>
    simp only [advanceSend] at h
    split at h
    · cases h
    · split at h <;> cases h
  | incidentScoped siteId =>
    simp only [advanceSend] at h
    split at h
    · cases h
    · split at h <;> cases h
  | siteScoped siteId =>
    simp only [advanceSend] at h
    split at h <;> cases h
  | sendable siteId =>
    simp only [advanceSend] at h
    split at h
    · rename_i row after hcommit
      simp only [answerMessage, Option.some.injEq, Prod.mk.injEq] at h
      obtain ⟨rfl, hphase⟩ := h
      split at hphase
      · cases hphase
        exact .inl ⟨siteId, row, hcommit, rfl⟩
      · cases hphase
    · cases h
    · cases h
  | sendTaken =>
    simp only [advanceSend] at h
    split at h
    · cases h
    · rename_i existing hfind
      simp only [answerMessage, Option.some.injEq, Prod.mk.injEq] at h
      obtain ⟨rfl, hphase⟩ := h
      split at hphase
      · rename_i hcontract
        cases hphase
        exact .inr ⟨rfl, rfl, existing, hfind, hcontract, rfl⟩
      · cases hphase
  | _ => cases h

/-- The row that a call finds under a key that is taken is one of its own request. -/
def Worker.FindsItsOwn (db : Db) (worker : Worker) : Prop :=
  match worker.call, worker.phase with
  | .createAssignment principal _ input, .keyTaken =>
    ∀ existing, db.findAssignmentByKey principal input = some existing →
      existing.meetsContract = true → existing.order = input.order
  | .send principal _ incidentId input, .sendTaken =>
    ∀ existing, db.findMessageByKey principal incidentId input = some existing →
      existing.meetsContract = true → existing.Carries input
  | _, _ => True

/-- Whichever call takes the step finds a row of its own request. -/
def FindsItsOwn (s : State) : Label → Prop
  | .advance i _ _ => ∀ worker, s.workers[i]? = some worker → worker.FindsItsOwn s.db
  | _ => True

theorem findAssignmentByKey_eq_some {input : CreateAssignmentInput}
    {row : FieldAssignment} (h : db.findAssignmentByKey principal input = some row) :
    row ∈ db.assignments ∧
      row.key = (principal.organisationId, input.siteId, input.idempotencyKey) :=
  Table.of_find? h

theorem findMessageByKey_eq_some {incidentId : String}
    {input : SendMessageInput} {row : MessageWithRecipients}
    (h : db.findMessageByKey principal incidentId input = some row) :
    row.message ∈ db.messages ∧ row = db.withRecipients row.message ∧ row.message.key =
      (principal.organisationId, incidentId, principal.userId, input.idempotencyKey) := by
  obtain ⟨message, hfind, rfl⟩ := Option.map_eq_some_iff.mp h
  have hmatch := List.find?_some hfind
  exact ⟨List.mem_of_find?_eq_some hfind, rfl, of_decide_eq_true hmatch⟩

/-- An answer stays right while the tables grow. -/
theorem Worker.Truthful.grows (h : worker.Truthful db) (hgrows : db.Grows db') :
    worker.Truthful db' := by
  unfold Worker.Truthful at h ⊢
  split at h
  · obtain ⟨stored, hstored, hid, hkey, horder⟩ := h
    obtain ⟨stored', hstored', hid', hkey', horder'⟩ := hgrows.assignments stored hstored
    exact ⟨stored', hstored', hid'.trans hid, hkey'.trans hkey, horder'.trans horder⟩
  · obtain ⟨stored, hstored, hid, hkey, hcarries⟩ := h
    obtain ⟨hkept, hnames⟩ := hgrows.messages stored hstored
    refine ⟨stored, hkept, hid, hkey, ?_, hcarries.body, hcarries.mediaRefs,
      hcarries.retentionClass, hcarries.expiresAt⟩
    rw [hnames]
    exact hcarries.recipients
  · trivial

theorem Worker.truthful_of_not_returned (h : ∀ answer, worker.phase ≠ .returned answer) :
    worker.Truthful db := by
  unfold Worker.Truthful
  split
  · rename_i hphase
    exact absurd hphase (h _)
  · rename_i hphase
    exact absurd hphase (h _)
  · trivial

/-- A call that finds its own row, if any, is truthful after its step. -/
theorem advance_truthful {receipt : Bool} (hkeyed : db.Keyed) (hown : worker.FindsItsOwn db)
    (h : worker.advance db draw receipt = some (db', phase)) :
    Worker.Truthful db' ⟨worker.call, phase⟩ := by
  obtain ⟨call, standing⟩ := worker
  cases phase with
  | returned answer =>
    cases call with
    | createAssignment principal siteScope input =>
      obtain ⟨row, hcommit, rfl⟩ | ⟨hphase, rfl, existing, hfind, hcontract, rfl⟩ :=
        advanceCreate_returned h
      · obtain ⟨rfl, -, hassignments, -⟩ := createAssignment_eq_ok hcommit
        exact ⟨_, hassignments ▸ List.mem_append_right _ List.mem_cons_self, rfl, rfl, rfl⟩
      · obtain rfl := hphase
        obtain ⟨hmem, hkey⟩ := findAssignmentByKey_eq_some hfind
        exact ⟨existing, hmem, rfl, hkey, hown existing hfind hcontract⟩
    | send principal siteScope incidentId input =>
      obtain ⟨siteId, row, hcommit, rfl⟩ | ⟨hphase, rfl, existing, hfind, hcontract, rfl⟩ :=
        advanceSend_returned h
      · obtain ⟨rfl, hnew, hmessages, hrecipients, -⟩ := send_eq_ok hcommit
        refine ⟨_, hmessages ▸ List.mem_append_right _ List.mem_cons_self, rfl, rfl, ?_, rfl, rfl,
          rfl, rfl⟩
        have hsent := sent_recipients hkeyed (fun other hother => (hnew other hother).1)
          (fun _ => rfl) hrecipients
        show ((db'.withRecipients (messageRow ..)).recipients.map _).Perm _
        rw [hsent, List.map_map]
        exact List.Perm.of_eq (List.map_id _)
      · obtain rfl := hphase
        obtain ⟨hmem, hrow, hkey⟩ := findMessageByKey_eq_some hfind
        exact ⟨existing.message, hmem, rfl, hkey, hrow ▸ hown existing hfind hcontract⟩
    | _ => trivial
  | _ => exact Worker.truthful_of_not_returned fun _ => Phase.noConfusion

/-! ## Runs -/

/-- The tables have their keys, and every answer that was given is right. -/
structure Replayed (s : State) : Prop where
  keyed : s.db.Keyed
  truthful : ∀ worker ∈ s.workers, worker.Truthful s.db

theorem initial_keyed (directory : Directory) : (Db.empty directory).Keyed where
  assignments := List.nodup_nil
  messages := List.nodup_nil
  recipients _ hrow := absurd hrow List.not_mem_nil

/-- Every step keeps the keys, and lets the tables grow. -/
theorem step_grows (hkeyed : s.db.Keyed)
    (h : step s label = some t) : s.db.Grows t.db ∧ t.db.Keyed := by
  obtain ⟨call, -, rfl⟩ | ⟨i, draw, receipt, worker, db, phase, -, -, -, hadvance, rfl⟩ |
    ⟨i, worker, -, -, -, rfl⟩ | ⟨directory, -, rfl⟩ := step_cases h
  · exact ⟨.refl _, hkeyed⟩
  · exact writes_grows hkeyed (advance_writes hadvance)
  · exact ⟨.refl _, hkeyed⟩
  · exact ⟨.of_eq rfl rfl rfl, hkeyed.of_eq rfl rfl rfl⟩

theorem run_keyed {directory : Directory} {labels : List Label}
    (hrun : Transition.run step (State.initial directory) labels = some s) : s.db.Keyed :=
  have hstep : ∀ {s : State} {label : Label} {t : State}, s.db.Keyed → step s label = some t →
      t.db.Keyed := fun hkeyed h => (step_grows hkeyed h).2
  Transition.run_invariant hstep (initial_keyed directory) hrun

theorem step_replayed (h : Replayed s) (hown : FindsItsOwn s label)
    (hstep : step s label = some t) : Replayed t := by
  obtain ⟨hgrows, hkeyed⟩ := step_grows h.keyed hstep
  refine ⟨hkeyed, fun worker hworker => ?_⟩
  obtain ⟨call, -, rfl⟩ | ⟨i, draw, receipt, other, db, phase, rfl, hi, -, hadvance, rfl⟩ |
    ⟨i, other, -, -, -, rfl⟩ | ⟨directory, -, rfl⟩ := step_cases hstep
  · rcases List.of_mem_concat hworker with hold | rfl
    · exact (h.truthful worker hold).grows hgrows
    · exact Worker.truthful_of_not_returned fun _ => Phase.noConfusion
  · cases List.mem_or_eq_of_mem_set hworker with
    | inl hold => exact (h.truthful worker hold).grows hgrows
    | inr hnext =>
      rw [hnext]
      exact advance_truthful h.keyed (hown other hi) hadvance
  · cases List.mem_or_eq_of_mem_set hworker with
    | inl hold => exact (h.truthful worker hold).grows hgrows
    | inr hnext =>
      rw [hnext]
      exact Worker.truthful_of_not_returned fun _ => Phase.noConfusion
  · exact (h.truthful worker hworker).grows hgrows

/-- A call that finds a row of another request answers with it. -/
theorem findsItsOwn_of_truthful (hkeyed : s.db.Keyed)
    (hstep : step s label = some t) (htruthful : ∀ worker ∈ t.workers, worker.Truthful t.db) :
    FindsItsOwn s label := by
  cases label with
  | advance i draw receipt =>
    intro worker hi
    obtain ⟨other, db, phase, hj, -, hadvance, rfl⟩ := advance_eq_some hstep
    obtain rfl := Option.some.inj (hj.symm.trans hi)
    have hlt := (List.getElem?_eq_some_iff.mp hi).1
    have hnext := htruthful _ (List.mem_set hlt _)
    obtain ⟨call, standing⟩ := other
    unfold Worker.FindsItsOwn
    split
    · rename_i principal siteScope input hcall hstanding
      obtain rfl : call = _ := hcall
      obtain rfl : standing = _ := hstanding
      intro existing hfind hcontract
      simp only [Worker.advance, advanceCreate, hfind, answerAssignment, hcontract, if_true,
        Option.some.injEq, Prod.mk.injEq] at hadvance
      obtain ⟨rfl, rfl⟩ := hadvance
      obtain ⟨hmem, hkey⟩ := findAssignmentByKey_eq_some hfind
      obtain ⟨stored, hstored, -, hsame, horder⟩ := hnext
      obtain rfl := Table.eq_of_key hkeyed.assignments hstored hmem (hsame.trans hkey.symm)
      exact horder
    · rename_i principal siteScope incidentId input hcall hstanding
      obtain rfl : call = _ := hcall
      obtain rfl : standing = _ := hstanding
      intro existing hfind hcontract
      simp only [Worker.advance, advanceSend, hfind, answerMessage, hcontract, if_true,
        Option.some.injEq, Prod.mk.injEq] at hadvance
      obtain ⟨rfl, rfl⟩ := hadvance
      obtain ⟨hmem, hrow, hkey⟩ := findMessageByKey_eq_some hfind
      obtain ⟨stored, hstored, -, hsame, hcarries⟩ := hnext
      obtain rfl := Table.eq_of_key hkeyed.messages hstored hmem (hsame.trans hkey.symm)
      exact hrow ▸ hcarries
    · trivial
  | _ => trivial

/-- Every success of a run is about a stored row of its own request, exactly where no call of the run
    finds its key taken by another request. -/
theorem field_replay_iff {directory : Directory} {labels : List Label} {s : State}
    (hrun : Transition.run step (State.initial directory) labels = some s) :
    (∀ earlier later t, labels = earlier ++ later →
        Transition.run step (State.initial directory) earlier = some t →
        ∀ worker ∈ t.workers, worker.Truthful t.db) ↔
      Transition.RunAll step FindsItsOwn (State.initial directory) labels := by
  constructor
  · intro htruthful
    refine Transition.runAll_of_prefixes fun earlier label later t hlabels hearlier => ?_
    rw [hlabels] at hrun
    obtain ⟨v, hv, -⟩ := step_of_run hrun hearlier
    refine findsItsOwn_of_truthful (run_keyed hearlier) hv
      (htruthful (earlier ++ [label]) later v (by rw [hlabels, List.append_assoc]; rfl) ?_)
    exact Transition.run_append_eq_some.mpr
      ⟨t, hearlier, Transition.run_cons_eq_some.mpr ⟨v, hv, rfl⟩⟩
  · intro hall earlier later t hlabels hearlier
    rw [hlabels] at hall
    have hinitial : Replayed (State.initial directory) :=
      ⟨initial_keyed directory, fun _ hworker => absurd hworker List.not_mem_nil⟩
    exact (Transition.runAll_invariant step_replayed hinitial hall.append_left hearlier).truthful

/-! ## A key that is used twice -/

/-- An order to patrol, under the key `k-1`. -/
def patrolOrder (assigneeUserId : String) (h : assigneeUserId ≠ "") : CreateAssignmentInput where
  siteId := "site-a"
  incidentId := none
  assigneeUserId := assigneeUserId
  assignmentType := "PATROL"
  priority := .sev3
  needToKnowSummary := "Walk the east fence."
  expiresAt := none
  idempotencyKey := "k-1"
  siteId_safe := siteA_safe
  incidentId_uuid := rfl
  assigneeUserId_ne := h
  assignmentType_bounded := by decide
  needToKnowSummary_bounded := by decide
  idempotencyKey_bounded := by decide

/-- An order by the commander, and then one under the same key by the dispatcher. -/
def orderTwice (second : CreateAssignmentInput) : List Label :=
  [.call (.createAssignment commander anySite (patrolOrder "operative-1" (by decide))),
    .advance 0 (drawAt 1000 false) false, .advance 0 (drawAt 1000 false) false,
    .advance 0 (drawAt 1000 false) false, .advance 0 (drawAt 1000 false) false,
    .call (.createAssignment dispatcher anySite second),
    .advance 1 (drawAt 2000 true) false, .advance 1 (drawAt 2000 true) false,
    .advance 1 (drawAt 2000 true) false, .advance 1 (drawAt 2000 true) false,
    .advance 1 (drawAt 2000 true) false]

/-- No message is found, and an assignment that is found has the order of the request. -/
def findsItsOrder (s : State) : Label → Bool
  | .advance i _ _ =>
    (s.workers[i]?).all fun worker =>
      match worker.call, worker.phase with
      | .createAssignment principal _ input, .keyTaken =>
        (s.db.findAssignmentByKey principal input).all (·.order = input.order)
      | .send .., .sendTaken => false
      | _, _ => true
  | _ => true

theorem findsItsOwn_of_findsItsOrder (s : State) (label : Label)
    (h : findsItsOrder s label = true) : FindsItsOwn s label := by
  cases label with
  | advance i draw receipt =>
    intro worker hi
    have hworker := (Option.all_eq_true _ _).mp h worker hi
    unfold Worker.FindsItsOwn
    split
    · rename_i hcall hphase
      rw [hcall, hphase] at hworker
      intro existing hfind _
      exact of_decide_eq_true ((Option.all_eq_true _ _).mp hworker existing hfind)
    · rename_i hcall hphase
      rw [hcall, hphase] at hworker
      cases hworker
    · trivial
  | _ => trivial

/-- The same order again, by whomever, is answered with what was stored. -/
theorem field_replay_same_order :
    ∃ s, Transition.run step (State.initial oneSite)
        (orderTwice (patrolOrder "operative-1" (by decide))) = some s ∧
      ∀ worker ∈ s.workers, worker.Truthful s.db := by
  have hends : (Transition.run step (State.initial oneSite)
      (orderTwice (patrolOrder "operative-1" (by decide)))).isSome = true := by decide
  obtain ⟨s, hrun⟩ := Option.isSome_iff_exists.mp hends
  refine ⟨s, hrun, (field_replay_iff hrun).mpr ?_ _ [] s (List.append_nil _).symm hrun⟩
  exact Transition.runAll_of_checked findsItsOwn_of_findsItsOrder (by decide)

/-- An order for another operative is answered with the first one, and is nowhere stored. -/
theorem field_replay_dropped :
    ∃ s, Transition.run step (State.initial oneSite)
        (orderTwice (patrolOrder "operative-2" (by decide))) = some s ∧
      (∃ worker ∈ s.workers, ¬ worker.Truthful s.db) ∧
      ∀ row ∈ s.db.assignments, row.assigneeUserId ≠ "operative-2" := by
  have hends : (Transition.run step (State.initial oneSite)
      (orderTwice (patrolOrder "operative-2" (by decide)))).map (fun s =>
        (s.db.assignments.all (·.assigneeUserId ≠ "operative-2"),
          (s.workers[1]?).any fun worker =>
            match worker.call, worker.phase with
            | .createAssignment _ _ input, .returned (.assignment _) =>
              input.assigneeUserId = "operative-2"
            | _, _ => false)) = some (true, true) := by decide
  obtain ⟨s, hrun, hboth⟩ := Option.map_eq_some_iff.mp hends
  obtain ⟨hnone, hanswered⟩ := Prod.mk.inj hboth
  have hmiss : ∀ row ∈ s.db.assignments, row.assigneeUserId ≠ "operative-2" := fun row hrow =>
    of_decide_eq_true (List.all_eq_true.mp hnone row hrow)
  refine ⟨s, hrun, ?_, hmiss⟩
  obtain ⟨worker, hworker, hmatch⟩ := (Option.any_eq_true _ _).mp hanswered
  refine ⟨worker, List.mem_of_getElem? hworker, fun htruthful => ?_⟩
  unfold Worker.Truthful at htruthful
  split at hmatch
  · rename_i input row hcall hphase
    rw [hcall, hphase] at htruthful
    obtain ⟨stored, hstored, -, -, horder⟩ := htruthful
    have hassignee : stored.assigneeUserId = input.assigneeUserId :=
      congrArg Order.assigneeUserId horder
    exact hmiss stored hstored (hassignee.trans (of_decide_eq_true hmatch))
  · cases hmatch

end Sentinel.Field
