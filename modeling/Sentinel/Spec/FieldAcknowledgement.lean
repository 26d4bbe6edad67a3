import Sentinel.Spec.FieldFailure

/-! # Acknowledged messages

A recipient row goes from requested over delivered to acknowledged, each at most once: to delivered
on a receipt of one of the recipient's sockets, and to acknowledged together with the evidence of the
key that has done it. -/

namespace Sentinel.Field

open Events (Timestamp)
open FieldOffline (SiteScope)
open Incidents (DeliveryState canTransition)

variable {db db' : Db} {draw : Draw} {worker : Worker} {phase : Phase}

/-! ## What a recipient row goes through -/

def Recipient.key (row : Recipient) : String × String := (row.messageId, row.recipientUserId)

inductive Recipient.Moves (row : Recipient) : Recipient → Prop
  | stays : Moves row row
  | delivered (at' : Timestamp) (state : row.deliveryState = .requested)
      (unstamped : row.deliveredAt = none) :
      Moves row { row with deliveryState := .delivered, deliveredAt := some at' }
  | acknowledged (at' : Timestamp) (state : row.deliveryState = .delivered)
      (unstamped : row.acknowledgedAt = none) :
      Moves row { row with deliveryState := .acknowledged, acknowledgedAt := some at' }

/-- The row as a message is sent. -/
def Recipient.IsNew (row : Recipient) : Prop :=
  row.deliveryState = .requested ∧ row.deliveredAt = none ∧ row.acknowledgedAt = none

/-- Every row moves by a step, and the rows that are new have just been sent. -/
structure Db.Advances (db db' : Db) : Prop where
  moves : ∀ row ∈ db.recipients, ∃ row' ∈ db'.recipients, row.Moves row'
  comes : ∀ row' ∈ db'.recipients, row'.IsNew ∨ ∃ row ∈ db.recipients, row.Moves row'

theorem Db.Advances.of_eq (h : db'.recipients = db.recipients) : db.Advances db' where
  moves row hrow := ⟨row, h ▸ hrow, .stays⟩
  comes row' hrow' := .inr ⟨row', h ▸ hrow', .stays⟩

/-! ## What has happened -/

inductive Event
  /-- A socket of the recipient has answered the notification of a message. -/
  | receipt (organisationId recipientUserId incidentId messageId : String)
  /-- A call has acknowledged the row of its recipient. -/
  | acknowledged (evidence : AcknowledgeRow)

def Event.evidence : Event → Option AcknowledgeRow
  | .acknowledged evidence => some evidence
  | .receipt .. => none

def Db.deliveryState (db : Db) (messageId recipientUserId : String) : Option DeliveryState :=
  (db.findRecipient messageId recipientUserId).map (·.deliveryState)

/-- That the row of a recipient has become acknowledged between these two states of the tables. -/
def acknowledgedEvent (db db' : Db) (messageId recipientUserId idempotencyKey : String) :
    Option Event :=
  if db.deliveryState messageId recipientUserId ≠ some .acknowledged ∧
      db'.deliveryState messageId recipientUserId = some .acknowledged then
    some (.acknowledged ⟨messageId, recipientUserId, idempotencyKey⟩)
  else none

/-- What has happened when a call has taken a step between these two states of the tables. -/
def Worker.event (db db' : Db) (receipt : Bool) (worker : Worker) : Option Event :=
  match worker.call, worker.phase with
  | .handleMessage .., .notified organisationId recipientUserId incidentId messageId =>
    if receipt then some (.receipt organisationId recipientUserId incidentId messageId) else none
  | .acknowledge principal _ messageId idempotencyKey, _ =>
    acknowledgedEvent db db' messageId principal.userId idempotencyKey
  | _, _ => none

def event (s : State) : Label → Option Event
  | .advance i draw receipt =>
    (s.workers[i]?).bind fun worker =>
      (step s (.advance i draw receipt)).bind fun t => worker.event s.db t.db receipt
  | _ => none

/-! ## The invariant -/

/-- The entry says that the recipient of the key has acknowledged the message of the key. -/
def TimelineEntry.acknowledges (key : String × String) (entry : TimelineEntry) : Bool :=
  match entry.kind with
  | .messageAcknowledged _ => (entry.messageId, entry.actorUserId) = key
  | .messageSent .. => false

def MessageOutboxRow.isFor (key : String × String) (row : MessageOutboxRow) : Bool :=
  (row.messageId, row.recipientUserId) = key

def AcknowledgeRow.isFor (key : String × String) (row : AcknowledgeRow) : Bool :=
  (row.messageId, row.recipientUserId) = key

structure Recipient.Once (row : Recipient) (db : Db) (log : List Event) : Prop where
  state : row.deliveryState = .requested ∨ row.deliveryState = .delivered ∨
    row.deliveryState = .acknowledged
  deliveredAt : row.deliveredAt.isSome ↔ row.deliveryState ≠ .requested
  acknowledgedAt : row.acknowledgedAt.isSome ↔ row.deliveryState = .acknowledged
  received : row.deliveryState ≠ .requested → ∃ message ∈ db.messages, message.id = row.messageId ∧
    .receipt row.organisationId row.recipientUserId message.incidentId row.messageId ∈ log
  timeline : db.timeline.countP (·.acknowledges row.key) =
    if row.deliveryState = .acknowledged then 1 else 0
  outbox : db.messageOutbox.countP (·.isFor row.key) =
    if row.deliveryState = .acknowledged then 2 else 1
  evidence : db.acknowledgements.countP (·.isFor row.key) =
    if row.deliveryState = .acknowledged then 1 else 0

/-- The tables of messages with the events so far. -/
structure Db.Once (db : Db) (log : List Event) : Prop where
  keyed : (db.recipients.map (·.key)).Nodup
  recipients : ∀ row ∈ db.recipients, ∃ message ∈ db.messages, message.id = row.messageId
  timeline : ∀ entry ∈ db.timeline, ∃ message ∈ db.messages, message.id = entry.messageId
  outbox : ∀ row ∈ db.messageOutbox, ∃ message ∈ db.messages, message.id = row.messageId
  acknowledgements : ∀ row ∈ db.acknowledgements, ∃ message ∈ db.messages, message.id = row.messageId
  rows : ∀ row ∈ db.recipients, row.Once db log
  evidence : db.acknowledgements = log.filterMap Event.evidence

/-- A call that delivers has its receipt, and has read the row that the receipt is for. -/
def Worker.Received (db : Db) (log : List Event) (worker : Worker) : Prop :=
  match worker.call, worker.phase with
  | .handleMessage .., .receipted organisationId recipientUserId incidentId messageId =>
    .receipt organisationId recipientUserId incidentId messageId ∈ log
  | .handleMessage .., .deliverable organisationId recipientUserId incidentId messageId read =>
    .receipt organisationId recipientUserId incidentId messageId ∈ log ∧ canAdvance read = true ∧
      (∃ row ∈ db.recipients, row.key = (messageId, recipientUserId) ∧
        row.organisationId = organisationId) ∧
      ∃ message ∈ db.messages, message.id = messageId ∧ message.incidentId = incidentId
  | _, _ => True

variable {row : Recipient} {log more : List Event} {messageId incidentId recipientUserId : String}

/-- A row that stays as it is, while nothing is written for it. -/
theorem Recipient.Once.mono (h : row.Once db log)
    (hmessages : ∀ message ∈ db.messages, message ∈ db'.messages)
    (htimeline : db'.timeline.countP (·.acknowledges row.key) =
      db.timeline.countP (·.acknowledges row.key))
    (houtbox : db'.messageOutbox.countP (·.isFor row.key) = db.messageOutbox.countP (·.isFor row.key))
    (hevidence : db'.acknowledgements.countP (·.isFor row.key) =
      db.acknowledgements.countP (·.isFor row.key)) : row.Once db' (log ++ more) where
  state := h.state
  deliveredAt := h.deliveredAt
  acknowledgedAt := h.acknowledgedAt
  received hstate := by
    obtain ⟨message, hmessage, hid, hreceipt⟩ := h.received hstate
    exact ⟨message, hmessages message hmessage, hid, List.mem_append_left _ hreceipt⟩
  timeline := htimeline.trans h.timeline
  outbox := houtbox.trans h.outbox
  evidence := hevidence.trans h.evidence

/-- A step that writes none of the tables of messages. -/
theorem Db.Once.of_eq (h : db.Once log) (hmessages : db'.messages = db.messages)
    (hrecipients : db'.recipients = db.recipients)
    (hacknowledgements : db'.acknowledgements = db.acknowledgements)
    (htimeline : db'.timeline = db.timeline) (houtbox : db'.messageOutbox = db.messageOutbox)
    (hmore : more.filterMap Event.evidence = []) : db'.Once (log ++ more) where
  keyed := hrecipients ▸ h.keyed
  recipients := by
    rw [hrecipients, hmessages]
    exact h.recipients
  timeline := by
    rw [htimeline, hmessages]
    exact h.timeline
  outbox := by
    rw [houtbox, hmessages]
    exact h.outbox
  acknowledgements := by
    rw [hacknowledgements, hmessages]
    exact h.acknowledgements
  rows := by
    rw [hrecipients]
    exact fun row hrow => (h.rows row hrow).mono (fun _ hmessage => hmessages ▸ hmessage)
      (by rw [htimeline]) (by rw [houtbox]) (by rw [hacknowledgements])
  evidence := by rw [hacknowledgements, h.evidence, List.filterMap_append, hmore, List.append_nil]

/-! ## A message is sent -/

/-- Nothing is written for a recipient of a message that is not there. -/
theorem Db.Once.count_of_new (h : db.Once log)
    (hnew : ∀ message ∈ db.messages, message.id ≠ messageId) (user : String) :
    db.timeline.countP (·.acknowledges (messageId, user)) = 0 ∧
      db.messageOutbox.countP (·.isFor (messageId, user)) = 0 ∧
      db.acknowledgements.countP (·.isFor (messageId, user)) = 0 := by
  refine ⟨List.countP_eq_zero.mpr fun entry hentry hmatch => ?_,
    List.countP_eq_zero.mpr fun row hrow hmatch => ?_,
    List.countP_eq_zero.mpr fun row hrow hmatch => ?_⟩
  · obtain ⟨message, hmessage, hid⟩ := h.timeline entry hentry
    rw [TimelineEntry.acknowledges] at hmatch
    split at hmatch
    · exact hnew message hmessage (hid.trans (Prod.mk.inj (of_decide_eq_true hmatch)).1)
    · exact Bool.noConfusion hmatch
  · obtain ⟨message, hmessage, hid⟩ := h.outbox row hrow
    exact hnew message hmessage (hid.trans (Prod.mk.inj (of_decide_eq_true hmatch)).1)
  · obtain ⟨message, hmessage, hid⟩ := h.acknowledgements row hrow
    exact hnew message hmessage (hid.trans (Prod.mk.inj (of_decide_eq_true hmatch)).1)

theorem countP_sent_outbox (users : List String) (toRow : String → Nat → MessageOutboxRow)
    (hid : ∀ user i, (toRow user i).messageId = messageId)
    (huser : ∀ user i, (toRow user i).recipientUserId = user) (key : String × String) :
    (users.zipIdx.map fun (user, i) => toRow user i).countP (·.isFor key) =
      if messageId = key.1 then users.count key.2 else 0 := by
  have hcompose : ((·.isFor key) ∘ fun (entry : String × Nat) => toRow entry.1 entry.2) =
      (fun user => decide ((messageId, user) = key)) ∘ Prod.fst := by
    funext entry
    simp only [Function.comp_apply, MessageOutboxRow.isFor, hid, huser]
  calc (users.zipIdx.map fun (user, i) => toRow user i).countP (·.isFor key)
      = users.zipIdx.countP ((fun user => decide ((messageId, user) = key)) ∘ Prod.fst) := by
        rw [List.countP_map, ← hcompose]
    _ = users.countP (fun user => decide ((messageId, user) = key)) := by
        rw [← List.countP_map, List.zipIdx_map_fst]
    _ = _ := by
        split
        · rename_i hsame
          rw [List.count]
          refine List.countP_congr fun user _ => ?_
          rw [decide_eq_true_eq, beq_iff_eq, Prod.ext_iff]
          exact ⟨And.right, fun huser => ⟨hsame, huser⟩⟩
        · rename_i hne
          refine List.countP_eq_zero.mpr fun user _ hmatch => hne ?_
          exact congrArg Prod.fst (of_decide_eq_true hmatch)

theorem nodup_of_meetsContract {message : FieldMessage} {recipientUserIds : List String}
    (h : message.meetsContract recipientUserIds = true) : recipientUserIds.Nodup := by
  simp only [FieldMessage.meetsContract, Bool.and_eq_true] at h
  exact of_decide_eq_true h.1.1.1.1.1.1.1.1.2

theorem send_once {principal : Principal} {siteId : String} {input : SendMessageInput}
    {row : MessageWithRecipients} (h : db.Once log)
    (hnodup : input.recipientUserIds.Nodup)
    (hsend : db.send principal siteId incidentId input draw = .ok (row, db')) :
    db.Advances db' ∧ db'.Once (log ++ []) := by
  obtain ⟨-, hfresh, hmessages, hrecipients, hacks, htimeline, houtbox, -⟩ := send_eq_ok hsend
  generalize hmessage : messageRow principal siteId incidentId input draw.rowId.text draw.storedAt =
    message at hfresh hmessages hrecipients htimeline houtbox
  have hnew : ∀ other ∈ db.messages, other.id ≠ message.id := fun other hother =>
    (hfresh other hother).1
  have hkept : ∀ other ∈ db.messages, other ∈ db'.messages := fun other hother =>
    hmessages ▸ List.mem_append_left _ hother
  have hmem : message ∈ db'.messages := hmessages ▸ List.mem_append_right _ List.mem_cons_self
  -- the counts for a key, before and after
  have hcountTimeline : ∀ key : String × String,
      db'.timeline.countP (·.acknowledges key) = db.timeline.countP (·.acknowledges key) := by
    intro key
    rw [htimeline, List.countP_append]
    rfl
  have hcountOutbox : ∀ key : String × String, db'.messageOutbox.countP (·.isFor key) =
      db.messageOutbox.countP (·.isFor key) +
        if message.id = key.1 then input.recipientUserIds.count key.2 else 0 := by
    intro key
    rw [houtbox, List.countP_append]
    exact congrArg _ (countP_sent_outbox input.recipientUserIds (fun user i =>
      ⟨(draw.outboxId i).text, message.organisationId, message.siteId, user, message.incidentId,
        message.id, draw.storedAt, none⟩) (fun _ _ => rfl) (fun _ _ => rfl) key)
  have hold : ∀ other ∈ db.recipients, message.id ≠ other.key.1 := by
    intro other hother hsame
    obtain ⟨parent, hparent, hid⟩ := h.recipients other hother
    exact hnew parent hparent (hid.trans hsame.symm)
  have hcases : ∀ other ∈ db'.recipients, other ∈ db.recipients ∨ ∃ user ∈ input.recipientUserIds,
      other = ⟨message.id, message.organisationId, message.siteId, user, .requested, none, none⟩ := by
    intro other hother
    rw [hrecipients] at hother
    refine (List.mem_append.mp hother).imp_right fun hadded => ?_
    obtain ⟨user, huser, rfl⟩ := List.mem_map.mp hadded
    exact ⟨user, huser, rfl⟩
  refine ⟨⟨fun other hother => ⟨other, hrecipients ▸ List.mem_append_left _ hother, .stays⟩,
    fun other hother => ?_⟩, ?_, fun other hother => ?_, fun entry hentry => ?_, fun other hother => ?_,
    fun other hother => ?_, fun other hother => ?_, ?_⟩
  · obtain hother | ⟨user, -, rfl⟩ := hcases other hother
    · exact .inr ⟨other, hother, .stays⟩
    · exact .inl ⟨rfl, rfl, rfl⟩
  · rw [hrecipients, List.map_append, List.map_map]
    refine List.nodup_append.mpr ⟨h.keyed, ?_, fun key hkey other hother hsame => ?_⟩
    · exact hnodup.map fun a b hab => (Prod.mk.inj hab).2
    · obtain ⟨old, hmemOld, rfl⟩ := List.mem_map.mp hkey
      obtain ⟨user, -, rfl⟩ := List.mem_map.mp hother
      exact hold old hmemOld (congrArg Prod.fst hsame).symm
  · obtain hother | ⟨user, -, rfl⟩ := hcases other hother
    · obtain ⟨parent, hparent, hid⟩ := h.recipients other hother
      exact ⟨parent, hkept parent hparent, hid⟩
    · exact ⟨message, hmem, rfl⟩
  · rw [htimeline] at hentry
    cases List.mem_append.mp hentry with
    | inl hentry =>
      obtain ⟨parent, hparent, hid⟩ := h.timeline entry hentry
      exact ⟨parent, hkept parent hparent, hid⟩
    | inr hentry => exact ⟨message, hmem, (congrArg (·.messageId) (List.mem_singleton.mp hentry)).symm⟩
  · rw [houtbox] at hother
    cases List.mem_append.mp hother with
    | inl hother =>
      obtain ⟨parent, hparent, hid⟩ := h.outbox other hother
      exact ⟨parent, hkept parent hparent, hid⟩
    | inr hother =>
      obtain ⟨_, -, rfl⟩ := List.mem_map.mp hother
      exact ⟨message, hmem, rfl⟩
  · rw [hacks] at hother
    obtain ⟨parent, hparent, hid⟩ := h.acknowledgements other hother
    exact ⟨parent, hkept parent hparent, hid⟩
  · obtain hother | ⟨user, huser, rfl⟩ := hcases other hother
    · refine (h.rows other hother).mono hkept (hcountTimeline _) ?_ (by rw [hacks])
      rw [hcountOutbox, if_neg (hold other hother), Nat.add_zero]
    · -- nothing was written for a recipient of the new message before
      obtain ⟨hnoTimeline, hnoOutbox, hnoEvidence⟩ := h.count_of_new hnew user
      refine ⟨.inl rfl, by simp, by simp, fun hstate => absurd rfl hstate, ?_, ?_, ?_⟩
      · rw [hcountTimeline]
        exact hnoTimeline
      · rw [hcountOutbox]
        show _ + (if message.id = message.id then input.recipientUserIds.count user else 0) = 1
        rw [if_pos rfl, List.count_eq_one_of_mem hnodup huser]
        exact congrArg (· + 1) hnoOutbox
      · rw [hacks]
        exact hnoEvidence
  · rw [hacks, h.evidence, List.append_nil]

/-! ## A row is acknowledged -/

theorem deliveryState_of_mem (hkeyed : (db.recipients.map (·.key)).Nodup)
    (hrow : row ∈ db.recipients)
    (hkey : row.key = (messageId, recipientUserId)) :
    db.deliveryState messageId recipientUserId = some row.deliveryState := by
  have hfind : db.findRecipient messageId recipientUserId = some row :=
    Table.find?_eq_some hkeyed hrow (Prod.mk.inj hkey) fun other hother =>
      ((Prod.mk.injEq ..).mpr hother).trans hkey.symm
  rw [Db.deliveryState, hfind]
  rfl

theorem acknowledgedEvent_self (messageId recipientUserId idempotencyKey : String) :
    acknowledgedEvent db db messageId recipientUserId idempotencyKey = none :=
  if_neg fun h => h.1 h.2

theorem acknowledge_once {idempotencyKey : String} {result : AcknowledgeResult} (h : db.Once log)
    (hcommit : db.acknowledge messageId recipientUserId idempotencyKey acknowledgeRequiresState draw =
      .ok (result, db')) :
    db.Advances db' ∧
      db'.Once (log ++
        (acknowledgedEvent db db' messageId recipientUserId idempotencyKey).toList) := by
  obtain rfl | ⟨message, locked, hmessage, hlocked, hstate, hrecipients, hacks, htimeline, houtbox,
    hmessages, -⟩ := acknowledge_eq_ok hcommit
  · rw [acknowledgedEvent_self]
    exact ⟨.of_eq rfl, h.of_eq rfl rfl rfl rfl rfl rfl⟩
  have hid : message.id = messageId := by
    exact (Table.of_find? hmessage).2
  have hmem : message ∈ db.messages := List.mem_of_find?_eq_some hmessage
  obtain ⟨hlockedMem, hlockedId⟩ := List.mem_filter.mp (List.mem_of_find?_eq_some hlocked)
  have hlockedUser := List.find?_some hlocked
  have hkey : locked.key = (messageId, recipientUserId) :=
    (Prod.mk.injEq ..).mpr ⟨(of_decide_eq_true hlockedId).trans hid, of_decide_eq_true hlockedUser⟩
  have honce := h.rows locked hlockedMem
  have hbefore : locked.deliveryState = .delivered := hstate
  let stamped : Recipient :=
    { locked with deliveryState := .acknowledged, acknowledgedAt := some draw.now }
  have hhit : ∀ row : Recipient, decide (row.messageId = messageId ∧
      row.recipientUserId = recipientUserId) = true ↔ row.key = (messageId, recipientUserId) := by
    intro row
    rw [decide_eq_true_eq, Recipient.key, Prod.mk.injEq]
  have hkeyed : (db'.recipients.map (·.key)).Nodup := by
    rw [hrecipients]
    exact Table.nodup_map_rewrite h.keyed fun _ => rfl
  have hstamped : stamped ∈ db'.recipients := by
    rw [hrecipients]
    exact Table.mem_rewrite_of_hit hlockedMem ((hhit locked).mpr hkey)
  have hcases : ∀ row ∈ db'.recipients, row = stamped ∨
      row ∈ db.recipients ∧ row.key ≠ (messageId, recipientUserId) := by
    intro row hrow
    rw [hrecipients] at hrow
    obtain ⟨old, hold, rfl⟩ := Table.mem_rewrite.mp hrow
    split
    · rename_i hsame
      obtain rfl := Table.eq_of_key h.keyed hold hlockedMem (((hhit old).mp hsame).trans hkey.symm)
      exact .inl rfl
    · rename_i hother
      exact .inr ⟨hold, fun hsame => hother ((hhit old).mpr hsame)⟩
  have hevent : acknowledgedEvent db db' messageId recipientUserId idempotencyKey =
      some (.acknowledged ⟨messageId, recipientUserId, idempotencyKey⟩) := by
    refine if_pos ⟨?_, deliveryState_of_mem hkeyed hstamped hkey⟩
    rw [deliveryState_of_mem h.keyed hlockedMem hkey, hbefore]
    exact nofun
  have hcountTimeline : ∀ key, db'.timeline.countP (·.acknowledges key) =
      db.timeline.countP (·.acknowledges key) +
        if (messageId, recipientUserId) = key then 1 else 0 := by
    intro key
    rw [htimeline, List.countP_append, List.countP_singleton]
    exact congrArg _ (if_congr decide_eq_true_iff rfl rfl)
  have hcountOutbox : ∀ key, db'.messageOutbox.countP (·.isFor key) =
      db.messageOutbox.countP (·.isFor key) +
        if (messageId, recipientUserId) = key then 1 else 0 := by
    intro key
    rw [houtbox, List.countP_append, List.countP_singleton]
    exact congrArg _ (if_congr decide_eq_true_iff rfl rfl)
  have hcountEvidence : ∀ key, db'.acknowledgements.countP (·.isFor key) =
      db.acknowledgements.countP (·.isFor key) +
        if (messageId, recipientUserId) = key then 1 else 0 := by
    intro key
    rw [hacks, List.countP_append, List.countP_singleton]
    exact congrArg _ (if_congr decide_eq_true_iff rfl rfl)
  have hparent : ∀ {id}, (∃ parent ∈ db.messages, parent.id = id) →
      ∃ parent ∈ db'.messages, parent.id = id := by
    rw [hmessages]
    exact id
  have hown : ∃ parent ∈ db'.messages, parent.id = messageId := hparent ⟨message, hmem, hid⟩
  rw [hevent]
  refine ⟨⟨fun row hrow => ?_, fun row hrow => ?_⟩, hkeyed, fun row hrow => ?_, fun entry hentry => ?_,
    fun row hrow => ?_, fun row hrow => ?_, fun row hrow => ?_, ?_⟩
  · by_cases hsame : row.key = (messageId, recipientUserId)
    · obtain rfl := Table.eq_of_key h.keyed hrow hlockedMem (hsame.trans hkey.symm)
      have hunstamped : row.acknowledgedAt = none := by
        rw [← Option.not_isSome_iff_eq_none, honce.acknowledgedAt, hbefore]
        exact nofun
      exact ⟨stamped, hstamped, .acknowledged draw.now hbefore hunstamped⟩
    · refine ⟨row, ?_, .stays⟩
      rw [hrecipients]
      exact Table.mem_rewrite_of_miss hrow (Bool.eq_false_iff.mpr fun hit => hsame ((hhit row).mp hit))
  · obtain rfl | ⟨hold, -⟩ := hcases row hrow
    · have hunstamped : locked.acknowledgedAt = none := by
        rw [← Option.not_isSome_iff_eq_none, honce.acknowledgedAt, hbefore]
        exact nofun
      exact .inr ⟨locked, hlockedMem, .acknowledged draw.now hbefore hunstamped⟩
    · exact .inr ⟨row, hold, .stays⟩
  · obtain rfl | ⟨hold, -⟩ := hcases row hrow
    · exact hparent (h.recipients locked hlockedMem)
    · exact hparent (h.recipients row hold)
  · rw [htimeline] at hentry
    rcases List.of_mem_concat hentry with hold | rfl
    · exact hparent (h.timeline entry hold)
    · exact hown
  · rw [houtbox] at hrow
    rcases List.of_mem_concat hrow with hold | rfl
    · exact hparent (h.outbox row hold)
    · exact hown
  · rw [hacks] at hrow
    rcases List.of_mem_concat hrow with hold | rfl
    · exact hparent (h.acknowledgements row hold)
    · exact hown
  · obtain rfl | ⟨hold, hother⟩ := hcases row hrow
    · have hnone : locked.deliveryState ≠ .acknowledged := by
        rw [hbefore]
        exact nofun
      have hsame : (messageId, recipientUserId) = stamped.key := hkey.symm
      refine ⟨.inr (.inr rfl), ?_, by simp [stamped], fun _ => ?_, ?_, ?_, ?_⟩
      · have hdelivered : locked.deliveredAt.isSome := honce.deliveredAt.mpr (by rw [hbefore]; exact nofun)
        exact iff_of_true hdelivered nofun
      · obtain ⟨parent, hparentMem, hparentId, hreceipt⟩ :=
          honce.received (by rw [hbefore]; exact nofun)
        exact ⟨parent, hmessages ▸ hparentMem, hparentId, List.mem_append_left _ hreceipt⟩
      · rw [hcountTimeline, if_pos hsame, if_pos rfl]
        exact congrArg (· + 1) (honce.timeline.trans (if_neg hnone))
      · rw [hcountOutbox, if_pos hsame, if_pos rfl]
        exact congrArg (· + 1) (honce.outbox.trans (if_neg hnone))
      · rw [hcountEvidence, if_pos hsame, if_pos rfl]
        exact congrArg (· + 1) (honce.evidence.trans (if_neg hnone))
    · have hne : ¬ (messageId, recipientUserId) = row.key := fun hsame => hother hsame.symm
      refine (h.rows row hold).mono (fun _ hmessage => hmessages ▸ hmessage) ?_ ?_ ?_
      · rw [hcountTimeline, if_neg hne, Nat.add_zero]
      · rw [hcountOutbox, if_neg hne, Nat.add_zero]
      · rw [hcountEvidence, if_neg hne, Nat.add_zero]
  · rw [hacks, h.evidence, List.filterMap_append]
    rfl

/-- Of the states that a row can have, only the first one is left for delivered. -/
theorem requested_of_canAdvance {state : DeliveryState} (h : canAdvance state = true)
    (hstate : state = .requested ∨ state = .delivered ∨ state = .acknowledged) :
    state = .requested := by
  obtain rfl | rfl | rfl := hstate
  · rfl
  · exact absurd h (by decide)
  · exact absurd h (by decide)

theorem deliver_once {organisationId : String}
    {read : DeliveryState} {at' : Timestamp} (h : db.Once log)
    (hreceipt : .receipt organisationId recipientUserId incidentId messageId ∈ log)
    (hadvance : canAdvance read = true)
    (hrow : ∃ row ∈ db.recipients, row.key = (messageId, recipientUserId) ∧
      row.organisationId = organisationId)
    (hmessage : ∃ message ∈ db.messages, message.id = messageId ∧ message.incidentId = incidentId) :
    db.Advances (db.deliver messageId recipientUserId read at') ∧
      (db.deliver messageId recipientUserId read at').Once (log ++ []) := by
  obtain ⟨target, htarget, hkey, rfl⟩ := hrow
  have hhit : ∀ row : Recipient, decide (row.messageId = messageId ∧
      row.recipientUserId = recipientUserId ∧ row.deliveryState = read) = true ↔
        row.key = (messageId, recipientUserId) ∧ row.deliveryState = read := by
    intro row
    rw [decide_eq_true_eq, Recipient.key, Prod.mk.injEq, and_assoc]
  -- what is hit was requested
  have hmoves : ∀ row ∈ db.recipients, decide (row.messageId = messageId ∧
      row.recipientUserId = recipientUserId ∧ row.deliveryState = read) = true →
        row = target ∧ row.deliveryState = .requested := by
    intro row hmem hit
    obtain ⟨hsame, hstate⟩ := (hhit row).mp hit
    refine ⟨Table.eq_of_key h.keyed hmem htarget (hsame.trans hkey.symm), ?_⟩
    exact requested_of_canAdvance (hstate.symm ▸ hadvance) (h.rows row hmem).state
  have hmove : ∀ row ∈ db.recipients, row.Moves (if decide (row.messageId = messageId ∧
      row.recipientUserId = recipientUserId ∧ row.deliveryState = read) = true
        then { row with deliveryState := .delivered, deliveredAt := some at' } else row) := by
    intro row hmem
    split
    · rename_i hit
      obtain ⟨-, hstate⟩ := hmoves row hmem hit
      refine .delivered at' hstate ?_
      rw [← Option.not_isSome_iff_eq_none, (h.rows row hmem).deliveredAt]
      exact not_not.mpr hstate
    · exact .stays
  refine ⟨⟨fun row hmem => ⟨_, Table.mem_rewrite.mpr ⟨row, hmem, rfl⟩, hmove row hmem⟩,
    fun row hmem => ?_⟩, Table.nodup_map_rewrite h.keyed fun _ => rfl, fun row hmem => ?_, h.timeline,
    h.outbox, h.acknowledgements, fun row hmem => ?_, ?_⟩
  · obtain ⟨old, hold, rfl⟩ := Table.mem_rewrite.mp hmem
    exact .inr ⟨old, hold, hmove old hold⟩
  · obtain ⟨old, hold, rfl⟩ := Table.mem_rewrite.mp hmem
    split
    · exact h.recipients old hold
    · exact h.recipients old hold
  · obtain ⟨old, hold, rfl⟩ := Table.mem_rewrite.mp hmem
    split
    · rename_i hit
      obtain ⟨rfl, hstate⟩ := hmoves old hold hit
      have honce := h.rows old hold
      have hnone : old.deliveryState ≠ .acknowledged := by
        rw [hstate]
        exact nofun
      refine ⟨.inr (.inl rfl), by simp, ?_, fun _ => ?_, ?_, ?_, ?_⟩
      · exact iff_of_false (fun hsome => hnone (honce.acknowledgedAt.mp hsome)) nofun
      · obtain ⟨message, hmem', hid, hincident⟩ := hmessage
        obtain ⟨hold', huser⟩ := Prod.mk.inj hkey
        refine ⟨message, hmem', hid.trans hold'.symm, List.mem_append_left _ ?_⟩
        rw [hincident]
        exact hold' ▸ huser ▸ hreceipt
      · exact honce.timeline.trans (if_neg hnone)
      · exact honce.outbox.trans (if_neg hnone)
      · exact honce.evidence.trans (if_neg hnone)
    · exact (h.rows old hold).mono (fun _ hmem' => hmem') rfl rfl rfl
  · rw [List.append_nil]
    exact h.evidence

/-! ## Steps of calls -/

theorem event_self (receipt : Bool) :
    (worker.event db db receipt).toList.filterMap Event.evidence = [] := by
  unfold Worker.event
  split
  · split <;> rfl
  · rw [acknowledgedEvent_self]
    rfl
  · rfl

/-- What a step does to the recipient rows, and the events of it. -/
theorem writes_once (receipt : Bool) (h : db.Once log) (hchecked : worker.Checked)
    (hreceived : worker.Received db log) (hwrites : Writes db draw worker db' phase) :
    db.Advances db' ∧ db'.Once (log ++ (worker.event db db' receipt).toList) := by
  cases hwrites with
  | nothing => exact ⟨.of_eq rfl, h.of_eq rfl rfl rfl rfl rfl (event_self receipt)⟩
  | created commit =>
    obtain ⟨-, -, -, hmessages, hrecipients, hacks, htimeline, houtbox, -⟩ :=
      createAssignment_eq_ok commit
    exact ⟨.of_eq hrecipients, h.of_eq hmessages hrecipients hacks htimeline houtbox rfl⟩
  | transitioned commit =>
    obtain ⟨-, hmessages, hrecipients, hacks, htimeline, houtbox, -⟩ | rfl :=
      transitionAssignment_eq_some commit
    · exact ⟨.of_eq hrecipients, h.of_eq hmessages hrecipients hacks htimeline houtbox rfl⟩
    · exact ⟨.of_eq rfl, h.of_eq rfl rfl rfl rfl rfl rfl⟩
  | recorded commit =>
    obtain ⟨-, rfl⟩ | ⟨-, -, -, -, hmessages, hrecipients, hacks, htimeline, houtbox⟩ :=
      recordState_eq_ok commit
    · exact ⟨.of_eq rfl, h.of_eq rfl rfl rfl rfl rfl rfl⟩
    · exact ⟨.of_eq hrecipients, h.of_eq hmessages hrecipients hacks htimeline houtbox rfl⟩
  | sent commit =>
    obtain ⟨now, hcandidate⟩ := hchecked
    exact send_once h (nodup_of_meetsContract hcandidate) commit
  | acknowledged commit => exact acknowledge_once h commit
  | delivered subject raw organisationId recipientUserId incidentId messageId read =>
    obtain ⟨hreceipt, hadvance, hrow, hmessage⟩ := hreceived
    exact deliver_once h hreceipt hadvance hrow hmessage

theorem Recipient.Moves.key_eq {row' : Recipient} (h : row.Moves row') :
    row'.key = row.key ∧ row'.organisationId = row.organisationId := by
  cases h <;> exact ⟨rfl, rfl⟩

theorem Worker.Received.mono (h : worker.Received db log)
    (hadvances : db.Advances db') (hmessages : ∀ message ∈ db.messages, message ∈ db'.messages) :
    worker.Received db' (log ++ more) := by
  unfold Worker.Received at h ⊢
  split at h
  · exact List.mem_append_left _ h
  · obtain ⟨hreceipt, hadvance, ⟨row, hrow, hkey, horganisation⟩, message, hmessage, hid⟩ := h
    obtain ⟨row', hrow', hmoves⟩ := hadvances.moves row hrow
    obtain ⟨hkey', horganisation'⟩ := hmoves.key_eq
    exact ⟨List.mem_append_left _ hreceipt, hadvance,
      ⟨row', hrow', hkey'.trans hkey, horganisation'.trans horganisation⟩,
      message, hmessages message hmessage, hid⟩
  · trivial

theorem Worker.received_of_closed (h : worker.phase.isOpen = false) : worker.Received db log := by
  unfold Worker.Received
  split
  · rename_i hphase
    rw [hphase] at h
    exact Bool.noConfusion h
  · rename_i hphase
    rw [hphase] at h
    exact Bool.noConfusion h
  · trivial

/-- What `recordTransportDelivery` has read. -/
theorem deliverable_eq_some {organisationId : String} {read : DeliveryState}
    (h : db.deliverable organisationId incidentId messageId recipientUserId = some read) :
    (∃ row ∈ db.recipients, row.key = (messageId, recipientUserId) ∧
      row.organisationId = organisationId) ∧
      ∃ message ∈ db.messages, message.id = messageId ∧ message.incidentId = incidentId := by
  obtain ⟨row, hfind, -⟩ := Option.map_eq_some_iff.mp h
  have hmatch := List.find?_some hfind
  obtain ⟨hid, huser, horganisation, hmessage⟩ := of_decide_eq_true hmatch
  obtain ⟨message, hmem, hsame⟩ := List.any_eq_true.mp hmessage
  obtain ⟨hmessageId, -, hincident⟩ := of_decide_eq_true hsame
  exact ⟨⟨row, List.mem_of_find?_eq_some hfind, (Prod.mk.injEq ..).mpr ⟨hid, huser⟩, horganisation⟩,
    message, hmem, hmessageId, hincident⟩

/-- A call that gets as far as a delivery has its receipt. -/
theorem advance_received {receipt : Bool} (hreceived : worker.Received db log)
    (h : worker.advance db draw receipt = some (db', phase)) :
    Worker.Received db' (log ++ (worker.event db db' receipt).toList) ⟨worker.call, phase⟩ := by
  obtain ⟨call, standing⟩ := worker
  cases call with
  | handleMessage subject raw =>
    cases standing with
    | started =>
      simp only [Worker.advance, advanceNotification] at h
      split at h <;> cases h <;> trivial
    | notified organisationId recipientUserId incidentId messageId =>
      simp only [Worker.advance, advanceNotification] at h
      split at h
      · rename_i hreceipt
        cases h
        obtain rfl := hreceipt
        exact List.mem_append_right _ List.mem_cons_self
      · cases h
        trivial
    | receipted organisationId recipientUserId incidentId messageId =>
      simp only [Worker.advance, advanceNotification] at h
      split at h
      · cases h
        trivial
      · rename_i read hread
        split at h
        · rename_i hadvance
          cases h
          obtain ⟨hrow, hmessage⟩ := deliverable_eq_some hread
          exact ⟨List.mem_append_left _ hreceived, hadvance, hrow, hmessage⟩
        · cases h
          trivial
    | deliverable =>
      cases h
      trivial
    | _ => cases h
  | _ => trivial

/-! ## Runs -/

/-- The tables with the events, and what the calls under way have checked and received. -/
structure Tracked (s : State) (log : List Event) : Prop where
  once : s.db.Once log
  ready : Ready s
  received : ∀ worker ∈ s.workers, worker.Received s.db log

theorem initial_tracked (directory : Directory) : Tracked (State.initial directory) [] where
  once :=
    { keyed := List.nodup_nil
      recipients := fun _ hrow => absurd hrow List.not_mem_nil
      timeline := fun _ hentry => absurd hentry List.not_mem_nil
      outbox := fun _ hrow => absurd hrow List.not_mem_nil
      acknowledgements := fun _ hrow => absurd hrow List.not_mem_nil
      rows := fun _ hrow => absurd hrow List.not_mem_nil
      evidence := rfl }
  ready := ⟨initial_keyed directory, fun _ hworker => absurd hworker List.not_mem_nil⟩
  received _ hworker := absurd hworker List.not_mem_nil

theorem step_tracked {s t : State} {label : Label} (h : Tracked s log)
    (hstep : step s label = some t) :
    s.db.Advances t.db ∧ Tracked t (log ++ (event s label).toList) := by
  have hready := step_ready h.ready hstep
  have hmessages := fun message hmessage => ((step_grows h.ready.keyed hstep).1.messages message
    hmessage).1
  have hsame : ∀ worker ∈ s.workers, s.db.Advances t.db →
      worker.Received t.db (log ++ (event s label).toList) := fun worker hworker hadvances =>
    (h.received worker hworker).mono hadvances hmessages
  obtain ⟨call, rfl, rfl⟩ | ⟨i, draw, receipt, worker, db, phase, rfl, hi, -, hadvance, rfl⟩ |
    ⟨i, worker, rfl, -, -, rfl⟩ | ⟨directory, rfl, rfl⟩ := step_cases hstep
  · have hadvances : s.db.Advances s.db := .of_eq rfl
    refine ⟨hadvances, h.once.of_eq rfl rfl rfl rfl rfl rfl, hready, fun worker hworker => ?_⟩
    rcases List.of_mem_concat hworker with hold | rfl
    · exact hsame worker hold hadvances
    · cases call <;> trivial
  · have hworker := List.mem_of_getElem? hi
    have hevent : event s (.advance i draw receipt) = worker.event s.db db receipt := by
      rw [event, hi, hstep]
      rfl
    obtain ⟨hadvances, honce⟩ := writes_once receipt h.once
      (h.ready.checked worker hworker) (h.received worker hworker) (advance_writes hadvance)
    refine ⟨hadvances, ?_, hready, fun other hother => ?_⟩
    · rw [hevent]
      exact honce
    · cases List.mem_or_eq_of_mem_set hother with
      | inl hold => exact hsame other hold hadvances
      | inr hnext =>
        rw [hnext, hevent]
        exact advance_received (h.received worker hworker) hadvance
  · have hadvances : s.db.Advances s.db := .of_eq rfl
    refine ⟨hadvances, h.once.of_eq rfl rfl rfl rfl rfl rfl, hready, fun other hother => ?_⟩
    cases List.mem_or_eq_of_mem_set hother with
    | inl hold => exact hsame other hold hadvances
    | inr hnext =>
      rw [hnext]
      exact Worker.received_of_closed rfl
  · exact ⟨.of_eq rfl, h.once.of_eq rfl rfl rfl rfl rfl rfl, hready, fun worker hworker =>
      hsame worker hworker (.of_eq rfl)⟩

theorem run_tracked {directory : Directory} {labels : List Label} {s : State}
    (hrun : Transition.run step (State.initial directory) labels = some s) :
    Tracked s (Transition.trace step event (State.initial directory) labels) := by
  have hall : Transition.RunAll step (fun _ _ => True) (State.initial directory) labels :=
    Transition.runAll_of_forall fun _ _ => trivial
  have hstep : ∀ {s : State} {log : List Event} {label : Label} {t : State}, Tracked s log → True →
      step s label = some t → Tracked t (log ++ (event s label).toList) :=
    fun h _ hstep => (step_tracked h hstep).2
  exact Transition.runAll_trace_invariant event Tracked hstep (initial_tracked directory) hall hrun

/-- In every run the recipient rows only move from requested to delivered and on to acknowledged;
what is delivered has had its receipt; and an acknowledged row has one timeline entry, one outbox
row beside that of the message, and one row of evidence, in the order of the acknowledgements. -/
theorem message_acknowledged_once {directory : Directory} {labels : List Label} {s : State}
    (hrun : Transition.run step (State.initial directory) labels = some s) :
    (∀ earlier label later t u, labels = earlier ++ label :: later →
        Transition.run step (State.initial directory) earlier = some t → step t label = some u →
        t.db.Advances u.db) ∧
      s.db.Once (Transition.trace step event (State.initial directory) labels) :=
  ⟨fun _ _ _ _ _ _ hearlier hu => (step_tracked (run_tracked hearlier) hu).1, (run_tracked hrun).once⟩

/-! ## Two acknowledgements -/

def messageToCommander : SendMessageInput where
  recipientUserIds := ["commander"]
  body := some "Gate 4 is open."
  mediaRefs := []
  retentionClass := "STANDARD"
  expiresAt := none
  idempotencyKey := "m-1"
  traceId := "trace-1"
  recipientUserIds_bounded := by decide +kernel
  recipientUserIds_length := by decide
  body_ne := by decide +kernel
  mediaRefs_bounded := rfl
  mediaRefs_length := by decide
  retentionClass_bounded := by decide +kernel
  idempotencyKey_bounded := by decide +kernel
  traceId_bounded := trace_bounded

/-- The message is sent, a socket of the commander answers, and the commander acknowledges twice. -/
def acknowledgeTwice : List Label :=
  let messageId := "0c9f7b52-2f6e-4d0a-8b3e-6a1d5e4c3b11"
  let incidentId := "5b0e1a52-7c1d-4f0e-9a51-2f0d3c6a7b10"
  let notification := .object
    [("message_id".toList, .string messageId.toList), ("incident_id".toList, .string incidentId.toList)]
  [.call (.send dispatcher anySite incidentId messageToCommander),
    .advance 0 (drawAt 1000 false) false, .advance 0 (drawAt 1000 false) false,
    .advance 0 (drawAt 1000 false) false, .advance 0 (drawAt 1000 false) false,
    .call (.handleMessage "sentinel.field.message.updated.org-a.commander" (some notification)),
    .advance 1 (drawAt 2000 false) false, .advance 1 (drawAt 2000 false) true,
    .advance 1 (drawAt 2000 false) false, .advance 1 (drawAt 2000 false) false,
    .call (.acknowledge commander anySite messageId "a-1"),
    .call (.acknowledge commander anySite messageId "a-2"),
    .advance 2 (drawAt 3000 false) false, .advance 3 (drawAt 3000 false) false,
    .advance 2 (drawAt 3000 false) false, .advance 2 (drawAt 3000 true) false,
    .advance 3 (drawAt 4000 false) false, .advance 3 (drawAt 4000 false) false]

theorem message_acknowledged_twice :
    ∃ s, Transition.run step (State.initial oneSite) acknowledgeTwice = some s ∧
      s.db.Once (Transition.trace step event (State.initial oneSite) acknowledgeTwice) ∧
      s.db.recipients.map (·.deliveryState) = [.acknowledged] ∧
      s.db.acknowledgements.map (·.idempotencyKey) = ["a-1"] := by
  have hends : (Transition.run step (State.initial oneSite) acknowledgeTwice).map (fun s =>
      (s.db.recipients.map (·.deliveryState), s.db.acknowledgements.map (·.idempotencyKey))) =
        some ([.acknowledged], ["a-1"]) := by decide +kernel
  obtain ⟨s, hrun, hend⟩ := Option.map_eq_some_iff.mp hends
  exact ⟨s, hrun, (message_acknowledged_once hrun).2, (Prod.mk.inj hend).1, (Prod.mk.inj hend).2⟩

end Sentinel.Field
