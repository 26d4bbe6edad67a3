import Sentinel.Native.FieldRepository

/-! # The Field services

`FieldService.createAssignment`, `transitionAssignment` and `recordState`,
`FieldMessagingService.send` and `acknowledge`, and `FieldMessagingConsumer.handleMessage`
(`modules/field`, `modules/field-messaging`).  A call takes a step for each read and each
transaction.  `FOR UPDATE` is a step of its own, and who needs a locked row waits. -/

namespace Sentinel.Field

open CanonicalJson (Json)
open Events (Timestamp)
open FieldOffline (SiteScope)
open Incidents (DeliveryState)

/-! ## Calls -/

/-- A request, as it is parsed. -/
inductive Call
  | createAssignment (principal : Principal) (siteScope : SiteScope) (input : CreateAssignmentInput)
  | transitionAssignment (principal : Principal) (siteScope : SiteScope) (assignmentId : String)
      (action : AssignmentAction) (input : AssignmentActionInput)
  | recordState (principal : Principal) (siteScope : SiteScope) (input : StateUpdateInput)
  | send (principal : Principal) (siteScope : SiteScope) (incidentId : String)
      (input : SendMessageInput)
  | acknowledge (principal : Principal) (siteScope : SiteScope) (messageId idempotencyKey : String)
  /-- A message of the bus, with its JSON if it has any. -/
  | handleMessage (subject : String) (raw : Option Json)

/-- What a call ends with instead of an answer. -/
inductive Exception
  | badRequest (message : String)
  | forbidden (message : String)
  | notFound (message : String)
  | conflict (message : String)
  /-- A contract schema refuses a row. -/
  | contract
  | database (error : DbError)
  /-- The database or the process fails the call. -/
  | failure

inductive Answer
  | assignment (row : FieldAssignment)
  | state (row : CurrentState)
  | message (message : MessageWithRecipients)
  /-- What `recordTransportDelivery` says of a notification. -/
  | delivered (advanced : Bool)
  /-- A notification that no socket has answered, or that names no recipient. -/
  | dropped

/-- Where a call stands. -/
inductive Phase
  | started
  /-- `createAssignment`: with the site, the assignee and the incident found, and with a unique index
      violated. -/
  | siteFound | assigneeFound | incidentFound | keyTaken
  /-- `recordState`, with the state to be recorded. -/
  | received (state : OperativeState)
  /-- `send`: with the site of the incident found, then the site itself, with everything checked, and
      with a unique index violated. -/
  | incidentScoped (siteId : String) | siteScoped (siteId : String) | sendable (siteId : String)
  | sendTaken
  /-- `acknowledge`: with the row of the recipient found, and locked. -/
  | named | locked
  /-- `handleMessage`: with the recipient and the message known, with a receipt of one of the
      recipient's sockets, and with the state of the row read. -/
  | notified (organisationId recipientUserId incidentId messageId : String)
  | receipted (organisationId recipientUserId incidentId messageId : String)
  | deliverable (organisationId recipientUserId incidentId messageId : String) (read : DeliveryState)
  | returned (answer : Answer)
  | thrown (exception : Exception)

structure Worker where
  call : Call
  phase : Phase

/-- Calls that have neither answered nor thrown. -/
def Phase.isOpen : Phase → Bool
  | .returned _ | .thrown _ => false
  | _ => true

/-! ## Notifications -/

/-- The organisation and the recipient of a subject of exactly six segments. -/
def parseSubject (subject : String) : Option (String × String) :=
  match subject.toList.splitOn '.' with
  | [a, b, c, d, organisation, recipient] =>
    if [a, b, c, d, organisation, recipient].all (· ≠ []) then
      some (String.ofList organisation, String.ofList recipient)
    else none
  | _ => none

/-- The value of a string member; of members with one name the last one counts. -/
def stringMember (members : List (List Char × Json)) (name : String) : Option String :=
  match members.reverse.find? fun member => member.1 = name.toList with
  | some (_, .string text) => some (String.ofList text)
  | _ => none

/-- `project`: the incident and the message. -/
def projectNotification : Json → Option (String × String)
  | .object members =>
    (stringMember members "message_id").bind fun messageId =>
      (stringMember members "incident_id").map fun incidentId => (incidentId, messageId)
  | _ => none

/-! ## What a message has to pass before it is sent -/

/-- The checks of `send` before it is known who may send and read. -/
def SendMessageInput.refusal (input : SendMessageInput) : Option String :=
  if input.body = none ∧ input.mediaRefs = [] then some "a message requires body or media_refs"
  else if input.body.any (maxMessageBodyBytes < ·.utf8ByteSize) then
    some "body must be at most 16384 bytes"
  else if ¬ input.recipientUserIds.Nodup then some "recipient_user_ids must be unique"
  else none

def aggregateSizeProbeId : String := "00000000-0000-0000-0000-000000000000"

variable (db : Db) (draw : Draw) (principal : Principal)

/-- The checks of `send` once the facts are loaded: the sender, the recipients, the expiry, and the
    contract on a candidate of the message. -/
def Db.sendRefusal (siteId incidentId : String)
    (input : SendMessageInput) (now : Timestamp) : Option Exception :=
  if !db.isEligible principal.organisationId siteId incidentId principal.userId then
    some (.forbidden "Not permitted to send on this incident")
  else if !input.recipientUserIds.all (db.isEligible principal.organisationId siteId incidentId ·) then
    some (.badRequest "one or more recipients are not eligible for this incident")
  else if input.expiresAt.any (·.ms < now.ms) then
    some (.badRequest "expires_at must be >= sent_at")
  else
    let candidate := messageRow principal siteId incidentId input aggregateSizeProbeId now
    if candidate.meetsContract input.recipientUserIds then none
    else if candidate.oversized input.recipientUserIds then
      some (.badRequest "message exceeds the canonical serialized size limit")
    else some (.badRequest "message failed canonical contract validation")

/-- `assertContract` on a message with its recipient rows. -/
def MessageWithRecipients.meetsContract (row : MessageWithRecipients) : Bool :=
  row.message.meetsContract (row.recipients.map (·.recipientUserId))

/-! ## Steps of a call -/

def acknowledgeRequiresState : DeliveryState := .delivered

/-- What a transition comes to for its caller. -/
def TransitionResult.phase : TransitionResult → Phase
  | .updated row | .duplicate row | .noop row => .returned (.assignment row)
  | .notFound => .thrown (.notFound "Assignment not found")
  | .forbidden => .thrown (.forbidden "Only the assignee can perform this assignment action")
  | .conflict status => .thrown (.conflict ("Assignment status is " ++ statusText status))

def deliveryStateText : DeliveryState → String
  | .requested => "REQUESTED"
  | .delivered => "DELIVERED"
  | .acknowledged => "ACKNOWLEDGED"
  | .executed => "EXECUTED"
  | .failed => "FAILED"
  | .unknown => "UNKNOWN"

/-- What an acknowledgement comes to for its caller. -/
def AcknowledgeResult.phase : AcknowledgeResult → Phase
  | .acknowledged message | .duplicate message => .returned (.message message)
  | .notRecipient => .thrown (.notFound "Message not found")
  | .conflict state => .thrown (.conflict ("Delivery state is " ++ deliveryStateText state))

/-- The contract on an assignment that was written or found. -/
def answerAssignment (row : FieldAssignment) : Phase :=
  if row.meetsContract then .returned (.assignment row) else .thrown .contract

/-- The contract on a message that was written or found. -/
def answerMessage (row : MessageWithRecipients) : Phase :=
  if row.meetsContract then .returned (.message row) else .thrown .contract

/-- The next step of `createAssignment`. -/
def advanceCreate (siteScope : SiteScope)
    (input : CreateAssignmentInput) : Phase → Option (Db × Phase)
  | .started =>
    if !siteAllowed siteScope input.siteId then
      some (db, .thrown (.forbidden "Principal is not scoped to this site"))
    else if !db.directory.siteExistsInOrganisation principal.organisationId input.siteId then
      some (db, .thrown (.notFound "Site not found"))
    else some (db, .siteFound)
  | .siteFound =>
    if !db.directory.assigneeCanReceive principal.organisationId input.siteId input.assigneeUserId then
      some (db, .thrown (.badRequest "Assignee is not a field operative at this site"))
    else some (db, .assigneeFound)
  | .assigneeFound =>
    match input.incidentId with
    | none => some (db, .incidentFound)
    | some incidentId =>
      if !db.directory.incidentExists principal.organisationId input.siteId incidentId then
        some (db, .thrown (.badRequest "Incident is not in the caller organisation/site scope"))
      else some (db, .incidentFound)
  | .incidentFound =>
    match db.createAssignment principal input draw with
    -- the contract is asserted when the transaction has committed
    | .ok (row, db') => some (db', answerAssignment row)
    | .error .uniqueViolation => some (db, .keyTaken)
    | .error error => some (db, .thrown (.database error))
  | .keyTaken =>
    match db.findAssignmentByKey principal input with
    | none => some (db, .thrown (.database .uniqueViolation))
    | some existing => some (db, answerAssignment existing)
  | _ => none

/-- The next step of `recordState`. -/
def advanceRecord (siteScope : SiteScope) (input : StateUpdateInput) : Phase → Option (Db × Phase)
  | .started =>
    if !siteAllowed siteScope input.siteId then
      some (db, .thrown (.forbidden "Principal is not scoped to this site"))
    else if !db.directory.siteExistsInOrganisation principal.organisationId input.siteId then
      some (db, .thrown (.notFound "Site not found"))
    else
      let state := operativeState principal input draw.now
      if state.meetsContract then some (db, .received state) else some (db, .thrown .contract)
  | .received state =>
    match db.recordState state input.idempotencyKey draw with
    | .ok (current, db') => some (db', .returned (.state current))
    | .error error => some (db, .thrown (.database error))
  | _ => none

/-- The next step of `send`. -/
def advanceSend (siteScope : SiteScope)
    (incidentId : String) (input : SendMessageInput) : Phase → Option (Db × Phase)
  | .started =>
    match db.directory.findIncidentScope principal.organisationId incidentId with
    | none => some (db, .thrown (.notFound "Incident not found"))
    | some siteId =>
      if !siteAllowed siteScope siteId then some (db, .thrown (.notFound "Incident not found"))
      else some (db, .incidentScoped siteId)
  | .incidentScoped siteId =>
    if !db.directory.siteExistsInOrganisation principal.organisationId siteId then
      some (db, .thrown (.conflict "Incident is not eligible for Field messaging"))
    else
      match input.refusal with
      | some message => some (db, .thrown (.badRequest message))
      | none => some (db, .siteScoped siteId)
  | .siteScoped siteId =>
    match db.sendRefusal principal siteId incidentId input draw.now with
    | some exception => some (db, .thrown exception)
    | none => some (db, .sendable siteId)
  | .sendable siteId =>
    match db.send principal siteId incidentId input draw with
    -- the contract is asserted when the transaction has committed
    | .ok (row, db') => some (db', answerMessage row)
    | .error .uniqueViolation => some (db, .sendTaken)
    | .error error => some (db, .thrown (.database error))
  | .sendTaken =>
    match db.findMessageByKey principal incidentId input with
    | none => some (db, .thrown (.database .uniqueViolation))
    | some existing => some (db, answerMessage existing)
  | _ => none

/-- The next step of `acknowledge`. -/
def advanceAcknowledge (siteScope : SiteScope)
    (messageId idempotencyKey : String) : Phase → Option (Db × Phase)
  | .started =>
    match db.findNamed principal.organisationId messageId principal.userId siteScope with
    | none => some (db, .thrown (.notFound "Message not found"))
    | some _ => some (db, .named)
  | .named => some (db, .locked)
  | .locked =>
    match db.acknowledge messageId principal.userId idempotencyKey acknowledgeRequiresState draw with
    | .ok (result, db') => some (db', result.phase)
    | .error error => some (db, .thrown (.database error))
  | _ => none

/-- The next step of `handleMessage`; `receipt` is whether a socket of the recipient answers. -/
def advanceNotification (receipt : Bool) (subject : String)
    (raw : Option Json) : Phase → Option (Db × Phase)
  | .started =>
    match parseSubject subject, raw.bind projectNotification with
    | some (organisationId, recipientUserId), some (incidentId, messageId) =>
      some (db, .notified organisationId recipientUserId incidentId messageId)
    | _, _ => some (db, .returned .dropped)
  | .notified organisationId recipientUserId incidentId messageId =>
    if receipt then some (db, .receipted organisationId recipientUserId incidentId messageId)
    else some (db, .returned .dropped)
  | .receipted organisationId recipientUserId incidentId messageId =>
    match db.deliverable organisationId incidentId messageId recipientUserId with
    | none => some (db, .returned (.delivered false))
    | some read =>
      if canAdvance read then
        some (db, .deliverable organisationId recipientUserId incidentId messageId read)
      else some (db, .returned (.delivered false))
  | .deliverable _ recipientUserId _ messageId read =>
    some (db.deliver messageId recipientUserId read draw.now,
      .returned (.delivered
        ((db.findRecipient messageId recipientUserId).any (·.deliveryState = read))))
  | _ => none

/-- The next step of a call. -/
def Worker.advance (receipt : Bool) (worker : Worker) : Option (Db × Phase) :=
  match worker.call with
  | .createAssignment principal siteScope input =>
    advanceCreate db draw principal siteScope input worker.phase
  | .transitionAssignment principal siteScope assignmentId action input =>
    match worker.phase with
    | .started =>
      match db.transitionAssignment principal siteScope assignmentId action input draw with
      | none => some (db, .thrown .contract)
      | some (result, db') => some (db', result.phase)
    | _ => none
  | .recordState principal siteScope input =>
    advanceRecord db draw principal siteScope input worker.phase
  | .send principal siteScope incidentId input =>
    advanceSend db draw principal siteScope incidentId input worker.phase
  | .acknowledge principal siteScope messageId idempotencyKey =>
    advanceAcknowledge db draw principal siteScope messageId idempotencyKey worker.phase
  | .handleMessage subject raw => advanceNotification db draw receipt subject raw worker.phase

/-! ## Runs -/

structure State where
  db : Db
  workers : List Worker

/-- The recipient row that a call has locked. -/
def Worker.holds (worker : Worker) : Option (String × String) :=
  match worker.call, worker.phase with
  | .acknowledge principal _ messageId _, .locked => some (messageId, principal.userId)
  | _, _ => none

/-- The recipient row that a call is about to lock or to update. -/
def Worker.needs (worker : Worker) : Option (String × String) :=
  match worker.call, worker.phase with
  | .acknowledge principal _ messageId _, .named => some (messageId, principal.userId)
  | .handleMessage .., .deliverable _ recipientUserId _ messageId _ =>
    some (messageId, recipientUserId)
  | _, _ => none

/-- Another call has the row locked. -/
def State.blocks (s : State) (worker : Worker) : Bool :=
  worker.needs.isSome && s.workers.any fun other => other.holds = worker.needs

inductive Label
  | call (call : Call)
  | advance (i : Nat) (draw : Draw) (receipt : Bool)
  /-- The database or the process fails a call that is under way, and nothing of it is committed. -/
  | fail (i : Nat)
  /-- The rows of other modules change. -/
  | directory (directory : Directory)

def step (s : State) : Label → Option State
  | .call call => some { s with workers := s.workers ++ [⟨call, .started⟩] }
  | .advance i draw receipt =>
    (s.workers[i]?).bind fun worker =>
      if s.blocks worker then none
      else (worker.advance s.db draw receipt).map fun (db, phase) =>
        { db, workers := s.workers.set i ⟨worker.call, phase⟩ }
  | .fail i =>
    (s.workers[i]?).bind fun worker =>
      if worker.phase.isOpen then
        some { s with workers := s.workers.set i ⟨worker.call, .thrown .failure⟩ }
      else none
  | .directory directory => some { s with db := { s.db with directory } }

/-- A call that runs by itself: its steps one after the other, as many as it can take. -/
def Worker.alone (draw : Draw) (receipt : Bool) : Nat → Db → Worker → Db × Worker
  | 0, db, worker => (db, worker)
  | steps + 1, db, worker =>
    match worker.advance db draw receipt with
    | none => (db, worker)
    | some (db', phase) => alone draw receipt steps db' ⟨worker.call, phase⟩

/-- A database without Field rows. -/
def Db.empty (directory : Directory) : Db :=
  ⟨directory, [], [], [], [], [], [], [], [], [], [], [], []⟩

def State.initial (directory : Directory) : State := ⟨.empty directory, []⟩

end Sentinel.Field
