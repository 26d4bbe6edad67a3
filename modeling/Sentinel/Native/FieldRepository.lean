import Sentinel.Native.FieldTables

/-! # The Field transactions

The reads and the transactions of `FieldRepository` and `FieldMessagingRepository`
(`modules/field/field.repository.ts`, `modules/field-messaging/field-messaging.repository.ts`), each
as what it answers and what it commits.  A transaction that fails commits nothing. -/

namespace Sentinel.Field

open Events (Timestamp)
open FieldOffline (AssignmentStatus SiteScope)
open Incidents (DeliveryState canTransition)

/-- Why the database refuses a statement. -/
inductive DbError
  /-- `P2002`. -/
  | uniqueViolation
  | foreignKeyViolation
  /-- A whole number that a 32-bit column does not hold. -/
  | outOfRange
  /-- `findUniqueOrThrow` without a row. -/
  | notFound

/-- What a step draws: the ids and the instants that the database client makes up, and the time
    the process reads. -/
structure Draw where
  rowId : Uuid
  outboxId : Nat → Uuid
  now : Timestamp
  storedAt : Timestamp

/-- `siteAllowed`, and the site clause of the queries. -/
def siteAllowed (siteScope : SiteScope) (siteId : String) : Bool :=
  siteScope.orgWide || siteScope.siteIds.contains siteId

/-! ## Reads -/

def Directory.siteExistsInOrganisation (directory : Directory) (organisationId siteId : String) :
    Bool :=
  directory.sites.any fun site => site.id = siteId ∧ site.organisationId = organisationId

def Directory.assigneeCanReceive (directory : Directory) (organisationId siteId userId : String) :
    Bool :=
  directory.users.any fun user => user.id = userId ∧ user.organisationId = organisationId ∧
    user.roles.any fun assignment =>
      assignment.role = "field.operative" ∧ assignment.siteId = some siteId

def Directory.incidentExists (directory : Directory) (organisationId siteId incidentId : String) :
    Bool :=
  directory.incidents.any fun incident => incident.id = incidentId ∧
    incident.organisationId = organisationId ∧ incident.siteId = siteId

/-- `findIncidentScope`: the site of the incident. -/
def Directory.findIncidentScope (directory : Directory) (organisationId incidentId : String) :
    Option String :=
  (directory.incidents.find? fun incident => incident.id = incidentId ∧
    incident.organisationId = organisationId).map (·.siteId)

def operationalAssignmentStatuses : List AssignmentStatus := [.requested, .accepted, .inProgress]

/-- The roles that `roleHasAction` gives `field.message.send` and `field.message.read`. -/
def messageRoles : List String := ["site.commander", "dispatcher", "field.operative"]

def commandRoles : List String := ["site.commander", "dispatcher"]

variable (db : Db) (principal : Principal)

def Db.hasOperationalAssignment (organisationId siteId incidentId userId : String) : Bool :=
  db.assignments.any fun row => row.organisationId = organisationId ∧ row.siteId = siteId ∧
    row.incidentId = some incidentId ∧ row.assigneeUserId = userId ∧
    row.status ∈ operationalAssignmentStatuses

/-- `isEligibleSender` and `isEligibleRecipient` on what `loadEligibilityFacts` loads: one rule, as
    the same roles may send and read. -/
def Db.isEligible (organisationId siteId incidentId userId : String) : Bool :=
  match db.directory.users.find? fun user => user.id = userId ∧ user.organisationId = organisationId with
  | none => false
  | some user =>
    let qualifying := user.roles.filter fun assignment =>
      (assignment.siteId = none ∨ assignment.siteId = some siteId) ∧ assignment.role ∈ messageRoles
    qualifying ≠ [] &&
      (qualifying.any (·.role ∈ commandRoles) ||
        db.hasOperationalAssignment organisationId siteId incidentId userId)

/-! ## Assignments -/

def assignmentRow (input : CreateAssignmentInput) (draw : Draw) : FieldAssignment where
  id := draw.rowId.text
  organisationId := principal.organisationId
  siteId := input.siteId
  incidentId := input.incidentId
  assigneeUserId := input.assigneeUserId
  assignmentType := input.assignmentType
  priority := input.priority
  status := .requested
  deliveryState := .requested
  needToKnowSummary := input.needToKnowSummary
  idempotencyKey := input.idempotencyKey
  expiresAt := input.expiresAt.map (·.date)
  acceptedAt := none
  startedAt := none
  completedAt := none
  cancelledAt := none
  declinedAt := none
  createdByUserId := principal.userId
  updatedByUserId := principal.userId
  acceptedByUserId := none
  createdAt := draw.storedAt
  updatedAt := draw.storedAt

/-- The columns of `field_assignment_create_idem_key`. -/
def FieldAssignment.key (row : FieldAssignment) : String × String × String :=
  (row.organisationId, row.siteId, row.idempotencyKey)

/-- The transaction of `createAssignment`: the row with its audit and outbox rows. -/
def Db.createAssignment (input : CreateAssignmentInput)
    (draw : Draw) : Except DbError (FieldAssignment × Db) :=
  let row := assignmentRow principal input draw
  if !db.directory.siteExistsInOrganisation row.organisationId row.siteId then
    .error .foreignKeyViolation
  else if db.assignments.any fun other => other.id = row.id ∨ other.key = row.key then
    .error .uniqueViolation
  else
    .ok (row,
      { db with
        assignments := db.assignments ++ [row]
        audit := db.audit ++ [
          { organisationId := row.organisationId
            siteId := row.siteId
            assignmentId := some row.id
            actorUserId := principal.userId
            kind := "FIELD_ASSIGNMENT_CREATED"
            payload := .created row.id row.assigneeUserId row.incidentId }]
        outbox := db.outbox ++ [
          { id := (draw.outboxId 0).text
            organisationId := row.organisationId
            siteId := row.siteId
            kind := "FIELD_ASSIGNMENT_CREATED"
            payload := .assignment row.id
            createdAt := draw.storedAt
            publishedAt := none }] })

/-- The lookup of `createAssignment` after a unique violation. -/
def Db.findAssignmentByKey (input : CreateAssignmentInput) : Option FieldAssignment :=
  db.assignments.find? fun row =>
    row.key = (principal.organisationId, input.siteId, input.idempotencyKey)

inductive TransitionResult
  | updated (assignment : FieldAssignment)
  | duplicate (assignment : FieldAssignment)
  | noop (assignment : FieldAssignment)
  | notFound
  | forbidden
  | conflict (currentStatus : AssignmentStatus)

/-- The update of `transitionAssignment`. -/
def FieldAssignment.transitioned (row : FieldAssignment) (action : AssignmentAction)
    (actorUserId : String) (draw : Draw) : FieldAssignment :=
  { row with
    status := action.target
    updatedByUserId := actorUserId
    acceptedAt := if action = .accept then some draw.now else row.acceptedAt
    acceptedByUserId := if action = .accept then some actorUserId else row.acceptedByUserId
    deliveryState := if action = .accept then .acknowledged else row.deliveryState
    declinedAt := if action = .decline then some draw.now else row.declinedAt
    startedAt := if action = .start then some draw.now else row.startedAt
    completedAt := if action = .complete then some draw.now else row.completedAt
    cancelledAt := if action = .cancel then some draw.now else row.cancelledAt
    updatedAt := draw.storedAt }

/-- The transaction of `transitionAssignment`: the row is locked before it is decided on.  `none`
    where the contract refuses the row, which rolls the transaction back. -/
def Db.transitionAssignment (siteScope : SiteScope)
    (assignmentId : String) (action : AssignmentAction) (input : AssignmentActionInput)
    (draw : Draw) : Option (TransitionResult × Db) :=
  match db.assignments.find? fun row => row.id = assignmentId ∧
      row.organisationId = principal.organisationId ∧ siteAllowed siteScope row.siteId with
  | none => some (.notFound, db)
  | some current =>
    if action ≠ .cancel ∧ current.assigneeUserId ≠ principal.userId then some (.forbidden, db)
    else if db.assignmentActions.any fun row => row.assignmentId = current.id ∧
        row.action = action ∧ row.idempotencyKey = input.idempotencyKey then
      some (.duplicate current, db)
    else if current.status = action.target then some (.noop current, db)
    else if current.status ≠ input.expectedStatus ∨
        !canTransitionFieldAssignmentStatus current.status action.target then
      some (.conflict current.status, db)
    else
      let updated := current.transitioned action principal.userId draw
      let kind := "FIELD_ASSIGNMENT_" ++ statusText action.target
      if updated.meetsContract then
        some (.updated updated,
          { db with
            assignments := Table.rewrite (·.id = current.id)
              (·.transitioned action principal.userId draw) db.assignments
            assignmentActions := db.assignmentActions ++ [
              ⟨current.id, action, input.idempotencyKey, principal.userId⟩]
            audit := db.audit ++ [
              { organisationId := current.organisationId
                siteId := current.siteId
                assignmentId := some current.id
                actorUserId := principal.userId
                kind
                payload := .transition current.id current.status action.target action }]
            outbox := db.outbox ++ [
              { id := (draw.outboxId 0).text
                organisationId := current.organisationId
                siteId := current.siteId
                kind
                payload := .assignment current.id
                createdAt := draw.storedAt
                publishedAt := none }] })
      else none

/-! ## Operative states -/

/-- The largest number of an `Int` column. -/
def maxInt : Nat := 2147483647

def OperativeState.isOf (state : OperativeState) (organisationId siteId userId : String) : Bool :=
  state.organisationId = organisationId ∧ state.siteId = siteId ∧ state.userId = userId

/-- The row of `recordState` for the history, from the input and the instant of its receipt. -/
def operativeState (input : StateUpdateInput) (receivedAt : Timestamp) : OperativeState where
  organisationId := principal.organisationId
  siteId := input.siteId
  userId := principal.userId
  deviceId := input.deviceId
  state := input.state
  location := input.location
  sourceAt := input.sourceAt.date
  receivedAt := receivedAt
  clientFreshnessMs := input.freshnessMs
  authoritativeFreshnessMs := (receivedAt.ms - input.sourceAt.ms).toNat
  traceId := input.traceId

/-- The upsert of `recordState`. -/
def upsertState (states : List CurrentState) (state : OperativeState) (draw : Draw) :
    List CurrentState :=
  if states.any (·.isOf state.organisationId state.siteId state.userId) then
    states.map fun current =>
      if current.isOf state.organisationId state.siteId state.userId then
        { current with toOperativeState := state, updatedAt := draw.storedAt }
      else current
  else states ++ [{ toOperativeState := state, id := draw.rowId.text, updatedAt := draw.storedAt }]

def Db.findCurrentState (organisationId siteId userId : String) : Option CurrentState :=
  db.currentStates.find? (·.isOf organisationId siteId userId)

/-- The transaction of `recordState`. -/
def Db.recordState (state : OperativeState) (idempotencyKey : String) (draw : Draw) :
    Except DbError (CurrentState × Db) :=
  let identity : StateUpdateRow :=
    ⟨state.organisationId, state.siteId, state.userId, state.deviceId, idempotencyKey⟩
  if identity ∈ db.stateUpdates then
    match db.findCurrentState state.organisationId state.siteId state.userId with
    | none => .error .notFound
    | some current => .ok (current, db)
  else if maxInt < state.clientFreshnessMs ∨ maxInt < state.authoritativeFreshnessMs then
    .error .outOfRange
  else if !db.directory.siteExistsInOrganisation state.organisationId state.siteId then
    .error .foreignKeyViolation
  else
    let currentStates := upsertState db.currentStates state draw
    match currentStates.find? (·.isOf state.organisationId state.siteId state.userId) with
    | none => .error .notFound
    | some current =>
      .ok (current,
        { db with
          currentStates
          stateHistory := db.stateHistory ++ [state]
          stateUpdates := db.stateUpdates ++ [identity]
          audit := db.audit ++ [
            { organisationId := state.organisationId
              siteId := state.siteId
              assignmentId := none
              actorUserId := state.userId
              kind := "FIELD_STATE_UPDATED"
              payload := .state state.userId state.state state.sourceAt state.receivedAt }]
          outbox := db.outbox ++ [
            { id := (draw.outboxId 0).text
              organisationId := state.organisationId
              siteId := state.siteId
              kind := "FIELD_STATE_UPDATED"
              payload := .state state.userId
              createdAt := draw.storedAt
              publishedAt := none }] })

/-! ## Messages -/

def messageRow (siteId incidentId : String) (input : SendMessageInput)
    (id : String) (sentAt : Timestamp) : FieldMessage where
  id := id
  organisationId := principal.organisationId
  siteId := siteId
  incidentId := incidentId
  senderUserId := principal.userId
  body := input.body
  mediaRefs := input.mediaRefs
  retentionClass := input.retentionClass
  sentAt := sentAt
  expiresAt := input.expiresAt.map (·.date)
  idempotencyKey := input.idempotencyKey
  traceId := input.traceId

/-- The columns of `incident_field_message_sender_idem_key`. -/
def FieldMessage.key (message : FieldMessage) : String × String × String × String :=
  (message.organisationId, message.incidentId, message.senderUserId, message.idempotencyKey)

/-- `include: { recipients: true }`. -/
def Db.withRecipients (message : FieldMessage) : MessageWithRecipients where
  message := message
  recipients := db.recipients.filter (·.messageId = message.id)

/-- The transaction of `send`: the message with its recipients, a timeline entry, and one outbox row
    for each recipient. -/
def Db.send (siteId incidentId : String)
    (input : SendMessageInput) (draw : Draw) : Except DbError (MessageWithRecipients × Db) :=
  let message := messageRow principal siteId incidentId input draw.rowId.text draw.storedAt
  if !(db.directory.siteExistsInOrganisation message.organisationId message.siteId &&
      db.directory.incidentExists message.organisationId message.siteId message.incidentId) then
    .error .foreignKeyViolation
  else if db.messages.any fun other => other.id = message.id ∨ other.key = message.key then
    .error .uniqueViolation
  else
    let db' : Db :=
      { db with
        messages := db.messages ++ [message]
        recipients := db.recipients ++ input.recipientUserIds.map fun recipientUserId =>
          { messageId := message.id
            organisationId := message.organisationId
            siteId := message.siteId
            recipientUserId
            deliveryState := .requested
            deliveredAt := none
            acknowledgedAt := none }
        timeline := db.timeline ++ [
          { incidentId := message.incidentId
            actorUserId := message.senderUserId
            messageId := message.id
            kind := .messageSent input.recipientUserIds.length message.retentionClass
              message.traceId }]
        messageOutbox := db.messageOutbox ++ input.recipientUserIds.zipIdx.map fun (user, i) =>
          { id := (draw.outboxId i).text
            organisationId := message.organisationId
            siteId := message.siteId
            recipientUserId := user
            incidentId := message.incidentId
            messageId := message.id
            createdAt := draw.storedAt
            publishedAt := none } }
    .ok (db'.withRecipients message, db')

/-- The lookup of `send` after a unique violation. -/
def Db.findMessageByKey (incidentId : String)
    (input : SendMessageInput) : Option MessageWithRecipients :=
  (db.messages.find? fun message => message.key =
    (principal.organisationId, incidentId, principal.userId, input.idempotencyKey)).map
      db.withRecipients

/-! ## Delivery -/

def Db.findRecipient (messageId recipientUserId : String) : Option Recipient :=
  db.recipients.find? fun row => row.messageId = messageId ∧ row.recipientUserId = recipientUserId

/-- The read of `recordTransportDelivery`: the state of the row the notification names, with the
    parent message in the same organisation and incident. -/
def Db.deliverable (organisationId incidentId messageId recipientUserId : String) :
    Option DeliveryState :=
  (db.recipients.find? fun row => row.messageId = messageId ∧
    row.recipientUserId = recipientUserId ∧ row.organisationId = organisationId ∧
      db.messages.any fun message => message.id = messageId ∧
        message.organisationId = organisationId ∧ message.incidentId = incidentId).map
          (·.deliveryState)

/-- A row that has left the state is not stamped again. -/
def canAdvance (state : DeliveryState) : Bool :=
  state ≠ .delivered && canTransition state .delivered

/-- The update of `recordTransportDelivery`, guarded by the state that was read. -/
def Db.deliver (messageId recipientUserId : String) (read : DeliveryState) (at' : Timestamp) : Db :=
  { db with
    recipients := Table.rewrite
      (fun row => row.messageId = messageId ∧ row.recipientUserId = recipientUserId ∧
        row.deliveryState = read)
      (fun row => { row with deliveryState := .delivered, deliveredAt := some at' }) db.recipients }

inductive AcknowledgeResult
  | acknowledged (message : MessageWithRecipients)
  | duplicate (message : MessageWithRecipients)
  | notRecipient
  | conflict (currentState : DeliveryState)

/-- The first reads of `acknowledge`: the message in the scope, with a row of the recipient. -/
def Db.findNamed (organisationId messageId recipientUserId : String)
    (siteScope : SiteScope) : Option Recipient :=
  (db.messages.find? fun message => message.id = messageId ∧
    message.organisationId = organisationId ∧ siteAllowed siteScope message.siteId).bind fun message =>
      (db.withRecipients message).recipients.find? (·.recipientUserId = recipientUserId)

/-- `acknowledge` from the lock on: the row is read again, and everything is decided on what is read
    behind the lock. -/
def Db.acknowledge (messageId recipientUserId idempotencyKey : String)
    (requiredState : DeliveryState) (draw : Draw) : Except DbError (AcknowledgeResult × Db) :=
  match db.messages.find? (·.id = messageId) with
  | none => .error .notFound
  | some message =>
    let current := db.withRecipients message
    match current.recipients.find? (·.recipientUserId = recipientUserId) with
    | none => .ok (.notRecipient, db)
    | some locked =>
      if ⟨messageId, recipientUserId, idempotencyKey⟩ ∈ db.acknowledgements then
        .ok (.duplicate current, db)
      else if locked.deliveryState = .acknowledged then .ok (.duplicate current, db)
      else if locked.deliveryState ≠ requiredState then
        .ok (.conflict locked.deliveryState, db)
      else
        let db' : Db :=
          { db with
            recipients := Table.rewrite
              (fun row => row.messageId = messageId ∧ row.recipientUserId = recipientUserId)
              (fun row =>
                { row with deliveryState := .acknowledged, acknowledgedAt := some draw.now })
              db.recipients
            acknowledgements := db.acknowledgements ++ [⟨messageId, recipientUserId, idempotencyKey⟩]
            timeline := db.timeline ++ [
              { incidentId := message.incidentId
                actorUserId := recipientUserId
                messageId
                kind := .messageAcknowledged draw.now }]
            messageOutbox := db.messageOutbox ++ [
              { id := (draw.outboxId 0).text
                organisationId := message.organisationId
                siteId := message.siteId
                recipientUserId
                incidentId := message.incidentId
                messageId
                createdAt := draw.storedAt
                publishedAt := none }] }
        .ok (.acknowledged (db'.withRecipients message), db')

end Sentinel.Field
