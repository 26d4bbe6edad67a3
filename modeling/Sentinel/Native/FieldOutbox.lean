import Sentinel.Native.FieldTables

/-! # The Field outbox publishers

`FieldOutboxPublisher.sweep` and `FieldMessagingOutboxPublisher.sweep`
(`modules/field/field-outbox.publisher.ts`,
`modules/field-messaging/field-messaging-outbox.publisher.ts`): one sweep, over the rows of either
outbox.  Any number of processes sweep at once, while rows are inserted; a sweep takes a step for each
row it publishes or passes over, and one for each row it marks. -/

namespace Sentinel.FieldOutbox

open Events (Timestamp isSafeSubjectToken)
open Sentinel.Field (OutboxRow OutboxPayload MessageOutboxRow)

/-- What a publisher reads of a row of its outbox, and what it writes. -/
structure Publisher (Row Payload : Type) where
  id : Row → String
  payload : Row → Payload
  createdAt : Row → Timestamp
  publishedAt : Row → Option Timestamp
  /-- The dynamic tokens of the subject. -/
  scope : Row → String × String
  subjectPrefix : String
  markPublished : Timestamp → Row → Row
  id_mark : ∀ now row, id (markPublished now row) = id row
  payload_mark : ∀ now row, payload (markPublished now row) = payload row
  createdAt_mark : ∀ now row, createdAt (markPublished now row) = createdAt row
  publishedAt_mark : ∀ now row, publishedAt (markPublished now row) = some now
  scope_mark : ∀ now row, scope (markPublished now row) = scope row

def fieldOutboxPublisher : Publisher OutboxRow (String × OutboxPayload × String × String) where
  id := (·.id)
  payload row := (row.kind, row.payload, row.organisationId, row.siteId)
  createdAt := (·.createdAt)
  publishedAt := (·.publishedAt)
  scope row := (row.organisationId, row.siteId)
  subjectPrefix := "sentinel.field.updated"
  markPublished now row := { row with publishedAt := some now }
  id_mark _ _ := rfl
  payload_mark _ _ := rfl
  createdAt_mark _ _ := rfl
  publishedAt_mark _ _ := rfl
  scope_mark _ _ := rfl

def fieldMessagingOutboxPublisher : Publisher MessageOutboxRow (String × String × String) where
  id := (·.id)
  payload row := ("incident_field_message.updated", row.incidentId, row.messageId)
  createdAt := (·.createdAt)
  publishedAt := (·.publishedAt)
  scope row := (row.organisationId, row.recipientUserId)
  subjectPrefix := "sentinel.field.message.updated"
  markPublished now row := { row with publishedAt := some now }
  id_mark _ _ := rfl
  payload_mark _ _ := rfl
  createdAt_mark _ _ := rfl
  publishedAt_mark _ _ := rfl
  scope_mark _ _ := rfl

/-- A message of the bus, with the row it was published for. -/
structure Publication (Payload : Type) where
  rowId : String
  subject : String
  payload : Payload

/-- The outbox, and what has been published. -/
structure Tables (Row Payload : Type) where
  rows : List Row
  bus : List (Publication Payload)

namespace Publisher

variable {Row Payload : Type} (publisher : Publisher Row Payload)

/-- `publishedAt: null`. -/
def isPending (row : Row) : Bool := (publisher.publishedAt row).isNone

/-- Both tokens of the subject are safe. -/
def isSafe (row : Row) : Bool :=
  isSafeSubjectToken (publisher.scope row).1 && isSafeSubjectToken (publisher.scope row).2

/-- `nc.publish` for a row of a safe scope. -/
def publication (row : Row) : Publication Payload where
  rowId := publisher.id row
  subject := publisher.subjectPrefix ++ "." ++ (publisher.scope row).1 ++ "." ++ (publisher.scope row).2
  payload := publisher.payload row

/-- The rows of the query, in an order in which the database may return them: by creation, and rows
    created at once in any order. -/
def IsOrder (rows ordered : List Row) : Prop :=
  ordered.Perm (rows.filter publisher.isPending) ∧
    ordered.Pairwise fun a b => (publisher.createdAt a).ms ≤ (publisher.createdAt b).ms

/-- The `updateMany` that marks a row which is still unpublished. -/
def mark (now : Timestamp) (row : Row) (rows : List Row) : List Row :=
  Table.rewrite (fun other => publisher.id other = publisher.id row ∧ publisher.isPending other)
    (publisher.markPublished now) rows

/-! ## A sweep that nothing disturbs -/

/-- The loop of `sweep` while the bus accepts every publish. -/
def sweep (now : Timestamp) : List Row → Tables Row Payload → Tables Row Payload
  | [], tables => tables
  | row :: batch, tables =>
    -- a row of an unsafe scope is passed over, and stays unpublished
    if publisher.isSafe row then
      sweep now batch
        { rows := publisher.mark now row tables.rows
          bus := tables.bus ++ [publisher.publication row] }
    else sweep now batch tables

/-- Sweeps one after the other, each of the first `limit` rows that the database returns. -/
def sweeps (limit : Nat) (order : Nat → List Row → List Row) (now : Nat → Timestamp)
    (tables : Tables Row Payload) : Nat → Tables Row Payload
  | 0 => tables
  | n + 1 =>
    let before := sweeps limit order now tables n
    publisher.sweep (now n) ((order n before.rows).take limit) before

end Publisher

/-! ## Sweeps at once -/

/-- A sweep: the rows of its batch that are left, and the one it has published and not yet marked. -/
structure Sweep (Row : Type) where
  left : List Row
  flushed : Option Row

structure State (Row Payload : Type) where
  tables : Tables Row Payload
  sweeps : List (Sweep Row)

def State.initial (Row Payload : Type) : State Row Payload := ⟨⟨[], []⟩, []⟩

inductive Label (Row : Type)
  /-- Any module inserts a row. -/
  | insert (row : Row)
  /-- A sweep reads its batch of what the database returns. -/
  | start (ordered : List Row)
  /-- Sweep `i` publishes its next row or passes over it; the bus accepts the publish or not. -/
  | publish (i : Nat) (accepted : Bool)
  /-- Sweep `i` marks the row it has published, or fails to. -/
  | mark (i : Nat) (now : Timestamp) (marked : Bool)

variable {Row Payload : Type} [DecidableEq Row]

instance (publisher : Publisher Row Payload) (rows ordered : List Row) :
    Decidable (publisher.IsOrder rows ordered) :=
  inferInstanceAs (Decidable (_ ∧ _))

def step (publisher : Publisher Row Payload) (limit : Nat) (s : State Row Payload) :
    Label Row → Option (State Row Payload)
  | .insert row =>
    if publisher.isPending row ∧ ∀ other ∈ s.tables.rows, publisher.id other ≠ publisher.id row then
      some { s with tables := { s.tables with rows := s.tables.rows ++ [row] } }
    else none
  | .start ordered =>
    if publisher.IsOrder s.tables.rows ordered then
      some { s with sweeps := s.sweeps ++ [⟨ordered.take limit, none⟩] }
    else none
  | .publish i accepted =>
    match s.sweeps[i]? with
    | some ⟨row :: left, none⟩ =>
      if !publisher.isSafe row then some { s with sweeps := s.sweeps.set i ⟨left, none⟩ }
      else if accepted then
        some
          { tables := { s.tables with bus := s.tables.bus ++ [publisher.publication row] }
            sweeps := s.sweeps.set i ⟨left, some row⟩ }
      -- the first publish that fails ends the sweep
      else some { s with sweeps := s.sweeps.set i ⟨[], none⟩ }
    | _ => none
  | .mark i now marked =>
    match s.sweeps[i]? with
    | some ⟨left, some row⟩ =>
      if marked then
        some
          { tables := { s.tables with rows := publisher.mark now row s.tables.rows }
            sweeps := s.sweeps.set i ⟨left, none⟩ }
      else some { s with sweeps := s.sweeps.set i ⟨[], none⟩ }
    | _ => none

end Sentinel.FieldOutbox
