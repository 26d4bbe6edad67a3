import Sentinel.ForStd.JsDate
import Sentinel.ForStd.Table
import Sentinel.Native.CanonicalJson
import Sentinel.Native.FusionRules

/-! # Stored events

The normalised event of `packages/contracts/src/event.ts`, the row it is stored as and the event
that is rebuilt from the row (`modules/events/events.mapper.ts`), and the statements of
`modules/events/events.repository.ts` on the table. -/

namespace Sentinel.Events

open CanonicalJson (Json)
open Fusion (SourceType SourceTrust)

/-! ## Instants -/

/-- A text that `z.string().datetime()` accepts, with the instant it denotes. -/
structure Instant where
  text : String
  ms : Int
  reads : JsDate.parse text = some ms

/-- A `Timestamptz(3)` of the years the contract can name. -/
structure Timestamp where
  ms : Int
  bounds : -62167219200000 ≤ ms ∧ ms < 253402300800000
deriving DecidableEq

/-- `new Date(text)`. -/
def Instant.date (instant : Instant) : Timestamp := ⟨instant.ms, JsDate.parse_bounds instant.reads⟩

def Timestamp.toISOString (timestamp : Timestamp) : Instant :=
  ⟨JsText.toISOString timestamp.ms, timestamp.ms, JsDate.parse_toISOString timestamp.bounds⟩

/-! ## Events -/

/-- `NormalisedEvent`, as its schema accepts it; `zone_id` can be absent or null. -/
structure NormalisedEvent where
  eventId : String
  organisationId : String
  siteId : String
  zoneId : Option (Option String)
  sourceType : SourceType
  sourceId : String
  sourceTrust : SourceTrust
  eventType : String
  confidence : ℚ
  occurredAt : Instant
  ingestedAt : Instant
  location : Json
  trackIds : List String
  evidenceRefs : List String
  metadata : Json
  traceId : String
  ordered : occurredAt.ms ≤ ingestedAt.ms

/-- `MAX_TRACK_IDS` and `MAX_EVIDENCE_REFS`. -/
def maxRefs : Nat := 1024

def maxRefStringLength : Nat := 512

def maxMetadataBytes : Nat := 64 * 1024

def maxLocationBytes : Nat := 16 * 1024

/-- `serializedByteLength` of an object, which a `z.record` is. -/
def serializedByteLength : Json → Option Nat
  | .object members =>
    some (String.ofList
      (JsonText.print (JsonText.Quoting.plain Char) (.object members))).utf8ByteSize
  | _ => none

/-- `z.array(z.string().max(MAX_REF_STRING_LENGTH)).max(MAX_TRACK_IDS)`. -/
def refsAccepted (refs : List String) : Bool :=
  refs.length ≤ maxRefs &&
    refs.all fun ref => (ref.toList.flatMap JsText.codeUnits).length ≤ maxRefStringLength

/-- What `NormalisedEventSchema` asks of an event beyond the types of its fields. -/
def NormalisedEvent.accepted (event : NormalisedEvent) : Bool :=
  ['e', 'v', 't', '_'].isPrefixOf event.eventId.toList &&
    event.organisationId ≠ "" && event.siteId ≠ "" && event.sourceId ≠ "" &&
    event.eventType ≠ "" && 0 ≤ event.confidence && event.confidence ≤ 1 &&
    (serializedByteLength event.location).any (· ≤ maxLocationBytes) &&
    refsAccepted event.trackIds && refsAccepted event.evidenceRefs &&
    (serializedByteLength event.metadata).any (· ≤ maxMetadataBytes) && event.traceId ≠ ""

/-- The key of a member that is exactly `true`. -/
def trueKey : List Char × Json → Option String
  | (key, .literal ['t', 'r', 'u', 'e']) => some (String.ofList key)
  | _ => none

/-- The members of an object that are exactly `true`. -/
def trueMembers : Json → List String
  | .object members => members.filterMap trueKey
  | _ => []

def NormalisedEvent.toFusion (event : NormalisedEvent) : Fusion.NormalisedEvent where
  eventId := event.eventId
  organisationId := event.organisationId
  siteId := event.siteId
  zoneId := event.zoneId.join
  sourceType := event.sourceType
  sourceId := event.sourceId
  sourceTrust := event.sourceTrust
  eventType := event.eventType
  confidence := event.confidence
  occurredAt := event.occurredAt.ms
  metadata := trueMembers event.metadata

def idempotencyWindowMs : Int := 5000

def deriveIdempotencyKey (organisationId siteId sourceId sourceEventId : String) (epochMs : Int) :
    String :=
  s!"{organisationId}:{siteId}:{sourceId}:{sourceEventId}:{epochMs / idempotencyWindowMs}"

def NormalisedEvent.idempotencyKey (event : NormalisedEvent) : String :=
  deriveIdempotencyKey event.organisationId event.siteId event.sourceId event.eventId
    event.occurredAt.ms

/-! ## Rows -/

/-- `EventRowData`: the columns that an insert takes from the event. -/
structure EventRowData where
  eventId : String
  schemaVersion : Nat
  organisationId : String
  siteId : String
  zoneId : Option String
  sourceType : SourceType
  sourceId : String
  sourceTrust : SourceTrust
  eventType : String
  confidence : ℚ
  occurredAt : Timestamp
  ingestedAt : Timestamp
  location : Json
  trackIds : List String
  evidenceRefs : List String
  metadata : Json
  traceId : String
  ordered : occurredAt.ms ≤ ingestedAt.ms

/-- What a JSONB column gives back of a value. -/
structure Platform where
  jsonb : Json → Json

/-- `mapNormalisedEventToRow`, as the row comes back from the store. -/
def mapNormalisedEventToRow (platform : Platform) (event : NormalisedEvent) : EventRowData where
  eventId := event.eventId
  schemaVersion := 1
  organisationId := event.organisationId
  siteId := event.siteId
  zoneId := event.zoneId.join
  sourceType := event.sourceType
  sourceId := event.sourceId
  sourceTrust := event.sourceTrust
  eventType := event.eventType
  confidence := event.confidence
  occurredAt := event.occurredAt.date
  ingestedAt := event.ingestedAt.date
  location := platform.jsonb event.location
  trackIds := event.trackIds
  evidenceRefs := event.evidenceRefs
  metadata := platform.jsonb event.metadata
  traceId := event.traceId
  ordered := event.ordered

structure EventRow where
  id : String
  data : EventRowData
  idempotencyKey : Option String
  duplicateOfEventId : Option String
  receivedCount : Nat
  publishedAt : Option Int
  createdAt : Int

def mapRowToNormalisedEvent (row : EventRow) : NormalisedEvent where
  eventId := row.data.eventId
  organisationId := row.data.organisationId
  siteId := row.data.siteId
  zoneId := some row.data.zoneId
  sourceType := row.data.sourceType
  sourceId := row.data.sourceId
  sourceTrust := row.data.sourceTrust
  eventType := row.data.eventType
  confidence := row.data.confidence
  occurredAt := row.data.occurredAt.toISOString
  ingestedAt := row.data.ingestedAt.toISOString
  location := row.data.location
  trackIds := row.data.trackIds
  evidenceRefs := row.data.evidenceRefs
  metadata := row.data.metadata
  traceId := row.data.traceId
  ordered := row.data.ordered

structure StoredEventResponse where
  event : NormalisedEvent
  id : String
  receivedCount : Nat
  publishedAt : Option String

def toStoredEventResponse (row : EventRow) : StoredEventResponse where
  event := mapRowToNormalisedEvent row
  id := row.id
  receivedCount := row.receivedCount
  publishedAt := row.publishedAt.map JsText.toISOString

/-! ## Statements -/

/-- The identifier and the time that an insert takes. -/
structure Stamp where
  id : String
  now : Int

/-- The row of the canonical-key unique index. -/
def EventRow.isCanonical (organisationId key : String) (row : EventRow) : Bool :=
  row.data.organisationId = organisationId ∧ row.idempotencyKey = some key

def findByIdempotencyKey (rows : List EventRow) (organisationId key : String) : Option EventRow :=
  rows.find? (·.isCanonical organisationId key)

/-- Why an insert throws. -/
inductive InsertError
  | idempotencyKeyConflict
  | other

/-- `createCanonical`: the rows with the new one, and the new one. -/
def createCanonical (platform : Platform) (rows : List EventRow) (event : NormalisedEvent)
    (idempotencyKey : String) (stamp : Stamp) : Except InsertError (List EventRow × EventRow) :=
  if rows.any (·.id = stamp.id) then .error .other
  else if rows.any (·.isCanonical event.organisationId idempotencyKey) then
    .error .idempotencyKeyConflict
  else
    let row : EventRow :=
      { id := stamp.id, data := mapNormalisedEventToRow platform event
        idempotencyKey := some idempotencyKey, duplicateOfEventId := none, receivedCount := 1
        publishedAt := none, createdAt := stamp.now }
    .ok (rows ++ [row], row)

/-- The increment of `receivedCount`. -/
def EventRow.received (row : EventRow) : EventRow := { row with receivedCount := row.receivedCount + 1 }

def recordDuplicateDelivery (platform : Platform) (rows : List EventRow) (canonicalId : String)
    (event : NormalisedEvent) (stamp : Stamp) : Option (List EventRow) :=
  if rows.any (·.id = stamp.id) ∨ !rows.any (·.id = canonicalId) then none
  else
    let duplicate : EventRow :=
      { id := stamp.id, data := mapNormalisedEventToRow platform event, idempotencyKey := none
        duplicateOfEventId := some canonicalId, receivedCount := 1, publishedAt := none
        createdAt := stamp.now }
    some (Table.rewrite (·.id = canonicalId) EventRow.received (rows ++ [duplicate]))

def markPublished (rows : List EventRow) (id : String) (publishedAt : Int) :
    Option (List EventRow) :=
  if rows.any (·.id = id) then
    some (Table.rewrite (·.id = id) (fun row => { row with publishedAt := some publishedAt }) rows)
  else none

def findUnpublishedOlderThan (rows : List EventRow) (cutoff : Int) (limit : Nat) : List EventRow :=
  ((rows.filter fun row =>
      row.publishedAt = none ∧ row.duplicateOfEventId = none ∧ row.createdAt < cutoff).insertionSort
    fun a b => a.createdAt ≤ b.createdAt).take limit

end Sentinel.Events
