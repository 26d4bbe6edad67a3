import Mathlib.Data.List.Dedup
import Sentinel.ForStd.JsText

/-! # The evidence vault

`modules/evidence`: the operations of `EvidenceService`, one step for each call to the object store
and each database statement or transaction.  An operation that crashes, or whose call fails
uncaught, takes no step any more, whether or not the call took effect.  The hash of some content,
the canonical JSON of a snapshot, and how the database reads the text of a uuid are parameters. -/

namespace Sentinel.EvidenceVault

abbrev Content := List UInt8

/-! ## Records -/

inductive Classification
  | public' | internal | sensitive | restricted | evidence | secrets
deriving DecidableEq, Repr

inductive Actor
  | system
  | user (id : String)
deriving DecidableEq, Repr

/-- A row of `evidence`. -/
structure Evidence where
  id : String
  organisationId : String
  sourceId : String
  objectKey : String
  contentHash : String
  sizeBytes : Nat
  contentType : String
  classification : Classification
  derivedFromEvidenceId : Option String
  incidentId : Option String
  responseTaskId : Option String
  relatedEventIds : List String
  capturedAt : Int
  storedAt : Int
deriving DecidableEq, Repr

/-- The `action` of a custody line with its `detail`. -/
inductive Custody
  | ingested (sourceId contentType : String) (sizeBytes : Nat)
  /-- On the derived row: what it is derived from. -/
  | derivedFrom (transformLabel evidenceId : String)
  /-- On the original row: what is derived from it. -/
  | derivedInto (transformLabel evidenceId : String)
  | viewedMetadata
  | viewedContent (purpose : String)
  | verified (expectedHash actualHash : String)
  | verifyFailed (expectedHash actualHash : String)
deriving DecidableEq, Repr

/-- A row of `evidence_custody_events`. -/
structure CustodyEvent where
  evidenceId : String
  actor : Actor
  custody : Custody
deriving DecidableEq, Repr

/-- A row of `events`, as far as a snapshot looks it up. -/
structure Event where
  id : String
  eventId : String
  organisationId : String
  fields : String
deriving DecidableEq, Repr

structure IngestInput where
  organisationId : String
  sourceId : String
  content : Content
  contentType : String
  classification : Classification
  relatedEventIds : List String
  incidentId : Option String
  responseTaskId : Option String
  capturedAt : Option Int
  actor : Actor

structure DeriveInput where
  evidenceId : String
  organisationId : String
  transformLabel : String
  content : Content
  contentType : String
  classification : Option Classification
  actor : Actor

structure PreserveEventSnapshotInput where
  organisationId : String
  incidentId : String
  eventIds : List String
  actor : Actor
  responseTaskId : Option String

/-- A value of `undefined` or an empty text is falsy. -/
def truthy : Option String → Bool
  | none => false
  | some text => text ≠ ""

/-! ## The store and the table -/

/-- `EvidenceObjectStoreProvider.objectKeyFor`. -/
def objectKeyFor (organisationId evidenceId : String) : String :=
  organisationId ++ "/" ++ evidenceId

/-- `findById`; an id that is no uuid is an error of the database. -/
def findById (uuid : String → Option String) (rows : List Evidence) (id organisationId : String) :
    Option Evidence :=
  (uuid id).bind fun id =>
    rows.find? fun row => row.id = id ∧ row.organisationId = organisationId

/-- `findSnapshotForResponseTask`, with the response task as the database reads it. -/
def findSnapshotForResponseTask (rows : List Evidence)
    (organisationId incidentId responseTaskId : String) : Option Evidence :=
  ((rows.filter fun row => row.organisationId = organisationId ∧ row.incidentId = some incidentId ∧
    row.responseTaskId = some responseTaskId).insertionSort fun a b => a.storedAt ≤ b.storedAt).head?

/-- `UUID_PATTERN`. -/
def isUuid (text : String) : Bool :=
  let isHex (c : Char) : Bool := c.isDigit || ('a' ≤ c && c ≤ 'f') || ('A' ≤ c && c ≤ 'F')
  match text.toList.splitOn '-' with
  | [first, second, version :: third, variant :: fourth, fifth] =>
    first.length = 8 ∧ second.length = 4 ∧ third.length = 3 ∧ fourth.length = 3 ∧
      fifth.length = 12 ∧ first.all isHex ∧ second.all isHex ∧ '1' ≤ version ∧ version ≤ '5' ∧
      third.all isHex ∧ variant ∈ ['8', '9', 'a', 'b', 'A', 'B'] ∧ fourth.all isHex ∧ fifth.all isHex
  | _ => false

def findEventsByIds (events : List Event) (organisationId : String) (eventIds : List String) :
    List Event :=
  events.filter fun event => event.organisationId = organisationId ∧
    (event.eventId ∈ eventIds ∨ (event.id ∈ eventIds ∧ isUuid event.id))

/-- `byRequestedId.get(id)`: of the events under an id the last one. -/
def byRequestedId (events : List Event) (id : String) : Option Event :=
  events.reverse.find? fun event => event.id = id ∨ event.eventId = id

/-- A row that a unique index does not admit beside another: by id, object key or response task. -/
def clashes (row other : Evidence) : Bool :=
  row.id = other.id ∨ row.objectKey = other.objectKey ∨
    (row.responseTaskId.isSome ∧ row.responseTaskId = other.responseTaskId)

/-! ## Operations -/

/-- What an operation returns. -/
inductive Answer
  /-- The metadata of a row, of `getMetadata`. -/
  | metadata (row : Evidence)
  /-- The metadata of the row that `ingest` or `derive` has stored. -/
  | stored (row : Evidence)
  | snapshotId (id : String)
  /-- `VerifyResult`. -/
  | verification (evidenceId : String) (verified : Bool) (expectedHash actualHash : String)
      (checkedAt : Int)
  | content (row : Evidence) (content : Content)

/-- Whose `ingest` it is: the caller's own, or that of `preserveEventSnapshot`, which returns the id. -/
inductive Caller
  | service | snapshot
deriving DecidableEq, Repr

inductive Operation
  /-- `preserveEventSnapshot`, and where it has found no snapshot of its task. -/
  | preserveEventSnapshot (input : PreserveEventSnapshotInput)
  | snapshotMissing (input : PreserveEventSnapshotInput)
  /-- `ingest`, with the object stored, with a unique index violated, and with the row found that is
      already there. -/
  | ingest (caller : Caller) (input : IngestInput)
  | ingestStored (caller : Caller) (input : IngestInput) (evidenceId : String)
  | ingestConflict (caller : Caller) (input : IngestInput) (evidenceId : String)
  | ingestExisting (caller : Caller) (input : IngestInput) (evidenceId : String) (existing : Evidence)
  /-- `derive`, with the original found, the object stored, the row inserted, and its line written. -/
  | derive (input : DeriveInput)
  | deriveFound (input : DeriveInput) (original : Evidence)
  | deriveStored (input : DeriveInput) (original : Evidence) (evidenceId : String)
  | deriveInserted (input : DeriveInput) (original derived : Evidence)
  | deriveLogged (input : DeriveInput) (original derived : Evidence)
  /-- `verify`, with the row found, and the object hashed. -/
  | verify (evidenceId organisationId : String) (actor : Actor)
  | verifyFound (row : Evidence) (actor : Actor)
  | verifyHashed (row : Evidence) (actor : Actor) (actualHash : String)
  | getMetadata (evidenceId organisationId : String) (actor : Actor)
  | getMetadataFound (row : Evidence) (actor : Actor)
  /-- `downloadContent`, with the row found, and the object read. -/
  | downloadContent (evidenceId organisationId : String) (purpose : Option String) (actor : Actor)
  | downloadFound (row : Evidence) (purpose : String) (actor : Actor)
  | downloadRead (row : Evidence) (purpose : String) (actor : Actor) (content : Content)
  /-- Everything is written, and the answer is still to be returned. -/
  | returning (answer : Answer)
  | returned (answer : Answer)
  /-- An exception of its own. -/
  | thrown

def Operation.isCall : Operation → Bool
  | .preserveEventSnapshot _ | .ingest .service _ | .derive _ | .verify .. | .getMetadata ..
  | .downloadContent .. => true
  | _ => false

/-- The objects, the rows, the custody lines, the ids `randomUUID` has drawn, and the operations in the
    order they were called. -/
structure State where
  objects : String → Option Content
  rows : List Evidence
  custody : List CustodyEvent
  drawn : List String
  operations : List Operation

def State.initial : State := ⟨fun _ => none, [], [], [], []⟩

/-- What a step of an operation draws: an id, the time, the time of the database, the events there
    are, and the message of the object store where reading an object fails. -/
structure Draw where
  uuid : String
  now : Int
  storedAt : Int
  events : List Event
  fault : Option String

structure Runtime where
  sha256Hex : Content → String
  /-- The canonical JSON of a snapshot taken of some events. -/
  snapshotContent : PreserveEventSnapshotInput → Int → List Event → Content
  /-- How the database reads and prints the text of a uuid. -/
  uuid : String → Option String

inductive Label
  | call (operation : Operation)
  | advance (i : Nat) (draw : Draw)

section Steps

variable (runtime : Runtime)

def State.putObject (s : State) (objectKey : String) (content : Content) : State :=
  { s with objects := Function.update s.objects objectKey (some content) }

/-- `removeUncommittedObject`. -/
def State.removeObject (s : State) (objectKey : String) : State :=
  { s with objects := Function.update s.objects objectKey none }

/-- `createCustodyEvent`. -/
def State.log (s : State) (row : Evidence) (actor : Actor) (custody : Custody) : State :=
  { s with custody := s.custody ++ [⟨row.id, actor, custody⟩] }

def ingestRow (input : IngestInput) (evidenceId : String) (responseTaskId : Option String)
    (draw : Draw) : Evidence where
  id := evidenceId
  organisationId := input.organisationId
  sourceId := input.sourceId
  objectKey := objectKeyFor input.organisationId evidenceId
  contentHash := runtime.sha256Hex input.content
  sizeBytes := input.content.length
  contentType := input.contentType
  classification := input.classification
  derivedFromEvidenceId := none
  incidentId := input.incidentId
  responseTaskId := responseTaskId
  relatedEventIds := input.relatedEventIds
  capturedAt := input.capturedAt.getD draw.now
  storedAt := draw.storedAt

def deriveRow (input : DeriveInput) (original : Evidence) (evidenceId : String) (draw : Draw) :
    Evidence where
  id := evidenceId
  organisationId := input.organisationId
  sourceId := original.sourceId
  objectKey := objectKeyFor input.organisationId evidenceId
  contentHash := runtime.sha256Hex input.content
  sizeBytes := input.content.length
  contentType := input.contentType
  classification := input.classification.getD original.classification
  derivedFromEvidenceId := some original.id
  incidentId := original.incidentId
  responseTaskId := none
  relatedEventIds := original.relatedEventIds
  capturedAt := draw.now
  storedAt := draw.storedAt

def snapshotIngest (input : PreserveEventSnapshotInput) (now : Int) (requested : List Event) :
    IngestInput where
  organisationId := input.organisationId
  sourceId := if truthy input.responseTaskId then
    "system:event-snapshot:" ++ input.responseTaskId.getD "" else "system:event-snapshot"
  content := runtime.snapshotContent input now requested
  contentType := "application/json"
  classification := .evidence
  relatedEventIds := (requested.map (·.id)).reverse.dedup.reverse
  incidentId := some input.incidentId
  responseTaskId := input.responseTaskId
  capturedAt := none
  actor := input.actor

/-- What `ingest` returns, to its own caller or to `preserveEventSnapshot`. -/
def ingested (caller : Caller) (row : Evidence) : Answer :=
  match caller with
  | .service => .stored row
  | .snapshot => .snapshotId row.id

/-- The step of an operation: the state it leaves, and where the operation stands then. -/
def advance (s : State) (draw : Draw) : Operation → Option (State × Operation)
  | .preserveEventSnapshot input =>
    match input.responseTaskId with
    | some task =>
      if task = "" then some (s, .snapshotMissing input)
      else
        match runtime.uuid task with
        | none => some (s, .thrown)
        | some task =>
          match findSnapshotForResponseTask s.rows input.organisationId input.incidentId task with
          | some existing => some (s, .returning (.snapshotId existing.id))
          | none => some (s, .snapshotMissing input)
    | none => some (s, .snapshotMissing input)
  | .snapshotMissing input =>
    let events := findEventsByIds draw.events input.organisationId input.eventIds
    match input.eventIds.mapM (byRequestedId events) with
    | none => some (s, .thrown)
    | some requested => some (s, .ingest .snapshot (snapshotIngest runtime input draw.now requested))
  | .ingest caller input =>
    if isUuid draw.uuid ∧ draw.uuid ∉ s.drawn then
      some ({ s with drawn := draw.uuid :: s.drawn }.putObject
        (objectKeyFor input.organisationId draw.uuid) input.content,
        .ingestStored caller input draw.uuid)
    else none
  | .ingestStored caller input evidenceId =>
    match input.responseTaskId.mapM runtime.uuid with
    | none => some (s, .thrown)
    | some task =>
      let row := ingestRow runtime input evidenceId task draw
      if s.rows.any (clashes row) then
        if truthy input.responseTaskId ∧ truthy input.incidentId then
          some (s, .ingestConflict caller input evidenceId)
        else some (s, .thrown)
      else
        -- row and custody line are one transaction
        some ({ s with rows := s.rows ++ [row] }.log row input.actor
          (.ingested input.sourceId input.contentType input.content.length),
          .returning (ingested caller row))
  | .ingestConflict caller input evidenceId =>
    match (runtime.uuid (input.responseTaskId.getD "")).bind
        (findSnapshotForResponseTask s.rows input.organisationId (input.incidentId.getD "")) with
    | none => some (s, .thrown)
    | some existing => some (s, .ingestExisting caller input evidenceId existing)
  | .ingestExisting caller input evidenceId existing =>
    some (s.removeObject (objectKeyFor input.organisationId evidenceId),
      .returning (ingested caller existing))
  | .derive input =>
    match findById runtime.uuid s.rows input.evidenceId input.organisationId with
    | none => some (s, .thrown)
    | some original => some (s, .deriveFound input original)
  | .deriveFound input original =>
    if isUuid draw.uuid ∧ draw.uuid ∉ s.drawn then
      some ({ s with drawn := draw.uuid :: s.drawn }.putObject
        (objectKeyFor input.organisationId draw.uuid) input.content,
        .deriveStored input original draw.uuid)
    else none
  | .deriveStored input original evidenceId =>
    let derived := deriveRow runtime input original evidenceId draw
    if s.rows.any (clashes derived) then some (s, .thrown)
    else some ({ s with rows := s.rows ++ [derived] }, .deriveInserted input original derived)
  | .deriveInserted input original derived =>
    some (s.log derived input.actor (.derivedFrom input.transformLabel original.id),
      .deriveLogged input original derived)
  | .deriveLogged input original derived =>
    some (s.log original input.actor (.derivedInto input.transformLabel derived.id),
      .returning (.stored derived))
  | .verify evidenceId organisationId actor =>
    match findById runtime.uuid s.rows evidenceId organisationId with
    | none => some (s, .thrown)
    | some row => some (s, .verifyFound row actor)
  | .verifyFound row actor =>
    match draw.fault, s.objects row.objectKey with
    | some message, _ => some (s, .verifyHashed row actor ("ERROR: " ++ message))
    | none, some content => some (s, .verifyHashed row actor (runtime.sha256Hex content))
    -- an object that is not there is read with a message
    | none, none => none
  | .verifyHashed row actor actualHash =>
    if actualHash = row.contentHash then
      some (s.log row actor (.verified row.contentHash actualHash),
        .returning (.verification row.id true row.contentHash actualHash draw.now))
    else
      some (s.log row actor (.verifyFailed row.contentHash actualHash),
        .returning (.verification row.id false row.contentHash actualHash draw.now))
  | .getMetadata evidenceId organisationId actor =>
    match findById runtime.uuid s.rows evidenceId organisationId with
    | none => some (s, .thrown)
    | some row => some (s, .getMetadataFound row actor)
  | .getMetadataFound row actor =>
    some (s.log row actor .viewedMetadata, .returning (.metadata row))
  | .downloadContent evidenceId organisationId purpose actor =>
    match purpose with
    | none => some (s, .thrown)
    | some purpose =>
      if JsText.isBlank purpose then some (s, .thrown)
      else
        match findById runtime.uuid s.rows evidenceId organisationId with
        | none => some (s, .thrown)
        | some row => some (s, .downloadFound row purpose actor)
  | .downloadFound row purpose actor =>
    match s.objects row.objectKey with
    | none => some (s, .thrown)
    | some content => some (s, .downloadRead row purpose actor content)
  | .downloadRead row purpose actor content =>
    some (s.log row actor (.viewedContent purpose), .returning (.content row content))
  | .returning answer => some (s, .returned answer)
  | .returned _ | .thrown => none

/-- One step of the vault: an operation is called, or one that was called goes on. -/
def step (s : State) : Label → Option State
  | .call operation =>
    if operation.isCall then some { s with operations := s.operations ++ [operation] } else none
  | .advance i draw =>
    (s.operations[i]?.bind (advance runtime s draw)).map fun result =>
      { result.1 with operations := result.1.operations.set i result.2 }

end Steps

end Sentinel.EvidenceVault
