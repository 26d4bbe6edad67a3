import Sentinel.Native.Events

/-! # Ingest and the publish sweep

`EventsService.ingest` and `EventsPublishSweepService.sweep` against one table and one stream.  A
delivery and a sweep are each a list of awaited operations, and every operation is a step, so any
of the others can come in between; one that takes no more steps has crashed. -/

namespace Sentinel.Events

/-! ## Publishing -/

def isSafeSubjectToken (value : String) : Bool :=
  1 ≤ value.length ∧ value.length ≤ 256 ∧
    value.toList.all fun c => c.isAlphanum || ['_', ':', '-'].contains c

/-- What becomes of a publish: the stream takes the message and says so, takes it without the
    publisher learning of it, or does not take it. -/
inductive Reception
  | confirmed | unconfirmed | refused

/-- A message that the stream took, and whether its publisher was told. -/
structure Message where
  msgId : String
  payload : NormalisedEvent
  acknowledged : Bool

/-- `tryPublish`: whether it succeeded, and the stream after it. -/
def tryPublish (stream : List Message) (reception : Reception) (id : String)
    (event : NormalisedEvent) : Bool × List Message :=
  if !isSafeSubjectToken event.organisationId || !isSafeSubjectToken event.siteId then
    (false, stream)
  else
    match reception with
    | .confirmed => (true, stream ++ [⟨id, event, true⟩])
    | .unconfirmed => (false, stream ++ [⟨id, event, false⟩])
    | .refused => (false, stream)

/-! ## Ingest -/

inductive IngestResult
  | duplicate (originalEventId : String)
  | created (event : StoredEventResponse)

/-- Where a delivery stands. -/
inductive Worker
  | received (event : NormalisedEvent)
  | inserting (event : NormalisedEvent)
  | rereading (event : NormalisedEvent)
  | linking (event : NormalisedEvent) (canonicalId originalEventId : String)
  | publishing (event : NormalisedEvent) (canonical : EventRow)
  | marking (event : NormalisedEvent) (canonical : EventRow)
  /-- With the row it has written. -/
  | finished (event : NormalisedEvent) (rowId : String) (result : IngestResult)
  | failed (event : NormalisedEvent)

def Worker.event : Worker → NormalisedEvent
  | received event | inserting event | rereading event | linking event _ _ | publishing event _
  | marking event _ | finished event _ _ | failed event => event

/-- The row that an accepted delivery has written. -/
def Worker.rowId : Worker → Option String
  | publishing _ canonical | marking _ canonical => some canonical.id
  | finished _ rowId _ => some rowId
  | _ => none

/-- The choices of the surroundings in a step. -/
structure Env where
  stamp : Stamp
  reception : Reception

/-- The table and the stream. -/
structure Db where
  rows : List EventRow
  stream : List Message

/-- The next step of `ingest`. -/
def Worker.advance (platform : Platform) (db : Db) (env : Env) : Worker → Option (Db × Worker)
  | .received event =>
    match findByIdempotencyKey db.rows event.organisationId event.idempotencyKey with
    | some existing => some (db, .linking event existing.id existing.data.eventId)
    | none => some (db, .inserting event)
  | .inserting event =>
    match createCanonical platform db.rows event event.idempotencyKey env.stamp with
    | .ok (rows, canonical) => some ({ db with rows }, .publishing event canonical)
    | .error .idempotencyKeyConflict => some (db, .rereading event)
    | .error .other => some (db, .failed event)
  | .rereading event =>
    match findByIdempotencyKey db.rows event.organisationId event.idempotencyKey with
    | some winner => some (db, .linking event winner.id winner.data.eventId)
    | none => some (db, .failed event)
  | .linking event canonicalId originalEventId =>
    match recordDuplicateDelivery platform db.rows canonicalId event env.stamp with
    | some rows => some ({ db with rows }, .finished event env.stamp.id (.duplicate originalEventId))
    | none => some (db, .failed event)
  | .publishing event canonical =>
    let (published, stream) := tryPublish db.stream env.reception canonical.id event
    some ({ db with stream },
      if published then .marking event canonical
      else .finished event canonical.id (.created (toStoredEventResponse canonical)))
  | .marking event canonical =>
    match markPublished db.rows canonical.id env.stamp.now with
    | some rows =>
      some ({ db with rows }, .finished event canonical.id
        (.created (toStoredEventResponse { canonical with publishedAt := some env.stamp.now })))
    | none => some (db, .failed event)
  | .finished .. | .failed _ => none

/-! ## The sweep -/

def unpublishedRetryAfterMs : Int := 15000

def sweepBatchSize : Nat := 100

/-- Where a sweep stands: the row it is at, and the rows after it. -/
inductive Sweep
  | publishing (row : EventRow) (rest : List EventRow)
  | marking (row : EventRow) (rest : List EventRow)
  | finished

def Sweep.next : List EventRow → Sweep
  | [] => .finished
  | row :: rest => .publishing row rest

/-- The next step of `sweep`. -/
def Sweep.advance (db : Db) (env : Env) : Sweep → Option (Db × Sweep)
  | .publishing row rest =>
    let (published, stream) :=
      tryPublish db.stream env.reception row.id (mapRowToNormalisedEvent row)
    some ({ db with stream }, if published then .marking row rest else .next rest)
  | .marking row rest =>
    match markPublished db.rows row.id env.stamp.now with
    | some rows => some ({ db with rows }, .next rest)
    | none => some (db, .next rest)
  | .finished => none

/-! ## The system -/

structure State where
  db : Db
  workers : List Worker
  sweeps : List Sweep

def State.init : State := ⟨⟨[], []⟩, [], []⟩

inductive Label
  | deliver (event : NormalisedEvent)
  | advance (worker : Nat) (env : Env)
  | startSweep (now : Int)
  | sweep (sweep : Nat) (env : Env)

/-- One step of the deliveries and the sweeps. -/
def step (platform : Platform) (s : State) : Label → Option State
  | .deliver event => some { s with workers := s.workers ++ [.received event] }
  | .advance i env => do
    let worker ← s.workers[i]?
    let (db, worker') ← worker.advance platform s.db env
    return { s with db, workers := s.workers.set i worker' }
  | .startSweep now =>
    let overdue :=
      findUnpublishedOlderThan s.db.rows (now - unpublishedRetryAfterMs) sweepBatchSize
    some { s with sweeps := s.sweeps ++ [.next overdue] }
  | .sweep i env => do
    let sweep ← s.sweeps[i]?
    let (db, sweep') ← sweep.advance s.db env
    return { s with db, sweeps := s.sweeps.set i sweep' }

end Sentinel.Events
