import Sentinel.ForStd.Transition
import Sentinel.Native.EdgeQueueStore

/-! # The Edge durable queue: its clock

What `durableNowMs` returns over a run.  The store's calls ask it inside their transactions;
`forwardableHeads` and `metrics`, and whoever asks the store for the instant, read it and write
nothing. -/

namespace Sentinel.EdgeQueue

variable (parses : StoredOperation → Bool)

/-- `admit` passes every refusal and comes to the draw. -/
def reachesDraw (bounds : Bounds) (input : AdmissionInput) (db : Db) : Bool :=
  match sweepSettled bounds db with
  | .error _ => false
  | .ok db =>
    match find parses db input.envelope.offlineOperationId with
    | .ok none =>
      !(db.rows.any fun held =>
          held.envelope.namespaceColumns = input.envelope.namespaceColumns &&
            held.envelope.deviceSequence = input.envelope.deviceSequence) &&
        unsettledCount db < bounds.maxUnsettled &&
        db.counter.nextPosition < edgeQueueMaxMonotonicPosition
    | _ => false

/-- `transitionTo` comes to its `apply`. -/
def reachesApply (offlineOperationId : String) (target : EdgeQueueState) (db : Db) : Bool :=
  match db.rowOf offlineOperationId with
  | none => false
  | some current => !current.settled &&
      (current.queueState = target || canTransitionEdgeQueueState current.queueState target)

/-- The readings of the process clock a call makes, in order. -/
def clockReadings (bounds : Bounds) (process : Process) (reading markReading : Int) (db : Db)
    (call : Call) : List Int :=
  -- `markClock` reads once `apply` has returned, and then the transaction commits
  let marks := match perform parses bounds (process.durableNowMs reading)
      (process.durableNowMs markReading) db call with
    | .ok (.changed true, _) => [markReading]
    | _ => []
  match call with
  | .admission input => if reachesDraw parses bounds input db then [reading] else []
  | .claimForForwarding id => if reachesApply id .forwarding db then reading :: marks else []
  | _ => marks

/-- The reading whose instant a call that commits has put into the counter row. -/
def committedMark (reading markReading : Int) : Answer → Option Int
  | .admission (.admitted _) => some reading
  | .changed true => some markReading
  | _ => none

/-- The store, and of its open process the latest reading of the clock and the latest one that a
    committed mark carries. -/
structure Clocked where
  store : State
  latest : Int
  marked : Int

/-- A fresh queue that nobody has opened. -/
def Clocked.initial : Clocked := ⟨.initial, 0, 0⟩

/-- A step of the store, or a reading that writes nothing. -/
inductive ClockLabel
  | store (label : Label)
  | read (reading : Int)

/-- The readings a step makes of the open process's clock. -/
def Clocked.readings (bounds : Bounds) (c : Clocked) : ClockLabel → List Int
  | .read reading => [reading]
  | .store (.call call reading markReading _) =>
    match c.store.process with
    | none => []
    | some process => clockReadings parses bounds process reading markReading c.store.db call
  | .store _ => []

/-- The mark a step commits. -/
def Clocked.committed (bounds : Bounds) (c : Clocked) : ClockLabel → Option Int
  | .store (.call call reading markReading false) =>
    match c.store.process with
    | none => none
    | some process =>
      match perform parses bounds (process.durableNowMs reading)
          (process.durableNowMs markReading) c.store.db call with
      | .error _ => none
      | .ok (answer, _) => committedMark reading markReading answer
  | _ => none

/-- One step; opening starts the process's clock. -/
def clockStep (bounds : Bounds) (c : Clocked) : ClockLabel → Option Clocked
  | .store (.reopen reading) =>
    (step parses bounds c.store (.reopen reading)).map fun store => ⟨store, reading, reading⟩
  | .store label =>
    (step parses bounds c.store label).map fun store =>
      ⟨store, (c.readings parses bounds (.store label)).getLastD c.latest,
        (c.committed parses bounds (.store label)).getD c.marked⟩
  | .read reading => c.store.process.map fun _ => { c with latest := reading }

/-- What `durableNowMs` returns in a step. -/
def Clocked.returned (bounds : Bounds) (c : Clocked) (label : ClockLabel) : Option (List Int) :=
  c.store.process.map fun process =>
    (c.readings parses bounds label).map process.durableNowMs

/-- What `durableNowMs` returns in a run, in order. -/
def durableNows (bounds : Bounds) (c : Clocked) (labels : List ClockLabel) : List Int :=
  (Transition.trace (clockStep parses bounds) (Clocked.returned parses bounds) c labels).flatten

end Sentinel.EdgeQueue
