import Sentinel.Native.FusionService

/-! # The consumer of events

`modules/fusion/fusion-consumer.service.ts`: the stream delivers every message that is neither
acknowledged nor terminated, up to `max_deliver` times.  A delivery acknowledges its message when
`applyEvent` returns, whatever it returned; one that stops leaves its message to be delivered again.
-/

namespace Sentinel.Fusion.Consumer

def consumerMaxDeliver : Nat := 5

/-- A message of the stream; the payload is nothing when it is no `NormalisedEvent`. -/
structure StreamMessage where
  payload : Option NormalisedEvent
  delivered : Nat
  acked : Bool
  termed : Bool

inductive Status
  | running | acknowledged | stopped
deriving DecidableEq

structure Delivery where
  message : Nat
  status : Status

/-- The service, the stream, and the delivery each worker answers. -/
structure State where
  fusion : Fusion.State
  stream : List StreamMessage
  deliveries : List Delivery

def State.init : State := ⟨.init, [], []⟩

inductive Label
  | store (payload : Option NormalisedEvent)
  | deliver (message : Nat)
  | advance (delivery : Nat) (env : Env)
  | answer (delivery : Nat)
  | stop (delivery : Nat)

namespace State

variable (s : State)

/-- `handle`, up to the call of `applyEvent`. -/
def deliver (j : Nat) : Option State :=
  match s.stream[j]? with
  | none => none
  | some message =>
    if message.acked ∨ message.termed ∨ consumerMaxDeliver ≤ message.delivered then none
    else
      let message := { message with delivered := message.delivered + 1 }
      match message.payload with
      | none => some { s with stream := s.stream.set j { message with termed := true } }
      | some event =>
        (Fusion.step s.fusion (.deliver event)).map fun fusion =>
          { fusion, stream := s.stream.set j message, deliveries := s.deliveries ++ [⟨j, .running⟩] }

/-- One step of `applyEvent`. -/
def advance (i : Nat) (env : Env) : Option State :=
  match s.deliveries[i]? with
  | some ⟨_, .running⟩ =>
    (Fusion.step s.fusion (.advance i env)).map fun fusion => { s with fusion }
  | _ => none

def ack (j : Nat) : List StreamMessage :=
  match s.stream[j]? with
  | none => s.stream
  | some message => s.stream.set j { message with acked := true }

/-- `handle`, once `applyEvent` has returned or thrown. -/
def answer (i : Nat) : Option State :=
  match s.deliveries[i]?, s.fusion.workers[i]? with
  | some ⟨j, .running⟩, some (.finished _ _) =>
    some { s with stream := s.ack j, deliveries := s.deliveries.set i ⟨j, .acknowledged⟩ }
  | some ⟨j, .running⟩, some (.failed _) =>
    -- `nak()`
    some { s with deliveries := s.deliveries.set i ⟨j, .stopped⟩ }
  | _, _ => none

def stop (i : Nat) : Option State :=
  match s.deliveries[i]? with
  | some ⟨j, .running⟩ => some { s with deliveries := s.deliveries.set i ⟨j, .stopped⟩ }
  | _ => none

end State

/-- One step of the stream and the consumers. -/
def step (s : State) : Label → Option State
  | .store payload => some { s with stream := s.stream ++ [⟨payload, 0, false, false⟩] }
  | .deliver j => s.deliver j
  | .advance i env => s.advance i env
  | .answer i => s.answer i
  | .stop i => s.stop i

end Sentinel.Fusion.Consumer
