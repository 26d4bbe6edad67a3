import Mathlib.Data.List.Basic

/-! # Patrol timing and ordering

The statuses and the rules of `packages/contracts/src/field.ts` that every patrol decision goes
through.  Instants are milliseconds since the epoch. -/

namespace Sentinel.Patrol

inductive RunStatus
  | scheduled | inProgress | completed | abandoned | cancelled
deriving DecidableEq

def allowedPatrolRunTransitions : RunStatus → List RunStatus
  | .scheduled => [.inProgress, .cancelled]
  | .inProgress => [.completed, .abandoned]
  | .completed | .abandoned | .cancelled => []

def canTransitionPatrolRunStatus (source target : RunStatus) : Bool :=
  (allowedPatrolRunTransitions source).contains target

inductive CheckpointState
  | pending | verified | late | missed | cancelled
deriving DecidableEq

/-- The offsets of a checkpoint definition, ordered as the request schema has them. -/
structure Offsets where
  windowOpenOffsetMs : Nat
  lateAfterOffsetMs : Nat
  missedAfterOffsetMs : Nat
  opens_le_late : windowOpenOffsetMs ≤ lateAfterOffsetMs
  late_le_missed : lateAfterOffsetMs ≤ missedAfterOffsetMs
deriving DecidableEq

/-- The instants of a materialised checkpoint. -/
structure CheckpointWindow where
  windowOpensAt : Int
  lateAfter : Int
  missedAfter : Int

def materialiseCheckpointWindow (startedAt : Int) (policy : Offsets) : CheckpointWindow :=
  { windowOpensAt := startedAt + policy.windowOpenOffsetMs
    lateAfter := startedAt + policy.lateAfterOffsetMs
    missedAfter := startedAt + policy.missedAfterOffsetMs }

inductive TimingOutcome
  | tooEarly | verified | late | expired

def resolveCheckpointTiming (receivedAt : Int) (window : CheckpointWindow) : TimingOutcome :=
  if receivedAt < window.windowOpensAt then .tooEarly
  else if receivedAt ≤ window.lateAfter then .verified
  else if receivedAt ≤ window.missedAfter then .late
  else .expired

def isCheckpointMissed (now : Int) (state : CheckpointState) (missedAfter : Int) : Bool :=
  state = .pending ∧ missedAfter < now

/-- `canVerifySequence`, over the sequence numbers and states of the siblings. -/
def canVerifySequence (sequenceNumber : Nat) (siblings : List (Nat × CheckpointState)) : Bool :=
  siblings.all fun sibling => sequenceNumber ≤ sibling.1 ∨ sibling.2 ≠ .pending

def resolveAbandonedCheckpointState (now : Int) (state : CheckpointState) (missedAfter : Int) :
    Option CheckpointState :=
  if state ≠ .pending then none
  else if missedAfter < now then some .missed
  else some .cancelled

def CheckpointState.isSettled (state : CheckpointState) : Bool :=
  state = .verified ∨ state = .late ∨ state = .missed

def canCompletePatrolRun (states : List CheckpointState) : Bool :=
  states ≠ [] ∧ states.all (·.isSettled)

end Sentinel.Patrol
