import Sentinel.ForStd.Table
import Sentinel.Native.FusionRules

/-! # The Fusion store

The tables of the Fusion domain and the repository's operations on them
(`fusion.repository.ts`).  Every operation is one statement or one transaction of the
database, so it is one function here.  `createdAt` and `updatedAt` are left out. -/

namespace Sentinel.Fusion

/-- A row of `fusion_hypotheses`. -/
structure HypothesisRow where
  id : String
  incidentCandidateId : String
  type : String
  organisationId : String
  siteId : String
  zoneId : Option String
  zoneKey : String
  correlationKey : String
  windowStart : Int
  windowEnd : Int
  state : ThreatState
  detectionConfidence : ℚ
  threatProbability : ℚ
  potentialImpact : PotentialImpact
  operationalSeverity : OperationalSeverity
  sourceDiversity : Nat
  supportingEventIds : List String
  contradictingEventIds : List String
  confidenceExplanation : String
  ruleVersions : List String
  signals : List ProcessedSignal
  ignoredSignals : List Signal
  supportingImpactFamilies : List String
  incidentCandidateLatched : Bool
  incidentCandidateDeEscalated : Bool
  incidentCandidateEmissions : Nat
  transitionCount : Nat
  version : Nat
deriving DecidableEq

/-- A row of `fusion_hypothesis_transitions`. -/
structure TransitionRow where
  hypothesisId : String
  organisationId : String
  sequence : Nat
  fromState : ThreatState
  toState : ThreatState
  eventId : String
  reason : String
  ruleVersions : List String
  occurredAt : Int
deriving DecidableEq

/-- A row of `fusion_applied_events`; `AppliedEventInsert` has the same fields. -/
structure AppliedEvent where
  organisationId : String
  eventId : String
  hypothesisId : Option String
  correlationKey : String
  eventType : String
  signalKind : Option SignalKind
  ignoreReason : Option IgnoreReason
  ruleVersion : String

structure Db where
  hypotheses : List HypothesisRow
  transitions : List TransitionRow
  appliedEvents : List AppliedEvent

def Db.empty : Db := { hypotheses := [], transitions := [], appliedEvents := [] }

/-- The identity of an applied event, `organisationId_eventId`. -/
def AppliedEvent.key (row : AppliedEvent) : String × String := (row.organisationId, row.eventId)

def NormalisedEvent.key (event : NormalisedEvent) : String × String :=
  (event.organisationId, event.eventId)

/-! ## Reads -/

def Db.findByCorrelationKey (db : Db) (correlationKey : String) : Option HypothesisRow :=
  db.hypotheses.find? fun row => row.correlationKey = correlationKey

def Db.findAppliedEvent (db : Db) (organisationId eventId : String) : Option AppliedEvent :=
  db.appliedEvents.find? fun row => row.key = (organisationId, eventId)

/-! ## Writes -/

/-- `recordIgnoredEvent`: false when the event was recorded before. -/
def Db.recordIgnoredEvent (db : Db) (insert : AppliedEvent) : Bool × Db :=
  if db.appliedEvents.any fun row => row.key = insert.key then (false, db)
  else (true, { db with appliedEvents := db.appliedEvents ++ [insert] })

/-- The arguments of `loadOrCreateForWindow`. -/
structure WindowSeed where
  correlation : CorrelationKey
  type : String
  potentialImpact : PotentialImpact
  operationalSeverity : OperationalSeverity
  confidenceExplanation : String
  ruleVersions : List String

/-- The row that `hypothesis.create` inserts; the two ids are generated by the
    database, the counters have their column defaults. -/
def WindowSeed.row (seed : WindowSeed) (id incidentCandidateId : String) : HypothesisRow :=
  { id
    incidentCandidateId
    type := seed.type
    organisationId := seed.correlation.organisationId
    siteId := seed.correlation.siteId
    zoneId := seed.correlation.zoneId
    zoneKey := seed.correlation.zoneKey
    correlationKey := seed.correlation.key
    windowStart := seed.correlation.windowStart
    windowEnd := seed.correlation.windowEnd
    state := 0
    detectionConfidence := 0
    threatProbability := 0
    potentialImpact := seed.potentialImpact
    operationalSeverity := seed.operationalSeverity
    sourceDiversity := 0
    supportingEventIds := []
    contradictingEventIds := []
    confidenceExplanation := seed.confidenceExplanation
    ruleVersions := seed.ruleVersions
    signals := []
    ignoredSignals := []
    supportingImpactFamilies := []
    incidentCandidateLatched := false
    incidentCandidateDeEscalated := false
    incidentCandidateEmissions := 0
    transitionCount := 0
    version := 0 }

/-- The insert of `hypothesis.create`; `none` is a violation of one of the unique
    constraints (`id`, `incident_candidate_id`, `correlation_key`). -/
def Db.createHypothesisRow (db : Db) (row : HypothesisRow) : Option Db :=
  if db.hypotheses.any fun old => old.id = row.id ||
      old.incidentCandidateId = row.incidentCandidateId ||
      old.correlationKey = row.correlationKey then none
  else some { db with hypotheses := db.hypotheses ++ [row] }

/-- `HypothesisStateUpdate`: the columns written on every application. -/
structure HypothesisStateUpdate where
  state : ThreatState
  detectionConfidence : ℚ
  threatProbability : ℚ
  potentialImpact : PotentialImpact
  operationalSeverity : OperationalSeverity
  sourceDiversity : Nat
  supportingEventIds : List String
  contradictingEventIds : List String
  confidenceExplanation : String
  ruleVersions : List String
  signals : List ProcessedSignal
  ignoredSignals : List Signal
  supportingImpactFamilies : List String
  incidentCandidateLatched : Bool
  incidentCandidateDeEscalated : Bool
  incidentCandidateEmissions : Nat

structure TransitionInsert where
  fromState : ThreatState
  toState : ThreatState
  eventId : String
  reason : String
  ruleVersions : List String
  occurredAt : Int

/-- The arguments of `applyEvent`. -/
structure ApplyEventParams where
  hypothesisId : String
  expectedVersion : Nat
  firstTransitionSequence : Nat
  organisationId : String
  update : HypothesisStateUpdate
  transitions : List TransitionInsert
  appliedEvent : AppliedEvent

/-- The `data` of the update: the columns, the transition count and the next version. -/
def ApplyEventParams.write (params : ApplyEventParams) (row : HypothesisRow) : HypothesisRow :=
  { row with
    state := params.update.state
    detectionConfidence := params.update.detectionConfidence
    threatProbability := params.update.threatProbability
    potentialImpact := params.update.potentialImpact
    operationalSeverity := params.update.operationalSeverity
    sourceDiversity := params.update.sourceDiversity
    supportingEventIds := params.update.supportingEventIds
    contradictingEventIds := params.update.contradictingEventIds
    confidenceExplanation := params.update.confidenceExplanation
    ruleVersions := params.update.ruleVersions
    signals := params.update.signals
    ignoredSignals := params.update.ignoredSignals
    supportingImpactFamilies := params.update.supportingImpactFamilies
    incidentCandidateLatched := params.update.incidentCandidateLatched
    incidentCandidateDeEscalated := params.update.incidentCandidateDeEscalated
    incidentCandidateEmissions := params.update.incidentCandidateEmissions
    transitionCount := params.firstTransitionSequence + params.transitions.length
    version := row.version + 1 }

/-- The rows that `hypothesisTransition.createMany` inserts. -/
def ApplyEventParams.transitionRows (params : ApplyEventParams) : List TransitionRow :=
  params.transitions.mapIdx fun index transition =>
    { hypothesisId := params.hypothesisId
      organisationId := params.organisationId
      sequence := params.firstTransitionSequence + index
      fromState := transition.fromState
      toState := transition.toState
      eventId := transition.eventId
      reason := transition.reason
      ruleVersions := transition.ruleVersions
      occurredAt := transition.occurredAt }

inductive ApplyOutcome
  | applied (row : HypothesisRow)
  | duplicate
  | conflict

/-- `applyEvent`: one transaction.  `none` is an error that is thrown on: a transition
    whose sequence number is taken, or a row that is gone. -/
def Db.applyEvent (db : Db) (params : ApplyEventParams) : Option (ApplyOutcome × Db) :=
  -- insert-first: a redelivery is rejected before any state is touched
  if db.appliedEvents.any fun row => row.key = params.appliedEvent.key then
    some (.duplicate, db)
  else
    let matched := fun row : HypothesisRow =>
      decide (row.id = params.hypothesisId ∧ row.version = params.expectedVersion)
    if db.hypotheses.countP matched = 0 then
      -- the throw rolls the insert back
      some (.conflict, db)
    else if params.transitionRows.any fun new => db.transitions.any fun old =>
        decide (old.hypothesisId = new.hypothesisId ∧ old.sequence = new.sequence) then
      none
    else
      let hypotheses := Table.rewrite matched params.write db.hypotheses
      match hypotheses.find? fun row => row.id = params.hypothesisId with
      | none => none
      | some row =>
        some (.applied row,
          { hypotheses
            transitions := db.transitions ++ params.transitionRows
            appliedEvents := db.appliedEvents ++ [params.appliedEvent] })

end Sentinel.Fusion
