import Sentinel.ForStd.Transition
import Sentinel.Native.FusionStore

/-! # The Fusion service

`FusionService.applyEvent` (`fusion.service.ts`): correlate, map, load or create, assess, persist,
emit.  A delivery is a worker; each step is at most one operation on the store or one message handed
to the publisher.  The in-process queue per correlation key is left out: the source calls it an
efficiency measure, and without it there are more interleavings. -/

namespace Sentinel.Fusion

def hypothesisType : String := "situation.correlated.v1"

def incidentCandidateStateThreshold : ThreatState := 2

def applyMaxAttempts : Nat := 4

/-- An event together with the signal that the rule table maps it to. -/
structure MappedEvent where
  event : NormalisedEvent
  signal : Signal
  impactFamily : Option ImpactFamily
  mapped : mapEventToSignal event = .signal signal impactFamily

namespace MappedEvent

/-- The window the event belongs to. -/
def correlation (m : MappedEvent) : CorrelationKey := deriveCorrelationKey m.event

end MappedEvent

/-- The event with its signal, or the reason why it has none. -/
def NormalisedEvent.mapped (event : NormalisedEvent) : Except IgnoreReason MappedEvent :=
  match h : mapEventToSignal event with
  | .signal signal impactFamily => .ok ⟨event, signal, impactFamily, h⟩
  | .ignored reason => .error reason

theorem NormalisedEvent.event_of_mapped {event : NormalisedEvent} {m : MappedEvent}
    (h : event.mapped = .ok m) : m.event = event := by
  unfold mapped at h
  split at h
  · cases h
    rfl
  · cases h

/-! ## The assessment -/

/-- What `attemptApply` passes to `loadOrCreateForWindow`. -/
def windowSeed (correlation : CorrelationKey) : WindowSeed :=
  let seedImpact := derivePotentialImpact []
  { correlation
    type := hypothesisType
    potentialImpact := seedImpact
    operationalSeverity := deriveSeverity 0 seedImpact
    confidenceExplanation :=
      buildConfidenceExplanation (createHypothesis "" seedImpact)
        (describeCorrelationKey correlation) fusionRuleVersions
    ruleVersions := fusionRuleVersions }

variable (row : HypothesisRow) (m : MappedEvent)

/-- The impact families after the signal: a quarantined source contributes none. -/
def nextImpactFamilies (signal : Signal) (impactFamily : Option ImpactFamily) : List String :=
  let contributed := if signal.sourceTrust = .quarantined then none else impactFamily
  JsText.sort (row.supportingImpactFamilies ++ (contributed.map (·.text)).toList).dedup

/-- `rebuildHypothesis`: without the transitions, so that the core returns only the new
    ones. -/
def rebuildHypothesis (impact : PotentialImpact) : ThreatHypothesis :=
  { id := row.id
    state := row.state
    detectionConfidence := row.detectionConfidence
    threatProbability := row.threatProbability
    potentialImpact := impact
    operationalSeverity := deriveSeverity row.state impact
    signals := row.signals
    ignoredSignals := row.ignoredSignals
    transitions := [] }

/-- What `decideLatch` returns. -/
structure Latch where
  latched : Bool
  deEscalated : Bool
  emissions : Nat
  emit : Bool
  reEscalation : Bool

def decideLatch (state : ThreatState) : Latch :=
  if incidentCandidateStateThreshold ≤ state then
    if row.incidentCandidateLatched then
      { latched := true
        deEscalated := row.incidentCandidateDeEscalated
        emissions := row.incidentCandidateEmissions
        emit := false
        reEscalation := false }
    else
      { latched := true
        deEscalated := false
        emissions := row.incidentCandidateEmissions + 1
        emit := true
        reEscalation := row.incidentCandidateDeEscalated }
  else
    { latched := false
      deEscalated := row.incidentCandidateDeEscalated || row.incidentCandidateLatched
      emissions := row.incidentCandidateEmissions
      emit := false
      reEscalation := false }

/-- The core's hypothesis after the event's signal. -/
def assess : ThreatHypothesis :=
  let potentialImpact := derivePotentialImpact (nextImpactFamilies row m.signal m.impactFamily)
  applySignal (rebuildHypothesis row potentialImpact) m.signal

/-- The update and the rows that `attemptApply` hands to the repository. -/
def applyParams : ApplyEventParams :=
  let next := assess row m
  let latch := decideLatch row next.state
  { hypothesisId := row.id
    expectedVersion := row.version
    firstTransitionSequence := row.transitionCount
    organisationId := m.event.organisationId
    update :=
      { state := next.state
        detectionConfidence := next.detectionConfidence
        threatProbability := next.threatProbability
        potentialImpact := next.potentialImpact
        operationalSeverity := next.operationalSeverity
        sourceDiversity := computeDiverseSupportingCount next.signals
        supportingEventIds := (ofKind .supporting next.signals).map (·.signalId)
        contradictingEventIds := (ofKind .contradicting next.signals).map (·.signalId)
        confidenceExplanation :=
          buildConfidenceExplanation next (describeCorrelationKey m.correlation) fusionRuleVersions
        ruleVersions := fusionRuleVersions
        signals := next.signals
        ignoredSignals := next.ignoredSignals
        supportingImpactFamilies := nextImpactFamilies row m.signal m.impactFamily
        incidentCandidateLatched := latch.latched
        incidentCandidateDeEscalated := latch.deEscalated
        incidentCandidateEmissions := latch.emissions }
    transitions := next.transitions.map fun transition =>
      { fromState := transition.fromState
        toState := transition.toState
        eventId := transition.signalId
        reason := transition.reason
        ruleVersions := fusionRuleVersions
        occurredAt := m.event.occurredAt }
    appliedEvent :=
      { organisationId := m.event.organisationId
        eventId := m.event.eventId
        hypothesisId := some row.id
        correlationKey := m.correlation.key
        eventType := m.event.eventType
        signalKind := some m.signal.kind
        ignoreReason := none
        ruleVersion := fusionRulesVersion } }

/-- The insert for an event that produced no signal. -/
def ignoredInsert (event : NormalisedEvent) (reason : IgnoreReason) : AppliedEvent :=
  { organisationId := event.organisationId
    eventId := event.eventId
    hypothesisId := none
    correlationKey := (deriveCorrelationKey event).key
    eventType := event.eventType
    signalKind := none
    ignoreReason := some reason
    ruleVersion := fusionRulesVersion }

/-! ## Messages -/

/-- `IncidentCandidateMessage`, without `emitted_at`. -/
structure IncidentCandidateMessage where
  incidentCandidateId : String
  hypothesisId : String
  organisationId : String
  siteId : String
  zoneId : Option String
  threatState : ThreatState
  detectionConfidence : ℚ
  threatProbability : ℚ
  potentialImpact : PotentialImpact
  operationalSeverity : OperationalSeverity
  supportingEventIds : List String
  contradictingEventIds : List String
  confidenceExplanation : String
  ruleOrModelVersions : List String
  reEscalation : Bool
  emissionNumber : Nat
  triggeringEventId : String
  hypothesisVersion : Nat
deriving DecidableEq

/-- `HypothesisUpdateMessage`, without `emitted_at`; the view is the row's columns. -/
structure HypothesisUpdateMessage where
  hypothesis : HypothesisRow
  triggeringEventId : String
  previousState : ThreatState
  stateChanged : Bool
  hypothesisVersion : Nat

/-- The candidate for the row as it was before and after the event, if the latch emits. -/
def candidateMessage (outcome : HypothesisRow) (m : MappedEvent) :
    Option IncidentCandidateMessage :=
  let latch := decideLatch row (assess row m).state
  if latch.emit then
    some
      { incidentCandidateId := outcome.incidentCandidateId
        hypothesisId := outcome.id
        organisationId := outcome.organisationId
        siteId := outcome.siteId
        zoneId := outcome.zoneId
        threatState := outcome.state
        detectionConfidence := outcome.detectionConfidence
        threatProbability := outcome.threatProbability
        potentialImpact := outcome.potentialImpact
        operationalSeverity := outcome.operationalSeverity
        supportingEventIds := outcome.supportingEventIds
        contradictingEventIds := outcome.contradictingEventIds
        confidenceExplanation := outcome.confidenceExplanation
        ruleOrModelVersions := outcome.ruleVersions
        reEscalation := latch.reEscalation
        emissionNumber := latch.emissions
        triggeringEventId := m.event.eventId
        hypothesisVersion := outcome.version }
  else none

def updateMessage (outcome : HypothesisRow) (m : MappedEvent) : HypothesisUpdateMessage :=
  { hypothesis := outcome
    triggeringEventId := m.event.eventId
    previousState := row.state
    stateChanged := decide ((assess row m).state ≠ row.state)
    hypothesisVersion := outcome.version }

/-! ## The steps of a delivery -/

inductive ApplyEventResult
  | duplicate
  | ignored (reason : IgnoreReason)
  | applied (update : HypothesisUpdateMessage) (candidate : Option IncidentCandidateMessage)

/-- Where a delivery stands. -/
inductive Worker
  | received (event : NormalisedEvent)
  | loading (attempt : Nat) (m : MappedEvent)
  | creating (attempt : Nat) (m : MappedEvent)
  | rereading (attempt : Nat) (m : MappedEvent)
  | applying (attempt : Nat) (m : MappedEvent) (row : HypothesisRow)
  | publishingUpdate (m : MappedEvent) (update : HypothesisUpdateMessage)
      (candidate : Option IncidentCandidateMessage)
  | publishingCandidate (m : MappedEvent) (update : HypothesisUpdateMessage)
      (candidate : IncidentCandidateMessage)
  | finished (event : NormalisedEvent) (result : ApplyEventResult)
  | failed (event : NormalisedEvent)

def Worker.event : Worker → NormalisedEvent
  | received event | finished event _ | failed event => event
  | loading _ m | creating _ m | rereading _ m | applying _ m _ | publishingUpdate m _ _
  | publishingCandidate m _ _ => m.event

inductive Message
  | update (message : HypothesisUpdateMessage)
  | candidate (message : IncidentCandidateMessage)

/-- The choices of the environment in one step: the ids the database generates, and
    whether JetStream takes the message. -/
structure Env where
  id : String := ""
  incidentCandidateId : String := ""
  accepted : Bool := true

/-- A step's result: the store, the worker, and the messages handed to the publisher with
    whether they were taken.  The publisher swallows a failure. -/
abbrev Progress := Db × Worker × List (Message × Bool)

/-- The retry loop of `applyEventInner`. -/
def nextAttempt (attempt : Nat) (m : MappedEvent) : Worker :=
  if attempt + 1 ≤ applyMaxAttempts then .loading (attempt + 1) m else .failed m.event

/-- The next step of a delivery; `none` when it has returned. -/
def Worker.advance (db : Db) (env : Env) : Worker → Option Progress
  | .received event =>
    match event.mapped with
    | .error reason =>
      let (recorded, db') := db.recordIgnoredEvent (ignoredInsert event reason)
      some (db', .finished event (if recorded then .ignored reason else .duplicate), [])
    | .ok m =>
      -- the cheap pre-check
      if (db.findAppliedEvent event.organisationId event.eventId).isSome then
        some (db, .finished event .duplicate, [])
      else some (db, .loading 1 m, [])
  | .loading attempt m =>
    match db.findByCorrelationKey m.correlation.key with
    | some row => some (db, .applying attempt m row, [])
    | none => some (db, .creating attempt m, [])
  | .creating attempt m =>
    let row := (windowSeed m.correlation).row env.id env.incidentCandidateId
    match db.createHypothesisRow row with
    | some db' => some (db', .applying attempt m row, [])
    | none => some (db, .rereading attempt m, [])
  | .rereading attempt m =>
    match db.findByCorrelationKey m.correlation.key with
    | some winner => some (db, .applying attempt m winner, [])
    | none => some (db, .failed m.event, [])
  | .applying attempt m row =>
    match db.applyEvent (applyParams row m) with
    | none => some (db, .failed m.event, [])
    | some (.conflict, db') => some (db', nextAttempt attempt m, [])
    | some (.duplicate, db') => some (db', .finished m.event .duplicate, [])
    | some (.applied outcome, db') =>
      some (db', .publishingUpdate m (updateMessage row outcome m)
        (candidateMessage row outcome m), [])
  | .publishingUpdate m update candidate =>
    let next :=
      match candidate with
      | some candidate => Worker.publishingCandidate m update candidate
      | none => .finished m.event (.applied update none)
    some (db, next, [(.update update, env.accepted)])
  | .publishingCandidate m update candidate =>
    some (db, .finished m.event (.applied update (some candidate)),
      [(.candidate candidate, env.accepted)])
  | .finished .. | .failed .. => none

/-! ## The system -/

structure State where
  db : Db
  workers : List Worker
  /-- Every message handed to the publisher, and whether JetStream took it. -/
  handed : List (Message × Bool)

def State.init : State := { db := .empty, workers := [], handed := [] }

inductive Label
  | deliver (event : NormalisedEvent)
  | advance (worker : Nat) (env : Env)

/-- One step of the system: JetStream delivers an event, or a worker moves. -/
def step (s : State) : Label → Option State
  | .deliver event => some { s with workers := s.workers ++ [.received event] }
  | .advance i env => do
    let worker ← s.workers[i]?
    let (db, worker', messages) ← worker.advance s.db env
    some { db, workers := s.workers.set i worker', handed := s.handed ++ messages }

/-! ## One delivery at a time -/

/-- A worker left alone with the store for a number of steps. -/
def Worker.alone (env : Env) : Nat → Db → Worker → Db × Worker
  | 0, db, worker => (db, worker)
  | n + 1, db, worker =>
    match worker.advance db env with
    | none => (db, worker)
    | some (db', worker', _) => worker'.alone env n db'

/-- The ids the database generates for the window of a correlation key; it generates none
    twice. -/
structure Mint where
  id : String → String
  incidentCandidateId : String → String
  id_injective : id.Injective
  incidentCandidateId_injective : incidentCandidateId.Injective

def Mint.env (mint : Mint) (key : String) : Env :=
  { id := mint.id key, incidentCandidateId := mint.incidentCandidateId key }

/-- The event delivered with no other worker between its steps, of which there are at
    most six. -/
def Db.deliver (mint : Mint) (db : Db) (event : NormalisedEvent) : Db :=
  ((Worker.received event).alone (mint.env (deriveCorrelationKey event).key) 6 db).1

/-- The events delivered so far. -/
def State.delivered (s : State) : List NormalisedEvent := s.workers.map (·.event)

end Sentinel.Fusion
