import Sentinel.ForStd.JsText
import Sentinel.Native.WhisperSignals

/-! # The Whisper Studio

`createSignal`, `publishVersion`, `updateDraft`, `transition` and `activate` of `WhisperService`
(`modules/whisper/whisper.service.ts`) over the statements of the repository.  A worker moves one
statement at a time; the writes of a transaction happen at its commit, since the rows it writes are
locked until then.  `lockFamily` takes every row of a family.  Audit entries are left out. -/

namespace Sentinel.Whisper.Studio

open Signals (DraftColumns)

/-- A person with the sites each of the two grants reaches. -/
structure Principal where
  organisationId : String
  userId : String
  manage : SiteScope
  approve : SiteScope

/-- The body of a create, a publish or an edit. -/
structure ConfigurationInput where
  name : String
  deviceActionId : String
  authorisedUserIds : List String
  contextRequirements : List (String × String)
  minimumConfidence : ℚ
  responseProtocolId : Option String
  traceId : String

inductive Call
  | createSignal (siteId : Option String) (input : ConfigurationInput)
  | publishVersion (whisperSignalId : String) (input : ConfigurationInput)
  | updateDraft (whisperSignalId : String) (signalVersion : Nat) (input : ConfigurationInput)
  | transition (whisperSignalId : String) (signalVersion : Nat) (target : SignalStatus)
      (traceId : String)
  | activate (whisperSignalId : String) (signalVersion : Nat) (traceId : String)

/-- What a call throws. -/
inductive Refusal
  | siteScope | siteNotFound | rosterNotMembers | contractInvalid | notFound
  | configurationFrozen (status : SignalStatus)
  | activationIsNoTransition
  | illegalTransition (source target : SignalStatus)
  | notInApproval (status : SignalStatus)
  | approverNotDistinct | noResponseProtocol
  | statusConflict | fingerprintConflict | uniquenessConflict

/-- Where a call stands.  From `latest` and `current` on it holds the lock of its family. -/
inductive Phase
  | start
  | create (columns : DraftColumns)
  -- `publishNewVersion`
  | lockToPublish (columns : DraftColumns)
  | latest (columns : DraftColumns)
  | insert (columns : DraftColumns) (latest : SignalVersionRow)
  -- `updateDraftConfiguration`
  | findDraft (columns : DraftColumns)
  | writeDraft (versionId : String) (columns : DraftColumns)
  -- `transitionStatus`
  | findStatus (expected : SignalStatus)
  | writeStatus (versionId : String) (expected : SignalStatus)
  -- `activate` of the repository, with the row the service read
  | lockToActivate (read : SignalVersionRow)
  | current (read : SignalVersionRow)
  | incumbents (read : SignalVersionRow) (versionId : String)
  | promote (read : SignalVersionRow) (versionId : String) (incumbents : List String)
  -- the call has returned, thrown or died
  | returned
  | refused (refusal : Refusal)
  | failed

structure Worker where
  principal : Principal
  call : Call
  phase : Phase

/-- The choices of the environment in one step: the clock, new ids, and what the tables of
    sites and users answer. -/
structure Env where
  now : Int := 0
  versionId : String := ""
  whisperSignalId : String := ""
  siteExists : Bool := true
  members : List String := []

/-- `assertAdministrativeScope`: an organisation-wide signal takes an organisation-wide
    grant. -/
def administers (scope : SiteScope) (siteId : Option String) : Bool := scope.covers siteId

/-- The length of a string in UTF-16 code units. -/
def jsLength (text : String) : Nat := (text.toList.flatMap JsText.codeUnits).length

/-- `z.string().min(1).max(256)`. -/
def bounded (text : String) : Bool := 1 ≤ jsLength text ∧ jsLength text ≤ 256

def maxContextBytes : Nat := 16 * 1024

section Steps

-- `whisperConfigurationFingerprint`: a digest of the canonical configuration
variable (configurationFingerprint : SemanticConfiguration → String)
-- `contextByteLength`: the bytes of the serialised requirements
variable (contextByteLength : List (String × String) → Nat)

/-- `toSemanticConfiguration`, on the sorted roster of `validatedRoster`. -/
def ConfigurationInput.configuration (input : ConfigurationInput) : SemanticConfiguration :=
  { deviceActionId := input.deviceActionId
    authorisedUserIds := JsText.sort input.authorisedUserIds
    contextRequirements := input.contextRequirements
    minimumConfidence := input.minimumConfidence
    responseProtocolId := input.responseProtocolId }

/-- The columns a body is written as. -/
def ConfigurationInput.columns (input : ConfigurationInput) : DraftColumns :=
  { name := input.name
    configuration := input.configuration
    configurationFingerprint := configurationFingerprint input.configuration
    traceId := input.traceId }

/-- `assertConfigurationIsContractValid`, for the fields a body can get wrong. -/
def contractValid (organisationId : String) (siteId : Option String)
    (input : ConfigurationInput) : Bool :=
  bounded organisationId ∧ siteId.all bounded ∧ bounded input.name ∧
    bounded input.deviceActionId ∧ 1 ≤ input.authorisedUserIds.length ∧
    input.authorisedUserIds.length ≤ 1024 ∧ input.authorisedUserIds.all bounded ∧
    input.authorisedUserIds.Nodup ∧
    contextByteLength input.contextRequirements ≤ maxContextBytes ∧
    0 ≤ input.minimumConfidence ∧ input.minimumConfidence ≤ 1 ∧
    (input.responseProtocolId = none ∨
      isAllowlistedResponseProtocol input.responseProtocolId = true) ∧
    bounded input.traceId

def newVersion (columns : DraftColumns) (id whisperSignalId : String) (signalVersion : Nat)
    (organisationId : String) (siteId : Option String) (createdByUserId : String) :
    SignalVersionRow :=
  { id, whisperSignalId, signalVersion, organisationId, siteId
    name := columns.name
    status := .draft
    configuration := columns.configuration
    configurationFingerprint := columns.configurationFingerprint
    createdByUserId
    traceId := columns.traceId
    activatedAt := none
    rotatedAt := none
    retiredAt := none }

/-- `classifyWhisperConfigurationEdit`. -/
inductive Classification
  | editable | unchanged | requiresNewVersion

def classifyConfigurationEdit (status : SignalStatus) (current proposed : SemanticConfiguration) :
    Classification :=
  if status.isEditable then .editable
  else if configurationFingerprint current = configurationFingerprint proposed then .unchanged
  else .requiresNewVersion

/-- `whisperActivationApproverIsDistinct`. -/
def approverIsDistinct (createdByUserId approvedByUserId : String) : Bool :=
  createdByUserId ≠ approvedByUserId ∧ approvedByUserId.length > 0

/-- The family a call names, in the principal's organisation. -/
def Worker.family? (worker : Worker) : Option (String × String) :=
  match worker.call with
  | .createSignal _ _ => none
  | .publishVersion whisperSignalId _ | .updateDraft whisperSignalId _ _
  | .transition whisperSignalId _ _ _ | .activate whisperSignalId _ _ =>
    some (worker.principal.organisationId, whisperSignalId)

/-- Whether a call that stands there has the lock of its family. -/
def Phase.locks : Phase → Bool
  | .latest _ | .insert _ _ | .current _ | .incumbents _ _ | .promote _ _ _ => true
  | _ => false

/-- The family whose rows a call has locked. -/
def Worker.holds? (worker : Worker) : Option (String × String) :=
  if worker.phase.locks then worker.family? else none

/-- The reads and checks of a call before its transaction. -/
def Worker.begin (signals : Signals) (env : Env) (worker : Worker) : Phase :=
  let principal := worker.principal
  let members (input : ConfigurationInput) := input.authorisedUserIds.all env.members.contains
  match worker.call with
  | .createSignal siteId input =>
    if !administers principal.manage siteId then .refused .siteScope
    else if siteId.isSome ∧ !env.siteExists then .refused .siteNotFound
    else if !members input then .refused .rosterNotMembers
    else if !contractValid contextByteLength principal.organisationId siteId input then
      .refused .contractInvalid
    else .create (input.columns configurationFingerprint)
  | .publishVersion whisperSignalId input =>
    if !members input then .refused .rosterNotMembers
    else
      match signals.findLatest (principal.organisationId, whisperSignalId) principal.manage with
      | none => .refused .notFound
      | some newest =>
        if !contractValid contextByteLength principal.organisationId newest.siteId input then
          .refused .contractInvalid
        else .lockToPublish (input.columns configurationFingerprint)
  | .updateDraft whisperSignalId signalVersion input =>
    match signals.findVersion (principal.organisationId, whisperSignalId) signalVersion
        principal.manage with
    | none => .refused .notFound
    | some current =>
      if !members input then .refused .rosterNotMembers
      else if !contractValid contextByteLength principal.organisationId current.siteId input then
        .refused .contractInvalid
      else
        match classifyConfigurationEdit configurationFingerprint current.status
            current.configuration input.configuration with
        | .unchanged => .returned
        | .requiresNewVersion => .refused (.configurationFrozen current.status)
        | .editable => .findDraft (input.columns configurationFingerprint)
  | .transition whisperSignalId signalVersion target _ =>
    if target = .active then .refused .activationIsNoTransition
    else
      match signals.findVersion (principal.organisationId, whisperSignalId) signalVersion
          principal.manage with
      | none => .refused .notFound
      | some current =>
        if !current.status.canTransition target then
          .refused (.illegalTransition current.status target)
        else .findStatus current.status
  | .activate whisperSignalId signalVersion _ =>
    match signals.findVersion (principal.organisationId, whisperSignalId) signalVersion
        principal.approve with
    | none => .refused .notFound
    | some current =>
      if !current.status.canTransition .active then .refused (.notInApproval current.status)
      else if !approverIsDistinct current.createdByUserId principal.userId then
        .refused .approverNotDistinct
      else if !isAllowlistedResponseProtocol current.configuration.responseProtocolId then
        .refused .noResponseProtocol
      else .lockToActivate current

/-- The writes of an activation; `none` rolls it back. -/
def Worker.activation (signals : Signals) (env : Env) (worker : Worker) (read : SignalVersionRow)
    (versionId : String) (incumbents : List String) (traceId : String) : Option Signals := do
  let signals := signals.rotateIncumbents incumbents env.now
  -- the attestation is parsed by its schema, which refuses a self-approval
  if !approverIsDistinct read.createdByUserId worker.principal.userId then none
  else
    let signals ← signals.createApproval
      { signalVersionId := versionId
        organisationId := worker.principal.organisationId
        configurationFingerprint := read.configurationFingerprint
        approvedByUserId := worker.principal.userId
        createdByUserId := read.createdByUserId
        approvedAt := env.now
        traceId }
    signals.promote versionId read.status read.configurationFingerprint env.now traceId

/-- What a committed transaction wrote. -/
inductive Write
  | created (row : SignalVersionRow)
  | edited (versionId userId : String) (columns : DraftColumns)
  | moved (versionId : String) (target : SignalStatus)
  | activated (versionId userId : String) (rotated : List String)

/-- The next step of a call, with what it wrote; `none` when it is over. -/
def Worker.advance (signals : Signals) (env : Env) (worker : Worker) :
    Option (Signals × Option Write × Phase) :=
  let principal := worker.principal
  match worker.phase, worker.call with
  | .start, _ =>
    some (signals, none, worker.begin configurationFingerprint contextByteLength signals env)
  | .create columns, .createSignal siteId _ =>
    let row := newVersion columns env.versionId env.whisperSignalId 1 principal.organisationId siteId
      principal.userId
    match signals.createVersion row with
    | some signals => some (signals, some (.created row), .returned)
    | none => some (signals, none, .refused .uniquenessConflict)
  | .lockToPublish columns, .publishVersion _ _ => some (signals, none, .latest columns)
  | .latest columns, .publishVersion whisperSignalId _ =>
    match signals.findLatest (principal.organisationId, whisperSignalId) principal.manage with
    | none => some (signals, none, .refused .notFound)
    | some latest => some (signals, none, .insert columns latest)
  | .insert columns latest, .publishVersion whisperSignalId _ =>
    let row := newVersion columns env.versionId whisperSignalId (latest.signalVersion + 1)
      principal.organisationId latest.siteId principal.userId
    match signals.createVersion row with
    | some signals => some (signals, some (.created row), .returned)
    | none => some (signals, none, .refused .uniquenessConflict)
  | .findDraft columns, .updateDraft whisperSignalId signalVersion _ =>
    match signals.findVersion (principal.organisationId, whisperSignalId) signalVersion
        principal.manage with
    | none => some (signals, none, .refused .notFound)
    | some current => some (signals, none, .writeDraft current.id columns)
  | .writeDraft versionId columns, .updateDraft _ _ _ =>
    match signals.updateDraft versionId columns with
    | (true, signals) => some (signals, some (.edited versionId principal.userId columns), .returned)
    | (false, _) => some (signals, none, .refused .statusConflict)
  | .findStatus expected, .transition whisperSignalId signalVersion _ _ =>
    match signals.findVersion (principal.organisationId, whisperSignalId) signalVersion
        principal.manage with
    | none => some (signals, none, .refused .notFound)
    | some current => some (signals, none, .writeStatus current.id expected)
  | .writeStatus versionId expected, .transition _ _ target traceId =>
    match signals.transitionStatus versionId expected target env.now traceId with
    | (true, signals) => some (signals, some (.moved versionId target), .returned)
    | (false, _) => some (signals, none, .refused .statusConflict)
  | .lockToActivate read, .activate _ _ _ => some (signals, none, .current read)
  | .current read, .activate whisperSignalId signalVersion _ =>
    match signals.findVersion (principal.organisationId, whisperSignalId) signalVersion
        principal.approve with
    | none => some (signals, none, .refused .notFound)
    | some current =>
      if current.status ≠ read.status then some (signals, none, .refused .statusConflict)
      else if current.configurationFingerprint ≠ read.configurationFingerprint then
        some (signals, none, .refused .fingerprintConflict)
      else some (signals, none, .incumbents read current.id)
  | .incumbents read versionId, .activate whisperSignalId _ _ =>
    some (signals, none, .promote read versionId
      (signals.findIncumbents (principal.organisationId, whisperSignalId) versionId))
  | .promote read versionId incumbents, .activate _ _ traceId =>
    match worker.activation signals env read versionId incumbents traceId with
    | some signals =>
      some (signals, some (.activated versionId principal.userId incumbents), .returned)
    | none => some (signals, none, .failed)
  | _, _ => none

/-! ## The system -/

structure State where
  signals : Signals
  workers : List Worker

def State.init : State := { signals := .empty, workers := [] }

inductive Label
  | call (principal : Principal) (call : Call)
  | advance (worker : Nat) (env : Env)
  /-- The process dies, or the transaction rolls back. -/
  | fail (worker : Nat)

/-- Whether a step of a call waits for the lock of its family: it takes the lock itself, or
    updates a row of the family. -/
def Phase.waits : Phase → Bool
  | .lockToPublish _ | .lockToActivate _ | .writeDraft _ _ | .writeStatus _ _ => true
  | _ => false

/-- Another call holds the family this one is waiting for. -/
def State.blocked (s : State) (i : Nat) (worker : Worker) : Bool :=
  worker.phase.waits ∧ worker.family?.isSome ∧
    s.workers.zipIdx.any fun (other, j) => j ≠ i ∧ other.holds? = worker.family?

/-- A step of a call with what it wrote. -/
def State.advance (s : State) (i : Nat) (env : Env) : Option (State × Option Write) := do
  let worker ← s.workers[i]?
  if s.blocked i worker then none
  else
    let (signals, write, phase) ←
      worker.advance configurationFingerprint contextByteLength s.signals env
    some ({ signals, workers := s.workers.set i { worker with phase } }, write)

def step (s : State) : Label → Option State
  | .call principal call => some { s with workers := s.workers ++ [⟨principal, call, .start⟩] }
  | .advance i env =>
    (s.advance configurationFingerprint contextByteLength i env).map (·.1)
  | .fail i => do
    let worker ← s.workers[i]?
    some { s with workers := s.workers.set i { worker with phase := .failed } }

/-- What a step commits. -/
def written (s : State) : Label → Option Write
  | .advance i env => (s.advance configurationFingerprint contextByteLength i env).bind (·.2)
  | _ => none

end Steps

end Sentinel.Whisper.Studio
