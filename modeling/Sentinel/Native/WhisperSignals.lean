import Mathlib.Data.List.MinMax
import Mathlib.Data.Rat.Defs
import Sentinel.ForStd.Table

/-! # The Whisper signals

The tables `whisper_signal_versions` and `whisper_activation_approvals` and the statements
on them (`modules/whisper/whisper.repository.ts`), with the lifecycle
of a version (`packages/contracts/src/whisper.ts`). -/

namespace Sentinel.Whisper

inductive SignalStatus
  | draft | simulation | falsePositiveTest | antiSpoofTest | fieldDrill | approval
  | active | rotated | retired
deriving DecidableEq

namespace SignalStatus

/-- `ALLOWED_WHISPER_SIGNAL_STATUS_TRANSITIONS`. -/
def allowed : SignalStatus → List SignalStatus
  | draft => [simulation]
  | simulation => [falsePositiveTest]
  | falsePositiveTest => [antiSpoofTest]
  | antiSpoofTest => [fieldDrill]
  | fieldDrill => [approval]
  | approval => [active]
  | active => [rotated, retired]
  | rotated => []
  | retired => []

def canTransition (source target : SignalStatus) : Bool := source.allowed.contains target

def isTerminal (status : SignalStatus) : Bool := status.allowed.length = 0

/-- `isWhisperConfigurationEditable`. -/
def isEditable (status : SignalStatus) : Bool := status = draft

end SignalStatus

def whisperResponseProtocols : List String := ["SILENT_INCIDENT_RESPONSE"]

/-- `isAllowlistedWhisperResponseProtocol`, where `none` is a null reference. -/
def isAllowlistedResponseProtocol (protocol : Option String) : Bool :=
  protocol.any fun protocol => whisperResponseProtocols.contains protocol

/-- `WhisperSemanticConfiguration`, whose modality is always `DEVICE_ACTION`.  A context
    requirement is given by the canonical JSON of its value. -/
structure SemanticConfiguration where
  deviceActionId : String
  authorisedUserIds : List String
  contextRequirements : List (String × String)
  minimumConfidence : ℚ
  responseProtocolId : Option String

structure SignalVersionRow where
  id : String
  whisperSignalId : String
  signalVersion : Nat
  organisationId : String
  /-- Null is every site of the organisation. -/
  siteId : Option String
  name : String
  status : SignalStatus
  configuration : SemanticConfiguration
  configurationFingerprint : String
  createdByUserId : String
  traceId : String
  activatedAt : Option Int
  rotatedAt : Option Int
  retiredAt : Option Int

def SignalVersionRow.family (row : SignalVersionRow) : String × String :=
  (row.organisationId, row.whisperSignalId)

structure ApprovalRow where
  signalVersionId : String
  organisationId : String
  configurationFingerprint : String
  approvedByUserId : String
  createdByUserId : String
  approvedAt : Int
  traceId : String

/-- `SiteScope`: what a principal's grant reaches. -/
inductive SiteScope
  | orgWide
  | sites (siteIds : List String)

/-- `versionScopeWhere`: a null site is in an organisation-wide scope only. -/
def SiteScope.covers : SiteScope → Option String → Bool
  | .orgWide, _ => true
  | .sites siteIds, some siteId => siteIds.contains siteId
  | .sites _, none => false

structure Signals where
  versions : List SignalVersionRow
  approvals : List ApprovalRow
  versions_id : (versions.map (·.id)).Nodup
  versions_number : (versions.map fun row => (row.family, row.signalVersion)).Nodup
  approvals_version : (approvals.map (·.signalVersionId)).Nodup

namespace Signals

def empty : Signals :=
  { versions := [], approvals := []
    versions_id := List.nodup_nil
    versions_number := List.nodup_nil
    approvals_version := List.nodup_nil }

variable (signals : Signals) (row : SignalVersionRow)

def findVersion (family : String × String) (signalVersion : Nat)
    (scope : SiteScope) : Option SignalVersionRow :=
  signals.versions.find? fun row =>
    row.family = family ∧ row.signalVersion = signalVersion ∧ scope.covers row.siteId

/-- The first of `findFamilyVersions`, and the `latest` of `publishNewVersion`: the version
    with the highest number. -/
def findLatest (family : String × String) (scope : SiteScope) : Option SignalVersionRow :=
  (signals.versions.filter fun row => row.family = family ∧ scope.covers row.siteId).argmax
    (·.signalVersion)

/-- The incumbents of an activation: the other active versions of the family. -/
def findIncumbents (family : String × String) (versionId : String) : List String :=
  (signals.versions.filter fun row =>
    row.family = family ∧ row.status = .active ∧ row.id ≠ versionId).map (·.id)

/-- The `create` of a version; `none` is a unique violation. -/
def createVersion : Option Signals :=
  if h : (∀ old ∈ signals.versions, old.id ≠ row.id) ∧
      (∀ old ∈ signals.versions, (old.family, old.signalVersion) ≠ (row.family, row.signalVersion)) then
    some
      { signals with
        versions := signals.versions ++ [row]
        versions_id := Table.nodup_map_concat signals.versions_id h.1
        versions_number := Table.nodup_map_concat signals.versions_number h.2 }
  else none

def updateVersions (p : SignalVersionRow → Bool)
    (f : SignalVersionRow → SignalVersionRow) (hid : ∀ row, (f row).id = row.id)
    (hnumber : ∀ row, ((f row).family, (f row).signalVersion) = (row.family, row.signalVersion)) :
    Signals :=
  { signals with
    versions := Table.rewrite p f signals.versions
    versions_id := Table.nodup_map_rewrite signals.versions_id hid
    versions_number := Table.nodup_map_rewrite signals.versions_number hnumber }

/-- The compare-and-set of `updateDraftConfiguration`. -/
def isDraft (versionId : String) (row : SignalVersionRow) : Bool :=
  row.id = versionId ∧ row.status = .draft

/-- The columns that `updateDraftConfiguration` sets. -/
structure DraftColumns where
  name : String
  configuration : SemanticConfiguration
  configurationFingerprint : String
  traceId : String

def edited (columns : DraftColumns) (row : SignalVersionRow) : SignalVersionRow :=
  { row with
    name := columns.name
    configuration := columns.configuration
    configurationFingerprint := columns.configurationFingerprint
    traceId := columns.traceId }

/-- The `updateMany` of `updateDraftConfiguration`: whether it hit. -/
def updateDraft (versionId : String) (columns : DraftColumns) : Bool × Signals :=
  (signals.versions.any (isDraft versionId),
    signals.updateVersions (isDraft versionId) (edited columns) (fun _ => rfl) fun _ => rfl)

/-- The compare-and-set of `transitionStatus`. -/
def hasStatus (versionId : String) (expected : SignalStatus) (row : SignalVersionRow) : Bool :=
  row.id = versionId ∧ row.status = expected

def transitioned (target : SignalStatus) (at_ : Int) (traceId : String) (row : SignalVersionRow) :
    SignalVersionRow :=
  { row with
    status := target
    traceId
    retiredAt := if target = .retired then some at_ else row.retiredAt
    rotatedAt := if target = .rotated then some at_ else row.rotatedAt }

/-- The `updateMany` of `transitionStatus`: whether it hit. -/
def transitionStatus (versionId : String) (expected target : SignalStatus)
    (at_ : Int) (traceId : String) : Bool × Signals :=
  (signals.versions.any (hasStatus versionId expected),
    signals.updateVersions (hasStatus versionId expected) (transitioned target at_ traceId)
      (fun _ => rfl) fun _ => rfl)

def rotated (at_ : Int) (row : SignalVersionRow) : SignalVersionRow :=
  { row with status := .rotated, rotatedAt := some at_ }

def rotateIncumbents (incumbents : List String) (at_ : Int) : Signals :=
  signals.updateVersions (fun row => incumbents.contains row.id) (rotated at_)
    (fun _ => rfl) fun _ => rfl

/-- The `create` of an approval; `none` is a unique violation. -/
def createApproval (approval : ApprovalRow) : Option Signals :=
  if h : ∀ old ∈ signals.approvals, old.signalVersionId ≠ approval.signalVersionId then
    some
      { signals with
        approvals := signals.approvals ++ [approval]
        approvals_version := Table.nodup_map_concat signals.approvals_version h }
  else none

/-- The compare-and-set of the promotion. -/
def promotable (versionId : String) (expected : SignalStatus) (fingerprint : String)
    (row : SignalVersionRow) : Bool :=
  row.id = versionId ∧ row.status = expected ∧ row.configurationFingerprint = fingerprint

def promoted (at_ : Int) (traceId : String) (row : SignalVersionRow) : SignalVersionRow :=
  { row with status := .active, activatedAt := some at_, traceId }

/-- The promotion; `none` throws, as it does when no row matched. -/
def promote (versionId : String) (expected : SignalStatus)
    (fingerprint : String) (at_ : Int) (traceId : String) : Option Signals :=
  if signals.versions.any (promotable versionId expected fingerprint) then
    some (signals.updateVersions (promotable versionId expected fingerprint) (promoted at_ traceId)
      (fun _ => rfl) fun _ => rfl)
  else none

end Signals

end Sentinel.Whisper
