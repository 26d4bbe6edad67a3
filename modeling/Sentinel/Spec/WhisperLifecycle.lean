import Sentinel.ForStd.List
import Sentinel.ForStd.Transition
import Sentinel.Native.WhisperStudio

/-! # The lifecycle of a Whisper signal

The file first says what a step of a call can do (`Worker.Moves`) and what a write does to the
tables (`Wrote`); the invariants follow from these. -/

namespace Sentinel.Whisper.Studio

open Signals (DraftColumns)

/-! ## What a step of a call can do -/

/-- The columns a call carries to its write. -/
def Phase.columns? : Phase → Option DraftColumns
  | .create columns | .lockToPublish columns | .latest columns | .insert columns _
  | .findDraft columns | .writeDraft _ columns => some columns
  | _ => none

def Phase.over : Phase → Bool
  | .returned | .refused _ | .failed => true
  | _ => false

section Advance

variable (configurationFingerprint : SemanticConfiguration → String)

/-- The ways a call moves on, with what each has found out. -/
inductive Worker.Moves (signals : Signals) (env : Env) (worker : Worker) :
    Signals → Option Write → Phase → Prop
  | stop {phase : Phase} (done : phase.over = true) : Moves signals env worker signals none phase
  | create {siteId : Option String} {input : ConfigurationInput}
      (call : worker.call = .createSignal siteId input) :
      Moves signals env worker signals none (.create (input.columns configurationFingerprint))
  | publish {whisperSignalId : String} {input : ConfigurationInput} {newest : SignalVersionRow}
      (call : worker.call = .publishVersion whisperSignalId input)
      (found : signals.findLatest (worker.principal.organisationId, whisperSignalId)
        worker.principal.manage = some newest) :
      Moves signals env worker signals none
        (.lockToPublish (input.columns configurationFingerprint))
  | edit {whisperSignalId : String} {signalVersion : Nat} {input : ConfigurationInput}
      (call : worker.call = .updateDraft whisperSignalId signalVersion input) :
      Moves signals env worker signals none (.findDraft (input.columns configurationFingerprint))
  | transition {whisperSignalId traceId : String} {signalVersion : Nat} {target : SignalStatus}
      {current : SignalVersionRow}
      (call : worker.call = .transition whisperSignalId signalVersion target traceId)
      (inactive : target ≠ .active) (legal : current.status.canTransition target = true) :
      Moves signals env worker signals none (.findStatus current.status)
  | activate {whisperSignalId traceId : String} {signalVersion : Nat} {current : SignalVersionRow}
      (call : worker.call = .activate whisperSignalId signalVersion traceId)
      (found : signals.findVersion (worker.principal.organisationId, whisperSignalId) signalVersion
        worker.principal.approve = some current)
      (legal : current.status.canTransition .active = true)
      (distinct : approverIsDistinct current.createdByUserId worker.principal.userId = true) :
      Moves signals env worker signals none (.lockToActivate current)
  | lockedToPublish {columns : DraftColumns} (phase : worker.phase = .lockToPublish columns) :
      Moves signals env worker signals none (.latest columns)
  | latest {columns : DraftColumns} {whisperSignalId : String} {input : ConfigurationInput}
      {latest : SignalVersionRow} (phase : worker.phase = .latest columns)
      (call : worker.call = .publishVersion whisperSignalId input)
      (found : signals.findLatest (worker.principal.organisationId, whisperSignalId)
        worker.principal.manage = some latest) :
      Moves signals env worker signals none (.insert columns latest)
  | findDraft {columns : DraftColumns} {whisperSignalId : String} {signalVersion : Nat}
      {input : ConfigurationInput} {current : SignalVersionRow}
      (phase : worker.phase = .findDraft columns)
      (call : worker.call = .updateDraft whisperSignalId signalVersion input)
      (found : signals.findVersion (worker.principal.organisationId, whisperSignalId) signalVersion
        worker.principal.manage = some current) :
      Moves signals env worker signals none (.writeDraft current.id columns)
  | findStatus {expected target : SignalStatus} {whisperSignalId traceId : String}
      {signalVersion : Nat} {current : SignalVersionRow}
      (phase : worker.phase = .findStatus expected)
      (call : worker.call = .transition whisperSignalId signalVersion target traceId)
      (found : signals.findVersion (worker.principal.organisationId, whisperSignalId) signalVersion
        worker.principal.manage = some current) :
      Moves signals env worker signals none (.writeStatus current.id expected)
  | lockedToActivate {read : SignalVersionRow} (phase : worker.phase = .lockToActivate read) :
      Moves signals env worker signals none (.current read)
  | current {read current : SignalVersionRow} {whisperSignalId traceId : String}
      {signalVersion : Nat} (phase : worker.phase = .current read)
      (call : worker.call = .activate whisperSignalId signalVersion traceId)
      (found : signals.findVersion (worker.principal.organisationId, whisperSignalId) signalVersion
        worker.principal.approve = some current)
      (status : current.status = read.status)
      (fingerprint : current.configurationFingerprint = read.configurationFingerprint) :
      Moves signals env worker signals none (.incumbents read current.id)
  | incumbents {read : SignalVersionRow} {versionId whisperSignalId traceId : String}
      {signalVersion : Nat} (phase : worker.phase = .incumbents read versionId)
      (call : worker.call = .activate whisperSignalId signalVersion traceId) :
      Moves signals env worker signals none (.promote read versionId
        (signals.findIncumbents (worker.principal.organisationId, whisperSignalId) versionId))
  | created {columns : DraftColumns} {siteId : Option String} {input : ConfigurationInput}
      {signals' : Signals} (phase : worker.phase = .create columns)
      (call : worker.call = .createSignal siteId input)
      (write : signals.createVersion (newVersion columns env.versionId env.whisperSignalId 1
        worker.principal.organisationId siteId worker.principal.userId) = some signals') :
      Moves signals env worker signals' (some (.created (newVersion columns env.versionId
        env.whisperSignalId 1 worker.principal.organisationId siteId worker.principal.userId)))
        .returned
  | published {columns : DraftColumns} {latest : SignalVersionRow} {whisperSignalId : String}
      {input : ConfigurationInput} {signals' : Signals}
      (phase : worker.phase = .insert columns latest)
      (call : worker.call = .publishVersion whisperSignalId input)
      (write : signals.createVersion (newVersion columns env.versionId whisperSignalId
        (latest.signalVersion + 1) worker.principal.organisationId latest.siteId
        worker.principal.userId) = some signals') :
      Moves signals env worker signals' (some (.created (newVersion columns env.versionId
        whisperSignalId (latest.signalVersion + 1) worker.principal.organisationId latest.siteId
        worker.principal.userId))) .returned
  | edited {versionId : String} {columns : DraftColumns} {signals' : Signals}
      (phase : worker.phase = .writeDraft versionId columns)
      (write : signals.updateDraft versionId columns = (true, signals')) :
      Moves signals env worker signals' (some (.edited versionId worker.principal.userId columns))
        .returned
  | moved {versionId whisperSignalId traceId : String} {signalVersion : Nat}
      {expected target : SignalStatus} {signals' : Signals}
      (phase : worker.phase = .writeStatus versionId expected)
      (call : worker.call = .transition whisperSignalId signalVersion target traceId)
      (write : signals.transitionStatus versionId expected target env.now traceId =
        (true, signals')) :
      Moves signals env worker signals' (some (.moved versionId target)) .returned
  | activated {read : SignalVersionRow} {versionId whisperSignalId traceId : String}
      {signalVersion : Nat} {incumbents : List String} {signals' : Signals}
      (phase : worker.phase = .promote read versionId incumbents)
      (call : worker.call = .activate whisperSignalId signalVersion traceId)
      (write : worker.activation signals env read versionId incumbents traceId = some signals') :
      Moves signals env worker signals'
        (some (.activated versionId worker.principal.userId incumbents)) .returned

variable {configurationFingerprint} {contextByteLength : List (String × String) → Nat}
  {signals signals' : Signals} {env : Env} {worker : Worker} {write : Option Write} {phase : Phase}

/-- The reads and checks before the transaction. -/
theorem begin_moves (signals : Signals) (env : Env) (worker : Worker) :
    worker.Moves configurationFingerprint signals env signals none
      (worker.begin configurationFingerprint contextByteLength signals env) := by
  obtain ⟨principal, call, _⟩ := worker
  cases call with
  | createSignal siteId input =>
    simp only [Worker.begin]
    repeat' split
    all_goals first
      | exact .stop rfl
      | exact .create rfl
  | publishVersion whisperSignalId input =>
    simp only [Worker.begin]
    split
    · exact .stop rfl
    · split
      · exact .stop rfl
      · rename_i newest hfound
        split
        · exact .stop rfl
        · exact .publish rfl hfound
  | updateDraft whisperSignalId signalVersion input =>
    simp only [Worker.begin]
    repeat' split
    all_goals first
      | exact .stop rfl
      | exact .edit rfl
  | transition whisperSignalId signalVersion target traceId =>
    simp only [Worker.begin]
    split
    · exact .stop rfl
    · rename_i hinactive
      split
      · exact .stop rfl
      · split
        · exact .stop rfl
        · rename_i hlegal
          exact .transition rfl hinactive (by simpa using hlegal)
  | activate whisperSignalId signalVersion traceId =>
    simp only [Worker.begin]
    split
    · exact .stop rfl
    · rename_i current hfound
      split
      · exact .stop rfl
      · rename_i hlegal
        split
        · exact .stop rfl
        · rename_i hdistinct
          split
          · exact .stop rfl
          · exact .activate rfl hfound (by simpa using hlegal) (by simpa using hdistinct)

theorem advance_moves
    (h : worker.advance configurationFingerprint contextByteLength signals env =
      some (signals', write, phase)) :
    worker.Moves configurationFingerprint signals env signals' write phase := by
  obtain ⟨principal, call, now⟩ := worker
  cases now with
  | start =>
    cases h
    exact begin_moves signals env _
  | returned | refused | failed => cases h
  | create columns =>
    cases call with
    | createSignal siteId input =>
      simp only [Worker.advance] at h
      split at h
      · cases h
        exact .created rfl rfl ‹_›
      · cases h
        exact .stop rfl
    | _ => cases h
  | lockToPublish columns =>
    cases call with
    | publishVersion =>
      cases h
      exact .lockedToPublish rfl
    | _ => cases h
  | latest columns =>
    cases call with
    | publishVersion whisperSignalId input =>
      simp only [Worker.advance] at h
      split at h
      · cases h
        exact .stop rfl
      · cases h
        exact .latest rfl rfl ‹_›
    | _ => cases h
  | insert columns latest =>
    cases call with
    | publishVersion whisperSignalId input =>
      simp only [Worker.advance] at h
      split at h
      · cases h
        exact .published rfl rfl ‹_›
      · cases h
        exact .stop rfl
    | _ => cases h
  | findDraft columns =>
    cases call with
    | updateDraft whisperSignalId signalVersion input =>
      simp only [Worker.advance] at h
      split at h
      · cases h
        exact .stop rfl
      · cases h
        exact .findDraft rfl rfl ‹_›
    | _ => cases h
  | writeDraft versionId columns =>
    cases call with
    | updateDraft =>
      simp only [Worker.advance] at h
      split at h
      · cases h
        exact .edited rfl ‹_›
      · cases h
        exact .stop rfl
    | _ => cases h
  | findStatus expected =>
    cases call with
    | transition whisperSignalId signalVersion target traceId =>
      simp only [Worker.advance] at h
      split at h
      · cases h
        exact .stop rfl
      · cases h
        exact .findStatus rfl rfl ‹_›
    | _ => cases h
  | writeStatus versionId expected =>
    cases call with
    | transition whisperSignalId signalVersion target traceId =>
      simp only [Worker.advance] at h
      split at h
      · cases h
        exact .moved rfl rfl ‹_›
      · cases h
        exact .stop rfl
    | _ => cases h
  | lockToActivate read =>
    cases call with
    | activate =>
      cases h
      exact .lockedToActivate rfl
    | _ => cases h
  | current read =>
    cases call with
    | activate whisperSignalId signalVersion traceId =>
      simp only [Worker.advance] at h
      split at h
      · cases h
        exact .stop rfl
      · split at h
        · cases h
          exact .stop rfl
        · split at h
          · cases h
            exact .stop rfl
          · rename_i hfound hstatus hfingerprint
            cases h
            exact .current rfl rfl hfound (not_not.mp hstatus) (not_not.mp hfingerprint)
    | _ => cases h
  | incumbents read versionId =>
    cases call with
    | activate =>
      cases h
      exact .incumbents rfl rfl
    | _ => cases h
  | promote read versionId incumbents =>
    cases call with
    | activate whisperSignalId signalVersion traceId =>
      simp only [Worker.advance] at h
      split at h
      · cases h
        exact .activated rfl rfl ‹_›
      · cases h
        exact .stop rfl
    | _ => cases h

end Advance

/-! ## Stages -/

/-- The statuses a version has been through when it has this one. -/
def path : SignalStatus → List SignalStatus
  | .draft => [.draft]
  | .simulation => [.draft, .simulation]
  | .falsePositiveTest => [.draft, .simulation, .falsePositiveTest]
  | .antiSpoofTest => [.draft, .simulation, .falsePositiveTest, .antiSpoofTest]
  | .fieldDrill => [.draft, .simulation, .falsePositiveTest, .antiSpoofTest, .fieldDrill]
  | .approval =>
    [.draft, .simulation, .falsePositiveTest, .antiSpoofTest, .fieldDrill, .approval]
  | .active =>
    [.draft, .simulation, .falsePositiveTest, .antiSpoofTest, .fieldDrill, .approval, .active]
  | .rotated =>
    [.draft, .simulation, .falsePositiveTest, .antiSpoofTest, .fieldDrill, .approval, .active,
      .rotated]
  | .retired =>
    [.draft, .simulation, .falsePositiveTest, .antiSpoofTest, .fieldDrill, .approval, .active,
      .retired]

/-- A legal transition adds one stage. -/
theorem path_of_canTransition {source target : SignalStatus}
    (h : source.canTransition target = true) : path target = path source ++ [target] := by
  cases source <;> cases target <;> first | rfl | cases h

theorem active_mem_path_iff {source target : SignalStatus}
    (h : source.canTransition target = true) (hinactive : target ≠ .active) :
    SignalStatus.active ∈ path target ↔ SignalStatus.active ∈ path source := by
  rw [path_of_canTransition h, List.mem_append, List.mem_singleton]
  exact ⟨fun hmem => hmem.resolve_right hinactive.symm, .inl⟩

theorem eq_approval_of_canTransition {source : SignalStatus}
    (h : source.canTransition .active = true) : source = .approval := by
  cases source <;> first | rfl | cases h

def Write.stage (versionId : String) : Write → Option SignalStatus
  | .created row => if row.id = versionId then some .draft else none
  | .edited _ _ _ => none
  | .moved movedId target => if movedId = versionId then some target else none
  | .activated activatedId _ rotated =>
    if activatedId = versionId then some .active
    else if rotated.contains versionId then some .rotated
    else none

/-- The statuses a version has had, in order. -/
def stages (log : List Write) (versionId : String) : List SignalStatus :=
  log.filterMap (Write.stage versionId)

@[simp] theorem stages_concat (log : List Write) (write : Write) (versionId : String) :
    stages (log ++ [write]) versionId = stages log versionId ++ (write.stage versionId).toList := by
  rw [stages, List.filterMap_append, ← stages]
  cases hstage : write.stage versionId <;> simp [List.filterMap, hstage]

section Rows

variable (configurationFingerprint : SemanticConfiguration → String)

/-- A write leaves a version's status alone or moves it on, and its configuration alone once it
    has left `DRAFT`. -/
structure Write.RowStep (write : Write) (row row' : SignalVersionRow) : Prop where
  id : row'.id = row.id
  number : row'.signalVersion = row.signalVersion
  family : row'.family = row.family
  siteId : row'.siteId = row.siteId
  creator : row'.createdByUserId = row.createdByUserId
  digest : row.configurationFingerprint = configurationFingerprint row.configuration →
    row'.configurationFingerprint = configurationFingerprint row'.configuration
  frozen : row.status ≠ .draft → row'.configuration = row.configuration ∧
    row'.configurationFingerprint = row.configurationFingerprint
  stage : row'.status = row.status ∧ write.stage row.id = none ∨
    row.status.canTransition row'.status = true ∧ write.stage row.id = some row'.status

/-- What a write does to the tables: it creates the next version of a family, changes versions
    of a family, or activates one of them. -/
inductive Wrote (signals : Signals) : String × String → Write → Signals → Prop
  | created {row : SignalVersionRow} {signals' : Signals}
      (write : signals.createVersion row = some signals') (draft : row.status = .draft)
      (digest : row.configurationFingerprint = configurationFingerprint row.configuration)
      (next : row.signalVersion = 1 ∨ ∃ latest ∈ signals.versions, latest.family = row.family ∧
        latest.siteId = row.siteId ∧ row.signalVersion = latest.signalVersion + 1) :
      Wrote signals row.family (.created row) signals'
  | updated {family : String × String} {write : Write} {signals' : Signals}
      (change : SignalVersionRow → SignalVersionRow)
      (versions : signals'.versions = signals.versions.map change)
      (rows : ∀ row ∈ signals.versions, write.RowStep configurationFingerprint row (change row))
      (others : ∀ row ∈ signals.versions, row.family ≠ family → change row = row)
      (approvals : signals'.approvals = signals.approvals)
      (inactive : ∀ row ∈ signals.versions, write.stage row.id ≠ some .active)
      (known : ∀ versionId, write.stage versionId ≠ none →
        ∃ row ∈ signals.versions, row.id = versionId) :
      Wrote signals family write signals'
  | activated {target : SignalVersionRow} {write : Write} {signals' : Signals}
      {approval : ApprovalRow} (change : SignalVersionRow → SignalVersionRow)
      (versions : signals'.versions = signals.versions.map change)
      (rows : ∀ row ∈ signals.versions, write.RowStep configurationFingerprint row (change row))
      (others : ∀ row ∈ signals.versions, row.family ≠ target.family → change row = row)
      (mem : target ∈ signals.versions) (status : target.status = .approval)
      (promoted : (change target).status = .active)
      (rotated : ∀ row ∈ signals.versions, row.family = target.family →
        (change row).status = .active → row.id = target.id)
      (staged : ∀ row ∈ signals.versions, write.stage row.id = some .active → row.id = target.id)
      (approvals : signals'.approvals = signals.approvals ++ [approval])
      (names : approval.signalVersionId = target.id ∧
        approval.configurationFingerprint = target.configurationFingerprint ∧
        approval.approvedByUserId ≠ target.createdByUserId)
      (known : ∀ versionId, write.stage versionId ≠ none →
        ∃ row ∈ signals.versions, row.id = versionId) :
      Wrote signals target.family write signals'

/-! ## The invariant of the tables -/

/-- What the tables keep, with the writes that have led to them. -/
structure Lawful (signals : Signals) (log : List Write) : Prop where
  numbered : ∀ family, (signals.versions.filter (·.family = family)).map (·.signalVersion) =
    List.range' 1 (signals.versions.filter (·.family = family)).length
  oneActive : ∀ a ∈ signals.versions, ∀ b ∈ signals.versions, a.family = b.family →
    a.status = .active → b.status = .active → a = b
  digest : ∀ row ∈ signals.versions,
    row.configurationFingerprint = configurationFingerprint row.configuration
  walked : ∀ row ∈ signals.versions, stages log row.id = path row.status
  approved : ∀ row ∈ signals.versions, .active ∈ path row.status →
    ∃ approval, signals.approvals.filter (·.signalVersionId = row.id) = [approval] ∧
      approval.configurationFingerprint = row.configurationFingerprint ∧
      approval.approvedByUserId ≠ row.createdByUserId
  unapproved : ∀ row ∈ signals.versions, .active ∉ path row.status →
    signals.approvals.filter (·.signalVersionId = row.id) = []
  known : ∀ versionId, stages log versionId ≠ [] → ∃ row ∈ signals.versions, row.id = versionId
  attested : ∀ approval ∈ signals.approvals, ∃ row ∈ signals.versions,
    row.id = approval.signalVersionId

variable {configurationFingerprint} {signals signals' : Signals} {log : List Write}
  {family : String × String} {write : Write}

variable {row row' : SignalVersionRow} {change : SignalVersionRow → SignalVersionRow}

theorem lawful_empty : Lawful configurationFingerprint .empty [] where
  numbered _ := rfl
  oneActive _ h := nomatch h
  digest _ h := nomatch h
  walked _ h := nomatch h
  approved _ h := nomatch h
  unapproved _ h := nomatch h
  known _ h := absurd rfl h
  attested _ h := nomatch h

theorem createVersion_eq_some (h : signals.createVersion row = some signals') :
    signals'.versions = signals.versions ++ [row] ∧ signals'.approvals = signals.approvals ∧
      (∀ old ∈ signals.versions, old.id ≠ row.id) ∧
      ∀ old ∈ signals.versions, (old.family, old.signalVersion) ≠ (row.family, row.signalVersion) := by
  rw [Signals.createVersion] at h
  split at h
  · rename_i hfresh
    cases h
    exact ⟨rfl, rfl, hfresh⟩
  · cases h

/-- The numbers of a family are those up to its size. -/
theorem Lawful.mem_numbers (hs : Lawful configurationFingerprint signals log) {number : Nat} :
    (∃ row ∈ signals.versions, row.family = family ∧ row.signalVersion = number) ↔
      1 ≤ number ∧ number ≤ (signals.versions.filter (·.family = family)).length := by
  have hmem : number ∈ (signals.versions.filter (·.family = family)).map (·.signalVersion) ↔
      1 ≤ number ∧ number ≤ (signals.versions.filter (·.family = family)).length := by
    rw [hs.numbered family, List.mem_range'_1]
    omega
  rw [← hmem]
  simp only [List.mem_map, List.mem_filter, decide_eq_true_eq, and_assoc]

/-- The next version of a family has the number after its size. -/
theorem Lawful.next_number (hs : Lawful configurationFingerprint signals log)
    (hfresh : ∀ old ∈ signals.versions,
      (old.family, old.signalVersion) ≠ (row.family, row.signalVersion))
    (hnext : row.signalVersion = 1 ∨ ∃ latest ∈ signals.versions, latest.family = row.family ∧
      latest.siteId = row.siteId ∧ row.signalVersion = latest.signalVersion + 1) :
    row.signalVersion = (signals.versions.filter (·.family = row.family)).length + 1 := by
  have hunused : ¬ (1 ≤ row.signalVersion ∧
      row.signalVersion ≤ (signals.versions.filter (·.family = row.family)).length) := by
    rw [← hs.mem_numbers]
    rintro ⟨old, hold, hfamily, hnumber⟩
    exact hfresh old hold (by rw [hfamily, hnumber])
  rcases hnext with hone | ⟨latest, hlatest, hfamily, _, hnumber⟩
  · omega
  · have hused := hs.mem_numbers.mp ⟨latest, hlatest, hfamily, rfl⟩
    omega

/-- The columns of a kind of rows that a change keeps. -/
theorem filter_map_change {rows : List SignalVersionRow}
    (hfamily : ∀ row ∈ rows, (change row).family = row.family) :
    (rows.map change).filter (·.family = family) = (rows.filter (·.family = family)).map change := by
  rw [List.filter_map]
  congr 1
  refine List.filter_congr fun row hrow => ?_
  simp only [Function.comp_apply, hfamily row hrow]

theorem numbered_map (hs : Lawful configurationFingerprint signals log)
    (hversions : signals'.versions = signals.versions.map change)
    (hrows : ∀ row ∈ signals.versions, write.RowStep configurationFingerprint row (change row)) :
    (signals'.versions.filter (·.family = family)).map (·.signalVersion) =
      List.range' 1 (signals'.versions.filter (·.family = family)).length := by
  rw [hversions, filter_map_change fun row hrow => (hrows row hrow).family, List.length_map,
    ← hs.numbered family, List.map_map]
  refine List.map_congr_left fun row hrow => ?_
  exact (hrows row (List.mem_filter.mp hrow).1).number

theorem Write.RowStep.walked (h : write.RowStep configurationFingerprint row row')
    (hbefore : stages log row.id = path row.status) :
    stages (log ++ [write]) row'.id = path row'.status := by
  rw [stages_concat, h.id, hbefore]
  rcases h.stage with ⟨hstatus, hstage⟩ | ⟨hlegal, hstage⟩
  · rw [hstatus, hstage, Option.toList_none, List.append_nil]
  · rw [hstage, Option.toList_some, path_of_canTransition hlegal]

/-- A version that stays clear of `ACTIVE` keeps whether it has been there. -/
theorem Write.RowStep.active_iff (h : write.RowStep configurationFingerprint row row')
    (hinactive : write.stage row.id ≠ some .active) :
    .active ∈ path row'.status ↔ .active ∈ path row.status := by
  rcases h.stage with ⟨hstatus, _⟩ | ⟨hlegal, hstage⟩
  · rw [hstatus]
  · exact active_mem_path_iff hlegal fun htarget => hinactive (htarget ▸ hstage)

theorem ne_draft_of_active_mem {status : SignalStatus} (h : .active ∈ path status) :
    status ≠ .draft := by
  rintro rfl
  exact absurd h (by decide)

theorem known_concat (hknown : ∀ versionId, stages log versionId ≠ [] →
      ∃ row ∈ signals'.versions, row.id = versionId)
    (hwrite : ∀ versionId, write.stage versionId ≠ none →
      ∃ row ∈ signals'.versions, row.id = versionId) (versionId : String)
    (h : stages (log ++ [write]) versionId ≠ []) : ∃ row ∈ signals'.versions, row.id = versionId := by
  rw [stages_concat] at h
  by_cases hold : stages log versionId = []
  · refine hwrite versionId fun hnone => h ?_
    rw [hold, hnone]
    rfl
  · exact hknown versionId hold

theorem Lawful.created (hs : Lawful configurationFingerprint signals log)
    (hcreate : signals.createVersion row = some signals') (hdraft : row.status = .draft)
    (hdigest : row.configurationFingerprint = configurationFingerprint row.configuration)
    (hnext : row.signalVersion = 1 ∨ ∃ latest ∈ signals.versions, latest.family = row.family ∧
      latest.siteId = row.siteId ∧ row.signalVersion = latest.signalVersion + 1) :
    Lawful configurationFingerprint signals' (log ++ [.created row]) := by
  obtain ⟨hversions, happrovals, hid, hfresh⟩ := createVersion_eq_some hcreate
  have hnew : stages log row.id = [] := by
    by_contra hstages
    obtain ⟨old, hold, hsame⟩ := hs.known row.id hstages
    exact hid old hold hsame
  have hkept : ∀ old ∈ signals.versions, old ∈ signals'.versions := fun old hold =>
    hversions ▸ List.mem_append_left _ hold
  have hmem : row ∈ signals'.versions := hversions ▸ List.mem_append_right _ (List.mem_singleton_self _)
  have hcases : ∀ other ∈ signals'.versions, other ∈ signals.versions ∨ other = row := by
    intro other hother
    rw [hversions] at hother
    exact (List.mem_append.mp hother).imp_right List.mem_singleton.mp
  refine ⟨fun family => ?_, fun a ha b hb hfamily hactive hactive' => ?_, fun other hother => ?_,
    fun other hother => ?_, fun other hother hactive => ?_, fun other hother hactive => ?_,
    known_concat (fun versionId hstages => ?_) (fun versionId hstage => ?_), fun approval hmem' => ?_⟩
  · rw [hversions, List.filter_append]
    by_cases hfamily : row.family = family
    · have hnumber := hs.next_number hfresh hnext
      rw [hfamily] at hnumber
      rw [List.filter_cons_of_pos (by simpa using hfamily), List.filter_nil, List.map_append,
        List.length_append, hs.numbered family, List.map_singleton, List.length_singleton, hnumber,
        List.range'_1_concat, Nat.add_comm]
    · rw [List.filter_cons_of_neg (by simpa using hfamily), List.filter_nil, List.append_nil]
      exact hs.numbered family
  · rcases hcases a ha with ha | rfl
    · rcases hcases b hb with hb | rfl
      · exact hs.oneActive a ha b hb hfamily hactive hactive'
      · cases hdraft.symm.trans hactive'
    · cases hdraft.symm.trans hactive
  · rcases hcases other hother with hold | rfl
    · exact hs.digest other hold
    · exact hdigest
  · rw [stages_concat]
    rcases hcases other hother with hold | rfl
    · rw [hs.walked other hold, Write.stage, if_neg (Ne.symm (hid other hold)), Option.toList_none,
        List.append_nil]
    · rw [hnew, Write.stage, if_pos rfl, hdraft]
      rfl
  · rcases hcases other hother with hold | rfl
    · rw [happrovals]
      exact hs.approved other hold hactive
    · exact absurd hdraft (ne_draft_of_active_mem hactive)
  · rw [happrovals]
    rcases hcases other hother with hold | rfl
    · exact hs.unapproved other hold hactive
    · refine List.filter_eq_nil_iff.mpr fun approval happroval hsame => ?_
      obtain ⟨old, hold, hattested⟩ := hs.attested approval happroval
      exact hid old hold (hattested.trans (of_decide_eq_true hsame))
  · obtain ⟨old, hold, hsame⟩ := hs.known versionId hstages
    exact ⟨old, hkept old hold, hsame⟩
  · refine ⟨row, hmem, ?_⟩
    by_contra hother
    exact hstage (if_neg hother)
  · rw [happrovals] at hmem'
    obtain ⟨old, hold, hsame⟩ := hs.attested approval hmem'
    exact ⟨old, hkept old hold, hsame⟩

/-- What a change of versions keeps whatever it is. -/
theorem Lawful.changed (hs : Lawful configurationFingerprint signals log)
    (hversions : signals'.versions = signals.versions.map change)
    (hrows : ∀ row ∈ signals.versions, write.RowStep configurationFingerprint row (change row))
    (hknown : ∀ versionId, write.stage versionId ≠ none →
      ∃ row ∈ signals.versions, row.id = versionId) :
    (∀ row ∈ signals.versions, change row ∈ signals'.versions ∧ (change row).id = row.id) ∧
    (∀ row' ∈ signals'.versions, row'.configurationFingerprint =
      configurationFingerprint row'.configuration) ∧
    (∀ row' ∈ signals'.versions, stages (log ++ [write]) row'.id = path row'.status) ∧
    ∀ versionId, stages (log ++ [write]) versionId ≠ [] →
      ∃ row ∈ signals'.versions, row.id = versionId := by
  have hmem : ∀ row ∈ signals.versions, change row ∈ signals'.versions ∧ (change row).id = row.id :=
    fun row hrow => ⟨hversions ▸ List.mem_map_of_mem hrow, (hrows row hrow).id⟩
  have hkept : ∀ versionId, (∃ row ∈ signals.versions, row.id = versionId) →
      ∃ row ∈ signals'.versions, row.id = versionId := by
    rintro versionId ⟨row, hrow, hid⟩
    exact ⟨change row, (hmem row hrow).1, (hmem row hrow).2.trans hid⟩
  refine ⟨hmem, fun row' hrow' => ?_, fun row' hrow' => ?_, known_concat
    (fun versionId h => hkept versionId (hs.known versionId h))
    fun versionId h => hkept versionId (hknown versionId h)⟩
  · rw [hversions] at hrow'
    obtain ⟨row, hrow, rfl⟩ := List.mem_map.mp hrow'
    exact (hrows row hrow).digest (hs.digest row hrow)
  · rw [hversions] at hrow'
    obtain ⟨row, hrow, rfl⟩ := List.mem_map.mp hrow'
    exact (hrows row hrow).walked (hs.walked row hrow)

theorem Lawful.updated (hs : Lawful configurationFingerprint signals log)
    (hversions : signals'.versions = signals.versions.map change)
    (hrows : ∀ row ∈ signals.versions, write.RowStep configurationFingerprint row (change row))
    (happrovals : signals'.approvals = signals.approvals)
    (hinactive : ∀ row ∈ signals.versions, write.stage row.id ≠ some .active)
    (hknown : ∀ versionId, write.stage versionId ≠ none →
      ∃ row ∈ signals.versions, row.id = versionId) :
    Lawful configurationFingerprint signals' (log ++ [write]) := by
  obtain ⟨hmem, hdigest, hwalked, hknown'⟩ := hs.changed hversions hrows hknown
  have hactive : ∀ row ∈ signals.versions, (change row).status = .active → row.status = .active := by
    intro row hrow hstatus
    rcases (hrows row hrow).stage with ⟨hsame, _⟩ | ⟨_, hstage⟩
    · exact hsame.symm.trans hstatus
    · exact absurd (hstatus ▸ hstage) (hinactive row hrow)
  refine ⟨fun family => numbered_map hs hversions hrows, ?_, hdigest, hwalked, ?_, ?_, hknown', ?_⟩
  · intro a ha b hb hfamily hstatus hstatus'
    rw [hversions] at ha hb
    obtain ⟨olda, holda, rfl⟩ := List.mem_map.mp ha
    obtain ⟨oldb, holdb, rfl⟩ := List.mem_map.mp hb
    rw [(hrows olda holda).family, (hrows oldb holdb).family] at hfamily
    exact congrArg change (hs.oneActive olda holda oldb holdb hfamily (hactive olda holda hstatus)
      (hactive oldb holdb hstatus'))
  · intro row' hrow' hpath
    rw [hversions] at hrow'
    obtain ⟨row, hrow, rfl⟩ := List.mem_map.mp hrow'
    have hrowStep := hrows row hrow
    have hbefore := (hrowStep.active_iff (hinactive row hrow)).mp hpath
    obtain ⟨approval, hfilter, hfingerprint, hdistinct⟩ := hs.approved row hrow hbefore
    refine ⟨approval, ?_, ?_, ?_⟩
    · rw [happrovals, hrowStep.id]
      exact hfilter
    · rw [(hrowStep.frozen (ne_draft_of_active_mem hbefore)).2]
      exact hfingerprint
    · rw [hrowStep.creator]
      exact hdistinct
  · intro row' hrow' hpath
    rw [hversions] at hrow'
    obtain ⟨row, hrow, rfl⟩ := List.mem_map.mp hrow'
    rw [happrovals, (hrows row hrow).id]
    exact hs.unapproved row hrow fun hbefore =>
      hpath (((hrows row hrow).active_iff (hinactive row hrow)).mpr hbefore)
  · intro approval happroval
    rw [happrovals] at happroval
    obtain ⟨row, hrow, hid⟩ := hs.attested approval happroval
    exact ⟨change row, (hmem row hrow).1, (hmem row hrow).2.trans hid⟩

theorem Lawful.activated (hs : Lawful configurationFingerprint signals log)
    {target : SignalVersionRow} {approval : ApprovalRow}
    (hversions : signals'.versions = signals.versions.map change)
    (hrows : ∀ row ∈ signals.versions, write.RowStep configurationFingerprint row (change row))
    (hothers : ∀ row ∈ signals.versions, row.family ≠ target.family → change row = row)
    (htarget : target ∈ signals.versions) (hstatus : target.status = .approval)
    (hpromoted : (change target).status = .active)
    (hrotated : ∀ row ∈ signals.versions, row.family = target.family →
      (change row).status = .active → row.id = target.id)
    (hstaged : ∀ row ∈ signals.versions, write.stage row.id = some .active → row.id = target.id)
    (happrovals : signals'.approvals = signals.approvals ++ [approval])
    (hnames : approval.signalVersionId = target.id ∧
      approval.configurationFingerprint = target.configurationFingerprint ∧
      approval.approvedByUserId ≠ target.createdByUserId)
    (hknown : ∀ versionId, write.stage versionId ≠ none →
      ∃ row ∈ signals.versions, row.id = versionId) :
    Lawful configurationFingerprint signals' (log ++ [write]) := by
  obtain ⟨hmem, hdigest, hwalked, hknown'⟩ := hs.changed hversions hrows hknown
  have hid : ∀ row ∈ signals.versions, row.id = target.id → row = target := fun row hrow h =>
    Table.eq_of_key signals.versions_id hrow htarget h
  -- the approvals of a version other than the target
  have hkept : ∀ row ∈ signals.versions, row.id ≠ target.id →
      signals'.approvals.filter (·.signalVersionId = (change row).id) =
        signals.approvals.filter (·.signalVersionId = row.id) := by
    intro row hrow hne
    rw [happrovals, (hmem row hrow).2, List.filter_append, List.filter_cons_of_neg, List.filter_nil,
      List.append_nil]
    simpa [hnames.1] using hne.symm
  refine ⟨fun family => numbered_map hs hversions hrows, ?_, hdigest, hwalked, ?_, ?_, hknown', ?_⟩
  · intro a ha b hb hfamily hactive hactive'
    rw [hversions] at ha hb
    obtain ⟨olda, holda, rfl⟩ := List.mem_map.mp ha
    obtain ⟨oldb, holdb, rfl⟩ := List.mem_map.mp hb
    rw [(hrows olda holda).family, (hrows oldb holdb).family] at hfamily
    by_cases hsame : olda.family = target.family
    · rw [hid olda holda (hrotated olda holda hsame hactive),
        hid oldb holdb (hrotated oldb holdb (hfamily ▸ hsame) hactive')]
    · have hsame' : oldb.family ≠ target.family := hfamily ▸ hsame
      rw [hothers olda holda hsame] at hactive ⊢
      rw [hothers oldb holdb hsame'] at hactive' ⊢
      exact hs.oneActive olda holda oldb holdb hfamily hactive hactive'
  · intro row' hrow' hpath
    rw [hversions] at hrow'
    obtain ⟨row, hrow, rfl⟩ := List.mem_map.mp hrow'
    have hrowStep := hrows row hrow
    by_cases hsame : row.id = target.id
    · obtain rfl := hid row hrow hsame
      have hnone := hs.unapproved row hrow (by rw [hstatus]; decide)
      refine ⟨approval, ?_, ?_, ?_⟩
      · rw [happrovals, (hmem row hrow).2, List.filter_append, hnone, List.nil_append,
          List.filter_cons_of_pos (by simpa using hnames.1), List.filter_nil]
      · rw [(hrowStep.frozen (by rw [hstatus]; decide)).2]
        exact hnames.2.1
      · rw [hrowStep.creator]
        exact hnames.2.2
    · have hinactive : write.stage row.id ≠ some .active := fun h => hsame (hstaged row hrow h)
      have hbefore := (hrowStep.active_iff hinactive).mp hpath
      rw [hkept row hrow hsame, (hrowStep.frozen (ne_draft_of_active_mem hbefore)).2,
        hrowStep.creator]
      exact hs.approved row hrow hbefore
  · intro row' hrow' hpath
    rw [hversions] at hrow'
    obtain ⟨row, hrow, rfl⟩ := List.mem_map.mp hrow'
    have hsame : row.id ≠ target.id := by
      intro h
      obtain rfl := hid row hrow h
      rw [hpromoted] at hpath
      exact hpath (by decide)
    have hinactive : write.stage row.id ≠ some .active := fun h => hsame (hstaged row hrow h)
    rw [hkept row hrow hsame]
    exact hs.unapproved row hrow fun hbefore =>
      hpath (((hrows row hrow).active_iff hinactive).mpr hbefore)
  · intro other hother
    rw [happrovals] at hother
    rcases List.of_mem_concat hother with hold | rfl
    · obtain ⟨row, hrow, hsame⟩ := hs.attested other hold
      exact ⟨change row, (hmem row hrow).1, (hmem row hrow).2.trans hsame⟩
    · exact ⟨change target, (hmem target htarget).1, (hmem target htarget).2.trans hnames.1.symm⟩

/-- Every write keeps the invariant. -/
theorem Lawful.step (hs : Lawful configurationFingerprint signals log)
    (h : Wrote configurationFingerprint signals family write signals') :
    Lawful configurationFingerprint signals' (log ++ [write]) := by
  cases h with
  | created hcreate hdraft hdigest hnext => exact hs.created hcreate hdraft hdigest hnext
  | updated change hversions hrows _ happrovals hinactive hknown =>
    exact hs.updated hversions hrows happrovals hinactive hknown
  | activated change hversions hrows hothers hmem hstatus hpromoted hrotated hstaged happrovals
      hnames hknown =>
    exact hs.activated hversions hrows hothers hmem hstatus hpromoted hrotated hstaged happrovals
      hnames hknown

/-! ## What a write leaves of the versions before it -/

/-- A version that stays, with what is fixed for good. -/
structure Persists (row row' : SignalVersionRow) : Prop where
  id : row'.id = row.id
  number : row'.signalVersion = row.signalVersion
  family : row'.family = row.family
  siteId : row'.siteId = row.siteId
  creator : row'.createdByUserId = row.createdByUserId
  frozen : row.status ≠ .draft → row'.status ≠ .draft ∧ row'.configuration = row.configuration ∧
    row'.configurationFingerprint = row.configurationFingerprint
  final : row.status.isTerminal = true → row'.status = row.status

/-- Every version stays. -/
def Grows (signals signals' : Signals) : Prop :=
  ∀ row ∈ signals.versions, ∃ row' ∈ signals'.versions, Persists row row'

theorem Persists.refl (row : SignalVersionRow) : Persists row row :=
  ⟨rfl, rfl, rfl, rfl, rfl, fun h => ⟨h, rfl, rfl⟩, fun _ => rfl⟩

theorem Persists.trans {a b c : SignalVersionRow} (hab : Persists a b) (hbc : Persists b c) :
    Persists a c where
  id := hbc.id.trans hab.id
  number := hbc.number.trans hab.number
  family := hbc.family.trans hab.family
  siteId := hbc.siteId.trans hab.siteId
  creator := hbc.creator.trans hab.creator
  frozen hdraft := by
    obtain ⟨hdraft', hconfiguration, hfingerprint⟩ := hab.frozen hdraft
    obtain ⟨hdraft'', hconfiguration', hfingerprint'⟩ := hbc.frozen hdraft'
    exact ⟨hdraft'', hconfiguration'.trans hconfiguration, hfingerprint'.trans hfingerprint⟩
  final hterminal := by
    have hstatus := hab.final hterminal
    exact (hbc.final (hstatus ▸ hterminal)).trans hstatus

theorem Grows.refl (signals : Signals) : Grows signals signals :=
  fun row hrow => ⟨row, hrow, .refl row⟩

theorem Grows.trans {a b c : Signals} (hab : Grows a b) (hbc : Grows b c) : Grows a c := by
  intro row hrow
  obtain ⟨row', hrow', hpersists⟩ := hab row hrow
  obtain ⟨row'', hrow'', hpersists'⟩ := hbc row' hrow'
  exact ⟨row'', hrow'', hpersists.trans hpersists'⟩

theorem ne_draft_of_canTransition {source target : SignalStatus}
    (h : source.canTransition target = true) : target ≠ .draft ∧ source.isTerminal = false := by
  cases source <;> cases target <;> first | exact ⟨by decide, rfl⟩ | cases h

theorem Write.RowStep.persists
    (h : write.RowStep configurationFingerprint row row') : Persists row row' where
  id := h.id
  number := h.number
  family := h.family
  siteId := h.siteId
  creator := h.creator
  frozen hdraft := by
    refine ⟨?_, h.frozen hdraft⟩
    rcases h.stage with ⟨hstatus, _⟩ | ⟨hlegal, _⟩
    · exact hstatus ▸ hdraft
    · exact (ne_draft_of_canTransition hlegal).1
  final hterminal := by
    rcases h.stage with ⟨hstatus, _⟩ | ⟨hlegal, _⟩
    · exact hstatus
    · rw [(ne_draft_of_canTransition hlegal).2] at hterminal
      cases hterminal

theorem Grows.of_map (hversions : signals'.versions = signals.versions.map change)
    (hrows : ∀ row ∈ signals.versions, write.RowStep configurationFingerprint row (change row)) :
    Grows signals signals' := fun row hrow =>
  ⟨change row, hversions ▸ List.mem_map_of_mem hrow, (hrows row hrow).persists⟩

theorem Wrote.grows (h : Wrote configurationFingerprint signals family write signals') :
    Grows signals signals' := by
  cases h with
  | created hcreate =>
    intro row hrow
    exact ⟨row, (createVersion_eq_some hcreate).1 ▸ List.mem_append_left _ hrow, .refl row⟩
  | updated change hversions hrows => exact .of_map hversions hrows
  | activated change hversions hrows => exact .of_map hversions hrows

theorem filter_map_others {other : String × String}
    (hrows : ∀ row ∈ signals.versions, write.RowStep configurationFingerprint row (change row))
    (hothers : ∀ row ∈ signals.versions, row.family ≠ family → change row = row)
    (hother : other ≠ family) :
    (signals.versions.map change).filter (·.family = other) =
      signals.versions.filter (·.family = other) := by
  rw [filter_map_change fun row hrow => (hrows row hrow).family]
  refine (List.map_congr_left fun row hrow => ?_).trans (List.map_id _)
  obtain ⟨hmem, hfamily⟩ := List.mem_filter.mp hrow
  exact hothers row hmem (of_decide_eq_true hfamily ▸ hother)

theorem Wrote.frame (h : Wrote configurationFingerprint signals family write signals')
    {other : String × String} (hother : other ≠ family) :
    signals'.versions.filter (·.family = other) = signals.versions.filter (·.family = other) := by
  cases h with
  | created hcreate =>
    rw [(createVersion_eq_some hcreate).1, List.filter_append, List.filter_cons_of_neg,
      List.filter_nil, List.append_nil]
    simpa using hother.symm
  | updated change hversions hrows hothers =>
    rw [hversions, filter_map_others hrows hothers hother]
  | activated change hversions hrows hothers =>
    rw [hversions, filter_map_others hrows hothers hother]

end Rows

end Sentinel.Whisper.Studio
