import Sentinel.Spec.WhisperLifecycle

/-! # Studio calls in any order

Calls on one family exclude each other from the lock on, and a call that updates a row waits for
them; so what a call has read under the lock is what it writes on. -/

namespace Sentinel.Whisper.Studio

open Signals (DraftColumns)

/-! ## Lookups -/

section Lookups

variable {signals signals' : Signals} {family : String × String} {signalVersion : Nat}
  {scope : SiteScope} {row : SignalVersionRow}

theorem mem_of_findVersion (h : signals.findVersion family signalVersion scope = some row) :
    row ∈ signals.versions ∧ row.family = family ∧ row.signalVersion = signalVersion := by
  obtain ⟨hmem, hfamily, hversion, -⟩ := Table.of_find? h
  exact ⟨hmem, hfamily, hversion⟩

theorem mem_of_findLatest (h : signals.findLatest family scope = some row) :
    row ∈ signals.versions ∧ row.family = family := by
  have hmem := List.argmax_mem h
  obtain ⟨hrow, hmatch⟩ := List.mem_filter.mp hmem
  exact ⟨hrow, (of_decide_eq_true hmatch).1⟩

theorem mem_findIncumbents {versionId id : String} :
    id ∈ signals.findIncumbents family versionId ↔
      ∃ row ∈ signals.versions, row.family = family ∧ row.status = .active ∧ row.id ≠ versionId ∧
        row.id = id := by
  simp only [Signals.findIncumbents, List.mem_map, List.mem_filter, decide_eq_true_eq, and_assoc]

/-- The incumbents depend on the family alone. -/
theorem findIncumbents_congr {versionId : String}
    (h : signals'.versions.filter (·.family = family) = signals.versions.filter (·.family = family)) :
    signals'.findIncumbents family versionId = signals.findIncumbents family versionId := by
  have hsplit : ∀ rows : List SignalVersionRow,
      rows.filter (fun row => row.family = family ∧ row.status = .active ∧ row.id ≠ versionId) =
        (rows.filter (·.family = family)).filter
          fun row => row.status = .active ∧ row.id ≠ versionId := by
    intro rows
    rw [List.filter_filter]
    refine List.filter_congr fun row _ => ?_
    by_cases hfamily : row.family = family <;> simp [hfamily]
  rw [Signals.findIncumbents, Signals.findIncumbents, hsplit, hsplit, h]

end Lookups

/-! ## What a call knows -/

section Calls

variable (configurationFingerprint : SemanticConfiguration → String)

/-- The step that a `transition` takes is legal and is not the activation. -/
def Worker.Legal (worker : Worker) (expected : SignalStatus) : Prop :=
  ∀ whisperSignalId signalVersion target traceId,
    worker.call = .transition whisperSignalId signalVersion target traceId →
    target ≠ .active ∧ expected.canTransition target = true

/-- What the service of an activation has read: a version that is stored, by its keys and its
    creator, in its last stage and created by someone else. -/
structure Worker.Approving (worker : Worker) (signals : Signals) (read : SignalVersionRow) :
    Prop where
  stored : ∃ row ∈ signals.versions, row.family = read.family ∧
    row.signalVersion = read.signalVersion ∧ row.createdByUserId = read.createdByUserId
  family : worker.family? = some read.family
  number : ∀ whisperSignalId signalVersion traceId,
    worker.call = .activate whisperSignalId signalVersion traceId →
    (worker.principal.organisationId, whisperSignalId) = read.family ∧
      signalVersion = read.signalVersion
  status : read.status = .approval
  distinct : approverIsDistinct read.createdByUserId worker.principal.userId = true

/-- The version an activation is about to promote is the one that was read. -/
def Chosen (signals : Signals) (read : SignalVersionRow) (versionId : String) : Prop :=
  ∃ row ∈ signals.versions, row.id = versionId ∧ row.family = read.family ∧
    row.status = read.status ∧ row.configurationFingerprint = read.configurationFingerprint ∧
    row.createdByUserId = read.createdByUserId

/-- The version is of the family the call names. -/
def Worker.Targets (worker : Worker) (signals : Signals) (versionId : String) : Prop :=
  ∃ row ∈ signals.versions, row.id = versionId ∧ worker.family? = some row.family

/-- What a call knows where it stands. -/
def Worker.Sound (signals : Signals) (worker : Worker) : Prop :=
  (∀ columns, worker.phase.columns? = some columns →
    columns.configurationFingerprint = configurationFingerprint columns.configuration) ∧
  match worker.phase with
  | .lockToPublish _ | .latest _ => ∃ row ∈ signals.versions, worker.family? = some row.family
  | .insert _ latest => latest ∈ signals.versions ∧ worker.family? = some latest.family
  | .writeDraft versionId _ => worker.Targets signals versionId
  | .findStatus expected => worker.Legal expected
  | .writeStatus versionId expected => worker.Targets signals versionId ∧ worker.Legal expected
  | .lockToActivate read | .current read => worker.Approving signals read
  | .incumbents read versionId => worker.Approving signals read ∧ Chosen signals read versionId
  | .promote read versionId incumbents =>
    worker.Approving signals read ∧ Chosen signals read versionId ∧
      incumbents = signals.findIncumbents read.family versionId
  | _ => True

variable {configurationFingerprint} {signals signals' : Signals} {worker : Worker} {env : Env}
  {write : Option Write} {phase : Phase}

variable {read : SignalVersionRow} {versionId traceId : String}

theorem Worker.Approving.mono (h : worker.Approving signals read)
    (hgrows : Grows signals signals') : worker.Approving signals' read where
  stored := by
    obtain ⟨row, hrow, hfamily, hnumber, hcreator⟩ := h.stored
    obtain ⟨row', hrow', hpersists⟩ := hgrows row hrow
    exact ⟨row', hrow', hpersists.family.trans hfamily, hpersists.number.trans hnumber,
      hpersists.creator.trans hcreator⟩
  family := h.family
  number := h.number
  status := h.status
  distinct := h.distinct

theorem Worker.Approving.move (h : worker.Approving signals read) :
    Worker.Approving { worker with phase } signals read :=
  ⟨h.stored, h.family, h.number, h.status, h.distinct⟩

theorem Worker.Targets.mono (h : worker.Targets signals versionId)
    (hgrows : Grows signals signals') : worker.Targets signals' versionId := by
  obtain ⟨row, hrow, hid, hfamily⟩ := h
  obtain ⟨row', hrow', hpersists⟩ := hgrows row hrow
  exact ⟨row', hrow', hpersists.id.trans hid, by rw [hpersists.family, hfamily]⟩

/-- A row of a family that is left alone stays as it is. -/
theorem mem_of_filter_eq {family : String × String} {row : SignalVersionRow}
    (h : signals'.versions.filter (·.family = family) = signals.versions.filter (·.family = family))
    (hrow : row ∈ signals.versions) (hfamily : row.family = family) : row ∈ signals'.versions := by
  have hmem : row ∈ signals.versions.filter (·.family = family) :=
    List.mem_filter.mpr ⟨hrow, decide_eq_true hfamily⟩
  rw [← h] at hmem
  exact (List.mem_filter.mp hmem).1

/-- What a call knows outlives the writes of others, if these leave alone the family it has
    locked. -/
theorem Worker.Sound.mono (h : worker.Sound configurationFingerprint signals)
    (hgrows : Grows signals signals')
    (hkept : ∀ family, worker.holds? = some family →
      signals'.versions.filter (·.family = family) = signals.versions.filter (·.family = family)) :
    worker.Sound configurationFingerprint signals' := by
  have hfamily : ∀ (family : String × String), worker.phase.locks = true →
      worker.family? = some family →
      signals'.versions.filter (·.family = family) = signals.versions.filter (·.family = family) :=
    fun family hlocks hfamily => hkept family (by rw [Worker.holds?, if_pos hlocks, hfamily])
  have hchosen : ∀ read versionId, worker.phase.locks = true → worker.Approving signals read →
      Chosen signals read versionId → Chosen signals' read versionId := by
    rintro read versionId hlocks happroving ⟨row, hrow, hid, hsame, hrest⟩
    exact ⟨row, mem_of_filter_eq (hfamily _ hlocks happroving.family) hrow hsame, hid, hsame, hrest⟩
  obtain ⟨hcolumns, hknows⟩ := h
  refine ⟨hcolumns, ?_⟩
  obtain ⟨principal, call, now⟩ := worker
  cases now with
  | lockToPublish columns | latest columns =>
    obtain ⟨row, hrow, hfamily⟩ := hknows
    obtain ⟨row', hrow', hpersists⟩ := hgrows row hrow
    exact ⟨row', hrow', by rw [hpersists.family, hfamily]⟩
  | insert columns latest =>
    exact ⟨mem_of_filter_eq (hfamily _ rfl hknows.2) hknows.1 rfl, hknows.2⟩
  | writeDraft versionId columns => exact Targets.mono hknows hgrows
  | findStatus expected => exact hknows
  | writeStatus versionId expected => exact ⟨Targets.mono hknows.1 hgrows, hknows.2⟩
  | lockToActivate read | current read => exact Approving.mono hknows hgrows
  | incumbents read versionId =>
    exact ⟨Approving.mono hknows.1 hgrows, hchosen read versionId rfl hknows.1 hknows.2⟩
  | promote read versionId incumbents =>
    obtain ⟨happroving, hread, hincumbents⟩ := hknows
    refine ⟨happroving.mono hgrows, hchosen read versionId rfl happroving hread, ?_⟩
    exact hincumbents.trans (findIncumbents_congr (hfamily _ rfl happroving.family)).symm
  | start | create | findDraft | returned | refused | failed => trivial

/-- A call that has the lock has found its family. -/
theorem Worker.Sound.exists_of_holds (h : worker.Sound configurationFingerprint signals)
    {family : String × String} (hholds : worker.holds? = some family) :
    ∃ row ∈ signals.versions, row.family = family := by
  obtain ⟨principal, call, now⟩ := worker
  have hknows := h.2
  cases now with
  | latest columns =>
    obtain ⟨row, hrow, hfamily⟩ := hknows
    exact ⟨row, hrow, Option.some.inj (hfamily.symm.trans hholds)⟩
  | insert columns latest =>
    exact ⟨latest, hknows.1, Option.some.inj (hknows.2.symm.trans hholds)⟩
  | current read =>
    obtain ⟨row, hrow, hfamily, _⟩ := Approving.stored hknows
    exact ⟨row, hrow, hfamily.trans (Option.some.inj ((Approving.family hknows).symm.trans hholds))⟩
  | incumbents read versionId | promote read versionId _ =>
    obtain ⟨row, hrow, hfamily, _⟩ := Approving.stored hknows.1
    exact ⟨row, hrow,
      hfamily.trans (Option.some.inj ((Approving.family hknows.1).symm.trans hholds))⟩
  | _ => cases hholds

theorem sound_of_over (signals : Signals) (hover : phase.over = true) (worker : Worker) :
    Worker.Sound configurationFingerprint signals { worker with phase } := by
  cases phase with
  | returned | refused _ | failed => exact ⟨(fun _ h => nomatch h), trivial⟩
  | _ => cases hover

/-- What a call carries was computed from what it carries. -/
theorem columns_digested (input : ConfigurationInput) :
    (input.columns configurationFingerprint).configurationFingerprint =
      configurationFingerprint (input.columns configurationFingerprint).configuration := rfl

/-- A call that moves on knows what it has to know there. -/
theorem Worker.Moves.sound (hs : worker.Sound configurationFingerprint signals)
    (h : worker.Moves configurationFingerprint signals env signals' write phase) :
    Worker.Sound configurationFingerprint signals' { worker with phase } := by
  obtain ⟨hcolumns, hknows⟩ := hs
  cases h with
  | stop hover => exact sound_of_over _ hover worker
  | created | published | edited | moved | activated => exact sound_of_over _ rfl worker
  | create | edit =>
    refine ⟨fun columns hsame => ?_, trivial⟩
    cases hsame
    exact columns_digested _
  | publish hcall hfound =>
    obtain ⟨hrow, hfamily⟩ := mem_of_findLatest hfound
    refine ⟨fun columns hsame => ?_, _, hrow, ?_⟩
    · cases hsame
      exact columns_digested _
    · simp only [Worker.family?, hcall, hfamily]
  | transition hcall hinactive hlegal =>
    refine ⟨(fun _ hsame => nomatch hsame), ?_⟩
    intro whisperSignalId signalVersion target traceId hsame
    cases hcall.symm.trans hsame
    exact ⟨hinactive, hlegal⟩
  | activate hcall hfound hlegal hdistinct =>
    obtain ⟨hrow, hfamily, hnumber⟩ := mem_of_findVersion hfound
    refine ⟨(fun _ hsame => nomatch hsame), ⟨_, hrow, rfl, rfl, rfl⟩, ?_, ?_, ?_, hdistinct⟩
    · simp only [Worker.family?, hcall, hfamily]
    · intro whisperSignalId signalVersion traceId hsame
      cases hcall.symm.trans hsame
      exact ⟨hfamily.symm, hnumber.symm⟩
    · exact eq_approval_of_canTransition hlegal
  | lockedToPublish hphase =>
    rw [hphase] at hcolumns hknows
    exact ⟨hcolumns, hknows⟩
  | latest hphase hcall hfound =>
    obtain ⟨hrow, hfamily⟩ := mem_of_findLatest hfound
    rw [hphase] at hcolumns
    exact ⟨hcolumns, hrow, by simp only [Worker.family?, hcall, hfamily]⟩
  | findDraft hphase hcall hfound =>
    obtain ⟨hrow, hfamily, _⟩ := mem_of_findVersion hfound
    rw [hphase] at hcolumns
    exact ⟨hcolumns, _, hrow, rfl, by simp only [Worker.family?, hcall, hfamily]⟩
  | findStatus hphase hcall hfound =>
    obtain ⟨hrow, hfamily, _⟩ := mem_of_findVersion hfound
    rw [hphase] at hknows
    exact ⟨(fun _ hsame => nomatch hsame),
      ⟨_, hrow, rfl, by simp only [Worker.family?, hcall, hfamily]⟩, hknows⟩
  | lockedToActivate hphase =>
    rw [hphase] at hknows
    have happroving : worker.Approving signals _ := hknows
    exact ⟨(fun _ hsame => nomatch hsame), happroving.move⟩
  | current hphase hcall hfound hstatus hfingerprint =>
    rw [hphase] at hknows
    obtain ⟨hrow, hfamily, hnumber⟩ := mem_of_findVersion hfound
    have happroving : worker.Approving signals _ := hknows
    obtain ⟨row, hmem, hfamily', hnumber', hcreator⟩ := happroving.stored
    obtain ⟨hread, hreadNumber⟩ := happroving.number _ _ _ hcall
    -- the two reads were of one version
    have hsame := Table.eq_of_key signals.versions_number hmem hrow (Prod.ext
      (hfamily'.trans (hread.symm.trans hfamily.symm))
      (hnumber'.trans (hreadNumber.symm.trans hnumber.symm)))
    exact ⟨(fun _ hsame => nomatch hsame), happroving.move, _, hrow, rfl,
      hfamily.trans hread, hstatus, hfingerprint, hsame ▸ hcreator⟩
  | incumbents hphase hcall =>
    rw [hphase] at hknows
    have happroving : worker.Approving signals _ := hknows.1
    obtain ⟨hread, _⟩ := happroving.number _ _ _ hcall
    exact ⟨(fun _ hsame => nomatch hsame), happroving.move, hknows.2, by rw [hread]⟩

/-- A call that comes to have the lock had it or waited for it. -/
theorem Worker.Moves.locks
    (h : worker.Moves configurationFingerprint signals env signals' write phase)
    (hlocks : phase.locks = true) : worker.phase.locks = true ∨ worker.phase.waits = true := by
  cases h with
  | stop hover =>
    cases phase with
    | returned | refused | failed => cases hlocks
    | _ => cases hover
  | lockedToPublish hphase | lockedToActivate hphase => exact .inr (hphase ▸ rfl)
  | latest hphase | current hphase | incumbents hphase => exact .inl (hphase ▸ rfl)
  | _ => cases hlocks

/-! ## The writes -/

/-- An update of the versions of one id, as a write. -/
theorem wrote_of_rewrite {p : SignalVersionRow → Bool} {f : SignalVersionRow → SignalVersionRow}
    {write : Write} {row : SignalVersionRow}
    (hversions : signals'.versions = Table.rewrite p f signals.versions)
    (happrovals : signals'.approvals = signals.approvals) (hrow : row ∈ signals.versions)
    (hid : ∀ other ∈ signals.versions, p other = true → other.id = row.id)
    (hstep : ∀ other ∈ signals.versions, p other = true →
      write.RowStep configurationFingerprint other (f other))
    (hhit : p row = true)
    (hstage : ∀ versionId, versionId ≠ row.id → write.stage versionId = none)
    (hinactive : write.stage row.id ≠ some .active) :
    Wrote configurationFingerprint signals row.family write signals' := by
  have hmiss : ∀ other ∈ signals.versions, p other = false → other.id ≠ row.id := by
    intro other hother hp hsame
    rw [Table.eq_of_key signals.versions_id hother hrow hsame, hhit] at hp
    cases hp
  refine .updated (fun other => if p other then f other else other) hversions
    (fun other hother => ?_) (fun other hother hfamily => ?_) happrovals
    (fun other hother => ?_) fun versionId hstaged => ⟨row, hrow, ?_⟩
  · by_cases hp : p other = true
    · rw [if_pos hp]
      exact hstep other hother hp
    · rw [if_neg hp]
      have hnone := hstage other.id (hmiss other hother (by simpa using hp))
      exact ⟨rfl, rfl, rfl, rfl, rfl, id, fun _ => ⟨rfl, rfl⟩, .inl ⟨rfl, hnone⟩⟩
  · refine if_neg fun hp => hfamily ?_
    rw [Table.eq_of_key signals.versions_id hother hrow (hid other hother hp)]
  · by_cases hsame : other.id = row.id
    · rw [hsame]
      exact hinactive
    · rw [hstage other.id hsame]
      exact fun h => nomatch h
  · by_contra hother
    exact hstaged (hstage versionId (Ne.symm hother))

theorem wrote_of_updateDraft {userId : String} {columns : DraftColumns}
    {row : SignalVersionRow} (hrow : row ∈ signals.versions) (hid : row.id = versionId)
    (hdigest : columns.configurationFingerprint = configurationFingerprint columns.configuration)
    (h : signals.updateDraft versionId columns = (true, signals')) :
    Wrote configurationFingerprint signals row.family (.edited versionId userId columns) signals' := by
  obtain ⟨hany, rfl⟩ := Prod.mk.inj h
  have hdraft : ∀ other : SignalVersionRow, Signals.isDraft versionId other = true →
      other.id = versionId ∧ other.status = .draft := fun other hp => of_decide_eq_true hp
  obtain ⟨found, hfound, hp⟩ := List.any_eq_true.mp hany
  obtain rfl := Table.eq_of_key signals.versions_id hfound hrow ((hdraft found hp).1.trans hid.symm)
  refine wrote_of_rewrite rfl rfl hrow (fun other _ hother => (hdraft other hother).1.trans hid.symm)
    (fun other _ hother => ?_) hp (fun _ _ => rfl) fun h => nomatch h
  exact ⟨rfl, rfl, rfl, rfl, rfl, fun _ => hdigest, fun hne => absurd (hdraft other hother).2 hne,
    .inl ⟨rfl, rfl⟩⟩

theorem wrote_of_transitionStatus {expected target : SignalStatus}
    {at_ : Int} {row : SignalVersionRow} (hrow : row ∈ signals.versions) (hid : row.id = versionId)
    (hinactive : target ≠ .active) (hlegal : expected.canTransition target = true)
    (h : signals.transitionStatus versionId expected target at_ traceId = (true, signals')) :
    Wrote configurationFingerprint signals row.family (.moved versionId target) signals' := by
  obtain ⟨hany, rfl⟩ := Prod.mk.inj h
  have hexpected : ∀ other : SignalVersionRow, Signals.hasStatus versionId expected other = true →
      other.id = versionId ∧ other.status = expected := fun other hp => of_decide_eq_true hp
  obtain ⟨found, hfound, hp⟩ := List.any_eq_true.mp hany
  obtain rfl :=
    Table.eq_of_key signals.versions_id hfound hrow ((hexpected found hp).1.trans hid.symm)
  refine wrote_of_rewrite rfl rfl hrow
    (fun other _ hother => (hexpected other hother).1.trans hid.symm) (fun other _ hother => ?_) hp
    (fun other hother => if_neg fun hsame => hother (hsame.symm.trans hid.symm)) ?_
  · obtain ⟨hsame, hstatus⟩ := hexpected other hother
    refine ⟨rfl, rfl, rfl, rfl, rfl, id, fun _ => ⟨rfl, rfl⟩, .inr ⟨hstatus ▸ hlegal, ?_⟩⟩
    exact if_pos hsame.symm
  · rw [Write.stage, if_pos hid.symm]
    exact fun h => hinactive (Option.some.inj h)

/-- What an activation does to a version: the incumbents go first. -/
def activatedRow (incumbents : List String) (versionId : String) (status : SignalStatus)
    (fingerprint : String) (at_ : Int) (traceId : String) (row : SignalVersionRow) :
    SignalVersionRow :=
  let row := if incumbents.contains row.id then Signals.rotated at_ row else row
  if Signals.promotable versionId status fingerprint row then Signals.promoted at_ traceId row
  else row

theorem activation_eq_some {incumbents : List String}
    (h : worker.activation signals env read versionId incumbents traceId = some signals') :
    signals'.versions = signals.versions.map (activatedRow incumbents versionId read.status
      read.configurationFingerprint env.now traceId) ∧
    ∃ approval : ApprovalRow, signals'.approvals = signals.approvals ++ [approval] ∧
      approval.signalVersionId = versionId ∧
      approval.configurationFingerprint = read.configurationFingerprint ∧
      approval.approvedByUserId = worker.principal.userId := by
  rw [Worker.activation] at h
  split at h
  · cases h
  · obtain ⟨attested, hcreate, hpromote⟩ := Option.bind_eq_some_iff.mp h
    rw [Signals.createApproval] at hcreate
    split at hcreate
    · cases hcreate
      rw [Signals.promote] at hpromote
      split at hpromote
      · cases hpromote
        refine ⟨?_, _, rfl, rfl, rfl, rfl⟩
        show Table.rewrite _ _ (Table.rewrite _ _ signals.versions) = _
        rw [Table.rewrite, Table.rewrite, List.map_map]
        rfl
      · cases hpromote
    · cases hcreate

theorem wrote_of_activation {incumbents : List String} (happroving : worker.Approving signals read)
    (hchosen : Chosen signals read versionId)
    (hincumbents : incumbents = signals.findIncumbents read.family versionId)
    (h : worker.activation signals env read versionId incumbents traceId = some signals') :
    Wrote configurationFingerprint signals read.family
      (.activated versionId worker.principal.userId incumbents) signals' := by
  obtain ⟨hversions, approval, happrovals, hnamed, hfingerprint, happrover⟩ := activation_eq_some h
  obtain ⟨target, htarget, hid, hfamily, hstatus, htargetPrint, hcreator⟩ := hchosen
  -- the three kinds of versions: the one to promote, an incumbent, any other
  have hincumbent : ∀ row ∈ signals.versions, incumbents.contains row.id = true ↔
      row.family = read.family ∧ row.status = .active ∧ row.id ≠ versionId := by
    intro row hrow
    rw [List.contains_iff_mem, hincumbents, mem_findIncumbents]
    constructor
    · rintro ⟨other, hother, hsame, hactive, hne, hids⟩
      rw [← Table.eq_of_key signals.versions_id hother hrow hids]
      exact ⟨hsame, hactive, hne⟩
    · rintro ⟨hsame, hactive, hne⟩
      exact ⟨row, hrow, hsame, hactive, hne, rfl⟩
  have hchange : ∀ row ∈ signals.versions,
      activatedRow incumbents versionId read.status read.configurationFingerprint env.now traceId row =
        if row.id = versionId then Signals.promoted env.now traceId row
        else if incumbents.contains row.id then Signals.rotated env.now row
        else row := by
    intro row hrow
    by_cases hsame : row.id = versionId
    · obtain rfl := Table.eq_of_key signals.versions_id hrow htarget (hsame.trans hid.symm)
      have hnot : incumbents.contains row.id = false := by
        rw [Bool.eq_false_iff]
        exact fun hin => ((hincumbent row hrow).mp hin).2.2 hsame
      have hpromotable : Signals.promotable versionId read.status read.configurationFingerprint row =
          true := decide_eq_true ⟨hsame, hstatus, htargetPrint⟩
      simp only [activatedRow, hnot, Bool.false_eq_true, if_false, hpromotable, if_true, if_pos hsame]
    · have hnot : ∀ other : SignalVersionRow, other.id = row.id →
          Signals.promotable versionId read.status read.configurationFingerprint other = false :=
        fun other hother => decide_eq_false fun hp => hsame (hother.symm.trans hp.1)
      rw [activatedRow, if_neg hsame, if_neg]
      split
      · rw [hnot (Signals.rotated env.now row) rfl]
        exact Bool.false_ne_true
      · rw [hnot row rfl]
        exact Bool.false_ne_true
  have hstage : ∀ row : SignalVersionRow,
      (Write.activated versionId worker.principal.userId incumbents).stage row.id =
        if row.id = versionId then some .active
        else if incumbents.contains row.id then some .rotated
        else none := by
    intro row
    by_cases hsame : row.id = versionId
    · rw [Write.stage, if_pos hsame.symm, if_pos hsame]
    · rw [Write.stage, if_neg (Ne.symm hsame), if_neg hsame]
  have happroval : target.status = .approval := hstatus.trans happroving.status
  rw [← hfamily]
  refine .activated _ hversions (fun row hrow => ?_) (fun row hrow hother => ?_) htarget happroval
    ?_ (fun row hrow hsame hactive => ?_) (fun row hrow hactive => ?_) happrovals
    ⟨hnamed.trans hid.symm, hfingerprint.trans htargetPrint.symm, ?_⟩ fun id hstaged => ?_
  · rw [hchange row hrow]
    split
    · rename_i hsame
      obtain rfl := Table.eq_of_key signals.versions_id hrow htarget (hsame.trans hid.symm)
      refine ⟨rfl, rfl, rfl, rfl, rfl, fun hdigest => hdigest, fun _ => ⟨rfl, rfl⟩, .inr ⟨?_, ?_⟩⟩
      · rw [happroval]
        rfl
      · rw [hstage, if_pos hsame]
        rfl
    · rename_i hother
      split
      · rename_i hin
        refine ⟨rfl, rfl, rfl, rfl, rfl, fun hdigest => hdigest, fun _ => ⟨rfl, rfl⟩, .inr ⟨?_, ?_⟩⟩
        · rw [((hincumbent row hrow).mp hin).2.1]
          rfl
        · rw [hstage, if_neg hother, if_pos hin]
          rfl
      · rename_i hout
        refine ⟨rfl, rfl, rfl, rfl, rfl, fun hdigest => hdigest, fun _ => ⟨rfl, rfl⟩, .inl ⟨rfl, ?_⟩⟩
        rw [hstage, if_neg hother, if_neg hout]
  · have hne : row.id ≠ versionId := by
      intro hsame
      rw [Table.eq_of_key signals.versions_id hrow htarget (hsame.trans hid.symm)] at hother
      exact hother rfl
    have hout : ¬ incumbents.contains row.id = true := fun hin =>
      hother (((hincumbent row hrow).mp hin).1.trans hfamily.symm)
    rw [hchange row hrow, if_neg hne, if_neg hout]
  · rw [hchange target htarget, if_pos hid]
    rfl
  · by_contra hne
    rw [hchange row hrow, if_neg fun h => hne (h.trans hid.symm)] at hactive
    split at hactive
    · cases hactive
    · rename_i hout
      exact hout ((hincumbent row hrow).mpr
        ⟨hsame.trans hfamily, hactive, fun h => hne (h.trans hid.symm)⟩)
  · rw [hstage] at hactive
    split at hactive
    · rename_i hsame
      exact hsame.trans hid.symm
    · split at hactive <;> cases hactive
  · rw [happrover, hcreator]
    exact Ne.symm (of_decide_eq_true happroving.distinct).1
  · by_cases hsame : id = versionId
    · exact ⟨target, htarget, hid.trans hsame.symm⟩
    · rw [Write.stage, if_neg (Ne.symm hsame)] at hstaged
      have hin : incumbents.contains id = true := by
        by_contra hout
        exact hstaged (if_neg hout)
      rw [List.contains_iff_mem, hincumbents, mem_findIncumbents] at hin
      obtain ⟨row, hrow, _, _, _, hids⟩ := hin
      exact ⟨row, hrow, hids⟩

/-- Every write of a call is lawful, and it is to the family that the call has locked or has
    waited for, or founds one. -/
theorem Worker.Moves.wrote {log : List Write} {write : Write}
    (hs : Lawful configurationFingerprint signals log)
    (hsound : worker.Sound configurationFingerprint signals)
    (h : worker.Moves configurationFingerprint signals env signals' (some write) phase) :
    ∃ family, Wrote configurationFingerprint signals family write signals' ∧
      ((worker.family? = some family ∧ (worker.phase.locks = true ∨ worker.phase.waits = true)) ∨
        ∀ row ∈ signals.versions, row.family ≠ family) := by
  obtain ⟨hcolumns, hknows⟩ := hsound
  cases h with
  | @created columns siteId _ _ hphase _ hcreate =>
    have hdigest := hcolumns columns (by rw [hphase]; rfl)
    refine ⟨_, .created hcreate rfl hdigest (.inl rfl), .inr fun row hrow hfamily => ?_⟩
    -- a family with a version has its first one
    have hfirst : ∃ old ∈ signals.versions, old.family = row.family ∧ old.signalVersion = 1 :=
      hs.mem_numbers.mpr ⟨le_refl 1,
        List.length_pos_of_mem (List.mem_filter.mpr ⟨hrow, decide_eq_true rfl⟩)⟩
    obtain ⟨old, hold, hfamily', hone⟩ := hfirst
    exact (createVersion_eq_some hcreate).2.2.2 old hold (Prod.ext (hfamily'.trans hfamily) hone)
  | @published columns latest _ _ _ hphase hcall hcreate =>
    have hdigest := hcolumns columns (by rw [hphase]; rfl)
    rw [hphase] at hknows
    have hfamily := hknows.2
    simp only [Worker.family?, hcall, Option.some.injEq] at hfamily
    refine ⟨_, .created hcreate rfl hdigest (.inr ⟨latest, hknows.1, hfamily.symm, rfl, rfl⟩),
      .inl ⟨?_, .inl (by rw [hphase]; rfl)⟩⟩
    simp only [Worker.family?, hcall]
    rfl
  | @edited versionId columns _ hphase hupdate =>
    have hdigest := hcolumns columns (by rw [hphase]; rfl)
    rw [hphase] at hknows
    obtain ⟨row, hrow, hid, hfamily⟩ := hknows
    exact ⟨row.family, wrote_of_updateDraft hrow hid hdigest hupdate,
      .inl ⟨hfamily, .inr (by rw [hphase]; rfl)⟩⟩
  | @moved versionId _ _ _ _ _ _ hphase hcall hupdate =>
    rw [hphase] at hknows
    obtain ⟨⟨row, hrow, hid, hfamily⟩, hlegal⟩ := hknows
    obtain ⟨hinactive, hlegal⟩ := hlegal _ _ _ _ hcall
    exact ⟨row.family, wrote_of_transitionStatus hrow hid hinactive hlegal hupdate,
      .inl ⟨hfamily, .inr (by rw [hphase]; rfl)⟩⟩
  | @activated read versionId _ _ _ incumbents _ hphase _ hactivation =>
    rw [hphase] at hknows
    obtain ⟨happroving, hchosen, hincumbents⟩ := hknows
    exact ⟨read.family, wrote_of_activation happroving hchosen hincumbents hactivation,
      .inl ⟨happroving.family, .inl (by rw [hphase]; rfl)⟩⟩

/-- A step that writes nothing leaves the tables. -/
theorem Worker.Moves.unwritten
    (h : worker.Moves configurationFingerprint signals env signals' none phase) :
    signals' = signals := by
  cases h <;> rfl

end Calls

/-! ## The system -/

section System

variable (configurationFingerprint : SemanticConfiguration → String)

/-- What holds of the calls and the tables in every state, with the writes so far. -/
structure State.Inv (s : State) (log : List Write) : Prop where
  lawful : Lawful configurationFingerprint s.signals log
  sound : ∀ (i : Nat) (worker : Worker), s.workers[i]? = some worker →
    worker.Sound configurationFingerprint s.signals
  /-- Two calls that have locked one family are one call. -/
  exclusive : ∀ (i j : Nat) (a b : Worker) (family : String × String), s.workers[i]? = some a →
    s.workers[j]? = some b → a.holds? = some family → b.holds? = some family → i = j

variable {configurationFingerprint} {contextByteLength : List (String × String) → Nat}
  {s s' : State} {log : List Write}

theorem State.Inv.init : State.init.Inv configurationFingerprint [] where
  lawful := lawful_empty
  sound _ _ h := nomatch h
  exclusive _ _ _ _ _ h := nomatch h

theorem advance_eq_some {i : Nat} {env : Env} {write : Option Write}
    (h : s.advance configurationFingerprint contextByteLength i env = some (s', write)) :
    ∃ (worker : Worker) (signals' : Signals) (phase : Phase), s.workers[i]? = some worker ∧
      s.blocked i worker = false ∧
      worker.Moves configurationFingerprint s.signals env signals' write phase ∧
      s' = { signals := signals', workers := s.workers.set i { worker with phase } } := by
  obtain ⟨worker, hworker, h⟩ := Option.bind_eq_some_iff.mp h
  split at h
  · cases h
  · rename_i hblocked
    obtain ⟨⟨signals', write', phase⟩, hadvance, h⟩ := Option.bind_eq_some_iff.mp h
    cases h
    exact ⟨worker, signals', phase, hworker, by simpa using hblocked, advance_moves hadvance, rfl⟩

/-- A call that is not blocked finds no other with the lock it waits for. -/
theorem not_holds_of_blocked {i j : Nat} {worker other : Worker} {family : String × String}
    (h : s.blocked i worker = false) (hwaits : worker.phase.waits = true)
    (hfamily : worker.family? = some family) (hother : s.workers[j]? = some other)
    (hne : j ≠ i) : other.holds? ≠ some family := by
  intro hholds
  have hmem : (other, j) ∈ s.workers.zipIdx := List.mem_zipIdx_iff_getElem?.mpr hother
  have hany : s.workers.zipIdx.any (fun entry => entry.2 ≠ i ∧ entry.1.holds? = worker.family?) =
      true := List.any_eq_true.mpr ⟨(other, j), hmem, by simp [hne, hholds, hfamily]⟩
  have hblocked : s.blocked i worker = true :=
    decide_eq_true ⟨hwaits, by rw [hfamily]; rfl, hany⟩
  rw [h] at hblocked
  cases hblocked

theorem State.Inv.advance (hs : s.Inv configurationFingerprint log) {i : Nat} {env : Env}
    {write : Option Write}
    (h : s.advance configurationFingerprint contextByteLength i env = some (s', write)) :
    s'.Inv configurationFingerprint (log ++ write.toList) ∧ Grows s.signals s'.signals := by
  obtain ⟨worker, signals', phase, hworker, hblocked, hmoves, rfl⟩ := advance_eq_some h
  have hsound := hs.sound i worker hworker
  -- no other call has the family that this one has locked or waits for
  have halone : ∀ (j : Nat) (other : Worker) (family : String × String), j ≠ i →
      s.workers[j]? = some other → worker.family? = some family →
      worker.phase.locks = true ∨ worker.phase.waits = true → other.holds? ≠ some family := by
    intro j other family hne hother hfamily hphase hholds
    rcases hphase with hlocks | hwaits
    · have hmine : worker.holds? = some family := by rw [Worker.holds?, if_pos hlocks, hfamily]
      exact hne (hs.exclusive j i other worker family hother hworker hholds hmine)
    · exact not_holds_of_blocked hblocked hwaits hfamily hother hne hholds
  have htables : Lawful configurationFingerprint signals' (log ++ write.toList) ∧
      Grows s.signals signals' ∧
      ∀ (j : Nat) (other : Worker) (family : String × String), j ≠ i →
        s.workers[j]? = some other → other.holds? = some family →
        signals'.versions.filter (·.family = family) =
          s.signals.versions.filter (·.family = family) := by
    cases write with
    | none =>
      obtain rfl := hmoves.unwritten
      rw [Option.toList_none, List.append_nil]
      exact ⟨hs.lawful, .refl _, fun _ _ _ _ _ _ => rfl⟩
    | some write =>
      obtain ⟨family, hwrote, htouched⟩ := hmoves.wrote hs.lawful hsound
      refine ⟨hs.lawful.step hwrote, hwrote.grows, fun j other held hne hother hholds => ?_⟩
      refine hwrote.frame fun hsame => ?_
      subst hsame
      rcases htouched with ⟨hfamily, hphase⟩ | hnew
      · exact halone j other held hne hother hfamily hphase hholds
      · obtain ⟨row, hrow, hfamily⟩ := (hs.sound j other hother).exists_of_holds hholds
        exact hnew row hrow hfamily
  obtain ⟨hlawful, hgrows, hframe⟩ := htables
  refine ⟨⟨hlawful, fun j other hother => ?_, fun j k a b family ha hb hholdsA hholdsB => ?_⟩,
    hgrows⟩
  · rcases List.getElem?_set_eq_some hother with ⟨rfl, rfl⟩ | ⟨hne, hold⟩
    · exact hmoves.sound hsound
    · exact (hs.sound j other hold).mono hgrows fun family hholds =>
        hframe j other family hne hold hholds
  · have hmoved : ∀ (l : Nat) (other : Worker), l ≠ i → s.workers[l]? = some other →
        Worker.holds? { worker with phase } = some family → other.holds? ≠ some family := by
      intro l other hne hother hholds
      rw [Worker.holds?] at hholds
      split at hholds
      · rename_i hlocks
        exact halone l other family hne hother hholds (hmoves.locks hlocks)
      · cases hholds
    rcases List.getElem?_set_eq_some ha with ⟨rfl, rfl⟩ | ⟨hneA, holdA⟩
    · rcases List.getElem?_set_eq_some hb with ⟨rfl, rfl⟩ | ⟨hneB, holdB⟩
      · rfl
      · exact absurd hholdsB (hmoved k b hneB holdB hholdsA)
    · rcases List.getElem?_set_eq_some hb with ⟨rfl, rfl⟩ | ⟨hneB, holdB⟩
      · exact absurd hholdsA (hmoved j a hneA holdA hholdsB)
      · exact hs.exclusive j k a b family holdA holdB hholdsA hholdsB

/-- Every step keeps the invariant and every version. -/
theorem State.Inv.step (hs : s.Inv configurationFingerprint log) {label : Label}
    (h : step configurationFingerprint contextByteLength s label = some s') :
    s'.Inv configurationFingerprint
      (log ++ (written configurationFingerprint contextByteLength s label).toList) ∧
      Grows s.signals s'.signals := by
  cases label with
  | call principal call =>
    cases h
    have hnone : written configurationFingerprint contextByteLength s (.call principal call) =
        none := rfl
    rw [hnone, Option.toList_none, List.append_nil]
    have hcases : ∀ (i : Nat) (worker : Worker),
        (s.workers ++ [⟨principal, call, .start⟩])[i]? = some worker →
        s.workers[i]? = some worker ∨ worker = ⟨principal, call, .start⟩ := by
      intro i worker hworker
      rw [List.getElem?_append] at hworker
      split at hworker
      · exact .inl hworker
      · exact .inr (List.mem_singleton.mp (List.mem_of_getElem? hworker))
    refine ⟨⟨hs.lawful, fun i worker hworker => ?_, fun i j a b family ha hb hholdsA hholdsB => ?_⟩,
      .refl _⟩
    · rcases hcases i worker hworker with hold | rfl
      · exact hs.sound i worker hold
      · exact ⟨(fun _ hcolumns => nomatch hcolumns), trivial⟩
    · rcases hcases i a ha with holdA | rfl
      · rcases hcases j b hb with holdB | rfl
        · exact hs.exclusive i j a b family holdA holdB hholdsA hholdsB
        · cases hholdsB
      · cases hholdsA
  | advance i env =>
    obtain ⟨⟨next, write⟩, hadvance, rfl⟩ := Option.map_eq_some_iff.mp h
    rw [written, hadvance, Option.bind_some]
    exact hs.advance hadvance
  | fail i =>
    obtain ⟨worker, hworker, h⟩ := Option.bind_eq_some_iff.mp h
    cases h
    have hnone : written configurationFingerprint contextByteLength s (.fail i) = none := rfl
    rw [hnone, Option.toList_none, List.append_nil]
    refine ⟨⟨hs.lawful, fun j other hother => ?_, fun j k a b family ha hb hholdsA hholdsB => ?_⟩,
      .refl _⟩
    · rcases List.getElem?_set_eq_some hother with ⟨rfl, rfl⟩ | ⟨_, hold⟩
      · exact sound_of_over _ rfl worker
      · exact hs.sound j other hold
    · rcases List.getElem?_set_eq_some ha with ⟨rfl, rfl⟩ | ⟨_, holdA⟩
      · cases hholdsA
      · rcases List.getElem?_set_eq_some hb with ⟨rfl, rfl⟩ | ⟨_, holdB⟩
        · cases hholdsB
        · exact hs.exclusive j k a b family holdA holdB hholdsA hholdsB

/-- The writes of a run of the studio. -/
def writes (configurationFingerprint : SemanticConfiguration → String)
    (contextByteLength : List (String × String) → Nat) (labels : List Label) : List Write :=
  Transition.trace (step configurationFingerprint contextByteLength)
    (written configurationFingerprint contextByteLength) .init labels

/-- The invariant holds in every state that a run reaches. -/
theorem run_inv {labels : List Label}
    (hrun : Transition.run (step configurationFingerprint contextByteLength) .init labels = some s) :
    s.Inv configurationFingerprint (writes configurationFingerprint contextByteLength labels) := by
  have hall : Transition.RunAll (step configurationFingerprint contextByteLength)
      (fun _ _ => True) .init labels := Transition.runAll_of_forall fun _ _ => trivial
  exact Transition.runAll_trace_invariant (written configurationFingerprint contextByteLength)
    (State.Inv configurationFingerprint) (fun hs _ hstep => (hs.step hstep).1) .init hall hrun

/-- Every version of a state stays in the states after it. -/
theorem run_grows {later : List Label} (hs : s.Inv configurationFingerprint log)
    (hrun : Transition.run (step configurationFingerprint contextByteLength) s later = some s') :
    Grows s.signals s'.signals := by
  have hinv : ∀ {t : State} {label : Label} {t' : State},
      (∃ log, t.Inv configurationFingerprint log) →
      step configurationFingerprint contextByteLength t label = some t' →
      ∃ log, t'.Inv configurationFingerprint log :=
    fun ⟨_, ht⟩ hstep => ⟨_, (ht.step hstep).1⟩
  have htrans : ∀ {t u v : State}, Grows t.signals u.signals → Grows u.signals v.signals →
      Grows t.signals v.signals := fun htu huv => htu.trans huv
  exact Transition.run_mono (r := fun t t' => Grows t.signals t'.signals)
    (fun t => .refl t.signals) htrans hinv (fun ⟨_, ht⟩ hstep => (ht.step hstep).2) ⟨log, hs⟩ hrun

/-- The stages up to the activation. -/
def lifecycle : List SignalStatus := path .active

/-- A version that has been active has been through the lifecycle. -/
theorem lifecycle_prefix {status : SignalStatus} (h : .active ∈ path status) :
    lifecycle <+: path status := by
  cases status <;> first | exact absurd h (by decide) | decide

theorem path_getLast? (status : SignalStatus) : (path status).getLast? = some status := by
  cases status <;> rfl

variable (configurationFingerprint) in
structure Lifecycle (signals : Signals) (log : List Write) : Prop where
  numbered : ∀ family, (signals.versions.filter (·.family = family)).map (·.signalVersion) =
    List.range' 1 (signals.versions.filter (·.family = family)).length
  oneActive : ∀ a ∈ signals.versions, ∀ b ∈ signals.versions, a.family = b.family →
    a.status = .active → b.status = .active → a = b
  digest : ∀ row ∈ signals.versions,
    row.configurationFingerprint = configurationFingerprint row.configuration
  /-- The stages of the log are those of the table. -/
  staged : ∀ row ∈ signals.versions, (stages log row.id).getLast? = some row.status
  walked : ∀ row ∈ signals.versions, .active ∈ stages log row.id → lifecycle <+: stages log row.id
  approved : ∀ row ∈ signals.versions, .active ∈ stages log row.id →
    ∃ approval, signals.approvals.filter (·.signalVersionId = row.id) = [approval] ∧
      approval.configurationFingerprint = row.configurationFingerprint ∧
      approval.approvedByUserId ≠ row.createdByUserId

/-- In every run, with every version of a state kept by what comes after it: its configuration
    is fixed once it is no draft, and its status once it is rotated or retired. -/
theorem whisper_lifecycle {before later : List Label}
    (hbefore : Transition.run (step configurationFingerprint contextByteLength) .init before = some s)
    (hlater : Transition.run (step configurationFingerprint contextByteLength) s later = some s') :
    Lifecycle configurationFingerprint s.signals
        (writes configurationFingerprint contextByteLength before) ∧
      Grows s.signals s'.signals := by
  have hs := run_inv hbefore
  have hlawful := hs.lawful
  refine ⟨⟨hlawful.numbered, hlawful.oneActive, hlawful.digest, fun row hrow => ?_,
    fun row hrow hactive => ?_, fun row hrow hactive => ?_⟩, run_grows hs hlater⟩
  · rw [hlawful.walked row hrow]
    exact path_getLast? row.status
  · rw [hlawful.walked row hrow] at hactive ⊢
    exact lifecycle_prefix hactive
  · rw [hlawful.walked row hrow] at hactive
    exact hlawful.approved row hrow hactive

end System

/-! A signal that alice creates and bob activates and retires. -/

def duressInput : ConfigurationInput :=
  { name := "press", deviceActionId := "triple", authorisedUserIds := ["carol"]
    contextRequirements := [], minimumConfidence := 0
    responseProtocolId := some "SILENT_INCIDENT_RESPONSE", traceId := "t" }

def commander (userId : String) : Principal :=
  { organisationId := "org", userId, manage := .orgWide, approve := .orgWide }

def createdBy (worker : Nat) (userId : String) : List Label :=
  let env : Env := { versionId := "v", whisperSignalId := "f", members := ["carol"] }
  [.call (commander userId) (.createSignal none duressInput), .advance worker env,
    .advance worker env]

/-- One call on version 1 of the family `f`, of so many steps. -/
def calledBy (worker steps : Nat) (userId : String) (call : Call) : List Label :=
  .call (commander userId) call :: List.replicate steps (.advance worker { members := ["carol"] })

/-- The transitions from `DRAFT` to `APPROVAL`, by the calls from `worker` on. -/
def walkedBy (worker : Nat) (userId : String) : List Label :=
  [SignalStatus.simulation, .falsePositiveTest, .antiSpoofTest, .fieldDrill, .approval].zipIdx.flatMap
    fun (target, i) => calledBy (worker + i) 3 userId (.transition "f" 1 target "t")

def activationRun : List Label :=
  createdBy 0 "alice" ++ walkedBy 1 "alice" ++ calledBy 6 5 "bob" (.activate "f" 1 "t")

def retirementRun : List Label := calledBy 7 3 "bob" (.transition "f" 1 .retired "t")

def activationState : State :=
  (Transition.run (step (·.deviceActionId) List.length) .init activationRun).getD .init

theorem whisper_lifecycle_retired :
    (activationState.signals.versions.map (·.status) = [.active] ∧
      (Transition.run (step (·.deviceActionId) List.length) activationState
        retirementRun).isSome = true) ∧
    Lifecycle (·.deviceActionId) activationState.signals
        (writes (·.deviceActionId) List.length activationRun) ∧
      Grows activationState.signals ((Transition.run (step (·.deviceActionId) List.length)
        activationState retirementRun).getD activationState).signals :=
  ⟨by decide, whisper_lifecycle (Transition.run_eq_some_getD (by decide))
    (Transition.run_eq_some_getD (by decide))⟩

end Sentinel.Whisper.Studio
