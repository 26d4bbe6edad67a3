import Sentinel.Spec.WhisperStudioInvariant

/-! # Who arms a duress trigger

An activation is refused to the creator of a version, and an edit does not make its writer the
creator. -/

namespace Sentinel.Whisper.Studio

/-! ## Writers -/

/-- Who wrote the configuration of a version. -/
def Write.writer (versionId : String) : Write → Option String
  | .created row => if row.id = versionId then some row.createdByUserId else none
  | .edited editedId userId _ => if editedId = versionId then some userId else none
  | .moved _ _ => none
  | .activated _ _ _ => none

def Write.editor (versionId : String) : Write → Option String
  | .edited editedId userId _ => if editedId = versionId then some userId else none
  | _ => none

/-- The writers of a version's configuration, the last of them last. -/
def writers (log : List Write) (versionId : String) : List String :=
  log.filterMap (Write.writer versionId)

def editors (log : List Write) (versionId : String) : List String :=
  log.filterMap (Write.editor versionId)

/-- No activation by whoever last edited the draft: its creator is refused one anyway. -/
def Reviewed (log : List Write) : Prop :=
  ∀ before versionId userId rotated after, log = before ++ .activated versionId userId rotated :: after →
    (editors before versionId).getLast? ≠ some userId

variable {log : List Write} {write : Write} {versionId : String}

theorem writers_concat : writers (log ++ [write]) versionId =
    writers log versionId ++ (write.writer versionId).toList := by
  rw [writers, List.filterMap_append, ← writers]
  cases hwriter : write.writer versionId <;> simp [List.filterMap, hwriter]

theorem editors_concat : editors (log ++ [write]) versionId =
    editors log versionId ++ (write.editor versionId).toList := by
  rw [editors, List.filterMap_append, ← editors]
  cases heditor : write.editor versionId <;> simp [List.filterMap, heditor]

theorem reviewed_of_concat (h : Reviewed (log ++ [write])) : Reviewed log := by
  intro before versionId userId rotated after hlog
  exact h before versionId userId rotated (after ++ [write]) (by rw [hlog]; simp)

theorem Reviewed.activated {userId : String} {rotated : List String}
    (h : Reviewed (log ++ [.activated versionId userId rotated])) :
    (editors log versionId).getLast? ≠ some userId :=
  h log versionId userId rotated [] rfl

theorem Write.writer_eq_editor (h : ∀ row, write = .created row → row.id ≠ versionId) :
    write.writer versionId = write.editor versionId := by
  cases write with
  | created row => exact if_neg (h row rfl)
  | _ => rfl

/-! ## What a write does, by its kind -/

section Kinds

variable {configurationFingerprint : SemanticConfiguration → String}
  {signals signals' : Signals} {env : Env} {worker : Worker} {phase : Phase}

/-- What a write says of itself. -/
structure Write.Tells (write : Write) (signals signals' : Signals) : Prop where
  rows : ∀ row' ∈ signals'.versions, write = .created row' ∨
    ∃ row ∈ signals.versions, row.id = row'.id ∧ row.createdByUserId = row'.createdByUserId
  fresh : ∀ row, write = .created row →
    row ∈ signals'.versions ∧ ∀ old ∈ signals.versions, old.id ≠ row.id
  drafts : ∀ versionId userId columns, write = .edited versionId userId columns →
    ∃ row ∈ signals.versions, row.id = versionId ∧ row.status = .draft
  approvals : ∀ approval ∈ signals'.approvals, approval ∈ signals.approvals ∨
    ∃ rotated, write = .activated approval.signalVersionId approval.approvedByUserId rotated

/-- An update that keeps ids and creators. -/
theorem tells_of_map (change : SignalVersionRow → SignalVersionRow)
    (hversions : signals'.versions = signals.versions.map change)
    (hkept : ∀ row, (change row).id = row.id ∧ (change row).createdByUserId = row.createdByUserId)
    (row' : SignalVersionRow) (hrow' : row' ∈ signals'.versions) :
    ∃ row ∈ signals.versions, row.id = row'.id ∧ row.createdByUserId = row'.createdByUserId := by
  rw [hversions] at hrow'
  obtain ⟨row, hrow, rfl⟩ := List.mem_map.mp hrow'
  exact ⟨row, hrow, (hkept row).1.symm, (hkept row).2.symm⟩

theorem tells_of_createVersion {row : SignalVersionRow}
    (h : signals.createVersion row = some signals') : (Write.created row).Tells signals signals' := by
  obtain ⟨hversions, happrovals, hid, _⟩ := createVersion_eq_some h
  refine ⟨fun row' hrow' => ?_, fun _ hsame => ?_, (fun _ _ _ hsame => nomatch hsame),
    fun approval hmem => .inl (happrovals ▸ hmem)⟩
  · rw [hversions] at hrow'
    rcases List.mem_append.mp hrow' with hold | hnew
    · exact .inr ⟨row', hold, rfl, rfl⟩
    · exact .inl (by rw [List.mem_singleton.mp hnew])
  · cases hsame
    exact ⟨hversions ▸ List.mem_append_right _ (List.mem_singleton_self _), hid⟩

theorem Worker.Moves.tells
    (h : worker.Moves configurationFingerprint signals env signals' (some write) phase) :
    write.Tells signals signals' := by
  cases h with
  | created _ _ hcreate => exact tells_of_createVersion hcreate
  | published _ _ hcreate => exact tells_of_createVersion hcreate
  | @edited versionId columns _ _ hupdate =>
    obtain ⟨hany, rfl⟩ := Prod.mk.inj hupdate
    refine ⟨fun row' hrow' => .inr (tells_of_map (fun row =>
      if Signals.isDraft versionId row then Signals.edited columns row else row) rfl
      (fun row => by split <;> exact ⟨rfl, rfl⟩) row' hrow'), (fun _ hsame => nomatch hsame),
      fun _ _ _ hsame => ?_, fun approval hmem => .inl hmem⟩
    cases hsame
    obtain ⟨found, hfound, hp⟩ := List.any_eq_true.mp hany
    exact ⟨found, hfound, of_decide_eq_true hp⟩
  | @moved versionId _ _ _ expected target _ _ _ hupdate =>
    obtain ⟨_, rfl⟩ := Prod.mk.inj hupdate
    exact ⟨fun row' hrow' => .inr (tells_of_map (fun row =>
      if Signals.hasStatus versionId expected row then Signals.transitioned target env.now _ row
      else row) rfl (fun row => by split <;> exact ⟨rfl, rfl⟩) row' hrow'),
      (fun _ hsame => nomatch hsame), (fun _ _ _ hsame => nomatch hsame),
      fun approval hmem => .inl hmem⟩
  | @activated read versionId _ traceId _ incumbents _ _ _ hactivation =>
    obtain ⟨hversions, approval, happrovals, hnamed, _, happrover⟩ := activation_eq_some hactivation
    refine ⟨fun row' hrow' => .inr (tells_of_map _ hversions (fun row => ?_) row' hrow'),
      (fun _ hsame => nomatch hsame), (fun _ _ _ hsame => nomatch hsame), fun other hmem => ?_⟩
    · rw [activatedRow]
      split <;> split <;> exact ⟨rfl, rfl⟩
    · rw [happrovals] at hmem
      rcases List.of_mem_concat hmem with hold | rfl
      · exact .inl hold
      · exact .inr ⟨incumbents, by rw [hnamed, happrover]⟩

end Kinds

/-! ## The second person -/

/-- Who wrote the versions and who approved them. -/
structure Attributed (signals : Signals) (log : List Write) : Prop where
  authors : ∀ row ∈ signals.versions,
    writers log row.id = row.createdByUserId :: editors log row.id
  known : ∀ versionId, writers log versionId ≠ [] → ∃ row ∈ signals.versions, row.id = versionId
  reviewed : ∀ approval ∈ signals.approvals,
    (editors log approval.signalVersionId).getLast? ≠ some approval.approvedByUserId

section Step

variable {configurationFingerprint : SemanticConfiguration → String}
  {contextByteLength : List (String × String) → Nat} {signals signals' : Signals} {s s' : State}

theorem Attributed.step (hs : Attributed signals log)
    (hlawful : Lawful configurationFingerprint signals log) (hgrows : Grows signals signals')
    (h : write.Tells signals signals') (hreviewed : Reviewed (log ++ [write])) : Attributed signals' (log ++ [write]) := by
  have hkept : ∀ versionId, (∃ row ∈ signals.versions, row.id = versionId) →
      ∃ row' ∈ signals'.versions, row'.id = versionId := by
    rintro versionId ⟨row, hrow, hid⟩
    obtain ⟨row', hrow', hpersists⟩ := hgrows row hrow
    exact ⟨row', hrow', hpersists.id.trans hid⟩
  -- an edit is of a version that is known
  have hedited : ∀ versionId, write.editor versionId ≠ none →
      ∃ row ∈ signals.versions, row.id = versionId ∧ row.status = .draft := by
    intro versionId heditor
    cases write with
    | edited editedId userId columns =>
      have hsame : editedId = versionId := by
        by_contra hother
        exact heditor (if_neg hother)
      exact hsame ▸ h.drafts editedId userId columns rfl
    | _ => exact absurd rfl heditor
  refine ⟨fun row' hrow' => ?_, fun versionId hwriters => ?_, fun approval happroval => ?_⟩
  · rcases h.rows row' hrow' with rfl | ⟨row, hrow, hid, hcreator⟩
    · have hnone : writers log row'.id = [] := by
        by_contra hwriters
        obtain ⟨old, hold, hsame⟩ := hs.known row'.id hwriters
        exact (h.fresh row' rfl).2 old hold hsame
      have hnoEditors : editors log row'.id = [] := by
        by_contra heditors
        obtain ⟨user, huser⟩ := List.exists_mem_of_ne_nil _ heditors
        obtain ⟨edit, hedit, heditor⟩ := List.mem_filterMap.mp huser
        have hwriter : user ∈ writers log row'.id := by
          refine List.mem_filterMap.mpr ⟨edit, hedit, ?_⟩
          cases edit with
          | created => cases heditor
          | _ => exact heditor
        rw [hnone] at hwriter
        cases hwriter
      rw [writers_concat, editors_concat, hnone, hnoEditors, Write.writer, if_pos rfl]
      rfl
    · have hsame : write.writer row'.id = write.editor row'.id := by
        refine Write.writer_eq_editor fun new hnew hid' => ?_
        exact (h.fresh new hnew).2 row hrow (hid.trans hid'.symm)
      rw [writers_concat, editors_concat, hsame, ← hid, ← hcreator, hs.authors row hrow]
      rfl
  · by_cases hold : writers log versionId = []
    · rw [writers_concat, hold, List.nil_append] at hwriters
      by_cases hnew : ∃ row, write = .created row ∧ row.id = versionId
      · obtain ⟨row, hwrite, hid⟩ := hnew
        exact ⟨row, (h.fresh row hwrite).1, hid⟩
      · have hsame : write.writer versionId = write.editor versionId :=
          Write.writer_eq_editor fun row hrow hid => hnew ⟨row, hrow, hid⟩
        have heditor : write.editor versionId ≠ none := by
          intro hnone
          rw [hsame, hnone] at hwriters
          exact hwriters rfl
        obtain ⟨row, hrow, hid, _⟩ := hedited versionId heditor
        exact hkept versionId ⟨row, hrow, hid⟩
    · exact hkept versionId (hs.known versionId hold)
  · rcases h.approvals approval happroval with hold | ⟨rotated, rfl⟩
    · have hnone : write.editor approval.signalVersionId = none := by
        by_contra heditor
        obtain ⟨row, hrow, hid, hdraft⟩ := hedited _ heditor
        -- a draft has no approval
        have hfilter := hlawful.unapproved row hrow (by rw [hdraft]; decide)
        have hmem : approval ∈ signals.approvals.filter (·.signalVersionId = row.id) :=
          List.mem_filter.mpr ⟨hold, decide_eq_true hid.symm⟩
        rw [hfilter] at hmem
        cases hmem
      rw [editors_concat, hnone, Option.toList_none, List.append_nil]
      exact hs.reviewed approval hold
    · rw [editors_concat]
      show (editors log approval.signalVersionId ++ []).getLast? ≠ _
      rw [List.append_nil]
      exact hreviewed.activated

/-- A step keeps who wrote and who approved, as long as the activations are reviewed. -/
theorem attributed_step (hs : s.Inv configurationFingerprint log)
    (hattributed : Attributed s.signals log) {label : Label}
    (hstep : step configurationFingerprint contextByteLength s label = some s')
    (hreviewed : Reviewed
      (log ++ (written configurationFingerprint contextByteLength s label).toList)) :
    Attributed s'.signals
      (log ++ (written configurationFingerprint contextByteLength s label).toList) := by
  cases label with
  | call principal call =>
    cases hstep
    have hnone : written configurationFingerprint contextByteLength s (.call principal call) =
        none := rfl
    rw [hnone, Option.toList_none, List.append_nil]
    exact hattributed
  | fail i =>
    obtain ⟨worker, _, hstep⟩ := Option.bind_eq_some_iff.mp hstep
    cases hstep
    have hnone : written configurationFingerprint contextByteLength s (.fail i) = none := rfl
    rw [hnone, Option.toList_none, List.append_nil]
    exact hattributed
  | advance i env =>
    have hgrows := (hs.step hstep).2
    obtain ⟨⟨next, write⟩, hadvance, rfl⟩ := Option.map_eq_some_iff.mp hstep
    rw [written, hadvance, Option.bind_some] at hreviewed ⊢
    obtain ⟨worker, signals', phase, _, _, hmoves, rfl⟩ := advance_eq_some hadvance
    cases write with
    | none =>
      obtain rfl := hmoves.unwritten
      rw [Option.toList_none, List.append_nil]
      exact hattributed
    | some write => exact hattributed.step hs.lawful hgrows hmoves.tells hreviewed

theorem run_attributed {labels : List Label}
    (hrun : Transition.run (step configurationFingerprint contextByteLength) .init labels = some s)
    (hreviewed : Reviewed (writes configurationFingerprint contextByteLength labels)) :
    Attributed s.signals (writes configurationFingerprint contextByteLength labels) := by
  have hall : Transition.RunAll (step configurationFingerprint contextByteLength)
      (fun _ _ => True) .init labels := Transition.runAll_of_forall fun _ _ => trivial
  have hinit : Reviewed [] → Attributed State.init.signals [] := fun _ =>
    ⟨(fun _ h => nomatch h), (fun _ h => absurd rfl h), (fun _ h => nomatch h)⟩
  have hinv := Transition.runAll_trace_invariant
    (written configurationFingerprint contextByteLength)
    (fun s log => s.Inv configurationFingerprint log ∧ (Reviewed log → Attributed s.signals log))
    (fun {t log label t'} hs _ hstep => ⟨(hs.1.step hstep).1, fun hreviewed => ?_⟩)
    ⟨State.Inv.init, hinit⟩ hall hrun
  · exact hinv.2 hreviewed
  · refine attributed_step hs.1 (hs.2 ?_) hstep hreviewed
    cases hwrite : written configurationFingerprint contextByteLength t label with
    | none => simpa [hwrite] using hreviewed
    | some write =>
      rw [hwrite, Option.toList_some] at hreviewed
      exact reviewed_of_concat hreviewed

/-- Where no activation is by the last editor of the draft, an active version has the approval
    of somebody other than whoever last wrote its configuration. -/
theorem active_approver_ne_writer {labels : List Label}
    (hrun : Transition.run (step configurationFingerprint contextByteLength) .init labels = some s)
    (hreviewed : Reviewed (writes configurationFingerprint contextByteLength labels)) :
    ∀ row ∈ s.signals.versions, row.status = .active → ∀ approval ∈ s.signals.approvals,
      approval.signalVersionId = row.id →
      (writers (writes configurationFingerprint contextByteLength labels) row.id).getLast? ≠
        some approval.approvedByUserId := by
  have hattributed := run_attributed hrun hreviewed
  intro row hrow hactive approval happroval hnames
  obtain ⟨only, hfilter, _, hdistinct⟩ :=
    (run_inv hrun).lawful.approved row hrow (by rw [hactive]; decide)
  have hmem : approval ∈ s.signals.approvals.filter (·.signalVersionId = row.id) :=
    List.mem_filter.mpr ⟨happroval, decide_eq_true hnames⟩
  rw [hfilter, List.mem_singleton] at hmem
  subst hmem
  rw [hattributed.authors row hrow]
  have hlast := hattributed.reviewed approval happroval
  rw [hnames] at hlast
  -- without an edit the last writer is the creator
  cases heditors : editors (writes configurationFingerprint contextByteLength labels) row.id with
  | nil =>
    rw [List.getLast?_singleton]
    exact fun hsame => hdistinct (Option.some.inj hsame).symm
  | cons editor others =>
    rw [heditors] at hlast
    rw [List.getLast?_cons_cons]
    exact hlast

end Step

/-- The run of alice and bob is reviewed: nobody edits. -/
theorem active_approver_ne_writer_bob :
    Reviewed (writes (·.deviceActionId) List.length activationRun) ∧
      ∀ row ∈ activationState.signals.versions, row.status = .active →
        ∀ approval ∈ activationState.signals.approvals, approval.signalVersionId = row.id →
        (writers (writes (·.deviceActionId) List.length activationRun) row.id).getLast? ≠
          some approval.approvedByUserId := by
  have hreviewed : Reviewed (writes (·.deviceActionId) List.length activationRun) := by
    intro before versionId userId rotated after hlog
    have hnone : (writes (·.deviceActionId) List.length activationRun).filterMap
        (Write.editor versionId) = [] := by
      refine List.filterMap_eq_nil_iff.mpr fun write hwrite => ?_
      have hkinds : ∀ write ∈ writes (·.deviceActionId) List.length activationRun,
          (match write with | .edited _ _ _ => false | _ => true) = true := by decide
      have hkind := hkinds write hwrite
      cases write with
      | edited => cases hkind
      | _ => rfl
    rw [hlog, List.filterMap_append, List.append_eq_nil_iff] at hnone
    rw [editors, hnone.1]
    exact fun h => nomatch h
  exact ⟨hreviewed, active_approver_ne_writer
    (Transition.run_eq_some_getD (by decide)) hreviewed⟩

/-- Bob rewrites the draft that alice has created, walks it to `APPROVAL` and activates it. -/
def rewritingRun : List Label :=
  createdBy 0 "alice" ++
    calledBy 1 3 "bob" (.updateDraft "f" 1 { duressInput with deviceActionId := "single" }) ++
    walkedBy 2 "bob" ++ calledBy 7 5 "bob" (.activate "f" 1 "t")

def rewritingState : State :=
  (Transition.run (step (·.deviceActionId) List.length) .init rewritingRun).getD .init

theorem rewriter_activates : ¬ ∀ (labels : List Label) (s : State),
    Transition.run (step (·.deviceActionId) List.length) .init labels = some s →
    ∀ row ∈ s.signals.versions, row.status = .active → ∀ approval ∈ s.signals.approvals,
      approval.signalVersionId = row.id →
      (writers (writes (·.deviceActionId) List.length labels) row.id).getLast? ≠
        some approval.approvedByUserId := by
  intro h
  have hrun : Transition.run (step (·.deviceActionId) List.length) .init rewritingRun =
      some rewritingState := Transition.run_eq_some_getD (by decide)
  have hall := h rewritingRun rewritingState hrun
  revert hall
  decide

end Sentinel.Whisper.Studio
