import Sentinel.Spec.FieldOfflineReplayInvariant

/-! # Results are reports of final receipts

A submission that is answered with a result, first time or replayed, is answered from a
receipt that is final in the database.  Final receipts stay as they are, so the report is
true in every later state as well. -/

namespace Sentinel.FieldOffline

open Transition

variable {env : Env}

def Stored (db : Db) (ns : ReplayNamespace) (receipt : StoredReceipt) : Prop :=
  ∃ row ∈ db.receipts, row.replayNamespace = ns ∧ row.toStoredReceipt = receipt ∧
    row.isFinalized = true

def Reported (db : Db) (ns : ReplayNamespace) (result : OperationResult) : Prop :=
  ∃ row ∈ db.receipts, row.replayNamespace = ns ∧ row.isFinalized = true ∧
    row.offlineOperationId = result.offlineOperationId ∧
    row.deviceSequence = result.deviceSequence ∧ row.outcome = some result.outcome

/-- What a worker that has left the domain call behind may answer from. -/
def Phase.Truthful (db : Db) (ns : ReplayNamespace) : Phase → Prop
  | .answered (.result result) => Reported db ns result
  | .rereadingReceipt receiptId => ∃ row ∈ db.receipts, row.id = receiptId ∧ row.replayNamespace = ns
  | .rereadingCursor (some receipt) => receipt.isFinalized = true → Stored db ns receipt
  | _ => True

variable {db db' : Db} {ns : ReplayNamespace} {receipt : StoredReceipt} {submission : Submission}

theorem Stored.dbStep
    (h : Stored db ns receipt) (hstep : DbStep db db') : Stored db' ns receipt := by
  obtain ⟨row, hrow, hns, hreceipt, hfinal⟩ := h
  exact ⟨row, hstep.finalized_kept hrow hfinal, hns, hreceipt, hfinal⟩

theorem Reported.dbStep {result : OperationResult}
    (h : Reported db ns result) (hstep : DbStep db db') : Reported db' ns result := by
  obtain ⟨row, hrow, hns, hfinal, hreported⟩ := h
  exact ⟨row, hstep.finalized_kept hrow hfinal, hns, hfinal, hreported⟩

theorem Phase.Truthful.dbStep {phase : Phase}
    (h : phase.Truthful db ns) (hstep : DbStep db db') : phase.Truthful db' ns := by
  cases phase with
  | answered outcome =>
    cases outcome with
    | result result =>
      have hreported : Reported db ns result := h
      exact hreported.dbStep hstep
    | conflict conflict => exact trivial
    | invalid issues => exact trivial
  | rereadingReceipt receiptId =>
    obtain ⟨row, hrow, rfl, rfl⟩ := h
    obtain ⟨row', hrow', hid⟩ := hstep.identity_kept hrow
    simp only [ReceiptRow.identity, ReceiptIdentity.mk.injEq] at hid
    exact ⟨row', hrow', hid.1, hid.2.1⟩
  | rereadingCursor current =>
    cases current with
    | none => exact trivial
    | some receipt =>
      intro hfinal
      have hstored : Stored db ns receipt := h hfinal
      exact hstored.dbStep hstep
  | _ => exact trivial

/-- A stored outcome on its way out is a report of the receipt. -/
theorem answerReplay_truthful
    (h : Stored db ns receipt) (operation : Operation) (last : Option Nat) :
    (answerReplay env operation receipt last).Truthful db ns := by
  obtain ⟨row, hrow, hns, rfl, hfinal⟩ := h
  unfold answerReplay replayStoredResult
  cases houtcome : row.outcome with
  | none => exact trivial
  | some outcome =>
    cases row.finalizedAt with
    | none => exact trivial
    | some finalizedAt =>
      simp only [answerResult]
      split
      · exact ⟨row, hrow, hns, hfinal, rfl, rfl, houtcome⟩
      · exact trivial

theorem admitOperation_replay {newId : String} {now : Int} {last : Option Nat}
    (h : admitOperation db submission newId now = some (db', .replay receipt last)) :
    Stored db' submission.replayNamespace receipt := by
  have hfound : ∀ {stored}, db.findReceiptBySequence submission.replayNamespace
      submission.operation.deviceSequence = some stored → stored.isFinalized = true →
      Stored db submission.replayNamespace stored := by
    intro stored hfind hfinal
    obtain ⟨row, hrow, hkey, rfl⟩ := findReceiptBySequence_eq_some hfind
    rw [positionKey, Prod.mk.injEq] at hkey
    exact ⟨row, hrow, hkey.1, rfl, hfinal⟩
  unfold admitOperation at h
  split at h
  · cases h
  · dsimp only at h
    split at h
    · cases h
    · split at h
      · cases h
      · cases h
      · cases h
      · simp only [Option.some.injEq, Prod.mk.injEq] at h
        obtain ⟨rfl, hreplay⟩ := h
        unfold admitReplay at hreplay
        split at hreplay
        next stored hfind =>
          split at hreplay
          next hfinal =>
            obtain ⟨rfl, -⟩ := Admission.replay.inj hreplay
            exact hfound hfind hfinal
          next => cases hreplay
        next => cases hreplay
      · unfold admitFresh at h
        split at h
        next stored hfind =>
          split at h
          · cases h
          · split at h
            next hfinal =>
              simp only [Option.some.injEq, Prod.mk.injEq] at h
              obtain ⟨rfl, hreplay⟩ := h
              obtain ⟨rfl, -⟩ := Admission.replay.inj hreplay
              exact hfound hfind hfinal
            next => cases h
        next =>
          split at h
          · cases h
          · cases h

theorem Known.row
    (h : Known db ns receipt) : ∃ row ∈ db.receipts, row.id = receipt.id ∧ row.replayNamespace = ns := by
  obtain ⟨row, hrow, hcarries⟩ := h
  exact ⟨row, hrow, hcarries.id, hcarries.replayNamespace⟩

/-- The row an acknowledged finalization leaves is the one the worker reports. -/
theorem finalized_reported (hdb : db.WellFormed)
    {attempt : Attempt} (hknown : Known db submission.replayNamespace attempt.receipt)
    {verdict : Verdict} {now finalizedAt : Int} {last : Option Nat}
    (h : (db.finalizeAndAdvance (attempt.finalizeIdentity submission) verdict.finalizeVerdict now).2
      = .finalized finalizedAt last) (result : OperationResult)
    (hid : result.offlineOperationId = attempt.receipt.offlineOperationId)
    (hsequence : result.deviceSequence = attempt.receipt.deviceSequence)
    (houtcome : result.outcome = verdict.finalizeVerdict.outcome) :
    Reported (db.finalizeAndAdvance (attempt.finalizeIdentity submission)
      verdict.finalizeVerdict now).1 submission.replayNamespace result := by
  rcases finalizeAndAdvance_cases hdb (attempt.finalizeIdentity submission)
    verdict.finalizeVerdict now with ⟨hlost, -⟩ | ⟨target, hits, hreceipts, -⟩
  · rw [hlost] at h
    cases h
  · obtain ⟨known, hmem, hcarries⟩ := hknown
    have htarget : target.id = known.id := (fenced_spec.mp hits.hit).1.trans hcarries.id.symm
    obtain rfl := Table.eq_of_key hdb.ids hits.mem hmem htarget
    refine ⟨Db.finalizeRow verdict.finalizeVerdict now target, ?_, hcarries.replayNamespace,
      ?_, ?_, ?_, ?_⟩
    · rw [hreceipts]
      exact hits.mem_iff.mpr (.inl rfl)
    · exact Outcome.status_advancesCursor _
    · exact hcarries.offlineOperationId.trans hid.symm
    · exact hcarries.deviceSequence.trans hsequence.symm
    · exact congrArg some houtcome.symm

theorem moved_truthful (hdb : db.WellFormed)
    {current phase : Phase} {move : Move} (hagrees : Worker.Agrees db ⟨submission, current⟩)
    (hcurrent : current.Truthful db submission.replayNamespace)
    (h : Moved env db submission current move db' phase) :
    phase.Truthful db' submission.replayNamespace := by
  have hstep := (moved_dbStep hdb hagrees h).1
  cases h with
  | ensured delivery _ hphase => rcases hphase with rfl | rfl <;> exact trivial
  | admitted delivery newId now result hadmission =>
    obtain ⟨committed, admission⟩ := result
    cases hlearnt : (deliver delivery db (committed, admission)).2 with
    | none => exact trivial
    | some learnt =>
      obtain ⟨hdeliver, rfl⟩ := deliver_eq_some hlearnt
      rw [hdeliver]
      cases learnt with
      | refuse code expected => exact trivial
      | proceed receipt last => exact trivial
      | replay receipt last =>
        exact answerReplay_truthful (admitOperation_replay hadmission) submission.operation last
  | claimed receipt expected delivery now result hclaim =>
    cases hlearnt : (deliver delivery db result).2 with
    | none => exact trivial
    | some generation =>
      cases generation with
      | none => exact trivial
      | some generation =>
        simp only [Option.elim_some, afterClaim]
        split <;> exact trivial
  | executed attempt answer _ hanswer =>
    cases answer with
    | view view =>
      simp only [afterExecute, Option.map_eq_some_iff] at hanswer
      obtain ⟨effect, -, rfl⟩ := hanswer
      exact trivial
    | httpException status =>
      simp only [afterExecute] at hanswer
      split at hanswer <;> cases hanswer <;> exact trivial
    | fault =>
      cases hanswer
      exact trivial
  | finalized attempt verdict delivery now result hfinalize =>
    have hknown : Known db submission.replayNamespace attempt.receipt := hagrees _ rfl
    cases hlearnt : (deliver delivery db result).2 with
    | none => exact trivial
    | some outcome =>
      obtain ⟨hdeliver, rfl⟩ := deliver_eq_some hlearnt
      rw [hdeliver] at hstep ⊢
      cases houtcome : result.2 with
      | finalized finalizedAt last =>
        simp only [afterFinalize, answerResult]
        split
        · subst hfinalize
          exact finalized_reported hdb hknown houtcome _ rfl rfl rfl
        · exact trivial
      | lost => exact (hknown.dbStep hstep).row
  | marked attempt delivery result hmark =>
    have hknown : Known db submission.replayNamespace attempt.receipt := hagrees _ rfl
    cases hlearnt : (deliver delivery db result).2 with
    | none => exact trivial
    | some outcome =>
      obtain ⟨hdeliver, rfl⟩ := deliver_eq_some hlearnt
      rw [hdeliver] at hstep ⊢
      cases houtcome : result.2 with
      | marked => exact trivial
      | lost => exact (hknown.dbStep hstep).row
  | rereadReceipt receiptId =>
    obtain ⟨row, hrow, hid, hns⟩ := hcurrent
    cases hfind : db.getReceiptById receiptId with
    | none => exact trivial
    | some receipt =>
      intro hfinal
      simp only [Db.getReceiptById, Option.map_eq_some_iff] at hfind
      obtain ⟨found, hfound, rfl⟩ := hfind
      have hmem := List.mem_of_find?_eq_some hfound
      have hfoundId : found.id = receiptId := by simpa using List.find?_some hfound
      obtain rfl := Table.eq_of_key hdb.ids hmem hrow (hfoundId.trans hid.symm)
      exact ⟨found, hmem, hns, rfl, hfinal⟩
  | rereadCursor reread =>
    unfold afterLostFence
    cases reread with
    | none => exact trivial
    | some receipt =>
      simp only
      split
      next hfinal => exact answerReplay_truthful (hcurrent hfinal) submission.operation _
      next => split <;> exact trivial
  | _ => exact trivial

/-- Every worker's answer is true of the database. -/
def State.Reporting (s : State) : Prop :=
  ∀ worker ∈ s.workers, worker.phase.Truthful s.db worker.submission.replayNamespace

theorem step_reporting {s s' : State} {label : Label} (hs : s.Inv ∧ s.Reporting)
    (h : step env s label = some s') : s'.Inv ∧ s'.Reporting := by
  obtain ⟨hinv, htruthful⟩ := hs
  refine ⟨step_inv hinv h, ?_⟩
  have hstep := (step_dbStep hinv h).1
  rcases step_cases h with rfl | ⟨submission, _, rfl⟩ |
    ⟨i, worker, move, db', phase, _, hworker, hmoved, rfl⟩
  · exact htruthful
  · intro other hother
    rcases List.of_mem_concat hother with hold | rfl
    · exact htruthful other hold
    · exact trivial
  · have hmem := List.mem_of_getElem? hworker
    intro other hother
    rcases List.mem_or_eq_of_mem_set hother with hold | rfl
    · exact (htruthful other hold).dbStep hstep
    · exact moved_truthful hinv.db (hinv.workers worker hmem) (htruthful worker hmem) hmoved

/-- A result is the report of a receipt that is final in the database. -/
theorem answered_reported {s : State} (h : Reaches (step env) State.init s) {worker : Worker}
    (hworker : worker ∈ s.workers) {result : OperationResult}
    (hphase : worker.phase = .answered (.result result)) :
    Reported s.db worker.submission.replayNamespace result := by
  have hinitial : State.init.Inv ∧ State.init.Reporting :=
    ⟨State.init_inv, fun _ hworker => nomatch hworker⟩
  have htruthful := (h.invariant step_reporting hinitial).2 worker hworker
  rw [hphase] at htruthful
  exact htruthful

end Sentinel.FieldOffline
