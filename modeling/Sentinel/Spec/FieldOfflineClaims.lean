import Sentinel.Native.FieldOfflineDomain
import Sentinel.Spec.FieldOfflineReplayInvariant

/-! # Claim generations

Which attempt holds a receipt is a matter of `attemptCount`: every claim raises it, and the attempt
carries the value it raised it to. -/

namespace Sentinel.FieldOffline

open Transition

variable {env : Env}

/-- The attempt of a worker between its claim and the end of its finalization. -/
def Phase.active : Phase → Option Attempt
  | .probing attempt | .executing attempt | .finalizing attempt _ => some attempt
  | _ => none

theorem active_of_heldReceipt_eq_none {phase : Phase} (h : phase.heldReceipt = none) :
    phase.active = none := by
  cases phase with
  | probing => cases h
  | executing => cases h
  | finalizing => cases h
  | _ => rfl

theorem heldReceipt_of_active {phase : Phase} {attempt : Attempt}
    (h : phase.active = some attempt) : phase.heldReceipt = some attempt.receipt := by
  cases phase with
  | probing => cases h; rfl
  | executing => cases h; rfl
  | finalizing => cases h; rfl
  | _ => cases h

/-! ### What a move does to one receipt -/

/-- The row a submission's insert leaves. -/
structure Created (submission : Submission) (row : ReceiptRow) : Prop where
  attemptCount : row.attemptCount = 0
  status : row.status = .received
  operationKey : FieldOffline.operationKey row =
    (submission.replayNamespace, uuidValue submission.operation.offlineOperationId)
  positionKey : FieldOffline.positionKey row =
    (submission.replayNamespace, submission.operation.deviceSequence)
  requestFingerprint : row.requestFingerprint = submission.requestFingerprint
  downstreamIdempotencyKey : row.downstreamIdempotencyKey = submission.downstreamIdempotencyKey

def claimedAttempt (receipt : StoredReceipt) (expected : Option Nat) (target : ReceiptRow) : Attempt :=
  ⟨receipt, expected, target.attemptCount + 1⟩

/-- What a move does to the receipts and to the moving worker's attempt. -/
inductive Effect (db db' : Db) (submission : Submission) : Phase → Move → Phase → Prop
  | quiet {current phase : Phase} {move : Move} (hreceipts : db'.receipts = db.receipts)
      (hphase : phase.active = none) : Effect db db' submission current move phase
  | asked {current phase : Phase} {move : Move} (hasks : move.asksDomain = true) (hdb : db' = db)
      (hphase : phase.active = none ∨ phase.active = current.active) :
      Effect db db' submission current move phase
  | created {current phase : Phase} {move : Move} (row : ReceiptRow)
      (hrow : Created submission row) (hunique : db.violatesUnique row = false)
      (hreceipts : db'.receipts = db.receipts ++ [row]) (hphase : phase.active = none) :
      Effect db db' submission current move phase
  | claimed {receipt : StoredReceipt} {expected : Option Nat} {phase : Phase} {move : Move}
      (target : ReceiptRow) (now : Int)
      (hits : Hits db target (Db.claimable receipt.id now) (Db.claimRow now))
      (hreceipts : db'.receipts =
        Table.rewrite (Db.claimable receipt.id now) (Db.claimRow now) db.receipts)
      (hphase : phase.active = none ∨
        phase = .executing (claimedAttempt receipt expected target) ∧ target.attemptCount = 0 ∨
        phase = .probing (claimedAttempt receipt expected target)) :
      Effect db db' submission (.claiming receipt expected) move phase
  | settled {attempt : Attempt} {verdict : Verdict} {phase : Phase} {move : Move}
      (target : ReceiptRow) (now : Int)
      (hits : Hits db target (Db.fenced (attempt.finalizeIdentity submission))
        (Db.finalizeRow verdict.finalizeVerdict now))
      (hreceipts : db'.receipts = Table.rewrite
        (Db.fenced (attempt.finalizeIdentity submission))
        (Db.finalizeRow verdict.finalizeVerdict now) db.receipts)
      (hphase : phase.active = none) :
      Effect db db' submission (.finalizing attempt verdict) move phase
  | unsettled {current phase : Phase} {move : Move} (target : ReceiptRow)
      (where_ : ReceiptRow → Bool)
      (hits : Hits db target where_ (fun row => { row with status := .unknown }))
      (hreceipts : db'.receipts =
        Table.rewrite where_ (fun row => { row with status := .unknown }) db.receipts)
      (hphase : phase.active = none) : Effect db db' submission current move phase

/-- An admission creates a receipt or leaves them alone. -/
theorem admitOperation_effect {db db' : Db} {submission : Submission} {newId : String} {now : Int}
    {admission : Admission} (h : admitOperation db submission newId now = some (db', admission)) :
    db'.receipts = db.receipts ∨
      ∃ row, Created submission row ∧ db.violatesUnique row = false ∧
        db'.receipts = db.receipts ++ [row] := by
  unfold admitOperation at h
  split at h
  · cases h
  · dsimp only at h
    split at h
    · cases h; exact .inl rfl
    · split at h
      · cases h; exact .inl rfl
      · cases h; exact .inl rfl
      · cases h; exact .inl rfl
      · cases h; exact .inl rfl
      · unfold admitFresh at h
        split at h
        · split at h
          · cases h; exact .inl rfl
          · split at h <;> cases h <;> exact .inl rfl
        · split at h
          · cases h
          · rename_i hcreate
            obtain ⟨hunique, hreceipts, _, _⟩ := createReceipt_eq_some hcreate
            cases h
            exact .inr ⟨_, ⟨rfl, rfl, rfl, rfl, rfl, rfl⟩, hunique, hreceipts⟩

/-- A worker that learnt nothing of its transaction holds no active attempt. -/
theorem elim_threw_active {β : Type} {learnt : Option β} {next : β → Phase}
    (h : ∀ b, learnt = some b → (next b).active = none) : (learnt.elim .threw next).active = none := by
  cases learnt with
  | none => rfl
  | some b => exact h b rfl

theorem moved_effect {db db' : Db} (hdb : db.WellFormed) {submission : Submission}
    {current phase : Phase} {move : Move} (h : Moved env db submission current move db' phase) :
    Effect db db' submission current move phase := by
  cases h with
  | ensured delivery _ hphase =>
    refine .quiet ?_ (by rcases hphase with rfl | rfl <;> rfl)
    have hensure : (db.ensureCursor submission.replayNamespace).receipts = db.receipts := by
      unfold Db.ensureCursor
      split <;> rfl
    cases delivery with
    | acknowledged => exact hensure
    | rolledBack => rfl
    | acknowledgementLost => exact hensure
  | admissionThrew => exact .quiet rfl rfl
  | admitted delivery newId now result hadmission =>
    have hphase : ((deliver delivery db result).2.elim .threw (afterAdmission env submission)).active
        = none := by
      refine elim_threw_active fun admission _ => ?_
      cases admission with
      | refuse => rfl
      | replay => exact active_of_heldReceipt_eq_none (answerReplay_heldReceipt _ _ _ _)
      | proceed => rfl
    have heffect := admitOperation_effect hadmission
    cases delivery with
    | rolledBack => exact .quiet rfl hphase
    | acknowledged =>
      rcases heffect with hsame | ⟨row, hrow, hunique, hreceipts⟩
      · exact .quiet hsame hphase
      · exact .created row hrow hunique hreceipts hphase
    | acknowledgementLost =>
      rcases heffect with hsame | ⟨row, hrow, hunique, hreceipts⟩
      · exact .quiet hsame hphase
      · exact .created row hrow hunique hreceipts hphase
  | claimThrew => exact .quiet rfl rfl
  | claimed receipt expected delivery now result hclaim =>
    obtain ⟨committed, generation⟩ := result
    obtain ⟨_, ⟨rfl, hsame⟩ | ⟨target, hits, rfl, hreceipts⟩⟩ := claimForProcessing_cases hdb hclaim
    · cases delivery with
      | acknowledged => exact .quiet hsame rfl
      | rolledBack => exact .quiet rfl rfl
      | acknowledgementLost => exact .quiet hsame rfl
    · cases delivery with
      | rolledBack => exact .quiet rfl rfl
      | acknowledgementLost => exact .claimed target now hits hreceipts (.inl rfl)
      | acknowledged =>
        refine .claimed target now hits hreceipts (.inr ?_)
        simp only [deliver, Option.elim_some, afterClaim, claimedAttempt]
        split
        · exact .inr rfl
        · exact .inl ⟨rfl, by omega⟩
  | noEvidence attempt => exact .asked rfl rfl (.inr rfl)
  | recovered attempt evidence effect heffect => exact .asked rfl rfl (.inr rfl)
  | probeFaulted => exact .quiet rfl rfl
  | executed attempt answer _ hanswer =>
    refine .asked rfl rfl ?_
    cases answer with
    | view view =>
      simp only [afterExecute, Option.map_eq_some_iff] at hanswer
      obtain ⟨effect, _, rfl⟩ := hanswer
      exact .inr rfl
    | httpException status =>
      simp only [afterExecute] at hanswer
      split at hanswer <;> cases hanswer
      · exact .inr rfl
      · exact .inl rfl
    | fault =>
      cases hanswer
      exact .inl rfl
  | finalized attempt verdict delivery now result hfinalize =>
    have hphase : (afterFinalize env submission attempt verdict
        (deliver delivery db result).2).active = none := by
      unfold afterFinalize
      split
      · rfl
      · rfl
      · exact active_of_heldReceipt_eq_none (answerResult_heldReceipt _ _)
    rcases finalizeAndAdvance_cases hdb (attempt.finalizeIdentity submission)
      verdict.finalizeVerdict now with ⟨hlost, _⟩ | ⟨target, hits, hreceipts, _⟩
    · rw [hfinalize] at hlost
      subst hlost
      refine .quiet ?_ hphase
      cases delivery <;> rfl
    · rw [hfinalize] at hreceipts
      cases delivery with
      | acknowledged => exact .settled target now hits hreceipts hphase
      | rolledBack => exact .quiet rfl hphase
      | acknowledgementLost => exact .settled target now hits hreceipts hphase
  | marked attempt delivery result hmark =>
    have hphase := active_of_heldReceipt_eq_none
      (afterMarkUnknown_heldReceipt submission attempt (deliver delivery db result).2)
    rcases markUnknown_cases hdb (attempt.finalizeIdentity submission) with
      ⟨hlost, _⟩ | ⟨target, hits, hreceipts, _⟩
    · rw [hmark] at hlost
      subst hlost
      refine .quiet ?_ hphase
      cases delivery <;> rfl
    · rw [hmark] at hreceipts
      cases delivery with
      | acknowledged => exact .unsettled target _ hits hreceipts hphase
      | rolledBack => exact .quiet rfl hphase
      | acknowledgementLost => exact .unsettled target _ hits hreceipts hphase
  | rereadReceipt => exact .quiet rfl rfl
  | rereadCursor =>
    exact .quiet rfl (active_of_heldReceipt_eq_none (afterLostFence_heldReceipt _ _ _))
  | rereadFaulted => exact .quiet rfl rfl
  | crashed => exact .quiet rfl rfl

theorem Hits.identity_of_mem_rewrite {db : Db} {target : ReceiptRow} {where_ : ReceiptRow → Bool}
    {data : ReceiptRow → ReceiptRow} (hits : Hits db target where_ data) {row' : ReceiptRow}
    (hrow' : row' ∈ Table.rewrite where_ data db.receipts) :
    ∃ row ∈ db.receipts, row'.identity = row.identity := by
  obtain ⟨row, hrow, rfl⟩ := Table.mem_rewrite.mp hrow'
  refine ⟨row, hrow, ?_⟩
  split
  next => exact hits.identity row
  next => rfl

/-- A row after a move was there before, or the moving worker's submission created it. -/
theorem Effect.origin {db db' : Db} {submission : Submission} {current phase : Phase} {move : Move}
    (h : Effect db db' submission current move phase) {row' : ReceiptRow}
    (hrow' : row' ∈ db'.receipts) :
    (∃ row ∈ db.receipts, row'.identity = row.identity) ∨ Created submission row' := by
  cases h with
  | quiet hreceipts => exact .inl ⟨row', hreceipts ▸ hrow', rfl⟩
  | asked _ hdb => exact .inl ⟨row', hdb ▸ hrow', rfl⟩
  | created row hrow hunique hreceipts =>
    rw [hreceipts] at hrow'
    cases List.mem_append.mp hrow' with
    | inl hold => exact .inl ⟨row', hold, rfl⟩
    | inr hnew => exact .inr (List.mem_singleton.mp hnew ▸ hrow)
  | claimed target now hits hreceipts => exact .inl (hits.identity_of_mem_rewrite (hreceipts ▸ hrow'))
  | settled target now hits hreceipts => exact .inl (hits.identity_of_mem_rewrite (hreceipts ▸ hrow'))
  | unsettled target where_ hits hreceipts =>
    exact .inl (hits.identity_of_mem_rewrite (hreceipts ▸ hrow'))

/-! ### Generations -/

/-- Generations are counted by their receipt and shared by no two attempts. -/
structure State.GenInv (s : State) : Prop where
  bounded : ∀ {i : Nat} {worker : Worker} {attempt : Attempt}, s.workers[i]? = some worker →
    worker.phase.active = some attempt → ∀ row ∈ s.db.receipts, row.id = attempt.receipt.id →
      1 ≤ attempt.claimGeneration ∧ attempt.claimGeneration ≤ row.attemptCount ∧
        (row.isFinalized = true → attempt.claimGeneration < row.attemptCount)
  distinct : ∀ {i j : Nat} {worker other : Worker} {attempt attempt' : Attempt},
    s.workers[i]? = some worker → s.workers[j]? = some other →
    worker.phase.active = some attempt → other.phase.active = some attempt' →
    attempt.receipt.id = attempt'.receipt.id →
    attempt.claimGeneration = attempt'.claimGeneration → i = j

theorem State.init_genInv : State.init.GenInv where
  bounded := fun h => by simp [State.init] at h
  distinct := fun h => by simp [State.init] at h

/-- The receipt of an active attempt is in the table, so no insert shares its id. -/
theorem active_not_created {db : Db} {worker : Worker} {attempt : Attempt} {row : ReceiptRow}
    (hagrees : worker.Agrees db) (hactive : worker.phase.active = some attempt)
    (hunique : db.violatesUnique row = false) : row.id ≠ attempt.receipt.id := by
  obtain ⟨known, hknown, hcarries⟩ := hagrees _ (heldReceipt_of_active hactive)
  intro hid
  exact (violatesUnique_eq_false hunique known hknown).1 (hcarries.id.trans hid.symm)

section MoveGenInv

variable {s : State} {i : Nat} {worker : Worker} {db' : Db} {move : Move} {phase : Phase}

/-- A worker that did not move stays within the bounds. -/
private theorem bounded_other (hs : s.Inv) (hgen : s.GenInv) (hworker : s.workers[i]? = some worker)
    (heffect : Effect s.db db' worker.submission worker.phase move phase)
    {j : Nat} {other : Worker} {attempt : Attempt} (hne : j ≠ i)
    (hother : s.workers[j]? = some other) (hactive : other.phase.active = some attempt) :
    ∀ row ∈ db'.receipts, row.id = attempt.receipt.id →
      1 ≤ attempt.claimGeneration ∧ attempt.claimGeneration ≤ row.attemptCount ∧
        (row.isFinalized = true → attempt.claimGeneration < row.attemptCount) := by
  have hold := hgen.bounded hother hactive
  have hagrees := hs.workers other (List.mem_of_getElem? hother)
  intro row hrow hid
  generalize hcurrent : worker.phase = current at heffect
  cases heffect with
  | quiet hreceipts => exact hold row (hreceipts ▸ hrow) hid
  | asked _ hdb => exact hold row (hdb ▸ hrow) hid
  | created new hnew hunique hreceipts =>
    rw [hreceipts, List.mem_append, List.mem_singleton] at hrow
    rcases hrow with hrow | rfl
    · exact hold row hrow hid
    · exact absurd hid (active_not_created hagrees hactive hunique)
  | claimed target now hits hreceipts =>
    rcases hits.mem_iff.mp (hreceipts ▸ hrow) with rfl | ⟨hrow, _⟩
    · obtain ⟨hpos, hle, _⟩ := hold target hits.mem hid
      exact ⟨hpos, Nat.le_succ_of_le hle, fun hfinal => nomatch hfinal⟩
    · exact hold row hrow hid
  | @settled own _ _ _ target now hits hreceipts =>
    rcases hits.mem_iff.mp (hreceipts ▸ hrow) with rfl | ⟨hrow, _⟩
    · obtain ⟨hpos, hle, _⟩ := hold target hits.mem hid
      obtain ⟨hown, _, hcount⟩ := fenced_spec.mp hits.hit
      refine ⟨hpos, hle, fun _ => Nat.lt_of_le_of_ne hle fun heq => hne ?_⟩
      -- the finalizing attempt carries the count, so nobody else does
      have hactiveOwn : worker.phase.active = some own := by rw [hcurrent]; rfl
      exact hgen.distinct hother hworker hactive hactiveOwn (hid.symm.trans hown)
        (heq.trans hcount)
    · exact hold row hrow hid
  | unsettled target where_ hits hreceipts =>
    rcases hits.mem_iff.mp (hreceipts ▸ hrow) with rfl | ⟨hrow, _⟩
    · obtain ⟨hpos, hle, _⟩ := hold target hits.mem hid
      exact ⟨hpos, hle, fun hfinal => nomatch hfinal⟩
    · exact hold row hrow hid

/-- The attempt of the worker that moved: its old one, or one on a fresh claim. -/
private theorem active_moved
    (heffect : Effect s.db db' worker.submission worker.phase move phase)
    {attempt : Attempt} (hactive : phase.active = some attempt) :
    db' = s.db ∧ worker.phase.active = some attempt ∨
      ∃ receipt expected target now, attempt = claimedAttempt receipt expected target ∧
        Hits s.db target (Db.claimable receipt.id now) (Db.claimRow now) ∧
        db'.receipts =
          Table.rewrite (Db.claimable receipt.id now) (Db.claimRow now) s.db.receipts := by
  generalize worker.phase = current at heffect ⊢
  cases heffect with
  | quiet _ hphase => exact nomatch hphase.symm.trans hactive
  | asked _ hdb hphase =>
    rcases hphase with hphase | hphase
    · exact nomatch hphase.symm.trans hactive
    · exact .inl ⟨hdb, hphase ▸ hactive⟩
  | created _ _ _ _ hphase => exact nomatch hphase.symm.trans hactive
  | @claimed receipt expected _ _ target now hits hreceipts hphase =>
    rcases hphase with hphase | ⟨rfl, _⟩ | rfl
    · exact nomatch hphase.symm.trans hactive
    · cases hactive
      exact .inr ⟨receipt, expected, target, now, rfl, hits, hreceipts⟩
    · cases hactive
      exact .inr ⟨receipt, expected, target, now, rfl, hits, hreceipts⟩
  | settled _ _ _ _ hphase => exact nomatch hphase.symm.trans hactive
  | unsettled _ _ _ _ hphase => exact nomatch hphase.symm.trans hactive

private theorem distinct_moved (hgen : s.GenInv)
    (hworker : s.workers[i]? = some worker)
    (heffect : Effect s.db db' worker.submission worker.phase move phase)
    {j : Nat} {other : Worker} {attempt attempt' : Attempt} (hne : j ≠ i)
    (hother : s.workers[j]? = some other) (hactive : phase.active = some attempt)
    (hactive' : other.phase.active = some attempt')
    (hid : attempt.receipt.id = attempt'.receipt.id) :
    attempt.claimGeneration ≠ attempt'.claimGeneration := by
  intro heq
  rcases active_moved heffect hactive with
    ⟨_, hold⟩ | ⟨receipt, expected, target, now, rfl, hits, _⟩
  · exact hne (hgen.distinct hworker hother hold hactive' hid heq).symm
  · have htarget := (claimable_spec hits.hit).1
    have hle := (hgen.bounded hother hactive' target hits.mem (htarget.trans hid)).2.1
    simp only [claimedAttempt] at heq
    omega

theorem moved_genInv (hs : s.Inv) (hgen : s.GenInv) (hworker : s.workers[i]? = some worker)
    (heffect : Effect s.db db' worker.submission worker.phase move phase) :
    State.GenInv ⟨db', s.workers.set i ⟨worker.submission, phase⟩⟩ where
  bounded := fun {j other attempt} hother hactive => by
    rcases List.getElem?_set_eq_some hother with ⟨rfl, rfl⟩ | ⟨hne, hother⟩
    · intro row hrow hid
      rcases active_moved heffect hactive with
        ⟨rfl, hold⟩ | ⟨receipt, expected, target, now, rfl, hits, hreceipts⟩
      · exact hgen.bounded hworker hold row hrow hid
      · dsimp only at hrow
        rcases hits.mem_iff.mp (hreceipts ▸ hrow) with rfl | ⟨hrow, hne⟩
        · exact ⟨Nat.succ_pos _, Nat.le_refl _, fun hfinal => nomatch hfinal⟩
        · have htarget := (claimable_spec hits.hit).1
          exact absurd (Table.eq_of_key hs.db.ids hrow hits.mem (hid.trans htarget.symm)) hne
    · exact bounded_other hs hgen hworker heffect hne hother hactive
  distinct := fun {j k w w' a a'} hj hk hactive hactive' hid heq => by
    rcases List.getElem?_set_eq_some hj with ⟨hji, rfl⟩ | ⟨hji, hold⟩ <;>
      rcases List.getElem?_set_eq_some hk with ⟨hki, rfl⟩ | ⟨hki, hold'⟩
    · exact hji.trans hki.symm
    · exact absurd heq (distinct_moved hgen hworker heffect hki hold' hactive hactive' hid)
    · exact absurd heq.symm
        (distinct_moved hgen hworker heffect hji hold hactive' hactive hid.symm)
    · exact hgen.distinct hold hold' hactive hactive' hid heq

end MoveGenInv

/-- A submission that starts holds no attempt. -/
theorem submitted_genInv {s : State} (hgen : s.GenInv) (submission : Submission) :
    State.GenInv { s with workers := s.workers ++ [⟨submission, .ensuringCursor⟩] } := by
  have hold : ∀ {j : Nat} {worker : Worker} {attempt : Attempt},
      (s.workers ++ [(⟨submission, .ensuringCursor⟩ : Worker)])[j]? = some worker →
      worker.phase.active = some attempt → s.workers[j]? = some worker := by
    intro j worker attempt hj hactive
    rw [List.getElem?_append] at hj
    split at hj
    · exact hj
    · obtain rfl := List.mem_singleton.mp (List.mem_of_getElem? hj)
      cases hactive
  exact ⟨fun hj hactive => hgen.bounded (hold hj hactive) hactive,
    fun hj hk hactive hactive' => hgen.distinct (hold hj hactive) (hold hk hactive') hactive hactive'⟩

/-- Every step keeps the generations. -/
theorem step_genInv {s s' : State} {label : Label} (hs : s.Inv) (hgen : s.GenInv)
    (h : step env s label = some s') : s'.GenInv := by
  rcases step_cases h with rfl | ⟨submission, _, rfl⟩ | ⟨i, worker, move, db', phase, _, hworker, hmoved, rfl⟩
  · exact hgen
  · exact submitted_genInv hgen submission
  · exact moved_genInv hs hgen hworker (moved_effect hs.db hmoved)

end Sentinel.FieldOffline
