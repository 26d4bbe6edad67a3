import Sentinel.ForStd.List
import Sentinel.Spec.FieldOfflineStoreInvariant

/-! # Cursor and receipt invariant of the replay executor

Workers interleave, stall, crash and resume in any order.  One move of one worker is one transaction
(`moveWorker_dbStep`), so what every transaction keeps, every run keeps. -/

namespace Sentinel.FieldOffline

open Transition

variable {env : Env}

/-! ### One move -/

/-- The receipt a worker holds between its admission and its last write. -/
def Phase.heldReceipt : Phase → Option StoredReceipt
  | .claiming receipt _ => some receipt
  | .probing attempt | .executing attempt | .finalizing attempt _ | .markingUnknown attempt =>
    some attempt.receipt
  | _ => none

/-- A worker holds a receipt of its own namespace only. -/
def Worker.Agrees (db : Db) (worker : Worker) : Prop :=
  ∀ receipt, worker.phase.heldReceipt = some receipt →
    Known db worker.submission.replayNamespace receipt

variable {db db' : Db} {worker : Worker} {submission : Submission} {receipt : StoredReceipt}
  {attempt : Attempt} {phase : Phase} {move : Move} {s s' : State} {label : Label}

theorem Worker.Agrees.dbStep (h : worker.Agrees db) (hstep : DbStep db db') : worker.Agrees db' :=
  fun receipt hheld => (h receipt hheld).dbStep hstep

theorem Worker.agrees_of_heldReceipt_eq_none
    (h : worker.phase.heldReceipt = none) : worker.Agrees db :=
  fun _ hheld => nomatch h.symm.trans hheld

theorem answerResult_heldReceipt (env : Env) (result : OperationResult) :
    (answerResult env result).heldReceipt = none := by
  unfold answerResult
  split <;> rfl

theorem answerReplay_heldReceipt (env : Env) (operation : Operation) (receipt : StoredReceipt)
    (last : Option Nat) : (answerReplay env operation receipt last).heldReceipt = none := by
  unfold answerReplay
  split
  · exact answerResult_heldReceipt env _
  · rfl

theorem afterLostFence_heldReceipt (submission : Submission) (current : Option StoredReceipt)
    (last : Option Nat) : (afterLostFence env submission current last).heldReceipt = none := by
  unfold afterLostFence
  split
  · rfl
  · split
    · exact answerReplay_heldReceipt env _ _ _
    · split <;> rfl

theorem afterAdmission_heldReceipt {admission : Admission}
    (h : (afterAdmission env submission admission).heldReceipt = some receipt) :
    ∃ last, admission = .proceed receipt last := by
  cases admission with
  | refuse code expected => cases h
  | replay stored last =>
    have hnone := answerReplay_heldReceipt env submission.operation stored last
    exact nomatch hnone.symm.trans h
  | proceed stored last =>
    simp only [afterAdmission, Phase.heldReceipt, Option.some.injEq] at h
    exact ⟨last, h ▸ rfl⟩

theorem afterClaim_heldReceipt {held : StoredReceipt} {expected generation : Option Nat}
    (h : (afterClaim submission receipt expected generation).heldReceipt = some held) :
    held = receipt := by
  cases generation with
  | none => cases h
  | some generation =>
    simp only [afterClaim] at h
    split at h <;> simp only [Phase.heldReceipt, Option.some.injEq] at h <;> exact h.symm

theorem afterExecute_heldReceipt {answer : DomainAnswer}
    (h : afterExecute submission attempt answer = some phase) :
    phase.heldReceipt = some attempt.receipt := by
  cases answer with
  | view view =>
    simp only [afterExecute, Option.map_eq_some_iff] at h
    obtain ⟨effect, _, rfl⟩ := h
    rfl
  | httpException status =>
    simp only [afterExecute] at h
    split at h <;> cases h <;> rfl
  | fault =>
    cases h
    rfl

theorem afterFinalize_heldReceipt {verdict : Verdict}
    {outcome : Option Db.FinalizeOutcome} {held : StoredReceipt}
    (h : (afterFinalize env submission attempt verdict outcome).heldReceipt = some held) :
    held = attempt.receipt := by
  unfold afterFinalize at h
  split at h
  · simp only [Phase.heldReceipt, Option.some.injEq] at h
    exact h.symm
  · cases h
  · exact nomatch (answerResult_heldReceipt env _).symm.trans h

theorem afterMarkUnknown_heldReceipt (submission : Submission) (attempt : Attempt)
    (outcome : Option Db.MarkUnknownOutcome) :
    (afterMarkUnknown submission attempt outcome).heldReceipt = none := by
  unfold afterMarkUnknown
  split <;> rfl

/-- However a transaction ended for its caller, the database made one step. -/
theorem deliver_dbStep {β : Type} {committed : Db × β} (h : DbStep db committed.1)
    (delivery : Delivery) : DbStep db (deliver delivery db committed).1 := by
  cases delivery with
  | acknowledged => exact h
  | rolledBack => exact DbStep.refl db
  | acknowledgementLost => exact h

/-- A caller that learns something learns it of the committed database. -/
theorem deliver_eq_some {β : Type} {delivery : Delivery} {committed : Db × β} {learnt : β}
    (h : (deliver delivery db committed).2 = some learnt) :
    deliver delivery db committed = (committed.1, some committed.2) ∧ learnt = committed.2 := by
  cases delivery with
  | acknowledged =>
    simp only [deliver, Option.some.injEq] at h
    exact ⟨rfl, h.symm⟩
  | rolledBack => cases h
  | acknowledgementLost => cases h

/-- The row of a held receipt sits at the position the worker will finalize. -/
theorem Known.positionKey (hdb : db.WellFormed) {ns : ReplayNamespace} (h : Known db ns receipt)
    {row : ReceiptRow}
    (hmem : row ∈ db.receipts) (hid : row.id = receipt.id) :
    FieldOffline.positionKey row = (ns, receipt.deviceSequence) := by
  obtain ⟨known, hknown, hcarries⟩ := h
  obtain rfl := Table.eq_of_key hdb.ids hmem hknown (hid.trans hcarries.id.symm)
  rw [FieldOffline.positionKey, hcarries.replayNamespace, hcarries.deviceSequence]

/-- The moves `submit` makes, one constructor for each phase and move that go
    together. -/
inductive Moved (env : Env) (db : Db) (submission : Submission) :
    Phase → Move → Db → Phase → Prop
  | ensured (delivery : Delivery) (phase : Phase) (hphase : phase = .admitting ∨ phase = .threw) :
    Moved env db submission .ensuringCursor (.ensureCursor delivery)
      (deliver delivery db (db.ensureCursor submission.replayNamespace, ())).1 phase
  | admissionThrew (delivery : Delivery) (newId : String) (now : Int) :
    Moved env db submission .admitting (.admitOperation delivery newId now) db .threw
  | admitted (delivery : Delivery) (newId : String) (now : Int) (result : Db × Admission)
      (hadmission : admitOperation db submission newId now = some result) :
    Moved env db submission .admitting (.admitOperation delivery newId now)
      (deliver delivery db result).1
      ((deliver delivery db result).2.elim .threw (afterAdmission env submission))
  | claimThrew (receipt : StoredReceipt) (expected : Option Nat) (delivery : Delivery) (now : Int) :
    Moved env db submission (.claiming receipt expected) (.claim delivery now) db .threw
  | claimed (receipt : StoredReceipt) (expected : Option Nat) (delivery : Delivery) (now : Int)
      (result : Db × Option Nat)
      (hclaim : db.claimForProcessing receipt.id now = some result) :
    Moved env db submission (.claiming receipt expected) (.claim delivery now)
      (deliver delivery db result).1
      ((deliver delivery db result).2.elim .threw (afterClaim submission receipt expected))
  | noEvidence (attempt : Attempt) :
    Moved env db submission (.probing attempt) (.probe none) db (.executing attempt)
  | recovered (attempt : Attempt) (evidence : DomainEvidence) (effect : ExecutionEffect)
      (heffect : probeEffect submission.operation.payload evidence = some effect) :
    Moved env db submission (.probing attempt) (.probe (some evidence)) db
      (.finalizing attempt (.applied effect))
  | probeFaulted (attempt : Attempt) :
    Moved env db submission (.probing attempt) .probeFault db .threw
  | executed (attempt : Attempt) (answer : DomainAnswer) (phase : Phase)
      (hanswer : afterExecute submission attempt answer = some phase) :
    Moved env db submission (.executing attempt) (.execute answer) db phase
  | finalized (attempt : Attempt) (verdict : Verdict) (delivery : Delivery) (now : Int)
      (result : Db × Db.FinalizeOutcome)
      (hfinalize : db.finalizeAndAdvance (attempt.finalizeIdentity submission)
        verdict.finalizeVerdict now = result) :
    Moved env db submission (.finalizing attempt verdict) (.finalize delivery now)
      (deliver delivery db result).1
      (afterFinalize env submission attempt verdict (deliver delivery db result).2)
  | marked (attempt : Attempt) (delivery : Delivery) (result : Db × Db.MarkUnknownOutcome)
      (hmark : db.markUnknown (attempt.finalizeIdentity submission) = result) :
    Moved env db submission (.markingUnknown attempt) (.markUnknown delivery)
      (deliver delivery db result).1
      (afterMarkUnknown submission attempt (deliver delivery db result).2)
  | rereadReceipt (receiptId : String) :
    Moved env db submission (.rereadingReceipt receiptId) .reread db
      (.rereadingCursor (db.getReceiptById receiptId))
  | rereadCursor (current : Option StoredReceipt) :
    Moved env db submission (.rereadingCursor current) .reread db
      (afterLostFence env submission current (db.readCursor submission.replayNamespace))
  | rereadFaulted (phase : Phase) (hphase : phase.heldReceipt = none) :
    Moved env db submission phase .rereadFault db .threw
  | crashed (phase : Phase) :
    Moved env db submission phase .crash db .crashed

/-- A move that is made is one of them. -/
theorem moveWorker_moved (h : moveWorker env db worker move = some (db', phase)) :
    Moved env db worker.submission worker.phase move db' phase := by
  obtain ⟨submission, current⟩ := worker
  unfold moveWorker at h
  dsimp only at h ⊢
  split at h
  · cases h
    refine .ensured _ _ ?_
    split
    next => exact .inl rfl
    next => exact .inr rfl
  · split at h
    · cases h
      exact .admissionThrew _ _ _
    · rename_i hadmission
      cases h
      exact .admitted _ _ _ _ hadmission
  · split at h
    · cases h
      exact .claimThrew _ _ _ _
    · rename_i hclaim
      cases h
      exact .claimed _ _ _ _ _ hclaim
  · split at h
    · cases h
      exact .noEvidence _
    · simp only [Option.map_eq_some_iff, Prod.mk.injEq] at h
      obtain ⟨effect, heffect, rfl, rfl⟩ := h
      exact .recovered _ _ _ heffect
  · cases h
    exact .probeFaulted _
  · simp only [Option.map_eq_some_iff, Prod.mk.injEq] at h
    obtain ⟨_, hanswer, rfl, rfl⟩ := h
    exact .executed _ _ _ hanswer
  · cases h
    exact .finalized _ _ _ _ _ rfl
  · cases h
    exact .marked _ _ _ rfl
  · cases h
    exact .rereadReceipt _
  · cases h
    exact .rereadCursor _
  · cases h
    exact .rereadFaulted _ rfl
  · cases h
    exact .rereadFaulted _ rfl
  · split at h
    · cases h
      exact .crashed _
    · cases h
  · cases h

/-! ### The invariant of the system -/

/-- One move is one transaction, and the worker still holds what it may hold. -/
theorem moved_dbStep (hdb : db.WellFormed)
    {current : Phase} (hagrees : Worker.Agrees db ⟨submission, current⟩)
    (h : Moved env db submission current move db' phase) :
    DbStep db db' ∧ Worker.Agrees db' ⟨submission, phase⟩ := by
  -- a worker that keeps the receipt it held agrees with the next database
  have hkeep : ∀ {receipt next}, current.heldReceipt = some receipt → DbStep db next →
      (∀ held, phase.heldReceipt = some held → held = receipt) →
      DbStep db next ∧ Worker.Agrees next ⟨submission, phase⟩ := by
    intro receipt next hcurrent hstep hphase
    refine ⟨hstep, fun held hheld => ?_⟩
    rw [hphase held hheld]
    exact (hagrees receipt hcurrent).dbStep hstep
  cases h with
  | ensured delivery _ hphase =>
    refine ⟨deliver_dbStep (ensureCursor_dbStep db _) delivery, ?_⟩
    rcases hphase with rfl | rfl <;> exact Worker.agrees_of_heldReceipt_eq_none rfl
  | admissionThrew => exact ⟨DbStep.refl db, Worker.agrees_of_heldReceipt_eq_none rfl⟩
  | admitted delivery newId now result hadmission =>
    obtain ⟨committed, admission⟩ := result
    obtain ⟨hstep, hproceed⟩ := admitOperation_dbStep hadmission
    refine ⟨deliver_dbStep hstep delivery, fun receipt hheld => ?_⟩
    cases hlearnt : (deliver delivery db (committed, admission)).2 with
    | none =>
      rw [hlearnt] at hheld
      cases hheld
    | some learnt =>
      obtain ⟨hdeliver, rfl⟩ := deliver_eq_some hlearnt
      rw [hlearnt] at hheld
      obtain ⟨last, hlast⟩ := afterAdmission_heldReceipt hheld
      rw [hdeliver]
      exact hproceed receipt last hlast
  | claimThrew => exact ⟨DbStep.refl db, Worker.agrees_of_heldReceipt_eq_none rfl⟩
  | claimed receipt expected delivery now result hclaim =>
    refine hkeep rfl (deliver_dbStep (claimForProcessing_dbStep hdb hclaim) delivery)
      fun held hheld => ?_
    cases hlearnt : (deliver delivery db result).2 with
    | none =>
      rw [hlearnt] at hheld
      cases hheld
    | some learnt =>
      rw [hlearnt] at hheld
      exact afterClaim_heldReceipt hheld
  | noEvidence attempt =>
    exact hkeep rfl (DbStep.refl db) fun held hheld => (Option.some.inj hheld).symm
  | recovered attempt evidence effect heffect =>
    exact hkeep rfl (DbStep.refl db) fun held hheld => (Option.some.inj hheld).symm
  | probeFaulted => exact ⟨DbStep.refl db, Worker.agrees_of_heldReceipt_eq_none rfl⟩
  | executed attempt answer _ hanswer =>
    refine hkeep rfl (DbStep.refl db) fun held hheld => ?_
    rw [afterExecute_heldReceipt hanswer, Option.some.injEq] at hheld
    exact hheld.symm
  | finalized attempt verdict delivery now result hfinalize =>
    have hstep : DbStep db (db.finalizeAndAdvance (attempt.finalizeIdentity submission)
        verdict.finalizeVerdict now).1 :=
      finalizeAndAdvance_dbStep hdb _ now fun row hrow hid =>
        (hagrees _ rfl).positionKey hdb hrow hid
    exact hkeep rfl (deliver_dbStep (hfinalize ▸ hstep) delivery)
      fun held hheld => afterFinalize_heldReceipt hheld
  | marked attempt delivery result hmark =>
    have hstep := markUnknown_dbStep hdb (attempt.finalizeIdentity submission)
    exact ⟨deliver_dbStep (hmark ▸ hstep) delivery,
      Worker.agrees_of_heldReceipt_eq_none (afterMarkUnknown_heldReceipt _ _ _)⟩
  | rereadReceipt => exact ⟨DbStep.refl db, Worker.agrees_of_heldReceipt_eq_none rfl⟩
  | rereadCursor =>
    exact ⟨DbStep.refl db,
      Worker.agrees_of_heldReceipt_eq_none (afterLostFence_heldReceipt _ _ _)⟩
  | rereadFaulted => exact ⟨DbStep.refl db, Worker.agrees_of_heldReceipt_eq_none rfl⟩
  | crashed => exact ⟨DbStep.refl db, Worker.agrees_of_heldReceipt_eq_none rfl⟩

/-- The tables are well formed and every worker agrees with them. -/
structure State.Inv (s : State) : Prop where
  db : s.db.WellFormed
  workers : ∀ worker ∈ s.workers, worker.Agrees s.db

theorem State.init_inv : State.init.Inv :=
  ⟨Db.empty_wellFormed, fun _ h => nomatch h⟩

/-- The digests of a submission are those of its own operation. -/
structure Submission.Derived (env : Env) (submission : Submission) : Prop where
  requestFingerprint : submission.requestFingerprint =
    env.fingerprintOfflineSemanticRequest submission.replayNamespace submission.operation
  downstreamIdempotencyKey : submission.downstreamIdempotencyKey =
    env.deriveOfflineDownstreamIdempotencyKey submission.replayNamespace
      submission.operation.offlineOperationId submission.operation.operationKind

theorem preflight_derived {principal : Principal} {context : DeviceContext}
    {rawOperation : Except (List String) Operation} {policyLeaseId : Option String}
    {siteExists : Bool}
    (h : preflight env principal context rawOperation policyLeaseId siteExists = .ok submission) :
    submission.Derived env := by
  cases rawOperation with
  | error issues => cases h
  | ok operation =>
    simp only [preflight] at h
    split at h
    · cases h
    · split at h
      · cases h
      · cases h
        exact ⟨rfl, rfl⟩

/-- What a submission past its preflight carries. -/
theorem preflight_ok {principal : Principal} {context : DeviceContext}
    {rawOperation : Except (List String) Operation} {policyLeaseId : Option String}
    {siteExists : Bool}
    (h : preflight env principal context rawOperation policyLeaseId siteExists = .ok submission) :
    rawOperation = .ok submission.operation ∧
      submission.replayNamespace = ⟨context.organisationId, submission.operation.siteId,
        context.userId, context.deviceId⟩ := by
  cases rawOperation with
  | error issues => cases h
  | ok operation =>
    simp only [preflight] at h
    split at h
    · cases h
    · split at h
      · cases h
      · cases h
        exact ⟨rfl, rfl⟩

/-- Inversion of a system step: a submission starts, or one worker moves. -/
theorem step_cases (h : step env s label = some s') : s' = s ∨
      (∃ submission, submission.Derived env ∧
        s' = { s with workers := s.workers ++ [⟨submission, .ensuringCursor⟩] }) ∨
      ∃ i worker move db' phase, label = .move i move ∧ s.workers[i]? = some worker ∧
        Moved env s.db worker.submission worker.phase move db' phase ∧
        s' = ⟨db', s.workers.set i ⟨worker.submission, phase⟩⟩ := by
  cases label with
  | submit principal context rawOperation policyLeaseId siteExists =>
    simp only [step] at h
    split at h
    · exact .inl (Option.some.inj h).symm
    · rename_i hpreflight
      exact .inr (.inl ⟨_, preflight_derived hpreflight, (Option.some.inj h).symm⟩)
  | move i move =>
    simp only [step] at h
    split at h
    · cases h
    · rename_i worker hworker
      split at h
      · cases h
      · rename_i db' phase hmove
        exact .inr (.inr ⟨i, worker, move, db', phase, rfl, hworker, moveWorker_moved hmove,
          (Option.some.inj h).symm⟩)

/-- Every system step makes one database step and keeps the invariant. -/
theorem step_dbStep (hs : s.Inv) (h : step env s label = some s') : DbStep s.db s'.db ∧ s'.Inv := by
  rcases step_cases h with rfl | ⟨submission, _, rfl⟩ | ⟨i, worker, move, db', phase, _, hworker, hmoved, rfl⟩
  · exact ⟨DbStep.refl _, hs⟩
  · refine ⟨DbStep.refl _, hs.db, fun worker hworker => ?_⟩
    rcases List.of_mem_concat hworker with hold | rfl
    · exact hs.workers worker hold
    · exact Worker.agrees_of_heldReceipt_eq_none rfl
  · have hagrees := hs.workers worker (List.mem_of_getElem? hworker)
    obtain ⟨hstep, hmovedAgrees⟩ := moved_dbStep hs.db hagrees hmoved
    refine ⟨hstep, hstep.wellFormed hs.db, fun other hother => ?_⟩
    rcases List.mem_or_eq_of_mem_set hother with hold | rfl
    · exact (hs.workers other hold).dbStep hstep
    · exact hmovedAgrees

theorem step_inv (hs : s.Inv) (h : step env s label = some s') : s'.Inv :=
  (step_dbStep hs h).2

theorem reaches_inv (h : Reaches (step env) State.init s) : s.Inv :=
  h.invariant step_inv State.init_inv

/-! ### Whole runs -/

/-- The position after the cursor, whether or not it can still be admitted. -/
def positionAfter : Option Nat → Nat
  | none => 0
  | some last => last + 1

structure CursorReceipts (db : Db) (ns : ReplayNamespace) : Prop where
  /-- The finalized receipts sit at exactly the positions up to the cursor. -/
  finalizedPositions : ∀ position,
    (∃ row ∈ db.receipts, row.replayNamespace = ns ∧ row.deviceSequence = position ∧
      row.isFinalized = true) ↔ Consumed (db.readCursor ns) position
  pendingAtMostOne :
    db.receipts.countP (fun row => row.replayNamespace = ns ∧ row.isFinalized = false) ≤ 1
  /-- An unfinalized receipt sits right after the cursor. -/
  pendingPosition : ∀ row ∈ db.receipts, row.replayNamespace = ns → row.isFinalized = false →
    row.deviceSequence = positionAfter (db.readCursor ns)
  positionsDistinct :
    ((db.receipts.filter fun row => row.replayNamespace = ns).map (·.deviceSequence)).Nodup
  operationIdsDistinct :
    ((db.receipts.filter fun row => row.replayNamespace = ns).map (·.offlineOperationId)).Nodup

theorem nextExpected_eq_positionAfter {cursor : Option Nat} {next : Nat}
    (h : nextExpectedOfflineSequence cursor = some next) : next = positionAfter cursor := by
  rcases nextExpected_eq_some h with ⟨rfl, rfl⟩ | ⟨last, rfl, rfl⟩ <;> rfl

theorem Db.WellFormed.cursorReceipts (hdb : db.WellFormed) (ns : ReplayNamespace) :
    CursorReceipts db ns where
  finalizedPositions := fun position => by
    constructor
    · rintro ⟨row, hrow, rfl, rfl, hfinal⟩
      exact hdb.finalized_consumed row hrow hfinal
    · intro hconsumed
      obtain ⟨row, hrow, hkey, hfinal⟩ := hdb.consumed_finalized ns position hconsumed
      simp only [FieldOffline.positionKey, Prod.mk.injEq] at hkey
      exact ⟨row, hrow, hkey.1, hkey.2, hfinal⟩
  pendingAtMostOne := by
    refine Table.countP_le_one (k := (ns, positionAfter (db.readCursor ns))) hdb.positions
      fun row hrow hp => ?_
    simp only [decide_eq_true_eq] at hp
    obtain ⟨rfl, hopen⟩ := hp
    rw [FieldOffline.positionKey, nextExpected_eq_positionAfter (hdb.pending_next row hrow hopen)]
  pendingPosition := fun row hrow hns hopen => by
    subst hns
    exact nextExpected_eq_positionAfter (hdb.pending_next row hrow hopen)
  positionsDistinct := by
    refine Table.nodup_map_filter hdb.positions fun a b ha hb heq => ?_
    simp only [decide_eq_true_eq] at ha hb
    rw [FieldOffline.positionKey, FieldOffline.positionKey, ha, hb, heq]
  operationIdsDistinct := by
    refine Table.nodup_map_filter hdb.operationIds fun a b ha hb heq => ?_
    simp only [decide_eq_true_eq] at ha hb
    rw [operationKey, operationKey, ha, hb, heq]

/-- What later states owe to earlier ones: cursors only advance, and finalized
    receipts stay as they are. -/
structure DbLe (db db' : Db) : Prop where
  cursor : ∀ ns, CursorLe (db.readCursor ns) (db'.readCursor ns)
  finalized : ∀ row ∈ db.receipts, row.isFinalized = true → row ∈ db'.receipts

theorem DbLe.refl (db : Db) : DbLe db db :=
  ⟨fun _ => CursorLe.refl _, fun _ hrow _ => hrow⟩

theorem DbLe.trans {a b c : Db} (h₁ : DbLe a b) (h₂ : DbLe b c) : DbLe a c :=
  ⟨fun ns => (h₁.cursor ns).trans (h₂.cursor ns),
    fun row hrow hfinal => h₂.finalized row (h₁.finalized row hrow hfinal) hfinal⟩

theorem DbStep.dbLe (h : DbStep db db') (hdb : db.WellFormed) : DbLe db db' :=
  ⟨h.cursorLe hdb, fun _ hrow hfinal => h.finalized_kept hrow hfinal⟩

/-- Every run only advances cursors and keeps finalized receipts. -/
theorem run_dbLe {labels : List Label} (hs : s.Inv)
    (h : run (step env) s labels = some s') : DbLe s.db s'.db := by
  have hrefl : ∀ s : State, DbLe s.db s.db := fun s => DbLe.refl s.db
  have htrans : ∀ {s t u : State}, DbLe s.db t.db → DbLe t.db u.db → DbLe s.db u.db :=
    fun h₁ h₂ => h₁.trans h₂
  exact run_mono (r := fun s s' => DbLe s.db s'.db) hrefl htrans step_inv
    (fun hs hstep => (step_dbStep hs hstep).1.dbLe hs.db) hs h

/-- An attempt whose fence no longer matches: its receipt has been finalized,
    marked UNKNOWN or reclaimed since. -/
def Superseded (db : Db) (attempt : Attempt) : Prop :=
  ∀ row ∈ db.receipts, row.id = attempt.receipt.id →
    row.status ≠ .applying ∨ row.attemptCount ≠ attempt.claimGeneration

theorem Superseded.countWhere (h : Superseded db attempt) (submission : Submission) :
    db.countWhere (Db.fenced (attempt.finalizeIdentity submission)) = 0 := by
  refine List.countP_eq_zero.mpr fun row hrow hfenced => ?_
  obtain ⟨hid, hstatus, hcount⟩ := fenced_spec.mp hfenced
  rcases h row hrow hid with hne | hne
  · exact hne hstatus
  · exact hne hcount

/-- No write of a superseded attempt reaches the tables. -/
theorem superseded_moved {current : Phase} (hsuperseded : Superseded db attempt)
    (hcurrent : current = .markingUnknown attempt ∨ ∃ verdict, current = .finalizing attempt verdict)
    (h : Moved env db submission current move db' phase) : db' = db := by
  have hcount := hsuperseded.countWhere submission
  rcases hcurrent with rfl | ⟨verdict, rfl⟩
  · cases h with
    | marked _ delivery result hmark =>
      rw [Db.markUnknown, if_pos hcount] at hmark
      subst hmark
      cases delivery <;> rfl
    | rereadFaulted => rfl
    | crashed => rfl
  · cases h with
    | finalized _ _ delivery now result hfinalize =>
      rw [Db.finalizeAndAdvance, if_pos hcount] at hfinalize
      subst hfinalize
      cases delivery <;> rfl
    | rereadFaulted => rfl
    | crashed => rfl

/-- **Cursor and receipts under every interleaving** of any number of submissions agree in every
namespace, and no run decreases the cursor, changes a finalized receipt or lets a superseded attempt
write. -/
theorem replay_cursorReceipts {s s' : State} (hs : Reaches (step env) State.init s)
    (hs' : Reaches (step env) s s') (ns : ReplayNamespace) :
    CursorReceipts s.db ns ∧
    CursorLe (s.db.readCursor ns) (s'.db.readCursor ns) ∧
    (∀ row ∈ s.db.receipts, row.isFinalized = true →
      row ∈ s'.db.receipts ∧ ∀ row' ∈ s'.db.receipts, row'.id = row.id → row' = row) ∧
    ∀ i worker attempt move t, s.workers[i]? = some worker →
      (worker.phase = .markingUnknown attempt ∨ ∃ verdict, worker.phase = .finalizing attempt verdict) →
      Superseded s.db attempt → step env s (.move i move) = some t → t.db = s.db := by
  have hinv := reaches_inv hs
  obtain ⟨labels, hrun⟩ := hs'
  have hle := run_dbLe hinv hrun
  have hinv' : s'.Inv := run_invariant step_inv hinv hrun
  refine ⟨hinv.db.cursorReceipts ns, hle.cursor ns, fun row hrow hfinal => ?_, ?_⟩
  · have hrow' := hle.finalized row hrow hfinal
    exact ⟨hrow', fun other hother hid => Table.eq_of_key hinv'.db.ids hother hrow' hid⟩
  · intro i worker attempt move t hworker hphase hsuperseded hstep
    rcases step_cases hstep with rfl | ⟨_, _, rfl⟩ | ⟨j, other, move', db', phase, hlabel, hother, hmoved, rfl⟩
    · rfl
    · rfl
    · cases hlabel
      rw [hworker, Option.some.injEq] at hother
      subst hother
      exact superseded_moved hsuperseded hphase hmoved

/-! ### A concrete run -/

namespace Sample

def principal : Principal := ⟨"user-1", "org-1", [⟨"operative", none⟩]⟩

def context : DeviceContext := ⟨"org-1", "user-1", "device-1", ["site-1"]⟩

def ns : ReplayNamespace := ⟨"org-1", "site-1", "user-1", "device-1"⟩

/-- An environment in which every role grants every action, and whose key digest
    tells the operation below from every other. -/
def environment : Env where
  roleHasAction := fun _ _ => true
  fingerprintOfflineSemanticRequest := fun _ operation => operation.offlineOperationId
  deriveOfflineDownstreamIdempotencyKey := fun ns' offlineOperationId _ =>
    if ns' = ns ∧ offlineOperationId = "op-1" then "offline:1" else "offline:2"
  resultParses := fun _ => true

/-- Accepting assignment `a1`, queued at position 0. -/
def operation : Operation where
  offlineOperationId := "op-1"
  organisationId := "org-1"
  siteId := "site-1"
  deviceId := "device-1"
  deviceSequence := 0
  deviceSequence_le := by decide
  idempotencyKey := "k1"
  createdAt := "2026-01-01T00:00:00.000Z"
  traceId := "t1"
  payload := .assignment .accept ⟨"a1", .requested⟩

def submit : Label := .submit principal context (.ok operation) none true

/-- A worker stalls after its claim, a second one reclaims the receipt past the
    lease and finalizes it, and then the first one wakes up. -/
def reclaimed : List Label :=
  [submit, submit,
    .move 0 (.ensureCursor .acknowledged), .move 1 (.ensureCursor .acknowledged),
    .move 0 (.admitOperation .acknowledged "r1" 0), .move 0 (.claim .acknowledged 1),
    .move 1 (.admitOperation .acknowledged "r2" 2), .move 1 (.claim .acknowledged 60002),
    .move 1 (.probe none), .move 1 (.execute (.view (.assignment "a1" .accepted))),
    .move 1 (.finalize .acknowledged 60003)]

/-- The stale worker runs into its fence. -/
def resumed : List Label :=
  [.move 0 (.execute (.httpException 409)), .move 0 (.finalize .acknowledged 60004)]

end Sample

theorem replay_cursorReceipts_reclaimed :
    CursorReceipts ((run (step Sample.environment) State.init Sample.reclaimed).getD State.init).db
      Sample.ns :=
  (replay_cursorReceipts (reaches_run_getD (by decide)) (Reaches.refl _) Sample.ns).1

example : ((run (step Sample.environment) State.init (Sample.reclaimed ++ Sample.resumed)).map
    fun s => (s.db.readCursor Sample.ns, s.db.receipts.map (·.status))) =
      some (some 0, [.applied]) := by
  decide

end Sentinel.FieldOffline
