import Sentinel.Spec.FieldOfflineClaims

/-! # Truthful rejection under reclaim

The probe makes a rejection true of the attempts that came before it, but nothing fences the domain
call of a superseded attempt (`rejected_then_committed`). -/

namespace Sentinel.FieldOffline

open Transition

variable {env : Env} {domain : DomainService}

/-! ### The condition -/

/-- The phases that end in a rejection if the domain refuses: the call itself, and
    the finalization of a refusal. -/
inductive Phase.Judges : Phase → Attempt → Prop
  | executing (attempt : Attempt) : Phase.Judges (.executing attempt) attempt
  | rejected (attempt : Attempt) (httpStatus : Nat) :
    Phase.Judges (.finalizing attempt (.rejected httpStatus)) attempt

theorem Phase.Judges.active {phase : Phase} {attempt : Attempt} (h : phase.Judges attempt) :
    phase.active = some attempt := by
  cases h <;> rfl

/-- The receipt is REJECTED, or the attempt of its current generation is past its
    probe and has not succeeded. -/
def Judged (s : State) (row : ReceiptRow) : Prop :=
  row.status = .rejected ∨
    ∃ worker ∈ s.workers, ∃ attempt, worker.phase.Judges attempt ∧
      attempt.receipt.id = row.id ∧ attempt.claimGeneration = row.attemptCount

/-- A step in which the call of a superseded attempt is about to commit while its
    receipt is judged. -/
def UnfencedCommit (env : Env) (s : RecoveryState domain) : RecoveryLabel domain → Prop
  | .call i _ =>
    ∃ worker attempt row, s.central.workers[i]? = some worker ∧
      worker.phase = .executing attempt ∧ row ∈ s.central.db.receipts ∧
      row.id = attempt.receipt.id ∧ attempt.claimGeneration ≠ row.attemptCount ∧
      domain.eligible s.domain (attempt.domainCall env worker.submission) = true ∧
      domain.evidence s.domain worker.submission.operation.payload
        attempt.receipt.downstreamIdempotencyKey = none ∧
      Judged s.central row
  | _ => False

/-! ### The invariant -/

section Invariant

variable (key : String) (origin : ReplayNamespace × String)

/-- Nothing has committed under `key` where the executor relies on it: while its
    receipt is unclaimed, while the current attempt is past its probe, and once
    the receipt is REJECTED. -/
structure Truthful (env : Env) (central : State) (committed : Nat) : Prop where
  submissions : ∀ worker ∈ central.workers, worker.submission.Derived env
  origin : ∀ row ∈ central.db.receipts, row.downstreamIdempotencyKey = key →
    operationKey row = origin
  untouched : (∀ row ∈ central.db.receipts, row.downstreamIdempotencyKey = key →
    row.attemptCount = 0) → committed = 0
  rejected : ∀ row ∈ central.db.receipts, row.downstreamIdempotencyKey = key →
    row.status = .rejected → committed = 0
  judged : ∀ worker ∈ central.workers, ∀ attempt, worker.phase.Judges attempt →
    ∀ row ∈ central.db.receipts, row.id = attempt.receipt.id →
      row.downstreamIdempotencyKey = key → attempt.claimGeneration = row.attemptCount →
      committed = 0

variable {key origin}

theorem State.init_truthful : Truthful key origin env State.init 0 where
  submissions := fun _ h => nomatch h
  origin := fun _ h => nomatch h
  untouched := fun _ => rfl
  rejected := fun _ h => nomatch h
  judged := fun _ h => nomatch h

theorem Truthful.row_unique {central : State} {committed : Nat} (hs : central.Inv)
    (h : Truthful key origin env central committed) {a b : ReceiptRow}
    (ha : a ∈ central.db.receipts) (hb : b ∈ central.db.receipts)
    (hka : a.downstreamIdempotencyKey = key) (hkb : b.downstreamIdempotencyKey = key) : a = b :=
  Table.eq_of_key hs.db.operationIds ha hb ((h.origin a ha hka).trans (h.origin b hb hkb).symm)

/-- A rewritten row keeps its key, id and operation. -/
theorem Hits.columns {db : Db} {target : ReceiptRow} {where_ : ReceiptRow → Bool}
    {data : ReceiptRow → ReceiptRow} (h : Hits db target where_ data) :
    (data target).id = target.id ∧ operationKey (data target) = operationKey target ∧
      (data target).downstreamIdempotencyKey = target.downstreamIdempotencyKey := by
  have hidentity := h.identity target
  refine ⟨(keys_of_identity hidentity).1, (keys_of_identity hidentity).2.2, ?_⟩
  simp only [ReceiptRow.identity, ReceiptIdentity.mk.injEq] at hidentity
  exact hidentity.2.2.2.2.2.2.1

end Invariant

section Moves

variable {key : String} {origin : ReplayNamespace × String} {s : State} {committed i : Nat}
  {worker : Worker} {db' : Db} {phase : Phase}

private theorem mem_moved {other : Worker}
    (h : other ∈ s.workers.set i ⟨worker.submission, phase⟩) :
    other ∈ s.workers ∨ other = ⟨worker.submission, phase⟩ :=
  List.mem_or_eq_of_mem_set h

private theorem submissions_moved (htruth : Truthful key origin env s committed)
    (hworker : s.workers[i]? = some worker) :
    ∀ other ∈ s.workers.set i ⟨worker.submission, phase⟩, other.submission.Derived env := by
  intro other hother
  rcases mem_moved hother with hold | rfl
  · exact htruth.submissions other hold
  · exact htruth.submissions worker (List.mem_of_getElem? hworker)

/-- A move that leaves the receipts alone and judges nothing new. -/
private theorem truthful_quiet (htruth : Truthful key origin env s committed)
    (hworker : s.workers[i]? = some worker) (hreceipts : db'.receipts = s.db.receipts)
    (hjudges : ∀ attempt, phase.Judges attempt → ∀ row ∈ s.db.receipts,
      row.id = attempt.receipt.id → row.downstreamIdempotencyKey = key →
      attempt.claimGeneration = row.attemptCount → committed = 0) :
    Truthful key origin env ⟨db', s.workers.set i ⟨worker.submission, phase⟩⟩ committed where
  submissions := submissions_moved htruth hworker
  origin := by simpa only [hreceipts] using htruth.origin
  untouched := by simpa only [hreceipts] using htruth.untouched
  rejected := by simpa only [hreceipts] using htruth.rejected
  judged := by
    simp only [hreceipts]
    intro other hother attempt hjudge
    rcases mem_moved hother with hold | rfl
    · exact htruth.judged other hold attempt hjudge
    · exact hjudges attempt hjudge

private theorem truthful_created
    (hkey : ∀ ns id kind, env.deriveOfflineDownstreamIdempotencyKey ns id kind = key →
      (ns, uuidValue id) = origin)
    (hs : s.Inv) (htruth : Truthful key origin env s committed)
    (hworker : s.workers[i]? = some worker) {row : ReceiptRow}
    (hrow : Created worker.submission row) (hunique : s.db.violatesUnique row = false)
    (hreceipts : db'.receipts = s.db.receipts ++ [row]) (hphase : phase.active = none) :
    Truthful key origin env ⟨db', s.workers.set i ⟨worker.submission, phase⟩⟩ committed where
  submissions := submissions_moved htruth hworker
  origin := fun r hr hrkey => by
    dsimp only at hr
    rw [hreceipts, List.mem_append, List.mem_singleton] at hr
    rcases hr with hr | rfl
    · exact htruth.origin r hr hrkey
    · have hderived := htruth.submissions worker (List.mem_of_getElem? hworker)
      rw [hrow.operationKey]
      exact hkey _ _ _ (hderived.downstreamIdempotencyKey.symm.trans
        (hrow.downstreamIdempotencyKey.symm.trans hrkey))
  untouched := fun hall => htruth.untouched fun r hr =>
    hall r (by dsimp only; rw [hreceipts]; exact List.mem_append_left _ hr)
  rejected := fun r hr hrkey hstatus => by
    dsimp only at hr
    rw [hreceipts, List.mem_append, List.mem_singleton] at hr
    rcases hr with hr | rfl
    · exact htruth.rejected r hr hrkey hstatus
    · rw [hrow.status] at hstatus
      cases hstatus
  judged := fun other hother attempt hjudge r hr hid hrkey hgen => by
    rcases mem_moved hother with hold | rfl
    · dsimp only at hr
      rw [hreceipts, List.mem_append, List.mem_singleton] at hr
      rcases hr with hr | rfl
      · exact htruth.judged other hold attempt hjudge r hr hid hrkey hgen
      · exact absurd hid (active_not_created (hs.workers other hold) hjudge.active hunique)
    · exact nomatch hphase.symm.trans hjudge.active

/-- A move that rewrites one receipt: the obligations it leaves about that receipt
    and about the worker that moved. -/
private theorem truthful_rewritten (htruth : Truthful key origin env s committed)
    (hworker : s.workers[i]? = some worker) {target : ReceiptRow} {where_ : ReceiptRow → Bool}
    {data : ReceiptRow → ReceiptRow} (hits : Hits s.db target where_ data)
    (hreceipts : db'.receipts = Table.rewrite where_ data s.db.receipts)
    (hgrows : target.attemptCount ≤ (data target).attemptCount)
    (hrejected : (data target).status = .rejected → target.downstreamIdempotencyKey = key →
      committed = 0)
    (hothers : ∀ other ∈ s.workers, ∀ attempt, other.phase.Judges attempt →
      target.id = attempt.receipt.id → target.downstreamIdempotencyKey = key →
      attempt.claimGeneration = (data target).attemptCount → committed = 0)
    (hmoved : ∀ attempt, phase.Judges attempt → ∀ row ∈ s.db.receipts,
      row.id = attempt.receipt.id → row.downstreamIdempotencyKey = key → committed = 0) :
    Truthful key origin env ⟨db', s.workers.set i ⟨worker.submission, phase⟩⟩ committed where
  submissions := submissions_moved htruth hworker
  origin := fun r hr hrkey => by
    rcases hits.mem_iff.mp (hreceipts ▸ hr) with rfl | ⟨hr, _⟩
    · rw [hits.columns.2.1]
      exact htruth.origin target hits.mem (hits.columns.2.2 ▸ hrkey)
    · exact htruth.origin r hr hrkey
  untouched := fun hall => htruth.untouched fun r hr hrkey => by
    dsimp only at hall
    simp only [hreceipts, hits.mem_iff] at hall
    by_cases heq : r = target
    · have hzero := hall _ (.inl rfl) (by rw [hits.columns.2.2, ← heq]; exact hrkey)
      rw [heq]
      omega
    · exact hall r (.inr ⟨hr, heq⟩) hrkey
  rejected := fun r hr hrkey hstatus => by
    rcases hits.mem_iff.mp (hreceipts ▸ hr) with rfl | ⟨hr, _⟩
    · exact hrejected hstatus (hits.columns.2.2 ▸ hrkey)
    · exact htruth.rejected r hr hrkey hstatus
  judged := fun other hother attempt hjudge r hr hid hrkey hcount => by
    rcases mem_moved hother with hold | rfl <;>
      rcases hits.mem_iff.mp (hreceipts ▸ hr) with rfl | ⟨hr, _⟩
    · exact hothers other hold attempt hjudge (hits.columns.1 ▸ hid) (hits.columns.2.2 ▸ hrkey) hcount
    · exact htruth.judged other hold attempt hjudge r hr hid hrkey hcount
    · exact hmoved attempt hjudge target hits.mem (hits.columns.1 ▸ hid) (hits.columns.2.2 ▸ hrkey)
    · exact hmoved attempt hjudge r hr hid hrkey

/-- A claim: the one attempt it may send straight to the domain is the first. -/
private theorem truthful_claimed (hs : s.Inv) (hgen : s.GenInv)
    (htruth : Truthful key origin env s committed) (hworker : s.workers[i]? = some worker)
    {receipt : StoredReceipt} {expected : Option Nat} {target : ReceiptRow} {now : Int}
    (hits : Hits s.db target (Db.claimable receipt.id now) (Db.claimRow now))
    (hreceipts : db'.receipts =
      Table.rewrite (Db.claimable receipt.id now) (Db.claimRow now) s.db.receipts)
    (hphase : phase.active = none ∨
      phase = .executing (claimedAttempt receipt expected target) ∧ target.attemptCount = 0 ∨
      phase = .probing (claimedAttempt receipt expected target)) :
    Truthful key origin env ⟨db', s.workers.set i ⟨worker.submission, phase⟩⟩ committed := by
  refine truthful_rewritten htruth hworker hits hreceipts (Nat.le_succ _)
    (fun hstatus => nomatch hstatus) ?_ ?_
  · -- an older attempt never carries the generation this claim hands out
    intro other hother attempt hjudge hid _ hcount
    obtain ⟨j, hj⟩ := List.mem_iff_getElem?.mp hother
    have hle := (hgen.bounded hj hjudge.active target hits.mem hid).2.1
    have hcount' : attempt.claimGeneration = target.attemptCount + 1 := hcount
    omega
  · intro attempt hjudge row hrow hid hrkey
    rcases hphase with hnone | ⟨rfl, hzero⟩ | rfl
    · exact nomatch hnone.symm.trans hjudge.active
    · cases hjudge
      have htarget := (claimable_spec hits.hit).1
      obtain rfl := Table.eq_of_key hs.db.ids hrow hits.mem (hid.trans htarget.symm)
      refine htruth.untouched fun other hother hokey => ?_
      rw [htruth.row_unique hs hother hrow hokey hrkey, hzero]
    · cases hjudge

/-- A finalization: a rejection is recorded by the attempt that judged it. -/
private theorem truthful_settled (htruth : Truthful key origin env s committed)
    (hworker : s.workers[i]? = some worker) {attempt : Attempt} {verdict : Verdict} {now : Int}
    (hcurrent : worker.phase = .finalizing attempt verdict) {target : ReceiptRow}
    (hits : Hits s.db target (Db.fenced (attempt.finalizeIdentity worker.submission))
      (Db.finalizeRow verdict.finalizeVerdict now))
    (hreceipts : db'.receipts = Table.rewrite
      (Db.fenced (attempt.finalizeIdentity worker.submission))
      (Db.finalizeRow verdict.finalizeVerdict now) s.db.receipts)
    (hphase : phase.active = none) :
    Truthful key origin env ⟨db', s.workers.set i ⟨worker.submission, phase⟩⟩ committed := by
  refine truthful_rewritten htruth hworker hits hreceipts (Nat.le_refl _) ?_
    (fun other hother attempt hjudge hid => htruth.judged other hother attempt hjudge target hits.mem hid)
    (fun _ hjudge => nomatch hphase.symm.trans hjudge.active)
  intro hstatus hrkey
  obtain ⟨hid, _, hcount⟩ := fenced_spec.mp hits.hit
  cases verdict with
  | applied effect => cases hstatus
  | rejected httpStatus =>
    exact htruth.judged worker (List.mem_of_getElem? hworker) attempt
      (hcurrent ▸ .rejected attempt httpStatus) target hits.mem hid hrkey hcount.symm

private theorem truthful_unsettled (htruth : Truthful key origin env s committed)
    (hworker : s.workers[i]? = some worker) {target : ReceiptRow} {where_ : ReceiptRow → Bool}
    (hits : Hits s.db target where_ (fun row => { row with status := .unknown }))
    (hreceipts : db'.receipts =
      Table.rewrite where_ (fun row => { row with status := .unknown }) s.db.receipts)
    (hphase : phase.active = none) :
    Truthful key origin env ⟨db', s.workers.set i ⟨worker.submission, phase⟩⟩ committed :=
  truthful_rewritten htruth hworker hits hreceipts (Nat.le_refl _) (fun hstatus => nomatch hstatus)
    (fun other hother attempt hjudge hid => htruth.judged other hother attempt hjudge target hits.mem hid)
    (fun _ hjudge => nomatch hphase.symm.trans hjudge.active)

/-- Every move the domain does not answer. -/
private theorem truthful_moved
    (hkey : ∀ ns id kind, env.deriveOfflineDownstreamIdempotencyKey ns id kind = key →
      (ns, uuidValue id) = origin)
    (hs : s.Inv) (hgen : s.GenInv) (htruth : Truthful key origin env s committed)
    (hworker : s.workers[i]? = some worker) {move : Move} (hasks : move.asksDomain = false)
    (heffect : Effect s.db db' worker.submission worker.phase move phase) :
    Truthful key origin env ⟨db', s.workers.set i ⟨worker.submission, phase⟩⟩ committed := by
  generalize hcurrent : worker.phase = current at heffect
  cases heffect with
  | quiet hreceipts hphase =>
    exact truthful_quiet htruth hworker hreceipts
      fun _ hjudge => nomatch hphase.symm.trans hjudge.active
  | asked hasked => exact nomatch hasks.symm.trans hasked
  | created row hrow hunique hreceipts hphase =>
    exact truthful_created hkey hs htruth hworker hrow hunique hreceipts hphase
  | claimed target now hits hreceipts hphase =>
    exact truthful_claimed hs hgen htruth hworker hits hreceipts hphase
  | settled target now hits hreceipts hphase =>
    exact truthful_settled htruth hworker hcurrent hits hreceipts hphase
  | unsettled target where_ hits hreceipts hphase =>
    exact truthful_unsettled htruth hworker hits hreceipts hphase

end Moves

/-! ### Probes and calls -/

section Domain

variable {key : String} {origin : ReplayNamespace × String} {s : State} {i : Nat} {worker : Worker}

private theorem key_of_active (hs : s.Inv) (hworker : s.workers[i]? = some worker)
    {attempt : Attempt} (hactive : worker.phase.active = some attempt) {row : ReceiptRow}
    (hrow : row ∈ s.db.receipts) (hid : row.id = attempt.receipt.id) :
    row.downstreamIdempotencyKey = attempt.receipt.downstreamIdempotencyKey := by
  obtain ⟨known, hknown, hcarries⟩ :=
    hs.workers worker (List.mem_of_getElem? hworker) _ (heldReceipt_of_active hactive)
  obtain rfl := Table.eq_of_key hs.db.ids hrow hknown (hid.trans hcarries.id.symm)
  exact hcarries.downstreamIdempotencyKey

/-- A probe that finds no evidence proves that nothing has committed. -/
private theorem truthful_probed (hs : s.Inv) {state : domain.State}
    (htruth : Truthful key origin env s (domain.committed state key))
    (hworker : s.workers[i]? = some worker) {attempt : Attempt}
    (hphase : worker.phase = .probing attempt) {db' : Db} {phase : Phase}
    (hmoved : Moved env s.db worker.submission worker.phase
      (.probe (domain.evidence state worker.submission.operation.payload
        attempt.receipt.downstreamIdempotencyKey)) db' phase) :
    Truthful key origin env ⟨db', s.workers.set i ⟨worker.submission, phase⟩⟩
      (domain.committed state key) := by
  have hactive : worker.phase.active = some attempt := by rw [hphase]; rfl
  have hnone : domain.evidence state worker.submission.operation.payload
      attempt.receipt.downstreamIdempotencyKey = none → ∀ row ∈ s.db.receipts,
      row.id = attempt.receipt.id → row.downstreamIdempotencyKey = key →
      domain.committed state key = 0 := by
    intro hevidence row hrow hid hrkey
    have hkeys := key_of_active hs hworker hactive hrow hid
    have hiff := domain.evidence_iff_committed state worker.submission.operation.payload
      attempt.receipt.downstreamIdempotencyKey
    rw [hevidence, ← hkeys, hrkey] at hiff
    simpa using hiff
  generalize hevidence : domain.evidence state worker.submission.operation.payload
    attempt.receipt.downstreamIdempotencyKey = evidence at hmoved hnone
  rw [hphase] at hmoved
  cases hmoved with
  | noEvidence =>
    refine truthful_quiet htruth hworker rfl fun attempt' hjudge row hrow hid hrkey _ => ?_
    cases hjudge
    exact hnone rfl row hrow hid hrkey
  | recovered =>
    refine truthful_quiet htruth hworker rfl fun attempt' hjudge => ?_
    cases hjudge

private theorem judges_of_afterExecute {submission : Submission} {attempt attempt' : Attempt}
    {answer : DomainAnswer} {phase : Phase}
    (h : afterExecute submission attempt answer = some phase) (hjudge : phase.Judges attempt') :
    attempt' = attempt ∧
      ∃ status, answer = .httpException status ∧ (deterministicRejectionStatus status).isSome := by
  cases answer with
  | view view =>
    simp only [afterExecute, Option.map_eq_some_iff] at h
    obtain ⟨effect, _, rfl⟩ := h
    cases hjudge
  | httpException status =>
    simp only [afterExecute] at h
    split at h <;> cases h
    · rename_i hstatus
      cases hjudge
      exact ⟨rfl, status, rfl, by rw [hstatus]; rfl⟩
    · cases hjudge
  | fault =>
    cases h
    cases hjudge

section Call

variable {state : domain.State} {attempt : Attempt} {choice : domain.Choice} {phase : Phase}

/-- The call of the attempt that holds the current generation. -/
private theorem truthful_current (hs : s.Inv) (hgen : s.GenInv)
    (htruth : Truthful key origin env s (domain.committed state key))
    (hworker : s.workers[i]? = some worker) (hphase : worker.phase = .executing attempt)
    (hafter : afterExecute worker.submission attempt
      (domain.call state (attempt.domainCall env worker.submission) choice).2 = some phase)
    {row : ReceiptRow} (hrow : row ∈ s.db.receipts) (hid : row.id = attempt.receipt.id)
    (hrkey : row.downstreamIdempotencyKey = key)
    (hcurrent : attempt.claimGeneration = row.attemptCount) :
    Truthful key origin env ⟨s.db, s.workers.set i ⟨worker.submission, phase⟩⟩
      (domain.committed (domain.call state (attempt.domainCall env worker.submission) choice).1 key) := by
  have hactive : worker.phase.active = some attempt := by rw [hphase]; rfl
  obtain ⟨hpos, _, hfinal⟩ := hgen.bounded hworker hactive row hrow hid
  refine ⟨submissions_moved htruth hworker, htruth.origin, fun hall => ?_,
    fun other hother hokey hstatus => ?_, fun other hother attempt' hjudge r hr hrid hrk hcount => ?_⟩
  · have hzero := hall row hrow hrkey
    omega
  · obtain rfl := htruth.row_unique hs hother hrow hokey hrkey
    have hlt := hfinal (by simp [StoredReceipt.isFinalized, offlineReceiptAdvancesCursor, hstatus])
    omega
  · obtain rfl := htruth.row_unique hs hr hrow hrk hrkey
    obtain ⟨j, hj⟩ := List.mem_iff_getElem?.mp hother
    rcases List.getElem?_set_eq_some hj with ⟨_, rfl⟩ | ⟨hne, hold⟩
    · -- it was refused, so it has written nothing, and nothing was there before
      obtain ⟨_, status, hanswer, hstatus⟩ := judges_of_afterExecute hafter hjudge
      rw [domain.refused_writes_nothing _ _ _ status hanswer hstatus]
      exact htruth.judged worker (List.mem_of_getElem? hworker) attempt
        (hphase ▸ .executing attempt) r hr hid hrkey hcurrent
    · exact absurd (hgen.distinct hold hworker hjudge.active hactive (hrid.symm.trans hid)
        (hcount.trans hcurrent.symm)) hne

/-- The call of a superseded attempt, which commits nothing while its receipt is
    judged. -/
private theorem truthful_superseded (hs : s.Inv) (hgen : s.GenInv)
    (htruth : Truthful key origin env s (domain.committed state key))
    (hworker : s.workers[i]? = some worker) (hphase : worker.phase = .executing attempt)
    (hafter : afterExecute worker.submission attempt
      (domain.call state (attempt.domainCall env worker.submission) choice).2 = some phase)
    {row : ReceiptRow} (hrow : row ∈ s.db.receipts) (hid : row.id = attempt.receipt.id)
    (hrkey : row.downstreamIdempotencyKey = key)
    (hsuperseded : attempt.claimGeneration ≠ row.attemptCount)
    (hsafe : ¬UnfencedCommit env (⟨s, state⟩ : RecoveryState domain) (.call i choice)) :
    Truthful key origin env ⟨s.db, s.workers.set i ⟨worker.submission, phase⟩⟩
      (domain.committed (domain.call state (attempt.domainCall env worker.submission) choice).1 key) := by
  have hactive : worker.phase.active = some attempt := by rw [hphase]; rfl
  have hcallKey : (attempt.domainCall env worker.submission).downstreamIdempotencyKey = key :=
    (key_of_active hs hworker hactive hrow hid).symm.trans hrkey
  -- the worker that moved carries an old generation, whatever it was answered
  have hmoved : ∀ attempt', phase.Judges attempt' → ∀ r ∈ s.db.receipts,
      r.id = attempt'.receipt.id → r.downstreamIdempotencyKey = key →
      attempt'.claimGeneration ≠ r.attemptCount := by
    intro attempt' hjudge r hr _ hrk
    obtain ⟨rfl, _⟩ := judges_of_afterExecute hafter hjudge
    obtain rfl := htruth.row_unique hs hr hrow hrk hrkey
    exact hsuperseded
  by_cases hcommits : domain.eligible state (attempt.domainCall env worker.submission) = true ∧
      domain.evidence state worker.submission.operation.payload
        attempt.receipt.downstreamIdempotencyKey = none
  · have hnot : ¬Judged s row := fun hjudged =>
      hsafe ⟨worker, attempt, row, hworker, hphase, hrow, hid, hsuperseded, hcommits.1, hcommits.2,
        hjudged⟩
    refine ⟨submissions_moved htruth hworker, htruth.origin, fun hall => ?_,
      fun other hother hokey hstatus => ?_, fun other hother attempt' hjudge r hr hrid hrk hcount => ?_⟩
    · have hzero := hall row hrow hrkey
      have hbound := hgen.bounded hworker hactive row hrow hid
      omega
    · obtain rfl := htruth.row_unique hs hother hrow hokey hrkey
      exact absurd (.inl hstatus) hnot
    · rcases mem_moved hother with hold | rfl
      · obtain rfl := htruth.row_unique hs hr hrow hrk hrkey
        exact absurd (.inr ⟨other, hold, attempt', hjudge, hrid.symm, hcount⟩) hnot
      · exact absurd hcount (hmoved attempt' hjudge r hr hrid hrk)
  · have hsame : domain.committed
        (domain.call state (attempt.domainCall env worker.submission) choice).1 key =
        domain.committed state key := by
      cases heligible : domain.eligible state (attempt.domainCall env worker.submission) with
      | false => rw [domain.ineligible_writes_nothing _ _ _ heligible]
      | true =>
        have hevidence : (domain.evidence state worker.submission.operation.payload
            attempt.receipt.downstreamIdempotencyKey).isSome := by
          rw [Option.isSome_iff_ne_none]
          exact fun hnone => hcommits ⟨heligible, hnone⟩
        rw [domain.evidence_iff_committed] at hevidence
        rw [← hcallKey]
        exact domain.committed_once _ _ _ hevidence
    rw [hsame]
    exact truthful_quiet htruth hworker rfl fun attempt' hjudge r hr hrid hrk hcount =>
      absurd hcount (hmoved attempt' hjudge r hr hrid hrk)

private theorem truthful_called (hs : s.Inv) (hgen : s.GenInv)
    (htruth : Truthful key origin env s (domain.committed state key))
    (hworker : s.workers[i]? = some worker) (hphase : worker.phase = .executing attempt)
    (hafter : afterExecute worker.submission attempt
      (domain.call state (attempt.domainCall env worker.submission) choice).2 = some phase)
    (hsafe : ¬UnfencedCommit env (⟨s, state⟩ : RecoveryState domain) (.call i choice)) :
    Truthful key origin env ⟨s.db, s.workers.set i ⟨worker.submission, phase⟩⟩
      (domain.committed (domain.call state (attempt.domainCall env worker.submission) choice).1 key) := by
  have hactive : worker.phase.active = some attempt := by rw [hphase]; rfl
  obtain ⟨row, hrow, hcarries⟩ :=
    hs.workers worker (List.mem_of_getElem? hworker) _ (heldReceipt_of_active hactive)
  have hid : row.id = attempt.receipt.id := hcarries.id
  by_cases hrkey : row.downstreamIdempotencyKey = key
  · by_cases hcurrent : attempt.claimGeneration = row.attemptCount
    · exact truthful_current hs hgen htruth hworker hphase hafter hrow hid hrkey hcurrent
    · exact truthful_superseded hs hgen htruth hworker hphase hafter hrow hid hrkey hcurrent hsafe
  · -- a call under another key commits nothing under this one
    have hne : key ≠ (attempt.domainCall env worker.submission).downstreamIdempotencyKey :=
      fun heq => hrkey ((key_of_active hs hworker hactive hrow hid).trans heq.symm)
    rw [domain.committed_frame _ _ _ key hne]
    refine truthful_quiet htruth hworker rfl fun attempt' hjudge r hr hrid hrk _ => ?_
    obtain ⟨rfl, _⟩ := judges_of_afterExecute hafter hjudge
    obtain rfl := Table.eq_of_key hs.db.ids hr hrow (hrid.trans hid.symm)
    exact absurd hrk hrkey

end Call

end Domain

/-! ### Runs -/

/-- Everything the argument carries along a run. -/
structure RecoveryInv (env : Env) (key : String) (origin : ReplayNamespace × String)
    (s : RecoveryState domain) : Prop where
  central : s.central.Inv
  generations : s.central.GenInv
  truthful : Truthful key origin env s.central (domain.committed s.domain key)

variable {s' : RecoveryState domain} {label : RecoveryLabel domain}

/-- Inversion of a step of the executor and its domain. -/
theorem recoveryStep_cases {s : RecoveryState domain}
    (h : recoveryStep env domain s label = some s') :
    (∃ l, label = .central l ∧ l.asksDomain = false ∧ step env s.central l = some s'.central ∧
      s'.domain = s.domain) ∨
    (∃ i worker attempt, label = .probe i ∧ s.central.workers[i]? = some worker ∧
      worker.phase = .probing attempt ∧
      step env s.central (.move i (.probe (domain.evidence s.domain
        worker.submission.operation.payload attempt.receipt.downstreamIdempotencyKey))) =
          some s'.central ∧ s'.domain = s.domain) ∨
    (∃ i choice worker attempt, label = .call i choice ∧ s.central.workers[i]? = some worker ∧
      worker.phase = .executing attempt ∧
      step env s.central (.move i (.execute
        (domain.call s.domain (attempt.domainCall env worker.submission) choice).2)) =
          some s'.central ∧
      s'.domain = (domain.call s.domain (attempt.domainCall env worker.submission) choice).1) ∨
    ∃ change, label = .drift change ∧ s'.central = s.central ∧
      s'.domain = domain.drift s.domain change := by
  cases label with
  | central l =>
    simp only [recoveryStep] at h
    split at h
    · cases h
    · rename_i hasks
      simp only [Option.map_eq_some_iff] at h
      obtain ⟨central, hstep, rfl⟩ := h
      exact .inl ⟨l, rfl, by simpa using hasks, hstep, rfl⟩
  | probe i =>
    simp only [recoveryStep] at h
    split at h
    · cases h
    · rename_i worker hworker
      split at h
      · cases h
      · rename_i attempt hprobed
        simp only [Option.map_eq_some_iff] at h
        obtain ⟨central, hstep, rfl⟩ := h
        refine .inr (.inl ⟨i, worker, attempt, rfl, hworker, ?_, hstep, rfl⟩)
        generalize worker.phase = phase at hprobed ⊢
        unfold Phase.probed at hprobed
        split at hprobed
        · cases hprobed; rfl
        · cases hprobed
  | call i choice =>
    simp only [recoveryStep] at h
    split at h
    · cases h
    · rename_i worker hworker
      split at h
      · cases h
      · rename_i attempt hexecuted
        simp only [Option.map_eq_some_iff] at h
        obtain ⟨central, hstep, rfl⟩ := h
        refine .inr (.inr (.inl ⟨i, choice, worker, attempt, rfl, hworker, ?_, hstep, rfl⟩))
        generalize worker.phase = phase at hexecuted ⊢
        unfold Phase.executed at hexecuted
        split at hexecuted
        · cases hexecuted; rfl
        · cases hexecuted
  | drift change =>
    cases h
    exact .inr (.inr (.inr ⟨change, rfl, rfl, rfl⟩))

theorem step_move_cases {s s' : State} {i : Nat} {move : Move} {worker : Worker}
    (hworker : s.workers[i]? = some worker) (h : step env s (.move i move) = some s') :
    ∃ db' phase, Moved env s.db worker.submission worker.phase move db' phase ∧
      s' = ⟨db', s.workers.set i ⟨worker.submission, phase⟩⟩ := by
  simp only [step, hworker] at h
  split at h
  · cases h
  · rename_i db' phase hmove
    exact ⟨db', phase, moveWorker_moved hmove, (Option.some.inj h).symm⟩

theorem recoveryStep_inv {key : String} {origin : ReplayNamespace × String}
    (hkey : ∀ ns id kind, env.deriveOfflineDownstreamIdempotencyKey ns id kind = key →
      (ns, uuidValue id) = origin)
    {s : RecoveryState domain}
    (hinv : RecoveryInv env key origin s) (hsafe : ¬UnfencedCommit env s label)
    (h : recoveryStep env domain s label = some s') : RecoveryInv env key origin s' := by
  obtain ⟨hs, hgen, htruth⟩ := hinv
  obtain ⟨central', domain'⟩ := s'
  rcases recoveryStep_cases h with ⟨l, rfl, hasks, hstep, hdomain⟩ |
    ⟨i, worker, attempt, rfl, hworker, hphase, hstep, hdomain⟩ |
    ⟨i, choice, worker, attempt, rfl, hworker, hphase, hstep, hdomain⟩ |
    ⟨change, rfl, hcentral, hdomain⟩ <;> dsimp only at *
  · refine ⟨step_inv hs hstep, step_genInv hs hgen hstep, ?_⟩
    rw [hdomain]
    cases l with
    | submit =>
      rcases step_cases hstep with rfl | ⟨submission, hderived, rfl⟩ | ⟨_, _, _, _, _, hlabel, _⟩
      · exact htruth
      · refine { htruth with submissions := fun w hw => ?_, judged := fun w hw attempt hjudge => ?_ }
        · rcases List.of_mem_concat hw with hold | rfl
          · exact htruth.submissions w hold
          · exact hderived
        · rcases List.of_mem_concat hw with hold | rfl
          · exact htruth.judged w hold attempt hjudge
          · cases hjudge
      · cases hlabel
    | move i move =>
      cases hworker : s.central.workers[i]? with
      | none => simp [step, hworker] at hstep
      | some worker =>
        obtain ⟨db', phase, hmoved, rfl⟩ := step_move_cases hworker hstep
        exact truthful_moved hkey hs hgen htruth hworker hasks (moved_effect hs.db hmoved)
  · refine ⟨step_inv hs hstep, step_genInv hs hgen hstep, ?_⟩
    obtain ⟨db', phase, hmoved, rfl⟩ := step_move_cases hworker hstep
    rw [hdomain]
    exact truthful_probed hs htruth hworker hphase hmoved
  · refine ⟨step_inv hs hstep, step_genInv hs hgen hstep, ?_⟩
    obtain ⟨db', phase, hmoved, rfl⟩ := step_move_cases hworker hstep
    rw [hdomain]
    rw [hphase] at hmoved
    cases hmoved with
    | executed _ _ _ hafter =>
      exact truthful_called hs hgen htruth hworker hphase hafter hsafe
  · rw [hcentral, hdomain]
    refine ⟨hs, hgen, ?_⟩
    rw [domain.committed_drift]
    exact htruth

/-- The executor's half of a step is a step of the executor, or none. -/
theorem recoveryStep_central {s : RecoveryState domain}
    (h : recoveryStep env domain s label = some s') :
    s'.central = s.central ∨ ∃ l, step env s.central l = some s'.central := by
  rcases recoveryStep_cases h with ⟨l, _, _, hstep, _⟩ | ⟨_, _, _, _, _, _, hstep, _⟩ |
    ⟨_, _, _, _, _, _, _, hstep, _⟩ | ⟨_, _, hcentral, _⟩
  · exact .inr ⟨_, hstep⟩
  · exact .inr ⟨_, hstep⟩
  · exact .inr ⟨_, hstep⟩
  · exact .inl hcentral

/-- What later states owe to earlier ones: finalized receipts stay, and so do
    committed effects. -/
structure RecoveryLe (key : String) (s s' : RecoveryState domain) : Prop where
  db : DbLe s.central.db s'.central.db
  committed : domain.committed s.domain key ≤ domain.committed s'.domain key

theorem recoveryStep_central_inv {s : RecoveryState domain}
    (hs : s.central.Inv) (h : recoveryStep env domain s label = some s') : s'.central.Inv := by
  rcases recoveryStep_central h with hsame | ⟨l, hstep⟩
  · exact hsame ▸ hs
  · exact step_inv hs hstep

theorem recoveryStep_le {key : String} {s : RecoveryState domain}
    (hs : s.central.Inv) (h : recoveryStep env domain s label = some s') : RecoveryLe key s s' := by
  have hcommitted : domain.committed s.domain key ≤ domain.committed s'.domain key := by
    rcases recoveryStep_cases h with ⟨_, _, _, _, hdomain⟩ | ⟨_, _, _, _, _, _, _, hdomain⟩ |
      ⟨_, _, _, _, _, _, _, _, hdomain⟩ | ⟨_, _, _, hdomain⟩
    · exact Nat.le_of_eq (by rw [hdomain])
    · exact Nat.le_of_eq (by rw [hdomain])
    · rw [hdomain]
      exact domain.committed_mono _ _ _ _
    · exact Nat.le_of_eq (by rw [hdomain, domain.committed_drift])
  rcases recoveryStep_central h with hsame | ⟨l, hstep⟩
  · exact ⟨hsame ▸ DbLe.refl _, hcommitted⟩
  · exact ⟨(step_dbStep hs hstep).1.dbLe hs.db, hcommitted⟩

theorem recoveryRun_le {key : String} {s : RecoveryState domain}
    {labels : List (RecoveryLabel domain)} (hs : s.central.Inv)
    (h : run (recoveryStep env domain) s labels = some s') : RecoveryLe key s s' := by
  have hrefl : ∀ s : RecoveryState domain, RecoveryLe key s s :=
    fun s => ⟨DbLe.refl _, Nat.le_refl _⟩
  have htrans : ∀ {s t u : RecoveryState domain}, RecoveryLe key s t → RecoveryLe key t u →
      RecoveryLe key s u :=
    fun h₁ h₂ => ⟨h₁.db.trans h₂.db, Nat.le_trans h₁.committed h₂.committed⟩
  have hinv : ∀ {s : RecoveryState domain} {label s'}, s.central.Inv →
      recoveryStep env domain s label = some s' → s'.central.Inv :=
    fun hs hstep => (recoveryStep_central_inv hs hstep)
  exact run_mono hrefl htrans hinv
    (fun hs hstep => recoveryStep_le hs hstep) hs h

/-- **Truthful rejection, where domain calls are fenced.**  If no superseded attempt commits while
its receipt is judged, then a receipt of `key` that is REJECTED at either of two points of the run
has no effect at either of them: none committed before, and none commits later. -/
theorem rejected_truthful {key : String} {origin : ReplayNamespace × String}
    (hkey : ∀ ns id kind, env.deriveOfflineDownstreamIdempotencyKey ns id kind = key →
      (ns, uuidValue id) = origin)
    {start : domain.State} (hfresh : domain.committed start key = 0)
    {labels labels' : List (RecoveryLabel domain)} {s s' : RecoveryState domain}
    (hfenced : RunAll (recoveryStep env domain) (fun s label => ¬UnfencedCommit env s label)
      ⟨State.init, start⟩ (labels ++ labels'))
    (hrun : run (recoveryStep env domain) ⟨State.init, start⟩ labels = some s)
    (hrun' : run (recoveryStep env domain) s labels' = some s')
    {row : ReceiptRow} (hrow : row ∈ s.central.db.receipts ∨ row ∈ s'.central.db.receipts)
    (hrkey : row.downstreamIdempotencyKey = key) (hrejected : row.status = .rejected) :
    domain.committed s.domain key = 0 ∧ domain.committed s'.domain key = 0 := by
  have hstart : RecoveryInv env key origin (⟨State.init, start⟩ : RecoveryState domain) :=
    ⟨State.init_inv, State.init_genInv, hfresh ▸ State.init_truthful⟩
  have hinv : RecoveryInv env key origin s :=
    runAll_invariant (fun hinv hsafe hstep => recoveryStep_inv hkey hinv hsafe hstep) hstart
      hfenced.append_left hrun
  have hinv' : RecoveryInv env key origin s' :=
    runAll_invariant (fun hinv hsafe hstep => recoveryStep_inv hkey hinv hsafe hstep) hinv
      (hfenced.append_right hrun) hrun'
  have hle : RecoveryLe key s s' := recoveryRun_le hinv.central hrun'
  have hfinal : row.isFinalized = true := by
    simp [StoredReceipt.isFinalized, offlineReceiptAdvancesCursor, hrejected]
  have hrow' : row ∈ s'.central.db.receipts := hrow.elim (hle.db.finalized row · hfinal) id
  have hzero := hinv'.truthful.rejected row hrow' hrkey hrejected
  exact ⟨Nat.le_zero.mp (hzero ▸ hle.committed), hzero⟩

/-- A call by the attempt that holds the current generation is fenced. -/
def currentCall (s : RecoveryState domain) : RecoveryLabel domain → Bool
  | .call i _ =>
    match s.central.workers[i]? with
    | none => true
    | some worker =>
      match worker.phase.executed with
      | none => true
      | some attempt => s.central.db.receipts.all fun row =>
          row.id ≠ attempt.receipt.id ∨ attempt.claimGeneration = row.attemptCount
  | _ => true

theorem not_unfencedCommit_of_currentCall (s : RecoveryState domain) (label : RecoveryLabel domain)
    (h : currentCall s label = true) : ¬UnfencedCommit env s label := by
  cases label with
  | call i choice =>
    rintro ⟨worker, attempt, row, hworker, hphase, hrow, hid, hgen, _⟩
    simp only [currentCall, hworker, hphase, Phase.executed, List.all_eq_true,
      decide_eq_true_eq] at h
    rcases h row hrow with hne | heq
    · exact hne hid
    · exact hgen heq
  | _ => exact id

namespace Sample

/-- Assignment `a1`, offered to the operative. -/
def table : AssignmentTable := ⟨"a1", "org-1", "site-1", "user-1", .requested, []⟩

/-- The operation is reassigned before its only attempt reaches the domain. -/
def refused : List (RecoveryLabel assignmentDomain) :=
  [.central submit, .central (.move 0 (.ensureCursor .acknowledged)),
    .central (.move 0 (.admitOperation .acknowledged "r1" 0)),
    .central (.move 0 (.claim .acknowledged 1)), .drift ("user-2", .requested),
    .call 0 .acknowledged, .central (.move 0 (.finalize .acknowledged 2))]

/-- The row that run leaves. -/
def refusedRow : ReceiptRow where
  id := "r1"
  offlineOperationId := "op-1"
  deviceSequence := 0
  operationKind := .fieldAssignmentAccept
  requestFingerprint := "op-1"
  downstreamIdempotencyKey := "offline:1"
  status := .rejected
  outcome := some .rejected
  conflictCode := some .domainRejected
  resultRef := none
  resultSnapshot := some [("http_status", .count 403)]
  finalizedAt := some 2
  replayNamespace := ns
  clientCreatedAt := "2026-01-01T00:00:00.000Z"
  firstReceivedAt := 0
  processingClaimedAt := some 1
  attemptCount := 1
  firstTraceId := "t1"
  policyLeaseId := none

/-- Attempt 1 stalls before its call; attempt 2 reclaims, is refused because the assignment has been
reassigned, and records REJECTED; the assignment comes back, and attempt 1 resumes. -/
def overtaken : List (RecoveryLabel assignmentDomain) :=
  [.central submit, .central submit,
    .central (.move 0 (.ensureCursor .acknowledged)), .central (.move 1 (.ensureCursor .acknowledged)),
    .central (.move 0 (.admitOperation .acknowledged "r1" 0)), .central (.move 0 (.claim .acknowledged 1)),
    .central (.move 1 (.admitOperation .acknowledged "r2" 2)), .central (.move 1 (.claim .acknowledged 60002)),
    .probe 1, .drift ("user-2", .requested), .call 1 .acknowledged,
    .central (.move 1 (.finalize .acknowledged 60003)), .drift ("user-1", .requested),
    .call 0 .acknowledged]

end Sample

/-- The theorem at a run that is refused without being overtaken. -/
theorem rejected_truthful_refused :
    ∃ s : RecoveryState assignmentDomain, Sample.refusedRow ∈ s.central.db.receipts ∧
      assignmentDomain.committed s.domain "offline:1" = 0 := by
  have hend : (run (recoveryStep Sample.environment assignmentDomain) ⟨State.init, Sample.table⟩
      Sample.refused).any (fun s => s.central.db.receipts.contains Sample.refusedRow) = true := by
    decide
  obtain ⟨s, hrun, hmem⟩ := (Option.any_eq_true _ _).mp hend
  have hrow : Sample.refusedRow ∈ s.central.db.receipts := by simpa using hmem
  have hkey : ∀ ns id kind,
      Sample.environment.deriveOfflineDownstreamIdempotencyKey ns id kind = "offline:1" →
      (ns, uuidValue id) = (Sample.ns, "op-1") := by
    intro ns id kind h
    simp only [Sample.environment] at h
    split at h
    · rename_i hop
      rw [hop.1, hop.2]
      decide
    · exact absurd h (by decide)
  have hfenced : RunAll (recoveryStep Sample.environment assignmentDomain)
      (fun s label => ¬UnfencedCommit Sample.environment s label) ⟨State.init, Sample.table⟩
      (Sample.refused ++ []) :=
    runAll_of_checked not_unfencedCommit_of_currentCall (by decide)
  exact ⟨s, hrow, (rejected_truthful hkey (by decide) hfenced hrun (run_nil s) (.inl hrow) rfl rfl).1⟩

/-- The claim fails: a run reaches a REJECTED receipt whose effect has committed. -/
theorem rejected_then_committed :
    ∃ s : RecoveryState assignmentDomain,
      Reaches (recoveryStep Sample.environment assignmentDomain) ⟨State.init, Sample.table⟩ s ∧
      ∃ row ∈ s.central.db.receipts, row.status = .rejected ∧
        0 < assignmentDomain.committed s.domain row.downstreamIdempotencyKey := by
  have hend : (run (recoveryStep Sample.environment assignmentDomain) ⟨State.init, Sample.table⟩
      Sample.overtaken).any (fun s => s.central.db.receipts.any fun row =>
        row.status = .rejected ∧ 0 < s.domain.idempotencyKeys.count row.downstreamIdempotencyKey) =
      true := by
    decide
  obtain ⟨s, hrun, hmem⟩ := (Option.any_eq_true _ _).mp hend
  obtain ⟨row, hrow, hfound⟩ := List.any_eq_true.mp hmem
  simp only [decide_eq_true_eq] at hfound
  exact ⟨s, ⟨Sample.overtaken, hrun⟩, row, hrow, hfound⟩

end Sentinel.FieldOffline
