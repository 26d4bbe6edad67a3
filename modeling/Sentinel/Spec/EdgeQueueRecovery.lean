import Sentinel.Spec.EdgeQueueClockOrder

/-! # What a crash leaves of an attempt

A claim writes the attempt and its backoff before the request leaves.  Opening the queue turns what
was in flight into UNKNOWN and touches nothing else. -/

namespace Sentinel.EdgeQueue

open Transition

variable {parses : StoredOperation → Bool} {bounds : Bounds}

/-! ## The claims of a run -/

/-- A claim that has returned success: on the row at a position, its attempt number and instant. -/
structure ClaimMade where
  position : Nat
  attempt : Nat
  instant : Int
deriving DecidableEq

/-- The claim a step makes. -/
def claimMade (parses : StoredOperation → Bool) (bounds : Bounds) (s : State) :
    Label → Option ClaimMade
  | .call (.claimForForwarding id) reading markReading false =>
    match s.process with
    | none => none
    | some process =>
      match perform parses bounds (process.durableNowMs reading)
          (process.durableNowMs markReading) s.db (.claimForForwarding id) with
      | .ok (.changed true, _) => (s.db.rowOf id).map fun row =>
          ⟨row.position, row.attemptCount + 1, process.durableNowMs reading⟩
      | _ => none
  | _ => none

/-- The claims of a run, in order. -/
def claimsMade (parses : StoredOperation → Bool) (bounds : Bounds) (labels : List Label) :
    List ClaimMade :=
  trace (step parses bounds) (claimMade parses bounds) .initial labels

def claimsOn (claims : List ClaimMade) (row : Row) : List ClaimMade :=
  claims.filter fun claim => claim.position = row.position

/-! ## What a call leaves of the attempts -/

/-- The row counts its attempts and waits as the other does. -/
structure SameAttempts (row row' : Row) : Prop where
  position : row'.position = row.position
  attempts : row'.attemptCount = row.attemptCount
  next : row'.nextAttemptMonotonicMs = row.nextAttemptMonotonicMs

/-- Every row was there before, or landed just now without an attempt. -/
def AttemptsKept (db db' : Db) : Prop :=
  ∀ row' ∈ db'.rows, (∃ row ∈ db.rows, SameAttempts row row') ∨
    (row'.position = db.counter.nextPosition ∧ row'.attemptCount = 0)

variable {db db' : Db} {markedAt now : Int} {claims : List ClaimMade} {row : Row} {s s' : State}
  {label : Label}

theorem AttemptsKept.refl (db : Db) : AttemptsKept db db :=
  fun row hrow => .inl ⟨row, hrow, rfl, rfl, rfl⟩

theorem AttemptsKept.of_rows {applied : Db} (h : AttemptsKept db applied)
    (hrows : db'.rows = applied.rows) : AttemptsKept db db' := by
  rw [AttemptsKept, hrows]
  exact h

theorem AttemptsKept.filter (db : Db) (keep : Row → Bool) :
    AttemptsKept db { db with rows := db.rows.filter keep } :=
  fun row hrow => .inl ⟨row, List.mem_of_mem_filter hrow, rfl, rfl, rfl⟩

theorem AttemptsKept.updateRows {selected : Row → Bool} {change : Row → Row}
    (h : updateRows db selected change = .ok db') (hchange : ∀ row, SameAttempts row (change row)) :
    AttemptsKept db db' := by
  obtain ⟨rfl, -⟩ := updateRows_ok h
  intro row' hrow'
  obtain ⟨row, hrow, rfl⟩ := Table.mem_rewrite.mp hrow'
  refine .inl ⟨row, hrow, ?_⟩
  split
  · exact hchange row
  · exact ⟨rfl, rfl, rfl⟩

theorem transitionTo_attemptsKept {id : String} {target : EdgeQueueState}
    {apply : Row → Db → Except EdgeQueueError Db} {changed : Bool}
    (happly : ∀ current applied, apply current db = .ok applied → AttemptsKept db applied)
    (h : transitionTo markedAt id target apply db = .ok (changed, db')) : AttemptsKept db db' := by
  obtain ⟨-, rfl⟩ | ⟨-, current, applied, counter, -, -, happlied, -, rfl⟩ := transitionTo_ok h
  · exact .refl db'
  · exact (happly current applied happlied).of_rows rfl

theorem admission_attemptsKept {input : AdmissionInput}
    {outcome : Admission} (h : admission parses bounds now input db = .ok (outcome, db')) :
    AttemptsKept db db' := by
  rw [admission] at h
  obtain ⟨swept, hswept, h⟩ := Except.bind_eq_ok.mp h
  obtain ⟨keep, rfl, -⟩ := sweepSettled_ok hswept
  obtain ⟨found, -, h⟩ := Except.bind_eq_ok.mp h
  -- a refusal leaves what the sweep left
  have hrefused {refusal : Admission}
      (hok : (Except.ok (refusal, { db with rows := db.rows.filter keep }) :
        Except EdgeQueueError (Admission × Db)) = .ok (outcome, db')) : AttemptsKept db db' := by
    cases hok
    exact .filter db keep
  cases found with
  | some entry => exact hrefused h
  | none =>
    simp only at h
    split at h
    · exact hrefused h
    split at h
    · exact hrefused h
    split at h
    · exact hrefused h
    · unfold storeOperation at h
      obtain ⟨advanced, hadvanced, h⟩ := Except.bind_eq_ok.mp h
      obtain ⟨rfl, -⟩ := updateCounter_ok hadvanced
      obtain ⟨receipt, -, h⟩ := Except.bind_eq_ok.mp h
      obtain ⟨-, -, h⟩ := Except.bind_eq_ok.mp h
      obtain ⟨stored, hstored, h⟩ := Except.bind_eq_ok.mp h
      obtain ⟨entry, -, h⟩ := Except.bind_eq_ok.mp h
      cases h
      obtain ⟨rfl, -⟩ := insertRow_ok hstored
      intro row hrow
      rcases List.of_mem_concat hrow with hold | rfl
      · exact .inl ⟨row, List.mem_of_mem_filter hold, rfl, rfl, rfl⟩
      · exact .inr ⟨rfl, rfl⟩

/-- Every call but a claim leaves the attempts alone. -/
theorem perform_attemptsKept {call : Call} {answer : Answer}
    (hcall : ∀ id, call ≠ .claimForForwarding id)
    (h : perform parses bounds now markedAt db call = .ok (answer, db')) : AttemptsKept db db' := by
  cases call with
  | admission input =>
    obtain ⟨⟨outcome, after⟩, hadmission, h⟩ := Except.map_eq_ok.mp h
    cases h
    exact admission_attemptsKept hadmission
  | pruneSettled limit =>
    obtain ⟨⟨count, after⟩, hprune, h⟩ := Except.map_eq_ok.mp h
    cases h
    rw [pruneSettled] at hprune
    split at hprune
    · cases hprune
      exact .refl _
    · obtain ⟨pruned, hpruned, hprune⟩ := Except.bind_eq_ok.mp hprune
      cases hprune
      obtain ⟨rfl, -⟩ := deleteRows_ok hpruned
      exact .filter db _
  | claimForForwarding id => exact absurd rfl (hcall id)
  | markReadyToForward id =>
    obtain ⟨⟨changed, after⟩, hchange, h⟩ := Except.map_eq_ok.mp h
    cases h
    refine transitionTo_attemptsKept (fun _ _ happlied => ?_) hchange
    exact .updateRows happlied fun _ => ⟨rfl, rfl, rfl⟩
  | recordCentralProgress id progress =>
    obtain ⟨⟨changed, after⟩, hchange, h⟩ := Except.map_eq_ok.mp h
    cases h
    refine transitionTo_attemptsKept (fun _ _ happlied => ?_) hchange
    obtain ⟨updated, hupdated, hreset⟩ := Except.bind_eq_ok.mp happlied
    obtain ⟨rfl, -⟩ := updateCounter_ok hreset
    exact (AttemptsKept.updateRows hupdated fun _ => ⟨rfl, rfl, rfl⟩).of_rows rfl
  | recordTransportUnknown id reason =>
    obtain ⟨⟨changed, after⟩, hchange, h⟩ := Except.map_eq_ok.mp h
    cases h
    unfold recordTransportUnknown at hchange
    refine transitionTo_attemptsKept (fun _ _ happlied => ?_) hchange
    obtain ⟨updated, hupdated, hcounted⟩ := Except.bind_eq_ok.mp happlied
    have hkept := AttemptsKept.updateRows hupdated fun _ => ⟨rfl, rfl, rfl⟩
    simp only at hcounted
    split at hcounted
    · rwa [← Except.ok.inj hcounted]
    · obtain ⟨rfl, -⟩ := updateCounter_ok hcounted
      exact hkept.of_rows rfl
  | settle id result =>
    cases result with
    | none => cases h
    | some result =>
      cases result with
      | unknown reason => cases h
      | terminal terminal =>
        obtain ⟨⟨changed, after⟩, hchange, h⟩ := Except.map_eq_ok.mp h
        cases h
        unfold settle at hchange
        refine transitionTo_attemptsKept (fun _ _ happlied => ?_) hchange
        obtain ⟨updated, hupdated, hreset⟩ := Except.bind_eq_ok.mp happlied
        obtain ⟨rfl, -⟩ := updateCounter_ok hreset
        exact (AttemptsKept.updateRows hupdated fun _ => ⟨rfl, rfl, rfl⟩).of_rows rfl

/-- A claim that succeeds counts one more attempt on its row and waits from its instant; on the other
    rows it does nothing. -/
theorem claimForForwarding_ok {id : String} {changed : Bool}
    (hwf : db.Wf bounds) (h : claimForForwarding now markedAt id db = .ok (changed, db')) :
    (changed = false ∧ db' = db) ∨
    (changed = true ∧ ∃ current, current ∈ db.rows ∧ db.rowOf id = some current ∧
      ∀ row' ∈ db'.rows,
        (row'.position = current.position ∧ row'.attemptCount = current.attemptCount + 1 ∧
          row'.nextAttemptMonotonicMs = now + edgeQueueRetryDelayMs (current.attemptCount + 1)) ∨
        ∃ row ∈ db.rows, row.position ≠ current.position ∧ SameAttempts row row') := by
  obtain ⟨hchanged, hdb⟩ | ⟨hchanged, current, applied, counter, hcurrent, -, happlied, -, rfl⟩ :=
    transitionTo_ok h
  · exact .inl ⟨hchanged, hdb⟩
  obtain ⟨rfl, -⟩ := updateRows_ok happlied
  have hmem := List.mem_of_find?_eq_some hcurrent
  refine .inr ⟨hchanged, current, hmem, hcurrent, fun row' hrow' => ?_⟩
  obtain ⟨row, hrow, rfl⟩ := Table.mem_rewrite.mp hrow'
  by_cases hid : hasId id row = true
  · obtain rfl := eq_of_rowOf hwf.nodup_ids hcurrent hrow hid
    rw [if_pos hid]
    exact .inl ⟨rfl, rfl, rfl⟩
  · rw [if_neg hid]
    refine .inr ⟨row, hrow, fun hposition => hid ?_, rfl, rfl, rfl⟩
    obtain rfl := Table.eq_of_key hwf.nodup_positions hrow hmem hposition
    simpa [hasId] using List.find?_some hcurrent

/-! ## Every attempt is counted -/

/-- Every row counts the claims made on it and waits for the backoff of the last; a position nobody
    holds yet has no claims. -/
structure AttemptInv (s : State) (claims : List ClaimMade) : Prop where
  counted : ∀ row ∈ s.db.rows, row.attemptCount = (claimsOn claims row).length
  backoff : ∀ row ∈ s.db.rows, ∀ claim, (claimsOn claims row).getLast? = some claim →
    row.nextAttemptMonotonicMs = claim.instant + edgeQueueRetryDelayMs claim.attempt
  below : ∀ claim ∈ claims, claim.position < s.db.counter.nextPosition

theorem claimsOn_congr {row' : Row}
    (h : row'.position = row.position) : claimsOn claims row' = claimsOn claims row := by
  rw [claimsOn, claimsOn, h]

theorem claimsOn_concat_of_ne {claim : ClaimMade}
    (h : row.position ≠ claim.position) : claimsOn (claims ++ [claim]) row = claimsOn claims row := by
  simp [claimsOn, List.filter_append, h.symm]

theorem claimsOn_concat_self {claim : ClaimMade} (h : row.position = claim.position) :
    claimsOn (claims ++ [claim]) row = claimsOn claims row ++ [claim] := by
  simp [claimsOn, List.filter_append, h]

/-- What keeps the attempts keeps the invariant. -/
theorem AttemptInv.kept (h : AttemptInv s claims) (hkept : AttemptsKept s.db s'.db)
    (hnext : s.db.counter.nextPosition ≤ s'.db.counter.nextPosition) : AttemptInv s' claims := by
  have hfresh : ∀ row : Row, row.position = s.db.counter.nextPosition → claimsOn claims row = [] := by
    intro row hposition
    refine List.filter_eq_nil_iff.mpr fun claim hclaim => ?_
    have := h.below claim hclaim
    simp only [decide_eq_true_eq]
    omega
  refine ⟨fun row' hrow' => ?_, fun row' hrow' claim hlast => ?_, fun claim hclaim => ?_⟩
  · obtain ⟨row, hrow, hsame⟩ | ⟨hposition, hzero⟩ := hkept row' hrow'
    · rw [claimsOn_congr hsame.position, hsame.attempts]
      exact h.counted row hrow
    · rw [hfresh row' hposition, hzero, List.length_nil]
  · obtain ⟨row, hrow, hsame⟩ | ⟨hposition, -⟩ := hkept row' hrow'
    · rw [claimsOn_congr hsame.position] at hlast
      rw [hsame.next]
      exact h.backoff row hrow claim hlast
    · rw [hfresh row' hposition] at hlast
      cases hlast
  · exact Nat.lt_of_lt_of_le (h.below claim hclaim) hnext

theorem AttemptInv.claimed {current : Row}
    (h : AttemptInv s claims) (hinv : s.Inv bounds) (hcurrent : current ∈ s.db.rows)
    (hrows : ∀ row' ∈ s'.db.rows,
      (row'.position = current.position ∧ row'.attemptCount = current.attemptCount + 1 ∧
        row'.nextAttemptMonotonicMs = now + edgeQueueRetryDelayMs (current.attemptCount + 1)) ∨
      ∃ row ∈ s.db.rows, row.position ≠ current.position ∧ SameAttempts row row')
    (hnext : s.db.counter.nextPosition ≤ s'.db.counter.nextPosition) :
    AttemptInv s' (claims ++ [⟨current.position, current.attemptCount + 1, now⟩]) := by
  refine ⟨fun row' hrow' => ?_, fun row' hrow' claim hlast => ?_, fun claim hclaim => ?_⟩
  · obtain ⟨hposition, hattempts, -⟩ | ⟨row, hrow, hne, hsame⟩ := hrows row' hrow'
    · rw [claimsOn_concat_self hposition, List.length_append, hattempts, h.counted current hcurrent,
        claimsOn_congr hposition]
      rfl
    · rw [claimsOn_concat_of_ne (hsame.position ▸ hne), claimsOn_congr hsame.position, hsame.attempts]
      exact h.counted row hrow
  · obtain ⟨hposition, -, hwaits⟩ | ⟨row, hrow, hne, hsame⟩ := hrows row' hrow'
    · rw [claimsOn_concat_self hposition, List.getLast?_concat] at hlast
      cases hlast
      exact hwaits
    · rw [claimsOn_concat_of_ne (hsame.position ▸ hne), claimsOn_congr hsame.position] at hlast
      rw [hsame.next]
      exact h.backoff row hrow claim hlast
  · rcases List.of_mem_concat hclaim with hold | rfl
    · exact Nat.lt_of_lt_of_le (h.below claim hold) hnext
    · exact Nat.lt_of_lt_of_le (hinv.wf.below current hcurrent) hnext

/-- A queue that opens has been recovered. -/
theorem openStore_ok {reading : Int} {process : Process}
    (h : openStore reading db = .ok (process, db')) :
    process = ⟨reading, db.counter.lastObservedMonotonicMs⟩ ∧
      recoverInterruptedAttempts db = .ok db' := by
  rw [openStore, Except.ite_error_eq_ok, Except.ite_error_eq_ok] at h
  obtain ⟨-, -, h⟩ := h
  obtain ⟨recovered, hrecovered, h⟩ := Except.bind_eq_ok.mp h
  obtain ⟨hprocess, rfl⟩ := Prod.mk.inj (Except.ok.inj h)
  exact ⟨hprocess.symm, hrecovered⟩

theorem AttemptInv.step (h : AttemptInv s claims) (hinv : s.Inv bounds)
    (hstep : EdgeQueue.step parses bounds s label = some s') :
    AttemptInv s' (claims ++ (claimMade parses bounds s label).toList) := by
  have hnext : s.db.counter.nextPosition ≤ s'.db.counter.nextPosition := by
    obtain ⟨admitted, claimed, heffect, -⟩ := step_effect hinv hstep
    exact heffect.later.next_le
  have hsame (hdb : s'.db = s.db) : AttemptInv s' claims :=
    h.kept (by rw [hdb]; exact .refl _) hnext
  cases label with
  | close =>
    cases hstep
    simpa [claimMade] using hsame rfl
  | reopen reading =>
    rw [show claims ++ (claimMade parses bounds s (.reopen reading)).toList = claims from
      List.append_nil _]
    simp only [EdgeQueue.step] at hstep
    split at hstep
    · cases hstep
    split at hstep
    · cases hstep
      exact hsame rfl
    next process db' hopen =>
      cases hstep
      exact h.kept (.updateRows (openStore_ok hopen).2 fun _ => ⟨rfl, rfl, rfl⟩) hnext
  | call call reading markReading crashes =>
    cases crashes with
    | true =>
      -- the transaction is rolled back
      have hnone : claimMade parses bounds s (.call call reading markReading true) = none := by
        cases call <;> rfl
      rw [hnone, Option.toList_none, List.append_nil]
      simp only [EdgeQueue.step] at hstep
      split at hstep
      · cases hstep
      · cases hstep
        exact hsame rfl
    | false =>
      cases hprocess : s.process with
      | none => simp [EdgeQueue.step, hprocess] at hstep
      | some process =>
        obtain ⟨-, ⟨hdb, failure, hperform⟩ | ⟨answer, hperform⟩⟩ := step_call hprocess hstep
        · have hnone : claimMade parses bounds s (.call call reading markReading false) = none := by
            cases call with
            | claimForForwarding id => simp only [claimMade, hprocess, hperform]
            | _ => rfl
          rw [hnone, Option.toList_none, List.append_nil]
          exact hsame hdb
        by_cases hclaim : ∃ id, call = .claimForForwarding id
        · obtain ⟨id, rfl⟩ := hclaim
          obtain ⟨⟨changed, after⟩, hcall, hresult⟩ := Except.map_eq_ok.mp hperform
          cases hresult
          simp only [claimMade, hprocess, hperform]
          obtain ⟨rfl, hdb⟩ | ⟨rfl, current, hmem, hcurrent, hrows⟩ :=
            claimForForwarding_ok hinv.wf hcall
          · simpa using hsame hdb
          · simp only [hcurrent, Option.map_some, Option.toList_some]
            exact h.claimed hinv hmem hrows hnext
        · have hother : ∀ id, call ≠ .claimForForwarding id := fun id heq => hclaim ⟨id, heq⟩
          have hnone : claimMade parses bounds s (.call call reading markReading false) = none := by
            cases call with
            | claimForForwarding id => exact absurd rfl (hother id)
            | _ => rfl
          rw [hnone, Option.toList_none, List.append_nil]
          exact h.kept (perform_attemptsKept hother hperform) hnext

theorem AttemptInv.initial : AttemptInv .initial [] where
  counted _ hrow := nomatch hrow
  backoff _ hrow := nomatch hrow
  below _ hclaim := nomatch hclaim

/-- At the end of every run, every row counts its claims. -/
theorem attemptInv_run {labels : List Label}
    (hrun : run (step parses bounds) .initial labels = some s) :
    AttemptInv s (claimsMade parses bounds labels) := by
  have hall : RunAll (step parses bounds) (fun _ _ => True) .initial labels :=
    runAll_of_forall fun _ _ => trivial
  have hboth := runAll_trace_invariant (claimMade parses bounds)
    (fun s claims => s.Inv bounds ∧ AttemptInv s claims)
    (fun h _ hstep => ⟨h.1.step hstep, h.2.step h.1 hstep⟩) ⟨.initial bounds, .initial⟩ hall hrun
  exact hboth.2

/-! ## Opening again -/

/-- What opening makes of a row: one that was in flight is UNKNOWN, the others are as they were. -/
def Row.recovered (row : Row) : Row :=
  if row.queueState = .forwarding then
    { row with queueState := .unknown, failureCategory := some .transportError }
  else row

theorem unsettled_of_forwarding (hchecks : row.checks = true)
    (hstate : row.queueState = .forwarding) : row.settled = false := by
  have hsettled := terminal_iff_settled hchecks
  rw [hstate] at hsettled
  refine Bool.eq_false_iff.mpr fun h => ?_
  cases hsettled.mpr h

/-- The schema lets a row in flight become UNKNOWN. -/
theorem recovered_allowed (hchecks : row.checks = true) (hstate : row.queueState = .forwarding) :
    updateAllowed row { row with
      queueState := edgeQueueStateForFailureCategory edgeQueueCrashRecoveryCategory
      failureCategory := some edgeQueueCrashRecoveryCategory } = .ok () := by
  have hunsettled := unsettled_of_forwarding hchecks hstate
  have hnone : row.settlement = none := by simpa [Row.settled] using hunsettled
  have hafter : Row.checks { row with
      queueState := edgeQueueStateForFailureCategory edgeQueueCrashRecoveryCategory
      failureCategory := some edgeQueueCrashRecoveryCategory } = true := by
    simp only [Row.checks, hnone, hstate, Bool.and_eq_true] at hchecks ⊢
    obtain ⟨⟨⟨⟨hcolumns, -⟩, -⟩, -⟩, -⟩ := hchecks
    exact ⟨⟨⟨⟨hcolumns, by decide⟩, by decide⟩, by decide⟩, by decide⟩
  simp [updateAllowed, hunsettled, hafter]

theorem recoverInterruptedAttempts_of_wf (hwf : db.Wf bounds) :
    recoverInterruptedAttempts db = .ok { db with rows := db.rows.map Row.recovered } := by
  rw [recoverInterruptedAttempts, updateRows_of_allowed]
  · -- the sweep's guard on the settlement excludes nothing that is in flight
    refine congrArg (fun rows => Except.ok { db with rows := rows }) ?_
    refine List.map_congr_left fun row hrow => ?_
    by_cases hstate : row.queueState = .forwarding
    · have hunsettled := unsettled_of_forwarding (hwf.checks row hrow) hstate
      simp [Row.recovered, hstate, hunsettled, edgeQueueCrashInterruptedState,
        edgeQueueStateForFailureCategory, edgeQueueCrashRecoveryCategory]
    · simp [Row.recovered, hstate, edgeQueueCrashInterruptedState]
  · intro row hrow hselected
    simp only [Bool.and_eq_true, decide_eq_true_eq] at hselected
    exact recovered_allowed (hwf.checks row hrow) hselected.1

theorem step_schemaVersion (hstep : EdgeQueue.step parses bounds s label = some s') :
    s'.db.counter.schemaVersion = s.db.counter.schemaVersion := by
  cases label with
  | close =>
    cases hstep
    rfl
  | reopen reading =>
    simp only [EdgeQueue.step] at hstep
    split at hstep
    · cases hstep
    split at hstep
    · cases hstep
      rfl
    next process db' hopen =>
      cases hstep
      exact congrArg Counter.schemaVersion (updateRows_counter (openStore_ok hopen).2)
  | call call reading markReading crashes =>
    cases hprocess : s.process with
    | none => simp [EdgeQueue.step, hprocess] at hstep
    | some process =>
      cases crashes with
      | true =>
        simp only [EdgeQueue.step, hprocess, if_true] at hstep
        cases hstep
        rfl
      | false =>
        obtain ⟨-, ⟨hdb, -⟩ | ⟨answer, hperform⟩⟩ := step_call hprocess hstep
        · rw [hdb]
        · exact (perform_marked hperform).schema

/-- Every queue a run reaches opens, with what was in flight recovered and nothing else changed. -/
theorem openStore_of_inv (hinv : s.Inv bounds)
    (hschema : s.db.counter.schemaVersion = edgeQueueSchemaVersion) (reading : Int) :
    openStore reading s.db = .ok (⟨reading, s.db.counter.lastObservedMonotonicMs⟩,
      { s.db with rows := s.db.rows.map Row.recovered }) := by
  have hahead : (s.db.rows.any fun row => s.db.counter.nextPosition ≤ row.position) = false := by
    refine List.any_eq_false.mpr fun row hrow => ?_
    have := hinv.wf.below row hrow
    simp only [decide_eq_true_eq]
    omega
  rw [openStore, if_neg (not_not.mpr hschema), hahead, recoverInterruptedAttempts_of_wf hinv.wf]
  rfl

theorem recovered_recovered (row : Row) : row.recovered.recovered = row.recovered := by
  by_cases hstate : row.queueState = .forwarding <;> simp [Row.recovered, hstate]

/-- Steps that run no transaction to its commit: crashes, closings and openings. -/
def Label.restarts : Label → Bool
  | .call _ _ _ crashes => crashes
  | .close => true
  | .reopen _ => true

/-- On a queue already recovered, crashes and openings change nothing further. -/
theorem step_restarts (hinv : s.Inv bounds)
    (hschema : s.db.counter.schemaVersion = edgeQueueSchemaVersion)
    (hrecovered : s.db.rows.map Row.recovered = s.db.rows) (hrestarts : label.restarts = true)
    (hstep : EdgeQueue.step parses bounds s label = some s') : s'.db = s.db := by
  cases label with
  | call call reading markReading crashes =>
    obtain rfl : crashes = true := hrestarts
    simp only [EdgeQueue.step] at hstep
    split at hstep
    · cases hstep
    · cases hstep
      rfl
  | close =>
    cases hstep
    rfl
  | reopen reading =>
    simp only [EdgeQueue.step, openStore_of_inv hinv hschema, hrecovered] at hstep
    split at hstep
    · cases hstep
    · cases hstep
      rfl

theorem run_restarts {labels : List Label} (hinv : s.Inv bounds)
    (hschema : s.db.counter.schemaVersion = edgeQueueSchemaVersion)
    (hrecovered : s.db.rows.map Row.recovered = s.db.rows)
    (hrestarts : ∀ label ∈ labels, label.restarts = true)
    (hrun : run (EdgeQueue.step parses bounds) s labels = some s') : s'.db = s.db := by
  induction labels generalizing s with
  | nil =>
    cases hrun
    rfl
  | cons label labels ih =>
    obtain ⟨t, hstep, hrest⟩ := run_cons_eq_some.mp hrun
    have hsame := step_restarts hinv hschema hrecovered (hrestarts label (List.mem_cons_self ..)) hstep
    rw [← hsame]
    refine ih (hinv.step hstep) (hsame ▸ hschema) (hsame ▸ hrecovered) (fun later hlater => ?_) hrest
    exact hrestarts later (List.mem_cons_of_mem _ hlater)

/-- **What a crash leaves of an attempt.**  Wherever a run is cut, the queue opens again; every row
then counts the claims on it that returned success and waits for the backoff of the last; and what
was in flight is UNKNOWN for TRANSPORT_ERROR. -/
theorem reopened_after_crash {labels : List Label} {s : State}
    (hrun : run (step parses bounds) .initial labels = some s) (hcrashed : s.process = none)
    (reading : Int) :
    ∃ s', step parses bounds s (.reopen reading) = some s' ∧ s'.process.isSome = true ∧
      s'.db = { s.db with rows := s.db.rows.map Row.recovered } ∧
      (∀ row ∈ s'.db.rows,
        (claimsOn (claimsMade parses bounds labels) row).length ≤ row.attemptCount ∧
        ∀ claim, (claimsOn (claimsMade parses bounds labels) row).getLast? = some claim →
          claim.instant + edgeQueueRetryDelayMs claim.attempt ≤ row.nextAttemptMonotonicMs) ∧
      ∀ labels' s'', (∀ label ∈ labels', label.restarts = true) →
        run (step parses bounds) s' labels' = some s'' → s''.db = s'.db := by
  have hinv := (State.Inv.initial bounds).run hrun
  have hschema : s.db.counter.schemaVersion = edgeQueueSchemaVersion :=
    run_invariant (fun h hstep => (step_schemaVersion hstep).trans h)
      (show State.initial.db.counter.schemaVersion = edgeQueueSchemaVersion from rfl) hrun
  have hattempts := attemptInv_run hrun
  have hstep : step parses bounds s (.reopen reading) = some
      { s with
        process := some ⟨reading, s.db.counter.lastObservedMonotonicMs⟩
        db := { s.db with rows := s.db.rows.map Row.recovered } } := by
    simp only [step, hcrashed, openStore_of_inv hinv hschema]
  refine ⟨_, hstep, rfl, rfl, fun row' hrow' => ?_, fun labels' s'' hrestarts hrun' => ?_⟩
  · have hafter := hattempts.step hinv hstep
    rw [show claimMade parses bounds s (.reopen reading) = none from rfl, Option.toList_none,
      List.append_nil] at hafter
    exact ⟨(hafter.counted row' hrow').ge, fun claim hlast => (hafter.backoff row' hrow' claim hlast).ge⟩
  · refine run_restarts (hinv.step hstep) ((step_schemaVersion hstep).trans hschema) ?_ hrestarts hrun'
    simp only [List.map_map]
    exact List.map_congr_left fun row _ => recovered_recovered row

/-- A claim answered, a claim in flight and a crash in the middle of a third. -/
def crashedRun : List Label :=
  [.reopen 0, .call (admissionOf "first" 0) 1 1 false, .call (admissionOf "second" 1) 2 2 false,
    .call (.markReadyToForward "first") 3 3 false, .call (.markReadyToForward "second") 4 4 false,
    .call (.claimForForwarding "first") 5 6 false,
    .call (.recordTransportUnknown "first" .timedOut) 7 7 false,
    .call (.claimForForwarding "first") 8 9 false, .call (.claimForForwarding "second") 9 9 true]

/-- The first row comes back UNKNOWN with its two attempts, the second as it was. -/
theorem reopened_after_crash_twice :
    claimsMade (fun _ => true) ⟨4, 1⟩ crashedRun = [⟨0, 1, 5⟩, ⟨0, 2, 8⟩] ∧
    ∃ s s', run (step (fun _ => true) ⟨4, 1⟩) .initial crashedRun = some s ∧
      step (fun _ => true) ⟨4, 1⟩ s (.reopen 2) = some s' ∧
      s'.db.rows.map (fun row => (row.queueState, row.attemptCount, row.nextAttemptMonotonicMs)) =
        [(.unknown, 2, 10008), (.readyToForward, 0, 2)] ∧
      ∀ row ∈ s'.db.rows,
        (claimsOn (claimsMade (fun _ => true) ⟨4, 1⟩ crashedRun) row).length ≤ row.attemptCount := by
  refine ⟨by decide, ?_⟩
  have hruns : (run (step (fun _ => true) ⟨4, 1⟩) .initial crashedRun).map
      (fun s => (s.process.isNone, (s.db.rows.map Row.recovered).map fun row =>
        (row.queueState, row.attemptCount, row.nextAttemptMonotonicMs))) =
      some (true, [(.unknown, 2, 10008), (.readyToForward, 0, 2)]) := by
    decide
  obtain ⟨s, hrun, hend⟩ := Option.map_eq_some_iff.mp hruns
  obtain ⟨hnone, hrows⟩ := Prod.mk.inj hend
  obtain ⟨s', hstep, -, hdb, hattempts, -⟩ :=
    reopened_after_crash hrun (Option.isNone_iff_eq_none.mp hnone) 2
  refine ⟨s, s', hrun, hstep, ?_, fun row hrow => (hattempts row hrow).1⟩
  rw [hdb]
  exact hrows

end Sentinel.EdgeQueue
