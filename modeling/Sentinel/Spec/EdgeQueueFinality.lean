import Sentinel.Spec.EdgeQueueAtomicity

/-! # How long an answer is final

A settled row stays until a sweep takes it: that of an admission, when there are more answered rows
than retention keeps, or `pruneSettled`.  Then the queue takes the operation as a new one. -/

namespace Sentinel.EdgeQueue

open Transition

variable {parses : StoredOperation → Bool} {bounds : Bounds}

/-! ## What takes a settled row -/

/-- The call deletes the row, as one of the oldest settled. -/
inductive Reclaims (bounds : Bounds) (row : Row) (db : Db) : Call → Prop
  /-- The sweep of an admission. -/
  | admission (input : AdmissionInput)
      (h : row ∈ (sweepOrder db).take (settledCount db - bounds.settledRetention)) :
      Reclaims bounds row db (.admission input)
  /-- The operator's prune. -/
  | pruneSettled (limit : Int) (h : row ∈ (sweepOrder db).take limit.toNat) :
      Reclaims bounds row db (.pruneSettled limit)

/-- The row leaves the queue in this step. -/
structure ReclaimedBy (parses : StoredOperation → Bool) (bounds : Bounds) (row : Row)
    (s : State) (label : Label) (s' : State) : Prop where
  held : row ∈ s.db.rows
  gone : row ∉ s'.db.rows
  step : step parses bounds s label = some s'
  call : ∃ call reading markReading, label = .call call reading markReading false ∧
    Reclaims bounds row s.db call

variable {row : Row} {db db' : Db} {now : Int} {s s' : State}

theorem mem_rewrite_settled {rows : List Row} {selected : Row → Bool} {change : Row → Row}
    (hallowed : ∀ row ∈ rows, selected row = true → updateAllowed row (change row) = .ok ())
    (hrow : row ∈ rows) (hsettled : row.settled = true) :
    row ∈ Table.rewrite selected change rows := by
  refine Table.mem_rewrite_of_miss hrow (Bool.eq_false_iff.mpr fun hselected => ?_)
  rw [(updateAllowed_ok (hallowed row hrow hselected)).1] at hsettled
  cases hsettled

theorem sweepSettled_gone (hkeys : (db.rows.map Row.id).Nodup)
    (h : sweepSettled bounds db = .ok db') (hrow : row ∈ db.rows)
    (hnot : row ∉ db'.rows) :
    row ∈ (sweepOrder db).take (settledCount db - bounds.settledRetention) := by
  rw [sweepSettled] at h
  split at h
  · exact reclaimSettled_gone hkeys h hrow hnot
  · cases h
    exact absurd hrow hnot

/-- A call that returns keeps a settled row or reclaims it. -/
theorem perform_settled {markedAt : Int} {call : Call} {answer : Answer}
    (hkeys : (db.rows.map Row.id).Nodup)
    (h : perform parses bounds now markedAt db call = .ok (answer, db'))
    (hrow : row ∈ db.rows) (hsettled : row.settled = true) :
    row ∈ db'.rows ∨ Reclaims bounds row db call := by
  by_cases hkept : row ∈ db'.rows
  · exact .inl hkept
  refine .inr ?_
  cases hchange : call.change with
  | some change =>
    -- a state change rewrites rows that are not settled
    obtain ⟨id, target⟩ := change
    obtain ⟨changed, -, hchanges⟩ := perform_changes hchange h
    cases hchanges with
    | refused => exact absurd hrow hkept
    | changed current counter change hcurrent htable hcounter htarget hallowed =>
      exact absurd (mem_rewrite_settled hallowed hrow hsettled) hkept
  | none =>
    cases call with
    | admission input =>
      obtain ⟨⟨outcome, after⟩, hcall, h⟩ := Except.map_eq_ok.mp h
      cases h
      obtain ⟨swept, hswept, ⟨-, rfl⟩ | ⟨counter, stored, -, rfl⟩⟩ := admission_cases hcall
      · exact .admission input (sweepSettled_gone hkeys hswept hrow hkept)
      · exact .admission input (sweepSettled_gone hkeys hswept hrow fun hmem =>
          hkept (List.mem_append_left _ hmem))
    | pruneSettled limit =>
      obtain ⟨⟨count, after⟩, hcall, h⟩ := Except.map_eq_ok.mp h
      cases h
      rw [pruneSettled] at hcall
      split at hcall
      · cases hcall
        exact absurd hrow hkept
      · obtain ⟨pruned, hpruned, hcall⟩ := Except.bind_eq_ok.mp hcall
        cases hcall
        exact .pruneSettled limit (reclaimSettled_gone hkeys hpruned hrow hkept)
    | settle id result =>
      -- an answer that is not terminal makes `settle` throw
      cases result with
      | none => cases h
      | some result =>
        cases result with
        | unknown reason => cases h
        | terminal answer => cases hchange
    | markReadyToForward id => cases hchange
    | claimForForwarding id => cases hchange
    | recordCentralProgress id progress => cases hchange
    | recordTransportUnknown id reason => cases hchange

theorem step_settled {label : Label} (hinv : s.Inv bounds)
    (h : step parses bounds s label = some s') (hrow : row ∈ s.db.rows)
    (hsettled : row.settled = true) :
    row ∈ s'.db.rows ∨ ReclaimedBy parses bounds row s label s' := by
  by_cases hkept : row ∈ s'.db.rows
  · exact .inl hkept
  refine .inr ⟨hrow, hkept, h, ?_⟩
  cases label with
  | call call reading markReading crashes =>
    simp only [step] at h
    split at h
    · cases h
    split at h
    · -- a crash rolls the transaction back
      cases h
      exact absurd hrow hkept
    rename_i hlives
    obtain rfl : crashes = false := by simpa using hlives
    split at h
    · cases h
      exact absurd hrow hkept
    next answer db' hperform =>
      cases h
      exact ⟨call, reading, markReading, rfl,
        (perform_settled hinv.wf.nodup_ids hperform hrow hsettled).resolve_left hkept⟩
  | close =>
    cases h
    exact absurd hrow hkept
  | reopen reading =>
    simp only [step] at h
    split at h
    · cases h
    split at h
    · cases h
      exact absurd hrow hkept
    next process db' hopen =>
      cases h
      rw [openStore, Except.ite_error_eq_ok, Except.ite_error_eq_ok] at hopen
      obtain ⟨-, -, hopen⟩ := hopen
      obtain ⟨recovered, hrecovered, hopen⟩ := Except.bind_eq_ok.mp hopen
      cases hopen
      obtain ⟨rfl, hallowed⟩ := updateRows_ok hrecovered
      exact absurd (mem_rewrite_settled hallowed hrow hsettled) hkept

/-! ## Over a run -/

/-- The row leaves the queue somewhere in the run. -/
def ReclaimedIn (parses : StoredOperation → Bool) (bounds : Bounds) (row : Row) (s : State)
    (labels : List Label) (s' : State) : Prop :=
  ∃ before label after t t', labels = before ++ label :: after ∧
    run (step parses bounds) s before = some t ∧ ReclaimedBy parses bounds row t label t' ∧
      run (step parses bounds) t' after = some s'

theorem run_settled {labels : List Label} (hinv : s.Inv bounds)
    (hrun : run (step parses bounds) s labels = some s') (hrow : row ∈ s.db.rows)
    (hsettled : row.settled = true) :
    row ∈ s'.db.rows ∨ ReclaimedIn parses bounds row s labels s' := by
  induction labels generalizing s with
  | nil =>
    rw [run_nil] at hrun
    exact .inl (Option.some.inj hrun ▸ hrow)
  | cons label labels ih =>
    obtain ⟨t, hstep, hrest⟩ := run_cons_eq_some.mp hrun
    obtain hkept | hreclaimed := step_settled hinv hstep hrow hsettled
    · obtain hlast | ⟨before, label', after, u, u', rfl, hbefore, hby, hafter⟩ :=
        ih (hinv.step hstep) hrest hkept
      · exact .inl hlast
      · exact .inr ⟨label :: before, label', after, u, u', rfl,
          run_cons_eq_some.mpr ⟨t, hstep, hbefore⟩, hby, hafter⟩
    · exact .inr ⟨[], label, labels, s, t, rfl, rfl, hreclaimed, hrest⟩

/-- What is later under the id of a settled row is that row or has come after it. -/
theorem later_of_settled {labels : List Label} (hinv : s.Inv bounds)
    (hrun : run (step parses bounds) s labels = some s') (hrow : row ∈ s.db.rows)
    (hsettled : row.settled = true) {held : Row} (hheld : held ∈ s'.db.rows)
    (hid : held.id = row.id) :
    held = row ∨ s.db.counter.nextPosition ≤ held.position := by
  by_cases hbefore : held.position < s.db.counter.nextPosition
  · obtain ⟨first, hfirst, -, henvelope, hfinal⟩ :=
      (later_run hinv hrun).origin held hheld hbefore
    have hfirstId : first.id = row.id := by rw [← hid, Row.id, Row.id, henvelope]
    obtain rfl := Table.eq_of_key hinv.wf.nodup_ids hfirst hrow hfirstId
    exact .inl (hfinal hsettled)
  · exact .inr (Nat.le_of_not_lt hbefore)

/-! ## What is forwardable and what is a duplicate -/

theorem toEntry_ok {entry : Row} (h : toEntry parses row = .ok entry) : entry = row := by
  rw [toEntry] at h
  split at h
  · exact (Except.ok.inj h).symm
  · cases h

theorem mapM_toEntry_ok {rows entries : List Row} (h : rows.mapM (toEntry parses) = .ok entries) :
    entries = rows := by
  induction rows generalizing entries with
  | nil =>
    rw [List.mapM_nil] at h
    exact (Except.ok.inj h).symm
  | cons row rows ih =>
    rw [List.mapM_cons] at h
    obtain ⟨entry, hentry, h⟩ := Except.bind_eq_ok.mp h
    obtain ⟨rest, hrest, h⟩ := Except.bind_eq_ok.mp h
    rw [← Except.ok.inj h, toEntry_ok hentry, ih hrest]

theorem forwardableHeads_ok {limit : Nat} {heads : List Row}
    (h : forwardableHeads parses now limit db = .ok heads) {head : Row} (hhead : head ∈ heads) :
    head ∈ db.rows ∧ head.settled = false := by
  rw [forwardableHeads] at h
  obtain rfl := mapM_toEntry_ok h
  have hselected := (List.perm_insertionSort _ _).mem_iff.mp (List.mem_of_mem_take hhead)
  obtain ⟨hmem, hforwardable⟩ := List.mem_filter.mp hselected
  simp only [isForwardableHead, Bool.and_eq_true, Bool.not_eq_true'] at hforwardable
  exact ⟨hmem, hforwardable.1.1.1⟩

/-- An operation whose row the sweep leaves is a duplicate. -/
theorem duplicate_of_kept {input : AdmissionInput} {outcome : Admission}
    (hwf : db.Wf bounds) (h : admission parses bounds now input db = .ok (outcome, db'))
    (hrow : row ∈ db.rows) (hid : input.envelope.offlineOperationId = row.id)
    (hkept : row ∈ db'.rows) : outcome = .duplicateOperationId := by
  rw [admission] at h
  obtain ⟨swept, hswept, h⟩ := Except.bind_eq_ok.mp h
  obtain ⟨found, hfound, h⟩ := Except.bind_eq_ok.mp h
  obtain rfl := find_ok hfound
  cases hheld : swept.rowOf input.envelope.offlineOperationId with
  | some held =>
    rw [hheld] at h
    exact (Prod.mk.inj (Except.ok.inj h)).1.symm
  | none =>
    -- the sweep took the row, so the answer's table has it only as the row stored just now
    have hgone : row ∉ swept.rows := fun hmem => by
      have hmiss := List.find?_eq_none.mp hheld row hmem
      simp [hid, Row.id] at hmiss
    have hcounter : swept.counter = db.counter :=
      (sweepSettled_reclaimed hwf.nodup_ids hswept).counter
    rw [hheld] at h
    simp only at h
    split at h
    · exact absurd ((Prod.mk.inj (Except.ok.inj h)).2 ▸ hkept) hgone
    split at h
    · exact absurd ((Prod.mk.inj (Except.ok.inj h)).2 ▸ hkept) hgone
    split at h
    · exact absurd ((Prod.mk.inj (Except.ok.inj h)).2 ▸ hkept) hgone
    · obtain ⟨counter, stored, -, rfl, -, hposition, -⟩ := storeOperation_ok h
      have hbelow := hwf.below row hrow
      rcases List.of_mem_concat hkept with hmem | rfl
      · exact absurd hmem hgone
      · rw [hposition, hcounter] at hbelow
        omega

/-- **An answer is final until retention.**  From the state in which an operation is settled on, its
row stays as it is until a sweep takes it as one of the oldest settled; while it stays the operation
is a duplicate, and what is later under its id has a later position. -/
theorem settled_until_reclaimed {labels rest : List Label} {s s' : State}
    (hrun : run (step parses bounds) .initial labels = some s) {row : Row} (hrow : row ∈ s.db.rows)
    (hsettled : row.settled = true) (hrest : run (step parses bounds) s rest = some s') :
    (row ∈ s'.db.rows ∨ ReclaimedIn parses bounds row s rest s') ∧
      (row ∈ s'.db.rows →
        (∀ now limit heads, forwardableHeads parses now limit s'.db = .ok heads →
          ∀ head ∈ heads, head.id ≠ row.id) ∧
        ∀ now input outcome db', admission parses bounds now input s'.db = .ok (outcome, db') →
          input.envelope.offlineOperationId = row.id → row ∈ db'.rows →
            outcome = .duplicateOperationId) ∧
      ∀ held ∈ s'.db.rows, held.id = row.id →
        held = row ∨ s.db.counter.nextPosition ≤ held.position := by
  have hinv := (State.Inv.initial bounds).run hrun
  have hinv' := hinv.run hrest
  refine ⟨run_settled hinv hrest hrow hsettled, fun hkept => ⟨?_, ?_⟩, fun held hheld hid =>
    later_of_settled hinv hrest hrow hsettled hheld hid⟩
  · intro now limit heads hheads head hhead hid
    obtain ⟨hmem, hunsettled⟩ := forwardableHeads_ok hheads hhead
    obtain rfl := Table.eq_of_key hinv'.wf.nodup_ids hmem hkept hid
    rw [hsettled] at hunsettled
    cases hunsettled
  · intro now input outcome db' hadmission hid hleft
    exact duplicate_of_kept hinv'.wf hadmission hkept hid hleft

/-! ## An operation settled and forwardable again -/

/-- An operation, admitted, claimed and accepted by central. -/
def settledOnce (id : String) (deviceSequence : Int) : List Label :=
  [.call (admissionOf id deviceSequence) 1 1 false, .call (.markReadyToForward id) 2 2 false,
    .call (.claimForForwarding id) 3 3 false,
    .call (.settle id (some (.terminal (.centralAccepted "reference")))) 4 4 false]

/-- The operation comes again. -/
def again (id : String) (deviceSequence : Int) : List Label :=
  [.call (admissionOf id deviceSequence) 5 5 false, .call (.markReadyToForward id) 6 6 false]

/-- What a run that settles `"first"` leaves of it. -/
def firstSettled : Row :=
  { storedRow "first" 0 (some (.centralAccepted "reference")) with
    firstStoredMonotonicMs := 1
    lastAttemptMonotonicMs := some 3
    nextAttemptMonotonicMs := 5003 }

/-- Within retention, the operation coming again finds the row. -/
theorem settled_until_reclaimed_again :
    ∃ s s', run (step (fun _ => true) ⟨4, 1⟩) s (again "first" 0) = some s' ∧
      firstSettled ∈ s'.db.rows ∧
        ∀ now limit heads, forwardableHeads (fun _ => true) now limit s'.db = .ok heads →
          ∀ head ∈ heads, head.id ≠ "first" := by
  have hsettled : (run (step (fun _ => true) ⟨4, 1⟩) .initial
      (.reopen 0 :: settledOnce "first" 0)).map (fun s => s.db.rows) = some [firstSettled] := by
    decide
  have hagain : (run (step (fun _ => true) ⟨4, 1⟩) .initial
      ((.reopen 0 :: settledOnce "first" 0) ++ again "first" 0)).map (fun s => s.db.rows) =
        some [firstSettled] := by
    decide
  obtain ⟨s, hs, hrows⟩ := Option.map_eq_some_iff.mp hsettled
  obtain ⟨s', hs', hrows'⟩ := Option.map_eq_some_iff.mp hagain
  obtain ⟨t, ht, hrest⟩ := run_append_eq_some.mp hs'
  obtain rfl : t = s := Option.some.inj (ht.symm.trans hs)
  have hrow : firstSettled ∈ t.db.rows := hrows ▸ List.mem_singleton_self _
  have hrow' : firstSettled ∈ s'.db.rows := hrows' ▸ List.mem_singleton_self _
  exact ⟨t, s', hrest, hrow', ((settled_until_reclaimed hs hrow rfl hrest).2.1 hrow').1⟩

/-- The same operation, stored as a new one at a position. -/
def firstAgain (position : Nat) : Row :=
  { storedRow "first" position none with
    envelope := firstSettled.envelope
    attemptCount := 0
    firstStoredMonotonicMs := 5
    nextAttemptMonotonicMs := 5 }

/-- The operation is settled, and the rest of the run makes it forwardable. -/
def ForwardableAgain (bounds : Bounds) (rest : List Label) : Prop :=
  ∃ s s' heads row head, run (step (fun _ => true) bounds) .initial
      (.reopen 0 :: settledOnce "first" 0) = some s ∧
    row ∈ s.db.rows ∧ row.settled = true ∧
      run (step (fun _ => true) bounds) s rest = some s' ∧
        forwardableHeads (fun _ => true) 1000 64 s'.db = .ok heads ∧ head ∈ heads ∧
          head.envelope = row.envelope ∧ head.payloadCanonicalJson = row.payloadCanonicalJson

theorem forwardableAgain_of_run {bounds : Bounds} {rest : List Label} (position : Nat)
    (hsettled : (run (step (fun _ => true) bounds) .initial
      (.reopen 0 :: settledOnce "first" 0)).map (fun s => s.db.rows) = some [firstSettled])
    (hagain : (run (step (fun _ => true) bounds) .initial
      ((.reopen 0 :: settledOnce "first" 0) ++ rest)).map
        (fun s => forwardableHeads (fun _ => true) 1000 64 s.db) =
          some (.ok [firstAgain position])) : ForwardableAgain bounds rest := by
  obtain ⟨s, hs, hrows⟩ := Option.map_eq_some_iff.mp hsettled
  obtain ⟨s', hs', hheads⟩ := Option.map_eq_some_iff.mp hagain
  obtain ⟨t, ht, hrest⟩ := run_append_eq_some.mp hs'
  obtain rfl : t = s := Option.some.inj (ht.symm.trans hs)
  exact ⟨t, s', _, firstSettled, firstAgain position, hs, hrows ▸ List.mem_singleton_self _, rfl,
    hrest, hheads, List.mem_singleton_self _, rfl, rfl⟩

/-- A prune makes a settled operation forwardable again, and so does the sweep of its own second
    admission, which comes before the search for a duplicate. -/
theorem settled_forwardable_again :
    ForwardableAgain ⟨4096, 1024⟩ (.call (.pruneSettled 1) 5 5 false :: again "first" 0) ∧
      ForwardableAgain ⟨4, 1⟩ (settledOnce "second" 1 ++ again "first" 0) := by
  constructor
  · have hsettled : (run (step (fun _ => true) ⟨4096, 1024⟩) .initial
        (.reopen 0 :: settledOnce "first" 0)).map (fun s => s.db.rows) = some [firstSettled] := by
      decide
    exact forwardableAgain_of_run 1 hsettled (by decide)
  · have hsettled : (run (step (fun _ => true) ⟨4, 1⟩) .initial
        (.reopen 0 :: settledOnce "first" 0)).map (fun s => s.db.rows) = some [firstSettled] := by
      decide
    exact forwardableAgain_of_run 2 hsettled (by decide)

end Sentinel.EdgeQueue
