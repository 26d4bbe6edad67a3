import Sentinel.Native.EdgeQueueTransaction
import Sentinel.Spec.EdgeQueueInvariant

/-! # One admission, whole or not at all

What an admission commits is what `admission` computes, so the transaction of the source is that
operation. -/

namespace Sentinel.EdgeQueue

open Transaction (committed)

variable {parses : StoredOperation → Bool} {bounds : Bounds} {now : Int} {input : AdmissionInput}
  {db db' : Db}

/-! ## The work and the operation -/

theorem committed_sweepWork :
    committed (sweepWork bounds : Transaction.Work EdgeQueueError Db Unit) db =
      (sweepSettled bounds db).map fun db => ((), db) := by
  rw [sweepWork, sweepSettled, Transaction.committed_bind, Transaction.committed_get]
  show committed (ite _ _ _) db = Except.map _ (ite _ _ _)
  split
  · exact Transaction.committed_statement _ _
  · rfl

theorem committed_storeWork :
    committed (storeWork parses now input) db = storeOperation parses now input db := by
  rw [storeWork, storeOperation]
  simp only [Transaction.committed_bind, Transaction.committed_get, Transaction.committed_statement,
    Transaction.committed_query, Transaction.committed_pure, Except.map_bind, Except.ok_bind]
  rfl

theorem committed_admissionWork :
    committed (admissionWork parses bounds now input) db = admission parses bounds now input db := by
  rw [admissionWork, admission, Transaction.committed_bind, committed_sweepWork, Except.map_bind]
  refine Except.bind_congr fun swept => ?_
  dsimp only
  rw [Transaction.committed_bind, Transaction.committed_query, Except.map_bind]
  refine Except.bind_congr fun found => ?_
  cases found with
  | some entry => rfl
  | none =>
    simp only [Transaction.committed_bind, Transaction.committed_get, Transaction.committed_ite,
      Transaction.committed_pure, Except.ok_bind, committed_storeWork]
    rfl

/-- The transaction is the operation, with the queue as it was where the operation fails. -/
theorem admissionTransaction_eq :
    admissionTransaction parses bounds now input db =
      match admission parses bounds now input db with
      | .ok (outcome, db') => .ok outcome db'
      | .error failure => .error failure db := by
  rw [admissionTransaction, Transaction.transact_eq, committed_admissionWork]
  cases admission parses bounds now input db <;> rfl

/-! ## The sweep -/

theorem olderThan_total (a b : Row) : olderThan a b ∨ olderThan b a := by
  simp only [olderThan]
  omega

theorem olderThan_trans {a b c : Row} (hab : olderThan a b) (hbc : olderThan b c) :
    olderThan a c := by
  simp only [olderThan] at hab hbc ⊢
  omega

instance : Std.Total olderThan := ⟨olderThan_total⟩

instance : IsTrans Row olderThan := ⟨fun _ _ _ => olderThan_trans⟩

/-- The primary key of the table. -/
def Row.id (row : Row) : String := row.envelope.offlineOperationId

/-- What a sweep of the `limit` oldest settled rows does: as many of them go, and none that is kept
    is older than one that goes. -/
structure Reclaimed (limit : Nat) (db db' : Db) : Prop where
  counter : db'.counter = db.counter
  rows : db'.rows.Sublist db.rows
  unsettled : db'.rows.filter (fun row => !row.settled) = db.rows.filter fun row => !row.settled
  settled : settledCount db' = settledCount db - limit
  oldest : ∀ gone ∈ db.rows, gone ∉ db'.rows →
    ∀ kept ∈ db'.rows, kept.settled = true → olderThan gone kept

theorem Reclaimed.refl (db : Db) : Reclaimed 0 db db where
  counter := rfl
  rows := List.Sublist.refl _
  unsettled := rfl
  settled := rfl
  oldest _ hmem hgone := absurd hmem hgone

def sweepOrder (db : Db) : List Row := (db.rows.filter Row.settled).insertionSort olderThan

theorem sweepOrder_perm (db : Db) : (sweepOrder db).Perm (db.rows.filter Row.settled) :=
  List.perm_insertionSort olderThan _

theorem mem_sweepOrder {row : Row} :
    row ∈ sweepOrder db ↔ row ∈ db.rows ∧ row.settled = true := by
  rw [(sweepOrder_perm db).mem_iff, List.mem_filter]

/-- Those swept come before those left. -/
theorem sweepOrder_take_drop {limit : Nat} {gone kept : Row}
    (hgone : gone ∈ (sweepOrder db).take limit) (hkept : kept ∈ (sweepOrder db).drop limit) :
    olderThan gone kept := by
  have hsorted : (sweepOrder db).Pairwise olderThan := List.pairwise_insertionSort olderThan _
  rw [← List.take_append_drop limit (sweepOrder db), List.pairwise_append] at hsorted
  exact hsorted.2.2 gone hgone kept hkept

/-- The row a sweep takes is one of those it selected. -/
theorem reclaimSettled_gone {limit : Nat} (hkeys : (db.rows.map Row.id).Nodup)
    (h : reclaimSettled db limit = .ok db') {gone : Row} (hgone : gone ∈ db.rows)
    (hnot : gone ∉ db'.rows) : gone ∈ (sweepOrder db).take limit := by
  obtain ⟨rfl, -⟩ := deleteRows_ok h
  have hswept : gone.id ∈ ((sweepOrder db).take limit).map Row.id := by
    by_contra hmem
    refine hnot (List.mem_filter.mpr ⟨hgone, ?_⟩)
    have hfalse : (((sweepOrder db).take limit).map Row.id).contains gone.id = false := by
      rwa [← Bool.not_eq_true, List.contains_iff_mem]
    show (!(((sweepOrder db).take limit).map Row.id).contains gone.id) = true
    rw [hfalse]
    rfl
  -- by the key, it is the row selected under its id
  obtain ⟨swept, htake, hid⟩ := List.mem_map.mp hswept
  have hsweptRow := (mem_sweepOrder.mp (List.mem_of_mem_take htake)).1
  obtain rfl := Table.eq_of_key hkeys hsweptRow hgone hid
  exact htake

/-- The statement of a sweep, under the primary key. -/
theorem reclaimSettled_reclaimed {limit : Nat} (hkeys : (db.rows.map Row.id).Nodup)
    (h : reclaimSettled db limit = .ok db') : Reclaimed limit db db' := by
  have htaken {gone : Row} (hgone : gone ∈ db.rows) (hnot : gone ∉ db'.rows) :
      gone ∈ (sweepOrder db).take limit := reclaimSettled_gone hkeys h hgone hnot
  obtain ⟨rfl, hsettled⟩ := deleteRows_ok h
  have horderKeys : ((sweepOrder db).map Row.id).Nodup :=
    (((sweepOrder_perm db).map Row.id).nodup_iff).mpr (hkeys.sublist (List.filter_sublist.map _))
  have hselected (row : Row) : (oldestSettled db limit).contains row.envelope.offlineOperationId =
      (((sweepOrder db).take limit).map Row.id).contains row.id := rfl
  simp only [hselected] at hsettled ⊢
  refine ⟨rfl, List.filter_sublist, ?_, ?_, ?_⟩
  · -- the trigger: what the statement selects is settled
    rw [List.filter_filter]
    refine List.filter_congr fun row hrow => ?_
    cases hrowSettled : row.settled with
    | true => rfl
    | false =>
      have hkept : ¬ (((sweepOrder db).take limit).map Row.id).contains row.id = true := by
        intro hmem
        rw [hsettled row hrow hmem] at hrowSettled
        cases hrowSettled
      rw [Bool.not_eq_true] at hkept
      rw [hkept]
      rfl
  · rw [settledCount, List.countP_eq_length_filter, List.filter_filter]
    have hleft : ((sweepOrder db).filter fun row =>
        !(((sweepOrder db).take limit).map Row.id).contains row.id) = (sweepOrder db).drop limit :=
      List.filter_notMem_take Row.id horderKeys limit
    calc (db.rows.filter fun row => row.settled &&
          !(((sweepOrder db).take limit).map Row.id).contains row.id).length
      _ = ((db.rows.filter Row.settled).filter fun row =>
          !(((sweepOrder db).take limit).map Row.id).contains row.id).length := by
        rw [List.filter_filter]
        simp only [Bool.and_comm]
      _ = ((sweepOrder db).drop limit).length := by
        rw [← hleft, ((sweepOrder_perm db).filter _).length_eq]
      _ = settledCount db - limit := by
        rw [List.length_drop, (sweepOrder_perm db).length_eq, settledCount,
          List.countP_eq_length_filter]
  · intro gone hgone hnot kept hkept hkeptSettled
    have htake := htaken hgone hnot
    rw [List.mem_filter] at hkept
    have hkeptOrder := mem_sweepOrder.mpr ⟨hkept.1, hkeptSettled⟩
    rw [← List.take_append_drop limit (sweepOrder db), List.mem_append] at hkeptOrder
    refine sweepOrder_take_drop htake (hkeptOrder.resolve_left fun hmem => ?_)
    have hcontains : (((sweepOrder db).take limit).map Row.id).contains kept.id = true :=
      List.contains_iff_mem.mpr (List.mem_map_of_mem hmem)
    rw [hcontains] at hkept
    exact nomatch hkept.2

theorem sweepSettled_reclaimed (hkeys : (db.rows.map Row.id).Nodup)
    (h : sweepSettled bounds db = .ok db') :
    Reclaimed (settledCount db - bounds.settledRetention) db db' := by
  rw [sweepSettled] at h
  split at h
  · exact reclaimSettled_reclaimed hkeys h
  · rename_i hwithin
    cases h
    rw [Nat.eq_zero_of_not_pos hwithin]
    exact .refl db

/-! ## The outcomes -/

/-- An admission sweeps, and then refuses or stores. -/
theorem admission_cases {outcome : Admission}
    (h : admission parses bounds now input db = .ok (outcome, db')) :
    ∃ swept, sweepSettled bounds db = .ok swept ∧
      ((∀ entry, outcome ≠ .admitted entry) ∧ db' = swept ∨
        ∃ counter row, outcome = .admitted row ∧ db' = ⟨counter, swept.rows ++ [row]⟩) := by
  rw [admission] at h
  obtain ⟨swept, hswept, h⟩ := Except.bind_eq_ok.mp h
  obtain ⟨found, -, h⟩ := Except.bind_eq_ok.mp h
  refine ⟨swept, hswept, ?_⟩
  have hrefused {refusal : Admission}
      (hok : (Except.ok (refusal, swept) : Except EdgeQueueError (Admission × Db)) =
        .ok (outcome, db')) (hnot : ∀ entry, refusal ≠ .admitted entry) :
      (∀ entry, outcome ≠ .admitted entry) ∧ db' = swept := by
    cases hok
    exact ⟨hnot, rfl⟩
  cases found with
  | some entry => exact .inl (hrefused h fun _ h => nomatch h)
  | none =>
    simp only at h
    split at h
    · exact .inl (hrefused h fun _ h => nomatch h)
    split at h
    · exact .inl (hrefused h fun _ h => nomatch h)
    split at h
    · exact .inl (hrefused h fun _ h => nomatch h)
    · obtain ⟨counter, row, rfl, rfl, -⟩ := storeOperation_ok h
      exact .inr ⟨counter, row, rfl, rfl⟩

/-- A refusal is given after the sweep and before anything else is written. -/
theorem admission_refused {outcome : Admission}
    (h : admission parses bounds now input db = .ok (outcome, db'))
    (hrefused : ∀ entry, outcome ≠ .admitted entry) : sweepSettled bounds db = .ok db' := by
  obtain ⟨swept, hswept, ⟨-, rfl⟩ | ⟨counter, row, rfl, rfl⟩⟩ := admission_cases h
  · exact hswept
  · exact absurd rfl (hrefused row)

/-- **An admission is whole or not at all.**  A throw leaves the queue as it was; a refusal reclaims
exactly the settled rows beyond the retention bound, the oldest first. -/
theorem admissionTransaction_atomic (hkeys : (db.rows.map Row.id).Nodup) :
    (∀ failure, admissionTransaction parses bounds now input db = .error failure db' → db' = db) ∧
    (∀ outcome, admissionTransaction parses bounds now input db = .ok outcome db' →
      (∀ entry, outcome ≠ .admitted entry) →
        Reclaimed (settledCount db - bounds.settledRetention) db db') := by
  refine ⟨fun failure h => Transaction.transact_error h, fun outcome h hrefused => ?_⟩
  rw [admissionTransaction_eq] at h
  cases hadmission : admission parses bounds now input db with
  | error failure =>
    rw [hadmission] at h
    cases h
  | ok answer =>
    obtain ⟨outcome', swept⟩ := answer
    rw [hadmission] at h
    cases h
    exact sweepSettled_reclaimed hkeys (admission_refused hadmission hrefused)

/-- An operation under an id, first stored at an instant. -/
def storedRow (id : String) (position : Nat) (settlement : Option TerminalAnswer) : Row where
  envelope := ⟨id, "organisation", "site", "actor", "device", position, "lease", "digest", ""⟩
  payloadCanonicalJson := "{}"
  receiptJson := none
  position := position
  queueState := settlement.elim .readyToForward TerminalAnswer.settledState
  settlement := settlement
  attemptCount := 1
  failureCategory := if settlement.isSome then none else some .notAttempted
  firstStoredMonotonicMs := position
  lastAttemptMonotonicMs := none
  nextAttemptMonotonicMs := position

/-- Two answered operations, and one that central has not answered. -/
def heldQueue : Db where
  counter := ⟨1, 3, 2, 0⟩
  rows :=
    [storedRow "second" 1 (some (.centralAccepted "reference")), storedRow "third" 2 none,
      storedRow "first" 0 (some (.centralRefused "code"))]

def fourth (witness : Nat → Option (Option String)) : AdmissionInput :=
  ⟨(storedRow "fourth" 3 none).envelope, "{}", witness⟩

/-- At capacity the older of the two answered operations goes; where the witness throws, nothing
    does, although the sweep and the draw came first. -/
theorem admissionTransaction_atomic_heldQueue :
    (∃ db', admissionTransaction (fun _ => true) ⟨1, 1⟩ 9 (fourth fun _ => some none) heldQueue =
        .ok (.atCapacity 1 1) db' ∧ Reclaimed 1 heldQueue db') ∧
      ∃ db', admissionTransaction (fun _ => true) ⟨2, 1⟩ 9 (fourth fun _ => none) heldQueue =
        .error .witnessThrew db' ∧ db' = heldQueue := by
  have hkeys : (heldQueue.rows.map Row.id).Nodup := by decide
  have hrefused : admission (fun _ => true) ⟨1, 1⟩ 9 (fourth fun _ => some none) heldQueue =
      .ok (.atCapacity 1 1, { heldQueue with rows := heldQueue.rows.take 2 }) := by
    decide
  have hthrew : admission (fun _ => true) ⟨2, 1⟩ 9 (fourth fun _ => none) heldQueue =
      .error .witnessThrew := by
    decide
  have hrefusal : admissionTransaction (fun _ => true) ⟨1, 1⟩ 9 (fourth fun _ => some none)
      heldQueue = .ok (.atCapacity 1 1) { heldQueue with rows := heldQueue.rows.take 2 } := by
    rw [admissionTransaction_eq, hrefused]
  have hthrow : admissionTransaction (fun _ => true) ⟨2, 1⟩ 9 (fourth fun _ => none) heldQueue =
      .error .witnessThrew heldQueue := by
    rw [admissionTransaction_eq, hthrew]
  exact ⟨⟨_, hrefusal, (admissionTransaction_atomic hkeys).2 _ hrefusal fun _ h => nomatch h⟩,
    ⟨_, hthrow, (admissionTransaction_atomic hkeys).1 _ hthrow⟩⟩

end Sentinel.EdgeQueue
