import Sentinel.ForStd.Except
import Sentinel.ForStd.List
import Sentinel.ForStd.Transition
import Sentinel.Native.EdgeQueueStore

/-! # The Edge queue over whole runs

`Effect` says once what a transaction of the store can do to the database: rewrite rows
along the transition table, drop settled rows, or land one row together with the
counter.  The invariants follow from it. -/

namespace Sentinel.EdgeQueue

open Transition

variable {parses : StoredOperation → Bool}

/-! ## Statements -/

variable {db db' applied : Db} {row old new : Row} {selected : Row → Bool} {bounds : Bounds}
  {admitted : List Nat} {id : String} {now markedAt : Int} {target : EdgeQueueState}
  {changed : Bool} {call : Call} {answer : Answer} {s s' : State}

theorem updateCounter_ok {counter : Counter} (h : updateCounter db counter = .ok db') :
    db' = { db with counter := counter } ∧
      db.counter.nextPosition ≤ counter.nextPosition := by
  unfold updateCounter at h
  rw [Except.ite_error_eq_ok, Except.ite_error_eq_ok, not_or] at h
  obtain ⟨⟨hnext, -⟩, -, h⟩ := h
  exact ⟨(Except.ok.inj h).symm, Nat.not_lt.mp hnext⟩

theorem insertRow_ok (h : insertRow db row = .ok db') : db' = { db with rows := db.rows ++ [row] } ∧
      row.position < db.counter.nextPosition ∧ row.checks = true ∧
      ∀ held ∈ db.rows, held.envelope.offlineOperationId ≠ row.envelope.offlineOperationId := by
  unfold insertRow at h
  rw [Except.ite_error_eq_ok, Except.ite_error_eq_ok, Except.ite_error_eq_ok] at h
  obtain ⟨hposition, hchecks, hunique, h⟩ := h
  refine ⟨(Except.ok.inj h).symm, Nat.not_le.mp hposition, by simpa using hchecks, ?_⟩
  intro held hheld heq
  exact hunique (List.any_eq_true.mpr ⟨held, hheld, by simp [heq]⟩)

theorem deleteRows_ok (h : deleteRows db selected = .ok db') :
    db' = { db with rows := db.rows.filter fun row => !selected row } ∧
      ∀ row ∈ db.rows, selected row = true → row.settled = true := by
  unfold deleteRows at h
  rw [Except.ite_error_eq_ok] at h
  obtain ⟨hsettled, h⟩ := h
  refine ⟨(Except.ok.inj h).symm, fun row hrow hselected => ?_⟩
  by_contra hunsettled
  exact hsettled (List.any_eq_true.mpr ⟨row, hrow, by simp [hselected, hunsettled]⟩)

/-- The columns no update may touch. -/
def SameIdentity (old new : Row) : Prop :=
  new.envelope = old.envelope ∧ new.payloadCanonicalJson = old.payloadCanonicalJson ∧
    new.position = old.position ∧ new.firstStoredMonotonicMs = old.firstStoredMonotonicMs

theorem updateAllowed_ok (h : updateAllowed old new = .ok ()) :
    old.settled = false ∧ SameIdentity old new ∧ new.checks = true := by
  unfold updateAllowed at h
  rw [Except.ite_error_eq_ok, Except.ite_error_eq_ok, Except.ite_error_eq_ok,
    Except.ite_error_eq_ok] at h
  obtain ⟨hsettled, hidentity, -, hchecks, -⟩ := h
  simp only [not_or, Decidable.not_not] at hidentity
  exact ⟨by simpa using hsettled, hidentity, by simpa using hchecks⟩

theorem updateRows_ok {change : Row → Row} (h : updateRows db selected change = .ok db') :
    db' = { db with rows := Table.rewrite selected change db.rows } ∧
      ∀ row ∈ db.rows, selected row = true → updateAllowed row (change row) = .ok () := by
  unfold updateRows at h
  split at h
  · cases h
  next hnone =>
    refine ⟨(Except.ok.inj h).symm, fun row hrow hselected => ?_⟩
    have hrow' := List.findSome?_eq_none_iff.mp hnone row
      (List.mem_filter.mpr ⟨hrow, hselected⟩)
    cases hallowed : updateAllowed row (change row) with
    | error failure => simp [hallowed] at hrow'
    | ok => rfl

/-- Conversely, an update the schema allows on every row it selects goes through. -/
theorem updateRows_of_allowed {change : Row → Row}
    (h : ∀ row ∈ db.rows, selected row = true → updateAllowed row (change row) = .ok ()) :
    updateRows db selected change = .ok { db with rows := Table.rewrite selected change db.rows } := by
  unfold updateRows
  split
  next failure hfailure =>
    obtain ⟨row, hrow, hrefused⟩ := List.exists_of_findSome?_eq_some hfailure
    obtain ⟨hmem, hselected⟩ := List.mem_filter.mp hrow
    simp [h row hmem hselected] at hrefused
  next => rfl

/-! ## What a transaction can do -/

/-- A row rewritten in place: it was not settled, it keeps its identity and passes the
    schema's checks, and its state follows the transition table. -/
structure RowMoves (old new : Row) : Prop where
  unsettled : old.settled = false
  identity : SameIdentity old new
  checks : new.checks = true
  transition : new.queueState = old.queueState ∨
    canTransitionEdgeQueueState old.queueState new.queueState = true

/-- What admission and retention can do to the database, with the positions admitted. -/
inductive Sweep (bounds : Bounds) (db : Db) : List Nat → Db → Prop
  /-- Settled rows dropped. -/
  | dropped (keep : Row → Bool)
      (hkeep : ∀ row ∈ db.rows, keep row = false → row.settled = true) :
      Sweep bounds db [] { db with rows := db.rows.filter keep }
  | landed (keep : Row → Bool) (counter : Counter) (row : Row)
      (hkeep : ∀ row ∈ db.rows, keep row = false → row.settled = true)
      (hcounter : counter.nextPosition = db.counter.nextPosition + 1)
      (hposition : row.position = db.counter.nextPosition) (hchecks : row.checks = true)
      (hstate : row.queueState = .storedLocal)
      (hfresh : ∀ held ∈ db.rows.filter keep,
        held.envelope.offlineOperationId ≠ row.envelope.offlineOperationId)
      (hroom : unsettledCount { db with rows := db.rows.filter keep } < bounds.maxUnsettled) :
      Sweep bounds db [db.counter.nextPosition] ⟨counter, db.rows.filter keep ++ [row]⟩

/-- What a transaction can do to the database, with the positions it admits and the
    positions it claims. -/
inductive Effect (bounds : Bounds) (db : Db) : List Nat → List Nat → Db → Prop
  /-- Rows rewritten in place; one that becomes FORWARDING is claimed. -/
  | rewritten (counter : Counter) (selected : Row → Bool) (change : Row → Row)
      (claims : List Nat) (hcounter : counter.nextPosition = db.counter.nextPosition)
      (hmoves : ∀ row ∈ db.rows, selected row = true → RowMoves row (change row))
      (hclaims : ∀ row ∈ db.rows, selected row = true →
        (change row).queueState = .forwarding → row.position ∈ claims) :
      Effect bounds db [] claims ⟨counter, Table.rewrite selected change db.rows⟩
  /-- Rows swept out, and perhaps one landed. -/
  | swept (admitted : List Nat) (db' : Db) (hsweep : Sweep bounds db admitted db') :
      Effect bounds db admitted [] db'

theorem Sweep.refl (bounds : Bounds) (db : Db) : Sweep bounds db [] db := by
  have hall : db.rows.filter (fun _ => true) = db.rows := List.filter_true _
  have hsweep : Sweep bounds db [] { db with rows := db.rows.filter fun _ => true } :=
    .dropped (fun _ => true) fun _ _ hkeep => nomatch hkeep
  rwa [hall] at hsweep

theorem Effect.refl (bounds : Bounds) (db : Db) : Effect bounds db [] [] db :=
  .swept [] db (.refl bounds db)

/-- A sweep keeps every row central has not answered. -/
theorem Sweep.unsettled_kept (h : Sweep bounds db admitted db') (hrow : row ∈ db.rows)
    (hunsettled : row.settled = false) : row ∈ db'.rows := by
  have hkept : ∀ keep : Row → Bool,
      (∀ row ∈ db.rows, keep row = false → row.settled = true) → row ∈ db.rows.filter keep := by
    intro keep hkeep
    refine List.mem_filter.mpr ⟨hrow, ?_⟩
    by_contra hdropped
    rw [hkeep row hrow (by simpa using hdropped)] at hunsettled
    cases hunsettled
  cases h with
  | dropped keep hkeep => exact hkept keep hkeep
  | landed keep counter landed hkeep hcounter hposition hchecks hstate hfresh hroom =>
    exact List.mem_append_left _ (hkept keep hkeep)

/-! ### Retention and admission -/

theorem reclaimSettled_ok {limit : Nat} (h : reclaimSettled db limit = .ok db') :
    ∃ keep : Row → Bool, db' = { db with rows := db.rows.filter keep } ∧
      ∀ row ∈ db.rows, keep row = false → row.settled = true := by
  obtain ⟨hdb', hsettled⟩ := deleteRows_ok h
  refine ⟨_, hdb', fun row hrow hkeep => hsettled row hrow ?_⟩
  simpa using hkeep

theorem pruneSettled_sweep (bounds : Bounds) {limit : Int} {count : Nat}
    (h : pruneSettled limit db = .ok (count, db')) : Sweep bounds db [] db' := by
  unfold pruneSettled at h
  split at h
  · cases h
    exact .refl bounds db
  · obtain ⟨pruned, hpruned, h⟩ := Except.bind_eq_ok.mp h
    cases h
    obtain ⟨keep, rfl, hkeep⟩ := reclaimSettled_ok hpruned
    exact .dropped keep hkeep

/-- The row an admission answers with is the one it inserted. -/
theorem find_ok {found : Option Row} (h : find parses db id = .ok found) : found = db.rowOf id := by
  unfold find at h
  split at h
  next hnone => rw [hnone, ← Except.ok.inj h]
  next row hsome =>
    obtain ⟨entry, hentry, rfl⟩ := Except.map_eq_ok.mp h
    unfold toEntry at hentry
    split at hentry
    · rw [hsome, Except.ok.inj hentry]
    · cases hentry

theorem readBack_ok {entry : Row}
    (h : readBack parses db id = .ok entry) : db.rowOf id = some entry := by
  obtain ⟨found, hfound, h⟩ := Except.bind_eq_ok.mp h
  rw [← find_ok hfound]
  cases found with
  | none => cases h
  | some row => rw [Except.ok.inj h]

/-- Nothing but the inserted row is under its id. -/
theorem rowOf_concat (hfresh : ∀ held ∈ db.rows,
      held.envelope.offlineOperationId ≠ row.envelope.offlineOperationId) (counter : Counter) :
    (Db.mk counter (db.rows ++ [row])).rowOf row.envelope.offlineOperationId = some row := by
  have hnone : (db.rows.find? fun held =>
      decide (held.envelope.offlineOperationId = row.envelope.offlineOperationId)) = none := by
    rw [List.find?_eq_none]
    intro held hheld
    simpa using hfresh held hheld
  rw [Db.rowOf, List.find?_append, hnone]
  simp

/-- The counter and the row land together. -/
theorem storeOperation_ok {input : AdmissionInput} {outcome : Admission}
    (h : storeOperation parses now input db = .ok (outcome, db')) :
    ∃ counter row, outcome = .admitted row ∧ db' = ⟨counter, db.rows ++ [row]⟩ ∧
      counter.nextPosition = db.counter.nextPosition + 1 ∧
      row.position = db.counter.nextPosition ∧ row.checks = true ∧
      row.queueState = .storedLocal ∧
      ∀ held ∈ db.rows, held.envelope.offlineOperationId ≠ row.envelope.offlineOperationId := by
  unfold storeOperation at h
  obtain ⟨advanced, hadvanced, h⟩ := Except.bind_eq_ok.mp h
  obtain ⟨rfl, -⟩ := updateCounter_ok hadvanced
  obtain ⟨receipt, -, h⟩ := Except.bind_eq_ok.mp h
  obtain ⟨-, -, h⟩ := Except.bind_eq_ok.mp h
  obtain ⟨stored, hstored, h⟩ := Except.bind_eq_ok.mp h
  obtain ⟨rfl, -, hchecks, hfresh⟩ := insertRow_ok hstored
  obtain ⟨entry, hentry, h⟩ := Except.bind_eq_ok.mp h
  cases h
  have hread := readBack_ok hentry
  rw [show input.envelope.offlineOperationId =
    (admittedRow input db.counter.nextPosition receipt now).envelope.offlineOperationId from rfl,
    rowOf_concat hfresh] at hread
  cases hread
  exact ⟨_, _, rfl, rfl, rfl, rfl, hchecks, rfl, hfresh⟩

theorem sweepSettled_ok (h : sweepSettled bounds db = .ok db') :
    ∃ keep : Row → Bool, db' = { db with rows := db.rows.filter keep } ∧
      ∀ row ∈ db.rows, keep row = false → row.settled = true := by
  unfold sweepSettled at h
  simp only at h
  split at h
  · exact reclaimSettled_ok h
  · refine ⟨fun _ => true, ?_, fun _ _ hkeep => nomatch hkeep⟩
    rw [List.filter_true]
    exact (Except.ok.inj h).symm

theorem admission_sweep {input : AdmissionInput}
    {outcome : Admission} (h : admission parses bounds now input db = .ok (outcome, db')) :
    Sweep bounds db (admittedBy (.admission outcome)) db' := by
  unfold admission at h
  obtain ⟨swept, hswept, h⟩ := Except.bind_eq_ok.mp h
  obtain ⟨keep, rfl, hkeep⟩ := sweepSettled_ok hswept
  obtain ⟨found, -, h⟩ := Except.bind_eq_ok.mp h
  cases found with
  | some entry =>
    cases h
    exact .dropped keep hkeep
  | none =>
    simp only at h
    split at h
    · cases h
      exact .dropped keep hkeep
    · split at h
      · cases h
        exact .dropped keep hkeep
      next hroom =>
        split at h
        · cases h
          exact .dropped keep hkeep
        · obtain ⟨counter, row, rfl, rfl, hcounter, hposition, hchecks, hstate, hfresh⟩ :=
            storeOperation_ok h
          have hsweep : Sweep bounds db [db.counter.nextPosition]
              ⟨counter, db.rows.filter keep ++ [row]⟩ :=
            .landed keep counter row hkeep hcounter hposition hchecks hstate hfresh
              (Nat.not_le.mp hroom)
          rwa [← show row.position = db.counter.nextPosition from hposition] at hsweep

/-! ### State changes -/

/-- With distinct ids, the row `rowOf` finds is the only one under its id. -/
theorem eq_of_rowOf (hids : (db.rows.map fun row => row.envelope.offlineOperationId).Nodup)
    {current : Row} (hcurrent : db.rowOf id = some current) (hrow : row ∈ db.rows)
    (hid : hasId id row = true) : row = current := by
  have hmem := List.mem_of_find?_eq_some hcurrent
  have hcurrentId : current.envelope.offlineOperationId = id := by
    simpa using List.find?_some hcurrent
  have hrowId : row.envelope.offlineOperationId = id := by simpa [hasId] using hid
  exact Table.eq_of_key hids hrow hmem (hrowId.trans hcurrentId.symm)

/-- A transition that returns: nothing happened, or the row under the id went to the
    target along the table. -/
theorem transitionTo_ok {apply : Row → Db → Except EdgeQueueError Db}
    (h : transitionTo markedAt id target apply db = .ok (changed, db')) :
    (changed = false ∧ db' = db) ∨
    (changed = true ∧ ∃ current applied counter, db.rowOf id = some current ∧
      (current.queueState = target ∨
        canTransitionEdgeQueueState current.queueState target = true) ∧
      apply current db = .ok applied ∧
      counter.nextPosition = applied.counter.nextPosition ∧
      db' = { applied with counter := counter }) := by
  unfold transitionTo at h
  split at h
  · cases h
    exact Or.inl ⟨rfl, rfl⟩
  next current hcurrent =>
    split at h
    · cases h
      exact Or.inl ⟨rfl, rfl⟩
    · rw [Except.ite_error_eq_ok] at h
      obtain ⟨htable, h⟩ := h
      obtain ⟨applied, happlied, h⟩ := Except.bind_eq_ok.mp h
      obtain ⟨marked, hmarked, h⟩ := Except.bind_eq_ok.mp h
      cases h
      obtain ⟨rfl, -⟩ := updateCounter_ok hmarked
      refine Or.inr ⟨rfl, current, applied, { applied.counter with
        lastObservedMonotonicMs := max applied.counter.lastObservedMonotonicMs markedAt },
        hcurrent, ?_, happlied, rfl, rfl⟩
      by_cases hsame : current.queueState = target
      · exact Or.inl hsame
      · simp only [hsame, ne_eq, not_false_eq_true, true_and, Bool.not_eq_true',
          Bool.not_eq_false] at htable
        exact Or.inr htable

/-- What the statements of a state change do: the rows under the id are rewritten into
    the target state, and the counter keeps its position. -/
def Rewrites (db : Db) (id : String) (target : EdgeQueueState) (applied : Db) : Prop :=
  ∃ (counter : Counter) (change : Row → Row),
    counter.nextPosition = db.counter.nextPosition ∧
    (∀ row, (change row).queueState = target) ∧
    applied = ⟨counter, Table.rewrite (hasId id) change db.rows⟩ ∧
    ∀ row ∈ db.rows, hasId id row = true → updateAllowed row (change row) = .ok ()

theorem updateRows_rewrites {change : Row → Row} (h : updateRows db (hasId id) change = .ok applied)
    (htarget : ∀ row, (change row).queueState = target) : Rewrites db id target applied := by
  obtain ⟨rfl, hallowed⟩ := updateRows_ok h
  exact ⟨db.counter, change, rfl, htarget, rfl, hallowed⟩

/-- Another column of the counter changes as well. -/
theorem Rewrites.counter {applied' : Db} {counter : Counter} (h : Rewrites db id target applied)
    (hupdate : updateCounter applied counter = .ok applied')
    (hnext : counter.nextPosition = applied.counter.nextPosition) :
    Rewrites db id target applied' := by
  obtain ⟨before, change, hbefore, htarget, rfl, hallowed⟩ := h
  obtain ⟨rfl, -⟩ := updateCounter_ok hupdate
  exact ⟨counter, change, hnext.trans hbefore, htarget, rfl, hallowed⟩

theorem Rewrites.reset {applied' : Db}
    (h : Rewrites db id target applied) (hreset : resetConsecutiveUnknown applied = .ok applied') :
    Rewrites db id target applied' := by
  unfold resetConsecutiveUnknown at hreset
  exact h.counter hreset rfl

/-- The calls that change the state of one entry: its id, and the state they ask for. -/
def Call.change : Call → Option (String × EdgeQueueState)
  | .markReadyToForward id => some (id, .readyToForward)
  | .claimForForwarding id => some (id, .forwarding)
  | .recordCentralProgress id progress => some (id, progress.state)
  | .recordTransportUnknown id reason => some (id, edgeQueueStateForFailureCategory reason)
  | .settle id (some (.terminal answer)) => some (id, answer.settledState)
  | _ => none

/-- A state change that returned: nothing happened, or the row under the id went to the
    target along the table and is the only one rewritten. -/
inductive Changes (db : Db) (id : String) (target : EdgeQueueState) : Bool → Db → Prop
  | refused : Changes db id target false db
  | changed (current : Row) (counter : Counter) (change : Row → Row)
      (hcurrent : db.rowOf id = some current)
      (htable : current.queueState = target ∨
        canTransitionEdgeQueueState current.queueState target = true)
      (hcounter : counter.nextPosition = db.counter.nextPosition)
      (htarget : ∀ row, (change row).queueState = target)
      (hallowed : ∀ row ∈ db.rows, hasId id row = true → updateAllowed row (change row) = .ok ()) :
      Changes db id target true ⟨counter, Table.rewrite (hasId id) change db.rows⟩

theorem transitionTo_changes {apply : Row → Db → Except EdgeQueueError Db}
    (happly : ∀ current applied, apply current db = .ok applied → Rewrites db id target applied)
    (h : transitionTo markedAt id target apply db = .ok (changed, db')) :
    Changes db id target changed db' := by
  rcases transitionTo_ok h with
    ⟨rfl, rfl⟩ | ⟨rfl, current, applied, counter, hcurrent, htable, happlied, hcounter, rfl⟩
  · exact .refused
  · obtain ⟨before, change, hbefore, htarget, rfl, hallowed⟩ := happly current applied happlied
    exact .changed current counter change hcurrent htable (hcounter.trans hbefore) htarget hallowed

/-- Every state change that returns is one of these, whichever statements it runs. -/
theorem perform_changes (hchange : call.change = some (id, target))
    (h : perform parses bounds now markedAt db call = .ok (answer, db')) :
    ∃ changed, answer = .changed changed ∧ Changes db id target changed db' := by
  cases call with
  | admission input => cases hchange
  | pruneSettled limit => cases hchange
  | markReadyToForward id' =>
    cases hchange
    obtain ⟨⟨changed, after⟩, hcall, h⟩ := Except.map_eq_ok.mp h
    cases h
    refine ⟨changed, rfl, transitionTo_changes (fun _ _ happly => ?_) hcall⟩
    exact updateRows_rewrites happly fun _ => rfl
  | claimForForwarding id' =>
    cases hchange
    obtain ⟨⟨changed, after⟩, hcall, h⟩ := Except.map_eq_ok.mp h
    cases h
    refine ⟨changed, rfl, transitionTo_changes ?_ hcall⟩
    intro _ _ happly
    exact updateRows_rewrites happly fun _ => rfl
  | recordCentralProgress id' progress =>
    cases hchange
    obtain ⟨⟨changed, after⟩, hcall, h⟩ := Except.map_eq_ok.mp h
    cases h
    refine ⟨changed, rfl, transitionTo_changes (fun current applied happly => ?_) hcall⟩
    obtain ⟨updated, hupdated, hreset⟩ := Except.bind_eq_ok.mp happly
    exact (updateRows_rewrites hupdated fun _ => rfl).reset hreset
  | recordTransportUnknown id' reason =>
    cases hchange
    obtain ⟨⟨changed, after⟩, hcall, h⟩ := Except.map_eq_ok.mp h
    cases h
    unfold recordTransportUnknown at hcall
    refine ⟨changed, rfl, transitionTo_changes (fun current applied happly => ?_) hcall⟩
    obtain ⟨updated, hupdated, happly⟩ := Except.bind_eq_ok.mp happly
    have hrewrites := updateRows_rewrites hupdated fun _ => rfl
    simp only at happly
    split at happly
    · rwa [Except.ok.inj happly] at hrewrites
    · exact hrewrites.counter happly rfl
  | settle id' result =>
    cases result with
    | none => cases hchange
    | some result =>
      cases result with
      | unknown reason => cases hchange
      | terminal answer =>
        cases hchange
        obtain ⟨⟨changed, after⟩, hcall, h⟩ := Except.map_eq_ok.mp h
        cases h
        unfold settle at hcall
        refine ⟨changed, rfl, transitionTo_changes (fun current applied happly => ?_) hcall⟩
        obtain ⟨updated, hupdated, hreset⟩ := Except.bind_eq_ok.mp happly
        exact (updateRows_rewrites hupdated fun _ => rfl).reset hreset

/-- A state change claims the row it takes into FORWARDING. -/
theorem Changes.effect (bounds : Bounds) {claims : List Nat}
    (hids : (db.rows.map fun row => row.envelope.offlineOperationId).Nodup)
    (h : Changes db id target changed db') (hrefused : changed = false → claims = [])
    (hclaims : changed = true → target = .forwarding →
      ∀ current, db.rowOf id = some current → current.position ∈ claims) :
    Effect bounds db [] claims db' := by
  cases h with
  | refused =>
    rw [hrefused rfl]
    exact .refl bounds db
  | changed current counter change hcurrent htable hcounter htarget hallowed =>
    refine .rewritten counter (hasId id) change claims hcounter ?_ ?_
    · intro row hrow hid
      obtain rfl := eq_of_rowOf hids hcurrent hrow hid
      obtain ⟨hunsettled, hidentity, hchecks⟩ := updateAllowed_ok (hallowed row hrow hid)
      refine ⟨hunsettled, hidentity, hchecks, ?_⟩
      rw [htarget]
      exact htable.imp_left Eq.symm
    · intro row hrow hid hforwarding
      obtain rfl := eq_of_rowOf hids hcurrent hrow hid
      exact hclaims rfl ((htarget row).symm.trans hforwarding) row hcurrent

theorem settledState_ne_forwarding (answer : TerminalAnswer) :
    answer.settledState ≠ .forwarding := by
  cases answer <;> exact EdgeQueueState.noConfusion

theorem stateForFailure_ne_forwarding (reason : FailureCategory) :
    edgeQueueStateForFailureCategory reason ≠ .forwarding := by
  cases reason <;> decide

theorem claim_of_change_forwarding
    (hchange : call.change = some (id, .forwarding)) : call = .claimForForwarding id := by
  unfold Call.change at hchange
  split at hchange
  · exact nomatch (Prod.mk.inj (Option.some.inj hchange)).2
  · rw [(Prod.mk.inj (Option.some.inj hchange)).1]
  next progress =>
    have htarget := (Prod.mk.inj (Option.some.inj hchange)).2
    cases progress <;> cases htarget
  next reason =>
    exact absurd (Prod.mk.inj (Option.some.inj hchange)).2 (stateForFailure_ne_forwarding reason)
  next answer =>
    exact absurd (Prod.mk.inj (Option.some.inj hchange)).2 (settledState_ne_forwarding answer)
  · cases hchange

/-- The other calls that return have swept. -/
theorem perform_sweep (hchange : call.change = none)
    (h : perform parses bounds now markedAt db call = .ok (answer, db')) :
    Sweep bounds db (admittedBy answer) db' ∧ claimedBy db call answer = [] := by
  cases call with
  | admission input =>
    obtain ⟨⟨outcome, after⟩, hcall, h⟩ := Except.map_eq_ok.mp h
    cases h
    exact ⟨admission_sweep hcall, rfl⟩
  | pruneSettled limit =>
    obtain ⟨⟨count, after⟩, hcall, h⟩ := Except.map_eq_ok.mp h
    cases h
    exact ⟨pruneSettled_sweep bounds hcall, rfl⟩
  | settle id result =>
    -- an answer that is not terminal makes `settle` throw
    cases result with
    | none => cases h
    | some result =>
      cases result with
      | unknown reason => cases h
      | terminal answer => cases hchange
  | markReadyToForward id => cases hchange
  | claimForForwarding id => cases hchange
  | recordCentralProgress id progress => cases hchange
  | recordTransportUnknown id reason => cases hchange

/-- Every call that returns has one of the effects above. -/
theorem perform_effect (hids : (db.rows.map fun row => row.envelope.offlineOperationId).Nodup)
    (h : perform parses bounds now markedAt db call = .ok (answer, db')) :
    Effect bounds db (admittedBy answer) (claimedBy db call answer) db' := by
  cases hchange : call.change with
  | none =>
    obtain ⟨hsweep, hclaims⟩ := perform_sweep hchange h
    rw [hclaims]
    exact .swept _ _ hsweep
  | some change =>
    obtain ⟨id, target⟩ := change
    obtain ⟨changed, rfl, hchanges⟩ := perform_changes hchange h
    refine hchanges.effect bounds hids (fun hrefused => ?_) fun hchanged htarget current hcurrent => ?_
    · rw [hrefused]
      cases call <;> rfl
    · subst hchanged htarget
      obtain rfl := claim_of_change_forwarding hchange
      rw [claimedBy, hcurrent]
      exact List.mem_singleton_self _

/-- Opening rewrites what was in flight, and nothing else. -/
theorem openStore_effect (bounds : Bounds) {reading : Int} {process : Process}
    (h : openStore reading db = .ok (process, db')) : Effect bounds db [] [] db' := by
  unfold openStore at h
  rw [Except.ite_error_eq_ok, Except.ite_error_eq_ok] at h
  obtain ⟨-, -, h⟩ := h
  obtain ⟨recovered, hrecovered, h⟩ := Except.bind_eq_ok.mp h
  cases h
  obtain ⟨rfl, hallowed⟩ := updateRows_ok hrecovered
  refine .rewritten db.counter _ _ [] rfl (fun row hrow hselected => ?_)
    fun row _ _ hforwarding => EdgeQueueState.noConfusion hforwarding
  obtain ⟨hunsettled, hidentity, hchecks⟩ := updateAllowed_ok (hallowed row hrow hselected)
  have hstate : row.queueState = .forwarding := by
    simp only [Bool.and_eq_true, decide_eq_true_eq] at hselected
    exact hselected.1
  refine ⟨hunsettled, hidentity, hchecks, Or.inr ?_⟩
  rw [hstate]
  rfl

/-! ## The invariant -/

/-- The database in every state of a run. -/
structure Db.Wf (bounds : Bounds) (db : Db) : Prop where
  below : ∀ row ∈ db.rows, row.position < db.counter.nextPosition
  checks : ∀ row ∈ db.rows, row.checks = true
  nodup_positions : (db.rows.map Row.position).Nodup
  nodup_ids : (db.rows.map fun row => row.envelope.offlineOperationId).Nodup
  unsettled_le : unsettledCount db ≤ bounds.maxUnsettled

theorem SameIdentity.position (h : SameIdentity old new) : new.position = old.position := h.2.2.1

/-- A rewrite along `RowMoves` keeps every column the identity fixes. -/
theorem map_rewrite_of_moves {rows : List Row} {change : Row → Row} {β : Type} {column : Row → β}
    (hcolumn : ∀ row ∈ rows, selected row = true → column (change row) = column row) :
    (Table.rewrite selected change rows).map column = rows.map column := by
  rw [Table.rewrite, List.map_map]
  refine List.map_congr_left fun row hrow => ?_
  simp only [Function.comp_apply]
  split
  next hselected => exact hcolumn row hrow hselected
  next => rfl

/-- No update makes a settled row unsettled. -/
theorem countP_rewrite_le {rows : List Row} {change : Row → Row}
    (hunsettled : ∀ row ∈ rows, selected row = true → row.settled = false) :
    (Table.rewrite selected change rows).countP (fun row => !row.settled) ≤
      rows.countP fun row => !row.settled := by
  rw [Table.rewrite, List.countP_map]
  refine List.countP_mono_left fun row hrow hcount => ?_
  by_cases hselected : selected row = true
  · simp [hunsettled row hrow hselected]
  · simpa [hselected] using hcount

/-- Every effect keeps the database well formed. -/
theorem Effect.wf {claimed : List Nat}
    (h : db.Wf bounds) (heffect : Effect bounds db admitted claimed db') : db'.Wf bounds := by
  cases heffect with
  | rewritten counter selected change claims hcounter hmoves hclaims =>
    refine ⟨fun row hrow => ?_, fun row hrow => ?_, ?_, ?_, ?_⟩
    · obtain ⟨old, hold, rfl⟩ := Table.mem_rewrite.mp hrow
      show _ < counter.nextPosition
      rw [hcounter]
      split
      next hselected =>
        rw [(hmoves old hold hselected).identity.position]
        exact h.below old hold
      next => exact h.below old hold
    · obtain ⟨old, hold, rfl⟩ := Table.mem_rewrite.mp hrow
      split
      next hselected => exact (hmoves old hold hselected).checks
      next => exact h.checks old hold
    · rw [map_rewrite_of_moves fun row hrow hselected =>
        (hmoves row hrow hselected).identity.position]
      exact h.nodup_positions
    · rw [map_rewrite_of_moves fun row hrow hselected => by
        rw [(hmoves row hrow hselected).identity.1]]
      exact h.nodup_ids
    · refine Nat.le_trans ?_ h.unsettled_le
      exact countP_rewrite_le fun row hrow hselected => (hmoves row hrow hselected).unsettled
  | swept _ _ hsweep =>
    cases hsweep with
    | dropped keep hkeep =>
      refine ⟨fun row hrow => h.below row (List.mem_of_mem_filter hrow),
        fun row hrow => h.checks row (List.mem_of_mem_filter hrow),
        h.nodup_positions.sublist (List.filter_sublist.map _),
        h.nodup_ids.sublist (List.filter_sublist.map _), ?_⟩
      exact Nat.le_trans (List.filter_sublist.countP_le) h.unsettled_le
    | landed keep counter row hkeep hcounter hposition hchecks hstate hfresh hroom =>
      refine ⟨fun held hheld => ?_, fun held hheld => ?_, ?_, ?_, ?_⟩
      · show held.position < counter.nextPosition
        rcases List.of_mem_concat hheld with hheld | rfl
        · have := h.below held (List.mem_of_mem_filter hheld)
          omega
        · omega
      · rcases List.of_mem_concat hheld with hheld | rfl
        · exact h.checks held (List.mem_of_mem_filter hheld)
        · exact hchecks
      · refine Table.nodup_map_concat
          (h.nodup_positions.sublist (List.filter_sublist.map _)) fun held hheld => ?_
        have := h.below held (List.mem_of_mem_filter hheld)
        omega
      · exact Table.nodup_map_concat (h.nodup_ids.sublist (List.filter_sublist.map _)) hfresh
      · rw [unsettledCount, List.countP_append]
        have hone := List.countP_le_length (p := fun held : Row => !held.settled) (l := [row])
        rw [List.length_singleton] at hone
        rw [unsettledCount] at hroom
        simp only at hroom ⊢
        omega

/-- The joint invariant of database and history: the positions admitted are increasing
    and below the counter, every row sits at one of them, and a row beyond READY has
    been claimed. -/
structure State.Inv (bounds : Bounds) (s : State) : Prop where
  wf : s.db.Wf bounds
  increasing : s.admissions.Pairwise (· < ·)
  admissions_lt : ∀ position ∈ s.admissions, position < s.db.counter.nextPosition
  admitted : ∀ row ∈ s.db.rows, row.position ∈ s.admissions
  claimed : ∀ row ∈ s.db.rows, row.queueState ≠ .storedLocal →
    row.queueState ≠ .readyToForward → row.position ∈ s.claims

/-- The table leads out of STORED_LOCAL and READY_TO_FORWARD only through FORWARDING. -/
theorem forwarding_first {source : EdgeQueueState}
    (htable : canTransitionEdgeQueueState source target = true)
    (hstored : target ≠ .storedLocal) (hready : target ≠ .readyToForward) :
    target = .forwarding ∨ source ≠ .storedLocal ∧ source ≠ .readyToForward := by
  revert htable hstored hready
  cases source <;> cases target <;> decide

/-- A row a rewrite leaves beyond READY_TO_FORWARD was beyond it before, or it is claimed
    by the rewrite. -/
theorem RowMoves.claimed {claims : List Nat} (h : RowMoves old new)
    (hclaims : new.queueState = .forwarding → old.position ∈ claims)
    (hstored : new.queueState ≠ .storedLocal) (hready : new.queueState ≠ .readyToForward) :
    old.position ∈ claims ∨
      old.queueState ≠ .storedLocal ∧ old.queueState ≠ .readyToForward := by
  cases h.transition with
  | inl hsame => exact Or.inr ⟨hsame ▸ hstored, hsame ▸ hready⟩
  | inr htable => exact (forwarding_first htable hstored hready).imp_left hclaims

/-- One effect, with the history it adds, keeps the joint invariant. -/
theorem State.Inv.effect (h : s.Inv bounds)
    {claimed : List Nat} (heffect : Effect bounds s.db admitted claimed db')
    (process : Option Process) :
    (State.mk db' process (s.admissions ++ admitted) (s.claims ++ claimed)).Inv bounds := by
  have hwf := heffect.wf h.wf
  cases heffect with
  | rewritten counter selected change claims hcounter hmoves hclaims =>
    rw [List.append_nil]
    refine ⟨hwf, h.increasing, ?_, ?_, ?_⟩
    · intro position hposition
      show position < counter.nextPosition
      rw [hcounter]
      exact h.admissions_lt position hposition
    · intro row hrow
      obtain ⟨old, hold, rfl⟩ := Table.mem_rewrite.mp hrow
      split
      next hselected =>
        rw [(hmoves old hold hselected).identity.position]
        exact h.admitted old hold
      next => exact h.admitted old hold
    · intro row hrow
      obtain ⟨old, hold, rfl⟩ := Table.mem_rewrite.mp hrow
      split
      next hselected =>
        intro hstored hready
        have hmove := hmoves old hold hselected
        rw [hmove.identity.position]
        cases hmove.claimed (hclaims old hold hselected) hstored hready with
        | inl hclaimed => exact List.mem_append_right _ hclaimed
        | inr hbeyond => exact List.mem_append_left _ (h.claimed old hold hbeyond.1 hbeyond.2)
      next =>
        intro hstored hready
        exact List.mem_append_left _ (h.claimed old hold hstored hready)
  | swept _ _ hsweep =>
    cases hsweep with
    | dropped keep hkeep =>
      rw [List.append_nil, List.append_nil]
      exact ⟨hwf, h.increasing, h.admissions_lt,
        fun row hrow => h.admitted row (List.mem_of_mem_filter hrow),
        fun row hrow => h.claimed row (List.mem_of_mem_filter hrow)⟩
    | landed keep counter row hkeep hcounter hposition hchecks hstate hfresh hroom =>
      rw [List.append_nil]
      refine ⟨hwf, ?_, ?_, ?_, ?_⟩
      · rw [List.pairwise_append]
        refine ⟨h.increasing, List.pairwise_singleton _ _, fun position hmem next hnext => ?_⟩
        rw [List.mem_singleton.mp hnext]
        exact h.admissions_lt position hmem
      · intro position hmem
        show position < counter.nextPosition
        rw [hcounter]
        rcases List.of_mem_concat hmem with hmem | rfl
        · have := h.admissions_lt position hmem
          omega
        · omega
      · intro held hheld
        cases List.mem_append.mp hheld with
        | inl hheld =>
          exact List.mem_append_left _ (h.admitted held (List.mem_of_mem_filter hheld))
        | inr hheld =>
          rw [List.mem_singleton.mp hheld, hposition]
          exact List.mem_append_right _ (List.mem_singleton_self _)
      · intro held hheld hstored hready
        rcases List.of_mem_concat hheld with hheld | rfl
        · exact h.claimed held (List.mem_of_mem_filter hheld) hstored hready
        · exact absurd hstate hstored

theorem State.Inv.initial (bounds : Bounds) : State.initial.Inv bounds where
  wf := ⟨fun _ hrow => (nomatch hrow), fun _ hrow => (nomatch hrow), List.nodup_nil,
    List.nodup_nil, Nat.zero_le _⟩
  increasing := .nil
  admissions_lt _ hmem := nomatch hmem
  admitted _ hrow := nomatch hrow
  claimed _ hrow := nomatch hrow

/-! ## Steps -/

/-- A step has one of the effects, and adds what it admits and claims to the history. -/
theorem step_effect {label : Label} (h : s.Inv bounds)
    (hstep : step parses bounds s label = some s') :
    ∃ admitted claimed, Effect bounds s.db admitted claimed s'.db ∧
      s'.admissions = s.admissions ++ admitted ∧ s'.claims = s.claims ++ claimed := by
  have hnothing : ∀ process, ∃ admitted claimed,
      Effect bounds s.db admitted claimed ({ s with process := process } : State).db ∧
      s.admissions = s.admissions ++ admitted ∧ s.claims = s.claims ++ claimed :=
    fun _ => ⟨[], [], .refl bounds s.db, (List.append_nil _).symm, (List.append_nil _).symm⟩
  cases label with
  | call call reading markReading crashes =>
    simp only [step] at hstep
    split at hstep
    · cases hstep
    next process _ =>
      split at hstep
      · rw [← Option.some.inj hstep]
        exact hnothing none
      · split at hstep
        · rw [← Option.some.inj hstep]
          exact hnothing s.process
        next answer db' hperform =>
          rw [← Option.some.inj hstep]
          exact ⟨_, _, perform_effect h.wf.nodup_ids hperform, rfl, rfl⟩
  | close =>
    rw [← Option.some.inj hstep]
    exact hnothing none
  | reopen reading =>
    simp only [step] at hstep
    split at hstep
    · cases hstep
    · split at hstep
      · rw [← Option.some.inj hstep]
        exact hnothing s.process
      next process db' hopen =>
        rw [← Option.some.inj hstep]
        exact ⟨[], [], openStore_effect bounds hopen, (List.append_nil _).symm,
          (List.append_nil _).symm⟩

theorem State.Inv.step {label : Label} (h : s.Inv bounds)
    (hstep : step parses bounds s label = some s') : s'.Inv bounds := by
  obtain ⟨admitted, claimed, heffect, hadmissions, hclaims⟩ := step_effect h hstep
  have hinv := h.effect heffect s'.process
  rwa [← hadmissions, ← hclaims] at hinv

theorem State.Inv.run {labels : List Label} (h : s.Inv bounds)
    (hrun : run (EdgeQueue.step parses bounds) s labels = some s') : s'.Inv bounds :=
  run_invariant State.Inv.step h hrun

/-! ## What time does to a row -/

/-- What holds between a state and any later one: the counter does not fall, a position
    already handed out is held by the same row or by none, and a settled row does not
    change. -/
structure Later (s s' : State) : Prop where
  next_le : s.db.counter.nextPosition ≤ s'.db.counter.nextPosition
  origin : ∀ row' ∈ s'.db.rows, row'.position < s.db.counter.nextPosition →
    ∃ row ∈ s.db.rows, row.position = row'.position ∧ row.envelope = row'.envelope ∧
      (row.settled = true → row' = row)

theorem Later.refl (s : State) : Later s s where
  next_le := Nat.le_refl _
  origin row hrow _ := ⟨row, hrow, rfl, rfl, fun _ => rfl⟩

theorem Later.trans {t u : State} (hst : Later s t) (htu : Later t u) : Later s u where
  next_le := Nat.le_trans hst.next_le htu.next_le
  origin last hlast hposition := by
    obtain ⟨mid, hmid, hmidPosition, hmidEnvelope, hmidSettled⟩ :=
      htu.origin last hlast (Nat.lt_of_lt_of_le hposition hst.next_le)
    obtain ⟨first, hfirst, hfirstPosition, hfirstEnvelope, hfirstSettled⟩ :=
      hst.origin mid hmid (by rw [hmidPosition]; exact hposition)
    refine ⟨first, hfirst, hfirstPosition.trans hmidPosition,
      hfirstEnvelope.trans hmidEnvelope, fun hsettled => ?_⟩
    obtain rfl := hfirstSettled hsettled
    exact hmidSettled hsettled

theorem Effect.later {claimed : List Nat}
    (heffect : Effect bounds s.db admitted claimed s'.db) : Later s s' := by
  cases s' with
  | mk db' process admissions claims =>
  cases heffect with
  | rewritten counter selected change claims hcounter hmoves hclaims =>
    refine ⟨Nat.le_of_eq hcounter.symm, fun row hrow _ => ?_⟩
    obtain ⟨old, hold, rfl⟩ := Table.mem_rewrite.mp hrow
    refine ⟨old, hold, ?_⟩
    split
    next hselected =>
      have hmove := hmoves old hold hselected
      -- a settled row is not one that moves
      refine ⟨hmove.identity.position.symm, hmove.identity.1.symm, fun hsettled => ?_⟩
      rw [hmove.unsettled] at hsettled
      cases hsettled
    next => exact ⟨rfl, rfl, fun _ => rfl⟩
  | swept _ _ hsweep =>
    cases hsweep with
    | dropped keep hkeep =>
      exact ⟨Nat.le_refl _, fun row hrow _ =>
        ⟨row, List.mem_of_mem_filter hrow, rfl, rfl, fun _ => rfl⟩⟩
    | landed keep counter row hkeep hcounter hposition hchecks hstate hfresh hroom =>
      refine ⟨by simp only [hcounter]; omega, fun held hheld hlt => ?_⟩
      cases List.mem_append.mp hheld with
      | inl hheld => exact ⟨held, List.mem_of_mem_filter hheld, rfl, rfl, fun _ => rfl⟩
      | inr hheld =>
        -- the row that landed is not below the old counter
        rw [List.mem_singleton.mp hheld] at hlt
        omega

theorem later_run {labels : List Label} (h : s.Inv bounds)
    (hrun : run (step parses bounds) s labels = some s') : Later s s' := by
  refine run_mono Later.refl Later.trans State.Inv.step ?_ h hrun
  intro t label t' ht hstep
  obtain ⟨admitted, claimed, heffect, -⟩ := step_effect ht hstep
  exact heffect.later

theorem Effect.unsettled_stays {claimed : List Nat}
    (heffect : Effect bounds db admitted claimed db') (hrow : row ∈ db.rows)
    (hunsettled : row.settled = false) :
    ∃ row' ∈ db'.rows, row'.position = row.position ∧ row'.envelope = row.envelope := by
  cases heffect with
  | rewritten counter selected change claims hcounter hmoves hclaims =>
    refine ⟨_, Table.mem_rewrite.mpr ⟨row, hrow, rfl⟩, ?_⟩
    split
    next hselected =>
      have hidentity := (hmoves row hrow hselected).identity
      exact ⟨hidentity.position, hidentity.1⟩
    next => exact ⟨rfl, rfl⟩
  | swept _ _ hsweep => exact ⟨row, hsweep.unsettled_kept hrow hunsettled, rfl, rfl⟩

/-- The counter and the row land together, or neither does. -/
def LandsTogether (s s' : State) : Prop :=
  (s'.db.counter.nextPosition = s.db.counter.nextPosition ∧ s'.admissions = s.admissions ∧
    ∀ row' ∈ s'.db.rows, ∃ row ∈ s.db.rows, row.position = row'.position) ∨
  (s'.db.counter.nextPosition = s.db.counter.nextPosition + 1 ∧
    s'.admissions = s.admissions ++ [s.db.counter.nextPosition] ∧
    ∃ row' ∈ s'.db.rows, row'.position = s.db.counter.nextPosition)

theorem Effect.landsTogether {claimed : List Nat}
    (heffect : Effect bounds s.db admitted claimed s'.db)
    (hadmissions : s'.admissions = s.admissions ++ admitted) : LandsTogether s s' := by
  cases s' with
  | mk db' process admissions claims =>
  cases heffect with
  | rewritten counter selected change claims hcounter hmoves hclaims =>
    rw [List.append_nil] at hadmissions
    refine Or.inl ⟨hcounter, hadmissions, fun row hrow => ?_⟩
    obtain ⟨old, hold, rfl⟩ := Table.mem_rewrite.mp hrow
    refine ⟨old, hold, ?_⟩
    split
    next hselected => exact (hmoves old hold hselected).identity.position.symm
    next => rfl
  | swept _ _ hsweep =>
    cases hsweep with
    | dropped keep hkeep =>
      rw [List.append_nil] at hadmissions
      exact Or.inl ⟨rfl, hadmissions, fun row hrow => ⟨row, List.mem_of_mem_filter hrow, rfl⟩⟩
    | landed keep counter row hkeep hcounter hposition hchecks hstate hfresh hroom =>
      exact Or.inr ⟨hcounter, hadmissions, row, List.mem_append_right _ (List.mem_singleton_self _),
        hposition⟩

/-! ## What a settled row says -/

/-- The checks tie the settlement to the state, both ways. -/
theorem checks_settlement (hchecks : row.checks = true) :
    isEdgeQueueSettledState row.queueState = row.settlement.isSome ∧
      settlementProves row.queueState row.settlement = true := by
  simp only [Row.checks, Bool.and_eq_true, decide_eq_true_eq] at hchecks
  obtain ⟨⟨⟨⟨-, hmatches⟩, hproves⟩, -⟩, -⟩ := hchecks
  exact ⟨hmatches, hproves⟩

theorem terminal_iff_settled (hchecks : row.checks = true) :
    toEdgeOperationState row.queueState = .terminal ↔ row.settlement.isSome = true := by
  rw [← (checks_settlement hchecks).1, toEdgeOperationState]
  split
  next hsettled => simp [hsettled]
  next hunsettled => simp [hunsettled]

theorem accepted_of_centralApplied (hchecks : row.checks = true)
    (hstate : row.queueState = .centralApplied) :
    ∃ reference, row.settlement = some (.centralAccepted reference) := by
  have hproves := (checks_settlement hchecks).2
  rw [hstate] at hproves
  unfold settlementProves at hproves
  split at hproves <;> simp_all

theorem refused_of_failedTerminal (hchecks : row.checks = true)
    (hstate : row.queueState = .failedTerminal) :
    ∃ code, row.settlement = some (.centralRefused code) := by
  have hproves := (checks_settlement hchecks).2
  rw [hstate] at hproves
  unfold settlementProves at hproves
  split at hproves <;> simp_all

theorem State.Inv.claimed_of_settled (h : s.Inv bounds)
    (hrow : row ∈ s.db.rows) (hsettled : row.settled = true) : row.position ∈ s.claims := by
  have hstate := (checks_settlement (h.wf.checks row hrow)).1
  rw [Row.settled] at hsettled
  rw [hsettled] at hstate
  refine h.claimed row hrow ?_ ?_
  · intro hstored
    rw [hstored] at hstate
    exact absurd hstate (by decide)
  · intro hready
    rw [hready] at hstate
    exact absurd hstate (by decide)

/-! ## Every run -/

/-- **The Edge queue over every run.**  Positions are never reused and never move back,
    the counter and the row land together, capacity holds, only settled rows leave, and
    a settled row is final, proves its answer, and had been claimed. -/
theorem edgeQueue_run {bounds : Bounds} {labels : List Label} {s : State}
    (hrun : run (step parses bounds) .initial labels = some s) :
    s.admissions.Nodup ∧
    (∀ position ∈ s.admissions, position < s.db.counter.nextPosition) ∧
    (s.db.rows.map Row.position).Nodup ∧
    unsettledCount s.db ≤ bounds.maxUnsettled ∧
    (∀ row ∈ s.db.rows,
      row.position < s.db.counter.nextPosition ∧ row.position ∈ s.admissions ∧
      (toEdgeOperationState row.queueState = .terminal ↔ row.settlement.isSome = true) ∧
      (row.queueState = .centralApplied →
        ∃ reference, row.settlement = some (.centralAccepted reference)) ∧
      (row.queueState = .failedTerminal →
        ∃ code, row.settlement = some (.centralRefused code)) ∧
      (row.settled = true → row.position ∈ s.claims)) ∧
    (∀ rest s', run (step parses bounds) s rest = some s' →
      s.db.counter.nextPosition ≤ s'.db.counter.nextPosition ∧
      ∀ row ∈ s.db.rows, row.settled = true →
        ∀ row' ∈ s'.db.rows, row'.position = row.position → row' = row) ∧
    (∀ label s', step parses bounds s label = some s' →
      LandsTogether s s' ∧
      ∀ row ∈ s.db.rows, row.settled = false →
        ∃ row' ∈ s'.db.rows, row'.position = row.position ∧ row'.envelope = row.envelope) := by
  have hinv := (State.Inv.initial bounds).run hrun
  refine ⟨?_, hinv.admissions_lt, hinv.wf.nodup_positions, hinv.wf.unsettled_le, ?_, ?_, ?_⟩
  · exact hinv.increasing.imp Nat.ne_of_lt
  · intro row hrow
    have hchecks := hinv.wf.checks row hrow
    exact ⟨hinv.wf.below row hrow, hinv.admitted row hrow, terminal_iff_settled hchecks,
      accepted_of_centralApplied hchecks, refused_of_failedTerminal hchecks,
      hinv.claimed_of_settled hrow⟩
  · intro rest s' hrest
    have hlater := later_run hinv hrest
    refine ⟨hlater.next_le, fun row hrow hsettled row' hrow' hposition => ?_⟩
    have hbelow := hinv.wf.below row hrow
    rw [← hposition] at hbelow
    obtain ⟨first, hfirst, hfirstPosition, -, hfinal⟩ := hlater.origin row' hrow' hbelow
    -- positions are distinct, so the row it comes from is the settled one
    obtain rfl := Table.eq_of_key hinv.wf.nodup_positions hfirst hrow
      (hfirstPosition.trans hposition)
    exact hfinal hsettled
  · intro label s' hstep
    obtain ⟨admitted, claimed, heffect, hadmissions, -⟩ := step_effect hinv hstep
    exact ⟨heffect.landsTogether hadmissions,
      fun row hrow hunsettled => heffect.unsettled_stays hrow hunsettled⟩

def admissionOf (id : String) (deviceSequence : Int) : Call :=
  .admission
    { envelope := ⟨id, "organisation", "site", "actor", "device", deviceSequence, "lease",
        "digest", ""⟩
      payloadCanonicalJson := "{}"
      witness := fun _ => some none }

/-- Two operations: the first is forwarded through a crash, settled, and reclaimed by the
    admission of the second. -/
def twoOperations : List Label :=
  [.reopen 0, .call (admissionOf "first" 0) 5 5 false,
   .call (.markReadyToForward "first") 6 6 false, .call (.claimForForwarding "first") 7 7 false,
   .call (.settle "first" (some (.terminal (.centralAccepted "reference")))) 8 8 true, .reopen 0,
   .call (.claimForForwarding "first") 9 9 false,
   .call (.settle "first" (some (.terminal (.centralAccepted "reference")))) 10 10 false, .close,
   .reopen 0, .call (admissionOf "second" 1) 11 11 false]

theorem edgeQueue_run_twoOperations :
    ∃ s, run (step (fun _ => true) ⟨1, 0⟩) .initial twoOperations = some s ∧
      s.admissions = [0, 1] ∧ s.claims = [0, 0] ∧ s.db.rows.map Row.position = [1] ∧
      s.admissions.Nodup := by
  have hsome : (run (step (fun _ => true) ⟨1, 0⟩) .initial twoOperations).isSome = true := by
    decide
  obtain ⟨s, hrun⟩ := Option.isSome_iff_exists.mp hsome
  have hhistory : (run (step (fun _ => true) ⟨1, 0⟩) .initial twoOperations).map
      (fun s => (s.admissions, s.claims, s.db.rows.map Row.position)) =
      some ([0, 1], [0, 0], [1]) := by decide
  rw [hrun, Option.map_some, Option.some.injEq, Prod.mk.injEq, Prod.mk.injEq] at hhistory
  obtain ⟨hadmissions, hclaims, hpositions⟩ := hhistory
  exact ⟨s, hrun, hadmissions, hclaims, hpositions, (edgeQueue_run hrun).1⟩

end Sentinel.EdgeQueue
