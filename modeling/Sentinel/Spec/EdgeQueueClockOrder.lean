import Mathlib.Data.List.Pairwise
import Sentinel.Native.EdgeQueueClock
import Sentinel.Spec.EdgeQueueInvariant

/-! # When the durable clock does not go back

A mark in the counter row is all that a process leaves of its clock, and a reading that writes
nothing leaves none. -/

namespace Sentinel.EdgeQueue

open Transition

variable {parses : StoredOperation → Bool} {bounds : Bounds}

/-! ## What a call leaves of the counter row -/

/-- The counter row after a transaction that has committed this mark, or none. -/
structure Counter.Marked (mark : Option Int) (before after : Counter) : Prop where
  schema : after.schemaVersion = before.schemaVersion
  last : after.lastObservedMonotonicMs =
    mark.elim before.lastObservedMonotonicMs (max before.lastObservedMonotonicMs)

theorem Counter.Marked.refl (counter : Counter) : counter.Marked none counter := ⟨rfl, rfl⟩

theorem updateRows_counter {db db' : Db} {selected : Row → Bool} {change : Row → Row}
    (h : updateRows db selected change = .ok db') : db'.counter = db.counter := by
  obtain ⟨rfl, -⟩ := updateRows_ok h
  rfl

theorem resetConsecutiveUnknown_marked {db applied db' : Db}
    (h : resetConsecutiveUnknown applied = .ok db') (happlied : applied.counter = db.counter) :
    db.counter.Marked none db'.counter := by
  obtain ⟨rfl, -⟩ := updateCounter_ok h
  rw [← happlied]
  exact ⟨rfl, rfl⟩

/-- A change of state that returns marks the clock; one that refuses leaves the counter alone. -/
theorem transitionTo_marked {now markedAt : Int} {id : String} {target : EdgeQueueState}
    {apply : Row → Db → Except EdgeQueueError Db} {db db' : Db} {changed : Bool}
    (happly : ∀ current applied, apply current db = .ok applied →
      db.counter.Marked none applied.counter)
    (h : transitionTo markedAt id target apply db = .ok (changed, db')) :
    db.counter.Marked (committedMark now markedAt (.changed changed)) db'.counter := by
  unfold transitionTo at h
  split at h
  · cases h
    exact .refl _
  split at h
  · cases h
    exact .refl _
  split at h
  · cases h
  · obtain ⟨applied, happlied, h⟩ := Except.bind_eq_ok.mp h
    obtain ⟨marked, hmarked, h⟩ := Except.bind_eq_ok.mp h
    cases h
    obtain ⟨rfl, -⟩ := updateCounter_ok hmarked
    have hkept := happly _ _ happlied
    exact ⟨hkept.schema, congrArg (max · markedAt) hkept.last⟩

theorem storeOperation_marked {now markedAt : Int} {input : AdmissionInput} {db db' : Db}
    {outcome : Admission} (h : storeOperation parses now input db = .ok (outcome, db')) :
    db.counter.Marked (committedMark now markedAt (.admission outcome)) db'.counter := by
  unfold storeOperation at h
  obtain ⟨advanced, hadvanced, h⟩ := Except.bind_eq_ok.mp h
  obtain ⟨rfl, -⟩ := updateCounter_ok hadvanced
  obtain ⟨receipt, -, h⟩ := Except.bind_eq_ok.mp h
  obtain ⟨-, -, h⟩ := Except.bind_eq_ok.mp h
  obtain ⟨stored, hstored, h⟩ := Except.bind_eq_ok.mp h
  obtain ⟨entry, -, h⟩ := Except.bind_eq_ok.mp h
  cases h
  obtain ⟨rfl, -⟩ := insertRow_ok hstored
  exact ⟨rfl, rfl⟩

theorem admission_marked {now markedAt : Int} {input : AdmissionInput} {db db' : Db}
    {outcome : Admission} (h : admission parses bounds now input db = .ok (outcome, db')) :
    db.counter.Marked (committedMark now markedAt (.admission outcome)) db'.counter := by
  rw [admission] at h
  obtain ⟨swept, hswept, h⟩ := Except.bind_eq_ok.mp h
  obtain ⟨keep, rfl, -⟩ := sweepSettled_ok hswept
  obtain ⟨found, -, h⟩ := Except.bind_eq_ok.mp h
  cases found with
  | some entry =>
    cases h
    exact .refl _
  | none =>
    simp only at h
    split at h
    · cases h
      exact .refl _
    split at h
    · cases h
      exact .refl _
    split at h
    · cases h
      exact .refl _
    · -- the sweep has left the counter row alone
      have hstored := @storeOperation_marked _ now markedAt _ _ _ _ h
      exact hstored

/-- Every call that returns leaves the mark it has committed, or the one it found. -/
theorem perform_marked {now markedAt : Int} {db db' : Db} {call : Call} {answer : Answer}
    (h : perform parses bounds now markedAt db call = .ok (answer, db')) :
    db.counter.Marked (committedMark now markedAt answer) db'.counter := by
  cases call with
  | admission input =>
    obtain ⟨⟨outcome, after⟩, hcall, h⟩ := Except.map_eq_ok.mp h
    cases h
    exact admission_marked hcall
  | pruneSettled limit =>
    obtain ⟨⟨count, after⟩, hcall, h⟩ := Except.map_eq_ok.mp h
    cases h
    rw [pruneSettled] at hcall
    split at hcall
    · cases hcall
      exact .refl _
    · obtain ⟨pruned, hpruned, hcall⟩ := Except.bind_eq_ok.mp hcall
      cases hcall
      obtain ⟨rfl, -⟩ := deleteRows_ok hpruned
      exact .refl _
  | markReadyToForward id =>
    obtain ⟨⟨changed, after⟩, hcall, h⟩ := Except.map_eq_ok.mp h
    cases h
    refine transitionTo_marked (fun _ _ happlied => ?_) hcall
    rw [updateRows_counter happlied]
    exact .refl _
  | claimForForwarding id =>
    obtain ⟨⟨changed, after⟩, hcall, h⟩ := Except.map_eq_ok.mp h
    cases h
    refine transitionTo_marked (fun _ _ happlied => ?_) hcall
    rw [updateRows_counter happlied]
    exact .refl _
  | recordCentralProgress id progress =>
    obtain ⟨⟨changed, after⟩, hcall, h⟩ := Except.map_eq_ok.mp h
    cases h
    refine transitionTo_marked (fun _ _ happlied => ?_) hcall
    obtain ⟨updated, hupdated, hreset⟩ := Except.bind_eq_ok.mp happlied
    exact resetConsecutiveUnknown_marked hreset (updateRows_counter hupdated)
  | recordTransportUnknown id reason =>
    obtain ⟨⟨changed, after⟩, hcall, h⟩ := Except.map_eq_ok.mp h
    cases h
    unfold recordTransportUnknown at hcall
    refine transitionTo_marked (fun _ _ happlied => ?_) hcall
    obtain ⟨updated, hupdated, hcounted⟩ := Except.bind_eq_ok.mp happlied
    simp only at hcounted
    rw [← updateRows_counter hupdated]
    split at hcounted
    · rw [← Except.ok.inj hcounted]
      exact .refl _
    · obtain ⟨rfl, -⟩ := updateCounter_ok hcounted
      exact ⟨rfl, rfl⟩
  | settle id result =>
    cases result with
    | none => cases h
    | some result =>
      cases result with
      | unknown reason => cases h
      | terminal terminal =>
        obtain ⟨⟨changed, after⟩, hcall, h⟩ := Except.map_eq_ok.mp h
        cases h
        unfold settle at hcall
        refine transitionTo_marked (fun _ _ happlied => ?_) hcall
        obtain ⟨updated, hupdated, hreset⟩ := Except.bind_eq_ok.mp happlied
        exact resetConsecutiveUnknown_marked hreset (updateRows_counter hupdated)

/-! ## What a run hands out -/

def Clocked.ends (c : Clocked) : ClockLabel → Bool
  | .store (.call _ _ _ true) => c.store.process.isSome
  | .store .close => c.store.process.isSome
  | _ => false

/-- The process clock does not go back, and a process does not end with a reading after the last
    one that a committed mark carries. -/
structure KeepsClock (parses : StoredOperation → Bool) (bounds : Bounds) (c : Clocked)
    (label : ClockLabel) : Prop where
  forward : (c.latest :: c.readings parses bounds label).Pairwise (· ≤ ·)
  marked : c.ends label = true → (c.readings parses bounds label).getLastD c.latest ≤ c.marked

/-- What no instant handed out so far exceeds. -/
def Clocked.highWater (c : Clocked) : Int :=
  match c.store.process with
  | none => c.store.db.counter.lastObservedMonotonicMs
  | some process => process.durableNowMs c.latest

/-- The instants handed out so far are in order, below what comes next, and the counter row holds
    the mark of the open process. -/
structure ClockInv (c : Clocked) (log : List Int) : Prop where
  sorted : log.Pairwise (· ≤ ·)
  below : ∀ instant ∈ log, instant ≤ c.highWater
  mark : ∀ process, c.store.process = some process →
    process.durableNowMs c.marked ≤ c.store.db.counter.lastObservedMonotonicMs

theorem durableNowMs_mono (process : Process) {a b : Int} (h : a ≤ b) :
    process.durableNowMs a ≤ process.durableNowMs b := by
  unfold Process.durableNowMs
  omega

theorem le_getLastD {latest : Int} {readings : List Int}
    (h : (latest :: readings).Pairwise (· ≤ ·)) :
    ∀ reading ∈ latest :: readings, reading ≤ readings.getLastD latest := by
  intro reading hreading
  have hlast := h.rel_getLast hreading
  rwa [List.getLast_eq_getLastD] at hlast

/-- Readings that do not go back give instants that do not. -/
theorem ClockInv.extend {log : List Int} {latest : Int} {readings : List Int} {process : Process}
    (hsorted : log.Pairwise (· ≤ ·)) (hbelow : ∀ instant ∈ log, instant ≤ process.durableNowMs latest)
    (hforward : (latest :: readings).Pairwise (· ≤ ·)) :
    (log ++ readings.map process.durableNowMs).Pairwise (· ≤ ·) ∧
      ∀ instant ∈ log ++ readings.map process.durableNowMs,
        instant ≤ process.durableNowMs (readings.getLastD latest) := by
  have hlatest := (List.pairwise_cons.mp hforward).1
  refine ⟨List.pairwise_append.mpr ⟨hsorted, ?_, ?_⟩, ?_⟩
  · exact (List.pairwise_cons.mp hforward).2.map _ fun _ _ => durableNowMs_mono process
  · intro instant hinstant later hlater
    obtain ⟨reading, hreading, rfl⟩ := List.mem_map.mp hlater
    exact Int.le_trans (hbelow instant hinstant) (durableNowMs_mono process (hlatest reading hreading))
  · intro instant hinstant
    obtain hold | hnew := List.mem_append.mp hinstant
    · exact Int.le_trans (hbelow instant hold)
        (durableNowMs_mono process (le_getLastD hforward latest (List.mem_cons_self ..)))
    · obtain ⟨reading, hreading, rfl⟩ := List.mem_map.mp hnew
      exact durableNowMs_mono process
        (le_getLastD hforward reading (List.mem_cons_of_mem _ hreading))

/-- The database and the process a call leaves when it does not crash. -/
theorem step_call {s s' : State} {call : Call} {reading markReading : Int} {process : Process}
    (hprocess : s.process = some process)
    (h : step parses bounds s (.call call reading markReading false) = some s') :
    s'.process = some process ∧
      ((s'.db = s.db ∧ ∃ failure, perform parses bounds (process.durableNowMs reading)
          (process.durableNowMs markReading) s.db call = .error failure) ∨
        ∃ answer, perform parses bounds (process.durableNowMs reading)
          (process.durableNowMs markReading) s.db call = .ok (answer, s'.db)) := by
  simp only [step, hprocess, Bool.false_eq_true, if_false] at h
  cases hperform : perform parses bounds (process.durableNowMs reading)
      (process.durableNowMs markReading) s.db call with
  | error failure =>
    rw [hperform] at h
    cases h
    exact ⟨hprocess, .inl ⟨rfl, failure, rfl⟩⟩
  | ok result =>
    rw [hperform] at h
    cases h
    exact ⟨rfl, .inr ⟨result.1, rfl⟩⟩

/-- The mark a call commits is in the counter row afterwards, and the row's mark does not fall. -/
theorem call_mark {c : Clocked} {s' : State} {call : Call} {reading markReading : Int}
    {process : Process} (hprocess : c.store.process = some process)
    (h : step parses bounds c.store (.call call reading markReading false) = some s')
    (hmark : process.durableNowMs c.marked ≤ c.store.db.counter.lastObservedMonotonicMs) :
    process.durableNowMs
        ((c.committed parses bounds (.store (.call call reading markReading false))).getD c.marked) ≤
      s'.db.counter.lastObservedMonotonicMs := by
  obtain ⟨-, ⟨hdb, failure, hperform⟩ | ⟨answer, hperform⟩⟩ := step_call hprocess h
  · simp only [Clocked.committed, hprocess, hperform, Option.getD_none]
    rw [hdb]
    exact hmark
  · have hlast := (perform_marked hperform).last
    simp only [Clocked.committed, hprocess, hperform]
    rw [hlast]
    cases answer with
    | admission outcome =>
      cases outcome with
      | admitted entry => exact Int.le_max_right _ _
      | _ => exact hmark
    | changed changed =>
      cases changed with
      | true => exact Int.le_max_right _ _
      | false => exact hmark
    | pruned count => exact hmark

/-- Nobody reads the clock of a closed store, and a process that opens it starts at its mark. -/
theorem ClockInv.closed_step {c c' : Clocked} {log : List Int} {label : ClockLabel}
    (h : ClockInv c log) (hprocess : c.store.process = none)
    (hstep : clockStep parses bounds c label = some c') : ClockInv c' log := by
  have hwater : c.highWater = c.store.db.counter.lastObservedMonotonicMs := by
    rw [Clocked.highWater, hprocess]
  cases label with
  | read reading =>
    rw [clockStep, hprocess] at hstep
    cases hstep
  | store label =>
    cases label with
    | call call reading markReading crashes =>
      simp [clockStep, EdgeQueue.step, hprocess] at hstep
    | close =>
      simp only [clockStep, EdgeQueue.step, Option.map_some, Option.some.injEq] at hstep
      subst hstep
      exact ⟨h.sorted, fun instant hinstant => (h.below instant hinstant).trans_eq hwater,
        fun _ hopen => by cases hopen⟩
    | reopen reading =>
      obtain ⟨store, hstore, rfl⟩ := Option.map_eq_some_iff.mp hstep
      simp only [EdgeQueue.step, hprocess] at hstore
      split at hstore
      · cases hstore
        refine ⟨h.sorted, fun instant hinstant => ?_, fun process hopen => ?_⟩
        · simpa only [Clocked.highWater, hprocess] using h.below instant hinstant
        · rw [hprocess] at hopen
          cases hopen
      next process db' hopen =>
        cases hstore
        rw [openStore, Except.ite_error_eq_ok, Except.ite_error_eq_ok] at hopen
        obtain ⟨-, -, hopen⟩ := hopen
        obtain ⟨recovered, hrecovered, hopen⟩ := Except.bind_eq_ok.mp hopen
        obtain ⟨rfl, rfl⟩ := Prod.mk.inj (Except.ok.inj hopen)
        have hcounter := updateRows_counter hrecovered
        have hstart : (⟨reading, c.store.db.counter.lastObservedMonotonicMs⟩ : Process).durableNowMs
            reading = c.store.db.counter.lastObservedMonotonicMs := by
          simp [Process.durableNowMs]
        refine ⟨h.sorted, fun instant hinstant => ?_, fun process hsame => ?_⟩
        · show instant ≤ Process.durableNowMs _ reading
          rw [hstart]
          exact hwater ▸ h.below instant hinstant
        · obtain rfl := Option.some.inj hsame
          show Process.durableNowMs _ reading ≤ recovered.counter.lastObservedMonotonicMs
          rw [hstart, hcounter]

/-- What an open store reads goes on from what it has handed out; when its process ends, the mark on
    disk stands above all of it. -/
theorem ClockInv.open_step {c c' : Clocked} {log : List Int} {label : ClockLabel}
    {process : Process} (h : ClockInv c log) (hprocess : c.store.process = some process)
    (hkeeps : KeepsClock parses bounds c label)
    (hstep : clockStep parses bounds c label = some c') :
    ClockInv c' (log ++ (c.readings parses bounds label).map process.durableNowMs) := by
  have hwater : c.highWater = process.durableNowMs c.latest := by
    rw [Clocked.highWater, hprocess]
  obtain ⟨hsorted, hbelow⟩ := ClockInv.extend h.sorted
    (fun instant hinstant => hwater ▸ h.below instant hinstant) hkeeps.forward
  have hended (hends : c.ends label = true) : ∀ instant ∈ log ++
      (c.readings parses bounds label).map process.durableNowMs,
      instant ≤ c.store.db.counter.lastObservedMonotonicMs := fun instant hinstant =>
    Int.le_trans (Int.le_trans (hbelow instant hinstant)
      (durableNowMs_mono process (hkeeps.marked hends))) (h.mark process hprocess)
  cases label with
  | read reading =>
    rw [clockStep, hprocess] at hstep
    cases hstep
    refine ⟨hsorted, fun instant hinstant => ?_, fun _ hopen => h.mark _ hopen⟩
    have hinstant := hbelow instant hinstant
    show instant ≤ Clocked.highWater { c with latest := reading }
    rwa [Clocked.highWater, hprocess]
  | store label =>
    cases label with
    | call call reading markReading crashes =>
      obtain ⟨store, hstore, rfl⟩ := Option.map_eq_some_iff.mp hstep
      cases crashes with
      | true =>
        simp only [EdgeQueue.step, hprocess, if_true] at hstore
        cases hstore
        exact ⟨hsorted, hended (by simp [Clocked.ends, hprocess]), fun _ hopen => by cases hopen⟩
      | false =>
        have hopen := (step_call hprocess hstore).1
        refine ⟨hsorted, fun instant hinstant => ?_, fun process' hsame => ?_⟩
        · simpa only [Clocked.highWater, hopen] using hbelow instant hinstant
        · obtain rfl := Option.some.inj (hopen.symm.trans hsame)
          exact call_mark hprocess hstore (h.mark process hprocess)
    | close =>
      simp only [clockStep, EdgeQueue.step, Option.map_some, Option.some.injEq] at hstep
      subst hstep
      exact ⟨hsorted, hended (by simp [Clocked.ends, hprocess]), fun _ hopen => by cases hopen⟩
    | reopen reading =>
      simp [clockStep, EdgeQueue.step, hprocess] at hstep

theorem ClockInv.step {c c' : Clocked} {log : List Int} {label : ClockLabel} (h : ClockInv c log)
    (hkeeps : KeepsClock parses bounds c label) (hstep : clockStep parses bounds c label = some c') :
    ClockInv c' (log ++ ((c.returned parses bounds label).toList).flatten) := by
  rw [Clocked.returned]
  cases hprocess : c.store.process with
  | none => simpa using h.closed_step hprocess hstep
  | some process => simpa using h.open_step hprocess hkeeps hstep

theorem ClockInv.initial : ClockInv .initial [] where
  sorted := .nil
  below _ hmem := nomatch hmem
  mark _ hopen := nomatch hopen

/-- **When the durable clock does not go back.**  In every run whose process clocks do not, and in
which no process ends with a reading that no committed mark carries, `durableNowMs` never decreases.
-/
theorem durableNows_sorted {labels : List ClockLabel} {c : Clocked}
    (hrun : run (clockStep parses bounds) .initial labels = some c)
    (hkeeps : RunAll (clockStep parses bounds) (KeepsClock parses bounds) .initial labels) :
    (durableNows parses bounds .initial labels).Pairwise (· ≤ ·) := by
  have hstart : ClockInv .initial (List.flatten []) := ClockInv.initial
  have hinv := runAll_trace_invariant (Clocked.returned parses bounds)
    (fun c log => ClockInv c log.flatten)
    (fun {c log label c'} h hp hstep => by
      show ClockInv c' (log ++ _).flatten
      rw [List.flatten_append]
      exact h.step hp hstep) hstart hkeeps hrun
  exact hinv.sorted

/-- A process that admits, reads and marks again before it closes, and one that claims in the
    next. -/
def markedRun : List ClockLabel :=
  [.store (.reopen 0), .store (.call (admissionOf "first" 0) 10 10 false), .read 20,
    .store (.call (.markReadyToForward "first") 30 30 false), .store .close,
    .store (.reopen 5), .read 6, .store (.call (.claimForForwarding "first") 9 11 false)]

def keepsClock (bounds : Bounds) (c : Clocked) (label : ClockLabel) : Bool :=
  let readings := c.readings (fun _ => true) bounds label
  decide ((c.latest :: readings).Pairwise (· ≤ ·)) &&
    (!c.ends label || decide (readings.getLastD c.latest ≤ c.marked))

theorem keepsClock_of_checked {c : Clocked} {label : ClockLabel}
    (h : keepsClock bounds c label = true) : KeepsClock (fun _ => true) bounds c label := by
  simp only [keepsClock, Bool.and_eq_true, Bool.or_eq_true, Bool.not_eq_true', decide_eq_true_eq] at h
  refine ⟨h.1, fun hends => h.2.resolve_left ?_⟩
  rw [hends]
  exact Bool.noConfusion

/-- Its instants go on across the restart. -/
theorem durableNows_sorted_marked :
    durableNows (fun _ => true) ⟨4, 1⟩ .initial markedRun = [10, 20, 30, 31, 34, 36] ∧
      (durableNows (fun _ => true) ⟨4, 1⟩ .initial markedRun).Pairwise (· ≤ ·) := by
  refine ⟨by decide, ?_⟩
  have hruns : (run (clockStep (fun _ => true) ⟨4, 1⟩) .initial markedRun).isSome = true := by
    decide
  exact durableNows_sorted (run_eq_some_getD hruns)
    (runAll_of_checked (fun _ _ => keepsClock_of_checked) (by decide))

/-- A process reads its clock, closes, and the next one hands out an instant before. -/
theorem durableNows_go_back :
    ∃ labels c, run (clockStep (fun _ => true) ⟨4, 1⟩) .initial labels = some c ∧
      durableNows (fun _ => true) ⟨4, 1⟩ .initial labels = [1000, 0] ∧
        ¬ (durableNows (fun _ => true) ⟨4, 1⟩ .initial labels).Pairwise (· ≤ ·) := by
  let labels : List ClockLabel :=
    [.store (.reopen 0), .read 1000, .store .close, .store (.reopen 0), .read 0]
  have hruns : (run (clockStep (fun _ => true) ⟨4, 1⟩) .initial labels).isSome = true := by
    decide
  have hinstants : durableNows (fun _ => true) ⟨4, 1⟩ .initial labels = [1000, 0] := by
    decide
  refine ⟨labels, _, run_eq_some_getD hruns, hinstants, ?_⟩
  rw [hinstants]
  decide

end Sentinel.EdgeQueue
