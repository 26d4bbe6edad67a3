import Sentinel.Spec.FieldSteps

/-! # The live state of an operative

An update writes the live row whatever the row says, so that the live row is the one committed last.
It is the one received last exactly where the updates commit in the order of their receipts. -/

namespace Sentinel.Field

open FieldOffline (SiteScope)

variable {db db' : Db} {draw : Draw} {worker : Worker} {phase : Phase}
  {organisationId siteId userId : String}

/-! ## The upsert -/

theorem isOf_congr {a b : OperativeState}
    (h : a.isOf b.organisationId b.siteId b.userId = true) :
    a.isOf organisationId siteId userId = b.isOf organisationId siteId userId := by
  obtain ⟨horganisation, hsite, huser⟩ := of_decide_eq_true h
  rw [OperativeState.isOf, OperativeState.isOf, horganisation, hsite, huser]

/-- The operative's row after the update. -/
theorem find_upsertState_self (draw : Draw) (states : List CurrentState) {state : OperativeState}
    (h : state.isOf organisationId siteId userId = true) :
    ∃ current, (upsertState states state draw).find? (·.isOf organisationId siteId userId) =
      some current ∧ current.toOperativeState = state := by
  have hsame : ∀ current : CurrentState,
      current.isOf state.organisationId state.siteId state.userId =
        current.isOf organisationId siteId userId := by
    obtain ⟨rfl, rfl, rfl⟩ := of_decide_eq_true h
    exact fun _ => rfl
  simp only [upsertState, hsame]
  split
  · rename_i hany
    obtain ⟨old, hfind⟩ := Option.isSome_iff_exists.mp (List.find?_isSome.mpr (List.any_eq_true.mp hany))
    have hhit := List.find?_some hfind
    refine ⟨{ old with toOperativeState := state, updatedAt := draw.storedAt },
      (Table.find?_rewrite_of_hit
        (p := fun current : CurrentState => current.isOf organisationId siteId userId)
        (f := fun current : CurrentState =>
          { current with toOperativeState := state, updatedAt := draw.storedAt })
        (q := fun current : CurrentState => current.isOf organisationId siteId userId)
        fun row hrow => h.trans hrow.symm).trans ?_, rfl⟩
    rw [hfind, Option.map_some, if_pos hhit]
  · rename_i hnone
    have hmiss : states.find? (·.isOf organisationId siteId userId) = none := by
      rw [List.find?_eq_none]
      exact fun current hcurrent hmatch => hnone (List.any_eq_true.mpr ⟨current, hcurrent, hmatch⟩)
    refine ⟨{ toOperativeState := state, id := draw.rowId.text, updatedAt := draw.storedAt }, ?_, rfl⟩
    rw [List.find?_append, hmiss, Option.none_or]
    exact List.find?_cons_of_pos h

theorem find_upsertState_other (states : List CurrentState) {state : OperativeState}
    (h : state.isOf organisationId siteId userId = false) :
    (upsertState states state draw).find? (·.isOf organisationId siteId userId) =
      states.find? (·.isOf organisationId siteId userId) := by
  rw [upsertState]
  split
  · refine (Table.find?_rewrite_of_hit
      (p := fun current : CurrentState => current.isOf state.organisationId state.siteId state.userId)
      (f := fun current : CurrentState =>
        { current with toOperativeState := state, updatedAt := draw.storedAt })
      (q := fun current : CurrentState => current.isOf organisationId siteId userId)
      fun row hrow => (isOf_congr hrow).symm).trans ?_
    cases hfind : states.find? (·.isOf organisationId siteId userId) with
    | none => rfl
    | some current =>
      have hcurrent := List.find?_some hfind
      rw [Option.map_some, if_neg]
      intro hhit
      rw [isOf_congr hhit, h] at hcurrent
      exact Bool.noConfusion hcurrent
  · rw [List.find?_append, List.find?_singleton, if_neg (by simpa using h), Option.or_none]

/-- Every step but the commit of an update leaves the states and their history alone. -/
theorem writes_states (h : Writes db draw worker db' phase) :
    db'.currentStates = db.currentStates ∧ db'.stateHistory = db.stateHistory ∨
      ∃ principal siteScope input state current,
        worker = ⟨.recordState principal siteScope input, .received state⟩ ∧
        ⟨state.organisationId, state.siteId, state.userId, state.deviceId, input.idempotencyKey⟩ ∉
          db.stateUpdates ∧
        db.recordState state input.idempotencyKey draw = .ok (current, db') ∧
        db'.currentStates = upsertState db.currentStates state draw ∧
        db'.stateHistory = db.stateHistory ++ [state] := by
  cases h with
  | nothing => exact .inl ⟨rfl, rfl⟩
  | created commit =>
    obtain ⟨-, -, -, -, -, -, -, -, hstates, hhistory⟩ := createAssignment_eq_ok commit
    exact .inl ⟨hstates, hhistory⟩
  | transitioned commit =>
    obtain ⟨-, -, -, -, -, -, hstates, hhistory⟩ | rfl := transitionAssignment_eq_some commit
    · exact .inl ⟨hstates, hhistory⟩
    · exact .inl ⟨rfl, rfl⟩
  | recorded commit =>
    obtain ⟨-, rfl⟩ | ⟨hnew, hstates, hhistory, -⟩ := recordState_eq_ok commit
    · exact .inl ⟨rfl, rfl⟩
    · exact .inr ⟨_, _, _, _, _, rfl, hnew, commit, hstates, hhistory⟩
  | sent commit =>
    obtain ⟨-, -, -, -, -, -, -, -, hstates, hhistory⟩ := send_eq_ok commit
    exact .inl ⟨hstates, hhistory⟩
  | acknowledged commit =>
    obtain rfl | ⟨_, _, -, -, -, -, -, -, -, -, -, hstates, hhistory, -⟩ := acknowledge_eq_ok commit
    · exact .inl ⟨rfl, rfl⟩
    · exact .inl ⟨hstates, hhistory⟩
  | delivered => exact .inl ⟨rfl, rfl⟩

/-! ## The latest state -/

/-- The live row of the operative is the row of its history that was received last. -/
structure Db.LiveIsLatest (db : Db) (organisationId siteId userId : String) : Prop where
  recorded : ∀ live, db.findCurrentState organisationId siteId userId = some live →
    live.toOperativeState ∈ db.stateHistory
  latest : ∀ row ∈ db.stateHistory, row.isOf organisationId siteId userId = true →
    ∃ live, db.findCurrentState organisationId siteId userId = some live ∧
      row.receivedAt.ms ≤ live.receivedAt.ms

/-- An update that is about to commit was not received before the live row. -/
def Worker.InOrder (db : Db) (draw : Draw) (organisationId siteId userId : String)
    (worker : Worker) : Prop :=
  match worker.call, worker.phase with
  | .recordState _ _ input, .received state =>
    state.isOf organisationId siteId userId = true →
      ⟨state.organisationId, state.siteId, state.userId, state.deviceId, input.idempotencyKey⟩ ∉
        db.stateUpdates →
      ∀ committed, db.recordState state input.idempotencyKey draw = .ok committed →
        ∀ live, db.findCurrentState organisationId siteId userId = some live →
          live.receivedAt.ms ≤ state.receivedAt.ms
  | _, _ => True

/-- Whichever call takes the step commits in the order of the receipts. -/
def CommitsInOrder (organisationId siteId userId : String) (s : State) : Label → Prop
  | .advance i draw _ => ∀ worker, s.workers[i]? = some worker →
      worker.InOrder s.db draw organisationId siteId userId
  | _ => True

theorem Db.LiveIsLatest.of_eq (h : db.LiveIsLatest organisationId siteId userId)
    (hstates : db'.currentStates = db.currentStates) (hhistory : db'.stateHistory = db.stateHistory) :
    db'.LiveIsLatest organisationId siteId userId := by
  have hfind : db'.findCurrentState organisationId siteId userId =
      db.findCurrentState organisationId siteId userId := by
    rw [Db.findCurrentState, Db.findCurrentState, hstates]
  constructor
  · rw [hfind, hhistory]
    exact h.recorded
  · rw [hfind, hhistory]
    exact h.latest

/-- An update in order keeps the live row the latest. -/
theorem recordState_latest {state : OperativeState}
    (h : db.LiveIsLatest organisationId siteId userId)
    (hstates : db'.currentStates = upsertState db.currentStates state draw)
    (hhistory : db'.stateHistory = db.stateHistory ++ [state])
    (horder : state.isOf organisationId siteId userId = true →
      ∀ live, db.findCurrentState organisationId siteId userId = some live →
        live.receivedAt.ms ≤ state.receivedAt.ms) :
    db'.LiveIsLatest organisationId siteId userId := by
  by_cases hsame : state.isOf organisationId siteId userId = true
  · obtain ⟨current, hfind, hcurrent⟩ := find_upsertState_self draw db.currentStates hsame
    have hnext : db'.findCurrentState organisationId siteId userId = some current := by
      rw [Db.findCurrentState, hstates]
      exact hfind
    constructor
    · intro live hlive
      obtain rfl := Option.some.inj (hnext.symm.trans hlive)
      rw [hcurrent, hhistory]
      exact List.mem_append_right _ List.mem_cons_self
    · intro row hrow hrowOf
      refine ⟨current, hnext, ?_⟩
      rw [hcurrent]
      rw [hhistory] at hrow
      cases List.mem_append.mp hrow with
      | inl hold =>
        obtain ⟨live, hlive, hle⟩ := h.latest row hold hrowOf
        exact hle.trans (horder hsame live hlive)
      | inr hnew => exact le_of_eq (congrArg (·.receivedAt.ms) (List.mem_singleton.mp hnew))
  · have hother : db'.findCurrentState organisationId siteId userId =
        db.findCurrentState organisationId siteId userId := by
      rw [Db.findCurrentState, hstates]
      exact find_upsertState_other _ (Bool.eq_false_iff.mpr hsame)
    constructor
    · intro live hlive
      rw [hother] at hlive
      exact hhistory ▸ List.mem_append_left _ (h.recorded live hlive)
    · intro row hrow hrowOf
      rw [hother]
      rw [hhistory] at hrow
      cases List.mem_append.mp hrow with
      | inl hold => exact h.latest row hold hrowOf
      | inr hnew => exact absurd (List.mem_singleton.mp hnew ▸ hrowOf) hsame

theorem step_latest {s t : State} {label : Label}
    (h : s.db.LiveIsLatest organisationId siteId userId)
    (horder : CommitsInOrder organisationId siteId userId s label) (hstep : step s label = some t) :
    t.db.LiveIsLatest organisationId siteId userId := by
  obtain ⟨call, -, rfl⟩ | ⟨i, draw, receipt, worker, db, phase, rfl, hi, -, hadvance, rfl⟩ |
    ⟨i, worker, -, -, -, rfl⟩ | ⟨directory, -, rfl⟩ := step_cases hstep
  · exact h
  · obtain ⟨hstates, hhistory⟩ |
      ⟨principal, siteScope, input, state, current, rfl, hnew, hcommit, hstates, hhistory⟩ :=
        writes_states (advance_writes hadvance)
    · exact h.of_eq hstates hhistory
    · exact recordState_latest h hstates hhistory fun hsame live hlive =>
        horder _ hi hsame hnew _ hcommit live hlive
  · exact h
  · exact h.of_eq rfl rfl

/-- An update that overtakes the live row leaves it not the latest. -/
theorem commitsInOrder_of_latest {s t : State} {label : Label}
    (h : s.db.LiveIsLatest organisationId siteId userId) (hstep : step s label = some t)
    (hnext : t.db.LiveIsLatest organisationId siteId userId) :
    CommitsInOrder organisationId siteId userId s label := by
  cases label with
  | advance i draw receipt =>
    intro worker hi
    obtain ⟨other, db, phase, hj, -, hadvance, rfl⟩ := advance_eq_some hstep
    obtain rfl := Option.some.inj (hj.symm.trans hi)
    obtain ⟨call, standing⟩ := other
    unfold Worker.InOrder
    split
    · rename_i principal siteScope input state hcall hstanding
      obtain rfl : call = _ := hcall
      obtain rfl : standing = _ := hstanding
      rintro hsame hnew ⟨current, after⟩ hcommit live hlive
      simp only [Worker.advance, advanceRecord, hcommit, Option.some.injEq, Prod.mk.injEq] at hadvance
      obtain ⟨rfl, -⟩ := hadvance
      obtain ⟨hknown, -⟩ | ⟨-, hstates, hhistory, -⟩ := recordState_eq_ok hcommit
      · exact absurd hknown hnew
      · -- the row that was live is in the history, and the live row is now the update
        have hold : live.toOperativeState ∈ after.stateHistory :=
          hhistory ▸ List.mem_append_left _ (h.recorded live hlive)
        have hliveOf := List.find?_some hlive
        obtain ⟨live', hlive', hle⟩ := hnext.latest _ hold hliveOf
        obtain ⟨next, hfind, hstate⟩ :=
          find_upsertState_self draw s.db.currentStates hsame
        have hfind' : after.findCurrentState organisationId siteId userId = some next := by
          rw [Db.findCurrentState, hstates]
          exact hfind
        obtain rfl := Option.some.inj (hfind'.symm.trans hlive')
        exact hstate ▸ hle
    · trivial
  | _ => trivial

theorem initial_latest (directory : Directory) :
    (Db.empty directory).LiveIsLatest organisationId siteId userId where
  recorded _ hlive := nomatch hlive
  latest _ hrow := absurd hrow List.not_mem_nil

/-- The live row of an operative is the latest received in every state of a run, exactly where no
    update of the operative commits behind one that was received later. -/
theorem live_latest_iff {directory : Directory} {labels : List Label} {s : State}
    (hrun : Transition.run step (State.initial directory) labels = some s)
    (organisationId siteId userId : String) :
    (∀ earlier later t, labels = earlier ++ later →
        Transition.run step (State.initial directory) earlier = some t →
        t.db.LiveIsLatest organisationId siteId userId) ↔
      Transition.RunAll step (CommitsInOrder organisationId siteId userId)
        (State.initial directory) labels := by
  constructor
  · intro hlatest
    refine Transition.runAll_of_prefixes fun earlier label later t hlabels hearlier => ?_
    rw [hlabels] at hrun
    obtain ⟨u, hu, -⟩ := step_of_run hrun hearlier
    refine commitsInOrder_of_latest (hlatest earlier (label :: later) t hlabels hearlier) hu
      (hlatest (earlier ++ [label]) later u (by rw [hlabels, List.append_assoc]; rfl) ?_)
    exact Transition.run_append_eq_some.mpr
      ⟨t, hearlier, Transition.run_cons_eq_some.mpr ⟨u, hu, rfl⟩⟩
  · intro hall earlier later t hlabels hearlier
    rw [hlabels] at hall
    exact Transition.runAll_invariant step_latest (initial_latest directory) hall.append_left hearlier

/-! ## Two updates at once -/

/-- An update of an operative, under the given key. -/
def patrolUpdate (state : FieldState) (idempotencyKey : String)
    (h : isBounded 256 idempotencyKey = true) : StateUpdateInput where
  siteId := "site-a"
  deviceId := "device-1"
  state := state
  location := none
  sourceAt := ⟨"1970-01-01T00:00:00.000Z", 0, by decide⟩
  freshnessMs := 0
  idempotencyKey := idempotencyKey
  traceId := "trace-1"
  siteId_safe := by decide
  deviceId_bounded := by decide
  idempotencyKey_bounded := h
  traceId_bounded := by decide

/-- A call for help at the second 1, and the end of it at the second 2; the commits in either order. -/
def twoUpdates (first second : Nat) : List Label :=
  [.call (.recordState operative anySite (patrolUpdate .needSupport "u-1" (by decide))),
    .advance 0 (drawAt 1000 false) false,
    .call (.recordState operative anySite (patrolUpdate .available "u-2" (by decide))),
    .advance 1 (drawAt 2000 true) false,
    .advance first (drawAt 3000 false) false, .advance second (drawAt 3000 true) false]

/-- Every update that is about to commit is at least as late as every live row. -/
def commitsLast (s : State) : Label → Bool
  | .advance i _ _ =>
    (s.workers[i]?).all fun worker =>
      match worker.phase with
      | .received state => s.db.currentStates.all (·.receivedAt.ms ≤ state.receivedAt.ms)
      | _ => true
  | _ => true

theorem commitsInOrder_of_commitsLast (s : State) (label : Label) (h : commitsLast s label = true) :
    CommitsInOrder organisationId siteId userId s label := by
  cases label with
  | advance i draw receipt =>
    intro worker hi
    have hworker := (Option.all_eq_true _ _).mp h worker hi
    unfold Worker.InOrder
    split
    · rename_i hphase
      rw [hphase] at hworker
      intro _ _ _ _ live hlive
      exact of_decide_eq_true (List.all_eq_true.mp hworker live (List.mem_of_find?_eq_some hlive))
    · trivial
  | _ => trivial

theorem live_latest_in_order :
    ∃ s, Transition.run step (State.initial oneSite) (twoUpdates 0 1) = some s ∧
      s.db.LiveIsLatest "org-a" "site-a" "operative-1" ∧ s.db.stateHistory.length = 2 := by
  have hends : (Transition.run step (State.initial oneSite) (twoUpdates 0 1)).map
      (·.db.stateHistory.length) = some 2 := by decide
  obtain ⟨s, hrun, htwo⟩ := Option.map_eq_some_iff.mp hends
  refine ⟨s, hrun, (live_latest_iff hrun _ _ _).mpr ?_ _ [] s (List.append_nil _).symm hrun, htwo⟩
  exact Transition.runAll_of_checked commitsInOrder_of_commitsLast (by decide)

/-- The call for help is live again after the end of it. -/
theorem live_not_latest :
    ∃ s, Transition.run step (State.initial oneSite) (twoUpdates 1 0) = some s ∧
      ¬ s.db.LiveIsLatest "org-a" "site-a" "operative-1" := by
  have hends : (Transition.run step (State.initial oneSite) (twoUpdates 1 0)).any (fun s =>
      (s.db.findCurrentState "org-a" "site-a" "operative-1").any (·.receivedAt.ms = 1000) &&
        s.db.stateHistory.any fun row =>
          row.isOf "org-a" "site-a" "operative-1" && row.receivedAt.ms = 2000) = true := by
    decide
  obtain ⟨s, hrun, hboth⟩ := (Option.any_eq_true _ _).mp hends
  obtain ⟨hlive, hhistory⟩ := Bool.and_eq_true_iff.mp hboth
  obtain ⟨live, hfind, hearly⟩ := (Option.any_eq_true _ _).mp hlive
  obtain ⟨row, hrow, hlate⟩ := List.any_eq_true.mp hhistory
  obtain ⟨hrowOf, hlate⟩ := Bool.and_eq_true_iff.mp hlate
  refine ⟨s, hrun, fun hlatest => ?_⟩
  obtain ⟨live', hlive', hle⟩ := hlatest.latest row hrow hrowOf
  obtain rfl := Option.some.inj (hfind.symm.trans hlive')
  rw [of_decide_eq_true hearly, of_decide_eq_true hlate] at hle
  omega

end Sentinel.Field
