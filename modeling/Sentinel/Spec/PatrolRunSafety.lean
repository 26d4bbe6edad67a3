import Sentinel.ForStd.List
import Sentinel.ForStd.Transition
import Sentinel.Spec.PatrolRunInvariant

/-! # Patrol runs in any order of steps

Each of the seven commits, and the sweep, keeps every run sound, moves its status as allowed and
takes nothing back. -/

namespace Sentinel.Patrol

section System

variable {platform : Platform} {db db' : Db} {caller : Caller} {env : Env} {now : Int}

variable {route : Route} {clock : Int} {checkpoint : RunCheckpoint} {s s' : State}

theorem map_id_createCheckpointRows (ids : Ids) (checkpoints : List CheckpointDefinition) :
    (createCheckpointRows platform ids checkpoints).map (·.id) =
      (List.range checkpoints.length).map ids.next := by
  refine List.ext_getElem (by simp [createCheckpointRows]) fun i _ _ => ?_
  simp [createCheckpointRows]

theorem nodup_createCheckpointRows (ids : Ids) (checkpoints : List CheckpointDefinition) :
    ((createCheckpointRows platform ids checkpoints).map (·.id)).Nodup := by
  rw [map_id_createCheckpointRows]
  exact List.Nodup.map ids.injective List.nodup_range

theorem newRoute_sound (input : CreateRouteInput) : (newRoute platform caller input env).Sound where
  current := ⟨_, List.mem_singleton.mpr rfl, rfl⟩
  ids := by
    intro version hversion
    rw [List.mem_singleton.mp hversion]
    exact nodup_createCheckpointRows env.ids input.checkpoints

theorem Route.Sound.publish (h : route.Sound) (input : PublishVersionInput)
    (ids : Ids) : (route.publish (newVersion platform caller route input ids)).Sound where
  current := ⟨_, List.mem_append_right _ (List.mem_singleton.mpr rfl), rfl⟩
  ids := by
    intro version hversion
    rcases List.of_mem_concat hversion with hold | rfl
    · exact h.ids version hold
    · exact nodup_createCheckpointRows ids input.checkpoints

/-- A run is pinned to the version its route points to. -/
theorem newRun_pins (hmem : route ∈ db.routes) (h : route.Sound)
    (input : ScheduleRunInput) (id : String) :
    ∃ version, db.Pins (newRun caller route input id) version := by
  have hroute : db.routes.find? (·.id = route.id) = some route :=
    Table.find?_eq_some db.routes_id hmem rfl fun _ hid => hid
  obtain ⟨current, hcurrent, hpointed⟩ := h.current
  have hsome := (List.find?_isSome (p := fun row : RouteVersion =>
    row.version = route.currentVersion)).mpr ⟨current, hcurrent, decide_eq_true hpointed⟩
  obtain ⟨version, hversion⟩ := Option.isSome_iff_exists.mp hsome
  exact ⟨version, h.ids version (List.mem_of_find?_eq_some hversion), route, hroute, hversion⟩

theorem newRun_sound (hmem : route ∈ db.routes) (h : route.Sound)
    (input : ScheduleRunInput) (id : String) : (newRun caller route input id).Sound db now where
  pinned := newRun_pins hmem h input id
  unstarted := fun _ => ⟨rfl, rfl, rfl⟩
  started := fun hstarted => nomatch hstarted
  ids := List.nodup_nil
  running := fun _ => rfl
  pending := fun _ hmem => (List.not_mem_nil hmem).elim
  verified := fun _ hmem => (List.not_mem_nil hmem).elim
  unverified := fun _ hmem => (List.not_mem_nil hmem).elim
  ordered := fun _ hmem => (List.not_mem_nil hmem).elim
  missed := fun _ hmem => (List.not_mem_nil hmem).elim
  cancelled := fun _ hmem => (List.not_mem_nil hmem).elim
  outstanding := fun hrunning => nomatch hrunning
  settled := fun hcompleted => nomatch hcompleted

/-- The tables, judged at an instant. -/
structure Db.Sound (db : Db) (clock : Int) : Prop where
  routes : ∀ route ∈ db.routes, route.Sound
  runs : ∀ run ∈ db.runs, run.Sound db clock

theorem Db.Sound.checkpointIds (h : db.Sound clock) : db.CheckpointIds :=
  fun run hmem => (h.runs run hmem).ids

theorem Db.Sound.mono (h : db.Sound clock) (hclock : clock ≤ now) : db.Sound now :=
  ⟨h.routes, fun run hmem => (h.runs run hmem).mono (.refl db) hclock⟩

/-- One run has been rewritten. -/
theorem Db.Sound.putRun (h : db.Sound now) {run updated : Run} (hmem : run ∈ db.runs)
    (hlater : run.Later updated) (hsound : updated.Sound db now) : (db.putRun updated).Sound now where
  routes := h.routes
  runs := by
    intro other hother
    have hextends : db.Extends (db.putRun updated) := .putRun hmem hlater
    cases Table.mem_replace hother with
    | inl hnew =>
      rw [hnew]
      exact hsound.mono hextends le_rfl
    | inr hrest => exact (h.runs other hrest.1).mono hextends le_rfl

/-- The outcome of a timing decision, with what it says of the window. -/
theorem inTime_of_timing {outcome : CheckpointState}
    {verification : Verification} {operativeUserId : String}
    (hoperative : verification.operativeUserId = operativeUserId)
    (hordered : checkpoint.window.lateAfter ≤ checkpoint.window.missedAfter)
    (htiming : outcome = .verified ∧
        resolveCheckpointTiming verification.recordedAt checkpoint.window = .verified ∨
      outcome = .late ∧
        resolveCheckpointTiming verification.recordedAt checkpoint.window = .late) :
    outcome.isVerified = true ∧
      InTime operativeUserId (checkpoint.resolve outcome verification) verification := by
  unfold resolveCheckpointTiming at htiming
  rcases htiming with ⟨rfl, htiming⟩ | ⟨rfl, htiming⟩
  · split at htiming
    · cases htiming
    · rename_i hopens
      split at htiming
      · rename_i hlate
        refine ⟨rfl, hoperative, rfl, rfl, not_lt.mp hopens, hlate.trans hordered, fun _ => hlate,
          fun hcontra => nomatch hcontra⟩
      · split at htiming <;> cases htiming
  · split at htiming
    · cases htiming
    · rename_i hopens
      split at htiming
      · cases htiming
      · rename_i hlate
        split at htiming
        · rename_i hmissed
          exact ⟨rfl, hoperative, rfl, rfl, not_lt.mp hopens, hmissed,
            (fun hcontra => nomatch hcontra), fun _ => not_le.mp hlate⟩
        · cases htiming

/-- What a sequence check says of the siblings below. -/
theorem lower_of_canVerifySequence {sequenceNumber : Nat} {checkpoints : List RunCheckpoint}
    (h : canVerifySequence sequenceNumber
      (checkpoints.map fun sibling => (sibling.sequenceNumber, sibling.state)) = true) :
    ∀ lower ∈ checkpoints, lower.sequenceNumber < sequenceNumber → lower.state ≠ .pending := by
  intro lower hmem hbelow
  have hall := List.all_eq_true.mp h _ (List.mem_map_of_mem hmem)
  cases of_decide_eq_true hall with
  | inl habove => exact absurd hbelow (Nat.not_lt.mpr habove)
  | inr hstate => exact hstate

/-- A verification in time, with the completion it may bring. -/
theorem Run.Sound.verify {run : Run} (h : run.Sound db now)
    {outcome : CheckpointState} {verification : Verification}
    (hstatus : run.status = .inProgress) (hmem : checkpoint ∈ run.checkpoints)
    (hpending : checkpoint.state = .pending)
    (hoperative : verification.operativeUserId = run.assignedOperativeUserId)
    (hcheckpoint : verification.patrolRunCheckpointId = checkpoint.id)
    (hsequence : canVerifySequence checkpoint.sequenceNumber
      (run.checkpoints.map fun sibling => (sibling.sequenceNumber, sibling.state)) = true)
    (htiming : outcome = .verified ∧
        resolveCheckpointTiming verification.recordedAt checkpoint.window = .verified ∨
      outcome = .late ∧
        resolveCheckpointTiming verification.recordedAt checkpoint.window = .late) :
    (completeIfFinished (run.verify checkpoint outcome verification) now).Sound db now := by
  obtain ⟨hverified, hintime⟩ :=
    inTime_of_timing hoperative (h.toCore.late_le_missed hmem) htiming
  have hcore : (run.verify checkpoint outcome verification).Core db now := by
    refine h.resolve hstatus hmem ⟨rfl, rfl, rfl, rfl, fun hsettled => absurd hpending hsettled⟩ ?_
      hpending (.inr ⟨hverified, ⟨verification, rfl, hintime⟩, lower_of_canVerifySequence hsequence⟩)
    intro added hadded
    rw [List.mem_singleton.mp hadded]
    exact hcheckpoint
  exact hcore.complete hstatus

/-- A deadline that has passed, with the completion it may bring. -/
theorem Run.Sound.miss {run : Run} (h : run.Sound db now)
    (hstatus : run.status = .inProgress) (hmem : checkpoint ∈ run.checkpoints)
    (hmissed : isCheckpointMissed now checkpoint.state checkpoint.window.missedAfter = true) :
    (completeIfFinished (run.putCheckpoint { checkpoint with state := .missed }) now).Sound db now := by
  obtain ⟨hpending, hpassed⟩ := of_decide_eq_true hmissed
  have hlater : CheckpointLater checkpoint { checkpoint with state := .missed } :=
    ⟨rfl, rfl, rfl, rfl, fun hsettled => absurd hpending hsettled⟩
  have hcore := h.resolve hstatus hmem hlater
    (fun verification hadded => (List.not_mem_nil hadded).elim) hpending
    (.inl ⟨rfl, rfl, hpassed⟩)
  rw [List.append_nil] at hcore
  exact hcore.complete hstatus

theorem Commits.sound {command : Command} {answer : Answer} (h : db.Sound env.now)
    (hcommits : Commits platform db caller env command answer db') : db'.Sound env.now := by
  have hextends := hcommits.extends h.checkpointIds
  cases hcommits with
  | createRoute _ hcreate =>
    obtain ⟨-, hroutes, hruns, -⟩ := Db.createRouteRow_eq_some hcreate
    refine ⟨fun route hmem => ?_, fun run hmem => ?_⟩
    · rw [hroutes] at hmem
      rcases List.of_mem_concat hmem with hold | rfl
      · exact h.routes route hold
      · exact newRoute_sound _
    · rw [hruns] at hmem
      exact (h.runs run hmem).mono hextends le_rfl
  | publishVersion hroute =>
    refine ⟨fun route hmem => ?_, fun run hmem => (h.runs run hmem).mono hextends le_rfl⟩
    cases Table.mem_replace hmem with
    | inl hnew =>
      rw [hnew]
      exact (h.routes _ (Db.findRoute_eq_some hroute).1).publish _ _
    | inr hrest => exact h.routes route hrest.1
  | scheduleRun hroute _ hcreate =>
    obtain ⟨-, hruns, hroutes, -⟩ := Db.createRunRow_eq_some hcreate
    refine ⟨fun route hmem => h.routes route (hroutes ▸ hmem), fun run hmem => ?_⟩
    rw [hruns] at hmem
    rcases List.of_mem_concat hmem with hold | rfl
    · exact (h.runs run hold).mono hextends le_rfl
    · have hmem := (Db.findRoute_eq_some hroute).1
      exact (newRun_sound hmem (h.routes _ hmem) _ _).mono hextends le_rfl
  | startRun hrun _ hstatus hdefinitions hupdated =>
    subst hupdated
    have hmem := (Db.findRun_eq_some hrun).1
    exact h.putRun hmem ((Run.Later.start hstatus _ _).trans (.recordAction ..))
      (((h.runs _ hmem).start hstatus hdefinitions _).recordAction _ _ _)
  | cancelRun hrun hstatus hupdated =>
    subst hupdated
    have hmem := (Db.findRun_eq_some hrun).1
    exact h.putRun hmem ((Run.Later.cancel hstatus _).trans (.recordAction ..))
      (((h.runs _ hmem).cancel hstatus).recordAction _ _ _)
  | abandonRun hrun hstatus hupdated =>
    subst hupdated
    have hmem := (Db.findRun_eq_some hrun).1
    exact h.putRun hmem ((Run.Later.abandon hstatus _ _).trans (.recordAction ..))
      (((h.runs _ hmem).abandon hstatus _).recordAction _ _ _)
  | verifyCheckpoint hrun hassigned hcheckpoint _ hstatus hpending hsequence htiming hverification
      hupdated =>
    subst hupdated hverification
    have hmem := (Db.findRun_eq_some hrun).1
    have hcheckpointMem := (Run.findCheckpoint_eq_some hcheckpoint).1
    exact h.putRun hmem
      ((Run.Later.verify (h.runs _ hmem).ids hcheckpointMem hpending).trans (.complete _))
      ((h.runs _ hmem).verify hstatus hcheckpointMem hpending hassigned.symm rfl hsequence htiming)

theorem sweepMissed_cases (db : Db) (runId checkpointId : String) (now : Int) :
    sweepMissed db runId checkpointId now = db ∨ ∃ run ∈ db.runs, ∃ checkpoint ∈ run.checkpoints,
      run.status = .inProgress ∧
        isCheckpointMissed now checkpoint.state checkpoint.window.missedAfter = true ∧
        sweepMissed db runId checkpointId now = db.putRun
          (completeIfFinished (run.putCheckpoint { checkpoint with state := .missed }) now) := by
  unfold sweepMissed
  cases hrun : db.runs.find? (·.id = runId) with
  | none => exact .inl rfl
  | some run =>
    dsimp only
    by_cases hstatus : run.status = .inProgress
    · rw [if_neg (not_not_intro hstatus)]
      cases hcheckpoint : run.findCheckpoint checkpointId with
      | none => exact .inl rfl
      | some checkpoint =>
        dsimp only
        by_cases hmissed : isCheckpointMissed now checkpoint.state checkpoint.window.missedAfter = true
        · rw [if_neg (by simp [hmissed])]
          exact .inr ⟨run, List.mem_of_find?_eq_some hrun, checkpoint,
            (Run.findCheckpoint_eq_some hcheckpoint).1, hstatus, hmissed, rfl⟩
        · rw [if_pos (by simp [hmissed])]
          exact .inl rfl
    · rw [if_pos hstatus]
      exact .inl rfl

/-- What one step does to the tables. -/
inductive DbStep (platform : Platform) (db : Db) (now : Int) (db' : Db) : Prop
  | kept (hroutes : db'.routes = db.routes) (hruns : db'.runs = db.runs)
  | commits {caller : Caller} {env : Env} {command : Command} {answer : Answer}
      (hnow : env.now = now) (hcommits : Commits platform db caller env command answer db')
  | missed {run : Run} {checkpoint : RunCheckpoint} (hmem : run ∈ db.runs)
      (hcheckpoint : checkpoint ∈ run.checkpoints) (hstatus : run.status = .inProgress)
      (hmissed : isCheckpointMissed now checkpoint.state checkpoint.window.missedAfter = true)
      (hdb : db' = db.putRun
        (completeIfFinished (run.putCheckpoint { checkpoint with state := .missed }) now))

theorem DbStep.of_handled {command : Command} {result : Db × Answer}
    (h : Handled platform db caller env command result) : DbStep platform db env.now result.1 := by
  cases h with
  | inl kept =>
    rw [kept.1]
    exact .kept rfl rfl
  | inr commits => exact .commits rfl commits

/-- The clock moves forward, and the tables take one step. -/
theorem dbStep_of_step {label : Label} (h : step platform s label = some s') :
    s.clock ≤ s'.clock ∧ DbStep platform s.db s'.clock s'.db := by
  obtain ⟨⟨next, answered⟩, hcall, rfl⟩ := Option.map_eq_some_iff.mp h
  cases label with
  | call caller command env =>
    simp only [State.call] at hcall
    split at hcall
    · cases hcall
    · rename_i hclock
      have hle := not_lt.mp hclock
      split at hcall
      · rename_i hexecute
        cases hcall
        exact ⟨hle, .of_handled (execute_cases hexecute)⟩
      · cases hcall
        exact ⟨hle, .kept rfl rfl⟩
      · cases hcall
  | commitSchedule i env =>
    simp only [State.call] at hcall
    split at hcall
    · cases hcall
    · rename_i hclock
      split at hcall
      · cases hcall
      · cases hcall
        exact ⟨not_lt.mp hclock, .of_handled (scheduleRun_cases _)⟩
  | sweep runId checkpointId now =>
    simp only [State.call] at hcall
    split at hcall
    · cases hcall
    · rename_i hclock
      cases hcall
      refine ⟨not_lt.mp hclock, ?_⟩
      cases sweepMissed_cases s.db runId checkpointId now with
      | inl hsame =>
        show DbStep platform s.db now (sweepMissed s.db runId checkpointId now)
        rw [hsame]
        exact .kept rfl rfl
      | inr hmissed =>
        obtain ⟨run, hmem, checkpoint, hcheckpoint, hstatus, hmissed, hdb⟩ := hmissed
        exact .missed hmem hcheckpoint hstatus hmissed hdb
  | assignments rows =>
    cases hcall
    exact ⟨le_rfl, .kept rfl rfl⟩
  | roles rows =>
    cases hcall
    exact ⟨le_rfl, .kept rfl rfl⟩

/-- A missed checkpoint is resolved. -/
theorem Run.Later.miss {run : Run}
    (hids : (run.checkpoints.map RunCheckpoint.id).Nodup) (hmem : checkpoint ∈ run.checkpoints)
    (hmissed : isCheckpointMissed now checkpoint.state checkpoint.window.missedAfter = true) :
    run.Later (run.putCheckpoint { checkpoint with state := .missed }) := by
  obtain ⟨hpending, -⟩ := of_decide_eq_true hmissed
  exact .putCheckpoint hids hmem ⟨rfl, rfl, rfl, rfl, fun hsettled => absurd hpending hsettled⟩

theorem DbStep.extends (h : db.CheckpointIds) (hstep : DbStep platform db now db') :
    db.Extends db' := by
  cases hstep with
  | kept hroutes hruns => exact .same hroutes hruns
  | commits _ hcommits => exact hcommits.extends h
  | missed hmem hcheckpoint _ hmissed hdb =>
    subst hdb
    exact .putRun hmem ((Run.Later.miss (h _ hmem) hcheckpoint hmissed).trans (.complete _))

theorem DbStep.sound (h : db.Sound now) (hstep : DbStep platform db now db') : db'.Sound now := by
  have hextends := hstep.extends h.checkpointIds
  cases hstep with
  | kept hroutes hruns =>
    refine ⟨fun route hmem => h.routes route (hroutes ▸ hmem), fun run hmem => ?_⟩
    exact (h.runs run (hruns ▸ hmem)).mono hextends le_rfl
  | commits hnow hcommits =>
    subst hnow
    exact hcommits.sound h
  | missed hmem hcheckpoint hstatus hmissed hdb =>
    subst hdb
    exact h.putRun hmem ((Run.Later.miss (h.runs _ hmem).ids hcheckpoint hmissed).trans (.complete _))
      ((h.runs _ hmem).miss hstatus hcheckpoint hmissed)

/-! ## Runs -/

/-- The invariant of the system. -/
def State.Sound (s : State) : Prop := s.db.Sound s.clock

theorem State.Sound.init : State.init.Sound :=
  ⟨fun _ hmem => (List.not_mem_nil hmem).elim, fun _ hmem => (List.not_mem_nil hmem).elim⟩

theorem State.Sound.step {label : Label} (h : s.Sound)
    (hstep : step platform s label = some s') : s'.Sound := by
  obtain ⟨hclock, hdb⟩ := dbStep_of_step hstep
  exact hdb.sound (Db.Sound.mono h hclock)

theorem State.Sound.run {labels : List Label} (h : s.Sound)
    (hrun : Transition.run (Patrol.step platform) s labels = some s') : s'.Sound :=
  Transition.run_invariant (fun h hstep => State.Sound.step h hstep) h hrun

/-- From a sound state on, no run takes anything back. -/
theorem extends_run {labels : List Label} (h : s.Sound)
    (hrun : Transition.run (step platform) s labels = some s') : s.db.Extends s'.db := by
  induction labels generalizing s with
  | nil =>
    cases hrun
    exact .refl _
  | cons label labels ih =>
    obtain ⟨next, hstep, hrest⟩ := Transition.run_cons_eq_some.mp hrun
    obtain ⟨hclock, hdb⟩ := dbStep_of_step hstep
    have hfirst : s.db.Extends next.db := hdb.extends (Db.Sound.checkpointIds h)
    exact hfirst.trans (ih (h.step hstep) hrest)

/-- The same run, its status kept or moved as allowed. -/
def Run.Moves (run later : Run) : Prop :=
  later.id = run.id ∧ (later.status = run.status ∨
    canTransitionPatrolRunStatus run.status later.status = true)

theorem Run.Moves.refl (run : Run) : run.Moves run := ⟨rfl, .inl rfl⟩

theorem completeIfFinished_moves {run later : Run} (hid : later.id = run.id)
    (hstatus : later.status = run.status) (now : Int) :
    run.Moves (completeIfFinished later now) := by
  unfold completeIfFinished
  split
  · exact ⟨hid, .inl hstatus⟩
  · rename_i hrunning
    split
    · exact ⟨hid, .inl hstatus⟩
    · refine ⟨hid, .inr ?_⟩
      rw [← hstatus, not_not.mp hrunning]
      rfl

theorem moves_putRun {run updated : Run} (hmem : run ∈ db.runs) (hmoves : run.Moves updated) :
    ∀ other ∈ db.runs, ∃ later ∈ (db.putRun updated).runs, other.Moves later := by
  intro other hother
  have hfollows : Table.Follows Run.Moves db.runs (db.putRun updated).runs :=
    .replace Run.Moves.refl db.runs_id hmem hmoves.1.symm hmoves
  exact hfollows.exists_later hother

theorem DbStep.moves (hstep : DbStep platform db now db') :
    ∀ run ∈ db.runs, ∃ later ∈ db'.runs, run.Moves later := by
  have hsame : db'.runs = db.runs → ∀ run ∈ db.runs, ∃ later ∈ db'.runs, run.Moves later :=
    fun hruns run hmem => ⟨run, hruns ▸ hmem, .refl run⟩
  cases hstep with
  | kept _ hruns => exact hsame hruns
  | missed hmem _ _ _ hdb =>
    subst hdb
    exact moves_putRun hmem (completeIfFinished_moves rfl rfl now)
  | commits _ hcommits =>
    cases hcommits with
    | createRoute _ hcreate => exact hsame (Db.createRouteRow_eq_some hcreate).2.2.1
    | publishVersion => exact hsame rfl
    | scheduleRun _ _ hcreate =>
      intro run hmem
      obtain ⟨-, hruns, -⟩ := Db.createRunRow_eq_some hcreate
      exact ⟨run, hruns ▸ List.mem_append_left _ hmem, .refl run⟩
    | startRun hrun _ hstatus _ hupdated =>
      subst hupdated
      refine moves_putRun (Db.findRun_eq_some hrun).1 ⟨rfl, .inr ?_⟩
      rw [hstatus]
      rfl
    | cancelRun hrun hstatus hupdated =>
      subst hupdated
      refine moves_putRun (Db.findRun_eq_some hrun).1 ⟨rfl, .inr ?_⟩
      rw [hstatus]
      rfl
    | abandonRun hrun hstatus hupdated =>
      subst hupdated
      refine moves_putRun (Db.findRun_eq_some hrun).1 ⟨rfl, .inr ?_⟩
      rw [hstatus]
      rfl
    | verifyCheckpoint hrun _ _ _ _ _ _ _ _ hupdated =>
      subst hupdated
      exact moves_putRun (Db.findRun_eq_some hrun).1 (completeIfFinished_moves rfl rfl _)

/-- A run that was started and not abandoned is completed exactly when all is settled. -/
theorem Run.Sound.completed_iff {run : Run} (h : run.Sound db clock)
    (hstarted : run.status.isStarted = true) (habandoned : run.status ≠ .abandoned) :
    run.status = .completed ↔ ∀ checkpoint ∈ run.checkpoints, checkpoint.state.isSettled = true := by
  refine ⟨h.settled, fun hsettled => ?_⟩
  cases hstatus : run.status with
  | completed => rfl
  | abandoned => exact (habandoned hstatus).elim
  | scheduled | cancelled =>
    rw [hstatus] at hstarted
    cases hstarted
  | inProgress =>
    obtain ⟨checkpoint, hmem, hpending⟩ := h.outstanding hstatus
    have hstate := hsettled checkpoint hmem
    rw [hpending] at hstate
    cases hstate

theorem Run.Sound.terminal {run : Run} (h : run.Sound db clock)
    (hterminal : run.status.isTerminal = true) :
    ∀ checkpoint ∈ run.checkpoints, checkpoint.state ≠ .pending := by
  intro checkpoint hmem hpending
  rw [h.pending checkpoint hmem hpending] at hterminal
  cases hterminal

/-- **The invariant of a patrol run**, in every reachable state: a run that was started and not
abandoned is completed exactly when all its checkpoints are settled, a terminal run has no pending
one, a step moves a status only as allowed, and what is pinned or settled stays as it is. -/
theorem patrolRun_invariant {labels : List Label} {s : State}
    (hrun : Transition.run (step platform) State.init labels = some s) :
    (∀ run ∈ s.db.runs, run.Sound s.db s.clock ∧
      (run.status.isStarted = true → run.status ≠ .abandoned → (run.status = .completed ↔
        ∀ checkpoint ∈ run.checkpoints, checkpoint.state.isSettled = true)) ∧
      (run.status.isTerminal = true →
        ∀ checkpoint ∈ run.checkpoints, checkpoint.state ≠ .pending)) ∧
    (∀ label s', step platform s label = some s' →
      ∀ run ∈ s.db.runs, ∃ later ∈ s'.db.runs, run.Moves later) ∧
    ∀ labels' s', Transition.run (step platform) s labels' = some s' →
      ∀ run ∈ s.db.runs, ∃ later ∈ s'.db.runs, run.Later later ∧
        s'.db.definitions later = s.db.definitions run := by
  have hsound : s.Sound := State.Sound.init.run hrun
  refine ⟨fun run hmem => ?_, fun label s' hstep => ?_, fun labels' s' hrun' run hmem => ?_⟩
  · have hrunSound : run.Sound s.db s.clock := hsound.runs run hmem
    exact ⟨hrunSound, hrunSound.completed_iff, hrunSound.terminal⟩
  · exact (dbStep_of_step hstep).2.moves
  · have hextends := extends_run hsound hrun'
    obtain ⟨later, hlater, hsame⟩ := hextends.runs.exists_later hmem
    have hpinned : s'.db.definitions later = s'.db.definitions run := by
      simp only [Db.definitions, hsame.patrolRouteId, hsame.routeVersion]
    exact ⟨later, hlater, hsame, hpinned.trans (definitions_eq (hsound.runs run hmem).pinned hextends)⟩

end System

/-! One checkpoint, whose run is abandoned after the deadline. -/

def plainPlatform : Platform :=
  { siteExistsInOrganisation := fun _ _ => true
    zoneExists := fun _ _ => true
    incidentInScope := fun _ _ _ => true
    jsonb := id }

/-- Ids that count. -/
def tally : Ids where
  next n := String.ofList (List.replicate n 'i')
  injective := by
    intro a b h
    have hlength := congrArg List.length (String.ofList_inj.mp h)
    rwa [List.length_replicate, List.length_replicate] at hlength

def guard : Caller := { organisationId := "org", userId := "guard", siteScope := .orgWide }

/-- A route of one checkpoint, due within a second, and a run of it that starts at 0. -/
def overdueRun : List Label :=
  let env (now : Int) : Env := { now, id := "r", ids := tally }
  [.roles [{ userId := "guard", organisationId := "org", role := "field.operative", siteId := "s" }],
    .call guard (.createRoute
      { siteId := "s", name := "round"
        checkpoints := [{ name := "gate", zoneId := none, location := none
                          offsets := ⟨0, 500, 1000, by decide, by decide⟩ }]
        idempotencyKey := "k" }) (env 0),
    .call guard (.scheduleRun
      { patrolRouteId := "r", assignedOperativeUserId := "guard", incidentId := none
        scheduledStartAt := 0, idempotencyKey := "k" }) (env 0),
    .commitSchedule 0 (env 0),
    .call guard (.startRun { runId := "r", idempotencyKey := "k" }) (env 0),
    .call guard (.abandonRun { runId := "r", idempotencyKey := "k" } (.operative none)) (env 2000)]

def overdueState : State := (Transition.run (step plainPlatform) .init overdueRun).getD .init

/-- The run of the guard, whose one checkpoint was missed. -/
theorem patrolRun_invariant_overdue :
    overdueState.db.runs.map (fun run => (run.status, run.checkpoints.map (·.state))) =
        [(.abandoned, [.missed])] ∧
      ∀ run ∈ overdueState.db.runs, run.Sound overdueState.db overdueState.clock := by
  have hrun : Transition.run (step plainPlatform) .init overdueRun = some overdueState :=
    Transition.run_eq_some_getD (by decide)
  exact ⟨by decide, fun run hmem => ((patrolRun_invariant hrun).1 run hmem).1⟩

theorem abandoned_not_completed :
    ¬ ∀ (labels : List Label) (s : State),
      Transition.run (step plainPlatform) .init labels = some s →
      ∀ run ∈ s.db.runs, run.status.isStarted = true → (run.status = .completed ↔
        ∀ checkpoint ∈ run.checkpoints, checkpoint.state.isSettled = true) := by
  intro h
  have hstates : (Transition.run (step plainPlatform) .init overdueRun).map
      (fun s => s.db.runs.map fun run => (run.status, run.checkpoints.map (·.state))) =
        some [(.abandoned, [.missed])] := by decide
  obtain ⟨s, hrun, hrows⟩ := Option.map_eq_some_iff.mp hstates
  obtain ⟨run, hruns, hrow⟩ := List.map_eq_singleton_iff.mp hrows
  obtain ⟨hstatus, hcheckpoints⟩ := Prod.mk.inj hrow
  have hmem : run ∈ s.db.runs := hruns ▸ List.mem_singleton.mpr rfl
  have hsettled : ∀ checkpoint ∈ run.checkpoints, checkpoint.state.isSettled = true := by
    intro checkpoint hcheckpoint
    have hstate : checkpoint.state ∈ [CheckpointState.missed] :=
      hcheckpoints ▸ List.mem_map_of_mem hcheckpoint
    rw [List.mem_singleton.mp hstate]
    rfl
  have hcompleted := (h overdueRun s hrun run hmem (hstatus ▸ rfl)).mpr hsettled
  rw [hstatus] at hcompleted
  cases hcompleted

end Sentinel.Patrol
