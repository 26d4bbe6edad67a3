import Sentinel.Spec.PatrolSteps

/-! # The invariant of a patrol run

Every writer of a run holds its lock.  What has to be restored inside a transaction is that a run in
progress has a pending checkpoint: `completeIfFinished` does that, and `abandonRun` ends the run. -/

namespace Sentinel.Patrol

/-! ## The invariant -/

def RunStatus.isStarted : RunStatus → Bool
  | .inProgress | .completed | .abandoned => true
  | .scheduled | .cancelled => false

def RunStatus.isTerminal : RunStatus → Bool
  | .completed | .abandoned | .cancelled => true
  | .scheduled | .inProgress => false

def CheckpointState.isVerified : CheckpointState → Bool
  | .verified | .late => true
  | .pending | .missed | .cancelled => false

/-- What a run started at an instant expects of a definition. -/
def CheckpointRow.expectation (startedAt : Int) (row : CheckpointRow) :
    String × Nat × CheckpointWindow :=
  (row.id, row.sequenceNumber, materialiseCheckpointWindow startedAt row.offsets)

def RunCheckpoint.expectation (checkpoint : RunCheckpoint) : String × Nat × CheckpointWindow :=
  (checkpoint.patrolCheckpointId, checkpoint.sequenceNumber, checkpoint.window)

def Run.verificationsOf (run : Run) (checkpoint : RunCheckpoint) : List Verification :=
  run.verifications.filter (·.patrolRunCheckpointId = checkpoint.id)

/-- A verification received from the assigned operative inside the window of its checkpoint. -/
structure InTime (operativeUserId : String) (checkpoint : RunCheckpoint)
    (verification : Verification) : Prop where
  operative : verification.operativeUserId = operativeUserId
  verificationId : checkpoint.verificationId = some verification.id
  resolvedAt : checkpoint.resolvedAt = some verification.recordedAt
  opens : checkpoint.window.windowOpensAt ≤ verification.recordedAt
  closes : verification.recordedAt ≤ checkpoint.window.missedAfter
  verified : checkpoint.state = .verified → verification.recordedAt ≤ checkpoint.window.lateAfter
  late : checkpoint.state = .late → checkpoint.window.lateAfter < verification.recordedAt

/-- The version a run is pinned to exists, and its definitions have an id each. -/
def Db.Pins (db : Db) (run : Run) (version : RouteVersion) : Prop :=
  (version.checkpoints.map (·.id)).Nodup ∧ ∃ route,
    db.routes.find? (·.id = run.patrolRouteId) = some route ∧
      route.versions.find? (·.version = run.routeVersion) = some version

/-- What holds of a run between the writes of one transaction too. -/
structure Run.Core (db : Db) (clock : Int) (run : Run) : Prop where
  pinned : ∃ version, db.Pins run version
  unstarted : run.status.isStarted = false →
    run.startedAt = none ∧ run.checkpoints = [] ∧ run.verifications = []
  /-- One checkpoint for each definition, its window counted from the start. -/
  started : run.status.isStarted = true → ∃ startedAt, run.startedAt = some startedAt ∧
    run.checkpoints ≠ [] ∧
      run.checkpoints.map (·.expectation) = (db.definitions run).map (·.expectation startedAt)
  ids : (run.checkpoints.map RunCheckpoint.id).Nodup
  running : run.status.isTerminal = false → run.endedAt = none
  pending : ∀ checkpoint ∈ run.checkpoints, checkpoint.state = .pending → run.status = .inProgress
  verified : ∀ checkpoint ∈ run.checkpoints, checkpoint.state.isVerified = true →
    ∃ verification, run.verificationsOf checkpoint = [verification] ∧
      InTime run.assignedOperativeUserId checkpoint verification
  unverified : ∀ checkpoint ∈ run.checkpoints, checkpoint.state.isVerified = false →
    run.verificationsOf checkpoint = []
  /-- Nothing below a checkpoint that was reached is pending. -/
  ordered : ∀ checkpoint ∈ run.checkpoints, checkpoint.state.isVerified = true →
    ∀ lower ∈ run.checkpoints, lower.sequenceNumber < checkpoint.sequenceNumber →
      lower.state ≠ .pending
  missed : ∀ checkpoint ∈ run.checkpoints, checkpoint.state = .missed →
    checkpoint.window.missedAfter < run.endedAt.getD clock
  cancelled : ∀ checkpoint ∈ run.checkpoints, checkpoint.state = .cancelled →
    run.status = .abandoned ∧ ∃ endedAt, run.endedAt = some endedAt ∧
      endedAt ≤ checkpoint.window.missedAfter

structure Run.Sound (db : Db) (clock : Int) (run : Run) : Prop extends Run.Core db clock run where
  outstanding : run.status = .inProgress →
    ∃ checkpoint ∈ run.checkpoints, checkpoint.state = .pending
  settled : run.status = .completed →
    ∀ checkpoint ∈ run.checkpoints, checkpoint.state.isSettled = true

/-- A route has the version it points to, and the definitions of each version have an id each. -/
structure Route.Sound (route : Route) : Prop where
  current : ∃ version ∈ route.versions, version.version = route.currentVersion
  ids : ∀ version ∈ route.versions, (version.checkpoints.map (·.id)).Nodup

/-! ## What holds of later tables -/

section Frame

variable {db later : Db} {run : Run} {clock now : Int}

theorem Db.Pins.definitions {version : RouteVersion} (h : db.Pins run version) :
    db.definitions run = version.checkpoints := by
  obtain ⟨-, route, hroute, hversion⟩ := h
  rw [Db.definitions, hroute, Option.map_some, Option.getD_some, Route.definitions, hversion]
  rfl

/-- A pinned version is the same one ever after. -/
theorem Db.Pins.mono {version : RouteVersion} (h : db.Pins run version)
    (hextends : db.Extends later) : later.Pins run version := by
  obtain ⟨hids, route, hroute, hversion⟩ := h
  obtain ⟨route', hroute', hsame⟩ :=
    hextends.routes.find? (fun hab => by rw [hab.id]) hroute
  exact ⟨hids, route', hroute', hsame.versions.find?_eq_some hversion⟩

theorem definitions_eq (h : ∃ version, db.Pins run version) (hextends : db.Extends later) :
    later.definitions run = db.definitions run := by
  obtain ⟨version, hpins⟩ := h
  rw [(hpins.mono hextends).definitions, hpins.definitions]

/-- The writes of the others leave a run sound. -/
theorem Run.Core.mono (h : run.Core db clock) (hextends : db.Extends later) (hclock : clock ≤ now) :
    run.Core later now :=
  { h with
    pinned := h.pinned.imp fun _ hpins => hpins.mono hextends
    started := by
      intro hstarted
      rw [definitions_eq h.pinned hextends]
      exact h.started hstarted
    missed := by
      intro checkpoint hmem hstate
      have hpassed := h.missed checkpoint hmem hstate
      cases hended : run.endedAt with
      | none =>
        rw [hended, Option.getD_none] at hpassed
        exact lt_of_lt_of_le hpassed hclock
      | some endedAt =>
        rw [hended, Option.getD_some] at hpassed
        exact hpassed }

theorem Run.Sound.mono (h : run.Sound db clock) (hextends : db.Extends later)
    (hclock : clock ≤ now) : run.Sound later now :=
  { h.toCore.mono hextends hclock with
    outstanding := h.outstanding
    settled := h.settled }

end Frame

section Writes

variable {db : Db} {run : Run} {clock now : Int}

/-- The window of a checkpoint closes after its lateness begins. -/
theorem Run.Core.late_le_missed (h : run.Core db clock) {checkpoint : RunCheckpoint}
    (hmem : checkpoint ∈ run.checkpoints) :
    checkpoint.window.lateAfter ≤ checkpoint.window.missedAfter := by
  have hstarted : run.status.isStarted = true := by
    by_contra hunstarted
    have hnone := (h.unstarted (Bool.not_eq_true _ ▸ hunstarted)).2.1
    rw [hnone] at hmem
    cases hmem
  obtain ⟨startedAt, -, -, hexpected⟩ := h.started hstarted
  have hexpectation : checkpoint.expectation ∈ (db.definitions run).map (·.expectation startedAt) :=
    hexpected ▸ List.mem_map_of_mem hmem
  obtain ⟨definition, -, heq⟩ := List.mem_map.mp hexpectation
  have hwindow : checkpoint.window = materialiseCheckpointWindow startedAt definition.offsets :=
    (congrArg (·.2.2) heq).symm
  have horder := definition.offsets.late_le_missed
  rw [hwindow]
  simp only [materialiseCheckpointWindow]
  omega

/-- `recordAction` writes a column that the invariant does not read. -/
theorem Run.Sound.recordAction (h : run.Sound db clock) (actorUserId : String) (action : RunAction)
    (idempotencyKey : String) :
    (run.recordAction actorUserId action idempotencyKey).Sound db clock :=
  { pinned := h.pinned, unstarted := h.unstarted, started := h.started, ids := h.ids
    running := h.running, pending := h.pending, verified := h.verified
    unverified := h.unverified, ordered := h.ordered, missed := h.missed
    cancelled := h.cancelled, outstanding := h.outstanding, settled := h.settled }

/-! ### Starting -/

theorem map_expectation_materialise (startedAt : Int) (ids : Ids) (definitions : List CheckpointRow) :
    (materialise startedAt ids definitions).map (·.expectation) =
      definitions.map (·.expectation startedAt) := by
  refine List.ext_getElem (by simp [materialise]) fun i _ _ => ?_
  simp [materialise, RunCheckpoint.expectation, CheckpointRow.expectation]

theorem map_id_materialise (startedAt : Int) (ids : Ids) (definitions : List CheckpointRow) :
    (materialise startedAt ids definitions).map RunCheckpoint.id =
      (List.range definitions.length).map ids.next := by
  refine List.ext_getElem (by simp [materialise]) fun i _ _ => ?_
  simp [materialise]

theorem state_of_mem_materialise {startedAt : Int} {ids : Ids} {definitions : List CheckpointRow}
    {checkpoint : RunCheckpoint} (h : checkpoint ∈ materialise startedAt ids definitions) :
    checkpoint.state = .pending := by
  obtain ⟨i, hi, rfl⟩ := List.mem_mapIdx.mp h
  rfl

theorem Run.Sound.start (h : run.Sound db clock) (hstatus : run.status = .scheduled)
    (hdefinitions : db.definitions run ≠ []) (ids : Ids) :
    (run.start now (materialise now ids (db.definitions run))).Sound db now := by
  obtain ⟨-, hnone, hverifications⟩ := h.unstarted (hstatus ▸ rfl)
  have hcheckpoints : (run.start now (materialise now ids (db.definitions run))).checkpoints =
      materialise now ids (db.definitions run) := by
    simp only [Run.start, hnone, List.nil_append]
  have hpending : ∀ checkpoint ∈
      (run.start now (materialise now ids (db.definitions run))).checkpoints,
      checkpoint.state = .pending := by
    intro checkpoint hmem
    rw [hcheckpoints] at hmem
    exact state_of_mem_materialise hmem
  have hnonempty : materialise now ids (db.definitions run) ≠ [] := by
    intro hempty
    have hlength := congrArg List.length (map_expectation_materialise now ids (db.definitions run))
    rw [hempty, List.map_nil, List.length_nil, List.length_map] at hlength
    exact hdefinitions (List.length_eq_zero_iff.mp hlength.symm)
  exact
    { pinned := h.pinned
      unstarted := fun hunstarted => nomatch hunstarted
      started := by
        intro _
        refine ⟨now, rfl, ?_, ?_⟩
        · rw [hcheckpoints]
          exact hnonempty
        · rw [hcheckpoints]
          exact map_expectation_materialise now ids _
      ids := by
        rw [hcheckpoints, map_id_materialise]
        exact List.Nodup.map ids.injective List.nodup_range
      running := fun _ => h.running (hstatus ▸ rfl)
      pending := fun _ _ _ => rfl
      verified := by
        intro checkpoint hmem hverified
        rw [hpending checkpoint hmem] at hverified
        cases hverified
      unverified := by
        intro checkpoint _ _
        show run.verifications.filter _ = []
        rw [hverifications, List.filter_nil]
      ordered := by
        intro checkpoint hmem hverified
        rw [hpending checkpoint hmem] at hverified
        cases hverified
      missed := by
        intro checkpoint hmem hmissed
        rw [hpending checkpoint hmem] at hmissed
        cases hmissed
      cancelled := by
        intro checkpoint hmem hcancelled
        rw [hpending checkpoint hmem] at hcancelled
        cases hcancelled
      outstanding := by
        intro _
        obtain ⟨checkpoint, hmem⟩ := List.exists_mem_of_ne_nil _ (hcheckpoints ▸ hnonempty)
        exact ⟨checkpoint, hmem, hpending checkpoint hmem⟩
      settled := fun hcompleted => nomatch hcompleted }

/-! ### Ending -/

theorem Run.Sound.cancel (h : run.Sound db clock) (hstatus : run.status = .scheduled) :
    (run.cancel now).Sound db now := by
  obtain ⟨hstartedAt, hnone, hverifications⟩ := h.unstarted (hstatus ▸ rfl)
  have hnot : ∀ checkpoint, checkpoint ∉ (run.cancel now).checkpoints := by
    intro checkpoint hmem
    have hold : checkpoint ∈ run.checkpoints := hmem
    rw [hnone] at hold
    cases hold
  exact
    { pinned := h.pinned
      unstarted := fun _ => ⟨hstartedAt, hnone, hverifications⟩
      started := fun hstarted => nomatch hstarted
      ids := h.ids
      running := fun hrunning => nomatch hrunning
      pending := fun checkpoint hmem => (hnot checkpoint hmem).elim
      verified := fun checkpoint hmem => (hnot checkpoint hmem).elim
      unverified := fun checkpoint hmem => (hnot checkpoint hmem).elim
      ordered := fun checkpoint hmem => (hnot checkpoint hmem).elim
      missed := fun checkpoint hmem => (hnot checkpoint hmem).elim
      cancelled := fun checkpoint hmem => (hnot checkpoint hmem).elim
      outstanding := fun hrunning => nomatch hrunning
      settled := fun hcompleted => nomatch hcompleted }

/-- An overdue checkpoint is missed, one still ahead is cancelled, and the others stay. -/
theorem abandonCheckpoint_cases (now : Int) (checkpoint : RunCheckpoint) :
    checkpoint.state ≠ .pending ∧ abandonCheckpoint now checkpoint = checkpoint ∨
      checkpoint.state = .pending ∧ checkpoint.window.missedAfter < now ∧
        abandonCheckpoint now checkpoint = { checkpoint with state := .missed } ∨
      checkpoint.state = .pending ∧ now ≤ checkpoint.window.missedAfter ∧
        abandonCheckpoint now checkpoint = { checkpoint with state := .cancelled } := by
  by_cases hpending : checkpoint.state = .pending
  · by_cases hpassed : checkpoint.window.missedAfter < now
    · refine .inr (.inl ⟨hpending, hpassed, ?_⟩)
      simp only [abandonCheckpoint, resolveAbandonedCheckpointState, hpending, hpassed, if_true,
        ne_eq, not_true_eq_false, if_false]
    · refine .inr (.inr ⟨hpending, not_lt.mp hpassed, ?_⟩)
      simp only [abandonCheckpoint, resolveAbandonedCheckpointState, hpending, hpassed,
        ne_eq, not_true_eq_false, if_false]
  · refine .inl ⟨hpending, ?_⟩
    simp only [abandonCheckpoint, resolveAbandonedCheckpointState, ne_eq, hpending,
      not_false_eq_true, if_true]

theorem Run.Sound.abandon (h : run.Sound db now) (hstatus : run.status = .inProgress)
    (reason : Option String) : (run.abandon now reason).Sound db now := by
  -- nothing is cancelled yet, and what was reached stays as it is
  have hcancelledNot : ∀ checkpoint ∈ run.checkpoints, checkpoint.state ≠ .cancelled := by
    intro checkpoint hmem hcancelled
    have habandoned := (h.cancelled checkpoint hmem hcancelled).1
    rw [hstatus] at habandoned
    cases habandoned
  have hkept : ∀ checkpoint ∈ run.checkpoints,
      (abandonCheckpoint now checkpoint).state.isVerified = true →
        abandonCheckpoint now checkpoint = checkpoint := by
    intro checkpoint _ hverified
    rcases abandonCheckpoint_cases now checkpoint with ⟨-, heq⟩ | ⟨-, -, heq⟩ | ⟨-, -, heq⟩
    · exact heq
    · rw [heq] at hverified
      cases hverified
    · rw [heq] at hverified
      cases hverified
  have hnotPending : ∀ checkpoint, (abandonCheckpoint now checkpoint).state ≠ .pending := by
    intro checkpoint
    rcases abandonCheckpoint_cases now checkpoint with ⟨hstate, heq⟩ | ⟨-, -, heq⟩ | ⟨-, -, heq⟩
    · rw [heq]
      exact hstate
    · rw [heq]
      exact fun hcontra => nomatch hcontra
    · rw [heq]
      exact fun hcontra => nomatch hcontra
  have hid : ∀ checkpoint, (abandonCheckpoint now checkpoint).id = checkpoint.id := fun checkpoint =>
    (Run.Later.abandonCheckpoint_later now checkpoint).id
  exact
    { pinned := h.pinned
      unstarted := fun hunstarted => nomatch hunstarted
      started := by
        intro _
        obtain ⟨startedAt, hstartedAt, hnonempty, hexpected⟩ := h.started (hstatus ▸ rfl)
        refine ⟨startedAt, hstartedAt, fun hempty => hnonempty (List.map_eq_nil_iff.mp hempty), ?_⟩
        refine Eq.trans ?_ hexpected
        show (run.checkpoints.map (abandonCheckpoint now)).map _ = _
        rw [List.map_map]
        refine List.map_congr_left fun checkpoint _ => ?_
        have hlater := Run.Later.abandonCheckpoint_later now checkpoint
        simp only [Function.comp_apply, RunCheckpoint.expectation, hlater.patrolCheckpointId,
          hlater.sequenceNumber, hlater.window]
      ids := by
        have hsame : (run.checkpoints.map (abandonCheckpoint now)).map RunCheckpoint.id =
            run.checkpoints.map RunCheckpoint.id := by
          rw [List.map_map]
          exact List.map_congr_left fun checkpoint _ => hid checkpoint
        show ((run.checkpoints.map (abandonCheckpoint now)).map RunCheckpoint.id).Nodup
        rw [hsame]
        exact h.ids
      running := fun hrunning => nomatch hrunning
      pending := by
        intro checkpoint hmem hpending
        obtain ⟨old, -, rfl⟩ := List.mem_map.mp hmem
        exact (hnotPending old hpending).elim
      verified := by
        intro checkpoint hmem hverified
        obtain ⟨old, hold, rfl⟩ := List.mem_map.mp hmem
        have hsame := hkept old hold hverified
        rw [hsame] at hverified ⊢
        exact h.verified old hold hverified
      unverified := by
        intro checkpoint hmem hunverified
        obtain ⟨old, hold, rfl⟩ := List.mem_map.mp hmem
        have hsame : (run.abandon now reason).verificationsOf (abandonCheckpoint now old) =
            run.verificationsOf old := by
          simp only [Run.verificationsOf, hid old]
          rfl
        rw [hsame]
        refine h.unverified old hold ?_
        rcases abandonCheckpoint_cases now old with ⟨-, heq⟩ | ⟨hstate, -, -⟩ | ⟨hstate, -, -⟩
        · rw [heq] at hunverified
          exact hunverified
        · rw [hstate]
          rfl
        · rw [hstate]
          rfl
      ordered := by
        intro checkpoint _ _ lower hlower _
        obtain ⟨old, -, rfl⟩ := List.mem_map.mp hlower
        exact hnotPending old
      missed := by
        intro checkpoint hmem hmissed
        obtain ⟨old, hold, rfl⟩ := List.mem_map.mp hmem
        rcases abandonCheckpoint_cases now old with ⟨-, heq⟩ | ⟨-, hpassed, heq⟩ | ⟨-, -, heq⟩
        · rw [heq] at hmissed ⊢
          have hpassed := h.missed old hold hmissed
          rw [h.running (hstatus ▸ rfl)] at hpassed
          exact hpassed
        · rw [heq]
          exact hpassed
        · rw [heq] at hmissed
          cases hmissed
      cancelled := by
        intro checkpoint hmem hcancelled
        obtain ⟨old, hold, rfl⟩ := List.mem_map.mp hmem
        rcases abandonCheckpoint_cases now old with ⟨-, heq⟩ | ⟨-, -, heq⟩ | ⟨-, hahead, heq⟩
        · rw [heq] at hcancelled
          exact (hcancelledNot old hold hcancelled).elim
        · rw [heq] at hcancelled
          cases hcancelled
        · rw [heq]
          exact ⟨rfl, now, rfl, hahead⟩
      outstanding := fun hrunning => nomatch hrunning
      settled := fun hcompleted => nomatch hcompleted }

/-- A run in progress with one pending checkpoint resolved, and the verification if there is one. -/
theorem Run.Sound.resolve (h : run.Sound db now) (hstatus : run.status = .inProgress)
    {checkpoint resolved : RunCheckpoint} {added : List Verification}
    (hmem : checkpoint ∈ run.checkpoints) (hlater : CheckpointLater checkpoint resolved)
    (hadded : ∀ verification ∈ added, verification.patrolRunCheckpointId = checkpoint.id)
    (hpending : checkpoint.state = .pending)
    (hstate : resolved.state = .missed ∧ added = [] ∧ resolved.window.missedAfter < now ∨
      resolved.state.isVerified = true ∧
        (∃ verification, added = [verification] ∧
          InTime run.assignedOperativeUserId resolved verification) ∧
        ∀ lower ∈ run.checkpoints, lower.sequenceNumber < checkpoint.sequenceNumber →
          lower.state ≠ .pending) :
    Run.Core db now
      { run.putCheckpoint resolved with verifications := run.verifications ++ added } := by
  have hold : run.verificationsOf checkpoint = [] :=
    h.unverified checkpoint hmem (hpending ▸ rfl)
  have hsettled : resolved.state ≠ .pending ∧ resolved.state ≠ .cancelled := by
    rcases hstate with ⟨hmissed, -, -⟩ | ⟨hverified, -, -⟩
    · rw [hmissed]
      exact ⟨by decide, by decide⟩
    · refine ⟨fun hcontra => ?_, fun hcontra => ?_⟩
      · rw [hcontra] at hverified
        cases hverified
      · rw [hcontra] at hverified
        cases hverified
  -- the verifications of the checkpoint are those added, and those of the others are the old ones
  have hown : (run.verifications ++ added).filter (·.patrolRunCheckpointId = resolved.id) =
      added := by
    rw [List.filter_append, hlater.id]
    have hnone : run.verifications.filter (·.patrolRunCheckpointId = checkpoint.id) = [] := hold
    rw [hnone, List.nil_append]
    exact List.filter_eq_self.mpr fun verification hv => decide_eq_true (hadded verification hv)
  have hothers : ∀ other : RunCheckpoint, other.id ≠ resolved.id →
      (run.verifications ++ added).filter (·.patrolRunCheckpointId = other.id) =
        run.verificationsOf other := by
    intro other hne
    rw [List.filter_append]
    have hnone : added.filter (·.patrolRunCheckpointId = other.id) = [] := by
      refine List.filter_eq_nil_iff.mpr fun verification hv hsame => hne ?_
      rw [hlater.id, ← hadded verification hv, of_decide_eq_true hsame]
    rw [hnone, List.append_nil]
    rfl
  have hfollows : Table.Follows CheckpointLater run.checkpoints
      (Table.replace RunCheckpoint.id resolved run.checkpoints) :=
    Table.Follows.replace CheckpointLater.refl h.ids hmem hlater.id.symm hlater
  exact
    { pinned := h.pinned
      unstarted := fun hunstarted => by
        have hstarted : run.status.isStarted = false := hunstarted
        rw [hstatus] at hstarted
        cases hstarted
      started := by
        intro _
        obtain ⟨startedAt, hstartedAt, hnonempty, hexpected⟩ := h.started (hstatus ▸ rfl)
        refine ⟨startedAt, hstartedAt, ?_, ?_⟩
        · exact List.ne_nil_of_length_pos
            (hfollows.length_eq ▸ List.length_pos_iff.mpr hnonempty)
        · refine Eq.trans (hfollows.map_eq (·.expectation) fun hab => ?_) hexpected
          simp only [RunCheckpoint.expectation, hab.patrolCheckpointId, hab.sequenceNumber,
            hab.window]
      ids := Table.nodup_map_replace h.ids
      running := h.running
      pending := by
        intro other hother hpending'
        cases Table.mem_replace hother with
        | inl hnew => exact (hsettled.1 (hnew ▸ hpending')).elim
        | inr hrest => exact h.pending other hrest.1 hpending'
      verified := by
        intro other hother hverified
        cases Table.mem_replace hother with
        | inl hnew =>
          subst hnew
          rcases hstate with ⟨hmissed, -, -⟩ | ⟨-, ⟨verification, hone, hintime⟩, -⟩
          · rw [hmissed] at hverified
            cases hverified
          · exact ⟨verification, hown.trans hone, hintime⟩
        | inr hrest =>
          obtain ⟨verification, hone, hintime⟩ := h.verified other hrest.1 hverified
          exact ⟨verification, (hothers other hrest.2).trans hone, hintime⟩
      unverified := by
        intro other hother hunverified
        cases Table.mem_replace hother with
        | inl hnew =>
          subst hnew
          rcases hstate with ⟨-, hnone, -⟩ | ⟨hverified, -, -⟩
          · exact hown.trans hnone
          · rw [hverified] at hunverified
            cases hunverified
        | inr hrest => exact (hothers other hrest.2).trans (h.unverified other hrest.1 hunverified)
      ordered := by
        intro other hother hverified lower hlower hbelow hpending'
        have hlowerOld : lower ∈ run.checkpoints := by
          cases Table.mem_replace hlower with
          | inl hnew => exact (hsettled.1 (hnew ▸ hpending')).elim
          | inr hrest => exact hrest.1
        cases Table.mem_replace hother with
        | inl hnew =>
          subst hnew
          rcases hstate with ⟨hmissed, -, -⟩ | ⟨-, -, hsequence⟩
          · rw [hmissed] at hverified
            cases hverified
          · rw [hlater.sequenceNumber] at hbelow
            exact hsequence lower hlowerOld hbelow hpending'
        | inr hrest => exact h.ordered other hrest.1 hverified lower hlowerOld hbelow hpending'
      missed := by
        intro other hother hmissed
        cases Table.mem_replace hother with
        | inl hnew =>
          subst hnew
          rcases hstate with ⟨-, -, hpassed⟩ | ⟨hverified, -, -⟩
          · show _ < run.endedAt.getD now
            rw [h.running (hstatus ▸ rfl)]
            exact hpassed
          · rw [hmissed] at hverified
            cases hverified
        | inr hrest => exact h.missed other hrest.1 hmissed
      cancelled := by
        intro other hother hcancelled
        cases Table.mem_replace hother with
        | inl hnew => exact (hsettled.2 (hnew ▸ hcancelled)).elim
        | inr hrest => exact h.cancelled other hrest.1 hcancelled }

/-- `completeIfFinished` restores what a resolved checkpoint may have broken. -/
theorem Run.Core.complete (h : run.Core db now) (hstatus : run.status = .inProgress) :
    (completeIfFinished run now).Sound db now := by
  obtain ⟨startedAt, hstartedAt, hnonempty, hexpected⟩ := h.started (hstatus ▸ rfl)
  have hcancelledNot : ∀ checkpoint ∈ run.checkpoints, checkpoint.state ≠ .cancelled := by
    intro checkpoint hmem hcancelled
    have habandoned := (h.cancelled checkpoint hmem hcancelled).1
    rw [hstatus] at habandoned
    cases habandoned
  unfold completeIfFinished
  rw [if_neg (not_not_intro hstatus)]
  by_cases hcomplete : canCompletePatrolRun (run.checkpoints.map (·.state)) = true
  · rw [if_neg (by simp [hcomplete])]
    have hsettled : ∀ checkpoint ∈ run.checkpoints, checkpoint.state.isSettled = true := by
      intro checkpoint hmem
      have hall := (of_decide_eq_true hcomplete).2
      exact List.all_eq_true.mp hall checkpoint.state (List.mem_map_of_mem hmem)
    exact
      { pinned := h.pinned
        unstarted := fun hunstarted => nomatch hunstarted
        started := fun _ => ⟨startedAt, hstartedAt, hnonempty, hexpected⟩
        ids := h.ids
        running := fun hrunning => nomatch hrunning
        pending := by
          intro checkpoint hmem hpending
          have hstate := hsettled checkpoint hmem
          rw [hpending] at hstate
          cases hstate
        verified := h.verified
        unverified := h.unverified
        ordered := h.ordered
        missed := by
          intro checkpoint hmem hmissed
          have hpassed := h.missed checkpoint hmem hmissed
          rw [h.running (hstatus ▸ rfl)] at hpassed
          exact hpassed
        cancelled := fun checkpoint hmem hcancelled =>
          (hcancelledNot checkpoint hmem hcancelled).elim
        outstanding := fun hrunning => nomatch hrunning
        settled := fun _ => hsettled }
  · rw [if_pos (by simp [hcomplete])]
    refine { h with outstanding := fun _ => ?_, settled := fun hcompleted => ?_ }
    · -- a checkpoint that is not settled is pending, since none is cancelled
      by_contra hnone
      refine hcomplete (decide_eq_true ⟨?_, List.all_eq_true.mpr fun state hmem => ?_⟩)
      · exact fun hempty => hnonempty (List.map_eq_nil_iff.mp hempty)
      · obtain ⟨checkpoint, hcheckpoint, rfl⟩ := List.mem_map.mp hmem
        cases hstate : checkpoint.state with
        | pending => exact (hnone ⟨checkpoint, hcheckpoint, hstate⟩).elim
        | verified | late | missed => rfl
        | cancelled => exact (hcancelledNot checkpoint hcheckpoint hstate).elim
    · rw [hstatus] at hcompleted
      cases hcompleted

end Writes

end Sentinel.Patrol
