import Sentinel.Spec.FusionStoreInvariant

/-! # Fusion refines the pure fold

However the steps of the workers interleave, every stored hypothesis is the fold of `applySignal`
over the distinct events applied to it, its log is one chain from state 0, and the latch hands out
the emission numbers one by one. -/

namespace Sentinel.Fusion

/-! ## Emissions -/

def Message.candidates : Message × Bool → List IncidentCandidateMessage
  | (.candidate message, _) => [message]
  | (.update _, _) => []

/-- The candidate a worker has produced and not yet handed to the publisher. -/
def Worker.pending : Worker → List IncidentCandidateMessage
  | .publishingUpdate _ _ candidate => candidate.toList
  | .publishingCandidate _ _ candidate => [candidate]
  | _ => []

/-- Every candidate produced so far: handed to the publisher, or still with its worker. -/
def State.candidates (s : State) : List IncidentCandidateMessage :=
  s.handed.flatMap Message.candidates ++ s.workers.flatMap Worker.pending

/-- The candidates produced agree with the counts in the store. -/
structure Emissions (db : Db) (produced : List IncidentCandidateMessage) : Prop where
  owned : ∀ c ∈ produced, ∃ row ∈ db.hypotheses, row.id = c.hypothesisId
  /-- The numbers 1, 2, 3, … up to the count, each once. -/
  numbered : ∀ row ∈ db.hypotheses,
    ((produced.filter fun c => c.hypothesisId = row.id).map (·.emissionNumber)).Perm
      (List.range' 1 row.incidentCandidateEmissions)
  reEscalation : ∀ c ∈ produced, c.reEscalation = decide (c.emissionNumber ≠ 1)

namespace Emissions

variable {events : List NormalisedEvent} {db : Db} {row : HypothesisRow} {m : MappedEvent}
  {produced produced' : List IncidentCandidateMessage}

theorem perm (h : Emissions db produced) (hperm : produced.Perm produced') :
    Emissions db produced' where
  owned := fun c hc => h.owned c (hperm.mem_iff.mpr hc)
  numbered := fun row hrow => (((hperm.filter _).map _).symm).trans (h.numbered row hrow)
  reEscalation := fun c hc => h.reEscalation c (hperm.mem_iff.mpr hc)

/-- A new row has emitted nothing. -/
theorem opened (h : Emissions db produced) {correlation : CorrelationKey}
    {id incidentCandidateId : String}
    (hrow : row = (windowSeed correlation).row id incidentCandidateId)
    (hnew : ∀ old ∈ db.hypotheses, old.id ≠ row.id) :
    Emissions { db with hypotheses := db.hypotheses ++ [row] } produced where
  owned := fun c hc => by
    obtain ⟨old, hold, hid⟩ := h.owned c hc
    exact ⟨old, List.mem_append_left _ hold, hid⟩
  numbered := fun old hold => by
    rcases List.mem_append.mp hold with hold | hold
    · exact h.numbered old hold
    · have hnone : produced.filter (fun c => c.hypothesisId = row.id) = [] := by
        refine List.filter_eq_nil_iff.mpr fun c hc => ?_
        obtain ⟨owner, howner, hid⟩ := h.owned c hc
        simpa [← hid] using hnew owner howner
      rw [List.mem_singleton.mp hold, hnone, hrow]
      exact .refl _
  reEscalation := h.reEscalation

/-- A committed application produces the candidate that its latch decides on. -/
theorem absorbed (h : Emissions db produced) (hdb : db.Inv events) (hrow : row ∈ db.hypotheses) :
    Emissions (db.absorbed row m)
      ((candidateMessage row (row.absorb m) m).toList ++ produced) := by
  have hgrows := Db.grows_absorbed (m := m) hdb hrow
  have howned : ∀ c ∈ produced,
      ∃ new ∈ (db.absorbed row m).hypotheses, new.id = c.hypothesisId := fun c hc => by
    obtain ⟨owner, howner, hid⟩ := h.owned c hc
    obtain ⟨later, hlater, hgrown⟩ := hgrows.rows owner howner
    exact ⟨later, hlater, hgrown.id.trans hid⟩
  have hself : row.absorb m ∈ (db.absorbed row m).hypotheses :=
    (Db.mem_absorbed hdb hrow).mpr (.inl rfl)
  have hother : ∀ new ∈ db.hypotheses, new ≠ row → new.id ≠ row.id := fun new hnew hne hid =>
    hne (Table.eq_of_key hdb.ids hnew hrow hid)
  have hremembers : row.LatchRemembers := (hdb.wellFormed hrow).emitted
  rcases emission_of_absorb hremembers m with
    ⟨hsilent, hsame⟩ | ⟨c, hc, howner, hnumber, hcount, hagain⟩
  · rw [hsilent]
    refine ⟨howned, fun new hnew => ?_, h.reEscalation⟩
    rcases (Db.mem_absorbed hdb hrow).mp hnew with rfl | ⟨hold, _⟩
    · rw [hsame]
      exact h.numbered row hrow
    · exact h.numbered new hold
  · rw [hc]
    refine ⟨fun d hd => ?_, fun new hnew => ?_, fun d hd => ?_⟩
    · rcases List.mem_cons.mp hd with rfl | hd
      · exact ⟨row.absorb m, hself, howner.symm⟩
      · exact howned d hd
    · rcases (Db.mem_absorbed hdb hrow).mp hnew with rfl | ⟨hold, hne⟩
      · -- the next number goes to the end of the range
        have hrange : List.range' 1 (row.absorb m).incidentCandidateEmissions =
            List.range' 1 row.incidentCandidateEmissions ++ [c.emissionNumber] := by
          rw [hcount, List.range'_concat, hnumber]
          simp [Nat.add_comm]
        have hfilter : (c :: produced).filter (fun d => d.hypothesisId = (row.absorb m).id) =
            c :: produced.filter fun d => d.hypothesisId = row.id := by
          rw [absorb_id, List.filter_cons_of_pos (by simpa using howner)]
        rw [hrange, Option.toList_some, List.singleton_append, hfilter, List.map_cons]
        exact ((h.numbered row hrow).cons _).trans (List.perm_append_singleton ..).symm
      · have hmiss : (c :: produced).filter (fun d => d.hypothesisId = new.id) =
            produced.filter fun d => d.hypothesisId = new.id := by
          refine List.filter_cons_of_neg ?_
          simpa [howner] using Ne.symm (hother new hold hne)
        rw [Option.toList_some, List.singleton_append, hmiss]
        exact h.numbered new hold
    · rcases List.mem_cons.mp hd with rfl | hd
      · exact hagain
      · exact h.reEscalation d hd

end Emissions

/-! ## What a worker owes to the store -/

/-- What must hold of the store for the worker to be where it is. -/
def Worker.Owes (db : Db) : Worker → Prop
  | .applying _ m row => db.ReadFrom row ∧ row.correlationKey = m.correlation.key
  | .publishingUpdate m _ _ | .publishingCandidate m _ _ => db.Recorded m.event.key
  | .finished event _ => db.Recorded event.key
  | .received _ | .loading .. | .creating .. | .rereading .. | .failed _ => True

/-- Writes of other workers take nothing of it away. -/
theorem Worker.Owes.grows {db db' : Db} {worker : Worker} (h : worker.Owes db)
    (hgrows : db.Grows db') : worker.Owes db' := by
  cases worker with
  | applying attempt m row => exact ⟨h.1.grows hgrows, h.2⟩
  | publishingUpdate m update candidate => exact hgrows.recorded _ h
  | publishingCandidate m update candidate => exact hgrows.recorded _ h
  | finished event result => exact hgrows.recorded _ h
  | received event => trivial
  | loading attempt m => trivial
  | creating attempt m => trivial
  | rereading attempt m => trivial
  | failed event => trivial

theorem findByCorrelationKey_eq_some {db : Db} {key : String} {row : HypothesisRow}
    (h : db.findByCorrelationKey key = some row) :
    row ∈ db.hypotheses ∧ row.correlationKey = key :=
  Table.of_find? h

theorem recorded_of_findAppliedEvent {db : Db} {event : NormalisedEvent}
    (h : (db.findAppliedEvent event.organisationId event.eventId).isSome = true) :
    db.Recorded event.key := by
  obtain ⟨a, ha⟩ := Option.isSome_iff_exists.mp h
  have hkey : a.key = (event.organisationId, event.eventId) := by simpa using List.find?_some ha
  exact ⟨a, List.mem_of_find?_eq_some ha, hkey⟩

/-- A row just read is the current one. -/
theorem readFrom_of_mem {db : Db} {row : HypothesisRow} (h : row ∈ db.hypotheses) :
    db.ReadFrom row :=
  ⟨row, h, .refl row⟩

/-! ## One step of a worker -/

/-- What one step of a worker does: the store's invariant is kept, and what the worker
    produces is what the store counts. -/
structure Advanced (events : List NormalisedEvent) (db : Db) (worker : Worker)
    (progress : Progress) : Prop where
  event : progress.2.1.event = worker.event
  inv : progress.1.Inv events
  grows : db.Grows progress.1
  owes : progress.2.1.Owes progress.1
  emits : ∃ fresh : List IncidentCandidateMessage,
    (progress.2.2.flatMap Message.candidates ++ progress.2.1.pending).Perm
      (fresh ++ worker.pending) ∧
    ∀ produced, Emissions db produced → Emissions progress.1 (fresh ++ produced)

section Advance

variable {events : List NormalisedEvent} {db : Db} {worker worker' : Worker}
  {messages : List (Message × Bool)}

/-- A step that leaves the store alone and produces nothing new. -/
theorem Advanced.quiet (hdb : db.Inv events) (hevent : worker'.event = worker.event)
    (howes : worker'.Owes db)
    (hpending : messages.flatMap Message.candidates ++ worker'.pending = worker.pending) :
    Advanced events db worker (db, worker', messages) where
  event := hevent
  inv := hdb
  grows := .refl db
  owes := howes
  emits := ⟨[], by rw [hpending]; rfl, fun _ h => h⟩

theorem nextAttempt_event (attempt : Nat) (m : MappedEvent) :
    (nextAttempt attempt m).event = m.event := by
  unfold nextAttempt
  split <;> rfl

theorem nextAttempt_owes (attempt : Nat) (m : MappedEvent) : (nextAttempt attempt m).Owes db := by
  unfold nextAttempt
  split <;> trivial

theorem nextAttempt_pending (attempt : Nat) (m : MappedEvent) :
    (nextAttempt attempt m).pending = [] := by
  unfold nextAttempt
  split <;> rfl

/-- An event that maps to no signal is recorded, if nobody has recorded it. -/
theorem advanced_ignored (hdb : db.Inv events) {event : NormalisedEvent} {reason : IgnoreReason}
    {result : ApplyEventResult} {recorded : Bool} {db' : Db}
    (h : db.recordIgnoredEvent (ignoredInsert event reason) = (recorded, db')) :
    Advanced events db (.received event) (db', .finished event result, []) := by
  rcases Db.recordIgnoredEvent_cases h with ⟨hrecorded, rfl⟩ | ⟨hnew, rfl⟩
  · exact .quiet hdb rfl hrecorded rfl
  · exact
      { event := rfl
        inv := Db.inv_recordIgnored hdb hnew rfl (by simp [ignoredInsert])
        grows := Db.grows_recordIgnored
        owes := ⟨_, List.mem_append_right _ (List.mem_singleton_self _), rfl⟩
        emits := ⟨[], .refl _, fun _ h => ⟨h.owned, h.numbered, h.reEscalation⟩⟩ }

theorem advanced_opened (hdb : db.Inv events) {attempt : Nat} {m : MappedEvent}
    {id incidentCandidateId : String} {db' : Db}
    (h : db.createHypothesisRow ((windowSeed m.correlation).row id incidentCandidateId) =
      some db') :
    Advanced events db (.creating attempt m)
      (db', .applying attempt m ((windowSeed m.correlation).row id incidentCandidateId), []) := by
  obtain ⟨hnew, rfl⟩ := Db.createHypothesisRow_eq_some h
  exact
    { event := rfl
      inv := Db.inv_opened hdb rfl hnew
      grows := Db.grows_opened
      owes := ⟨readFrom_of_mem (List.mem_append_right _ (List.mem_singleton_self _)), rfl⟩
      emits := ⟨[], .refl _, fun _ h => h.opened rfl fun old hold => (hnew old hold).1⟩ }

/-- The application of the event, however it ends. -/
theorem advanced_applying (hdb : db.Inv events) {attempt : Nat} {m : MappedEvent}
    {row : HypothesisRow} (howes : (Worker.applying attempt m row).Owes db)
    (hevent : m.event ∈ events) {env : Env} {progress : Progress}
    (h : (Worker.applying attempt m row).advance db env = some progress) :
    Advanced events db (.applying attempt m row) progress := by
  rw [Worker.advance] at h
  rcases Db.applyEvent_cases hdb howes.1 (m := m) with
    ⟨hrecorded, hend⟩ | ⟨_, hend⟩ | ⟨hrow, hfresh, hend⟩
  · rw [hend] at h
    cases h
    exact .quiet hdb rfl hrecorded rfl
  · rw [hend] at h
    cases h
    exact .quiet hdb (nextAttempt_event ..) (nextAttempt_owes ..) (nextAttempt_pending ..)
  · rw [hend] at h
    cases h
    exact
      { event := rfl
        inv := Db.inv_absorbed hdb hrow hfresh hevent howes.2.symm
        grows := Db.grows_absorbed hdb hrow
        owes := Db.recorded_absorbed
        emits := ⟨_, by simp [Worker.pending], fun _ h => h.absorbed hdb hrow⟩ }

/-- Every step of a worker, whatever the environment chooses. -/
theorem advanced_of_advance (hdb : db.Inv events) (howes : worker.Owes db)
    (hevent : worker.event ∈ events) {env : Env} {progress : Progress}
    (h : worker.advance db env = some progress) : Advanced events db worker progress := by
  cases worker with
  | received event =>
    rw [Worker.advance] at h
    split at h
    next reason hmapped =>
      simp only [Option.some.injEq] at h
      subst h
      exact advanced_ignored hdb rfl
    next m hmapped =>
      have hm := NormalisedEvent.event_of_mapped hmapped
      split at h
      next hfound =>
        cases h
        exact .quiet hdb rfl (recorded_of_findAppliedEvent hfound) rfl
      next =>
        cases h
        exact .quiet hdb hm trivial rfl
  | loading attempt m =>
    rw [Worker.advance] at h
    split at h
    next row hfind =>
      cases h
      obtain ⟨hmem, hkey⟩ := findByCorrelationKey_eq_some hfind
      exact .quiet hdb rfl ⟨readFrom_of_mem hmem, hkey⟩ rfl
    next =>
      cases h
      exact .quiet hdb rfl trivial rfl
  | creating attempt m =>
    rw [Worker.advance] at h
    split at h
    next db' hcreate =>
      cases h
      exact advanced_opened hdb hcreate
    next =>
      cases h
      exact .quiet hdb rfl trivial rfl
  | rereading attempt m =>
    rw [Worker.advance] at h
    split at h
    next row hfind =>
      cases h
      obtain ⟨hmem, hkey⟩ := findByCorrelationKey_eq_some hfind
      exact .quiet hdb rfl ⟨readFrom_of_mem hmem, hkey⟩ rfl
    next =>
      cases h
      exact .quiet hdb rfl trivial rfl
  | applying attempt m row => exact advanced_applying hdb howes hevent h
  | publishingUpdate m update candidate =>
    simp only [Worker.advance, Option.some.injEq] at h
    subst h
    cases candidate with
    | none => exact .quiet hdb rfl howes rfl
    | some candidate => exact .quiet hdb rfl howes rfl
  | publishingCandidate m update candidate =>
    rw [Worker.advance] at h
    cases h
    exact .quiet hdb rfl howes rfl
  | finished event result => cases h
  | failed event => cases h

end Advance

/-! ## Every run -/

/-- The invariant of the system. -/
structure State.Inv (s : State) : Prop where
  db : s.db.Inv s.delivered
  owes : ∀ worker ∈ s.workers, worker.Owes s.db
  emissions : Emissions s.db s.candidates

theorem State.inv_init : State.init.Inv where
  db := Db.inv_empty _
  owes := fun _ h => nomatch h
  emissions := ⟨(fun _ h => nomatch h), (fun _ h => nomatch h), (fun _ h => nomatch h)⟩

/-- A moved worker trades what it had pending for what it handed over and has left. -/
theorem candidates_advance {s : State} {i : Nat} {worker worker' : Worker} {db : Db}
    {messages : List (Message × Bool)} {fresh : List IncidentCandidateMessage}
    (hworker : s.workers[i]? = some worker)
    (hperm : (messages.flatMap Message.candidates ++ worker'.pending).Perm
      (fresh ++ worker.pending)) :
    (fresh ++ s.candidates).Perm
      (State.candidates { db, workers := s.workers.set i worker',
                          handed := s.handed ++ messages }) := by
  have hset := List.flatMap_set_perm Worker.pending hworker worker'
  rw [List.perm_iff_count] at hperm hset ⊢
  intro c
  have hmoved := hperm c
  have htraded := hset c
  simp only [State.candidates, List.flatMap_append, List.count_append] at hmoved htraded ⊢
  omega

/-- What one step of the system keeps. -/
theorem State.Inv.step {s s' : State} {label : Label} (h : s.Inv)
    (hstep : Fusion.step s label = some s') : s'.Inv := by
  cases label with
  | deliver event =>
    cases hstep
    have hsub : ∀ e ∈ s.delivered,
        e ∈ State.delivered { s with workers := s.workers ++ [.received event] } := fun e he => by
      rw [State.delivered, List.map_append]
      exact List.mem_append_left _ he
    refine ⟨h.db.mono hsub, fun worker hworker => ?_, h.emissions.perm (.of_eq ?_)⟩
    · rcases List.of_mem_concat hworker with hworker | rfl
      · exact h.owes worker hworker
      · trivial
    · simp [State.candidates, Worker.pending]
  | advance i env =>
    simp only [Fusion.step, Option.bind_eq_bind, Option.bind_eq_some_iff] at hstep
    obtain ⟨worker, hworker, ⟨db, worker', messages⟩, hadvance, hs'⟩ := hstep
    cases hs'
    have hmem := List.mem_of_getElem? hworker
    have hadvanced := advanced_of_advance h.db (h.owes worker hmem)
      (List.mem_map_of_mem hmem) hadvance
    have hdelivered : s.delivered = State.delivered
        { db, workers := s.workers.set i worker', handed := s.handed ++ messages } := by
      refine List.ext_getElem? fun j => ?_
      simp only [State.delivered, List.getElem?_map, List.getElem?_set]
      by_cases hij : i = j
      · subst hij
        obtain ⟨hlt, hget⟩ := List.getElem?_eq_some_iff.mp hworker
        simp only [hlt, hget, getElem?_pos, if_true, Option.map_some]
        exact congrArg some hadvanced.event.symm
      · simp [hij]
    obtain ⟨fresh, hperm, hemits⟩ := hadvanced.emits
    refine ⟨?_, fun other hother => ?_, ?_⟩
    · rw [← hdelivered]
      exact hadvanced.inv
    · rcases List.mem_or_eq_of_mem_set hother with hold | rfl
      · exact (h.owes other hold).grows hadvanced.grows
      · exact hadvanced.owes
    · exact (hemits _ h.emissions).perm (candidates_advance hworker hperm)

theorem State.Inv.grows {s s' : State} {label : Label} (h : s.Inv)
    (hstep : Fusion.step s label = some s') : s.db.Grows s'.db := by
  cases label with
  | deliver event =>
    cases hstep
    exact .refl _
  | advance i env =>
    simp only [Fusion.step, Option.bind_eq_bind, Option.bind_eq_some_iff] at hstep
    obtain ⟨worker, hworker, ⟨db, worker', messages⟩, hadvance, hs'⟩ := hstep
    cases hs'
    have hmem := List.mem_of_getElem? hworker
    exact (advanced_of_advance h.db (h.owes worker hmem) (List.mem_map_of_mem hmem)
      hadvance).grows

/-- A stored hypothesis refines the pure fold over the history of events applied to it. -/
structure Refines (s : State) (row : HypothesisRow) (history : List MappedEvent) : Prop where
  /-- The events were delivered and belong to the window. -/
  delivered : ∀ m ∈ history, m.event ∈ s.delivered ∧ m.correlation.key = row.correlationKey
  /-- Each of them was applied once, and the store says so. -/
  recorded : (s.db.appliedTo row.id).map (·.key) = history.map (·.event.key)
  once : (history.map (·.event.key)).Nodup
  /-- The row with its log is the fold of the core over their signals. -/
  fold : (s.db.record row).hypothesis =
    (history.map (·.signal)).foldl applySignal (createHypothesis row.id row.potentialImpact)
  wellFormed : (s.db.record row).WellFormed
  /-- The log is numbered from 0 without a gap, and is one chain. -/
  contiguous : (s.db.log row.id).map (·.sequence) = List.range row.transitionCount
  chained : Walk TransitionRow.fromState TransitionRow.toState 0 (s.db.log row.id) row.state
  /-- The emission numbers are 1, 2, 3, …, each produced once. -/
  emissions : ((s.candidates.filter fun c => c.hypothesisId = row.id).map
    (·.emissionNumber)).Perm (List.range' 1 row.incidentCandidateEmissions)
  reEscalation : ∀ c ∈ s.candidates, c.hypothesisId = row.id →
    c.reEscalation = decide (c.emissionNumber ≠ 1)

theorem walk_log_iff {log : List TransitionRow} {a b : ThreatState} :
    Walk Transition.fromState Transition.toState a (log.map (·.transition)) b ↔
      Walk TransitionRow.fromState TransitionRow.toState a log b := by
  induction log generalizing a with
  | nil => exact Iff.rfl
  | cons t log ih =>
    rw [List.map_cons, Walk.cons, Walk.cons, ih]
    exact Iff.rfl

theorem State.Inv.refines {s : State} (h : s.Inv) {row : HypothesisRow}
    (hrow : row ∈ s.db.hypotheses) : ∃ history, Refines s row history := by
  obtain ⟨history, hheld⟩ := h.db.held row hrow
  obtain ⟨correlation, _, hreplay⟩ := hheld.replay
  have hfold : (s.db.record row).hypothesis =
      (history.map (·.signal)).foldl applySignal
        (createHypothesis row.id row.potentialImpact) := by
    have himpact : row.potentialImpact = ((Record.opened correlation row.id
        row.incidentCandidateId).replay history).row.potentialImpact := by rw [← hreplay]; rfl
    rw [himpact, hreplay]
    exact hypothesis_replay ..
  refine ⟨history, ?_⟩
  exact
    { delivered := hheld.delivered
      recorded := hheld.recorded
      once := by
        rw [← hheld.recorded]
        exact h.db.applied.sublist (List.filter_sublist.map _)
      fold := hfold
      wellFormed := h.db.wellFormed hrow
      contiguous := (h.db.wellFormed hrow).sequence
      chained := by
        have hrun := (threatState_run row.id row.potentialImpact
          (history.map (·.signal))).transitions
        rw [← hfold] at hrun
        exact walk_log_iff.mp hrun
      emissions := h.emissions.numbered row hrow
      reEscalation := fun c hc _ => h.emissions.reEscalation c hc }

/-- What the system owes at every point of every run, and from any point on to any later
    one. -/
structure Accounted (s s' : State) : Prop where
  windows : (s.db.hypotheses.map (·.correlationKey)).Nodup
  refines : ∀ row ∈ s.db.hypotheses, ∃ history, Refines s row history
  /-- An event whose delivery has returned is recorded: as ignored, or in the history of
      the hypothesis of its window. -/
  finished : ∀ event result, .finished event result ∈ s.workers →
    ∃ a ∈ s.db.appliedEvents, a.key = event.key ∧
      (a.ignoreReason ≠ none ∨ ∃ row ∈ s.db.hypotheses, a ∈ s.db.appliedTo row.id ∧
        a.correlationKey = row.correlationKey)
  /-- The potential impact never decreases. -/
  impact : ∀ row ∈ s.db.hypotheses, ∃ row' ∈ s'.db.hypotheses, row'.id = row.id ∧
    impactScore row.potentialImpact ≤ impactScore row'.potentialImpact

/-- Fusion refines the pure fold, in every state of every run. -/
theorem fusion_run {labels later : List Label} {s s' : State}
    (h : Transition.run step .init labels = some s)
    (hlater : Transition.run step s later = some s') : Accounted s s' := by
  have hinv : s.Inv := Transition.run_invariant State.Inv.step State.inv_init h
  have hgrows : s.db.Grows s'.db :=
    Transition.run_mono (r := fun s s' : State => s.db.Grows s'.db) (fun s => .refl s.db)
      Db.Grows.trans State.Inv.step State.Inv.grows hinv hlater
  exact
    { windows := hinv.db.windows
      refines := fun row hrow => hinv.refines hrow
      finished := fun event result hworker => by
        obtain ⟨a, ha, hkey⟩ := hinv.owes _ hworker
        refine ⟨a, ha, hkey, ?_⟩
        by_cases hreason : a.ignoreReason = none
        · obtain ⟨row, hrow, hid, hwindow⟩ := hinv.db.ownedApplied a ha hreason
          exact .inr ⟨row, hrow, List.mem_filter.mpr ⟨ha, decide_eq_true hid⟩, hwindow⟩
        · exact .inl hreason
      impact := fun row hrow => by
        obtain ⟨row', hrow', hgrown⟩ := hgrows.rows row hrow
        exact ⟨row', hrow', hgrown.id, hgrown.impact⟩ }

/-- A denied credential at a door, then the same event once more. -/
def deniedTwice : List Label :=
  let event : NormalisedEvent :=
    { eventId := "evt_1", organisationId := "org", siteId := "site", zoneId := none
      sourceType := .access, sourceId := "door", sourceTrust := .trusted
      eventType := "access_denied_attempt", confidence := 1 / 2, occurredAt := 0, metadata := [] }
  [.deliver event, .deliver event] ++
    List.replicate 6 (.advance 0 { id := "h", incidentCandidateId := "c" }) ++ [.advance 1 {}]

theorem fusion_run_deniedTwice :
    Accounted ((Transition.run step .init deniedTwice).getD .init)
      ((Transition.run step .init deniedTwice).getD .init) :=
  fusion_run (Transition.run_eq_some_getD (by decide +kernel)) (Transition.run_nil _)

end Sentinel.Fusion
