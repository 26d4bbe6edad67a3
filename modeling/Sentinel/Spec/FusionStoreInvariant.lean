import Sentinel.Spec.FusionRecord

/-! # The Fusion store holds replayed records

What the repository's transactions keep, whatever order the deliveries run them in:
every row together with its log is the record replayed from the events applied to it,
each of them once. -/

namespace Sentinel.Fusion

namespace Db

/-- The transitions of a hypothesis, in the order of insertion. -/
def log (db : Db) (id : String) : List TransitionRow :=
  db.transitions.filter fun t => t.hypothesisId = id

def appliedTo (db : Db) (id : String) : List AppliedEvent :=
  db.appliedEvents.filter fun a => a.hypothesisId = some id

def record (db : Db) (row : HypothesisRow) : Record := { row, log := db.log row.id }

def Recorded (db : Db) (key : String × String) : Prop := ∃ a ∈ db.appliedEvents, a.key = key

/-- The row is the record replayed from the history: events among those given that belong
    to its window, recorded under it in this order. -/
structure Held (events : List NormalisedEvent) (db : Db) (row : HypothesisRow)
    (history : List MappedEvent) : Prop where
  replay : ∃ correlation : CorrelationKey, correlation.key = row.correlationKey ∧
    db.record row =
      (Record.opened correlation row.id row.incidentCandidateId).replay history
  recorded : (db.appliedTo row.id).map (·.key) = history.map (·.event.key)
  delivered : ∀ m ∈ history, m.event ∈ events ∧ m.correlation.key = row.correlationKey

/-- The invariant of the store, given the events delivered so far. -/
structure Inv (events : List NormalisedEvent) (db : Db) : Prop where
  ids : (db.hypotheses.map (·.id)).Nodup
  windows : (db.hypotheses.map (·.correlationKey)).Nodup
  applied : (db.appliedEvents.map (·.key)).Nodup
  ownedLog : ∀ t ∈ db.transitions, ∃ row ∈ db.hypotheses, row.id = t.hypothesisId
  ownedApplied : ∀ a ∈ db.appliedEvents, a.ignoreReason = none →
    ∃ row ∈ db.hypotheses, a.hypothesisId = some row.id ∧ a.correlationKey = row.correlationKey
  ignored : ∀ a ∈ db.appliedEvents, a.ignoreReason ≠ none → a.hypothesisId = none
  held : ∀ row ∈ db.hypotheses, ∃ history, db.Held events row history

theorem inv_empty (events : List NormalisedEvent) : Db.empty.Inv events where
  ids := List.nodup_nil
  windows := List.nodup_nil
  applied := List.nodup_nil
  ownedLog := fun _ h => nomatch h
  ownedApplied := fun _ h => nomatch h
  ignored := fun _ h => nomatch h
  held := fun _ h => nomatch h

/-! ## What every write keeps -/

/-- The later table still has the row, and has rewritten it only under a later version
    and without lowering its impact. -/
structure RowGrows (row row' : HypothesisRow) : Prop where
  id : row'.id = row.id
  correlationKey : row'.correlationKey = row.correlationKey
  version : row.version ≤ row'.version
  same : row.version = row'.version → row = row'
  impact : impactScore row.potentialImpact ≤ impactScore row'.potentialImpact

theorem RowGrows.refl (row : HypothesisRow) : RowGrows row row :=
  ⟨rfl, rfl, le_rfl, fun _ => rfl, le_rfl⟩

theorem RowGrows.trans {a b c : HypothesisRow} (h : RowGrows a b) (h' : RowGrows b c) :
    RowGrows a c where
  id := h'.id.trans h.id
  correlationKey := h'.correlationKey.trans h.correlationKey
  version := h.version.trans h'.version
  same := fun heq => by
    have hab : a.version = b.version := by have := h.version; have := h'.version; omega
    have hbc : b.version = c.version := by omega
    exact (h.same hab).trans (h'.same hbc)
  impact := h.impact.trans h'.impact

/-- What any number of writes keep of the store. -/
structure Grows (db db' : Db) : Prop where
  rows : ∀ row ∈ db.hypotheses, ∃ row' ∈ db'.hypotheses, RowGrows row row'
  recorded : ∀ key, db.Recorded key → db'.Recorded key

theorem Grows.refl (db : Db) : Grows db db :=
  ⟨fun row h => ⟨row, h, .refl row⟩, fun _ h => h⟩

theorem Grows.trans {a b c : Db} (h : Grows a b) (h' : Grows b c) : Grows a c where
  rows := fun row hrow => by
    obtain ⟨row', hrow', hgrows⟩ := h.rows row hrow
    obtain ⟨row'', hrow'', hgrows'⟩ := h'.rows row' hrow'
    exact ⟨row'', hrow'', hgrows.trans hgrows'⟩
  recorded := fun key hkey => h'.recorded key (h.recorded key hkey)

/-- More deliveries do not disturb what is held. -/
theorem Held.mono {events events' : List NormalisedEvent} {db : Db} {row : HypothesisRow}
    {history : List MappedEvent} (h : db.Held events row history)
    (hsub : ∀ e ∈ events, e ∈ events') : db.Held events' row history :=
  { h with delivered := fun m hm => ⟨hsub _ (h.delivered m hm).1, (h.delivered m hm).2⟩ }

theorem Inv.mono {events events' : List NormalisedEvent} {db : Db} (h : db.Inv events)
    (hsub : ∀ e ∈ events, e ∈ events') : db.Inv events' :=
  { h with
    held := fun row hrow =>
      let ⟨history, hheld⟩ := h.held row hrow
      ⟨history, hheld.mono hsub⟩ }

theorem Inv.wellFormed {events : List NormalisedEvent} {db : Db} (h : db.Inv events)
    {row : HypothesisRow} (hrow : row ∈ db.hypotheses) : (db.record row).WellFormed := by
  obtain ⟨history, hheld⟩ := h.held row hrow
  obtain ⟨correlation, _, hreplay⟩ := hheld.replay
  rw [hreplay]
  exact wellFormed_replay ..

/-- An id that no row has owns no transition. -/
theorem Inv.log_fresh {events : List NormalisedEvent} {db : Db} (h : db.Inv events) {id : String}
    (hnew : ∀ old ∈ db.hypotheses, old.id ≠ id) : db.log id = [] := by
  refine List.filter_eq_nil_iff.mpr fun t ht => ?_
  obtain ⟨owner, howner, hid⟩ := h.ownedLog t ht
  simpa [← hid] using hnew owner howner

/-- Nor has anything been applied to it. -/
theorem Inv.appliedTo_fresh {events : List NormalisedEvent} {db : Db} (h : db.Inv events)
    {id : String} (hnew : ∀ old ∈ db.hypotheses, old.id ≠ id) : db.appliedTo id = [] := by
  refine List.filter_eq_nil_iff.mpr fun a ha => ?_
  by_cases hreason : a.ignoreReason = none
  · obtain ⟨owner, howner, hid, _⟩ := h.ownedApplied a ha hreason
    simpa [hid] using hnew owner howner
  · simp [h.ignored a ha hreason]

/-! ## Recording an ignored event -/

section RecordIgnored

variable {events : List NormalisedEvent} {db db' : Db} {insert : AppliedEvent} {recorded : Bool}

theorem recordIgnoredEvent_cases (h : db.recordIgnoredEvent insert = (recorded, db')) :
    db.Recorded insert.key ∧ db' = db ∨
      (∀ a ∈ db.appliedEvents, a.key ≠ insert.key) ∧
        db' = { db with appliedEvents := db.appliedEvents ++ [insert] } := by
  unfold recordIgnoredEvent at h
  split at h
  next hany =>
    obtain ⟨a, ha, hkey⟩ := List.any_eq_true.mp hany
    cases h
    exact .inl ⟨⟨a, ha, of_decide_eq_true hkey⟩, rfl⟩
  next hnone =>
    cases h
    refine .inr ⟨fun a ha hkey => hnone ?_, rfl⟩
    exact List.any_eq_true.mpr ⟨a, ha, decide_eq_true hkey⟩

theorem grows_recordIgnored :
    db.Grows { db with appliedEvents := db.appliedEvents ++ [insert] } where
  rows := fun row h => ⟨row, h, .refl row⟩
  recorded := fun _ ⟨a, ha, hkey⟩ => ⟨a, List.mem_append_left _ ha, hkey⟩

theorem inv_recordIgnored (h : db.Inv events) (hnew : ∀ a ∈ db.appliedEvents, a.key ≠ insert.key)
    (hhypothesis : insert.hypothesisId = none) (hreason : insert.ignoreReason ≠ none) :
    ({ db with appliedEvents := db.appliedEvents ++ [insert] } : Db).Inv events where
  ids := h.ids
  windows := h.windows
  applied := Table.nodup_map_concat h.applied hnew
  ownedLog := h.ownedLog
  ownedApplied := fun a ha hnone => by
    rcases List.of_mem_concat ha with ha | rfl
    · exact h.ownedApplied a ha hnone
    · exact absurd hnone hreason
  ignored := fun a ha hsome => by
    rcases List.of_mem_concat ha with ha | rfl
    · exact h.ignored a ha hsome
    · exact hhypothesis
  held := fun row hrow => by
    obtain ⟨history, hheld⟩ := h.held row hrow
    refine ⟨history, hheld.replay, ?_, hheld.delivered⟩
    rw [← hheld.recorded]
    simp [appliedTo, List.filter_append, hhypothesis]

end RecordIgnored

/-! ## Opening a window -/

section Opened

variable {events : List NormalisedEvent} {db db' : Db} {row : HypothesisRow}

theorem createHypothesisRow_eq_some (h : db.createHypothesisRow row = some db') :
    (∀ old ∈ db.hypotheses, old.id ≠ row.id ∧ old.correlationKey ≠ row.correlationKey) ∧
      db' = { db with hypotheses := db.hypotheses ++ [row] } := by
  unfold createHypothesisRow at h
  split at h
  · cases h
  next hnone =>
    refine ⟨fun old hold => ?_, (Option.some.inj h).symm⟩
    simp only [Bool.not_eq_true, List.any_eq_false, Bool.or_eq_true, decide_eq_true_eq,
      not_or] at hnone
    exact ⟨(hnone old hold).1.1, (hnone old hold).2⟩

theorem grows_opened : db.Grows { db with hypotheses := db.hypotheses ++ [row] } where
  rows := fun old h => ⟨old, List.mem_append_left _ h, .refl old⟩
  recorded := fun _ h => h

theorem inv_opened (h : db.Inv events) {correlation : CorrelationKey}
    {id incidentCandidateId : String}
    (hrow : row = (windowSeed correlation).row id incidentCandidateId)
    (hnew : ∀ old ∈ db.hypotheses, old.id ≠ row.id ∧ old.correlationKey ≠ row.correlationKey) :
    ({ db with hypotheses := db.hypotheses ++ [row] } : Db).Inv events where
  ids := Table.nodup_map_concat h.ids fun old hold => (hnew old hold).1
  windows := Table.nodup_map_concat h.windows fun old hold => (hnew old hold).2
  applied := h.applied
  ownedLog := fun t ht => by
    obtain ⟨old, hold, hid⟩ := h.ownedLog t ht
    exact ⟨old, List.mem_append_left _ hold, hid⟩
  ownedApplied := fun a ha hnone => by
    obtain ⟨old, hold, hid⟩ := h.ownedApplied a ha hnone
    exact ⟨old, List.mem_append_left _ hold, hid⟩
  ignored := h.ignored
  held := fun old hold => by
    rcases List.mem_append.mp hold with hold | hold
    · obtain ⟨history, hheld⟩ := h.held old hold
      exact ⟨history, hheld.replay, hheld.recorded, hheld.delivered⟩
    · -- nothing in the store belongs to the new row yet
      rw [List.mem_singleton.mp hold]
      have hlog : db.log row.id = [] := h.log_fresh fun old hold => (hnew old hold).1
      have happlied : db.appliedTo row.id = [] :=
        h.appliedTo_fresh fun old hold => (hnew old hold).1
      refine ⟨[], ⟨correlation, ?_, ?_⟩, ?_, fun _ h => nomatch h⟩
      · rw [hrow]
        rfl
      · show ({ row, log := db.log row.id } : Record) = _
        rw [hlog, hrow]
        rfl
      · show (db.appliedTo row.id).map _ = _
        rw [happlied]
        rfl

end Opened

/-! ## Applying an event -/

section Absorbed

variable {events : List NormalisedEvent} {db : Db} {row : HypothesisRow} {m : MappedEvent}

/-- The store after a committed application to the row. -/
def absorbed (db : Db) (row : HypothesisRow) (m : MappedEvent) : Db :=
  { hypotheses :=
      Table.rewrite (fun old => decide (old.id = row.id ∧ old.version = row.version))
        (applyParams row m).write db.hypotheses
    transitions := db.transitions ++ (applyParams row m).transitionRows
    appliedEvents := db.appliedEvents ++ [(applyParams row m).appliedEvent] }

/-- The guard hits the row that was read, and no other. -/
theorem mem_absorbed (h : db.Inv events) (hrow : row ∈ db.hypotheses) {new : HypothesisRow} :
    new ∈ (db.absorbed row m).hypotheses ↔
      new = row.absorb m ∨ new ∈ db.hypotheses ∧ new ≠ row :=
  Table.mem_rewrite_unique hrow (by simp) fun old hold hguard =>
    Table.eq_of_key h.ids hold hrow (of_decide_eq_true hguard).1

/-- A row that was read, and the state of the table since: somebody may have rewritten it
    under a later version. -/
def ReadFrom (db : Db) (row : HypothesisRow) : Prop :=
  ∃ current ∈ db.hypotheses, RowGrows row current

theorem ReadFrom.grows {db' : Db} (h : db.ReadFrom row) (hgrows : db.Grows db') :
    db'.ReadFrom row := by
  obtain ⟨current, hcurrent, hrow⟩ := h
  obtain ⟨later, hlater, hgrown⟩ := hgrows.rows current hcurrent
  exact ⟨later, hlater, hrow.trans hgrown⟩

/-- If the guard hits anything, the row read is still the current one. -/
theorem ReadFrom.current (h : db.Inv events) (hread : db.ReadFrom row) {hit : HypothesisRow}
    (hmem : hit ∈ db.hypotheses) (hid : hit.id = row.id) (hversion : hit.version = row.version) :
    row ∈ db.hypotheses := by
  obtain ⟨current, hcurrent, hgrows⟩ := hread
  obtain rfl : hit = current :=
    Table.eq_of_key h.ids hmem hcurrent (hid.trans hgrows.id.symm)
  rw [hgrows.same hversion.symm]
  exact hmem

/-- The numbers of the new transitions are free. -/
theorem fresh_transitionRows (h : db.Inv events) (hrow : row ∈ db.hypotheses) :
    ((applyParams row m).transitionRows.any fun new => db.transitions.any fun old =>
      decide (old.hypothesisId = new.hypothesisId ∧ old.sequence = new.sequence)) = false := by
  rw [List.any_eq_false]
  intro new hnew
  rw [Bool.not_eq_true, List.any_eq_false]
  intro old hold htaken
  obtain ⟨howner, hsequence⟩ := of_decide_eq_true htaken
  -- the log has the numbers below the count, the new rows those from the count on
  have hlog : old ∈ db.log row.id := by
    refine List.mem_filter.mpr ⟨hold, decide_eq_true ?_⟩
    exact howner.trans (owner_transitionRows hnew)
  have hbelow : old.sequence ∈ List.range row.transitionCount := by
    have hsequence : (db.log row.id).map (·.sequence) = List.range row.transitionCount :=
      (h.wellFormed hrow).sequence
    rw [← hsequence]
    exact List.mem_map_of_mem hlog
  have habove : new.sequence ∈ (applyParams row m).transitionRows.map (·.sequence) :=
    List.mem_map_of_mem hnew
  rw [map_sequence_transitionRows, List.mem_map] at habove
  obtain ⟨index, _, hindex⟩ := habove
  rw [List.mem_range] at hbelow
  have hfirst : (applyParams row m).firstTransitionSequence = row.transitionCount := rfl
  omega

/-- `applyEvent` finds the event recorded, or loses the race, or commits the application
    to the row it was computed from. -/
theorem applyEvent_cases (h : db.Inv events) (hread : db.ReadFrom row) :
    db.Recorded m.event.key ∧ db.applyEvent (applyParams row m) = some (.duplicate, db) ∨
      row ∉ db.hypotheses ∧ db.applyEvent (applyParams row m) = some (.conflict, db) ∨
      row ∈ db.hypotheses ∧ (∀ a ∈ db.appliedEvents, a.key ≠ m.event.key) ∧
        db.applyEvent (applyParams row m) =
          some (.applied (row.absorb m), db.absorbed row m) := by
  have hkey : (applyParams row m).appliedEvent.key = m.event.key := rfl
  unfold applyEvent
  by_cases hduplicate :
      (db.appliedEvents.any fun a => a.key = (applyParams row m).appliedEvent.key) = true
  · left
    obtain ⟨a, ha, hsame⟩ := List.any_eq_true.mp hduplicate
    exact ⟨⟨a, ha, of_decide_eq_true hsame⟩, if_pos hduplicate⟩
  · right
    rw [if_neg hduplicate]
    simp only
    by_cases hmiss : db.hypotheses.countP (fun old =>
        decide (old.id = (applyParams row m).hypothesisId ∧
          old.version = (applyParams row m).expectedVersion)) = 0
    · exact .inl ⟨fun hrow => List.countP_eq_zero.mp hmiss row hrow (by simp [applyParams]),
        if_pos hmiss⟩
    · right
      obtain ⟨hit, hmem, hguard⟩ := List.countP_pos_iff.mp (Nat.pos_of_ne_zero hmiss)
      obtain ⟨hid, hversion⟩ := of_decide_eq_true hguard
      have hrow := hread.current h hmem hid hversion
      refine ⟨hrow, fun a ha hsame => hduplicate ?_, ?_⟩
      · exact List.any_eq_true.mpr ⟨a, ha, decide_eq_true hsame⟩
      rw [if_neg hmiss, fresh_transitionRows h hrow, if_neg Bool.false_ne_true]
      have hfind : (db.absorbed row m).hypotheses.find? (fun new => new.id = row.id) =
          some (row.absorb m) := by
        have hids : ((db.absorbed row m).hypotheses.map (·.id)).Nodup :=
          Table.nodup_map_rewrite h.ids fun _ => rfl
        exact Table.find?_eq_some hids ((mem_absorbed h hrow).mpr (.inl rfl)) rfl fun _ hid => hid
      have hfind' : (Table.rewrite (fun old => decide (old.id = (applyParams row m).hypothesisId ∧
            old.version = (applyParams row m).expectedVersion))
          (applyParams row m).write db.hypotheses).find?
            (fun new => new.id = (applyParams row m).hypothesisId) = some (row.absorb m) := hfind
      rw [hfind']
      rfl

theorem grows_absorbed (h : db.Inv events) (hrow : row ∈ db.hypotheses) :
    db.Grows (db.absorbed row m) where
  rows := fun old hold => by
    by_cases heq : old = row
    · rw [heq]
      refine ⟨row.absorb m, (mem_absorbed h hrow).mpr (.inl rfl), rfl, rfl, ?_, ?_, ?_⟩
      · simp
      · simp
      · exact impactScore_absorb (h.wellFormed hrow) m
    · exact ⟨old, (mem_absorbed h hrow).mpr (.inr ⟨hold, heq⟩), .refl old⟩
  recorded := fun _ ⟨a, ha, hkey⟩ => ⟨a, List.mem_append_left _ ha, hkey⟩

theorem recorded_absorbed : (db.absorbed row m).Recorded m.event.key :=
  ⟨_, List.mem_append_right _ (List.mem_singleton_self _), rfl⟩

theorem log_absorbed_self :
    (db.absorbed row m).log row.id = db.log row.id ++ (applyParams row m).transitionRows := by
  have hall : (applyParams row m).transitionRows.filter (fun t => t.hypothesisId = row.id) =
      (applyParams row m).transitionRows :=
    List.filter_eq_self.mpr fun t ht => decide_eq_true (owner_transitionRows ht)
  rw [log, absorbed, List.filter_append, hall]
  rfl

theorem log_absorbed_other {id : String} (hid : id ≠ row.id) :
    (db.absorbed row m).log id = db.log id := by
  have hnone : (applyParams row m).transitionRows.filter (fun t => t.hypothesisId = id) = [] :=
    List.filter_eq_nil_iff.mpr fun t ht howner =>
      hid ((of_decide_eq_true howner).symm.trans (owner_transitionRows ht))
  rw [log, absorbed, List.filter_append, hnone, List.append_nil]
  rfl

theorem appliedTo_absorbed_self : (db.absorbed row m).appliedTo row.id =
    db.appliedTo row.id ++ [(applyParams row m).appliedEvent] := by
  have hself : (applyParams row m).appliedEvent.hypothesisId = some row.id := rfl
  rw [appliedTo, absorbed, List.filter_append, List.filter_singleton, decide_eq_true hself]
  rfl

theorem appliedTo_absorbed_other {id : String} (hid : id ≠ row.id) :
    (db.absorbed row m).appliedTo id = db.appliedTo id := by
  have hother : (applyParams row m).appliedEvent.hypothesisId ≠ some id :=
    fun h => hid (Option.some.inj h).symm
  rw [appliedTo, absorbed, List.filter_append, List.filter_singleton, decide_eq_false hother]
  exact List.append_nil _

/-- The history of the row grows by the event, every other row's stays. -/
theorem held_absorbed (h : db.Inv events) (hrow : row ∈ db.hypotheses)
    (hevent : m.event ∈ events) (hwindow : m.correlation.key = row.correlationKey)
    {new : HypothesisRow} (hnew : new ∈ (db.absorbed row m).hypotheses) :
    ∃ history, (db.absorbed row m).Held events new history := by
  rcases (mem_absorbed h hrow).mp hnew with rfl | ⟨hold, hne⟩
  · obtain ⟨history, hheld⟩ := h.held row hrow
    obtain ⟨correlation, hcorrelation, hreplay⟩ := hheld.replay
    refine ⟨history ++ [m], ⟨correlation, hcorrelation, ?_⟩, ?_, fun m' hm' => ?_⟩
    · rw [Record.replay_concat]
      show _ = ((Record.opened correlation row.id row.incidentCandidateId).replay history).absorb m
      rw [← hreplay, record, absorb_id, log_absorbed_self]
      rfl
    · rw [absorb_id, appliedTo_absorbed_self, List.map_append, hheld.recorded, List.map_append]
      rfl
    · rcases List.of_mem_concat hm' with hm' | rfl
      · exact hheld.delivered m' hm'
      · exact ⟨hevent, hwindow⟩
  · obtain ⟨history, hheld⟩ := h.held new hold
    have hid : new.id ≠ row.id := fun heq => hne (Table.eq_of_key h.ids hold hrow heq)
    refine ⟨history, ?_, ?_, hheld.delivered⟩
    · rw [record, log_absorbed_other hid]
      exact hheld.replay
    · rw [appliedTo_absorbed_other hid]
      exact hheld.recorded

theorem inv_absorbed (h : db.Inv events) (hrow : row ∈ db.hypotheses)
    (hfresh : ∀ a ∈ db.appliedEvents, a.key ≠ m.event.key)
    (hevent : m.event ∈ events) (hwindow : m.correlation.key = row.correlationKey) :
    (db.absorbed row m).Inv events where
  ids := Table.nodup_map_rewrite h.ids fun _ => rfl
  windows := Table.nodup_map_rewrite h.windows fun _ => rfl
  applied := Table.nodup_map_concat h.applied hfresh
  ownedLog := fun t ht => by
    rcases List.mem_append.mp ht with ht | ht
    · obtain ⟨owner, howner, hid⟩ := h.ownedLog t ht
      obtain ⟨later, hlater, hgrown⟩ := (grows_absorbed (m := m) h hrow).rows owner howner
      exact ⟨later, hlater, hgrown.id.trans hid⟩
    · exact ⟨row.absorb m, (mem_absorbed h hrow).mpr (.inl rfl), (owner_transitionRows ht).symm⟩
  ownedApplied := fun a ha hreason => by
    rcases List.of_mem_concat ha with ha | rfl
    · obtain ⟨owner, howner, hid, hkey⟩ := h.ownedApplied a ha hreason
      obtain ⟨later, hlater, hgrown⟩ := (grows_absorbed (m := m) h hrow).rows owner howner
      exact ⟨later, hlater, by rw [hid, hgrown.id], hkey.trans hgrown.correlationKey.symm⟩
    · exact ⟨row.absorb m, (mem_absorbed h hrow).mpr (.inl rfl), rfl, hwindow⟩
  ignored := fun a ha hreason => by
    rcases List.of_mem_concat ha with ha | rfl
    · exact h.ignored a ha hreason
    · exact absurd rfl hreason
  held := fun _ hnew => held_absorbed h hrow hevent hwindow hnew

end Absorbed

end Db

end Sentinel.Fusion
