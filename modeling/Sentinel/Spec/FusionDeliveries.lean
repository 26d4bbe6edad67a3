import Sentinel.Spec.FusionRefinement

/-! # Deliveries one after the other

`Db.deliver` runs the steps of one delivery with no other worker in between.  After a history of
them the hypothesis of every window is replayed from the first event of each organisation and event
id that the rule table maps into it. -/

namespace Sentinel.Fusion

/-! ## One delivery -/

section Alone

variable {events : List NormalisedEvent} {db db' : Db} {env : Env} {n : Nat}
  {worker worker' : Worker} {messages : List (Message × Bool)} {m : MappedEvent}
  {row : HypothesisRow}

theorem alone_step (h : worker.advance db env = some (db', worker', messages)) :
    worker.alone env (n + 1) db = worker'.alone env n db' := by
  rw [Worker.alone, h]

theorem alone_finished {event : NormalisedEvent} {result : ApplyEventResult} :
    (Worker.finished event result).alone env n db = (db, .finished event result) := by
  cases n with
  | zero => rfl
  | succ n => rfl

theorem alone_publishingUpdate {update : HypothesisUpdateMessage}
    {candidate : Option IncidentCandidateMessage} :
    ((Worker.publishingUpdate m update candidate).alone env (n + 2) db).1 = db := by
  cases candidate with
  | none =>
    rw [alone_step rfl]
    show ((Worker.finished ..).alone env (n + 1) db).1 = db
    rw [alone_finished]
  | some candidate =>
    rw [alone_step rfl]
    show ((Worker.publishingCandidate ..).alone env (n + 1) db).1 = db
    rw [alone_step rfl, alone_finished]

/-- With no other worker the application commits. -/
theorem alone_applying (h : db.Inv events) (hrow : row ∈ db.hypotheses)
    (hfresh : ¬ db.Recorded m.event.key) {attempt : Nat} :
    ((Worker.applying attempt m row).alone env (n + 3) db).1 = db.absorbed row m := by
  rcases Db.applyEvent_cases (m := m) h (readFrom_of_mem hrow) with
    ⟨hrecorded, _⟩ | ⟨hgone, _⟩ | ⟨_, _, hcommit⟩
  · exact absurd hrecorded hfresh
  · exact absurd hrow hgone
  · have hadvance : (Worker.applying attempt m row).advance db env =
        some (db.absorbed row m, .publishingUpdate m (updateMessage row (row.absorb m) m)
          (candidateMessage row (row.absorb m) m), []) := by
      rw [Worker.advance, hcommit]
    rw [alone_step hadvance, alone_publishingUpdate]

end Alone

/-- The store holds only rows with the ids minted for their windows. -/
def Db.Minted (mint : Mint) (db : Db) : Prop :=
  ∀ row ∈ db.hypotheses, row.id = mint.id row.correlationKey ∧
    row.incidentCandidateId = mint.incidentCandidateId row.correlationKey

/-- The row that a delivery opens for a window. -/
def Mint.row (mint : Mint) (correlation : CorrelationKey) : HypothesisRow :=
  (windowSeed correlation).row (mint.id correlation.key)
    (mint.incidentCandidateId correlation.key)

/-- The store after the window of the event is opened. -/
def Db.withWindow (mint : Mint) (db : Db) (correlation : CorrelationKey) : Db :=
  { db with hypotheses := db.hypotheses ++ [mint.row correlation] }

section Deliver

variable {events : List NormalisedEvent} {db : Db} {mint : Mint} {event : NormalisedEvent}
  {m : MappedEvent}

theorem findByCorrelationKey_eq_none {key : String} (h : db.findByCorrelationKey key = none) :
    ∀ row ∈ db.hypotheses, row.correlationKey ≠ key := fun row hrow hkey => by
  have hmiss := List.find?_eq_none.mp h row hrow
  exact hmiss (decide_eq_true hkey)

theorem findAppliedEvent_eq_none (h : ¬ db.Recorded event.key) :
    (db.findAppliedEvent event.organisationId event.eventId).isSome = false := by
  rw [Bool.eq_false_iff]
  exact fun hfound => h (recorded_of_findAppliedEvent hfound)

/-- A minted id is free as long as its window is not open. -/
theorem createHypothesisRow_minted (hmint : db.Minted mint) {correlation : CorrelationKey}
    (hnone : ∀ row ∈ db.hypotheses, row.correlationKey ≠ correlation.key) :
    db.createHypothesisRow (mint.row correlation) = some (db.withWindow mint correlation) := by
  rw [Db.createHypothesisRow, if_neg]
  · rfl
  · intro htaken
    obtain ⟨old, hold, hclash⟩ := List.any_eq_true.mp htaken
    obtain ⟨hid, hcandidate⟩ := hmint old hold
    simp only [Bool.or_eq_true, decide_eq_true_eq, hid, hcandidate] at hclash
    rcases hclash with (hclash | hclash) | hclash
    · exact hnone old hold (mint.id_injective hclash)
    · exact hnone old hold (mint.incidentCandidateId_injective hclash)
    · exact hnone old hold hclash

/-- A recorded event changes nothing. -/
theorem deliver_recorded (h : db.Recorded event.key) : db.deliver mint event = db := by
  unfold Db.deliver
  cases hmapped : event.mapped with
  | error reason =>
    have hrecord : db.recordIgnoredEvent (ignoredInsert event reason) = (false, db) := by
      obtain ⟨a, ha, hkey⟩ := h
      exact if_pos (List.any_eq_true.mpr ⟨a, ha, decide_eq_true hkey⟩)
    have hadvance : ∀ env, (Worker.received event).advance db env =
        some (db, .finished event .duplicate, []) := fun env => by
      rw [Worker.advance, hmapped]
      simp only [hrecord]
      rfl
    rw [alone_step (hadvance _), alone_finished]
  | ok m =>
    have hfound : (db.findAppliedEvent event.organisationId event.eventId).isSome = true := by
      obtain ⟨a, ha, hkey⟩ := h
      rw [Db.findAppliedEvent, List.find?_isSome]
      exact ⟨a, ha, decide_eq_true hkey⟩
    have hadvance : ∀ env, (Worker.received event).advance db env =
        some (db, .finished event .duplicate, []) := fun env => by
      rw [Worker.advance, hmapped]
      exact if_pos hfound
    rw [alone_step (hadvance _), alone_finished]

/-- An event without a rule is recorded. -/
theorem deliver_ignored {reason : IgnoreReason} (hmapped : event.mapped = .error reason)
    (hnew : ¬ db.Recorded event.key) : db.deliver mint event =
      { db with appliedEvents := db.appliedEvents ++ [ignoredInsert event reason] } := by
  have hrecord : db.recordIgnoredEvent (ignoredInsert event reason) = (true,
      { db with appliedEvents := db.appliedEvents ++ [ignoredInsert event reason] }) := by
    refine if_neg fun hany => hnew ?_
    obtain ⟨a, ha, hkey⟩ := List.any_eq_true.mp hany
    exact ⟨a, ha, of_decide_eq_true hkey⟩
  have hadvance : ∀ env, (Worker.received event).advance db env =
      some ({ db with appliedEvents := db.appliedEvents ++ [ignoredInsert event reason] },
        .finished event (.ignored reason), []) := fun env => by
    rw [Worker.advance, hmapped]
    simp only [hrecord]
    rfl
  rw [Db.deliver, alone_step (hadvance _), alone_finished]

theorem received_advance (hmapped : event.mapped = .ok m) (hnew : ¬ db.Recorded event.key)
    {env : Env} : (Worker.received event).advance db env = some (db, .loading 1 m, []) := by
  rw [Worker.advance, hmapped]
  simp [findAppliedEvent_eq_none hnew]

theorem deliver_open (h : db.Inv events) (hmapped : event.mapped = .ok m)
    (hnew : ¬ db.Recorded event.key) {row : HypothesisRow}
    (hfind : db.findByCorrelationKey m.correlation.key = some row) :
    db.deliver mint event = db.absorbed row m := by
  have hevent := NormalisedEvent.event_of_mapped hmapped
  have hloading : ∀ env, (Worker.loading 1 m).advance db env =
      some (db, .applying 1 m row, []) := fun env => by
    rw [Worker.advance, hfind]
  rw [Db.deliver, alone_step (received_advance hmapped hnew), alone_step (hloading _)]
  exact alone_applying h (findByCorrelationKey_eq_some hfind).1 (hevent ▸ hnew)

/-- The first event of a window opens it and is applied to the new row. -/
theorem deliver_new (h : db.Inv events) (hmint : db.Minted mint)
    (hmapped : event.mapped = .ok m) (hnew : ¬ db.Recorded event.key)
    (hfind : db.findByCorrelationKey m.correlation.key = none) :
    db.deliver mint event =
      (db.withWindow mint m.correlation).absorbed (mint.row m.correlation) m := by
  have hevent := NormalisedEvent.event_of_mapped hmapped
  have hnone := findByCorrelationKey_eq_none hfind
  have hcreate := createHypothesisRow_minted hmint hnone
  have hloading : ∀ env, (Worker.loading 1 m).advance db env =
      some (db, .creating 1 m, []) := fun env => by
    rw [Worker.advance, hfind]
  have hkey : (deriveCorrelationKey event).key = m.correlation.key := by
    rw [MappedEvent.correlation, hevent]
  have hcreating : (Worker.creating 1 m).advance db (mint.env m.correlation.key) =
      some (db.withWindow mint m.correlation, .applying 1 m (mint.row m.correlation), []) := by
    rw [Worker.advance]
    split
    next _ hsome =>
      obtain rfl := Option.some.inj (hcreate.symm.trans hsome)
      rfl
    next hfails => cases hcreate.symm.trans hfails
  rw [Db.deliver, hkey, alone_step (received_advance hmapped hnew), alone_step (hloading _),
    alone_step hcreating]
  have hopened : (db.withWindow mint m.correlation).Inv events :=
    Db.inv_opened h rfl (Db.createHypothesisRow_eq_some hcreate).1
  have hunrecorded : ¬ (db.withWindow mint m.correlation).Recorded m.event.key := hevent ▸ hnew
  exact alone_applying hopened (List.mem_append_right _ (List.mem_singleton_self _)) hunrecorded

end Deliver

/-! ## A history of deliveries -/

/-- Keep an event unless one of its organisation and event id is kept already. -/
def keepFirst (kept : List NormalisedEvent) (event : NormalisedEvent) : List NormalisedEvent :=
  if event.key ∈ kept.map (·.key) then kept else kept ++ [event]

/-- The first event of every organisation and event id. -/
def firsts (history : List NormalisedEvent) : List NormalisedEvent := history.foldl keepFirst []

theorem firsts_keys (history : List NormalisedEvent) (key : String × String) :
    key ∈ (firsts history).map (·.key) ↔ key ∈ history.map (·.key) := by
  induction history using List.reverseRecOn with
  | nil => exact .rfl
  | append_singleton history event ih =>
    rw [firsts, List.foldl_append, List.foldl_cons, List.foldl_nil, keepFirst]
    change key ∈ List.map _ (if event.key ∈ (firsts history).map (·.key) then firsts history
      else firsts history ++ [event]) ↔ _
    by_cases hkept : event.key ∈ (firsts history).map (·.key)
    · rw [if_pos hkept, ih, List.map_append, List.mem_append, List.map_singleton,
        List.mem_singleton, or_iff_left_of_imp]
      rintro rfl
      rwa [← ih]
    · rw [if_neg hkept, List.map_append, List.map_append, List.mem_append, List.mem_append, ih]

theorem firsts_concat (history : List NormalisedEvent) (event : NormalisedEvent) :
    firsts (history ++ [event]) =
      if event.key ∈ history.map (·.key) then firsts history else firsts history ++ [event] := by
  rw [firsts, List.foldl_append, List.foldl_cons, List.foldl_nil, keepFirst]
  change (if event.key ∈ (firsts history).map (·.key) then firsts history
    else firsts history ++ [event]) = _
  rw [if_congr (firsts_keys history event.key) rfl rfl]

def mappedFor (window : String) (event : NormalisedEvent) : Option MappedEvent :=
  match event.mapped with
  | .ok m => if m.correlation.key = window then some m else none
  | .error _ => none

def accepted (window : String) (history : List NormalisedEvent) : List MappedEvent :=
  (firsts history).filterMap (mappedFor window)

theorem accepted_of_known {window : String} {history : List NormalisedEvent}
    {event : NormalisedEvent} (h : event.key ∈ history.map (·.key)) :
    accepted window (history ++ [event]) = accepted window history := by
  rw [accepted, firsts_concat, if_pos h, accepted]

theorem accepted_of_new {window : String} {history : List NormalisedEvent}
    {event : NormalisedEvent} (h : event.key ∉ history.map (·.key)) :
    accepted window (history ++ [event]) =
      accepted window history ++ (mappedFor window event).toList := by
  rw [accepted, firsts_concat, if_neg h, List.filterMap_append, accepted]
  cases hmapped : mappedFor window event <;> simp [hmapped]

/-- The window's hypothesis is replayed from the events, or there is neither. -/
def Db.WindowHolds (db : Db) (window : String) (history : List MappedEvent) : Prop :=
  (∃ row ∈ db.hypotheses, row.correlationKey = window ∧
    ∃ correlation id candidate,
      db.record row = (Record.opened correlation id candidate).replay history) ∨
    (∀ row ∈ db.hypotheses, row.correlationKey ≠ window) ∧ history = []

/-- The store after the deliveries of a history, one after the other. -/
structure Settled (mint : Mint) (history : List NormalisedEvent) (db : Db) : Prop where
  inv : db.Inv history
  minted : db.Minted mint
  recorded : ∀ key, db.Recorded key ↔ key ∈ history.map (·.key)
  windows : ∀ window, db.WindowHolds window (accepted window history)

theorem settled_empty (mint : Mint) : Settled mint [] .empty where
  inv := Db.inv_empty _
  minted := fun _ h => nomatch h
  recorded := fun key => by simp [Db.Recorded, Db.empty]
  windows := fun _ => .inr ⟨(fun _ h => nomatch h), rfl⟩

section SettledStep

variable {events : List NormalisedEvent} {db : Db} {mint : Mint} {row : HypothesisRow}
  {m : MappedEvent}

/-- The application of an event extends the history of its window, and of no other. -/
theorem windowHolds_absorbed (h : db.Inv events) (hrow : row ∈ db.hypotheses) {window : String}
    {history : List MappedEvent} (hholds : db.WindowHolds window history) :
    (db.absorbed row m).WindowHolds window
      (history ++ if row.correlationKey = window then [m] else []) := by
  by_cases hwindow : row.correlationKey = window
  · rw [if_pos hwindow]
    rcases hholds with ⟨row', hrow', hkey, correlation, id, candidate, hreplay⟩ | ⟨hnone, _⟩
    · obtain rfl := Table.eq_of_key h.windows hrow' hrow (hkey.trans hwindow.symm)
      refine .inl ⟨row'.absorb m, (Db.mem_absorbed h hrow).mpr (.inl rfl), hkey, correlation, id,
        candidate, ?_⟩
      rw [Record.replay_concat, ← hreplay, Db.record, absorb_id, Db.log_absorbed_self]
      rfl
    · exact absurd hwindow (hnone row hrow)
  · rw [if_neg hwindow, List.append_nil]
    rcases hholds with ⟨row', hrow', hkey, correlation, id, candidate, hreplay⟩ | ⟨hnone, hnil⟩
    · have hne : row' ≠ row := fun heq => hwindow (heq ▸ hkey)
      have hid : row'.id ≠ row.id := fun heq => hne (Table.eq_of_key h.ids hrow' hrow heq)
      refine .inl ⟨row', (Db.mem_absorbed h hrow).mpr (.inr ⟨hrow', hne⟩), hkey, correlation, id,
        candidate, ?_⟩
      rw [Db.record, Db.log_absorbed_other hid]
      exact hreplay
    · refine .inr ⟨fun new hnew => ?_, hnil⟩
      rcases (Db.mem_absorbed h hrow).mp hnew with rfl | ⟨hold, _⟩
      · exact hwindow
      · exact hnone new hold

/-- Opening a window leaves every history as it is. -/
theorem windowHolds_withWindow (h : db.Inv events) {correlation : CorrelationKey}
    (hfresh : ∀ old ∈ db.hypotheses, old.id ≠ (mint.row correlation).id) {window : String}
    {history : List MappedEvent} (hholds : db.WindowHolds window history)
    (hnil : correlation.key = window → history = []) :
    (db.withWindow mint correlation).WindowHolds window history := by
  by_cases hwindow : correlation.key = window
  · refine .inl ⟨mint.row correlation, List.mem_append_right _ (List.mem_singleton_self _),
      hwindow, correlation, mint.id correlation.key,
      mint.incidentCandidateId correlation.key, ?_⟩
    have hlog : (db.withWindow mint correlation).log (mint.row correlation).id = [] :=
      h.log_fresh hfresh
    rw [hnil hwindow, Db.record, hlog]
    rfl
  · rcases hholds with ⟨row, hrow, hkey, hreplay⟩ | ⟨hnone, hempty⟩
    · exact .inl ⟨row, List.mem_append_left _ hrow, hkey, hreplay⟩
    · refine .inr ⟨fun row hrow => ?_, hempty⟩
      rcases List.of_mem_concat hrow with hrow | rfl
      · exact hnone row hrow
      · exact hwindow

theorem minted_absorbed (h : db.Inv events) (hmint : db.Minted mint) (hrow : row ∈ db.hypotheses) :
    (db.absorbed row m).Minted mint := fun new hnew => by
  rcases (Db.mem_absorbed h hrow).mp hnew with rfl | ⟨hold, _⟩
  · exact hmint row hrow
  · exact hmint new hold

theorem minted_withWindow (hmint : db.Minted mint) (correlation : CorrelationKey) :
    (db.withWindow mint correlation).Minted mint := fun row hrow => by
  rcases List.of_mem_concat hrow with hrow | rfl
  · exact hmint row hrow
  · exact ⟨rfl, rfl⟩

theorem recorded_concat {insert : AppliedEvent} {key : String × String} :
    Db.Recorded { db with appliedEvents := db.appliedEvents ++ [insert] } key ↔
      db.Recorded key ∨ insert.key = key := by
  simp [Db.Recorded, or_and_right, exists_or]

end SettledStep

/-- One delivery extends the history by its event. -/
theorem Settled.deliver {mint : Mint} {history : List NormalisedEvent} {db : Db}
    (h : Settled mint history db) (event : NormalisedEvent) :
    Settled mint (history ++ [event]) (db.deliver mint event) := by
  have hsub : ∀ e ∈ history, e ∈ history ++ [event] := fun e he => List.mem_append_left _ he
  have hkeys : ∀ key, key ∈ (history ++ [event]).map (·.key) ↔
      key ∈ history.map (·.key) ∨ event.key = key := fun key => by simp [eq_comm]
  by_cases hknown : event.key ∈ history.map (·.key)
  · rw [deliver_recorded ((h.recorded _).mpr hknown)]
    refine ⟨h.inv.mono hsub, h.minted, fun key => ?_, fun window => ?_⟩
    · rw [hkeys, h.recorded, or_iff_left_of_imp]
      rintro rfl
      exact hknown
    · rw [accepted_of_known hknown]
      exact h.windows window
  have hnew : ¬ db.Recorded event.key := fun hrecorded => hknown ((h.recorded _).mp hrecorded)
  have hfresh : ∀ a ∈ db.appliedEvents, a.key ≠ event.key := fun a ha hkey => hnew ⟨a, ha, hkey⟩
  cases hmapped : event.mapped with
  | error reason =>
    rw [deliver_ignored hmapped hnew]
    refine ⟨Db.inv_recordIgnored (h.inv.mono hsub) hfresh rfl (by simp [ignoredInsert]),
      h.minted, fun key => ?_, fun window => ?_⟩
    · rw [hkeys, recorded_concat, h.recorded]
      exact .rfl
    · have hnone : mappedFor window event = none := by rw [mappedFor, hmapped]
      rw [accepted_of_new hknown, hnone, Option.toList_none, List.append_nil]
      exact h.windows window
  | ok m =>
    have hevent := NormalisedEvent.event_of_mapped hmapped
    have hmem : m.event ∈ history ++ [event] := by
      rw [hevent]
      exact List.mem_append_right _ (List.mem_singleton_self _)
    have haccepted : ∀ window, accepted window (history ++ [event]) =
        accepted window history ++ if m.correlation.key = window then [m] else [] :=
      fun window => by
        rw [accepted_of_new hknown, mappedFor, hmapped]
        by_cases hwindow : m.correlation.key = window <;> simp [hwindow]
    rw [← hevent] at hfresh
    cases hfind : db.findByCorrelationKey m.correlation.key with
    | some row =>
      obtain ⟨hrow, hkey⟩ := findByCorrelationKey_eq_some hfind
      rw [deliver_open h.inv hmapped hnew hfind]
      refine ⟨Db.inv_absorbed (h.inv.mono hsub) hrow hfresh hmem hkey.symm,
        minted_absorbed h.inv h.minted hrow, fun key => ?_, fun window => ?_⟩
      · rw [hkeys, ← h.recorded, ← hevent]
        exact recorded_concat
      · rw [haccepted, ← hkey]
        exact windowHolds_absorbed h.inv hrow (h.windows window)
    | none =>
      have hnone := findByCorrelationKey_eq_none hfind
      obtain ⟨hids, _⟩ := Db.createHypothesisRow_eq_some
        (createHypothesisRow_minted h.minted hnone)
      have hopened : (db.withWindow mint m.correlation).Inv (history ++ [event]) :=
        Db.inv_opened (h.inv.mono hsub) rfl hids
      have hrow : mint.row m.correlation ∈ (db.withWindow mint m.correlation).hypotheses :=
        List.mem_append_right _ (List.mem_singleton_self _)
      rw [deliver_new h.inv h.minted hmapped hnew hfind]
      refine ⟨Db.inv_absorbed hopened hrow hfresh hmem rfl,
        minted_absorbed hopened (minted_withWindow h.minted _) hrow, fun key => ?_,
        fun window => ?_⟩
      · rw [hkeys, ← h.recorded, ← hevent]
        exact recorded_concat
      · rw [haccepted]
        refine windowHolds_absorbed hopened hrow (windowHolds_withWindow h.inv
          (fun old hold => (hids old hold).1) (h.windows window) fun hwindow => ?_)
        rcases h.windows window with ⟨row, hrow, hkey, _⟩ | ⟨_, hempty⟩
        · exact absurd (hkey.trans hwindow.symm) (hnone row hrow)
        · exact hempty

/-- The store after the deliveries of a history from the start. -/
def deliverAll (mint : Mint) (history : List NormalisedEvent) : Db :=
  history.foldl (Db.deliver mint) .empty

theorem settled_deliverAll (mint : Mint) (history : List NormalisedEvent) :
    Settled mint history (deliverAll mint history) := by
  induction history using List.reverseRecOn with
  | nil => exact settled_empty mint
  | append_singleton history event ih =>
    rw [deliverAll, List.foldl_append]
    exact ih.deliver event

/-- **At least once is exactly once.**  A history leaves the store that the first delivery of each
event leaves, in every table. -/
theorem deliverAll_firsts (mint : Mint) (history : List NormalisedEvent) :
    deliverAll mint (firsts history) = deliverAll mint history := by
  induction history using List.reverseRecOn with
  | nil => rfl
  | append_singleton history event ih =>
    have hlast : deliverAll mint (history ++ [event]) =
        (deliverAll mint history).deliver mint event := List.foldl_append
    rw [firsts_concat, hlast]
    split
    · rename_i hkey
      rw [deliver_recorded (((settled_deliverAll mint history).recorded _).mpr hkey), ih]
    · rw [deliverAll, List.foldl_append, ← deliverAll, ih]
      rfl

end Sentinel.Fusion
