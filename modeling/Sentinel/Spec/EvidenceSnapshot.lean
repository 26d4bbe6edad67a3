import Sentinel.Native.EvidenceVault
import Sentinel.Spec.FusionIdentity

/-! # What an evidence snapshot holds

The rows under a requested id come in no order, and of several the last one is taken.  An event that
was delivered twice has a row for each delivery, and canonical events can share an event id. -/

namespace Sentinel.EvidenceVault

open Events (EventRow mapRowToNormalisedEvent)

variable {runtime : Runtime} {fields : EventRow → String} {rows delivered : List EventRow}
  {input : PreserveEventSnapshotInput}

/-- The row as a snapshot reads it. -/
def ofRow (fields : EventRow → String) (row : EventRow) : Event :=
  ⟨row.id, row.data.eventId, row.data.organisationId, fields row⟩

def fusionEvent (row : EventRow) : Fusion.NormalisedEvent := (mapRowToNormalisedEvent row).toFusion

/-- A rule maps the event of the row to a signal. -/
def mapped (row : EventRow) : Bool := (fusionEvent row).mapped.toBool

/-- The row that Fusion counted under an event id, of the rows in the order of their deliveries. -/
def counted (delivered : List EventRow) (organisationId eventId : String) : Option EventRow :=
  (delivered.find? fun row => (fusionEvent row).key = (organisationId, eventId)).filter mapped

/-- The rows whose organisation asks for them by the id. -/
def HeldUnder (organisationId id : String) (row : EventRow) : Prop :=
  row.data.organisationId = organisationId ∧ (row.data.eventId = id ∨ row.id = id)

/-- `missing`. -/
def missing (events : List Event) (eventIds : List String) : List String :=
  eventIds.filter fun id => (byRequestedId events id).isNone

/-- In whatever order the rows come, the snapshot takes under every requested id the row that Fusion
    counted, and misses the ids under which it counted none. -/
structure Faithful (runtime : Runtime) (fields : EventRow → String) (rows delivered : List EventRow)
    (input : PreserveEventSnapshotInput) : Prop where
  stored : ∀ {events}, events.Perm (rows.map (ofRow fields)) → ∀ id ∈ input.eventIds,
    byRequestedId (findEventsByIds events input.organisationId input.eventIds) id =
      (counted delivered input.organisationId id).map (ofRow fields)
  missing : ∀ {events}, events.Perm (rows.map (ofRow fields)) →
    missing (findEventsByIds events input.organisationId input.eventIds) input.eventIds =
      input.eventIds.filter fun id => (counted delivered input.organisationId id).isNone
  step : ∀ s draw, draw.events.Perm (rows.map (ofRow fields)) →
    advance runtime s draw (.snapshotMissing input) = some (s,
      match input.eventIds.mapM (counted delivered input.organisationId) with
      | none => .thrown
      | some requested => .ingest .snapshot
          (snapshotIngest runtime input draw.now (requested.map (ofRow fields))))

/-- What Fusion counted is a signal of the hypothesis of its window. -/
theorem counted_accepted {organisationId id : String} {row : EventRow}
    (h : counted delivered organisationId id = some row) :
    ∃ m, (fusionEvent row).mapped = .ok m ∧
      m ∈ Fusion.accepted m.correlation.key (delivered.map fusionEvent) := by
  obtain ⟨hfind, hmapped⟩ := Option.filter_eq_some_iff.mp h
  have hkey := (Table.of_find? hfind).2
  cases hm : (fusionEvent row).mapped with
  | error reason => rw [mapped, hm] at hmapped; cases hmapped
  | ok m =>
    refine ⟨m, rfl, List.mem_filterMap.mpr ⟨fusionEvent row, Fusion.mem_firsts_iff.mpr ?_, ?_⟩⟩
    · rw [List.find?_map, hkey]
      exact congrArg (Option.map fusionEvent) hfind
    · rw [Fusion.mappedFor, hm]
      exact if_pos rfl

theorem mapM_eq_map {α β γ : Type} {f : α → Option γ} {g : α → Option β} (k : β → γ) {l : List α}
    (h : ∀ a ∈ l, f a = (g a).map k) : l.mapM f = (l.mapM g).map (List.map k) := by
  induction l with
  | nil => rfl
  | cons a l ih =>
    rw [List.mapM_cons, List.mapM_cons, h a (List.mem_cons_self ..),
      ih fun b hb => h b (List.mem_cons_of_mem a hb)]
    cases g a with
    | none => rfl
    | some b => cases l.mapM g <;> rfl

/-! ## Rows under an id -/

theorem mem_found {events : List Event} (hperm : events.Perm (rows.map (ofRow fields)))
    {e : Event} (h : e ∈ findEventsByIds events input.organisationId input.eventIds) :
    ∃ row ∈ rows, ofRow fields row = e ∧ row.data.organisationId = input.organisationId := by
  obtain ⟨hmem, hpasses⟩ := List.mem_filter.mp h
  obtain ⟨row, hrow, rfl⟩ := List.mem_map.mp (hperm.mem_iff.mp hmem)
  exact ⟨row, hrow, rfl, (of_decide_eq_true hpasses).1⟩

theorem found_singleton (fields : EventRow → String)
    (huuid : ∀ row ∈ rows, isUuid row.id = true) {id : String} (hid : id ∈ input.eventIds)
    {row : EventRow} (hrow : row ∈ rows) (h : HeldUnder input.organisationId id row) :
    findEventsByIds [ofRow fields row] input.organisationId input.eventIds =
      [ofRow fields row] := by
  refine List.filter_eq_self.mpr fun e he => ?_
  rw [List.mem_singleton.mp he]
  refine decide_eq_true ⟨h.1, h.2.imp (fun heq => ?_) fun heq => ⟨?_, huuid row hrow⟩⟩
  · exact (congrArg (· ∈ input.eventIds) heq).mpr hid
  · exact (congrArg (· ∈ input.eventIds) heq).mpr hid

/-- A row that comes last is the one that is taken. -/
theorem counted_of_faithful (hids : (rows.map (·.id)).Nodup)
    (huuid : ∀ row ∈ rows, isUuid row.id = true) (hdelivered : ∀ row ∈ delivered, row ∈ rows)
    (h : Faithful runtime fields rows delivered input) {id : String} (hid : id ∈ input.eventIds)
    {row : EventRow} (hrow : row ∈ rows) (hheld : HeldUnder input.organisationId id row) :
    counted delivered input.organisationId id = some row := by
  obtain ⟨before, after, heq⟩ := List.append_of_mem hrow
  have hperm : ((before ++ after ++ [row]).map (ofRow fields)).Perm (rows.map (ofRow fields)) := by
    rw [heq]
    exact ((List.perm_append_singleton row _).trans List.perm_middle.symm).map _
  have htaken := h.stored hperm id hid
  have hfound := found_singleton fields huuid hid hrow hheld
  rw [findEventsByIds] at hfound htaken
  rw [List.map_append, List.filter_append, List.map_singleton, hfound, byRequestedId,
    List.reverse_append, List.reverse_singleton, List.singleton_append, List.find?_cons] at htaken
  have hunder : row.id = id ∨ row.data.eventId = id := hheld.2.symm
  simp only [ofRow, hunder, decide_true] at htaken
  obtain ⟨other, hother, hsame⟩ := Option.map_eq_some_iff.mp htaken.symm
  obtain ⟨hfind, -⟩ := Option.filter_eq_some_iff.mp hother
  have hmem := hdelivered other (Table.of_find? hfind).1
  rw [hother, Table.eq_of_key hids hmem hrow (congrArg Event.id hsame)]

/-! ## When a snapshot is faithful -/

/-- The snapshot is faithful exactly when each row under a requested id is the only one, is canonical
    and was delivered, carries the id as its event id, and is of a type that a rule maps. -/
theorem faithful_iff (runtime : Runtime) (fields : EventRow → String)
    (input : PreserveEventSnapshotInput) {rows delivered : List EventRow}
    (hids : (rows.map (·.id)).Nodup) (huuid : ∀ row ∈ rows, isUuid row.id = true)
    (hdelivered : ∀ row ∈ delivered, row ∈ rows ∧ row.duplicateOfEventId = none) :
    Faithful runtime fields rows delivered input ↔
      ∀ id ∈ input.eventIds, ∀ row ∈ rows, HeldUnder input.organisationId id row →
        (row.duplicateOfEventId = none ∧ row ∈ delivered ∧ row.data.eventId = id ∧ mapped row) ∧
          ∀ other ∈ rows, HeldUnder input.organisationId id other → other = row := by
  constructor
  · intro h id hid row hrow hheld
    have hcounted : ∀ row ∈ rows, HeldUnder input.organisationId id row →
        counted delivered input.organisationId id = some row := fun row =>
      counted_of_faithful hids huuid (fun row hrow => (hdelivered row hrow).1) h hid
    obtain ⟨hfind, hmapped⟩ := Option.filter_eq_some_iff.mp (hcounted row hrow hheld)
    obtain ⟨hmem, hkey⟩ := Table.of_find? hfind
    refine ⟨⟨(hdelivered row hmem).2, hmem, congrArg Prod.snd hkey, hmapped⟩, fun other ho hh => ?_⟩
    exact Option.some.inj ((hcounted other ho hh).symm.trans (hcounted row hrow hheld))
  · intro h
    have hstored : ∀ {events}, events.Perm (rows.map (ofRow fields)) → ∀ id ∈ input.eventIds,
        byRequestedId (findEventsByIds events input.organisationId input.eventIds) id =
          (counted delivered input.organisationId id).map (ofRow fields) := by
      intro events hperm id hid
      have hof : ∀ row ∈ delivered, (fusionEvent row).key = (input.organisationId, id) →
          row ∈ rows ∧ HeldUnder input.organisationId id row := fun row hrow hkey =>
        ⟨(hdelivered row hrow).1, congrArg Prod.fst hkey, .inl (congrArg Prod.snd hkey)⟩
      cases htaken : byRequestedId
          (findEventsByIds events input.organisationId input.eventIds) id with
      | none =>
        cases hcounted : counted delivered input.organisationId id with
        | none => rfl
        | some row =>
          obtain ⟨hfind, -⟩ := Option.filter_eq_some_iff.mp hcounted
          obtain ⟨hrow, hheld⟩ := hof row (Table.of_find? hfind).1 (Table.of_find? hfind).2
          have hpasses := List.filter_eq_self.mp (found_singleton fields huuid hid hrow hheld)
            _ (List.mem_singleton_self _)
          exact absurd (decide_eq_true hheld.2.symm) (List.find?_eq_none.mp htaken _
            (List.mem_reverse.mpr (List.mem_filter.mpr
              ⟨hperm.mem_iff.mpr (List.mem_map_of_mem hrow), hpasses⟩)))
      | some e =>
        obtain ⟨hmem, hunder⟩ := Table.of_find? htaken
        obtain ⟨row, hrow, rfl, horganisation⟩ := mem_found hperm (List.mem_reverse.mp hmem)
        have hheld : HeldUnder input.organisationId id row := ⟨horganisation, hunder.symm⟩
        obtain ⟨⟨-, hsent, heventId, hmapped⟩, honly⟩ := h id hid row hrow hheld
        have hkey : (fusionEvent row).key = (input.organisationId, id) :=
          Prod.ext horganisation heventId
        cases hfind : delivered.find? fun row =>
            (fusionEvent row).key = (input.organisationId, id) with
        | none => exact absurd (decide_eq_true hkey) (List.find?_eq_none.mp hfind row hsent)
        | some other =>
          obtain ⟨hother, hheld'⟩ := hof other (Table.of_find? hfind).1 (Table.of_find? hfind).2
          obtain rfl := honly other hother hheld'
          rw [counted, hfind, Option.filter_some_pos hmapped]
          rfl
    refine ⟨hstored, fun hperm => List.filter_congr fun id hid => ?_, fun s draw hperm => ?_⟩
    · rw [hstored hperm id hid, Option.isNone_map]
    · have hrequested : input.eventIds.mapM
          (byRequestedId (findEventsByIds draw.events input.organisationId input.eventIds)) =
            (input.eventIds.mapM (counted delivered input.organisationId)).map
              (List.map (ofRow fields)) := mapM_eq_map _ (hstored hperm)
      simp only [advance, hrequested]
      cases input.eventIds.mapM (counted delivered input.organisationId) <;> rfl

/-- A snapshot of the one event of a task. -/
def requestOne : PreserveEventSnapshotInput := ⟨"org-1", "inc-1", ["evt_1"], .system, some "task-1"⟩

/-- The row that one delivery of an access event leaves. -/
def deniedRow : EventRow where
  id := "11111111-1111-4111-8111-111111111111"
  data := Events.mapNormalisedEventToRow Events.verbatim (Fusion.deniedAt "site-1")
  idempotencyKey := some (Fusion.deniedAt "site-1").idempotencyKey
  duplicateOfEventId := none
  receivedCount := 1
  publishedAt := none
  createdAt := 0

def textless : Runtime := ⟨fun _ => "", fun _ _ _ => [], some⟩

theorem faithful_deliveredOnce :
    Faithful textless (·.data.traceId) [deniedRow] [deniedRow] requestOne := by
  refine (faithful_iff _ _ _ (by simp) (by decide) (by simp [deniedRow])).mpr ?_
  intro id hid row hrow _
  rw [List.mem_singleton.mp hid, List.mem_singleton.mp hrow]
  exact ⟨⟨rfl, List.mem_singleton_self _, rfl, by decide⟩,
    fun other hother _ => List.mem_singleton.mp hother⟩

/-- Two deliveries of the event to ingest. -/
def deniedTwice : List Events.Label :=
  let event := Fusion.deniedAt "site-1"
  let first : Events.Label := .advance 0 ⟨⟨deniedRow.id, 0⟩, .refused⟩
  let second : Events.Label := .advance 1 ⟨⟨"22222222-2222-4222-8222-222222222222", 0⟩, .refused⟩
  [.deliver event, .deliver event, first, first, second, second]

/-- The snapshot takes the row of the second delivery, which Fusion has not seen. -/
theorem duplicate_snapshot :
    ∃ s, Transition.run (Events.step Events.verbatim) Events.State.init deniedTwice = some s ∧
      ¬ Faithful textless (·.data.traceId) s.db.rows
        (s.db.rows.filter (·.duplicateOfEventId.isNone)) requestOne := by
  have hids : (Transition.run (Events.step Events.verbatim) Events.State.init deniedTwice).map
      (fun s => ((byRequestedId (findEventsByIds (s.db.rows.map (ofRow (·.data.traceId))) "org-1"
          ["evt_1"]) "evt_1").map (·.id),
        (counted (s.db.rows.filter (·.duplicateOfEventId.isNone)) "org-1" "evt_1").map (·.id))) =
      some (some "22222222-2222-4222-8222-222222222222", some deniedRow.id) := by decide
  obtain ⟨s, hrun, hids⟩ := Option.map_eq_some_iff.mp hids
  obtain ⟨htaken, hcounted⟩ := Prod.mk.inj hids
  refine ⟨s, hrun, fun h => ?_⟩
  have hstored := congrArg (Option.map (·.id)) (h.stored (.refl _) "evt_1" (.head _))
  rw [Option.map_map] at hstored
  exact absurd (htaken.symm.trans (hstored.trans hcounted)) (by decide)

end Sentinel.EvidenceVault
