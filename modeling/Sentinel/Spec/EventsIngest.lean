import Sentinel.ForStd.List
import Sentinel.Spec.EventsPayload

/-! # The table of events

What every statement on the table and every publish keep: one canonical row for a key of an
organisation, every other row linked to it and counted by it, and nothing published or marked
that was not. -/

namespace Sentinel.Events

variable {platform : Platform} {rows rows' : List EventRow}

/-! ## Rows -/

def EventRow.key (row : EventRow) : String :=
  deriveIdempotencyKey row.data.organisationId row.data.siteId row.data.sourceId row.data.eventId
    row.data.occurredAt.ms

/-- The columns of the canonical-key unique index, where they are not null. -/
def EventRow.indexKey (row : EventRow) : Option (String × String) :=
  row.idempotencyKey.map (row.data.organisationId, ·)

structure EventRow.Canonical (row : EventRow) : Prop where
  original : row.duplicateOfEventId = none
  key : row.idempotencyKey = some row.key

structure EventRow.LinkedTo (row canonical : EventRow) : Prop where
  unkeyed : row.idempotencyKey = none
  link : row.duplicateOfEventId = some canonical.id
  original : canonical.Canonical
  organisation : canonical.data.organisationId = row.data.organisationId
  key : canonical.key = row.key

/-- A later version of a row: only the count and the publication can differ. -/
structure Keeps (row later : EventRow) : Prop where
  id : later.id = row.id
  data : later.data = row.data
  idempotencyKey : later.idempotencyKey = row.idempotencyKey
  duplicateOfEventId : later.duplicateOfEventId = row.duplicateOfEventId

namespace Keeps

variable {row later : EventRow}

theorem refl (row : EventRow) : Keeps row row := ⟨rfl, rfl, rfl, rfl⟩

theorem trans (a b c : EventRow) (hab : Keeps a b) (hbc : Keeps b c) : Keeps a c :=
  ⟨hbc.id.trans hab.id, hbc.data.trans hab.data, hbc.idempotencyKey.trans hab.idempotencyKey,
    hbc.duplicateOfEventId.trans hab.duplicateOfEventId⟩

theorem key (h : Keeps row later) : later.key = row.key := by
  rw [EventRow.key, EventRow.key, h.data]

theorem canonical (h : Keeps row later) (hcanonical : row.Canonical) : later.Canonical :=
  ⟨h.duplicateOfEventId.trans hcanonical.original,
    h.idempotencyKey.trans (hcanonical.key.trans (congrArg some h.key.symm))⟩

theorem linkedTo {canonical canonical' : EventRow} (h : Keeps row later)
    (h' : Keeps canonical canonical') (hlinked : row.LinkedTo canonical) :
    later.LinkedTo canonical' where
  unkeyed := h.idempotencyKey.trans hlinked.unkeyed
  link := by rw [h.duplicateOfEventId, hlinked.link, h'.id]
  original := h'.canonical hlinked.original
  organisation := by rw [h'.data, h.data, hlinked.organisation]
  key := by rw [h'.key, h.key, hlinked.key]

theorem mapRow (h : Keeps row later) : mapRowToNormalisedEvent later = mapRowToNormalisedEvent row := by
  simp only [mapRowToNormalisedEvent, h.data]

end Keeps

/-! ## The invariant of the table and the stream -/

structure Db.Inv (db : Db) : Prop where
  ids : (db.rows.map (·.id)).Nodup
  canonicalKeys : (db.rows.filterMap (·.indexKey)).Nodup
  shape : ∀ row ∈ db.rows, row.Canonical ∨ ∃ canonical ∈ db.rows, row.LinkedTo canonical
  counted : ∀ row ∈ db.rows, row.Canonical →
    row.receivedCount = 1 + db.rows.countP (·.duplicateOfEventId = some row.id)
  published : ∀ message ∈ db.stream, ∃ row ∈ db.rows, row.id = message.msgId ∧ row.Canonical ∧
    SameReading message.payload (mapRowToNormalisedEvent row)
  marked : ∀ row ∈ db.rows, row.publishedAt ≠ none →
    ∃ message ∈ db.stream, message.msgId = row.id ∧ message.acknowledged = true

/-- A later table and stream. -/
structure Db.Extends (db db' : Db) : Prop where
  rows : Table.Grows Keeps db.rows db'.rows
  stream : db.stream ⊆ db'.stream

namespace Db

variable {db db' : Db}

variable {event : NormalisedEvent} {id : String}

theorem Inv.empty : Inv ⟨[], []⟩ where
  ids := List.nodup_nil
  canonicalKeys := List.nodup_nil
  shape := fun _ h => nomatch h
  counted := fun _ h => nomatch h
  published := fun _ h => nomatch h
  marked := fun _ h => nomatch h

theorem Extends.refl (db : Db) : Extends db db :=
  ⟨Table.Grows.refl Keeps.refl db.rows, List.Subset.refl _⟩

theorem shape_mono (hgrows : Table.Grows Keeps rows rows') {row later : EventRow}
    (hkeeps : Keeps row later) (h : row.Canonical ∨ ∃ canonical ∈ rows, row.LinkedTo canonical) :
    later.Canonical ∨ ∃ canonical ∈ rows', later.LinkedTo canonical := by
  obtain hcanonical | ⟨canonical, hmem, hlinked⟩ := h
  · exact .inl (hkeeps.canonical hcanonical)
  · obtain ⟨canonical', hmem', hkeeps'⟩ := hgrows.exists_later hmem
    exact .inr ⟨canonical', hmem', hkeeps.linkedTo hkeeps' hlinked⟩

theorem published_mono (hgrows : Table.Grows Keeps rows rows') {message : Message}
    (h : ∃ row ∈ rows, row.id = message.msgId ∧ row.Canonical ∧
      SameReading message.payload (mapRowToNormalisedEvent row)) :
    ∃ row ∈ rows', row.id = message.msgId ∧ row.Canonical ∧
      SameReading message.payload (mapRowToNormalisedEvent row) := by
  obtain ⟨row, hmem, hid, hcanonical, hreading⟩ := h
  obtain ⟨later, hmem', hkeeps⟩ := hgrows.exists_later hmem
  exact ⟨later, hmem', hkeeps.id.trans hid, hkeeps.canonical hcanonical, hkeeps.mapRow ▸ hreading⟩

theorem findByIdempotencyKey_eq_some (h : Inv db) {organisationId key : String} {row : EventRow}
    (hfound : findByIdempotencyKey db.rows organisationId key = some row) :
    row ∈ db.rows ∧ row.Canonical ∧ row.data.organisationId = organisationId ∧ row.key = key := by
  have hmem := List.mem_of_find?_eq_some hfound
  have hcanonical : row.isCanonical organisationId key = true := List.find?_some hfound
  obtain ⟨horganisation, hkey⟩ := of_decide_eq_true hcanonical
  obtain hrow | ⟨canonical, -, hlinked⟩ := h.shape row hmem
  · exact ⟨hmem, hrow, horganisation, Option.some_inj.mp (hrow.key.symm.trans hkey)⟩
  · cases hlinked.unkeyed.symm.trans hkey

/-! ## Statements -/

/-- The canonical row that an insert adds. -/
theorem Inv.createCanonical (h : Inv db) {stamp : Stamp} {row : EventRow}
    (hcreate : createCanonical platform db.rows event event.idempotencyKey stamp =
      .ok (rows', row)) :
    Inv { db with rows := rows' } ∧ Extends db { db with rows := rows' } ∧ row.Canonical ∧
      row.data = mapNormalisedEventToRow platform event ∧ rows' = db.rows ++ [row] := by
  rw [Events.createCanonical] at hcreate
  split at hcreate
  · cases hcreate
  rename_i hid
  split at hcreate
  · cases hcreate
  rename_i hkey
  cases hcreate
  simp only [List.any_eq_true, decide_eq_true_eq, not_exists, not_and] at hid hkey
  have hgrows := Table.Grows.append Keeps.refl db.rows
    [(⟨stamp.id, mapNormalisedEventToRow platform event, some event.idempotencyKey, none, 1, none,
      stamp.now⟩ : EventRow)]
  refine ⟨⟨?_, ?_, ?_, ?_, ?_, ?_⟩, ⟨hgrows, List.Subset.refl _⟩, ⟨rfl, rfl⟩, rfl, rfl⟩
  · exact Table.nodup_map_concat h.ids hid
  · refine Table.nodup_filterMap_concat h.canonicalKeys fun k hk old hold hsame => ?_
    cases hk
    obtain ⟨key, hidempotency, hpair⟩ := Option.map_eq_some_iff.mp hsame
    obtain ⟨horganisation, rfl⟩ := Prod.mk.inj hpair
    exact hkey old hold (decide_eq_true ⟨horganisation, hidempotency⟩)
  · intro row hrow
    rcases List.of_mem_concat hrow with hold | rfl
    · exact shape_mono hgrows (Keeps.refl row) (h.shape row hold)
    · exact .inl ⟨rfl, rfl⟩
  · intro row hrow hcanonical
    rw [List.countP_append]
    rcases List.of_mem_concat hrow with hold | rfl
    · rw [h.counted row hold hcanonical]
      simp
    · -- no row was linked to an identifier that no row had
      have hnone : db.rows.countP (·.duplicateOfEventId = some stamp.id) = 0 := by
        refine List.countP_eq_zero.mpr fun other hother hlink => ?_
        obtain horiginal | ⟨canonical, hmem, hlinked⟩ := h.shape other hother
        · cases horiginal.original.symm.trans (of_decide_eq_true hlink)
        · have hsame := hlinked.link.symm.trans (of_decide_eq_true hlink)
          exact hid canonical hmem (Option.some.inj hsame)
      simp [hnone]
  · exact fun message hmessage => published_mono hgrows (h.published message hmessage)
  · intro row hrow hpublished
    rcases List.of_mem_concat hrow with hold | rfl
    · exact h.marked row hold hpublished
    · exact absurd rfl hpublished

/-- A row inserted beside its canonical row, which counts it. -/
theorem Inv.recordDuplicateDelivery (h : Inv db) {stamp : Stamp}
    {canonical : EventRow} (hmem : canonical ∈ db.rows) (hcanonical : canonical.Canonical)
    (horganisation : canonical.data.organisationId = event.organisationId)
    (hkey : canonical.key = event.idempotencyKey)
    (hrecord : recordDuplicateDelivery platform db.rows canonical.id event stamp = some rows') :
    Inv { db with rows := rows' } ∧ Extends db { db with rows := rows' } ∧
      rows'.map (·.id) = db.rows.map (·.id) ++ [stamp.id] ∧
      ∃ row ∈ rows', row.id = stamp.id ∧ row.data = mapNormalisedEventToRow platform event := by
  rw [Events.recordDuplicateDelivery] at hrecord
  split at hrecord
  · cases hrecord
  rename_i hguard
  obtain ⟨hfresh, -⟩ := not_or.mp hguard
  simp only [List.any_eq_true, decide_eq_true_eq, not_exists, not_and] at hfresh
  cases hrecord
  let duplicate : EventRow := ⟨stamp.id, mapNormalisedEventToRow platform event, none,
    some canonical.id, 1, none, stamp.now⟩
  let inserted := db.rows ++ [duplicate]
  have hlinked : duplicate.LinkedTo canonical := ⟨rfl, rfl, hcanonical, horganisation, hkey⟩
  have hcounts : Table.Follows Keeps inserted
      (Table.rewrite (·.id = canonical.id) EventRow.received inserted) :=
    Table.Follows.rewrite Keeps.refl fun _ _ => ⟨rfl, rfl, rfl, rfl⟩
  have hinserts : Table.Grows Keeps db.rows inserted := Table.Grows.append Keeps.refl _ _
  have hgrows := hinserts.trans Keeps.trans hcounts.grows
  have hids : (Table.rewrite (·.id = canonical.id) EventRow.received inserted).map (·.id) =
      db.rows.map (·.id) ++ [stamp.id] := by
    rw [hcounts.map_eq (·.id) Keeps.id, List.map_append]
    rfl
  -- a row of the new table, with the version before the count
  have hbefore : ∀ row ∈ Table.rewrite (·.id = canonical.id) EventRow.received inserted,
      ∃ old, (old ∈ db.rows ∨ old = duplicate) ∧ Keeps old row ∧
        row.publishedAt = old.publishedAt ∧
        row.receivedCount = old.receivedCount + if old.id = canonical.id then 1 else 0 := by
    intro row hrow
    obtain ⟨old, hold, rfl⟩ := Table.mem_rewrite.mp hrow
    refine ⟨old, (List.mem_append.mp hold).imp_right List.mem_singleton.mp, ?_⟩
    by_cases hhit : old.id = canonical.id
    · rw [if_pos (decide_eq_true hhit), if_pos hhit]
      exact ⟨⟨rfl, rfl, rfl, rfl⟩, rfl, rfl⟩
    · rw [if_neg (fun hcontra => hhit (of_decide_eq_true hcontra)), if_neg hhit]
      exact ⟨Keeps.refl old, rfl, rfl⟩
  refine ⟨⟨?_, ?_, ?_, ?_, ?_, ?_⟩, ⟨hgrows, List.Subset.refl _⟩, hids, ?_⟩
  · rw [hids]
    have hconcat : (inserted.map (·.id)).Nodup := Table.nodup_map_concat h.ids hfresh
    rwa [List.map_append] at hconcat
  · have hkeys : (inserted.filterMap EventRow.indexKey).Nodup :=
      Table.nodup_filterMap_concat h.canonicalKeys fun k hk => nomatch hk
    rwa [← Table.filterMap_rewrite (f := EventRow.received) EventRow.indexKey fun _ => rfl] at hkeys
  · intro row hrow
    obtain ⟨old, hold | rfl, hkeeps, -, -⟩ := hbefore row hrow
    · exact shape_mono hgrows hkeeps (h.shape old hold)
    · exact shape_mono hgrows hkeeps (.inr ⟨canonical, hmem, hlinked⟩)
  · intro row hrow hrowCanonical
    obtain ⟨old, hold | rfl, hkeeps, -, hcount⟩ := hbefore row hrow
    · have holdCanonical : old.Canonical :=
        ⟨hkeeps.duplicateOfEventId.symm.trans hrowCanonical.original,
          hkeeps.idempotencyKey.symm.trans (hrowCanonical.key.trans (congrArg some hkeeps.key))⟩
      have hlinks : (Table.rewrite (·.id = canonical.id) EventRow.received inserted).countP
          (·.duplicateOfEventId = some row.id) =
            inserted.countP (·.duplicateOfEventId = some row.id) :=
        Table.countP_rewrite fun _ => rfl
      have hone : (decide (duplicate.duplicateOfEventId = some old.id) = true) ↔
          old.id = canonical.id := by
        simp [duplicate, eq_comm]
      show row.receivedCount = 1 + (Table.rewrite _ _ inserted).countP _
      rw [hlinks, hcount, h.counted old hold holdCanonical, hkeeps.id, List.countP_append,
        List.countP_singleton, Nat.add_assoc, if_congr hone rfl rfl]
    · cases hkeeps.duplicateOfEventId.symm.trans hrowCanonical.original
  · exact fun message hmessage => published_mono hgrows (h.published message hmessage)
  · intro row hrow hpublished
    obtain ⟨old, hold | rfl, hkeeps, hsame, -⟩ := hbefore row hrow
    · rw [hkeeps.id]
      exact h.marked old hold (hsame ▸ hpublished)
    · exact absurd hsame hpublished
  · obtain ⟨row, hrow, hkeeps⟩ :=
      hcounts.exists_later (List.mem_append_right _ (List.mem_singleton_self duplicate))
    exact ⟨row, hrow, hkeeps.id, hkeeps.data⟩

/-- A row is marked once a message with its identifier was acknowledged. -/
theorem Inv.markPublished (h : Inv db) {now : Int} {message : Message}
    (hmessage : message ∈ db.stream) (hid : message.msgId = id)
    (hacknowledged : message.acknowledged = true)
    (hmark : markPublished db.rows id now = some rows') :
    Inv { db with rows := rows' } ∧ Extends db { db with rows := rows' } ∧
      rows'.map (·.id) = db.rows.map (·.id) := by
  rw [Events.markPublished] at hmark
  split at hmark
  · cases hmark
    let mark (row : EventRow) : EventRow := { row with publishedAt := some now }
    have hfollows : Table.Follows Keeps db.rows (Table.rewrite (·.id = id) mark db.rows) :=
      Table.Follows.rewrite Keeps.refl fun _ _ => ⟨rfl, rfl, rfl, rfl⟩
    have hids : (Table.rewrite (·.id = id) mark db.rows).map (·.id) = db.rows.map (·.id) :=
      hfollows.map_eq (·.id) Keeps.id
    refine ⟨⟨?_, ?_, ?_, ?_, ?_, ?_⟩, ⟨hfollows.grows, List.Subset.refl _⟩, hids⟩
    · rw [hids]
      exact h.ids
    · have hkeys := h.canonicalKeys
      rwa [← Table.filterMap_rewrite (f := mark) EventRow.indexKey fun _ => rfl] at hkeys
    · intro row hrow
      obtain ⟨old, hold, hkeeps⟩ := hfollows.exists_earlier hrow
      exact shape_mono hfollows.grows hkeeps (h.shape old hold)
    · intro row hrow hcanonical
      obtain ⟨old, hold, rfl⟩ := Table.mem_rewrite.mp hrow
      have hlinks (key : String) : (Table.rewrite (·.id = id) mark db.rows).countP
          (·.duplicateOfEventId = some key) = db.rows.countP (·.duplicateOfEventId = some key) :=
        Table.countP_rewrite fun _ => rfl
      show _ = 1 + (Table.rewrite (·.id = id) mark db.rows).countP _
      rw [hlinks]
      split at hcanonical
      · rw [if_pos ‹_›]
        exact h.counted old hold ⟨hcanonical.original, hcanonical.key⟩
      · rw [if_neg ‹_›]
        exact h.counted old hold hcanonical
    · exact fun entry hentry => published_mono hfollows.grows (h.published entry hentry)
    · intro row hrow hpublished
      obtain ⟨old, hold, rfl⟩ := Table.mem_rewrite.mp hrow
      by_cases hhit : old.id = id
      · rw [if_pos (decide_eq_true hhit)]
        exact ⟨message, hmessage, hid.trans hhit.symm, hacknowledged⟩
      · rw [if_neg (fun hcontra => hhit (of_decide_eq_true hcontra))] at hpublished ⊢
        exact h.marked old hold hpublished
  · cases hmark

/-- A publish adds nothing, or the one message, and knows no more than the stream. -/
theorem tryPublish_cases {stream stream' : List Message} {reception : Reception} {published : Bool}
    (h : tryPublish stream reception id event = (published, stream')) :
    published = false ∧ stream' = stream ∨ stream' = stream ++ [⟨id, event, published⟩] := by
  unfold tryPublish at h
  split at h
  · cases h
    exact .inl ⟨rfl, rfl⟩
  · cases reception <;> cases h
    · exact .inr rfl
    · exact .inr rfl
    · exact .inl ⟨rfl, rfl⟩

theorem Inv.tryPublish (h : Inv db) {reception : Reception}
    {published : Bool} {stream' : List Message} {row : EventRow} (hmem : row ∈ db.rows)
    (hid : row.id = id) (hcanonical : row.Canonical)
    (hreading : SameReading event (mapRowToNormalisedEvent row))
    (hpublish : tryPublish db.stream reception id event = (published, stream')) :
    Inv { db with stream := stream' } ∧ Extends db { db with stream := stream' } ∧
      (published = true → ∃ message ∈ stream', message.msgId = id ∧ message.acknowledged = true) := by
  obtain ⟨rfl, rfl⟩ | rfl := tryPublish_cases hpublish
  · exact ⟨h, Extends.refl db, nofun⟩
  have hsubset : db.stream ⊆ db.stream ++ [⟨id, event, published⟩] :=
    List.subset_append_left _ _
  refine ⟨⟨h.ids, h.canonicalKeys, h.shape, h.counted, ?_, ?_⟩,
    ⟨Table.Grows.refl Keeps.refl _, hsubset⟩, ?_⟩
  · intro message hmessage
    rcases List.of_mem_concat hmessage with hold | rfl
    · exact h.published message hold
    · exact ⟨row, hmem, hid, hcanonical, hreading⟩
  · intro other hother hpublished
    obtain ⟨message, hmessage, hmessageId⟩ := h.marked other hother hpublished
    exact ⟨message, hsubset hmessage, hmessageId⟩
  · exact fun hpublished => ⟨⟨id, event, published⟩,
      List.mem_append_right _ (List.mem_singleton_self _), rfl, hpublished⟩

end Db

end Sentinel.Events
