import Sentinel.ForStd.Transition
import Sentinel.Spec.EventsIngest

/-! # Deliveries and sweeps, interleaved

Every party knows of the table and the stream only what later steps of the others keep, so each
step keeps the invariant wherever the others stand. -/

namespace Sentinel.Events

open CanonicalJson (sortKeysDeep)

variable {platform : Platform}

/-! ## What a party knows -/

/-- The table holds the row of a delivery. -/
def Db.Holds (platform : Platform) (db : Db) (event : NormalisedEvent) (rowId : String) : Prop :=
  ∃ row ∈ db.rows, row.id = rowId ∧ row.data = mapNormalisedEventToRow platform event

/-- The table holds the canonical row of which a party has a version. -/
def Db.HoldsCanonical (db : Db) (row : EventRow) : Prop :=
  ∃ later ∈ db.rows, Keeps row later ∧ later.Canonical

def Db.Acknowledged (db : Db) (id : String) : Prop :=
  ∃ message ∈ db.stream, message.msgId = id ∧ message.acknowledged = true

def Worker.Sound (platform : Platform) (db : Db) : Worker → Prop
  | .linking event canonicalId _ => ∃ canonical ∈ db.rows, canonical.id = canonicalId ∧
      canonical.Canonical ∧ canonical.data.organisationId = event.organisationId ∧
      canonical.key = event.idempotencyKey
  | .publishing event canonical =>
      db.HoldsCanonical canonical ∧ canonical.data = mapNormalisedEventToRow platform event
  | .marking event canonical =>
      (db.HoldsCanonical canonical ∧ canonical.data = mapNormalisedEventToRow platform event) ∧
        db.Acknowledged canonical.id
  | .finished event rowId _ => db.Holds platform event rowId
  | .received _ | .inserting _ | .rereading _ | .failed _ => True

def Sweep.rows : Sweep → List EventRow
  | .publishing row rest | .marking row rest => row :: rest
  | .finished => []

structure Sweep.Sound (db : Db) (sweep : Sweep) : Prop where
  rows : ∀ row ∈ sweep.rows, db.HoldsCanonical row
  marking : ∀ row rest, sweep = .marking row rest → db.Acknowledged row.id

namespace Db

variable {db db' : Db}

theorem Holds.mono (hgrows : Extends db db') {event : NormalisedEvent} {rowId : String}
    (h : db.Holds platform event rowId) : db'.Holds platform event rowId := by
  obtain ⟨row, hmem, hid, hdata⟩ := h
  obtain ⟨later, hlater, hkeeps⟩ := hgrows.rows.exists_later hmem
  exact ⟨later, hlater, hkeeps.id.trans hid, hkeeps.data.trans hdata⟩

theorem HoldsCanonical.mono (hgrows : Extends db db') {row : EventRow}
    (h : db.HoldsCanonical row) : db'.HoldsCanonical row := by
  obtain ⟨later, hmem, hkeeps, hcanonical⟩ := h
  obtain ⟨latest, hlatest, hkeeps'⟩ := hgrows.rows.exists_later hmem
  exact ⟨latest, hlatest, Keeps.trans _ _ _ hkeeps hkeeps', hkeeps'.canonical hcanonical⟩

theorem HoldsCanonical.holds {row : EventRow} {event : NormalisedEvent}
    (h : db.HoldsCanonical row) (hdata : row.data = mapNormalisedEventToRow platform event) :
    db.Holds platform event row.id := by
  obtain ⟨later, hmem, hkeeps, -⟩ := h
  exact ⟨later, hmem, hkeeps.id, hkeeps.data.trans hdata⟩

theorem Acknowledged.mono (hgrows : Extends db db') {id : String} (h : db.Acknowledged id) :
    db'.Acknowledged id :=
  h.imp fun _ hmessage => ⟨hgrows.stream hmessage.1, hmessage.2⟩

end Db

theorem Worker.Sound.mono {db db' : Db} (hgrows : db.Extends db') {worker : Worker}
    (h : worker.Sound platform db) : worker.Sound platform db' := by
  cases worker with
  | linking event canonicalId originalEventId =>
    obtain ⟨canonical, hmem, hid, hcanonical, horganisation, hkey⟩ := h
    obtain ⟨later, hlater, hkeeps⟩ := hgrows.rows.exists_later hmem
    refine ⟨later, hlater, hkeeps.id.trans hid, hkeeps.canonical hcanonical, ?_,
      hkeeps.key.trans hkey⟩
    rw [hkeeps.data, horganisation]
  | publishing event canonical => exact ⟨h.1.mono hgrows, h.2⟩
  | marking event canonical => exact ⟨⟨h.1.1.mono hgrows, h.1.2⟩, h.2.mono hgrows⟩
  | finished event rowId result => exact Db.Holds.mono hgrows h
  | received event => trivial
  | inserting event => trivial
  | rereading event => trivial
  | failed event => trivial

theorem Sweep.Sound.mono {db db' : Db} (hgrows : db.Extends db') {sweep : Sweep}
    (h : sweep.Sound db) : sweep.Sound db' where
  rows row hrow := Db.HoldsCanonical.mono hgrows (h.rows row hrow)
  marking row rest heq := Db.Acknowledged.mono hgrows (h.marking row rest heq)

theorem Sweep.sound_next {db : Db} {rest : List EventRow}
    (h : ∀ row ∈ rest, db.HoldsCanonical row) : (Sweep.next rest).Sound db := by
  cases rest with
  | nil => exact ⟨h, fun _ _ heq => by cases heq⟩
  | cons row rest => exact ⟨h, fun _ _ heq => by cases heq⟩

/-! ## Steps -/

section Steps

variable {db db' : Db} {env : Env}

/-- A step of a delivery: the row it writes, if any, is the one row it adds. -/
structure Worker.Steps (platform : Platform) (db db' : Db) (worker worker' : Worker) : Prop where
  inv : db'.Inv
  grows : db.Extends db'
  sound : worker'.Sound platform db'
  rows : (worker'.rowId.toList ++ db.rows.map (·.id)).Perm
    (worker.rowId.toList ++ db'.rows.map (·.id))

/-- A step that only moves the delivery. -/
theorem Worker.Steps.stay {worker worker' : Worker} (hinv : db.Inv)
    (hsound : worker'.Sound platform db) (hrow : worker'.rowId = worker.rowId) :
    Worker.Steps platform db db worker worker' :=
  ⟨hinv, .refl db, hsound, by rw [hrow]⟩

theorem Worker.sound_linking (hinv : db.Inv) {event : NormalisedEvent} {row : EventRow}
    (hfound : findByIdempotencyKey db.rows event.organisationId event.idempotencyKey = some row) :
    (Worker.linking event row.id row.data.eventId).Sound platform db := by
  obtain ⟨hmem, hcanonical, horganisation, hkey⟩ := Db.findByIdempotencyKey_eq_some hinv hfound
  exact ⟨row, hmem, rfl, hcanonical, horganisation, hkey⟩

theorem Worker.steps_of_advance
    (hjsonb : ∀ value, sortKeysDeep (platform.jsonb value) = sortKeysDeep value) (hinv : db.Inv)
    {worker worker' : Worker} (h : worker.Sound platform db)
    (hstep : worker.advance platform db env = some (db', worker')) :
    Worker.Steps platform db db' worker worker' := by
  cases worker with
  | received event =>
    rw [Worker.advance] at hstep
    split at hstep <;> cases hstep
    · exact .stay hinv (Worker.sound_linking hinv ‹_›) rfl
    · exact .stay hinv trivial rfl
  | inserting event =>
    rw [Worker.advance] at hstep
    split at hstep <;> cases hstep
    · rename_i rows canonical hcreate
      obtain ⟨hinv', hgrows, hcanonical, hdata, rfl⟩ := hinv.createCanonical hcreate
      refine ⟨hinv', hgrows, ⟨⟨canonical, ?_, Keeps.refl _, hcanonical⟩, hdata⟩, ?_⟩
      · exact List.mem_append_right _ (List.mem_singleton_self canonical)
      · rw [List.map_append]
        exact List.perm_append_comm
    · exact .stay hinv trivial rfl
    · exact .stay hinv trivial rfl
  | rereading event =>
    rw [Worker.advance] at hstep
    split at hstep <;> cases hstep
    · exact .stay hinv (Worker.sound_linking hinv ‹_›) rfl
    · exact .stay hinv trivial rfl
  | linking event canonicalId originalEventId =>
    obtain ⟨canonical, hmem, rfl, hcanonical, horganisation, hkey⟩ := h
    rw [Worker.advance] at hstep
    split at hstep <;> cases hstep
    · rename_i rows hrecord
      obtain ⟨hinv', hgrows, hids, hrow⟩ :=
        hinv.recordDuplicateDelivery hmem hcanonical horganisation hkey hrecord
      refine ⟨hinv', hgrows, hrow, ?_⟩
      show ([env.stamp.id] ++ db.rows.map (·.id)).Perm (rows.map (·.id))
      rw [hids]
      exact List.perm_append_comm
    · exact .stay hinv trivial rfl
  | publishing event canonical =>
    obtain ⟨⟨later, hmem, hkeeps, hcanonical⟩, hdata⟩ := h
    cases hpublish : tryPublish db.stream env.reception canonical.id event
    rw [Worker.advance, hpublish] at hstep
    cases hstep
    have hreading := sameReading_mapRowToNormalisedEvent hjsonb (hkeeps.data.trans hdata)
    obtain ⟨hinv', hgrows, hacknowledged⟩ := hinv.tryPublish hmem hkeeps.id hcanonical
      ⟨hreading.correlation.symm, hreading.signal.symm⟩ hpublish
    have hholds : Db.HoldsCanonical _ canonical := .mono hgrows ⟨later, hmem, hkeeps, hcanonical⟩
    refine ⟨hinv', hgrows, ?_, ?_⟩
    · split
      · exact ⟨⟨hholds, hdata⟩, hacknowledged ‹_›⟩
      · exact hholds.holds hdata
    · split <;> rfl
  | marking event canonical =>
    obtain ⟨⟨⟨later, hmem, hkeeps, hcanonical⟩, hdata⟩, message, hmessage, hid, hacknowledged⟩ := h
    rw [Worker.advance] at hstep
    split at hstep <;> cases hstep
    · rename_i rows hmark
      obtain ⟨hinv', hgrows, hids⟩ := hinv.markPublished hmessage hid hacknowledged hmark
      have hholds : Db.HoldsCanonical _ canonical := .mono hgrows ⟨later, hmem, hkeeps, hcanonical⟩
      refine ⟨hinv', hgrows, hholds.holds hdata, ?_⟩
      show ([canonical.id] ++ _).Perm ([canonical.id] ++ rows.map (·.id))
      rw [hids]
    · -- the row of the delivery is still there
      rename_i hnone
      rw [markPublished, if_pos] at hnone
      · cases hnone
      · exact List.any_eq_true.mpr ⟨later, hmem, decide_eq_true hkeeps.id⟩
  | finished event rowId result => cases hstep
  | failed event => cases hstep

theorem Sweep.sound_advance (hinv : db.Inv) {sweep sweep' : Sweep} (h : sweep.Sound db)
    (hstep : sweep.advance db env = some (db', sweep')) :
    (db'.Inv ∧ db.Extends db' ∧ sweep'.Sound db') ∧ db'.rows.map (·.id) = db.rows.map (·.id) := by
  cases sweep with
  | publishing row rest =>
    obtain ⟨later, hmem, hkeeps, hcanonical⟩ := h.rows row (List.mem_cons_self ..)
    cases hpublish : tryPublish db.stream env.reception row.id (mapRowToNormalisedEvent row)
    rw [Sweep.advance, hpublish] at hstep
    cases hstep
    have hreading : SameReading (mapRowToNormalisedEvent row) (mapRowToNormalisedEvent later) := by
      rw [hkeeps.mapRow]
      exact SameReading.refl _
    obtain ⟨hinv', hgrows, hacknowledged⟩ :=
      hinv.tryPublish hmem hkeeps.id hcanonical hreading hpublish
    refine ⟨⟨hinv', hgrows, ?_⟩, rfl⟩
    split
    · refine ⟨fun other hother => (h.rows other hother).mono hgrows, fun other rest' heq => ?_⟩
      cases heq
      exact hacknowledged ‹_›
    · exact Sweep.sound_next fun other hother =>
        (h.rows other (List.mem_cons_of_mem _ hother)).mono hgrows
  | marking row rest =>
    obtain ⟨message, hmessage, hid, hacknowledged⟩ := h.marking row rest rfl
    have hrest : ∀ other ∈ rest, db.HoldsCanonical other := fun other hother =>
      h.rows other (List.mem_cons_of_mem _ hother)
    rw [Sweep.advance] at hstep
    split at hstep <;> cases hstep
    · obtain ⟨hinv', hgrows, hids⟩ := hinv.markPublished hmessage hid hacknowledged ‹_›
      exact ⟨⟨hinv', hgrows, Sweep.sound_next fun other hother => (hrest other hother).mono hgrows⟩,
        hids⟩
    · exact ⟨⟨hinv, .refl db, Sweep.sound_next hrest⟩, rfl⟩
  | finished => cases hstep

/-- The rows that a sweep begins with are canonical: a duplicate carries a link. -/
theorem Sweep.sound_start (hinv : db.Inv) (cutoff : Int) (limit : Nat) :
    (Sweep.next (findUnpublishedOlderThan db.rows cutoff limit)).Sound db := by
  refine Sweep.sound_next fun row hrow => ?_
  have hsorted := List.mem_of_mem_take hrow
  rw [List.mem_insertionSort, List.mem_filter] at hsorted
  obtain ⟨hmem, hfilter⟩ := hsorted
  obtain ⟨-, hunlinked, -⟩ := of_decide_eq_true hfilter
  obtain hcanonical | ⟨canonical, -, hlinked⟩ := hinv.shape row hmem
  · exact ⟨row, hmem, Keeps.refl row, hcanonical⟩
  · cases hunlinked.symm.trans hlinked.link

end Steps

/-! ## Runs -/

structure State.Inv (platform : Platform) (s : State) : Prop where
  db : s.db.Inv
  workers : ∀ worker ∈ s.workers, worker.Sound platform s.db
  sweeps : ∀ sweep ∈ s.sweeps, sweep.Sound s.db
  accepted : (s.workers.flatMap (·.rowId.toList)).Perm (s.db.rows.map (·.id))

theorem State.inv_init : State.Inv platform State.init where
  db := Db.Inv.empty
  workers := fun _ h => nomatch h
  sweeps := fun _ h => nomatch h
  accepted := List.Perm.nil

theorem State.Inv.step
    (hjsonb : ∀ value, sortKeysDeep (platform.jsonb value) = sortKeysDeep value) {s s' : State}
    {label : Label} (h : s.Inv platform) (hstep : step platform s label = some s') :
    s'.Inv platform := by
  cases label with
  | deliver event =>
    cases hstep
    refine ⟨h.db, fun worker hworker => ?_, h.sweeps, ?_⟩
    · rcases List.of_mem_concat hworker with hold | rfl
      · exact h.workers worker hold
      · trivial
    · rw [List.flatMap_append]
      exact (List.append_nil _).symm ▸ h.accepted
  | advance i env =>
    obtain ⟨worker, hworker, hrest⟩ := Option.bind_eq_some_iff.mp hstep
    obtain ⟨⟨db', worker'⟩, hadvance, hs'⟩ := Option.bind_eq_some_iff.mp hrest
    cases hs'
    have hsteps := Worker.steps_of_advance hjsonb h.db
      (h.workers worker (List.mem_of_getElem? hworker)) hadvance
    refine ⟨hsteps.inv, fun other hother => ?_, fun sweep hsweep => ?_, ?_⟩
    · obtain hold | rfl := List.mem_or_eq_of_mem_set hother
      · exact (h.workers other hold).mono hsteps.grows
      · exact hsteps.sound
    · exact (h.sweeps sweep hsweep).mono hsteps.grows
    · -- what the delivery gains is what the table gains
      have hset := List.flatMap_set_perm (fun w : Worker => w.rowId.toList) hworker worker'
      refine (List.perm_append_left_iff worker.rowId.toList).mp ?_
      exact (hset.trans (h.accepted.append_left _)).trans hsteps.rows
  | startSweep now =>
    cases hstep
    refine ⟨h.db, h.workers, fun sweep hsweep => ?_, h.accepted⟩
    rcases List.of_mem_concat hsweep with hold | rfl
    · exact h.sweeps sweep hold
    · exact Sweep.sound_start h.db _ _
  | sweep i env =>
    obtain ⟨sweep, hsweep, hrest⟩ := Option.bind_eq_some_iff.mp hstep
    obtain ⟨⟨db', sweep'⟩, hadvance, hs'⟩ := Option.bind_eq_some_iff.mp hrest
    cases hs'
    obtain ⟨⟨hinv, hgrows, hsound⟩, hids⟩ := Sweep.sound_advance h.db
      (h.sweeps sweep (List.mem_of_getElem? hsweep)) hadvance
    refine ⟨hinv, fun worker hworker => (h.workers worker hworker).mono hgrows,
      fun other hother => ?_, ?_⟩
    · obtain hold | rfl := List.mem_or_eq_of_mem_set hother
      · exact (h.sweeps other hold).mono hgrows
      · exact hsound
    · rw [hids]
      exact h.accepted

/-! ## Nothing lost, nothing forked -/

/-- A delivery that has written a row has written its event. -/
theorem Worker.Sound.holds {db : Db} {worker : Worker} (h : worker.Sound platform db)
    {rowId : String} (hrow : worker.rowId = some rowId) : db.Holds platform worker.event rowId := by
  cases worker with
  | publishing event canonical =>
    cases hrow
    exact h.1.holds h.2
  | marking event canonical =>
    cases hrow
    exact h.1.1.holds h.1.2
  | finished event rowId' result =>
    cases hrow
    exact h
  | received event => cases hrow
  | inserting event => cases hrow
  | rereading event => cases hrow
  | linking event canonicalId originalEventId => cases hrow
  | failed event => cases hrow

theorem Db.Inv.canonical_of_mem {db : Db} (h : db.Inv) {row : EventRow} (hmem : row ∈ db.rows) :
    ∃ canonical ∈ db.rows, canonical.isCanonical row.data.organisationId row.key ∧
      (row = canonical ∨
        row.idempotencyKey = none ∧ row.duplicateOfEventId = some canonical.id) := by
  obtain hcanonical | ⟨canonical, hcanonicalMem, hlinked⟩ := h.shape row hmem
  · exact ⟨row, hmem, decide_eq_true ⟨rfl, hcanonical.key⟩, .inl rfl⟩
  · refine ⟨canonical, hcanonicalMem, decide_eq_true ⟨hlinked.organisation, ?_⟩,
      .inr ⟨hlinked.unkeyed, hlinked.link⟩⟩
    rw [hlinked.original.key, hlinked.key]

/-- The index holds one row for a key that it holds. -/
theorem Db.Inv.countP_isCanonical {db : Db} (h : db.Inv) {organisationId key : String}
    {row : EventRow} (hmem : row ∈ db.rows) (hrow : row.isCanonical organisationId key) :
    db.rows.countP (·.isCanonical organisationId key) = 1 := by
  refine Table.countP_eq_one h.ids (k := row.id) (fun other hother hsame => ?_) hmem hrow
  obtain ⟨horganisation, hkey⟩ := of_decide_eq_true hrow
  obtain ⟨horganisation', hkey'⟩ := of_decide_eq_true hsame
  refine congrArg _ (Table.eq_of_nullableKey h.canonicalKeys hother hmem
    (k := (organisationId, key)) ?_ ?_)
  · rw [EventRow.indexKey, hkey', Option.map_some, horganisation']
  · rw [EventRow.indexKey, hkey, Option.map_some, horganisation]

/-- What is in the table and on the stream, whatever is still under way. -/
structure State.Ingested (platform : Platform) (s : State) : Prop where
  /-- A key of which a delivery was accepted has one canonical row. -/
  canonical : ∀ worker ∈ s.workers, worker.rowId ≠ none →
    s.db.rows.countP
      (·.isCanonical worker.event.organisationId worker.event.idempotencyKey) = 1
  /-- The rows are those of the accepted deliveries, one each. -/
  accepted : (s.workers.flatMap (·.rowId.toList)).Perm (s.db.rows.map (·.id)) ∧
    (s.db.rows.map (·.id)).Nodup
  /-- The row of a delivery holds its event, and is the canonical row or linked to it. -/
  linked : ∀ worker ∈ s.workers, ∀ rowId, worker.rowId = some rowId →
    ∃ row ∈ s.db.rows, row.id = rowId ∧ row.data = mapNormalisedEventToRow platform worker.event ∧
      ∃ canonical ∈ s.db.rows,
        canonical.isCanonical worker.event.organisationId worker.event.idempotencyKey ∧
        (row = canonical ∨
          row.idempotencyKey = none ∧ row.duplicateOfEventId = some canonical.id)
  counted : ∀ row ∈ s.db.rows, row.idempotencyKey ≠ none →
    row.receivedCount = 1 + s.db.rows.countP (·.duplicateOfEventId = some row.id)
  published : ∀ message ∈ s.db.stream, ∃ row ∈ s.db.rows, row.id = message.msgId ∧
    row.idempotencyKey ≠ none ∧ row.duplicateOfEventId = none
  marked : ∀ row ∈ s.db.rows, row.publishedAt ≠ none →
    ∃ message ∈ s.db.stream, message.msgId = row.id ∧ message.acknowledged = true
  /-- The event that the row of a delivery gives back reads as the event that was delivered. -/
  rebuilt : ∀ worker ∈ s.workers, ∀ row ∈ s.db.rows, worker.rowId = some row.id →
    SameReading (mapRowToNormalisedEvent row) worker.event
  /-- So does every message that was published of it. -/
  sent : ∀ worker ∈ s.workers, ∀ message ∈ s.db.stream, worker.rowId = some message.msgId →
    SameReading message.payload worker.event

theorem State.Inv.ingested
    (hjsonb : ∀ value, sortKeysDeep (platform.jsonb value) = sortKeysDeep value) {s : State}
    (h : s.Inv platform) : s.Ingested platform := by
  have hholds (worker : Worker) (hworker : worker ∈ s.workers) {rowId : String}
      (hrow : worker.rowId = some rowId) := (h.workers worker hworker).holds hrow
  have hcanonical {row : EventRow} (hmem : row ∈ s.db.rows) (hkeyed : row.idempotencyKey ≠ none) :
      row.Canonical := (h.db.shape row hmem).resolve_right
    fun ⟨_, _, hlinked⟩ => hkeyed hlinked.unkeyed
  have hlinked : ∀ worker ∈ s.workers, ∀ rowId, worker.rowId = some rowId →
      ∃ row ∈ s.db.rows, row.id = rowId ∧
        row.data = mapNormalisedEventToRow platform worker.event ∧
        ∃ canonical ∈ s.db.rows,
          canonical.isCanonical worker.event.organisationId worker.event.idempotencyKey ∧
          (row = canonical ∨
            row.idempotencyKey = none ∧ row.duplicateOfEventId = some canonical.id) := by
    intro worker hworker rowId hrow
    obtain ⟨row, hmem, hid, hdata⟩ := hholds worker hworker hrow
    obtain ⟨canonical, hcanonicalMem, hisCanonical, hlink⟩ := h.db.canonical_of_mem hmem
    have hkey : row.key = worker.event.idempotencyKey := by
      rw [EventRow.key, hdata]
      rfl
    rw [hkey, hdata] at hisCanonical
    exact ⟨row, hmem, hid, hdata, canonical, hcanonicalMem, hisCanonical, hlink⟩
  have hrebuilt : ∀ worker ∈ s.workers, ∀ row ∈ s.db.rows, worker.rowId = some row.id →
      SameReading (mapRowToNormalisedEvent row) worker.event := by
    intro worker hworker row hmem hrow
    obtain ⟨row', hmem', hid, hdata⟩ := hholds worker hworker hrow
    obtain rfl := Table.eq_of_key h.db.ids hmem' hmem hid
    exact sameReading_mapRowToNormalisedEvent hjsonb hdata
  refine ⟨?_, ⟨h.accepted, h.db.ids⟩, hlinked, ?_, ?_, h.db.marked, hrebuilt, ?_⟩
  · intro worker hworker hne
    obtain ⟨rowId, hrow⟩ := Option.ne_none_iff_exists'.mp hne
    obtain ⟨-, -, -, -, canonical, hmem, hisCanonical, -⟩ := hlinked worker hworker rowId hrow
    exact h.db.countP_isCanonical hmem hisCanonical
  · exact fun row hmem hkeyed => h.db.counted row hmem (hcanonical hmem hkeyed)
  · intro message hmessage
    obtain ⟨row, hmem, hid, hrow, -⟩ := h.db.published message hmessage
    exact ⟨row, hmem, hid, hrow.key ▸ Option.some_ne_none _, hrow.original⟩
  · intro worker hworker message hmessage hrow
    obtain ⟨row, hmem, hid, -, hreading⟩ := h.db.published message hmessage
    have hrow' := hrebuilt worker hworker row hmem (hid ▸ hrow)
    exact ⟨hreading.correlation.trans hrow'.correlation, hreading.signal.trans hrow'.signal⟩

/-- Deliveries, lost publishes, crashes and sweeps, in any order, lose and fork nothing, where a
    JSONB column keeps a value up to the order of its keys. -/
theorem ingested_of_run
    (hjsonb : ∀ value, sortKeysDeep (platform.jsonb value) = sortKeysDeep value)
    {labels : List Label} {s : State}
    (hrun : Transition.run (step platform) State.init labels = some s) : s.Ingested platform :=
  State.Inv.ingested hjsonb
    (Transition.run_invariant (State.Inv.step hjsonb) State.inv_init hrun)

/-- A column that gives every value back. -/
def verbatim : Platform := ⟨id⟩

def motionAtTheGate : NormalisedEvent where
  eventId := "evt-1"
  organisationId := "org-1"
  siteId := "site-1"
  zoneId := none
  sourceType := .camera
  sourceId := "cam-1"
  sourceTrust := .trusted
  eventType := "motion"
  confidence := 1 / 2
  occurredAt := ⟨"2026-01-05T10:00:00.000Z", 1767607200000, by decide⟩
  ingestedAt := ⟨"2026-01-05T10:00:01.000Z", 1767607201000, by decide⟩
  location := .object []
  trackIds := []
  evidenceRefs := []
  metadata := .object []
  traceId := "trace-1"
  ordered := by decide

/-- Two deliveries at once: one inserts, the other loses the index, reads again and is linked; the
    publish is lost, and the sweep publishes. -/
def deliveredTwice : List Label :=
  let first (now : Int) (reception : Reception) : Label := .advance 0 ⟨⟨"row-1", now⟩, reception⟩
  let second (now : Int) : Label := .advance 1 ⟨⟨"row-2", now⟩, .refused⟩
  let sweep (now : Int) : Label := .sweep 0 ⟨⟨"row-3", now⟩, .confirmed⟩
  [.deliver motionAtTheGate, .deliver motionAtTheGate, first 1 .refused, second 2,
    first 3 .refused, second 4, second 5, second 6, first 7 .refused, .startSweep 20000,
    sweep 20001, sweep 20002]

theorem ingested_deliveredTwice :
    ∃ s, Transition.run (step verbatim) State.init deliveredTwice = some s ∧
      s.Ingested verbatim ∧
      s.db.rows.map (fun row => (row.id, row.receivedCount, row.publishedAt)) =
        [("row-1", 2, some 20002), ("row-2", 1, none)] := by
  have hrows : (Transition.run (step verbatim) State.init deliveredTwice).map
      (fun s => s.db.rows.map fun row => (row.id, row.receivedCount, row.publishedAt)) =
        some [("row-1", 2, some 20002), ("row-2", 1, none)] := by decide
  obtain ⟨s, hrun, hrows⟩ := Option.map_eq_some_iff.mp hrows
  exact ⟨s, hrun, ingested_of_run (fun _ => rfl) hrun, hrows⟩

end Sentinel.Events
