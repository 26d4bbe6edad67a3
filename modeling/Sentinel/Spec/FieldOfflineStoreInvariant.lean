import Sentinel.Native.FieldOfflineReplay

/-! # What one repository transaction does to cursors and receipts

Every transaction of the replay executor changes the two tables in one of four
ways (`DbChange`), and each of the four keeps the cursor/receipt invariant
`Db.WellFormed`. -/

namespace Sentinel.FieldOffline

/-! ### Queue positions -/

/-- The positions at or below the cursor. -/
def Consumed (cursor : Option Nat) (position : Nat) : Prop :=
  ∃ last, cursor = some last ∧ position ≤ last

/-- The cursor order: NULL below every position. -/
def CursorLe (cursor cursor' : Option Nat) : Prop :=
  ∀ last, cursor = some last → ∃ last', cursor' = some last' ∧ last ≤ last'

variable {cursor : Option Nat} {next incoming : Nat}

theorem CursorLe.refl (cursor : Option Nat) : CursorLe cursor cursor :=
  fun last h => ⟨last, h, Nat.le_refl _⟩

theorem CursorLe.trans {a b c : Option Nat} (h₁ : CursorLe a b) (h₂ : CursorLe b c) :
    CursorLe a c := by
  intro last hlast
  obtain ⟨last₁, hlast₁, hle₁⟩ := h₁ last hlast
  obtain ⟨last₂, hlast₂, hle₂⟩ := h₂ last₁ hlast₁
  exact ⟨last₂, hlast₂, Nat.le_trans hle₁ hle₂⟩

theorem nextExpected_eq_some (h : nextExpectedOfflineSequence cursor = some next) :
    cursor = none ∧ next = 0 ∨ ∃ last, cursor = some last ∧ next = last + 1 := by
  cases cursor with
  | none =>
    simp only [nextExpectedOfflineSequence, Option.some.injEq] at h
    exact .inl ⟨rfl, h.symm⟩
  | some last =>
    simp only [nextExpectedOfflineSequence] at h
    split at h
    · cases h
    · simp only [Option.some.injEq] at h
      exact .inr ⟨last, rfl, h.symm⟩

/-- Only the next expected position is FRESH. -/
theorem classify_eq_fresh {receipt : Option Bool} :
    classifyOfflineSequence cursor incoming receipt = .fresh ↔
      nextExpectedOfflineSequence cursor = some incoming := by
  have hreceipt : classifyByReceipt receipt ≠ .fresh := by
    cases receipt with
    | none => simp [classifyByReceipt]
    | some same => cases same <;> simp [classifyByReceipt]
  unfold classifyOfflineSequence
  split
  · rename_i next hnext
    by_cases heq : incoming = next
    · simp [heq, hnext]
    · have hne : ¬next = incoming := fun h => heq h.symm
      rw [if_neg heq, hnext]
      split <;> simp [hne, hreceipt]
  · rename_i hnext
    simp [hnext, hreceipt]

/-- At a consumed position the receipt decides. -/
theorem classify_of_consumed (h : Consumed cursor incoming) (receipt : Option Bool) :
    classifyOfflineSequence cursor incoming receipt = classifyByReceipt receipt := by
  obtain ⟨last, rfl, hle⟩ := h
  unfold classifyOfflineSequence
  split
  next next hnext =>
    obtain ⟨hnone, -⟩ | ⟨last', hlast', rfl⟩ := nextExpected_eq_some hnext
    · cases hnone
    · cases hlast'
      rw [if_neg (by omega), if_neg (by omega)]
  next => rfl

theorem consumed_of_classify_eq_replay
    {receipt : Option Bool} (hincoming : incoming ≤ maxOfflineDeviceSequence)
    (h : classifyOfflineSequence cursor incoming receipt = .replay) : Consumed cursor incoming := by
  unfold classifyOfflineSequence at h
  split at h
  next next hnext =>
    split at h
    · cases h
    next hne =>
      split at h
      · cases h
      next hle =>
        obtain ⟨-, rfl⟩ | ⟨last, rfl, rfl⟩ := nextExpected_eq_some hnext
        · omega
        · exact ⟨last, rfl, by omega⟩
  next hnone =>
    cases cursor with
    | none => cases hnone
    | some last =>
      simp only [nextExpectedOfflineSequence] at hnone
      split at hnone
      next hlast => exact ⟨last, rfl, by omega⟩
      next => cases hnone

theorem nextExpected_of_not_consumed {position : Nat}
    (hposition : position ≤ maxOfflineDeviceSequence) (h : ¬Consumed cursor position)
    (hbelow : ∀ earlier < position, Consumed cursor earlier) :
    nextExpectedOfflineSequence cursor = some position := by
  cases cursor with
  | none =>
    have hzero : position = 0 := by
      by_contra hne
      obtain ⟨_, hlast, -⟩ := hbelow 0 (by omega)
      cases hlast
    rw [hzero]
    rfl
  | some last =>
    have hlt : last < position := by
      by_contra hle
      exact h ⟨last, rfl, by omega⟩
    obtain ⟨_, hlast, hle⟩ := hbelow (position - 1) (by omega)
    cases hlast
    rw [nextExpectedOfflineSequence, if_neg (by omega)]
    congr
    omega

theorem consumed_next {position : Nat} (h : nextExpectedOfflineSequence cursor = some next) :
    Consumed (some next) position ↔ Consumed cursor position ∨ position = next := by
  rcases nextExpected_eq_some h with ⟨rfl, rfl⟩ | ⟨last, rfl, rfl⟩
  · simp [Consumed]
  · simp only [Consumed, Option.some.injEq, exists_eq_left']
    omega

theorem cursorLe_next
    (h : nextExpectedOfflineSequence cursor = some next) : CursorLe cursor (some next) := by
  intro last hlast
  obtain ⟨rfl, _⟩ | ⟨last', rfl, rfl⟩ := nextExpected_eq_some h
  · cases hlast
  · simp only [Option.some.injEq] at hlast
    exact ⟨last' + 1, rfl, by omega⟩

/-! ### The invariant -/

/-- The columns of a receipt that no transaction rewrites. -/
structure ReceiptIdentity where
  id : String
  replayNamespace : ReplayNamespace
  offlineOperationId : String
  deviceSequence : Nat
  operationKind : OperationKind
  requestFingerprint : String
  downstreamIdempotencyKey : String
  clientCreatedAt : String
  firstReceivedAt : Int
  firstTraceId : String
  policyLeaseId : Option String

def ReceiptRow.identity (row : ReceiptRow) : ReceiptIdentity :=
  ⟨row.id, row.replayNamespace, row.offlineOperationId, row.deviceSequence, row.operationKind,
    row.requestFingerprint, row.downstreamIdempotencyKey, row.clientCreatedAt,
    row.firstReceivedAt, row.firstTraceId, row.policyLeaseId⟩

/-- The primary key, and the two composite keys of the receipts table. -/
def idKey (row : ReceiptRow) : String := row.id
def positionKey (row : ReceiptRow) : ReplayNamespace × Nat :=
  (row.replayNamespace, row.deviceSequence)
def operationKey (row : ReceiptRow) : ReplayNamespace × String :=
  (row.replayNamespace, row.offlineOperationId)

theorem keys_of_identity {row row' : ReceiptRow} (h : row'.identity = row.identity) :
    idKey row' = idKey row ∧ positionKey row' = positionKey row ∧
      operationKey row' = operationKey row := by
  simp only [ReceiptRow.identity, ReceiptIdentity.mk.injEq] at h
  obtain ⟨hid, hns, hop, hseq, _⟩ := h
  simp only [idKey, positionKey, operationKey, hid, hns, hop, hseq, and_self]

/-- Cursors and receipts agree: the three keys hold, the finalized receipts of a
    namespace sit at exactly its consumed positions, and an unfinalized one sits
    at the next expected position. -/
structure Db.WellFormed (db : Db) : Prop where
  ids : (db.receipts.map idKey).Nodup
  positions : (db.receipts.map positionKey).Nodup
  operationIds : (db.receipts.map operationKey).Nodup
  hasCursor : ∀ row ∈ db.receipts, (db.cursors row.replayNamespace).isSome
  finalized_consumed : ∀ row ∈ db.receipts, row.isFinalized →
    Consumed (db.readCursor row.replayNamespace) row.deviceSequence
  consumed_finalized : ∀ ns position, Consumed (db.readCursor ns) position →
    ∃ row ∈ db.receipts, positionKey row = (ns, position) ∧ row.isFinalized
  pending_next : ∀ row ∈ db.receipts, row.isFinalized = false →
    nextExpectedOfflineSequence (db.readCursor row.replayNamespace) = some row.deviceSequence

theorem Db.empty_wellFormed : Db.empty.WellFormed where
  ids := by simp [Db.empty]
  positions := by simp [Db.empty]
  operationIds := by simp [Db.empty]
  hasCursor := by simp [Db.empty]
  finalized_consumed := by simp [Db.empty]
  consumed_finalized := by simp [Db.empty, Db.readCursor, Consumed]
  pending_next := by simp [Db.empty]

/-! ### Changes -/

structure Hits (db : Db) (target : ReceiptRow) (where_ : ReceiptRow → Bool)
    (data : ReceiptRow → ReceiptRow) : Prop where
  mem : target ∈ db.receipts
  hit : where_ target = true
  only : ∀ row ∈ db.receipts, where_ row = true → row = target
  identity : ∀ row, (data row).identity = row.identity
  pending : target.isFinalized = false

/-- The four ways a transaction changes cursors and receipts. -/
inductive DbChange (db db' : Db) : Prop
  /-- Both tables read as before. -/
  | kept (hreceipts : db'.receipts = db.receipts)
      (hcursor : ∀ ns, db'.readCursor ns = db.readCursor ns)
  /-- A receipt is created at the next expected position. -/
  | inserted (row : ReceiptRow) (hpending : row.isFinalized = false)
      (hcursorRow : (db.cursors row.replayNamespace).isSome)
      (hnext : nextExpectedOfflineSequence (db.readCursor row.replayNamespace) =
        some row.deviceSequence)
      (hunique : db.violatesUnique row = false)
      (hreceipts : db'.receipts = db.receipts ++ [row])
      (hcursor : ∀ ns, db'.readCursor ns = db.readCursor ns)
  /-- An unfinalized receipt is rewritten and stays unfinalized. -/
  | rewritten (target : ReceiptRow) (where_ : ReceiptRow → Bool) (data : ReceiptRow → ReceiptRow)
      (hits : Hits db target where_ data) (hpending : (data target).isFinalized = false)
      (hreceipts : db'.receipts = Table.rewrite where_ data db.receipts)
      (hcursor : ∀ ns, db'.readCursor ns = db.readCursor ns)
  /-- An unfinalized receipt is finalized and the cursor advances to it. -/
  | finalized (target : ReceiptRow) (where_ : ReceiptRow → Bool) (data : ReceiptRow → ReceiptRow)
      (hits : Hits db target where_ data) (hfinal : (data target).isFinalized = true)
      (hreceipts : db'.receipts = Table.rewrite where_ data db.receipts)
      (hcursor : ∀ ns, db'.readCursor ns =
        if ns = target.replayNamespace then some target.deviceSequence else db.readCursor ns)

/-- One transaction: a change, and no cursor row is ever deleted. -/
structure DbStep (db db' : Db) : Prop where
  change : DbChange db db'
  cursorRows : ∀ ns, (db.cursors ns).isSome → (db'.cursors ns).isSome

theorem DbStep.refl (db : Db) : DbStep db db := ⟨.kept rfl fun _ => rfl, fun _ h => h⟩

namespace Hits

variable {db : Db} {target : ReceiptRow} {where_ : ReceiptRow → Bool}
  {data : ReceiptRow → ReceiptRow}

theorem mem_iff (h : Hits db target where_ data) {row : ReceiptRow} :
    row ∈ Table.rewrite where_ data db.receipts ↔
      row = data target ∨ row ∈ db.receipts ∧ row ≠ target :=
  Table.mem_rewrite_unique h.mem h.hit h.only

/-- The rewritten row sits where the target sat. -/
theorem position (h : Hits db target where_ data) :
    (data target).replayNamespace = target.replayNamespace ∧
      (data target).deviceSequence = target.deviceSequence := by
  have hkey := (keys_of_identity (h.identity target)).2.1
  exact ⟨congrArg Prod.fst hkey, congrArg Prod.snd hkey⟩

/-- The three keys survive the rewrite. -/
theorem keys (h : Hits db target where_ data) (hdb : db.WellFormed) :
    ((Table.rewrite where_ data db.receipts).map idKey).Nodup ∧
      ((Table.rewrite where_ data db.receipts).map positionKey).Nodup ∧
      ((Table.rewrite where_ data db.receipts).map operationKey).Nodup :=
  ⟨Table.nodup_map_rewrite hdb.ids fun row => (keys_of_identity (h.identity row)).1,
    Table.nodup_map_rewrite hdb.positions fun row => (keys_of_identity (h.identity row)).2.1,
    Table.nodup_map_rewrite hdb.operationIds fun row => (keys_of_identity (h.identity row)).2.2⟩

theorem finalized_kept (h : Hits db target where_ data) {row : ReceiptRow}
    (hmem : row ∈ db.receipts) (hfinal : row.isFinalized = true) :
    row ∈ Table.rewrite where_ data db.receipts := by
  refine h.mem_iff.mpr (.inr ⟨hmem, fun heq => ?_⟩)
  rw [heq, h.pending] at hfinal
  cases hfinal

end Hits

/-- What it means that no unique index refuses the row. -/
theorem violatesUnique_eq_false {db : Db} {row : ReceiptRow} (h : db.violatesUnique row = false) :
    ∀ stored ∈ db.receipts, idKey stored ≠ idKey row ∧ positionKey stored ≠ positionKey row ∧
      operationKey stored ≠ operationKey row := by
  intro stored hstored
  simp only [Db.violatesUnique, List.any_eq_false, decide_eq_true_eq, not_or, not_and] at h
  obtain ⟨hid, hkeys⟩ := h stored hstored
  refine ⟨hid, fun heq => ?_, fun heq => ?_⟩
  · simp only [positionKey, Prod.mk.injEq] at heq
    exact (hkeys heq.1).1 heq.2
  · simp only [operationKey, Prod.mk.injEq] at heq
    exact (hkeys heq.1).2 heq.2

namespace DbStep

variable {db db' : Db}

private theorem hasCursor_of (h : DbStep db db') (hdb : db.WellFormed) {row : ReceiptRow}
    (hmem : row ∈ db.receipts) : (db'.cursors row.replayNamespace).isSome :=
  h.cursorRows _ (hdb.hasCursor row hmem)

private theorem wellFormed_kept (h : DbStep db db') (hdb : db.WellFormed)
    (hreceipts : db'.receipts = db.receipts) (hcursor : ∀ ns, db'.readCursor ns = db.readCursor ns) :
    db'.WellFormed where
  ids := hreceipts ▸ hdb.ids
  positions := hreceipts ▸ hdb.positions
  operationIds := hreceipts ▸ hdb.operationIds
  hasCursor := fun row hrow => h.hasCursor_of hdb (hreceipts ▸ hrow)
  finalized_consumed := fun row hrow hfinal => by
    rw [hcursor]
    exact hdb.finalized_consumed row (hreceipts ▸ hrow) hfinal
  consumed_finalized := fun ns position hconsumed => by
    rw [hcursor] at hconsumed
    rw [hreceipts]
    exact hdb.consumed_finalized ns position hconsumed
  pending_next := fun row hrow hpending => by
    rw [hcursor]
    exact hdb.pending_next row (hreceipts ▸ hrow) hpending

private theorem wellFormed_inserted (h : DbStep db db') (hdb : db.WellFormed) {row : ReceiptRow}
    (hpending : row.isFinalized = false)
    (hcursorRow : (db.cursors row.replayNamespace).isSome)
    (hnext : nextExpectedOfflineSequence (db.readCursor row.replayNamespace) =
      some row.deviceSequence)
    (hunique : db.violatesUnique row = false)
    (hreceipts : db'.receipts = db.receipts ++ [row])
    (hcursor : ∀ ns, db'.readCursor ns = db.readCursor ns) : db'.WellFormed where
  ids := hreceipts ▸ Table.nodup_map_concat hdb.ids fun old hold =>
    (violatesUnique_eq_false hunique old hold).1
  positions := hreceipts ▸ Table.nodup_map_concat hdb.positions fun old hold =>
    (violatesUnique_eq_false hunique old hold).2.1
  operationIds := hreceipts ▸ Table.nodup_map_concat hdb.operationIds fun old hold =>
    (violatesUnique_eq_false hunique old hold).2.2
  hasCursor := fun r hr => by
    rw [hreceipts, List.mem_append, List.mem_singleton] at hr
    rcases hr with hr | rfl
    · exact h.hasCursor_of hdb hr
    · exact h.cursorRows _ hcursorRow
  finalized_consumed := fun r hr hfinal => by
    rw [hreceipts, List.mem_append, List.mem_singleton] at hr
    rcases hr with hr | rfl
    · rw [hcursor]
      exact hdb.finalized_consumed r hr hfinal
    · rw [hpending] at hfinal
      cases hfinal
  consumed_finalized := fun ns position hconsumed => by
    rw [hcursor] at hconsumed
    obtain ⟨r, hr, hfound⟩ := hdb.consumed_finalized ns position hconsumed
    exact ⟨r, by rw [hreceipts]; exact List.mem_append_left _ hr, hfound⟩
  pending_next := fun r hr hopen => by
    rw [hreceipts, List.mem_append, List.mem_singleton] at hr
    rw [hcursor]
    rcases hr with hr | rfl
    · exact hdb.pending_next r hr hopen
    · exact hnext

private theorem wellFormed_rewritten (h : DbStep db db') (hdb : db.WellFormed)
    {target : ReceiptRow} {where_ : ReceiptRow → Bool} {data : ReceiptRow → ReceiptRow}
    (hits : Hits db target where_ data) (hpending : (data target).isFinalized = false)
    (hreceipts : db'.receipts = Table.rewrite where_ data db.receipts)
    (hcursor : ∀ ns, db'.readCursor ns = db.readCursor ns) : db'.WellFormed where
  ids := hreceipts ▸ (hits.keys hdb).1
  positions := hreceipts ▸ (hits.keys hdb).2.1
  operationIds := hreceipts ▸ (hits.keys hdb).2.2
  hasCursor := fun r hr => by
    rcases hits.mem_iff.mp (hreceipts ▸ hr) with rfl | ⟨hr, _⟩
    · rw [hits.position.1]
      exact h.hasCursor_of hdb hits.mem
    · exact h.hasCursor_of hdb hr
  finalized_consumed := fun r hr hfinal => by
    rw [hcursor]
    rcases hits.mem_iff.mp (hreceipts ▸ hr) with rfl | ⟨hr, _⟩
    · rw [hpending] at hfinal
      cases hfinal
    · exact hdb.finalized_consumed r hr hfinal
  consumed_finalized := fun ns position hconsumed => by
    rw [hcursor] at hconsumed
    obtain ⟨r, hr, hkey, hfinal⟩ := hdb.consumed_finalized ns position hconsumed
    exact ⟨r, hreceipts ▸ hits.finalized_kept hr hfinal, hkey, hfinal⟩
  pending_next := fun r hr hopen => by
    rw [hcursor]
    rcases hits.mem_iff.mp (hreceipts ▸ hr) with rfl | ⟨hr, _⟩
    · rw [hits.position.1, hits.position.2]
      exact hdb.pending_next target hits.mem hits.pending
    · exact hdb.pending_next r hr hopen

private theorem wellFormed_finalized (h : DbStep db db') (hdb : db.WellFormed)
    {target : ReceiptRow} {where_ : ReceiptRow → Bool} {data : ReceiptRow → ReceiptRow}
    (hits : Hits db target where_ data) (hfinal : (data target).isFinalized = true)
    (hreceipts : db'.receipts = Table.rewrite where_ data db.receipts)
    (hcursor : ∀ ns, db'.readCursor ns =
      if ns = target.replayNamespace then some target.deviceSequence else db.readCursor ns) :
    db'.WellFormed where
  ids := hreceipts ▸ (hits.keys hdb).1
  positions := hreceipts ▸ (hits.keys hdb).2.1
  operationIds := hreceipts ▸ (hits.keys hdb).2.2
  hasCursor := fun r hr => by
    rcases hits.mem_iff.mp (hreceipts ▸ hr) with rfl | ⟨hr, _⟩
    · rw [hits.position.1]
      exact h.hasCursor_of hdb hits.mem
    · exact h.hasCursor_of hdb hr
  finalized_consumed := fun r hr hclosed => by
    have hnext := hdb.pending_next target hits.mem hits.pending
    rw [hcursor]
    rcases hits.mem_iff.mp (hreceipts ▸ hr) with rfl | ⟨hr, _⟩
    · rw [if_pos hits.position.1, hits.position.2]
      exact ⟨_, rfl, Nat.le_refl _⟩
    · have hold := hdb.finalized_consumed r hr hclosed
      split
      · rename_i hns
        exact (consumed_next hnext).mpr (.inl (hns ▸ hold))
      · exact hold
  consumed_finalized := fun ns position hconsumed => by
    have hnext := hdb.pending_next target hits.mem hits.pending
    rw [hcursor] at hconsumed
    split at hconsumed
    · rename_i hns
      rcases (consumed_next hnext).mp hconsumed with hold | rfl
      · obtain ⟨r, hr, hkey, hclosed⟩ := hdb.consumed_finalized _ position hold
        exact ⟨r, hreceipts ▸ hits.finalized_kept hr hclosed, hns ▸ hkey, hclosed⟩
      · refine ⟨data target, hreceipts ▸ hits.mem_iff.mpr (.inl rfl), ?_, hfinal⟩
        rw [positionKey, hits.position.1, hits.position.2, hns]
    · obtain ⟨r, hr, hkey, hclosed⟩ := hdb.consumed_finalized ns position hconsumed
      exact ⟨r, hreceipts ▸ hits.finalized_kept hr hclosed, hkey, hclosed⟩
  pending_next := fun r hr hopen => by
    have hnext := hdb.pending_next target hits.mem hits.pending
    rw [hcursor]
    rcases hits.mem_iff.mp (hreceipts ▸ hr) with rfl | ⟨hr, hne⟩
    · rw [hfinal] at hopen
      cases hopen
    · have hopenNext := hdb.pending_next r hr hopen
      split
      · -- two pending receipts of one namespace would share its next position
        rename_i hns
        rw [hns, hnext, Option.some.injEq] at hopenNext
        refine absurd (Table.eq_of_key hdb.positions hr hits.mem ?_) hne
        rw [positionKey, positionKey, hns, hopenNext]
      · exact hopenNext

/-- Every transaction keeps the invariant. -/
theorem wellFormed (h : DbStep db db') (hdb : db.WellFormed) : db'.WellFormed := by
  cases h.change with
  | kept hreceipts hcursor => exact h.wellFormed_kept hdb hreceipts hcursor
  | inserted row hpending hcursorRow hnext hunique hreceipts hcursor =>
    exact h.wellFormed_inserted hdb hpending hcursorRow hnext hunique hreceipts hcursor
  | rewritten target where_ data hits hpending hreceipts hcursor =>
    exact h.wellFormed_rewritten hdb hits hpending hreceipts hcursor
  | finalized target where_ data hits hfinal hreceipts hcursor =>
    exact h.wellFormed_finalized hdb hits hfinal hreceipts hcursor

/-- No transaction moves a cursor back. -/
theorem cursorLe (h : DbStep db db') (hdb : db.WellFormed) (ns : ReplayNamespace) :
    CursorLe (db.readCursor ns) (db'.readCursor ns) := by
  cases h.change with
  | kept _ hcursor => exact hcursor ns ▸ CursorLe.refl _
  | inserted _ _ _ _ _ _ hcursor => exact hcursor ns ▸ CursorLe.refl _
  | rewritten _ _ _ _ _ _ hcursor => exact hcursor ns ▸ CursorLe.refl _
  | finalized target _ _ hits _ _ hcursor =>
    rw [hcursor]
    split
    · rename_i hns
      exact hns ▸ cursorLe_next (hdb.pending_next target hits.mem hits.pending)
    · exact CursorLe.refl _

/-- No transaction touches a finalized receipt. -/
theorem finalized_kept (h : DbStep db db') {row : ReceiptRow} (hmem : row ∈ db.receipts)
    (hfinal : row.isFinalized = true) : row ∈ db'.receipts := by
  cases h.change with
  | kept hreceipts _ => exact hreceipts ▸ hmem
  | inserted _ _ _ _ _ hreceipts _ => exact hreceipts ▸ List.mem_append_left _ hmem
  | rewritten _ _ _ hits _ hreceipts _ => exact hreceipts ▸ hits.finalized_kept hmem hfinal
  | finalized _ _ _ hits _ hreceipts _ => exact hreceipts ▸ hits.finalized_kept hmem hfinal

/-- Every receipt is still there, with the identity it was created with. -/
theorem identity_kept (h : DbStep db db') {row : ReceiptRow} (hmem : row ∈ db.receipts) :
    ∃ row' ∈ db'.receipts, row'.identity = row.identity := by
  have hrewrite : ∀ {target where_ data}, Hits db target where_ data →
      db'.receipts = Table.rewrite where_ data db.receipts →
      ∃ row' ∈ db'.receipts, row'.identity = row.identity := by
    intro target where_ data hits hreceipts
    by_cases heq : row = target
    · exact ⟨data target, hreceipts ▸ hits.mem_iff.mpr (.inl rfl), heq ▸ hits.identity target⟩
    · exact ⟨row, hreceipts ▸ hits.mem_iff.mpr (.inr ⟨hmem, heq⟩), rfl⟩
  cases h.change with
  | kept hreceipts _ => exact ⟨row, hreceipts ▸ hmem, rfl⟩
  | inserted _ _ _ _ _ hreceipts _ => exact ⟨row, hreceipts ▸ List.mem_append_left _ hmem, rfl⟩
  | rewritten _ _ _ hits _ hreceipts _ => exact hrewrite hits hreceipts
  | finalized _ _ _ hits _ hreceipts _ => exact hrewrite hits hreceipts

end DbStep

/-! ### The repository functions -/

variable {ns : ReplayNamespace} {now : Int} {receipt : StoredReceipt} {row : ReceiptRow}
  {receiptId : String}

theorem ensureCursor_dbStep (db : Db) (ns : ReplayNamespace) : DbStep db (db.ensureCursor ns) := by
  unfold Db.ensureCursor
  cases habsent : db.cursors ns with
  | some _ => exact DbStep.refl db
  | none =>
    -- the new row holds NULL, which every reader takes for an absent row
    refine ⟨.kept rfl fun ns' => ?_, fun ns' h => ?_⟩
    · by_cases heq : ns' = ns
      · simp [Db.readCursor, heq, habsent]
      · simp [Db.readCursor, Function.update_of_ne heq]
    · by_cases heq : ns' = ns
      · simp [heq]
      · simpa [Function.update_of_ne heq] using h

theorem lockCursor_eq_some {db : Db} {cursor : Option Nat}
    (h : db.lockCursor ns = some cursor) : (db.cursors ns).isSome ∧ db.readCursor ns = cursor := by
  simp only [Db.lockCursor] at h
  simp [Db.readCursor, h]

/-- An insert either fails or appends its row, which is RECEIVED. -/
theorem createReceipt_eq_some {db db' : Db} {input : Db.CreateReceiptInput} {id : String}
    (h : db.createReceipt input id now = some (db', receipt)) :
    db.violatesUnique (input.row id now) = false ∧
      db'.receipts = db.receipts ++ [input.row id now] ∧ db'.cursors = db.cursors ∧
      receipt = (input.row id now).toStoredReceipt := by
  simp only [Db.createReceipt] at h
  split at h
  · cases h
  · rename_i hunique
    cases h
    exact ⟨by simpa using hunique, rfl, rfl, rfl⟩

/-- A receipt an attempt holds: some row of its namespace still carries the
    columns it was read with. -/
structure ReceiptRow.Carries (row : ReceiptRow) (ns : ReplayNamespace) (receipt : StoredReceipt) :
    Prop where
  replayNamespace : row.replayNamespace = ns
  id : row.id = receipt.id
  offlineOperationId : row.offlineOperationId = receipt.offlineOperationId
  deviceSequence : row.deviceSequence = receipt.deviceSequence
  operationKind : row.operationKind = receipt.operationKind
  requestFingerprint : row.requestFingerprint = receipt.requestFingerprint
  downstreamIdempotencyKey : row.downstreamIdempotencyKey = receipt.downstreamIdempotencyKey

def Known (db : Db) (ns : ReplayNamespace) (receipt : StoredReceipt) : Prop :=
  ∃ row ∈ db.receipts, row.Carries ns receipt

theorem ReceiptRow.carries_self (row : ReceiptRow) :
    row.Carries row.replayNamespace row.toStoredReceipt :=
  ⟨rfl, rfl, rfl, rfl, rfl, rfl, rfl⟩

theorem ReceiptRow.Carries.of_identity {row' : ReceiptRow} (h : row.Carries ns receipt)
    (hid : row'.identity = row.identity) :
    row'.Carries ns receipt := by
  simp only [ReceiptRow.identity, ReceiptIdentity.mk.injEq] at hid
  obtain ⟨h₁, h₂, h₃, h₄, h₅, h₆, h₇, _⟩ := hid
  exact ⟨h₂.trans h.replayNamespace, h₁.trans h.id, h₃.trans h.offlineOperationId,
    h₄.trans h.deviceSequence, h₅.trans h.operationKind, h₆.trans h.requestFingerprint,
    h₇.trans h.downstreamIdempotencyKey⟩

theorem Known.dbStep {db db' : Db}
    (h : Known db ns receipt) (hstep : DbStep db db') : Known db' ns receipt := by
  obtain ⟨row, hrow, hcarries⟩ := h
  obtain ⟨row', hrow', hid⟩ := hstep.identity_kept hrow
  exact ⟨row', hrow', hcarries.of_identity hid⟩

/-- The receipt found at a position is a row of the table. -/
theorem findReceiptBySequence_eq_some {db : Db} {deviceSequence : Nat}
    (h : db.findReceiptBySequence ns deviceSequence = some receipt) :
    ∃ row ∈ db.receipts, positionKey row = (ns, deviceSequence) ∧ row.toStoredReceipt = receipt := by
  simp only [Db.findReceiptBySequence, Option.map_eq_some_iff] at h
  obtain ⟨row, hfind, rfl⟩ := h
  have hkey := List.find?_some hfind
  simp only [decide_eq_true_eq] at hkey
  exact ⟨row, List.mem_of_find?_eq_some hfind, by rw [positionKey, hkey.1, hkey.2], rfl⟩

/-- With distinct positions, the row at a position is the one found there. -/
theorem findReceiptBySequence_of_mem {db : Db} (hdb : db.WellFormed)
    {deviceSequence : Nat} (hrow : row ∈ db.receipts)
    (hkey : positionKey row = (ns, deviceSequence)) :
    db.findReceiptBySequence ns deviceSequence = some row.toStoredReceipt := by
  have hsome : (db.findReceiptBySequence ns deviceSequence).isSome = true := by
    rw [positionKey, Prod.mk.injEq] at hkey
    rw [Db.findReceiptBySequence, Option.isSome_map, Db.rowBySequence, List.find?_isSome]
    exact ⟨row, hrow, by simp [hkey.1, hkey.2]⟩
  obtain ⟨receipt, hreceipt⟩ := Option.isSome_iff_exists.mp hsome
  obtain ⟨found, hfound, hfoundKey, rfl⟩ := findReceiptBySequence_eq_some hreceipt
  rw [hreceipt, Table.eq_of_key hdb.positions hfound hrow (hfoundKey.trans hkey.symm)]

/-- What `admit` does to the tables, and that a receipt it proceeds with is one of
    the namespace's rows. -/
theorem admitOperation_dbStep {db db' : Db} {submission : Submission} {newId : String}
    {admission : Admission} (h : admitOperation db submission newId now = some (db', admission)) :
    DbStep db db' ∧ ∀ receipt last, admission = .proceed receipt last →
      Known db' submission.replayNamespace receipt := by
  unfold admitOperation at h
  cases hlock : db.lockCursor submission.replayNamespace with
  | none => rw [hlock] at h; cases h
  | some cursor =>
    obtain ⟨hrow, hcursor⟩ := lockCursor_eq_some hlock
    simp only [hlock] at h
    -- every refusal leaves the database alone
    have hrefuse : ∀ {code expected}, some (db, Admission.refuse code expected) = some (db', admission) →
        DbStep db db' ∧ ∀ receipt last, admission = .proceed receipt last →
          Known db' submission.replayNamespace receipt := by
      intro code expected heq
      cases heq
      exact ⟨DbStep.refl db, fun _ _ hproceed => nomatch hproceed⟩
    split at h
    · exact hrefuse h
    · split at h
      · exact hrefuse h
      · exact hrefuse h
      · exact hrefuse h
      · cases h
        refine ⟨DbStep.refl db, fun receipt last hproceed => ?_⟩
        unfold admitReplay at hproceed
        split at hproceed
        · split at hproceed <;> cases hproceed
        · cases hproceed
      · rename_i hclass
        have hnext := classify_eq_fresh.mp hclass
        unfold admitFresh at h
        split at h
        · rename_i stored hfind
          obtain ⟨row, hmem, hkey, rfl⟩ := findReceiptBySequence_eq_some hfind
          split at h
          · exact hrefuse h
          · split at h <;> simp only [Option.some.injEq, Prod.mk.injEq] at h <;>
              obtain ⟨rfl, rfl⟩ := h
            · exact ⟨DbStep.refl db, fun _ _ hproceed => nomatch hproceed⟩
            · refine ⟨DbStep.refl db, fun receipt last hproceed => ?_⟩
              simp only [Admission.proceed.injEq] at hproceed
              obtain ⟨rfl, _⟩ := hproceed
              simp only [positionKey, Prod.mk.injEq] at hkey
              exact ⟨row, hmem, hkey.1 ▸ row.carries_self⟩
        · split at h
          · cases h
          · rename_i created hcreate
            obtain ⟨hunique, hreceipts, hcursors, rfl⟩ := createReceipt_eq_some hcreate
            cases h
            refine ⟨⟨.inserted _ rfl hrow (hcursor ▸ hnext) hunique hreceipts fun ns => ?_,
              fun ns hns => hcursors ▸ hns⟩, fun receipt last hproceed => ?_⟩
            · simp only [Db.readCursor, hcursors]
            · simp only [Admission.proceed.injEq] at hproceed
              obtain ⟨rfl, _⟩ := hproceed
              refine ⟨submission.createInput.row newId now, ?_, ReceiptRow.carries_self _⟩
              rw [hreceipts]
              exact List.mem_append_right _ (List.mem_singleton.mpr rfl)

/-- A predicate that fixes the primary key and holds somewhere hits one row. -/
theorem hits_of_countWhere {db : Db} (hdb : db.WellFormed) {where_ : ReceiptRow → Bool}
    {data : ReceiptRow → ReceiptRow} {id : String}
    (hid : ∀ row ∈ db.receipts, where_ row = true → idKey row = id)
    (hpending : ∀ row, where_ row = true → row.isFinalized = false)
    (hidentity : ∀ row, (data row).identity = row.identity) (hcount : db.countWhere where_ ≠ 0) :
    ∃ target, Hits db target where_ data := by
  obtain ⟨target, hmem, hhit⟩ := List.countP_pos_iff.mp (Nat.pos_of_ne_zero hcount)
  refine ⟨target, hmem, hhit, fun row hrow hrowHit => ?_, hidentity, hpending target hhit⟩
  exact Table.eq_of_key hdb.ids hrow hmem ((hid row hrow hrowHit).trans (hid target hmem hhit).symm)

theorem isFinalized_eq_false_of_status
    (h : row.status = .received ∨ row.status = .unknown ∨ row.status = .applying) :
    row.isFinalized = false := by
  rcases h with h | h | h <;> simp [StoredReceipt.isFinalized, offlineReceiptAdvancesCursor, h]

theorem claimable_spec (h : Db.claimable receiptId now row = true) : row.id = receiptId ∧
      (row.status = .received ∨ row.status = .unknown ∨ row.status = .applying) := by
  simp only [Db.claimable, decide_eq_true_eq] at h
  obtain ⟨hid, h⟩ := h
  exact ⟨hid, h.imp id (Or.imp id And.left)⟩

/-- A claim is lost and changes no receipt, or hits one claimable receipt and
    returns the attempt count it leaves there. -/
theorem claimForProcessing_cases {db db' : Db} (hdb : db.WellFormed)
    {generation : Option Nat} (h : db.claimForProcessing receiptId now = some (db', generation)) :
    db'.cursors = db.cursors ∧
      (generation = none ∧ db'.receipts = db.receipts ∨
        ∃ target, Hits db target (Db.claimable receiptId now) (Db.claimRow now) ∧
          generation = some (target.attemptCount + 1) ∧
          db'.receipts =
            Table.rewrite (Db.claimable receiptId now) (Db.claimRow now) db.receipts) := by
  have hid : ∀ row ∈ db.receipts, Db.claimable receiptId now row = true → idKey row = receiptId :=
    fun row _ hrow => (claimable_spec hrow).1
  have hle : db.countWhere (Db.claimable receiptId now) ≤ 1 := Table.countP_le_one hdb.ids hid
  unfold Db.claimForProcessing at h
  split at h
  · cases h
  · split at h
    · rename_i hcount
      cases h
      refine ⟨rfl, .inl ⟨rfl, Table.rewrite_of_forall_miss fun row hrow => ?_⟩⟩
      have hzero : db.countWhere (Db.claimable receiptId now) = 0 := by omega
      simpa using List.countP_eq_zero.mp hzero row hrow
    · rename_i hcount
      obtain ⟨target, hits⟩ : ∃ target, Hits db target _ (Db.claimRow now) := hits_of_countWhere hdb hid
        (fun row hrow => isFinalized_eq_false_of_status (claimable_spec hrow).2) (fun _ => rfl)
        (by omega)
      dsimp only at h
      split at h
      · cases h
      · rename_i row hfind
        cases h
        refine ⟨rfl, .inr ⟨target, hits, ?_, rfl⟩⟩
        -- the row the claim reads back is the one it hit
        have hrowId : row.id = receiptId := by simpa using List.find?_some hfind
        have htargetId := (claimable_spec hits.hit).1
        rcases hits.mem_iff.mp (List.mem_of_find?_eq_some hfind) with rfl | ⟨hmem, hne⟩
        · rfl
        · exact absurd (Table.eq_of_key hdb.ids hmem hits.mem (hrowId.trans htargetId.symm)) hne

theorem claimForProcessing_dbStep {db db' : Db} (hdb : db.WellFormed) {generation : Option Nat}
    (h : db.claimForProcessing receiptId now = some (db', generation)) : DbStep db db' := by
  obtain ⟨hcursors, hcases⟩ := claimForProcessing_cases hdb h
  have hcursor : ∀ ns, db'.readCursor ns = db.readCursor ns := fun ns => by
    simp only [Db.readCursor, hcursors]
  refine ⟨?_, fun ns hns => hcursors ▸ hns⟩
  rcases hcases with ⟨_, hreceipts⟩ | ⟨target, hits, _, hreceipts⟩
  · exact .kept hreceipts hcursor
  · exact .rewritten target _ _ hits (isFinalized_eq_false_of_status (.inr (.inr rfl)))
      hreceipts hcursor

theorem fenced_spec {identity : Db.FinalizeIdentity} :
    Db.fenced identity row = true ↔ row.id = identity.receiptId ∧ row.status = .applying ∧
      row.attemptCount = identity.claimGeneration := by
  simp only [Db.fenced, decide_eq_true_eq]

/-- A fence that holds somewhere hits the one row of its attempt. -/
theorem hits_of_fenced {db : Db} (hdb : db.WellFormed) {identity : Db.FinalizeIdentity}
    {data : ReceiptRow → ReceiptRow} (hidentity : ∀ row, (data row).identity = row.identity)
    (hcount : db.countWhere (Db.fenced identity) ≠ 0) :
    ∃ target, Hits db target (Db.fenced identity) data :=
  hits_of_countWhere hdb (fun _ _ h => (fenced_spec.mp h).1)
    (fun _ h => isFinalized_eq_false_of_status (.inr (.inr (fenced_spec.mp h).2.1))) hidentity hcount

theorem Outcome.status_advancesCursor (outcome : Outcome) :
    offlineReceiptAdvancesCursor outcome.status = true := by
  cases outcome <;> rfl

theorem advanceCursor_receipts (db : Db) (ns : ReplayNamespace) (sequence : Nat) :
    (db.advanceCursor ns sequence).receipts = db.receipts := by
  unfold Db.advanceCursor
  split
  · rfl
  · rfl
  · split <;> rfl

theorem advanceCursor_spec {db : Db} {sequence : Nat} (hrow : (db.cursors ns).isSome)
    (hnext : nextExpectedOfflineSequence (db.readCursor ns) = some sequence) :
    (∀ ns', (db.advanceCursor ns sequence).readCursor ns' =
      if ns' = ns then some sequence else db.readCursor ns') ∧
    ∀ ns', (db.cursors ns').isSome → ((db.advanceCursor ns sequence).cursors ns').isSome := by
  obtain ⟨cursor, hcursor⟩ := Option.isSome_iff_exists.mp hrow
  have hmoved : db.advanceCursor ns sequence =
      { db with cursors := Function.update db.cursors ns (some (some sequence)) } := by
    simp only [Db.readCursor, hcursor, Option.join_some] at hnext
    rcases nextExpected_eq_some hnext with ⟨rfl, _⟩ | ⟨last, rfl, rfl⟩
    · simp only [Db.advanceCursor, hcursor]
    · simp [Db.advanceCursor, hcursor]
  rw [hmoved]
  refine ⟨fun ns' => ?_, fun ns' h => ?_⟩
  · by_cases heq : ns' = ns
    · simp [Db.readCursor, heq]
    · simp [Db.readCursor, heq]
  · by_cases heq : ns' = ns
    · simp [heq]
    · simpa [Function.update_of_ne heq] using h

/-- A finalization loses its fence and changes nothing, or hits the row of its
    attempt and rewrites it. -/
theorem finalizeAndAdvance_cases {db : Db} (hdb : db.WellFormed) (identity : Db.FinalizeIdentity)
    (verdict : Db.FinalizeVerdict) (now : Int) :
    db.finalizeAndAdvance identity verdict now = (db, .lost) ∧
        db.countWhere (Db.fenced identity) = 0 ∨
      ∃ target, Hits db target (Db.fenced identity) (Db.finalizeRow verdict now) ∧
        (db.finalizeAndAdvance identity verdict now).1.receipts =
          Table.rewrite (Db.fenced identity) (Db.finalizeRow verdict now) db.receipts ∧
        (db.finalizeAndAdvance identity verdict now).1.cursors =
          (db.advanceCursor identity.replayNamespace identity.deviceSequence).cursors := by
  unfold Db.finalizeAndAdvance
  split
  · rename_i hcount
    exact .inl ⟨rfl, hcount⟩
  · rename_i hcount
    obtain ⟨target, hits⟩ : ∃ target, Hits db target _ (Db.finalizeRow verdict now) :=
      hits_of_fenced hdb (fun _ => rfl) hcount
    refine .inr ⟨target, hits, ?_, ?_⟩
    · simp only [advanceCursor_receipts, Db.updateMany]
    · unfold Db.advanceCursor
      split <;> rename_i hcursor <;> simp only [Db.updateMany] at hcursor ⊢ <;> simp only [hcursor]
      split <;> rfl

theorem finalizeAndAdvance_dbStep {db : Db} (hdb : db.WellFormed) {identity : Db.FinalizeIdentity}
    (verdict : Db.FinalizeVerdict) (now : Int)
    (hplace : ∀ row ∈ db.receipts, row.id = identity.receiptId →
      positionKey row = (identity.replayNamespace, identity.deviceSequence)) :
    DbStep db (db.finalizeAndAdvance identity verdict now).1 := by
  rcases finalizeAndAdvance_cases hdb identity verdict now with
    ⟨hlost, _⟩ | ⟨target, hits, hreceipts, hcursors⟩
  · rw [hlost]
    exact DbStep.refl db
  · have hkey := hplace target hits.mem (fenced_spec.mp hits.hit).1
    simp only [positionKey, Prod.mk.injEq] at hkey
    have hnext := hdb.pending_next target hits.mem hits.pending
    rw [hkey.2] at hnext
    obtain ⟨hread, hsome⟩ := advanceCursor_spec (hdb.hasCursor target hits.mem) hnext
    rw [hkey.1] at hread hsome
    refine ⟨.finalized target _ _ hits (Outcome.status_advancesCursor _) hreceipts fun ns => ?_,
      fun ns hns => hcursors ▸ hsome ns hns⟩
    rw [hkey.1, hkey.2, ← hread ns]
    simp only [Db.readCursor, hcursors]

/-- `markUnknown` loses its fence and changes nothing, or hits the row of its
    attempt and leaves it UNKNOWN. -/
theorem markUnknown_cases {db : Db} (hdb : db.WellFormed) (identity : Db.FinalizeIdentity) :
    db.markUnknown identity = (db, .lost) ∧ db.countWhere (Db.fenced identity) = 0 ∨
      ∃ target, Hits db target (Db.fenced identity) (fun row => { row with status := .unknown }) ∧
        (db.markUnknown identity).1.receipts = Table.rewrite (Db.fenced identity)
          (fun row => { row with status := .unknown }) db.receipts ∧
        (db.markUnknown identity).1.cursors = db.cursors := by
  unfold Db.markUnknown
  split
  · rename_i hcount
    exact .inl ⟨rfl, hcount⟩
  · rename_i hcount
    obtain ⟨target, hits⟩ : ∃ target, Hits db target _ (fun row => { row with status := .unknown }) :=
      hits_of_fenced hdb (fun _ => rfl) hcount
    exact .inr ⟨target, hits, rfl, rfl⟩

theorem markUnknown_dbStep {db : Db} (hdb : db.WellFormed) (identity : Db.FinalizeIdentity) :
    DbStep db (db.markUnknown identity).1 := by
  rcases markUnknown_cases hdb identity with ⟨hlost, _⟩ | ⟨target, hits, hreceipts, hcursors⟩
  · rw [hlost]
    exact DbStep.refl db
  · refine ⟨.rewritten target _ _ hits (isFinalized_eq_false_of_status (.inr (.inl rfl)))
      hreceipts fun ns => ?_, fun ns hns => hcursors ▸ hns⟩
    simp only [Db.readCursor, hcursors]

end Sentinel.FieldOffline
