import Sentinel.ForStd.List
import Sentinel.ForStd.Transition
import Sentinel.Native.OfflineOutbox

/-! # The outbox over whole runs

What `persist` writes, `load` reads back, so every operation can be followed on the
snapshots.  `Snapshot.WellFormed` is the invariant they keep. -/

namespace Sentinel.OfflineOutbox

open Transition
open JsonText (Json)

/-! ## One entry -/

variable {members : JsonObject} {key : String} {snapshot : Snapshot} {entry : OfflineOutboxEntry}
  {stored : Stored} {maxDepth : Nat}

theorem requiredString_of_get {text : String}
    (h : getKey members key = some (jsonString text)) : requiredString members key = .ok text := by
  simp only [requiredString, h, jsonString, String.ofList_toList]

theorem optionalString_of_get {text : Option String}
    (h : getKey members key = some (jsonOptional text)) : optionalString members key = text := by
  cases text with
  | none => simp only [optionalString, h, jsonOptional]
  | some text => simp only [optionalString, h, jsonOptional, jsonString, String.ofList_toList]

def LongRange (n : Int) : Prop := -2 ^ 63 ≤ n ∧ n < 2 ^ 63

theorem requiredLong_of_get {n : Int}
    (h : getKey members key = some (jsonLong n)) (hn : LongRange n) :
    requiredLong members key = .ok n := by
  have hvalue : toLongOrNull (Decimal.digits n) = some n := by
    simp only [toLongOrNull, Decimal.value_digits, Option.filter, hn.1, hn.2, and_self,
      decide_true, if_true]
  simp only [requiredLong, h, jsonLong, hvalue]

/-- An `Int` fits into a `Long`. -/
theorem longRange_int32 (n : Int32) : LongRange n.toInt := by
  have hlower := n.le_toInt
  have hupper := n.toInt_lt
  constructor <;> omega

theorem parse_name (state : OfflineEntryState) : OfflineEntryState.parse state.name = .ok state := by
  cases state <;> rfl

/-- With distinct keys, the last member under a key is the member under it. -/
theorem getKey_of_mem (hnodup : (members.map Prod.fst).Nodup)
    {value : JsonElement} (h : (key.toList, value) ∈ members) : getKey members key = some value := by
  have hsome : (members.reverse.find? fun member => member.1 = key.toList).isSome = true := by
    rw [List.find?_isSome]
    exact ⟨_, List.mem_reverse.mpr h, by simp⟩
  obtain ⟨found, hfound⟩ := Option.isSome_iff_exists.mp hsome
  have hkey : found.1 = key.toList := by simpa using List.find?_some hfound
  have hmem : found ∈ members := List.mem_reverse.mp (List.mem_of_find?_eq_some hfound)
  have hsame : found = (key.toList, value) := List.inj_on_of_nodup_map hnodup hmem h hkey
  rw [getKey, hfound, hsame, Option.map_some]

theorem toJson_keys (entry : OfflineOutboxEntry) :
    entry.toJson.map Prod.fst = persistedFields.map String.toList := rfl

theorem toJson_nodup (entry : OfflineOutboxEntry) : (entry.toJson.map Prod.fst).Nodup := by
  rw [toJson_keys]
  exact List.Nodup.map (fun _ _ => String.toList_inj.mp) (by decide)

/-- The member at an index of the written object. -/
theorem getKey_toJson (entry : OfflineOutboxEntry) (i : Nat) {value : JsonElement}
    (h : entry.toJson[i]? = some (key.toList, value)) : getKey entry.toJson key = some value :=
  getKey_of_mem (toJson_nodup entry) (List.mem_of_getElem? h)

/-- An entry survives its JSON form. -/
theorem fromJson_toJson (entry : OfflineOutboxEntry) (hentry : LongRange entry.deviceSequence) :
    OfflineOutboxEntry.fromJson entry.toJson = .ok entry := by
  have hstring : ∀ (i : Nat) (key text : String),
      entry.toJson[i]? = some (key.toList, jsonString text) →
      requiredString entry.toJson key = .ok text :=
    fun i _ _ h => requiredString_of_get (getKey_toJson entry i h)
  have hlong : ∀ (i : Nat) (key : String) (n : Int),
      entry.toJson[i]? = some (key.toList, jsonLong n) → LongRange n →
      requiredLong entry.toJson key = .ok n :=
    fun i _ _ h hn => requiredLong_of_get (getKey_toJson entry i h) hn
  have hoptional : ∀ (i : Nat) (key : String) (text : Option String),
      entry.toJson[i]? = some (key.toList, jsonOptional text) →
      optionalString entry.toJson key = text :=
    fun i _ _ h => optionalString_of_get (getKey_toJson entry i h)
  unfold OfflineOutboxEntry.fromJson
  rw [hstring 0 "offline_operation_id" _ rfl, hstring 1 "organisation_id" _ rfl,
    hstring 2 "site_id" _ rfl, hstring 3 "actor_user_id" _ rfl, hstring 4 "device_id" _ rfl,
    hstring 5 "key_id" _ rfl, hlong 6 "key_version" _ rfl (longRange_int32 _),
    hstring 7 "operation_kind" _ rfl, hlong 8 "device_sequence" _ rfl hentry,
    hstring 9 "idempotency_key" _ rfl, hstring 10 "payload_digest" _ rfl,
    hstring 11 "policy_lease_id" _ rfl, hstring 12 "nonce" _ rfl, hstring 13 "created_at" _ rfl,
    hstring 14 "claimed_signature_profile" _ rfl, hstring 15 "signature" _ rfl,
    hstring 16 "local_payload_json" _ rfl,
    hlong 17 "local_attempt_count" _ rfl (longRange_int32 _),
    hoptional 18 "local_last_attempt_at" _ rfl, hstring 19 "local_state" _ rfl,
    hoptional 20 "local_edge_receipt_json" _ rfl]
  simp only [bind, Except.bind, parse_name, Int32.ofInt_toInt, pure, Except.pure]

/-! ## A whole snapshot -/

/-- What every stored queue satisfies: the counter is in range, the entries sit below
    it, and no operation is queued twice. -/
structure Snapshot.WellFormed (snapshot : Snapshot) : Prop where
  next_nonneg : firstDeviceSequence ≤ snapshot.nextDeviceSequence
  next_le : snapshot.nextDeviceSequence ≤ maxDeviceSequence
  sequence_nonneg : ∀ entry ∈ snapshot.entries, firstDeviceSequence ≤ entry.deviceSequence
  sequence_lt : ∀ entry ∈ snapshot.entries, entry.deviceSequence < snapshot.nextDeviceSequence
  nodup_ids : (snapshot.entries.map OfflineOutboxEntry.offlineOperationId).Nodup

theorem Snapshot.list_perm (snapshot : Snapshot) : snapshot.list.Perm snapshot.entries :=
  List.perm_insertionSort _ _

@[simp] theorem Snapshot.mem_list : entry ∈ snapshot.list ↔ entry ∈ snapshot.entries :=
  snapshot.list_perm.mem_iff

/-- Well-formedness does not depend on the order of the entries. -/
theorem Snapshot.WellFormed.sorted (h : snapshot.WellFormed) :
    (Snapshot.mk snapshot.nextDeviceSequence snapshot.list).WellFormed where
  next_nonneg := h.next_nonneg
  next_le := h.next_le
  sequence_nonneg entry hentry := h.sequence_nonneg entry (Snapshot.mem_list.mp hentry)
  sequence_lt entry hentry := h.sequence_lt entry (Snapshot.mem_list.mp hentry)
  nodup_ids := (snapshot.list_perm.map _).nodup_iff.mpr h.nodup_ids

/-- What `load` checks, and so what a written queue must satisfy to be read back. -/
structure Snapshot.Loadable (snapshot : Snapshot) : Prop where
  next_nonneg : firstDeviceSequence ≤ snapshot.nextDeviceSequence
  next_le : snapshot.nextDeviceSequence ≤ maxDeviceSequence
  sequence_long : ∀ entry ∈ snapshot.entries, LongRange entry.deviceSequence
  sequence_lt : ∀ entry ∈ snapshot.entries, entry.deviceSequence < snapshot.nextDeviceSequence
  nodup_ids : (snapshot.entries.map OfflineOutboxEntry.offlineOperationId).Nodup

theorem Snapshot.WellFormed.loadable (h : snapshot.WellFormed) : snapshot.Loadable where
  next_nonneg := h.next_nonneg
  next_le := h.next_le
  sequence_long entry hentry := by
    have hlower := h.sequence_nonneg entry hentry
    have hupper := h.sequence_lt entry hentry
    have hnext := h.next_le
    simp only [firstDeviceSequence, maxDeviceSequence] at hlower hnext
    constructor <;> omega
  sequence_lt := h.sequence_lt
  nodup_ids := h.nodup_ids

theorem valid_jsonLong (n : Int) : (jsonLong n).Valid :=
  ⟨Decimal.digits_ne_nil n, fun _ hc => Decimal.isLexeme_of_mem_digits hc⟩

theorem valid_jsonOptional (text : Option String) : (jsonOptional text).Valid := by
  cases text with
  | none =>
    refine ⟨List.cons_ne_nil _ _, ?_⟩
    show ∀ c ∈ ['n', 'u', 'l', 'l'], JsonText.isLexeme c.toNat = true
    simp [JsonText.isLexeme]
  | some text => exact trivial

theorem valid_toJson (entry : OfflineOutboxEntry) :
    (Json.object entry.toJson : JsonElement).Valid := by
  refine ⟨trivial, trivial, trivial, trivial, trivial, trivial, ?_, trivial, ?_, trivial, trivial,
    trivial, trivial, trivial, trivial, trivial, trivial, ?_, ?_, trivial, ?_, trivial⟩
  · exact valid_jsonLong _
  · exact valid_jsonLong _
  · exact valid_jsonLong _
  · exact valid_jsonOptional _
  · exact valid_jsonOptional _

theorem valid_entries (entries : List OfflineOutboxEntry) :
    JsonText.ValidElements (entries.map fun entry => (Json.object entry.toJson : JsonElement)) := by
  induction entries with
  | nil => exact trivial
  | cons entry entries ih => exact ⟨valid_toJson entry, ih⟩

theorem valid_document (snapshot : Snapshot) :
    (Json.object snapshot.document : JsonElement).Valid :=
  ⟨valid_jsonLong _, valid_jsonLong _, valid_entries _, trivial⟩

/-- Written entries are read back in the order they were written. -/
theorem entriesOfElements_map {entries : List OfflineOutboxEntry}
    (hentries : ∀ entry ∈ entries, LongRange entry.deviceSequence) :
    entriesOfElements (entries.map fun entry => (Json.object entry.toJson : JsonElement)) =
      .ok entries := by
  induction entries with
  | nil => rfl
  | cons entry entries ih =>
    have hhead := fromJson_toJson entry (hentries entry List.mem_cons_self)
    have htail := ih fun later hlater => hentries later (List.mem_cons_of_mem _ hlater)
    simp only [List.map_cons, entriesOfElements, entryOfElement, hhead, htail, bind, Except.bind,
      pure, Except.pure]

/-- The integrity rules `load` checks, as one statement. -/
theorem checkEntries_ok {next : Int} {seen : List String} {entries : List OfflineOutboxEntry}
    (hnodup : (entries.map OfflineOutboxEntry.offlineOperationId).Nodup)
    (hseen : ∀ entry ∈ entries, entry.offlineOperationId ∉ seen)
    (hlt : ∀ entry ∈ entries, entry.deviceSequence < next) :
    checkEntries next seen entries = .ok () := by
  induction entries generalizing seen with
  | nil => rfl
  | cons entry entries ih =>
    rw [List.map_cons, List.nodup_cons] at hnodup
    have hhead : ¬ next ≤ entry.deviceSequence := by
      have := hlt entry List.mem_cons_self
      omega
    rw [checkEntries, if_neg (hseen entry List.mem_cons_self), if_neg hhead]
    refine ih hnodup.2 (fun later hlater hmem => ?_)
      fun later hlater => hlt later (List.mem_cons_of_mem _ hlater)
    rcases List.mem_cons.mp hmem with heq | hmem
    · exact hnodup.1 (heq ▸ List.mem_map_of_mem hlater)
    · exact hseen later (List.mem_cons_of_mem _ hlater) hmem

theorem snapshotOfDocument_document (h : snapshot.Loadable) :
    snapshotOfDocument snapshot.document = .ok ⟨snapshot.nextDeviceSequence, snapshot.list⟩ := by
  have hversion : requiredLong snapshot.document "schema_version" = .ok schemaVersion :=
    requiredLong_of_get rfl ⟨by decide, by decide⟩
  have hnext : requiredLong snapshot.document "next_device_sequence" =
      .ok snapshot.nextDeviceSequence := by
    refine requiredLong_of_get rfl ?_
    have hlower := h.next_nonneg
    have hupper := h.next_le
    simp only [firstDeviceSequence, maxDeviceSequence] at hlower hupper
    constructor <;> omega
  have hrange : ¬ (snapshot.nextDeviceSequence < firstDeviceSequence ∨
      maxDeviceSequence < snapshot.nextDeviceSequence) := by
    have hlower := h.next_nonneg
    have hupper := h.next_le
    omega
  have hentries : getKey snapshot.document "entries" =
      some (.array (snapshot.list.map fun entry => .object entry.toJson)) := rfl
  have hread := entriesOfElements_map fun entry hentry =>
    h.sequence_long entry (Snapshot.mem_list.mp hentry)
  have hnodup := (snapshot.list_perm.map OfflineOutboxEntry.offlineOperationId).nodup_iff.mpr
    h.nodup_ids
  have hcheck := checkEntries_ok hnodup (fun _ _ => List.not_mem_nil)
    fun entry hentry => h.sequence_lt entry (Snapshot.mem_list.mp hentry)
  simp only [snapshotOfDocument, hversion, hnext, hrange, hentries, hread, hcheck, bind,
    Except.bind, pure, Except.pure, ne_eq, not_true_eq_false, if_false]

variable (codec : JsonCodec)

/-- A written snapshot is loaded, its entries in sequence order. -/
theorem load_persisted (h : snapshot.Loadable) :
    load codec (some (codec.print (.object snapshot.document))) =
      .ok ⟨snapshot.nextDeviceSequence, snapshot.list⟩ := by
  simp only [load, codec.print_not_blank, codec.parse_print _ (valid_document snapshot),
    Bool.false_eq_true, if_false]
  exact snapshotOfDocument_document h

/-- `persist` of a loadable snapshot finds nothing to refuse. -/
theorem persist_eq (writable : Bool) (stored : Stored) (h : snapshot.Loadable) :
    persist codec writable stored snapshot =
      if writable then (.ok (), some (codec.print (.object snapshot.document)))
      else (.error .writeFailed, stored) := by
  have hnone : (snapshot.entries.find? fun entry =>
      decide (snapshot.nextDeviceSequence ≤ entry.deviceSequence)) = none := by
    rw [List.find?_eq_none]
    intro entry hentry
    have := h.sequence_lt entry hentry
    simp only [decide_eq_true_eq]
    omega
  unfold persist
  rw [hnone]

/-- So it writes the new document, or throws and leaves the old text. -/
theorem persist_cases (writable : Bool) (stored : Stored) (h : snapshot.WellFormed) :
    (∃ stored', persist codec writable stored snapshot = (.ok (), stored') ∧
      load codec stored' = .ok ⟨snapshot.nextDeviceSequence, snapshot.list⟩) ∨
    persist codec writable stored snapshot = (.error .writeFailed, stored) := by
  rw [persist_eq codec writable stored h.loadable]
  cases writable with
  | false => exact Or.inr rfl
  | true => exact Or.inl ⟨_, rfl, load_persisted codec h.loadable⟩

/-! ## The operations -/

theorem Snapshot.WellFormed.enqueue (h : snapshot.WellFormed)
    (hsequence : entry.deviceSequence = snapshot.nextDeviceSequence)
    (hmax : snapshot.nextDeviceSequence < maxDeviceSequence)
    (hfresh : ∀ queued ∈ snapshot.entries, queued.offlineOperationId ≠ entry.offlineOperationId) :
    (Snapshot.mk (snapshot.nextDeviceSequence + 1) (snapshot.entries ++ [entry])).WellFormed where
  next_nonneg := by
    have := h.next_nonneg
    show firstDeviceSequence ≤ snapshot.nextDeviceSequence + 1
    omega
  next_le := by
    show snapshot.nextDeviceSequence + 1 ≤ maxDeviceSequence
    omega
  sequence_nonneg queued hqueued := by
    rcases List.of_mem_concat hqueued with hqueued | rfl
    · exact h.sequence_nonneg queued hqueued
    · rw [hsequence]
      exact h.next_nonneg
  sequence_lt queued hqueued := by
    show queued.deviceSequence < snapshot.nextDeviceSequence + 1
    rcases List.of_mem_concat hqueued with hqueued | rfl
    · have := h.sequence_lt queued hqueued
      omega
    · rw [hsequence]
      omega
  nodup_ids := by
    rw [List.map_append, List.nodup_append]
    refine ⟨h.nodup_ids, List.nodup_singleton _, ?_⟩
    intro id hid id' hid'
    obtain ⟨queued, hqueued, rfl⟩ := List.mem_map.mp hid
    obtain ⟨_, hentry, rfl⟩ := List.mem_map.mp hid'
    rw [List.mem_singleton.mp hentry]
    exact hfresh queued hqueued

/-- `enqueue` either changes nothing and hands nothing out, or appends one entry at the
    counter and moves the counter by one. -/
theorem enqueue_cases (maxDepth : Nat) (writable : Bool)
    (hload : load codec stored = .ok snapshot) (h : snapshot.WellFormed)
    (offlineOperationId : String) (build : Int → Option OfflineOutboxEntry) :
    ((enqueue codec maxDepth writable stored offlineOperationId build).2 = stored ∧
      handedSequence (enqueue codec maxDepth writable stored offlineOperationId build).1 = []) ∨
    ∃ entry,
      (enqueue codec maxDepth writable stored offlineOperationId build).1 =
        .ok ⟨.queued, some entry⟩ ∧
      build snapshot.nextDeviceSequence = some entry ∧
      entry.deviceSequence = snapshot.nextDeviceSequence ∧
      snapshot.nextDeviceSequence < maxDeviceSequence ∧
      snapshot.entries.length < maxDepth ∧
      (∀ queued ∈ snapshot.entries, queued.offlineOperationId ≠ entry.offlineOperationId) ∧
      load codec (enqueue codec maxDepth writable stored offlineOperationId build).2 =
        .ok ⟨snapshot.nextDeviceSequence + 1,
          (Snapshot.mk (snapshot.nextDeviceSequence + 1) (snapshot.entries ++ [entry])).list⟩ := by
  unfold enqueue
  rw [hload]
  simp only
  split
  · exact Or.inl ⟨rfl, rfl⟩
  next hduplicate =>
    split
    · exact Or.inl ⟨rfl, rfl⟩
    next hfull =>
      split
      · exact Or.inl ⟨rfl, rfl⟩
      next hexhausted =>
        split
        · exact Or.inl ⟨rfl, rfl⟩
        next entry hbuild =>
          split
          · exact Or.inl ⟨rfl, rfl⟩
          next hid =>
            split
            · exact Or.inl ⟨rfl, rfl⟩
            next hsequence =>
              have hid := Decidable.not_not.mp hid
              have hsequence := Decidable.not_not.mp hsequence
              have hmax := Int.not_le.mp hexhausted
              have hfresh : ∀ queued ∈ snapshot.entries,
                  queued.offlineOperationId ≠ entry.offlineOperationId := by
                intro queued hqueued heq
                exact hduplicate (List.any_eq_true.mpr
                  ⟨queued, hqueued, decide_eq_true (heq.trans hid)⟩)
              have hwf := h.enqueue hsequence hmax hfresh
              rcases persist_cases codec writable stored hwf with ⟨stored', hpersist, hread⟩ | hpersist
              · rw [hpersist]
                exact Or.inr ⟨entry, rfl, hbuild, hsequence, hmax, Nat.not_le.mp hfull, hfresh, hread⟩
              · rw [hpersist]
                exact Or.inl ⟨rfl, rfl⟩

/-- An entry without the four fields the device changes while it is queued. -/
def OfflineOutboxEntry.signedPart (entry : OfflineOutboxEntry) : OfflineOutboxEntry :=
  { entry with attemptCount := 0, lastAttemptAt := none, state := .queued, edgeReceiptJson := none }

def KeepsSigned (change : OfflineOutboxEntry → OfflineOutboxEntry) : Prop :=
  ∀ entry, (change entry).signedPart = entry.signedPart

theorem KeepsSigned.id {change : OfflineOutboxEntry → OfflineOutboxEntry} (h : KeepsSigned change)
    (entry : OfflineOutboxEntry) : (change entry).offlineOperationId = entry.offlineOperationId := by
  have hsigned := congrArg OfflineOutboxEntry.offlineOperationId (h entry)
  exact hsigned

theorem KeepsSigned.sequence {change : OfflineOutboxEntry → OfflineOutboxEntry}
    (h : KeepsSigned change) (entry : OfflineOutboxEntry) :
    (change entry).deviceSequence = entry.deviceSequence := by
  have hsigned := congrArg OfflineOutboxEntry.deviceSequence (h entry)
  exact hsigned

theorem Snapshot.WellFormed.map (h : snapshot.WellFormed)
    {change : OfflineOutboxEntry → OfflineOutboxEntry} (hchange : KeepsSigned change) :
    (Snapshot.mk snapshot.nextDeviceSequence (snapshot.entries.map change)).WellFormed where
  next_nonneg := h.next_nonneg
  next_le := h.next_le
  sequence_nonneg entry hentry := by
    obtain ⟨original, horiginal, rfl⟩ := List.mem_map.mp hentry
    rw [hchange.sequence original]
    exact h.sequence_nonneg original horiginal
  sequence_lt entry hentry := by
    obtain ⟨original, horiginal, rfl⟩ := List.mem_map.mp hentry
    rw [hchange.sequence original]
    exact h.sequence_lt original horiginal
  nodup_ids := by
    have hids : (snapshot.entries.map change).map OfflineOutboxEntry.offlineOperationId =
        snapshot.entries.map OfflineOutboxEntry.offlineOperationId := by
      rw [List.map_map]
      exact List.map_congr_left fun entry _ => hchange.id entry
    rw [hids]
    exact h.nodup_ids

/-- `mutate` either changes nothing or rewrites entries in place. -/
theorem mutate_cases (writable : Bool)
    (hload : load codec stored = .ok snapshot) (h : snapshot.WellFormed)
    (offlineOperationId : String) {change : OfflineOutboxEntry → OfflineOutboxEntry}
    (hchange : KeepsSigned change) :
    (mutate codec writable stored offlineOperationId change).2 = stored ∨
    ∃ rewrite, KeepsSigned rewrite ∧
      load codec (mutate codec writable stored offlineOperationId change).2 =
        .ok ⟨snapshot.nextDeviceSequence,
          (Snapshot.mk snapshot.nextDeviceSequence (snapshot.entries.map rewrite)).list⟩ := by
  have hrewrite : KeepsSigned fun entry =>
      if entry.offlineOperationId = offlineOperationId then change entry else entry := by
    intro entry
    by_cases hid : entry.offlineOperationId = offlineOperationId
    · simp only [hid, if_true]
      exact hchange entry
    · simp only [hid, if_false]
  unfold mutate
  rw [hload]
  simp only
  split
  · rcases persist_cases codec writable stored (h.map hrewrite) with ⟨stored', hpersist, hread⟩ | hpersist
    · rw [hpersist]
      exact Or.inr ⟨_, hrewrite, hread⟩
    · rw [hpersist]
      exact Or.inl rfl
  · exact Or.inl rfl

theorem Snapshot.WellFormed.filter (h : snapshot.WellFormed) (keep : OfflineOutboxEntry → Bool) :
    (Snapshot.mk snapshot.nextDeviceSequence (snapshot.entries.filter keep)).WellFormed where
  next_nonneg := h.next_nonneg
  next_le := h.next_le
  sequence_nonneg entry hentry := h.sequence_nonneg entry (List.mem_of_mem_filter hentry)
  sequence_lt entry hentry := h.sequence_lt entry (List.mem_of_mem_filter hentry)
  nodup_ids := h.nodup_ids.sublist (List.filter_sublist.map _)

/-- `remove` either changes nothing or drops the entries under the one id. -/
theorem remove_cases (writable : Bool)
    (hload : load codec stored = .ok snapshot) (h : snapshot.WellFormed)
    (offlineOperationId : String) :
    (remove codec writable stored offlineOperationId).2 = stored ∨
    load codec (remove codec writable stored offlineOperationId).2 =
      .ok ⟨snapshot.nextDeviceSequence, (Snapshot.mk snapshot.nextDeviceSequence
        (snapshot.entries.filter fun entry =>
          entry.offlineOperationId ≠ offlineOperationId)).list⟩ := by
  unfold remove
  rw [hload]
  simp only
  split
  · exact Or.inl rfl
  · rcases persist_cases codec writable stored (h.filter fun entry =>
        entry.offlineOperationId ≠ offlineOperationId) with ⟨stored', hpersist, hread⟩ | hpersist
    · rw [hpersist]
      exact Or.inr hread
    · rw [hpersist]
      exact Or.inl rfl

/-- `recordEdgeReceipt` changes nothing, or goes through `mutate`. -/
theorem recordEdgeReceipt_cases (writable : Bool) (stored : Stored)
    (offlineOperationId receipt : String) :
    (recordEdgeReceipt codec writable stored offlineOperationId receipt).2 = stored ∨
    (recordEdgeReceipt codec writable stored offlineOperationId receipt).2 =
      (mutate codec writable stored offlineOperationId fun entry =>
        { entry with edgeReceiptJson := some receipt }).2 := by
  unfold recordEdgeReceipt
  split
  · exact Or.inl rfl
  · split
    · exact Or.inl rfl
    · split
      · exact Or.inl rfl
      · split
        · exact Or.inl rfl
        · exact Or.inr rfl

/-! ## Runs -/

/-- What one call does to the queue when it writes, and the sequences it hands out. -/
inductive QueueChange (maxDepth : Nat) (snapshot : Snapshot) (call : OutboxCall) :
    List Int → Snapshot → Prop
  /-- One more entry, at the counter. -/
  | enqueued (entry : OfflineOutboxEntry)
      (hsequence : entry.deviceSequence = snapshot.nextDeviceSequence)
      (hmax : snapshot.nextDeviceSequence < maxDeviceSequence)
      (hdepth : snapshot.entries.length < maxDepth)
      (hfresh : ∀ queued ∈ snapshot.entries,
        queued.offlineOperationId ≠ entry.offlineOperationId) :
      QueueChange maxDepth snapshot call [snapshot.nextDeviceSequence]
        ⟨snapshot.nextDeviceSequence + 1,
          (Snapshot.mk (snapshot.nextDeviceSequence + 1) (snapshot.entries ++ [entry])).list⟩
  /-- Entries rewritten where they stand. -/
  | rewritten (rewrite : OfflineOutboxEntry → OfflineOutboxEntry) (hkeeps : KeepsSigned rewrite) :
      QueueChange maxDepth snapshot call []
        ⟨snapshot.nextDeviceSequence,
          (Snapshot.mk snapshot.nextDeviceSequence (snapshot.entries.map rewrite)).list⟩
  /-- The entries under the id that `remove` was called with are gone. -/
  | removed (offlineOperationId : String) (hcall : call = .remove offlineOperationId) :
      QueueChange maxDepth snapshot call []
        ⟨snapshot.nextDeviceSequence,
          (Snapshot.mk snapshot.nextDeviceSequence (snapshot.entries.filter fun entry =>
            entry.offlineOperationId ≠ offlineOperationId)).list⟩

/-- One call changes nothing at all, or makes one of the changes above. -/
theorem outboxStep_cases {codec : JsonCodec} {s s' : OutboxState}
    {event : OutboxEvent} (hload : load codec s.stored = .ok snapshot)
    (h : snapshot.WellFormed) (hstep : outboxStep codec maxDepth s event = some s') :
    s' = s ∨ ∃ handed snapshot', QueueChange maxDepth snapshot event.call handed snapshot' ∧
      s'.handedOut = s.handedOut ++ handed ∧ load codec s'.stored = .ok snapshot' := by
  obtain ⟨call, writable⟩ := event
  -- the calls that go through `mutate` differ in the change alone
  have hmutate : ∀ id change, KeepsSigned change →
      s' = { s with stored := (mutate codec writable s.stored id change).2 } →
      s' = s ∨ ∃ handed snapshot', QueueChange maxDepth snapshot call handed snapshot' ∧
        s'.handedOut = s.handedOut ++ handed ∧ load codec s'.stored = .ok snapshot' := by
    rintro id change hchange rfl
    rcases mutate_cases codec writable hload h id hchange with hsame | ⟨rewrite, hrewrite, hread⟩
    · left
      rw [hsame]
    · exact Or.inr ⟨_, _, .rewritten rewrite hrewrite, (List.append_nil _).symm, hread⟩
  cases call with
  | enqueue id build =>
    have hs' : s' = ⟨(enqueue codec maxDepth writable s.stored id build).2,
        s.handedOut ++ handedSequence (enqueue codec maxDepth writable s.stored id build).1⟩ :=
      (Option.some.inj hstep).symm
    rcases enqueue_cases codec maxDepth writable hload h id build with
      ⟨hsame, hanswer⟩ | ⟨entry, hanswer, -, hsequence, hmax, hdepth, hfresh, hread⟩
    · left
      rw [hs', hsame, hanswer, List.append_nil]
    · subst hs'
      refine Or.inr ⟨_, _, .enqueued entry hsequence hmax hdepth hfresh, ?_, hread⟩
      rw [hanswer, handedSequence, hsequence]
  | markAttempt id attemptedAt =>
    refine hmutate id _ ?_ (Option.some.inj hstep).symm
    exact fun entry => rfl
  | recordEdgeReceipt id receipt =>
    have hs' := (Option.some.inj hstep).symm
    rcases recordEdgeReceipt_cases codec writable s.stored id receipt with hsame | hsame
    · left
      rw [hs', hsame]
    · rw [hsame] at hs'
      refine hmutate id _ ?_ hs'
      exact fun entry => rfl
  | markTerminal id =>
    refine hmutate id _ ?_ (Option.some.inj hstep).symm
    exact fun entry => rfl
  | remove id =>
    cases hstep
    rcases remove_cases codec writable hload h id with hsame | hread
    · left
      rw [hsame]
    · exact Or.inr ⟨_, _, .removed id rfl, (List.append_nil _).symm, hread⟩
  | reload => exact Or.inl (Option.some.inj hstep).symm

/-- The invariant of every run: a well-formed queue within its bound, whose counter is
    the number of sequences handed out, and these are `0, 1, 2, …` in order. -/
structure OutboxInvariant (maxDepth : Nat) (handedOut : List Int) (snapshot : Snapshot) : Prop where
  wellFormed : snapshot.WellFormed
  handed_eq : handedOut = (List.range handedOut.length).map Int.ofNat
  next_eq : snapshot.nextDeviceSequence = handedOut.length
  depth_le : snapshot.entries.length ≤ maxDepth

theorem outboxInvariant_initial (maxDepth : Nat) :
    OutboxInvariant maxDepth [] ⟨firstDeviceSequence, []⟩ where
  wellFormed :=
    { next_nonneg := Int.le_refl _
      next_le := by decide
      sequence_nonneg := fun _ hentry => nomatch hentry
      sequence_lt := fun _ hentry => nomatch hentry
      nodup_ids := List.nodup_nil }
  handed_eq := rfl
  next_eq := rfl
  depth_le := Nat.zero_le _

theorem OutboxInvariant.change {handedOut handed : List Int}
    {snapshot' : Snapshot} {call : OutboxCall}
    (h : OutboxInvariant maxDepth handedOut snapshot)
    (hchange : QueueChange maxDepth snapshot call handed snapshot') :
    OutboxInvariant maxDepth (handedOut ++ handed) snapshot' := by
  cases hchange with
  | enqueued entry hsequence hmax hdepth hfresh =>
    have hnext := h.next_eq
    refine ⟨(h.wellFormed.enqueue hsequence hmax hfresh).sorted, ?_, ?_, ?_⟩
    · rw [List.length_append, List.length_singleton, List.range_succ, List.map_append,
        ← h.handed_eq, hnext]
      rfl
    · rw [List.length_append, List.length_singleton]
      show snapshot.nextDeviceSequence + 1 = _
      omega
    · rw [(Snapshot.list_perm _).length_eq, List.length_append, List.length_singleton]
      omega
  | rewritten rewrite hkeeps =>
    rw [List.append_nil]
    refine ⟨(h.wellFormed.map hkeeps).sorted, h.handed_eq, h.next_eq, ?_⟩
    rw [(Snapshot.list_perm _).length_eq, List.length_map]
    exact h.depth_le
  | removed id hcall =>
    rw [List.append_nil]
    refine ⟨(h.wellFormed.filter _).sorted, h.handed_eq, h.next_eq, ?_⟩
    rw [(Snapshot.list_perm _).length_eq]
    exact Nat.le_trans (List.length_filter_le _ _) h.depth_le

/-- Only `remove` makes an entry disappear, and only the one it names. -/
theorem QueueChange.survives {snapshot' : Snapshot} {call : OutboxCall}
    {handed : List Int} (hchange : QueueChange maxDepth snapshot call handed snapshot')
    (hentry : entry ∈ snapshot.entries)
    (hcall : call ≠ .remove entry.offlineOperationId) :
    ∃ entry' ∈ snapshot'.entries, entry'.offlineOperationId = entry.offlineOperationId ∧
      entry'.deviceSequence = entry.deviceSequence := by
  cases hchange with
  | enqueued =>
    exact ⟨entry, Snapshot.mem_list.mpr (List.mem_append_left _ hentry), rfl, rfl⟩
  | rewritten rewrite hkeeps =>
    exact ⟨rewrite entry, Snapshot.mem_list.mpr (List.mem_map_of_mem hentry),
      hkeeps.id entry, hkeeps.sequence entry⟩
  | removed id hremove =>
    have hid : entry.offlineOperationId ≠ id := by
      rintro rfl
      exact hcall hremove
    have hkept : entry ∈ snapshot.entries.filter fun entry => entry.offlineOperationId ≠ id :=
      List.mem_filter.mpr ⟨hentry, decide_eq_true hid⟩
    exact ⟨entry, Snapshot.mem_list.mpr hkept, rfl, rfl⟩

def OutboxState.Holds (maxDepth : Nat) (s : OutboxState) : Prop :=
  ∃ snapshot, load codec s.stored = .ok snapshot ∧ OutboxInvariant maxDepth s.handedOut snapshot

theorem OutboxState.Holds.step {codec : JsonCodec} {s : OutboxState}
    {event : OutboxEvent} {s' : OutboxState} (h : s.Holds codec maxDepth)
    (hstep : outboxStep codec maxDepth s event = some s') : s'.Holds codec maxDepth := by
  obtain ⟨snapshot, hload, hinvariant⟩ := h
  rcases outboxStep_cases hload hinvariant.wellFormed hstep with
    rfl | ⟨handed, snapshot', hchange, hhanded, hread⟩
  · exact ⟨snapshot, hload, hinvariant⟩
  · exact ⟨snapshot', hread, hhanded ▸ hinvariant.change hchange⟩

/-- The sequences handed out are `0, 1, 2, …`, the stored entries sit below the stored counter under
different ids and within the bound, an `enqueue` that does not queue leaves the stored text as it
was, and only `remove` drops an entry. -/
theorem outbox_run (codec : JsonCodec) (maxDepth : Nat) {events : List OutboxEvent}
    {s : OutboxState} (hrun : run (outboxStep codec maxDepth) .initial events = some s) :
    ∃ snapshot, load codec s.stored = .ok snapshot ∧
      s.handedOut = (List.range s.handedOut.length).map Int.ofNat ∧
      s.handedOut.Nodup ∧
      snapshot.nextDeviceSequence = s.handedOut.length ∧
      (∀ entry ∈ snapshot.entries, entry.deviceSequence < snapshot.nextDeviceSequence) ∧
      (snapshot.entries.map OfflineOutboxEntry.offlineOperationId).Nodup ∧
      snapshot.entries.length ≤ maxDepth ∧
      (∀ writable offlineOperationId build,
        (∀ entry, (enqueue codec maxDepth writable s.stored offlineOperationId build).1 ≠
          .ok ⟨.queued, some entry⟩) →
        (enqueue codec maxDepth writable s.stored offlineOperationId build).2 = s.stored) ∧
      ∀ event s', outboxStep codec maxDepth s event = some s' →
        ∃ snapshot', load codec s'.stored = .ok snapshot' ∧
          ∀ entry ∈ snapshot.entries, event.call ≠ .remove entry.offlineOperationId →
            ∃ entry' ∈ snapshot'.entries,
              entry'.offlineOperationId = entry.offlineOperationId ∧
              entry'.deviceSequence = entry.deviceSequence := by
  have hinitial : OutboxState.initial.Holds codec maxDepth :=
    ⟨_, rfl, outboxInvariant_initial maxDepth⟩
  obtain ⟨snapshot, hload, hinvariant⟩ := run_invariant OutboxState.Holds.step hinitial hrun
  have hwf := hinvariant.wellFormed
  refine ⟨snapshot, hload, hinvariant.handed_eq, ?_, hinvariant.next_eq, hwf.sequence_lt,
    hwf.nodup_ids, hinvariant.depth_le, ?_, ?_⟩
  · rw [hinvariant.handed_eq]
    exact List.nodup_range.map fun _ _ => Int.ofNat.inj
  · intro writable id build hrefused
    rcases enqueue_cases codec maxDepth writable hload hwf id build with
      ⟨hsame, -⟩ | ⟨entry, hanswer, -⟩
    · exact hsame
    · exact absurd hanswer (hrefused entry)
  · intro event s' hstep
    rcases outboxStep_cases hload hwf hstep with rfl | ⟨handed, snapshot', hchange, -, hread⟩
    · exact ⟨snapshot, hload, fun entry hentry _ => ⟨entry, hentry, rfl, rfl⟩⟩
    · exact ⟨snapshot', hread, fun entry hentry hcall => hchange.survives hentry hcall⟩

namespace Sample

/-- An entry at a position, with placeholder values in the signed fields. -/
def entryAt (offlineOperationId : String) (deviceSequence : Int) : OfflineOutboxEntry where
  offlineOperationId := offlineOperationId
  organisationId := "org"
  siteId := "site"
  actorUserId := "actor"
  deviceId := "device"
  keyId := "key"
  keyVersion := 1
  operationKind := "FIELD_ASSIGNMENT_ACKNOWLEDGE"
  deviceSequence := deviceSequence
  idempotencyKey := "idempotency"
  payloadDigest := "digest"
  policyLeaseId := "lease"
  nonce := "nonce"
  createdAt := "2026-01-01T00:00:00.000Z"
  claimedSignatureProfile := "profile"
  signature := "signature"
  payloadJson := "payload"

/-- A queue that refuses, throws, fails to write and drains between two enqueues. -/
def drained : List OutboxEvent :=
  [⟨.enqueue "a" fun sequence => some (entryAt "a" sequence), true⟩,
    ⟨.enqueue "b" fun _ => none, true⟩,
    ⟨.enqueue "b" fun sequence => some (entryAt "b" sequence), false⟩,
    ⟨.remove "a", true⟩,
    ⟨.reload, true⟩,
    ⟨.enqueue "b" fun sequence => some (entryAt "b" sequence), true⟩]

end Sample

theorem outbox_run_drained :
    ∃ s snapshot, run (outboxStep compactCodec 2) .initial Sample.drained = some s ∧
      s.handedOut = [0, 1] ∧ load compactCodec s.stored = .ok snapshot ∧
      snapshot.nextDeviceSequence = 2 ∧
      (∀ entry ∈ snapshot.entries, entry.deviceSequence < snapshot.nextDeviceSequence) ∧
      snapshot.entries.length ≤ 2 := by
  have hhanded : (run (outboxStep compactCodec 2) .initial Sample.drained).map
      OutboxState.handedOut = some [0, 1] := by decide +kernel
  obtain ⟨s, hrun, hs⟩ := Option.map_eq_some_iff.mp hhanded
  obtain ⟨snapshot, hload, -, -, hnext, hlt, -, hdepth, -⟩ := outbox_run compactCodec 2 hrun
  rw [hs] at hnext
  exact ⟨s, snapshot, hrun, hs, hload, hnext, hlt, hdepth⟩

end Sentinel.OfflineOutbox
