import Sentinel.ForStd.Except
import Sentinel.ForStd.Table
import Sentinel.Spec.OfflineOutboxInvariant

/-! # What the outbox reads back

A blank text is a queue never written, by design, and a field may hold blank text.  Of the fields
narrowed to 32 bits and of the optional ones the statements say only what is stored as `persist`
stores it. -/

namespace Sentinel.OfflineOutbox

open JsonText (Json)

/-! ## One field -/

/-- The member under the key is a number with this value. -/
def HoldsInteger (members : JsonObject) (key : String) (n : Int) : Prop :=
  ∃ lexeme, getKey members key = some (.literal lexeme) ∧ toLongOrNull lexeme = some n

variable {members : JsonObject} {key : String} {n : Int} {entries : List OfflineOutboxEntry}
  {snapshot : Snapshot} {stored : Stored}

theorem requiredString_ok {text : String}
    (h : requiredString members key = .ok text) : getKey members key = some (jsonString text) := by
  unfold requiredString at h
  split at h
  next stored hstored =>
    cases h
    rw [hstored, jsonString, String.toList_ofList]
  next => cases h
  next => cases h

theorem requiredLong_ok (h : requiredLong members key = .ok n) : HoldsInteger members key n := by
  unfold requiredLong at h
  split at h
  next lexeme hstored =>
    split at h
    next value hvalue =>
      cases h
      exact ⟨lexeme, hstored, hvalue⟩
    next => cases h
  next => cases h
  next => cases h

theorem HoldsInteger.longRange (h : HoldsInteger members key n) : LongRange n := by
  obtain ⟨lexeme, -, hvalue⟩ := h
  obtain ⟨-, hrange⟩ := Option.filter_eq_some_iff.mp hvalue
  obtain ⟨hlower, hupper⟩ : -2 ^ 63 ≤ n ∧ n < 2 ^ 63 := by simpa using hrange
  exact ⟨hlower, hupper⟩

theorem parse_ok {name : String} {state : OfflineEntryState}
    (h : OfflineEntryState.parse name = .ok state) : name = state.name := by
  unfold OfflineEntryState.parse at h
  split at h
  next hname =>
    cases h
    exact hname
  next =>
    split at h
    next hname =>
      cases h
      exact hname
    next => cases h

/-- `Long.toInt()` keeps what 32 bits hold. -/
theorem toInt_ofInt (hlower : -2 ^ 31 ≤ n) (hupper : n < 2 ^ 31) : (Int32.ofInt n).toInt = n := by
  rw [Int32.toInt_ofInt, Int32.size]
  exact Int.bmod_eq_of_le (by omega) (by omega)

/-! ## One entry -/

def OfflineOutboxEntry.requiredStrings (entry : OfflineOutboxEntry) : List (String × String) :=
  [("offline_operation_id", entry.offlineOperationId), ("organisation_id", entry.organisationId),
   ("site_id", entry.siteId), ("actor_user_id", entry.actorUserId), ("device_id", entry.deviceId),
   ("key_id", entry.keyId), ("operation_kind", entry.operationKind),
   ("idempotency_key", entry.idempotencyKey), ("payload_digest", entry.payloadDigest),
   ("policy_lease_id", entry.policyLeaseId), ("nonce", entry.nonce),
   ("created_at", entry.createdAt), ("claimed_signature_profile", entry.claimedSignatureProfile),
   ("signature", entry.signature), ("local_payload_json", entry.payloadJson),
   ("local_state", entry.state.name)]

/-- A 32-bit field is a stored number, and the number itself where 32 bits hold it. -/
def HoldsInt32 (members : JsonObject) (key : String) (n : Int32) : Prop :=
  ∃ stored, HoldsInteger members key stored ∧ (-2 ^ 31 ≤ stored → stored < 2 ^ 31 → n.toInt = stored)

/-- An optional field is the stored string, and absent when there is none or a `null`. -/
def HoldsOptional (members : JsonObject) (key : String) (text : Option String) : Prop :=
  (∀ stored, getKey members key = some (jsonString stored) → text = some stored) ∧
    ((getKey members key = none ∨ getKey members key = some (.literal "null".toList)) → text = none)

structure OfflineOutboxEntry.StoredAs (entry : OfflineOutboxEntry) (members : JsonObject) : Prop where
  strings : ∀ field ∈ entry.requiredStrings, getKey members field.1 = some (jsonString field.2)
  deviceSequence : HoldsInteger members "device_sequence" entry.deviceSequence
  keyVersion : HoldsInt32 members "key_version" entry.keyVersion
  attemptCount : HoldsInt32 members "local_attempt_count" entry.attemptCount
  lastAttemptAt : HoldsOptional members "local_last_attempt_at" entry.lastAttemptAt
  edgeReceiptJson : HoldsOptional members "local_edge_receipt_json" entry.edgeReceiptJson

theorem holdsInt32_ofInt
    (h : requiredLong members key = .ok n) : HoldsInt32 members key (Int32.ofInt n) :=
  ⟨n, requiredLong_ok h, toInt_ofInt⟩

theorem holdsOptional_optionalString (members : JsonObject) (key : String) :
    HoldsOptional members key (optionalString members key) := by
  refine ⟨fun stored hstored => @optionalString_of_get members key (some stored) hstored, ?_⟩
  rintro (habsent | hnull)
  · simp only [optionalString, habsent]
  · simp only [optionalString, hnull]

/-- What `fromJson` accepts holds the entry it answers with. -/
theorem fromJson_ok {entry : OfflineOutboxEntry}
    (h : OfflineOutboxEntry.fromJson members = .ok entry) : entry.StoredAs members := by
  unfold OfflineOutboxEntry.fromJson at h
  obtain ⟨offlineOperationId, hoperation, h⟩ := Except.bind_eq_ok.mp h
  obtain ⟨organisationId, horganisation, h⟩ := Except.bind_eq_ok.mp h
  obtain ⟨siteId, hsite, h⟩ := Except.bind_eq_ok.mp h
  obtain ⟨actorUserId, hactor, h⟩ := Except.bind_eq_ok.mp h
  obtain ⟨deviceId, hdevice, h⟩ := Except.bind_eq_ok.mp h
  obtain ⟨keyId, hkey, h⟩ := Except.bind_eq_ok.mp h
  obtain ⟨keyVersion, hversion, h⟩ := Except.bind_eq_ok.mp h
  obtain ⟨operationKind, hkind, h⟩ := Except.bind_eq_ok.mp h
  obtain ⟨deviceSequence, hsequence, h⟩ := Except.bind_eq_ok.mp h
  obtain ⟨idempotencyKey, hidempotency, h⟩ := Except.bind_eq_ok.mp h
  obtain ⟨payloadDigest, hdigest, h⟩ := Except.bind_eq_ok.mp h
  obtain ⟨policyLeaseId, hlease, h⟩ := Except.bind_eq_ok.mp h
  obtain ⟨nonce, hnonce, h⟩ := Except.bind_eq_ok.mp h
  obtain ⟨createdAt, hcreated, h⟩ := Except.bind_eq_ok.mp h
  obtain ⟨claimedSignatureProfile, hprofile, h⟩ := Except.bind_eq_ok.mp h
  obtain ⟨signature, hsignature, h⟩ := Except.bind_eq_ok.mp h
  obtain ⟨payloadJson, hpayload, h⟩ := Except.bind_eq_ok.mp h
  obtain ⟨attemptCount, hattempts, h⟩ := Except.bind_eq_ok.mp h
  obtain ⟨stateName, hname, h⟩ := Except.bind_eq_ok.mp h
  obtain ⟨state, hstate, h⟩ := Except.bind_eq_ok.mp h
  cases h
  obtain rfl := parse_ok hstate
  refine ⟨?_, requiredLong_ok hsequence, holdsInt32_ofInt hversion, holdsInt32_ofInt hattempts,
    holdsOptional_optionalString _ _, holdsOptional_optionalString _ _⟩
  simp only [OfflineOutboxEntry.requiredStrings, List.forall_mem_cons, List.not_mem_nil,
    false_implies, implies_true, and_true]
  exact ⟨requiredString_ok hoperation, requiredString_ok horganisation, requiredString_ok hsite,
    requiredString_ok hactor, requiredString_ok hdevice, requiredString_ok hkey,
    requiredString_ok hkind, requiredString_ok hidempotency, requiredString_ok hdigest,
    requiredString_ok hlease, requiredString_ok hnonce, requiredString_ok hcreated,
    requiredString_ok hprofile, requiredString_ok hsignature, requiredString_ok hpayload,
    requiredString_ok hname⟩

/-! ## A whole document -/

def ElementHolds (element : JsonElement) (entry : OfflineOutboxEntry) : Prop :=
  ∃ members, element = .object members ∧ entry.StoredAs members

/-- The document holds the queue: its version, its counter, and its entries in order. -/
structure Snapshot.StoredAs (snapshot : Snapshot) (document : JsonObject) : Prop where
  version : HoldsInteger document "schema_version" schemaVersion
  next : HoldsInteger document "next_device_sequence" snapshot.nextDeviceSequence
  entries : ∃ elements, getKey document "entries" = some (.array elements) ∧
    List.Forall₂ ElementHolds elements snapshot.entries

theorem entryOfElement_ok {element : JsonElement} {entry : OfflineOutboxEntry}
    (h : entryOfElement element = .ok entry) : ElementHolds element entry := by
  cases element with
  | object members => exact ⟨members, rfl, fromJson_ok h⟩
  | literal lexeme => cases h
  | string text => cases h
  | array elements => cases h

theorem entriesOfElements_ok {elements : List JsonElement}
    (h : entriesOfElements elements = .ok entries) : List.Forall₂ ElementHolds elements entries := by
  induction elements generalizing entries with
  | nil =>
    cases h
    exact .nil
  | cons element elements ih =>
    obtain ⟨entry, hentry, h⟩ := Except.bind_eq_ok.mp h
    obtain ⟨rest, hrest, h⟩ := Except.bind_eq_ok.mp h
    cases h
    exact .cons (entryOfElement_ok hentry) (ih hrest)

/-- A stored position is a `Long`. -/
theorem longRange_of_holds {elements : List JsonElement}
    (h : List.Forall₂ ElementHolds elements entries) :
    ∀ entry ∈ entries, LongRange entry.deviceSequence := by
  induction h with
  | nil => exact fun _ h => nomatch h
  | cons hhead _ ih =>
    obtain ⟨members, -, hstored⟩ := hhead
    exact List.forall_mem_cons.mpr ⟨hstored.deviceSequence.longRange, ih⟩

theorem ids_of_checkEntries {next : Int} {seen : List String}
    (h : checkEntries next seen entries = .ok ()) :
    (entries.map OfflineOutboxEntry.offlineOperationId).Nodup ∧
      (∀ entry ∈ entries, entry.offlineOperationId ∉ seen) ∧
        ∀ entry ∈ entries, entry.deviceSequence < next := by
  induction entries generalizing seen with
  | nil => exact ⟨List.nodup_nil, fun _ h => (nomatch h), fun _ h => nomatch h⟩
  | cons entry entries ih =>
    rw [checkEntries, Except.ite_error_eq_ok, Except.ite_error_eq_ok] at h
    obtain ⟨hseen, hbelow, h⟩ := h
    obtain ⟨hnodup, hfresh, hlt⟩ := ih h
    refine ⟨List.nodup_cons.mpr ⟨?_, hnodup⟩, ?_, ?_⟩
    · intro hmem
      obtain ⟨later, hlater, hid⟩ := List.mem_map.mp hmem
      exact hfresh later hlater (hid ▸ List.mem_cons_self ..)
    · intro held hheld
      cases List.mem_cons.mp hheld with
      | inl heq => exact heq ▸ hseen
      | inr hlater => exact fun hmem => hfresh held hlater (List.mem_cons_of_mem _ hmem)
    · intro held hheld
      cases List.mem_cons.mp hheld with
      | inl heq =>
        rw [heq]
        omega
      | inr hlater => exact hlt held hlater

theorem snapshotOfDocument_ok {document : JsonObject}
    (h : snapshotOfDocument document = .ok snapshot) :
    snapshot.StoredAs document ∧ snapshot.Loadable := by
  unfold snapshotOfDocument at h
  obtain ⟨version, hversion, h⟩ := Except.bind_eq_ok.mp h
  simp only at h
  split at h
  next => cases h
  next hsame =>
    obtain ⟨next, hnext, h⟩ := Except.bind_eq_ok.mp h
    split at h
    next => cases h
    next hrange =>
      split at h
      next elements helements =>
        obtain ⟨entries, hentries, h⟩ := Except.bind_eq_ok.mp h
        obtain ⟨⟨⟩, hcheck, h⟩ := Except.bind_eq_ok.mp h
        cases h
        obtain rfl : version = schemaVersion := not_not.mp hsame
        have hholds := entriesOfElements_ok hentries
        obtain ⟨hnodup, -, hlt⟩ := ids_of_checkEntries hcheck
        refine ⟨⟨requiredLong_ok hversion, requiredLong_ok hnext, elements, helements, hholds⟩, ?_⟩
        have hlower : firstDeviceSequence ≤ next := by omega
        have hupper : next ≤ maxDeviceSequence := by omega
        exact ⟨hlower, hupper, longRange_of_holds hholds, hlt, hnodup⟩
      next => cases h

/-! ## The store -/

/-- With the entries in position order already, `persist` does not move them. -/
theorem Snapshot.list_of_sorted
    (h : snapshot.entries.Pairwise fun a b => a.deviceSequence ≤ b.deviceSequence) :
    snapshot.list = snapshot.entries :=
  h.insertionSort_eq

theorem load_ok {codec : JsonCodec} {text : List Char}
    (h : load codec (some text) = .ok snapshot) (hblank : isBlank text = false) :
    ∃ document, codec.parseToJsonElement text = .ok (.object document) ∧
      snapshot.StoredAs document ∧ snapshot.Loadable := by
  simp only [load, hblank, Bool.false_eq_true, if_false] at h
  split at h
  next => cases h
  next document hparse => exact ⟨document, hparse, snapshotOfDocument_ok h⟩
  next => cases h

/-- **What the outbox reads back.**  A queue that can be stored is read back, its entries in
position order; and a text that is not blank is read only from a document that holds the queue field
by field. -/
theorem outbox_store (codec : JsonCodec) :
    (∀ snapshot : Snapshot, snapshot.Loadable → ∀ stored, ∃ text,
      persist codec true stored snapshot = (.ok (), some text) ∧
      load codec (some text) = .ok ⟨snapshot.nextDeviceSequence, snapshot.list⟩ ∧
      (snapshot.entries.Pairwise (fun a b => a.deviceSequence ≤ b.deviceSequence) →
        load codec (some text) = .ok snapshot)) ∧
    ∀ text snapshot, load codec (some text) = .ok snapshot →
      (isBlank text = true ∧ snapshot = ⟨firstDeviceSequence, []⟩) ∨
      (isBlank text = false ∧ snapshot.Loadable ∧ ∃ document,
        codec.parseToJsonElement text = .ok (.object document) ∧ snapshot.StoredAs document) := by
  constructor
  · intro snapshot hloadable stored
    refine ⟨_, persist_eq codec true stored hloadable, load_persisted codec hloadable, fun hsorted => ?_⟩
    rw [load_persisted codec hloadable, Snapshot.list_of_sorted hsorted]
  · intro text snapshot hload
    cases hblank : isBlank text with
    | true =>
      simp only [load, hblank, if_true] at hload
      exact .inl ⟨rfl, (Except.ok.inj hload).symm⟩
    | false =>
      obtain ⟨document, hparse, hstored, hloadable⟩ := load_ok hload hblank
      exact .inr ⟨rfl, hloadable, document, hparse, hstored⟩

/-! ## Changes of any stored queue -/

/-- Whatever is read can be stored again. -/
theorem load_loadable {codec : JsonCodec}
    (h : load codec stored = .ok snapshot) : snapshot.Loadable := by
  have hempty : (Snapshot.mk firstDeviceSequence []).Loadable :=
    ⟨by decide, by decide, fun _ hentry => (nomatch hentry), fun _ hentry => (nomatch hentry),
      List.nodup_nil⟩
  cases stored with
  | none => exact Except.ok.inj h ▸ hempty
  | some text =>
    rcases (outbox_store codec).2 text snapshot h with ⟨-, rfl⟩ | ⟨-, hloadable, -⟩
    · exact hempty
    · exact hloadable

theorem Snapshot.Loadable.map (h : snapshot.Loadable)
    {change : OfflineOutboxEntry → OfflineOutboxEntry} (hchange : KeepsSigned change) :
    (Snapshot.mk snapshot.nextDeviceSequence (snapshot.entries.map change)).Loadable where
  next_nonneg := h.next_nonneg
  next_le := h.next_le
  sequence_long entry hentry := by
    obtain ⟨original, horiginal, rfl⟩ := List.mem_map.mp hentry
    rw [hchange.sequence original]
    exact h.sequence_long original horiginal
  sequence_lt entry hentry := by
    obtain ⟨original, horiginal, rfl⟩ := List.mem_map.mp hentry
    rw [hchange.sequence original]
    exact h.sequence_lt original horiginal
  nodup_ids := by
    rw [List.map_map]
    have hids : OfflineOutboxEntry.offlineOperationId ∘ change =
        OfflineOutboxEntry.offlineOperationId := funext hchange.id
    rw [hids]
    exact h.nodup_ids

def Snapshot.witnessed (snapshot : Snapshot) (held : OfflineOutboxEntry) (receipt : String) : Snapshot :=
  ⟨snapshot.nextDeviceSequence, snapshot.entries.map fun entry =>
    if entry = held then { held with edgeReceiptJson := some receipt } else entry⟩

theorem Snapshot.Loadable.witnessed (h : snapshot.Loadable)
    (held : OfflineOutboxEntry) (receipt : String) : (snapshot.witnessed held receipt).Loadable := by
  apply h.map
  intro entry
  by_cases hsame : entry = held
  · simp only [hsame, if_true]
    rfl
  · simp only [hsame, if_false]

/-- A receipt for an entry that has none is written, and the entry found under the id is the only one
    it is written to. -/
theorem recordEdgeReceipt_unwitnessed (codec : JsonCodec) (writable : Bool)
    (hload : load codec stored = .ok snapshot) {held : OfflineOutboxEntry}
    (hheld : held ∈ snapshot.entries) (hnone : held.edgeReceiptJson = none) {receipt : String}
    (hblank : isBlank receipt.toList = false) :
    (recordEdgeReceipt codec writable stored held.offlineOperationId receipt).2 =
      (persist codec writable stored (snapshot.witnessed held receipt)).2 := by
  have hloadable := load_loadable hload
  have hunique : ∀ entry ∈ snapshot.entries,
      entry.offlineOperationId = held.offlineOperationId ↔ entry = held := fun entry hentry =>
    ⟨List.inj_on_of_nodup_map hloadable.nodup_ids hentry hheld, fun hsame => hsame ▸ rfl⟩
  have hfind : snapshot.find held.offlineOperationId = some held :=
    Table.find?_eq_some hloadable.nodup_ids hheld rfl fun _ => id
  have hany : (snapshot.entries.any fun entry =>
      decide (entry.offlineOperationId = held.offlineOperationId)) = true :=
    List.any_eq_true.mpr ⟨held, hheld, decide_eq_true rfl⟩
  have hupdated : (snapshot.entries.map fun entry =>
      if entry.offlineOperationId = held.offlineOperationId then
        { entry with edgeReceiptJson := some receipt } else entry) =
      (snapshot.witnessed held receipt).entries := by
    apply List.map_congr_left
    intro entry hentry
    by_cases hsame : entry = held
    · rw [if_pos hsame, hsame, if_pos rfl]
    · rw [if_neg hsame, if_neg fun hid => hsame ((hunique entry hentry).mp hid)]
  simp only [recordEdgeReceipt, hblank, hload, hfind, hnone, mutate, hany, hupdated, if_true,
    Option.isSome_none, Bool.false_eq_true, if_false]
  split
  next hpersist => exact (congrArg Prod.snd hpersist).symm
  next hpersist => exact (congrArg Prod.snd hpersist).symm

/-- What is written then is not what was stored. -/
theorem print_witnessed_ne (codec : JsonCodec)
    (hload : load codec stored = .ok snapshot) {held : OfflineOutboxEntry}
    (hheld : held ∈ snapshot.entries) (hnone : held.edgeReceiptJson = none) (receipt : String) :
    some (codec.print (.object (snapshot.witnessed held receipt).document)) ≠ stored := by
  intro hsame
  have hloadable := load_loadable hload
  have hread := load_persisted codec (hloadable.witnessed held receipt)
  rw [hsame, hload] at hread
  have hentries : snapshot.entries = (snapshot.witnessed held receipt).list :=
    congrArg Snapshot.entries (Except.ok.inj hread)
  have hmem : { held with edgeReceiptJson := some receipt } ∈ snapshot.entries := by
    rw [hentries, Snapshot.mem_list]
    exact List.mem_map.mpr ⟨held, hheld, if_pos rfl⟩
  have heq : { held with edgeReceiptJson := some receipt } = held :=
    List.inj_on_of_nodup_map hloadable.nodup_ids hmem hheld rfl
  have hreceipt : some receipt = held.edgeReceiptJson :=
    congrArg OfflineOutboxEntry.edgeReceiptJson heq
  rw [hnone] at hreceipt
  cases hreceipt

/-- `recordEdgeReceipt` stores nothing, or the receipt in the one entry under the id, which had
    none. -/
theorem recordEdgeReceipt_stored (codec : JsonCodec) (writable : Bool)
    (hload : load codec stored = .ok snapshot) (id receipt : String) :
    (recordEdgeReceipt codec writable stored id receipt).2 = stored ∨
    ∃ held ∈ snapshot.entries, held.offlineOperationId = id ∧ held.edgeReceiptJson = none ∧
      load codec (recordEdgeReceipt codec writable stored id receipt).2 =
        .ok ⟨snapshot.nextDeviceSequence, (snapshot.witnessed held receipt).list⟩ := by
  cases hblank : isBlank receipt.toList with
  | true =>
    left
    rw [recordEdgeReceipt, hblank, if_pos rfl]
  | false =>
    cases hfind : snapshot.find id with
    | none =>
      left
      simp only [recordEdgeReceipt, hblank, hload, hfind, Bool.false_eq_true, if_false]
    | some held =>
      have hheld : held ∈ snapshot.entries := List.mem_of_find?_eq_some hfind
      obtain rfl : held.offlineOperationId = id := by simpa using List.find?_some hfind
      cases hreceipt : held.edgeReceiptJson with
      | some earlier =>
        left
        simp only [recordEdgeReceipt, hblank, hload, hfind, hreceipt, Option.isSome_some,
          Bool.false_eq_true, if_false, if_true]
      | none =>
        have hloadable := (load_loadable hload).witnessed held receipt
        rw [recordEdgeReceipt_unwitnessed codec writable hload hheld hreceipt hblank,
          persist_eq codec writable stored hloadable]
        cases writable with
        | false => exact Or.inl rfl
        | true => exact Or.inr ⟨held, hheld, rfl, hreceipt, load_persisted codec hloadable⟩

namespace Sample

/-- An entry whose site is the empty text. -/
def siteless : OfflineOutboxEntry := { entryAt "a" 0 with siteId := "" }

theorem siteless_loadable : (Snapshot.mk 1 [siteless]).Loadable := by
  refine ⟨by decide, by decide, ?_, ?_, by decide⟩
  · exact List.forall_mem_cons.mpr ⟨⟨by decide, by decide⟩, fun _ h => nomatch h⟩
  · exact List.forall_mem_cons.mpr ⟨by decide, fun _ h => nomatch h⟩

/-- Two entries, the later position first. -/
def unordered : Snapshot := ⟨2, [entryAt "b" 1, entryAt "a" 0]⟩

end Sample

/-- An ordered queue comes back as it was, and holds its counter. -/
theorem outbox_store_ordered :
    ∃ text, persist compactCodec true none ⟨1, [Sample.siteless]⟩ = (.ok (), some text) ∧
      load compactCodec (some text) = .ok ⟨1, [Sample.siteless]⟩ := by
  obtain ⟨text, hwritten, -, hsame⟩ := (outbox_store compactCodec).1 _ Sample.siteless_loadable none
  exact ⟨text, hwritten, hsame (List.pairwise_singleton _ _)⟩

/-- A blank text is read as the empty queue at position zero; a field with no text in it is read;
and entries out of order do not come back in the order they had. -/
theorem outbox_store_lenient :
    (load compactCodec (some [' ']) = .ok ⟨0, []⟩ ∧
      ∀ snapshot : Snapshot,
        compactCodec.parseToJsonElement [' '] ≠ .ok (.object snapshot.document)) ∧
    (∃ text, load compactCodec (some text) = .ok ⟨1, [Sample.siteless]⟩ ∧
      isBlank Sample.siteless.siteId.toList = true) ∧
    ∃ text, persist compactCodec true none Sample.unordered = (.ok (), some text) ∧
      load compactCodec (some text) ≠ .ok Sample.unordered := by
  refine ⟨⟨rfl, fun snapshot h => by cases h⟩, ?_, ?_⟩
  · exact ⟨_, load_persisted compactCodec Sample.siteless_loadable, by decide⟩
  · have hloadable : Sample.unordered.Loadable := by
      refine ⟨by decide, by decide, ?_, ?_, by decide⟩
      · exact List.forall_mem_cons.mpr ⟨⟨by decide, by decide⟩,
          List.forall_mem_cons.mpr ⟨⟨by decide, by decide⟩, fun _ h => nomatch h⟩⟩
      · exact List.forall_mem_cons.mpr ⟨by decide,
          List.forall_mem_cons.mpr ⟨by decide, fun _ h => nomatch h⟩⟩
    refine ⟨_, persist_eq compactCodec true none hloadable, fun h => ?_⟩
    rw [load_persisted compactCodec hloadable] at h
    have hlist := congrArg Snapshot.entries (Except.ok.inj h)
    have hfirst := congrArg (List.map OfflineOutboxEntry.deviceSequence) hlist
    revert hfirst
    decide

end Sentinel.OfflineOutbox
