import Sentinel.Native.EdgeSubmission
import Sentinel.Spec.EdgeReceiptReading
import Sentinel.Spec.OfflineOutboxStrict

/-! # What an Edge's answer can do to the queue

Whatever an Edge answers, the stored queue stays as it was, or one entry that had no receipt now holds
one about itself; nothing else of the queue is another. -/

namespace Sentinel.EdgeSubmission

open DeviceCanonicalJson (Text Value encode writeUnit writeUnits writeString canonicalDeviceJson
  stringify toJsonEntries)
open OfflineOutbox (OfflineOutboxEntry OutboxFailure Stored JsonCodec Snapshot load)
open Utf16 (Paired isHighSurrogate isLowSurrogate)

/-! ## Canonical text is text of characters -/

theorem paired_unicodeEscape (c : UInt16) : Paired (DeviceCanonicalJson.unicodeEscape c) := by
  have hhex : ∀ digit < 16, (DeviceCanonicalJson.hex digit).toNat < 0xd800 := by decide
  have hdigit : ∀ n, (DeviceCanonicalJson.hex (n % 16)).toNat < 0xd800 := fun n =>
    hhex _ (Nat.mod_lt n (by omega))
  apply Utf16.paired_of_lt
  simp only [DeviceCanonicalJson.unicodeEscape, List.forall_mem_cons]
  exact ⟨by decide, by decide, hdigit _, hdigit _, hdigit _, hdigit _, fun _ h => nomatch h⟩

theorem shortForm_lt {c letter : UInt16} (h : DeviceCanonicalJson.shortForm c = some letter) :
    letter.toNat < 0xd800 := by
  rw [DeviceCanonicalJson.shortForm_eq] at h
  obtain ⟨n, hn, rfl⟩ := Option.map_eq_some_iff.mp h
  have hlt := (JsonText.unescape_shortEscape hn).2.1
  have hcode : CodeUnit.code (CodeUnit.unit n : UInt16) = n := CodeUnit.code_unit n hlt
  show CodeUnit.code (CodeUnit.unit n : UInt16) < 0xd800
  omega

/-- A unit that is not the half of a pair is written as one that stands alone, or escaped. -/
theorem paired_writeUnit (c : UInt16) : Paired (writeUnit c) := by
  rw [writeUnit]
  split
  next letter hletter =>
    exact .cons_of_lt (by decide) (.cons_of_lt (shortForm_lt hletter) .nil)
  next =>
    split
    · exact paired_unicodeEscape c
    · split
      · exact paired_unicodeEscape c
      next hhigh =>
        split
        · exact paired_unicodeEscape c
        next hlow => exact .single (by simpa using hhigh) (by simpa using hlow) .nil

theorem paired_writeUnits (text : Text) : Paired (writeUnits text) := by
  fun_induction writeUnits text with
  | case1 => exact .nil
  | case2 c => exact paired_writeUnit c
  | case3 c low rest hpair ih => exact .pair hpair.1 hpair.2 ih
  | case4 c low rest hpair ih => exact (paired_writeUnit c).append ih

theorem paired_writeString (text : Text) : Paired (writeString text) :=
  .cons_of_lt (by decide) ((paired_writeUnits text).append (.cons_of_lt (by decide) .nil))

theorem paired_decimal (n : Int) : Paired (Utf16.decimal n) := by
  apply Utf16.paired_of_lt
  intro unit hunit
  have hlexeme := Utf16.isLexeme_of_mem_decimal hunit
  simp [JsonText.isLexeme] at hlexeme
  omega

mutual
/-- By recursion on the value. -/
theorem paired_encode : (value : Value) → Paired (encode value)
  | .null => Utf16.paired_of_lt (by simp [encode, Utf16.ascii])
  | .boolean true => Utf16.paired_of_lt (by simp [encode, Utf16.ascii])
  | .boolean false => Utf16.paired_of_lt (by simp [encode, Utf16.ascii])
  | .integer value => paired_decimal value
  | .string text => paired_writeString text
  | .list elements => by
    rw [encode]
    have hcomma : Paired [0x2c] := .cons_of_lt (by decide) .nil
    have hclose : Paired [0x5d] := .cons_of_lt (by decide) .nil
    exact .cons_of_lt (by decide) ((hcomma.intercalate (paired_encodeElements elements)).append hclose)
  | .map entries => by
    rw [encode]
    have hcomma : Paired [0x2c] := .cons_of_lt (by decide) .nil
    have hclose : Paired [0x7d] := .cons_of_lt (by decide) .nil
    refine .cons_of_lt (by decide) ((hcomma.intercalate ?_).append hclose)
    intro text htext
    obtain ⟨entry, hentry, rfl⟩ := List.mem_map.mp htext
    have hmem := (JsObject.sortEntries_perm _).mem_iff.mp hentry
    exact (paired_writeString entry.1).append
      (.cons_of_lt (by decide) (paired_encodeEntries entries entry hmem))

theorem paired_encodeElements : (elements : List Value) →
    ∀ text ∈ DeviceCanonicalJson.encodeElements elements, Paired text
  | [] => fun _ h => nomatch h
  | element :: elements => by
    rw [DeviceCanonicalJson.encodeElements, List.forall_mem_cons]
    exact ⟨paired_encode element, paired_encodeElements elements⟩

theorem paired_encodeEntries : (entries : List (Text × Value)) →
    ∀ entry ∈ DeviceCanonicalJson.encodeEntries entries, Paired entry.2
  | [] => fun _ h => nomatch h
  | (key, value) :: entries => by
    rw [DeviceCanonicalJson.encodeEntries, List.forall_mem_cons]
    exact ⟨paired_encode value, paired_encodeEntries entries⟩
end

/-- The queue holds the canonical text as it is. -/
theorem units_storedText (receipt : EdgeReceipt) :
    Utf16.units (storedText receipt) = receipt.canonicalJson :=
  Utf16.units_ofList_chars (paired_encode _)

/-! ## What is filed -/

/-- The statement of an entry does not depend on the fields the device changes while it is queued. -/
theorem fingerprint_of_signedPart {sha256HexUtf8 : Text → Text} {entry entry' : OfflineOutboxEntry}
    (h : entry.signedPart = entry'.signedPart) :
    fingerprint sha256HexUtf8 entry = fingerprint sha256HexUtf8 entry' := by
  show fingerprint sha256HexUtf8 entry.signedPart = fingerprint sha256HexUtf8 entry'.signedPart
  rw [h]

theorem receiptOrNull_wellFormed {body : JsonObject} {receipt : EdgeReceipt}
    (h : receiptOrNull body = some receipt) : receipt.WellFormed := by
  unfold receiptOrNull at h
  split at h <;> exact fromWire_wellFormed h

/-- A receipt about the entry goes to the queue, whatever the queue makes of it. -/
theorem record_of_receipt (sha256HexUtf8 : Text → Text) (codec : JsonCodec) (writable : Bool)
    (stored : Stored) {entry : OfflineOutboxEntry} {answer : Answer} {body : JsonObject}
    {receipt : EdgeReceipt} (hok : answer.ok = true) (hbody : answer.body = some body)
    (hreceipt : receiptOrNull body = some receipt)
    (hsame : receipt.witnessedOperationFingerprint = fingerprint sha256HexUtf8 entry) :
    (record sha256HexUtf8 codec writable stored entry answer).2 =
      (OfflineOutbox.recordEdgeReceipt codec writable stored entry.offlineOperationId
        (storedText receipt)).2 := by
  simp only [record, hok, hbody, hreceipt, hsame, Bool.not_true, Bool.false_eq_true, if_false,
    ne_eq, not_true_eq_false]
  cases OfflineOutbox.recordEdgeReceipt codec writable stored entry.offlineOperationId
      (storedText receipt) with
  | mk result stored' => cases result <;> rfl

/-- The classifier stores nothing, or files a receipt it has read and whose fingerprint is the
    entry's. -/
theorem record_cases (sha256HexUtf8 : Text → Text) (codec : JsonCodec) (writable : Bool)
    (stored : Stored) (entry : OfflineOutboxEntry) (answer : Answer) :
    (record sha256HexUtf8 codec writable stored entry answer).2 = stored ∨
    ∃ receipt : EdgeReceipt, receipt.WellFormed ∧
      receipt.witnessedOperationFingerprint = fingerprint sha256HexUtf8 entry ∧
      (record sha256HexUtf8 codec writable stored entry answer).2 =
        (OfflineOutbox.recordEdgeReceipt codec writable stored entry.offlineOperationId
          (storedText receipt)).2 := by
  cases hok : answer.ok with
  | false =>
    left
    rw [record, hok]
    rfl
  | true =>
    cases hbody : answer.body with
    | none =>
      left
      simp only [record, hok, hbody, Bool.not_true, Bool.false_eq_true, if_false]
    | some body =>
      cases hreceipt : receiptOrNull body with
      | none =>
        left
        simp only [record, hok, hbody, hreceipt, Bool.not_true, Bool.false_eq_true, if_false]
      | some receipt =>
        by_cases hsame : receipt.witnessedOperationFingerprint = fingerprint sha256HexUtf8 entry
        · exact Or.inr ⟨receipt, receiptOrNull_wellFormed hreceipt, hsame,
            record_of_receipt sha256HexUtf8 codec writable stored hok hbody hreceipt hsame⟩
        · left
          simp only [record, hok, hbody, hreceipt, ne_eq, hsame, not_false_eq_true, if_true,
            Bool.not_true, Bool.false_eq_true, if_false]

/-- A receipt has been filed: `held` had none and now holds this one, and the rest of the queue is as
    it was. -/
structure Filed (reader : JsonReader) (codec : JsonCodec) (snapshot : Snapshot)
    (held : OfflineOutboxEntry) (receipt : EdgeReceipt) (stored : Stored) : Prop where
  queued : held ∈ snapshot.entries
  unwitnessed : held.edgeReceiptJson = none
  /-- The counter is kept, and every entry but for the one receipt; `persist` puts them in sequence
      order. -/
  queue : ∃ entries, load codec stored = .ok ⟨snapshot.nextDeviceSequence, entries⟩ ∧
    entries.Perm (snapshot.entries.map fun entry =>
      if entry = held then { held with edgeReceiptJson := some (storedText receipt) } else entry)
  text : Utf16.units (storedText receipt) = receipt.canonicalJson
  readBack : fromStored reader (Utf16.units (storedText receipt)) = some receipt

theorem record_stored (reader : JsonReader) (sha256HexUtf8 : Text → Text) (codec : JsonCodec)
    (writable : Bool) (stored : Stored) (entry : OfflineOutboxEntry) (answer : Answer) :
    (record sha256HexUtf8 codec writable stored entry answer).2 = stored ∨
    ∃ snapshot held receipt, load codec stored = .ok snapshot ∧
      held.offlineOperationId = entry.offlineOperationId ∧
      Filed reader codec snapshot held receipt
        (record sha256HexUtf8 codec writable stored entry answer).2 ∧
      receipt.witnessedOperationFingerprint = fingerprint sha256HexUtf8 entry := by
  obtain hsame | ⟨receipt, hwf, hfingerprint, hrecord⟩ :=
    record_cases sha256HexUtf8 codec writable stored entry answer
  · exact Or.inl hsame
  cases hload : load codec stored with
  | error failure =>
    left
    rw [hrecord, OfflineOutbox.recordEdgeReceipt, hload]
    split <;> rfl
  | ok snapshot =>
    obtain hsame | ⟨held, hmem, hid, hnone, hread⟩ := OfflineOutbox.recordEdgeReceipt_stored codec
      writable hload entry.offlineOperationId (storedText receipt)
    · exact Or.inl (hrecord.trans hsame)
    · refine Or.inr ⟨snapshot, held, receipt, rfl, hid, ⟨hmem, hnone, ?_, ?_, ?_⟩, hfingerprint⟩
      · rw [hrecord]
        exact ⟨_, hread, Snapshot.list_perm _⟩
      · exact units_storedText receipt
      · rw [units_storedText]
        exact fromStored_canonicalJson reader hwf

/-- **An Edge receipt survives the device.**  Every receipt the contract accepts is read from its
JSON, stored as the contract's canonical JSON and read back.  The classifier stores nothing, or
files in the entry under the id, which had no receipt, one whose fingerprint is that of the entry it
was given. -/
theorem edge_receipt_survives (reader : JsonReader) (sha256HexUtf8 : Text → Text) (codec : JsonCodec) :
    (∀ receipt : DeviceEdgeReceipt, ∃ held : EdgeReceipt,
      reader.parseToJsonElement (stringify receipt.value) =
        some (.object (toJsonEntries receipt.entries)) ∧
      fromWire (toJsonEntries receipt.entries) = some held ∧
      receipt.entries.Perm held.asMap ∧
      held.canonicalJson = canonicalDeviceJson receipt.value ∧
      fromStored reader held.canonicalJson = some held) ∧
    ∀ (writable : Bool) (stored : Stored) (entry : OfflineOutboxEntry) (answer : Answer),
      (record sha256HexUtf8 codec writable stored entry answer).2 = stored ∨
      ∃ snapshot held receipt, load codec stored = .ok snapshot ∧
        held.offlineOperationId = entry.offlineOperationId ∧
        Filed reader codec snapshot held receipt
          (record sha256HexUtf8 codec writable stored entry answer).2 ∧
        receipt.witnessedOperationFingerprint = fingerprint sha256HexUtf8 entry ∧
        ∀ queued ∈ snapshot.entries, queued.signedPart = entry.signedPart →
          queued = held ∧ receipt.witnessedOperationFingerprint = fingerprint sha256HexUtf8 held := by
  refine ⟨DeviceEdgeReceipt.read reader, fun writable stored entry answer => ?_⟩
  obtain hsame | ⟨snapshot, held, receipt, hload, hid, hfiled, hfingerprint⟩ :=
    record_stored reader sha256HexUtf8 codec writable stored entry answer
  · exact Or.inl hsame
  · refine Or.inr ⟨snapshot, held, receipt, hload, hid, hfiled, hfingerprint, ?_⟩
    intro queued hqueued hsigned
    have hqueuedId : queued.offlineOperationId = held.offlineOperationId :=
      (congrArg OfflineOutboxEntry.offlineOperationId hsigned).trans hid.symm
    have hheld : queued = held := List.inj_on_of_nodup_map
      (OfflineOutbox.load_loadable hload).nodup_ids hqueued hfiled.queued hqueuedId
    refine ⟨hheld, ?_⟩
    rw [hfingerprint, ← hheld, fingerprint_of_signedPart hsigned]

namespace Sample

def digest : Text := List.replicate 64 0x61

/-- The signature with both scalars one. -/
def signature : Text :=
  Base64url.encode (List.replicate 31 0 ++ [1] ++ List.replicate 31 0 ++ [1])

/-- A receipt with a trusted time alone, its members not in the schema's order. -/
def receipt : DeviceEdgeReceipt where
  entries :=
    [(fieldEdgeSignature, .string signature),
     (fieldEdgeTrustedTime, .string (FieldOfflineRequest.units "2026-08-14T10:00:00.000Z")),
     (fieldEdgeMonotonicPosition, .null),
     (fieldSchemaVersion, .integer 1),
     (fieldEdgeId, .string [0x45, 0xd800]),
     (fieldEdgeKeyId, .string (FieldOfflineRequest.units "key")),
     (fieldEdgeKeyVersion, .integer 1000000),
     (fieldWitnessedOperationFingerprint, .string digest),
     (fieldClaimedEdgeSignatureProfile, .string (FieldOfflineRequest.units "P256_ECDSA_SHA256"))]
  nodup_keys := by decide
  accepted := by decide

/-- Its JSON, wrapped as an Edge's answer. -/
def answer : Answer :=
  ⟨200, some [(FieldOfflineRequest.units "receipt", .object (toJsonEntries receipt.entries))], []⟩

/-- What the device reads of it. -/
def held : EdgeReceipt :=
  ⟨1, [0x45, 0xd800], FieldOfflineRequest.units "key", 1000000, digest,
    some (FieldOfflineRequest.units "2026-08-14T10:00:00.000Z"), none,
    FieldOfflineRequest.units "P256_ECDSA_SHA256", signature⟩

/-- A queue with one entry. -/
def snapshot : Snapshot := ⟨1, [OfflineOutbox.Sample.entryAt "a" 0]⟩

theorem snapshot_loadable : snapshot.Loadable := by
  refine ⟨by decide, by decide, ?_, ?_, by decide⟩
  · intro entry hentry
    rw [List.mem_singleton.mp hentry]
    exact ⟨by decide, by decide⟩
  · intro entry hentry
    rw [List.mem_singleton.mp hentry]
    decide

def queue : Stored := some (OfflineOutbox.compactCodec.print (.object snapshot.document))

theorem receiptOrNull_answer :
    receiptOrNull [(FieldOfflineRequest.units "receipt", .object (toJsonEntries receipt.entries))] =
      some held := by
  decide

theorem storedText_not_blank : OfflineOutbox.isBlank (storedText held).toList = false := by
  rw [storedText, String.toList_ofList]
  decide

theorem load_queue : load OfflineOutbox.compactCodec queue = .ok snapshot :=
  OfflineOutbox.load_persisted OfflineOutbox.compactCodec snapshot_loadable

/-- The queue with the receipt is written, and is another one. -/
theorem record_ne :
    (record (fun _ => digest) OfflineOutbox.compactCodec true queue
      (OfflineOutbox.Sample.entryAt "a" 0) answer).2 ≠ queue := by
  have hentry : OfflineOutbox.Sample.entryAt "a" 0 ∈ snapshot.entries := List.mem_singleton_self _
  rw [record_of_receipt _ _ _ _ rfl rfl receiptOrNull_answer rfl,
    OfflineOutbox.recordEdgeReceipt_unwitnessed _ _ load_queue hentry rfl storedText_not_blank,
    OfflineOutbox.persist_eq _ _ _ (snapshot_loadable.witnessed _ _), if_pos rfl]
  exact OfflineOutbox.print_witnessed_ne _ load_queue hentry rfl _

end Sample

/-- The receipt is filed in the queue's entry, under a digest that gives every statement the
    fingerprint it witnesses. -/
theorem edge_receipt_survives_filed :
    ∃ snapshot held receipt, load OfflineOutbox.compactCodec Sample.queue = .ok snapshot ∧
      Filed compactReader OfflineOutbox.compactCodec snapshot held receipt
        (record (fun _ => Sample.digest) OfflineOutbox.compactCodec true Sample.queue
          (OfflineOutbox.Sample.entryAt "a" 0) Sample.answer).2 := by
  obtain hsame | ⟨snapshot, held, receipt, hload, -, hfiled, -⟩ :=
    (edge_receipt_survives compactReader (fun _ => Sample.digest) OfflineOutbox.compactCodec).2 true
      Sample.queue (OfflineOutbox.Sample.entryAt "a" 0) Sample.answer
  · exact absurd hsame Sample.record_ne
  · exact ⟨snapshot, held, receipt, hload, hfiled⟩

/-- **An entry is witnessed once.**  A call leaves the queue as it was, or leaves an entry under the
id on which every later call answers with the one receipt, whatever is submitted, and writes
nothing. -/
theorem witness_settles (reader : JsonReader) (sha256HexUtf8 : Text → Text) (codec : JsonCodec)
    (writable : Bool) (stored : Stored) (entry : OfflineOutboxEntry)
    (submitted : Except OutboxFailure Answer) :
    (witness reader sha256HexUtf8 codec writable stored entry submitted).2 = stored ∨
    ∃ stored' snapshot held receipt,
      (witness reader sha256HexUtf8 codec writable stored entry submitted).2 = stored' ∧
      load codec stored' = .ok snapshot ∧ held ∈ snapshot.entries ∧
      held.offlineOperationId = entry.offlineOperationId ∧
      ∀ writable' submitted',
        witness reader sha256HexUtf8 codec writable' stored' held submitted' =
          (.ok (.witnessed receipt (FieldOfflineRequest.units "this operation was already witnessed")), stored') := by
  cases hentry : entry.edgeReceiptJson with
  | some receiptJson =>
    left
    simp only [witness, hentry]
    split <;> rfl
  | none =>
    cases submitted with
    | error failure => exact .inl (by simp only [witness, hentry])
    | ok answer =>
      have hrecord : witness reader sha256HexUtf8 codec writable stored entry (.ok answer) =
          record sha256HexUtf8 codec writable stored entry answer := by
        simp only [witness, hentry]
      rw [hrecord]
      obtain hsame | ⟨snapshot, held, receipt, -, hid, hfiled, -⟩ :=
        record_stored reader sha256HexUtf8 codec writable stored entry answer
      · exact .inl hsame
      · obtain ⟨entries, hload, hentries⟩ := hfiled.queue
        refine .inr ⟨_, _, { held with edgeReceiptJson := some (storedText receipt) }, receipt, rfl,
          hload, hentries.mem_iff.mpr (List.mem_map.mpr ⟨held, hfiled.queued, if_pos rfl⟩), hid, ?_⟩
        intro writable' submitted'
        simp only [witness, hfiled.readBack]

end Sentinel.EdgeSubmission
