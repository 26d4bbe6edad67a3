import Sentinel.Native.EdgeReceipt
import Sentinel.Spec.DeviceCanonicalAgreement

/-! # The device reads what it and the contract write

A receipt has nine members, and its reader finds them by name, so it does not see the order in which
they come.  Whatever the reader has accepted, its stored text gives back. -/

namespace Sentinel.EdgeSubmission

open DeviceCanonicalJson (Text Value encode canonicalDeviceJson stringify toJsonEntries)
open FieldOfflineRequest (units)
open JsonText (Json)
open JsObject (sortEntries)
open Utf16 (ascii decimal wellFormed)

/-! ## Numbers -/

theorem digitOf_ascii {c : Char} (h : c.isDigit = true) :
    digitOf (UInt16.ofNat c.toNat) = some (c.toNat - 48) := by
  simp only [Char.isDigit, Bool.and_eq_true, decide_eq_true_eq] at h
  have hlower : 48 ≤ c.toNat := h.1
  have hupper : c.toNat ≤ 57 := h.2
  have hunit : (UInt16.ofNat c.toNat).toNat = c.toNat :=
    UInt16.toNat_ofNat_of_lt' (by simp only [UInt16.size]; omega)
  have hfirst : 0x30 ≤ c.toNat ∧ c.toNat < 0x30 + 10 := by omega
  rw [digitOf, digitZeros, List.findSome?_cons, hunit, if_pos hfirst]

/-- Digits are read from the left, as they are written. -/
theorem foldlM_digitOf {text : List Char} (h : ∀ c ∈ text, c.isDigit = true) (n : Nat) :
    (ascii text).foldlM (fun n c => (digitOf c).map (10 * n + ·)) n =
      some (Nat.ofDigitChars 10 text n) := by
  induction text generalizing n with
  | nil => rfl
  | cons c text ih =>
    have hhead := digitOf_ascii (h c List.mem_cons_self)
    have htail := ih (fun d hd => h d (List.mem_cons_of_mem _ hd)) (10 * n + (c.toNat - 48))
    rw [ascii, List.map_cons, List.foldlM_cons, hhead]
    exact htail

theorem digitsOrNull_toDigits (n : Nat) : digitsOrNull (ascii (Nat.toDigits 10 n)) = some n := by
  have hdigits : ∀ c ∈ Nat.toDigits 10 n, c.isDigit = true := fun c hc =>
    Nat.isDigit_of_mem_toDigits (by omega) (by omega) hc
  have hread := foldlM_digitOf hdigits 0
  rw [Nat.ofDigitChars_ten_toDigits] at hread
  rw [digitsOrNull.eq_def]
  split
  next hnil => exact absurd (List.map_eq_nil_iff.mp hnil) Nat.toDigits_ne_nil
  next => exact hread

theorem toLongOrNull_decimal {n : Int} (h : -2 ^ 63 ≤ n ∧ n < 2 ^ 63) :
    toLongOrNull (decimal n) = some n := by
  have hsigned : signedOrNull (decimal n) = some n := by
    rw [decimal, Decimal.digits]
    split
    next hneg =>
      have hread := digitsOrNull_toDigits n.natAbs
      have hminus : UInt16.ofNat '-'.toNat = 0x2d := rfl
      rw [ascii] at hread ⊢
      rw [List.map_cons, hminus, signedOrNull, if_pos (by decide), if_pos rfl, hread,
        Option.map_some, Option.some.injEq]
      omega
    next hneg =>
      obtain ⟨c, text, htext⟩ := List.exists_cons_of_ne_nil
        (Nat.toDigits_ne_nil (n := n.natAbs) (b := 10))
      have hc : c.isDigit = true :=
        Nat.isDigit_of_mem_toDigits (by omega) (by omega) (htext ▸ List.mem_cons_self)
      have hread := digitsOrNull_toDigits n.natAbs
      have hfirst : ¬ UInt16.ofNat c.toNat < 0x30 := by
        simp only [Char.isDigit, Bool.and_eq_true, decide_eq_true_eq] at hc
        have hlower : 48 ≤ c.toNat := hc.1
        have hupper : c.toNat ≤ 57 := hc.2
        have hunit : (UInt16.ofNat c.toNat).toNat = c.toNat :=
          UInt16.toNat_ofNat_of_lt' (by simp only [UInt16.size]; omega)
        rw [UInt16.lt_iff_toNat_lt, hunit]
        show ¬ c.toNat < 48
        omega
      rw [htext, ascii, List.map_cons] at hread ⊢
      rw [signedOrNull, if_neg hfirst, hread, Option.map_some, Option.some.injEq]
      omega
  rw [toLongOrNull, hsigned, Option.filter, if_pos (by simpa using h)]

/-- No number is written `null`. -/
theorem decimal_ne_jsonNull {n : Int} (h : -2 ^ 63 ≤ n ∧ n < 2 ^ 63) : decimal n ≠ jsonNull := by
  intro hsame
  have hread := toLongOrNull_decimal h
  have hnull : toLongOrNull jsonNull = none := by decide
  rw [hsame, hnull] at hread
  cases hread

/-! ## One member -/

/-- With distinct keys, the last member under a key is the member under it. -/
theorem getKey_of_mem {source : JsonObject} (hnodup : (source.map Prod.fst).Nodup) {key : Text}
    {value : JsonElement} (h : (key, value) ∈ source) : getKey source key = some value := by
  have hsome : (source.reverse.find? fun member => member.1 = key).isSome = true := by
    rw [List.find?_isSome]
    exact ⟨_, List.mem_reverse.mpr h, by simp⟩
  obtain ⟨found, hfound⟩ := Option.isSome_iff_exists.mp hsome
  have hkey : found.1 = key := by simpa using List.find?_some hfound
  have hmem : found ∈ source := List.mem_reverse.mp (List.mem_of_find?_eq_some hfound)
  have hsame : found = (key, value) := List.inj_on_of_nodup_map hnodup hmem h hkey
  rw [getKey, hfound, hsame, Option.map_some]

theorem containsKey_iff {source : JsonObject} {key : Text} :
    containsKey source key = true ↔ key ∈ source.map Prod.fst := by
  rw [containsKey, List.any_eq_true, List.mem_map]
  simp

section Readers

variable {source : JsonObject} {key : Text}

theorem text_of_get {content : Text}
    (h : getKey source key = some (Value.toJson (.string content))) :
    text source key = some content := by
  rw [text, h]
  rfl

theorem wholeNumber_of_get {n : Int} (hn : -2 ^ 63 ≤ n ∧ n < 2 ^ 63)
    (h : getKey source key = some (Value.toJson (.integer n))) :
    wholeNumber source key = some n := by
  rw [wholeNumber, h]
  show (if decimal n = jsonNull then none else toLongOrNull (decimal n)) = some n
  rw [if_neg (decimal_ne_jsonNull hn), toLongOrNull_decimal hn]

theorem nullableText_of_get {content : Option Text}
    (h : getKey source key = some (Value.toJson (nullable .string content))) :
    nullableText source key = ⟨content, false⟩ := by
  rw [nullableText, h]
  cases content with
  | none => rfl
  | some content => rfl

theorem nullableWholeNumber_of_get {n : Option Int}
    (hn : ∀ m ∈ n, -2 ^ 63 ≤ m ∧ m < 2 ^ 63)
    (h : getKey source key = some (Value.toJson (nullable .integer n))) :
    nullableWholeNumber source key = ⟨n, false⟩ := by
  rw [nullableWholeNumber, h]
  cases n with
  | none => rfl
  | some n =>
    have hlong := hn n rfl
    show (if decimal n = jsonNull then _ else _) = _
    rw [if_neg (decimal_ne_jsonNull hlong), toLongOrNull_decimal hlong]

end Readers

/-! ## A receipt -/

/-- What the reader asks of the values of a receipt. -/
structure EdgeReceipt.WellFormed (receipt : EdgeReceipt) : Prop where
  version : receipt.schemaVersion = EdgeSubmission.schemaVersion
  keyVersion : 1 ≤ receipt.edgeKeyVersion ∧ receipt.edgeKeyVersion ≤ intMax
  position : ∀ n ∈ receipt.edgeMonotonicPosition, 0 ≤ n ∧ n < 2 ^ 63
  witnessed : ¬(receipt.edgeTrustedTime = none ∧ receipt.edgeMonotonicPosition = none)

variable {entries : List (Text × Value)} {receipt : EdgeReceipt} {value : Option Value}

theorem asMap_keys (receipt : EdgeReceipt) : receipt.asMap.map Prod.fst = fields := rfl

theorem fields_nodup : fields.Nodup := by decide

theorem forbidden_not_field : ∀ forbidden ∈ forbiddenFields, forbidden ∉ fields := by decide

theorem toJsonEntries_keys (entries : List (Text × Value)) :
    (toJsonEntries entries).map Prod.fst = entries.map Prod.fst := by
  rw [DeviceCanonicalJson.toJsonEntries_eq_map, List.map_map]
  rfl

theorem mem_toJsonEntries {key : Text} {value : Value}
    (h : (key, value) ∈ entries) : (key, value.toJson) ∈ toJsonEntries entries := by
  rw [DeviceCanonicalJson.toJsonEntries_eq_map]
  exact List.mem_map_of_mem h

/-- The nine members are read, in whatever order they come. -/
theorem fromWire_of_perm (h : receipt.WellFormed) {source : JsonObject}
    (hsource : source.Perm (toJsonEntries receipt.asMap)) : fromWire source = some receipt := by
  have hkeys : (source.map Prod.fst).Perm fields := by
    have hperm := hsource.map Prod.fst
    rwa [toJsonEntries_keys, asMap_keys] at hperm
  have hnodup : (source.map Prod.fst).Nodup := hkeys.nodup_iff.mpr fields_nodup
  -- a member of the map is found under its key
  have hget : ∀ (i : Nat) (key : Text) (value : Value), receipt.asMap[i]? = some (key, value) →
      getKey source key = some value.toJson := fun i key value hi =>
    getKey_of_mem hnodup (hsource.mem_iff.mpr (mem_toJsonEntries (List.mem_of_getElem? hi)))
  have hforbidden : ¬ (forbiddenFields.any fun forbidden => containsKey source forbidden) = true := by
    rw [List.any_eq_true]
    rintro ⟨forbidden, hmem, hcontains⟩
    exact forbidden_not_field forbidden hmem (hkeys.mem_iff.mp (containsKey_iff.mp hcontains))
  have hstrict : ¬ (source.any fun member => !fields.contains member.1) = true := by
    rw [List.any_eq_true]
    rintro ⟨member, hmem, hunknown⟩
    have hfield : member.1 ∈ fields := hkeys.mem_iff.mp (List.mem_map_of_mem hmem)
    simp [hfield] at hunknown
  have hcontains : ∀ key ∈ fields, containsKey source key = true := fun key hkey =>
    containsKey_iff.mpr (hkeys.mem_iff.mpr hkey)
  have hversion := h.version
  have hkeyVersion := h.keyVersion
  have hlong : -2 ^ 63 ≤ receipt.edgeKeyVersion ∧ receipt.edgeKeyVersion < 2 ^ 63 := by
    simp only [intMax] at hkeyVersion
    omega
  have hposition : ∀ n ∈ receipt.edgeMonotonicPosition, -2 ^ 63 ≤ n ∧ n < 2 ^ 63 := by
    intro n hn
    have := h.position n hn
    omega
  have hnonneg : ∀ n ∈ receipt.edgeMonotonicPosition, 0 ≤ n := fun n hn => (h.position n hn).1
  have hreadVersion : wholeNumber source fieldSchemaVersion = some receipt.schemaVersion :=
    wholeNumber_of_get (by rw [hversion]; decide) (hget 0 _ _ rfl)
  rw [fromWire, if_neg hforbidden, if_neg hstrict, hreadVersion,
    text_of_get (hget 1 _ _ rfl), text_of_get (hget 2 _ _ rfl),
    wholeNumber_of_get hlong (hget 3 _ _ rfl), text_of_get (hget 4 _ _ rfl),
    nullableText_of_get (hget 5 _ _ rfl), nullableWholeNumber_of_get hposition (hget 6 _ _ rfl),
    text_of_get (hget 7 _ _ rfl), text_of_get (hget 8 _ _ rfl),
    hcontains _ (by decide), hcontains _ (by decide)]
  simp only [Option.bind_eq_bind, Option.bind_some, guard, hversion, hkeyVersion, h.witnessed,
    if_true, Option.pure_def, and_self, not_false_eq_true]
  rw [if_pos hnonneg, Option.bind_some, ← hversion]

theorem toLongOrNull_bounds {content : Text} {n : Int} (h : toLongOrNull content = some n) :
    -2 ^ 63 ≤ n ∧ n < 2 ^ 63 := by
  have hfilter := (Option.filter_eq_some_iff.mp h).2
  simpa using hfilter

theorem nullableWholeNumber_lt {source : JsonObject} {key : Text} :
    ∀ n ∈ (nullableWholeNumber source key).value, n < 2 ^ 63 := by
  intro n hn
  rw [nullableWholeNumber] at hn
  split at hn
  · cases hn
  · split at hn
    · cases hn
    · split at hn
      · cases hn
      next parsed hparsed =>
        cases hn
        exact (toLongOrNull_bounds hparsed).2
  · cases hn

/-- What is read meets the rules of the reader. -/
theorem fromWire_wellFormed {source : JsonObject}
    (h : fromWire source = some receipt) : receipt.WellFormed := by
  rw [fromWire] at h
  split at h
  · cases h
  · split at h
    · cases h
    · simp only [Option.bind_eq_bind, Option.bind_eq_some_iff, Option.guard_eq_some', exists_const,
        Option.pure_def, Option.some.injEq] at h
      obtain ⟨version, -, hversion, _, -, _, -, _, -, hkeyVersion, _, -, _, -, _, -, -, -, -, -,
        hnonneg, hwitnessed, rfl⟩ := h
      refine ⟨hversion, hkeyVersion, fun n hn => ⟨hnonneg n hn, ?_⟩, hwitnessed⟩
      exact nullableWholeNumber_lt n hn

/-- No member is an object whose own keys would have to be sorted. -/
theorem treeEntries_asMap (receipt : EdgeReceipt) :
    DeviceCanonicalJson.treeEntries sortEntries receipt.asMap = toJsonEntries receipt.asMap := by
  obtain ⟨_, _, _, _, _, time, position, _, _⟩ := receipt
  cases time <;> cases position <;> rfl

/-- The text that is stored is JSON, and holds the nine members. -/
theorem fromStored_canonicalJson (reader : JsonReader)
    (h : receipt.WellFormed) : fromStored reader receipt.canonicalJson = some receipt := by
  have htree := DeviceCanonicalJson.tree_valid JsObject.sortEntries_perm (.map receipt.asMap)
  have hparse := reader.parse_print _ htree
  rw [← DeviceCanonicalJson.encode_eq, Value.tree, treeEntries_asMap] at hparse
  rw [fromStored, EdgeReceipt.canonicalJson, hparse]
  exact fromWire_of_perm h (JsObject.sortEntries_perm _)

/-! ## The contract's receipts -/

theorem heldEntries_iff :
    DeviceCanonicalJson.HeldEntries entries ↔ ∀ entry ∈ entries, entry.2.Held := by
  induction entries with
  | nil => simp [DeviceCanonicalJson.HeldEntries]
  | cons entry entries ih => rw [DeviceCanonicalJson.HeldEntries, ih, List.forall_mem_cons]

theorem mem_of_property {key : Text} {value : Value}
    (h : property entries key = some value) : (key, value) ∈ entries := by
  obtain ⟨entry, hfind, rfl⟩ := Option.map_eq_some_iff.mp h
  have hkey : entry.1 = key := by simpa using List.find?_some hfind
  rw [← hkey]
  exact List.mem_of_find?_eq_some hfind

theorem isString_iff {check : Text → Bool} :
    isString check value = true ↔ ∃ text, value = some (.string text) ∧ check text = true := by
  rw [isString.eq_def]
  split <;> simp_all

theorem isInteger_iff {check : Int → Bool} :
    isInteger check value = true ↔ ∃ n, value = some (.integer n) ∧ check n = true := by
  rw [isInteger.eq_def]
  split <;> simp_all

theorem isNull_iff : isNull value = true ↔ value = some .null := by
  rw [isNull.eq_def]
  split <;> simp_all

/-- Every receipt the schema accepts is one of the device's, its members in some order. -/
theorem DeviceEdgeReceipt.exists_perm (receipt : DeviceEdgeReceipt) :
    ∃ held : EdgeReceipt, held.WellFormed ∧ receipt.entries.Perm held.asMap ∧ receipt.value.Held := by
  have haccepted := receipt.accepted
  simp only [deviceEdgeReceiptSchema, Bool.and_eq_true, Bool.or_eq_true, isString_iff, isInteger_iff,
    isNull_iff, Bool.not_eq_true', List.all_eq_true] at haccepted
  obtain ⟨⟨⟨⟨⟨⟨⟨⟨⟨⟨⟨version, hversion, hone⟩, ⟨edgeId, hedgeId, -⟩⟩, ⟨edgeKeyId, hedgeKeyId, -⟩⟩,
    ⟨keyVersion, hkeyVersion, hkeyRange⟩⟩, ⟨fingerprint, hfingerprint, -⟩⟩, htime⟩, hposition⟩,
    ⟨profile, hprofile, -⟩⟩, ⟨signature, hsignature, -⟩⟩, hstrict⟩, hwitnessed⟩ := haccepted
  have htime : ∃ time : Option Text,
      property receipt.entries fieldEdgeTrustedTime = some (nullable .string time) := by
    rcases htime with hnull | ⟨time, hsome, -⟩
    · exact ⟨none, hnull⟩
    · exact ⟨some time, hsome⟩
  have hposition : ∃ position : Option Int,
      property receipt.entries fieldEdgeMonotonicPosition = some (nullable .integer position) ∧
        ∀ n ∈ position, 0 ≤ n ∧ n ≤ maxOfflineDeviceSequence := by
    rcases hposition with hnull | ⟨position, hsome, hrange⟩
    · exact ⟨none, hnull, fun _ hn => by cases hn⟩
    · refine ⟨some position, hsome, fun n hn => ?_⟩
      cases hn
      exact of_decide_eq_true hrange
  obtain ⟨time, htime⟩ := htime
  obtain ⟨position, hposition, hpositionRange⟩ := hposition
  have hone : version = 1 := of_decide_eq_true hone
  have hkeyRange : 0 < keyVersion ∧ keyVersion ≤ 1000000 := of_decide_eq_true hkeyRange
  let held : EdgeReceipt :=
    ⟨version, edgeId, edgeKeyId, keyVersion, fingerprint, time, position, profile, signature⟩
  have hcommon : ∀ (i : Nat) (key : Text) (value : Value), held.asMap[i]? = some (key, value) →
      property receipt.entries key = some value →
        ∃ value, (key, value) ∈ receipt.entries ∧ (key, value) ∈ held.asMap :=
    fun i key value hi hproperty => ⟨value, mem_of_property hproperty, List.mem_of_getElem? hi⟩
  have hperm : receipt.entries.Perm held.asMap := by
    have hnodup : (held.asMap.map Prod.fst).Nodup := fields_nodup
    apply JsObject.perm_of_keys receipt.nodup_keys hnodup
    · intro entry hentry
      simpa [asMap_keys] using hstrict entry hentry
    · rw [asMap_keys]
      simp only [fields, List.forall_mem_cons]
      exact ⟨hcommon 0 _ _ rfl hversion, hcommon 1 _ _ rfl hedgeId, hcommon 2 _ _ rfl hedgeKeyId,
        hcommon 3 _ _ rfl hkeyVersion, hcommon 4 _ _ rfl hfingerprint, hcommon 5 _ _ rfl htime,
        hcommon 6 _ _ rfl hposition, hcommon 7 _ _ rfl hprofile, hcommon 8 _ _ rfl hsignature,
        fun _ hkey => by cases hkey⟩
  refine ⟨held, ⟨hone, ?_, ?_, ?_⟩, hperm, receipt.nodup_keys, ?_⟩
  · show 1 ≤ keyVersion ∧ keyVersion ≤ intMax
    simp only [intMax]
    omega
  · intro n hn
    have hrange := hpositionRange n hn
    simp only [maxOfflineDeviceSequence] at hrange
    omega
  · rintro ⟨hnone, hnone'⟩
    have hnone : time = none := hnone
    have hnone' : position = none := hnone'
    rw [htime, hposition, hnone, hnone'] at hwitnessed
    cases hwitnessed
  · -- the integers are exact on both sides
    have hposition : (nullable Value.integer position).Held := by
      cases position with
      | none => trivial
      | some n =>
        have hrange := hpositionRange n rfl
        simp only [maxOfflineDeviceSequence] at hrange
        show n.natAbs ≤ 2 ^ 53 - 1
        omega
    have htime : (nullable Value.string time).Held := by
      cases time <;> trivial
    have hversion : version.natAbs ≤ 2 ^ 53 - 1 := by omega
    have hkeyVersion : keyVersion.natAbs ≤ 2 ^ 53 - 1 := by omega
    rw [heldEntries_iff]
    intro entry hentry
    have hheld : DeviceCanonicalJson.HeldEntries held.asMap :=
      ⟨hversion, trivial, trivial, hkeyVersion, trivial, htime, hposition, trivial, trivial, trivial⟩
    exact heldEntries_iff.mp hheld entry (hperm.mem_iff.mp hentry)

theorem fields_no_index : ∀ key ∈ fields, Utf16.arrayIndex? key = none := by decide

/-- The members are no objects and no lists. -/
theorem asMap_inOrder (receipt : EdgeReceipt) : ∀ entry ∈ receipt.asMap, entry.2.KeysInOrder := by
  have htime : (nullable Value.string receipt.edgeTrustedTime).KeysInOrder := by
    cases receipt.edgeTrustedTime <;> trivial
  have hposition : (nullable Value.integer receipt.edgeMonotonicPosition).KeysInOrder := by
    cases receipt.edgeMonotonicPosition <;> trivial
  simp only [EdgeReceipt.asMap, List.forall_mem_cons]
  exact ⟨trivial, trivial, trivial, trivial, trivial, htime, hposition, trivial, trivial,
    fun _ h => by cases h⟩

/-- The device's text of the members is the contract's. -/
theorem canonicalJson_eq (receipt : DeviceEdgeReceipt) {held : EdgeReceipt}
    (hperm : receipt.entries.Perm held.asMap) (hheld : receipt.value.Held) :
    held.canonicalJson = canonicalDeviceJson receipt.value := by
  have hkeys : (receipt.entries.map Prod.fst).Perm fields := by
    have hmap := hperm.map Prod.fst
    rwa [asMap_keys] at hmap
  have horder : receipt.value.KeysInOrder := by
    constructor
    · intro key hkey n hindex
      rw [fields_no_index key (hkeys.mem_iff.mp hkey)] at hindex
      cases hindex
    · rw [DeviceCanonicalJson.entriesInOrder_iff]
      intro entry hentry
      exact asMap_inOrder held entry (hperm.mem_iff.mp hentry)
  have hsame : encode receipt.value = held.canonicalJson := by
    have hmembers : (DeviceCanonicalJson.treeEntries sortEntries receipt.entries).Perm
        (DeviceCanonicalJson.treeEntries sortEntries held.asMap) := by
      rw [DeviceCanonicalJson.treeEntries_eq_map, DeviceCanonicalJson.treeEntries_eq_map]
      exact hperm.map _
    have hnodup : ((DeviceCanonicalJson.treeEntries sortEntries receipt.entries).map
        Prod.fst).Nodup := by
      rw [DeviceCanonicalJson.treeEntries_eq_map, List.map_map]
      exact receipt.nodup_keys
    rw [EdgeReceipt.canonicalJson, DeviceCanonicalJson.encode_eq, DeviceCanonicalJson.encode_eq,
      DeviceEdgeReceipt.value, Value.tree, Value.tree, JsObject.sortEntries_eq_of_perm hnodup hmembers]
  rw [← hsame]
  exact (DeviceCanonicalJson.encode_eq_canonicalDeviceJson_iff ⟨_, hheld⟩).mpr horder

/-- **What the contract accepts is read.**  Its JSON is parsed and read as a receipt with the same
    members, whose stored text is the contract's canonical JSON and is read as the same receipt. -/
theorem DeviceEdgeReceipt.read (reader : JsonReader) (receipt : DeviceEdgeReceipt) :
    ∃ held : EdgeReceipt,
      reader.parseToJsonElement (stringify receipt.value) =
        some (.object (toJsonEntries receipt.entries)) ∧
      fromWire (toJsonEntries receipt.entries) = some held ∧
      receipt.entries.Perm held.asMap ∧
      held.canonicalJson = canonicalDeviceJson receipt.value ∧
      fromStored reader held.canonicalJson = some held := by
  obtain ⟨held, hwf, hperm, hheld⟩ := receipt.exists_perm
  have hmembers : (toJsonEntries receipt.entries).Perm (toJsonEntries held.asMap) := by
    rw [DeviceCanonicalJson.toJsonEntries_eq_map, DeviceCanonicalJson.toJsonEntries_eq_map]
    exact hperm.map _
  have hvalid : (Json.object (toJsonEntries receipt.entries) : JsonElement).Valid := by
    rw [Json.Valid, JsonText.validMembers_iff]
    intro member hmember
    apply DeviceCanonicalJson.treeEntries_valid JsObject.sortEntries_perm held.asMap
    rw [treeEntries_asMap]
    exact hmembers.mem_iff.mp hmember
  exact ⟨held, reader.parse_print _ hvalid, fromWire_of_perm hwf hmembers, hperm,
    canonicalJson_eq receipt hperm hheld, fromStored_canonicalJson reader hwf⟩

end Sentinel.EdgeSubmission
