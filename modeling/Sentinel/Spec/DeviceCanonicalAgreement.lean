import Sentinel.Native.DeviceCanonicalJson

/-! # The device and central write one text

Both encoders print one tree, with the entries of each object in the order of their sorted keys on
the device and in the order an object lists them on central. -/

namespace Sentinel.DeviceCanonicalJson

open Utf16 (isHighSurrogate isLowSurrogate ascii decimal arrayIndex? arrayIndex?_inj wellFormed)
open JsObject (sortEntries fromEntries)
open JsonText (Json)

/-! ## One printer -/

theorem hex_eq {digit : Nat} (h : digit < 16) :
    hex digit = CodeUnit.unit (JsonText.hexDigit digit) := by
  revert digit
  decide

theorem unicodeEscape_eq (c : UInt16) :
    unicodeEscape c =
      CodeUnit.unit 92 :: CodeUnit.unit 117 :: (JsonText.hex4 c.toNat).map CodeUnit.unit := by
  have hhex : ∀ n, hex (n % 16) = CodeUnit.unit (JsonText.hexDigit (n % 16)) := fun n =>
    hex_eq (Nat.mod_lt n (by omega))
  simp only [unicodeEscape, Nat.shiftRight_eq_div_pow, hhex, JsonText.hex4]
  rfl

theorem shortForm_eq (c : UInt16) :
    shortForm c = (JsonText.shortEscape c.toNat).map CodeUnit.unit := by
  have hunit : ∀ d : UInt16, c.toNat = d.toNat → c = d := fun _ => UInt16.toNat_inj.mp
  unfold JsonText.shortEscape
  split
  next h => rw [hunit 0x22 h]; rfl
  next h => rw [hunit 0x5c h]; rfl
  next h => rw [hunit 0x08 h]; rfl
  next h => rw [hunit 0x09 h]; rfl
  next h => rw [hunit 0x0a h]; rfl
  next h => rw [hunit 0x0c h]; rfl
  next h => rw [hunit 0x0d h]; rfl
  next hquote hslash hback htab hline hfeed hreturn =>
    have hne : ∀ d : UInt16, c.toNat ≠ d.toNat → c ≠ d := fun _ h hsame => h (by rw [hsame])
    simp only [shortForm, hne 0x22 hquote, hne 0x5c hslash, hne 0x08 hback, hne 0x09 htab,
      hne 0x0a hline, hne 0x0c hfeed, hne 0x0d hreturn, if_false, Option.map_none]

/-- A unit that is not the half of a pair is written as `JSON.stringify` writes it. -/
theorem writeUnit_eq (c : UInt16) :
    writeUnit c = JsonText.printUnit (c, isHighSurrogate c || isLowSurrogate c) := by
  have hcode : CodeUnit.code c = c.toNat := rfl
  rw [writeUnit, JsonText.printUnit, shortForm_eq, hcode]
  cases JsonText.shortEscape c.toNat with
  | some letter => rfl
  | none =>
    have hcontrol : c < 0x20 ↔ c.toNat < 32 := UInt16.lt_iff_toNat_lt
    simp only [Option.map_none, hcontrol, unicodeEscape_eq]
    by_cases hlow : c.toNat < 32
    · simp only [hlow, if_true, true_or]
    · by_cases hhigh : isHighSurrogate c = true
      · simp only [hlow, hhigh, Bool.true_or, if_true, if_false, or_true]
      · by_cases hpartner : isLowSurrogate c = true
        · simp only [hlow, hhigh, hpartner, Bool.or_true, Bool.false_eq_true, if_true, if_false,
            or_true]
        · simp [hlow, hhigh, hpartner]

/-- The halves of a pair stand as they are. -/
theorem printUnit_surrogate {c : UInt16} (h : 0xd800 ≤ c.toNat) :
    JsonText.printUnit (c, false) = [c] := by
  have hshort : JsonText.shortEscape (CodeUnit.code c) = none := by
    have hcode : 0xd800 ≤ CodeUnit.code c := h
    unfold JsonText.shortEscape
    split <;> first | omega | rfl
  have hcontrol : ¬ CodeUnit.code c < 32 := by
    have hcode : 0xd800 ≤ CodeUnit.code c := h
    omega
  rw [JsonText.printUnit, hshort]
  simp [hcontrol]

theorem writeUnits_eq (text : Text) :
    writeUnits text = (Utf16.markLone text).flatMap JsonText.printUnit := by
  fun_induction Utf16.markLone text with
  | case1 => rfl
  | case2 c => rw [writeUnits, writeUnit_eq, List.flatMap_singleton]
  | case3 c low rest hpair ih =>
    have hhigh : 0xd800 ≤ c.toNat := by
      have h := hpair.1
      simp [isHighSurrogate] at h
      omega
    have hlow : 0xd800 ≤ low.toNat := by
      have h := hpair.2
      simp [isLowSurrogate] at h
      omega
    rw [writeUnits, if_pos hpair, ih, List.flatMap_cons, List.flatMap_cons,
      printUnit_surrogate hhigh, printUnit_surrogate hlow]
    rfl
  | case4 c low rest hpair ih =>
    rw [writeUnits, if_neg hpair, ih, writeUnit_eq, List.flatMap_cons]

theorem writeString_eq (text : Text) :
    writeString text = JsonText.printString wellFormed text := by
  rw [writeString, writeUnits_eq]
  rfl

/-! ## One tree -/

/-- An order in which an encoder takes the entries of an object. -/
abbrev Listing := List (Text × Json UInt16) → List (Text × Json UInt16)

mutual
/-- A value as JSON, with the entries of each object in a given order. -/
def Value.tree (order : Listing) : Value → Json UInt16
  | .null => .literal (ascii "null".toList)
  | .boolean value => .literal (ascii (if value then "true" else "false").toList)
  | .integer value => .literal (decimal value)
  | .string text => .string text
  | .list elements => .array (treeElements order elements)
  | .map entries => .object (order (treeEntries order entries))

def treeElements (order : Listing) : List Value → List (Json UInt16)
  | [] => []
  | element :: elements => element.tree order :: treeElements order elements

def treeEntries (order : Listing) : List (Text × Value) → List (Text × Json UInt16)
  | [] => []
  | (key, value) :: entries => (key, value.tree order) :: treeEntries order entries
end

theorem treeElements_eq_map (order : Listing) (elements : List Value) :
    treeElements order elements = elements.map (Value.tree order) := by
  induction elements with
  | nil => rfl
  | cons element elements ih => rw [treeElements, ih, List.map_cons]

theorem treeEntries_eq_map (order : Listing) (entries : List (Text × Value)) :
    treeEntries order entries = entries.map (Prod.map id (Value.tree order)) := by
  induction entries with
  | nil => rfl
  | cons entry entries ih => rw [treeEntries, ih, List.map_cons]; rfl

mutual
theorem encode_eq : (value : Value) →
    encode value = JsonText.print wellFormed (value.tree sortEntries)
  | .null => rfl
  | .boolean _ => rfl
  | .integer _ => rfl
  | .string text => writeString_eq text
  | .list elements => by
    rw [encode, Value.tree, JsonText.print, encodeElements_eq]
    rfl
  | .map entries => by
    have hmembers : ∀ members : List (Text × Json UInt16),
        JsonText.printMembers wellFormed members = (members.map (Prod.map id (JsonText.print wellFormed))).map
          fun (key, text) => writeString key ++ 0x3a :: text := by
      intro members
      induction members with
      | nil => rfl
      | cons member members ih => rw [JsonText.printMembers, ih, ← writeString_eq]; rfl
    rw [encode, Value.tree, JsonText.print, encodeEntries_eq, JsObject.sortEntries_map, hmembers]
    rfl

theorem encodeElements_eq : (elements : List Value) →
    encodeElements elements =
      JsonText.printElements wellFormed (treeElements sortEntries elements)
  | [] => rfl
  | element :: elements => by
    rw [encodeElements, treeElements, JsonText.printElements, encode_eq element,
      encodeElements_eq elements]

theorem encodeEntries_eq : (entries : List (Text × Value)) →
    encodeEntries entries =
      (treeEntries sortEntries entries).map (Prod.map id (JsonText.print wellFormed))
  | [] => rfl
  | (key, value) :: entries => by
    rw [encodeEntries, treeEntries, List.map_cons, encode_eq value, encodeEntries_eq entries]
    rfl
end

def listed : Listing := fun entries => fromEntries arrayIndex? (sortEntries entries)

theorem toJsonEntries_eq_map (entries : List (Text × Value)) :
    toJsonEntries entries = entries.map (Prod.map id Value.toJson) := by
  induction entries with
  | nil => rfl
  | cons entry entries ih => rw [toJsonEntries, ih, List.map_cons]; rfl

mutual
/-- Central prints the tree with its entries as an object lists them. -/
theorem toJson_sortKeysDeep : (value : Value) → (sortKeysDeep value).toJson = value.tree listed
  | .null => rfl
  | .boolean _ => rfl
  | .integer _ => rfl
  | .string _ => rfl
  | .list elements => by
    rw [sortKeysDeep, Value.toJson, Value.tree, toJsonElements_sortKeysElements]
  | .map entries => by
    rw [sortKeysDeep, Value.toJson, Value.tree, toJsonEntries_eq_map, ← JsObject.fromEntries_map,
      ← JsObject.sortEntries_map, ← toJsonEntries_eq_map, toJsonEntries_sortKeysEntries]
    rfl

theorem toJsonElements_sortKeysElements : (elements : List Value) →
    toJsonElements (sortKeysElements elements) = treeElements listed elements
  | [] => rfl
  | element :: elements => by
    rw [sortKeysElements, toJsonElements, treeElements, toJson_sortKeysDeep element,
      toJsonElements_sortKeysElements elements]

theorem toJsonEntries_sortKeysEntries : (entries : List (Text × Value)) →
    toJsonEntries (sortKeysEntries entries) = treeEntries listed entries
  | [] => rfl
  | (key, value) :: entries => by
    rw [sortKeysEntries, toJsonEntries, treeEntries, toJson_sortKeysDeep value,
      toJsonEntries_sortKeysEntries entries]
end

theorem listed_perm (entries : List (Text × Json UInt16)) : (listed entries).Perm entries :=
  (JsObject.fromEntries_perm _ _).trans (JsObject.sortEntries_perm _)

/-! ## When the two trees are one -/

mutual
/-- In each object of a value, an array index comes before the larger ones and before every other
    key, in the order of the sorted keys. -/
def Value.KeysInOrder : Value → Prop
  | .null | .boolean _ | .integer _ | .string _ => True
  | .list elements => ElementsInOrder elements
  | .map entries => JsObject.KeysInOrder arrayIndex? (entries.map Prod.fst) ∧ EntriesInOrder entries

def ElementsInOrder : List Value → Prop
  | [] => True
  | element :: elements => element.KeysInOrder ∧ ElementsInOrder elements

def EntriesInOrder : List (Text × Value) → Prop
  | [] => True
  | (_, value) :: entries => value.KeysInOrder ∧ EntriesInOrder entries
end

theorem entriesInOrder_iff {entries : List (Text × Value)} :
    EntriesInOrder entries ↔ ∀ entry ∈ entries, entry.2.KeysInOrder := by
  induction entries with
  | nil => simp [EntriesInOrder]
  | cons entry entries ih => rw [EntriesInOrder, ih, List.forall_mem_cons]

mutual
theorem tree_valid {order : Listing} (horder : ∀ entries, (order entries).Perm entries) :
    (value : Value) → (value.tree order).Valid
  | .null => ⟨by decide, List.all_eq_true.mp rfl⟩
  | .boolean true => ⟨by decide, List.all_eq_true.mp rfl⟩
  | .boolean false => ⟨by decide, List.all_eq_true.mp rfl⟩
  | .integer value => ⟨Utf16.decimal_ne_nil value, fun _ h => Utf16.isLexeme_of_mem_decimal h⟩
  | .string _ => trivial
  | .list elements => by
    rw [Value.tree, Json.Valid, JsonText.validElements_iff]
    exact treeElements_valid horder elements
  | .map entries => by
    rw [Value.tree, Json.Valid, JsonText.validMembers_iff]
    exact fun member hmember =>
      treeEntries_valid horder entries member ((horder _).mem_iff.mp hmember)

theorem treeElements_valid {order : Listing} (horder : ∀ entries, (order entries).Perm entries) :
    (elements : List Value) → ∀ element ∈ treeElements order elements, element.Valid
  | [] => fun _ h => nomatch h
  | element :: elements => by
    rw [treeElements, List.forall_mem_cons]
    exact ⟨tree_valid horder element, treeElements_valid horder elements⟩

theorem treeEntries_valid {order : Listing} (horder : ∀ entries, (order entries).Perm entries) :
    (entries : List (Text × Value)) → ∀ entry ∈ treeEntries order entries, entry.2.Valid
  | [] => fun _ h => nomatch h
  | (key, value) :: entries => by
    rw [treeEntries, List.forall_mem_cons]
    exact ⟨tree_valid horder value, treeEntries_valid horder entries⟩
end

mutual
/-- By recursion on the value: at an object, the two listings and the values under them. -/
theorem tree_eq_iff : (value : Value) → value.Held →
    (value.tree sortEntries = value.tree listed ↔ value.KeysInOrder)
  | .null, _ => iff_of_true rfl trivial
  | .boolean _, _ => iff_of_true rfl trivial
  | .integer _, _ => iff_of_true rfl trivial
  | .string _, _ => iff_of_true rfl trivial
  | .list elements, h => by
    rw [Value.tree, Value.tree, Json.array.injEq, Value.KeysInOrder]
    exact treeElements_eq_iff elements h
  | .map entries, h => by
    have hsorted : sortEntries entries ⊆ entries := (JsObject.sortEntries_perm entries).subset
    have hlisted : fromEntries arrayIndex? (sortEntries entries) ⊆ entries := fun _ hmem =>
      hsorted ((JsObject.fromEntries_perm _ _).subset hmem)
    rw [Value.tree, Value.tree, Json.object.injEq, Value.KeysInOrder, listed, treeEntries_eq_map,
      treeEntries_eq_map, JsObject.sortEntries_map, JsObject.sortEntries_map,
      JsObject.fromEntries_map, JsObject.map_eq_map_iff h.1 hsorted hlisted, eq_comm,
      JsObject.fromEntries_sortEntries_eq_iff arrayIndex?_inj h.1, entriesInOrder_iff]
    refine and_congr_right fun _ => ?_
    have hvalues := treeEntries_eq_iff entries h.2
    constructor
    · intro hsame entry hentry
      have hmem : entry ∈ fromEntries arrayIndex? (sortEntries entries) :=
        (JsObject.fromEntries_perm _ _).mem_iff.mpr
          ((JsObject.sortEntries_perm entries).mem_iff.mpr hentry)
      exact (hvalues entry hentry).mp (hsame entry hmem)
    · exact fun hsame entry hentry => (hvalues entry (hlisted hentry)).mpr (hsame entry (hlisted hentry))

theorem treeElements_eq_iff : (elements : List Value) → HeldElements elements →
    (treeElements sortEntries elements = treeElements listed elements ↔ ElementsInOrder elements)
  | [], _ => iff_of_true rfl trivial
  | element :: elements, h => by
    rw [treeElements, treeElements, List.cons.injEq, ElementsInOrder, tree_eq_iff element h.1,
      treeElements_eq_iff elements h.2]

theorem treeEntries_eq_iff : (entries : List (Text × Value)) → HeldEntries entries →
    ∀ entry ∈ entries,
      (entry.2.tree sortEntries = entry.2.tree listed ↔ entry.2.KeysInOrder)
  | [], _ => fun _ h => nomatch h
  | (key, value) :: entries, h => by
    rw [List.forall_mem_cons]
    exact ⟨tree_eq_iff value h.1, treeEntries_eq_iff entries h.2⟩
end

/-! ## When the two texts are one -/

/-- **One text on both sides.**  The device signs the text that central verifies exactly when each
    object of the value has its array indices in order. -/
theorem encode_eq_canonicalDeviceJson_iff (held : HeldValue) :
    encode held.value = canonicalDeviceJson held.value ↔ held.value.KeysInOrder := by
  rw [encode_eq, canonicalDeviceJson, stringify, toJson_sortKeysDeep,
    ← tree_eq_iff held.value held.held]
  constructor
  · exact JsonText.print_injective wellFormed (tree_valid JsObject.sortEntries_perm held.value)
      (tree_valid listed_perm held.value)
  · intro h
    rw [h]

/-- A payload under the keys `9` and `10`. -/
def numbered : HeldValue where
  value := .map [(ascii "9".toList, .string (ascii "nine".toList)), (ascii "10".toList, .integer 10)]
  held := ⟨by decide, trivial, show (10 : Int).natAbs ≤ 2 ^ 53 - 1 by decide, trivial⟩

/-- The device writes the entry of `10` first, and central that of `9`. -/
theorem encode_numbered :
    encode numbered.value = ascii "\x7b\"10\":10,\"9\":\"nine\"\x7d".toList ∧
      canonicalDeviceJson numbered.value = ascii "\x7b\"9\":\"nine\",\"10\":10\x7d".toList ∧
      encode numbered.value ≠ canonicalDeviceJson numbered.value := by
  decide

end Sentinel.DeviceCanonicalJson
