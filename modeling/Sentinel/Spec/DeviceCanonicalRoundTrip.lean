import Mathlib.Data.Set.Basic
import Mathlib.Data.Rat.Encodable
import Mathlib.Tactic.NormNum
import Sentinel.Native.DeviceCanonicalForm

/-! # Where `canonicalDeviceJson` is a canonical form

The text of a value gives the value back up to the order of keys, as long as no number is `-0`,
whose text is that of `0`.  The checks let an object that holds more than its properties through as
well. -/

namespace Sentinel.DeviceCanonicalForm

open Utf16 (ascii decimal arrayIndex? wellFormed)
open JsObject (sortEntries fromEntries)

variable {numerals : Numerals} {order order' : Properties → Properties}

/-! ## The parts of a value -/

mutual
def HostValue.Every (p : HostValue → Prop) : HostValue → Prop
  | .array genuine symbolKeyed cells named =>
    p (.array genuine symbolKeyed cells named) ∧ EveryCell p cells
  | .object plain constructorName symbolKeyed internal properties =>
    p (.object plain constructorName symbolKeyed internal properties) ∧ EveryProperty p properties
  | value => p value

def EveryCell (p : HostValue → Prop) : List (Descriptor × HostValue) → Prop
  | [] => True
  | (_, value) :: cells => value.Every p ∧ EveryCell p cells

def EveryProperty (p : HostValue → Prop) : Properties → Prop
  | [] => True
  | (_, _, value) :: properties => value.Every p ∧ EveryProperty p properties
end

theorem everyProperty_iff {p : HostValue → Prop} {properties : Properties} :
    EveryProperty p properties ↔ ∀ property ∈ properties, property.2.2.Every p := by
  induction properties with
  | nil => simp [EveryProperty]
  | cons property properties ih => rw [EveryProperty, ih, List.forall_mem_cons]

/-- Numbers are doubles, and the properties of an object have names and descriptors of their own. -/
def HostValue.Lawful : HostValue → Prop
  | .number (.finite value) => IsBinary64 value
  | .object _ _ _ _ properties => (properties.map Prod.fst).Nodup ∧
    ∀ property ∈ properties, property.2.1 ≠ .undefined
  | _ => True

structure RuntimeValue where
  value : HostValue
  lawful : value.Every HostValue.Lawful

/-- By prototype and properties, what JSON has: not `undefined`, a number that is not finite, an array
    with a hole, an object within itself or an object of another kind. -/
def HostValue.Shaped : HostValue → Prop
  | .undefined | .bigint | .symbol | .function | .enclosing => False
  | .number value => ∃ finite, value = .finite finite
  | .array genuine symbolKeyed cells named =>
    genuine = true ∧ symbolKeyed = false ∧ named = [] ∧ ∀ cell ∈ cells, cell.1 = .data
  | .object plain _ symbolKeyed _ properties =>
    plain = true ∧ symbolKeyed = false ∧ ∀ property ∈ properties, property.2.1 = .data
  | _ => True

/-- There is no more to an object than its properties. -/
def HostValue.Open : HostValue → Prop
  | .object _ _ _ internal _ => internal = false
  | _ => True

def HostValue.Signless (value : HostValue) : Prop := value ≠ .negativeZero

/-- What JSON can hold. -/
def HostValue.Held (value : HostValue) : Prop :=
  value.Every HostValue.Shaped ∧ value.Every HostValue.Open

/-! ## What the checks let through -/

mutual
theorem assertJsonSafe_eq_ok_iff (path : Text) : (value : HostValue) →
    value.Every HostValue.Lawful →
    (assertJsonSafe path value = .ok () ↔ value.Every HostValue.Shaped)
  | .null, _ | .boolean _, _ | .string _, _ | .negativeZero, _ => iff_of_true rfl trivial
  | .number (.finite value), _ => iff_of_true rfl ⟨value, rfl⟩
  | .number .nan, _ | .number .infinity, _ | .number .negInfinity, _ =>
    iff_of_false nofun fun ⟨_, h⟩ => nomatch h
  | .undefined, _ | .bigint, _ | .symbol, _ | .function, _ | .enclosing, _ => iff_of_false nofun id
  | .array genuine symbolKeyed cells named, h => by
    rw [assertJsonSafe.eq_def]
    dsimp only
    rw [Except.ite_error_eq_ok, Except.ite_error_eq_ok]
    cases named with
    | cons name named =>
      exact iff_of_false (fun h => nomatch h.2.2) fun h => nomatch h.1.2.2.1
    | nil =>
      rw [assertCells_eq_ok_iff path cells h.2 0]
      simp [HostValue.Every, HostValue.Shaped, and_assoc]
  | .object plain _ symbolKeyed _ properties, h => by
    rw [assertJsonSafe.eq_def]
    dsimp only
    rw [Except.ite_error_eq_ok, Except.ite_error_eq_ok,
      assertProperties_eq_ok_iff path properties h.2 h.1.2]
    simp [HostValue.Every, HostValue.Shaped, and_assoc]

theorem assertCells_eq_ok_iff (path : Text) : (cells : List (Descriptor × HostValue)) →
    EveryCell HostValue.Lawful cells → ∀ index,
    (assertCells path index cells = .ok () ↔
      (∀ cell ∈ cells, cell.1 = .data) ∧ EveryCell HostValue.Shaped cells)
  | [], _, _ => iff_of_true rfl ⟨nofun, trivial⟩
  | (descriptor, value) :: cells, h, index => by
    have hcells := assertCells_eq_ok_iff path cells h.2 (index + 1)
    rw [assertCells, Except.ite_error_eq_ok, Except.ite_error_eq_ok, Except.bind_eq_ok,
      List.forall_mem_cons, EveryCell]
    cases descriptor <;>
      simp [assertJsonSafe_eq_ok_iff _ value h.1, hcells, and_left_comm]

theorem assertProperties_eq_ok_iff (path : Text) : (properties : Properties) →
    EveryProperty HostValue.Lawful properties →
    (∀ property ∈ properties, property.2.1 ≠ .undefined) →
    (assertProperties path properties = .ok () ↔
      (∀ property ∈ properties, property.2.1 = .data) ∧ EveryProperty HostValue.Shaped properties)
  | [], _, _ => iff_of_true rfl ⟨nofun, trivial⟩
  | (key, descriptor, value) :: properties, h, hdefined => by
    rw [List.forall_mem_cons] at hdefined
    have hproperties := assertProperties_eq_ok_iff path properties h.2 hdefined.2
    rw [assertProperties, if_neg hdefined.1, Except.ite_error_eq_ok, Except.bind_eq_ok,
      List.forall_mem_cons, EveryProperty]
    cases descriptor with
    | undefined => exact absurd rfl hdefined.1
    | hidden => simp
    | data => simp [assertJsonSafe_eq_ok_iff _ value h.1, hproperties, and_left_comm]
end

/-! ## The order of keys -/

/-- One value up to the order of keys: built anew with all keys sorted, they are equal. -/
def HostValue.Alike (v w : HostValue) : Prop := v.rebuild sortEntries = w.rebuild sortEntries

theorem rebuildProperties_eq_map (properties : Properties) :
    rebuildProperties order properties =
      properties.map (Prod.map id (Prod.map id (HostValue.rebuild order))) := by
  induction properties with
  | nil => rfl
  | cons property properties ih => rw [rebuildProperties, ih, List.map_cons]; rfl

theorem rebuildProperties_keys (properties : Properties) :
    (rebuildProperties order properties).map Prod.fst = properties.map Prod.fst := by
  rw [rebuildProperties_eq_map, List.map_map]
  rfl

section Every

variable {p q : HostValue → Prop} (horder : ∀ properties, (order properties).Perm properties)
  (harray : ∀ genuine symbolKeyed cells named, q (.array genuine symbolKeyed cells named) →
    (p (.dense (rebuildCells order cells)) ↔ p (.array genuine symbolKeyed cells named)))
  (hobject : ∀ plain name symbolKeyed internal properties,
    q (.object plain name symbolKeyed internal properties) →
    (p (.fresh (order (rebuildProperties order properties))) ↔
      p (.object plain name symbolKeyed internal properties)))

include horder harray hobject

set_option linter.unusedSectionVars false

mutual
/-- What is true of the parts of a value and of those of the value built anew. -/
theorem every_rebuild : (value : HostValue) → value.Every q →
    ((value.rebuild order).Every p ↔ value.Every p)
  | .null, _ | .boolean _, _ | .string _, _ | .number _, _ | .negativeZero, _ | .undefined, _
  | .bigint, _ | .symbol, _ | .function, _ | .enclosing, _ => Iff.rfl
  | .array .., h => and_congr (harray _ _ _ _ h.1) (everyCell_rebuild _ h.2)
  | .object .., h => by
    rw [HostValue.rebuild, HostValue.fresh, HostValue.Every, HostValue.Every, everyProperty_iff,
      ← everyProperty_rebuild _ h.2, everyProperty_iff]
    exact and_congr (hobject _ _ _ _ _ h.1) (forall_congr' fun _ => by rw [(horder _).mem_iff])

theorem everyCell_rebuild : (cells : List (Descriptor × HostValue)) → EveryCell q cells →
    (EveryCell p (rebuildCells order cells) ↔ EveryCell p cells)
  | [], _ => Iff.rfl
  | (_, value) :: cells, h => and_congr (every_rebuild value h.1) (everyCell_rebuild cells h.2)

theorem everyProperty_rebuild : (properties : Properties) → EveryProperty q properties →
    (EveryProperty p (rebuildProperties order properties) ↔ EveryProperty p properties)
  | [], _ => Iff.rfl
  | (_, _, value) :: properties, h =>
    and_congr (every_rebuild value h.1) (everyProperty_rebuild properties h.2)
end

end Every

theorem signless_rebuild (horder : ∀ properties, (order properties).Perm properties)
    {q : HostValue → Prop} {value : HostValue} (h : value.Every q) :
    (value.rebuild order).Every HostValue.Signless ↔ value.Every HostValue.Signless :=
  every_rebuild horder (fun _ _ _ _ _ => iff_of_true nofun nofun)
    (fun _ _ _ _ _ _ => iff_of_true nofun nofun) value h

/-- What the checks let through is let through when it is built anew. -/
theorem held_rebuild (horder : ∀ properties, (order properties).Perm properties) {value : HostValue}
    (h : value.Every HostValue.Shaped) (hlawful : value.Every HostValue.Lawful) :
    (value.rebuild order).Every HostValue.Shaped ∧ (value.rebuild order).Every HostValue.Lawful := by
  have hdata : ∀ {properties : Properties}, (∀ property ∈ properties, property.2.1 = .data) →
      ∀ property ∈ order (rebuildProperties order properties), property.2.1 = .data := by
    intro properties hdata property hmem
    rw [(horder _).mem_iff, rebuildProperties_eq_map] at hmem
    obtain ⟨old, hold, rfl⟩ := List.mem_map.mp hmem
    exact hdata old hold
  have hcells : ∀ cells : List (Descriptor × HostValue), (∀ cell ∈ cells, cell.1 = .data) →
      ∀ cell ∈ rebuildCells order cells, cell.1 = .data := by
    intro cells
    induction cells with
    | nil => exact fun _ => nofun
    | cons cell cells ih =>
      rw [rebuildCells, List.forall_mem_cons, List.forall_mem_cons]
      exact fun h => ⟨h.1, ih h.2⟩
  constructor
  · refine (every_rebuild horder
      (fun _ _ _ _ h => iff_of_true ⟨rfl, rfl, rfl, hcells _ h.2.2.2⟩ h)
      (fun _ _ _ _ _ h => iff_of_true ⟨rfl, rfl, hdata h.2.2⟩ h) value h).mpr h
  · refine (every_rebuild horder (fun _ _ _ _ _ => Iff.rfl) (fun _ _ _ _ _ h => ?_) value h).mpr
      hlawful
    have hdefined : ∀ {l : Properties}, (∀ property ∈ l, property.2.1 = .data) →
        ∀ property ∈ l, property.2.1 ≠ .undefined := fun h property hmem hnone =>
      nomatch (h property hmem).symm.trans hnone
    refine and_congr ?_ (iff_of_true (hdefined (hdata h.2.2)) (hdefined h.2.2))
    rw [((horder _).map Prod.fst).nodup_iff, rebuildProperties_keys]

/-- The order depends on what the properties are, not on how they come. -/
def Settled (order : Properties → Properties) : Prop :=
  ∀ l m, (l.map Prod.fst).Nodup → l.Perm m → order l = order m

section Settled

variable (hsettled : Settled order) (horder : ∀ properties, (order' properties).Perm properties)

include hsettled horder

set_option linter.unusedSectionVars false

mutual
/-- By recursion on the value: at an object, both orders take the same properties. -/
theorem rebuild_rebuild : (value : HostValue) → value.Every HostValue.Lawful →
    (value.rebuild order').rebuild order = value.rebuild order
  | .null, _ | .boolean _, _ | .string _, _ | .number _, _ | .negativeZero, _ | .undefined, _
  | .bigint, _ | .symbol, _ | .function, _ | .enclosing, _ => rfl
  | .array .., h => congrArg HostValue.dense (rebuildCells_rebuildCells _ h.2)
  | .object _ _ _ _ properties, h => by
    have hproperties := rebuildProperties_rebuildProperties properties h.2
    have hperm := (horder (rebuildProperties order' properties)).map
      (Prod.map id (Prod.map id (HostValue.rebuild order)))
    rw [← rebuildProperties_eq_map, ← rebuildProperties_eq_map, hproperties] at hperm
    have hkeys : ((rebuildProperties order properties).map Prod.fst).Nodup :=
      @rebuildProperties_keys order properties ▸ h.1.1
    exact congrArg HostValue.fresh (hsettled _ _ hkeys hperm.symm).symm

theorem rebuildCells_rebuildCells : (cells : List (Descriptor × HostValue)) →
    EveryCell HostValue.Lawful cells →
    rebuildCells order (rebuildCells order' cells) = rebuildCells order cells
  | [], _ => rfl
  | (_, value) :: cells, h => by
    rw [rebuildCells, rebuildCells, rebuildCells, rebuild_rebuild value h.1,
      rebuildCells_rebuildCells cells h.2]

theorem rebuildProperties_rebuildProperties : (properties : Properties) →
    EveryProperty HostValue.Lawful properties →
    rebuildProperties order (rebuildProperties order' properties) =
      rebuildProperties order properties
  | [], _ => rfl
  | (_, _, value) :: properties, h => by
    rw [rebuildProperties, rebuildProperties, rebuildProperties, rebuild_rebuild value h.1,
      rebuildProperties_rebuildProperties properties h.2]
end

end Settled

theorem settled_sort : Settled sortEntries := fun _ _ => JsObject.sortEntries_eq_of_perm

theorem settled_listing : Settled listing := fun l m hkeys h =>
  congrArg (fromEntries arrayIndex?) (settled_sort l m hkeys h)

theorem listing_perm (properties : Properties) : (listing properties).Perm properties :=
  (JsObject.fromEntries_perm _ _).trans (JsObject.sortEntries_perm _)

/-- Values are alike when they have one canonical order. -/
theorem alike_iff_sortKeysDeep {v w : HostValue} (hv : v.Every HostValue.Lawful)
    (hw : w.Every HostValue.Lawful) : v.Alike w ↔ sortKeysDeep v = sortKeysDeep w := by
  constructor
  · intro h
    have hsorted := congrArg sortKeysDeep h
    rwa [sortKeysDeep, rebuild_rebuild settled_listing JsObject.sortEntries_perm v hv,
      rebuild_rebuild settled_listing JsObject.sortEntries_perm w hw] at hsorted
  · intro h
    have hsorted := congrArg (HostValue.rebuild sortEntries) h
    rwa [sortKeysDeep, rebuild_rebuild settled_sort listing_perm v hv,
      rebuild_rebuild settled_sort listing_perm w hw] at hsorted

/-! ## The text read back -/

mutual
theorem toJson_valid : (value : HostValue) → (value.toJson numerals).Valid
  | .boolean true | .boolean false | .null | .undefined | .bigint | .symbol | .function | .enclosing
  | .number .nan | .number .infinity | .number .negInfinity =>
    ⟨by decide, List.all_eq_true.mp rfl⟩
  | .number (.finite value) => ⟨numerals.ne_nil value, numerals.isLexeme value⟩
  | .negativeZero => ⟨numerals.ne_nil 0, numerals.isLexeme 0⟩
  | .string _ => trivial
  | .array _ _ cells _ => toJsonCells_valid cells
  | .object _ _ _ _ properties => toJsonProperties_valid properties

theorem toJsonCells_valid : (cells : List (Descriptor × HostValue)) →
    JsonText.ValidElements (toJsonCells numerals cells)
  | [] => trivial
  | (_, value) :: cells => ⟨toJson_valid value, toJsonCells_valid cells⟩

theorem toJsonProperties_valid : (properties : Properties) →
    JsonText.ValidMembers (toJsonProperties numerals properties)
  | [] => trivial
  | (_, _, value) :: properties => ⟨toJson_valid value, toJsonProperties_valid properties⟩
end

theorem isBinary64_zero : IsBinary64 0 := ⟨0, 0, by norm_num, by norm_num, by norm_num, by norm_num⟩

theorem ofJson_numeral {value : ℚ} (h : IsBinary64 value) :
    ofJson numerals (.literal (numerals.toString value)) = some (.number (.finite value)) := by
  have hne := numerals.ne_keyword value
  simp only [keywords, List.mem_cons, List.not_mem_nil, or_false, not_or] at hne
  rw [ofJson, if_neg hne.1, if_neg hne.2.1, if_neg hne.2.2, numerals.read_toString value h]

mutual
/-- The text of a value is read without a `-0`, and as the value where that has none. -/
theorem ofJson_toJson : (value : HostValue) → value.Every HostValue.Shaped →
    value.Every HostValue.Lawful →
    ∃ read, ofJson numerals (value.toJson numerals) = some read ∧ read.Every HostValue.Signless ∧
      (value.Every HostValue.Signless → read = value.rebuild (fromEntries arrayIndex?))
  | .null, _, _ => ⟨.null, rfl, nofun, fun _ => rfl⟩
  | .boolean true, _, _ => ⟨.boolean true, rfl, nofun, fun _ => rfl⟩
  | .boolean false, _, _ => ⟨.boolean false, rfl, nofun, fun _ => rfl⟩
  | .number (.finite value), _, h => ⟨_, ofJson_numeral h, nofun, fun _ => rfl⟩
  | .number .nan, h, _ | .number .infinity, h, _ | .number .negInfinity, h, _ => nomatch h.choose_spec
  | .negativeZero, _, _ => ⟨_, ofJson_numeral isBinary64_zero, nofun, fun h => absurd rfl h⟩
  | .string text, _, _ => ⟨.string text, rfl, nofun, fun _ => rfl⟩
  | .array _ _ cells _, hshaped, h => by
    obtain ⟨read, hread, hsignless, hsame⟩ := ofJsonElements_toJsonCells cells hshaped.1.2.2.2
      hshaped.2 h.2
    refine ⟨.dense read, ?_, ⟨nofun, hsignless⟩, fun hsign => congrArg HostValue.dense (hsame hsign.2)⟩
    rw [HostValue.toJson, ofJson, hread, Option.map_some]
  | .object _ _ _ _ properties, hshaped, h => by
    obtain ⟨read, hread, hsignless, hsame⟩ := ofJsonMembers_toJsonProperties properties
      hshaped.1.2.2 hshaped.2 h.2
    refine ⟨.fresh (fromEntries arrayIndex? read), ?_, ⟨nofun, ?_⟩, fun hsign => ?_⟩
    · rw [HostValue.toJson, ofJson, hread, Option.map_some]
    · rw [everyProperty_iff] at hsignless ⊢
      exact fun property hmem => hsignless property ((JsObject.fromEntries_perm _ _).mem_iff.mp hmem)
    · rw [hsame hsign.2]
      rfl

theorem ofJsonElements_toJsonCells : (cells : List (Descriptor × HostValue)) →
    (∀ cell ∈ cells, cell.1 = .data) → EveryCell HostValue.Shaped cells →
    EveryCell HostValue.Lawful cells →
    ∃ read, ofJsonElements numerals (toJsonCells numerals cells) = some read ∧
      EveryCell HostValue.Signless read ∧
      (EveryCell HostValue.Signless cells → read = rebuildCells (fromEntries arrayIndex?) cells)
  | [], _, _, _ => ⟨[], rfl, trivial, fun _ => rfl⟩
  | (descriptor, value) :: cells, hdata, hshaped, h => by
    obtain ⟨rfl, hrest⟩ := List.forall_mem_cons.mp hdata
    obtain ⟨first, hfirst, hsignless, hsame⟩ := ofJson_toJson value hshaped.1 h.1
    obtain ⟨rest, hread, hsignlesses, hsames⟩ := ofJsonElements_toJsonCells cells hrest hshaped.2 h.2
    refine ⟨(.data, first) :: rest, ?_, ⟨hsignless, hsignlesses⟩, fun hsign => ?_⟩
    · rw [toJsonCells, ofJsonElements, hfirst, hread]
      rfl
    · rw [hsame hsign.1, hsames hsign.2]
      rfl

theorem ofJsonMembers_toJsonProperties : (properties : Properties) →
    (∀ property ∈ properties, property.2.1 = .data) → EveryProperty HostValue.Shaped properties →
    EveryProperty HostValue.Lawful properties →
    ∃ read, ofJsonMembers numerals (toJsonProperties numerals properties) = some read ∧
      EveryProperty HostValue.Signless read ∧ (EveryProperty HostValue.Signless properties →
        read = rebuildProperties (fromEntries arrayIndex?) properties)
  | [], _, _, _ => ⟨[], rfl, trivial, fun _ => rfl⟩
  | (key, descriptor, value) :: properties, hdata, hshaped, h => by
    obtain ⟨rfl, hrest⟩ := List.forall_mem_cons.mp hdata
    obtain ⟨first, hfirst, hsignless, hsame⟩ := ofJson_toJson value hshaped.1 h.1
    obtain ⟨rest, hread, hsignlesses, hsames⟩ :=
      ofJsonMembers_toJsonProperties properties hrest hshaped.2 h.2
    refine ⟨(key, .data, first) :: rest, ?_, ⟨hsignless, hsignlesses⟩, fun hsign => ?_⟩
    · rw [toJsonProperties, ofJsonMembers, hfirst, hread]
      rfl
    · rw [hsame hsign.1, hsames hsign.2]
      rfl
end

/-! ## The canonical form -/

structure CanonicalForm (numerals : Numerals) (domain : Set RuntimeValue) : Prop where
  /-- What JSON cannot hold is refused. -/
  refuses : ∀ v ∈ domain, ¬ v.value.Held →
    ∃ message, canonicalDeviceJson numerals v.value = .error message
  /-- Two values have one text exactly when they are one up to the order of keys. -/
  text_eq_iff : ∀ v ∈ domain, ∀ w ∈ domain, ∀ s t, canonicalDeviceJson numerals v.value = .ok s →
    canonicalDeviceJson numerals w.value = .ok t → (s = t ↔ v.value.Alike w.value)
  /-- The text gives the value back, and what it gives has this text. -/
  reads_back : ∀ v ∈ domain, ∀ s, canonicalDeviceJson numerals v.value = .ok s →
    ∃ read, jsonParse numerals s = some read ∧ read.Alike v.value ∧
      canonicalDeviceJson numerals read = .ok s

theorem canonicalDeviceJson_eq_ok_iff (v : RuntimeValue) {s : Text} :
    canonicalDeviceJson numerals v.value = .ok s ↔
      v.value.Every HostValue.Shaped ∧ stringify numerals (sortKeysDeep v.value) = s := by
  rw [canonicalDeviceJson, Except.bind_eq_ok, ← assertJsonSafe_eq_ok_iff _ _ v.lawful]
  exact ⟨fun ⟨_, hchecks, htext⟩ => ⟨hchecks, Except.ok.inj htext⟩, fun ⟨hchecks, htext⟩ =>
    ⟨(), hchecks, congrArg Except.ok htext⟩⟩

/-- What is read from the text of a value that the checks let through. -/
theorem jsonParse_sortKeysDeep (v : RuntimeValue) (hshaped : v.value.Every HostValue.Shaped) :
    ∃ read, jsonParse numerals (stringify numerals (sortKeysDeep v.value)) = some read ∧
      read.Every HostValue.Signless ∧ (v.value.Every HostValue.Signless → read.Alike v.value ∧
        sortKeysDeep read = sortKeysDeep v.value ∧
        canonicalDeviceJson numerals read =
          .ok (stringify numerals (sortKeysDeep v.value))) := by
  obtain ⟨hsorted, hlawful⟩ := held_rebuild listing_perm hshaped v.lawful
  obtain ⟨read, hread, hsignless, hsame⟩ := @ofJson_toJson numerals _ hsorted hlawful
  refine ⟨read, ?_, hsignless, fun hsign => ?_⟩
  · rw [jsonParse, stringify, JsonText.parse_print wellFormed (toJson_valid _), Option.bind_some]
    exact hread
  · obtain rfl := hsame ((signless_rebuild listing_perm hshaped).mpr hsign)
    obtain ⟨hreadShaped, hreadLawful⟩ :=
      held_rebuild (JsObject.fromEntries_perm arrayIndex?) hsorted hlawful
    have hkeys : sortKeysDeep ((v.value.rebuild listing).rebuild (fromEntries arrayIndex?)) =
        sortKeysDeep v.value := by
      rw [sortKeysDeep, rebuild_rebuild settled_listing (JsObject.fromEntries_perm _) _ hlawful,
        rebuild_rebuild settled_listing listing_perm _ v.lawful]
    exact ⟨(alike_iff_sortKeysDeep hreadLawful v.lawful).mpr hkeys, hkeys,
      (canonicalDeviceJson_eq_ok_iff ⟨_, hreadLawful⟩).mpr ⟨hreadShaped, by rw [hkeys]⟩⟩

/-- **The canonical form.**  `canonicalDeviceJson` is a canonical form of the values of a domain exactly
    when no value there that has the shape of JSON holds a `-0`, or an object with more to it than its
    properties. -/
theorem canonicalForm_iff (numerals : Numerals) (domain : Set RuntimeValue) :
    CanonicalForm numerals domain ↔
      ∀ v ∈ domain, v.value.Every HostValue.Shaped →
        v.value.Every HostValue.Open ∧ v.value.Every HostValue.Signless := by
  constructor
  · intro h v hv hshaped
    have htext := (@canonicalDeviceJson_eq_ok_iff numerals v _).mpr ⟨hshaped, rfl⟩
    constructor
    · by_contra hclosed
      obtain ⟨message, hmessage⟩ := h.refuses v hv fun hheld => hclosed hheld.2
      exact nomatch htext.symm.trans hmessage
    · obtain ⟨read, hread, halike, -⟩ := h.reads_back v hv _ htext
      obtain ⟨read', hread', hsign, -⟩ := @jsonParse_sortKeysDeep numerals v hshaped
      cases hread.symm.trans hread'
      rw [← signless_rebuild JsObject.sortEntries_perm hshaped, ← halike]
      exact (signless_rebuild JsObject.sortEntries_perm hsign).mpr hsign
  · intro h
    refine ⟨fun v hv hnot => ?_, fun v hv w hw s t hs ht => ?_, fun v hv s hs => ?_⟩
    · cases hs : canonicalDeviceJson numerals v.value with
      | error message => exact ⟨message, rfl⟩
      | ok s =>
        have hshaped := ((canonicalDeviceJson_eq_ok_iff v).mp hs).1
        exact absurd ⟨hshaped, (h v hv hshaped).1⟩ hnot
    · obtain ⟨hv', rfl⟩ := (canonicalDeviceJson_eq_ok_iff v).mp hs
      obtain ⟨hw', rfl⟩ := (canonicalDeviceJson_eq_ok_iff w).mp ht
      rw [alike_iff_sortKeysDeep v.lawful w.lawful]
      refine ⟨fun hsame => ?_, fun hsame => by rw [hsame]⟩
      -- the two texts are read as one value, whose keys come in the order of both
      obtain ⟨read, hread, -, hvread⟩ := @jsonParse_sortKeysDeep numerals v hv'
      obtain ⟨read', hread', -, hwread⟩ := @jsonParse_sortKeysDeep numerals w hw'
      rw [← hsame, hread] at hread'
      cases hread'
      rw [← (hvread (h v hv hv').2).2.1, (hwread (h w hw hw').2).2.1]
    · obtain ⟨hshaped, rfl⟩ := (canonicalDeviceJson_eq_ok_iff v).mp hs
      obtain ⟨read, hread, -, hsame⟩ := @jsonParse_sortKeysDeep numerals v hshaped
      obtain ⟨halike, -, hagain⟩ := hsame (h v hv hshaped).2
      exact ⟨read, hread, halike, hagain⟩

/-! ## The numbers -/

/-- Numerals that agree with the runtime's on zero. -/
def plainNumeral (value : ℚ) : Text :=
  decimal ((Encodable.encode value : Int) - Encodable.encode (0 : ℚ))

open Classical in
noncomputable def Numerals.plain : Numerals where
  toString := plainNumeral
  read text := if h : ∃ value, plainNumeral value = text then some (.number (.finite h.choose)) else none
  ne_nil _ := Utf16.decimal_ne_nil _
  isLexeme _ _ h := Utf16.isLexeme_of_mem_decimal h
  ne_keyword value hmem := by
    have hwords : ∀ word ∈ keywords, ∃ text : List Char, word = ascii text ∧
        (∀ c ∈ text, c.toNat < 128) ∧ Decimal.value text = none := by
      simp only [keywords, List.forall_mem_cons]
      exact ⟨⟨_, rfl, by simp, by decide⟩, ⟨_, rfl, by simp, by decide⟩,
        ⟨_, rfl, by simp, by decide⟩, nofun⟩
    obtain ⟨text, hword, hascii, hnone⟩ := hwords _ hmem
    have hdigits := Utf16.ascii_inj (fun c hc => ?_) hascii hword
    · rw [← hdigits, Decimal.value_digits] at hnone
      cases hnone
    · have hlexeme := Decimal.isLexeme_of_mem_digits hc
      simp [JsonText.isLexeme] at hlexeme
      omega
  read_toString value _ := by
    have hexists : ∃ other, plainNumeral other = plainNumeral value := ⟨value, rfl⟩
    have hcode := Utf16.decimal_injective hexists.choose_spec
    have hsame : hexists.choose = value := Encodable.encode_injective (by omega)
    rw [dif_pos hexists, hsame]

/-- A domain with both zeros. -/
def zeros : Set RuntimeValue := {⟨.negativeZero, trivial⟩, ⟨.number (.finite 0), isBinary64_zero⟩}

/-- Both zeros have the text `0`. -/
theorem canonicalDeviceJson_negativeZero :
    canonicalDeviceJson Numerals.plain .negativeZero = .ok (ascii "0".toList) ∧
      canonicalDeviceJson Numerals.plain (.number (.finite 0)) = .ok (ascii "0".toList) ∧
      ¬ HostValue.negativeZero.Alike (.number (.finite 0)) ∧ ¬ CanonicalForm Numerals.plain zeros := by
  have hzero : plainNumeral 0 = ascii "0".toList := by rw [plainNumeral, sub_self]; rfl
  have htexts : canonicalDeviceJson Numerals.plain .negativeZero = .ok (ascii "0".toList) ∧
      canonicalDeviceJson Numerals.plain (.number (.finite 0)) = .ok (ascii "0".toList) := by
    rw [← hzero]
    exact ⟨rfl, rfl⟩
  refine ⟨htexts.1, htexts.2, nofun, fun h => ?_⟩
  have halike := (h.text_eq_iff _ (.inl rfl) _ (.inr rfl) _ _ htexts.1 htexts.2).mp rfl
  cases halike

end Sentinel.DeviceCanonicalForm
