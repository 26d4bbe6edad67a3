import Sentinel.Native.DecisionLedger

/-! # Hash and link of a ledger chain

What `verifyChain` accepts, and what the canonical text of an entry keeps of a value that goes
through a JSON column. -/

namespace Sentinel.DecisionLedger

open Utf16 (ascii arrayIndex?)
open JsObject (sortEntries fromEntries)

/-! ## The canonical form of a JSON value -/

mutual
/-- `canonicalise`, on what `JSON.parse` gives. -/
def canonJson : Json → Json
  | .literal lexeme => .literal lexeme
  | .string text => .string text
  | .array elements => .array (canonElements elements)
  | .object members => .object (fromEntries arrayIndex? (sortEntries (canonMembers members)))

def canonElements : List Json → List Json
  | [] => []
  | element :: elements => canonJson element :: canonElements elements

def canonMembers : List (Text × Json) → List (Text × Json)
  | [] => []
  | (key, value) :: members =>
    if key = protoKey then canonMembers members else (key, canonJson value) :: canonMembers members
end

mutual
theorem canonicalised_ofJson : (json : Json) →
    (JsValue.ofJson json).canonicalised = some (canonJson json)
  | .literal _ => rfl
  | .string _ => rfl
  | .array elements => by
    rw [JsValue.ofJson, JsValue.canonicalised, canonicalisedElements_ofJson elements, canonJson]
  | .object members => by
    rw [JsValue.ofJson, JsValue.canonicalised, canonicalisedOwn_ofJson members, canonJson]

theorem canonicalisedElements_ofJson : (elements : List Json) →
    canonicalisedElements (ofJsonElements elements) = canonElements elements
  | [] => rfl
  | element :: elements => by
    rw [ofJsonElements, canonicalisedElements, canonicalised_ofJson element,
      canonicalisedElements_ofJson elements, canonElements, Option.getD_some]

theorem canonicalisedOwn_ofJson : (members : List (Text × Json)) →
    canonicalisedOwn (ofJsonMembers members) = canonMembers members
  | [] => rfl
  | (key, value) :: members => by
    rw [ofJsonMembers, canonicalisedOwn, canonicalised_ofJson value,
      canonicalisedOwn_ofJson members, canonMembers]
end

/-! ## Values that a JSON column keeps -/

mutual
/-- Wherever `JSON.stringify` replaces an object through its `toJSON`, what it writes has the canonical
    form of the object's own properties. -/
def JsValue.Faithful : JsValue → Prop
  | .absent | .literal _ | .notFinite | .string _ => True
  | .array elements => FaithfulElements elements
  | .object own => FaithfulOwn own
  | .converted own json => (JsValue.object own).canonicalised = json.map canonJson
  | .converting copy json => copy = json.map canonJson

def FaithfulElements : List JsValue → Prop
  | [] => True
  | element :: elements => element.Faithful ∧ FaithfulElements elements

def FaithfulOwn : List (Text × JsValue) → Prop
  | [] => True
  | (key, value) :: own => (key = protoKey ∨ value.Faithful) ∧ FaithfulOwn own
end

mutual
/-- The canonical form of a value is that of what the column gives back. -/
theorem canonicalised_eq : (value : JsValue) → value.Faithful →
    value.canonicalised = value.stringified.map canonJson
  | .absent, _ => rfl
  | .literal _, _ => rfl
  | .notFinite, _ => rfl
  | .string _, _ => rfl
  | .array elements, h => by
    rw [JsValue.canonicalised, JsValue.stringified, canonicalisedElements_eq elements h]
    rfl
  | .object own, h => by
    rw [JsValue.canonicalised, JsValue.stringified, canonicalisedOwn_eq own h]
    rfl
  | .converted _ _, h => h
  | .converting _ _, h => h

theorem canonicalisedElements_eq : (elements : List JsValue) → FaithfulElements elements →
    canonicalisedElements elements = canonElements (stringifiedElements elements)
  | [], _ => rfl
  | element :: elements, h => by
    rw [canonicalisedElements, stringifiedElements, canonElements, canonicalised_eq element h.1,
      canonicalisedElements_eq elements h.2]
    cases element.stringified with
    | none => rfl
    | some json => rfl

theorem canonicalisedOwn_eq : (own : List (Text × JsValue)) → FaithfulOwn own →
    canonicalisedOwn own = canonMembers (stringifiedOwn own)
  | [], _ => rfl
  | (key, value) :: own, h => by
    have hrest := canonicalisedOwn_eq own h.2
    rw [canonicalisedOwn, stringifiedOwn]
    cases h.1 with
    | inl hproto =>
      -- a property `__proto__` is in neither form, whatever its value
      cases value.canonicalised <;> cases value.stringified <;>
        simp only [hproto, if_true, canonMembers, hrest]
    | inr hvalue =>
      rw [canonicalised_eq value hvalue]
      cases value.stringified with
      | none => exact hrest
      | some json => simp only [Option.map_some, canonMembers, hrest]
end

/-- An object's canonical form depends on those of its properties. -/
theorem canonicalisedOwn_congr {own own' : List (Text × JsValue)}
    (h : own.map (Prod.map id JsValue.canonicalised) = own'.map (Prod.map id JsValue.canonicalised)) :
    canonicalisedOwn own = canonicalisedOwn own' := by
  induction own generalizing own' with
  | nil => rw [List.map_eq_nil_iff.mp h.symm]
  | cons property own ih =>
    cases own' with
    | nil => cases h
    | cons property' own' =>
      obtain ⟨key, value⟩ := property
      obtain ⟨key', value'⟩ := property'
      rw [List.map_cons, List.map_cons, List.cons.injEq] at h
      obtain ⟨hproperty, hrest⟩ := h
      have hkey : key = key' := congrArg Prod.fst hproperty
      have hvalue : value.canonicalised = value'.canonicalised := congrArg Prod.snd hproperty
      rw [canonicalisedOwn, canonicalisedOwn, hkey, hvalue, ih hrest]

/-! ## What `verifyChain` accepts -/

section

variable {δ : Type} {hash : Text → δ}

/-- Each row names the content hash of the row before it. -/
def Linked : Option δ → List (LedgerRow δ) → Prop
  | _, [] => True
  | previousHash, row :: rows => row.previousHash = previousHash ∧ Linked (some row.contentHash) rows

/-- A row's content hash is that of its own columns. -/
def InsertLedgerEntryData.Intact (hash : Text → δ) (data : InsertLedgerEntryData δ) : Prop :=
  data.contentHash = computeContentHash hash data.hashableFields

theorem verifyEntries_valid_iff [DecidableEq δ] {expected : Option δ} {checked n : Nat}
    {rows : List (LedgerRow δ)} :
    verifyEntries hash expected checked rows = .valid n ↔
      Linked expected rows ∧ (∀ row ∈ rows, row.Intact hash) ∧ n = checked + rows.length := by
  induction rows generalizing expected checked with
  | nil => simp [verifyEntries, Linked, eq_comm]
  | cons row rows ih =>
    rw [verifyEntries, Linked, List.forall_mem_cons, List.length_cons]
    by_cases hintact : row.Intact hash
    · have hsame : computeContentHash hash row.hashableFields = row.contentHash := hintact.symm
      by_cases hlink : row.previousHash = expected
      · simp only [hsame, hlink, ne_eq, not_true_eq_false, if_false, ih, hintact, true_and]
        rw [Nat.add_assoc, Nat.add_comm 1]
      · simp [hsame, hlink]
    · have hsame : computeContentHash hash row.hashableFields ≠ row.contentHash :=
        fun h => hintact h.symm
      simp [hsame, hintact]

end

end Sentinel.DecisionLedger
