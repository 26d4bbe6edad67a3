import Sentinel.ForStd.List
import Sentinel.Spec.LedgerChain

/-! # What a verified ledger chain proves

The content hash of a row determines the columns it covers.  It leaves out the link to the row before
it, so that the head of a chain says nothing about the rows before: any contents, linked again, verify. -/

namespace Sentinel.DecisionLedger

open Utf16 (ascii decimal arrayIndex?)
open JsObject (sortEntries fromEntries present)

/-! ## Canonical forms are valid JSON -/

mutual
theorem canonJson_valid : (json : Json) → json.Valid → (canonJson json).Valid
  | .literal _, h => h
  | .string _, _ => trivial
  | .array elements, h => by
    rw [canonJson, JsonText.Json.Valid, JsonText.validElements_iff]
    exact canonElements_valid elements h
  | .object members, h => by
    rw [canonJson, JsonText.Json.Valid, JsonText.validMembers_iff]
    intro member hmember
    have hperm := (JsObject.fromEntries_perm arrayIndex? _).trans
      (JsObject.sortEntries_perm (canonMembers members))
    exact canonMembers_valid members h member (hperm.mem_iff.mp hmember)

theorem canonElements_valid : (elements : List Json) → JsonText.ValidElements elements →
    ∀ element ∈ canonElements elements, element.Valid
  | [], _ => fun _ h => nomatch h
  | element :: elements, h => by
    rw [canonElements, List.forall_mem_cons]
    exact ⟨canonJson_valid element h.1, canonElements_valid elements h.2⟩

theorem canonMembers_valid : (members : List (Text × Json)) → JsonText.ValidMembers members →
    ∀ member ∈ canonMembers members, member.2.Valid
  | [], _ => fun _ h => nomatch h
  | (key, value) :: members, h => by
    rw [canonMembers]
    split
    · exact canonMembers_valid members h.2
    · rw [List.forall_mem_cons]
      exact ⟨canonJson_valid value h.1, canonMembers_valid members h.2⟩
end

/-! ## The canonical text of an object -/

theorem canonicalisedOwn_eq_present {own : List (Text × JsValue)}
    (hproto : ∀ property ∈ own, property.1 ≠ protoKey) :
    canonicalisedOwn own = present (own.map (Prod.map id JsValue.canonicalised)) := by
  induction own with
  | nil => rfl
  | cons property own ih =>
    obtain ⟨key, value⟩ := property
    have hkey : key ≠ protoKey := hproto _ List.mem_cons_self
    have hrest := ih fun property hmem => hproto property (List.mem_cons_of_mem _ hmem)
    rw [canonicalisedOwn]
    cases hvalue : value.canonicalised with
    | none => simp [present, hvalue, hrest]
    | some json => simp [present, hvalue, hrest, hkey]

/-- An object's own properties have valid canonical forms. -/
def ValidOwn (own : List (Text × JsValue)) : Prop :=
  ∀ property ∈ own, ∀ json, property.2.canonicalised = some json → json.Valid

theorem canonicalJson_object_inj {own own' : List (Text × JsValue)}
    (hkeys : own.map Prod.fst = own'.map Prod.fst) (hnodup : (own.map Prod.fst).Nodup)
    (hproto : protoKey ∉ own.map Prod.fst) (hvalid : ValidOwn own) (hvalid' : ValidOwn own')
    (h : canonicalJson (.object own) = canonicalJson (.object own')) :
    own.map (Prod.map id JsValue.canonicalised) = own'.map (Prod.map id JsValue.canonicalised) := by
  have hpresent {l : List (Text × JsValue)} (hl : protoKey ∉ l.map Prod.fst) :
      canonicalisedOwn l = present (l.map (Prod.map id JsValue.canonicalised)) :=
    canonicalisedOwn_eq_present fun property hmem heq =>
      hl (heq ▸ List.mem_map_of_mem hmem)
  have htree {l : List (Text × JsValue)} (hl : protoKey ∉ l.map Prod.fst) (hv : ValidOwn l) :
      (JsonText.Json.object (fromEntries arrayIndex? (sortEntries (canonicalisedOwn l)))).Valid := by
    rw [JsonText.Json.Valid, JsonText.validMembers_iff]
    intro member hmember
    have hperm := (JsObject.fromEntries_perm arrayIndex? _).trans
      (JsObject.sortEntries_perm (canonicalisedOwn l))
    rw [hperm.mem_iff, hpresent hl] at hmember
    obtain ⟨property, hproperty, heq⟩ := List.mem_map.mp (JsObject.mem_present.mp hmember)
    exact hv property hproperty member.2 (congrArg Prod.snd heq)
  have hproto' : protoKey ∉ own'.map Prod.fst := by rwa [← hkeys]
  have hobject := JsonText.print_injective Utf16.wellFormed (htree hproto hvalid)
    (htree hproto' hvalid') h
  rw [JsonText.Json.object.injEq, hpresent hproto, hpresent hproto'] at hobject
  have hlisted (l : List (Text × Json)) : (fromEntries arrayIndex? (sortEntries l)).Perm l :=
    (JsObject.fromEntries_perm arrayIndex? _).trans (JsObject.sortEntries_perm l)
  have hperm := hlisted (present (own.map (Prod.map id JsValue.canonicalised)))
  rw [hobject] at hperm
  replace hperm := hperm.symm.trans (hlisted _)
  have hfst (l : List (Text × JsValue)) :
      (l.map (Prod.map id JsValue.canonicalised)).map Prod.fst = l.map Prod.fst := by
    rw [List.map_map]
    rfl
  apply (JsObject.present_perm_iff _ _).mp hperm
  · rw [hfst, hfst, hkeys]
  · rw [hfst]
    exact hnodup

/-! ## One content hash, one content -/

section

variable {δ : Type} {hash : Text → δ}

/-- The columns that the content hash covers agree, those of JSON up to the order of keys. -/
structure SameContent (row row' : InsertLedgerEntryData δ) : Prop where
  schemaVersion : row.schemaVersion = row'.schemaVersion
  entryId : row.entryId = row'.entryId
  organisationId : row.organisationId = row'.organisationId
  decidedAt : row.decidedAt = row'.decidedAt
  decisionType : row.decisionType = row'.decisionType
  inputsSnapshot : canonJson row.inputsSnapshot = canonJson row'.inputsSnapshot
  ruleOrModelVersions : row.ruleOrModelVersions = row'.ruleOrModelVersions
  policyVersion : row.policyVersion = row'.policyVersion
  evidenceFor : row.evidenceFor = row'.evidenceFor
  evidenceAgainst : row.evidenceAgainst = row'.evidenceAgainst
  confidence : row.confidence = row'.confidence
  approvals : canonJson row.approvals = canonJson row'.approvals
  actionTaken : row.actionTaken = row'.actionTaken
  outcome : row.outcome = row'.outcome
  traceId : row.traceId = row'.traceId
  supersedesEntryId : row.supersedesEntryId = row'.supersedesEntryId

structure HoldsJson (row : InsertLedgerEntryData δ) : Prop where
  inputsSnapshot : row.inputsSnapshot.Valid
  approvals : row.approvals.Valid

/-- The properties of the object that is hashed. -/
def ownOf (entry : HashableLedgerEntry) : List (Text × JsValue) :=
  match entry.toJs with
  | .object own => own
  | _ => []

theorem textArray_inj {texts texts' : List Text}
    (h : (textArray texts).canonicalised = (textArray texts').canonicalised) : texts = texts' := by
  have helements (l : List Text) : canonicalisedElements (l.map .string) = l.map .string := by
    induction l with
    | nil => rfl
    | cons text l ih => rw [List.map_cons, canonicalisedElements, ih]; rfl
  rw [textArray, textArray, JsValue.canonicalised, JsValue.canonicalised, helements, helements,
    Option.some.injEq, JsonText.Json.array.injEq] at h
  exact List.map_injective_iff.mpr (fun a b hab => JsonText.Json.string.inj hab) h

theorem nullableText_inj {text text' : Option Text}
    (h : (nullableText text).canonicalised = (nullableText text').canonicalised) : text = text' := by
  cases text with
  | none =>
    cases text' with
    | none => rfl
    | some text' => cases h
  | some text =>
    cases text' with
    | none => cases h
    | some text' => rw [JsonText.Json.string.inj (Option.some.inj h)]

def confidenceJs (confidence : Option Number) : JsValue :=
  confidence.elim (.literal (ascii "null".toList)) fun number => .literal number.text

theorem confidenceJs_inj {confidence confidence' : Option Number}
    (h : (confidenceJs confidence).canonicalised = (confidenceJs confidence').canonicalised) :
    confidence = confidence' := by
  cases confidence with
  | none =>
    cases confidence' with
    | none => rfl
    | some number => exact absurd (JsonText.Json.literal.inj (Option.some.inj h)).symm number.ne_null
  | some number =>
    cases confidence' with
    | none => exact absurd (JsonText.Json.literal.inj (Option.some.inj h)) number.ne_null
    | some number' =>
      have htext : number.text = number'.text := JsonText.Json.literal.inj (Option.some.inj h)
      cases number
      cases number'
      cases htext
      rfl

theorem validOwn_ownOf {row : InsertLedgerEntryData δ} (h : HoldsJson row) :
    ValidOwn (ownOf row.hashableFields) := by
  have hliteral (n : Int) (json : Json)
      (hjson : (JsValue.literal (decimal n)).canonicalised = some json) : json.Valid := by
    rw [← Option.some.inj hjson]
    exact ⟨Utf16.decimal_ne_nil n, fun _ h => Utf16.isLexeme_of_mem_decimal h⟩
  have hnull : nullJson.Valid := ⟨by decide, List.all_eq_true.mp rfl⟩
  have hstring (text : Text) (json : Json)
      (hjson : (JsValue.string text).canonicalised = some json) : json.Valid := by
    rw [← Option.some.inj hjson]
    exact trivial
  have htexts (texts : List Text) (json : Json)
      (hjson : (textArray texts).canonicalised = some json) : json.Valid := by
    have helements (l : List Text) :
        JsonText.ValidElements (canonicalisedElements (l.map .string)) := by
      induction l with
      | nil => exact trivial
      | cons text l ih => exact ⟨trivial, ih⟩
    rw [← Option.some.inj hjson]
    exact helements texts
  have hnullable (text : Option Text) (json : Json)
      (hjson : (nullableText text).canonicalised = some json) : json.Valid := by
    cases text with
    | none => rw [← Option.some.inj hjson]; exact hnull
    | some text => rw [← Option.some.inj hjson]; exact trivial
  have hconfidence (confidence : Option Number) (json : Json)
      (hjson : (confidenceJs confidence).canonicalised = some json) : json.Valid := by
    cases confidence with
    | none => rw [← Option.some.inj hjson]; exact hnull
    | some number => rw [← Option.some.inj hjson]; exact ⟨number.ne_nil, number.lexeme⟩
  have hcolumn {column : Json} (hvalid : column.Valid) (json : Json)
      (hjson : (JsValue.ofJson column).canonicalised = some json) : json.Valid := by
    rw [canonicalised_ofJson] at hjson
    rw [← Option.some.inj hjson]
    exact canonJson_valid column hvalid
  intro property hmem
  simp only [ownOf, HashableLedgerEntry.toJs, InsertLedgerEntryData.hashableFields, List.mem_cons,
    List.not_mem_nil, or_false] at hmem
  obtain rfl | rfl | rfl | rfl | rfl | rfl | rfl | rfl | rfl | rfl | rfl | rfl | rfl | rfl | rfl | rfl :=
    hmem
  · exact hliteral _
  · exact hstring _
  · exact hstring _
  · exact hstring _
  · exact hstring _
  · exact hcolumn h.inputsSnapshot
  · exact htexts _
  · exact hstring _
  · exact htexts _
  · exact htexts _
  · exact hconfidence _
  · exact hcolumn h.approvals
  · exact hstring _
  · exact hnullable _
  · exact hstring _
  · exact hnullable _

theorem sameContent_of_contentHash (hinjective : Function.Injective hash)
    {row row' : InsertLedgerEntryData δ} (hintact : row.Intact hash) (hintact' : row'.Intact hash)
    (hjson : HoldsJson row) (hjson' : HoldsJson row') (h : row.contentHash = row'.contentHash) :
    SameContent row row' := by
  rw [hintact, hintact'] at h
  have hkeys (entry : HashableLedgerEntry) : (ownOf entry).map Prod.fst =
      [ascii "schema_version".toList, ascii "entry_id".toList, ascii "organisation_id".toList,
        ascii "decided_at".toList, ascii "decision_type".toList, ascii "inputs_snapshot".toList,
        ascii "rule_or_model_versions".toList, ascii "policy_version".toList,
        ascii "evidence_for".toList, ascii "evidence_against".toList, ascii "confidence".toList,
        ascii "approvals".toList, ascii "action_taken".toList, ascii "outcome".toList,
        ascii "trace_id".toList, ascii "supersedes_entry_id".toList] := rfl
  have hfields := canonicalJson_object_inj ((hkeys _).trans (hkeys _).symm)
    (by rw [hkeys]; decide) (by rw [hkeys]; decide) (validOwn_ownOf hjson)
    (validOwn_ownOf hjson') (hinjective h)
  simp only [ownOf, HashableLedgerEntry.toJs, InsertLedgerEntryData.hashableFields, List.map_cons,
    List.map_nil, Prod.map_apply, id_eq, List.cons.injEq, Prod.mk.injEq, true_and, and_true] at hfields
  obtain ⟨hversion, hentry, horganisation, hdecided, htype, hsnapshot, hrules, hpolicy, hfor, hagainst,
    hconfidence, happrovals, haction, houtcome, htrace, hsupersedes⟩ := hfields
  have hstring {text text' : Text}
      (heq : (JsValue.string text).canonicalised = (JsValue.string text').canonicalised) :
      text = text' := JsonText.Json.string.inj (Option.some.inj heq)
  refine ⟨?_, hstring hentry, hstring horganisation, ?_, hstring htype, ?_, textArray_inj hrules,
    hstring hpolicy, textArray_inj hfor, textArray_inj hagainst, confidenceJs_inj hconfidence, ?_,
    hstring haction, nullableText_inj houtcome, hstring htrace, nullableText_inj hsupersedes⟩
  · exact Utf16.decimal_injective (JsonText.Json.literal.inj (Option.some.inj hversion))
  · have hlist := Utf16.ascii_inj (fun _ hc => JsDate.ascii_toISOString hc)
      (fun _ hc => JsDate.ascii_toISOString hc) (hstring hdecided)
    exact JsDate.toISOString_injective (String.toList_injective hlist)
  · rw [canonicalised_ofJson, canonicalised_ofJson] at hsnapshot
    exact Option.some.inj hsnapshot
  · rw [canonicalised_ofJson, canonicalised_ofJson] at happrovals
    exact Option.some.inj happrovals

/-! ## Chains linked again -/

/-- Contents as rows, each with the hash of the one before it. -/
def relink : Option δ → Nat → List (InsertLedgerEntryData δ) → List (LedgerRow δ)
  | _, _, [] => []
  | previousHash, seq, data :: contents =>
    { data with previousHash, createdAt := 0, seq } ::
      relink (some data.contentHash) (seq + 1) contents

theorem linked_relink (previousHash : Option δ) (seq : Nat)
    (contents : List (InsertLedgerEntryData δ)) :
    Linked previousHash (relink previousHash seq contents) := by
  induction contents generalizing previousHash seq with
  | nil => exact trivial
  | cons data contents ih => exact ⟨rfl, ih _ _⟩

theorem relink_contents (previousHash : Option δ) (seq : Nat)
    (contents : List (InsertLedgerEntryData δ)) :
    (relink previousHash seq contents).map LedgerRow.toInsertLedgerEntryData = contents := by
  induction contents generalizing previousHash seq with
  | nil => rfl
  | cons data contents ih => rw [relink, List.map_cons, ih]

theorem relink_sorted (previousHash : Option δ) (seq : Nat)
    (contents : List (InsertLedgerEntryData δ)) :
    (∀ row ∈ relink previousHash seq contents, seq ≤ row.seq) ∧
      (relink previousHash seq contents).Pairwise fun a b => a.seq ≤ b.seq := by
  induction contents generalizing previousHash seq with
  | nil => exact ⟨(fun _ h => nomatch h), .nil⟩
  | cons data contents ih =>
    obtain ⟨hle, hpairwise⟩ := ih (some data.contentHash) (seq + 1)
    rw [relink, List.forall_mem_cons, List.pairwise_cons]
    refine ⟨⟨Nat.le_refl _, fun row hrow => ?_⟩, fun row hrow => ?_, hpairwise⟩
    · exact Nat.le_of_succ_le (hle row hrow)
    · exact Nat.le_of_succ_le (hle row hrow)

/-- Contents linked again verify, whatever they are. -/
theorem verifyChain_relinked [DecidableEq δ] {contents : List (InsertLedgerEntryData δ)}
    {organisationId : Text}
    (h : ∀ data ∈ contents, data.organisationId = organisationId ∧ data.Intact hash) :
    verifyChain hash (relink none 1 contents) organisationId = .valid contents.length ∧
      (listChainOrder (relink none 1 contents) organisationId).map
        LedgerRow.toInsertLedgerEntryData = contents := by
  have hrows : ∀ row ∈ relink (δ := δ) none 1 contents,
      row.organisationId = organisationId ∧ row.Intact hash := by
    intro row hrow
    apply h row.toInsertLedgerEntryData
    rw [← relink_contents none 1 contents]
    exact List.mem_map_of_mem hrow
  have horder : listChainOrder (relink none 1 contents) organisationId = relink none 1 contents := by
    rw [listChainOrder, List.filter_eq_self.mpr (fun row hrow => by simpa using (hrows row hrow).1)]
    exact (relink_sorted none 1 contents).2.insertionSort_eq
  rw [verifyChain, horder, verifyEntries_valid_iff, relink_contents]
  refine ⟨⟨linked_relink none 1 contents, fun row hrow => (hrows row hrow).2, ?_⟩, rfl⟩
  have hlength := congrArg List.length (relink_contents none 1 contents)
  rw [List.length_map] at hlength
  rw [hlength, Nat.zero_add]

/-! ## Two verified chains -/

def SameRow (row row' : LedgerRow δ) : Prop :=
  SameContent row.toInsertLedgerEntryData row'.toInsertLedgerEntryData ∧
    row.previousHash = row'.previousHash

theorem sameRows_of_contentHashes (hinjective : Function.Injective hash) {previousHash : Option δ}
    {rows rows' : List (LedgerRow δ)} (hlinked : Linked previousHash rows)
    (hlinked' : Linked previousHash rows')
    (hrows : ∀ row ∈ rows, row.Intact hash ∧ HoldsJson row.toInsertLedgerEntryData)
    (hrows' : ∀ row ∈ rows', row.Intact hash ∧ HoldsJson row.toInsertLedgerEntryData)
    (h : rows.map (·.contentHash) = rows'.map (·.contentHash)) :
    List.Forall₂ SameRow rows rows' := by
  induction rows generalizing rows' previousHash with
  | nil =>
    rw [List.map_eq_nil_iff.mp h.symm]
    exact .nil
  | cons row rows ih =>
    cases rows' with
    | nil => cases h
    | cons row' rows' =>
      obtain ⟨hhash, hrest⟩ := List.cons.inj h
      change row.contentHash = row'.contentHash at hhash
      rw [List.forall_mem_cons] at hrows hrows'
      have hnext : Linked (some row.contentHash) rows' := by
        rw [hhash]
        exact hlinked'.2
      refine .cons ⟨?_, by rw [hlinked.1, hlinked'.1]⟩ (ih hlinked.2 hnext hrows.2 hrows'.2 hrest)
      exact sameContent_of_contentHash hinjective hrows.1.1 hrows'.1.1 hrows.1.2 hrows'.1.2 hhash

/-- What two verified chains of an organisation have in common: their last rows when these have one
content hash, and all their rows when all of these have. -/
theorem verified_chains [DecidableEq δ] (hinjective : Function.Injective hash)
    {rows rows' : List (LedgerRow δ)} {organisationId : Text} {n n' : Nat}
    (hvalid : verifyChain hash rows organisationId = .valid n)
    (hvalid' : verifyChain hash rows' organisationId = .valid n')
    (hjson : ∀ row ∈ listChainOrder rows organisationId, HoldsJson row.toInsertLedgerEntryData)
    (hjson' : ∀ row ∈ listChainOrder rows' organisationId, HoldsJson row.toInsertLedgerEntryData) :
    (∀ last last', (listChainOrder rows organisationId).getLast? = some last →
      (listChainOrder rows' organisationId).getLast? = some last' →
        last.contentHash = last'.contentHash →
          SameContent last.toInsertLedgerEntryData last'.toInsertLedgerEntryData) ∧
    ((listChainOrder rows organisationId).map (·.contentHash) =
        (listChainOrder rows' organisationId).map (·.contentHash) →
      List.Forall₂ SameRow (listChainOrder rows organisationId)
        (listChainOrder rows' organisationId)) ∧
    (∀ contents : List (InsertLedgerEntryData δ),
      (∀ data ∈ contents, data.organisationId = organisationId ∧ data.Intact hash) →
        verifyChain hash (relink none 1 contents) organisationId = .valid contents.length ∧
          (listChainOrder (relink none 1 contents) organisationId).map
            LedgerRow.toInsertLedgerEntryData = contents) := by
  obtain ⟨hlinked, hintact, -⟩ := verifyEntries_valid_iff.mp hvalid
  obtain ⟨hlinked', hintact', -⟩ := verifyEntries_valid_iff.mp hvalid'
  refine ⟨fun last last' hlast hlast' hhash => ?_, fun hhashes => ?_, fun contents h => ?_⟩
  · have hmem := List.mem_of_getLast? hlast
    have hmem' := List.mem_of_getLast? hlast'
    exact sameContent_of_contentHash hinjective (hintact last hmem) (hintact' last' hmem')
      (hjson last hmem) (hjson' last' hmem') hhash
  · exact sameRows_of_contentHashes hinjective hlinked hlinked'
      (fun row hrow => ⟨hintact row hrow, hjson row hrow⟩)
      (fun row hrow => ⟨hintact' row hrow, hjson' row hrow⟩) hhashes
  · exact verifyChain_relinked h

end

/-! ### A chain with its first row replaced -/

/-- An entry of `org-1` with its own content hash. -/
def sealedEntry (entryId : Text) : InsertLedgerEntryData Text :=
  let data : InsertLedgerEntryData Text :=
    { entryId
      organisationId := ascii "org-1".toList
      decidedAt := 0
      decisionType := ascii "action_evaluation".toList
      inputsSnapshot := .object []
      ruleOrModelVersions := []
      policyVersion := ascii "1".toList
      evidenceFor := []
      evidenceAgainst := []
      confidence := none
      approvals := .array []
      actionTaken := ascii "allow".toList
      outcome := none
      traceId := ascii "trace-1".toList
      schemaVersion := 1
      contentHash := []
      supersedesEntryId := none }
  { data with contentHash := computeContentHash id data.hashableFields }

def twoEntries (first second : Text) : List (LedgerRow Text) :=
  relink none 1 [sealedEntry first, sealedEntry second]

theorem twoEntries_verified (first second : Text) :
    verifyChain id (twoEntries first second) (ascii "org-1".toList) = .valid 2 ∧
      (listChainOrder (twoEntries first second) (ascii "org-1".toList)).map
        LedgerRow.toInsertLedgerEntryData = [sealedEntry first, sealedEntry second] := by
  apply verifyChain_relinked
  intro data hdata
  obtain rfl | hdata := List.mem_cons.mp hdata
  · exact ⟨rfl, rfl⟩
  · rw [List.mem_singleton.mp hdata]
    exact ⟨rfl, rfl⟩

theorem twoEntries_holdsJson (first second : Text) :
    ∀ row ∈ listChainOrder (twoEntries first second) (ascii "org-1".toList),
      HoldsJson row.toInsertLedgerEntryData := by
  intro row hrow
  have hmem := List.mem_map_of_mem (f := LedgerRow.toInsertLedgerEntryData) hrow
  rw [(twoEntries_verified first second).2] at hmem
  obtain hfirst | hmem := List.mem_cons.mp hmem
  · rw [hfirst]
    exact ⟨trivial, trivial⟩
  · rw [List.mem_singleton.mp hmem]
    exact ⟨trivial, trivial⟩

theorem twoEntries_getLast? (first second : Text) :
    ∃ last, (listChainOrder (twoEntries first second) (ascii "org-1".toList)).getLast? = some last ∧
      last.toInsertLedgerEntryData = sealedEntry second := by
  have hcontents := congrArg List.getLast? (twoEntries_verified first second).2
  rw [List.getLast?_map] at hcontents
  exact Option.map_eq_some_iff.mp hcontents

theorem verified_chains_twoEntries :
    ∃ last last' : LedgerRow Text,
      (listChainOrder (twoEntries [0x61] [0x63]) (ascii "org-1".toList)).getLast? = some last ∧
        (listChainOrder (twoEntries [0x62] [0x63]) (ascii "org-1".toList)).getLast? = some last' ∧
          last.contentHash = last'.contentHash ∧
            SameContent last.toInsertLedgerEntryData last'.toInsertLedgerEntryData := by
  obtain ⟨last, hlast, hentry⟩ := twoEntries_getLast? [0x61] [0x63]
  obtain ⟨last', hlast', hentry'⟩ := twoEntries_getLast? [0x62] [0x63]
  have hhash : last.contentHash = last'.contentHash :=
    congrArg InsertLedgerEntryData.contentHash (hentry.trans hentry'.symm)
  exact ⟨last, last', hlast, hlast', hhash,
    (verified_chains Function.injective_id (twoEntries_verified _ _).1 (twoEntries_verified _ _).1
      (twoEntries_holdsJson _ _) (twoEntries_holdsJson _ _)).1 last last' hlast hlast' hhash⟩

theorem head_same_first_replaced :
    verifyChain id (twoEntries [0x61] [0x63]) (ascii "org-1".toList) = .valid 2 ∧
    verifyChain id (twoEntries [0x62] [0x63]) (ascii "org-1".toList) = .valid 2 ∧
    (listChainOrder (twoEntries [0x61] [0x63]) (ascii "org-1".toList)).getLast?.map (·.contentHash) =
      (listChainOrder (twoEntries [0x62] [0x63]) (ascii "org-1".toList)).getLast?.map (·.contentHash) ∧
    listChainOrder (twoEntries [0x61] [0x63]) (ascii "org-1".toList) ≠
      listChainOrder (twoEntries [0x62] [0x63]) (ascii "org-1".toList) := by
  have hhead (first : Text) :
      (listChainOrder (twoEntries first [0x63]) (ascii "org-1".toList)).getLast?.map (·.contentHash) =
        some (sealedEntry [0x63]).contentHash := by
    obtain ⟨last, hlast, hentry⟩ := twoEntries_getLast? first [0x63]
    rw [hlast, Option.map_some]
    exact congrArg (fun data => some data.contentHash) hentry
  refine ⟨(twoEntries_verified _ _).1, (twoEntries_verified _ _).1,
    (hhead _).trans (hhead _).symm, fun hsame => ?_⟩
  have hcontents := (twoEntries_verified [0x61] [0x63]).2
  rw [hsame, (twoEntries_verified [0x62] [0x63]).2] at hcontents
  have hentry : ([0x62] : Text) = [0x61] :=
    congrArg InsertLedgerEntryData.entryId (List.cons.inj hcontents).1
  exact absurd hentry (by decide)

end Sentinel.DecisionLedger
