import Mathlib.Data.List.Infix
import Sentinel.ForStd.JsDate
import Sentinel.ForStd.JsObject
import Sentinel.ForStd.Utf16

/-! # The decision ledger

`modules/ledger`: the canonical hash of an entry (`ledger.hash.ts`), `append`
and `verifyChain` (`ledger.service.ts`), and the append transaction under the organisation's advisory
lock (`ledger.repository.ts`).  Text is UTF-16, a number is its JSON text, and the hash function and
the lock's key are parameters. -/

namespace Sentinel.DecisionLedger

open Utf16 (ascii decimal arrayIndex? wellFormed)
open JsObject (sortEntries fromEntries)

abbrev Text := List UInt16

abbrev Json := JsonText.Json UInt16

/-! ## Values in memory -/

/-- A value as the canonicaliser and `JSON.stringify` find it. -/
inductive JsValue
  /-- `undefined`, a function or a symbol. -/
  | absent
  /-- `null`, a boolean or a finite number, by its JSON text. -/
  | literal (lexeme : Text)
  | notFinite
  | string (text : Text)
  | array (elements : List JsValue)
  /-- An object without a `toJSON`, by its own enumerable properties. -/
  | object (own : List (Text × JsValue))
  /-- A boxed primitive or an object that inherits a `toJSON`, a `Date` among them: its own properties,
      and what `JSON.stringify` writes for it. -/
  | converted (own : List (Text × JsValue)) (json : Option Json)
  /-- An object whose canonical copy has a `toJSON`, as where that is its own: what `JSON.stringify`
      writes for the copy, and for the object. -/
  | converting (copy json : Option Json)

def nullJson : Json := .literal (ascii "null".toList)

def protoKey : Text := ascii "__proto__".toList

mutual
/-- What `JSON.stringify` writes: nothing for `undefined` in an object, `null` for it in an array. -/
def JsValue.stringified : JsValue → Option Json
  | .absent => none
  | .literal lexeme => some (.literal lexeme)
  | .notFinite => some nullJson
  | .string text => some (.string text)
  | .array elements => some (.array (stringifiedElements elements))
  | .object own => some (.object (stringifiedOwn own))
  | .converted _ json => json
  | .converting _ json => json

def stringifiedElements : List JsValue → List Json
  | [] => []
  | element :: elements => element.stringified.getD nullJson :: stringifiedElements elements

def stringifiedOwn : List (Text × JsValue) → List (Text × Json)
  | [] => []
  | (key, value) :: own =>
    match value.stringified with
    | some json => (key, json) :: stringifiedOwn own
    | none => stringifiedOwn own
end

mutual
/-- What `JSON.stringify` writes after `canonicalise`, which copies the own properties of every object
    in the order of their keys.  To assign `__proto__` adds no property. -/
def JsValue.canonicalised : JsValue → Option Json
  | .absent => none
  | .literal lexeme => some (.literal lexeme)
  | .notFinite => some nullJson
  | .string text => some (.string text)
  | .array elements => some (.array (canonicalisedElements elements))
  | .object own => some (.object (fromEntries arrayIndex? (sortEntries (canonicalisedOwn own))))
  | .converted own _ => some (.object (fromEntries arrayIndex? (sortEntries (canonicalisedOwn own))))
  | .converting copy _ => copy

def canonicalisedElements : List JsValue → List Json
  | [] => []
  | element :: elements => element.canonicalised.getD nullJson :: canonicalisedElements elements

def canonicalisedOwn : List (Text × JsValue) → List (Text × Json)
  | [] => []
  | (key, value) :: own =>
    match value.canonicalised with
    | some json => if key = protoKey then canonicalisedOwn own else (key, json) :: canonicalisedOwn own
    | none => canonicalisedOwn own
end

mutual
/-- `JSON.parse`, as a value in memory. -/
def JsValue.ofJson : Json → JsValue
  | .literal lexeme => .literal lexeme
  | .string text => .string text
  | .array elements => .array (ofJsonElements elements)
  | .object members => .object (ofJsonMembers members)

def ofJsonElements : List Json → List JsValue
  | [] => []
  | element :: elements => .ofJson element :: ofJsonElements elements

def ofJsonMembers : List (Text × Json) → List (Text × JsValue)
  | [] => []
  | (key, value) :: members => (key, .ofJson value) :: ofJsonMembers members
end

def canonicalJson (value : JsValue) : Text :=
  JsonText.print wellFormed (value.canonicalised.getD nullJson)

/-! ## Entries -/

/-- A finite number, by its JSON text. -/
structure Number where
  text : Text
  ne_nil : text ≠ []
  ne_null : text ≠ ascii "null".toList
  lexeme : ∀ unit ∈ text, JsonText.isLexeme unit.toNat = true

structure Approval where
  userId : Text
  role : Text
  at' : String

/-- `HashableLedgerEntry`: what an entry claims. -/
structure HashableLedgerEntry where
  schemaVersion : Int
  entryId : Text
  organisationId : Text
  decidedAt : String
  decisionType : Text
  inputsSnapshot : JsValue
  ruleOrModelVersions : List Text
  policyVersion : Text
  evidenceFor : List Text
  evidenceAgainst : List Text
  confidence : Option Number
  approvals : JsValue
  actionTaken : Text
  outcome : Option Text
  traceId : Text
  supersedesEntryId : Option Text

def textArray (texts : List Text) : JsValue := .array (texts.map .string)

def nullableText (text : Option Text) : JsValue :=
  text.elim (.literal (ascii "null".toList)) .string

/-- The entry as the object `computeContentHash` is called with. -/
def HashableLedgerEntry.toJs (entry : HashableLedgerEntry) : JsValue := .object
  [(ascii "schema_version".toList, .literal (decimal entry.schemaVersion)),
    (ascii "entry_id".toList, .string entry.entryId),
    (ascii "organisation_id".toList, .string entry.organisationId),
    (ascii "decided_at".toList, .string (ascii entry.decidedAt.toList)),
    (ascii "decision_type".toList, .string entry.decisionType),
    (ascii "inputs_snapshot".toList, entry.inputsSnapshot),
    (ascii "rule_or_model_versions".toList, textArray entry.ruleOrModelVersions),
    (ascii "policy_version".toList, .string entry.policyVersion),
    (ascii "evidence_for".toList, textArray entry.evidenceFor),
    (ascii "evidence_against".toList, textArray entry.evidenceAgainst),
    (ascii "confidence".toList,
      entry.confidence.elim (.literal (ascii "null".toList)) fun number => .literal number.text),
    (ascii "approvals".toList, entry.approvals),
    (ascii "action_taken".toList, .string entry.actionTaken),
    (ascii "outcome".toList, nullableText entry.outcome),
    (ascii "trace_id".toList, .string entry.traceId),
    (ascii "supersedes_entry_id".toList, nullableText entry.supersedesEntryId)]

/-- `InsertLedgerEntryData`, with the instant in milliseconds. -/
structure InsertLedgerEntryData (δ : Type) where
  entryId : Text
  organisationId : Text
  decidedAt : Int
  decisionType : Text
  inputsSnapshot : Json
  ruleOrModelVersions : List Text
  policyVersion : Text
  evidenceFor : List Text
  evidenceAgainst : List Text
  confidence : Option Number
  approvals : Json
  actionTaken : Text
  outcome : Option Text
  traceId : Text
  schemaVersion : Int
  contentHash : δ
  supersedesEntryId : Option Text

/-- A row of `decision_ledger_entries`. -/
structure LedgerRow (δ : Type) extends InsertLedgerEntryData δ where
  previousHash : Option δ
  createdAt : Int
  seq : Nat

/-- `hashableFieldsOf`, of a stored row. -/
def InsertLedgerEntryData.hashableFields {δ : Type} (row : InsertLedgerEntryData δ) :
    HashableLedgerEntry :=
  { schemaVersion := row.schemaVersion
    entryId := row.entryId
    organisationId := row.organisationId
    decidedAt := JsText.toISOString row.decidedAt
    decisionType := row.decisionType
    inputsSnapshot := .ofJson row.inputsSnapshot
    ruleOrModelVersions := row.ruleOrModelVersions
    policyVersion := row.policyVersion
    evidenceFor := row.evidenceFor
    evidenceAgainst := row.evidenceAgainst
    confidence := row.confidence
    approvals := .ofJson row.approvals
    actionTaken := row.actionTaken
    outcome := row.outcome
    traceId := row.traceId
    supersedesEntryId := row.supersedesEntryId }

section Hash

variable {δ : Type} (hash : Text → δ)

def computeContentHash (entry : HashableLedgerEntry) : δ := hash (canonicalJson entry.toJs)

/-! ## `verifyChain` -/

/-- `VerifyChainResult`; the reasons carry the hashes their texts name. -/
inductive VerifyChainResult (δ : Type)
  | valid (entriesChecked : Nat)
  | contentBroken (entriesChecked : Nat) (brokenEntryId : Text) (stored recomputed : δ)
  | linkBroken (entriesChecked : Nat) (brokenEntryId : Text) (expected stored : Option δ)

def listChainOrder (rows : List (LedgerRow δ)) (organisationId : Text) : List (LedgerRow δ) :=
  (rows.filter fun row => row.organisationId = organisationId).insertionSort fun a b => a.seq ≤ b.seq

/-- The loop of `verifyChain`. -/
def verifyEntries [DecidableEq δ] :
    Option δ → Nat → List (LedgerRow δ) → VerifyChainResult δ
  | _, checked, [] => .valid checked
  | expectedPreviousHash, checked, row :: rows =>
    let recomputed := computeContentHash hash row.hashableFields
    if recomputed ≠ row.contentHash then
      .contentBroken (checked + 1) row.entryId row.contentHash recomputed
    else if row.previousHash ≠ expectedPreviousHash then
      .linkBroken (checked + 1) row.entryId expectedPreviousHash row.previousHash
    else verifyEntries (some row.contentHash) (checked + 1) rows

def verifyChain [DecidableEq δ] (rows : List (LedgerRow δ)) (organisationId : Text) :
    VerifyChainResult δ :=
  verifyEntries hash none 0 (listChainOrder rows organisationId)

/-! ## `append` -/

/-- `AppendLedgerEntryInput`; a snapshot that inherits its `toJSON` is given by its own properties,
    which are all that the schema copies. -/
structure AppendLedgerEntryInput where
  schemaVersion : Int
  entryId : Option Text
  organisationId : Text
  decidedAt : Option String
  decisionType : Text
  inputsSnapshot : JsValue
  ruleOrModelVersions : List Text
  policyVersion : Text
  evidenceFor : List Text
  evidenceAgainst : List Text
  confidence : Option Number
  approvals : List Approval
  actionTaken : Text
  outcome : Option Text
  traceId : Text
  supersedesEntryId : Option Text

/-- `z.record(z.unknown())`: the record without its `__proto__`. -/
def parseRecord : JsValue → Option JsValue
  | .object own => some (.object (own.filter fun property => property.1 ≠ protoKey))
  | .converting copy json => some (.converting copy json)
  | _ => none

/-- `z.number().min(0).max(1)`, read off the text `Number.prototype.toString` gives. -/
def Number.isConfidence (number : Number) : Bool :=
  number.text = ascii ['0'] ∨ number.text = ascii ['1'] ∨ ascii ['0', '.'] <+: number.text ∨
    (ascii ['e', '-'] <:+: number.text ∧ ¬ ascii ['-'] <+: number.text)

/-- `ApprovalSchema`. -/
def Approval.isValid (approval : Approval) : Bool :=
  approval.userId ≠ [] ∧ approval.role ≠ [] ∧ (JsDate.parse approval.at').isSome

def Approval.toJs (approval : Approval) : JsValue := .object
  [(ascii "user_id".toList, .string approval.userId), (ascii "role".toList, .string approval.role),
    (ascii "at".toList, .string (ascii approval.at'.toList))]

/-- The checks of `DecisionLedgerEntrySchema` on text, numbers and approvals. -/
def AppendLedgerEntryInput.isValid (input : AppendLedgerEntryInput) (entryId : Text) : Bool :=
  input.schemaVersion = 1 ∧ entryId ≠ [] ∧ input.organisationId ≠ [] ∧ input.decisionType ≠ [] ∧
    input.policyVersion ≠ [] ∧ input.confidence.all Number.isConfidence ∧
    input.approvals.all Approval.isValid ∧ input.actionTaken ≠ [] ∧ input.outcome ≠ some [] ∧
    input.traceId ≠ []

/-- `LedgerService.append`, up to the repository: the entry, stamped, validated and hashed.  The JSON
    columns hold what `JSON.stringify` writes, and a value it writes nothing for is not inserted. -/
def prepare (input : AppendLedgerEntryInput) (uuid : Text) (now : String) :
    Option (InsertLedgerEntryData δ) := do
  let entryId := input.entryId.getD uuid
  let decidedAt ← JsDate.parse (input.decidedAt.getD now)
  let inputsSnapshot ← parseRecord input.inputsSnapshot
  let approvals : JsValue := .array (input.approvals.map Approval.toJs)
  let storedSnapshot ← inputsSnapshot.stringified
  let storedApprovals ← approvals.stringified
  if !input.isValid entryId then none
  else
    some
      { entryId
        organisationId := input.organisationId
        decidedAt
        decisionType := input.decisionType
        inputsSnapshot := storedSnapshot
        ruleOrModelVersions := input.ruleOrModelVersions
        policyVersion := input.policyVersion
        evidenceFor := input.evidenceFor
        evidenceAgainst := input.evidenceAgainst
        confidence := input.confidence
        approvals := storedApprovals
        actionTaken := input.actionTaken
        outcome := input.outcome
        traceId := input.traceId
        schemaVersion := input.schemaVersion
        contentHash := computeContentHash hash
          { schemaVersion := input.schemaVersion
            entryId
            organisationId := input.organisationId
            decidedAt := JsText.toISOString decidedAt
            decisionType := input.decisionType
            inputsSnapshot
            ruleOrModelVersions := input.ruleOrModelVersions
            policyVersion := input.policyVersion
            evidenceFor := input.evidenceFor
            evidenceAgainst := input.evidenceAgainst
            confidence := input.confidence
            approvals
            actionTaken := input.actionTaken
            outcome := input.outcome
            traceId := input.traceId
            supersedesEntryId := input.supersedesEntryId }
        supersedesEntryId := input.supersedesEntryId }

end Hash

/-! ## The append transaction -/

/-- Where an append transaction stands. -/
inductive Phase (δ : Type)
  | begun
  | locked
  /-- The organisation's latest content hash is read. -/
  | headRead (latest : Option δ)
  | inserted (row : LedgerRow δ)
  | ended

structure Append (δ : Type) where
  data : InsertLedgerEntryData δ
  phase : Phase δ

/-- The committed rows, the next value of `seq`, and the transactions in the order they began. -/
structure State (δ : Type) where
  rows : List (LedgerRow δ)
  nextSeq : Nat
  appends : List (Append δ)

def State.initial (δ : Type) : State δ := ⟨[], 1, []⟩

/-- The transaction has the advisory lock of its organisation. -/
def Append.holdsLock {δ : Type} (append : Append δ) : Bool :=
  match append.phase with
  | .begun | .ended => false
  | _ => true

/-- The row a transaction has inserted and not yet committed. -/
def Append.pending? {δ : Type} (append : Append δ) : Option (LedgerRow δ) :=
  match append.phase with
  | .inserted row => some row
  | _ => none

/-- The steps of the concurrent appends. -/
inductive Label
  | append (input : AppendLedgerEntryInput) (uuid : Text) (now : String)
  | lock (i : Nat)
  | readHead (i : Nat)
  | insert (i : Nat) (createdAt : Int)
  | commit (i : Nat)
  | abort (i : Nat)

def State.setPhase {δ : Type} (s : State δ) (i : Nat) (append : Append δ) (phase : Phase δ) :
    State δ :=
  { s with appends := s.appends.set i { append with phase } }

/-- One step: `hash` is the content hash, `lockKey` the key of `pg_advisory_xact_lock`.  The primary
key is checked against the uncommitted rows too, and `nextval` is not undone by an abort. -/
def step {δ : Type} (hash : Text → δ) (lockKey : Text → Int) (s : State δ) :
    Label → Option (State δ)
  | .append input uuid now =>
    (prepare hash input uuid now).map fun data =>
      { s with appends := s.appends ++ [⟨data, .begun⟩] }
  | .lock i =>
    match s.appends[i]? with
    | some ⟨data, .begun⟩ =>
      if s.appends.any fun other => other.holdsLock &&
          lockKey other.data.organisationId = lockKey data.organisationId then none
      else some (s.setPhase i ⟨data, .begun⟩ .locked)
    | _ => none
  | .readHead i =>
    match s.appends[i]? with
    | some ⟨data, .locked⟩ =>
      let latest := (listChainOrder s.rows data.organisationId).getLast?
      some (s.setPhase i ⟨data, .locked⟩ (.headRead (latest.map (·.contentHash))))
    | _ => none
  | .insert i createdAt =>
    match s.appends[i]? with
    | some ⟨data, .headRead latest⟩ =>
      if (s.rows ++ s.appends.filterMap Append.pending?).any fun row =>
          row.entryId = data.entryId then none
      else
        some { s.setPhase i ⟨data, .headRead latest⟩
            (.inserted { data with previousHash := latest, createdAt, seq := s.nextSeq }) with
          nextSeq := s.nextSeq + 1 }
    | _ => none
  | .commit i =>
    match s.appends[i]? with
    | some ⟨data, .inserted row⟩ =>
      some { s.setPhase i ⟨data, .inserted row⟩ .ended with rows := s.rows ++ [row] }
    | _ => none
  | .abort i =>
    match s.appends[i]? with
    | some append =>
      match append.phase with
      | .ended => none
      | _ => some (s.setPhase i append .ended)
    | none => none

end Sentinel.DecisionLedger
