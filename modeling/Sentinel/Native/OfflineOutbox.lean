import Mathlib.Algebra.Group.Int.Defs
import Mathlib.Algebra.Group.Nat.Defs
import Mathlib.Data.List.Sort
import Mathlib.Data.List.MinMax
import Sentinel.ForStd.Decimal

/-! # The durable offline queue of the field client

`OfflineOutboxEntry` and `OfflineOutbox` of the Android client
(`apps/field-mobile-android/.../store`): one JSON document, replaced whole by every
operation.  The JSON library and the protected file are the environment: the first is
a codec with the law that it reads back what it printed, the second either replaces
the stored text or throws and keeps the previous one. -/

namespace Sentinel.OfflineOutbox

open JsonText (Json)

/-! ## The environment -/

/-- A parsed JSON element.  An unquoted primitive keeps its content as a literal. -/
abbrev JsonElement := Json Char

abbrev JsonObject := List (List Char × JsonElement)

/-- `Char.isWhitespace`: a space separator, a line or paragraph separator, or one of
    the controls the platform counts as white space. -/
def isWhitespace (c : Char) : Bool :=
  let n := c.toNat
  (9 ≤ n ∧ n ≤ 13) || (28 ≤ n ∧ n ≤ 32) || n = 0xA0 || n = 0x1680 ||
    (0x2000 ≤ n ∧ n ≤ 0x200A) || n = 0x2028 || n = 0x2029 || n = 0x202F || n = 0x205F || n = 0x3000

/-- `String.isBlank`. -/
def isBlank (text : List Char) : Bool := text.all isWhitespace

/-- `Json.parseToJsonElement` and `JsonElement.toString`.  A failed parse carries the
    simple name of the exception's class. -/
structure JsonCodec where
  parseToJsonElement : List Char → Except String JsonElement
  print : JsonElement → List Char
  parse_print : ∀ element, element.Valid → parseToJsonElement (print element) = .ok element
  print_not_blank : ∀ members, isBlank (print (.object members)) = false

/-- What an operation of the outbox may throw. -/
inductive OutboxFailure
  /-- `MalformedOutbox`. -/
  | malformed (message : String)
  /-- A failed `require`. -/
  | illegalArgument (message : String)
  /-- The caller's entry builder threw. -/
  | builderThrew
  /-- The protected file could not be replaced. -/
  | writeFailed

/-- The stored text, `none` when nothing has ever been written. -/
abbrev Stored := Option (List Char)

/-! ## Reading JSON by name -/

/-- `JsonObject.get`: a repeated key holds its last value. -/
def getKey (members : JsonObject) (key : String) : Option JsonElement :=
  (members.reverse.find? fun member => member.1 = key.toList).map Prod.snd

def requiredString (members : JsonObject) (key : String) : Except OutboxFailure String :=
  match getKey members key with
  | some (.string text) => .ok (String.ofList text)
  | some (.literal _) => .error (.malformed ("the stored '" ++ key ++ "' is not a JSON string"))
  | _ => .error (.malformed ("the stored queue has no readable '" ++ key ++ "'"))

def optionalString (members : JsonObject) (key : String) : Option String :=
  match getKey members key with
  | some (.string text) => some (String.ofList text)
  | _ => none

/-- `String.toLongOrNull`. -/
def toLongOrNull (text : List Char) : Option Int :=
  (Decimal.value text).filter fun n => -2 ^ 63 ≤ n ∧ n < 2 ^ 63

def requiredLong (members : JsonObject) (key : String) : Except OutboxFailure Int :=
  match getKey members key with
  | some (.literal text) =>
    match toLongOrNull text with
    | some n => .ok n
    | none => .error (.malformed ("the stored '" ++ key ++ "' is not an integer"))
  | some (.string _) =>
    .error (.malformed ("the stored '" ++ key ++ "' is a string, not a number"))
  | _ => .error (.malformed ("the stored queue has no readable '" ++ key ++ "'"))

/-! ## One queued operation -/

inductive OfflineEntryState
  | queued | terminal
deriving DecidableEq

def OfflineEntryState.name : OfflineEntryState → String
  | .queued => "QUEUED"
  | .terminal => "TERMINAL"

def OfflineEntryState.parse (name : String) : Except OutboxFailure OfflineEntryState :=
  if name = "QUEUED" then .ok .queued
  else if name = "TERMINAL" then .ok .terminal
  else .error (.malformed ("'" ++ name ++ "' is not an outbox entry state"))

/-- `OfflineOutboxEntry`: the sixteen signed fields and the five local ones. -/
structure OfflineOutboxEntry where
  offlineOperationId : String
  organisationId : String
  siteId : String
  actorUserId : String
  deviceId : String
  keyId : String
  keyVersion : Int32
  operationKind : String
  deviceSequence : Int
  idempotencyKey : String
  payloadDigest : String
  policyLeaseId : String
  nonce : String
  createdAt : String
  claimedSignatureProfile : String
  signature : String
  payloadJson : String
  attemptCount : Int32 := 0
  lastAttemptAt : Option String := none
  state : OfflineEntryState := .queued
  edgeReceiptJson : Option String := none
deriving DecidableEq

/-- `PERSISTED_FIELDS`, in the order they are written. -/
def persistedFields : List String :=
  ["offline_operation_id", "organisation_id", "site_id", "actor_user_id", "device_id", "key_id",
    "key_version", "operation_kind", "device_sequence", "idempotency_key", "payload_digest",
    "policy_lease_id", "nonce", "created_at", "claimed_signature_profile", "signature",
    "local_payload_json", "local_attempt_count", "local_last_attempt_at", "local_state",
    "local_edge_receipt_json"]

def jsonString (text : String) : JsonElement := .string text.toList

def jsonLong (n : Int) : JsonElement := .literal (Decimal.digits n)

def jsonOptional : Option String → JsonElement
  | none => .literal "null".toList
  | some text => jsonString text

def OfflineOutboxEntry.toJson (entry : OfflineOutboxEntry) : JsonObject :=
  [("offline_operation_id".toList, jsonString entry.offlineOperationId),
   ("organisation_id".toList, jsonString entry.organisationId),
   ("site_id".toList, jsonString entry.siteId),
   ("actor_user_id".toList, jsonString entry.actorUserId),
   ("device_id".toList, jsonString entry.deviceId),
   ("key_id".toList, jsonString entry.keyId),
   ("key_version".toList, jsonLong entry.keyVersion.toInt),
   ("operation_kind".toList, jsonString entry.operationKind),
   ("device_sequence".toList, jsonLong entry.deviceSequence),
   ("idempotency_key".toList, jsonString entry.idempotencyKey),
   ("payload_digest".toList, jsonString entry.payloadDigest),
   ("policy_lease_id".toList, jsonString entry.policyLeaseId),
   ("nonce".toList, jsonString entry.nonce),
   ("created_at".toList, jsonString entry.createdAt),
   ("claimed_signature_profile".toList, jsonString entry.claimedSignatureProfile),
   ("signature".toList, jsonString entry.signature),
   ("local_payload_json".toList, jsonString entry.payloadJson),
   ("local_attempt_count".toList, jsonLong entry.attemptCount.toInt),
   ("local_last_attempt_at".toList, jsonOptional entry.lastAttemptAt),
   ("local_state".toList, jsonString entry.state.name),
   ("local_edge_receipt_json".toList, jsonOptional entry.edgeReceiptJson)]

/-- `OfflineOutboxEntry.fromJson`: by name and by type, refusing rather than defaulting. -/
def OfflineOutboxEntry.fromJson (value : JsonObject) : Except OutboxFailure OfflineOutboxEntry := do
  let offlineOperationId ← requiredString value "offline_operation_id"
  let organisationId ← requiredString value "organisation_id"
  let siteId ← requiredString value "site_id"
  let actorUserId ← requiredString value "actor_user_id"
  let deviceId ← requiredString value "device_id"
  let keyId ← requiredString value "key_id"
  let keyVersion ← requiredLong value "key_version"
  let operationKind ← requiredString value "operation_kind"
  let deviceSequence ← requiredLong value "device_sequence"
  let idempotencyKey ← requiredString value "idempotency_key"
  let payloadDigest ← requiredString value "payload_digest"
  let policyLeaseId ← requiredString value "policy_lease_id"
  let nonce ← requiredString value "nonce"
  let createdAt ← requiredString value "created_at"
  let claimedSignatureProfile ← requiredString value "claimed_signature_profile"
  let signature ← requiredString value "signature"
  let payloadJson ← requiredString value "local_payload_json"
  let attemptCount ← requiredLong value "local_attempt_count"
  let lastAttemptAt := optionalString value "local_last_attempt_at"
  let state ← OfflineEntryState.parse (← requiredString value "local_state")
  let edgeReceiptJson := optionalString value "local_edge_receipt_json"
  return {
    offlineOperationId, organisationId, siteId, actorUserId, deviceId, keyId
    -- `Long.toInt()` keeps the low 32 bits
    keyVersion := Int32.ofInt keyVersion
    operationKind, deviceSequence, idempotencyKey, payloadDigest, policyLeaseId, nonce
    createdAt, claimedSignatureProfile, signature, payloadJson
    attemptCount := Int32.ofInt attemptCount
    lastAttemptAt, state, edgeReceiptJson }

/-! ## The queue -/

def schemaVersion : Int := 1

def firstDeviceSequence : Int := 0

def maxDeviceSequence : Int := 9007199254740991

def defaultMaxDepth : Nat := 256

/-- `OfflineOutbox.Snapshot`. -/
structure Snapshot where
  nextDeviceSequence : Int
  entries : List OfflineOutboxEntry

/-- The two integrity rules `load` checks, entry by entry; `seen` holds the ids so far. -/
def checkEntries (next : Int) : List String → List OfflineOutboxEntry → Except OutboxFailure Unit
  | _, [] => .ok ()
  | seen, entry :: entries =>
    if entry.offlineOperationId ∈ seen then
      .error (.malformed ("the stored queue repeats " ++ entry.offlineOperationId))
    else if next ≤ entry.deviceSequence then
      .error (.malformed ("a stored entry holds sequence " ++ toString entry.deviceSequence ++
        ", at or beyond the next sequence " ++ toString next))
    else checkEntries next (entry.offlineOperationId :: seen) entries

def entryOfElement : JsonElement → Except OutboxFailure OfflineOutboxEntry
  | .object members => OfflineOutboxEntry.fromJson members
  | _ => .error (.malformed "a stored queue entry is not a JSON object")

/-- The elements of the stored entries in order, stopping at the first malformed one. -/
def entriesOfElements : List JsonElement → Except OutboxFailure (List OfflineOutboxEntry)
  | [] => .ok []
  | element :: elements => do
    let entry ← entryOfElement element
    let entries ← entriesOfElements elements
    return entry :: entries

/-- The part of `load` after the document has been parsed. -/
def snapshotOfDocument (document : JsonObject) : Except OutboxFailure Snapshot := do
  let version ← requiredLong document "schema_version"
  if version ≠ schemaVersion then
    throw (.malformed ("the stored queue is schema version " ++ toString version ++ ", not " ++
      toString schemaVersion))
  let next ← requiredLong document "next_device_sequence"
  if next < firstDeviceSequence ∨ maxDeviceSequence < next then
    throw (.malformed ("the stored next sequence " ++ toString next ++
      " is outside the permitted range"))
  match getKey document "entries" with
  | some (.array elements) =>
    let entries ← entriesOfElements elements
    checkEntries next [] entries
    return ⟨next, entries⟩
  | _ => throw (.malformed "the stored queue has no entries array")

variable (codec : JsonCodec) (snapshot : Snapshot)

/-- `OfflineOutbox.load`. -/
def load : Stored → Except OutboxFailure Snapshot
  | none => .ok ⟨firstDeviceSequence, []⟩
  | some text =>
    if isBlank text then .ok ⟨firstDeviceSequence, []⟩
    else
      match codec.parseToJsonElement text with
      | .error name => .error (.malformed ("the stored queue is not JSON: " ++ name))
      | .ok (.object document) => snapshotOfDocument document
      | .ok _ => .error (.malformed "the stored queue is not a JSON object")

/-- `OfflineOutbox.list`: oldest position first. -/
def Snapshot.list : List OfflineOutboxEntry :=
  snapshot.entries.insertionSort fun a b => a.deviceSequence ≤ b.deviceSequence

/-- `OfflineOutbox.peekNext`: the oldest entry central has not settled. -/
def Snapshot.peekNext : Option OfflineOutboxEntry :=
  @List.argmin _ _ Int.instLinearOrder.toPreorder _ OfflineOutboxEntry.deviceSequence
    (snapshot.entries.filter fun entry => entry.state = .queued)

def Snapshot.find (offlineOperationId : String) : Option OfflineOutboxEntry :=
  snapshot.entries.find? fun entry => entry.offlineOperationId = offlineOperationId

/-- The document `persist` writes. -/
def Snapshot.document : JsonObject :=
  [("schema_version".toList, jsonLong schemaVersion),
   ("next_device_sequence".toList, jsonLong snapshot.nextDeviceSequence),
   ("entries".toList, .array (snapshot.list.map fun entry => .object entry.toJson))]

/-- `persist`, the only writer.  `writable` says whether the file lets itself be
    replaced; when it does not, the write throws and the text stays. -/
def persist (writable : Bool) (stored : Stored) (snapshot : Snapshot) :
    Except OutboxFailure Unit × Stored :=
  match snapshot.entries.find? fun entry => snapshot.nextDeviceSequence ≤ entry.deviceSequence with
  | some entry =>
    (.error (.malformed ("refusing to persist entry sequence " ++ toString entry.deviceSequence ++
      " at or beyond the next sequence " ++ toString snapshot.nextDeviceSequence)), stored)
  | none =>
    if writable then (.ok (), some (codec.print (.object snapshot.document)))
    else (.error .writeFailed, stored)

inductive OfflineEnqueueOutcome
  | queued | duplicateOperationId | queueFull | sequenceExhausted

structure OfflineEnqueueResult where
  outcome : OfflineEnqueueOutcome
  entry : Option OfflineOutboxEntry

/-- `OfflineOutbox.enqueue`.  The builder receives the allocated sequence; `none` when
    it throws. -/
def enqueue (maxDepth : Nat) (writable : Bool) (stored : Stored)
    (offlineOperationId : String) (build : Int → Option OfflineOutboxEntry) :
    Except OutboxFailure OfflineEnqueueResult × Stored :=
  match load codec stored with
  | .error failure => (.error failure, stored)
  | .ok snapshot =>
    if snapshot.entries.any fun entry => entry.offlineOperationId = offlineOperationId then
      (.ok ⟨.duplicateOperationId, none⟩, stored)
    else if maxDepth ≤ snapshot.entries.length then (.ok ⟨.queueFull, none⟩, stored)
    else
      let allocated := snapshot.nextDeviceSequence
      if maxDeviceSequence ≤ allocated then (.ok ⟨.sequenceExhausted, none⟩, stored)
      else
        match build allocated with
        | none => (.error .builderThrew, stored)
        | some entry =>
          if entry.offlineOperationId ≠ offlineOperationId then
            (.error (.illegalArgument ("the built entry is " ++ entry.offlineOperationId ++
              ", not the " ++ offlineOperationId ++ " that was checked")), stored)
          else if entry.deviceSequence ≠ allocated then
            (.error (.illegalArgument ("the built entry holds sequence " ++
              toString entry.deviceSequence ++ ", not the allocated " ++ toString allocated)), stored)
          else
            match persist codec writable stored ⟨allocated + 1, snapshot.entries ++ [entry]⟩ with
            | (.error failure, stored) => (.error failure, stored)
            | (.ok (), stored) => (.ok ⟨.queued, some entry⟩, stored)

/-- `mutate`, the one mutator. -/
def mutate (writable : Bool) (stored : Stored) (offlineOperationId : String)
    (change : OfflineOutboxEntry → OfflineOutboxEntry) : Except OutboxFailure Bool × Stored :=
  match load codec stored with
  | .error failure => (.error failure, stored)
  | .ok snapshot =>
    let updated := snapshot.entries.map fun entry =>
      if entry.offlineOperationId = offlineOperationId then change entry else entry
    if snapshot.entries.any fun entry => entry.offlineOperationId = offlineOperationId then
      match persist codec writable stored ⟨snapshot.nextDeviceSequence, updated⟩ with
      | (.error failure, stored) => (.error failure, stored)
      | (.ok (), stored) => (.ok true, stored)
    else (.ok false, stored)

def markAttempt (writable : Bool) (stored : Stored)
    (offlineOperationId attemptedAt : String) : Except OutboxFailure Bool × Stored :=
  mutate codec writable stored offlineOperationId fun entry =>
    { entry with attemptCount := entry.attemptCount + 1, lastAttemptAt := some attemptedAt }

/-- `OfflineOutbox.recordEdgeReceipt`: the first witness wins. -/
def recordEdgeReceipt (writable : Bool) (stored : Stored)
    (offlineOperationId receiptCanonicalJson : String) : Except OutboxFailure Bool × Stored :=
  if isBlank receiptCanonicalJson.toList then
    (.error (.illegalArgument
      "an Edge receipt is stored as canonical JSON text; a blank string is not one"), stored)
  else
    match load codec stored with
    | .error failure => (.error failure, stored)
    | .ok snapshot =>
      match snapshot.find offlineOperationId with
      | none => (.ok false, stored)
      | some existing =>
        if existing.edgeReceiptJson.isSome then (.ok false, stored)
        else
          mutate codec writable stored offlineOperationId fun entry =>
            { entry with edgeReceiptJson := some receiptCanonicalJson }

def markTerminal (writable : Bool) (stored : Stored)
    (offlineOperationId : String) : Except OutboxFailure Bool × Stored :=
  mutate codec writable stored offlineOperationId fun entry => { entry with state := .terminal }

def remove (writable : Bool) (stored : Stored) (offlineOperationId : String) :
    Except OutboxFailure Bool × Stored :=
  match load codec stored with
  | .error failure => (.error failure, stored)
  | .ok snapshot =>
    let remaining := snapshot.entries.filter fun entry =>
      entry.offlineOperationId ≠ offlineOperationId
    if remaining.length = snapshot.entries.length then (.ok false, stored)
    else
      match persist codec writable stored ⟨snapshot.nextDeviceSequence, remaining⟩ with
      | (.error failure, stored) => (.error failure, stored)
      | (.ok (), stored) => (.ok true, stored)

/-! ## Runs -/

inductive OutboxCall
  | enqueue (offlineOperationId : String) (build : Int → Option OfflineOutboxEntry)
  | markAttempt (offlineOperationId attemptedAt : String)
  | recordEdgeReceipt (offlineOperationId receiptCanonicalJson : String)
  | markTerminal (offlineOperationId : String)
  | remove (offlineOperationId : String)
  /-- A restart: nothing is held in memory, so only the stored text is left. -/
  | reload

/-- A call, and whether the file can be replaced while it runs. -/
structure OutboxEvent where
  call : OutboxCall
  writable : Bool

/-- The stored text, and the sequences successful enqueues have handed out, in order. -/
structure OutboxState where
  stored : Stored
  handedOut : List Int

/-- Nothing has ever been written. -/
def OutboxState.initial : OutboxState := ⟨none, []⟩

/-- The sequence an answer to `enqueue` hands out, if it does. -/
def handedSequence : Except OutboxFailure OfflineEnqueueResult → List Int
  | .ok ⟨.queued, some entry⟩ => [entry.deviceSequence]
  | _ => []

/-- One call.  Every call is possible in every state. -/
def outboxStep (maxDepth : Nat) (s : OutboxState) (event : OutboxEvent) : Option OutboxState :=
  match event.call with
  | .enqueue offlineOperationId build =>
    let result := enqueue codec maxDepth event.writable s.stored offlineOperationId build
    some ⟨result.2, s.handedOut ++ handedSequence result.1⟩
  | .markAttempt offlineOperationId attemptedAt =>
    some { s with
      stored := (markAttempt codec event.writable s.stored offlineOperationId attemptedAt).2 }
  | .recordEdgeReceipt offlineOperationId receiptCanonicalJson =>
    some { s with
      stored := (recordEdgeReceipt codec event.writable s.stored offlineOperationId
        receiptCanonicalJson).2 }
  | .markTerminal offlineOperationId =>
    some { s with stored := (markTerminal codec event.writable s.stored offlineOperationId).2 }
  | .remove offlineOperationId =>
    some { s with stored := (remove codec event.writable s.stored offlineOperationId).2 }
  | .reload => some s

/-- A codec over the JSON text of the standard library, for runs on fixed inputs. -/
def compactCodec : JsonCodec where
  parseToJsonElement text :=
    match JsonText.parse text with
    | some element => .ok element
    | none => .error "JsonDecodingException"
  print := JsonText.print (JsonText.Quoting.plain Char)
  parse_print element hvalid := by
    rw [JsonText.parse_print _ hvalid]
  print_not_blank members := by
    rw [isBlank, JsonText.print, List.all_cons]
    rfl

end Sentinel.OfflineOutbox
