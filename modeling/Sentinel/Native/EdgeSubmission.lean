import Sentinel.Native.EdgeReceipt

/-! # Offering a queued operation to an Edge

`EdgeSubmission` of the Android client (`apps/field-mobile-android/.../net/EdgeSubmission.kt`), with the
fingerprint that `OfflineEnvelope` gives an entry.  What an Edge answers is UTF-16; the queue holds
characters, and a receipt is filed as the characters of its canonical text. -/

namespace Sentinel.EdgeSubmission

open DeviceCanonicalJson (Text Value encode)
open FieldOfflineRequest (units)
open OfflineOutbox (OfflineOutboxEntry OutboxFailure Stored JsonCodec recordEdgeReceipt)

/-! ## `OfflineEnvelope` -/

def domain : Text := units "sentinel.device.offline-operation.v1"

def envelopeSchemaVersion : Int := 1

/-- `DeviceStatements.SIGNATURE_PROFILE`. -/
def signatureProfile : Text := units "P256_ECDSA_SHA256"

/-- A text of the queue, as a value. -/
def textOf (text : String) : Value := .string (Utf16.units text)

/-- `statementFor`: what the device signed, rebuilt from a queued entry. -/
def statementFor (entry : OfflineOutboxEntry) : Text :=
  encode (.map
    [(units "domain", .string domain),
     (units "schema_version", .integer envelopeSchemaVersion),
     (units "offline_operation_id", textOf entry.offlineOperationId),
     (units "organisation_id", textOf entry.organisationId),
     (units "site_id", textOf entry.siteId),
     (units "actor_user_id", textOf entry.actorUserId),
     (units "device_id", textOf entry.deviceId),
     (units "key_id", textOf entry.keyId),
     (units "key_version", .integer entry.keyVersion.toInt),
     (units "operation_kind", textOf entry.operationKind),
     (units "device_sequence", .integer entry.deviceSequence),
     (units "idempotency_key", textOf entry.idempotencyKey),
     (units "payload_digest", textOf entry.payloadDigest),
     (units "policy_lease_id", textOf entry.policyLeaseId),
     (units "nonce", textOf entry.nonce),
     (units "created_at", textOf entry.createdAt),
     (units "signature_profile", .string signatureProfile)])

/-- `OfflineEnvelope.fingerprint`, under the digest of the platform. -/
def fingerprint (sha256HexUtf8 : Text → Text) (entry : OfflineOutboxEntry) : Text :=
  sha256HexUtf8 (statementFor entry)

/-! ## Answers -/

/-- `SentinelHttp.Answer`: a transport failure has status 0, and the body is absent when the text is not
    a JSON object. -/
structure Answer where
  status : Int
  body : Option JsonObject
  text : Text

def Answer.ok (answer : Answer) : Bool := 200 ≤ answer.status ∧ answer.status ≤ 299

/-- `EdgeWitness.Kind`. -/
inductive Kind
  | witnessed | notWitnessed

structure EdgeWitness where
  kind : Kind
  receipt : Option EdgeReceipt
  status : Int
  detail : Text

def EdgeWitness.witnessed (receipt : EdgeReceipt) (detail : Text) : EdgeWitness :=
  ⟨.witnessed, some receipt, 200, detail⟩

def EdgeWitness.notWitnessed (status : Int) (detail : Text) : EdgeWitness :=
  ⟨.notWitnessed, none, status, detail⟩

/-! ## `EdgeSubmission` -/

/-- `receiptOrNull`: on a `receipt` member, then at the top level. -/
def receiptOrNull (body : JsonObject) : Option EdgeReceipt :=
  match getKey body (units "receipt") with
  | some (.object nested) => fromWire nested
  | _ => fromWire body

def storedText (receipt : EdgeReceipt) : String :=
  String.ofList (Utf16.chars receipt.canonicalJson)

def record (sha256HexUtf8 : Text → Text) (codec : JsonCodec) (writable : Bool) (stored : Stored)
    (entry : OfflineOutboxEntry) (answer : Answer) : Except OutboxFailure EdgeWitness × Stored :=
  if !answer.ok then (.ok (.notWitnessed answer.status answer.text), stored)
  else
    match answer.body with
    | none =>
      (.ok (.notWitnessed answer.status
        (units "the Edge succeeded and the body could not be read as JSON")), stored)
    | some body =>
      match receiptOrNull body with
      | none =>
        (.ok (.notWitnessed answer.status
          (units "the Edge succeeded and returned nothing this client can read as a receipt")), stored)
      | some receipt =>
        if receipt.witnessedOperationFingerprint ≠ fingerprint sha256HexUtf8 entry then
          (.ok (.notWitnessed answer.status
            (units "the Edge witnessed " ++ receipt.witnessedOperationFingerprint ++
              units ", which is not " ++ Utf16.units entry.offlineOperationId)), stored)
        else
          match recordEdgeReceipt codec writable stored entry.offlineOperationId
              (storedText receipt) with
          | (.error failure, stored) => (.error failure, stored)
          -- `false` is not branched on: the entry holds a witness either way
          | (.ok _, stored) =>
            (.ok (.witnessed receipt (units "the Edge witnessed this operation")), stored)

/-- `witness`: `submitted` is what `submissionJson` throws, or what the transport answers. -/
def witness (reader : JsonReader) (sha256HexUtf8 : Text → Text) (codec : JsonCodec)
    (writable : Bool) (stored : Stored) (entry : OfflineOutboxEntry)
    (submitted : Except OutboxFailure Answer) : Except OutboxFailure EdgeWitness × Stored :=
  match entry.edgeReceiptJson with
  | some receiptJson =>
    match fromStored reader (Utf16.units receiptJson) with
    | none =>
      (.error (.malformed ("the stored Edge receipt for " ++ entry.offlineOperationId ++
        " is no longer readable")), stored)
    | some existing =>
      (.ok (.witnessed existing (units "this operation was already witnessed")), stored)
  | none =>
    match submitted with
    | .error failure => (.error failure, stored)
    | .ok answer => record sha256HexUtf8 codec writable stored entry answer

end Sentinel.EdgeSubmission
