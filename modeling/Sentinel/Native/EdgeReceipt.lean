import Sentinel.Native.DeviceSignature
import Sentinel.Native.FieldOfflineRequest

/-! # The Edge receipt on the device

`EdgeReceipt` of the Android client (`apps/field-mobile-android/.../net/EdgeReceipt.kt`), and the schema
it mirrors, `DeviceEdgeReceiptSchema` (`packages/contracts/src/device-offline.ts`).  The JSON parser is
the environment's: `JsonReader` has the law that it reads JSON text. -/

namespace Sentinel.EdgeSubmission

open DeviceCanonicalJson (Text Value encode)
open DeviceSignature (decodeCanonicalP256Signature)
open FieldOfflineRequest (units isScopedId isTimestamp)
open JsonText (Json)
open Utf16 (wellFormed)

/-- A parsed JSON element.  An unquoted primitive keeps its content as a literal. -/
abbrev JsonElement := Json UInt16

abbrev JsonObject := List (Text × JsonElement)

/-- `SentinelHttp.JSON.parseToJsonElement`, `none` when it throws. -/
structure JsonReader where
  parseToJsonElement : Text → Option JsonElement
  parse_print : ∀ element, element.Valid →
    parseToJsonElement (JsonText.print wellFormed element) = some element

/-- A reader over the JSON text of the standard library, for runs on fixed inputs. -/
def compactReader : JsonReader where
  parseToJsonElement := JsonText.parse
  parse_print _ hvalid := JsonText.parse_print _ hvalid

/-! ## The fields -/

def fieldSchemaVersion : Text := units "schema_version"
def fieldEdgeId : Text := units "edge_id"
def fieldEdgeKeyId : Text := units "edge_key_id"
def fieldEdgeKeyVersion : Text := units "edge_key_version"
def fieldWitnessedOperationFingerprint : Text := units "witnessed_operation_fingerprint"
def fieldEdgeTrustedTime : Text := units "edge_trusted_time"
def fieldEdgeMonotonicPosition : Text := units "edge_monotonic_position"
def fieldClaimedEdgeSignatureProfile : Text := units "claimed_edge_signature_profile"
def fieldEdgeSignature : Text := units "edge_signature"

def fields : List Text :=
  [fieldSchemaVersion, fieldEdgeId, fieldEdgeKeyId, fieldEdgeKeyVersion,
    fieldWitnessedOperationFingerprint, fieldEdgeTrustedTime, fieldEdgeMonotonicPosition,
    fieldClaimedEdgeSignatureProfile, fieldEdgeSignature]

def forbiddenFields : List Text :=
  ["authorises_operation", "authorizes_operation", "authorisation", "approval", "approved_by",
    "decision", "device_trust", "trust_assertion", "vouches_for_device", "policy_override",
    "operation_permitted"].map units

def schemaVersion : Int := 1

/-- `Int.MAX_VALUE`. -/
def intMax : Int := 2 ^ 31 - 1

structure EdgeReceipt where
  schemaVersion : Int
  edgeId : Text
  edgeKeyId : Text
  edgeKeyVersion : Int
  witnessedOperationFingerprint : Text
  edgeTrustedTime : Option Text
  edgeMonotonicPosition : Option Int
  claimedEdgeSignatureProfile : Text
  edgeSignature : Text
deriving DecidableEq

/-- A value that may be `null`. -/
def nullable {α : Type} (value : α → Value) : Option α → Value
  | none => .null
  | some held => value held

def EdgeReceipt.asMap (receipt : EdgeReceipt) : List (Text × Value) :=
  [(fieldSchemaVersion, .integer receipt.schemaVersion),
   (fieldEdgeId, .string receipt.edgeId),
   (fieldEdgeKeyId, .string receipt.edgeKeyId),
   (fieldEdgeKeyVersion, .integer receipt.edgeKeyVersion),
   (fieldWitnessedOperationFingerprint, .string receipt.witnessedOperationFingerprint),
   (fieldEdgeTrustedTime, nullable .string receipt.edgeTrustedTime),
   (fieldEdgeMonotonicPosition, nullable .integer receipt.edgeMonotonicPosition),
   (fieldClaimedEdgeSignatureProfile, .string receipt.claimedEdgeSignatureProfile),
   (fieldEdgeSignature, .string receipt.edgeSignature)]

def EdgeReceipt.canonicalJson (receipt : EdgeReceipt) : Text := encode (.map receipt.asMap)

/-! ## Reading by name and by type -/

/-- The zeros of the decimal digits that a `Char` can be. -/
def digitZeros : List Nat :=
  [0x30, 0x660, 0x6f0, 0x7c0, 0x966, 0x9e6, 0xa66, 0xae6, 0xb66, 0xbe6, 0xc66, 0xce6, 0xd66, 0xde6,
    0xe50, 0xed0, 0xf20, 0x1040, 0x1090, 0x17e0, 0x1810, 0x1946, 0x19d0, 0x1a80, 0x1a90, 0x1b50,
    0x1bb0, 0x1c40, 0x1c50, 0xa620, 0xa8d0, 0xa900, 0xa9d0, 0xa9f0, 0xaa50, 0xabf0, 0xff10]

/-- `Character.digit` in base ten: a decimal digit of any script. -/
def digitOf (c : UInt16) : Option Nat :=
  digitZeros.findSome? fun start =>
    if start ≤ c.toNat ∧ c.toNat < start + 10 then some (c.toNat - start) else none

/-- A non-empty run of digits. -/
def digitsOrNull : Text → Option Nat
  | [] => none
  | text => text.foldlM (fun n c => (digitOf c).map (10 * n + ·)) 0

/-- The value of a text with an optional sign. -/
def signedOrNull : Text → Option Int
  | [] => none
  | first :: rest =>
    if first < 0x30 then
      if first = 0x2d then (digitsOrNull rest).map fun n : Nat => -(n : Int)
      else if first = 0x2b then (digitsOrNull rest).map fun n : Nat => (n : Int)
      else none
    else (digitsOrNull (first :: rest)).map fun n : Nat => (n : Int)

/-- `String.toLongOrNull`. -/
def toLongOrNull (text : Text) : Option Int :=
  (signedOrNull text).filter fun n => -2 ^ 63 ≤ n ∧ n < 2 ^ 63

variable (source : JsonObject)

/-- `JsonObject.get`: a repeated key holds its last value. -/
def getKey (key : Text) : Option JsonElement :=
  (source.reverse.find? fun member => member.1 = key).map Prod.snd

def containsKey (key : Text) : Bool :=
  source.any fun member => member.1 = key

/-- The content of `JsonNull`, which no other unquoted primitive has. -/
def jsonNull : Text := units "null"

/-- `text`: a required JSON string. -/
def text (key : Text) : Option Text :=
  match getKey source key with
  | some (.string content) => some content
  | _ => none

/-- `wholeNumber`: a required JSON integer. -/
def wholeNumber (key : Text) : Option Int :=
  match getKey source key with
  | some (.literal content) => if content = jsonNull then none else toLongOrNull content
  | _ => none

/-- `Nullable`: absent or `null`, a good value, or the wrong type. -/
structure Nullable (α : Type) where
  value : Option α
  wrongType : Bool

def nullableText (key : Text) : Nullable Text :=
  match getKey source key with
  | none => ⟨none, false⟩
  | some (.literal content) => if content = jsonNull then ⟨none, false⟩ else ⟨none, true⟩
  | some (.string content) => ⟨some content, false⟩
  | some _ => ⟨none, true⟩

def nullableWholeNumber (key : Text) : Nullable Int :=
  match getKey source key with
  | none => ⟨none, false⟩
  | some (.literal content) =>
    if content = jsonNull then ⟨none, false⟩
    else
      match toLongOrNull content with
      | none => ⟨none, true⟩
      | some parsed => ⟨some parsed, false⟩
  | some _ => ⟨none, true⟩

def fromWire (value : JsonObject) : Option EdgeReceipt :=
  if forbiddenFields.any fun forbidden => containsKey value forbidden then none
  else if value.any fun member => !fields.contains member.1 then none
  else do
    let version ← wholeNumber value fieldSchemaVersion
    guard (version = schemaVersion)
    let edgeId ← text value fieldEdgeId
    let edgeKeyId ← text value fieldEdgeKeyId
    let edgeKeyVersion ← wholeNumber value fieldEdgeKeyVersion
    guard (1 ≤ edgeKeyVersion ∧ edgeKeyVersion ≤ intMax)
    let fingerprint ← text value fieldWitnessedOperationFingerprint
    let profile ← text value fieldClaimedEdgeSignatureProfile
    let signature ← text value fieldEdgeSignature
    -- both witnesses may be `null`, and neither may be left out
    guard (containsKey value fieldEdgeTrustedTime)
    guard (containsKey value fieldEdgeMonotonicPosition)
    let trustedTime := nullableText value fieldEdgeTrustedTime
    guard (trustedTime.wrongType = false)
    let position := nullableWholeNumber value fieldEdgeMonotonicPosition
    guard (position.wrongType = false)
    guard (∀ witnessedPosition ∈ position.value, 0 ≤ witnessedPosition)
    guard ¬(trustedTime.value = none ∧ position.value = none)
    return {
      schemaVersion := version
      edgeId, edgeKeyId, edgeKeyVersion
      witnessedOperationFingerprint := fingerprint
      edgeTrustedTime := trustedTime.value
      edgeMonotonicPosition := position.value
      claimedEdgeSignatureProfile := profile
      edgeSignature := signature }

def fromStored (reader : JsonReader) (canonicalJson : Text) : Option EdgeReceipt :=
  match reader.parseToJsonElement canonicalJson with
  | some (.object members) => fromWire members
  | _ => none

/-! ## The contract -/

/-- A property of an object, `none` when it has none of the name. -/
def property (entries : List (Text × Value)) (key : Text) : Option Value :=
  (entries.find? fun entry => entry.1 = key).map Prod.snd

/-- `z.string()` with a check. -/
def isString (check : Text → Bool) : Option Value → Bool
  | some (.string text) => check text
  | _ => false

/-- `z.number().int()` with a check. -/
def isInteger (check : Int → Bool) : Option Value → Bool
  | some (.integer n) => check n
  | _ => false

def isNull : Option Value → Bool
  | some .null => true
  | _ => false

/-- `DeviceDigestSchema`. -/
def isDigest (text : Text) : Bool :=
  text.length = 64 ∧ text.all fun unit => (0x30 ≤ unit ∧ unit ≤ 0x39) ∨ (0x61 ≤ unit ∧ unit ≤ 0x66)

/-- `DeviceSignatureSchema`. -/
def isSignature (text : Text) : Bool := (decodeCanonicalP256Signature text).isOk

def maxOfflineDeviceSequence : Int := 9007199254740991

/-- `DeviceEdgeReceiptSchema`, on the properties of an object. -/
def deviceEdgeReceiptSchema (entries : List (Text × Value)) : Bool :=
  let trustedTime := property entries fieldEdgeTrustedTime
  let position := property entries fieldEdgeMonotonicPosition
  isInteger (· = 1) (property entries fieldSchemaVersion) &&
    isString isScopedId (property entries fieldEdgeId) &&
    isString isScopedId (property entries fieldEdgeKeyId) &&
    isInteger (fun n => 0 < n ∧ n ≤ 1000000) (property entries fieldEdgeKeyVersion) &&
    isString isDigest (property entries fieldWitnessedOperationFingerprint) &&
    (isNull trustedTime || isString isTimestamp trustedTime) &&
    (isNull position || isInteger (fun n => 0 ≤ n ∧ n ≤ maxOfflineDeviceSequence) position) &&
    isString (· = units "P256_ECDSA_SHA256") (property entries fieldClaimedEdgeSignatureProfile) &&
    isString isSignature (property entries fieldEdgeSignature) &&
    -- `strict`
    entries.all (fun entry => fields.contains entry.1) &&
    !(isNull trustedTime && isNull position)

/-- `DeviceEdgeReceipt`: an object that the schema accepts, its properties in any order. -/
structure DeviceEdgeReceipt where
  entries : List (Text × Value)
  nodup_keys : (entries.map Prod.fst).Nodup
  accepted : deviceEdgeReceiptSchema entries = true

def DeviceEdgeReceipt.value (receipt : DeviceEdgeReceipt) : Value := .map receipt.entries

end Sentinel.EdgeSubmission
