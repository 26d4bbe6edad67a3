import Sentinel.ForStd.JsNumber
import Sentinel.Native.DeviceSignature
import Sentinel.Native.EdgeTrustedTime

/-! # The Edge's trusted time, from any input

The three modules under `services/edge-runtime/src/modules/trusted-time` with nothing assumed of what
they are given: a candidate is any JSON value, a keyring any configuration, and a monotonic reading
any number, `NaN` and the infinities among them. -/

namespace Sentinel.EdgeTrustedTimeAnchor

open EdgeTrustedTime

/-- A value that `JSON.parse` can return. -/
inductive JsonValue
  | null
  | boolean (value : Bool)
  | number (value : JsNumber)
  | string (text : String)
  | array (elements : List JsonValue)
  | object (entries : List (String × JsonValue))

/-- The UTF-16 units of a text. -/
def units (text : String) : DeviceSignature.Text :=
  (text.toList.flatMap JsText.codeUnits).map UInt16.ofNat

/-! ## Schemas -/

/-- A `strict` object: no property but these. -/
def strictObject (keys : List String) : JsonValue → Option (List (String × JsonValue))
  | .object entries => if entries.all fun entry => keys.contains entry.1 then some entries else none
  | _ => none

def stringOf : JsonValue → Option String
  | .string text => some text
  | _ => none

/-- `z.number().int()`. -/
def integerOf : JsonValue → Option Int
  | .number value => value.toInt?
  | _ => none

/-- `EdgeTrustedTimeAnchorStatementSchema`. -/
def parseStatement (value : JsonValue) : Option AnchorStatement := do
  let entries ← strictObject ["schema_version", "anchor_id", "edge_id", "organisation_id", "site_id",
    "edge_boot_id", "edge_monotonic_at_anchor", "server_issued_at", "server_valid_until",
    "signer_key_id"] value
  let schemaVersion ← entries.lookup "schema_version" >>= integerOf
  let anchorId ← entries.lookup "anchor_id" >>= stringOf
  let edgeId ← entries.lookup "edge_id" >>= stringOf
  let organisationId ← entries.lookup "organisation_id" >>= stringOf
  let siteId ← entries.lookup "site_id" >>= stringOf
  let edgeBootId ← entries.lookup "edge_boot_id" >>= stringOf
  let edgeMonotonicAtAnchor ← entries.lookup "edge_monotonic_at_anchor" >>= integerOf
  let serverIssuedAt ← entries.lookup "server_issued_at" >>= stringOf
  let serverValidUntil ← entries.lookup "server_valid_until" >>= stringOf
  let signerKeyId ← entries.lookup "signer_key_id" >>= stringOf
  let fields : StatementFields :=
    { anchorId, edgeId, organisationId, siteId, edgeBootId, edgeMonotonicAtAnchor, serverIssuedAt,
      serverValidUntil, signerKeyId }
  if h : schemaVersion = 1 ∧ fields.parses = true then some ⟨fields, h.2⟩ else none

/-- `DeviceSignatureSchema`: a text that decodes. -/
def isCanonicalSignature (text : String) : Bool :=
  match DeviceSignature.decodeCanonicalP256Signature (units text) with
  | .ok _ => true
  | .error _ => false

/-- `DeviceP256PublicKeySchema`: a text that decodes. -/
def isCanonicalPublicKey (text : String) : Bool :=
  match DeviceSignature.decodeCanonicalP256PublicKey (units text) with
  | .ok _ => true
  | .error _ => false

/-- `SignedEdgeTrustedTimeAnchorSchema`. -/
def parseSigned (value : JsonValue) : Option (SignedAnchor String) := do
  let entries ← strictObject ["statement", "signature"] value
  let statement ← entries.lookup "statement" >>= parseStatement
  let signature ← entries.lookup "signature" >>= stringOf
  if isCanonicalSignature signature then some { statement, signature } else none

/-! ## The keyring -/

/-- `EdgeTrustedTimeKeyRole`. -/
inductive KeyRole
  | active | previous
deriving DecidableEq

/-- `EdgeTrustedTimeVerificationKey`. -/
structure VerificationKey where
  signerKeyId : String
  publicKey : String
  role : KeyRole

def roleOf : JsonValue → Option KeyRole
  | .string "ACTIVE" => some .active
  | .string "PREVIOUS" => some .previous
  | _ => none

/-- `EdgeTrustedTimeVerificationKeySchema`. -/
def parseKey (value : JsonValue) : Option VerificationKey := do
  let entries ← strictObject ["signer_key_id", "public_key", "role"] value
  let signerKeyId ← entries.lookup "signer_key_id" >>= stringOf
  let publicKey ← entries.lookup "public_key" >>= stringOf
  let role ← entries.lookup "role" >>= roleOf
  if isScopedId signerKeyId && isCanonicalPublicKey publicKey then
    some { signerKeyId, publicKey, role }
  else none

/-- `EdgeTrustedTimeKeyringSchema`: one key or two. -/
def parseKeys : JsonValue → Option (List VerificationKey)
  | .array elements =>
    if 1 ≤ elements.length ∧ elements.length ≤ 2 then elements.mapM parseKey else none
  | _ => none

/-- `EdgeTrustedTimeKeyringRefusal`. -/
inductive KeyringRefusal
  | keyringIncomplete | keyringUnparseable | keyringEmpty | keyringDuplicateSignerKeyId
  | keyringNoActiveKey | keyringMultipleActiveKeys | keyringKeyNotOnCurve

/-- A configured `EdgeTrustedTimeKeyring`. -/
structure Keyring where
  version : String
  entries : List VerificationKey

/-- `resolve`: the map holds the last entry of an id. -/
def Keyring.resolve (keyring : Keyring) (signerKeyId : String) : Option VerificationKey :=
  keyring.entries.reverse.find? fun entry => entry.signerKeyId = signerKeyId

/-- The part of `EdgeConfig` that the keyring reads. -/
structure KeyringConfig where
  verificationKeys : Option String
  keyringVersion : Option String

/-- A value that is there and not blank. -/
def presentText (value : Option String) : Option String :=
  value.filter fun text => JsText.trim text ≠ ""

/-- What the runtime provides: `JSON.parse`, `none` where it throws; whether `createPublicKey` takes a
    point as one of P-256; `verify` of a key's point, a message and a signature; and the rounding of
    its numbers. -/
structure Runtime where
  jsonParse : String → Option JsonValue
  createsPublicKey : List UInt8 → Bool
  cryptoVerify : List UInt8 → String → List UInt8 → Bool
  rounding : JsNumber.Rounding

variable (runtime : Runtime)

/-- `P256AnchorSignatureVerifier.importPublicKey`: the bytes of the point. -/
def importPublicKey (canonicalPublicKey : String) : Option (List UInt8) :=
  match DeviceSignature.decodeCanonicalP256PublicKey (units canonicalPublicKey) with
  | .error _ => none
  | .ok point => if runtime.createsPublicKey point.bytes then some point.bytes else none

def verifyAnchorSignature (publicKey message signature : String) : Bool :=
  match DeviceSignature.decodeCanonicalP256Signature (units signature) with
  | .error _ => false
  | .ok scalars =>
    match importPublicKey runtime publicKey with
    | none => false
    | some key => runtime.cryptoVerify key message scalars.bytes

/-- The rules a parsed set of keys is held to. -/
def checkKeys (version : String) (entries : List VerificationKey) :
    Except KeyringRefusal Keyring :=
  let active := entries.filter fun entry => entry.role = .active
  if ¬ (entries.map VerificationKey.signerKeyId).Nodup then .error .keyringDuplicateSignerKeyId
  else if active.length = 0 then .error .keyringNoActiveKey
  else if 1 < active.length then .error .keyringMultipleActiveKeys
  else if entries.any fun entry => (importPublicKey runtime entry.publicKey).isNone then
    .error .keyringKeyNotOnCurve
  else .ok { version := JsText.trim version, entries }

def loadEdgeTrustedTimeKeyring (config : KeyringConfig) : Except KeyringRefusal Keyring :=
  match presentText config.verificationKeys, presentText config.keyringVersion with
  | some keys, some version =>
    match runtime.jsonParse keys with
    | none => .error .keyringUnparseable
    | some json =>
      match parseKeys json with
      | none =>
        match json with
        | .array [] => .error .keyringEmpty
        | _ => .error .keyringUnparseable
      | some entries => checkKeys runtime version entries
  | _, _ => .error .keyringIncomplete

/-! ## The anchor -/

structure Reading where
  monotonicMs : JsNumber
  isDouble : monotonicMs.IsDouble
  bootId : String

def elapsedMs (anchor : AnchorStatement) (reading : Reading) : JsNumber :=
  reading.monotonicMs.sub runtime.rounding anchor.edgeMonotonicAtAnchor

def classify (anchor : Option AnchorStatement) (reading : Reading) : TrustedTimeStanding :=
  match anchor with
  | none => .noAnchor
  | some anchor =>
    if anchor.edgeBootId ≠ reading.bootId then .bootIdentityChanged
    else if (elapsedMs runtime anchor reading).lt 0 then .monotonicNotMonotonic
    else
      match JsDate.parse anchor.serverIssuedAt, JsDate.parse anchor.serverValidUntil with
      | some issued, some valid =>
        -- `isExpiredAt`
        if ((elapsedMs runtime anchor reading).addInt runtime.rounding issued).ge valid then
          .anchorExpired
        else .valid
      | _, _ => .deviceTimeNotAuthoritative

/-- The `RangeError` of a date that has no time. -/
inductive RangeError
  | invalidTimeValue
deriving DecidableEq

/-- `new Date(ms).toISOString()`. -/
def dateText : JsNumber → Except RangeError String
  | .finite value =>
    if |value| ≤ 8640000000000000 then .ok (JsText.toISOString (JsNumber.trunc value))
    else .error .invalidTimeValue
  | _ => .error .invalidTimeValue

/-- `EdgeTrustedTimeAnchor.trustedNow`. -/
def trustedNow (anchor : Option AnchorStatement) (reading : Reading) :
    Except RangeError (Option String) :=
  match anchor with
  | none => .ok none
  | some anchor =>
    if classify runtime (some anchor) reading ≠ .valid then .ok none
    else
      match JsDate.parse anchor.serverIssuedAt, JsDate.parse anchor.serverValidUntil with
      | some issued, some _ =>
        (dateText ((elapsedMs runtime anchor reading).addInt runtime.rounding issued)).map some
      | _, _ => .ok none

/-! ## Admission -/

/-- How `EdgeTrustedTimeAnchorVerifier.admit` ends. -/
inductive Admission
  | admitted (anchor : AnchorStatement) (trustedNow : String)
  | refused (refusal : AnchorRefusal)
  | threw (error : RangeError)

/-- The last two steps of `admit`. -/
def admitVerified (statement : AnchorStatement) (reading : Reading) : Admission :=
  match classify runtime (some statement) reading with
  | .anchorExpired => .refused .anchorExpired
  | .bootIdentityChanged => .refused .bootIdentityChanged
  | .monotonicNotMonotonic => .refused .monotonicWentBackwards
  | .valid =>
    match trustedNow runtime (some statement) reading with
    | .error error => .threw error
    | .ok none => .refused .deviceTimeNotAuthoritative
    | .ok (some trustedNow) => .admitted statement trustedNow
  | _ => .refused .deviceTimeNotAuthoritative

/-- `EdgeTrustedTimeAnchorVerifier.admit`. -/
def admitAnchor (keyring : Except KeyringRefusal Keyring) (candidate : JsonValue)
    (identity : EdgeIdentity) (reading : Reading) : Admission :=
  match candidate with
  | .null => .refused .noAnchor
  | candidate =>
    match parseSigned candidate with
    | none => .refused .anchorMalformed
    | some signed =>
      let statement := signed.statement
      match keyring with
      | .error _ => .refused .keyringUnavailable
      | .ok keyring =>
        match keyring.resolve statement.signerKeyId with
        | none => .refused .signerKeyUnknown
        | some key =>
          if !verifyAnchorSignature runtime key.publicKey
              (canonicalEdgeTrustedTimeAnchorStatement statement) signed.signature then
            .refused .signatureNotVerified
          else if statement.edgeId ≠ identity.edgeId ∨
              statement.organisationId ≠ identity.organisationId ∨
              !identity.authorisedSiteIds.contains statement.siteId then
            .refused .anchorBindingMismatch
          else if statement.edgeBootId ≠ reading.bootId then .refused .bootIdentityChanged
          else if reading.monotonicMs.lt statement.edgeMonotonicAtAnchor then
            .refused .monotonicWentBackwards
          else admitVerified runtime statement reading

end Sentinel.EdgeTrustedTimeAnchor
