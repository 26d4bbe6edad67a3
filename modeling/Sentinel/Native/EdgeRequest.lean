import Sentinel.Native.EdgeTrustedTime

/-! # The proof of an Edge request

`packages/contracts/src/edge-request.ts`: the one spelling of a route, the digest of a body, the
proof and the statement it signs, and the standing of a trusted-time claim. -/

namespace Sentinel.EdgeRequest

open EdgeTrustedTime (isScopedId isUuid)

def edgeRequestProofDomain : String := "sentinel.edge.request.v1"

def trustedTimeClaimMaxFutureSkewMs : Int := 5000

def trustedTimeClaimMaxAgeMs : Int := 21600000

/-- `EDGE_REQUEST_ROUTE_MAX_LENGTH`. -/
def routeMaxLength : Nat := 512

/-- `DEVICE_SIGNATURE_PROFILES`, of which there is one. -/
def signatureProfile : String := "P256_ECDSA_SHA256"

inductive Purpose
  | trustedTimeAnchor | offlineOperationIngress | edgeHeartbeat | edgeKeyRotation

def Purpose.text : Purpose → String
  | trustedTimeAnchor => "TRUSTED_TIME_ANCHOR"
  | offlineOperationIngress => "OFFLINE_OPERATION_INGRESS"
  | edgeHeartbeat => "EDGE_HEARTBEAT"
  | edgeKeyRotation => "EDGE_KEY_ROTATION"

theorem Purpose.text_injective {a b : Purpose} (h : a.text = b.text) : a = b := by
  cases a <;> cases b <;> first | rfl | exact absurd h (by decide)

/-- `EdgeRequestMethod`. -/
inductive Method
  | get | post | put | patch | delete

def Method.text : Method → String
  | get => "GET"
  | post => "POST"
  | put => "PUT"
  | patch => "PATCH"
  | delete => "DELETE"

theorem Method.text_injective {a b : Method} (h : a.text = b.text) : a = b := by
  cases a <;> cases b <;> first | rfl | exact absurd h (by decide)

/-! ## Routes -/

/-- `EdgeRequestRouteRejection`, without the whitespace that is not printable either. -/
inductive RouteRejection
  | tooLong | notAbsolute | notPrintableAscii | carriesQuery | carriesFragment
  | carriesPercentEncoding | trailingSlash | emptySegment | dotSegment

def checkSegments : List (List Char) → Option RouteRejection
  | [] => none
  | segment :: segments =>
    if segment.length = 0 then some .emptySegment
    else if segment = ['.'] ∨ segment = ['.', '.'] then some .dotSegment
    else checkSegments segments

/-- `checkCanonicalEdgeRequestRoute`: the rejection, if there is one. -/
def checkCanonicalEdgeRequestRoute (value : String) : Option RouteRejection :=
  let chars := value.toList
  if routeMaxLength < (chars.flatMap JsText.codeUnits).length then some .tooLong
  else if chars.head? ≠ some '/' then some .notAbsolute
  else if !chars.all fun c => 0x21 ≤ c.toNat ∧ c.toNat ≤ 0x7e then some .notPrintableAscii
  else if chars.contains '?' then some .carriesQuery
  else if chars.contains '#' then some .carriesFragment
  else if chars.contains '%' then some .carriesPercentEncoding
  else if value ≠ "/" ∧ chars.getLast? = some '/' then some .trailingSlash
  else if value = "/" then none
  else checkSegments ((chars.drop 1).splitOnP (· = '/'))

/-! ## Bodies -/

def isHighSurrogate (unit : UInt16) : Bool := 0xd800 ≤ unit.toNat ∧ unit.toNat < 0xdc00

def isLowSurrogate (unit : UInt16) : Bool := 0xdc00 ≤ unit.toNat ∧ unit.toNat < 0xe000

/-- The bytes of a code unit that stands alone; an unpaired surrogate is U+FFFD. -/
def utf8Unit (unit : UInt16) : List UInt8 :=
  String.utf8EncodeChar (Char.ofNat
    (if isHighSurrogate unit ∨ isLowSurrogate unit then 0xfffd else unit.toNat))

/-- `Buffer.from(text, 'utf8')`. -/
def utf8Bytes : List UInt16 → List UInt8
  | [] => []
  | [unit] => utf8Unit unit
  | unit :: low :: rest =>
    if isHighSurrogate unit ∧ isLowSurrogate low then
      String.utf8EncodeChar (Char.ofNat
        (0x10000 + (unit.toNat - 0xd800) * 0x400 + (low.toNat - 0xdc00))) ++ utf8Bytes rest
    else utf8Unit unit ++ utf8Bytes (low :: rest)

/-- A request body, as the transport hands it in. -/
inductive Body
  | bytes (content : List UInt8)
  | text (units : List UInt16)

def Body.toBytes : Body → List UInt8
  | .bytes content => content
  | .text units => utf8Bytes units

/-! ## The proof -/

/-- `DeviceNonceSchema`: 16 to 256 UTF-16 units. -/
def isNonce (text : String) : Bool :=
  let length := (text.toList.flatMap JsText.codeUnits).length
  16 ≤ length ∧ length ≤ 256

/-- `DeviceDigestSchema`. -/
def isDigest (text : String) : Bool :=
  text.toList.length = 64 ∧ text.toList.all fun c => c.isDigit ∨ ('a' ≤ c ∧ c ≤ 'f')

/-- What an Edge signs, beside the schema version: `EdgeRequestStatementInput`. -/
structure StatementInput where
  edgeId : String
  registryKeyId : String
  requestId : String
  method : Method
  route : String
  bodyDigest : String
  purpose : Purpose
  trustedTimeAnchorId : Option String
  edgeTrustedTimestamp : Option String
  signatureProfile : String

structure ProofFields where
  edgeId : String
  registryKeyId : String
  requestId : String
  method : Method
  route : String
  bodyDigest : String
  purpose : Purpose
  trustedTimeAnchorId : Option String
  edgeTrustedTimestamp : Option String
  claimedSignatureProfile : String
  signature : String

/-- What `EdgeRequestProofSchema` accepts; `isCanonicalSignature` is `decodeCanonicalP256Signature`. -/
def ProofFields.parses (isCanonicalSignature : String → Bool) (fields : ProofFields) : Bool :=
  isScopedId fields.edgeId && isScopedId fields.registryKeyId && isNonce fields.requestId &&
    (checkCanonicalEdgeRequestRoute fields.route).isNone && isDigest fields.bodyDigest &&
    fields.trustedTimeAnchorId.all isUuid &&
    fields.edgeTrustedTimestamp.all (fun instant => (JsDate.parse instant).isSome) &&
    fields.claimedSignatureProfile = signatureProfile && isCanonicalSignature fields.signature &&
    fields.trustedTimeAnchorId.isNone = fields.edgeTrustedTimestamp.isNone

/-- `edgeRequestStatementInput`. -/
def ProofFields.statementInput (proof : ProofFields) (serverResolvedProfile : String) :
    StatementInput :=
  { edgeId := proof.edgeId
    registryKeyId := proof.registryKeyId
    requestId := proof.requestId
    method := proof.method
    route := proof.route
    bodyDigest := proof.bodyDigest
    purpose := proof.purpose
    trustedTimeAnchorId := proof.trustedTimeAnchorId
    edgeTrustedTimestamp := proof.edgeTrustedTimestamp
    signatureProfile := serverResolvedProfile }

/-! ## The statement -/

def nullable : Option String → JsonText.Json Char
  | none => .literal "null".toList
  | some value => .string value.toList

/-- `edgeRequestStatementObject`, its keys in order. -/
def edgeRequestStatementObject (input : StatementInput) : JsonText.Json Char :=
  let text (value : String) : JsonText.Json Char := .string value.toList
  .object
    [("body_digest".toList, text input.bodyDigest),
      ("domain".toList, text edgeRequestProofDomain),
      ("edge_id".toList, text input.edgeId),
      ("edge_trusted_timestamp".toList, nullable input.edgeTrustedTimestamp),
      ("method".toList, text input.method.text),
      ("purpose".toList, text input.purpose.text),
      ("registry_key_id".toList, text input.registryKeyId),
      ("request_id".toList, text input.requestId),
      ("route".toList, text input.route),
      ("schema_version".toList, .literal ['1']),
      ("signature_profile".toList, text input.signatureProfile),
      ("trusted_time_anchor_id".toList, nullable input.trustedTimeAnchorId)]

def canonicalEdgeRequestStatement (input : StatementInput) : String :=
  String.ofList (JsonText.print (JsonText.Quoting.plain Char) (edgeRequestStatementObject input))

theorem nullable_injective {a b : Option String} (h : nullable a = nullable b) : a = b := by
  cases a with
  | none =>
    cases b with
    | none => rfl
    | some value => cases h
  | some value =>
    cases b with
    | none => cases h
    | some value' =>
      rw [String.toList_inj.mp (JsonText.Json.string.inj h)]

theorem nullable_valid (value : Option String) : (nullable value).Valid := by
  cases value with
  | none => exact ⟨by decide, List.all_eq_true.mp (by decide)⟩
  | some value => trivial

theorem edgeRequestStatementObject_valid (input : StatementInput) :
    (edgeRequestStatementObject input).Valid := by
  simp [edgeRequestStatementObject, JsonText.Json.Valid, JsonText.ValidMembers, nullable_valid]
  decide

/-- One text is the statement of one request: every signed field can be read off it. -/
theorem canonicalEdgeRequestStatement_injective {a b : StatementInput}
    (h : canonicalEdgeRequestStatement a = canonicalEdgeRequestStatement b) : a = b := by
  have htree := JsonText.print_injective _ (edgeRequestStatementObject_valid a)
    (edgeRequestStatementObject_valid b) (String.ofList_inj.mp h)
  simp only [edgeRequestStatementObject, JsonText.Json.object.injEq, List.cons.injEq,
    Prod.mk.injEq, JsonText.Json.string.injEq, String.toList_inj, true_and, and_true] at htree
  obtain ⟨hbody, hedge, htimestamp, hmethod, hpurpose, hkey, hrequest, hroute, hprofile, hanchor⟩ :=
    htree
  cases a
  cases b
  simp only [StatementInput.mk.injEq]
  exact ⟨hedge, hkey, hrequest, Method.text_injective hmethod, hroute, hbody,
    Purpose.text_injective hpurpose, nullable_injective hanchor, nullable_injective htimestamp,
    hprofile⟩

/-! ## The replay identity and the trusted-time claim -/

/-- `EdgeRequestReplayIdentity`, whose canonical JSON is the replay key. -/
structure ReplayIdentity where
  organisationId : String
  edgeId : String
  registryKeyId : String
  requestId : String
deriving DecidableEq

/-- `EdgeTrustedTimeClaimStanding`. -/
inductive ClaimStanding
  | none | claimed | stale | futureSkewed | notAuthoritative

/-- `classifyEdgeRequestTrustedTimeClaim`, on a server instant that is readable. -/
def classifyEdgeRequestTrustedTimeClaim (proof : ProofFields) (serverNow : Int) : ClaimStanding :=
  match proof.trustedTimeAnchorId, proof.edgeTrustedTimestamp with
  | some _, some timestamp =>
    match JsDate.parse timestamp with
    | .none => .notAuthoritative
    | some claimed =>
      if trustedTimeClaimMaxFutureSkewMs < claimed - serverNow then .futureSkewed
      else if trustedTimeClaimMaxAgeMs < serverNow - claimed then .stale
      else .claimed
  | _, _ => .none

end Sentinel.EdgeRequest
