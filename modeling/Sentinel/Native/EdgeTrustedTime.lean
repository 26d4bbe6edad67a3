import Sentinel.ForStd.JsDate

/-! # Trusted time at the Edge and at central

The anchor central signs (`packages/contracts/src/edge-trusted-time.ts`), the time the Edge
derives from it (`edge-trusted-time.anchor.ts`, `edge-trusted-time.verifier.ts`), and the
derivation central repeats on the evidence beside a receipt
(`central-edge-trusted-time.verifier.ts`).  `κ` is a verification key and `σ` a signature in the
canonical form of `DeviceSignatureSchema`. -/

namespace Sentinel.EdgeTrustedTime

def maxSafeInteger : Int := 9007199254740991

def deviceOfflineLeaseMaxLifetimeMs : Int := 21600000

def edgeTrustedTimeAnchorDomain : String := "sentinel.edge.trusted-time-anchor.v1"

/-- `isExpiredAt`: the expiry is the first instant that is too late. -/
def isExpiredAt (now expiresAt : Int) : Bool := expiresAt ≤ now

/-! ## The anchor statement -/

/-- The fields of an anchor statement, beside its schema version. -/
structure StatementFields where
  anchorId : String
  edgeId : String
  organisationId : String
  siteId : String
  edgeBootId : String
  edgeMonotonicAtAnchor : Int
  serverIssuedAt : String
  serverValidUntil : String
  signerKeyId : String

/-- `scopedId`: 1 to 256 UTF-16 units. -/
def isScopedId (text : String) : Bool :=
  let length := (text.toList.flatMap JsText.codeUnits).length
  1 ≤ length ∧ length ≤ 256

def isHexDigit (c : Char) : Bool :=
  c.isDigit ∨ ('a' ≤ c ∧ c ≤ 'f') ∨ ('A' ≤ c ∧ c ≤ 'F')

/-- `z.string().uuid()`. -/
def isUuid (text : String) : Bool :=
  let groups := text.toList.splitOnP (· = '-')
  groups.map List.length = [8, 4, 4, 4, 12] ∧ groups.all (·.all isHexDigit)

/-- A whole number the schemas take as a monotonic reading. -/
def isMonotonicReading (n : Int) : Bool := 0 ≤ n ∧ n ≤ maxSafeInteger

/-- `refineDeviceInstantWindow`. -/
def isInstantWindow (issuedAt expiresAt : String) (maxLifetimeMs : Int) : Bool :=
  match JsDate.parse issuedAt, JsDate.parse expiresAt with
  | some issued, some expires => issued < expires ∧ expires - issued ≤ maxLifetimeMs
  | _, _ => false

/-- What `EdgeTrustedTimeAnchorStatementSchema` accepts. -/
def StatementFields.parses (fields : StatementFields) : Bool :=
  isUuid fields.anchorId && isScopedId fields.edgeId && isScopedId fields.organisationId &&
    isScopedId fields.siteId && isScopedId fields.edgeBootId &&
    isMonotonicReading fields.edgeMonotonicAtAnchor && isScopedId fields.signerKeyId &&
    isInstantWindow fields.serverIssuedAt fields.serverValidUntil deviceOfflineLeaseMaxLifetimeMs

/-- `EdgeTrustedTimeAnchorStatement`, parsed. -/
structure AnchorStatement extends StatementFields where
  parses : toStatementFields.parses = true

variable (statement : AnchorStatement)

/-- `canonicalEdgeTrustedTimeAnchorStatement`: the keys in order. -/
def canonicalEdgeTrustedTimeAnchorStatement : String :=
  let text (value : String) : JsonText.Json Char := .string value.toList
  String.ofList <| JsonText.print (JsonText.Quoting.plain Char) <| .object
    [("anchor_id".toList, text statement.anchorId),
      ("domain".toList, text edgeTrustedTimeAnchorDomain),
      ("edge_boot_id".toList, text statement.edgeBootId),
      ("edge_id".toList, text statement.edgeId),
      ("edge_monotonic_at_anchor".toList,
        .literal (Decimal.digits statement.edgeMonotonicAtAnchor)),
      ("organisation_id".toList, text statement.organisationId),
      ("schema_version".toList, .literal ['1']),
      ("server_issued_at".toList, text statement.serverIssuedAt),
      ("server_valid_until".toList, text statement.serverValidUntil),
      ("signer_key_id".toList, text statement.signerKeyId),
      ("site_id".toList, text statement.siteId)]

/-- `SignedEdgeTrustedTimeAnchor`, parsed. -/
structure SignedAnchor (σ : Type) where
  statement : AnchorStatement
  signature : σ

/-- A signed anchor as it arrives; `none` is a signature that is not in canonical form. -/
structure RawSignedAnchor (σ : Type) where
  statement : StatementFields
  signature : Option σ

/-- `SignedEdgeTrustedTimeAnchorSchema`. -/
def RawSignedAnchor.parse {σ : Type} (raw : RawSignedAnchor σ) : Option (SignedAnchor σ) :=
  if h : raw.statement.parses = true then
    raw.signature.map fun signature => { statement := ⟨raw.statement, h⟩, signature }
  else none

/-- The signature check of a side: its keyring, if one is configured, and its crypto provider. -/
structure Verification (κ σ : Type) where
  keyring : Option (String → Option κ)
  verifySignature : κ → String → σ → Bool

/-! ## The Edge's anchor -/

structure MonotonicReading where
  monotonicMs : Int
  bootId : String

inductive TrustedTimeStanding
  | valid | noAnchor | anchorExpired | bootIdentityChanged | monotonicNotMonotonic
  | deviceTimeNotAuthoritative
deriving DecidableEq

def classify (anchor : Option AnchorStatement) (reading : MonotonicReading) :
    TrustedTimeStanding :=
  match anchor with
  | none => .noAnchor
  | some anchor =>
    if anchor.edgeBootId ≠ reading.bootId then .bootIdentityChanged
    else
      let elapsedMs := reading.monotonicMs - anchor.edgeMonotonicAtAnchor
      if elapsedMs < 0 then .monotonicNotMonotonic
      else
        match JsDate.parse anchor.serverIssuedAt, JsDate.parse anchor.serverValidUntil with
        | some issued, some valid =>
          if isExpiredAt (issued + elapsedMs) valid then .anchorExpired else .valid
        | _, _ => .deviceTimeNotAuthoritative

/-- `EdgeTrustedTimeAnchor.trustedNow`. -/
def trustedNow (anchor : Option AnchorStatement) (reading : MonotonicReading) : Option String :=
  match anchor with
  | none => none
  | some anchor =>
    if classify (some anchor) reading ≠ .valid then none
    else
      match JsDate.parse anchor.serverIssuedAt, JsDate.parse anchor.serverValidUntil with
      | some issued, some _ =>
        some (JsText.toISOString (issued + (reading.monotonicMs - anchor.edgeMonotonicAtAnchor)))
      | _, _ => none

/-! ## Admission of an anchor at the Edge -/

/-- `EdgeIdentityContext`, as far as the verifier reads it. -/
structure EdgeIdentity where
  organisationId : String
  edgeId : String
  authorisedSiteIds : List String

/-- `EdgeTrustedTimeAnchorRefusal`.  The canonical form of a parsed statement always exists, so
    ANCHOR_NOT_CANONICAL is never answered. -/
inductive AnchorRefusal
  | noAnchor | anchorMalformed | keyringUnavailable | signerKeyUnknown | signatureNotVerified
  | anchorBindingMismatch | bootIdentityChanged | monotonicWentBackwards | anchorExpired
  | deviceTimeNotAuthoritative

variable {κ σ : Type}

/-- The last two steps of `admit`: the standing of the verified anchor, and the derivation. -/
def admitVerified (reading : MonotonicReading) : Except AnchorRefusal (AnchorStatement × String) :=
  match classify (some statement) reading with
  | .anchorExpired => .error .anchorExpired
  | .bootIdentityChanged => .error .bootIdentityChanged
  | .monotonicNotMonotonic => .error .monotonicWentBackwards
  | .valid =>
    match trustedNow (some statement) reading with
    | none => .error .deviceTimeNotAuthoritative
    | some trustedNow => .ok (statement, trustedNow)
  | _ => .error .deviceTimeNotAuthoritative

/-- `EdgeTrustedTimeAnchorVerifier.admit`. -/
def admitAnchor (edge : Verification κ σ) (candidate : Option (RawSignedAnchor σ))
    (identity : EdgeIdentity) (reading : MonotonicReading) :
    Except AnchorRefusal (AnchorStatement × String) :=
  match candidate with
  | none => .error .noAnchor
  | some raw =>
    match raw.parse with
    | none => .error .anchorMalformed
    | some signed =>
      let statement := signed.statement
      match edge.keyring with
      | none => .error .keyringUnavailable
      | some resolve =>
        match resolve statement.signerKeyId with
        | none => .error .signerKeyUnknown
        | some key =>
          if !edge.verifySignature key (canonicalEdgeTrustedTimeAnchorStatement statement)
              signed.signature then
            .error .signatureNotVerified
          else if statement.edgeId ≠ identity.edgeId ∨
              statement.organisationId ≠ identity.organisationId ∨
              !identity.authorisedSiteIds.contains statement.siteId then
            .error .anchorBindingMismatch
          else if statement.edgeBootId ≠ reading.bootId then .error .bootIdentityChanged
          else if reading.monotonicMs < statement.edgeMonotonicAtAnchor then
            .error .monotonicWentBackwards
          else admitVerified statement reading

/-! ## Central -/

/-- `EdgeTrustedTimeEvidence`, as it arrives. -/
structure RawEvidence (σ : Type) where
  signedAnchor : RawSignedAnchor σ
  edgeBootId : String
  edgeMonotonicAtObservation : Int

/-- `EdgeTrustedTimeEvidence`, parsed. -/
structure Evidence (σ : Type) where
  signedAnchor : SignedAnchor σ
  edgeBootId : String
  edgeMonotonicAtObservation : Int

/-- `EdgeTrustedTimeEvidenceSchema`. -/
def RawEvidence.parse (raw : RawEvidence σ) : Option (Evidence σ) :=
  if !isScopedId raw.edgeBootId || !isMonotonicReading raw.edgeMonotonicAtObservation then none
  else
    raw.signedAnchor.parse.map fun signedAnchor =>
      { signedAnchor
        edgeBootId := raw.edgeBootId
        edgeMonotonicAtObservation := raw.edgeMonotonicAtObservation }

/-- The fields of `AuthenticatedEdgeContext` that the verifier compares. -/
structure EdgeContext where
  edgeId : String
  organisationId : String
  siteId : String

/-- `EdgeTrustedTimeVerificationRefusal`. -/
inductive VerificationRefusal
  | evidenceAbsent | evidenceMalformed | keyringUnavailable | signerKeyUnknown
  | anchorSignatureInvalid | anchorEdgeMismatch | anchorOrganisationMismatch | anchorSiteMismatch
  | anchorBootMismatch | monotonicWentBackwards | derivedTimeAfterAnchorExpiry
  | receiptTimeDisagreesWithDerivation

/-- `VerifiedEdgeTrustedTimeEvidence`. -/
structure VerifiedEvidence where
  anchorId : String
  anchorFingerprint : String
  signerKeyId : String
  verifiedTrustedTime : Int
  edgeMonotonicPosition : Int
deriving DecidableEq

theorem AnchorStatement.instants :
    ∃ issued valid, JsDate.parse statement.serverIssuedAt = some issued ∧
      JsDate.parse statement.serverValidUntil = some valid ∧ issued < valid := by
  have hparses := statement.parses
  simp only [StatementFields.parses, Bool.and_eq_true] at hparses
  have hwindow := hparses.2
  unfold isInstantWindow at hwindow
  split at hwindow
  · rename_i issued valid hissued hvalid
    exact ⟨issued, valid, hissued, hvalid, (of_decide_eq_true hwindow).1⟩
  · cases hwindow

def AnchorStatement.issuedMs : Int :=
  (JsDate.parse statement.serverIssuedAt).get (by
    obtain ⟨issued, _, h, -⟩ := statement.instants
    rw [h]
    rfl)

def AnchorStatement.validUntilMs : Int :=
  (JsDate.parse statement.serverValidUntil).get (by
    obtain ⟨_, valid, -, h, -⟩ := statement.instants
    rw [h]
    rfl)

/-- The derivation of `verify`, once the anchor is known to be central's and about the caller.
    `digest` is SHA-256. -/
def derive (digest : String → String) (value : Evidence σ) (claimed : Option String) :
    Except VerificationRefusal VerifiedEvidence :=
  let statement := value.signedAnchor.statement
  let elapsedMs := value.edgeMonotonicAtObservation - statement.edgeMonotonicAtAnchor
  let derivedMs := statement.issuedMs + elapsedMs
  if statement.validUntilMs < derivedMs then .error .derivedTimeAfterAnchorExpiry
  else
    match claimed with
    | none => .error .receiptTimeDisagreesWithDerivation
    | some claimed =>
      if JsDate.parse claimed ≠ some derivedMs then .error .receiptTimeDisagreesWithDerivation
      else
        .ok
          { anchorId := statement.anchorId
            anchorFingerprint := digest (canonicalEdgeTrustedTimeAnchorStatement statement)
            signerKeyId := statement.signerKeyId
            verifiedTrustedTime := derivedMs
            edgeMonotonicPosition := value.edgeMonotonicAtObservation }

/-- `CentralEdgeTrustedTimeVerifier.verify`; `claimed` is the receipt's `edge_trusted_time`. -/
def verify (central : Verification κ σ) (digest : String → String) (context : EdgeContext)
    (evidence : Option (RawEvidence σ)) (claimed : Option String) :
    Except VerificationRefusal VerifiedEvidence :=
  match evidence with
  | none => .error .evidenceAbsent
  | some raw =>
    match raw.parse with
    | none => .error .evidenceMalformed
    | some value =>
      let statement := value.signedAnchor.statement
      match central.keyring with
      | none => .error .keyringUnavailable
      | some resolve =>
        match resolve statement.signerKeyId with
        | none => .error .signerKeyUnknown
        | some key =>
          if !central.verifySignature key (canonicalEdgeTrustedTimeAnchorStatement statement)
              value.signedAnchor.signature then
            .error .anchorSignatureInvalid
          else if statement.edgeId ≠ context.edgeId then .error .anchorEdgeMismatch
          else if statement.organisationId ≠ context.organisationId then
            .error .anchorOrganisationMismatch
          else if statement.siteId ≠ context.siteId then .error .anchorSiteMismatch
          else if value.edgeBootId ≠ statement.edgeBootId then .error .anchorBootMismatch
          else if value.edgeMonotonicAtObservation < statement.edgeMonotonicAtAnchor then
            .error .monotonicWentBackwards
          else derive digest value claimed

end Sentinel.EdgeTrustedTime
