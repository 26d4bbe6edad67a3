import Sentinel.Native.EdgeTrustedTime
import Sentinel.ForStd.Except

/-! # Do the Edge and central derive the same time

The Edge carries central's instant forward by its monotonic counter; central repeats the computation
on the reading it is sent.  They part at the end of the anchor's validity. -/

namespace Sentinel.EdgeTrustedTime

variable {κ σ : Type}

def evidenceOf (signed : SignedAnchor σ) (reading : MonotonicReading) : RawEvidence σ :=
  { signedAnchor :=
      { statement := signed.statement.toStatementFields
        signature := some signed.signature }
    edgeBootId := reading.bootId
    edgeMonotonicAtObservation := reading.monotonicMs }

/-- The signature of an anchor verifies under the key the statement names. -/
def Verification.Verifies (side : Verification κ σ) (signed : SignedAnchor σ) : Prop :=
  ∃ resolve key, side.keyring = some resolve ∧
    resolve signed.statement.signerKeyId = some key ∧
    side.verifySignature key (canonicalEdgeTrustedTimeAnchorStatement signed.statement)
      signed.signature = true

/-- The anchor is about the caller, and the reading is of the anchor's boot. -/
structure Agrees (context : EdgeContext) (statement : AnchorStatement)
    (reading : MonotonicReading) : Prop where
  edge : statement.edgeId = context.edgeId
  organisation : statement.organisationId = context.organisationId
  site : statement.siteId = context.siteId
  boot : statement.edgeBootId = reading.bootId

variable (statement : AnchorStatement)

/-- The instant both sides compute. -/
def derivedMs (reading : MonotonicReading) : Int :=
  statement.issuedMs + (reading.monotonicMs - statement.edgeMonotonicAtAnchor)

/-- The reading at which the anchor's validity is over. -/
def endOfValidity : Int :=
  statement.edgeMonotonicAtAnchor + (statement.validUntilMs - statement.issuedMs)

/-! ## Parsed statements -/

theorem parse_serverIssuedAt : JsDate.parse statement.serverIssuedAt = some statement.issuedMs :=
  (Option.some_get _).symm

theorem parse_serverValidUntil :
    JsDate.parse statement.serverValidUntil = some statement.validUntilMs :=
  (Option.some_get _).symm

theorem issuedMs_lt : statement.issuedMs < statement.validUntilMs := by
  obtain ⟨issued, valid, hissued, hvalid, hlt⟩ := statement.instants
  rw [parse_serverIssuedAt] at hissued
  rw [parse_serverValidUntil] at hvalid
  rw [Option.some.inj hissued, Option.some.inj hvalid]
  exact hlt

theorem isMonotonicReading_anchor :
    0 ≤ statement.edgeMonotonicAtAnchor ∧ statement.edgeMonotonicAtAnchor ≤ maxSafeInteger := by
  have hparses := statement.parses
  simp only [StatementFields.parses, Bool.and_eq_true] at hparses
  exact of_decide_eq_true hparses.1.1.2

theorem isScopedId_boot : isScopedId statement.edgeBootId = true := by
  have hparses := statement.parses
  simp only [StatementFields.parses, Bool.and_eq_true] at hparses
  exact hparses.1.1.1.2

theorem parse_raw (signed : SignedAnchor σ) :
    RawSignedAnchor.parse { statement := signed.statement.toStatementFields
                            signature := some signed.signature } = some signed := by
  rw [RawSignedAnchor.parse, dif_pos signed.statement.parses]
  rfl

/-- Evidence about the anchor's boot parses exactly when its reading is a safe integer. -/
theorem parse_evidenceOf {signed : SignedAnchor σ} {reading : MonotonicReading}
    (hboot : signed.statement.edgeBootId = reading.bootId) :
    (evidenceOf signed reading).parse =
      if isMonotonicReading reading.monotonicMs then
        some { signedAnchor := signed
               edgeBootId := reading.bootId
               edgeMonotonicAtObservation := reading.monotonicMs }
      else none := by
  have hscoped : isScopedId reading.bootId = true := hboot ▸ isScopedId_boot signed.statement
  by_cases hreading : isMonotonicReading reading.monotonicMs = true
  · simp [RawEvidence.parse, evidenceOf, hscoped, hreading, parse_raw]
  · simp [RawEvidence.parse, evidenceOf, hscoped, hreading]

/-- The instants within an anchor's validity are instants a text can name. -/
theorem parse_toISOString_of_window {ms : Int}
    (h : statement.issuedMs ≤ ms ∧ ms ≤ statement.validUntilMs) :
    JsDate.parse (JsText.toISOString ms) = some ms := by
  have hissued := JsDate.parse_bounds (parse_serverIssuedAt statement)
  have hvalid := JsDate.parse_bounds (parse_serverValidUntil statement)
  exact JsDate.parse_toISOString ⟨by omega, by omega⟩

/-! ## The Edge -/

theorem classify_eq {statement : AnchorStatement} {reading : MonotonicReading}
    (hboot : statement.edgeBootId = reading.bootId) :
    classify (some statement) reading =
      if reading.monotonicMs < statement.edgeMonotonicAtAnchor then .monotonicNotMonotonic
      else if statement.validUntilMs ≤ derivedMs statement reading then .anchorExpired
      else .valid := by
  have hbehind : reading.monotonicMs - statement.edgeMonotonicAtAnchor < 0 ↔
      reading.monotonicMs < statement.edgeMonotonicAtAnchor := by omega
  have hderived : statement.issuedMs + (reading.monotonicMs - statement.edgeMonotonicAtAnchor) =
      derivedMs statement reading := rfl
  rw [classify, if_neg (not_not_intro hboot), parse_serverIssuedAt, parse_serverValidUntil]
  simp only [hbehind, hderived, isExpiredAt, decide_eq_true_eq]

/-- The Edge derives a time from the anchor on, and before the end of its validity. -/
theorem trustedNow_eq {statement : AnchorStatement} {reading : MonotonicReading}
    (hboot : statement.edgeBootId = reading.bootId) :
    trustedNow (some statement) reading =
      if statement.edgeMonotonicAtAnchor ≤ reading.monotonicMs ∧
          derivedMs statement reading < statement.validUntilMs then
        some (JsText.toISOString (derivedMs statement reading))
      else none := by
  rw [trustedNow, parse_serverIssuedAt, parse_serverValidUntil, classify_eq hboot]
  by_cases hmonotonic : reading.monotonicMs < statement.edgeMonotonicAtAnchor
  · rw [if_pos hmonotonic, if_pos (by decide), if_neg (by omega)]
  · rw [if_neg hmonotonic]
    by_cases hexpired : statement.validUntilMs ≤ derivedMs statement reading
    · rw [if_pos hexpired, if_pos (by decide), if_neg (by omega)]
    · rw [if_neg hexpired, if_neg (by decide), if_pos ⟨by omega, by omega⟩]
      rfl

/-- The Edge derives the instant a receipt names. -/
def Derives (reading : MonotonicReading) (receipt : String) : Prop :=
  ∃ time, trustedNow (some statement) reading = some time ∧
    JsDate.parse receipt = JsDate.parse time

theorem derives_iff {statement : AnchorStatement} {reading : MonotonicReading} {receipt : String}
    (hboot : statement.edgeBootId = reading.bootId) :
    Derives statement reading receipt ↔
      statement.edgeMonotonicAtAnchor ≤ reading.monotonicMs ∧
        derivedMs statement reading < statement.validUntilMs ∧
        JsDate.parse receipt = some (derivedMs statement reading) := by
  rw [Derives, trustedNow_eq hboot]
  have hread (h : statement.edgeMonotonicAtAnchor ≤ reading.monotonicMs ∧
      derivedMs statement reading < statement.validUntilMs) :
      JsDate.parse (JsText.toISOString (derivedMs statement reading)) =
        some (derivedMs statement reading) := by
    apply parse_toISOString_of_window statement
    rw [derivedMs] at h ⊢
    omega
  constructor
  · rintro ⟨time, htime, hreceipt⟩
    split at htime
    · rename_i hwindow
      obtain rfl := Option.some.inj htime
      exact ⟨hwindow.1, hwindow.2, hreceipt.trans (hread hwindow)⟩
    · cases htime
  · rintro ⟨hmonotonic, hvalid, hreceipt⟩
    rw [if_pos ⟨hmonotonic, hvalid⟩]
    exact ⟨_, rfl, hreceipt.trans (hread ⟨hmonotonic, hvalid⟩).symm⟩

/-- Central accepts a receipt's time on the evidence. -/
def Accepts (central : Verification κ σ) (digest : String → String) (context : EdgeContext)
    (signed : SignedAnchor σ) (reading : MonotonicReading) (receipt : String) : Prop :=
  ∃ verified, verify central digest context (some (evidenceOf signed reading)) (some receipt) =
    .ok verified

variable {central : Verification κ σ} {digest : String → String} {context : EdgeContext}
  {signed : SignedAnchor σ} {reading : MonotonicReading}

/-- Central accepts the derived instant from the anchor on, the end of its validity included. -/
theorem accepts_iff {receipt : String} (hsigned : central.Verifies signed)
    (hagrees : Agrees context signed.statement reading) :
    Accepts central digest context signed reading receipt ↔
      signed.statement.edgeMonotonicAtAnchor ≤ reading.monotonicMs ∧
        reading.monotonicMs ≤ maxSafeInteger ∧
        derivedMs signed.statement reading ≤ signed.statement.validUntilMs ∧
        JsDate.parse receipt = some (derivedMs signed.statement reading) := by
  obtain ⟨resolve, key, hkeyring, hkey, hverified⟩ := hsigned
  have hanchor := isMonotonicReading_anchor signed.statement
  have hderived : signed.statement.issuedMs +
      (reading.monotonicMs - signed.statement.edgeMonotonicAtAnchor) =
        derivedMs signed.statement reading := rfl
  rw [Accepts, verify, parse_evidenceOf hagrees.boot]
  by_cases hsafe : isMonotonicReading reading.monotonicMs = true
  · have hrange : 0 ≤ reading.monotonicMs ∧ reading.monotonicMs ≤ maxSafeInteger :=
      of_decide_eq_true hsafe
    simp only [hsafe, if_true, hkeyring, hkey, hverified, Bool.not_true, Bool.false_eq_true,
      if_false, hagrees.edge, hagrees.organisation, hagrees.site, hagrees.boot, ne_eq,
      not_true_eq_false, derive, hderived]
    by_cases hbehind : reading.monotonicMs < signed.statement.edgeMonotonicAtAnchor
    · rw [if_pos hbehind]
      exact iff_of_false (fun h => nomatch h) (by omega)
    · rw [if_neg hbehind]
      by_cases hexpired : signed.statement.validUntilMs < derivedMs signed.statement reading
      · rw [if_pos hexpired]
        exact iff_of_false (fun h => nomatch h) (by omega)
      · rw [if_neg hexpired]
        by_cases hreceipt : JsDate.parse receipt = some (derivedMs signed.statement reading)
        · rw [if_neg (not_not_intro hreceipt)]
          exact iff_of_true ⟨_, rfl⟩ ⟨by omega, hrange.2, by omega, hreceipt⟩
        · rw [if_pos hreceipt]
          exact iff_of_false (fun h => nomatch h) fun h => hreceipt h.2.2.2
  · have hrange : ¬ (0 ≤ reading.monotonicMs ∧ reading.monotonicMs ≤ maxSafeInteger) :=
      fun h => hsafe (decide_eq_true h)
    simp only [if_neg hsafe]
    exact iff_of_false (fun h => nomatch h) (by omega)

/-! ## Agreement -/

/-- The two sides agree on a reading that is not the one at which the validity ends; a reading no
    evidence can carry must lie at that end or past it. -/
def ApartFromTheEnd (reading : MonotonicReading) : Prop :=
  (reading.monotonicMs ≤ maxSafeInteger ∧ reading.monotonicMs ≠ endOfValidity statement) ∨
    (maxSafeInteger < reading.monotonicMs ∧ endOfValidity statement ≤ reading.monotonicMs)

/-- Central accepts exactly the receipt times the Edge derives, unless the reading is the one at
    which the anchor's validity ends. -/
theorem agree_iff_apart_from_the_end (central : Verification κ σ) (digest : String → String)
    (context : EdgeContext) (signed : SignedAnchor σ) (reading : MonotonicReading)
    (hsigned : central.Verifies signed) (hagrees : Agrees context signed.statement reading) :
    (∀ receipt, Accepts central digest context signed reading receipt ↔
        Derives signed.statement reading receipt) ↔
      ApartFromTheEnd signed.statement reading := by
  have hissued := issuedMs_lt signed.statement
  have hanchor := isMonotonicReading_anchor signed.statement
  have hend : derivedMs signed.statement reading = signed.statement.issuedMs +
    (reading.monotonicMs - signed.statement.edgeMonotonicAtAnchor) := rfl
  simp only [accepts_iff hsigned hagrees, derives_iff hagrees.boot, ApartFromTheEnd, endOfValidity]
  constructor
  · intro hiff
    by_contra hapart
    -- the time that only one side accepts
    have hread : JsDate.parse (JsText.toISOString (derivedMs signed.statement reading)) =
        some (derivedMs signed.statement reading) :=
      parse_toISOString_of_window signed.statement ⟨by omega, by omega⟩
    have hone := hiff (JsText.toISOString (derivedMs signed.statement reading))
    simp only [hread, and_true] at hone
    omega
  · intro hapart receipt
    constructor
    · rintro ⟨hbehind, hsafe, hvalid, hreceipt⟩
      exact ⟨hbehind, by omega, hreceipt⟩
    · rintro ⟨hbehind, hvalid, hreceipt⟩
      exact ⟨hbehind, by omega, by omega, hreceipt⟩

/-- An anchor of six hours from ten o'clock. -/
def morningAnchor : AnchorStatement where
  anchorId := "3f2b8c1e-0d4a-4e77-9a61-5b1f0c2d9e10"
  edgeId := "edge-1"
  organisationId := "org-1"
  siteId := "site-1"
  edgeBootId := "boot-1"
  edgeMonotonicAtAnchor := 5000
  serverIssuedAt := "2026-08-14T10:00:00.000Z"
  serverValidUntil := "2026-08-14T16:00:00.000Z"
  signerKeyId := "anchor-key-1"
  parses := by decide

/-- A signature as the pair of the key and the message it signs. -/
def pairs : Verification String (String × String) where
  keyring := some fun id => if id = "anchor-key-1" then some "public-key-1" else none
  verifySignature key message signature := signature = (key, message)

def signedMorning : SignedAnchor (String × String) where
  statement := morningAnchor
  signature := ("public-key-1", canonicalEdgeTrustedTimeAnchorStatement morningAnchor)

def siteContext : EdgeContext where
  edgeId := "edge-1"
  organisationId := "org-1"
  siteId := "site-1"

theorem pairs_verifies : pairs.Verifies signedMorning :=
  ⟨_, "public-key-1", rfl, if_pos rfl, by simp only [pairs, signedMorning, decide_true]⟩

theorem siteContext_agrees (monotonicMs : Int) :
    Agrees siteContext morningAnchor { monotonicMs, bootId := "boot-1" } :=
  ⟨rfl, rfl, rfl, rfl⟩

theorem agree_iff_apart_from_the_end_minute_before :
    (∀ receipt, Accepts pairs id siteContext signedMorning
        { monotonicMs := 21545000, bootId := "boot-1" } receipt ↔
        Derives morningAnchor { monotonicMs := 21545000, bootId := "boot-1" } receipt) ↔
      ApartFromTheEnd morningAnchor { monotonicMs := 21545000, bootId := "boot-1" } :=
  agree_iff_apart_from_the_end pairs id siteContext signedMorning _ pairs_verifies
    (siteContext_agrees 21545000)

/-- At the end of the validity central accepts a time the Edge no longer derives. -/
theorem central_accepts_the_end :
    Accepts pairs id siteContext signedMorning
        { monotonicMs := 21605000, bootId := "boot-1" } "2026-08-14T16:00:00.000Z" ∧
      ¬ Derives morningAnchor { monotonicMs := 21605000, bootId := "boot-1" }
        "2026-08-14T16:00:00.000Z" := by
  have hissued : morningAnchor.issuedMs = 1786701600000 := by decide
  have hvalid : morningAnchor.validUntilMs = 1786723200000 := by decide
  have hreceipt : JsDate.parse "2026-08-14T16:00:00.000Z" = some 1786723200000 := by
    decide
  have hderived : derivedMs morningAnchor { monotonicMs := 21605000, bootId := "boot-1" } =
      1786723200000 := by
    rw [derivedMs, hissued]
    rfl
  constructor
  · rw [accepts_iff pairs_verifies (siteContext_agrees 21605000)]
    show _ ∧ _ ∧ derivedMs morningAnchor _ ≤ morningAnchor.validUntilMs ∧
      _ = some (derivedMs morningAnchor _)
    rw [hderived, hvalid, hreceipt]
    exact ⟨by decide, by decide, le_refl _, rfl⟩
  · rw [derives_iff rfl, hderived, hvalid]
    omega

/-! ## From the Edge to central -/

end Sentinel.EdgeTrustedTime
