import Sentinel.Native.DeviceSignature

/-! # One text for each signature and each key

A text that passes the encoding checks is the base64url text of its bytes, and as many bytes as a
scalar has are the bytes of their number.  So an accepted text is written from the scalars, or the
coordinates, that it decodes to. -/

namespace Sentinel.DeviceSignature

/-! ## Bytes -/

variable {value : Text} {bytes : List UInt8} {r s : Int}

/-- A text passes the encoding checks when it is the text of the bytes it is read as. -/
theorem canonicalBytes_eq_ok_iff {ε : Type} {padded notBase64url notCanonical : ε} :
    canonicalBytes padded notBase64url notCanonical value = .ok bytes ↔
      value = Base64url.encode bytes := by
  constructor
  · intro h
    simp only [canonicalBytes] at h
    split at h
    · cases h
    · split at h
      · cases h
      · split at h
        next => cases h
        next hcanonical =>
          rw [← Except.ok.inj h]
          exact (not_not.mp hcanonical).symm
  · rintro rfl
    have hdigits : (Base64url.encode bytes).all Base64url.isDigit = true :=
      List.all_eq_true.mpr fun _ => Base64url.isDigit_of_mem
    have hpadding : (Base64url.encode bytes).contains 0x3d = false := by
      refine Bool.eq_false_iff.mpr fun hcontains => ?_
      have hdigit := Base64url.isDigit_of_mem (List.contains_iff_mem.mp hcontains)
      revert hdigit
      decide
    simp only [canonicalBytes, hpadding, hdigits, Base64url.decode_encode, Bool.false_eq_true,
      if_false, Bool.not_true, ne_eq, not_true_eq_false]

theorem length_scalarBytes (value : Int) :
    (bigIntToScalarBytes value).length = p256ScalarBytes :=
  BigEndian.length_bytes _ _

/-- Thirty-two bytes are those of their number. -/
theorem scalarBytes_bytesToBigInt (h : bytes.length = p256ScalarBytes) :
    bigIntToScalarBytes (bytesToBigInt bytes) = bytes := by
  rw [bigIntToScalarBytes, bytesToBigInt, Int.toNat_natCast, ← h, BigEndian.bytes_value]

/-- A number below `2 ^ 256` is that of its bytes. -/
theorem bytesToBigInt_scalarBytes {value : Int} (h : 0 ≤ value ∧ value < 256 ^ p256ScalarBytes) :
    bytesToBigInt (bigIntToScalarBytes value) = value := by
  have hnat : value.toNat < 256 ^ p256ScalarBytes := by
    have hcast : ((256 ^ p256ScalarBytes : Nat) : Int) = 256 ^ p256ScalarBytes := by norm_num
    omega
  rw [bytesToBigInt, bigIntToScalarBytes, BigEndian.value_bytes hnat]
  omega

/-! ## Signatures -/

/-- `1 <= r < n` and `1 <= s <= floor(n/2)`. -/
structure InRange (r s : Int) : Prop where
  r_pos : 1 ≤ r
  r_lt : r < p256CurveOrder
  s_pos : 1 ≤ s
  s_le : s ≤ p256HalfCurveOrder

def signatureBytes (r s : Int) : List UInt8 := bigIntToScalarBytes r ++ bigIntToScalarBytes s

theorem curveOrder_eq :
    p256CurveOrder = 2 * p256HalfCurveOrder + 1 ∧ 1 ≤ p256HalfCurveOrder ∧
      p256CurveOrder ≤ 256 ^ p256ScalarBytes := by
  decide

theorem length_signatureBytes (r s : Int) : (signatureBytes r s).length = p256SignatureBytes := by
  rw [signatureBytes, List.length_append, length_scalarBytes, length_scalarBytes]
  rfl

theorem signatureBytes_take (r s : Int) :
    (signatureBytes r s).take p256ScalarBytes = bigIntToScalarBytes r :=
  List.take_left' (length_scalarBytes r)

theorem signatureBytes_drop (r s : Int) :
    (signatureBytes r s).drop p256ScalarBytes = bigIntToScalarBytes s :=
  List.drop_left' (length_scalarBytes r)

/-- Sixty-four bytes are those of the two scalars they are read as. -/
theorem signatureBytes_of_length (h : bytes.length = p256SignatureBytes) :
    signatureBytes (bytesToBigInt (bytes.take p256ScalarBytes))
      (bytesToBigInt (bytes.drop p256ScalarBytes)) = bytes := by
  have hlength : bytes.length = 64 := h
  have htake : (bytes.take p256ScalarBytes).length = p256ScalarBytes := by
    rw [List.length_take, hlength]
    rfl
  have hdrop : (bytes.drop p256ScalarBytes).length = p256ScalarBytes := by
    rw [List.length_drop, hlength]
    rfl
  rw [signatureBytes, scalarBytes_bytesToBigInt htake, scalarBytes_bytesToBigInt hdrop,
    List.take_append_drop]

/-- The text of two scalars is decoded by the range checks alone. -/
theorem decode_signatureBytes (hr : 0 ≤ r ∧ r < 256 ^ p256ScalarBytes)
    (hs : 0 ≤ s ∧ s < 256 ^ p256ScalarBytes) :
    decodeCanonicalP256Signature (Base64url.encode (signatureBytes r s)) =
      if r < 1 ∨ p256CurveOrder ≤ r then .error .rOutOfRange
      else if s < 1 ∨ p256CurveOrder ≤ s then .error .sOutOfRange
      else if p256HalfCurveOrder < s then .error .sNotLow
      else .ok { r, s, bytes := signatureBytes r s } := by
  rw [decodeCanonicalP256Signature, canonicalBytes_eq_ok_iff.mpr rfl]
  simp only [length_signatureBytes, ne_eq, not_true_eq_false, if_false, signatureBytes_take,
    signatureBytes_drop, bytesToBigInt_scalarBytes hr, bytesToBigInt_scalarBytes hs]

/-- **What is accepted.**  A text decodes to two scalars when they are in range and the text is
    theirs. -/
theorem decodeSignature_eq_ok_iff {scalars : SignatureScalars} :
    decodeCanonicalP256Signature value = .ok scalars ↔
      InRange scalars.r scalars.s ∧ scalars.bytes = signatureBytes scalars.r scalars.s ∧
        value = Base64url.encode (signatureBytes scalars.r scalars.s) := by
  obtain ⟨hodd, hhalf, hfits⟩ := curveOrder_eq
  constructor
  · intro h
    unfold decodeCanonicalP256Signature at h
    split at h
    next => cases h
    next bytes hbytes =>
      have hvalue := canonicalBytes_eq_ok_iff.mp hbytes
      split at h
      next => cases h
      next hlength =>
        have hbytes := signatureBytes_of_length (not_not.mp hlength)
        simp only at h
        split at h
        next => cases h
        next hr =>
          split at h
          next => cases h
          next hs =>
            split at h
            next => cases h
            next hlow =>
              rw [← Except.ok.inj h]
              have hrange : InRange (bytesToBigInt (bytes.take p256ScalarBytes))
                  (bytesToBigInt (bytes.drop p256ScalarBytes)) :=
                ⟨by omega, by omega, by omega, by omega⟩
              exact ⟨hrange, hbytes.symm, hvalue.trans (congrArg Base64url.encode hbytes.symm)⟩
  · intro h
    have hrange := h.1
    have hr := hrange.r_pos
    have hr' := hrange.r_lt
    have hs := hrange.s_pos
    have hs' := hrange.s_le
    rw [h.2.2, decode_signatureBytes ⟨by omega, by omega⟩ ⟨by omega, by omega⟩, if_neg (by omega),
      if_neg (by omega), if_neg (by omega), ← h.2.1]

theorem encodeSignature_eq_ok_iff : encodeCanonicalP256Signature r s = .ok value ↔
      InRange r s ∧ value = Base64url.encode (signatureBytes r s) := by
  constructor
  · intro h
    unfold encodeCanonicalP256Signature at h
    split at h
    next => cases h
    next hr =>
      split at h
      next => cases h
      next hs =>
        have hlow : 1 ≤ s ∧ s ≤ p256HalfCurveOrder := by simpa [isLowS] using hs
        exact ⟨⟨by omega, by omega, hlow.1, hlow.2⟩, (Except.ok.inj h).symm⟩
  · intro h
    have hr := h.1.r_pos
    have hr' := h.1.r_lt
    have hlow : isLowS s = true := decide_eq_true ⟨h.1.s_pos, h.1.s_le⟩
    rw [encodeCanonicalP256Signature, if_neg (by omega), hlow, h.2, Bool.not_true, if_neg (by decide)]
    rfl

def signatureText (r s : Int) : Text := Base64url.encode (signatureBytes r s)

def Accepted (value : Text) : Prop := ∃ scalars, decodeCanonicalP256Signature value = .ok scalars

/-- Of the texts of valid scalars, those with the lower `s` are accepted. -/
theorem accepted_signatureText (hr : 1 ≤ r ∧ r < p256CurveOrder)
    (hs : 1 ≤ s ∧ s < p256CurveOrder) : Accepted (signatureText r s) ↔ s ≤ p256HalfCurveOrder := by
  obtain ⟨hodd, hhalf, hfits⟩ := curveOrder_eq
  have htext := @decode_signatureBytes r s ⟨by omega, by omega⟩ ⟨by omega, by omega⟩
  rw [if_neg (by omega), if_neg (by omega)] at htext
  rw [Accepted, signatureText, htext]
  by_cases hlow : p256HalfCurveOrder < s
  · rw [if_pos hlow]
    exact iff_of_false (fun ⟨_, h⟩ => nomatch h) (by omega)
  · rw [if_neg hlow]
    exact iff_of_true ⟨_, rfl⟩ (by omega)

/-- The accepted texts are the texts that are written. -/
theorem accepted_iff :
    Accepted value ↔ ∃ r s, InRange r s ∧ encodeCanonicalP256Signature r s = .ok value := by
  constructor
  · rintro ⟨scalars, h⟩
    obtain ⟨hrange, -, hvalue⟩ := decodeSignature_eq_ok_iff.mp h
    exact ⟨scalars.r, scalars.s, hrange, encodeSignature_eq_ok_iff.mpr ⟨hrange, hvalue⟩⟩
  · rintro ⟨r, s, hrange, h⟩
    have hvalue := (encodeSignature_eq_ok_iff.mp h).2
    exact ⟨⟨r, s, signatureBytes r s⟩, decodeSignature_eq_ok_iff.mpr ⟨hrange, rfl, hvalue⟩⟩

/-- What is written is read back. -/
theorem decode_encode (hrange : InRange r s) :
    ∃ value, encodeCanonicalP256Signature r s = .ok value ∧
      decodeCanonicalP256Signature value = .ok { r, s, bytes := signatureBytes r s } :=
  ⟨_, encodeSignature_eq_ok_iff.mpr ⟨hrange, rfl⟩, decodeSignature_eq_ok_iff.mpr ⟨hrange, rfl, rfl⟩⟩

/-- Two pairs of scalars with one text are one. -/
theorem encode_injective {r' s' : Int} (h : encodeCanonicalP256Signature r s = .ok value)
    (h' : encodeCanonicalP256Signature r' s' = .ok value) : r = r' ∧ s = s' := by
  obtain ⟨hrange, hvalue⟩ := encodeSignature_eq_ok_iff.mp h
  obtain ⟨hrange', hvalue'⟩ := encodeSignature_eq_ok_iff.mp h'
  have hdecode : decodeCanonicalP256Signature value = .ok ⟨r, s, signatureBytes r s⟩ :=
    decodeSignature_eq_ok_iff.mpr ⟨hrange, rfl, hvalue⟩
  have hdecode' : decodeCanonicalP256Signature value = .ok ⟨r', s', signatureBytes r' s'⟩ :=
    decodeSignature_eq_ok_iff.mpr ⟨hrange', rfl, hvalue'⟩
  have hsame := Except.ok.inj (hdecode.symm.trans hdecode')
  exact ⟨congrArg SignatureScalars.r hsame, congrArg SignatureScalars.s hsame⟩

/-- The lower of a scalar and its negative is what the signer sends for both. -/
theorem lowSCanonicaliseForSigning_eq (hs : 1 ≤ s ∧ s < p256CurveOrder) :
    lowSCanonicaliseForSigning s = .ok (min s (p256CurveOrder - s)) := by
  obtain ⟨hodd, hhalf, -⟩ := curveOrder_eq
  rw [lowSCanonicaliseForSigning, if_neg (by omega)]
  by_cases hlow : p256HalfCurveOrder < s
  · rw [if_pos hlow, min_eq_right (by omega)]
  · rw [if_neg hlow, min_eq_left (by omega)]

/-! ## Public keys -/

/-- The uncompressed point with two coordinates. -/
def pointBytes (x y : Int) : List UInt8 :=
  p256PublicKeyUncompressedPrefix :: (bigIntToScalarBytes x ++ bigIntToScalarBytes y)

theorem decodePublicKey_eq_ok {point : PublicKeyPoint}
    (h : decodeCanonicalP256PublicKey value = .ok point) :
    point.bytes = pointBytes point.x point.y ∧ value = Base64url.encode (pointBytes point.x point.y) := by
  unfold decodeCanonicalP256PublicKey at h
  split at h
  next => cases h
  next bytes hbytes =>
    have hvalue := canonicalBytes_eq_ok_iff.mp hbytes
    split at h
    next => cases h
    next hlength =>
      split at h
      next => cases h
      next hprefix =>
        simp only at h
        split at h
        next => cases h
        next =>
          split at h
          next => cases h
          next =>
            rw [← Except.ok.inj h]
            have hpoint : pointBytes (bytesToBigInt ((bytes.drop 1).take p256ScalarBytes))
                (bytesToBigInt (bytes.drop (1 + p256ScalarBytes))) = bytes := by
              cases bytes with
              | nil => exact absurd (not_not.mp hprefix) (by simp)
              | cons first coordinates =>
                have hfirst := Option.some.inj (not_not.mp hprefix)
                have hcoordinates : coordinates.length = p256SignatureBytes :=
                  Nat.succ.inj (not_not.mp hlength)
                rw [Nat.add_comm, List.drop_succ_cons, List.drop_succ_cons, List.drop_zero,
                  pointBytes, ← signatureBytes, signatureBytes_of_length hcoordinates, hfirst]
            exact ⟨hpoint.symm, hvalue.trans (congrArg Base64url.encode hpoint.symm)⟩

/-- **One representation.**  The accepted texts of signatures are those that are written for scalars
in range, and each is read back.  Of a scalar and its negative one is accepted, and the signer sends
that one for both.  A public key has one accepted text. -/
theorem single_representation :
    (∀ value, Accepted value ↔
      ∃ r s, InRange r s ∧ encodeCanonicalP256Signature r s = .ok value) ∧
    (∀ r s, InRange r s → ∃ value, encodeCanonicalP256Signature r s = .ok value ∧
      decodeCanonicalP256Signature value = .ok { r, s, bytes := signatureBytes r s }) ∧
    (∀ r s r' s' value, encodeCanonicalP256Signature r s = .ok value →
      encodeCanonicalP256Signature r' s' = .ok value → r = r' ∧ s = s') ∧
    (∀ s, 1 ≤ s → s < p256CurveOrder →
      (∀ r, 1 ≤ r → r < p256CurveOrder →
        (Accepted (signatureText r s) ↔ ¬ Accepted (signatureText r (p256CurveOrder - s)))) ∧
      ∃ low, (low = s ∨ low = p256CurveOrder - s) ∧ isLowS low = true ∧
        lowSCanonicaliseForSigning s = .ok low ∧
        lowSCanonicaliseForSigning (p256CurveOrder - s) = .ok low ∧
        lowSCanonicaliseForSigning low = .ok low) ∧
    (∀ value value' point point', decodeCanonicalP256PublicKey value = .ok point →
      decodeCanonicalP256PublicKey value' = .ok point' → point.x = point'.x → point.y = point'.y →
      value = value') := by
  obtain ⟨hodd, hhalf, -⟩ := curveOrder_eq
  refine ⟨fun _ => accepted_iff, fun _ _ => decode_encode, fun _ _ _ _ _ => encode_injective, ?_, ?_⟩
  · intro s hs hs'
    have hnegative : 1 ≤ p256CurveOrder - s ∧ p256CurveOrder - s < p256CurveOrder := by omega
    refine ⟨fun r hr hr' => ?_, min s (p256CurveOrder - s), ?_, ?_, ?_, ?_, ?_⟩
    · rw [accepted_signatureText ⟨hr, hr'⟩ ⟨hs, hs'⟩, accepted_signatureText ⟨hr, hr'⟩ hnegative]
      omega
    · omega
    · exact decide_eq_true (by omega)
    · exact lowSCanonicaliseForSigning_eq ⟨hs, hs'⟩
    · rw [lowSCanonicaliseForSigning_eq hnegative, sub_sub_cancel, min_comm]
    · rw [lowSCanonicaliseForSigning_eq (by omega)]
      exact congrArg Except.ok (by omega)
  · intro value value' point point' h h' hx hy
    rw [(decodePublicKey_eq_ok h).2, (decodePublicKey_eq_ok h').2, hx, hy]

end Sentinel.DeviceSignature
