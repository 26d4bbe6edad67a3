import Sentinel.ForStd.Base64url
import Sentinel.ForStd.BigEndian

/-! # The device signature profile

The wire form of a P-256 signature and of a P-256 public key
(`packages/contracts/src/device-signature.ts`).  Text is UTF-16, a `bigint` is an integer, and no
curve arithmetic is done: whether a point is on the curve is the runtime verifier's question. -/

namespace Sentinel.DeviceSignature

abbrev Text := List UInt16

/-! ## Curve constants -/

def p256CurveOrder : Int := 0xFFFFFFFF00000000FFFFFFFFFFFFFFFFBCE6FAADA7179E84F3B9CAC2FC632551

def p256HalfCurveOrder : Int := 0x7FFFFFFF800000007FFFFFFFFFFFFFFFDE737D56D38BCF4279DCE5617E3192A8

def p256FieldPrime : Int := 0xFFFFFFFF00000001000000000000000000000000FFFFFFFFFFFFFFFFFFFFFFFF

def p256ScalarBytes : Nat := 32

def p256SignatureBytes : Nat := p256ScalarBytes * 2

def p256PublicKeyUncompressedPrefix : UInt8 := 0x04

def p256PublicKeyBytes : Nat := 65

/-! ## Bytes -/

def bytesToBigInt (bytes : List UInt8) : Int := BigEndian.value bytes

/-- The last 32 bytes of a value that is not negative. -/
def bigIntToScalarBytes (value : Int) : List UInt8 := BigEndian.bytes p256ScalarBytes value.toNat

/-- The checks both decoders begin with: no padding, base64url digits alone, and a text that is what
    its bytes are encoded as. -/
def canonicalBytes {ε : Type} (padded notBase64url notCanonical : ε) (value : Text) :
    Except ε (List UInt8) :=
  if value.contains 0x3d then .error padded
  else if !value.all Base64url.isDigit then .error notBase64url
  else
    let decoded := Base64url.decode value
    if Base64url.encode decoded ≠ value then .error notCanonical else .ok decoded

/-! ## Signatures -/

inductive SignatureRejection
  | encodingNotBase64url | encodingPadded | encodingNotCanonical | wrongLength | rOutOfRange
  | sOutOfRange | sNotLow

structure SignatureScalars where
  r : Int
  s : Int
  bytes : List UInt8

def decodeCanonicalP256Signature (value : Text) : Except SignatureRejection SignatureScalars :=
  match canonicalBytes .encodingPadded .encodingNotBase64url .encodingNotCanonical value with
  | .error rejection => .error rejection
  | .ok bytes =>
    if bytes.length ≠ p256SignatureBytes then .error .wrongLength
    else
      let r := bytesToBigInt (bytes.take p256ScalarBytes)
      let s := bytesToBigInt (bytes.drop p256ScalarBytes)
      if r < 1 ∨ p256CurveOrder ≤ r then .error .rOutOfRange
      else if s < 1 ∨ p256CurveOrder ≤ s then .error .sOutOfRange
      else if p256HalfCurveOrder < s then .error .sNotLow
      else .ok { r, s, bytes }

def isLowS (s : Int) : Bool := 1 ≤ s ∧ s ≤ p256HalfCurveOrder

/-- `lowSCanonicaliseForSigning`; the error is the `RangeError`'s message. -/
def lowSCanonicaliseForSigning (s : Int) : Except String Int :=
  if s < 1 ∨ p256CurveOrder ≤ s then .error "s is outside the P-256 scalar range"
  else .ok (if p256HalfCurveOrder < s then p256CurveOrder - s else s)

/-- `encodeCanonicalP256Signature`; the error is the `RangeError`'s message. -/
def encodeCanonicalP256Signature (r s : Int) : Except String Text :=
  if r < 1 ∨ p256CurveOrder ≤ r then .error "r is outside the P-256 scalar range"
  else if !isLowS s then
    .error "s must be low-S; canonicalise on the signer before encoding"
  else .ok (Base64url.encode (bigIntToScalarBytes r ++ bigIntToScalarBytes s))

/-! ## Public keys -/

inductive PublicKeyRejection
  | encodingNotBase64url | encodingPadded | encodingNotCanonical | wrongLength
  | notUncompressedPoint | coordinateOutOfRange

structure PublicKeyPoint where
  x : Int
  y : Int
  bytes : List UInt8

def decodeCanonicalP256PublicKey (value : Text) : Except PublicKeyRejection PublicKeyPoint :=
  match canonicalBytes .encodingPadded .encodingNotBase64url .encodingNotCanonical value with
  | .error rejection => .error rejection
  | .ok bytes =>
    if bytes.length ≠ p256PublicKeyBytes then .error .wrongLength
    else if bytes.head? ≠ some p256PublicKeyUncompressedPrefix then .error .notUncompressedPoint
    else
      let x := bytesToBigInt ((bytes.drop 1).take p256ScalarBytes)
      let y := bytesToBigInt (bytes.drop (1 + p256ScalarBytes))
      if p256FieldPrime ≤ x ∨ p256FieldPrime ≤ y then .error .coordinateOutOfRange
      else if x = 0 ∧ y = 0 then .error .coordinateOutOfRange
      else .ok { x, y, bytes }

end Sentinel.DeviceSignature
