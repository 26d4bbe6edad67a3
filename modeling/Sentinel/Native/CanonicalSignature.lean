import Mathlib.Data.Nat.Size
import Sentinel.ForStd.Base64url
import Sentinel.ForStd.BigEndian

/-! # The wire form of a hardware signature

What the handheld makes of the signature that its keystore returns
(`field-mobile-android/.../security/CanonicalSignature.kt`).  A `ByteArray` is a list of octets, and
an access outside one is an end of its own beside the exception that every refusal throws.  An `Int`
is a natural number: no sum leaves its range, since the first length that is read has to be that of
the buffer. -/

namespace Sentinel.CanonicalSignature

abbrev Text := List UInt16

/-- Why a call has no value: it threw `MalformedSignature`, or it reached outside an array. -/
inductive Failure
  | malformedSignature (message : String)
  | indexOutOfBounds

abbrev Read := Except Failure

/-! ## Curve constants -/

def p256CurveOrder : Int := 0xFFFFFFFF00000000FFFFFFFFFFFFFFFFBCE6FAADA7179E84F3B9CAC2FC632551

def p256HalfCurveOrder : Int := 0x7FFFFFFF800000007FFFFFFFFFFFFFFFDE737D56D38BCF4279DCE5617E3192A8

def p256ScalarBytes : Nat := 32

def p256SignatureBytes : Nat := p256ScalarBytes * 2

structure Scalars where
  r : Int
  s : Int

/-! ## Arrays and big integers -/

/-- `array[index]`, without its sign. -/
def octetAt (array : List UInt8) (index : Nat) : Read Nat :=
  match array[index]? with
  | some octet => .ok octet.toNat
  | none => .error .indexOutOfBounds

/-- `System.arraycopy`; the array that is returned is the destination afterwards. -/
def arraycopy (source : List UInt8) (sourcePosition : Nat) (destination : List UInt8)
    (destinationPosition length : Nat) : Read (List UInt8) :=
  if source.length < sourcePosition + length ∨ destination.length < destinationPosition + length then
    .error .indexOutOfBounds
  else
    .ok (destination.take destinationPosition ++ (source.drop sourcePosition).take length ++
      destination.drop (destinationPosition + length))

/-- `BigInteger.bitLength`. -/
def bitLength (value : Int) : Nat := (if value < 0 then -value - 1 else value).toNat.size

/-- `BigInteger.toByteArray`: the fewest octets of the two's complement that keep the sign. -/
def toByteArray (value : Int) : List UInt8 :=
  let width := bitLength value / 8 + 1
  BigEndian.bytes width (value % 256 ^ width).toNat

/-! ## The signer -/

def isLowS (s : Int) : Bool := 1 ≤ s ∧ s ≤ p256HalfCurveOrder

def lowSCanonicaliseForSigning (s : Int) : Read Int :=
  if s < 1 ∨ p256CurveOrder ≤ s then
    .error (.malformedSignature "s is outside the P-256 scalar range")
  else .ok (if p256HalfCurveOrder < s then p256CurveOrder - s else s)

/-- `writeScalar`; the array that is returned is `out` afterwards. -/
def writeScalar (value : Int) (out : List UInt8) (offset : Nat) : Read (List UInt8) :=
  let raw := toByteArray value
  if p256ScalarBytes < raw.length then
    let excess := raw.length - p256ScalarBytes
    if (raw.take excess).any (· ≠ 0) then
      .error (.malformedSignature "scalar does not fit in 32 bytes")
    else arraycopy raw excess out offset p256ScalarBytes
  else arraycopy raw 0 out (offset + (p256ScalarBytes - raw.length)) raw.length

def encodeP1363 (r s : Int) : Read Text :=
  if r < 1 ∨ p256CurveOrder ≤ r then
    .error (.malformedSignature "r is outside the P-256 scalar range")
  else if !isLowS s then
    .error (.malformedSignature "s must be low-S; canonicalise on the signer before encoding")
  else do
    let bytes := List.replicate p256SignatureBytes 0
    let bytes ← writeScalar r bytes 0
    let bytes ← writeScalar s bytes p256ScalarBytes
    .ok (Base64url.encode bytes)

/-! ## The reader

`cursor` is the variable that the local functions of `parseDerSignature` share; each of them returns
what the source returns and the cursor after it. -/

def demand (condition : Prop) [Decidable condition] (message : String) : Read Unit :=
  if condition then .ok () else .error (.malformedSignature message)

def readByte (der : List UInt8) (what : String) (cursor : Nat) : Read (Nat × Nat) := do
  demand (cursor < der.length) ("truncated DER while reading " ++ what)
  let value ← octetAt der cursor
  .ok (value, cursor + 1)

/-- The loop of `readLength` over the octets of a long length. -/
def readLengthBytes (der : List UInt8) (what : String) : Nat → Nat → Nat → Read (Nat × Nat)
  | 0, length, cursor => .ok (length, cursor)
  | byteCount + 1, length, cursor => do
    let (value, cursor) ← readByte der (what ++ " length") cursor
    readLengthBytes der what byteCount ((length <<< 8) ||| value) cursor

def readLength (der : List UInt8) (what : String) (cursor : Nat) : Read (Nat × Nat) := do
  let (first, cursor) ← readByte der (what ++ " length") cursor
  if first < 0x80 then .ok (first, cursor)
  else do
    let byteCount := first &&& 0x7f
    demand (1 ≤ byteCount ∧ byteCount ≤ 2) ("unsupported DER long-form length for " ++ what)
    let (length, cursor) ← readLengthBytes der what byteCount 0 cursor
    demand (byteCount = 1 ∨ 0xff < length) ("non-minimal DER length for " ++ what)
    demand (0x80 ≤ length) ("non-minimal DER length for " ++ what)
    .ok (length, cursor)

/-- The demands of `readInteger` on the leading octets of the `length` octets at the cursor. -/
def demandShortest (der : List UInt8) (cursor length : Nat) : Read Unit := do
  let first ← octetAt der cursor
  demand (first < 0x80) "negative DER INTEGER in an ECDSA signature"
  if first = 0x00 then do
    demand (1 < length) "DER INTEGER encoded as a bare zero pad"
    let second ← octetAt der (cursor + 1)
    demand (0x80 ≤ second) "non-minimal DER INTEGER"
  else .ok ()

def readInteger (der : List UInt8) (cursor : Nat) : Read (Int × Nat) := do
  let (tag, cursor) ← readByte der "INTEGER tag" cursor
  demand (tag = 0x02) "expected a DER INTEGER"
  let (length, cursor) ← readLength der "INTEGER" cursor
  demand (0 < length) "empty DER INTEGER"
  demand (cursor + length ≤ der.length) "truncated DER INTEGER"
  demandShortest der cursor length
  let content ← arraycopy der cursor (List.replicate length 0) 0 length
  .ok (BigEndian.value content, cursor + length)

def parseDerSignature (der : List UInt8) : Read Scalars := do
  let (tag, cursor) ← readByte der "SEQUENCE tag" 0
  demand (tag = 0x30) "expected a DER SEQUENCE"
  let (sequenceLength, contentStart) ← readLength der "SEQUENCE" cursor
  demand (contentStart + sequenceLength = der.length)
    "DER SEQUENCE length does not describe the buffer"
  let (r, cursor) ← readInteger der contentStart
  let (s, cursor) ← readInteger der cursor
  demand (cursor = der.length) "trailing bytes after the DER SEQUENCE"
  demand (1 ≤ r ∧ r < p256CurveOrder) "r is outside the P-256 scalar range"
  demand (1 ≤ s ∧ s < p256CurveOrder) "s is outside the P-256 scalar range"
  .ok { r, s }

def canonicalWireSignature (derSignature : List UInt8) : Read Text := do
  let scalars ← parseDerSignature derSignature
  let low ← lowSCanonicaliseForSigning scalars.s
  encodeP1363 scalars.r low

end Sentinel.CanonicalSignature
