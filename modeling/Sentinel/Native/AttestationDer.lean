import Mathlib.Algebra.Group.Int.Defs
import Mathlib.Algebra.Group.Nat.Defs
import Mathlib.Data.Nat.Basic

/-! # The attestation reader

The reader of the tagged values of an attestation certificate
(`modules/device-enrollment-ingress/android-attestation.der.ts`).  A buffer is
a list of octets and every access to one names its index: one outside the buffer, and a loop that
uses up its rounds, are ends of their own beside the `null` every refusal returns. -/

namespace Sentinel.AttestationDer

/-- Why a reader has no value: it returned `null`, it read outside its buffer, or a loop of it had
    no round left. -/
inductive Stop
  | null | outside | rounds
deriving DecidableEq, Repr

abbrev Read := Except Stop

def octetAt (buffer : List UInt8) (index : Nat) : Read Nat :=
  match buffer[index]? with
  | some octet => .ok octet.toNat
  | none => .error .outside

/-! ## Constants -/

def tagClassUniversal : Nat := 0x00

def tagClassContext : Nat := 0x02

def universalBoolean : Nat := 0x01

def universalInteger : Nat := 0x02

def universalOctetString : Nat := 0x04

def universalObjectIdentifier : Nat := 0x06

def universalEnumerated : Nat := 0x0a

def universalSequence : Nat := 0x10

def universalSet : Nat := 0x11

def maxIntegerBytes : Nat := 6

/-! ## One tagged value -/

structure DerNode where
  tagClass : Nat
  constructed : Bool
  tagNumber : Nat
  content : List UInt8
  totalLength : Nat
deriving DecidableEq

/-- The loop over the octets of a tag number above 30: the number, and the index after it. -/
def readTagNumber (buffer : List UInt8) : Nat → Nat → Nat → Nat → Read (Nat × Nat)
  | 0, _, _, _ => .error .rounds
  | rounds + 1, cursor, tagNumber, shifted =>
    if buffer.length ≤ cursor then .error .null
    else do
      let octet ← octetAt buffer cursor
      if shifted = 0 ∧ octet = 0x80 then .error .null
      else if 4 < shifted + 1 then .error .null
      else if octet &&& 0x80 = 0 then .ok (tagNumber * 128 + (octet &&& 0x7f), cursor + 1)
      else readTagNumber buffer rounds (cursor + 1) (tagNumber * 128 + (octet &&& 0x7f)) (shifted + 1)

/-- The tag number that an identifier octet starts, and the index after it. -/
def readIdentifier (buffer : List UInt8) (offset identifier : Nat) : Read (Nat × Nat) :=
  if identifier &&& 0x1f = 0x1f then readTagNumber buffer 5 (offset + 1) 0 0
  else .ok (identifier &&& 0x1f, offset + 1)

def readLengthOctets (buffer : List UInt8) (cursor lengthOctets : Nat) : Read Nat :=
  (List.range lengthOctets).foldlM
    (fun length index => do
      let octet ← octetAt buffer (cursor + index)
      pure (length * 256 + octet)) 0

/-- The length of a value and the index of its content. -/
def readLength (buffer : List UInt8) (cursor : Nat) : Read (Nat × Nat) :=
  if buffer.length ≤ cursor then .error .null
  else do
    let firstLengthOctet ← octetAt buffer cursor
    if firstLengthOctet &&& 0x80 = 0 then .ok (firstLengthOctet, cursor + 1)
    else
      let lengthOctets := firstLengthOctet &&& 0x7f
      if lengthOctets = 0 then .error .null
      else if 4 < lengthOctets then .error .null
      else if buffer.length < cursor + 1 + lengthOctets then .error .null
      else do
        let length ← readLengthOctets buffer (cursor + 1) lengthOctets
        if length < 128 then .error .null
        else do
          let leading ← octetAt buffer (cursor + 1)
          if leading = 0x00 then .error .null else .ok (length, cursor + 1 + lengthOctets)

def readDerNode (buffer : List UInt8) (offset : Int) : Read DerNode :=
  if offset < 0 ∨ buffer.length ≤ offset then .error .null
  else do
    let offset := offset.toNat
    let identifier ← octetAt buffer offset
    let (tagNumber, cursor) ← readIdentifier buffer offset identifier
    let (length, cursor) ← readLength buffer cursor
    if buffer.length < cursor + length then .error .null
    else
      .ok
        { tagClass := (identifier &&& 0xc0) >>> 6
          constructed := (identifier &&& 0x20) != 0
          tagNumber
          content := (buffer.drop cursor).take length
          totalLength := cursor + length - offset }

def readDerNodeExact (buffer : List UInt8) : Read DerNode := do
  let node ← readDerNode buffer 0
  if node.totalLength = buffer.length then .ok node else .error .null

/-! ## The values inside one -/

/-- The loop of `readDerChildren`: the children, and where they end. -/
def readChildrenFrom (content : List UInt8) : Nat → Nat → List DerNode → Read (List DerNode × Nat)
  | 0, _, _ => .error .rounds
  | rounds + 1, offset, children =>
    if offset < content.length then do
      let child ← readDerNode content offset
      if child.totalLength ≤ 0 then .error .null
      else readChildrenFrom content rounds (offset + child.totalLength) (children ++ [child])
    else .ok (children, offset)

/-- `readDerChildren`, whose loop takes an octet at least in every round but the last. -/
def readDerChildren (node : DerNode) : Read (List DerNode) :=
  if !node.constructed then .error .null
  else do
    let (children, offset) ← readChildrenFrom node.content (node.content.length + 1) 0 []
    if offset = node.content.length then .ok children else .error .null

end Sentinel.AttestationDer
