import Sentinel.ForStd.Decimal
import Sentinel.ForStd.JsText
import Sentinel.Native.AttestationDer

/-! # Android key attestation

The extension of a certificate and the key description it carries, as
`modules/device-enrollment-ingress/android-attestation.der.ts` reads them.  An
identifier is text as its UTF-16 units. -/

namespace Sentinel.AttestationDer

/-! ## What a node is -/

variable (node : DerNode)

def isSequence : Bool :=
  node.tagClass = tagClassUniversal ∧ node.constructed ∧ node.tagNumber = universalSequence

def isSet : Bool :=
  node.tagClass = tagClassUniversal ∧ node.constructed ∧ node.tagNumber = universalSet

def isContext (tagNumber : Nat) : Bool :=
  node.tagClass = tagClassContext ∧ node.tagNumber = tagNumber

def isPrimitive (tagNumber : Nat) : Bool :=
  node.tagClass = tagClassUniversal ∧ !node.constructed ∧ node.tagNumber = tagNumber

def readDerUnsignedInteger : Read Nat :=
  if !isPrimitive node universalInteger && !isPrimitive node universalEnumerated then .error .null
  else if node.content.length = 0 ∨ maxIntegerBytes < node.content.length then .error .null
  else do
    let first ← octetAt node.content 0
    if first &&& 0x80 ≠ 0 then .error .null
    else if 1 < node.content.length ∧ first = 0x00 then do
      let second ← octetAt node.content 1
      if second &&& 0x80 = 0 then .error .null
      else .ok (node.content.foldl (fun value byte => value * 256 + byte.toNat) 0)
    else .ok (node.content.foldl (fun value byte => value * 256 + byte.toNat) 0)

def readDerBoolean : Read Bool :=
  if !isPrimitive node universalBoolean then .error .null
  else if node.content = [0x00] then .ok false
  else if node.content = [0xff] then .ok true
  else .error .null

def readDerOctetString : Read (List UInt8) :=
  if isPrimitive node universalOctetString then .ok node.content else .error .null

/-! ## Object identifiers -/

/-- `Number.parseInt(part, 10)`, with nothing for a text that starts no number. -/
def parseInt (part : List UInt16) : Option Int :=
  match (part.map fun unit => Char.ofNat unit.toNat).dropWhile JsText.isSpace with
  | '-' :: text => Decimal.value ('-' :: text.takeWhile Char.isDigit)
  | '+' :: text => Decimal.value ('+' :: text.takeWhile Char.isDigit)
  | text => Decimal.value (text.takeWhile Char.isDigit)

def maxSafeInteger : Int := 2 ^ 53 - 1

/-- The sum of two numbers below 2^53 as a double, between two of which it goes to the one that four
    divides. -/
def addDouble (a b : Nat) : Nat :=
  let sum := a + b
  if sum ≤ 2 ^ 53 then sum
  else if sum % 4 = 1 then sum - 1
  else if sum % 4 = 3 then sum + 1
  else sum

/-- The loop of `emit`, which divides in every round. -/
def base128Of : Nat → Nat → List Nat → List Nat
  | 0, _, base128 => base128
  | rounds + 1, remaining, base128 =>
    if 0 < remaining / 128 then base128Of rounds (remaining / 128) (remaining % 128 :: base128)
    else remaining % 128 :: base128

def emit (value : Nat) : List UInt8 :=
  let base128 := base128Of (value + 1) value []
  (base128.dropLast.map fun octet => UInt8.ofNat (octet ||| 0x80)) ++
    (base128.getLast?.map UInt8.ofNat).toList

def encodeObjectIdentifier (oid : List UInt16) : Read (List UInt8) :=
  match (oid.splitOn 0x2e).mapM parseInt with
  | none => .error .null
  | some parts =>
    if parts.any fun part => decide (part < 0 ∨ maxSafeInteger < part) then .error .null
    else
      match parts.map Int.toNat with
      | first :: second :: rest =>
        if 2 < first then .error .null
        else if first < 2 ∧ 40 ≤ second then .error .null
        else .ok (emit (addDouble (first * 40) second) ++ rest.flatMap emit)
      | _ => .error .null

def androidKeyAttestationExtensionOid : List UInt16 :=
  "1.3.6.1.4.1.11129.2.1.17".toList.map fun c => UInt16.ofNat c.toNat

/-! ## The extension of a certificate -/

/-- The loop over the extensions, with what it has found. -/
def findExtension (wantedOid : List UInt8) :
    List DerNode → Option (List UInt8) → Read (Option (List UInt8))
  | [], found => .ok found
  | extension :: extensionNodes, found =>
    if !isSequence extension then .error .null
    else do
      let fields ← readDerChildren extension
      match fields with
      | [extnId, last] | [extnId, _, last] =>
        if !isPrimitive extnId universalObjectIdentifier then .error .null
        else do
          let extnValue ← readDerOctetString last
          if extnId.content ≠ wantedOid then findExtension wantedOid extensionNodes found
          else if found.isSome then .error .null
          else findExtension wantedOid extensionNodes (some extnValue)
      | _ => .error .null

def findCertificateExtension (certificateDer : List UInt8) (oid : List UInt16) :
    Read (List UInt8) := do
  let wantedOid ← encodeObjectIdentifier oid
  let certificate ← readDerNodeExact certificateDer
  if !isSequence certificate then .error .null
  else
    match ← readDerChildren certificate with
    | [tbs, _, _] =>
      if !isSequence tbs then .error .null
      else do
        let tbsChildren ← readDerChildren tbs
        match tbsChildren.find? fun child => isContext child 3 && child.constructed with
        | none => .error .null
        | some extensionsHolder =>
          match ← readDerChildren extensionsHolder with
          | [extensions] =>
            if !isSequence extensions then .error .null
            else
              match ← findExtension wantedOid (← readDerChildren extensions) none with
              | none => .error .null
              | some found => .ok found
          | _ => .error .null
    | _ => .error .null

/-! ## The key description -/

def tagPurpose : Nat := 1

def tagAlgorithm : Nat := 2

def tagKeySize : Nat := 3

def tagEcCurve : Nat := 10

def tagNoAuthRequired : Nat := 503

def tagOrigin : Nat := 702

def tagRootOfTrust : Nat := 704

def tagAttestationApplicationId : Nat := 709

structure ApplicationId where
  packageNames : List String
  signatureDigests : List String
deriving DecidableEq

structure RootOfTrust where
  deviceLocked : Bool
  verifiedBootState : Nat
deriving DecidableEq

structure AuthorizationList where
  purposes : List Nat := []
  algorithm : Option Nat := none
  keySize : Option Nat := none
  ecCurve : Option Nat := none
  origin : Option Nat := none
  noAuthRequired : Bool := false
  rootOfTrust : Option RootOfTrust := none
  attestationApplicationId : Option ApplicationId := none
deriving DecidableEq

structure KeyDescription where
  attestationVersion : Nat
  attestationSecurityLevel : Nat
  keymasterVersion : Nat
  keymasterSecurityLevel : Nat
  attestationChallenge : List UInt8
  softwareEnforced : AuthorizationList
  teeEnforced : AuthorizationList
deriving DecidableEq

def parseRootOfTrust : Read RootOfTrust :=
  if !isSequence node then .error .null
  else do
    match ← readDerChildren node with
    | verifiedBootKey :: locked :: state :: hash =>
      if 1 < hash.length then .error .null
      else do
        let _ ← readDerOctetString verifiedBootKey
        let deviceLocked ← readDerBoolean locked
        let verifiedBootState ← readDerUnsignedInteger state
        let _ ← hash.mapM readDerOctetString
        .ok { deviceLocked, verifiedBootState }
    | _ => .error .null

/-- `toString('utf8')`, refused where the text does not give the octets back. -/
def decodeUtf8 (octets : List UInt8) : Read String :=
  match String.fromUTF8? ⟨octets.toArray⟩ with
  | some text => .ok text
  | none => .error .null

def toHex (octets : List UInt8) : String :=
  String.ofList (octets.flatMap fun octet =>
    [Nat.digitChar (octet.toNat / 16), Nat.digitChar (octet.toNat % 16)])

/-- A package of an application identifier: its name, its version being read alone. -/
def readPackageName (entry : DerNode) : Read String :=
  if !isSequence entry then .error .null
  else do
    match ← readDerChildren entry with
    | [packageName, version] =>
      let nameBytes ← readDerOctetString packageName
      let _ ← readDerUnsignedInteger version
      decodeUtf8 nameBytes
    | _ => .error .null

def parseAttestationApplicationId (value : List UInt8) : Read ApplicationId := do
  let root ← readDerNodeExact value
  if !isSequence root then .error .null
  else
    match ← readDerChildren root with
    | [packageSet, digestSet] =>
      if !isSet packageSet || !isSet digestSet then .error .null
      else do
        let packageEntries ← readDerChildren packageSet
        let packageNames ← packageEntries.mapM readPackageName
        let digestEntries ← readDerChildren digestSet
        let digests ← digestEntries.mapM readDerOctetString
        .ok { packageNames, signatureDigests := JsText.sort (digests.map toHex) }
    | _ => .error .null

/-- The `switch` over the tag of an entry. -/
def readAuthorization (list : AuthorizationList) (tagNumber : Nat) (value : DerNode) :
    Read AuthorizationList :=
  if tagNumber = tagPurpose then
    if !isSet value then .error .null
    else do
      let members ← readDerChildren value
      let parsed ← members.mapM readDerUnsignedInteger
      .ok { list with purposes := parsed.mergeSort }
  else if tagNumber = tagAlgorithm then do
    let algorithm ← readDerUnsignedInteger value
    .ok { list with algorithm := some algorithm }
  else if tagNumber = tagKeySize then do
    let keySize ← readDerUnsignedInteger value
    .ok { list with keySize := some keySize }
  else if tagNumber = tagEcCurve then do
    let ecCurve ← readDerUnsignedInteger value
    .ok { list with ecCurve := some ecCurve }
  else if tagNumber = tagNoAuthRequired then
    if !isPrimitive value 0x05 then .error .null
    else if value.content.length ≠ 0 then .error .null
    else .ok { list with noAuthRequired := true }
  else if tagNumber = tagOrigin then do
    let origin ← readDerUnsignedInteger value
    .ok { list with origin := some origin }
  else if tagNumber = tagRootOfTrust then do
    let rootOfTrust ← parseRootOfTrust value
    .ok { list with rootOfTrust := some rootOfTrust }
  else if tagNumber = tagAttestationApplicationId then do
    let wrapped ← readDerOctetString value
    let attestationApplicationId ← parseAttestationApplicationId wrapped
    .ok { list with attestationApplicationId := some attestationApplicationId }
  else .ok list

/-- The loop over the entries of an authorisation list, with the tag before. -/
def readAuthorizations : List DerNode → Int → AuthorizationList → Read AuthorizationList
  | [], _, list => .ok list
  | entry :: entries, previousTag, list =>
    if entry.tagClass ≠ tagClassContext ∨ !entry.constructed then .error .null
    else if entry.tagNumber ≤ previousTag then .error .null
    else do
      match ← readDerChildren entry with
      | [value] =>
        let list ← readAuthorization list entry.tagNumber value
        readAuthorizations entries entry.tagNumber list
      | _ => .error .null

def parseAuthorizationList : Read AuthorizationList :=
  if !isSequence node then .error .null
  else do
    let entries ← readDerChildren node
    readAuthorizations entries (-1) {}

/-- `parseAndroidKeyDescription`, which reads `uniqueId` and keeps nothing of it. -/
def parseAndroidKeyDescription (extensionValue : List UInt8) : Read KeyDescription := do
  let root ← readDerNodeExact extensionValue
  if !isSequence root then .error .null
  else
    match ← readDerChildren root with
    | [version, securityLevel, keymaster, keymasterLevel, challenge, uniqueId, software, tee] =>
      let attestationVersion ← readDerUnsignedInteger version
      let attestationSecurityLevel ← readDerUnsignedInteger securityLevel
      let keymasterVersion ← readDerUnsignedInteger keymaster
      let keymasterSecurityLevel ← readDerUnsignedInteger keymasterLevel
      let attestationChallenge ← readDerOctetString challenge
      let _ ← readDerOctetString uniqueId
      let softwareEnforced ← parseAuthorizationList software
      let teeEnforced ← parseAuthorizationList tee
      .ok { attestationVersion, attestationSecurityLevel, keymasterVersion, keymasterSecurityLevel,
            attestationChallenge, softwareEnforced, teeEnforced }
    | _ => .error .null

end Sentinel.AttestationDer
