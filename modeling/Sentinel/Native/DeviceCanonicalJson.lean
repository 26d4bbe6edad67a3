import Sentinel.ForStd.JsObject
import Sentinel.ForStd.Utf16

/-! # Canonical JSON on the device and on central

A device signs the text that `CanonicalJson.kt` gives a statement, and central verifies the text that
`canonicalDeviceJson` (`packages/contracts/src/device-identity.ts`) gives it.  Both are here, over the
values both languages hold: text is UTF-16, a number is an integer, and a map is its entries in any
order. -/

namespace Sentinel.DeviceCanonicalJson

open Utf16 (isHighSurrogate isLowSurrogate ascii decimal arrayIndex? wellFormed)
open JsObject (sortEntries fromEntries)

abbrev Text := List UInt16

/-- A value of the kinds both encoders take. -/
inductive Value
  | null
  | boolean (value : Bool)
  | integer (value : Int)
  | string (text : Text)
  | list (elements : List Value)
  | map (entries : List (Text × Value))

mutual
/-- The integers are exact on both sides, and a map has one value for each of its keys. -/
def Value.Held : Value → Prop
  | .null | .boolean _ | .string _ => True
  | .integer value => value.natAbs ≤ 2 ^ 53 - 1
  | .list elements => HeldElements elements
  | .map entries => (entries.map Prod.fst).Nodup ∧ HeldEntries entries

def HeldElements : List Value → Prop
  | [] => True
  | element :: elements => element.Held ∧ HeldElements elements

def HeldEntries : List (Text × Value) → Prop
  | [] => True
  | (_, value) :: entries => value.Held ∧ HeldEntries entries
end

/-- A value that both languages hold. -/
structure HeldValue where
  value : Value
  held : value.Held

/-! ## The device: `CanonicalJson.kt` -/

/-- The letter of a two-character escape. -/
def shortForm (c : UInt16) : Option UInt16 :=
  if c = 0x22 then some 0x22
  else if c = 0x5c then some 0x5c
  else if c = 0x08 then some 0x62
  else if c = 0x09 then some 0x74
  else if c = 0x0a then some 0x6e
  else if c = 0x0c then some 0x66
  else if c = 0x0d then some 0x72
  else none

/-- `HEX`, indexed. -/
def hex (digit : Nat) : UInt16 := (ascii "0123456789abcdef".toList).getD digit 0

def unicodeEscape (c : UInt16) : Text :=
  let code := c.toNat
  [0x5c, 0x75, hex ((code >>> 12) % 16), hex ((code >>> 8) % 16), hex ((code >>> 4) % 16),
    hex (code % 16)]

/-- One unit of a string, where it is not the half of a surrogate pair. -/
def writeUnit (c : UInt16) : Text :=
  match shortForm c with
  | some letter => [0x5c, letter]
  | none =>
    if c < 0x20 then unicodeEscape c
    else if isHighSurrogate c then unicodeEscape c
    else if isLowSurrogate c then unicodeEscape c
    else [c]

/-- The loop of `writeString`: a surrogate pair is written as it stands. -/
def writeUnits : Text → Text
  | [] => []
  | [c] => writeUnit c
  | c :: low :: rest =>
    if isHighSurrogate c ∧ isLowSurrogate low then c :: low :: writeUnits rest
    else writeUnit c ++ writeUnits (low :: rest)

def writeString (value : Text) : Text := 0x22 :: (writeUnits value ++ [0x22])

mutual
/-- `write`, and so `encode`: an object's keys are written in the order of `sort()`. -/
def encode : Value → Text
  | .null => ascii "null".toList
  | .boolean value => ascii (if value then "true" else "false").toList
  | .integer value => decimal value
  | .string text => writeString text
  | .list elements => 0x5b :: ([0x2c].intercalate (encodeElements elements) ++ [0x5d])
  | .map entries =>
    0x7b :: ([0x2c].intercalate ((sortEntries (encodeEntries entries)).map fun (key, text) =>
      writeString key ++ 0x3a :: text) ++ [0x7d])

def encodeElements : List Value → List Text
  | [] => []
  | element :: elements => encode element :: encodeElements elements

def encodeEntries : List (Text × Value) → List (Text × Text)
  | [] => []
  | (key, value) :: entries => (key, encode value) :: encodeEntries entries
end

/-! ## Central: `canonicalDeviceJson` -/

mutual
/-- `sortKeysDeep`: the sorted entries go through `Object.fromEntries`. -/
def sortKeysDeep : Value → Value
  | .null => .null
  | .boolean value => .boolean value
  | .integer value => .integer value
  | .string text => .string text
  | .list elements => .list (sortKeysElements elements)
  | .map entries => .map (fromEntries arrayIndex? (sortEntries (sortKeysEntries entries)))

def sortKeysElements : List Value → List Value
  | [] => []
  | element :: elements => sortKeysDeep element :: sortKeysElements elements

def sortKeysEntries : List (Text × Value) → List (Text × Value)
  | [] => []
  | (key, value) :: entries => (key, sortKeysDeep value) :: sortKeysEntries entries
end

mutual
/-- A value as JSON, an object with its properties as they are listed. -/
def Value.toJson : Value → JsonText.Json UInt16
  | .null => .literal (ascii "null".toList)
  | .boolean value => .literal (ascii (if value then "true" else "false").toList)
  | .integer value => .literal (decimal value)
  | .string text => .string text
  | .list elements => .array (toJsonElements elements)
  | .map entries => .object (toJsonEntries entries)

def toJsonElements : List Value → List (JsonText.Json UInt16)
  | [] => []
  | element :: elements => element.toJson :: toJsonElements elements

def toJsonEntries : List (Text × Value) → List (Text × JsonText.Json UInt16)
  | [] => []
  | (key, value) :: entries => (key, value.toJson) :: toJsonEntries entries
end

def stringify (value : Value) : Text := JsonText.print wellFormed value.toJson

/-- `canonicalDeviceJson`, on values that `assertJsonSafe` lets through as they are. -/
def canonicalDeviceJson (value : Value) : Text := stringify (sortKeysDeep value)

end Sentinel.DeviceCanonicalJson
