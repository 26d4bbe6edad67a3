import Sentinel.ForStd.Except
import Sentinel.ForStd.JsNumber
import Sentinel.ForStd.JsObject
import Sentinel.ForStd.Utf16

/-! # `canonicalDeviceJson`, on any value of the runtime

The checks of `assertJsonSafe`, the text of what they let through, and the value that `JSON.parse` makes
of a text (`packages/contracts/src/device-identity.ts`). -/

namespace Sentinel.DeviceCanonicalForm

open Utf16 (ascii decimal arrayIndex? wellFormed)
open JsObject (sortEntries fromEntries)

abbrev Text := List UInt16

/-- What `getOwnPropertyDescriptor` says of a property. -/
inductive Descriptor
  | undefined
  /-- Not enumerable, or with a `get` or a `set`. -/
  | hidden
  | data
deriving DecidableEq

/-- A value as reflection shows it. -/
inductive HostValue
  | undefined | null | bigint | symbol | function
  | boolean (value : Bool)
  | number (value : JsNumber)
  | negativeZero
  | string (text : Text)
  /-- An object that contains the place where it stands. -/
  | enclosing
  /-- An array: whether its prototype is `Array.prototype`, whether it has properties under symbols, what
      is at each index, and the names of its other properties but `length`. -/
  | array (genuine symbolKeyed : Bool) (cells : List (Descriptor × HostValue)) (named : List Text)
  /-- Any other object: whether its prototype is `Object.prototype` or `null`, the name of its
  constructor, whether it has properties under symbols, whether it holds what no property shows (a
  `Date`, a `Map`, private fields), and its properties as listed. -/
  | object (plain : Bool) (constructorName : Text) (symbolKeyed internal : Bool)
      (properties : List (Text × Descriptor × HostValue))

/-- The properties of an object, as they are listed. -/
abbrev Properties := List (Text × Descriptor × HostValue)

/-- An array of an array literal or of `JSON.parse`. -/
def HostValue.dense (cells : List (Descriptor × HostValue)) : HostValue := .array true false cells []

/-- An object of an object literal, of `Object.fromEntries` or of `JSON.parse`. -/
def HostValue.fresh (properties : Properties) : HostValue :=
  .object true (ascii "Object".toList) false false properties

/-! ## The checks -/

/-- The message of the `TypeError`. -/
def refusal (path : Text) (cause : String) : Text :=
  path ++ ascii (" is not canonically representable: " ++ cause).toList

mutual
/-- `assertJsonSafe`; the objects that `seen` holds are those around the value. -/
def assertJsonSafe (path : Text) : HostValue → Except Text Unit
  | .null | .string _ | .boolean _ | .number (.finite _) | .negativeZero => .ok ()
  | .number _ => .error (refusal path "non-finite number")
  | .enclosing => .error (refusal path "cyclic reference")
  | .array genuine symbolKeyed cells named =>
    -- `assertDenseJsonArray`
    if !genuine then .error (refusal path "array with a non-standard prototype")
    else if symbolKeyed then .error (refusal path "symbol-keyed property on an array")
    else
      match named with
      | name :: _ =>
        .error (refusal (path ++ 0x2e :: name) "JSON arrays carry no named properties")
      | [] => assertCells path 0 cells
  | .object plain constructorName symbolKeyed _ properties =>
    if !plain then
      .error (refusal path "" ++
        if constructorName = [] then ascii "non-plain object".toList else constructorName)
    else if symbolKeyed then .error (refusal path "symbol-keyed property")
    else assertProperties path properties
  | .undefined => .error (refusal path "undefined")
  | .bigint => .error (refusal path "bigint")
  | .symbol => .error (refusal path "symbol")
  | .function => .error (refusal path "function")

/-- The second loop of `assertDenseJsonArray`, from an index on. -/
def assertCells (path : Text) : Nat → List (Descriptor × HostValue) → Except Text Unit
  | _, [] => .ok ()
  | index, (descriptor, value) :: cells =>
    let place := path ++ 0x5b :: (decimal index ++ [0x5d])
    if descriptor = .undefined then .error (refusal place "sparse array hole")
    else if descriptor = .hidden then .error (refusal place "non-enumerable or accessor index")
    else do
      assertJsonSafe place value
      assertCells path (index + 1) cells

/-- The loop over the names of an object's properties. -/
def assertProperties (path : Text) : Properties → Except Text Unit
  | [] => .ok ()
  | (key, descriptor, value) :: properties =>
    let place := path ++ 0x2e :: key
    if descriptor = .undefined then assertProperties path properties
    else if descriptor = .hidden then
      .error (refusal place "non-enumerable or accessor property")
    else do
      assertJsonSafe place value
      assertProperties path properties
end

/-! ## The text -/

mutual
/-- The value built anew, with the properties of every object in an order. -/
def HostValue.rebuild (order : Properties → Properties) : HostValue → HostValue
  | .array _ _ cells _ => .dense (rebuildCells order cells)
  | .object _ _ _ _ properties => .fresh (order (rebuildProperties order properties))
  | value => value

def rebuildCells (order : Properties → Properties) :
    List (Descriptor × HostValue) → List (Descriptor × HostValue)
  | [] => []
  | (descriptor, value) :: cells => (descriptor, value.rebuild order) :: rebuildCells order cells

def rebuildProperties (order : Properties → Properties) : Properties → Properties
  | [] => []
  | (key, descriptor, value) :: properties =>
    (key, descriptor, value.rebuild order) :: rebuildProperties order properties
end

/-- How the properties of `sortKeysDeep` come: sorted, and listed by `Object.fromEntries`. -/
def listing (properties : Properties) : Properties := fromEntries arrayIndex? (sortEntries properties)

/-- `sortKeysDeep`, on a value that the checks let through. -/
def sortKeysDeep : HostValue → HostValue := HostValue.rebuild listing

/-- The double is 53 bits at an exponent. -/
def IsBinary64 (value : ℚ) : Prop :=
  ∃ m e : Int, |m| < 2 ^ 53 ∧ -1074 ≤ e ∧ e ≤ 971 ∧ value = m * 2 ^ e

def keywords : List Text := [ascii "null".toList, ascii "true".toList, ascii "false".toList]

/-- `Number.prototype.toString` on the finite numbers but `-0`, and the number that a numeral is: the text
    of a number is read as that number. -/
structure Numerals where
  toString : ℚ → Text
  read : Text → Option HostValue
  ne_nil (value : ℚ) : toString value ≠ []
  isLexeme (value : ℚ) : ∀ unit ∈ toString value, JsonText.isLexeme unit.toNat = true
  ne_keyword (value : ℚ) : toString value ∉ keywords
  read_toString (value : ℚ) : IsBinary64 value →
    read (toString value) = some (.number (.finite value))

variable (numerals : Numerals)

mutual
/-- A value that the checks let through, as `JSON.stringify` writes it. -/
def HostValue.toJson : HostValue → JsonText.Json UInt16
  | .boolean value => .literal (ascii (if value then "true" else "false").toList)
  | .number (.finite value) => .literal (numerals.toString value)
  | .negativeZero => .literal (numerals.toString 0)
  | .string text => .string text
  | .array _ _ cells _ => .array (toJsonCells cells)
  | .object _ _ _ _ properties => .object (toJsonProperties properties)
  | _ => .literal (ascii "null".toList)

def toJsonCells : List (Descriptor × HostValue) → List (JsonText.Json UInt16)
  | [] => []
  | (_, value) :: cells => value.toJson :: toJsonCells cells

def toJsonProperties : Properties → List (Text × JsonText.Json UInt16)
  | [] => []
  | (key, _, value) :: properties => (key, value.toJson) :: toJsonProperties properties
end

def stringify (value : HostValue) : Text := JsonText.print wellFormed (value.toJson numerals)

def canonicalDeviceJson (value : HostValue) : Except Text Text := do
  assertJsonSafe (ascii "value".toList) value
  return stringify numerals (sortKeysDeep value)

/-! ## `JSON.parse` -/

mutual
/-- The value of a JSON text, in which no object names a key twice. -/
def ofJson : JsonText.Json UInt16 → Option HostValue
  | .literal lexeme =>
    if lexeme = ascii "null".toList then some .null
    else if lexeme = ascii "true".toList then some (.boolean true)
    else if lexeme = ascii "false".toList then some (.boolean false)
    else numerals.read lexeme
  | .string text => some (.string text)
  | .array elements => (ofJsonElements elements).map .dense
  | .object members => (ofJsonMembers members).map fun properties =>
    .fresh (fromEntries arrayIndex? properties)

def ofJsonElements : List (JsonText.Json UInt16) → Option (List (Descriptor × HostValue))
  | [] => some []
  | element :: elements => do
    let value ← ofJson element
    let cells ← ofJsonElements elements
    some ((.data, value) :: cells)

def ofJsonMembers : List (Text × JsonText.Json UInt16) → Option Properties
  | [] => some []
  | (key, member) :: members => do
    let value ← ofJson member
    let properties ← ofJsonMembers members
    some ((key, .data, value) :: properties)
end

def jsonParse (text : Text) : Option HostValue := (JsonText.parse text).bind (ofJson numerals)

end Sentinel.DeviceCanonicalForm
