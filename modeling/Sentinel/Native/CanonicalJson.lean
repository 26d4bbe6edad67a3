import Sentinel.ForStd.JsText
import Sentinel.ForStd.JsonText

/-! # Canonical JSON

`sortKeysDeep` and `canonicalJson`, of which `services/core-api` holds one copy in each module that
compares requests (`patrol.repository.ts` among them). -/

namespace Sentinel.CanonicalJson

/-- A JSON value; a number is its text. -/
abbrev Json := JsonText.Json Char

def keyUnits (key : List Char) : List Nat := key.flatMap JsText.codeUnits

/-- The entries by `Array.prototype.sort` of their keys. -/
def sortEntries (members : List (List Char × Json)) : List (List Char × Json) :=
  members.insertionSort fun a b => keyUnits a.1 ≤ keyUnits b.1

/-- The number of a decimal text without leading zeros. -/
def decimal? (key : List Char) : Option Nat :=
  if key ≠ [] ∧ key.all Char.isDigit ∧ (key.head? = some '0' → key = ['0']) then
    some (key.foldl (fun n c => 10 * n + (c.toNat - '0'.toNat)) 0)
  else none

def arrayIndex? (key : List Char) : Option Nat := (decimal? key).filter (· < 2 ^ 32 - 1)

/-- The order in which an object built of these entries lists its properties: array indices first,
    ascending, and then the other keys as they came. -/
def fromEntries (members : List (List Char × Json)) : List (List Char × Json) :=
  ((members.filter fun entry => (arrayIndex? entry.1).isSome).insertionSort
    fun a b => (arrayIndex? a.1).getD 0 ≤ (arrayIndex? b.1).getD 0) ++
    members.filter fun entry => (arrayIndex? entry.1).isNone

mutual
def sortKeysDeep : Json → Json
  | .array elements => .array (sortKeysElements elements)
  | .object members => .object (fromEntries (sortEntries (sortKeysMembers members)))
  | .literal lexeme => .literal lexeme
  | .string text => .string text

def sortKeysElements : List Json → List Json
  | [] => []
  | element :: elements => sortKeysDeep element :: sortKeysElements elements

def sortKeysMembers : List (List Char × Json) → List (List Char × Json)
  | [] => []
  | (key, value) :: members => (key, sortKeysDeep value) :: sortKeysMembers members
end

def canonicalJson (value : Json) : String :=
  String.ofList (JsonText.print (JsonText.Quoting.plain Char) (sortKeysDeep value))

/-- The order of the keys is not part of a value. -/
example : canonicalJson (.object [(['b'], .literal ['1']), (['a'], .object [])]) =
    canonicalJson (.object [(['a'], .object []), (['b'], .literal ['1'])]) := by decide +kernel

end Sentinel.CanonicalJson
