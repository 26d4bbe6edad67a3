import Mathlib.Algebra.Group.Int.Defs
import Mathlib.Algebra.Group.Nat.Defs
import Mathlib.Data.List.Lex
import Mathlib.Data.List.DropRight
import Mathlib.Data.List.Sort

/-! # Text as a JavaScript runtime sees it

The order of strings, and the text of an instant. -/

namespace JsText

def codeUnits (c : Char) : List Nat :=
  if c.toNat < 0x10000 then [c.toNat]
  else [0xD800 + (c.toNat - 0x10000) / 0x400, 0xDC00 + (c.toNat - 0x10000) % 0x400]

/-- `Array.prototype.sort` on strings: by their UTF-16 code units. -/
def sort (texts : List String) : List String :=
  texts.insertionSort fun a b => a.toList.flatMap codeUnits ≤ b.toList.flatMap codeUnits

@[simp] theorem mem_sort {text : String} {texts : List String} :
    text ∈ sort texts ↔ text ∈ texts := by
  rw [sort, List.mem_insertionSort]

/-- The characters that `trim` removes: white space and line terminators. -/
def isSpace (c : Char) : Bool :=
  (0x9 ≤ c.toNat ∧ c.toNat ≤ 0xD) ∨ (0x2000 ≤ c.toNat ∧ c.toNat ≤ 0x200A) ∨
    [0x20, 0xA0, 0x1680, 0x2028, 0x2029, 0x202F, 0x205F, 0x3000, 0xFEFF].contains c.toNat

/-- `String.prototype.trim`. -/
def trim (text : String) : String :=
  String.ofList (((text.toList.dropWhile isSpace).reverse.dropWhile isSpace).reverse)

/-- `trim` takes from both ends. -/
theorem toList_trim (text : String) :
    (trim text).toList = (text.toList.dropWhile isSpace).rdropWhile isSpace := by
  rw [trim, String.toList_ofList, List.rdropWhile]

theorem dropWhile_rdropWhile {p : Char → Bool} {l : List Char} (h : l.dropWhile p = l) :
    (l.rdropWhile p).dropWhile p = l.rdropWhile p := by
  rw [List.dropWhile_eq_self_iff] at h ⊢
  intro hlen
  have hstart := List.rdropWhile_prefix p (l := l)
  rw [hstart.getElem hlen]
  exact h (hlen.trans_le hstart.length_le)

theorem trim_trim (text : String) : trim (trim text) = trim text := by
  apply String.toList_injective
  rw [toList_trim, toList_trim, dropWhile_rdropWhile (List.dropWhile_idempotent ..),
    List.rdropWhile_idempotent]

/-- Nothing is left after `trim`. -/
def isBlank (text : String) : Bool := text.toList.all isSpace

/-- What `toLowerCase` makes of a character, as far as the letters a to z go: beside A to Z
    only two characters have one of them in their image. -/
def latinLower (c : Char) : List Char :=
  if 'A' ≤ c ∧ c ≤ 'Z' then [Char.ofNat (c.toNat + 32)]
  else if c.toNat = 0x212A then ['k']
  else if c.toNat = 0x0130 then ['i', Char.ofNat 0x0307]
  else [c]

/-- `text.toLowerCase().split(/[^a-z]+/u)`, with empty pieces between two separators. -/
def words (text : String) : List (List Char) :=
  (text.toList.flatMap latinLower).splitOnP fun c => !('a' ≤ c ∧ c ≤ 'z')

/-- A natural number padded with zeros to a width. -/
def padded (width n : Nat) : String :=
  let text := toString n
  String.ofList (List.replicate (width - text.length) '0') ++ text

/-- Year, month and day of a day counted from 1970-01-01 (proleptic Gregorian). -/
def civilFromDays (days : Int) : Int × Nat × Nat :=
  -- the 400-year cycle is counted from the first of March of the year 0
  let z := days + 719468
  let era := z / 146097
  let doe := (z % 146097).toNat
  let yoe := (doe - doe / 1460 + doe / 36524 - doe / 146096) / 365
  let doy := doe - (365 * yoe + yoe / 4 - yoe / 100)
  let mp := (5 * doy + 2) / 153
  let day := doy - (153 * mp + 2) / 5 + 1
  let month := if mp < 10 then mp + 3 else mp - 9
  (yoe + era * 400 + (if month ≤ 2 then 1 else 0), month, day)

/-- `Date.prototype.toISOString` of an instant in milliseconds since the epoch. -/
def toISOString (ms : Int) : String :=
  let (year, month, day) := civilFromDays (ms / 86400000)
  let rest := (ms % 86400000).toNat
  let yearText :=
    if 0 ≤ year ∧ year ≤ 9999 then padded 4 year.toNat
    else (if year < 0 then "-" else "+") ++ padded 6 year.natAbs
  yearText ++ "-" ++ padded 2 month ++ "-" ++ padded 2 day ++ "T" ++
    padded 2 (rest / 3600000) ++ ":" ++ padded 2 (rest / 60000 % 60) ++ ":" ++
    padded 2 (rest / 1000 % 60) ++ "." ++ padded 3 (rest % 1000) ++ "Z"

example : toISOString 1786701600000 = "2026-08-14T10:00:00.000Z" := by decide +kernel

end JsText
