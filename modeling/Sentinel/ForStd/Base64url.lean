import Mathlib.Data.List.Basic

/-! # Base64url

The unpadded text of RFC 4648 section 5 over UTF-16 units, and a decoder that skips what it
cannot read.

Key results:
* `decode_encode`      what is encoded is read back
* `isDigit_of_mem`     the text of some bytes consists of digits -/

namespace Base64url

/-- The digit of a number below 64. -/
def digit (n : Nat) : UInt16 :=
  UInt16.ofNat (if n < 26 then n + 65 else if n < 52 then n + 71 else if n < 62 then n - 4
    else if n = 62 then 45 else 95)

/-- `[A-Za-z0-9_-]`. -/
def isDigit (unit : UInt16) : Bool :=
  let n := unit.toNat
  (65 ≤ n ∧ n ≤ 90) ∨ (97 ≤ n ∧ n ≤ 122) ∨ (48 ≤ n ∧ n ≤ 57) ∨ n = 45 ∨ n = 95

/-- The number of a digit; `+` and `/` are read too. -/
def sextet? (unit : UInt16) : Option Nat :=
  let n := unit.toNat
  if 65 ≤ n ∧ n ≤ 90 then some (n - 65)
  else if 97 ≤ n ∧ n ≤ 122 then some (n - 71)
  else if 48 ≤ n ∧ n ≤ 57 then some (n + 4)
  else if n = 45 ∨ n = 43 then some 62
  else if n = 95 ∨ n = 47 then some 63
  else none

/-- Three bytes are four digits; one or two bytes at the end are two or three. -/
def encode : List UInt8 → List UInt16
  | a :: b :: c :: rest =>
    digit (a.toNat / 4) :: digit (a.toNat % 4 * 16 + b.toNat / 16) ::
      digit (b.toNat % 16 * 4 + c.toNat / 64) :: digit (c.toNat % 64) :: encode rest
  | [a, b] =>
    [digit (a.toNat / 4), digit (a.toNat % 4 * 16 + b.toNat / 16), digit (b.toNat % 16 * 4)]
  | [a] => [digit (a.toNat / 4), digit (a.toNat % 4 * 16)]
  | [] => []

/-- The bytes of some sextets; the bits left at the end are dropped. -/
def ofSextets : List Nat → List UInt8
  | w :: x :: y :: z :: rest =>
    UInt8.ofNat (w * 4 + x / 16) :: UInt8.ofNat (x % 16 * 16 + y / 4) ::
      UInt8.ofNat (y % 4 * 64 + z) :: ofSextets rest
  | [w, x, y] => [UInt8.ofNat (w * 4 + x / 16), UInt8.ofNat (x % 16 * 16 + y / 4)]
  | [w, x] => [UInt8.ofNat (w * 4 + x / 16)]
  | _ => []

def decode (text : List UInt16) : List UInt8 := ofSextets (text.filterMap sextet?)

theorem sextet?_digit {n : Nat} (h : n < 64) : sextet? (digit n) = some n := by
  revert n
  decide

theorem isDigit_digit {n : Nat} (h : n < 64) : isDigit (digit n) = true := by
  revert n
  decide

theorem ofNat_eq {n : Nat} {b : UInt8} (h : n = b.toNat) : UInt8.ofNat n = b := by
  rw [h, UInt8.ofNat_toNat]

theorem decode_encode (bytes : List UInt8) : decode (encode bytes) = bytes := by
  fun_induction encode bytes with
  | case1 a b c rest ih =>
    have ha := a.toNat_lt
    have hb := b.toNat_lt
    have hc := c.toNat_lt
    rw [decode, List.filterMap_cons_some (sextet?_digit (by omega)),
      List.filterMap_cons_some (sextet?_digit (by omega)),
      List.filterMap_cons_some (sextet?_digit (by omega)),
      List.filterMap_cons_some (sextet?_digit (by omega)), ofSextets, ← decode, ih,
      @ofNat_eq _ a (by omega), @ofNat_eq _ b (by omega), @ofNat_eq _ c (by omega)]
  | case2 a b =>
    have ha := a.toNat_lt
    have hb := b.toNat_lt
    rw [decode, List.filterMap_cons_some (sextet?_digit (by omega)),
      List.filterMap_cons_some (sextet?_digit (by omega)),
      List.filterMap_cons_some (sextet?_digit (by omega)), List.filterMap_nil, ofSextets,
      @ofNat_eq _ a (by omega), @ofNat_eq _ b (by omega)]
  | case3 a =>
    have ha := a.toNat_lt
    rw [decode, List.filterMap_cons_some (sextet?_digit (by omega)),
      List.filterMap_cons_some (sextet?_digit (by omega)), List.filterMap_nil, ofSextets,
      @ofNat_eq _ a (by omega)]
  | case4 => rfl

theorem isDigit_of_mem {bytes : List UInt8} {unit : UInt16} (h : unit ∈ encode bytes) :
    isDigit unit = true := by
  fun_induction encode bytes with
  | case1 a b c rest ih =>
    have ha := a.toNat_lt
    have hb := b.toNat_lt
    have hc := c.toNat_lt
    simp only [List.mem_cons] at h
    obtain rfl | rfl | rfl | rfl | h := h
    · exact isDigit_digit (by omega)
    · exact isDigit_digit (by omega)
    · exact isDigit_digit (by omega)
    · exact isDigit_digit (by omega)
    · exact ih h
  | case2 a b =>
    have ha := a.toNat_lt
    have hb := b.toNat_lt
    simp only [List.mem_cons, List.not_mem_nil, or_false] at h
    obtain rfl | rfl | rfl := h
    · exact isDigit_digit (by omega)
    · exact isDigit_digit (by omega)
    · exact isDigit_digit (by omega)
  | case3 a =>
    have ha := a.toNat_lt
    simp only [List.mem_cons, List.not_mem_nil, or_false] at h
    obtain rfl | rfl := h
    · exact isDigit_digit (by omega)
    · exact isDigit_digit (by omega)
  | case4 => cases h

end Base64url
