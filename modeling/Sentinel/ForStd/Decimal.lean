import Mathlib.Algebra.Group.Int.Defs
import Mathlib.Algebra.Group.Nat.Defs
import Sentinel.ForStd.JsonText

/-! # Decimal integers

The decimal text of an integer, as the standard libraries of most languages print it,
and the reader that gives the integer back. -/

namespace Decimal

/-- `-` for a negative number, then the digits. -/
def digits (n : Int) : List Char :=
  if n < 0 then '-' :: Nat.toDigits 10 n.natAbs else Nat.toDigits 10 n.natAbs

/-- A non-empty run of digits. -/
def natural (text : List Char) : Option Nat :=
  if text ≠ [] ∧ text.all Char.isDigit then some (Nat.ofDigitChars 10 text 0) else none

/-- An optional sign, then a non-empty run of digits. -/
def value : List Char → Option Int
  | '-' :: text => (natural text).map fun n : Nat => -(n : Int)
  | '+' :: text => (natural text).map fun n : Nat => (n : Int)
  | text => (natural text).map fun n : Nat => (n : Int)

theorem natural_toDigits (n : Nat) : natural (Nat.toDigits 10 n) = some n := by
  have hdigits : (Nat.toDigits 10 n).all Char.isDigit = true := by
    rw [List.all_eq_true]
    exact fun c hc => Nat.isDigit_of_mem_toDigits (by omega) (by omega) hc
  rw [natural, if_pos ⟨Nat.toDigits_ne_nil, hdigits⟩, Nat.ofDigitChars_ten_toDigits]

/-- Text that starts with a digit has no sign. -/
theorem value_of_isDigit {c : Char} {text : List Char} (hc : c.isDigit = true) :
    value (c :: text) = (natural (c :: text)).map fun n : Nat => (n : Int) := by
  have hsign : c ≠ '-' ∧ c ≠ '+' := by
    constructor <;> rintro rfl <;> exact absurd hc (by decide)
  unfold value
  split
  next h => exact absurd (List.cons.inj h).1 hsign.1
  next h => exact absurd (List.cons.inj h).1 hsign.2
  next => rfl

theorem value_toDigits (n : Nat) : value (Nat.toDigits 10 n) = some (n : Int) := by
  obtain ⟨c, text, htext⟩ := List.exists_cons_of_ne_nil (Nat.toDigits_ne_nil (n := n) (b := 10))
  have hc : c.isDigit = true :=
    Nat.isDigit_of_mem_toDigits (by omega) (by omega) (htext ▸ List.mem_cons_self)
  rw [htext, value_of_isDigit hc, ← htext, natural_toDigits, Option.map_some]

/-- The printed digits give the number back. -/
theorem value_digits (n : Int) : value (digits n) = some n := by
  unfold digits
  split
  next hneg =>
    rw [value, natural_toDigits, Option.map_some, Option.some.injEq]
    omega
  next hneg =>
    rw [value_toDigits, Option.some.injEq]
    omega

theorem digits_injective {m n : Int} (h : digits m = digits n) : m = n := by
  have hvalue := value_digits m
  rw [h, value_digits] at hvalue
  exact (Option.some.inj hvalue).symm

theorem digits_ne_nil (n : Int) : digits n ≠ [] := by
  unfold digits
  split
  · exact List.cons_ne_nil _ _
  · exact Nat.toDigits_ne_nil

/-- The digits of a number are characters of a JSON token. -/
theorem isLexeme_of_mem_digits {n : Int} {c : Char} (hc : c ∈ digits n) :
    JsonText.isLexeme c.toNat = true := by
  have hdigit : ∀ d : Char, d.isDigit = true → JsonText.isLexeme d.toNat = true := by
    intro d hd
    simp only [Char.isDigit, Bool.and_eq_true, decide_eq_true_eq] at hd
    have hlower : 48 ≤ d.toNat := hd.1
    have hupper : d.toNat ≤ 57 := hd.2
    simp [JsonText.isLexeme, hlower, hupper]
  unfold digits at hc
  split at hc
  · rcases List.mem_cons.mp hc with rfl | hc
    · decide
    · exact hdigit c (Nat.isDigit_of_mem_toDigits (by omega) (by omega) hc)
  · exact hdigit c (Nat.isDigit_of_mem_toDigits (by omega) (by omega) hc)

end Decimal
