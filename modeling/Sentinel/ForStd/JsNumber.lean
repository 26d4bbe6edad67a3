import Mathlib.Data.Int.ConditionallyCompleteOrder
import Mathlib.Algebra.Order.Floor.Ring
import Mathlib.Data.Rat.Floor
import Mathlib.Tactic.Linarith
import Mathlib.Tactic.Positivity

/-! # Numbers of a JavaScript runtime

A double as the number it stands for, and the two operations and comparisons with an integer.  Of
rounding only what every binary64 rounding does is known: it keeps the order, and leaves a double
as it is.

Key results:
* `round_mem`      a rounded number stays between the integers around it
* `round_sub_neg`  a difference is not rounded to zero
* `trunc_mono`     cutting the fraction off keeps the order -/

inductive JsNumber
  | nan | negInfinity | infinity
  | finite (value : ℚ)

namespace JsNumber

/-- Finite doubles are multiples of the smallest one. -/
def IsDouble : JsNumber → Prop
  | .finite value => ∃ n : Int, value * 2 ^ 1074 = n
  | _ => True

/-- Rounding to a double: 53 bits, at an exponent a double can have. -/
structure Rounding where
  round : ℚ → ℚ
  monotone : Monotone round
  exact : ∀ n e : Int, |n| ≤ 2 ^ 53 → -1074 ≤ e → e ≤ 970 → round (n * 2 ^ e) = n * 2 ^ e

/-- Without any error. -/
def Rounding.none : Rounding where
  round := id
  monotone := monotone_id
  exact _ _ _ _ _ := rfl

variable (rounding : Rounding)

/-- `x - n`; a double far beyond the integers stays what it is, so nothing overflows. -/
def sub (x : JsNumber) (n : Int) : JsNumber :=
  match x with
  | .finite value => .finite (rounding.round (value - n))
  | x => x

def addInt (n : Int) (x : JsNumber) : JsNumber :=
  match x with
  | .finite value => .finite (rounding.round (n + value))
  | x => x

/-- `x < n`, which is false of `NaN`. -/
def lt (x : JsNumber) (n : Int) : Bool :=
  match x with
  | .nan => false
  | .negInfinity => true
  | .infinity => false
  | .finite value => value < n

/-- `x >= n`, which is false of `NaN`. -/
def ge (x : JsNumber) (n : Int) : Bool :=
  match x with
  | .nan => false
  | .negInfinity => false
  | .infinity => true
  | .finite value => n ≤ value

/-- `Number.isInteger`, with the integer. -/
def toInt? : JsNumber → Option Int
  | .finite value => if value.den = 1 then some value.num else none
  | _ => none

/-! ## Rounding -/

theorem round_int {n : Int} (h : |n| ≤ 2 ^ 53) : rounding.round n = n := by
  have hexact := rounding.exact n 0 h (by omega) (by omega)
  rwa [zpow_zero, mul_one] at hexact

/-- Between two integers of 53 bits, a number is rounded to one between them. -/
theorem round_mem {value : ℚ} {m n : Int} (hm : |m| ≤ 2 ^ 53) (hn : |n| ≤ 2 ^ 53)
    (hle : (m : ℚ) ≤ value) (hge : value ≤ n) :
    (m : ℚ) ≤ rounding.round value ∧ rounding.round value ≤ n := by
  constructor
  · rw [← round_int rounding hm]
    exact rounding.monotone hle
  · rw [← round_int rounding hn]
    exact rounding.monotone hge

/-- Two multiples of `2 ^ -p` differ by one of them at least. -/
theorem sub_le_of_lt {value : ℚ} {n k : Int} (p : Nat) (hk : value * 2 ^ p = k) (h : value < n) :
    value - n ≤ ((-1 : Int) : ℚ) * 2 ^ (-(p : Int)) := by
  have hpos : (0 : ℚ) < 2 ^ p := by positivity
  have hint : k < n * 2 ^ p := by
    have hlt := mul_lt_mul_of_pos_right h hpos
    rw [hk] at hlt
    exact_mod_cast hlt
  have hle : (k : ℚ) ≤ n * 2 ^ p - 1 := by exact_mod_cast Int.le_sub_one_of_lt hint
  rw [zpow_neg, zpow_natCast, ← div_eq_mul_inv, le_div_iff₀ hpos, sub_mul, hk]
  push_cast
  linarith

/-- The difference of a double and a larger integer is not rounded up to zero. -/
theorem round_sub_neg {value : ℚ} {n : Int} (hdouble : (JsNumber.finite value).IsDouble)
    (h : value < n) : rounding.round (value - n) < 0 := by
  obtain ⟨k, hk⟩ := hdouble
  have hround := rounding.monotone (sub_le_of_lt 1074 hk h)
  have hexact := rounding.exact (-1) (-(1074 : Nat)) (by norm_num) (by omega) (by omega)
  have hneg : ∀ p : Nat, ((-1 : Int) : ℚ) * 2 ^ (-(p : Int)) < 0 := by
    intro p
    have hpos : (0 : ℚ) < 2 ^ (-(p : Int)) := zpow_pos (by norm_num) _
    push_cast
    linarith
  rw [hexact] at hround
  exact hround.trans_lt (hneg 1074)

/-! ## Cutting the fraction off -/

/-- `ToIntegerOrInfinity`, on a finite number. -/
def trunc (value : ℚ) : Int := if 0 ≤ value then ⌊value⌋ else ⌈value⌉

@[simp] theorem trunc_intCast (n : Int) : trunc n = n := by
  rw [trunc]
  split
  · exact Int.floor_intCast n
  · exact Int.ceil_intCast n

theorem trunc_mono : Monotone trunc := by
  intro x y h
  rw [trunc, trunc]
  split
  next hx => rw [if_pos (hx.trans h)]; exact Int.floor_mono h
  next hx =>
    split
    next hy =>
      have hceil : ⌈x⌉ ≤ 0 := Int.ceil_le.mpr (by push_cast; exact (not_le.mp hx).le)
      exact hceil.trans (Int.floor_nonneg.mpr hy)
    next => exact Int.ceil_mono h

/-- Before a positive integer, a number is cut to an integer before it. -/
theorem trunc_lt {value : ℚ} {n : Int} (hn : 0 < n) (h : value < n) : trunc value < n := by
  rw [trunc]
  split
  · exact Int.floor_lt.mpr h
  next hneg =>
    have hceil : ⌈value⌉ ≤ 0 := Int.ceil_le.mpr (by push_cast; exact (not_le.mp hneg).le)
    exact hceil.trans_lt hn

end JsNumber
