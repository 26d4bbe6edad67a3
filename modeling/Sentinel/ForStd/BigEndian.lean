import Mathlib.Data.Nat.Basic
import Mathlib.Data.List.Induction
import Mathlib.Tactic.Ring

/-! # Big-endian numbers

Key results:
* `value_bytes`  the bytes of a number that fits read back as the number
* `bytes_value`  a list of bytes is the bytes of its number -/

namespace BigEndian

/-- The number that some bytes spell, the first of them the most significant. -/
def value (bytes : List UInt8) : Nat := bytes.foldl (fun n byte => 256 * n + byte.toNat) 0

/-- The last `width` bytes of a number. -/
def bytes : Nat → Nat → List UInt8
  | 0, _ => []
  | width + 1, n => bytes width (n / 256) ++ [UInt8.ofNat n]

@[simp] theorem value_nil : value [] = 0 := rfl

@[simp] theorem value_concat (l : List UInt8) (b : UInt8) :
    value (l ++ [b]) = 256 * value l + b.toNat := by
  rw [value, List.foldl_append]
  rfl

@[simp] theorem length_bytes (width n : Nat) : (bytes width n).length = width := by
  induction width generalizing n with
  | zero => rfl
  | succ width ih => rw [bytes, List.length_append, ih, List.length_singleton]

theorem value_lt (l : List UInt8) : value l < 256 ^ l.length := by
  induction l using List.reverseRecOn with
  | nil => decide
  | append_singleton l b ih =>
    have hb := b.toNat_lt
    rw [value_concat, List.length_append, List.length_singleton, pow_succ]
    omega

theorem value_bytes {width n : Nat} (h : n < 256 ^ width) : value (bytes width n) = n := by
  induction width generalizing n with
  | zero =>
    rw [pow_zero] at h
    rw [bytes, value_nil]
    omega
  | succ width ih =>
    have hquot : n / 256 < 256 ^ width := by
      rw [pow_succ] at h
      exact Nat.div_lt_of_lt_mul (by omega)
    rw [bytes, value_concat, ih hquot, UInt8.toNat_ofNat']
    omega

theorem bytes_value (l : List UInt8) : bytes l.length (value l) = l := by
  induction l using List.reverseRecOn with
  | nil => rfl
  | append_singleton l b ih =>
    have hb := b.toNat_lt
    have hquot : (256 * value l + b.toNat) / 256 = value l := by omega
    have hlast : UInt8.ofNat (256 * value l + b.toNat) = b := by
      rw [← UInt8.toNat_inj, UInt8.toNat_ofNat']
      omega
    rw [value_concat, List.length_append, List.length_singleton, bytes, hquot, hlast, ih]

theorem value_cons (b : UInt8) (l : List UInt8) :
    value (b :: l) = b.toNat * 256 ^ l.length + value l := by
  induction l using List.reverseRecOn with
  | nil => simp [value]
  | append_singleton l c ih =>
    rw [← List.cons_append, value_concat, value_concat, ih, List.length_append, List.length_singleton,
      pow_succ]
    ring

/-- As many bytes that spell one number are one. -/
theorem value_injective {l m : List UInt8} (hlength : l.length = m.length)
    (h : value l = value m) : l = m := by
  rw [← bytes_value l, hlength, h, bytes_value]

theorem value_padded (pad : Nat) (l : List UInt8) : value (List.replicate pad 0 ++ l) = value l := by
  induction pad with
  | zero => rfl
  | succ pad ih =>
    rw [List.replicate_succ, List.cons_append, value_cons, ih, UInt8.toNat_zero, Nat.zero_mul,
      Nat.zero_add]

/-- More bytes than a number needs are zeros before those it needs. -/
theorem bytes_add {width n : Nat} (h : n < 256 ^ width) (pad : Nat) :
    bytes (pad + width) n = List.replicate pad 0 ++ bytes width n := by
  have hwide : n < 256 ^ (pad + width) :=
    h.trans_le (Nat.pow_le_pow_right (by decide) (Nat.le_add_left _ _))
  apply value_injective
  · simp
  · rw [value_padded, value_bytes hwide, value_bytes h]

end BigEndian
