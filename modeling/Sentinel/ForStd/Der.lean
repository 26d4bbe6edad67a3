import Mathlib.Data.Nat.Digits.Lemmas
import Mathlib.Data.Nat.Size
import Sentinel.ForStd.BigEndian

/-! # Distinguished encoding of tagged values

The octets of one tagged value: an identifier, a definite length and the content, each in the one
form the distinguished rules leave.

Key results:
* `digits_number`       digits without a leading zero are the digits of their number
* `base128_iff`         which octets carry a number seven bits each with nothing to spare
* `lengthOctets_long`   the octets of a long length are those with no leading zero -/

namespace Der

/-! ## Numbers in a base -/

/-- The number that digits spell in a base, the first of them the most significant. -/
def number (base : Nat) (l : List Nat) : Nat := l.foldl (fun n d => n * base + d) 0

/-- The digits of a number in a base, the first of them the most significant. -/
def digits (base n : Nat) : List Nat := (Nat.digits base n).reverse

theorem number_eq_ofDigits (base : Nat) (l : List Nat) :
    number base l = Nat.ofDigits base l.reverse := by
  rw [Nat.ofDigits_eq_foldr, List.foldr_reverse, number]
  congr 1
  funext n d
  rw [Nat.cast_id]
  ring

theorem number_concat (base : Nat) (l : List Nat) (d : Nat) :
    number base (l ++ [d]) = number base l * base + d := by
  rw [number, List.foldl_append]
  rfl

theorem number_digits (base n : Nat) : number base (digits base n) = n := by
  rw [number_eq_ofDigits, digits, List.reverse_reverse, Nat.ofDigits_digits]

theorem digits_number {base : Nat} (hbase : 1 < base) {l : List Nat} (hlt : ∀ d ∈ l, d < base)
    (hhead : l.head? ≠ some 0) : digits base (number base l) = l := by
  rw [number_eq_ofDigits, digits, Nat.digits_ofDigits base hbase, List.reverse_reverse]
  · intro d hd
    exact hlt d (List.mem_reverse.mp hd)
  · intro hne hlast
    rw [List.getLast_reverse] at hlast
    apply hhead
    rw [← hlast]
    exact List.head?_eq_some_head _

theorem digits_lt {base n d : Nat} (hbase : 1 < base) (hd : d ∈ digits base n) : d < base :=
  Nat.digits_lt_base hbase (List.mem_reverse.mp hd)

theorem head?_digits (base n : Nat) : (digits base n).head? ≠ some 0 := by
  intro h
  rw [digits, List.head?_reverse] at h
  by_cases hn : n = 0
  · subst hn
    simp at h
  · have hlast := Nat.getLast_digit_ne_zero base hn
    rw [List.getLast?_eq_some_getLast (Nat.digits_ne_nil_iff_ne_zero.mpr hn)] at h
    exact hlast (Option.some.inj h)

theorem length_digits_le {base n : Nat} (hbase : 1 < base) (k : Nat) :
    (digits base n).length ≤ k ↔ n < base ^ k := by
  rw [digits, List.length_reverse, Nat.digits_length_le_iff hbase]

@[simp] theorem digits_zero (base : Nat) : digits base 0 = [] := by simp [digits]

theorem digits_ne_nil {base n : Nat} (hn : n ≠ 0) : digits base n ≠ [] := by
  intro h
  rw [digits, List.reverse_eq_nil_iff] at h
  exact Nat.digits_ne_nil_iff_ne_zero.mpr hn h

/-! ## Numbers of seven bits an octet -/

/-- The octets that carry a number seven bits each, all but the last marked as followed. -/
def base128 (n : Nat) : List UInt8 :=
  (digits 128 (n / 128)).map (fun d => UInt8.ofNat (128 + d)) ++ [UInt8.ofNat (n % 128)]

/-- The number that such octets carry. -/
def value128 (octets : List UInt8) : Nat := number 128 (octets.map (fun octet => octet.toNat % 128))

theorem value128_concat (l : List UInt8) (octet : UInt8) :
    value128 (l ++ [octet]) = value128 l * 128 + octet.toNat % 128 := by
  rw [value128, List.map_append, List.map_singleton, number_concat]
  rfl

/-- The marked octets before the last are those of a number without a leading zero. -/
theorem marked_digits {l : List UInt8} (hmarked : ∀ octet ∈ l, 128 ≤ octet.toNat)
    (hhead : l.head? ≠ some 128) :
    (digits 128 (value128 l)).map (fun d => UInt8.ofNat (128 + d)) = l := by
  have hzero : (l.map (fun octet => octet.toNat % 128)).head? ≠ some 0 := by
    cases l with
    | nil => simp
    | cons octet l =>
      intro h
      have hge := hmarked octet List.mem_cons_self
      have hlt := octet.toNat_lt
      have hmod : octet.toNat % 128 = 0 := Option.some.inj h
      apply hhead
      have : octet = 128 := UInt8.toNat_inj.mp (by show octet.toNat = 128; omega)
      rw [this, List.head?_cons]
  rw [value128, digits_number (by decide) _ hzero, List.map_map]
  · rw [List.map_congr_left (g := id), List.map_id]
    intro octet hmem
    have hge := hmarked octet hmem
    have hlt := octet.toNat_lt
    apply UInt8.toNat_inj.mp
    show (UInt8.ofNat (128 + octet.toNat % 128)).toNat = octet.toNat
    rw [UInt8.toNat_ofNat']
    omega
  · intro d hd
    obtain ⟨octet, -, rfl⟩ := List.mem_map.mp hd
    omega

/-- What the octets of a number are: marked ones, then one that is not, and no empty mark first. -/
structure Carries (init : List UInt8) (last : UInt8) : Prop where
  marked : ∀ octet ∈ init, 128 ≤ octet.toNat
  unmarked : last.toNat < 128
  leading : init.head? ≠ some 128

theorem Carries.base128 {init : List UInt8} {last : UInt8} (h : Carries init last) :
    base128 (value128 (init ++ [last])) = init ++ [last] := by
  have hlast := h.unmarked
  have hdiv : value128 (init ++ [last]) / 128 = value128 init := by rw [value128_concat]; omega
  have hmod : UInt8.ofNat (value128 (init ++ [last]) % 128) = last := by
    apply UInt8.toNat_inj.mp
    rw [UInt8.toNat_ofNat', value128_concat]
    omega
  rw [Der.base128, hdiv, hmod, marked_digits h.marked h.leading]

theorem value128_base128 (n : Nat) : value128 (base128 n) = n := by
  have hdigits : value128 ((digits 128 (n / 128)).map (fun d => UInt8.ofNat (128 + d))) = n / 128 := by
    rw [value128, List.map_map, List.map_congr_left (g := id), List.map_id, number_digits]
    intro d hd
    have hlt := digits_lt (by decide) hd
    show (UInt8.ofNat (128 + d)).toNat % 128 = d
    rw [UInt8.toNat_ofNat']
    omega
  rw [base128, value128_concat, hdigits, UInt8.toNat_ofNat']
  omega

/-- Every number has octets of that kind. -/
theorem exists_carries (n : Nat) :
    ∃ init last, base128 n = init ++ [last] ∧ Carries init last := by
  refine ⟨_, _, rfl, ?_, ?_, ?_⟩
  · intro octet hmem
    obtain ⟨d, hd, rfl⟩ := List.mem_map.mp hmem
    have hlt := digits_lt (by decide) hd
    rw [UInt8.toNat_ofNat']
    omega
  · rw [UInt8.toNat_ofNat']
    omega
  · intro h
    rw [List.head?_map, Option.map_eq_some_iff] at h
    obtain ⟨d, hd, h⟩ := h
    have hlt := digits_lt (by decide) (List.mem_of_head? hd)
    have hzero : d = 0 := by
      have htoNat := congrArg UInt8.toNat h
      rw [UInt8.toNat_ofNat'] at htoNat
      change (128 + d) % 2 ^ 8 = 128 at htoNat
      omega
    exact head?_digits 128 (n / 128) (hzero ▸ hd)

theorem length_base128_le (n k : Nat) : (base128 n).length ≤ k + 1 ↔ n < 128 ^ (k + 1) := by
  rw [base128, List.length_append, List.length_map, List.length_singleton,
    Nat.add_le_add_iff_right, length_digits_le (by decide), pow_succ]
  exact Nat.div_lt_iff_lt_mul (by decide)

/-! ## Lengths -/

/-- The octets of a definite length: one below 128, else how many follow and then its digits. -/
def lengthOctets (n : Nat) : List UInt8 :=
  if n < 128 then [UInt8.ofNat n]
  else UInt8.ofNat (128 + (digits 256 n).length) :: (digits 256 n).map UInt8.ofNat

theorem value_eq_number (octets : List UInt8) :
    BigEndian.value octets = number 256 (octets.map UInt8.toNat) := by
  induction octets using List.reverseRecOn with
  | nil => rfl
  | append_singleton l octet ih =>
    rw [BigEndian.value_concat, List.map_append, List.map_singleton, number_concat, ih]
    omega

/-- Octets without a leading zero are the digits of their number. -/
theorem digits_value {octets : List UInt8} (hhead : octets.head? ≠ some 0) :
    (digits 256 (BigEndian.value octets)).map UInt8.ofNat = octets := by
  have hzero : (octets.map UInt8.toNat).head? ≠ some 0 := by
    rw [List.head?_map]
    intro h
    obtain ⟨octet, hoctet, h⟩ := Option.map_eq_some_iff.mp h
    have hzero : octet = 0 := UInt8.toNat_inj.mp h
    exact hhead (hzero ▸ hoctet)
  rw [value_eq_number, digits_number (by decide) _ hzero, List.map_map]
  · rw [List.map_congr_left (g := id), List.map_id]
    intro octet _
    exact UInt8.ofNat_toNat
  · intro d hd
    obtain ⟨octet, -, rfl⟩ := List.mem_map.mp hd
    exact octet.toNat_lt

theorem value_digits (n : Nat) : BigEndian.value ((digits 256 n).map UInt8.ofNat) = n := by
  rw [value_eq_number, List.map_map, List.map_congr_left (g := id), List.map_id, number_digits]
  intro d hd
  have hlt := digits_lt (by decide) hd
  show (UInt8.ofNat d).toNat = d
  rw [UInt8.toNat_ofNat']
  omega

theorem head?_digits_octets (n : Nat) : ((digits 256 n).map UInt8.ofNat).head? ≠ some 0 := by
  rw [List.head?_map]
  intro h
  obtain ⟨d, hd, h⟩ := Option.map_eq_some_iff.mp h
  have hlt := digits_lt (by decide) (List.mem_of_head? hd)
  have hzero : d = 0 := by
    have htoNat := congrArg UInt8.toNat h
    rw [UInt8.toNat_ofNat'] at htoNat
    change d % 2 ^ 8 = 0 at htoNat
    omega
  exact head?_digits 256 n (hzero ▸ hd)

/-- The octets of a long length without a leading zero are marked by their count. -/
theorem lengthOctets_long {octets : List UInt8} (hhead : octets.head? ≠ some 0)
    (hlong : 128 ≤ BigEndian.value octets) :
    lengthOctets (BigEndian.value octets) = UInt8.ofNat (128 + octets.length) :: octets := by
  have hdigits := digits_value hhead
  have hlength := congrArg List.length hdigits
  rw [List.length_map] at hlength
  rw [lengthOctets, if_neg (by omega), hdigits, hlength]

theorem lengthOctets_ne_nil (n : Nat) : lengthOctets n ≠ [] := by
  unfold lengthOctets
  split <;> exact List.cons_ne_nil _ _

theorem length_lengthOctets_mono {n m : Nat} (h : n ≤ m) :
    (lengthOctets n).length ≤ (lengthOctets m).length := by
  unfold lengthOctets
  by_cases hn : n < 128
  · rw [if_pos hn]
    exact List.length_pos_of_ne_nil (lengthOctets_ne_nil m)
  · rw [if_neg hn, if_neg (by omega)]
    have hdigits := Nat.le_length_digits_le 256 n m h
    simp only [List.length_cons, List.length_map, digits, List.length_reverse]
    omega

/-! ## Integers -/

/-- The content of an integer that is not negative: the fewest octets that leave its sign bit clear. -/
def integerOctets (n : Nat) : List UInt8 := BigEndian.bytes (n.size / 8 + 1) n

/-- Octets of an integer that is not negative, none of them to spare. -/
structure Shortest (octets : List UInt8) : Prop where
  nonempty : octets ≠ []
  unsigned : ∀ first ∈ octets.head?, first.toNat < 128
  needed : octets.head? = some 0 → ∀ second ∈ octets.tail.head?, 128 ≤ second.toNat

theorem pow256 (k : Nat) : 256 ^ k = 2 ^ (8 * k) := by rw [pow_mul]; norm_num

theorem size_div_eight {n k : Nat} (hlow : k = 0 ∨ 2 ^ (8 * k - 1) ≤ n) (hhigh : n < 2 ^ (8 * k + 7)) :
    n.size / 8 = k := by
  have hsize := Nat.size_le.mpr hhigh
  cases hlow with
  | inl hzero => omega
  | inr hlow =>
    have hlow := Nat.lt_size.mpr hlow
    omega

theorem Shortest.integerOctets {octets : List UInt8} (h : Shortest octets) :
    integerOctets (BigEndian.value octets) = octets := by
  obtain ⟨first, rest, rfl⟩ := List.exists_cons_of_ne_nil h.nonempty
  have hfirst := h.unsigned first rfl
  have hrest := BigEndian.value_lt rest
  have hvalue := BigEndian.value_cons first rest
  rw [pow256] at hvalue hrest
  have hhigh : BigEndian.value (first :: rest) < 2 ^ (8 * rest.length + 7) := by
    rw [hvalue, pow_add]
    have := Nat.mul_le_mul_right (2 ^ (8 * rest.length)) (Nat.le_of_lt_succ hfirst)
    omega
  have hlow : rest.length = 0 ∨ 2 ^ (8 * rest.length - 1) ≤ BigEndian.value (first :: rest) := by
    by_cases hzero : first = 0
    · cases rest with
      | nil => exact .inl rfl
      | cons second rest =>
        have hsecond := h.needed (congrArg some hzero) second rfl
        have hpow : 2 ^ (8 * (second :: rest).length - 1) = 128 * 2 ^ (8 * rest.length) := by
          rw [List.length_cons, show 8 * (rest.length + 1) - 1 = 7 + 8 * rest.length by omega, pow_add]
          rfl
        rw [hvalue, BigEndian.value_cons, pow256, hpow]
        have := Nat.mul_le_mul_right (2 ^ (8 * rest.length)) hsecond
        omega
    · have hpos : first.toNat ≠ 0 := fun h => hzero (UInt8.toNat_inj.mp h)
      have hle := Nat.pow_le_pow_right (n := 2) (by decide) (Nat.sub_le (8 * rest.length) 1)
      have := Nat.mul_le_mul_right (2 ^ (8 * rest.length)) (Nat.one_le_iff_ne_zero.mpr hpos)
      omega
  rw [Der.integerOctets, size_div_eight hlow hhigh]
  exact BigEndian.bytes_value (first :: rest)

theorem value_integerOctets (n : Nat) : BigEndian.value (integerOctets n) = n := by
  apply BigEndian.value_bytes
  rw [pow256]
  exact (Nat.lt_size_self n).trans_le (Nat.pow_le_pow_right (by decide) (by omega))

theorem shortest_integerOctets (n : Nat) : Shortest (integerOctets n) := by
  have hvalue := value_integerOctets n
  have hlength : (integerOctets n).length = n.size / 8 + 1 := BigEndian.length_bytes _ _
  obtain ⟨first, rest, hoctets⟩ :=
    List.exists_cons_of_length_pos (l := integerOctets n) (by omega)
  rw [hoctets] at hvalue hlength ⊢
  rw [List.length_cons, Nat.add_right_cancel_iff] at hlength
  rw [BigEndian.value_cons, pow256] at hvalue
  refine ⟨List.cons_ne_nil _ _, ?_, ?_⟩
  · intro first' hfirst
    cases hfirst
    by_contra hge
    have hmul := Nat.mul_le_mul_right (2 ^ (8 * rest.length)) (Nat.not_lt.mp hge)
    have hsize := Nat.size_le.mpr (Nat.lt_two_pow_self (n := n))
    have hbig : 2 ^ (7 + 8 * rest.length) ≤ n := by
      rw [pow_add]
      omega
    have := Nat.lt_size.mpr hbig
    omega
  · intro hzero second hsecond
    obtain rfl : first = 0 := Option.some.inj hzero
    cases rest with
    | nil => cases hsecond
    | cons second' rest =>
      obtain rfl : second' = second := Option.some.inj hsecond
      rw [List.length_cons] at hlength
      by_contra hlt
      have hrest := BigEndian.value_lt rest
      rw [pow256] at hrest
      rw [BigEndian.value_cons, pow256] at hvalue
      have hmul := Nat.mul_le_mul_right (2 ^ (8 * rest.length)) (Nat.le_of_lt_succ (Nat.not_le.mp hlt))
      have hsmall : n < 2 ^ (7 + 8 * rest.length) := by
        rw [pow_add]
        simp at hvalue
        omega
      have := Nat.size_le.mpr hsmall
      omega

/-! ## Tagged values -/

structure Tag where
  tagClass : Nat
  constructed : Bool
  number : Nat

/-- The identifier octet whose five low bits are given. -/
def Tag.leading (tag : Tag) (low : Nat) : UInt8 :=
  UInt8.ofNat (64 * tag.tagClass + 32 * tag.constructed.toNat + low)

/-- The identifier octets with the number after the first of them, for a number above 30. -/
def Tag.longOctets (tag : Tag) : List UInt8 := tag.leading 31 :: base128 tag.number

def Tag.octets (tag : Tag) : List UInt8 :=
  if tag.number < 31 then [tag.leading tag.number] else tag.longOctets

/-- The octets of a tagged value. -/
def encode (tag : Tag) (content : List UInt8) : List UInt8 :=
  tag.octets ++ (lengthOctets content.length ++ content)

theorem length_encode_lt {tag : Tag} {content content' : List UInt8}
    (h : content.length < content'.length) :
    (encode tag content).length < (encode tag content').length := by
  have hlength := length_lengthOctets_mono (Nat.le_of_lt h)
  simp only [encode, List.length_append]
  omega

theorem length_encode_le {tag : Tag} {content content' : List UInt8}
    (h : content.length ≤ content'.length) :
    (encode tag content).length ≤ (encode tag content').length := by
  have hlength := length_lengthOctets_mono h
  simp only [encode, List.length_append]
  omega

/-- The octets of a tagged value with the number after the identifier, however small it is. -/
def encodeLong (tag : Tag) (content : List UInt8) : List UInt8 :=
  tag.longOctets ++ (lengthOctets content.length ++ content)

end Der
