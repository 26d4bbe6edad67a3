import Sentinel.ForStd.Der
import Sentinel.ForStd.Except
import Sentinel.Native.CanonicalSignature
import Sentinel.Spec.DeviceSignatureCodec

/-! # One wire form for each hardware signature

A function of the reader succeeds when the octets of a value stand at its cursor, and leaves the
cursor after them; so a buffer that is read is the encoding of its two scalars. -/

namespace Sentinel.CanonicalSignature

open Except

/-! ## Staying inside the arrays -/

/-- A call that reaches outside no array. -/
def Inside {α : Type} (x : Read α) : Prop := x ≠ .error .indexOutOfBounds

variable {der : List UInt8} {cursor next n : Nat} {what : String} {value r s : Int}

theorem inside_ok {α : Type} (a : α) : Inside (.ok a : Read α) := fun h => nomatch h

theorem inside_malformed {α : Type} (message : String) :
    Inside (.error (.malformedSignature message) : Read α) :=
  fun h => Failure.noConfusion (Except.error.inj h)

theorem inside_demand (condition : Prop) [Decidable condition] (message : String) :
    Inside (demand condition message) := by
  unfold demand
  split
  · exact inside_ok _
  · exact inside_malformed _

theorem Inside.bind {α β : Type} {x : Read α} {f : α → Read β} (hx : Inside x)
    (hf : ∀ a, x = .ok a → Inside (f a)) : Inside (x >>= f) := by
  cases x with
  | ok a => exact hf a rfl
  | error failure => exact fun h => hx (congrArg Except.error (Except.error.inj h))

theorem demand_eq_ok {condition : Prop} [Decidable condition] {message : String} {u : Unit} :
    demand condition message = .ok u ↔ condition := by
  unfold demand
  split
  · exact iff_of_true rfl ‹_›
  · exact iff_of_false (fun h => nomatch h) ‹_›

theorem demand_bind {α : Type} {condition : Prop} [Decidable condition] (h : condition)
    (message : String) (f : Unit → Read α) : (demand condition message >>= f) = f () := by
  rw [demand, if_pos h, ok_bind]

/-! ## Octets at a cursor -/

theorem append_prefix_drop {a b : List UInt8} :
    a ++ b <+: der.drop cursor ↔ a <+: der.drop cursor ∧ b <+: der.drop (cursor + a.length) := by
  constructor
  · rintro ⟨rest, hrest⟩
    rw [List.append_assoc] at hrest
    exact ⟨⟨b ++ rest, hrest⟩, rest, by rw [← List.drop_drop, ← hrest, List.drop_left]⟩
  · rintro ⟨⟨rest, hrest⟩, tail, htail⟩
    rw [← List.drop_drop, ← hrest, List.drop_left] at htail
    exact ⟨tail, by rw [List.append_assoc, htail, hrest]⟩

theorem cons_prefix_drop {octet : UInt8} {octets : List UInt8} :
    octet :: octets <+: der.drop cursor ↔
      [octet] <+: der.drop cursor ∧ octets <+: der.drop (cursor + 1) :=
  append_prefix_drop (a := [octet])

theorem length_le_of_prefix_drop {octets : List UInt8}
    (h : octets <+: der.drop cursor) (hnonempty : octets ≠ []) :
    cursor + octets.length ≤ der.length := by
  have hlength := h.length_le
  have hpos := List.length_pos_of_ne_nil hnonempty
  rw [List.length_drop] at hlength
  omega

theorem octetAt_eq_ok {array : List UInt8} {index value : Nat} :
    octetAt array index = .ok value ↔
      ∃ octet, [octet] <+: array.drop index ∧ octet.toNat = value := by
  have hstands : ∀ octet, [octet] <+: array.drop index ↔ array[index]? = some octet := by
    intro octet
    rw [← List.head?_drop, List.head?_eq_some_iff]
    exact exists_congr fun rest => eq_comm
  unfold octetAt
  split
  next octet hoctet =>
    constructor
    · intro h
      exact ⟨octet, (hstands octet).mpr hoctet, Except.ok.inj h⟩
    · rintro ⟨octet', h, rfl⟩
      rw [Option.some.inj (hoctet.symm.trans ((hstands octet').mp h))]
  next hnone =>
    refine iff_of_false (fun h => nomatch h) ?_
    rintro ⟨octet, h, -⟩
    exact absurd ((hstands octet).mp h) (by rw [hnone]; exact fun h => nomatch h)

theorem inside_octetAt {array : List UInt8} {index : Nat} (h : index < array.length) :
    Inside (octetAt array index) := by
  rw [octetAt, List.getElem?_eq_getElem h]
  exact inside_ok _

/-- What a copy inside the two arrays leaves in the destination. -/
theorem arraycopy_eq {a b c x y z : List UInt8} (h : y.length = b.length) :
    arraycopy (a ++ b ++ c) a.length (x ++ y ++ z) x.length b.length = .ok (x ++ b ++ z) := by
  have hsource : ((a ++ b ++ c).drop a.length).take b.length = b := by
    rw [List.append_assoc, List.drop_left, List.take_left]
  have htake : (x ++ y ++ z).take x.length = x := by rw [List.append_assoc, List.take_left]
  have hdrop : (x ++ y ++ z).drop (x.length + b.length) = z := by
    rw [← h, ← List.length_append, List.drop_left]
  rw [arraycopy, if_neg, hsource, htake, hdrop]
  simp only [List.length_append, h]
  omega

/-! ## The reader -/

theorem readByte_eq_ok {value : Nat} : readByte der what cursor = .ok (value, next) ↔
      ∃ octet, [octet] <+: der.drop cursor ∧ octet.toNat = value ∧ next = cursor + 1 := by
  unfold readByte
  constructor
  · intro h
    obtain ⟨-, -, h⟩ := bind_eq_ok.mp h
    obtain ⟨value', hvalue, h⟩ := bind_eq_ok.mp h
    cases h
    obtain ⟨octet, hoctet, rfl⟩ := octetAt_eq_ok.mp hvalue
    exact ⟨octet, hoctet, rfl, rfl⟩
  · rintro ⟨octet, hoctet, rfl, rfl⟩
    have hlength : cursor < der.length := length_le_of_prefix_drop hoctet (List.cons_ne_nil _ _)
    rw [demand_bind hlength, octetAt_eq_ok.mpr ⟨octet, hoctet, rfl⟩, ok_bind]

theorem inside_readByte (der : List UInt8) (what : String) (cursor : Nat) :
    Inside (readByte der what cursor) := by
  apply (inside_demand _ _).bind
  intro u hdemand
  apply (inside_octetAt (demand_eq_ok.mp hdemand)).bind
  intro value _
  exact inside_ok _

/-- One more octet of a big-endian number, as the loop adds it. -/
theorem shiftLeft_or (n : Nat) (octet : UInt8) :
    (n <<< 8) ||| octet.toNat = 256 * n + octet.toNat := by
  have hlt : octet.toNat < 2 ^ 8 := octet.toNat_lt
  rw [← Nat.shiftLeft_add_eq_or_of_lt hlt, Nat.shiftLeft_eq]
  omega

theorem readLengthBytes_eq_ok {byteCount length : Nat} :
    readLengthBytes der what byteCount length cursor = .ok (n, next) ↔
      ∃ octets, octets.length = byteCount ∧ octets <+: der.drop cursor ∧
        n = octets.foldl (fun n octet => 256 * n + octet.toNat) length ∧ next = cursor + byteCount := by
  induction byteCount generalizing length cursor with
  | zero =>
    rw [readLengthBytes]
    constructor
    · intro h
      cases h
      exact ⟨[], rfl, List.nil_prefix, rfl, rfl⟩
    · rintro ⟨octets, hlength, -, rfl, rfl⟩
      rw [List.eq_nil_of_length_eq_zero hlength]
      rfl
  | succ byteCount ih =>
    rw [readLengthBytes]
    constructor
    · intro h
      obtain ⟨⟨value, cursor'⟩, hvalue, h⟩ := bind_eq_ok.mp h
      obtain ⟨octet, hoctet, rfl, rfl⟩ := readByte_eq_ok.mp hvalue
      obtain ⟨octets, hlength, hoctets, hn, hnext⟩ := ih.mp h
      rw [shiftLeft_or] at hn
      exact ⟨octet :: octets, congrArg Nat.succ hlength,
        cons_prefix_drop.mpr ⟨hoctet, hoctets⟩, hn, by omega⟩
    · rintro ⟨octets, hlength, hoctets, hn, hnext⟩
      obtain ⟨octet, octets, rfl⟩ := List.exists_cons_of_length_eq_add_one hlength
      obtain ⟨hoctet, hoctets⟩ := cons_prefix_drop.mp hoctets
      rw [readByte_eq_ok.mpr ⟨octet, hoctet, rfl, rfl⟩, ok_bind]
      refine ih.mpr ⟨octets, Nat.succ.inj hlength, hoctets, ?_, by omega⟩
      rw [shiftLeft_or, hn]
      rfl

theorem inside_readLengthBytes (der : List UInt8) (what : String) (byteCount length cursor : Nat) :
    Inside (readLengthBytes der what byteCount length cursor) := by
  induction byteCount generalizing length cursor with
  | zero => exact inside_ok _
  | succ byteCount ih =>
    apply (inside_readByte _ _ _).bind
    intro octet _
    exact ih _ _

theorem and_low7 (octet : UInt8) : octet.toNat &&& 0x7f = octet.toNat % 128 :=
  Nat.and_two_pow_sub_one_eq_mod octet.toNat 7

theorem lengthOctets_form (h : n < 2 ^ 16) : n < 128 ∧ Der.lengthOctets n = [UInt8.ofNat n] ∨
      128 ≤ n ∧ ∃ octets : List UInt8, BigEndian.value octets = n ∧
        Der.lengthOctets n = UInt8.ofNat (128 + octets.length) :: octets ∧
        (octets.length = 1 ∨ octets.length = 2 ∧ 255 < n) := by
  by_cases hshort : n < 128
  · exact .inl ⟨hshort, if_pos hshort⟩
  · refine .inr ⟨by omega, (Der.digits 256 n).map UInt8.ofNat, Der.value_digits n, ?_, ?_⟩
    · rw [Der.lengthOctets, if_neg hshort, List.length_map]
    · rw [List.length_map]
      have hone : (Der.digits 256 n).length ≤ 1 ↔ n < 256 ^ 1 := Der.length_digits_le (by decide) 1
      have htwo : (Der.digits 256 n).length ≤ 2 := (Der.length_digits_le (by decide) 2).mpr h
      have hpos : 0 < (Der.digits 256 n).length :=
        List.length_pos_of_ne_nil (Der.digits_ne_nil (by omega))
      omega

theorem readLength_eq_ok : readLength der what cursor = .ok (n, next) ↔
      n < 2 ^ 16 ∧ Der.lengthOctets n <+: der.drop cursor ∧
        next = cursor + (Der.lengthOctets n).length := by
  unfold readLength
  constructor
  · intro h
    obtain ⟨⟨first, cursor'⟩, hfirst, h⟩ := bind_eq_ok.mp h
    obtain ⟨octet, hoctet, rfl, rfl⟩ := readByte_eq_ok.mp hfirst
    have hlt := octet.toNat_lt
    simp only [and_low7] at h
    split at h
    next hshort =>
      cases h
      have hform : Der.lengthOctets octet.toNat = [octet] := by
        rw [Der.lengthOctets, if_pos hshort, UInt8.ofNat_toNat]
      rw [hform]
      exact ⟨by omega, hoctet, rfl⟩
    next hlong =>
      obtain ⟨_, hcount, h⟩ := bind_eq_ok.mp h
      obtain ⟨⟨length, cursor'⟩, hlength, h⟩ := bind_eq_ok.mp h
      obtain ⟨_, hminimal, h⟩ := bind_eq_ok.mp h
      obtain ⟨_, hminimal', h⟩ := bind_eq_ok.mp h
      cases h
      obtain ⟨octets, hoctets, hstands, hvalue, rfl⟩ := readLengthBytes_eq_ok.mp hlength
      rw [demand_eq_ok] at hcount hminimal hminimal'
      change length = BigEndian.value octets at hvalue
      have hhead : octets.head? ≠ some 0 := by
        intro hzero
        obtain ⟨rest, rfl⟩ := List.head?_eq_some_iff.mp hzero
        have hrest := BigEndian.value_lt rest
        rw [BigEndian.value_cons, UInt8.toNat_zero, Nat.zero_mul, Nat.zero_add] at hvalue
        rw [List.length_cons] at hoctets
        have hpow := Nat.pow_le_pow_right (n := 256) (by decide) (show rest.length ≤ 1 by omega)
        have hshort : rest.length = 0 → 256 ^ rest.length = 1 := fun h => by rw [h, pow_zero]
        omega
      have hform : Der.lengthOctets length = octet :: octets := by
        rw [hvalue, Der.lengthOctets_long hhead (by omega)]
        congr 1
        apply UInt8.toNat_inj.mp
        rw [UInt8.toNat_ofNat']
        omega
      have hfits := BigEndian.value_lt octets
      have hpow := Nat.pow_le_pow_right (n := 256) (by decide) (show octets.length ≤ 2 by omega)
      rw [hform]
      refine ⟨by omega, cons_prefix_drop.mpr ⟨hoctet, hstands⟩, ?_⟩
      rw [List.length_cons]
      omega
  · rintro ⟨hn, hstands, hnext⟩
    cases lengthOctets_form hn with
    | inl hshort =>
      obtain ⟨hshort, hform⟩ := hshort
      rw [hform] at hstands hnext
      have hvalue : (UInt8.ofNat n).toNat = n := by
        rw [UInt8.toNat_ofNat']
        omega
      rw [readByte_eq_ok.mpr ⟨_, hstands, hvalue, rfl⟩, ok_bind]
      dsimp only
      rw [if_pos hshort, hnext]
      rfl
    | inr hlong =>
      obtain ⟨hlong, octets, hvalue, hform, hcount⟩ := hlong
      rw [hform] at hstands hnext
      obtain ⟨hoctet, hoctets⟩ := cons_prefix_drop.mp hstands
      have hfirst : (UInt8.ofNat (128 + octets.length)).toNat = 128 + octets.length := by
        rw [UInt8.toNat_ofNat']
        omega
      have hlow : (128 + octets.length) &&& 0x7f = octets.length := by
        rw [← hfirst, and_low7]
        omega
      rw [List.length_cons] at hnext
      rw [readByte_eq_ok.mpr ⟨_, hoctet, hfirst, rfl⟩, ok_bind]
      dsimp only
      rw [if_neg (by omega), hlow, demand_bind (by omega),
        readLengthBytes_eq_ok.mpr ⟨octets, rfl, hoctets, hvalue.symm, rfl⟩, ok_bind]
      dsimp only
      rw [demand_bind (by omega), demand_bind (by omega), hnext]
      congr 2
      omega

theorem inside_readLength (der : List UInt8) (what : String) (cursor : Nat) :
    Inside (readLength der what cursor) := by
  apply (inside_readByte _ _ _).bind
  intro first _
  dsimp only
  split
  · exact inside_ok _
  · apply (inside_demand _ _).bind
    intro u _
    apply (inside_readLengthBytes _ _ _ _ _).bind
    intro length _
    apply (inside_demand _ _).bind
    intro u _
    apply (inside_demand _ _).bind
    intro u _
    exact inside_ok _

/-- The demands on the leading octets leave the shortest contents of positive integers. -/
theorem demandShortest_eq_ok {content : List UInt8} {u : Unit}
    (hcontent : content <+: der.drop cursor) (hnonempty : content ≠ []) :
    demandShortest der cursor content.length = .ok u ↔ Der.Shortest content ∧ content ≠ [0] := by
  obtain ⟨first, rest, rfl⟩ := List.exists_cons_of_ne_nil hnonempty
  obtain ⟨hfirst, hrest⟩ := cons_prefix_drop.mp hcontent
  unfold demandShortest
  rw [octetAt_eq_ok.mpr ⟨first, hfirst, rfl⟩, ok_bind]
  constructor
  · intro h
    obtain ⟨_, hunsigned, h⟩ := bind_eq_ok.mp h
    have hunsigned : ∀ octet ∈ (first :: rest).head?, octet.toNat < 128 := by
      intro octet hoctet
      rw [← Option.some.inj hoctet]
      exact demand_eq_ok.mp hunsigned
    split at h
    next hzero =>
      obtain ⟨_, hpad, h⟩ := bind_eq_ok.mp h
      obtain ⟨second, hsecond, h⟩ := bind_eq_ok.mp h
      have hpad := demand_eq_ok.mp hpad
      have hminimal := demand_eq_ok.mp h
      cases rest with
      | nil => exact absurd hpad (Nat.lt_irrefl 1)
      | cons second' rest =>
        have hsame := octetAt_eq_ok.mpr ⟨second', (cons_prefix_drop.mp hrest).1, rfl⟩
        rw [← Except.ok.inj (hsame.symm.trans hsecond)] at hminimal
        refine ⟨⟨hnonempty, hunsigned, fun _ octet hoctet => ?_⟩, by simp⟩
        rw [← Option.some.inj hoctet]
        exact hminimal
    next hzero =>
      have hfirst : first ≠ 0 := fun h => hzero (congrArg UInt8.toNat h)
      exact ⟨⟨hnonempty, hunsigned, fun h => absurd (Option.some.inj h) hfirst⟩, by simp [hfirst]⟩
  · rintro ⟨hshortest, hnot⟩
    rw [demand_bind (hshortest.unsigned first rfl)]
    split
    next hzero =>
      have hfirst : first = 0 := UInt8.toNat_inj.mp hzero
      cases rest with
      | nil => exact absurd (by rw [hfirst]) hnot
      | cons second rest =>
        have hsecond := hshortest.needed (congrArg some hfirst) second rfl
        have hlength : 1 < (first :: second :: rest).length := by simp
        rw [demand_bind hlength, octetAt_eq_ok.mpr ⟨second, (cons_prefix_drop.mp hrest).1, rfl⟩,
          ok_bind]
        exact demand_eq_ok.mpr hsecond
    next => rfl

theorem inside_demandShortest {length : Nat} (hpos : 0 < length)
    (h : cursor + length ≤ der.length) : Inside (demandShortest der cursor length) := by
  apply (inside_octetAt (by omega)).bind
  intro first _
  apply (inside_demand _ _).bind
  intro u _
  split
  · apply (inside_demand _ _).bind
    intro u hpad
    have hpad := demand_eq_ok.mp hpad
    apply (inside_octetAt (by omega)).bind
    intro second _
    exact inside_demand _ _
  · exact inside_ok _

theorem arraycopy_content {content : List UInt8}
    (h : content <+: der.drop cursor) (hcursor : cursor ≤ der.length) :
    arraycopy der cursor (List.replicate content.length 0) 0 content.length = .ok content := by
  obtain ⟨rest, hrest⟩ := h
  have hder : der.take cursor ++ content ++ rest = der := by
    rw [List.append_assoc, hrest, List.take_append_drop]
  have hcopy := arraycopy_eq (a := der.take cursor) (b := content) (c := rest) (x := [])
    (y := List.replicate content.length 0) (z := []) List.length_replicate
  rwa [hder, List.length_take, Nat.min_eq_left hcursor, List.nil_append, List.append_nil,
    List.append_nil, List.nil_append] at hcopy

theorem inside_readInteger (der : List UInt8) (cursor : Nat) : Inside (readInteger der cursor) := by
  apply (inside_readByte _ _ _).bind
  intro tag _
  apply (inside_demand _ _).bind
  intro u _
  apply (inside_readLength _ _ _).bind
  intro length _
  apply (inside_demand _ _).bind
  intro u hpos
  apply (inside_demand _ _).bind
  intro u hfits
  rw [demand_eq_ok] at hpos hfits
  apply (inside_demandShortest hpos hfits).bind
  intro u _
  apply Inside.bind
  · rw [arraycopy, if_neg (by rw [List.length_replicate]; omega)]
    exact inside_ok _
  · intro content _
    exact inside_ok _

/-! ## Encodings -/

def derInteger (n : Nat) : List UInt8 := Der.encode ⟨0, false, 2⟩ (Der.integerOctets n)

/-- The SEQUENCE of two INTEGERs. -/
def derSignature (r s : Int) : List UInt8 :=
  Der.encode ⟨0, true, 16⟩ (derInteger r.toNat ++ derInteger s.toNat)

theorem derInteger_eq (n : Nat) :
    derInteger n = 0x02 :: (Der.lengthOctets (Der.integerOctets n).length ++ Der.integerOctets n) :=
  rfl

theorem derSignature_eq (r s : Int) :
    derSignature r s = 0x30 ::
      (Der.lengthOctets (derInteger r.toNat ++ derInteger s.toNat).length ++
        (derInteger r.toNat ++ derInteger s.toNat)) :=
  rfl

theorem readInteger_eq_ok : readInteger der cursor = .ok (value, next) ↔
      ∃ n : Nat, 0 < n ∧ (Der.integerOctets n).length < 2 ^ 16 ∧ value = n ∧
        derInteger n <+: der.drop cursor ∧ next = cursor + (derInteger n).length := by
  unfold readInteger
  constructor
  · intro h
    obtain ⟨⟨tag, cursor'⟩, htag, h⟩ := bind_eq_ok.mp h
    obtain ⟨octet, hoctet, rfl, rfl⟩ := readByte_eq_ok.mp htag
    obtain ⟨_, hinteger, h⟩ := bind_eq_ok.mp h
    obtain ⟨⟨length, cursor'⟩, hlength, h⟩ := bind_eq_ok.mp h
    obtain ⟨hsmall, hlengthOctets, rfl⟩ := readLength_eq_ok.mp hlength
    obtain ⟨_, hpos, h⟩ := bind_eq_ok.mp h
    obtain ⟨_, hfits, h⟩ := bind_eq_ok.mp h
    obtain ⟨_, hshortest, h⟩ := bind_eq_ok.mp h
    rw [demand_eq_ok] at hinteger hpos hfits
    -- the content is the octets of that length after the octets of the length
    have hcontent := List.take_prefix length (der.drop (cursor + 1 + (Der.lengthOctets length).length))
    generalize hoctets : (der.drop (cursor + 1 + (Der.lengthOctets length).length)).take length =
      content at hcontent
    have hcount : content.length = length := by
      rw [← hoctets, List.length_take, List.length_drop]
      omega
    subst hcount
    have hnonempty : content ≠ [] := List.ne_nil_of_length_pos hpos
    obtain ⟨hshortest, hnot⟩ := (demandShortest_eq_ok hcontent hnonempty).mp hshortest
    rw [arraycopy_content hcontent (by omega), ok_bind] at h
    cases h
    have hvalue := hshortest.integerOctets
    have htag : octet = 0x02 := UInt8.toNat_inj.mp hinteger
    refine ⟨BigEndian.value content, ?_, by rw [hvalue]; exact hsmall, rfl, ?_, ?_⟩
    · apply Nat.pos_of_ne_zero
      intro hzero
      rw [hzero] at hvalue
      exact hnot hvalue.symm
    · rw [derInteger_eq, hvalue, ← htag]
      exact cons_prefix_drop.mpr ⟨hoctet, append_prefix_drop.mpr ⟨hlengthOctets, hcontent⟩⟩
    · rw [derInteger_eq, hvalue, List.length_cons, List.length_append]
      omega
  · rintro ⟨n, hpos, hsmall, rfl, hstands, rfl⟩
    rw [derInteger_eq] at hstands ⊢
    obtain ⟨htag, hstands⟩ := cons_prefix_drop.mp hstands
    obtain ⟨hlength, hcontent⟩ := append_prefix_drop.mp hstands
    have hshortest := Der.shortest_integerOctets n
    have hroom := length_le_of_prefix_drop hcontent hshortest.nonempty
    have hnot : Der.integerOctets n ≠ [0] := by
      intro hzero
      have hvalue := Der.value_integerOctets n
      rw [hzero] at hvalue
      exact Nat.ne_of_gt hpos hvalue.symm
    have hdemand := (demandShortest_eq_ok (u := ()) hcontent hshortest.nonempty).mpr ⟨hshortest, hnot⟩
    rw [readByte_eq_ok.mpr ⟨_, htag, rfl, rfl⟩, ok_bind]
    dsimp only
    rw [demand_bind (show UInt8.toNat 0x02 = 0x02 from rfl), readLength_eq_ok.mpr ⟨hsmall, hlength, rfl⟩, ok_bind]
    dsimp only
    rw [demand_bind (List.length_pos_of_ne_nil hshortest.nonempty), demand_bind hroom, hdemand, ok_bind,
      arraycopy_content hcontent (by omega), ok_bind, Der.value_integerOctets, List.length_cons,
      List.length_append]
    congr 2
    omega

structure IsScalar (value : Int) : Prop where
  pos : 1 ≤ value
  lt : value < p256CurveOrder

theorem p256CurveOrder_eq : p256CurveOrder = DeviceSignature.p256CurveOrder := rfl

theorem p256HalfCurveOrder_eq : p256HalfCurveOrder = DeviceSignature.p256HalfCurveOrder := rfl

theorem IsScalar.lt_pow (h : IsScalar value) : value.toNat < 256 ^ p256ScalarBytes := by
  have hfits := DeviceSignature.curveOrder_eq.2.2
  have hlt := h.lt
  have hcast : ((256 ^ p256ScalarBytes : Nat) : Int) = 256 ^ DeviceSignature.p256ScalarBytes := by
    norm_num [p256ScalarBytes, DeviceSignature.p256ScalarBytes]
  rw [p256CurveOrder_eq] at hlt
  have hpos := h.pos
  omega

theorem IsScalar.length_integerOctets (h : IsScalar value) :
    (Der.integerOctets value.toNat).length ≤ p256ScalarBytes + 1 := by
  have hlt := h.lt_pow
  rw [Der.pow256] at hlt
  have hsize := Nat.size_le.mpr hlt
  rw [Der.integerOctets, BigEndian.length_bytes]
  omega

theorem IsScalar.length_derInteger (h : IsScalar value) :
    (derInteger value.toNat).length ≤ p256ScalarBytes + 3 := by
  have hlength := h.length_integerOctets
  have hscalar : p256ScalarBytes = 32 := rfl
  rw [derInteger_eq, Der.lengthOctets, if_pos (by omega)]
  simp only [List.length_cons, List.length_append, List.length_nil]
  omega

/-- A buffer is read as the two scalars in range that it is the encoding of. -/
theorem parseDerSignature_eq_ok {scalars : Scalars} : parseDerSignature der = .ok scalars ↔
      IsScalar scalars.r ∧ IsScalar scalars.s ∧ der = derSignature scalars.r scalars.s := by
  unfold parseDerSignature
  constructor
  · intro h
    obtain ⟨⟨tag, cursor⟩, htag, h⟩ := bind_eq_ok.mp h
    obtain ⟨octet, hoctet, rfl, rfl⟩ := readByte_eq_ok.mp htag
    obtain ⟨_, hsequence, h⟩ := bind_eq_ok.mp h
    obtain ⟨⟨length, contentStart⟩, hlength, h⟩ := bind_eq_ok.mp h
    obtain ⟨-, hlengthOctets, rfl⟩ := readLength_eq_ok.mp hlength
    obtain ⟨_, hbuffer, h⟩ := bind_eq_ok.mp h
    obtain ⟨⟨r, cursor⟩, hr, h⟩ := bind_eq_ok.mp h
    obtain ⟨n, -, -, rfl, hn, rfl⟩ := readInteger_eq_ok.mp hr
    obtain ⟨⟨s, cursor⟩, hs, h⟩ := bind_eq_ok.mp h
    obtain ⟨m, -, -, rfl, hm, rfl⟩ := readInteger_eq_ok.mp hs
    obtain ⟨_, htrailing, h⟩ := bind_eq_ok.mp h
    obtain ⟨_, hrRange, h⟩ := bind_eq_ok.mp h
    obtain ⟨_, hsRange, h⟩ := bind_eq_ok.mp h
    rw [demand_eq_ok] at hsequence hbuffer htrailing hrRange hsRange
    have hscalars := Except.ok.inj h
    have hcontent := append_prefix_drop.mpr ⟨hn, hm⟩
    have hcount : (derInteger n ++ derInteger m).length = length := by
      rw [List.length_append]
      omega
    have htag : octet = 0x30 := UInt8.toNat_inj.mp hsequence
    have hwhole : derSignature n m <+: der.drop 0 := by
      rw [derSignature_eq, Int.toNat_natCast, Int.toNat_natCast, hcount, ← htag]
      exact cons_prefix_drop.mpr ⟨hoctet, append_prefix_drop.mpr ⟨hlengthOctets, hcontent⟩⟩
    rw [← hscalars]
    refine ⟨⟨hrRange.1, hrRange.2⟩, ⟨hsRange.1, hsRange.2⟩, (hwhole.eq_of_length ?_).symm⟩
    rw [derSignature_eq, Int.toNat_natCast, Int.toNat_natCast, hcount, List.length_cons,
      List.length_append, hcount, List.drop_zero]
    omega
  · obtain ⟨r, s⟩ := scalars
    rintro ⟨hr, hs, hder⟩
    dsimp only at hr hs hder
    have hrPos := hr.pos
    have hsPos := hs.pos
    have hrLength := hr.length_integerOctets
    have hsLength := hs.length_integerOctets
    have hrDer := hr.length_derInteger
    have hsDer := hs.length_derInteger
    have hscalar : p256ScalarBytes = 32 := rfl
    generalize hcontent : derInteger r.toNat ++ derInteger s.toNat = content
    have hcount := congrArg List.length hcontent
    rw [List.length_append] at hcount
    have hwhole : 0x30 :: (Der.lengthOctets content.length ++ content) <+: der.drop 0 := by
      rw [hder, derSignature_eq, hcontent, List.drop_zero]
    have htotal : der.length = 1 + (Der.lengthOctets content.length).length + content.length := by
      rw [hder, derSignature_eq, hcontent, List.length_cons, List.length_append]
      omega
    obtain ⟨htag, hwhole⟩ := cons_prefix_drop.mp hwhole
    obtain ⟨hlength, hinner⟩ := append_prefix_drop.mp hwhole
    have hinner : derInteger r.toNat ++ derInteger s.toNat <+:
        der.drop (0 + 1 + (Der.lengthOctets content.length).length) := by
      rw [hcontent]
      exact hinner
    obtain ⟨hrInner, hsInner⟩ := append_prefix_drop.mp hinner
    rw [readByte_eq_ok.mpr ⟨_, htag, rfl, rfl⟩, ok_bind]
    dsimp only
    rw [demand_bind (show UInt8.toNat 0x30 = 0x30 from rfl),
      readLength_eq_ok.mpr ⟨by omega, hlength, rfl⟩, ok_bind]
    dsimp only
    rw [demand_bind (by omega),
      readInteger_eq_ok.mpr ⟨r.toNat, by omega, by omega, rfl, hrInner, rfl⟩, ok_bind]
    dsimp only
    rw [readInteger_eq_ok.mpr ⟨s.toNat, by omega, by omega, rfl, hsInner, rfl⟩, ok_bind]
    dsimp only
    rw [Int.toNat_of_nonneg (by omega), Int.toNat_of_nonneg (by omega), demand_bind (by omega),
      demand_bind ⟨hr.pos, hr.lt⟩, demand_bind ⟨hs.pos, hs.lt⟩]

theorem inside_parseDerSignature (der : List UInt8) : Inside (parseDerSignature der) := by
  apply (inside_readByte _ _ _).bind
  intro tag _
  apply (inside_demand _ _).bind
  intro u _
  apply (inside_readLength _ _ _).bind
  intro length _
  apply (inside_demand _ _).bind
  intro u _
  apply (inside_readInteger _ _).bind
  intro r _
  apply (inside_readInteger _ _).bind
  intro s _
  apply (inside_demand _ _).bind
  intro u _
  apply (inside_demand _ _).bind
  intro u _
  apply (inside_demand _ _).bind
  intro u _
  exact inside_ok _

/-! ## The signer -/

theorem toByteArray_eq (h : 0 ≤ value) : toByteArray value = Der.integerOctets value.toNat := by
  have hbits : bitLength value = value.toNat.size := by rw [bitLength, if_neg (by omega)]
  have hlt : value.toNat < 256 ^ (value.toNat.size / 8 + 1) := by
    rw [Der.pow256]
    exact (Nat.lt_size_self value.toNat).trans_le (Nat.pow_le_pow_right (by decide) (by omega))
  have hmod : value % 256 ^ (value.toNat.size / 8 + 1) = value := by
    apply Int.emod_eq_of_lt h
    rw [← Int.toNat_of_nonneg h]
    exact_mod_cast hlt
  rw [toByteArray, hbits, hmod, Der.integerOctets]

/-- A scalar fills its place in an array of zeros, however short it is. -/
theorem writeScalar_eq (hscalar : IsScalar value) (before after : List UInt8) :
    writeScalar value (before ++ List.replicate p256ScalarBytes 0 ++ after) before.length =
      .ok (before ++ DeviceSignature.bigIntToScalarBytes value ++ after) := by
  have hpos := hscalar.pos
  have hlength := hscalar.length_integerOctets
  have hlt := hscalar.lt_pow
  have hscalarBytes : p256ScalarBytes = DeviceSignature.p256ScalarBytes := rfl
  have hwidth : p256ScalarBytes = 32 := rfl
  have hself := Der.value_integerOctets value.toNat
  unfold writeScalar
  rw [toByteArray_eq (by omega)]
  dsimp only
  by_cases hlong : p256ScalarBytes < (Der.integerOctets value.toNat).length
  · have hcount : (Der.integerOctets value.toNat).length = 1 + p256ScalarBytes := by omega
    have hraw : Der.integerOctets value.toNat =
        [0] ++ DeviceSignature.bigIntToScalarBytes value ++ [] := by
      rw [← BigEndian.bytes_value (Der.integerOctets value.toNat), hcount, hself,
        BigEndian.bytes_add hlt, List.append_nil]
      rfl
    have hcopy := arraycopy_eq (a := [0]) (b := DeviceSignature.bigIntToScalarBytes value) (c := [])
      (x := before) (y := List.replicate p256ScalarBytes 0) (z := after)
      (by rw [List.length_replicate, DeviceSignature.length_scalarBytes, hscalarBytes])
    rw [← hraw, DeviceSignature.length_scalarBytes] at hcopy
    rw [if_pos hlong, hcount, Nat.add_sub_cancel, if_neg, hscalarBytes]
    · exact hcopy
    · rw [hraw]
      simp
  · have hfits : value.toNat < 256 ^ (Der.integerOctets value.toNat).length := by
      have hvalue := BigEndian.value_lt (Der.integerOctets value.toNat)
      rwa [hself] at hvalue
    have hbytes := BigEndian.bytes_value (Der.integerOctets value.toNat)
    have hpad := BigEndian.bytes_add hfits (p256ScalarBytes - (Der.integerOctets value.toNat).length)
    rw [hself] at hbytes
    rw [Nat.sub_add_cancel (by omega), hbytes] at hpad
    have hzeros := List.replicate_append_replicate (a := (0 : UInt8))
      (n := p256ScalarBytes - (Der.integerOctets value.toNat).length)
      (m := (Der.integerOctets value.toNat).length)
    rw [Nat.sub_add_cancel (by omega)] at hzeros
    have hcopy := arraycopy_eq (a := []) (b := Der.integerOctets value.toNat) (c := [])
      (x := before ++ List.replicate (p256ScalarBytes - (Der.integerOctets value.toNat).length) 0)
      (y := List.replicate (Der.integerOctets value.toNat).length 0) (z := after)
      List.length_replicate
    -- the zeros before the octets that are copied, and those that the octets replace
    have hout : before ++ List.replicate p256ScalarBytes 0 ++ after =
        before ++ List.replicate (p256ScalarBytes - (Der.integerOctets value.toNat).length) 0 ++
          List.replicate (Der.integerOctets value.toNat).length 0 ++ after := by
      rw [← hzeros, ← List.append_assoc]
    have hnext : before ++ DeviceSignature.bigIntToScalarBytes value ++ after =
        before ++ List.replicate (p256ScalarBytes - (Der.integerOctets value.toNat).length) 0 ++
          Der.integerOctets value.toNat ++ after := by
      change before ++ BigEndian.bytes p256ScalarBytes value.toNat ++ after = _
      rw [hpad, ← List.append_assoc]
    rw [List.nil_append, List.append_nil, ← hout, ← hnext, List.length_append,
      List.length_replicate] at hcopy
    rw [if_neg hlong]
    exact hcopy

/-- The wire form of two scalars. -/
theorem encodeP1363_eq_ok (hr : IsScalar r) (hs : isLowS s = true) :
    encodeP1363 r s = .ok (DeviceSignature.signatureText r s) := by
  have hr' := hr.pos
  have hr'' := hr.lt
  have hlow : 1 ≤ s ∧ s ≤ p256HalfCurveOrder := of_decide_eq_true hs
  have hodd := DeviceSignature.curveOrder_eq.1
  have hscalar : IsScalar s := by
    refine ⟨hlow.1, ?_⟩
    rw [p256CurveOrder_eq, hodd, ← p256HalfCurveOrder_eq]
    omega
  have hzeros : List.replicate p256SignatureBytes (0 : UInt8) =
      [] ++ List.replicate p256ScalarBytes 0 ++ List.replicate p256ScalarBytes 0 := rfl
  have hwriteR := writeScalar_eq hr [] (List.replicate p256ScalarBytes 0)
  have hwriteS := writeScalar_eq hscalar (DeviceSignature.bigIntToScalarBytes r) []
  rw [List.append_nil, List.append_nil, DeviceSignature.length_scalarBytes] at hwriteS
  rw [encodeP1363, if_neg (by omega), hs, Bool.not_true, if_neg Bool.false_ne_true]
  dsimp only
  rw [hzeros]
  change (writeScalar r _ ([] : List UInt8).length >>= _) = _
  rw [hwriteR, ok_bind, List.nil_append]
  change (writeScalar s _ DeviceSignature.p256ScalarBytes >>= _) = _
  rw [hwriteS, ok_bind]
  rfl

theorem lowSCanonicaliseForSigning_eq (hs : IsScalar s) :
    lowSCanonicaliseForSigning s = .ok (min s (p256CurveOrder - s)) := by
  have hpos := hs.pos
  have hlt := hs.lt
  have hodd := DeviceSignature.curveOrder_eq.1
  rw [← p256CurveOrder_eq, ← p256HalfCurveOrder_eq] at hodd
  rw [lowSCanonicaliseForSigning, if_neg (by omega)]
  split <;> congr 1 <;> omega

theorem IsScalar.neg (hs : IsScalar s) : IsScalar (p256CurveOrder - s) := by
  have hpos := hs.pos
  have hlt := hs.lt
  constructor <;> omega

/-- The lower of a scalar and its negative is in the accepted half. -/
theorem IsScalar.inRange (hr : IsScalar r) (hs : IsScalar s) :
    DeviceSignature.InRange r (min s (p256CurveOrder - s)) := by
  have hpos := hs.pos
  have hlt := hs.lt
  have hodd := DeviceSignature.curveOrder_eq.1
  rw [← p256CurveOrder_eq, ← p256HalfCurveOrder_eq] at hodd
  refine ⟨hr.pos, hr.lt, by omega, ?_⟩
  rw [← p256HalfCurveOrder_eq]
  omega

theorem canonicalWireSignature_derSignature (hr : IsScalar r) (hs : IsScalar s) :
    canonicalWireSignature (derSignature r s) =
      .ok (DeviceSignature.signatureText r (min s (p256CurveOrder - s))) := by
  have hparse : parseDerSignature (derSignature r s) = .ok { r, s } :=
    parseDerSignature_eq_ok.mpr ⟨hr, hs, rfl⟩
  have hrange := hr.inRange hs
  have hlow : isLowS (min s (p256CurveOrder - s)) = true :=
    decide_eq_true ⟨hrange.s_pos, hrange.s_le⟩
  rw [canonicalWireSignature, hparse, ok_bind, lowSCanonicaliseForSigning_eq hs, ok_bind,
    encodeP1363_eq_ok hr hlow]

/-- **One wire form.**  The reader reaches outside no array and takes exactly the encodings of the
pairs of scalars in range, each pair by one buffer; what is sent is decoded to the lower of `s` and
`n - s`. -/
theorem one_wire_form :
    (∀ der, parseDerSignature der ≠ .error .indexOutOfBounds) ∧
    (∀ der r s, parseDerSignature der = .ok ⟨r, s⟩ ↔
      IsScalar r ∧ IsScalar s ∧ der = derSignature r s) ∧
    (∀ r s, IsScalar r → IsScalar s →
      ∃ wire bytes, canonicalWireSignature (derSignature r s) = .ok wire ∧
        DeviceSignature.decodeCanonicalP256Signature wire =
          .ok { r, s := min s (p256CurveOrder - s), bytes } ∧
        canonicalWireSignature (derSignature r (p256CurveOrder - s)) = .ok wire) := by
  refine ⟨inside_parseDerSignature, fun _ _ _ => parseDerSignature_eq_ok, fun r s hr hs => ?_⟩
  have hsent := canonicalWireSignature_derSignature hr hs
  have hrange := hr.inRange hs
  have hnegative := canonicalWireSignature_derSignature hr hs.neg
  rw [sub_sub_cancel, min_comm] at hnegative
  generalize min s (p256CurveOrder - s) = low at hsent hnegative hrange
  have hdecode : DeviceSignature.decodeCanonicalP256Signature (DeviceSignature.signatureText r low) =
      .ok { r, s := low, bytes := DeviceSignature.signatureBytes r low } :=
    DeviceSignature.decodeSignature_eq_ok_iff.mpr ⟨hrange, rfl, rfl⟩
  exact ⟨_, _, hsent, hdecode, hnegative⟩

end Sentinel.CanonicalSignature
