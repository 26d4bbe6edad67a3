import Mathlib.Data.Nat.Bitwise
import Sentinel.ForStd.Der
import Sentinel.ForStd.Except
import Sentinel.Native.AttestationDer

/-! # What the attestation reader takes

The reader takes at an offset exactly the distinguished encodings whose tag number has four octets
at most and whose length has four, and beside them one form that is not distinguished: a tag number
below 31 written after the identifier octet. -/

namespace Sentinel.AttestationDer

open Except

/-! ## Bits of an octet -/

variable {buffer rest : List UInt8} {index cursor n c : Nat} {octet : UInt8}

theorem and_low7 : ∀ octet < 256, octet &&& 0x7f = octet % 128 :=
  fun octet _ => Nat.and_two_pow_sub_one_eq_mod octet 7

theorem and_bit (octet i : Nat) : octet &&& 2 ^ i = octet / 2 ^ i % 2 * 2 ^ i := by
  rw [Nat.and_two_pow, Nat.toNat_testBit]

theorem and_high : ∀ octet < 256, (octet &&& 0x80 = 0 ↔ octet < 128) := fun octet h => by
  have hbit := and_bit octet 7
  simp only [Nat.reducePow] at hbit
  omega

theorem and_low5 : ∀ octet < 256, octet &&& 0x1f = octet % 32 :=
  fun octet _ => Nat.and_two_pow_sub_one_eq_mod octet 5

theorem and_class : ∀ octet < 256, (octet &&& 0xc0) >>> 6 = octet / 64 := fun octet h => by
  have hlow := Nat.and_two_pow_sub_one_eq_mod (octet >>> 6) 2
  rw [Nat.shiftRight_and_distrib, Nat.shiftRight_eq_div_pow] at *
  simp only [Nat.reducePow, Nat.reduceSub, Nat.reduceShiftRight] at *
  omega

theorem and_constructed :
    ∀ octet < 256, ((octet &&& 0x20) != 0) = decide (octet / 32 % 2 = 1) := fun octet _ => by
  have hbit := and_bit octet 5
  simp only [Nat.reducePow] at hbit
  rw [hbit, Bool.eq_iff_iff, bne_iff_ne, decide_eq_true_iff]
  omega

/-! ## Reading inside the buffer -/

/-- A reader that ends with a value or with `null`. -/
def Settled {α : Type} (x : Read α) : Prop := ∀ stop, x = .error stop → stop = .null

theorem settled_ok {α : Type} (a : α) : Settled (.ok a : Read α) := fun _ h => nomatch h

theorem settled_null {α : Type} : Settled (.error .null : Read α) := by
  intro stop h
  exact (Except.error.inj h).symm

theorem Settled.bind {α β : Type} {x : Read α} {f : α → Read β} (hx : Settled x)
    (hf : ∀ a, x = .ok a → Settled (f a)) : Settled (x >>= f) := by
  cases x with
  | ok a => exact hf a rfl
  | error stop =>
    intro stop' h
    rw [← Except.error.inj h]
    exact hx stop rfl

theorem octetAt_of_drop
    (h : buffer.drop index = octet :: rest) : octetAt buffer index = .ok octet.toNat := by
  have hget : buffer[index]? = some octet := by
    have hhead : (buffer.drop index)[0]? = some octet := by rw [h]; rfl
    rwa [List.getElem?_drop, Nat.add_zero] at hhead
  rw [octetAt, hget]

theorem settled_octetAt (h : index < buffer.length) : Settled (octetAt buffer index) := by
  rw [octetAt, List.getElem?_eq_getElem h]
  exact settled_ok _

theorem lt_length_of_drop (h : buffer.drop index = octet :: rest) : index < buffer.length := by
  have hlength := congrArg List.length h
  rw [List.length_drop, List.length_cons] at hlength
  omega

theorem drop_succ_of_drop
    (h : buffer.drop index = octet :: rest) : buffer.drop (index + 1) = rest := by
  rw [← List.drop_drop, h]
  rfl

theorem length_le_of_drop (h : buffer.drop index = []) :
    buffer.length ≤ index := List.drop_eq_nil_iff.mp h

/-! ## Tag numbers -/

theorem settled_readTagNumber (buffer : List UInt8) (rounds cursor tagNumber shifted : Nat)
    (hrounds : 5 ≤ rounds + shifted) (hshifted : shifted ≤ 4) :
    Settled (readTagNumber buffer rounds cursor tagNumber shifted) := by
  induction rounds generalizing cursor tagNumber shifted with
  | zero => omega
  | succ rounds ih =>
    unfold readTagNumber
    by_cases hcursor : buffer.length ≤ cursor
    · rw [if_pos hcursor]
      exact settled_null
    · rw [if_neg hcursor]
      apply (settled_octetAt (by omega)).bind
      intro octet _
      split
      · exact settled_null
      · split
        · exact settled_null
        · split
          · exact settled_ok _
          · exact ih _ _ _ (by omega) (by omega)

/-- One more octet of a number of seven bits an octet. -/
def push128 (n : Nat) (octet : UInt8) : Nat := n * 128 + octet.toNat % 128

theorem foldl_push128 (octets : List UInt8) : octets.foldl push128 0 = Der.value128 octets := by
  rw [Der.value128, Der.number, List.foldl_map]
  rfl

theorem readTagNumber_sound {rounds tagNumber shifted : Nat}
    (h : readTagNumber buffer rounds cursor tagNumber shifted = .ok (n, c)) :
    ∃ init last rest, buffer.drop cursor = init ++ last :: rest ∧
      (∀ octet ∈ init, 128 ≤ octet.toNat) ∧ last.toNat < 128 ∧
      (shifted = 0 → init.head? ≠ some 128) ∧ shifted + init.length < 4 ∧
      n = (init ++ [last]).foldl push128 tagNumber ∧ c = cursor + init.length + 1 := by
  induction rounds generalizing cursor tagNumber shifted with
  | zero => cases h
  | succ rounds ih =>
    unfold readTagNumber at h
    cases hdrop : buffer.drop cursor with
    | nil =>
      rw [if_pos (length_le_of_drop hdrop)] at h
      cases h
    | cons octet rest =>
      have hlt := octet.toNat_lt
      rw [if_neg (Nat.not_le.mpr (lt_length_of_drop hdrop)), octetAt_of_drop hdrop, ok_bind] at h
      split at h
      · cases h
      · rename_i hleading
        split at h
        · cases h
        · simp only [and_high _ hlt, and_low7 _ hlt] at h
          split at h
          · rename_i hlast
            have hpair := Prod.mk.inj (Except.ok.inj h)
            refine ⟨[], octet, rest, rfl, by simp, hlast, by simp, ?_, hpair.1.symm, hpair.2.symm⟩
            simp only [List.length_nil]
            omega
          · rename_i hmarked
            obtain ⟨init, last, rest', hrest, hinit, hlast, -, hlength, hn, hc⟩ := ih h
            rw [drop_succ_of_drop hdrop] at hrest
            refine ⟨octet :: init, last, rest', by rw [hrest]; rfl, ?_, hlast, ?_, ?_, hn, ?_⟩
            · intro o ho
              cases List.mem_cons.mp ho with
              | inl heq => rw [heq]; omega
              | inr hmem => exact hinit o hmem
            · intro hzero hhead
              rw [List.head?_cons, Option.some.injEq] at hhead
              exact hleading ⟨hzero, by rw [hhead]; rfl⟩
            · rw [List.length_cons]
              omega
            · rw [hc, List.length_cons]
              omega

theorem readTagNumber_complete {init : List UInt8} {last : UInt8}
    (hmarked : ∀ octet ∈ init, 128 ≤ octet.toNat) (hlast : last.toNat < 128)
    {rounds tagNumber shifted : Nat} (hdrop : buffer.drop cursor = init ++ last :: rest)
    (hleading : shifted = 0 → init.head? ≠ some 128) (hlength : shifted + init.length < 4)
    (hrounds : 5 ≤ rounds + shifted) :
    readTagNumber buffer rounds cursor tagNumber shifted =
      .ok ((init ++ [last]).foldl push128 tagNumber, cursor + init.length + 1) := by
  induction init generalizing rounds cursor tagNumber shifted with
  | nil =>
    obtain ⟨rounds, rfl⟩ : ∃ k, rounds = k + 1 := ⟨rounds - 1, by simp at hlength; omega⟩
    simp only [List.length_nil] at hlength
    rw [readTagNumber, if_neg (Nat.not_le.mpr (lt_length_of_drop hdrop)), octetAt_of_drop hdrop,
      ok_bind, if_neg (by omega), if_neg (by omega), if_pos ((and_high _ last.toNat_lt).mpr hlast),
      and_low7 _ last.toNat_lt]
    rfl
  | cons octet init ih =>
    obtain ⟨rounds, rfl⟩ : ∃ k, rounds = k + 1 := ⟨rounds - 1, by simp at hlength; omega⟩
    rw [List.length_cons] at hlength
    have hge := hmarked octet List.mem_cons_self
    have hnot : ¬ (shifted = 0 ∧ octet.toNat = 0x80) := by
      intro h
      apply hleading h.1
      rw [List.head?_cons, show octet = 128 from UInt8.toNat_inj.mp h.2]
    have hmarkedNot : ¬ octet.toNat &&& 0x80 = 0 := by
      rw [and_high _ octet.toNat_lt]
      omega
    rw [readTagNumber, if_neg (Nat.not_le.mpr (lt_length_of_drop hdrop)), octetAt_of_drop hdrop,
      ok_bind, if_neg hnot, if_neg (by omega), if_neg hmarkedNot, and_low7 _ octet.toNat_lt,
      ih (fun o ho => hmarked o (List.mem_cons_of_mem _ ho)) (drop_succ_of_drop hdrop)
        (by omega) (by omega) (by omega)]
    congr 2
    rw [List.length_cons]
    omega

/-- The loop reads the octets of a number that has four at most. -/
theorem readTagNumber_eq_ok : readTagNumber buffer 5 cursor 0 0 = .ok (n, c) ↔
      n < 128 ^ 4 ∧ c = cursor + (Der.base128 n).length ∧
        ∃ rest, buffer.drop cursor = Der.base128 n ++ rest := by
  constructor
  · intro h
    obtain ⟨init, last, rest, hdrop, hmarked, hlast, hleading, hlength, hn, hc⟩ :=
      readTagNumber_sound h
    rw [foldl_push128] at hn
    have hbase : Der.base128 n = init ++ [last] := by
      rw [hn]
      exact Der.Carries.base128 ⟨hmarked, hlast, hleading rfl⟩
    have hcount : (Der.base128 n).length = init.length + 1 := by rw [hbase]; simp
    refine ⟨(Der.length_base128_le n 3).mp (by omega), by omega, rest, ?_⟩
    rw [hdrop, hbase, List.append_assoc]
    rfl
  · intro ⟨hlt, hc, rest, hdrop⟩
    obtain ⟨init, last, hbase, hcarries⟩ := Der.exists_carries n
    have hcount : (Der.base128 n).length = init.length + 1 := by rw [hbase]; simp
    have hfour := (Der.length_base128_le n 3).mpr hlt
    rw [hbase, List.append_assoc] at hdrop
    rw [readTagNumber_complete hcarries.marked hcarries.unmarked hdrop
      (fun _ => hcarries.leading) (by omega) (by omega), foldl_push128, ← hbase,
      Der.value128_base128, hc, hcount]
    rfl

/-! ## Lengths -/

theorem readLengthOctets_eq (k : Nat) (h : cursor + k ≤ buffer.length) :
    readLengthOctets buffer cursor k = .ok (BigEndian.value ((buffer.drop cursor).take k)) := by
  induction k with
  | zero => rfl
  | succ k ih =>
    have hlt : k < (buffer.drop cursor).length := by rw [List.length_drop]; omega
    have hdrop : buffer.drop (cursor + k) = (buffer.drop cursor)[k] :: buffer.drop (cursor + k + 1) := by
      rw [← List.drop_drop, List.drop_eq_getElem_cons hlt, List.drop_drop]
      rfl
    unfold readLengthOctets at ih ⊢
    rw [List.range_succ, List.foldlM_append, ih (by omega), ok_bind, List.foldlM_cons,
      octetAt_of_drop hdrop, ok_bind, List.take_succ_eq_append_getElem hlt,
      BigEndian.value_concat, Nat.mul_comm 256]
    rfl

theorem settled_readLength (buffer : List UInt8) (cursor : Nat) :
    Settled (readLength buffer cursor) := by
  unfold readLength
  by_cases hcursor : buffer.length ≤ cursor
  · rw [if_pos hcursor]
    exact settled_null
  · rw [if_neg hcursor]
    apply (settled_octetAt (by omega)).bind
    intro octet _
    split
    · exact settled_ok _
    · dsimp only
      split
      · exact settled_null
      · split
        · exact settled_null
        · split
          · exact settled_null
          · rw [readLengthOctets_eq _ (by omega), ok_bind]
            split
            · exact settled_null
            · apply (settled_octetAt (by omega)).bind
              intro leading _
              split
              · exact settled_null
              · exact settled_ok _

theorem readLength_complete (hn : n < 256 ^ 4)
    (hdrop : buffer.drop cursor = Der.lengthOctets n ++ rest) :
    readLength buffer cursor = .ok (n, cursor + (Der.lengthOctets n).length) := by
  unfold Der.lengthOctets at hdrop ⊢
  by_cases hshort : n < 128
  · rw [if_pos hshort] at hdrop ⊢
    have hn' : (UInt8.ofNat n).toNat = n := by rw [UInt8.toNat_ofNat']; omega
    rw [readLength, if_neg (Nat.not_le.mpr (lt_length_of_drop hdrop)), octetAt_of_drop hdrop,
      ok_bind, hn', if_pos ((and_high _ (by omega)).mpr hshort)]
    rfl
  · rw [if_neg hshort] at hdrop ⊢
    have hfour : (Der.digits 256 n).length ≤ 4 := (Der.length_digits_le (by decide) 4).mpr hn
    have hpos : 0 < (Der.digits 256 n).length :=
      List.length_pos_of_ne_nil (Der.digits_ne_nil (by omega))
    generalize hds : (Der.digits 256 n).map UInt8.ofNat = ds at hdrop
    have hcount : (Der.digits 256 n).length = ds.length := by rw [← hds, List.length_map]
    rw [hcount] at hdrop hfour hpos ⊢
    have hfirst : (UInt8.ofNat (128 + ds.length)).toNat = 128 + ds.length := by
      rw [UInt8.toNat_ofNat']
      omega
    have hhigh : ¬ (128 + ds.length) &&& 0x80 = 0 := by
      rw [and_high _ (by omega)]
      omega
    have hlow : (128 + ds.length) &&& 0x7f = ds.length := by
      rw [and_low7 _ (by omega)]
      omega
    have hafter : buffer.drop (cursor + 1) = ds ++ rest := drop_succ_of_drop hdrop
    have hroom : cursor + 1 + ds.length ≤ buffer.length := by
      have hlength := congrArg List.length hafter
      rw [List.length_drop, List.length_append] at hlength
      omega
    have hvalue : BigEndian.value ((buffer.drop (cursor + 1)).take ds.length) = n := by
      rw [hafter, List.take_left, ← hds, Der.value_digits]
    obtain ⟨d, tail, htail⟩ := List.exists_cons_of_length_pos hpos
    have hleading : ¬ d.toNat = 0 := by
      intro hzero
      have hhead := Der.head?_digits_octets n
      rw [hds, htail, List.head?_cons, show d = 0 from UInt8.toNat_inj.mp hzero] at hhead
      exact hhead rfl
    have hoctet : octetAt buffer (cursor + 1) = .ok d.toNat := by
      apply octetAt_of_drop
      rw [hafter, htail]
      rfl
    rw [readLength, if_neg (Nat.not_le.mpr (lt_length_of_drop hdrop)), octetAt_of_drop hdrop,
      ok_bind, hfirst, if_neg hhigh]
    dsimp only
    rw [hlow, if_neg (by omega), if_neg (by omega), if_neg (by omega), readLengthOctets_eq _ hroom,
      ok_bind, hvalue, if_neg hshort, hoctet, ok_bind, if_neg hleading, List.length_cons]
    congr 2
    omega

theorem readLength_sound (h : readLength buffer cursor = .ok (n, c)) :
    n < 256 ^ 4 ∧ c = cursor + (Der.lengthOctets n).length ∧
      ∃ rest, buffer.drop cursor = Der.lengthOctets n ++ rest := by
  unfold readLength at h
  cases hdrop : buffer.drop cursor with
  | nil =>
    rw [if_pos (length_le_of_drop hdrop)] at h
    cases h
  | cons octet rest =>
    have hlt := octet.toNat_lt
    have hinside := lt_length_of_drop hdrop
    have hafter := drop_succ_of_drop hdrop
    rw [if_neg (Nat.not_le.mpr hinside), octetAt_of_drop hdrop, ok_bind] at h
    simp only [and_high _ hlt, and_low7 _ hlt] at h
    split at h
    · rename_i hshort
      have hpair := Prod.mk.inj (Except.ok.inj h)
      have hn : n < 128 := by omega
      have hoctet : UInt8.ofNat n = octet := by
        apply UInt8.toNat_inj.mp
        rw [UInt8.toNat_ofNat']
        omega
      rw [Der.lengthOctets, if_pos hn, hoctet]
      refine ⟨by omega, hpair.2.symm, rest, rfl⟩
    · split at h
      · cases h
      · split at h
        · cases h
        · split at h
          · cases h
          · rename_i hhigh hpos hfour hroom
            rw [readLengthOctets_eq _ (by omega), ok_bind, hafter] at h
            split at h
            · cases h
            · rename_i hlong
              generalize hds : rest.take (octet.toNat % 128) = ds at h hlong
              have hcount : ds.length = octet.toNat % 128 := by
                have hlength := congrArg List.length hafter
                rw [List.length_drop] at hlength
                rw [← hds, List.length_take]
                omega
              obtain ⟨d, tail, htail⟩ := List.exists_cons_of_length_pos (l := ds) (by omega)
              have hrest : rest = ds ++ rest.drop (octet.toNat % 128) := by
                rw [← hds, List.take_append_drop]
              have hoctet : octetAt buffer (cursor + 1) = .ok d.toNat := by
                exact octetAt_of_drop ((hafter.trans hrest).trans (by rw [htail]; rfl))
              rw [hoctet, ok_bind] at h
              split at h
              · cases h
              · rename_i hleading
                have hpair := Prod.mk.inj (Except.ok.inj h)
                have hdigits : (Der.digits 256 n).map UInt8.ofNat = ds := by
                  rw [← hpair.1]
                  apply Der.digits_value
                  rw [htail, List.head?_cons]
                  intro hzero
                  rw [Option.some.injEq] at hzero
                  exact hleading (by rw [hzero]; rfl)
                have hlength : (Der.digits 256 n).length = ds.length := by
                  rw [← hdigits, List.length_map]
                have hfirst : UInt8.ofNat (128 + ds.length) = octet := by
                  apply UInt8.toNat_inj.mp
                  rw [UInt8.toNat_ofNat']
                  omega
                have hn : n < 256 ^ 4 := (Der.length_digits_le (by decide) 4).mp (by omega)
                rw [Der.lengthOctets, if_neg (by omega), hdigits, hlength, hfirst]
                refine ⟨hn, ?_, rest.drop (octet.toNat % 128), ?_⟩
                · rw [← hpair.2, List.length_cons]
                  omega
                · rw [List.cons_append, ← hrest]

/-! ## One node -/

def DerNode.tag (node : DerNode) : Der.Tag := ⟨node.tagClass, node.constructed, node.tagNumber⟩

/-- The sizes the reader goes up to. -/
structure Fits (node : DerNode) : Prop where
  tagClass : node.tagClass < 4
  number : node.tagNumber < 128 ^ 4
  length : node.content.length < 256 ^ 4

/-- The octets stand for a node: its distinguished encoding, or the one that writes a tag number
    below 31 after the identifier octet. -/
structure Stands (octets : List UInt8) (node : DerNode) : Prop where
  fits : Fits node
  form : octets = Der.encode node.tag node.content ∨
    node.tagNumber < 31 ∧ octets = Der.encodeLong node.tag node.content
  total : node.totalLength = octets.length

theorem leading_toNat {tag : Der.Tag} {low : Nat} (hclass : tag.tagClass < 4) (hlow : low < 32) :
    (tag.leading low).toNat = 64 * tag.tagClass + 32 * tag.constructed.toNat + low := by
  have hconstructed : tag.constructed.toNat ≤ 1 := Bool.toNat_le _
  rw [Der.Tag.leading, UInt8.toNat_ofNat']
  omega

/-- The tag that an identifier octet starts. -/
def tagFrom (octet : UInt8) (number : Nat) : Der.Tag :=
  ⟨octet.toNat / 64, decide (octet.toNat / 32 % 2 = 1), number⟩

theorem leading_tagFrom (octet : UInt8) (number : Nat) :
    (tagFrom octet number).leading (octet.toNat % 32) = octet := by
  have hlt := octet.toNat_lt
  have hclass : (tagFrom octet number).tagClass < 4 := by
    show octet.toNat / 64 < 4
    omega
  apply UInt8.toNat_inj.mp
  rw [leading_toNat hclass (by omega)]
  simp only [tagFrom]
  by_cases hconstructed : octet.toNat / 32 % 2 = 1
  · simp only [hconstructed, decide_true, Bool.toNat_true]
    omega
  · simp only [hconstructed, decide_false, Bool.toNat_false]
    omega

theorem tagFrom_leading {tag : Der.Tag} {low : Nat} (hclass : tag.tagClass < 4) (hlow : low < 32) :
    tagFrom (tag.leading low) tag.number = tag ∧ (tag.leading low).toNat % 32 = low := by
  obtain ⟨tagClass, constructed, number⟩ := tag
  rw [tagFrom, leading_toNat hclass hlow]
  simp only at hclass
  cases constructed with
  | true =>
    simp only [Bool.toNat_true, Der.Tag.mk.injEq, decide_eq_true_eq, and_true]
    omega
  | false =>
    simp only [Bool.toNat_false, Der.Tag.mk.injEq, decide_eq_false_iff_not, and_true]
    omega

theorem readIdentifier_eq_ok {offset : Nat} (hdrop : buffer.drop offset = octet :: rest) :
    readIdentifier buffer offset octet.toNat = .ok (n, c) ↔
      n < 128 ^ 4 ∧ ∃ octets rest', buffer.drop offset = octets ++ rest' ∧
        c = offset + octets.length ∧
        (octets = (tagFrom octet n).octets ∨ n < 31 ∧ octets = (tagFrom octet n).longOctets) := by
  have hlt := octet.toNat_lt
  have hclass (m : Nat) : (tagFrom octet m).tagClass < 4 := by
    show octet.toNat / 64 < 4
    omega
  have hafter := drop_succ_of_drop hdrop
  rw [readIdentifier, and_low5 _ hlt]
  constructor
  · intro h
    split at h
    · rename_i hlow
      obtain ⟨hn, hc, rest', hrest⟩ := readTagNumber_eq_ok.mp h
      have hlong : (tagFrom octet n).longOctets = octet :: Der.base128 n := by
        have hleading := leading_tagFrom octet n
        rw [hlow] at hleading
        rw [Der.Tag.longOctets, hleading]
        rfl
      refine ⟨hn, octet :: Der.base128 n, rest', ?_, by rw [List.length_cons]; omega, ?_⟩
      · rw [hdrop, List.cons_append, ← hrest, hafter]
      · by_cases hsmall : n < 31
        · exact .inr ⟨hsmall, hlong.symm⟩
        · left
          rw [Der.Tag.octets, if_neg (show ¬ (tagFrom octet n).number < 31 from hsmall), hlong]
    · rename_i hlow
      have hpair := Prod.mk.inj (Except.ok.inj h)
      have hsmall : n < 31 := by omega
      have hn : n < 128 ^ 4 := by omega
      refine ⟨hn, [octet], rest, hdrop, hpair.2.symm, .inl ?_⟩
      have hleading := leading_tagFrom octet n
      rw [hpair.1] at hleading
      rw [Der.Tag.octets, if_pos (show (tagFrom octet n).number < 31 from hsmall)]
      exact congrArg (fun o => [o]) hleading.symm
  · intro ⟨hn, octets, rest', hrest, hc, hform⟩
    rw [hdrop] at hrest
    have hcases : octets = (tagFrom octet n).longOctets ∨
        n < 31 ∧ octets = [(tagFrom octet n).leading n] := by
      cases hform with
      | inr h => exact .inl h.2
      | inl h =>
        by_cases hsmall : n < 31
        · rw [Der.Tag.octets, if_pos (show (tagFrom octet n).number < 31 from hsmall)] at h
          exact .inr ⟨hsmall, h⟩
        · rw [Der.Tag.octets, if_neg (show ¬ (tagFrom octet n).number < 31 from hsmall)] at h
          exact .inl h
    cases hcases with
    | inl hlong =>
      rw [hlong, Der.Tag.longOctets, List.cons_append] at hrest
      have hcons := List.cons.inj hrest
      have hlow := (tagFrom_leading (hclass n) (show 31 < 32 by decide)).2
      rw [← hcons.1] at hlow
      rw [if_pos hlow]
      apply readTagNumber_eq_ok.mpr
      refine ⟨hn, ?_, rest', hafter.trans hcons.2⟩
      rw [hc, hlong, Der.Tag.longOctets, List.length_cons]
      show offset + ((Der.base128 n).length + 1) = offset + 1 + (Der.base128 n).length
      omega
    | inr hshort =>
      obtain ⟨hsmall, hoctets⟩ := hshort
      rw [hoctets] at hrest
      have hcons := List.cons.inj hrest
      have hlow := (tagFrom_leading (hclass n) (show n < 32 by omega)).2
      rw [← hcons.1] at hlow
      rw [if_neg (by omega), hlow, hc, hoctets]
      rfl

theorem settled_readIdentifier (buffer : List UInt8) (offset identifier : Nat) :
    Settled (readIdentifier buffer offset identifier) := by
  unfold readIdentifier
  split
  · exact settled_readTagNumber _ _ _ _ _ (by omega) (by omega)
  · exact settled_ok _

theorem settled_readDerNode (buffer : List UInt8) (offset : Int) :
    Settled (readDerNode buffer offset) := by
  unfold readDerNode
  split
  · exact settled_null
  · apply (settled_octetAt (by omega)).bind
    intro identifier _
    apply (settled_readIdentifier buffer offset.toNat identifier).bind
    intro tag _
    apply (settled_readLength buffer tag.2).bind
    intro length _
    dsimp only
    split
    · exact settled_null
    · exact settled_ok _

theorem readDerNode_eq_ok {offset : Int} {node : DerNode} : readDerNode buffer offset = .ok node ↔
      0 ≤ offset ∧ ∃ octets rest, buffer.drop offset.toNat = octets ++ rest ∧ Stands octets node := by
  constructor
  · intro h
    unfold readDerNode at h
    split at h
    · cases h
    · rename_i hoffset
      obtain ⟨octet, tail, hdrop⟩ : ∃ octet tail, buffer.drop offset.toNat = octet :: tail :=
        List.exists_cons_of_ne_nil (fun hnil => by
          have := length_le_of_drop hnil
          omega)
      have hlt := octet.toNat_lt
      simp only [octetAt_of_drop hdrop, ok_bind, bind_eq_ok] at h
      obtain ⟨⟨n, c⟩, hidentifier, ⟨length, c'⟩, hlength, h⟩ := h
      obtain ⟨hn, tagOctets, rest, hrest, hc, hform⟩ := (readIdentifier_eq_ok hdrop).mp hidentifier
      obtain ⟨hbound, hc', rest', hrest'⟩ := readLength_sound hlength
      dsimp only at h
      split at h
      · cases h
      · rename_i hroom
        have hnode := Except.ok.inj h
        have hafter : buffer.drop c = rest := by
          rw [hc, ← List.drop_drop, hrest, List.drop_left]
        have hcontent : buffer.drop c' = rest' := by
          rw [hc', ← List.drop_drop, hrest', List.drop_left]
        have hcount : (rest'.take length).length = length := by
          have hlength' := congrArg List.length hcontent
          rw [List.length_drop] at hlength'
          have hinside := congrArg List.length hrest'
          rw [List.length_drop, List.length_append] at hinside
          rw [List.length_take]
          omega
        have hsplit : rest' = rest'.take length ++ rest'.drop length :=
          (List.take_append_drop length rest').symm
        have htag : node.tag = tagFrom octet n := by
          rw [← hnode, DerNode.tag, tagFrom, and_class _ hlt, and_constructed _ hlt]
        have hnodeContent : node.content = rest'.take length := by rw [← hnode, ← hcontent]
        have hwhole : buffer.drop offset.toNat =
            (tagOctets ++ (Der.lengthOctets length ++ rest'.take length)) ++ rest'.drop length := by
          rw [hrest, ← hafter, hrest', List.append_assoc, List.append_assoc, ← hsplit]
        refine ⟨by omega, _, _, hwhole, ⟨?_, ?_, ?_⟩, ?_, ?_⟩
        · show node.tag.tagClass < 4
          rw [htag]
          show octet.toNat / 64 < 4
          omega
        · show node.tag.number < 128 ^ 4
          rw [htag]
          exact hn
        · rw [hnodeContent, hcount]
          exact hbound
        · rw [htag, hnodeContent, Der.encode, Der.encodeLong, hcount]
          cases hform with
          | inl h => exact .inl (by rw [h])
          | inr h =>
            refine .inr ⟨?_, by rw [h.2]⟩
            show node.tag.number < 31
            rw [htag]
            exact h.1
        · have htotal : node.totalLength = c' + length - offset.toNat := by rw [← hnode]
          rw [htotal, List.length_append, List.length_append, hcount]
          omega
  · rintro ⟨hoffset, octets, rest, hrest, hfits, hform, htotal⟩
    -- both forms are identifier octets before the same length and content
    obtain ⟨tagOctets, hoctets, htagOctets⟩ : ∃ tagOctets,
        octets = tagOctets ++ (Der.lengthOctets node.content.length ++ node.content) ∧
          (tagOctets = node.tag.octets ∨
            node.tagNumber < 31 ∧ tagOctets = node.tag.longOctets) := by
      cases hform with
      | inl h => exact ⟨_, h, .inl rfl⟩
      | inr h => exact ⟨_, h.2, .inr ⟨h.1, rfl⟩⟩
    obtain ⟨low, tail, hlow, hhead⟩ : ∃ low tail, low < 32 ∧
        tagOctets = node.tag.leading low :: tail := by
      cases htagOctets with
      | inr h => exact ⟨31, _, by decide, h.2⟩
      | inl h =>
        rw [h, Der.Tag.octets]
        split
        · rename_i hsmall
          exact ⟨_, [], by omega, rfl⟩
        · exact ⟨31, _, by decide, rfl⟩
    have hclassBound : node.tag.tagClass < 4 := hfits.tagClass
    have hidentity := (tagFrom_leading hclassBound hlow).1
    generalize hoctet : node.tag.leading low = octet at hhead hidentity
    have hlt := octet.toNat_lt
    have hdrop : buffer.drop offset.toNat =
        octet :: (tail ++ (Der.lengthOctets node.content.length ++ node.content) ++ rest) := by
      rw [hrest, hoctets, hhead]
      rfl
    have hbounds : ¬ (offset < 0 ∨ buffer.length ≤ offset) := by
      have := lt_length_of_drop hdrop
      omega
    have hidentifier : readIdentifier buffer offset.toNat octet.toNat =
        .ok (node.tagNumber, offset.toNat + tagOctets.length) := by
      apply (readIdentifier_eq_ok hdrop).mpr
      refine ⟨hfits.number, tagOctets,
        Der.lengthOctets node.content.length ++ node.content ++ rest, ?_, rfl, ?_⟩
      · rw [hrest, hoctets, List.append_assoc]
      · rw [show tagFrom octet node.tagNumber = node.tag from hidentity]
        exact htagOctets
    have hafter : buffer.drop (offset.toNat + tagOctets.length) =
        Der.lengthOctets node.content.length ++ (node.content ++ rest) := by
      rw [← List.drop_drop, hrest, hoctets, List.append_assoc, List.drop_left, List.append_assoc]
    have hcontent : buffer.drop (offset.toNat + tagOctets.length +
        (Der.lengthOctets node.content.length).length) = node.content ++ rest := by
      rw [← List.drop_drop, hafter, List.drop_left]
    have hroom : ¬ buffer.length < offset.toNat + tagOctets.length +
        (Der.lengthOctets node.content.length).length + node.content.length := by
      have hlength := congrArg List.length hcontent
      rw [List.length_drop, List.length_append] at hlength
      have hpos := lt_length_of_drop hdrop
      by_cases hzero : node.content.length = 0
      · have hlength' := congrArg List.length hafter
        rw [List.length_drop, List.length_append] at hlength'
        have hne := List.length_pos_of_ne_nil (Der.lengthOctets_ne_nil node.content.length)
        omega
      · omega
    rw [readDerNode, if_neg hbounds]
    dsimp only
    rw [octetAt_of_drop hdrop, ok_bind, hidentifier, ok_bind]
    dsimp only
    rw [readLength_complete hfits.length hafter, ok_bind]
    dsimp only
    rw [if_neg hroom, hcontent, List.take_left]
    have htag : node.tag = tagFrom octet node.tagNumber := hidentity.symm
    have hclass : octet.toNat / 64 = node.tagClass := congrArg Der.Tag.tagClass htag.symm
    have hconstructed : decide (octet.toNat / 32 % 2 = 1) = node.constructed :=
      congrArg Der.Tag.constructed htag.symm
    have hlength : offset.toNat + tagOctets.length +
        (Der.lengthOctets node.content.length).length + node.content.length - offset.toNat =
          node.totalLength := by
      rw [htotal, hoctets, List.length_append, List.length_append]
      omega
    rw [and_class _ hlt, and_constructed _ hlt, hclass, hconstructed, hlength]

end Sentinel.AttestationDer
