import Sentinel.ForStd.Decimal
import Sentinel.ForStd.JsText

/-! # UTF-16 text

Strings as lists of code units, surrogates without a partner included, how `JSON.stringify` writes
them, and their characters. -/

namespace Utf16

open JsonText (Quoting)

def isHighSurrogate (unit : UInt16) : Bool := 0xd800 ≤ unit.toNat ∧ unit.toNat < 0xdc00

def isLowSurrogate (unit : UInt16) : Bool := 0xdc00 ≤ unit.toNat ∧ unit.toNat < 0xe000

/-- The units of an ASCII text. -/
def ascii (text : List Char) : List UInt16 := text.map fun c => UInt16.ofNat c.toNat

theorem ascii_inj {text text' : List Char} (h : ∀ c ∈ text, c.toNat < 128)
    (h' : ∀ c ∈ text', c.toNat < 128) (hsame : ascii text = ascii text') : text = text' := by
  have hback : ∀ l : List Char, (∀ c ∈ l, c.toNat < 128) →
      (ascii l).map (fun unit => Char.ofNat unit.toNat) = l := by
    intro l hl
    rw [ascii, List.map_map]
    refine (List.map_congr_left fun c hc => ?_).trans (List.map_id l)
    have hlt := hl c hc
    have hunit : (UInt16.ofNat c.toNat).toNat = c.toNat :=
      UInt16.toNat_ofNat_of_lt' (by simp only [UInt16.size]; omega)
    rw [Function.comp_apply, hunit, Char.ofNat_toNat, id_eq]
  rw [← hback text h, hsame, hback text' h']

/-- The decimal text of an integer. -/
def decimal (n : Int) : List UInt16 := ascii (Decimal.digits n)

theorem decimal_ne_nil (n : Int) : decimal n ≠ [] := by
  rw [decimal, ascii, ne_eq, List.map_eq_nil_iff]
  exact Decimal.digits_ne_nil n

theorem isLexeme_of_mem_decimal {n : Int} {unit : UInt16} (h : unit ∈ decimal n) :
    JsonText.isLexeme unit.toNat = true := by
  obtain ⟨c, hc, rfl⟩ := List.mem_map.mp h
  have hlexeme := Decimal.isLexeme_of_mem_digits hc
  have hlt : c.toNat < 65536 := by
    simp [JsonText.isLexeme] at hlexeme
    omega
  rwa [UInt16.toNat_ofNat_of_lt' (by simpa [UInt16.size] using hlt)]

theorem decimal_injective {m n : Int} (h : decimal m = decimal n) : m = n := by
  have hascii : ∀ k : Int, ∀ c ∈ Decimal.digits k, c.toNat < 128 := by
    intro k c hc
    have hlexeme := Decimal.isLexeme_of_mem_digits hc
    simp [JsonText.isLexeme] at hlexeme
    omega
  exact Decimal.digits_injective (ascii_inj (hascii m) (hascii n) h)

/-- The array index that a property key spells: the number whose decimal text it is. -/
def arrayIndex? (key : List UInt16) : Option Nat :=
  let n : Nat := key.foldl (fun n unit => 10 * n + (unit.toNat - 48)) 0
  if decimal n = key ∧ n < 2 ^ 32 - 1 then some n else none

theorem decimal_of_arrayIndex? {key : List UInt16} {n : Nat} (h : arrayIndex? key = some n) :
    decimal n = key := by
  rw [arrayIndex?] at h
  split at h
  next hspelt => rw [← Option.some.inj h, hspelt.1]
  next => cases h

theorem arrayIndex?_inj (key key' : List UInt16) (n : Nat) (h : arrayIndex? key = some n)
    (h' : arrayIndex? key' = some n) : key = key' := by
  rw [← decimal_of_arrayIndex? h, decimal_of_arrayIndex? h']

/-- The units of a text, the surrogates without a partner marked. -/
def markLone : List UInt16 → List (UInt16 × Bool)
  | [] => []
  | [unit] => [(unit, isHighSurrogate unit || isLowSurrogate unit)]
  | unit :: low :: rest =>
    if isHighSurrogate unit ∧ isLowSurrogate low then
      (unit, false) :: (low, false) :: markLone rest
    else (unit, isHighSurrogate unit || isLowSurrogate unit) :: markLone (low :: rest)

theorem markLone_fst (text : List UInt16) : (markLone text).map Prod.fst = text := by
  fun_induction markLone text with
  | case1 => rfl
  | case2 => rfl
  | case3 unit low rest _ ih => rw [List.map_cons, List.map_cons, ih]
  | case4 unit low rest _ ih => rw [List.map_cons, ih]

/-- What `JSON.stringify` escapes beyond what JSON asks for. -/
def wellFormed : Quoting UInt16 where
  mark := markLone
  mark_fst := markLone_fst
  marked_lt _ unit _ := unit.toNat_lt

/-! ## Characters -/

/-- The units of a text of characters. -/
def units (text : String) : List UInt16 := (text.toList.flatMap JsText.codeUnits).map UInt16.ofNat

/-- The characters of a text, with U+FFFD for a surrogate without a partner. -/
def chars : List UInt16 → List Char
  | [] => []
  | [unit] => [loneChar unit]
  | unit :: low :: rest =>
    if isHighSurrogate unit ∧ isLowSurrogate low then
      Char.ofNat (0x10000 + (unit.toNat - 0xd800) * 0x400 + (low.toNat - 0xdc00)) :: chars rest
    else loneChar unit :: chars (low :: rest)
where
  /-- The character of a unit that is not the half of a pair. -/
  loneChar (unit : UInt16) : Char :=
    Char.ofNat (if isHighSurrogate unit ∨ isLowSurrogate unit then 0xfffd else unit.toNat)

/-- A text in which no surrogate is without a partner. -/
inductive Paired : List UInt16 → Prop
  | nil : Paired []
  | single {unit : UInt16} {rest : List UInt16} (hhigh : isHighSurrogate unit = false)
      (hlow : isLowSurrogate unit = false) (hrest : Paired rest) : Paired (unit :: rest)
  | pair {high low : UInt16} {rest : List UInt16} (hhigh : isHighSurrogate high = true)
      (hlow : isLowSurrogate low = true) (hrest : Paired rest) : Paired (high :: low :: rest)

theorem Paired.append {text more : List UInt16} (h : Paired text) (hmore : Paired more) :
    Paired (text ++ more) := by
  induction h with
  | nil => exact hmore
  | single hhigh hlow _ ih => exact .single hhigh hlow ih
  | pair hhigh hlow _ ih => exact .pair hhigh hlow ih

theorem Paired.intercalate {separator : List UInt16} (hseparator : Paired separator)
    {texts : List (List UInt16)} (h : ∀ text ∈ texts, Paired text) :
    Paired (separator.intercalate texts) := by
  induction texts with
  | nil => exact .nil
  | cons text texts ih =>
    have hhead := h text List.mem_cons_self
    have htail := ih fun later hlater => h later (List.mem_cons_of_mem _ hlater)
    cases texts with
    | nil => rwa [List.intercalate_singleton]
    | cons next texts =>
      rw [List.intercalate_cons_cons]
      exact (hhead.append hseparator).append htail

/-- Units below the surrogates stand alone. -/
theorem Paired.cons_of_lt {unit : UInt16} {rest : List UInt16} (hunit : unit.toNat < 0xd800)
    (hrest : Paired rest) : Paired (unit :: rest) := by
  apply Paired.single _ _ hrest
  · simp [isHighSurrogate]
    omega
  · simp [isLowSurrogate]
    omega

theorem paired_of_lt {text : List UInt16} (h : ∀ unit ∈ text, unit.toNat < 0xd800) :
    Paired text := by
  induction text with
  | nil => exact .nil
  | cons unit text ih =>
    exact .cons_of_lt (h unit List.mem_cons_self)
      (ih fun later hlater => h later (List.mem_cons_of_mem _ hlater))

theorem toNat_charOf {n : Nat} (h : n.isValidChar) : (Char.ofNat n).toNat = n := by
  rw [Char.ofNat, dif_pos h]
  rfl

theorem codeUnits_ofNat {unit : UInt16} (hhigh : isHighSurrogate unit = false)
    (hlow : isLowSurrogate unit = false) :
    (JsText.codeUnits (Char.ofNat unit.toNat)).map UInt16.ofNat = [unit] := by
  have hlt : unit.toNat < 0x10000 := unit.toNat_lt
  have hvalid : unit.toNat.isValidChar := by
    simp [isHighSurrogate] at hhigh
    simp [isLowSurrogate] at hlow
    rw [Nat.isValidChar]
    omega
  rw [JsText.codeUnits, toNat_charOf hvalid, if_pos hlt]
  simp

/-- The two units of a character that has two. -/
theorem codeUnits_ofNat_pair {high low : UInt16} (hhigh : isHighSurrogate high = true)
    (hlow : isLowSurrogate low = true) :
    (JsText.codeUnits (Char.ofNat
      (0x10000 + (high.toNat - 0xd800) * 0x400 + (low.toNat - 0xdc00)))).map UInt16.ofNat =
      [high, low] := by
  simp [isHighSurrogate] at hhigh
  simp [isLowSurrogate] at hlow
  have hvalid : (0x10000 + (high.toNat - 0xd800) * 0x400 + (low.toNat - 0xdc00)).isValidChar := by
    rw [Nat.isValidChar]
    omega
  have hhighUnit : 0xd800 + ((high.toNat - 0xd800) * 0x400 + (low.toNat - 0xdc00)) / 0x400 =
      high.toNat := by omega
  have hlowUnit : 0xdc00 + ((high.toNat - 0xd800) * 0x400 + (low.toNat - 0xdc00)) % 0x400 =
      low.toNat := by omega
  have hoffset : 0x10000 + (high.toNat - 0xd800) * 0x400 + (low.toNat - 0xdc00) - 0x10000 =
      (high.toNat - 0xd800) * 0x400 + (low.toNat - 0xdc00) := by omega
  rw [JsText.codeUnits, toNat_charOf hvalid, if_neg (by omega), hoffset, hhighUnit, hlowUnit]
  simp

/-- A text without lone surrogates is the text of its characters. -/
theorem units_ofList_chars {text : List UInt16} (h : Paired text) :
    units (String.ofList (chars text)) = text := by
  rw [units, String.toList_ofList]
  induction h with
  | nil => rfl
  | @single unit rest hhigh hlow _ ih =>
    have hchars : chars (unit :: rest) = Char.ofNat unit.toNat :: chars rest := by
      cases rest <;> simp [chars, chars.loneChar, hhigh, hlow]
    rw [hchars, List.flatMap_cons, List.map_append, codeUnits_ofNat hhigh hlow, ih]
    rfl
  | @pair high low rest hhigh hlow _ ih =>
    rw [chars, if_pos ⟨hhigh, hlow⟩, List.flatMap_cons, List.map_append,
      codeUnits_ofNat_pair hhigh hlow, ih]
    rfl

end Utf16
