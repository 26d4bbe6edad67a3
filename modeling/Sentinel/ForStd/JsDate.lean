import Sentinel.ForStd.JsText
import Sentinel.ForStd.Decimal

/-! # Reading a date and time

`parse` reads the texts `z.string().datetime()` accepts, a date, a time and `Z`, and gives the
instant `Date.parse` gives for them.

* `daysFromCivil_civilFromDays` the calendar computation of `toISOString` undone
* `parse_toISOString`           what `toISOString` writes is read back
* `parse_bounds`                the instants a four-digit year reaches -/

namespace JsDate

open JsText

/-! ## The calendar -/

/-- Gregorian leap years. -/
def isLeap (year : Int) : Bool := year % 4 = 0 ∧ (year % 100 ≠ 0 ∨ year % 400 = 0)

def daysInMonth (year : Int) (month : Nat) : Nat :=
  if month = 2 then (if isLeap year then 29 else 28)
  else if month = 4 ∨ month = 6 ∨ month = 9 ∨ month = 11 then 30
  else 31

variable {doe doy month day width n : Nat} {year ms : Int} {rest text : List Char}

theorem daysInMonth_le (year : Int) (month : Nat) : daysInMonth year month ≤ 31 := by
  rw [daysInMonth]
  repeat' split
  all_goals omega

/-- The day of a date counted from 1970-01-01 (proleptic Gregorian). -/
def daysFromCivil (year : Int) (month day : Nat) : Int :=
  let shifted := if month ≤ 2 then year - 1 else year
  let mp := if month ≤ 2 then month + 9 else month - 3
  let yoe := shifted % 400
  let doy : Int := ((153 * mp + 2) / 5 + day : Nat) - 1
  shifted / 400 * 146097 + (yoe * 365 + yoe / 4 - yoe / 100 + doy) - 719468

/-- The year of the 400-year cycle that a day of the cycle falls in. -/
def yearOfEra (doe : Nat) : Nat := (doe - doe / 1460 + doe / 36524 - doe / 146096) / 365

/-- The days of the cycle before a year of it. -/
def startOfYear (yoe : Nat) : Nat := 365 * yoe + yoe / 4 - yoe / 100

/-- The fourth century of the cycle is a day longer than the others. -/
theorem century_cases (h : doe < 146097) :
    doe / 36524 = 0 ∨ doe / 36524 = 1 ∨ doe / 36524 = 2 ∨ doe / 36524 = 3 ∨ doe = 146096 := by
  omega

theorem yearOfEra_lt (h : doe < 146097) : yearOfEra doe < 400 := by
  rw [yearOfEra]
  omega

theorem yearOfEra_century (h : doe < 146096) :
    yearOfEra doe = (doe - doe / 1460 + doe / 36524) / 365 ∧
      yearOfEra doe / 100 = doe / 36524 := by
  have hyear : yearOfEra doe = (doe - doe / 1460 + doe / 36524) / 365 := by
    rw [yearOfEra]
    omega
  rw [hyear]
  rcases century_cases (Nat.lt_succ_of_lt h) with hc | hc | hc | hc | hc <;>
    refine ⟨rfl, ?_⟩ <;> omega

/-- A day lies in the year it is given to. -/
theorem startOfYear_le (h : doe < 146097) :
    startOfYear (yearOfEra doe) ≤ doe ∧ doe ≤ startOfYear (yearOfEra doe) + 365 := by
  rcases Nat.lt_or_eq_of_le (Nat.le_of_lt_succ h) with hlt | rfl
  · obtain ⟨hyear, hcentury⟩ := yearOfEra_century hlt
    rw [startOfYear]
    rcases century_cases h with hc | hc | hc | hc | hc <;> omega
  · decide

/-- Only a leap year has a day 365 after its first of March. -/
theorem leap_of_last (h : doe < 146097) (hlast : doe = startOfYear (yearOfEra doe) + 365) :
    (yearOfEra doe + 1) % 4 = 0 ∧
      ((yearOfEra doe + 1) % 100 ≠ 0 ∨ (yearOfEra doe + 1) % 400 = 0) := by
  rcases Nat.lt_or_eq_of_le (Nat.le_of_lt_succ h) with hlt | rfl
  · obtain ⟨hyear, hcentury⟩ := yearOfEra_century hlt
    rw [startOfYear] at hlast
    have hquarter : yearOfEra doe / 4 < doe / 1460 := by
      rcases century_cases h with hc | hc | hc | hc | hc <;> omega
    have hmod : yearOfEra doe % 4 = 3 := by
      have hcases : yearOfEra doe % 4 = 0 ∨ yearOfEra doe % 4 = 1 ∨ yearOfEra doe % 4 = 2 ∨
          yearOfEra doe % 4 = 3 := by omega
      rcases hcases with hm | hm | hm | hm
      · omega
      · omega
      · omega
      · exact hm
    refine ⟨by omega, Or.inl fun hcent => ?_⟩
    -- the last day of a century belongs to the next one
    rcases century_cases h with hc | hc | hc | hc | hc <;> omega
  · decide

theorem month_day (h : doy ≤ 365) :
    (5 * doy + 2) / 153 ≤ 11 ∧ (153 * ((5 * doy + 2) / 153) + 2) / 5 ≤ doy := by
  omega

/-- The months counted from March, with the days before each. -/
theorem month_length (h : doy ≤ 365) (year : Int) (hlast : doy = 365 → isLeap year = true) :
    doy - (153 * ((5 * doy + 2) / 153) + 2) / 5 + 1 ≤
      daysInMonth year (if (5 * doy + 2) / 153 < 10 then (5 * doy + 2) / 153 + 3
        else (5 * doy + 2) / 153 - 9) := by
  have hcases : (5 * doy + 2) / 153 = 0 ∨ (5 * doy + 2) / 153 = 1 ∨ (5 * doy + 2) / 153 = 2 ∨
      (5 * doy + 2) / 153 = 3 ∨ (5 * doy + 2) / 153 = 4 ∨ (5 * doy + 2) / 153 = 5 ∨
      (5 * doy + 2) / 153 = 6 ∨ (5 * doy + 2) / 153 = 7 ∨ (5 * doy + 2) / 153 = 8 ∨
      (5 * doy + 2) / 153 = 9 ∨ (5 * doy + 2) / 153 = 10 ∨ (5 * doy + 2) / 153 = 11 := by omega
  rcases hcases with hm | hm | hm | hm | hm | hm | hm | hm | hm | hm | hm | hm
  case inr.inr.inr.inr.inr.inr.inr.inr.inr.inr.inr =>
    by_cases hleap : isLeap year = true
    · simp [hm, daysInMonth, hleap]
      omega
    · have hne : doy ≠ 365 := fun he => hleap (hlast he)
      simp [hm, daysInMonth, hleap]
      omega
  all_goals
    simp [hm, daysInMonth]
    omega

/-- A date of the year that starts in March, with its day counted from the epoch. -/
theorem daysFromCivil_of_dayOfYear {yoe mp : Nat} (era : Int) (hyoe : yoe < 400)
    (hmp : mp ≤ 11) (hstart : (153 * mp + 2) / 5 ≤ doy) :
    daysFromCivil (yoe + era * 400 + if (if mp < 10 then mp + 3 else mp - 9) ≤ 2 then 1 else 0)
        (if mp < 10 then mp + 3 else mp - 9) (doy - (153 * mp + 2) / 5 + 1) =
      era * 146097 + (startOfYear yoe + doy : Nat) - 719468 := by
  have hshift : ((yoe : Int) + era * 400) / 400 = era ∧ ((yoe : Int) + era * 400) % 400 = yoe := by
    omega
  by_cases hm : mp < 10
  · have hmonth : ¬ mp + 3 ≤ 2 := by omega
    simp only [daysFromCivil, if_pos hm, if_neg hmonth, Int.add_zero, hshift.1, hshift.2,
      Nat.add_sub_cancel, startOfYear]
    omega
  · have hmonth : mp - 9 ≤ 2 := by omega
    have hback : mp - 9 + 9 = mp := by omega
    simp only [daysFromCivil, if_neg hm, if_pos hmonth, Int.add_sub_cancel, hshift.1, hshift.2,
      hback, startOfYear]
    omega

/-- The civil date of a day is a date of the calendar, and it is the date of that day. -/
theorem civilFromDays_spec {days : Int} (h : civilFromDays days = (year, month, day)) :
    (1 ≤ month ∧ month ≤ 12) ∧ (1 ≤ day ∧ day ≤ daysInMonth year month) ∧
      daysFromCivil year month day = days := by
  obtain ⟨doe, hdoe⟩ : ∃ doe : Nat, (days + 719468) % 146097 = doe :=
    ⟨((days + 719468) % 146097).toNat, by omega⟩
  have hlt : doe < 146097 := by omega
  have hyear := yearOfEra_lt hlt
  obtain ⟨hle, hge⟩ := startOfYear_le hlt
  obtain ⟨doy, hdoy⟩ : ∃ doy : Nat, doe = startOfYear (yearOfEra doe) + doy :=
    ⟨doe - startOfYear (yearOfEra doe), by omega⟩
  have hdoyLe : doy ≤ 365 := by omega
  obtain ⟨hmonth, hstart⟩ := month_day hdoyLe
  have hcivil : civilFromDays days =
      (yearOfEra doe + (days + 719468) / 146097 * 400 +
          (if (if (5 * doy + 2) / 153 < 10 then (5 * doy + 2) / 153 + 3
            else (5 * doy + 2) / 153 - 9) ≤ 2 then 1 else 0),
        if (5 * doy + 2) / 153 < 10 then (5 * doy + 2) / 153 + 3 else (5 * doy + 2) / 153 - 9,
        doy - (153 * ((5 * doy + 2) / 153) + 2) / 5 + 1) := by
    have hsub : doe - startOfYear (yearOfEra doe) = doy := by omega
    simp only [civilFromDays, hdoe, Int.toNat_natCast]
    rw [← yearOfEra, ← startOfYear, hsub]
  obtain ⟨rfl, rfl, rfl⟩ : _ ∧ _ ∧ _ := by simpa only [hcivil, Prod.mk.injEq] using h
  refine ⟨?_, ⟨by omega, month_length hdoyLe _ fun hlast => ?_⟩, ?_⟩
  · split <;> omega
  · -- day 365 is the 29th of February of the year that follows
    obtain ⟨hfour, hcent⟩ := leap_of_last hlt (by omega)
    subst hlast
    simp only [Nat.reduceMul, Nat.reduceAdd, Nat.reduceDiv, Nat.reduceLT, Nat.reduceSub,
      Nat.reduceLeDiff, reduceIte, isLeap, decide_eq_true_eq]
    omega
  · rw [daysFromCivil_of_dayOfYear _ hyear hmonth hstart]
    omega

/-! ## Reading -/

/-- A number of exactly so many digits. -/
def field (width : Nat) (text : List Char) : Option (Nat × List Char) :=
  if (text.take width).length = width ∧ (text.take width).all Char.isDigit then
    some (Nat.ofDigitChars 10 (text.take width) 0, text.drop width)
  else none

def literal (c : Char) : List Char → Option (List Char)
  | d :: rest => if d = c then some rest else none
  | [] => none

/-- The fraction of a second, in milliseconds; further digits are dropped. -/
def fraction : List Char → Option (Nat × List Char)
  | '.' :: rest =>
    let digits := rest.takeWhile Char.isDigit
    if digits = [] then none
    else some (Nat.ofDigitChars 10 ((digits ++ ['0', '0']).take 3) 0, rest.dropWhile Char.isDigit)
  | rest => some (0, rest)

/-- The seconds, in milliseconds; they may be left out. -/
def seconds : List Char → Option (Nat × List Char)
  | ':' :: rest => do
    let (second, rest) ← field 2 rest
    if second < 60 then
      let (ms, rest) ← fraction rest
      some (1000 * second + ms, rest)
    else none
  | rest => some (0, rest)

/-- The time of a day, in milliseconds, up to the end of the text. -/
def timeOfDay (text : List Char) : Option Nat := do
  let (hour, rest) ← field 2 text
  let rest ← literal ':' rest
  let (minute, rest) ← field 2 rest
  let (ms, rest) ← seconds rest
  if hour < 24 ∧ minute < 60 ∧ rest = ['Z'] then some (3600000 * hour + 60000 * minute + ms)
  else none

/-- The instant of a date and time, in milliseconds since the epoch; `none` where the schema
    refuses the text. -/
def parse (text : String) : Option Int := do
  let (year, rest) ← field 4 text.toList
  let rest ← literal '-' rest
  let (month, rest) ← field 2 rest
  let rest ← literal '-' rest
  let (day, rest) ← field 2 rest
  let rest ← literal 'T' rest
  let time ← timeOfDay rest
  if (1 ≤ month ∧ month ≤ 12) ∧ 1 ≤ day ∧ day ≤ daysInMonth year month then
    some (86400000 * daysFromCivil year month day + time)
  else none

example : parse "2026-08-14T10:00:00.000Z" = some 1786701600000 := by decide +kernel
example : parse "2026-08-14T10:00Z" = some 1786701600000 := by decide +kernel
example : parse "2026-02-29T10:00:00Z" = none := by decide +kernel

@[simp] theorem literal_cons (c : Char) (rest : List Char) : literal c (c :: rest) = some rest := by
  rw [literal, if_pos rfl]

/-! ## What is written is read back -/

theorem field_append {digits : List Char} (hlength : digits.length = width)
    (hdigits : digits.all Char.isDigit = true) (rest : List Char) :
    field width (digits ++ rest) = some (Nat.ofDigitChars 10 digits 0, rest) := by
  have htake : (digits ++ rest).take width = digits := by rw [← hlength, List.take_left]
  have hdrop : (digits ++ rest).drop width = rest := by rw [← hlength, List.drop_left]
  rw [field, htake, hdrop, if_pos ⟨hlength, hdigits⟩]

/-- The digits of a padded number, as characters. -/
theorem toList_padded (width n : Nat) :
    (padded width n).toList =
      List.replicate (width - (Nat.toDigits 10 n).length) '0' ++ Nat.toDigits 10 n := by
  have hlength : (toString n).length = (Nat.toDigits 10 n).length := by
    rw [Nat.toString_eq_repr, Nat.repr_eq_ofList_toDigits, String.length_ofList]
  rw [padded, String.toList_append, String.toList_ofList, hlength, Nat.toString_eq_repr,
    Nat.repr_eq_ofList_toDigits, String.toList_ofList]

theorem padded_isDigit (width n : Nat) : (padded width n).toList.all Char.isDigit = true := by
  rw [toList_padded, List.all_append, Bool.and_eq_true]
  constructor
  · rw [List.all_eq_true]
    intro c hc
    rw [(List.mem_replicate.mp hc).2]
    rfl
  · rw [List.all_eq_true]
    exact fun c hc => Nat.isDigit_of_mem_toDigits (by omega) (by omega) hc

theorem length_padded (hwidth : 0 < width) (hn : n < 10 ^ width) :
    (padded width n).toList.length = width := by
  have hle := (Nat.length_toDigits_le_iff (n := n) (by omega : 1 < 10) hwidth).mpr hn
  rw [toList_padded, List.length_append, List.length_replicate]
  omega

/-- The padding does not change the number. -/
theorem ofDigitChars_padded (width n : Nat) : Nat.ofDigitChars 10 (padded width n).toList 0 = n := by
  rw [toList_padded, Nat.ofDigitChars_append, Nat.ofDigitChars_replicate_zero, Nat.mul_zero,
    Nat.ofDigitChars_ten_toDigits]

theorem field_padded (hwidth : 0 < width) (hn : n < 10 ^ width)
    (rest : List Char) : field width ((padded width n).toList ++ rest) = some (n, rest) := by
  rw [field_append (length_padded hwidth hn) (padded_isDigit width n), ofDigitChars_padded]

theorem fraction_padded (hn : n < 1000) :
    fraction ('.' :: ((padded 3 n).toList ++ ['Z'])) = some (n, ['Z']) := by
  have hlength := length_padded (by omega : 0 < 3) (by omega : n < 10 ^ 3)
  have hdigits := List.all_eq_true.mp (padded_isDigit 3 n)
  have htake : ((padded 3 n).toList ++ ['Z']).takeWhile Char.isDigit = (padded 3 n).toList := by
    rw [List.takeWhile_append_of_pos hdigits]
    simp
  have hdrop : ((padded 3 n).toList ++ ['Z']).dropWhile Char.isDigit = ['Z'] := by
    rw [List.dropWhile_append_of_pos hdigits]
    rfl
  have hne : (padded 3 n).toList ≠ [] := by
    intro hnil
    rw [hnil] at hlength
    cases hlength
  simp only [fraction, htake, hdrop]
  rw [if_neg hne, List.take_left' hlength, ofDigitChars_padded]

/-- The time `toISOString` writes. -/
theorem timeOfDay_toISOString {rest : Nat} (h : rest < 86400000) :
    timeOfDay ((padded 2 (rest / 3600000)).toList ++ ':' :: ((padded 2 (rest / 60000 % 60)).toList ++
      ':' :: ((padded 2 (rest / 1000 % 60)).toList ++ '.' ::
        ((padded 3 (rest % 1000)).toList ++ ['Z'])))) = some rest := by
  have hhour := field_padded (by omega : 0 < 2) (by omega : rest / 3600000 < 10 ^ 2)
  have hminute := field_padded (by omega : 0 < 2) (by omega : rest / 60000 % 60 < 10 ^ 2)
  have hsecond := field_padded (by omega : 0 < 2) (by omega : rest / 1000 % 60 < 10 ^ 2)
  have hms := fraction_padded (by omega : rest % 1000 < 1000)
  simp only [timeOfDay, seconds, hhour, hminute, hsecond, hms, literal_cons, Option.bind_eq_bind,
    Option.bind_some]
  have hlt : rest / 1000 % 60 < 60 := Nat.mod_lt _ (by omega)
  have hrange : rest / 3600000 < 24 ∧ rest / 60000 % 60 < 60 ∧ ['Z'] = ['Z'] :=
    ⟨by omega, Nat.mod_lt _ (by omega), rfl⟩
  rw [if_pos hlt, Option.bind_some, if_pos hrange]
  rw [Option.some.injEq]
  omega

/-- The instants of the years 0 to 9999. -/
theorem daysFromCivil_bounds (year : Int) (hmonth : 1 ≤ month ∧ month ≤ 12)
    (hday : 1 ≤ day ∧ day ≤ 31) :
    0 ≤ year ∧ year ≤ 9999 ↔
      -719528 ≤ daysFromCivil year month day ∧ daysFromCivil year month day ≤ 2932896 := by
  rw [daysFromCivil]
  by_cases hm : month ≤ 2
  · simp only [if_pos hm]
    omega
  · simp only [if_neg hm]
    have hera : year / 400 ≤ -2 ∨ year / 400 = -1 ∨ 0 ≤ year / 400 := by omega
    rcases hera with hera | hera | hera <;> omega

/-- A padded date before a time that reads. -/
theorem parse_date {text : String} {year time : Nat}
    (htext : text.toList = (padded 4 year).toList ++ '-' :: ((padded 2 month).toList ++ '-' ::
      ((padded 2 day).toList ++ 'T' :: rest)))
    (hyear : year ≤ 9999) (hmonth : 1 ≤ month ∧ month ≤ 12)
    (hday : 1 ≤ day ∧ day ≤ daysInMonth year month) (htime : timeOfDay rest = some time) :
    parse text = some (86400000 * daysFromCivil year month day + time) := by
  have hlong := daysInMonth_le year month
  have hyearField := field_padded (by omega : 0 < 4) (by omega : year < 10 ^ 4)
  have hmonthField := field_padded (by omega : 0 < 2) (by omega : month < 10 ^ 2)
  have hdayField := field_padded (by omega : 0 < 2) (by omega : day < 10 ^ 2)
  simp only [parse, htext, hyearField, hmonthField, hdayField, literal_cons, htime,
    Option.bind_eq_bind, Option.bind_some]
  rw [if_pos ⟨hmonth, hday⟩]

/-- The characters `toISOString` writes for a year of four digits. -/
theorem toList_toISOString
    (hcivil : civilFromDays (ms / 86400000) = (year, month, day)) (hyear : 0 ≤ year ∧ year ≤ 9999) :
    (toISOString ms).toList = (padded 4 year.toNat).toList ++ '-' ::
      ((padded 2 month).toList ++ '-' :: ((padded 2 day).toList ++ 'T' ::
        ((padded 2 ((ms % 86400000).toNat / 3600000)).toList ++ ':' ::
          ((padded 2 ((ms % 86400000).toNat / 60000 % 60)).toList ++ ':' ::
            ((padded 2 ((ms % 86400000).toNat / 1000 % 60)).toList ++ '.' ::
              ((padded 3 ((ms % 86400000).toNat % 1000)).toList ++ ['Z'])))))) := by
  have hdash : "-".toList = ['-'] := rfl
  have htee : "T".toList = ['T'] := rfl
  have hcolon : ":".toList = [':'] := rfl
  have hdot : ".".toList = ['.'] := rfl
  have hzed : "Z".toList = ['Z'] := rfl
  delta toISOString
  rw [hcivil]
  dsimp only
  rw [if_pos hyear]
  simp only [String.toList_append, List.append_assoc, hdash, htee, hcolon, hdot, hzed,
    List.cons_append, List.nil_append]

/-- The instants of the years of four digits. -/
theorem civilFromDays_year (hcivil : civilFromDays (ms / 86400000) = (year, month, day))
    (h : -62167219200000 ≤ ms ∧ ms < 253402300800000) : 0 ≤ year ∧ year ≤ 9999 := by
  obtain ⟨hmonth, hday, hdays⟩ := civilFromDays_spec hcivil
  have hlong := daysInMonth_le year month
  rw [daysFromCivil_bounds year hmonth ⟨hday.1, hday.2.trans hlong⟩, hdays]
  omega

/-- What `toISOString` writes for a year of four digits is read back. -/
theorem parse_toISOString (h : -62167219200000 ≤ ms ∧ ms < 253402300800000) :
    parse (toISOString ms) = some ms := by
  obtain ⟨year, month, day, hcivil⟩ : ∃ year month day,
      civilFromDays (ms / 86400000) = (year, month, day) := ⟨_, _, _, rfl⟩
  obtain ⟨hmonth, hday, hdays⟩ := civilFromDays_spec hcivil
  have hlong := daysInMonth_le year month
  have hyear := civilFromDays_year hcivil h
  have hback : (year.toNat : Int) = year := Int.toNat_of_nonneg hyear.1
  have htime := timeOfDay_toISOString (by omega : (ms % 86400000).toNat < 86400000)
  rw [parse_date (toList_toISOString hcivil hyear) (by omega) hmonth (by rwa [hback]) htime, hback,
    hdays, Option.some.injEq]
  omega

/-! ## Two instants with one text -/

/-- The year as `toISOString` writes it. -/
def yearText (year : Int) : List Char :=
  if 0 ≤ year ∧ year ≤ 9999 then (padded 4 year.toNat).toList
  else (if year < 0 then '-' else '+') :: (padded 6 year.natAbs).toList

/-- What `toISOString` writes after the year. -/
def afterYear (month day rest : Nat) : List Char :=
  '-' :: ((padded 2 month).toList ++ '-' :: ((padded 2 day).toList ++ 'T' ::
    ((padded 2 (rest / 3600000)).toList ++ ':' :: ((padded 2 (rest / 60000 % 60)).toList ++ ':' ::
      ((padded 2 (rest / 1000 % 60)).toList ++ '.' :: ((padded 3 (rest % 1000)).toList ++ ['Z']))))))

theorem toList_toISOString_eq (hcivil : civilFromDays (ms / 86400000) = (year, month, day)) :
    (toISOString ms).toList = yearText year ++ afterYear month day (ms % 86400000).toNat := by
  have hyear : (if 0 ≤ year ∧ year ≤ 9999 then padded 4 year.toNat
      else (if year < 0 then "-" else "+") ++ padded 6 year.natAbs).toList = yearText year := by
    rw [yearText]
    split
    · rfl
    · rw [String.toList_append]
      split <;> rfl
  have hdash : "-".toList = ['-'] := rfl
  have htee : "T".toList = ['T'] := rfl
  have hcolon : ":".toList = [':'] := rfl
  have hdot : ".".toList = ['.'] := rfl
  have hzed : "Z".toList = ['Z'] := rfl
  delta toISOString
  rw [hcivil]
  dsimp only
  simp only [String.toList_append, List.append_assoc, hdash, htee, hcolon, hdot, hzed, hyear,
    afterYear, List.cons_append, List.nil_append]

theorem length_afterYear {rest : Nat} (hmonth : month ≤ 12) (hday : day ≤ 31)
    (hrest : rest < 86400000) : (afterYear month day rest).length = 20 := by
  simp only [afterYear, List.length_cons, List.length_append, List.length_nil,
    length_padded (by omega : 0 < 2) (by omega : month < 10 ^ 2),
    length_padded (by omega : 0 < 2) (by omega : day < 10 ^ 2),
    length_padded (by omega : 0 < 2) (by omega : rest / 3600000 < 10 ^ 2),
    length_padded (by omega : 0 < 2) (by omega : rest / 60000 % 60 < 10 ^ 2),
    length_padded (by omega : 0 < 2) (by omega : rest / 1000 % 60 < 10 ^ 2),
    length_padded (by omega : 0 < 3) (by omega : rest % 1000 < 10 ^ 3)]

/-- `toISOString` takes 24 characters for a year of four digits. -/
theorem length_toISOString (h : -62167219200000 ≤ ms ∧ ms < 253402300800000) :
    (toISOString ms).toList.length = 24 := by
  obtain ⟨year, month, day, hcivil⟩ : ∃ year month day,
      civilFromDays (ms / 86400000) = (year, month, day) := ⟨_, _, _, rfl⟩
  obtain ⟨hmonth, hday, -⟩ := civilFromDays_spec hcivil
  have hlong := daysInMonth_le year month
  have hyear := civilFromDays_year hcivil h
  rw [toList_toISOString_eq hcivil, yearText, if_pos hyear, List.length_append,
    length_padded (by omega) (by omega), length_afterYear hmonth.2 (by omega) (by omega)]

/-- The characters of `toISOString` for a year of four digits. -/
theorem mem_toISOString (h : -62167219200000 ≤ ms ∧ ms < 253402300800000) {c : Char}
    (hc : c ∈ (toISOString ms).toList) : c.isDigit = true ∨ c ∈ ['-', 'T', ':', '.', 'Z'] := by
  obtain ⟨year, month, day, hcivil⟩ : ∃ year month day,
      civilFromDays (ms / 86400000) = (year, month, day) := ⟨_, _, _, rfl⟩
  have hdigit : ∀ width n, c ∈ (padded width n).toList → c.isDigit = true := fun width n =>
    List.all_eq_true.mp (padded_isDigit width n) c
  rw [toList_toISOString hcivil (civilFromDays_year hcivil h)] at hc
  simp only [List.mem_append, List.mem_cons, List.not_mem_nil, or_false] at hc ⊢
  obtain hc | hc | hc | hc | hc | hc | hc | hc | hc | hc | hc | hc | hc | hc := hc
  all_goals first
    | exact .inl (hdigit _ _ hc)
    | exact .inr (by simp only [hc, true_or, or_true])

/-- The date and the time after the year are read back. -/
theorem afterYear_inj {rest month' day' rest' : Nat} (hmonth : month ≤ 12)
    (hday : day ≤ 31) (hrest : rest < 86400000) (hmonth' : month' ≤ 12) (hday' : day' ≤ 31)
    (hrest' : rest' < 86400000) (h : afterYear month day rest = afterYear month' day' rest') :
    month = month' ∧ day = day' ∧ rest = rest' := by
  have hlength : ∀ n m, n < 100 → m < 100 →
      (padded 2 n).toList.length = (padded 2 m).toList.length := by
    intro n m hn hm
    rw [length_padded (by omega) (by omega : n < 10 ^ 2),
      length_padded (by omega) (by omega : m < 10 ^ 2)]
  have hvalue : ∀ n m, (padded 2 n).toList = (padded 2 m).toList → n = m := by
    intro n m hsame
    rw [← ofDigitChars_padded 2 n, hsame, ofDigitChars_padded]
  obtain ⟨-, h⟩ := List.cons.inj h
  obtain ⟨hsameMonth, h⟩ := List.append_inj h (hlength _ _ (by omega) (by omega))
  obtain ⟨-, h⟩ := List.cons.inj h
  obtain ⟨hsameDay, h⟩ := List.append_inj h (hlength _ _ (by omega) (by omega))
  obtain ⟨-, h⟩ := List.cons.inj h
  have htime := timeOfDay_toISOString hrest
  rw [h, timeOfDay_toISOString hrest'] at htime
  exact ⟨hvalue _ _ hsameMonth, hvalue _ _ hsameDay, (Option.some.inj htime).symm⟩

theorem yearText_inj {year' : Int} (h : yearText year = yearText year') : year = year' := by
  have hvalue : ∀ width n m, (padded width n).toList = (padded width m).toList → n = m := by
    intro width n m hsame
    rw [← ofDigitChars_padded width n, hsame, ofDigitChars_padded]
  -- a year of four digits starts with a digit, another with its sign
  have hsign : ∀ n sign (digits : List Char), sign.isDigit = false →
      (padded 4 n).toList ≠ sign :: digits := by
    intro n sign digits hdigit hsame
    have hall := padded_isDigit 4 n
    rw [hsame, List.all_cons, hdigit] at hall
    cases hall
  have hmark : ∀ y : Int, (if y < 0 then '-' else '+').isDigit = false := fun y => by
    split <;> rfl
  rw [yearText, yearText] at h
  by_cases hyear : 0 ≤ year ∧ year ≤ 9999
  · rw [if_pos hyear] at h
    by_cases hyear' : 0 ≤ year' ∧ year' ≤ 9999
    · rw [if_pos hyear'] at h
      have hnat := hvalue 4 _ _ h
      omega
    · rw [if_neg hyear'] at h
      exact absurd h (hsign _ _ _ (hmark year'))
  · rw [if_neg hyear] at h
    by_cases hyear' : 0 ≤ year' ∧ year' ≤ 9999
    · rw [if_pos hyear'] at h
      exact absurd h.symm (hsign _ _ _ (hmark year))
    · rw [if_neg hyear'] at h
      obtain ⟨hsame, hdigits⟩ := List.cons.inj h
      have hnat := hvalue 6 _ _ hdigits
      have hboth : year < 0 ↔ year' < 0 := by
        by_cases hneg : year < 0
        · by_cases hneg' : year' < 0
          · exact iff_of_true hneg hneg'
          · rw [if_pos hneg, if_neg hneg'] at hsame
            exact absurd hsame (by decide)
        · by_cases hneg' : year' < 0
          · rw [if_neg hneg, if_pos hneg'] at hsame
            exact absurd hsame (by decide)
          · exact iff_of_false hneg hneg'
      omega

/-- Distinct instants have distinct texts. -/
theorem toISOString_injective {ms' : Int} (h : toISOString ms = toISOString ms') : ms = ms' := by
  obtain ⟨year, month, day, hcivil⟩ : ∃ year month day,
      civilFromDays (ms / 86400000) = (year, month, day) := ⟨_, _, _, rfl⟩
  obtain ⟨year', month', day', hcivil'⟩ : ∃ year month day,
      civilFromDays (ms' / 86400000) = (year, month, day) := ⟨_, _, _, rfl⟩
  obtain ⟨hmonth, hday, hdays⟩ := civilFromDays_spec hcivil
  obtain ⟨hmonth', hday', hdays'⟩ := civilFromDays_spec hcivil'
  have hlong := daysInMonth_le year month
  have hlong' := daysInMonth_le year' month'
  have hrest : (ms % 86400000).toNat < 86400000 := by omega
  have hrest' : (ms' % 86400000).toNat < 86400000 := by omega
  have htext := congrArg String.toList h
  rw [toList_toISOString_eq hcivil, toList_toISOString_eq hcivil'] at htext
  have hlength : (afterYear month day (ms % 86400000).toNat).length =
      (afterYear month' day' (ms' % 86400000).toNat).length := by
    rw [length_afterYear hmonth.2 (by omega) hrest, length_afterYear hmonth'.2 (by omega) hrest']
  obtain ⟨hyear, hafter⟩ := List.append_inj' htext hlength
  obtain rfl := yearText_inj hyear
  obtain ⟨rfl, rfl, hsame⟩ := afterYear_inj hmonth.2 (by omega) hrest hmonth'.2 (by omega) hrest'
    hafter
  omega

/-- An instant is written in ASCII. -/
theorem ascii_toISOString {c : Char} (h : c ∈ (toISOString ms).toList) : c.toNat < 128 := by
  have hdigit : ∀ width n, ∀ d ∈ (padded width n).toList, d.toNat < 128 := by
    intro width n d hd
    have hall := List.all_eq_true.mp (padded_isDigit width n) d hd
    simp only [Char.isDigit, Bool.and_eq_true, decide_eq_true_eq] at hall
    have hupper : d.toNat ≤ 57 := hall.2
    omega
  obtain ⟨year, month, day, hcivil⟩ : ∃ year month day,
      civilFromDays (ms / 86400000) = (year, month, day) := ⟨_, _, _, rfl⟩
  rw [toList_toISOString_eq hcivil, List.mem_append] at h
  cases h with
  | inl hyear =>
    rw [yearText] at hyear
    split at hyear
    · exact hdigit _ _ c hyear
    · rcases List.mem_cons.mp hyear with rfl | hdigits
      · split <;> decide
      · exact hdigit _ _ c hdigits
  | inr hafter =>
    simp only [afterYear, List.mem_cons, List.mem_append, List.not_mem_nil, or_false] at hafter
    rcases hafter with rfl | h | rfl | h | rfl | h | rfl | h | rfl | h | rfl | h | rfl
    all_goals first | decide | exact hdigit _ _ c h

/-! ## What can be read -/

theorem ofDigitChars_lt {digits : List Char} (h : digits.all Char.isDigit = true) (init : Nat) :
    Nat.ofDigitChars 10 digits init < (init + 1) * 10 ^ digits.length := by
  induction digits generalizing init with
  | nil => simp
  | cons c digits ih =>
    rw [List.all_cons, Bool.and_eq_true] at h
    have hc : c.toNat - '0'.toNat ≤ 9 := by
      have hdigit := h.1
      simp only [Char.isDigit, Bool.and_eq_true, decide_eq_true_eq] at hdigit
      have hupper : c.toNat ≤ 57 := hdigit.2
      have hzero : '0'.toNat = 48 := rfl
      omega
    rw [Nat.ofDigitChars_cons, List.length_cons, Nat.pow_succ]
    calc Nat.ofDigitChars 10 digits (10 * init + (c.toNat - '0'.toNat))
        < (10 * init + (c.toNat - '0'.toNat) + 1) * 10 ^ digits.length := ih h.2 _
      _ ≤ ((init + 1) * 10) * 10 ^ digits.length := Nat.mul_le_mul_right _ (by omega)
      _ = (init + 1) * (10 ^ digits.length * 10) := by rw [Nat.mul_assoc, Nat.mul_comm 10]

theorem field_lt (h : field width text = some (n, rest)) : n < 10 ^ width := by
  rw [field] at h
  split at h
  · rename_i hfield
    cases h
    have hlt := ofDigitChars_lt hfield.2 0
    rwa [hfield.1, Nat.zero_add, Nat.one_mul] at hlt
  · cases h

theorem fraction_lt {ms : Nat} (h : fraction text = some (ms, rest)) : ms < 1000 := by
  unfold fraction at h
  split at h
  · rename_i tail
    dsimp only at h
    split at h
    · cases h
    · cases h
      have hdigits : ((tail.takeWhile Char.isDigit ++ ['0', '0']).take 3).all Char.isDigit =
          true := by
        rw [List.all_eq_true]
        intro c hc
        rcases List.mem_append.mp (List.mem_of_mem_take hc) with hc | hc
        · exact List.all_eq_true.mp List.all_takeWhile c hc
        · revert hc
          simp +contextual
      have hlt := ofDigitChars_lt hdigits 0
      have hlength := List.length_take_le 3 (tail.takeWhile Char.isDigit ++ ['0', '0'])
      calc Nat.ofDigitChars 10 ((tail.takeWhile Char.isDigit ++ ['0', '0']).take 3) 0
          < (0 + 1) * 10 ^ ((tail.takeWhile Char.isDigit ++ ['0', '0']).take 3).length := hlt
        _ ≤ 1 * 10 ^ 3 := Nat.mul_le_mul_left _ (Nat.pow_le_pow_right (by omega) hlength)
  · cases h
    omega

theorem seconds_lt {ms : Nat} (h : seconds text = some (ms, rest)) : ms < 60000 := by
  unfold seconds at h
  split at h
  · obtain ⟨⟨second, tail⟩, -, h⟩ := Option.bind_eq_some_iff.mp h
    dsimp only at h
    split at h
    · obtain ⟨⟨part, tail'⟩, hpart, h⟩ := Option.bind_eq_some_iff.mp h
      cases h
      have hlt := fraction_lt hpart
      omega
    · cases h
  · cases h
    omega

theorem timeOfDay_lt {time : Nat} (h : timeOfDay text = some time) : time < 86400000 := by
  simp only [timeOfDay, Option.bind_eq_bind, Option.bind_eq_some_iff] at h
  obtain ⟨⟨hour, _⟩, -, _, -, ⟨minute, _⟩, -, ⟨ms, rest⟩, hms, h⟩ := h
  have hlt := seconds_lt hms
  split at h
  · rename_i hrange
    cases h
    omega
  · cases h

/-- The schema's texts name instants of the years 0 to 9999. -/
theorem parse_bounds {text : String} (h : parse text = some ms) :
    -62167219200000 ≤ ms ∧ ms < 253402300800000 := by
  simp only [parse, Option.bind_eq_bind, Option.bind_eq_some_iff] at h
  obtain ⟨⟨year, _⟩, hyear, _, -, ⟨month, _⟩, -, _, -, ⟨day, _⟩, -, _, -, time, htime, h⟩ := h
  have hlt := timeOfDay_lt htime
  have hyearLt := field_lt hyear
  split at h
  · rename_i hdate
    cases h
    have hday : 1 ≤ day ∧ day ≤ 31 := ⟨hdate.2.1, hdate.2.2.trans (daysInMonth_le _ _)⟩
    have hdays := (daysFromCivil_bounds year hdate.1 hday).mp ⟨by omega, by omega⟩
    dsimp only at hdays ⊢
    omega
  · cases h

end JsDate
