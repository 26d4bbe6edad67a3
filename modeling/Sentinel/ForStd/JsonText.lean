import Mathlib.Data.List.Basic

/-! # JSON text

JSON values as trees whose unquoted tokens (numbers, `true`, `false`, `null`) keep
their lexeme, a compact printer, and a parser that reads it back.  The text is over
any alphabet of code units that contains ASCII, so the same development serves Unicode
characters and UTF-16 units.

Key results:
* `parseBody_quoted`  a printed string literal is read back
* `parseValue_print`  so is a printed value, whatever follows it
* `parse_print`       parsing a printed document gives the document
* `print_injective`   hence two documents with one text are equal -/

/-- Code units of a text, numbered so that the first 128 are ASCII. -/
class CodeUnit (α : Type) where
  code : α → Nat
  unit : Nat → α
  unit_code : ∀ a, unit (code a) = a
  code_unit : ∀ n, n < 128 → code (unit n) = n

instance : CodeUnit Char where
  code := Char.toNat
  unit := Char.ofNat
  unit_code := Char.ofNat_toNat
  code_unit n hn := by
    have hvalid : n.isValidChar := Or.inl (by omega)
    rw [Char.ofNat, dif_pos hvalid]
    rfl

instance : CodeUnit UInt16 where
  code := UInt16.toNat
  unit := UInt16.ofNat
  unit_code a := UInt16.ofNat_toNat
  code_unit n hn := UInt16.toNat_ofNat_of_lt' (by simp only [UInt16.size]; omega)

namespace JsonText

open CodeUnit (code unit unit_code code_unit)

/-- A JSON value: an unquoted token, a string, an array or an object. -/
inductive Json (α : Type) where
  | literal (lexeme : List α)
  | string (text : List α)
  | array (elements : List (Json α))
  | object (members : List (List α × Json α))

variable {α : Type} [CodeUnit α]

/-! ## Strings -/

/-- The short escapes `\"  \\  \b  \t  \n  \f  \r`: the letter after the backslash. -/
def shortEscape : Nat → Option Nat
  | 34 => some 34
  | 92 => some 92
  | 8 => some 98
  | 9 => some 116
  | 10 => some 110
  | 12 => some 102
  | 13 => some 114
  | _ => none

/-- The same escapes read back. -/
def unescape : Nat → Option Nat
  | 34 => some 34
  | 92 => some 92
  | 47 => some 47
  | 98 => some 8
  | 116 => some 9
  | 110 => some 10
  | 102 => some 12
  | 114 => some 13
  | _ => none

/-- A lowercase hexadecimal digit. -/
def hexDigit (d : Nat) : Nat := if d < 10 then 48 + d else 87 + d

/-- The value of a hexadecimal digit in either case. -/
def hexValue (n : Nat) : Option Nat :=
  if 48 ≤ n ∧ n ≤ 57 then some (n - 48)
  else if 97 ≤ n ∧ n ≤ 102 then some (n - 87)
  else if 65 ≤ n ∧ n ≤ 70 then some (n - 55)
  else none

/-- The four hexadecimal digits of a number below `2 ^ 16`. -/
def hex4 (n : Nat) : List Nat :=
  [hexDigit (n / 4096 % 16), hexDigit (n / 256 % 16), hexDigit (n / 16 % 16), hexDigit (n % 16)]

/-- Read four hexadecimal digits. -/
def hex4Value (a b c d : Nat) : Option Nat := do
  let a ← hexValue a
  let b ← hexValue b
  let c ← hexValue c
  let d ← hexValue d
  return ((a * 16 + b) * 16 + c) * 16 + d

theorem hexValue_hexDigit {d : Nat} (hd : d < 16) : hexValue (hexDigit d) = some d := by
  revert d
  decide

theorem hexDigit_lt {d : Nat} (hd : d < 16) : hexDigit d < 128 := by
  unfold hexDigit
  split <;> omega

/-- Which units of a string are escaped beyond what JSON asks for: a printer of
    UTF-16 text may, for example, escape the surrogates that stand alone. -/
structure Quoting (α : Type) [CodeUnit α] where
  mark : List α → List (α × Bool)
  mark_fst : ∀ text, (mark text).map Prod.fst = text
  marked_lt : ∀ text a, (a, true) ∈ mark text → code a < 65536

/-- Escape nothing JSON does not ask for. -/
def Quoting.plain (α : Type) [CodeUnit α] : Quoting α where
  mark text := text.map (·, false)
  mark_fst text := by simp [Function.comp_def]
  marked_lt text a h := by simp at h

/-- One unit inside a string literal. -/
def printUnit (marked : α × Bool) : List α :=
  match shortEscape (code marked.1) with
  | some letter => [unit 92, unit letter]
  | none =>
    if code marked.1 < 32 ∨ marked.2 = true then
      unit 92 :: unit 117 :: (hex4 (code marked.1)).map unit
    else [marked.1]

/-- A string literal with its quotes. -/
def printString (quoting : Quoting α) (text : List α) : List α :=
  unit 34 :: ((quoting.mark text).flatMap printUnit ++ [unit 34])

/-- The rest of a string literal after its opening quote, and what follows it. -/
def parseBody : List α → Option (List α × List α)
  | [] => none
  | a :: rest =>
    if code a = 34 then some ([], rest)
    else if code a = 92 then
      match rest with
      | [] => none
      | e :: rest =>
        if code e = 117 then
          match rest with
          | a :: b :: c :: d :: rest =>
            match hex4Value (code a) (code b) (code c) (code d) with
            | some n => (parseBody rest).map fun (text, rest) => (unit n :: text, rest)
            | none => none
          | _ => none
        else
          match unescape (code e) with
          | some n => (parseBody rest).map fun (text, rest) => (unit n :: text, rest)
          | none => none
    else if code a < 32 then none
    else (parseBody rest).map fun (text, rest) => (a :: text, rest)

/-- A short escape is read back, and its letter is not the `u` of a long one. -/
theorem unescape_shortEscape {n letter : Nat} (h : shortEscape n = some letter) :
    unescape letter = some n ∧ letter < 128 ∧ letter ≠ 117 := by
  unfold shortEscape at h
  split at h <;> simp_all <;> subst h <;> decide

/-- What has no short escape is neither a quote nor a backslash. -/
theorem ne_of_shortEscape_none {n : Nat} (h : shortEscape n = none) : n ≠ 34 ∧ n ≠ 92 := by
  constructor <;> rintro rfl <;> cases h

theorem hex4Value_hex4 {n : Nat} (hn : n < 65536) :
    hex4Value (hexDigit (n / 4096 % 16)) (hexDigit (n / 256 % 16)) (hexDigit (n / 16 % 16))
      (hexDigit (n % 16)) = some n := by
  have hdigit : ∀ m, hexValue (hexDigit (m % 16)) = some (m % 16) :=
    fun m => hexValue_hexDigit (Nat.mod_lt m (by omega))
  simp only [hex4Value, hdigit, Option.bind_eq_bind, Option.bind_some, Option.pure_def,
    Option.some.injEq]
  omega

/-- Reading a unit that is neither a quote, nor a backslash, nor a control. -/
theorem parseBody_cons_plain {a : α} (rest : List α) (hquote : code a ≠ 34)
    (hslash : code a ≠ 92) (hcontrol : ¬ code a < 32) :
    parseBody (a :: rest) = (parseBody rest).map fun (text, rest) => (a :: text, rest) := by
  conv_lhs => unfold parseBody
  simp only [hquote, hslash, hcontrol, if_false]

/-- Reading a short escape. -/
theorem parseBody_cons_short {letter n : Nat} (rest : List α) (hlt : letter < 128)
    (hu : letter ≠ 117) (hback : unescape letter = some n) :
    parseBody (unit 92 :: unit letter :: rest) =
      (parseBody rest).map fun (text, rest) => (unit n :: text, rest) := by
  have hslash : code (unit 92 : α) = 92 := code_unit 92 (by omega)
  have hletter : code (unit letter : α) = letter := code_unit letter hlt
  conv_lhs => unfold parseBody
  simp only [hslash, hletter, hu, hback, if_false, if_true, Nat.reduceEqDiff]

/-- Reading a `\u` escape. -/
theorem parseBody_cons_long {n : Nat} (rest : List α) (hn : n < 65536) :
    parseBody (unit 92 :: unit 117 :: ((hex4 n).map unit ++ rest)) =
      (parseBody rest).map fun (text, rest) => (unit n :: text, rest) := by
  have hslash : code (unit 92 : α) = 92 := code_unit 92 (by omega)
  have hu : code (unit 117 : α) = 117 := code_unit 117 (by omega)
  have hdigit : ∀ m, code (unit (hexDigit (m % 16)) : α) = hexDigit (m % 16) :=
    fun m => code_unit _ (hexDigit_lt (Nat.mod_lt m (by omega)))
  conv_lhs => unfold parseBody
  simp only [hslash, hu, hex4, List.map_cons, List.map_nil, List.cons_append, List.nil_append,
    hdigit, hex4Value_hex4 hn, if_false, if_true, Nat.reduceEqDiff]

/-- One printed unit is read back in front of anything. -/
theorem parseBody_printUnit {marked : α × Bool} (hmarked : marked.2 = true → code marked.1 < 65536)
    (rest : List α) :
    parseBody (printUnit marked ++ rest) =
      (parseBody rest).map fun (text, rest) => (marked.1 :: text, rest) := by
  unfold printUnit
  split
  next letter hletter =>
    obtain ⟨hback, hlt, hu⟩ := unescape_shortEscape hletter
    have hread := parseBody_cons_short rest hlt hu hback
    rwa [unit_code] at hread
  next hnone =>
    obtain ⟨hquote, hslash⟩ := ne_of_shortEscape_none hnone
    split
    next hlong =>
      have hlt : code marked.1 < 65536 := by
        rcases hlong with hlong | hlong
        · exact Nat.lt_trans hlong (by omega)
        · exact hmarked hlong
      have hread := parseBody_cons_long rest hlt
      rwa [unit_code] at hread
    next hplain =>
      rw [not_or] at hplain
      exact parseBody_cons_plain rest hquote hslash hplain.1

/-- A printed string literal, after its opening quote, is read back. -/
theorem parseBody_quoted (marks : List (α × Bool))
    (hmarks : ∀ a, (a, true) ∈ marks → code a < 65536) (rest : List α) :
    parseBody (marks.flatMap printUnit ++ unit 34 :: rest) = some (marks.map Prod.fst, rest) := by
  induction marks with
  | nil =>
    have hquote : code (unit 34 : α) = 34 := code_unit 34 (by omega)
    rw [List.flatMap_nil, List.nil_append]
    unfold parseBody
    rw [if_pos hquote, List.map_nil]
  | cons marked marks ih =>
    have hhead : marked.2 = true → code marked.1 < 65536 := fun h =>
      hmarks marked.1 (by rw [← h]; exact List.mem_cons_self)
    rw [List.flatMap_cons, List.append_assoc, parseBody_printUnit hhead,
      ih fun a ha => hmarks a (List.mem_cons_of_mem _ ha)]
    rfl

/-! ## Values -/

/-- A character of an unquoted token: a letter, a digit, a sign or a point. -/
def isLexeme (n : Nat) : Bool :=
  (48 ≤ n ∧ n ≤ 57) || (65 ≤ n ∧ n ≤ 90) || (97 ≤ n ∧ n ≤ 122) || n = 43 || n = 45 || n = 46

/-- The white space of JSON. -/
def isSpace (n : Nat) : Bool := n = 32 || n = 9 || n = 10 || n = 13

def skipSpace (text : List α) : List α := text.dropWhile fun a => isSpace (code a)

mutual
/-- The compact text of a value. -/
def print (quoting : Quoting α) : Json α → List α
  | .literal lexeme => lexeme
  | .string text => printString quoting text
  | .array elements =>
    unit 91 :: ([unit 44].intercalate (printElements quoting elements) ++ [unit 93])
  | .object members =>
    unit 123 :: ([unit 44].intercalate (printMembers quoting members) ++ [unit 125])

def printElements (quoting : Quoting α) : List (Json α) → List (List α)
  | [] => []
  | element :: elements => print quoting element :: printElements quoting elements

def printMembers (quoting : Quoting α) : List (List α × Json α) → List (List α)
  | [] => []
  | (key, value) :: members =>
    (printString quoting key ++ unit 58 :: print quoting value) :: printMembers quoting members
end

mutual
/-- Read one value; the fuel bounds the nesting. -/
def parseValue : Nat → List α → Option (Json α × List α)
  | 0, _ => none
  | fuel + 1, text =>
    match skipSpace text with
    | [] => none
    | a :: rest =>
      if code a = 34 then (parseBody rest).map fun (text, rest) => (.string text, rest)
      else if code a = 91 then
        match skipSpace rest with
        | [] => none
        | b :: more =>
          if code b = 93 then some (.array [], more)
          else (parseElements fuel (b :: more)).map fun (elements, rest) => (.array elements, rest)
      else if code a = 123 then
        match skipSpace rest with
        | [] => none
        | b :: more =>
          if code b = 125 then some (.object [], more)
          else (parseMembers fuel (b :: more)).map fun (members, rest) => (.object members, rest)
      else if isLexeme (code a) then
        some (.literal (a :: rest.takeWhile fun b => isLexeme (code b)),
          rest.dropWhile fun b => isLexeme (code b))
      else none

/-- Read the elements of a non-empty array and its closing bracket. -/
def parseElements : Nat → List α → Option (List (Json α) × List α)
  | 0, _ => none
  | fuel + 1, text =>
    match parseValue fuel text with
    | none => none
    | some (element, rest) =>
      match skipSpace rest with
      | [] => none
      | b :: rest =>
        if code b = 93 then some ([element], rest)
        else if code b = 44 then
          (parseElements fuel rest).map fun (elements, rest) => (element :: elements, rest)
        else none

/-- Read the members of a non-empty object and its closing brace. -/
def parseMembers : Nat → List α → Option (List (List α × Json α) × List α)
  | 0, _ => none
  | fuel + 1, text =>
    match skipSpace text with
    | [] => none
    | q :: rest =>
      if code q = 34 then
        match parseBody rest with
        | none => none
        | some (key, rest) =>
          match skipSpace rest with
          | [] => none
          | c :: rest =>
            if code c = 58 then
              match parseValue fuel rest with
              | none => none
              | some (value, rest) =>
                match skipSpace rest with
                | [] => none
                | b :: rest =>
                  if code b = 125 then some ([(key, value)], rest)
                  else if code b = 44 then
                    (parseMembers fuel rest).map fun (members, rest) =>
                      ((key, value) :: members, rest)
                  else none
            else none
      else none
end

/-- Read a whole document. -/
def parse (text : List α) : Option (Json α) :=
  match parseValue (text.length + 1) text with
  | some (tree, rest) => if (skipSpace rest).isEmpty then some tree else none
  | none => none

mutual
/-- Every unquoted token is a non-empty run of token characters. -/
def Json.Valid : Json α → Prop
  | .literal lexeme => lexeme ≠ [] ∧ ∀ a ∈ lexeme, isLexeme (code a) = true
  | .string _ => True
  | .array elements => ValidElements elements
  | .object members => ValidMembers members

def ValidElements : List (Json α) → Prop
  | [] => True
  | element :: elements => element.Valid ∧ ValidElements elements

def ValidMembers : List (List α × Json α) → Prop
  | [] => True
  | (_, value) :: members => value.Valid ∧ ValidMembers members
end

theorem validElements_iff {elements : List (Json α)} :
    ValidElements elements ↔ ∀ element ∈ elements, element.Valid := by
  induction elements with
  | nil => simp [ValidElements]
  | cons element elements ih => rw [ValidElements, ih, List.forall_mem_cons]

theorem validMembers_iff {members : List (List α × Json α)} :
    ValidMembers members ↔ ∀ member ∈ members, member.2.Valid := by
  induction members with
  | nil => simp [ValidMembers]
  | cons member members ih => rw [ValidMembers, ih, List.forall_mem_cons]

/-! ## Reading back what was printed -/

/-- What follows a value in a document: nothing that would continue a token. -/
def Ends (rest : List α) : Prop := ∀ a ∈ rest.head?, isLexeme (code a) = false

theorem ends_cons {n : Nat} (hn : n < 128) (h : isLexeme n = false) (rest : List α) :
    Ends (unit n :: rest) := by
  intro a ha
  cases ha
  rw [code_unit n hn]
  exact h

theorem skipSpace_cons {a : α} (h : isSpace (code a) = false) (rest : List α) :
    skipSpace (a :: rest) = a :: rest := by
  simp only [skipSpace, List.dropWhile_cons, h, Bool.false_eq_true, if_false]

theorem isSpace_of_isLexeme {n : Nat} (h : isLexeme n = true) : isSpace n = false := by
  simp [isLexeme, isSpace] at h ⊢
  omega

/-- A punctuation mark of the printer, with its number. -/
theorem skipSpace_unit {n : Nat} (hn : n < 128) (h : isSpace n = false) (rest : List α) :
    skipSpace (unit n :: rest) = unit n :: rest :=
  skipSpace_cons (by rw [code_unit n hn]; exact h) rest

/-- A printed value starts neither with white space nor with a closing bracket. -/
theorem print_head (quoting : Quoting α) {tree : Json α} (hvalid : tree.Valid) :
    ∃ a text, print quoting tree = a :: text ∧ isSpace (code a) = false ∧
      code a ≠ 93 ∧ code a ≠ 125 := by
  have hmark : ∀ n, n < 128 → n ≠ 93 → n ≠ 125 → isSpace n = false →
      isSpace (code (unit n : α)) = false ∧ code (unit n : α) ≠ 93 ∧ code (unit n : α) ≠ 125 := by
    intro n hn h93 h125 hspace
    rw [code_unit n hn]
    exact ⟨hspace, h93, h125⟩
  cases tree with
  | literal lexeme =>
    obtain ⟨hne, hall⟩ := hvalid
    obtain ⟨a, text, rfl⟩ := List.exists_cons_of_ne_nil hne
    have ha := hall a List.mem_cons_self
    have hcode : code a ≠ 93 ∧ code a ≠ 125 := by
      constructor <;> intro h <;> rw [h] at ha <;> exact absurd ha (by decide)
    exact ⟨a, text, rfl, isSpace_of_isLexeme ha, hcode⟩
  | string text => exact ⟨_, _, rfl, hmark 34 (by omega) (by omega) (by omega) rfl⟩
  | array elements => exact ⟨_, _, rfl, hmark 91 (by omega) (by omega) (by omega) rfl⟩
  | object members => exact ⟨_, _, rfl, hmark 123 (by omega) (by omega) (by omega) rfl⟩

/-- The run of token characters at the front is the token. -/
theorem span_lexeme {lexeme rest : List α} (hall : ∀ a ∈ lexeme, isLexeme (code a) = true)
    (hends : Ends rest) :
    ((lexeme ++ rest).takeWhile fun a => isLexeme (code a)) = lexeme ∧
      ((lexeme ++ rest).dropWhile fun a => isLexeme (code a)) = rest := by
  rw [List.takeWhile_append_of_pos hall, List.dropWhile_append_of_pos hall]
  cases rest with
  | nil => simp
  | cons a rest =>
    have ha : isLexeme (code a) = false := hends a rfl
    simp only [List.takeWhile_cons, List.dropWhile_cons, ha, Bool.false_eq_true, if_false,
      List.append_nil, and_self]

theorem parseValue_literal {lexeme rest : List α} (fuel : Nat) (hne : lexeme ≠ [])
    (hall : ∀ a ∈ lexeme, isLexeme (code a) = true) (hends : Ends rest) :
    parseValue (fuel + 1) (lexeme ++ rest) = some (.literal lexeme, rest) := by
  obtain ⟨a, text, rfl⟩ := List.exists_cons_of_ne_nil hne
  have ha : isLexeme (code a) = true := hall a List.mem_cons_self
  have hmark : code a ≠ 34 ∧ code a ≠ 91 ∧ code a ≠ 123 := by
    refine ⟨?_, ?_, ?_⟩ <;> intro h <;> rw [h] at ha <;> exact absurd ha (by decide)
  have hspan := span_lexeme (fun b hb => hall b (List.mem_cons_of_mem _ hb)) hends
  rw [List.cons_append, parseValue, skipSpace_cons (isSpace_of_isLexeme ha)]
  simp only [hmark.1, hmark.2.1, hmark.2.2, ha, if_false, if_true, hspan.1, hspan.2]

theorem parseValue_string (quoting : Quoting α) (fuel : Nat) (text rest : List α) :
    parseValue (fuel + 1) (printString quoting text ++ rest) = some (.string text, rest) := by
  have hquote : code (unit 34 : α) = 34 := code_unit 34 (by omega)
  have hbody : parseBody ((quoting.mark text).flatMap printUnit ++ unit 34 :: rest) =
      some (text, rest) := by
    rw [parseBody_quoted _ (quoting.marked_lt text), quoting.mark_fst]
  rw [printString, List.cons_append, List.append_assoc, parseValue,
    skipSpace_unit (by omega) rfl]
  simp only [hquote, if_true, List.cons_append, List.nil_append, hbody, Option.map_some]

/-- An opening bracket, when the first element or the closing bracket is next. -/
theorem parseValue_array (fuel : Nat) {b : α} (rest : List α) (hb : isSpace (code b) = false) :
    parseValue (fuel + 1) (unit 91 :: b :: rest) =
      if code b = 93 then some (.array [], rest)
      else (parseElements fuel (b :: rest)).map fun (elements, rest) =>
        (.array elements, rest) := by
  have hopen : code (unit 91 : α) = 91 := code_unit 91 (by omega)
  rw [parseValue, skipSpace_unit (by omega) rfl]
  simp only [hopen, skipSpace_cons hb, Nat.reduceEqDiff, if_false, if_true]

theorem parseValue_object (fuel : Nat) {b : α} (rest : List α) (hb : isSpace (code b) = false) :
    parseValue (fuel + 1) (unit 123 :: b :: rest) =
      if code b = 125 then some (.object [], rest)
      else (parseMembers fuel (b :: rest)).map fun (members, rest) =>
        (.object members, rest) := by
  have hopen : code (unit 123 : α) = 123 := code_unit 123 (by omega)
  rw [parseValue, skipSpace_unit (by omega) rfl]
  simp only [hopen, skipSpace_cons hb, Nat.reduceEqDiff, if_false, if_true]

theorem parseElements_last {fuel : Nat} {text rest : List α} {element : Json α}
    (hread : parseValue fuel text = some (element, unit 93 :: rest)) :
    parseElements (fuel + 1) text = some ([element], rest) := by
  have hclose : code (unit 93 : α) = 93 := code_unit 93 (by omega)
  rw [parseElements, hread]
  simp only [skipSpace_unit (show 93 < 128 by omega) rfl, hclose, if_true]

/-- An element before a comma. -/
theorem parseElements_more {fuel : Nat} {text rest : List α} {element : Json α}
    (hread : parseValue fuel text = some (element, unit 44 :: rest)) :
    parseElements (fuel + 1) text =
      (parseElements fuel rest).map fun (elements, rest) => (element :: elements, rest) := by
  have hcomma : code (unit 44 : α) = 44 := code_unit 44 (by omega)
  rw [parseElements, hread]
  simp only [skipSpace_unit (show 44 < 128 by omega) rfl, hcomma, Nat.reduceEqDiff, if_false,
    if_true]

/-- A key with its colon, in front of a value. -/
theorem parseMembers_key (quoting : Quoting α) (fuel : Nat) (key text : List α) :
    parseMembers (fuel + 1) (printString quoting key ++ unit 58 :: text) =
      match parseValue fuel text with
      | none => none
      | some (value, rest) =>
        match skipSpace rest with
        | [] => none
        | b :: rest =>
          if code b = 125 then some ([(key, value)], rest)
          else if code b = 44 then
            (parseMembers fuel rest).map fun (members, rest) => ((key, value) :: members, rest)
          else none := by
  have hquote : code (unit 34 : α) = 34 := code_unit 34 (by omega)
  have hcolon : code (unit 58 : α) = 58 := code_unit 58 (by omega)
  have hbody : parseBody ((quoting.mark key).flatMap printUnit ++ unit 34 :: unit 58 :: text) =
      some (key, unit 58 :: text) := by
    rw [parseBody_quoted _ (quoting.marked_lt key), quoting.mark_fst]
  rw [printString, List.cons_append, List.append_assoc, parseMembers,
    skipSpace_unit (by omega) rfl]
  simp only [hquote, if_true, List.cons_append, List.nil_append, hbody,
    skipSpace_unit (show 58 < 128 by omega) rfl, hcolon]

mutual
/-- A printed value is read back in front of anything that ends it; by recursion on the
    value, whose printed length is fuel enough. -/
theorem parseValue_print (quoting : Quoting α) : (tree : Json α) → tree.Valid →
    ∀ (fuel : Nat) (rest : List α), (print quoting tree).length ≤ fuel → Ends rest →
      parseValue fuel (print quoting tree ++ rest) = some (tree, rest)
  | .literal lexeme, hvalid => by
    intro fuel rest hfuel hends
    have hpos : 0 < lexeme.length := List.length_pos_iff.mpr hvalid.1
    obtain ⟨fuel, rfl⟩ : ∃ n, fuel = n + 1 := Nat.exists_eq_succ_of_ne_zero (by
      rw [print] at hfuel; omega)
    rw [print]
    exact parseValue_literal fuel hvalid.1 hvalid.2 hends
  | .string text, _ => by
    intro fuel rest hfuel _
    obtain ⟨fuel, rfl⟩ : ∃ n, fuel = n + 1 := Nat.exists_eq_succ_of_ne_zero (by
      rw [print, printString, List.length_cons] at hfuel; omega)
    rw [print]
    exact parseValue_string quoting fuel text rest
  | .array elements, hvalid => by
    intro fuel rest hfuel _
    have hclose : code (unit 93 : α) = 93 := code_unit 93 (by omega)
    obtain ⟨fuel, rfl⟩ : ∃ n, fuel = n + 1 := Nat.exists_eq_succ_of_ne_zero (by
      rw [print, List.length_cons] at hfuel; omega)
    rw [print, List.cons_append, List.append_assoc, List.cons_append, List.nil_append]
    cases elements with
    | nil =>
      rw [printElements, List.intercalate_nil, List.nil_append,
        parseValue_array fuel rest (by rw [hclose]; rfl), if_pos hclose]
    | cons element elements =>
      -- the first element's first unit is neither white space nor the closing bracket
      obtain ⟨a, text, hhead, hspace, hne, -⟩ := print_head quoting hvalid.1
      have hread := parseElements_print quoting (element :: elements) hvalid (by simp)
        fuel rest (by
          rw [print, List.length_cons, List.length_append, List.length_singleton] at hfuel; omega)
      obtain ⟨more, hmore⟩ : ∃ more,
          [unit 44].intercalate (printElements quoting (element :: elements)) = a :: more := by
        rw [printElements]
        cases printElements quoting elements with
        | nil => exact ⟨text, by rw [List.intercalate_singleton, hhead]⟩
        | cons next texts => exact ⟨_, by rw [List.intercalate_cons_cons, hhead]; rfl⟩
      rw [hmore, List.cons_append] at hread ⊢
      rw [parseValue_array fuel _ hspace, if_neg hne, hread, Option.map_some]
  | .object members, hvalid => by
    intro fuel rest hfuel _
    have hclose : code (unit 125 : α) = 125 := code_unit 125 (by omega)
    have hquote : code (unit 34 : α) = 34 := code_unit 34 (by omega)
    obtain ⟨fuel, rfl⟩ : ∃ n, fuel = n + 1 := Nat.exists_eq_succ_of_ne_zero (by
      rw [print, List.length_cons] at hfuel; omega)
    rw [print, List.cons_append, List.append_assoc, List.cons_append, List.nil_append]
    cases members with
    | nil =>
      rw [printMembers, List.intercalate_nil, List.nil_append,
        parseValue_object fuel rest (by rw [hclose]; rfl), if_pos hclose]
    | cons member members =>
      obtain ⟨key, value⟩ := member
      have hread := parseMembers_print quoting ((key, value) :: members) hvalid (by simp)
        fuel rest (by
          rw [print, List.length_cons, List.length_append, List.length_singleton] at hfuel; omega)
      obtain ⟨more, hmore⟩ : ∃ more,
          [unit 44].intercalate (printMembers quoting ((key, value) :: members)) =
            unit 34 :: more := by
        rw [printMembers]
        cases printMembers quoting members with
        | nil => exact ⟨_, by rw [List.intercalate_singleton]; rfl⟩
        | cons next texts => exact ⟨_, by rw [List.intercalate_cons_cons]; rfl⟩
      rw [hmore, List.cons_append] at hread ⊢
      rw [parseValue_object fuel _ (by rw [hquote]; rfl), if_neg (by rw [hquote]; omega), hread,
        Option.map_some]

/-- The elements of a non-empty array. -/
theorem parseElements_print (quoting : Quoting α) : (elements : List (Json α)) →
    ValidElements elements → elements ≠ [] → ∀ (fuel : Nat) (rest : List α),
      ([unit 44].intercalate (printElements quoting elements)).length < fuel →
      parseElements fuel
          ([unit 44].intercalate (printElements quoting elements) ++ unit 93 :: rest) =
        some (elements, rest)
  | [], _, hne => absurd rfl hne
  | [element], hvalid, _ => by
    intro fuel rest hfuel
    obtain ⟨fuel, rfl⟩ : ∃ n, fuel = n + 1 := Nat.exists_eq_succ_of_ne_zero (by omega)
    rw [printElements, printElements, List.intercalate_singleton] at hfuel ⊢
    exact parseElements_last
      (parseValue_print quoting element hvalid.1 _ _ (by omega) (ends_cons (by omega) rfl rest))
  | element :: next :: elements, hvalid, _ => by
    intro fuel rest hfuel
    obtain ⟨fuel, rfl⟩ : ∃ n, fuel = n + 1 := Nat.exists_eq_succ_of_ne_zero (by omega)
    have hcons : [unit 44].intercalate (printElements quoting (element :: next :: elements)) =
        print quoting element ++
          unit 44 :: [unit 44].intercalate (printElements quoting (next :: elements)) := by
      rw [printElements, printElements, List.intercalate_cons_cons, List.append_assoc]
      rfl
    rw [hcons, List.length_append, List.length_cons] at hfuel
    rw [hcons, List.append_assoc, List.cons_append,
      parseElements_more
        (parseValue_print quoting element hvalid.1 _ _ (by omega) (ends_cons (by omega) rfl _)),
      parseElements_print quoting (next :: elements) hvalid.2 (by simp) _ _ (by omega)]
    rfl

/-- The members of a non-empty object. -/
theorem parseMembers_print (quoting : Quoting α) : (members : List (List α × Json α)) →
    ValidMembers members → members ≠ [] → ∀ (fuel : Nat) (rest : List α),
      ([unit 44].intercalate (printMembers quoting members)).length < fuel →
      parseMembers fuel
          ([unit 44].intercalate (printMembers quoting members) ++ unit 125 :: rest) =
        some (members, rest)
  | [], _, hne => absurd rfl hne
  | [(key, value)], hvalid, _ => by
    intro fuel rest hfuel
    obtain ⟨fuel, rfl⟩ : ∃ n, fuel = n + 1 := Nat.exists_eq_succ_of_ne_zero (by omega)
    have hclose : code (unit 125 : α) = 125 := code_unit 125 (by omega)
    rw [printMembers, printMembers, List.intercalate_singleton] at hfuel ⊢
    rw [List.length_append, List.length_cons] at hfuel
    rw [List.append_assoc, List.cons_append, parseMembers_key,
      parseValue_print quoting value hvalid.1 _ _ (by omega) (ends_cons (by omega) rfl rest)]
    simp only [skipSpace_unit (show 125 < 128 by omega) rfl, hclose, if_true]
  | (key, value) :: next :: members, hvalid, _ => by
    intro fuel rest hfuel
    obtain ⟨fuel, rfl⟩ : ∃ n, fuel = n + 1 := Nat.exists_eq_succ_of_ne_zero (by omega)
    have hcomma : code (unit 44 : α) = 44 := code_unit 44 (by omega)
    have hcons : [unit 44].intercalate
          (printMembers quoting ((key, value) :: next :: members)) =
        printString quoting key ++ unit 58 :: (print quoting value ++ unit 44 ::
          [unit 44].intercalate (printMembers quoting (next :: members))) := by
      rw [printMembers, printMembers, List.intercalate_cons_cons]
      simp only [List.append_assoc, List.cons_append, List.nil_append]
    rw [hcons] at hfuel
    simp only [List.length_append, List.length_cons] at hfuel
    rw [hcons, List.append_assoc, List.cons_append, parseMembers_key, List.append_assoc,
      List.cons_append,
      parseValue_print quoting value hvalid.1 _ _ (by omega) (ends_cons (by omega) rfl _)]
    simp only [skipSpace_unit (show 44 < 128 by omega) rfl, hcomma,
      Nat.reduceEqDiff, if_false, if_true]
    rw [parseMembers_print quoting (next :: members) hvalid.2 (by simp) _ _ (by omega)]
    rfl
end

theorem parse_print (quoting : Quoting α) {tree : Json α} (hvalid : tree.Valid) :
    parse (print quoting tree) = some tree := by
  have hread := parseValue_print quoting tree hvalid ((print quoting tree).length + 1)
    [] (by omega) (fun _ h => nomatch h)
  rw [List.append_nil] at hread
  rw [parse, hread]
  rfl

/-- Two documents with one text are equal. -/
theorem print_injective (quoting : Quoting α) {t u : Json α} (ht : t.Valid) (hu : u.Valid)
    (h : print quoting t = print quoting u) : t = u := by
  have hparse := parse_print quoting ht
  rw [h, parse_print quoting hu] at hparse
  exact (Option.some.inj hparse).symm

end JsonText
