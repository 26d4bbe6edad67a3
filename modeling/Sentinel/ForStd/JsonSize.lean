import Sentinel.ForStd.JsonText

/-! # The size of JSON text

How many bytes of UTF-8 a printed value takes.

Key results:
* `byteLength_printString`   ASCII that prints as itself takes its length and two quotes
* `byteLength_print_object`  of a member, only the size of its value matters -/

namespace JsonText

def byteLength (text : List Char) : Nat := (String.ofList text).utf8ByteSize

@[simp] theorem byteLength_nil : byteLength [] = 0 := rfl

@[simp] theorem byteLength_append (text rest : List Char) :
    byteLength (text ++ rest) = byteLength text + byteLength rest := by
  rw [byteLength, String.ofList_append, String.utf8ByteSize_append]
  rfl

@[simp] theorem byteLength_cons (c : Char) (text : List Char) :
    byteLength (c :: text) = c.utf8Size + byteLength text := by
  have hsingle : byteLength [c] = c.utf8Size := by
    show (String.ofList [c]).utf8ByteSize = _
    simp
  rw [← List.singleton_append, byteLength_append, hsingle]

/-! ## Strings -/

/-- An ASCII character that a string literal shows as it is. -/
def printsItself (c : Char) : Bool :=
  32 ≤ c.toNat ∧ c.toNat < 128 ∧ c ≠ '"' ∧ c ≠ '\\'

theorem printsItself_of_toNat {c : Char} (hrange : 32 ≤ c.toNat ∧ c.toNat < 128)
    (hquote : c.toNat ≠ 34) (hslash : c.toNat ≠ 92) : printsItself c = true := by
  refine decide_eq_true ⟨hrange.1, hrange.2, ?_, ?_⟩
  · rintro rfl
    exact hquote rfl
  · rintro rfl
    exact hslash rfl

theorem toNat_of_printsItself {c : Char} (h : printsItself c = true) : c.toNat < 128 :=
  (of_decide_eq_true h).2.1

theorem printUnit_of_printsItself {c : Char} (h : printsItself c = true) :
    printUnit (c, false) = [c] := by
  obtain ⟨hlow, -, hquote, hslash⟩ := of_decide_eq_true h
  have hcode : CodeUnit.code c = c.toNat := rfl
  have hne : ∀ d : Char, c ≠ d → c.toNat ≠ d.toNat := fun d hcd hsame =>
    hcd (Char.toNat_inj.mp hsame)
  have hshort : shortEscape c.toNat = none := by
    have hquote' : c.toNat ≠ 34 := hne '"' hquote
    have hslash' : c.toNat ≠ 92 := hne '\\' hslash
    unfold shortEscape
    split <;> first | omega | rfl
  simp only [printUnit, hcode, hshort, Bool.false_eq_true, or_false, if_neg (Nat.not_lt.mpr hlow)]

theorem printString_of_printsItself {text : List Char} (h : text.all printsItself = true) :
    printString (Quoting.plain Char) text = '"' :: (text ++ ['"']) := by
  have hbody : (text.map (·, false)).flatMap printUnit = text := by
    induction text with
    | nil => rfl
    | cons c text ih =>
      rw [List.all_cons, Bool.and_eq_true] at h
      rw [List.map_cons, List.flatMap_cons, printUnit_of_printsItself h.1, ih h.2,
        List.singleton_append]
  show '"' :: ((text.map (·, false)).flatMap printUnit ++ ['"']) = _
  rw [hbody]

theorem utf8Size_of_printsItself {c : Char} (h : printsItself c = true) : c.utf8Size = 1 := by
  have hlow := toNat_of_printsItself h
  rw [Char.utf8Size, if_pos]
  show c.val.toNat ≤ _
  exact Nat.le_of_lt_succ hlow

theorem byteLength_of_printsItself {text : List Char} (h : text.all printsItself = true) :
    byteLength text = text.length := by
  induction text with
  | nil => rfl
  | cons c text ih =>
    rw [List.all_cons, Bool.and_eq_true] at h
    rw [byteLength_cons, utf8Size_of_printsItself h.1, ih h.2, List.length_cons, Nat.add_comm]

theorem byteLength_printString {text : List Char} (h : text.all printsItself = true) :
    byteLength (printString (Quoting.plain Char) text) = text.length + 2 := by
  have hquote : '"'.utf8Size = 1 := rfl
  rw [printString_of_printsItself h, byteLength_cons, byteLength_append, byteLength_cons,
    byteLength_nil, byteLength_of_printsItself h, hquote]
  omega

/-! ## Members -/

/-- Joined parts take what each of them takes, and the separators. -/
theorem byteLength_intercalate_congr {separator : List Char} {parts parts' : List (List Char)}
    (h : parts.map byteLength = parts'.map byteLength) :
    byteLength (separator.intercalate parts) = byteLength (separator.intercalate parts') := by
  induction parts generalizing parts' with
  | nil =>
    rw [List.map_nil, eq_comm, List.map_eq_nil_iff] at h
    rw [h]
  | cons part parts ih =>
    obtain ⟨part', parts', rfl, hpart, hparts⟩ := List.map_eq_cons_iff.mp h.symm
    cases parts with
    | nil =>
      obtain rfl := List.map_eq_nil_iff.mp hparts
      simpa using hpart.symm
    | cons next rest =>
      obtain ⟨next', rest', rfl, -, -⟩ := List.map_eq_cons_iff.mp hparts
      rw [List.intercalate_cons_cons, List.intercalate_cons_cons, byteLength_append,
        byteLength_append, byteLength_append, byteLength_append, ih hparts.symm, hpart]

/-- A printed member takes its key, a colon and its value. -/
theorem map_byteLength_printMembers (quoting : Quoting Char) (members : List (List Char × Json Char)) :
    (printMembers quoting members).map byteLength =
      (members.map fun member => (member.1, byteLength (print quoting member.2))).map
        fun (key, size) => byteLength (printString quoting key) + (':'.utf8Size + size) := by
  induction members with
  | nil => rfl
  | cons member members ih =>
    rw [printMembers, List.map_cons, ih, byteLength_append, byteLength_cons]
    rfl

/-- Of the members of an object, only the keys and the sizes of the values matter. -/
theorem byteLength_print_object {quoting : Quoting Char} {members members' : List (List Char × Json Char)}
    (h : members.map (fun member => (member.1, byteLength (print quoting member.2))) =
      members'.map fun member => (member.1, byteLength (print quoting member.2))) :
    byteLength (print quoting (.object members)) = byteLength (print quoting (.object members')) := by
  have hparts : (printMembers quoting members).map byteLength =
      (printMembers quoting members').map byteLength := by
    rw [map_byteLength_printMembers, map_byteLength_printMembers, h]
  rw [print, print, byteLength_cons, byteLength_cons, byteLength_append, byteLength_append,
    byteLength_intercalate_congr hparts]

end JsonText
