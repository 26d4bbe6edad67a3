import Mathlib.Data.List.Basic

/-! # List lemmas used across the development -/

namespace List

variable {α : Type*}

/-- An element of an updated list is the new one at its index or an old one
    elsewhere. -/
theorem getElem?_set_eq_some {l : List α} {i j : Nat} {x y : α}
    (h : (l.set i x)[j]? = some y) : j = i ∧ y = x ∨ j ≠ i ∧ l[j]? = some y := by
  by_cases heq : i = j
  · subst heq
    rw [getElem?_set_self'] at h
    cases hi : l[i]? with
    | none => simp [hi] at h
    | some z => exact .inl ⟨rfl, by simpa [hi] using h.symm⟩
  · rw [getElem?_set_ne heq] at h
    exact .inr ⟨Ne.symm heq, h⟩

/-- What stands at a place of a list with one more element. -/
theorem getElem?_concat_eq_some {l : List α} {j : Nat} {x y : α} (h : (l ++ [x])[j]? = some y) :
    l[j]? = some y ∨ j = l.length ∧ y = x := by
  by_cases hlt : j < l.length
  · rw [List.getElem?_append_left hlt] at h
    exact .inl h
  · rw [List.getElem?_append_right (Nat.le_of_not_lt hlt)] at h
    obtain ⟨hzero, heq⟩ := List.getElem?_eq_some_iff.mp h
    have hlen : j - l.length < 1 := hzero
    refine .inr ⟨by omega, ?_⟩
    have hj : j - l.length = 0 := by omega
    simpa [hj] using heq.symm

/-- An element of a list with one more is an old one or the new one. -/
theorem of_mem_concat {l : List α} {x y : α} (h : y ∈ l ++ [x]) : y ∈ l ∨ y = x :=
  (mem_append.mp h).imp_right mem_singleton.mp

/-- An element appended after others that a predicate misses is the one it finds. -/
theorem find?_concat {p : α → Bool} {l : List α} {x : α} (hl : ∀ y ∈ l, p y = false)
    (hx : p x = true) : (l ++ [x]).find? p = some x := by
  have hnone : l.find? p = none := List.find?_eq_none.mpr fun y hy => by simp [hl y hy]
  rw [List.find?_append, hnone, Option.none_or, List.find?_cons_of_pos hx]

/-- Pairwise related, where no two elements are related, a list has at most one element. -/
theorem length_le_one_of_pairwise {R : α → α → Prop} {l : List α} (h : l.Pairwise R)
    (hnot : ∀ a ∈ l, ∀ b ∈ l, ¬ R a b) : l.length ≤ 1 := by
  match l with
  | [] => exact Nat.zero_le _
  | [_] => exact Nat.le_refl _
  | first :: second :: _ =>
    exact absurd (rel_of_pairwise_cons h mem_cons_self)
      (hnot first mem_cons_self second (mem_cons_of_mem _ mem_cons_self))

/-- A predicate that says less, and of one element something else, counts fewer elements. -/
theorem countP_lt_countP {p q : α → Bool} {l : List α} (h : ∀ x ∈ l, p x = true → q x = true) {a : α}
    (ha : a ∈ l) (hq : q a = true) (hp : p a ≠ true) : l.countP p < l.countP q := by
  induction l with
  | nil => cases ha
  | cons x l ih =>
    have hle : l.countP p ≤ l.countP q :=
      countP_mono_left fun y hy => h y (mem_cons_of_mem _ hy)
    have hx := h x mem_cons_self
    rw [countP_cons, countP_cons]
    cases mem_cons.mp ha with
    | inl heq =>
      obtain rfl := heq
      rw [if_neg hp, if_pos hq]
      omega
    | inr hmem =>
      have hlt := ih (fun y hy => h y (mem_cons_of_mem _ hy)) hmem
      by_cases hpx : p x = true
      · rw [if_pos hpx, if_pos (hx hpx)]
        omega
      · rw [if_neg hpx]
        omega

/-- Updating one element trades its image for the new one's. -/
theorem flatMap_set_perm {β : Type*} (f : α → List β) {l : List α} {i : Nat} {x : α}
    (h : l[i]? = some x) (y : α) :
    (f x ++ (l.set i y).flatMap f).Perm (f y ++ l.flatMap f) := by
  induction l generalizing i with
  | nil => simp at h
  | cons z l ih =>
    cases i with
    | zero =>
      obtain rfl : z = x := by simpa using h
      rw [set_cons_zero, flatMap_cons, flatMap_cons, ← append_assoc, ← append_assoc]
      exact perm_append_comm.append_right _
    | succ i =>
      have hrest := ih (by simpa using h)
      rw [set_cons_succ, flatMap_cons, flatMap_cons]
      calc f x ++ (f z ++ (l.set i y).flatMap f)
          _ ~ f z ++ (f x ++ (l.set i y).flatMap f) := perm_append_comm_assoc ..
          _ ~ f z ++ (f y ++ l.flatMap f) := hrest.append_left _
          _ ~ f y ++ (f z ++ l.flatMap f) := perm_append_comm_assoc ..

/-! ## Removing duplicates -/

section EraseDups

variable [BEq α] [LawfulBEq α]

/-- Duplicates among the elements of a kind go whether removed before or after. -/
theorem eraseDups_filter (p : α → Bool) (l : List α) :
    (l.eraseDups.filter p).eraseDups = (l.filter p).eraseDups := by
  induction hn : l.length using Nat.strongRecOn generalizing l p with
  | _ n ih =>
    cases l with
    | nil => rfl
    | cons a l =>
      have hlt : (l.filter fun b => !b == a).length < n := by
        have := length_filter_le (fun b => !b == a) l
        rw [← hn, length_cons]
        omega
      rw [eraseDups_cons]
      by_cases ha : p a = true
      · rw [filter_cons_of_pos ha, filter_cons_of_pos ha, eraseDups_cons, eraseDups_cons]
        congr 1
        rw [filter_filter, ih _ hlt _ _ rfl, filter_filter, filter_filter]
        congr 2
        funext b
        cases p b <;> simp
      · rw [filter_cons_of_neg ha, filter_cons_of_neg ha, ih _ hlt _ _ rfl, filter_filter]
        congr 2
        funext b
        by_cases hb : b = a
        · subst hb
          simp [ha]
        · simp [hb]

/-- Removing duplicates from the parts first changes nothing. -/
theorem eraseDups_append_eraseDups (l m : List α) :
    (l.eraseDups ++ m.eraseDups).eraseDups = (l ++ m).eraseDups := by
  have hself : l.eraseDups.eraseDups = l.eraseDups := by
    have := eraseDups_filter (fun _ => true) l
    simpa using this
  have hremove : m.eraseDups.removeAll l.eraseDups =
      m.eraseDups.filter fun x => !l.elem x := by
    rw [removeAll]
    congr 1
    funext x
    rw [Bool.eq_iff_iff]
    simp
  rw [eraseDups_append, eraseDups_append, hself, hremove, eraseDups_filter]
  rfl

end EraseDups

/-! ## The newest value of a log -/

/-- The entry that a register holds which takes a value only with a higher version. -/
def Newest (log : List (Nat × α)) (version : Nat) (value : α) : Prop :=
  ∃ before after, log = before ++ (version, value) :: after ∧
    (∀ entry ∈ before, entry.1 < version) ∧ ∀ entry ∈ after, entry.1 ≤ version

namespace Newest

variable {log : List (Nat × α)} {version : Nat} {value : α}

theorem mem (h : Newest log version value) : (version, value) ∈ log := by
  obtain ⟨before, after, rfl, _⟩ := h
  exact mem_append_right _ (mem_cons_self ..)

theorem le (h : Newest log version value) : ∀ entry ∈ log, entry.1 ≤ version := by
  obtain ⟨before, after, rfl, hbefore, hafter⟩ := h
  intro entry hentry
  rcases mem_append.mp hentry with hmem | hmem
  · exact Nat.le_of_lt (hbefore entry hmem)
  · rcases mem_cons.mp hmem with rfl | hmem
    · exact Nat.le_refl _
    · exact hafter entry hmem

theorem single (version : Nat) (value : α) : Newest [(version, value)] version value :=
  ⟨[], [], rfl, nofun, nofun⟩

/-- What is not newer is passed over. -/
theorem concat_old (h : Newest log version value) {entry : Nat × α} (hold : entry.1 ≤ version) :
    Newest (log ++ [entry]) version value := by
  obtain ⟨before, after, rfl, hbefore, hafter⟩ := h
  refine ⟨before, after ++ [entry], by simp, hbefore, fun other hother => ?_⟩
  rcases mem_append.mp hother with hmem | hmem
  · exact hafter other hmem
  · exact mem_singleton.mp hmem ▸ hold

/-- What is newer is taken. -/
theorem concat_new (h : Newest log version value) {next : Nat} (value' : α)
    (hnew : version < next) : Newest (log ++ [(next, value')]) next value' :=
  ⟨log, [], rfl, fun entry hentry => Nat.lt_of_le_of_lt (h.le entry hentry) hnew, nofun⟩

end Newest

/-- With distinct keys, the elements whose key is not among the first ones are the others. -/
theorem filter_notMem_take {β : Type*} [BEq β] [LawfulBEq β] (f : α → β) {l : List α}
    (h : (l.map f).Nodup) (k : Nat) :
    (l.filter fun x => !((l.take k).map f).contains (f x)) = l.drop k := by
  have hsplit := List.take_append_drop k l
  have hkeys : ((l.take k).map f).Disjoint ((l.drop k).map f) := by
    rw [← hsplit, map_append, nodup_append] at h
    intro b hb hb'
    exact h.2.2 b hb b hb' rfl
  have htake : ((l.take k).filter fun x => !((l.take k).map f).contains (f x)) = [] := by
    refine filter_eq_nil_iff.mpr fun x hx => ?_
    have hcontains : ((l.take k).map f).contains (f x) = true :=
      contains_iff_mem.mpr (mem_map_of_mem hx)
    rw [hcontains]
    exact Bool.false_ne_true
  have hdrop : ((l.drop k).filter fun x => !((l.take k).map f).contains (f x)) = l.drop k := by
    refine filter_eq_self.mpr fun x hx => ?_
    have hnot : f x ∉ (l.take k).map f := fun hmem => hkeys hmem (mem_map_of_mem hx)
    simpa using hnot
  calc l.filter (fun x => !((l.take k).map f).contains (f x))
    _ = (l.take k ++ l.drop k).filter (fun x => !((l.take k).map f).contains (f x)) := by
      rw [hsplit]
    _ = l.drop k := by rw [filter_append, htake, hdrop, nil_append]

/-! ## Splitting -/

section Split

variable {α : Type*} [BEq α] [LawfulBEq α] {a : α}

theorem splitOn_intercalate_flatMap {parts : List (List α)} (h : parts ≠ []) :
    ([a].intercalate parts).splitOn a = parts.flatMap (splitOn a) := by
  induction parts with
  | nil => exact absurd rfl h
  | cons part parts ih =>
    cases parts with
    | nil => simp
    | cons next parts =>
      rw [intercalate_cons_cons, append_assoc, singleton_append, splitOn_append_cons_self,
        ih (cons_ne_nil next parts), flatMap_cons, flatMap_cons, flatMap_cons]

/-- Two joined texts are one when their parts split into the same pieces. -/
theorem intercalate_eq_iff {l m : List (List α)} (hl : l ≠ []) (hm : m ≠ []) :
    [a].intercalate l = [a].intercalate m ↔ l.flatMap (splitOn a) = m.flatMap (splitOn a) := by
  rw [← splitOn_intercalate_flatMap hl, ← splitOn_intercalate_flatMap hm]
  constructor
  · exact congrArg (splitOn a)
  · intro h
    have hjoin := congrArg [a].intercalate h
    rwa [intercalate_splitOn, intercalate_splitOn] at hjoin

theorem splitOn_injective (a : α) : Function.Injective (splitOn a) := by
  intro text text' h
  have hjoin := congrArg [a].intercalate h
  rwa [intercalate_splitOn, intercalate_splitOn] at hjoin

omit [LawfulBEq α] in
theorem length_splitOn (text : List α) : (text.splitOn a).length = text.count a + 1 := by
  induction text with
  | nil => rfl
  | cons b text ih =>
    rw [splitOn_cons_eq_if_modifyHead, count_cons]
    split <;> simp [ih]

/-- The pieces of a list of texts, and how many separators each text has, give the texts. -/
theorem eq_iff_flatMap_splitOn (a : α) {l m : List (List α)} :
    l = m ↔ l.flatMap (splitOn a) = m.flatMap (splitOn a) ∧ l.map (count a) = m.map (count a) := by
  have hcounts : ∀ parts : List (List α),
      (parts.map (splitOn a)).map length = (parts.map (count a)).map (· + 1) := by
    intro parts
    simp only [map_map, Function.comp_def, length_splitOn]
  have hsucc : Function.Injective fun n : Nat => n + 1 := fun _ _ => Nat.succ.inj
  rw [← (map_injective_iff.mpr (splitOn_injective a)).eq_iff, eq_iff_flatten_eq, hcounts, hcounts,
    (map_injective_iff.mpr hsucc).eq_iff]
  rfl

end Split
end List
