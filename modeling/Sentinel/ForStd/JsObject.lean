import Sentinel.ForStd.JsonText
import Mathlib.Data.List.Pairwise
import Mathlib.Data.List.Sort

/-! # Objects as a JavaScript runtime lists them

The own string keys of an object come in a fixed order: the array indices first,
ascending, and then the other keys in the order they were added.  So an object that
is built of sorted entries does not, in general, list them as they were sorted.

Key results:
* `fromEntries_sortEntries_eq_iff`  when the order of the entries is kept
* `map_eq_map_iff`                  when two listings of one object agree
* `present_perm_iff`                what an object may have is known from what it has -/

namespace JsObject

variable {κ β γ : Type*}

section Order

variable [LE κ] [DecidableLE κ]

/-- The entries by `Array.prototype.sort` of their keys. -/
def sortEntries (entries : List (κ × β)) : List (κ × β) :=
  entries.insertionSort fun a b => a.1 ≤ b.1

theorem sortEntries_perm (entries : List (κ × β)) : (sortEntries entries).Perm entries :=
  List.perm_insertionSort _ entries

/-- Sorting looks at the keys alone. -/
theorem sortEntries_map (f : β → γ) (entries : List (κ × β)) :
    sortEntries (entries.map (Prod.map id f)) = (sortEntries entries).map (Prod.map id f) :=
  (List.map_insertionSort _ _ (Prod.map id f) _ fun _ _ _ _ => Iff.rfl).symm

end Order

section Index

variable (index? : κ → Option Nat)

/-- The order in which an object built of these entries lists its properties, where `index?` tells
    which keys spell an array index and which one. -/
def fromEntries (entries : List (κ × β)) : List (κ × β) :=
  ((entries.filter fun entry => (index? entry.1).isSome).insertionSort
    fun a b => (index? a.1).getD 0 ≤ (index? b.1).getD 0) ++
    entries.filter fun entry => (index? entry.1).isNone

theorem fromEntries_perm (entries : List (κ × β)) : (fromEntries index? entries).Perm entries := by
  have hsplit := List.filter_append_perm (fun entry : κ × β => (index? entry.1).isSome) entries
  simp only [Option.not_isSome] at hsplit
  exact ((List.perm_insertionSort _ _).append_right _).trans hsplit

theorem fromEntries_map (f : β → γ) (entries : List (κ × β)) :
    fromEntries index? (entries.map (Prod.map id f)) =
      (fromEntries index? entries).map (Prod.map id f) := by
  have hindices := List.map_insertionSort
    (fun a b : κ × β => (index? a.1).getD 0 ≤ (index? b.1).getD 0)
    (fun a b : κ × γ => (index? a.1).getD 0 ≤ (index? b.1).getD 0) (Prod.map id f)
    (entries.filter fun entry => (index? entry.1).isSome) fun _ _ _ _ => Iff.rfl
  rw [fromEntries, fromEntries, List.map_append, hindices, List.filter_map, List.filter_map]
  rfl

/-- An array index comes before a larger one, and before every key that is none. -/
def KeysInOrder [LE κ] (keys : List κ) : Prop :=
  ∀ key ∈ keys, ∀ n, index? key = some n → ∀ key' ∈ keys,
    (index? key' = none → key ≤ key') ∧ ∀ n', index? key' = some n' → n < n' → key ≤ key'

end Index

/-- Two listings of the entries of one object agree when their keys do. -/
theorem eq_of_map_fst_eq {entries l m : List (κ × β)} (hkeys : (entries.map Prod.fst).Nodup)
    (hl : l ⊆ entries) (hm : m ⊆ entries) (h : l.map Prod.fst = m.map Prod.fst) : l = m := by
  have hsame : ∀ a ∈ entries, ∀ b ∈ entries, a.1 = b.1 → a = b := fun a ha b hb hab =>
    List.inj_on_of_nodup_map hkeys ha hb hab
  induction l generalizing m with
  | nil => exact (List.map_eq_nil_iff.mp h.symm).symm
  | cons a l ih =>
    cases m with
    | nil => simp at h
    | cons b m =>
      rw [List.map_cons, List.map_cons, List.cons.injEq] at h
      rw [List.cons_subset] at hl hm
      rw [hsame a hl.1 b hm.1 h.1, ih hl.2 hm.2 h.2]

/-- Two listings of one object, with their values mapped, agree when the listings and the values do. -/
theorem map_eq_map_iff {entries l m : List (κ × β)} (hkeys : (entries.map Prod.fst).Nodup)
    (hl : l ⊆ entries) (hm : m ⊆ entries) {f g : β → γ} :
    l.map (Prod.map id f) = m.map (Prod.map id g) ↔ l = m ∧ ∀ entry ∈ m, f entry.2 = g entry.2 := by
  constructor
  · intro h
    have hfst := congrArg (List.map Prod.fst) h
    simp only [List.map_map, Function.comp_def, Prod.map_fst, id_eq] at hfst
    obtain rfl := eq_of_map_fst_eq hkeys hl hm hfst
    refine ⟨rfl, fun entry hentry => ?_⟩
    exact congrArg Prod.snd (List.map_inj_left.mp h entry hentry)
  · rintro ⟨rfl, h⟩
    exact List.map_congr_left fun entry hentry => Prod.ext rfl (h entry hentry)

/-- Two objects with one value under each key of the second, and no other keys, have one listing up to
    its order. -/
theorem perm_of_keys {l m : List (κ × β)} (hl : (l.map Prod.fst).Nodup) (hm : (m.map Prod.fst).Nodup)
    (hkeys : ∀ entry ∈ l, entry.1 ∈ m.map Prod.fst)
    (hcommon : ∀ key ∈ m.map Prod.fst, ∃ value, (key, value) ∈ l ∧ (key, value) ∈ m) : l.Perm m := by
  rw [List.perm_ext_iff_of_nodup (.of_map _ hl) (.of_map _ hm)]
  rintro ⟨key, value⟩
  constructor
  · intro h
    obtain ⟨value', hl', hm'⟩ := hcommon key (hkeys _ h)
    rwa [List.inj_on_of_nodup_map hl h hl' rfl]
  · intro h
    obtain ⟨value', hl', hm'⟩ := hcommon key (List.mem_map_of_mem h)
    rwa [List.inj_on_of_nodup_map hm h hm' rfl]

/-! ## Properties that may be left out -/

/-- The entries of an object, the properties that are not set left out. -/
def present (fields : List (κ × Option β)) : List (κ × β) :=
  fields.filterMap fun field => field.2.map (field.1, ·)

theorem mem_present {fields : List (κ × Option β)} {key : κ} {value : β} :
    (key, value) ∈ present fields ↔ (key, some value) ∈ fields := by
  rw [present, List.mem_filterMap]
  constructor
  · rintro ⟨⟨key', value'⟩, hmem, h⟩
    cases value' with
    | none => cases h
    | some value' => cases h; exact hmem
  · exact fun hmem => ⟨(key, some value), hmem, rfl⟩

theorem present_map (f : β → γ) (fields : List (κ × Option β)) :
    (present fields).map (Prod.map id f) = present (fields.map (Prod.map id (Option.map f))) := by
  rw [present, present, List.map_filterMap, List.filterMap_map]
  refine List.filterMap_congr fun field _ => ?_
  cases field with
  | mk key value => cases value <;> rfl

theorem present_keys (fields : List (κ × Option β)) :
    ((present fields).map Prod.fst).Sublist (fields.map Prod.fst) := by
  induction fields with
  | nil => exact List.Sublist.slnil
  | cons field fields ih =>
    obtain ⟨key, value⟩ := field
    cases value with
    | none => exact ih.cons key
    | some value => exact ih.cons_cons key

/-- What an object may have is known from the entries that it has. -/
theorem present_perm_iff {l m : List (κ × Option β)} (hkeys : l.map Prod.fst = m.map Prod.fst)
    (hnodup : (l.map Prod.fst).Nodup) : (present l).Perm (present m) ↔ l = m := by
  constructor
  · intro h
    have hsub : l ⊆ m := by
      rintro ⟨key, value⟩ hmem
      have hkey : key ∈ m.map Prod.fst := hkeys ▸ List.mem_map_of_mem hmem
      obtain ⟨⟨_, value'⟩, hmem', rfl⟩ := List.mem_map.mp hkey
      cases value with
      | some value => exact mem_present.mp (h.subset (mem_present.mpr hmem))
      | none =>
        cases value' with
        | none => exact hmem'
        | some value' =>
          -- `m` has the property, so `l` has it too, where it is not set
          have hset := mem_present.mp (h.symm.subset (mem_present.mpr hmem'))
          exact absurd (List.inj_on_of_nodup_map hnodup hmem hset rfl) (by simp)
    exact eq_of_map_fst_eq (hkeys ▸ hnodup) hsub (List.Subset.refl m) hkeys
  · exact fun h => h ▸ List.Perm.refl _

section Agreement

variable [LE κ] [DecidableLE κ] [Std.Total (α := κ) (· ≤ ·)] [Trans (α := κ) (· ≤ ·) (· ≤ ·) (· ≤ ·)]

theorem sortEntries_pairwise (entries : List (κ × β)) :
    (sortEntries entries).Pairwise fun a b => a.1 ≤ b.1 := by
  have : Std.Total fun a b : κ × β => a.1 ≤ b.1 := ⟨fun a b => Std.Total.total a.1 b.1⟩
  have : IsTrans (κ × β) fun a b => a.1 ≤ b.1 := ⟨fun _ _ _ hab hbc => Trans.trans hab hbc⟩
  exact List.pairwise_insertionSort _ entries

omit [DecidableLE κ] [Trans (α := κ) (· ≤ ·) (· ≤ ·) (· ≤ ·)] in
/-- Of two entries that another order puts one way round, a list sorted by both has that one first. -/
theorem key_le_of_pairwise {r : κ × β → κ × β → Prop} {l : List (κ × β)}
    (hsorted : l.Pairwise fun a b => a.1 ≤ b.1) (hr : l.Pairwise r) {a b : κ × β} (ha : a ∈ l)
    (hb : b ∈ l) (hab : ¬ r b a) : a.1 ≤ b.1 := by
  by_cases hsame : a = b
  · rw [hsame]
    exact (Std.Total.total b.1 b.1).elim id id
  -- the two stand in one order or the other, and `¬ r b a` leaves one
  have hsym : l.Pairwise fun a b => (a.1 ≤ b.1 ∧ r a b) ∨ (b.1 ≤ a.1 ∧ r b a) :=
    (hsorted.and hr).imp fun h => Or.inl h
  have : Std.Symm fun a b : κ × β => (a.1 ≤ b.1 ∧ r a b) ∨ (b.1 ≤ a.1 ∧ r b a) :=
    ⟨fun _ _ h => h.symm⟩
  cases hsym.forall ha hb hsame with
  | inl h => exact h.1
  | inr h => exact absurd h.2 hab

variable [Std.Antisymm (α := κ) (· ≤ ·)] {index? : κ → Option Nat}

/-- Sorting does not see the order in which the entries of an object come. -/
theorem sortEntries_eq_of_perm {l m : List (κ × β)} (hkeys : (l.map Prod.fst).Nodup)
    (h : l.Perm m) : sortEntries l = sortEntries m := by
  have hperm := (sortEntries_perm l).trans (h.trans (sortEntries_perm m).symm)
  refine List.Perm.eq_of_pairwise ?_ (sortEntries_pairwise l) (sortEntries_pairwise m) hperm
  intro a b ha hb hab hba
  have ha' := (sortEntries_perm l).mem_iff.mp ha
  have hb' := (sortEntries_perm l).mem_iff.mp (hperm.mem_iff.mpr hb)
  exact List.inj_on_of_nodup_map hkeys ha' hb' (Std.Antisymm.antisymm _ _ hab hba)

/-- The listing of the sorted entries is sorted exactly when the array indices are in order. -/
theorem fromEntries_sortEntries_eq_iff
    (hindex : ∀ key key' n, index? key = some n → index? key' = some n → key = key')
    {entries : List (κ × β)} (hkeys : (entries.map Prod.fst).Nodup) :
    fromEntries index? (sortEntries entries) = sortEntries entries ↔
      KeysInOrder index? (entries.map Prod.fst) := by
  have hmem : ∀ a, a ∈ sortEntries entries ↔ a ∈ entries := fun a =>
    (sortEntries_perm entries).mem_iff
  have hsorted := sortEntries_pairwise entries
  have hbyIndex := List.pairwise_insertionSort
    (fun a b : κ × β => (index? a.1).getD 0 ≤ (index? b.1).getD 0)
    ((sortEntries entries).filter fun entry => (index? entry.1).isSome)
  have hindices : ∀ a, a ∈ ((sortEntries entries).filter fun entry =>
        (index? entry.1).isSome).insertionSort
          (fun a b => (index? a.1).getD 0 ≤ (index? b.1).getD 0) ↔
      a ∈ entries ∧ (index? a.1).isSome := by
    intro a
    rw [List.mem_insertionSort, List.mem_filter, hmem]
  have hothers : ∀ a, a ∈ ((sortEntries entries).filter fun entry => (index? entry.1).isNone) ↔
      a ∈ entries ∧ (index? a.1).isNone := by
    intro a
    rw [List.mem_filter, hmem]
  constructor
  · intro h key hkey n hn key' hkey'
    obtain ⟨a, ha, rfl⟩ := List.mem_map.mp hkey
    obtain ⟨b, hb, rfl⟩ := List.mem_map.mp hkey'
    rw [← h, fromEntries, List.pairwise_append] at hsorted
    have hfirst := (hindices a).mpr ⟨ha, by rw [hn]; rfl⟩
    constructor
    · intro hnone
      exact hsorted.2.2 a hfirst b ((hothers b).mpr ⟨hb, by rw [hnone]; rfl⟩)
    · intro n' hn' hlt
      have hsecond := (hindices b).mpr ⟨hb, by rw [hn']; rfl⟩
      refine key_le_of_pairwise hsorted.1 hbyIndex hfirst hsecond ?_
      simp only [hn, hn', Option.getD_some]
      omega
  · intro h
    have hlisted : (fromEntries index? (sortEntries entries)).Pairwise fun a b => a.1 ≤ b.1 := by
      rw [fromEntries, List.pairwise_append]
      refine ⟨hbyIndex.imp_of_mem ?_, hsorted.filter _, ?_⟩
      · intro a b ha hb hab
        obtain ⟨ha, hasome⟩ := (hindices a).mp ha
        obtain ⟨hb, hbsome⟩ := (hindices b).mp hb
        obtain ⟨n, hn⟩ := Option.isSome_iff_exists.mp hasome
        obtain ⟨n', hn'⟩ := Option.isSome_iff_exists.mp hbsome
        simp only [hn, hn', Option.getD_some] at hab
        by_cases hlt : n < n'
        · exact (h a.1 (List.mem_map_of_mem ha) n hn b.1 (List.mem_map_of_mem hb)).2 n' hn' hlt
        · -- one index is spelt by one key
          obtain rfl : n = n' := by omega
          rw [hindex a.1 b.1 n hn hn']
          exact (Std.Total.total b.1 b.1).elim id id
      · intro a ha b hb
        obtain ⟨ha, hasome⟩ := (hindices a).mp ha
        obtain ⟨hb, hbnone⟩ := (hothers b).mp hb
        obtain ⟨n, hn⟩ := Option.isSome_iff_exists.mp hasome
        exact (h a.1 (List.mem_map_of_mem ha) n hn b.1 (List.mem_map_of_mem hb)).1
          (Option.isNone_iff_eq_none.mp hbnone)
    refine List.Perm.eq_of_pairwise ?_ hlisted hsorted (fromEntries_perm index? _)
    intro a b ha hb hab hba
    have ha := (hmem a).mp ((fromEntries_perm index? _).mem_iff.mp ha)
    exact List.inj_on_of_nodup_map hkeys ha ((hmem b).mp hb) (Std.Antisymm.antisymm _ _ hab hba)

end Agreement

end JsObject
