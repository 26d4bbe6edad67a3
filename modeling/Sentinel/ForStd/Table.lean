import Mathlib.Data.List.Nodup

/-! # Tables as lists of rows

A database table is a list of rows in insertion order.  `rewrite p f` is the
bulk update that replaces the rows satisfying `p` by their image under `f`; a
key is a function of the row whose image has no duplicates.

* `map_rewrite`        a bulk update that keeps a column keeps its values in order
* `mem_rewrite_unique` what the table holds after an update that hit one row
* `nodup_map_concat`   when an insert keeps a key
* `replace`            one row for the row with its key
* `Follows`, `Grows`   a table after updates, and after updates and inserts -/

namespace Table

theorem nodup_nil_pair : ([] : List (String × String)).Nodup := List.nodup_nil

variable {α β : Type*} {p : α → Bool} {f : α → α} {rows : List α}

/-- Replace every row satisfying `p` by its image under `f`. -/
def rewrite (p : α → Bool) (f : α → α) (rows : List α) : List α :=
  rows.map fun row => if p row then f row else row

/-- A column that `f` keeps is the same after the update. -/
theorem map_rewrite (column : α → β) (h : ∀ row, column (f row) = column row) :
    (rewrite p f rows).map column = rows.map column := by
  simp only [rewrite, List.map_map]
  refine List.map_congr_left fun row _ => ?_
  simp only [Function.comp_apply]
  split
  · exact h row
  · rfl

@[simp] theorem length_rewrite : (rewrite p f rows).length = rows.length := by
  simp [rewrite]

theorem mem_rewrite {row : α} :
    row ∈ rewrite p f rows ↔ ∃ old ∈ rows, (if p old then f old else old) = row := by
  simp [rewrite]

/-- The image of a row that was hit. -/
theorem mem_rewrite_of_hit {row : α} (hmem : row ∈ rows) (hp : p row = true) :
    f row ∈ rewrite p f rows :=
  mem_rewrite.mpr ⟨row, hmem, by simp [hp]⟩

/-- A row that was not hit stays. -/
theorem mem_rewrite_of_miss {row : α} (hmem : row ∈ rows) (hp : p row = false) :
    row ∈ rewrite p f rows :=
  mem_rewrite.mpr ⟨row, hmem, by simp [hp]⟩

/-- An update that hits nothing changes nothing. -/
theorem rewrite_of_forall_miss (h : ∀ row ∈ rows, p row = false) : rewrite p f rows = rows := by
  simp only [rewrite]
  conv_rhs => rw [← List.map_id rows]
  refine List.map_congr_left fun row hrow => ?_
  simp [h row hrow]

/-- A lookup that tells the rows hit as it did before finds the row it found before, updated. -/
theorem find?_rewrite_of_hit {q : α → Bool} (h : ∀ row, p row = true → q (f row) = q row) :
    (rewrite p f rows).find? q = (rows.find? q).map fun row => if p row then f row else row := by
  have hq : (q ∘ fun row => if p row then f row else row) = q := by
    funext row
    simp only [Function.comp_apply]
    split
    · rename_i hp
      exact h row hp
    · rfl
  rw [rewrite, List.find?_map, hq]

/-- A lookup by columns the update keeps finds the row it found before, updated. -/
theorem find?_rewrite {q : α → Bool} (h : ∀ row, q (f row) = q row) :
    (rewrite p f rows).find? q = (rows.find? q).map fun row => if p row then f row else row :=
  find?_rewrite_of_hit fun row _ => h row

/-- The values of a column in the rows of a kind are the same after an update that keeps both. -/
theorem map_filter_rewrite {q : α → Bool} (column : α → β) (hq : ∀ row, q (f row) = q row)
    (hcolumn : ∀ row, column (f row) = column row) :
    ((rewrite p f rows).filter q).map column = (rows.filter q).map column := by
  induction rows with
  | nil => rfl
  | cons row rows ih =>
    have hcons : rewrite p f (row :: rows) = (if p row then f row else row) :: rewrite p f rows := rfl
    have hhead : q (if p row then f row else row) = q row := by
      split
      · exact hq row
      · rfl
    have hvalue : column (if p row then f row else row) = column row := by
      split
      · exact hcolumn row
      · rfl
    rw [hcons, List.filter_cons, List.filter_cons, hhead]
    split
    · rw [List.map_cons, List.map_cons, hvalue, ih]
    · exact ih

/-- After an update that hit exactly `target`, the table holds the rewritten
    target and every other old row. -/
theorem mem_rewrite_unique {target row : α} (hmem : target ∈ rows) (hp : p target = true)
    (hunique : ∀ old ∈ rows, p old = true → old = target) :
    row ∈ rewrite p f rows ↔ row = f target ∨ row ∈ rows ∧ row ≠ target := by
  constructor
  · intro hrow
    obtain ⟨old, hold, rfl⟩ := mem_rewrite.mp hrow
    by_cases hhit : p old = true
    · obtain rfl := hunique old hold hhit
      simp [hhit]
    · have hne : old ≠ target := fun he => hhit (he ▸ hp)
      simp [hhit, hold, hne]
  · rintro (rfl | ⟨hrow, hne⟩)
    · exact mem_rewrite_of_hit hmem hp
    · refine mem_rewrite_of_miss hrow ?_
      by_contra hhit
      exact hne (hunique row hrow (by simpa using hhit))

/-- Two rows with one key are one row. -/
theorem eq_of_key {key : α → β} (hkey : (rows.map key).Nodup) {a b : α}
    (ha : a ∈ rows) (hb : b ∈ rows) (h : key a = key b) : a = b :=
  List.inj_on_of_nodup_map hkey ha hb h

/-- What a lookup finds is in the table, and matches. -/
theorem of_find? {q : α → Prop} [DecidablePred q] {row : α}
    (h : rows.find? (fun row => decide (q row)) = some row) : row ∈ rows ∧ q row := by
  have hmatch := List.find?_some h
  exact ⟨List.mem_of_find?_eq_some h, of_decide_eq_true hmatch⟩

/-- A lookup that fixes the key finds the row that matches. -/
theorem find?_eq_some {key : α → β} (hkey : (rows.map key).Nodup) {q : α → Prop} [DecidablePred q]
    {row : α} (hmem : row ∈ rows) (hrow : q row) (hq : ∀ other, q other → key other = key row) :
    rows.find? (fun row => decide (q row)) = some row := by
  have hsome : (rows.find? fun row => decide (q row)).isSome :=
    List.find?_isSome.mpr ⟨row, hmem, decide_eq_true hrow⟩
  obtain ⟨found, hfound⟩ := Option.isSome_iff_exists.mp hsome
  obtain ⟨hmemFound, hmatch⟩ := of_find? hfound
  rw [hfound, eq_of_key hkey hmemFound hmem (hq found hmatch)]

/-- An insert whose key is new keeps the key. -/
theorem nodup_map_concat {key : α → β} {row : α} (hkey : (rows.map key).Nodup)
    (hnew : ∀ old ∈ rows, key old ≠ key row) : ((rows ++ [row]).map key).Nodup := by
  rw [List.map_append, List.nodup_append]
  refine ⟨hkey, by simp, fun a ha b hb => ?_⟩
  obtain ⟨old, hold, rfl⟩ := List.mem_map.mp ha
  simp only [List.map_cons, List.map_nil, List.mem_singleton] at hb
  exact hb ▸ hnew old hold

/-- A key stays one when the columns it is made of are kept. -/
theorem nodup_map_rewrite {key : α → β} (hkey : (rows.map key).Nodup)
    (h : ∀ row, key (f row) = key row) : ((rewrite p f rows).map key).Nodup := by
  rwa [map_rewrite key h]

/-! ## One row for another -/

section Replace

variable [DecidableEq β] {key : α → β} {row : α}

/-- Put a row in the place of the row with its key. -/
def replace (key : α → β) (row : α) (rows : List α) : List α :=
  rewrite (fun old => key old = key row) (fun _ => row) rows

theorem map_replace : (replace key row rows).map key = rows.map key := by
  rw [replace, rewrite, List.map_map]
  refine List.map_congr_left fun old _ => ?_
  show key (if decide (key old = key row) = true then row else old) = key old
  split
  · rename_i hkey
    exact (of_decide_eq_true hkey).symm
  · rfl

theorem nodup_map_replace (hkey : (rows.map key).Nodup) : ((replace key row rows).map key).Nodup := by
  rwa [map_replace]

theorem mem_replace {other : α} (h : other ∈ replace key row rows) :
    other = row ∨ other ∈ rows ∧ key other ≠ key row := by
  obtain ⟨old, hold, rfl⟩ := mem_rewrite.mp h
  by_cases hkey : key old = key row
  · rw [if_pos (decide_eq_true hkey)]
    exact .inl rfl
  · have hmiss : ¬ decide (key old = key row) = true := fun hhit => hkey (of_decide_eq_true hhit)
    rw [if_neg hmiss]
    exact .inr ⟨hold, hkey⟩

theorem mem_replace_self {old : α} (hmem : old ∈ rows) (hsame : key old = key row) :
    row ∈ replace key row rows :=
  mem_rewrite_of_hit hmem (decide_eq_true hsame)

end Replace

/-! ## Nullable keys -/

/-- A nullable column that `f` keeps is the same after the update. -/
theorem filterMap_rewrite (column : α → Option β) (h : ∀ row, column (f row) = column row) :
    (rewrite p f rows).filterMap column = rows.filterMap column := by
  have hcolumn : (column ∘ fun row => if p row then f row else row) = column := by
    funext row
    simp only [Function.comp_apply]
    split
    · exact h row
    · rfl
  rw [rewrite, List.filterMap_map, hcolumn]

/-- An insert whose nullable key is new, or null, keeps the key. -/
theorem nodup_filterMap_concat {key : α → Option β} {row : α} (hkey : (rows.filterMap key).Nodup)
    (hnew : ∀ k, key row = some k → ∀ old ∈ rows, key old ≠ some k) :
    ((rows ++ [row]).filterMap key).Nodup := by
  rw [List.filterMap_append, List.nodup_append]
  cases hrow : key row with
  | none => simpa [hrow] using hkey
  | some k =>
    refine ⟨hkey, by simp [hrow], fun a ha b hb => ?_⟩
    obtain ⟨old, hold, hola⟩ := List.mem_filterMap.mp ha
    obtain rfl : b = k := by simpa [hrow] using hb
    rintro rfl
    exact hnew a hrow old hold hola

theorem eq_of_nullableKey {key : α → Option β} (hkey : (rows.filterMap key).Nodup) {a b : α} {k : β}
    (ha : a ∈ rows) (hb : b ∈ rows) (hka : key a = some k) (hkb : key b = some k) : a = b := by
  induction rows with
  | nil => cases ha
  | cons row rows ih =>
    have hfresh : ∀ c ∈ rows, key c = some k → key row = some k → False := fun c hc hkc hkr => by
      rw [List.filterMap_cons_some hkr, List.nodup_cons] at hkey
      exact hkey.1 (List.mem_filterMap.mpr ⟨c, hc, hkc⟩)
    have htail : (rows.filterMap key).Nodup :=
      hkey.sublist ((List.sublist_cons_self row rows).filterMap key)
    rcases List.mem_cons.mp ha with rfl | ha' <;> rcases List.mem_cons.mp hb with rfl | hb'
    · rfl
    · exact (hfresh b hb' hkb hka).elim
    · exact (hfresh a ha' hka hkb).elim
    · exact ih htail ha' hb'

/-! ## Counts -/

/-- A count by columns the update keeps is the same after it. -/
theorem countP_rewrite {q : α → Bool} (h : ∀ row, q (f row) = q row) :
    (rewrite p f rows).countP q = rows.countP q := by
  have hcolumn : (rewrite p f rows).map q = rows.map q := map_rewrite q h
  have hcount (l : List α) : l.countP q = (l.map q).countP id := by
    rw [List.countP_map]
    rfl
  rw [hcount, hcolumn, ← hcount]

/-- How many rows of a keyed table match a predicate that fixes the key. -/
theorem countP_le_one {key : α → β} (hkey : (rows.map key).Nodup) {k : β}
    (hp : ∀ row ∈ rows, p row = true → key row = k) : rows.countP p ≤ 1 := by
  induction rows with
  | nil => simp
  | cons row rows ih =>
    rw [List.map_cons, List.nodup_cons] at hkey
    have htail := ih hkey.2 fun r hr => hp r (List.mem_cons_of_mem _ hr)
    by_cases hrow : p row = true
    · have hnone : rows.countP p = 0 := by
        refine List.countP_eq_zero.mpr fun r hr hpr => hkey.1 ?_
        rw [hp row List.mem_cons_self hrow, ← hp r (List.mem_cons_of_mem _ hr) hpr]
        exact List.mem_map_of_mem hr
      simp [hrow, hnone]
    · simpa [List.countP_cons, hrow] using htail

/-- A predicate that fixes the key and matches some row matches exactly one. -/
theorem countP_eq_one {key : α → β} (hkey : (rows.map key).Nodup) {k : β}
    (hp : ∀ row ∈ rows, p row = true → key row = k) {row : α} (hmem : row ∈ rows)
    (hrow : p row = true) : rows.countP p = 1 := by
  have hle := countP_le_one hkey hp
  have hpos : 0 < rows.countP p := List.countP_pos_iff.mpr ⟨row, hmem, hrow⟩
  omega

/-- An update whose predicate fixes the key and that does not hit one row hits none. -/
theorem rewrite_of_countP_ne_one {key : α → β} (hkey : (rows.map key).Nodup) {k : β}
    (hp : ∀ row ∈ rows, p row = true → key row = k) (h : rows.countP p ≠ 1) :
    rewrite p f rows = rows := by
  apply rewrite_of_forall_miss
  intro row hmem
  by_contra hrow
  exact h (countP_eq_one hkey hp hmem (by simpa using hrow))

/-- Within the rows a predicate selects, a column that determines the key there
    has no duplicates either. -/
theorem nodup_map_filter {γ : Type*} {key : α → β} {column : α → γ} (hkey : (rows.map key).Nodup)
    (h : ∀ a b, p a = true → p b = true → column a = column b → key a = key b) :
    ((rows.filter p).map column).Nodup := by
  refine List.Nodup.map_on (fun a ha b hb heq => ?_) ((List.Nodup.of_map key hkey).filter p)
  obtain ⟨ha, hpa⟩ := List.mem_filter.mp ha
  obtain ⟨hb, hpb⟩ := List.mem_filter.mp hb
  exact eq_of_key hkey ha hb (h a b hpa hpb heq)

/-! ## Later versions of a table

`r` relates a row to what later updates have made of it. -/

section Versions

variable {r : α → α → Prop} {later : List α}

/-- Every row in its place, in a later version. -/
def Follows (r : α → α → Prop) (rows later : List α) : Prop :=
  ∃ f : α → α, (∀ row, r row (f row)) ∧ later = rows.map f

theorem Follows.refl (hrefl : ∀ row, r row row) (rows : List α) : Follows r rows rows :=
  ⟨id, hrefl, (List.map_id rows).symm⟩

theorem Follows.trans (htrans : ∀ a b c, r a b → r b c → r a c) {latest : List α}
    (h₁ : Follows r rows later) (h₂ : Follows r later latest) : Follows r rows latest := by
  obtain ⟨f, hf, rfl⟩ := h₁
  obtain ⟨g, hg, rfl⟩ := h₂
  exact ⟨g ∘ f, fun row => htrans _ _ _ (hf row) (hg (f row)), List.map_map⟩

/-- A bulk update. -/
theorem Follows.rewrite (hrefl : ∀ row, r row row) (h : ∀ row, p row = true → r row (f row)) :
    Follows r rows (rewrite p f rows) := by
  refine ⟨fun row => if p row then f row else row, fun row => ?_, rfl⟩
  show r row (if p row = true then f row else row)
  by_cases hp : p row = true
  · rw [if_pos hp]
    exact h row hp
  · rw [if_neg hp]
    exact hrefl row

theorem Follows.replace [DecidableEq β] {key : α → β} {old row : α} (hrefl : ∀ row, r row row)
    (hkey : (rows.map key).Nodup) (hmem : old ∈ rows) (hsame : key old = key row) (h : r old row) :
    Follows r rows (replace key row rows) := by
  classical
  refine ⟨fun other => if other = old then row else other, fun other => ?_, ?_⟩
  · show r other (if other = old then row else other)
    by_cases heq : other = old
    · rw [if_pos heq, heq]
      exact h
    · rw [if_neg heq]
      exact hrefl other
  · refine List.map_congr_left fun other hother => ?_
    by_cases heq : key other = key row
    · have hold : other = old := eq_of_key hkey hother hmem (heq.trans hsame.symm)
      rw [if_pos hold, if_pos (decide_eq_true heq)]
    · have hold : other ≠ old := fun hcontra => heq (hcontra ▸ hsame)
      rw [if_neg hold, if_neg (fun hcontra => heq (of_decide_eq_true hcontra))]

/-- The rows of a kind, by a predicate that later versions keep. -/
theorem Follows.filter {q : α → Bool} (hq : ∀ {a b}, r a b → q b = q a)
    (h : Follows r rows later) : Follows r (rows.filter q) (later.filter q) := by
  obtain ⟨f, hf, rfl⟩ := h
  refine ⟨f, hf, ?_⟩
  have hkeep : q ∘ f = q := funext fun row => hq (hf row)
  rw [List.filter_map, hkeep]

/-- A column that later versions keep. -/
theorem Follows.map_eq (h : Follows r rows later) (column : α → β)
    (hcolumn : ∀ {a b}, r a b → column b = column a) : later.map column = rows.map column := by
  obtain ⟨f, hf, rfl⟩ := h
  rw [List.map_map]
  exact List.map_congr_left fun row _ => hcolumn (hf row)

theorem Follows.exists_later (h : Follows r rows later) {row : α} (hmem : row ∈ rows) :
    ∃ row' ∈ later, r row row' := by
  obtain ⟨f, hf, rfl⟩ := h
  exact ⟨f row, List.mem_map_of_mem hmem, hf row⟩

theorem Follows.exists_earlier (h : Follows r rows later) {row' : α} (hmem : row' ∈ later) :
    ∃ row ∈ rows, r row row' := by
  obtain ⟨f, hf, rfl⟩ := h
  obtain ⟨row, hrow, rfl⟩ := List.mem_map.mp hmem
  exact ⟨row, hrow, hf row⟩

theorem Follows.length_eq (h : Follows r rows later) : later.length = rows.length := by
  obtain ⟨f, -, rfl⟩ := h
  exact List.length_map f

/-- The rows in later versions, and inserts after them. -/
def Grows (r : α → α → Prop) (rows later : List α) : Prop :=
  ∃ versions added, Follows r rows versions ∧ later = versions ++ added

theorem Follows.grows (h : Follows r rows later) : Grows r rows later :=
  ⟨later, [], h, (List.append_nil later).symm⟩

theorem Grows.refl (hrefl : ∀ row, r row row) (rows : List α) : Grows r rows rows :=
  (Follows.refl hrefl rows).grows

theorem Grows.append (hrefl : ∀ row, r row row) (rows added : List α) :
    Grows r rows (rows ++ added) :=
  ⟨rows, added, .refl hrefl rows, rfl⟩

theorem Grows.trans (htrans : ∀ a b c, r a b → r b c → r a c) {latest : List α}
    (h₁ : Grows r rows later) (h₂ : Grows r later latest) : Grows r rows latest := by
  obtain ⟨versions, added, hversions, rfl⟩ := h₁
  obtain ⟨versions', added', ⟨g, hg, rfl⟩, rfl⟩ := h₂
  have hlatest : Follows r rows (versions.map g) := hversions.trans htrans ⟨g, hg, rfl⟩
  refine ⟨versions.map g, added.map g ++ added', hlatest, ?_⟩
  rw [List.map_append, List.append_assoc]

theorem Grows.exists_later (h : Grows r rows later) {row : α} (hmem : row ∈ rows) :
    ∃ row' ∈ later, r row row' := by
  obtain ⟨versions, added, hversions, rfl⟩ := h
  obtain ⟨row', hmem', hr⟩ := hversions.exists_later hmem
  exact ⟨row', List.mem_append_left _ hmem', hr⟩

/-- A lookup by columns that later versions keep finds the row it found before. -/
theorem Grows.find? {q : α → Bool} (hq : ∀ {a b}, r a b → q b = q a) (h : Grows r rows later)
    {row : α} (hfind : rows.find? q = some row) : ∃ row', later.find? q = some row' ∧ r row row' := by
  obtain ⟨versions, added, ⟨f, hf, rfl⟩, rfl⟩ := h
  have hkeep : q ∘ f = q := funext fun row => hq (hf row)
  refine ⟨f row, ?_, hf row⟩
  rw [List.find?_append, List.find?_map, hkeep, hfind]
  rfl

end Versions

end Table
