import Sentinel.ForStd.List
import Sentinel.ForStd.Table
import Sentinel.ForStd.Transition
import Sentinel.Native.ConstitutionService

/-! # The succession of policy versions

What the transactions of the store keep, whatever the instances do: a version is ACTIVE exactly
when it is the last of the succession, retired when it is an earlier one, and a draft otherwise.
So at most one version is ACTIVE, and none of them comes back. -/

namespace Sentinel.Constitution

def statusIn (succession : List String) (version : String) : PolicyStatus :=
  if succession.getLast? = some version then .active
  else if version ∈ succession then .retired else .draft

structure Succeeds (rows : List StoredPolicy) (succession : List String) : Prop where
  versions : (rows.map (·.version)).Nodup
  once : succession.Nodup
  stored : ∀ version ∈ succession, version ∈ rows.map (·.version)
  status : ∀ row ∈ rows, row.status = statusIn succession row.version

def Keeps (row later : StoredPolicy) : Prop := later.version = row.version ∧ later.body = row.body

theorem Keeps.refl (row : StoredPolicy) : Keeps row row := ⟨rfl, rfl⟩

theorem Keeps.trans (a b c : StoredPolicy) (hab : Keeps a b) (hbc : Keeps b c) : Keeps a c :=
  ⟨hbc.1.trans hab.1, hbc.2.trans hab.2⟩

namespace Succeeds

variable {rows rows' : List StoredPolicy} {succession : List String}

variable {row : StoredPolicy} {version : String}

theorem nil : Succeeds [] [] :=
  ⟨List.nodup_nil, List.nodup_nil, (fun _ h => nomatch h), fun _ h => nomatch h⟩

/-! ## Reading the rows -/

theorem isActive_iff (h : Succeeds rows succession) (hmem : row ∈ rows) :
    row.isActive = true ↔ succession.getLast? = some row.version := by
  have hstatus := h.status row hmem
  rw [StoredPolicy.isActive, decide_eq_true_iff, hstatus, statusIn]
  by_cases hlast : succession.getLast? = some row.version
  · simp [hlast]
  · rw [if_neg hlast]
    split <;> simp [hlast]

theorem isDraft_iff (h : Succeeds rows succession) (hmem : row ∈ rows) :
    row.status = .draft ↔ row.version ∉ succession := by
  rw [h.status row hmem, statusIn]
  by_cases hlast : succession.getLast? = some row.version
  · simpa [hlast] using List.mem_of_getLast? hlast
  · rw [if_neg hlast]
    split <;> simp_all

theorem eq_of_version (h : Succeeds rows succession) {a b : StoredPolicy} (ha : a ∈ rows)
    (hb : b ∈ rows) (hversion : a.version = b.version) : a = b :=
  Table.eq_of_key h.versions ha hb hversion

theorem exists_active (h : Succeeds rows succession) (hlast : succession.getLast? = some version) :
    ∃ row ∈ rows, row.version = version ∧ row.isActive = true := by
  obtain ⟨row, hmem, hversion⟩ := List.mem_map.mp (h.stored version (List.mem_of_getLast? hlast))
  exact ⟨row, hmem, hversion, (h.isActive_iff hmem).mpr (hversion ▸ hlast)⟩

theorem countP_isActive (h : Succeeds rows succession) (hne : succession ≠ []) :
    rows.countP (·.isActive) = 1 := by
  obtain ⟨version, hlast⟩ : ∃ version, succession.getLast? = some version :=
    ⟨_, List.getLast?_eq_some_getLast hne⟩
  obtain ⟨active, hmem, -, hisActive⟩ := h.exists_active hlast
  have hkey : ∀ row ∈ rows, row.isActive = true → row.version = version := fun row hrow hactive =>
    Option.some_inj.mp (((h.isActive_iff hrow).mp hactive).symm.trans hlast)
  exact Table.countP_eq_one h.versions hkey hmem hisActive

theorem findActive_eq_some (h : Succeeds rows succession) (hfound : findActive rows = some row) :
    row ∈ rows ∧ succession.getLast? = some row.version := by
  have hmem := List.mem_of_find?_eq_some hfound
  exact ⟨hmem, (h.isActive_iff hmem).mp (List.find?_some hfound)⟩

theorem findByVersion_eq_some (h : Succeeds rows succession) :
    findByVersion rows version = some row ↔ row ∈ rows ∧ row.version = version := by
  constructor
  · intro hfound
    exact Table.of_find? hfound
  · rintro ⟨hmem, hversion⟩
    exact Table.find?_eq_some h.versions hmem hversion fun _ hsame => hsame.trans hversion.symm

/-! ## Writing them -/

/-- A draft of a new version. -/
theorem createDraft {platform : Platform} {policy : Policy} {createdBy : String} {stamp : Stamp}
    (h : Succeeds rows succession)
    (hcreate : createDraft platform rows policy createdBy stamp = .ok rows') :
    Succeeds rows' succession ∧ Table.Grows Keeps rows rows' := by
  simp only [Constitution.createDraft, assertValidPolicy] at hcreate
  split at hcreate
  swap
  · cases hcreate
  simp only [bind, Except.bind] at hcreate
  split at hcreate
  · cases hcreate
  rename_i hfree
  obtain rfl : rows ++ [_] = rows' := by simpa [pure, Except.pure] using hcreate
  have hnew : policy.version ∉ rows.map (·.version) := by
    intro htaken
    obtain ⟨row, hmem, hversion⟩ := List.mem_map.mp htaken
    rw [h.findByVersion_eq_some.mpr ⟨hmem, hversion⟩] at hfree
    exact hfree rfl
  refine ⟨⟨?_, h.once, fun version hversion => ?_, fun row hrow => ?_⟩,
    Table.Grows.append Keeps.refl rows _⟩
  · exact Table.nodup_map_concat h.versions fun old hold heq =>
      hnew (List.mem_map.mpr ⟨old, hold, heq⟩)
  · rw [List.map_append]
    exact List.mem_append_left _ (h.stored version hversion)
  · rcases List.of_mem_concat hrow with hold | rfl
    · exact h.status row hold
    · have hout : policy.version ∉ succession := fun hin => hnew (h.stored _ hin)
      have hlast : succession.getLast? ≠ some policy.version := fun hlast =>
        hout (List.mem_of_getLast? hlast)
      simp [storedAs, statusIn, hlast, hout]

/-- The first row of an empty store. -/
theorem seed {platform : Platform} {stamp : Stamp} (h : Succeeds rows succession)
    (hempty : ¬ rows.length > 0) (hseed : seedBaselineOnce platform rows stamp = .ok rows') :
    Succeeds rows' (succession ++ rows'.map (·.version)) ∧ succession = [] ∧ rows' ≠ [] := by
  obtain rfl := List.length_eq_zero_iff.mp (Nat.eq_zero_of_not_pos hempty)
  have hnone : succession = [] := by
    refine List.eq_nil_iff_forall_not_mem.mpr fun version hversion => ?_
    cases h.stored version hversion
  simp only [seedBaselineOnce, assertValidPolicy, validate_sentinelBaselinePolicy] at hseed
  obtain rfl : [storedAs platform sentinelBaselinePolicy .active bootstrapAuthor (some stamp.now)
      stamp] = rows' := by simpa [bind, Except.bind, pure, Except.pure] using hseed
  subst hnone
  refine ⟨⟨List.nodup_singleton _, List.nodup_singleton _, fun version hversion => ?_,
    fun row hrow => ?_⟩, rfl, List.cons_ne_nil _ _⟩
  · exact hversion
  · obtain rfl := List.mem_singleton.mp hrow
    simp [storedAs, statusIn]

def installed (version : String) (now : Int) (row : StoredPolicy) : StoredPolicy :=
  if row.version = version then { row with status := .active, activatedAt := some now }
  else if row.isActive then { row with status := .retired } else row

theorem makeActive_retireOthers (version : String) (now : Int) (rows : List StoredPolicy) :
    makeActive version now (retireOthers version rows) = rows.map (installed version now) := by
  rw [makeActive, retireOthers, List.map_map]
  refine List.map_congr_left fun row _ => ?_
  by_cases hversion : row.version = version <;> by_cases hactive : row.isActive = true <;>
    simp [installed, hversion, hactive]

theorem keeps_installed (version : String) (now : Int) (row : StoredPolicy) :
    Keeps row (installed version now row) := by
  rw [installed]
  split
  · exact ⟨rfl, rfl⟩
  · split <;> exact ⟨rfl, rfl⟩

/-- The rows once a draft has become ACTIVE. -/
theorem installed_rows (h : Succeeds rows succession) (now : Int)
    (hstored : version ∈ rows.map (·.version)) (hnew : version ∉ succession) :
    Succeeds (rows.map (installed version now)) (succession ++ [version]) := by
  have hversions : (rows.map (installed version now)).map (·.version) = rows.map (·.version) := by
    rw [List.map_map]
    exact List.map_congr_left fun row _ => (keeps_installed version now row).1
  refine ⟨hversions ▸ h.versions, ?_, fun other hother => ?_, fun row' hrow' => ?_⟩
  · exact List.Nodup.append h.once (List.nodup_singleton _) (by simpa using hnew)
  · rw [hversions]
    obtain hold | hadded := List.mem_append.mp hother
    · exact h.stored other hold
    · rwa [List.mem_singleton.mp hadded]
  · obtain ⟨row, hmem, rfl⟩ := List.mem_map.mp hrow'
    have hlast : (succession ++ [version]).getLast? = some version := List.getLast?_concat
    simp only [statusIn, hlast, (keeps_installed version now row).1, Option.some_inj]
    by_cases hversion : row.version = version
    · simp [installed, hversion]
    · have hactive := h.isActive_iff hmem
      have hstatus := h.status row hmem
      rw [if_neg (Ne.symm hversion), installed, if_neg hversion]
      by_cases hlast' : succession.getLast? = some row.version
      · -- the incumbent
        rw [if_pos (hactive.mpr hlast'),
          if_pos (List.mem_append_left _ (List.mem_of_getLast? hlast'))]
      · rw [if_neg (fun hit => hlast' (hactive.mp hit)), hstatus, statusIn, if_neg hlast']
        have hiff : row.version ∈ succession ++ [version] ↔ row.version ∈ succession := by
          simp [hversion]
        simp only [hiff]

/-- What `activate` does: nothing to a version in force, and a draft succeeds the incumbent. -/
theorem activate {now : Int} (h : Succeeds rows succession)
    (hactivate : activate rows version now = .ok rows') :
    (succession.getLast? = some version ∧ rows' = rows) ∨
      version ∉ succession ∧ version ∈ rows.map (·.version) ∧
        rows' = rows.map (installed version now) := by
  simp only [Constitution.activate] at hactivate
  split at hactivate
  · cases hactivate
  rename_i target hfound
  obtain ⟨hmem, rfl⟩ := h.findByVersion_eq_some.mp hfound
  split at hactivate
  · cases hactivate
  rename_i hretired
  by_cases hactive : target.isActive = true
  · rw [if_pos hactive] at hactivate
    split at hactivate
    · exact .inl ⟨(h.isActive_iff hmem).mp hactive, (Except.ok.inj hactivate).symm⟩
    · cases hactivate
  · rw [if_neg hactive, makeActive_retireOthers] at hactivate
    split at hactivate
    swap
    · cases hactivate
    refine .inr ⟨?_, List.mem_map_of_mem hmem, (Except.ok.inj hactivate).symm⟩
    refine (h.isDraft_iff hmem).mp ?_
    cases hstatus : target.status with
    | draft => rfl
    | active => exact absurd (decide_eq_true hstatus) hactive
    | retired => exact absurd hstatus hretired

theorem activate_draft (h : Succeeds rows succession) {now : Int}
    (hstored : version ∈ rows.map (·.version)) (hnew : version ∉ succession) :
    Constitution.activate rows version now = .ok (rows.map (installed version now)) := by
  obtain ⟨target, hmem, rfl⟩ := List.mem_map.mp hstored
  have hdraft : target.status = .draft := (h.isDraft_iff hmem).mpr hnew
  have hactive : ¬ target.isActive = true := by simp [StoredPolicy.isActive, hdraft]
  have hone : (rows.map (installed target.version now)).countP (·.isActive) = 1 :=
    (h.installed_rows now hstored hnew).countP_isActive (by simp)
  rw [Constitution.activate, h.findByVersion_eq_some.mpr ⟨hmem, rfl⟩]
  simp only [hdraft, reduceCtorEq, if_false]
  rw [if_neg hactive, makeActive_retireOthers, if_pos hone]

end Succeeds

end Sentinel.Constitution
