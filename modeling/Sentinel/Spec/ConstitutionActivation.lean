import Sentinel.Spec.ConstitutionAlteration
import Sentinel.Spec.ConstitutionBodyLoading

/-! # What a failed activation leaves behind

An activation commits before the reload that loads the new policy, and only the reload looks at the
hash and the version of the row. -/

namespace Sentinel.ConstitutionBody

open Constitution (PolicyStatus Stamp Env ActivatePolicyCommand evaluate activationRequest)

def activeVersion (rows : List StoredRow) : Option String := (findActive rows).map (·.version)

def UniqueVersions (rows : List StoredRow) : Prop := (rows.map (·.version)).Nodup

section

variable {platform : Platform} {rows : List StoredRow} {version : String} {candidate : StoredRow}

/-! ## The transaction -/

theorem version_of_findByVersion (h : findByVersion rows version = some candidate) :
    candidate.version = version := by
  simpa using List.find?_some h

theorem findByVersion_eq_some_iff (hunique : UniqueVersions rows) :
    findByVersion rows version = some candidate ↔ candidate ∈ rows ∧ candidate.version = version := by
  constructor
  · intro h
    exact ⟨List.mem_of_find?_eq_some h, version_of_findByVersion h⟩
  · rintro ⟨hmem, rfl⟩
    rw [findByVersion]
    cases hfound : rows.find? (·.version = candidate.version) with
    | none => simpa using List.find?_eq_none.mp hfound candidate hmem
    | some row =>
      have hversion : row.version = candidate.version := version_of_findByVersion hfound
      rw [List.inj_on_of_nodup_map hunique (List.mem_of_find?_eq_some hfound) hmem hversion]

/-- A row after the transaction of an activation. -/
def installed (version : String) (now : Int) (row : StoredRow) : StoredRow :=
  if row.version = version then { row with status := .active, activatedAt := some now }
  else if row.isActive then { row with status := .retired }
  else row

theorem makeActive_retireOthers (version : String) (now : Int) (rows : List StoredRow) :
    makeActive version now (retireOthers version rows) = rows.map (installed version now) := by
  rw [makeActive, retireOthers, List.map_map]
  refine List.map_congr_left fun row _ => ?_
  simp only [Function.comp_apply, installed]
  by_cases hversion : row.version = version
  · simp [hversion]
  · by_cases hactive : row.isActive
    · simp [hversion, hactive]
    · simp [hversion, hactive]

theorem isActive_installed (version : String) (now : Int) (row : StoredRow) :
    (installed version now row).isActive = decide (row.version = version) := by
  rw [installed]
  by_cases hversion : row.version = version
  · simp [hversion, StoredRow.isActive]
  · by_cases hactive : row.isActive
    · rw [if_neg hversion, if_pos hactive]
      simp [StoredRow.isActive, hversion]
    · simp [hversion, hactive]

/-- The row that the transaction puts in force is the only one. -/
theorem countP_installed (hunique : UniqueVersions rows)
    (hfound : findByVersion rows version = some candidate) (now : Int) :
    (rows.map (installed version now)).countP (·.isActive) = 1 := by
  obtain ⟨hmem, rfl⟩ := (findByVersion_eq_some_iff hunique).mp hfound
  have hcount : (rows.map (·.version)).count candidate.version = 1 :=
    List.count_eq_one_of_mem hunique (List.mem_map_of_mem hmem)
  rw [List.countP_map, ← hcount, List.count, List.countP_map]
  refine List.countP_congr fun row _ => ?_
  simp [isActive_installed]

theorem findActive_installed (hfound : findByVersion rows version = some candidate) (now : Int) :
    findActive (rows.map (installed version now)) =
      some { candidate with status := .active, activatedAt := some now } := by
  have hversion : candidate.version = version := version_of_findByVersion hfound
  have hsame : ((·.isActive) ∘ installed version now) = fun row : StoredRow =>
      decide (row.version = version) := funext fun row => isActive_installed version now row
  rw [findActive, List.find?_map, hsame, show rows.find? _ = some candidate from hfound,
    Option.map_some, installed, if_pos hversion]

/-- A draft is put in force. -/
theorem activate_draft (hunique : UniqueVersions rows)
    (hfound : findByVersion rows version = some candidate) (hdraft : candidate.status = .draft)
    (now : Int) : activate rows version now = .ok (rows.map (installed version now)) := by
  have hactive : candidate.isActive = false := by
    rw [StoredRow.isActive, hdraft]
    rfl
  rw [activate, hfound]
  simp only [hdraft, hactive, makeActive_retireOthers, countP_installed hunique hfound,
    reduceCtorEq, if_false, Bool.false_eq_true, if_true]

/-- What is not a draft is refused, or is in force already. -/
theorem activate_not_draft {rows' : List StoredRow} {now : Int}
    (hfound : findByVersion rows version = some candidate) (hdraft : candidate.status ≠ .draft)
    (h : activate rows version now = .ok rows') : rows' = rows := by
  rw [activate, hfound] at h
  dsimp only at h
  split at h
  next => cases h
  next hretired =>
    have hactive : candidate.isActive = true := by
      rw [StoredRow.isActive, decide_eq_true_iff]
      cases hstatus : candidate.status with
      | draft => exact absurd hstatus hdraft
      | active => rfl
      | retired => exact absurd hstatus hretired
    rw [if_pos hactive] at h
    split at h
    next => exact (Except.ok.inj h).symm
    next => cases h

theorem reload_of_mem {s : Service} {row : StoredRow} (hrow : row ∈ s.rows) (stamp : Stamp)
    (seed read : Fate) : (reload platform s stamp seed read).1.rows = s.rows ∧
      ((∃ error, (reload platform s stamp seed read).2 = .error error) →
        (reload platform s stamp seed read).1.loaded = s.loaded) := by
  have hseeded : seedBaselineOnce platform s.rows stamp = .ok s.rows :=
    if_pos (List.length_pos_of_mem hrow)
  rw [reload, hseeded]
  split
  · exact ⟨rfl, fun _ => rfl⟩
  · dsimp only
    split
    · exact ⟨rfl, fun _ => rfl⟩
    · split
      · exact ⟨rfl, fun _ => rfl⟩
      · split
        · exact ⟨rfl, fun _ => rfl⟩
        · exact ⟨rfl, fun ⟨_, h⟩ => by cases h⟩

/-- A reload succeeds when its two operations do and the active row is loaded. -/
theorem reload_ok_iff {s : Service} {row : StoredRow} (hactive : findActive s.rows = some row)
    (stamp : Stamp) (seed read : Fate) :
    (∃ loaded, (reload platform s stamp seed read).2 = .ok loaded) ↔
      seed = .done ∧ read = .done ∧ ∃ loaded, loadStored platform row = .ok loaded := by
  have hseeded : seedBaselineOnce platform s.rows stamp = .ok s.rows :=
    if_pos (List.length_pos_of_mem (List.mem_of_find?_eq_some hactive))
  rw [reload, hseeded]
  cases seed with
  | rejected => simp
  | lost => simp
  | done =>
    by_cases hread : read = .done
    · simp only [hread, hactive, reduceCtorEq, if_false, ne_eq, not_true_eq_false, or_self,
        true_and]
      cases loadStored platform row <;> simp
    · simp [hread]

/-! ## The call -/

/-- The candidate's row describes the policy that its body holds. -/
def Intact (platform : Platform) (stored : StoredRow) : Prop :=
  ∃ parsed, parseBody stored.body = some parsed ∧ Describes platform stored parsed

/-- The candidate's body has the shape of a policy, and the policy is coherent. -/
def Coherent (stored : StoredRow) : Prop :=
  ∃ parsed, parseBody stored.body = some parsed ∧ parsed.toPolicy.validate = []

theorem loadStored_ok_iff {stored : StoredRow} :
    (∃ loaded, loadStored platform stored = .ok loaded) ↔
      Coherent stored ∧ Intact platform stored := by
  simp only [loadStored_eq_ok]
  constructor
  · rintro ⟨_, parsed, hparse, hvalid, hdescribes, -⟩
    exact ⟨⟨parsed, hparse, hvalid⟩, parsed, hparse, hdescribes⟩
  · rintro ⟨⟨parsed, hparse, hvalid⟩, parsed', hparse', hdescribes⟩
    obtain rfl : parsed = parsed' := Option.some.inj (hparse.symm.trans hparse')
    exact ⟨_, parsed, hparse, hvalid, hdescribes, rfl⟩

theorem recheck_ok_iff {stored : StoredRow} :
    (∃ policy, (parsePolicy stored.body >>= fun parsed => assertValidPolicy parsed.toPolicy) =
      .ok policy) ↔ Coherent stored := by
  simp only [Except.bind_eq_ok, parsePolicy_eq_ok, assertValidPolicy_eq_ok]
  constructor
  · rintro ⟨_, parsed, hparse, hvalid, -⟩
    exact ⟨parsed, hparse, hvalid⟩
  · rintro ⟨parsed, hparse, hvalid⟩
    exact ⟨_, parsed, hparse, hvalid, rfl⟩

/-- Loading does not look at the status of a row, nor at when it was activated. -/
theorem loads_installed (h : Coherent candidate) (now : Int) :
    (∃ loaded, loadStored platform
      { candidate with status := .active, activatedAt := some now } = .ok loaded) ↔
      Intact platform candidate := by
  rw [loadStored_ok_iff]
  constructor
  · rintro ⟨-, parsed, hparse, hdescribes⟩
    exact ⟨parsed, hparse, hdescribes.contentSha256, hdescribes.version⟩
  · rintro ⟨parsed, hparse, hdescribes⟩
    exact ⟨h, parsed, hparse, hdescribes.contentSha256, hdescribes.version⟩

/-- The call commits this candidate: the gate allows it, what comes before the commit succeeds, and
    the row is a draft that passes the re-check. -/
structure Commits (platform : Platform) (s : Service) (command : ActivatePolicyCommand)
    (fates : Fates) (candidate : StoredRow) : Prop where
  gate : ∃ loaded, s.loaded = some loaded ∧
    (evaluate platform.text (activationRequest command) loaded.policy).decision = .allow
  append : fates.append = .done
  lookUp : fates.lookUp = .done
  found : findByVersion s.rows command.version = some candidate
  coherent : Coherent candidate
  draft : candidate.status = .draft
  commit : fates.commit ≠ .rejected

/-- The answers after the commit arrive, and the committed row can be loaded. -/
structure Survives (platform : Platform) (fates : Fates) (candidate : StoredRow) : Prop where
  commit : fates.commit = .done
  seed : fates.seed = .done
  read : fates.read = .done
  intact : Intact platform candidate

variable {s : Service} {command : ActivatePolicyCommand} {env : Env} {fates : Fates}

/-- A call that throws has changed neither what is in force nor what is loaded. -/
def ThrowsUnchanged {α : Type} (s : Service) (result : Service × Except PolicyError α) : Prop :=
  (∃ error, result.2 = .error error) →
    activeVersion result.1.rows = activeVersion s.rows ∧ result.1.loaded = s.loaded

theorem ThrowsUnchanged.of_same {α : Type} {result : Service × Except PolicyError α}
    (hrows : result.1.rows = s.rows) (hloaded : result.1.loaded = s.loaded) :
    ThrowsUnchanged s result := fun _ => ⟨by rw [hrows], hloaded⟩

/-- A candidate that is not a draft, or is not reached, leaves all as it was where the call throws. -/
theorem activateCandidate_unchanged {decision : Constitution.ConstitutionDecision}
    (h : ∀ candidate, findByVersion s.rows command.version = some candidate → fates.lookUp = .done →
      Coherent candidate → fates.commit ≠ .rejected → candidate.status ≠ .draft) :
    ThrowsUnchanged s (activateCandidate platform s command decision env fates) := by
  unfold activateCandidate
  split
  next => exact .of_same rfl rfl
  next hlookUp =>
    split
    next => exact .of_same rfl rfl
    next candidate hfound =>
      split
      next => exact .of_same rfl rfl
      next policy hrecheck =>
        split
        next => exact .of_same rfl rfl
        next hcommit =>
          split
          next => exact .of_same rfl rfl
          next rows' hactivate =>
            have hdraft := h candidate hfound (not_not.mp hlookUp)
              (recheck_ok_iff.mp ⟨policy, hrecheck⟩) hcommit
            obtain rfl := activate_not_draft hfound hdraft hactivate
            split
            next => exact .of_same rfl rfl
            next =>
              have hmem : candidate ∈ s.rows := List.mem_of_find?_eq_some hfound
              have hreload := @reload_of_mem platform s candidate hmem env.stamp fates.seed fates.read
              rintro ⟨error, herror⟩
              refine ⟨by rw [hreload.1], hreload.2 ?_⟩
              -- only a reload that throws makes the call throw
              cases hresult : (reload platform s env.stamp fates.seed fates.read).2 with
              | error error => exact ⟨error, rfl⟩
              | ok active =>
                change Except.map _ (reload platform s env.stamp fates.seed fates.read).2 = _ at herror
                rw [hresult] at herror
                cases herror

theorem activatePolicy_eq {loaded : Constitution.LoadedPolicy} (hloaded : s.loaded = some loaded)
    (happend : fates.append = .done)
    (hallow : (evaluate platform.text (activationRequest command) loaded.policy).decision = .allow) :
    ∃ ledger, activatePolicy platform s command env fates =
      activateCandidate platform { s with ledger } command
        (evaluate platform.text (activationRequest command) loaded.policy) env fates := by
  simp only [activatePolicy, hloaded, happend, hallow, reduceCtorEq, if_false, ne_eq,
    not_true_eq_false]
  exact ⟨_, rfl⟩

/-- A call that commits nothing has changed nothing where it throws. -/
theorem activatePolicy_unchanged (h : ∀ candidate, ¬ Commits platform s command fates candidate) :
    ThrowsUnchanged s (activatePolicy platform s command env fates) := by
  unfold activatePolicy
  split
  next => exact .of_same rfl rfl
  next loaded hloaded =>
    dsimp only
    split
    next => exact .of_same rfl rfl
    next hrejected =>
      split
      next => exact .of_same rfl rfl
      next hlost =>
        split
        next => exact .of_same rfl rfl
        next hallow =>
          have happend : fates.append = .done := by
            cases hfate : fates.append with
            | done => rfl
            | rejected => exact absurd hfate hrejected
            | lost => exact absurd hfate hlost
          refine activateCandidate_unchanged (s := { s with ledger := _ })
            fun candidate hfound hlookUp hcoherent hcommit hdraft => ?_
          exact h candidate ⟨⟨loaded, hloaded, not_not.mp hallow⟩, happend, hlookUp, hfound, hcoherent,
            hdraft, hcommit⟩

/-- What a call that commits leaves: the candidate in force, and an answer exactly when the later
    operations succeed and the row describes its body. -/
theorem activatePolicy_commits (hunique : UniqueVersions s.rows)
    (h : Commits platform s command fates candidate) :
    (activatePolicy platform s command env fates).1.rows =
        s.rows.map (installed command.version env.stamp.now) ∧
      ((∃ active, (activatePolicy platform s command env fates).2 = .ok active) ↔
        Survives platform fates candidate) := by
  obtain ⟨loaded, hloaded, hallow⟩ := h.gate
  obtain ⟨ledger, hcall⟩ := activatePolicy_eq hloaded h.append hallow
  obtain ⟨policy, hrecheck⟩ := recheck_ok_iff.mpr h.coherent
  have hactivate := activate_draft hunique h.found h.draft env.stamp.now
  have hactive := findActive_installed h.found env.stamp.now
  rw [hcall, activateCandidate]
  simp only [h.lookUp, h.found, hrecheck, hactivate, ne_eq, not_true_eq_false, if_false]
  cases hfate : fates.commit with
  | rejected => exact absurd hfate h.commit
  | lost =>
    simp only [reduceCtorEq, if_false, if_true, true_and]
    refine iff_of_false (fun ⟨_, hok⟩ => by cases hok) fun hsurvives => ?_
    rw [hsurvives.commit] at hfate
    cases hfate
  | done =>
    simp only [reduceCtorEq, if_false]
    have hrows := (@reload_of_mem platform
      { s with rows := s.rows.map (installed command.version env.stamp.now), ledger } _
      (List.mem_of_find?_eq_some hactive) env.stamp fates.seed fates.read).1
    refine ⟨hrows, ?_⟩
    have hloads := @loads_installed platform _ h.coherent env.stamp.now
    have hreload := (@reload_ok_iff platform
      { s with rows := s.rows.map (installed command.version env.stamp.now), ledger } _ hactive
      env.stamp fates.seed fates.read).trans (and_congr_right fun _ => and_congr_right fun _ => hloads)
    constructor
    · rintro ⟨active, hok⟩
      obtain ⟨loaded, hloaded, -⟩ := Except.map_eq_ok.mp hok
      obtain ⟨hseed, hread, hintact⟩ := hreload.mp ⟨loaded, hloaded⟩
      exact ⟨hfate, hseed, hread, hintact⟩
    · intro hsurvives
      obtain ⟨loaded, hloaded⟩ :=
        hreload.mpr ⟨hsurvives.seed, hsurvives.read, hsurvives.intact⟩
      exact ⟨_, Except.map_eq_ok.mpr ⟨loaded, hloaded, rfl⟩⟩

theorem activeVersion_commits (hunique : UniqueVersions s.rows)
    (h : Commits platform s command fates candidate) :
    activeVersion (activatePolicy platform s command env fates).1.rows ≠ activeVersion s.rows := by
  have hnow : activeVersion (activatePolicy platform s command env fates).1.rows =
      some command.version := by
    rw [(activatePolicy_commits hunique h).1, activeVersion, findActive_installed h.found,
      Option.map_some, version_of_findByVersion h.found]
  intro hsame
  rw [hnow, eq_comm, activeVersion, Option.map_eq_some_iff] at hsame
  obtain ⟨row, hrow, hversion⟩ := hsame
  -- the active row would be the candidate
  have hfound := (findByVersion_eq_some_iff hunique).mpr
    ⟨List.mem_of_find?_eq_some hrow, hversion⟩
  obtain rfl : candidate = row := Option.some.inj (h.found.symm.trans hfound)
  have hactive : candidate.isActive = true := List.find?_some hrow
  rw [StoredRow.isActive, h.draft] at hactive
  cases hactive

/-- After a commit, the store can be loaded exactly when the committed row describes its body. -/
theorem reload_commits_iff (hunique : UniqueVersions s.rows)
    (h : Commits platform s command fates candidate) (stamp : Stamp) :
    (∃ loaded, (reload platform (activatePolicy platform s command env fates).1 stamp
      .done .done).2 = .ok loaded) ↔ Intact platform candidate := by
  have hactive : findActive (activatePolicy platform s command env fates).1.rows =
      some { candidate with status := .active, activatedAt := some env.stamp.now } := by
    rw [(activatePolicy_commits hunique h).1]
    exact findActive_installed h.found env.stamp.now
  refine (reload_ok_iff hactive stamp .done .done).trans ?_
  simp only [true_and]
  exact loads_installed h.coherent env.stamp.now

/-! ## Which activations change nothing where they throw -/

theorem createDraft_eq_ok {draft : Draft} {createdBy : String} {stamp : Stamp}
    {rows' : List StoredRow} (h : createDraft platform rows draft createdBy stamp = .ok rows') :
    rows' = rows ++ [storedAs platform draft.body .draft createdBy none stamp] := by
  unfold createDraft at h
  obtain ⟨_, -, h⟩ := Except.bind_eq_ok.mp h
  split at h
  next => cases h
  next => exact (Except.ok.inj h).symm

/-- **Activation and loading.**  A call that throws has left what is in force and what is loaded as
they were exactly when it has committed no draft, or what follows the commit cannot fail.  After a
commit, a reload or a boot succeeds exactly when the row does; a row that `createDraft` wrote is
loaded exactly when the draft is loadable. -/
theorem activation_settles (platform : Platform) :
    (∀ s command env fates, UniqueVersions s.rows →
      (ThrowsUnchanged s (activatePolicy platform s command env fates) ↔
        ∀ candidate, Commits platform s command fates candidate →
          Survives platform fates candidate)) ∧
    (∀ s command env fates candidate, UniqueVersions s.rows →
      Commits platform s command fates candidate → ∀ stamp,
      ((∃ loaded, (reload platform (activatePolicy platform s command env fates).1 stamp
          .done .done).2 = .ok loaded) ↔ Intact platform candidate)) ∧
    ∀ rows draft createdBy stamp rows', createDraft platform rows draft createdBy stamp = .ok rows' →
      ∃ row, rows' = rows ++ [row] ∧
        ((∃ loaded, loadStored platform row = .ok loaded) ↔ draft.Loadable platform) := by
  refine ⟨fun s command env fates hunique => ⟨fun h candidate hcommits => ?_, fun h => ?_⟩,
    fun s command env fates candidate hunique hcommits stamp => ?_, ?_⟩
  · have hcommitted := (@activatePolicy_commits platform candidate s command env fates hunique hcommits).2
    have hchanged := @activeVersion_commits platform candidate s command env fates hunique hcommits
    -- the call does not throw, or it would have changed nothing
    apply hcommitted.mp
    cases hresult : (activatePolicy platform s command env fates).2 with
    | ok active => exact ⟨active, rfl⟩
    | error error => exact absurd (h ⟨error, hresult⟩).1 hchanged
  · by_cases hcommits : ∃ candidate, Commits platform s command fates candidate
    · obtain ⟨candidate, hcommits⟩ := hcommits
      obtain ⟨active, hok⟩ :=
        (activatePolicy_commits hunique hcommits).2.mpr (h candidate hcommits)
      rintro ⟨error, herror⟩
      rw [hok] at herror
      cases herror
    · exact activatePolicy_unchanged (not_exists.mp hcommits)
  · exact reload_commits_iff hunique hcommits stamp
  · intro rows draft createdBy stamp rows' hcreate
    exact ⟨_, createDraft_eq_ok hcreate,
      loadStored_storedAs_iff platform draft .draft createdBy none stamp⟩

end

namespace Sample

/-- A digest that leaves ASCII text as it is. -/
def platform : Platform := ⟨⟨id, id⟩, fun text => String.ofList (text.map fun unit => Char.ofNat unit.toNat)⟩

def env : Env := ⟨⟨"row", 0⟩, "entry", "trace"⟩

/-- A policy without any rules, and whatever else its object has. -/
def emptyBody (others : List (DecisionLedger.Text × DecisionLedger.JsValue)) : PolicyBody :=
  ⟨key "p2", [], [], [], [], others⟩

theorem emptyBody_isObject {others : List (DecisionLedger.Text × DecisionLedger.JsValue)}
    (hnodup : (others.map Prod.fst).Nodup) (hnew : ∀ member ∈ others, member.1 ∉ policyKeys)
    (hjson : ∀ member ∈ DecisionLedger.canonicalisedOwn others, member.2.Valid) :
    (emptyBody others).IsObject := by
  refine ⟨List.nodup_nil, List.nodup_nil, List.nodup_nil, hnodup, hnew, (fun _ h => nomatch h),
    (fun _ h => nomatch h), fun json h => ?_⟩
  cases h
  refine objectForm_valid fun member hmember => ?_
  rw [canonicalisedOwn_append] at hmember
  rcases List.mem_append.mp hmember with hfixed | hother
  · have hown : DecisionLedger.canonicalisedOwn (emptyBody others).own =
        DecisionLedger.canonicalisedOwn (emptyBody others).stripped.own := rfl
    have hvalid := stripped_valid (emptyBody others)
    rw [objectForm, JsonText.Json.Valid, JsonText.validMembers_iff] at hvalid
    have hperm := (JsObject.fromEntries_perm Utf16.arrayIndex? _).trans (JsObject.sortEntries_perm
      (DecisionLedger.canonicalisedOwn (emptyBody others).stripped.own))
    exact hvalid member (hperm.mem_iff.mpr (hown ▸ hfixed))
  · exact hjson member hother

/-- A policy as its type has it. -/
def plain : Draft where
  body := emptyBody []
  isObject := emptyBody_isObject List.nodup_nil (fun _ h => nomatch h) (fun _ h => nomatch h)

/-- The same policy with a note beside it. -/
def noted : Draft where
  body := emptyBody [(key "note", .string (key "spring review"))]
  isObject := by
    refine emptyBody_isObject (List.nodup_singleton _) ?_ ?_
    · intro member hmember
      obtain rfl := List.mem_singleton.mp hmember
      decide
    · intro member hmember
      obtain rfl := List.mem_singleton.mp hmember
      trivial

def baselineRow : StoredRow :=
  storedAs platform baselineBody .active Constitution.bootstrapAuthor (some 0) env.stamp

/-- The baseline in force, and the draft beside it. -/
def service (draft : Draft) : Service where
  rows := [baselineRow, storedAs platform draft.body .draft "steward" none env.stamp]
  ledger := []
  loaded := some Constitution.loadedBaseline.value

def fates : Fates := ⟨.done, .done, .done, .done, .done⟩

theorem service_unique {draft : Draft} (h : asString draft.body.version = "p2") :
    UniqueVersions (service draft).rows := by
  show [asString baselineBody.version, asString draft.body.version].Nodup
  rw [h]
  decide

theorem service_commits {others : List (DecisionLedger.Text × DecisionLedger.JsValue)}
    (h : (emptyBody others).IsObject) :
    Commits platform (service ⟨emptyBody others, h⟩) (Constitution.stewardCommand "p2") fates
      (storedAs platform (emptyBody others) .draft "steward" none env.stamp) where
  gate := ⟨_, rfl, by decide⟩
  append := rfl
  lookUp := rfl
  found := (findByVersion_eq_some_iff (service_unique (show asString (key "p2") = "p2" by
    decide))).mpr ⟨List.mem_cons_of_mem _ (List.mem_singleton_self _),
      show asString (key "p2") = "p2" by decide⟩
  coherent := ⟨_, (parseBody_policyBody h).mpr ⟨⟨show key "p2" ≠ [] by decide, (fun _ h => nomatch h),
    (fun _ h => nomatch h), (fun _ h => nomatch h), (fun _ h => nomatch h)⟩, rfl⟩, rfl⟩
  draft := rfl
  commit := by decide

/-- The note is hashed with the draft and not with what is read of it. -/
theorem noted_not_intact :
    ¬ Intact platform (storedAs platform noted.body .draft "steward" none env.stamp) := by
  rintro ⟨parsed, hparse, hdescribes⟩
  obtain ⟨-, rfl⟩ := (parseBody_policyBody noted.isObject).mp hparse
  rcases (describes_iff platform noted .draft "steward" none env.stamp).mp hdescribes with
    hnothing | ⟨-, hdigest⟩
  · exact absurd hnothing.others (List.cons_ne_nil _ _)
  · have htexts := String.ofList_injective hdigest
    revert htexts
    decide

theorem createDraft_sample {draft : Draft} (hversion : asString draft.body.version = "p2")
    (hvalid : draft.body.toPolicy.validate = []) :
    createDraft platform [baselineRow] draft "steward" env.stamp = .ok (service draft).rows := by
  have hnew : (findByVersion [baselineRow] "p2").isSome = false := by decide
  have hassert : assertValidPolicy draft.body.toPolicy = .ok draft.body.toPolicy := if_pos hvalid
  rw [createDraft, hassert, hversion, hnew]
  rfl

end Sample

/-- A draft with a note is accepted, and its activation puts it in force and throws; after that, no
    reload and no boot succeeds. -/
theorem activation_leaves_unloadable :
    createDraft Sample.platform [Sample.baselineRow] Sample.noted "steward" Sample.env.stamp =
      .ok (Sample.service Sample.noted).rows ∧
    (∃ error, (activatePolicy Sample.platform (Sample.service Sample.noted)
      (Constitution.stewardCommand "p2") Sample.env Sample.fates).2 = .error error) ∧
    activeVersion (activatePolicy Sample.platform (Sample.service Sample.noted)
      (Constitution.stewardCommand "p2") Sample.env Sample.fates).1.rows ≠
      activeVersion (Sample.service Sample.noted).rows ∧
    ∀ stamp, ¬ ∃ loaded, (reload Sample.platform (activatePolicy Sample.platform
      (Sample.service Sample.noted) (Constitution.stewardCommand "p2") Sample.env
      Sample.fates).1 stamp .done .done).2 = .ok loaded := by
  have hversion : asString (key "p2") = "p2" := by decide
  have hunique := @Sample.service_unique Sample.noted hversion
  have hcommits := Sample.service_commits Sample.noted.isObject
  have hanswer := (@activatePolicy_commits _ _ _ _ Sample.env _ hunique hcommits).2
  refine ⟨Sample.createDraft_sample hversion rfl, ?_, activeVersion_commits hunique hcommits,
    fun stamp hreload => ?_⟩
  · cases hresult : (activatePolicy Sample.platform (Sample.service Sample.noted)
      (Constitution.stewardCommand "p2") Sample.env Sample.fates).2 with
    | error error => exact ⟨error, rfl⟩
    | ok active => exact absurd (hanswer.mp ⟨active, hresult⟩).intact Sample.noted_not_intact
  · exact Sample.noted_not_intact ((reload_commits_iff hunique hcommits stamp).mp hreload)

/-- The policy without the note is put in force and loaded. -/
theorem activation_settles_plain :
    ThrowsUnchanged (Sample.service Sample.plain) (activatePolicy Sample.platform
      (Sample.service Sample.plain) (Constitution.stewardCommand "p2") Sample.env Sample.fates) ∧
    (∃ loaded, (reload Sample.platform (activatePolicy Sample.platform
      (Sample.service Sample.plain) (Constitution.stewardCommand "p2") Sample.env
      Sample.fates).1 Sample.env.stamp .done .done).2 = .ok loaded) ∧
    ∃ row, (Sample.service Sample.plain).rows = [Sample.baselineRow] ++ [row] ∧
      ((∃ loaded, loadStored Sample.platform row = .ok loaded) ↔
        Sample.plain.Loadable Sample.platform) := by
  have hversion : asString (key "p2") = "p2" := by decide
  have hunique := @Sample.service_unique Sample.plain hversion
  have hcommits := Sample.service_commits Sample.plain.isObject
  have hnothing : Sample.plain.body.NothingStripped := ⟨rfl, fun _ h => nomatch h⟩
  have hintact : Intact Sample.platform
      (storedAs Sample.platform Sample.plain.body .draft "steward" none Sample.env.stamp) := by
    obtain ⟨parsed, hparse, -⟩ := hcommits.coherent
    obtain ⟨-, rfl⟩ := (parseBody_policyBody Sample.plain.isObject).mp hparse
    exact ⟨_, hparse, (describes_iff Sample.platform Sample.plain .draft "steward" none
      Sample.env.stamp).mpr (Or.inl hnothing)⟩
  refine ⟨((activation_settles Sample.platform).1 _ _ _ _ hunique).mpr fun candidate h => ?_,
    ((activation_settles Sample.platform).2.1 _ _ _ _ _ hunique hcommits _).mpr hintact,
    (activation_settles Sample.platform).2.2 _ _ _ _ _ (Sample.createDraft_sample hversion rfl)⟩
  obtain rfl := Option.some.inj (h.found.symm.trans hcommits.found)
  exact ⟨rfl, rfl, rfl, hintact⟩

end Sentinel.ConstitutionBody
