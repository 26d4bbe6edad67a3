import Sentinel.Spec.ConstitutionInstances

/-! # The constitution gates its own replacement

The transaction of an activation does not look at the gate again.  So the gate was evaluated under
the version it replaces exactly when no version has become ACTIVE since the instance last read the
store. -/

namespace Sentinel.Constitution

variable {ι : Type} {platform : Platform}

def Becomes (s s' : State ι) (version : String) : Prop :=
  (∃ row ∈ s'.rows, row.version = version ∧ row.isActive = true) ∧
    ¬ ∃ row ∈ s.rows, row.version = version ∧ row.isActive = true

variable {s s' : State ι}

/-! ## The rows in terms of the succession -/

theorem exists_active_iff (h : Inv platform s) {version : String} :
    (∃ row ∈ s.rows, row.version = version ∧ row.isActive = true) ↔
      s.succession.getLast? = some version := by
  constructor
  · rintro ⟨row, hmem, rfl, hactive⟩
    exact (h.succeeds.isActive_iff hmem).mp hactive
  · exact h.succeeds.exists_active

theorem becomes_iff (h : Inv platform s) (h' : Inv platform s') {version : String} :
    Becomes s s' version ↔
      s'.succession.getLast? = some version ∧ s.succession.getLast? ≠ some version := by
  rw [Becomes, exists_active_iff h, exists_active_iff h']

/-- A stored version that has never been active is a draft. -/
theorem any_isDraft_iff (h : Inv platform s) {version : String} :
    (findByVersion s.rows version).any (·.status = .draft) = true ↔
      version ∈ s.rows.map (·.version) ∧ version ∉ s.succession := by
  constructor
  · intro hany
    cases hfound : findByVersion s.rows version with
    | none =>
      rw [hfound] at hany
      cases hany
    | some row =>
      rw [hfound] at hany
      obtain ⟨hmem, rfl⟩ := h.succeeds.findByVersion_eq_some.mp hfound
      exact ⟨List.mem_map_of_mem hmem, (h.succeeds.isDraft_iff hmem).mp (of_decide_eq_true hany)⟩
  · rintro ⟨hstored, hnew⟩
    obtain ⟨row, hmem, rfl⟩ := List.mem_map.mp hstored
    rw [h.succeeds.findByVersion_eq_some.mpr ⟨hmem, rfl⟩]
    exact decide_eq_true ((h.succeeds.isDraft_iff hmem).mpr hnew)

/-- A retired version stays out of force. -/
theorem not_active_of_retired (h : Inv platform s) (h' : Inv platform s') (hext : Extends s s')
    {row row' : StoredPolicy} (hrow : row ∈ s.rows) (hretired : row.status = .retired)
    (hrow' : row' ∈ s'.rows) (hversion : row'.version = row.version) :
    row'.status ≠ .active := by
  intro hactive
  have hlast' : s'.succession.getLast? = some row.version :=
    hversion ▸ (h'.succeeds.isActive_iff hrow').mp (decide_eq_true hactive)
  have hlast : s.succession.getLast? ≠ some row.version := fun hlast => by
    have hactive := (h.succeeds.isActive_iff hrow).mpr hlast
    rw [StoredPolicy.isActive, hretired] at hactive
    cases hactive
  have hin : row.version ∈ s.succession := by
    by_contra hout
    cases hretired.symm.trans ((h.succeeds.isDraft_iff hrow).mpr hout)
  obtain ⟨n, hget⟩ := List.getElem?_of_mem hin
  have hread : ReadAt s'.succession (n + 1) row.version :=
    ReadAt.mono ⟨n, rfl, hget⟩ hext.succession
  have hlength := hread.readAt_eq h'.succeeds.once (ReadAt.last hlast')
  have hlt : n < s.succession.length := (List.getElem?_eq_some_iff.mp hget).1
  have hle := hext.succession.length_le
  -- it was the last version then, so it was not retired
  apply hlast
  rw [List.getLast?_eq_getElem?, ← hget]
  congr 1
  omega

section Steps

variable [DecidableEq ι]

/-- What takes the place of an ACTIVE version does so on an ALLOW for the rule-alteration action,
    evaluated under that version. -/
def Gated (platform : Platform) (s : State ι) (label : Label ι) : Prop :=
  ∀ s', step platform s label = some s' → ∀ version, Becomes s s' version →
    ∀ replaced ∈ s.rows, replaced.isActive = true →
      ∃ t env i command gate, label = .resume t env ∧
        s.calls[t]? = some (i, .activating command gate) ∧ command.version = version ∧
        gate.record.request = activationRequest command ∧ gate.decision.decision = .allow ∧
        gate.loaded.value.version = replaced.version ∧
        gate.decision = evaluate platform.text gate.record.request replaced.body

/-- The transaction that stores the baseline in an empty store. -/
def Seeds (s : State ι) (label : Label ι) : Prop :=
  s.rows = [] ∧ ∃ t env i activation, label = .resume t env ∧
    s.calls[t]? = some (i, .seeding activation)

/-- The constitution gates its own replacement throughout a run. -/
structure GatesItsReplacement (platform : Platform) (labels : List (Label ι)) : Prop where
  gated : Transition.RunAll (step platform) (Gated platform) .init labels
  single : ∀ {earlier label later rest s₀ s₁ s₂}, labels = earlier ++ label :: later ++ rest →
    Transition.run (step platform) .init earlier = some s₀ → Seeds s₀ label →
    step platform s₀ label = some s₁ → Transition.run (step platform) s₁ later = some s₂ →
    s₂.rows.countP (·.isActive) = 1
  final : ∀ {earlier later rest s₁ s₂}, labels = earlier ++ later ++ rest →
    Transition.run (step platform) .init earlier = some s₁ →
    Transition.run (step platform) s₁ later = some s₂ →
    ∀ row ∈ s₁.rows, row.status = .retired →
      ∀ row' ∈ s₂.rows, row'.version = row.version → row'.status ≠ .active

/-- No activation replaces the ACTIVE version unless none has become ACTIVE since its instance
    read the policy that the gate was evaluated under. -/
def Undisturbed (s : State ι) (label : Label ι) : Prop :=
  ∀ t env i command gate, label = .resume t env →
    s.calls[t]? = some (i, .activating command gate) →
    (findByVersion s.rows command.version).any (·.status = .draft) = true →
    gate.loaded.readAt = s.succession.length

/-! ## Steps -/

/-- What a step does to the succession: only a seed and an activation add to it. -/
theorem step_succession (h : Inv platform s) {label : Label ι}
    (hstep : step platform s label = some s') :
    s'.succession = s.succession ∨ s.succession = [] ∨
      ∃ t env i command gate, label = .resume t env ∧
        s.calls[t]? = some (i, .activating command gate) ∧
        command.version ∈ s.rows.map (·.version) ∧ command.version ∉ s.succession ∧
        s'.succession = s.succession ++ [command.version] := by
  cases label with
  | createDraft policy createdBy env =>
    cases hstep
    rw [State.createDraft]
    split <;> exact .inl rfl
  | reload i =>
    cases hstep
    exact .inl rfl
  | evaluate i request traceId env =>
    cases hstep
    rw [State.evaluate]
    split <;> exact .inl rfl
  | activatePolicy i command env =>
    cases hstep
    rw [State.activatePolicy]
    split <;> exact .inl rfl
  | reject t =>
    simp only [step, State.reject] at hstep
    split at hstep
    · cases hstep
    · cases hstep
    · cases hstep
      exact .inl rfl
  | resume t env =>
    simp only [step, State.resume] at hstep
    split at hstep
    · cases hstep
    · cases hstep
    all_goals
      rename_i hcall
      cases hstep
    · -- a seed of an empty store comes before every version
      rw [State.seed]
      split
      · exact .inl rfl
      · by_cases hrows : s.rows.length > 0
        · exact .inl (if_pos hrows)
        · rename_i hseed
          exact .inr (.inl (h.succeeds.seed hrows hseed).2.1)
    · exact .inl rfl
    · rw [State.install]
      split
      · exact .inl rfl
      · split <;> exact .inl rfl
    · exact .inl rfl
    · rw [State.passGate]
      dsimp only
      split
      · split <;> exact .inl rfl
      · exact .inl rfl
    · rw [State.lookUp]
      split
      · exact .inl rfl
      · split <;> exact .inl rfl
    · rename_i i command gate
      have hcommits : Commits s (s.commitActivation t i command gate env) command.version :=
        commitActivation_commits h
      cases hcommits with
      | unchanged _ hsuccession => exact .inl hsuccession
      | succeeds _ hstored hnew _ hsuccession =>
        exact .inr (.inr ⟨t, env, i, command, gate, rfl, hcall, hstored, hnew, hsuccession⟩)

/-- An undisturbed activation was evaluated under the version it replaces. -/
theorem gated_of_undisturbed (h : Inv platform s) {label : Label ι} (hun : Undisturbed s label) :
    Gated platform s label := by
  intro s' hstep version hbecomes replaced hreplaced hactive
  obtain ⟨hlast', hlast⟩ := (becomes_iff h (h.step hstep).1).mp hbecomes
  have hincumbent : s.succession.getLast? = some replaced.version :=
    (h.succeeds.isActive_iff hreplaced).mp hactive
  obtain hsame | hnone | ⟨t, env, i, command, gate, rfl, hcall, hstored, hnew, hsuccession⟩ :=
    step_succession h hstep
  · exact absurd (hsame ▸ hlast') hlast
  · rw [hnone] at hincumbent
    cases hincumbent
  obtain rfl : command.version = version := by
    rw [hsuccession, List.getLast?_concat] at hlast'
    exact Option.some.inj hlast'
  obtain ⟨hgate, hallow⟩ : Gate platform s command gate ∧ gate.decision.decision = .allow :=
    h.calls _ (List.mem_of_getElem? hcall)
  have hreadAt := hun t env i command gate rfl hcall ((any_isDraft_iff h).mpr ⟨hstored, hnew⟩)
  have hversion : gate.loaded.value.version = replaced.version :=
    hgate.loaded.readAt.version_eq (hreadAt ▸ ReadAt.last hincumbent)
  obtain ⟨row, hrow, hrowVersion, hrowBody⟩ := hgate.loaded.holds
  obtain rfl := h.succeeds.eq_of_version hrow hreplaced (hrowVersion.trans hversion)
  refine ⟨t, env, i, command, gate, rfl, hcall, rfl, hgate.request, hallow, hversion, ?_⟩
  rw [hgate.request, hrowBody]
  exact hgate.decision

/-- An activation that replaces a version it was evaluated under is undisturbed. -/
theorem undisturbed_of_gated (h : Inv platform s) {label : Label ι}
    (hgated : Gated platform s label) : Undisturbed s label := by
  rintro t env i command gate rfl hcall hdraft
  obtain ⟨hstored, hnew⟩ := (any_isDraft_iff h).mp hdraft
  obtain ⟨hgate, -⟩ : Gate platform s command gate ∧ gate.decision.decision = .allow :=
    h.calls _ (List.mem_of_getElem? hcall)
  obtain ⟨incumbent, hlast⟩ := exists_incumbent hgate
  obtain ⟨replaced, hreplaced, rfl, hactive⟩ := h.succeeds.exists_active hlast
  have hstep : step platform s (.resume t env) =
      some (s.commitActivation t i command gate env) := by
    rw [step, State.resume, hcall]
  have hlast' : (s.commitActivation t i command gate env).succession.getLast? =
      some command.version := by
    have hnot : ¬ s.isInForce command.version = true := fun hin =>
      hnew (List.mem_of_getLast? ((isInForce_iff h).mp hin))
    rw [State.commitActivation, h.succeeds.activate_draft hstored hnew]
    simp only [if_neg hnot]
    exact List.getLast?_concat
  have hbecomes : Becomes s (s.commitActivation t i command gate env) command.version := by
    refine (becomes_iff h (h.step hstep).1).mpr ⟨hlast', fun hold => ?_⟩
    exact hnew (List.mem_of_getLast? hold)
  obtain ⟨t', env', i', command', gate', hlabel, hcall', -, -, -, hversion, -⟩ :=
    hgated _ hstep _ hbecomes replaced hreplaced hactive
  obtain ⟨rfl, rfl⟩ := Label.resume.inj hlabel
  have hsame := hcall.symm.trans hcall'
  obtain ⟨rfl, rfl⟩ := Call.activating.inj (Prod.mk.inj (Option.some.inj hsame)).2
  exact ReadAt.readAt_eq h.succeeds.once hgate.loaded.readAt (hversion ▸ ReadAt.last hlast)

/-! ## Runs -/

/-- The store of a later state of a run. -/
theorem run_extends (h : Inv platform s) {labels : List (Label ι)}
    (hrun : Transition.run (step platform) s labels = some s') :
    Inv platform s' ∧ Extends s s' :=
  ⟨Transition.run_invariant (fun h hstep => (h.step hstep).1) h hrun,
    Transition.run_mono (fun _ => Extends.of_eq rfl rfl) Extends.trans
      (fun {_ _ _} h hstep => (Inv.step h hstep).1) (fun {_ _ _} h hstep => (Inv.step h hstep).2)
      h hrun⟩

def baselineRow (platform : Platform) (stamp : Stamp) : StoredPolicy :=
  storedAs platform sentinelBaselinePolicy .active bootstrapAuthor (some stamp.now) stamp

theorem seedBaselineOnce_nil (stamp : Stamp) :
    seedBaselineOnce platform [] stamp = .ok [baselineRow platform stamp] := by
  rw [seedBaselineOnce, assertValidPolicy, if_pos validate_sentinelBaselinePolicy]
  rfl

theorem countP_isActive_of_seeds (h : Inv platform s) {label : Label ι} (hseeds : Seeds s label)
    {s₁ s₂ : State ι} (hstep : step platform s label = some s₁) {later : List (Label ι)}
    (hrun : Transition.run (step platform) s₁ later = some s₂) :
    s₂.rows.countP (·.isActive) = 1 := by
  obtain ⟨hempty, t, env, i, activation, rfl, hcall⟩ := hseeds
  have hnonempty : s₁.succession ≠ [] := by
    rw [step, State.resume, hcall] at hstep
    cases hstep
    rw [State.seed, hempty, seedBaselineOnce_nil]
    simp
  obtain ⟨h₂, hext⟩ := run_extends (h.step hstep).1 hrun
  refine h₂.succeeds.countP_isActive fun hnone => hnonempty ?_
  exact List.prefix_nil.mp (hnone ▸ hext.succession)

/-- **The constitution gates its own replacement** exactly in the runs whose activations are
    undisturbed. -/
theorem gatesItsReplacement_iff {labels : List (Label ι)} :
    GatesItsReplacement platform labels ↔
      Transition.RunAll (step platform) Undisturbed .init labels := by
  have hgated : Transition.RunAll (step platform) (Gated platform) .init labels ↔
      Transition.RunAll (step platform) Undisturbed .init labels :=
    Transition.runAll_congr (fun h hstep => (Inv.step h hstep).1)
      (fun h => ⟨undisturbed_of_gated h, gated_of_undisturbed h⟩) Inv.init
  refine ⟨fun h => hgated.mp h.gated, fun h => ⟨hgated.mpr h, ?_, ?_⟩⟩
  · intro earlier label later rest s₀ s₁ s₂ _ hearlier hseeds hstep hlater
    exact countP_isActive_of_seeds (inv_of_run hearlier) hseeds hstep hlater
  · intro earlier later rest s₁ s₂ _ hearlier hlater row hrow hretired row' hrow' hversion
    have h₁ := inv_of_run hearlier
    obtain ⟨h₂, hext⟩ := run_extends h₁ hlater
    exact not_active_of_retired h₁ h₂ hext hrow hretired hrow' hversion

end Steps

/-! One instance boots, two drafts are stored, and two activations pass their gates before either
of them commits: the second one replaces the first draft, which no gate was evaluated under. -/

def plainPlatform : Platform := ⟨⟨id, id⟩, Policy.version⟩

def plainEnv : Env := ⟨⟨"row", 0⟩, "entry", "trace"⟩

def bootRun : List (Label Nat) :=
  [.reload 0, .resume 0 plainEnv, .resume 0 plainEnv, .resume 0 plainEnv]

def loadedBaseline : Dated LoadedPolicy :=
  ⟨⟨sentinelBaselinePolicy, sentinelBaselinePolicy.version, sentinelBaselinePolicy.version,
    bootstrapAuthor, some 0⟩, 1⟩

def booted : State Nat :=
  ⟨[baselineRow plainPlatform plainEnv.stamp], [sentinelBaselinePolicy.version], [],
    Function.update (fun _ => none) 0 (some loadedBaseline), [(0, .finished .loaded)]⟩

/-- A row that the service wrote of a coherent policy is loaded. -/
theorem loadStored_of_valid {platform : Platform} {row : StoredPolicy}
    (hshape : row.body.shapeIssues = []) (hvalid : row.body.validate = [])
    (hhash : platform.policyContentSha256 row.body = row.contentSha256)
    (hversion : row.body.version = row.version) :
    loadStored platform row = .ok
      ⟨row.body, row.version, row.contentSha256, row.createdBy, row.activatedAt⟩ := by
  have hparse : parsePolicy row.body = .ok row.body := if_pos hshape
  have hassert : assertValidPolicy row.body = .ok row.body := if_pos hvalid
  simp only [loadStored, hparse, hassert, bind, Except.bind, hhash, hversion, ne_eq,
    not_true_eq_false, if_false]
  rfl

theorem loadStored_baselineRow :
    loadStored plainPlatform (baselineRow plainPlatform plainEnv.stamp) =
      .ok loadedBaseline.value := by
  have hshape : sentinelBaselinePolicy.shapeIssues = [] := by decide
  exact loadStored_of_valid hshape validate_sentinelBaselinePolicy rfl rfl

theorem seed_of_ok {ι : Type} {platform : Platform} {s : State ι} {t : ℕ} {i : ι}
    {activation : Option Activation} {env : Env} {rows : List StoredPolicy}
    (h : seedBaselineOnce platform s.rows env.stamp = .ok rows) :
    s.seed platform t i activation env =
      { s.next t i (.reading activation) with
        rows
        succession :=
          if s.rows.length > 0 then s.succession else s.succession ++ rows.map (·.version) } := by
  rw [State.seed, h]

theorem install_of_ok {ι : Type} [DecidableEq ι] {platform : Platform} {s : State ι} {t : ℕ} {i : ι}
    {readAt : ℕ} {row : StoredPolicy} {loaded : LoadedPolicy}
    (h : loadStored platform row = .ok loaded) :
    s.install platform t i none ⟨some row, readAt⟩ =
      { s.next t i (.finished .loaded) with
        loaded := Function.update s.loaded i (some ⟨loaded, readAt⟩) } := by
  simp only [State.install, h]

theorem run_boot : Transition.run (step plainPlatform) .init bootRun = some booted := by
  let started : State Nat := State.init.start 0 (.seeding none)
  let seeded : State Nat :=
    ⟨[baselineRow plainPlatform plainEnv.stamp], [sentinelBaselinePolicy.version], [],
      fun _ => none, [(0, .reading none)]⟩
  let read : State Nat :=
    { seeded with
      calls := [(0, .installing none ⟨some (baselineRow plainPlatform plainEnv.stamp), 1⟩)] }
  have hseed : started.seed plainPlatform 0 0 none plainEnv = seeded :=
    seed_of_ok (seedBaselineOnce_nil plainEnv.stamp)
  have hinstall : read.install plainPlatform 0 0 none
      ⟨some (baselineRow plainPlatform plainEnv.stamp), 1⟩ = booted :=
    install_of_ok loadStored_baselineRow
  exact Transition.run_cons_eq_some.mpr ⟨started, rfl, Transition.run_cons_eq_some.mpr
    ⟨seeded, congrArg some hseed, Transition.run_cons_eq_some.mpr
      ⟨read, rfl, Transition.run_cons_eq_some.mpr ⟨booted, congrArg some hinstall, rfl⟩⟩⟩⟩

def draftPolicy (version : String) : Policy := ⟨version, [], [], [], []⟩

def stewardCommand (version : String) : ActivatePolicyCommand where
  version
  actor := ⟨"steward", ["constitution.steward"], platformOrganisationId, some 5, some "reform",
    .trusted⟩
  approvals := [⟨"first", "platform.admin", ""⟩, ⟨"second", "security.officer", ""⟩]
  approverRoles := [("first", ["platform.admin"]), ("second", ["security.officer"])]
  traceId := none

def overlappingRun : List (Label Nat) :=
  [.createDraft (draftPolicy "a") "steward" plainEnv,
    .createDraft (draftPolicy "b") "steward" plainEnv,
    .activatePolicy 0 (stewardCommand "a") plainEnv,
    .activatePolicy 0 (stewardCommand "b") plainEnv,
    .resume 1 plainEnv, .resume 1 plainEnv, .resume 2 plainEnv, .resume 2 plainEnv,
    .resume 1 plainEnv]

def aboutToActivate : ℕ × Call → Option (String × ℕ)
  | (_, .activating command gate) => some (command.version, gate.loaded.readAt)
  | _ => none

theorem overlapping_not_gated :
    ¬ ∀ labels : List (Label Nat), GatesItsReplacement plainPlatform labels := by
  intro h
  have hrows : (Transition.run (step plainPlatform) booted overlappingRun).map (fun s =>
      (s.succession.length, s.calls[2]?.bind aboutToActivate,
        (findByVersion s.rows "b").any (·.status = .draft))) =
      some (2, some ("b", 1), true) := by decide
  obtain ⟨s, hrun, hrow⟩ := Option.map_eq_some_iff.mp hrows
  obtain ⟨hlength, hrest⟩ := Prod.mk.inj hrow
  obtain ⟨hcall, hdraft⟩ := Prod.mk.inj hrest
  have hreached : Transition.run (step plainPlatform) .init (bootRun ++ overlappingRun) = some s :=
    Transition.run_append_eq_some.mpr ⟨booted, run_boot, hrun⟩
  have hgated := (h (bootRun ++ overlappingRun ++ [.resume 2 plainEnv])).gated
  have hlast : Gated plainPlatform s (.resume 2 plainEnv) := (hgated.append_right hreached).1
  obtain ⟨⟨i, call⟩, hget, habout⟩ := Option.bind_eq_some_iff.mp hcall
  cases call with
  | activating command gate =>
    obtain ⟨hversion, hreadAt⟩ := Prod.mk.inj (Option.some.inj habout)
    have hun := undisturbed_of_gated (inv_of_run hreached) hlast 2 plainEnv i command gate rfl hget
      (hversion ▸ hdraft)
    omega
  | _ => cases habout

end Sentinel.Constitution
