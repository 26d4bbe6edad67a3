import Mathlib.Tactic.ByContra
import Sentinel.ForStd.Transition
import Sentinel.Native.DeviceTrust

/-! # Controlled restoration along a path of trust transitions

A restricted device is one in SUSPICIOUS or QUARANTINED.  The evaluator asks for a
controlled restoration exactly on the edges that lead straight from there to
DEGRADED or TRUSTED. -/

namespace Sentinel.DeviceTrust

open Transition

/-- The step was decided with the restoration capability, on an attestation standing
    that is neither NEGATIVE nor INELIGIBLE. -/
def ControlledRestoration (basis : TransitionBasis) : Prop :=
  (∃ decision, basis.controlledRestoration = some decision ∧
    decision.capability = deviceTrustRestorationCapability) ∧
  basis.attestationStanding ≠ .negative ∧ basis.attestationStanding ≠ .ineligible

/-- SUSPICIOUS or QUARANTINED. -/
def Restricted (trust : Trust) : Prop := trust ∈ deviceTrustRestorationRequiredFrom

/-- DEGRADED or TRUSTED. -/
def InService (trust : Trust) : Prop := trust ∈ deviceTrustUpwardTargets

instance (trust : Trust) : Decidable (Restricted trust) :=
  inferInstanceAs (Decidable (trust ∈ deviceTrustRestorationRequiredFrom))

instance (trust : Trust) : Decidable (InService trust) :=
  inferInstanceAs (Decidable (trust ∈ deviceTrustUpwardTargets))

/-- Somewhere on the path of targets a restricted device goes straight into service. -/
def ClimbsDirectly : Trust → List Trust → Prop
  | _, [] => False
  | source, target :: targets =>
    (Restricted source ∧ InService target) ∨ ClimbsDirectly target targets

/-! ## One step -/

variable {transition : TrustTransition} {source target : Trust}

/-- An allowed step ends in the state it asked for. -/
theorem trustStep_eq_some {trust trust' : Trust} : trustStep trust transition = some trust' ↔
      canTransitionDeviceTrust trust transition.target transition.basis = true ∧
        transition.target = trust' := by
  simp only [trustStep, Option.ite_none_right_eq_some, Option.some.injEq]

/-- What is left when `restorationRefusal` finds nothing missing. -/
theorem controlledRestoration_of_not_refused {basis : TransitionBasis}
    (h : restorationRefusal basis = none) : ControlledRestoration basis := by
  unfold restorationRefusal at h
  split at h
  · cases h
  next decision hdecision =>
    split at h
    · cases h
    next hcapability =>
      split at h
      · cases h
      · split at h
        · cases h
        next hstanding =>
          rw [not_or] at hstanding
          exact ⟨⟨decision, hdecision, Decidable.not_not.mp hcapability⟩, hstanding⟩

/-- Straight out of SUSPICIOUS or QUARANTINED into service: the step is a controlled
    restoration. -/
theorem trustStep_direct (hstep : trustStep source transition = some target)
    (hsource : Restricted source) (htarget : InService target) :
    ControlledRestoration transition.basis := by
  obtain ⟨hallowed, rfl⟩ := trustStep_eq_some.mp hstep
  apply controlledRestoration_of_not_refused
  have hup : deviceTrustUpwardTargets.contains transition.target = true :=
    List.contains_iff_mem.mpr htarget
  have hfrom : deviceTrustRestorationRequiredFrom.contains source = true :=
    List.contains_iff_mem.mpr hsource
  simp only [canTransitionDeviceTrust, decide_eq_true_eq, evaluateDeviceTrustTransition, hup,
    hfrom, Bool.not_true, Bool.false_eq_true, if_false, if_true] at hallowed
  -- of the checks in order, only the last one leaves the transition allowed
  split at hallowed
  · cases hallowed
  · split at hallowed
    · cases hallowed
    · split at hallowed
      · cases hallowed
      · exact (Option.or_eq_none_iff.mp hallowed).1

/-- A healthy device nobody has decided anything about. -/
def plainBasis : TransitionBasis where
  controlledRestoration := none
  attestationStanding := .current
  keyStorage := .hardwareBacked
  credentialContinuityIntact := true
  revoked := false
  previouslyEligible := true

theorem plainBasis_not_controlled : ¬ ControlledRestoration plainBasis := by
  rintro ⟨⟨decision, hdecision, -⟩, -⟩
  cases hdecision

/-- Every edge of the matrix that is not a direct climb is open to `plainBasis`. -/
theorem detour_plain (hedge : target ∈ allowedDeviceTrustTransitions source)
    (hdetour : ¬ (Restricted source ∧ InService target)) :
    trustStep source ⟨target, plainBasis⟩ = some target := by
  revert hedge hdetour
  cases source <;> cases target <;> decide

theorem mem_matrix_of_trustStep (hstep : trustStep source transition = some target) :
    transition.target ∈ allowedDeviceTrustTransitions source := by
  obtain ⟨hallowed, -⟩ := trustStep_eq_some.mp hstep
  by_contra hedge
  simp [canTransitionDeviceTrust, evaluateDeviceTrustTransition, hedge] at hallowed
  split at hallowed <;> cases hallowed

/-! ## Paths -/

/-- A path that climbs directly has a controlled restoration among its steps. -/
theorem exists_controlled_of_climbs {final : Trust} {path : List TrustTransition}
    (hrun : run trustStep source path = some final)
    (hclimbs : ClimbsDirectly source (path.map TrustTransition.target)) :
    ∃ step ∈ path, ControlledRestoration step.basis := by
  induction path generalizing source with
  | nil => exact hclimbs.elim
  | cons step path ih =>
    obtain ⟨next, hstep, hrest⟩ := run_cons_eq_some.mp hrun
    obtain ⟨-, rfl⟩ := trustStep_eq_some.mp hstep
    rcases hclimbs with ⟨hsource, htarget⟩ | hclimbs
    · exact ⟨step, List.mem_cons_self, trustStep_direct hstep hsource htarget⟩
    · obtain ⟨later, hmem, hcontrolled⟩ := ih hrest hclimbs
      exact ⟨later, List.mem_cons_of_mem _ hmem, hcontrolled⟩

/-- The same path with nothing decided at any step. -/
def withoutDecisions (path : List TrustTransition) : List TrustTransition :=
  path.map fun step => ⟨step.target, plainBasis⟩

/-- A path that never climbs directly is allowed without any decision. -/
theorem run_withoutDecisions {final : Trust} {path : List TrustTransition}
    (hrun : run trustStep source path = some final)
    (hclimbs : ¬ ClimbsDirectly source (path.map TrustTransition.target)) :
    run trustStep source (withoutDecisions path) = some final := by
  induction path generalizing source with
  | nil => exact hrun
  | cons step path ih =>
    obtain ⟨next, hstep, hrest⟩ := run_cons_eq_some.mp hrun
    have hedge := mem_matrix_of_trustStep hstep
    obtain ⟨-, rfl⟩ := trustStep_eq_some.mp hstep
    obtain ⟨hdetour, hlater⟩ := not_or.mp hclimbs
    exact run_cons_eq_some.mpr ⟨step.target, detour_plain hedge hdetour, ih hrest hlater⟩

/-- Whoever takes a path needs a controlled restoration, whatever the bases of its
    steps, exactly when it goes straight from SUSPICIOUS or QUARANTINED into DEGRADED
    or TRUSTED at some point. -/
theorem restoration_unavoidable_iff {source final : Trust} {path : List TrustTransition}
    (hrun : run trustStep source path = some final) :
    (∀ path' : List TrustTransition,
        path'.map TrustTransition.target = path.map TrustTransition.target →
        run trustStep source path' = some final →
        ∃ step ∈ path', ControlledRestoration step.basis) ↔
      ClimbsDirectly source (path.map TrustTransition.target) := by
  constructor
  · intro hcontrolled
    by_contra hclimbs
    have htargets : (withoutDecisions path).map TrustTransition.target =
        path.map TrustTransition.target := by
      simp [withoutDecisions, Function.comp_def]
    obtain ⟨step, hmem, hstep⟩ :=
      hcontrolled _ htargets (run_withoutDecisions hrun hclimbs)
    obtain ⟨original, -, rfl⟩ := List.mem_map.mp hmem
    exact plainBasis_not_controlled hstep
  · intro hclimbs path' htargets hrun'
    exact exists_controlled_of_climbs hrun' (htargets ▸ hclimbs)

/-- A decision by somebody who holds the capability, on a healthy device. -/
def restoredBasis : TransitionBasis :=
  { plainBasis with
    controlledRestoration := some ⟨"supervisor", deviceTrustRestorationCapability, "t0"⟩ }

theorem restoration_unavoidable_quarantined :
    run trustStep .quarantined [⟨.suspicious, plainBasis⟩, ⟨.trusted, restoredBasis⟩] =
        some .trusted ∧
      ∀ path' : List TrustTransition,
        path'.map TrustTransition.target = [.suspicious, .trusted] →
        run trustStep .quarantined path' = some .trusted →
        ∃ step ∈ path', ControlledRestoration step.basis :=
  have hrun : run trustStep .quarantined
      [⟨.suspicious, plainBasis⟩, ⟨.trusted, restoredBasis⟩] = some .trusted := by decide
  ⟨hrun, (restoration_unavoidable_iff hrun).mpr
    (Or.inr (Or.inl ⟨by decide, by decide⟩))⟩

/-- QUARANTINED to OFFLINE to DEGRADED is allowed with nothing decided at all, even on
    a NEGATIVE attestation. -/
theorem restoration_bypassed_offline :
    ¬ ∀ (source final : Trust) (path : List TrustTransition),
      Restricted source ∨ source = .compromised → InService final →
      run trustStep source path = some final →
      ∃ step ∈ path, ControlledRestoration step.basis := by
  intro hclaim
  have hbasis : ¬ ControlledRestoration { plainBasis with attestationStanding := .negative } :=
    fun hcontrolled => hcontrolled.2.1 rfl
  obtain ⟨step, hmem, hstep⟩ := hclaim .quarantined .degraded
    [⟨.offline, { plainBasis with attestationStanding := .negative }⟩,
      ⟨.degraded, { plainBasis with attestationStanding := .negative }⟩]
    (Or.inl (by decide)) (by decide) (by decide)
  simp only [List.mem_cons, List.not_mem_nil, or_false] at hmem
  rcases hmem with rfl | rfl <;> exact hbasis hstep

/-! ## Changes by the service -/

/-- A request to change the trust, with the device as it was read before the transaction. -/
structure ChangeAttempt where
  principal : TrustPrincipal
  device : DeviceRow
  target : Trust
  now : String

/-- The row after the request: a refusal leaves it. -/
def attempt (row : DeviceRow) (change : ChangeAttempt) : DeviceRow :=
  match changeDeviceTrust change.principal change.device row change.target change.now with
  | .ok changed => changed
  | .error _ => row

theorem of_not_refused {source target : Trust} {basis : TransitionBasis}
    (h : evaluateDeviceTrustTransition source target basis = none) :
    source ≠ .compromised ∧
      (deviceTrustUpwardTargets.contains target = true → basis.revoked = false) := by
  unfold evaluateDeviceTrustTransition at h
  split at h
  · cases h
  rename_i hterminal
  refine ⟨fun heq => hterminal (heq ▸ rfl), fun hupward => ?_⟩
  split at h
  · cases h
  rw [hupward] at h
  by_contra hrevoked
  rw [Bool.not_eq_false] at hrevoked
  rw [hrevoked] at h
  cases h

/-- What a change that is not refused was decided on. -/
theorem changeDeviceTrust_eq_ok {principal : TrustPrincipal} {device row changed : DeviceRow}
    {target : Trust} {now : String}
    (h : changeDeviceTrust principal device row target now = .ok changed) :
    (changed.trust = target ∧ changed.revokedAt = row.revokedAt ∧
      changed.currentKey = row.currentKey) ∧ row.trust ≠ .compromised ∧
      (Restricted row.trust → principal.mayRestore = true) ∧
      (InService target →
        row.revokedAt.isNone = true ∧ credentialContinuityIntact row.currentKey = true) := by
  unfold changeDeviceTrust at h
  split at h
  · cases h
  split at h
  · cases h
  generalize hsubject : (if deviceTrustUpwardTargets.contains target then row else device) =
    subject at h
  dsimp only at h
  split at h
  · cases h
  rename_i hdecided
  unfold applyTrustTransition at h
  split at h
  · cases h
  rename_i hallowed
  split at h
  · cases h
  rename_i hsame
  cases h
  obtain ⟨hterminal, hrevoked⟩ := of_not_refused hallowed
  rw [← not_not.mp hsame] at hterminal hdecided
  refine ⟨⟨rfl, rfl, rfl⟩, hterminal, fun hrestricted => ?_, fun hupward => ?_⟩
  · by_contra hmay
    refine hdecided (Bool.and_eq_true_iff.mpr ⟨List.contains_iff_mem.mpr hrestricted, ?_⟩)
    rw [Bool.eq_false_iff.mpr hmay, Bool.not_false]
  · have hupward := List.contains_iff_mem.mpr hupward
    obtain rfl := (if_pos hupward).symm.trans hsubject
    have hbasis := hrevoked hupward
    rw [DeviceRow.basis, Bool.or_eq_false_iff, Bool.not_eq_false'] at hbasis
    exact ⟨by rw [← Option.not_isSome, hbasis.1]; rfl, hbasis.2⟩

/-- **What the service confines**, whatever is asked of it and on whatever earlier readings: a
COMPROMISED device stays as it is; without the restoration capability so does a restricted one; and
a revoked device, or one without a current key, does not come into service. -/
theorem changes_confined (changes : List ChangeAttempt) (row : DeviceRow) :
    (row.trust = .compromised → changes.foldl attempt row = row) ∧
    (Restricted row.trust → (∀ change ∈ changes, change.principal.mayRestore = false) →
      changes.foldl attempt row = row) ∧
    (row.revokedAt.isNone = false ∨ credentialContinuityIntact row.currentKey = false →
      InService (changes.foldl attempt row).trust →
        (changes.foldl attempt row).trust = row.trust) := by
  induction changes generalizing row with
  | nil => exact ⟨fun _ => rfl, fun _ _ => rfl, fun _ _ => rfl⟩
  | cons change changes ih =>
    rw [List.foldl_cons]
    cases hchange : changeDeviceTrust change.principal change.device row change.target change.now with
    | error refusal =>
      have hsame : attempt row change = row := by rw [attempt, hchange]
      rw [hsame]
      exact ⟨(ih row).1, fun h hall => (ih row).2.1 h fun other hother =>
        hall other (List.mem_cons_of_mem _ hother), (ih row).2.2⟩
    | ok changed =>
      have hchanged : attempt row change = changed := by rw [attempt, hchange]
      obtain ⟨⟨htrust, hrevoked, hkey⟩, hlive, hmay, hservice⟩ := changeDeviceTrust_eq_ok hchange
      rw [hchanged]
      refine ⟨fun h => absurd h hlive, fun h hall => ?_, fun hwithdrawn hfinal => ?_⟩
      · cases (hmay h).symm.trans (hall change (List.mem_cons_self ..))
      · rw [← hrevoked, ← hkey] at hwithdrawn
        have hstays := (ih changed).2.2 hwithdrawn hfinal
        rw [hstays, htrust] at hfinal
        rw [hrevoked, hkey, (hservice hfinal).1, (hservice hfinal).2] at hwithdrawn
        cases hwithdrawn <;> contradiction

end Sentinel.DeviceTrust
