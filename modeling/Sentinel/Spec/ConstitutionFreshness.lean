import Sentinel.Spec.ConstitutionAlteration

/-! # Evaluations under a retired constitution

An instance decides under the version that was ACTIVE when it last read the store.  That version has
been retired by an activation that has returned exactly when the first one to replace a version
after that reading has returned. -/

namespace Sentinel.Constitution

variable {ι : Type} {platform : Platform}

def State.returned (s : State ι) : List Activation :=
  s.calls.filterMap fun
    | (_, .finished (.activated activation _)) => some activation
    | _ => none

/-- The evaluation that a step starts. -/
def State.evaluationOf (platform : Platform) (s : State ι) : Label ι → Option Evaluation
  | .evaluate i request traceId env =>
    (s.loaded i).map (evaluateUnder platform · request traceId env)
  | .activatePolicy i command env =>
    (s.loaded i).map (evaluateUnder platform · (activationRequest command) command.traceId env)
  | _ => none

/-- An evaluation that starts is not decided under a version that a returned activation
    retired. -/
def DecidesInForce (platform : Platform) (s : State ι) (label : Label ι) : Prop :=
  ∀ evaluation ∈ s.evaluationOf platform label, ∀ activation ∈ s.returned,
    evaluation.decision.policyVersion ∉ activation.retired

/-- The first activation that replaced a version after the evaluating instance last read the store
    has not returned. -/
def Fresh (platform : Platform) (s : State ι) (label : Label ι) : Prop :=
  ∀ evaluation ∈ s.evaluationOf platform label, ∀ activation ∈ s.returned,
    activation.retired ≠ [] → activation.position ≠ evaluation.loaded.readAt

theorem committed_of_returned {s : State ι} (h : Inv platform s) {activation : Activation}
    (hmem : activation ∈ s.returned) : Committed s activation := by
  obtain ⟨⟨i, call⟩, hcall, hreturned⟩ := List.mem_filterMap.mp hmem
  have hsound := h.calls _ hcall
  split at hreturned
  · rename_i heq
    cases heq
    cases hreturned
    exact hsound
  · cases hreturned

/-- An evaluation is decided under the version its instance has loaded. -/
theorem loaded_of_evaluationOf {s : State ι} (h : Inv platform s) {label : Label ι}
    {evaluation : Evaluation} (heval : evaluation ∈ s.evaluationOf platform label) :
    ReadAt s.succession evaluation.loaded.readAt evaluation.decision.policyVersion := by
  have hunder {i : ι} {request : Request} {traceId : Option String} {env : Env}
      (hmap : (s.loaded i).map (evaluateUnder platform · request traceId env) = some evaluation) :
      ReadAt s.succession evaluation.loaded.readAt evaluation.decision.policyVersion := by
    obtain ⟨loaded, hloaded, rfl⟩ := Option.map_eq_some_iff.mp hmap
    have hread := h.loaded i loaded hloaded
    show ReadAt s.succession loaded.readAt loaded.value.policy.version
    rw [hread.version]
    exact hread.readAt
  cases label with
  | evaluate i request traceId env => exact hunder heval
  | activatePolicy i command env => exact hunder heval
  | _ => cases heval

theorem decidesInForce_iff_fresh {s : State ι} (h : Inv platform s) {label : Label ι} :
    DecidesInForce platform s label ↔ Fresh platform s label := by
  refine forall_congr' fun evaluation => forall_congr' fun heval => forall_congr' fun activation =>
    forall_congr' fun hmem => ?_
  have hread := loaded_of_evaluationOf h heval
  obtain hnothing | ⟨version, hretiredAt, hretired⟩ := committed_of_returned h hmem
  · simp [hnothing]
  rw [hretired, List.mem_singleton]
  constructor
  · rintro hother - hposition
    exact hother (hread.version_eq (hposition ▸ hretiredAt))
  · rintro hfirst rfl
    exact hfirst (List.cons_ne_nil _ _) (hretiredAt.readAt_eq h.succeeds.once hread)

/-- **No instance decides under a retired constitution** exactly in the runs whose evaluations are
    fresh. -/
theorem decidesInForce_iff [DecidableEq ι] {labels : List (Label ι)} :
    Transition.RunAll (step platform) (DecidesInForce platform) .init labels ↔
      Transition.RunAll (step platform) (Fresh platform) .init labels :=
  Transition.runAll_congr (fun h hstep => (Inv.step h hstep).1)
    (fun h => decidesInForce_iff_fresh h) Inv.init

/-! Two instances boot, an activation on the first one returns, and the second one still decides
under the baseline. -/

def secondBoot : List (Label Nat) :=
  [.reload 1, .resume 1 plainEnv, .resume 1 plainEnv, .resume 1 plainEnv]

def bothBooted : State Nat :=
  { booted with
    loaded := Function.update booted.loaded 1 (some loadedBaseline)
    calls := [(0, .finished .loaded), (1, .finished .loaded)] }

theorem run_secondBoot : Transition.run (step plainPlatform) booted secondBoot =
    some bothBooted := by
  let read : State Nat :=
    { booted with
      calls := [(0, .finished .loaded),
        (1, .installing none ⟨some (baselineRow plainPlatform plainEnv.stamp), 1⟩)] }
  have hinstall : read.install plainPlatform 1 1 none
      ⟨some (baselineRow plainPlatform plainEnv.stamp), 1⟩ = bothBooted :=
    install_of_ok loadStored_baselineRow
  exact Transition.run_cons_eq_some.mpr ⟨_, rfl, Transition.run_cons_eq_some.mpr
    ⟨_, rfl, Transition.run_cons_eq_some.mpr
      ⟨read, rfl, Transition.run_cons_eq_some.mpr ⟨_, congrArg some hinstall, rfl⟩⟩⟩⟩

/-- The first instance activates the draft. -/
def reformRun : List (Label Nat) :=
  [.createDraft (draftPolicy "a") "steward" plainEnv,
    .activatePolicy 0 (stewardCommand "a") plainEnv, .resume 2 plainEnv, .resume 2 plainEnv,
    .resume 2 plainEnv, .resume 2 plainEnv, .resume 2 plainEnv, .resume 2 plainEnv]

def lateEvaluation : Label Nat :=
  .evaluate 1 (activationRequest (stewardCommand "a")) none plainEnv

theorem second_instance_stale :
    ¬ ∀ labels : List (Label Nat),
      Transition.RunAll (step plainPlatform) (DecidesInForce plainPlatform) .init labels := by
  intro h
  have hrows : (Transition.run (step plainPlatform) bothBooted reformRun).map (fun s =>
      (s.returned.map fun activation => (activation.retired.isEmpty, activation.position),
        (s.evaluationOf plainPlatform lateEvaluation).map (·.loaded.readAt))) =
      some ([(false, 1)], some 1) := by decide
  obtain ⟨s, hrun, hrow⟩ := Option.map_eq_some_iff.mp hrows
  obtain ⟨hreturned, hlate⟩ := Prod.mk.inj hrow
  have hbooted : Transition.run (step plainPlatform) .init (bootRun ++ secondBoot) =
      some bothBooted := Transition.run_append_eq_some.mpr ⟨booted, run_boot, run_secondBoot⟩
  have hreached : Transition.run (step plainPlatform) .init (bootRun ++ secondBoot ++ reformRun) =
      some s := Transition.run_append_eq_some.mpr ⟨bothBooted, hbooted, hrun⟩
  have hlast : DecidesInForce plainPlatform s lateEvaluation :=
    ((h (bootRun ++ secondBoot ++ reformRun ++ [lateEvaluation])).append_right hreached).1
  have hfresh := (decidesInForce_iff_fresh (inv_of_run hreached)).mp hlast
  obtain ⟨evaluation, heval, hreadAt⟩ := Option.map_eq_some_iff.mp hlate
  obtain ⟨activation, hone, hactivation⟩ := List.map_eq_singleton_iff.mp hreturned
  obtain ⟨hretired, hposition⟩ := Prod.mk.inj hactivation
  refine hfresh evaluation heval activation (hone ▸ List.mem_singleton.mpr rfl) ?_
    (hposition.trans hreadAt.symm)
  rintro hnone
  rw [hnone] at hretired
  cases hretired

end Sentinel.Constitution
