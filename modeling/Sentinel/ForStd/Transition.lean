import Mathlib.Logic.Relation

/-! # Executable transition systems

A system is a partial step function `step : σ → α → Option σ`: the label says
which step is taken and carries every choice the environment makes in it, and
`none` means that the step is not enabled.  This file collects what is true of
every such system:

* `run` executes a list of labels, `Reaches` hides the labels;
* `run_invariant`    what one step preserves, every run preserves
* `run_mono`         a reflexive, transitive relation that every step respects
                     relates the two ends of every run
* `runAll_invariant` the same for runs whose steps all meet a condition
* `runAll_trace_invariant`
                     the same for a state and the log of what its run has done

Nothing here mentions a particular system. -/

namespace Transition

variable {σ α : Type*} {step : σ → α → Option σ}

/-- Execute the labels in order; `none` as soon as one is not enabled. -/
def run (step : σ → α → Option σ) : σ → List α → Option σ
  | s, [] => some s
  | s, a :: as => (step s a).bind (run step · as)

@[simp] theorem run_nil (s : σ) : run step s [] = some s := rfl

theorem run_cons_eq_some {s s' : σ} {a : α} {as : List α} :
    run step s (a :: as) = some s' ↔ ∃ t, step s a = some t ∧ run step t as = some s' := by
  simp only [run, Option.bind_eq_some_iff]

/-- A run over `as ++ bs` is a run over `as` followed by one over `bs`. -/
theorem run_append_eq_some {s s' : σ} {as bs : List α} :
    run step s (as ++ bs) = some s' ↔ ∃ t, run step s as = some t ∧ run step t bs = some s' := by
  induction as generalizing s with
  | nil => simp
  | cons a as ih =>
    simp only [List.cons_append, run_cons_eq_some, ih]
    constructor
    · rintro ⟨t, hstep, u, hrun, hrest⟩
      exact ⟨u, ⟨t, hstep, hrun⟩, hrest⟩
    · rintro ⟨u, ⟨t, hstep, hrun⟩, hrest⟩
      exact ⟨t, hstep, u, hrun, hrest⟩

def Reaches (step : σ → α → Option σ) (s s' : σ) : Prop :=
  ∃ as, run step s as = some s'

theorem Reaches.refl (s : σ) : Reaches step s s := ⟨[], rfl⟩

theorem Reaches.trans {s t u : σ} (h₁ : Reaches step s t) (h₂ : Reaches step t u) :
    Reaches step s u := by
  obtain ⟨as, has⟩ := h₁
  obtain ⟨bs, hbs⟩ := h₂
  exact ⟨as ++ bs, run_append_eq_some.mpr ⟨t, has, hbs⟩⟩

theorem Reaches.single {s s' : σ} {a : α} (h : step s a = some s') : Reaches step s s' :=
  ⟨[a], run_cons_eq_some.mpr ⟨s', h, rfl⟩⟩

/-- The end of an executed run, computed. -/
theorem run_eq_some_getD {s : σ} {as : List α} (h : (run step s as).isSome = true) :
    run step s as = some ((run step s as).getD s) := by
  obtain ⟨t, ht⟩ := Option.isSome_iff_exists.mp h
  rw [ht, Option.getD_some]

theorem reaches_run_getD {s : σ} {as : List α} (h : (run step s as).isSome = true) :
    Reaches step s ((run step s as).getD s) :=
  ⟨as, run_eq_some_getD h⟩

/-! ## Invariants -/

/-- What every step preserves holds at the end of every run. -/
theorem run_invariant {inv : σ → Prop}
    (hstep : ∀ {s a s'}, inv s → step s a = some s' → inv s')
    {s s' : σ} {as : List α} (hs : inv s) (hrun : run step s as = some s') : inv s' := by
  induction as generalizing s with
  | nil => cases hrun; exact hs
  | cons a as ih =>
    obtain ⟨t, ht, hrest⟩ := run_cons_eq_some.mp hrun
    exact ih (hstep hs ht) hrest

theorem Reaches.invariant {inv : σ → Prop}
    (hstep : ∀ {s a s'}, inv s → step s a = some s' → inv s')
    {s s' : σ} (h : Reaches step s s') (hs : inv s) : inv s' :=
  let ⟨_, hrun⟩ := h
  run_invariant hstep hs hrun

/-- A preorder respected by every step from a state of the invariant relates the
    two ends of every run. -/
theorem run_mono {inv : σ → Prop} {r : σ → σ → Prop}
    (hrefl : ∀ s, r s s) (htrans : ∀ {s t u}, r s t → r t u → r s u)
    (hinv : ∀ {s a s'}, inv s → step s a = some s' → inv s')
    (hstep : ∀ {s a s'}, inv s → step s a = some s' → r s s')
    {s s' : σ} {as : List α} (hs : inv s) (hrun : run step s as = some s') : r s s' := by
  induction as generalizing s with
  | nil => cases hrun; exact hrefl _
  | cons a as ih =>
    obtain ⟨t, ht, hrest⟩ := run_cons_eq_some.mp hrun
    exact htrans (hstep hs ht) (ih (hinv hs ht) hrest)

/-! ## Runs whose steps all meet a condition -/

/-- Every step of the run meets `p` in the state it is taken from. -/
def RunAll (step : σ → α → Option σ) (p : σ → α → Prop) : σ → List α → Prop
  | _, [] => True
  | s, a :: as => p s a ∧ ∀ t, step s a = some t → RunAll step p t as

/-- What every step meeting `p` preserves holds at the end of every run whose
    steps all meet `p`. -/
theorem runAll_invariant {inv : σ → Prop} {p : σ → α → Prop}
    (hstep : ∀ {s a s'}, inv s → p s a → step s a = some s' → inv s')
    {s s' : σ} {as : List α} (hs : inv s) (hall : RunAll step p s as)
    (hrun : run step s as = some s') : inv s' := by
  induction as generalizing s with
  | nil => cases hrun; exact hs
  | cons a as ih =>
    obtain ⟨t, ht, hrest⟩ := run_cons_eq_some.mp hrun
    exact ih (hstep hs hall.1 ht) (hall.2 t ht) hrest

/-- Two conditions that agree in the states of an invariant hold in the same runs. -/
theorem runAll_congr {inv : σ → Prop} {p q : σ → α → Prop}
    (hstep : ∀ {s a s'}, inv s → step s a = some s' → inv s')
    (hpq : ∀ {s a}, inv s → (p s a ↔ q s a)) {s : σ} {as : List α} (hs : inv s) :
    RunAll step p s as ↔ RunAll step q s as := by
  induction as generalizing s with
  | nil => exact Iff.rfl
  | cons a as ih =>
    exact and_congr (hpq hs) (forall_congr' fun t => forall_congr' fun ht => ih (hstep hs ht))

/-- A condition on the labels alone. -/
theorem runAll_of_forall {p : α → Prop} {s : σ} {as : List α} (h : ∀ a ∈ as, p a) :
    RunAll step (fun _ a => p a) s as := by
  induction as generalizing s with
  | nil => exact trivial
  | cons a as ih =>
    exact ⟨h a (List.mem_cons_self ..), fun t _ => ih fun b hb => h b (List.mem_cons_of_mem _ hb)⟩

/-- The same, computed: a run can be checked step by step. -/
def runAllChecked (step : σ → α → Option σ) (check : σ → α → Bool) : σ → List α → Bool
  | _, [] => true
  | s, a :: as => check s a && (step s a).all fun t => runAllChecked step check t as

theorem runAll_of_checked {p : σ → α → Prop} {check : σ → α → Bool}
    (hcheck : ∀ s a, check s a = true → p s a) {s : σ} {as : List α}
    (h : runAllChecked step check s as = true) : RunAll step p s as := by
  induction as generalizing s with
  | nil => exact trivial
  | cons a as ih =>
    simp only [runAllChecked, Bool.and_eq_true] at h
    refine ⟨hcheck s a h.1, fun t ht => ih ?_⟩
    simpa [ht] using h.2

/-- A condition that the next step meets after every part of the run. -/
theorem runAll_of_prefixes {p : σ → α → Prop} {s : σ} {as : List α}
    (h : ∀ bs a cs t, as = bs ++ a :: cs → run step s bs = some t → p t a) :
    RunAll step p s as := by
  induction as generalizing s with
  | nil => exact trivial
  | cons a as ih =>
    refine ⟨h [] a as s rfl rfl, fun t ht => ih fun bs b cs u hsplit hrun => ?_⟩
    exact h (a :: bs) b cs u (by rw [hsplit]; rfl) (run_cons_eq_some.mpr ⟨t, ht, hrun⟩)

theorem RunAll.and {p q : σ → α → Prop} {s : σ} {as : List α} (hp : RunAll step p s as)
    (hq : RunAll step q s as) : RunAll step (fun s a => p s a ∧ q s a) s as := by
  induction as generalizing s with
  | nil => exact trivial
  | cons a as ih => exact ⟨⟨hp.1, hq.1⟩, fun t ht => ih (hp.2 t ht) (hq.2 t ht)⟩

theorem RunAll.append_left {p : σ → α → Prop} {s : σ} {as bs : List α}
    (h : RunAll step p s (as ++ bs)) : RunAll step p s as := by
  induction as generalizing s with
  | nil => exact trivial
  | cons a as ih => exact ⟨h.1, fun t ht => ih (h.2 t ht)⟩

theorem RunAll.append_right {p : σ → α → Prop} {s t : σ} {as bs : List α}
    (h : RunAll step p s (as ++ bs)) (hrun : run step s as = some t) : RunAll step p t bs := by
  induction as generalizing s with
  | nil => cases hrun; exact h
  | cons a as ih =>
    obtain ⟨u, hu, hrest⟩ := run_cons_eq_some.mp hrun
    exact ih (h.2 u hu) hrest

/-! ## Logs of runs -/

/-- What the steps of a run do, in order, by what one step does in its state. -/
def trace {β : Type*} (step : σ → α → Option σ) (out : σ → α → Option β) : σ → List α → List β
  | _, [] => []
  | s, a :: as => (out s a).toList ++ (step s a).elim [] (trace step out · as)

/-- What every step meeting `p` preserves of the state and the log so far holds at the end. -/
theorem runAll_trace_invariant {β : Type*} (out : σ → α → Option β) (inv : σ → List β → Prop)
    {p : σ → α → Prop}
    (hstep : ∀ {s log a s'}, inv s log → p s a → step s a = some s' →
      inv s' (log ++ (out s a).toList))
    {s s' : σ} {log : List β} {as : List α} (hs : inv s log) (hall : RunAll step p s as)
    (hrun : run step s as = some s') : inv s' (log ++ trace step out s as) := by
  induction as generalizing s log with
  | nil =>
    cases hrun
    rw [trace, List.append_nil]
    exact hs
  | cons a as ih =>
    obtain ⟨t, ht, hrest⟩ := run_cons_eq_some.mp hrun
    rw [trace, ht, Option.elim_some, ← List.append_assoc]
    exact ih (hstep hs hall.1 ht) (hall.2 t ht) hrest

end Transition
