import Sentinel.Spec.EvidenceCustody

/-! # What the vault reads out is what it was given

The object of a committed row stays what its hash was taken of, so whoever reads a row reads that;
only a fault of the object store makes a verification fail. -/

namespace Sentinel.EvidenceVault

variable {runtime : Runtime} {s t : State} {op op' : Operation}

/-- A verification that is positive, and content that has the hash of its row. -/
def Answer.Truthful (runtime : Runtime) : Answer → Prop
  | .verification _ verified expectedHash actualHash _ => verified = true ∧ expectedHash = actualHash
  | .content row bytes => runtime.sha256Hex bytes = row.contentHash
  | _ => True

/-- What has been read so far belongs to the row. -/
def Operation.Truthful (runtime : Runtime) (s : State) : Operation → Prop
  | .verifyFound row _ | .downloadFound row _ _ => row ∈ s.rows
  | .verifyHashed row _ actualHash => actualHash = row.contentHash
  | .downloadRead row _ _ content => runtime.sha256Hex content = row.contentHash
  | .returning answer | .returned answer => answer.Truthful runtime
  | _ => True

def Custody.isFailure : Custody → Bool
  | .verifyFailed .. => true
  | _ => false

theorem truthful_ingested (caller : Caller) (row : Evidence) :
    (ingested caller row).Truthful runtime := by
  cases caller <;> trivial

theorem mem_of_findById {uuid : String → Option String} {rows : List Evidence}
    {id organisationId : String} {row : Evidence}
    (h : findById uuid rows id organisationId = some row) : row ∈ rows := by
  obtain ⟨id, -, hfind⟩ := Option.bind_eq_some_iff.mp h
  exact List.mem_of_find?_eq_some hfind

/-- A line that is no failure adds none. -/
theorem no_failure_log {row : Evidence} {actor : Actor} {custody : Custody}
    (h : custody.isFailure = false) {e : CustodyEvent} (he : e ∈ (s.log row actor custody).custody) :
    e ∈ s.custody ∨ e.custody.isFailure = false := by
  rcases List.of_mem_concat he with hold | rfl
  · exact .inl hold
  · exact .inr h

/-- A step of an operation, where the object store does not fail. -/
theorem advance_truthful (hinv : Inv runtime s) {draw : Draw} (hfault : draw.fault = none)
    (hop : op.Truthful runtime s) (h : advance runtime s draw op = some (t, op')) :
    op'.Truthful runtime t ∧ ∀ e ∈ t.custody, e ∈ s.custody ∨ e.custody.isFailure = false := by
  cases op with
  | verify evidenceId organisationId actor =>
    simp only [advance] at h
    split at h <;> cases h
    · exact ⟨trivial, fun _ => .inl⟩
    · exact ⟨mem_of_findById ‹_›, fun _ => .inl⟩
  | verifyFound row actor =>
    obtain ⟨content, hobject, hhash⟩ := (hinv.rows row hop).stored
    simp only [advance, hfault, hobject] at h
    cases h
    exact ⟨hhash, fun _ => .inl⟩
  | verifyHashed row actor actualHash =>
    obtain rfl : actualHash = row.contentHash := hop
    simp only [advance, if_true] at h
    cases h
    exact ⟨⟨rfl, rfl⟩, fun _ => no_failure_log rfl⟩
  | downloadContent evidenceId organisationId purpose actor =>
    simp only [advance] at h
    split at h
    · cases h
      exact ⟨trivial, fun _ => .inl⟩
    · split at h
      · cases h
        exact ⟨trivial, fun _ => .inl⟩
      · split at h <;> cases h
        · exact ⟨trivial, fun _ => .inl⟩
        · exact ⟨mem_of_findById ‹_›, fun _ => .inl⟩
  | downloadFound row purpose actor =>
    obtain ⟨content, hobject, hhash⟩ := (hinv.rows row hop).stored
    simp only [advance, hobject] at h
    cases h
    exact ⟨hhash, fun _ => .inl⟩
  | downloadRead row purpose actor content =>
    cases h
    exact ⟨hop, fun _ => no_failure_log rfl⟩
  | returning answer =>
    cases h
    exact ⟨hop, fun _ => .inl⟩
  | returned | thrown => cases h
  | ingestStored caller input evidenceId =>
    simp only [advance] at h
    split at h
    · cases h
      exact ⟨trivial, fun _ => .inl⟩
    · split at h
      · split at h <;> cases h <;> exact ⟨trivial, fun _ => .inl⟩
      · cases h
        exact ⟨truthful_ingested _ _, fun _ => no_failure_log rfl⟩
  | ingestExisting caller input evidenceId existing =>
    cases h
    exact ⟨truthful_ingested _ _, fun _ => .inl⟩
  | deriveInserted | deriveLogged | getMetadataFound =>
    cases h
    exact ⟨trivial, fun _ => no_failure_log rfl⟩
  | _ =>
    simp only [advance] at h
    repeat' split at h
    all_goals cases h
    all_goals exact ⟨trivial, fun _ => .inl⟩

/-- The object store does not fail in the step. -/
def Label.FaultFree : Label → Prop
  | .call _ => True
  | .advance _ draw => draw.fault = none

/-- What holds as long as the object store does not fail. -/
structure State.Truthful (runtime : Runtime) (s : State) : Prop where
  inv : Inv runtime s
  lines : ∀ e ∈ s.custody, e.custody.isFailure = false
  operations : ∀ op ∈ s.operations, op.Truthful runtime s

theorem State.Truthful.step {label : Label} (h : s.Truthful runtime) (hfault : label.FaultFree)
    (hstep : step runtime s label = some t) : t.Truthful runtime := by
  have hinv := step_inv h.inv hstep
  cases label with
  | call operation =>
    obtain ⟨hcall, heq⟩ := Option.ite_none_right_eq_some.mp hstep
    cases heq
    refine ⟨hinv, h.lines, fun op hop => ?_⟩
    rcases List.of_mem_concat hop with hold | rfl
    · have htrue := h.operations op hold
      cases op <;> exact htrue
    · cases op <;> trivial
  | advance i draw =>
    obtain ⟨⟨u, next⟩, hresult, rfl⟩ := Option.map_eq_some_iff.mp hstep
    obtain ⟨op, hget, hadvance⟩ := Option.bind_eq_some_iff.mp hresult
    have heffect := advance_effect hadvance
    obtain ⟨hnext, hnew⟩ :=
      advance_truthful h.inv hfault (h.operations op (List.mem_of_getElem? hget)) hadvance
    refine ⟨hinv, fun e he => (hnew e he).elim (h.lines e) id, fun other hother => ?_⟩
    rw [heffect.operations_eq] at hother
    rcases List.mem_or_eq_of_mem_set hother with hold | rfl
    · have htrue := h.operations other hold
      cases other <;> first | exact htrue | exact heffect.rows_subset htrue
    · cases other <;> exact hnext

/-- **What is read out is what was stored**, in every run in which the object store does not fail: no
verification is negative, here or in the custody lines, and content has the hash of its row. -/
theorem reads_truthful {labels : List Label} (hfaultFree : ∀ label ∈ labels, label.FaultFree)
    (hrun : Transition.run (step runtime) State.initial labels = some s) :
    (∀ e ∈ s.custody, e.custody.isFailure = false) ∧
      ∀ answer, .returned answer ∈ s.operations → answer.Truthful runtime := by
  have h : s.Truthful runtime := Transition.runAll_invariant (p := fun _ => Label.FaultFree)
    State.Truthful.step
    ⟨initial_inv, fun _ h => absurd h List.not_mem_nil, fun _ h => absurd h List.not_mem_nil⟩
    (Transition.runAll_of_forall hfaultFree) hrun
  exact ⟨h.lines, fun answer hmem => h.operations _ hmem⟩

def verifyRun : List Label :=
  let draw := drawing "22222222-2222-4222-8222-222222222222"
  ingestRun ++ [.call (.verify "11111111-1111-4111-8111-111111111111" "org-1" .system),
    .advance 1 draw, .advance 1 draw, .advance 1 draw, .advance 1 draw]

theorem reads_truthful_verified :
    ∃ s, Transition.run (step emptyRuntime) State.initial verifyRun = some s ∧
      ∀ answer, .returned answer ∈ s.operations → answer.Truthful emptyRuntime := by
  have hsome : (Transition.run (step emptyRuntime) State.initial verifyRun).isSome = true := by
    decide
  obtain ⟨s, hrun⟩ := Option.isSome_iff_exists.mp hsome
  exact ⟨s, hrun, (reads_truthful (by simp [verifyRun, ingestRun, Label.FaultFree, drawing]) hrun).2⟩

end Sentinel.EvidenceVault
