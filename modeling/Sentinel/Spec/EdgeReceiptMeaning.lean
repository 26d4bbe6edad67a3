import Sentinel.ForStd.List
import Sentinel.ForStd.Table
import Sentinel.Native.EdgeReceiptObservation

/-! # The meaning of an Edge receipt

The read compares a presentation with the row; the upsert compares nothing.  So a receipt keeps one
meaning while no upsert meets a row, and while a row without an operation id is presented with one
operation id at most. -/

namespace Sentinel.EdgeReceiptObservation

open Transition

variable {s t : State} {label : Label} {labels : List Label} {input : Input} {draw : Draw} {row : Row}

inductive Takes (s : State) : Label → State → Prop
  | call (input : Input) : Takes s (.call input) { s with calls := s.calls ++ [⟨input, .started⟩] }
  | read {i : Nat} {input : Input} (found : Found) (hcall : s.calls[i]? = some ⟨input, .started⟩) :
    Takes s (.read i found)
      { s with calls := s.calls.set i ⟨input, readPhase s.rows input found⟩ }
  | write {i : Nat} {input : Input} (draw : Draw) (reply : Reply)
      (hcall : s.calls[i]? = some ⟨input, .absent⟩) :
    Takes s (.write i draw reply)
      { rows := if reply.applied then upsert s.rows input draw else s.rows
        calls := s.calls.set i ⟨input, reply.phase⟩ }

variable {rows : List Row} {i : Nat} {log : List Answer}

theorem step_eq_some : step s label = some t ↔ Takes s label t := by
  constructor
  · intro h
    cases label with
    | call input =>
      cases h
      exact .call input
    | read i found =>
      simp only [step] at h
      split at h
      next input hcall =>
        cases h
        exact .read found hcall
      next => cases h
    | write i draw reply =>
      simp only [step] at h
      split at h
      next input hcall =>
        cases h
        exact .write draw reply hcall
      next => cases h
  · intro h
    cases h with
    | call input => rfl
    | read found hcall => simp only [step, hcall]
    | write draw reply hcall => simp only [step, hcall]

/-! ## Rows -/

theorem key_of_findUnique {key : String × String}
    (h : findUnique rows key = some row) : row.key = key := by
  have hkey := List.find?_some h
  exact of_decide_eq_true hkey

theorem findUnique_eq_none {key : String × String} :
    findUnique rows key = none ↔ key ∉ rows.map Row.key := by
  simp [findUnique]

theorem upsert_of_absent (h : findUnique rows input.key = none) :
    upsert rows input draw = rows ++ [input.create draw] := by
  rw [upsert, h]

theorem key_create (input : Input) (draw : Draw) : (input.create draw).key = input.key := rfl

theorem prefix_upsert (rows : List Row) (input : Input) (draw : Draw) :
    rows <+: upsert rows input draw := by
  unfold upsert
  split
  · exact List.prefix_rfl
  · exact List.prefix_append _ _

theorem rows_step (h : step s label = some t) : s.rows <+: t.rows := by
  cases step_eq_some.mp h with
  | call input => exact List.prefix_rfl
  | read found hcall => exact List.prefix_rfl
  | write draw reply hcall =>
    dsimp only
    split
    · exact prefix_upsert _ _ _
    · exact List.prefix_rfl

/-- The unique index. -/
def State.Keyed (s : State) : Prop := (s.rows.map Row.key).Nodup

theorem keyed_step (hkeyed : s.Keyed) (h : step s label = some t) : t.Keyed := by
  cases step_eq_some.mp h with
  | call input => exact hkeyed
  | read found hcall => exact hkeyed
  | @write i input draw reply hcall =>
    unfold State.Keyed
    dsimp only
    split
    · unfold upsert
      split
      next => exact hkeyed
      next hnone =>
        apply Table.nodup_map_concat hkeyed
        intro old hold hsame
        exact findUnique_eq_none.mp hnone (List.mem_map.mpr ⟨old, hold, hsame⟩)
    · exact hkeyed

theorem keyed_initial : State.initial.Keyed := List.nodup_nil

/-- A receipt has one row at most. -/
theorem receipts_keyed (hrun : run step .initial labels = some s) : s.Keyed :=
  run_invariant keyed_step keyed_initial hrun

/-- The rows of a state are those of every later state that were written first. -/
theorem rows_unchanged (hrun : run step s labels = some t) : s.rows <+: t.rows :=
  run_mono (r := fun s t : State => s.rows <+: t.rows) (fun _ => List.prefix_rfl) List.IsPrefix.trans
    (fun (_ : True) _ => trivial) (fun _ => rows_step) trivial hrun

/-! ## One meaning -/

def Outcome.isAccepted : Outcome → Bool
  | .firstSeen => true
  | .converged => true
  | .conflict => false
  | .notRecorded => false

/-- Two operation ids of which one is missing do not differ. -/
def IdsDiffer (a b : Option String) : Prop := ∃ x ∈ a, ∃ y ∈ b, x ≠ y

/-- A presentation of another meaning than a row's, or than that of an answer accepted before. -/
inductive Answer.Differs (before : List Answer) (a : Answer) : Prop
  | fingerprint (row : Row) (hrow : a.row = some row)
      (h : row.witnessedOperationFingerprint ≠ a.input.witness.witnessedOperationFingerprint)
  | operation (row : Row) (hrow : a.row = some row)
      (h : IdsDiffer row.offlineOperationId a.input.offlineOperationId)
  | earlier (b : Answer) (hb : b ∈ before) (haccepted : b.outcome.isAccepted = true)
      (hkey : b.input.key = a.input.key)
      (h : IdsDiffer b.input.offlineOperationId a.input.offlineOperationId)

def Answer.isFirstSeen (a : Answer) (key : String × String) : Bool :=
  a.outcome = .firstSeen ∧ a.input.key = key

/-- What the answers of a run say. -/
structure Truthful (log : List Answer) : Prop where
  first : ∀ key, log.countP (·.isFirstSeen key) ≤ 1
  conflict : ∀ before a after, log = before ++ a :: after → a.Differs before → a.outcome = .conflict

/-- One row a receipt, which does not change, and answers that are true to it. -/
structure OneMeaning (labels : List Label) : Prop where
  keyed : ∀ s, run step .initial labels = some s → s.Keyed
  unchanged : ∀ before after s t, labels = before ++ after → run step .initial before = some s →
    run step .initial labels = some t → s.rows <+: t.rows
  truthful : Truthful (answers labels)

def Phase.outcome? : Phase → Option Outcome
  | .answered outcome => some outcome
  | _ => none

def Call.isAnswered (call : Call) : Bool := call.phase.outcome?.isSome

/-- No upsert whose call goes on meets a row, and no row without an operation id is presented with an id other than the
    one it was presented with before. -/
def Undisturbed (s : State) : Label → Prop
  | .call _ => True
  | .read i _ => ∀ call ∈ s.calls[i]?, ∀ row ∈ findUnique s.rows call.input.key,
      row.offlineOperationId = none → ∀ other ∈ s.calls, other.isAnswered = true →
        other.input.key = call.input.key →
        other.input.witness.witnessedOperationFingerprint = row.witnessedOperationFingerprint →
        ∀ x ∈ other.input.offlineOperationId, ∀ y ∈ call.input.offlineOperationId, x = y
  | .write i _ reply => reply.phase.outcome?.isSome = true →
      ∀ call ∈ s.calls[i]?, findUnique s.rows call.input.key = none

attribute [-instance] forall_prop_decidable in
instance (s : State) (label : Label) : Decidable (Undisturbed s label) := by
  cases label <;> unfold Undisturbed <;> infer_instance

/-! ## Answers -/

/-- A presentation that means what the row says. -/
structure Agrees (row : Row) (input : Input) : Prop where
  key : row.key = input.key
  fingerprint : row.witnessedOperationFingerprint = input.witness.witnessedOperationFingerprint
  operation : ¬ IdsDiffer row.offlineOperationId input.offlineOperationId

theorem semanticsChanged_eq_true {existing : Row} :
    semanticsChanged existing input = true ↔
      existing.witnessedOperationFingerprint ≠ input.witness.witnessedOperationFingerprint ∨
        IdsDiffer existing.offlineOperationId input.offlineOperationId := by
  unfold semanticsChanged IdsDiffer
  rw [decide_eq_true_iff]
  cases existing.offlineOperationId <;> cases input.offlineOperationId <;> simp

theorem agrees_create (input : Input) (draw : Draw) : Agrees (input.create draw) input := by
  refine ⟨rfl, rfl, ?_⟩
  rintro ⟨x, hx, y, hy, hne⟩
  exact hne (Option.some.inj (hx.symm.trans hy))

/-- What holds of the answers of an undisturbed run. -/
structure Answered (s : State) (log : List Answer) : Prop where
  keyed : s.Keyed
  called : ∀ a ∈ log, ∃ call ∈ s.calls, call.input = a.input ∧ call.isAnswered = true
  accepted : ∀ a ∈ log, a.outcome.isAccepted = true → ∃ row ∈ s.rows, Agrees row a.input
  truthful : Truthful log

/-- The answer of the call that a step has moved. -/
theorem answerOf_set {calls : List Call} {call : Call} (hcall : calls[i]? = some call)
    (rows : List Row) (input : Input) (phase : Phase) :
    answerOf ⟨rows, calls.set i ⟨input, phase⟩⟩ i =
      phase.outcome?.map fun outcome => ⟨input, outcome, findUnique rows input.key⟩ := by
  have hlt := (List.getElem?_eq_some_iff.mp hcall).1
  rw [answerOf]
  dsimp only
  rw [List.getElem?_set_self hlt]
  cases phase <;> rfl

theorem answer_call (s : State) (input : Input) : answer s (.call input) = none := rfl

theorem answer_read (found : Found) (hcall : s.calls[i]? = some ⟨input, .started⟩) :
    answer s (.read i found) = (readPhase s.rows input found).outcome?.map fun outcome =>
      ⟨input, outcome, findUnique s.rows input.key⟩ := by
  have hstep := step_eq_some.mpr (Takes.read found hcall)
  simp only [answer, hstep]
  exact answerOf_set hcall _ _ _

theorem answer_write (draw : Draw) (reply : Reply) (hcall : s.calls[i]? = some ⟨input, .absent⟩) :
    answer s (.write i draw reply) = reply.phase.outcome?.map fun outcome =>
      ⟨input, outcome,
        findUnique (if reply.applied then upsert s.rows input draw else s.rows) input.key⟩ := by
  have hstep := step_eq_some.mpr (Takes.write draw reply hcall)
  simp only [answer, hstep]
  exact answerOf_set hcall _ _ _

theorem mem_set_of_answered {calls : List Call} {call moved next : Call}
    (hmem : call ∈ calls) (hanswered : call.isAnswered = true) (hmoved : calls[i]? = some moved)
    (hopen : moved.isAnswered = false) : call ∈ calls.set i next := by
  obtain ⟨j, hj⟩ := List.mem_iff_getElem?.mp hmem
  have hne : i ≠ j := by
    rintro rfl
    rw [Option.some.inj (hmoved.symm.trans hj), hanswered] at hopen
    exact Bool.noConfusion hopen
  apply List.mem_of_getElem? (i := j)
  rw [List.getElem?_set_ne hne, hj]

theorem truthful_nil : Truthful [] := by
  refine ⟨fun _ => Nat.zero_le 1, fun before a after h => ?_⟩
  exact absurd h.symm (List.append_ne_nil_of_right_ne_nil _ (List.cons_ne_nil _ _))

/-- One more answer that is true to those before it. -/
theorem Truthful.concat {a : Answer} (h : Truthful log)
    (hconflict : a.Differs log → a.outcome = .conflict)
    (hfirst : a.outcome = .firstSeen → ∀ b ∈ log, b.input.key = a.input.key → b.outcome ≠ .firstSeen) :
    Truthful (log ++ [a]) := by
  constructor
  · intro key
    rw [List.countP_append, List.countP_singleton]
    by_cases hnew : a.isFirstSeen key = true
    · obtain ⟨houtcome, rfl⟩ := of_decide_eq_true hnew
      have hnone : log.countP (·.isFirstSeen a.input.key) = 0 := by
        apply List.countP_eq_zero.mpr
        intro b hb hseen
        obtain ⟨hb', hkey⟩ := of_decide_eq_true hseen
        exact hfirst houtcome b hb hkey hb'
      rw [hnone, if_pos hnew]
    · rw [if_neg hnew]
      exact h.first key
  · intro before b after hsplit hdiffers
    cases List.eq_nil_or_concat after with
    | inl hnil =>
      rw [hnil] at hsplit
      obtain ⟨rfl, hlast⟩ := List.append_inj' hsplit rfl
      obtain rfl := List.singleton_inj.mp hlast
      exact hconflict hdiffers
    | inr hconcat =>
      obtain ⟨after, c, rfl⟩ := hconcat
      rw [List.concat_eq_append, ← List.cons_append, ← List.append_assoc] at hsplit
      exact h.conflict before b after (List.append_inj' hsplit rfl).1 hdiffers

/-! ## Undisturbed runs -/

theorem Answered.mono (h : Answered s log) (hrows : s.rows <+: t.rows) (hkeyed : t.Keyed)
    (hcalls : ∀ call ∈ s.calls, call.isAnswered = true → call ∈ t.calls) : Answered t log := by
  refine ⟨hkeyed, fun a ha => ?_, fun a ha haccepted => ?_, h.truthful⟩
  · obtain ⟨call, hcall, hinput, hanswered⟩ := h.called a ha
    exact ⟨call, hcalls call hcall hanswered, hinput, hanswered⟩
  · obtain ⟨row, hrow, hagrees⟩ := h.accepted a ha haccepted
    exact ⟨row, hrows.subset hrow, hagrees⟩

theorem Answered.concat {a : Answer} (h : Answered s log)
    (hcalled : ∃ call ∈ s.calls, call.input = a.input ∧ call.isAnswered = true)
    (haccepted : a.outcome.isAccepted = true → ∃ row ∈ s.rows, Agrees row a.input)
    (htruthful : Truthful (log ++ [a])) : Answered s (log ++ [a]) := by
  refine ⟨h.keyed, fun b hb => ?_, fun b hb hb' => ?_, htruthful⟩
  · rcases List.of_mem_concat hb with hold | rfl
    · exact h.called b hold
    · exact hcalled
  · rcases List.of_mem_concat hb with hold | rfl
    · exact h.accepted b hold hb'
    · exact haccepted hb'

/-- A read compares a presentation with the row, and so with all that agreed with the row before. -/
theorem not_differs_of_converged {found : Found} (h : Answered s log)
    (hclear : Undisturbed s (.read i found)) (hcall : s.calls[i]? = some ⟨input, .started⟩)
    (hrow : findUnique s.rows input.key = some row) (hsame : semanticsChanged row input = false) :
    ¬ Answer.Differs log ⟨input, .converged, some row⟩ := by
  have hnot := (not_congr semanticsChanged_eq_true).mp (Bool.eq_false_iff.mp hsame)
  have hrowMem := List.mem_of_find?_eq_some hrow
  have hkey := key_of_findUnique hrow
  intro hdiffers
  cases hdiffers with
  | fingerprint existing hexisting hne =>
    cases hexisting
    exact hnot (.inl hne)
  | operation existing hexisting hne =>
    cases hexisting
    exact hnot (.inr hne)
  | earlier b hb haccepted hbKey hids =>
    obtain ⟨x, hx, y, hy, hne⟩ := hids
    obtain ⟨other, hother, hagrees⟩ := h.accepted b hb haccepted
    obtain rfl : other = row :=
      Table.eq_of_key h.keyed hother hrowMem (hagrees.key.trans (hbKey.trans hkey.symm))
    cases hoperation : other.offlineOperationId with
    | none =>
      obtain ⟨call, hcallMem, hinput, hanswered⟩ := h.called b hb
      rw [← hinput] at hx hbKey
      have hfingerprint := hagrees.fingerprint.symm
      rw [← hinput] at hfingerprint
      exact hne (hclear _ hcall _ hrow hoperation call hcallMem hanswered hbKey hfingerprint x hx y hy)
    | some z =>
      have hzx : z = x := by
        by_contra hzx
        exact hagrees.operation ⟨z, hoperation, x, hx, hzx⟩
      have hzy : z = y := by
        by_contra hzy
        exact hnot (.inr ⟨z, hoperation, y, hy, hzy⟩)
      exact hne (hzx.symm.trans hzy)

/-- A write that meets no row says what the row says that it has written. -/
theorem not_differs_of_absent (h : Answered s log)
    (hnone : findUnique s.rows input.key = none) (draw : Draw) (applied : Bool) (outcome : Outcome) :
    ¬ Answer.Differs log
      ⟨input, outcome, findUnique (if applied then upsert s.rows input draw else s.rows) input.key⟩ := by
  have hrows : ∀ row ∈ findUnique (if applied then upsert s.rows input draw else s.rows) input.key,
      row = input.create draw := by
    intro row hrow
    cases applied with
    | false => exact absurd (hnone.symm.trans hrow) (by simp)
    | true =>
      change findUnique (upsert s.rows input draw) input.key = some row at hrow
      rw [upsert_of_absent hnone, findUnique, List.find?_append] at hrow
      rw [findUnique] at hnone
      rw [hnone, Option.none_or, List.find?_singleton, if_pos (decide_eq_true (key_create _ _))] at hrow
      exact (Option.some.inj hrow).symm
  intro hdiffers
  cases hdiffers with
  | fingerprint row hrow hne =>
    rw [hrows row hrow] at hne
    exact hne rfl
  | operation row hrow hids =>
    rw [hrows row hrow] at hids
    exact (agrees_create input draw).operation hids
  | earlier b hb haccepted hkey hids =>
    obtain ⟨row, hrow, hagrees⟩ := h.accepted b hb haccepted
    apply findUnique_eq_none.mp hnone
    exact List.mem_map.mpr ⟨row, hrow, hagrees.key.trans hkey⟩

theorem answered_read {found : Found} (h : Answered s log)
    (hclear : Undisturbed s (.read i found)) (hcall : s.calls[i]? = some ⟨input, .started⟩) :
    Answered { s with calls := s.calls.set i ⟨input, readPhase s.rows input found⟩ }
      (log ++ (answer s (.read i found)).toList) := by
  have hlt := (List.getElem?_eq_some_iff.mp hcall).1
  have hold := h.mono (t := { s with calls := s.calls.set i ⟨input, readPhase s.rows input found⟩ })
    List.prefix_rfl h.keyed fun call hmem hanswered => mem_set_of_answered hmem hanswered hcall rfl
  rw [answer_read found hcall]
  cases found with
  | error => simpa [readPhase, Phase.outcome?] using hold
  | result =>
    simp only [readPhase] at hold ⊢
    cases hrow : findUnique s.rows input.key with
    | none => simpa [hrow, Phase.outcome?] using hold
    | some row =>
      simp only [hrow] at hold ⊢
      have hmoved : ∀ phase : Phase, (⟨input, phase⟩ : Call) ∈ s.calls.set i ⟨input, phase⟩ :=
        fun phase => List.mem_set hlt _
      by_cases hchanged : semanticsChanged row input = true
      · simp only [hchanged, if_true] at hold ⊢
        apply hold.concat ⟨_, hmoved _, rfl, rfl⟩ (fun haccepted => Bool.noConfusion haccepted)
        exact h.truthful.concat (fun _ => rfl) fun hfirst => Outcome.noConfusion hfirst
      · rw [if_neg hchanged] at hold ⊢
        have hsame := Bool.eq_false_iff.mpr hchanged
        have hnot := not_differs_of_converged h hclear hcall hrow hsame
        have hagrees := (not_congr semanticsChanged_eq_true).mp hchanged
        apply hold.concat ⟨_, hmoved _, rfl, rfl⟩ (fun _ => ?_)
        · exact h.truthful.concat (fun hdiffers => absurd hdiffers hnot)
            fun hfirst => Outcome.noConfusion hfirst
        · refine ⟨row, List.mem_of_find?_eq_some hrow, key_of_findUnique hrow, ?_, ?_⟩
          · exact not_not.mp fun hne => hagrees (.inl hne)
          · exact fun hids => hagrees (.inr hids)

theorem answered_write (draw : Draw) (reply : Reply) (h : Answered s log)
    (hclear : Undisturbed s (.write i draw reply)) (hcall : s.calls[i]? = some ⟨input, .absent⟩) :
    Answered
      { rows := if reply.applied then upsert s.rows input draw else s.rows
        calls := s.calls.set i ⟨input, reply.phase⟩ }
      (log ++ (answer s (.write i draw reply)).toList) := by
  have hlt := (List.getElem?_eq_some_iff.mp hcall).1
  have hstep := step_eq_some.mpr (Takes.write draw reply hcall)
  have hold := h.mono (rows_step hstep) (keyed_step h.keyed hstep) fun call hmem hanswered =>
    mem_set_of_answered hmem hanswered hcall rfl
  have hmoved : (⟨input, reply.phase⟩ : Call) ∈ s.calls.set i ⟨input, reply.phase⟩ :=
    List.mem_set hlt _
  rw [answer_write draw reply hcall]
  cases reply with
  | result =>
    have hnone := hclear rfl _ hcall
    have hnot := not_differs_of_absent h hnone draw true .firstSeen
    apply hold.concat ⟨_, hmoved, rfl, rfl⟩ (fun _ => ?_)
    · apply h.truthful.concat (fun hdiffers => absurd hdiffers hnot)
      intro _ b hb hkey hfirst
      -- an answer that was given before has a row, and there is none
      obtain ⟨row, hrow, hagrees⟩ := h.accepted b hb (by rw [hfirst]; rfl)
      apply findUnique_eq_none.mp hnone
      exact List.mem_map.mpr ⟨row, hrow, hagrees.key.trans hkey⟩
    · refine ⟨input.create draw, ?_, agrees_create input draw⟩
      show input.create draw ∈ upsert s.rows input draw
      rw [upsert_of_absent hnone]
      exact List.mem_append_right _ (List.mem_singleton_self _)
  | error applied =>
    have hnot := not_differs_of_absent h (hclear rfl _ hcall) draw applied .notRecorded
    apply hold.concat ⟨_, hmoved, rfl, rfl⟩ (fun haccepted => Bool.noConfusion haccepted)
    exact h.truthful.concat (fun hdiffers => absurd hdiffers hnot)
      fun hfirst => Outcome.noConfusion hfirst
  | stopped applied => simpa [Reply.phase, Phase.outcome?] using hold

theorem answered_step (h : Answered s log) (hclear : Undisturbed s label)
    (hstep : step s label = some t) : Answered t (log ++ (answer s label).toList) := by
  cases step_eq_some.mp hstep with
  | call input =>
    rw [answer_call, Option.toList_none, List.append_nil]
    exact h.mono List.prefix_rfl h.keyed fun call hmem _ => List.mem_append_left _ hmem
  | read found hcall => exact answered_read h hclear hcall
  | write draw reply hcall => exact answered_write draw reply h hclear hcall

theorem answered_initial : Answered .initial [] :=
  ⟨keyed_initial, fun _ h => absurd h List.not_mem_nil, fun _ h => absurd h List.not_mem_nil, truthful_nil⟩

/-- **One meaning.**  In every undisturbed run a receipt has one row at most, which does not change;
    it is seen first by one answer at most; and a presentation that differs from the row, or from one
    that was accepted before, is answered with a conflict. -/
theorem one_meaning (hrun : run step .initial labels = some s)
    (hclear : RunAll step Undisturbed .initial labels) : OneMeaning labels where
  keyed _ hrun := receipts_keyed hrun
  unchanged before after u t hsplit hbefore hrun := by
    rw [hsplit] at hrun
    obtain ⟨v, hv, hafter⟩ := run_append_eq_some.mp hrun
    obtain rfl := Option.some.inj (hbefore.symm.trans hv)
    exact rows_unchanged hafter
  truthful := (runAll_trace_invariant answer Answered answered_step answered_initial hclear hrun).truthful

/-! ## Two presentations of a receipt -/

/-- A receipt that is presented in an envelope with an operation id, or without one. -/
def presentation (offlineOperationId : Option String) : Input where
  witness :=
    { organisationId := "org-1", siteId := "site-a", edgeId := "edge-1", edgeKeyId := "key-1"
      edgeKeyVersion := 1, witnessedOperationFingerprint := "operation", edgeMonotonicPosition := none
      receiptFingerprint := "receipt" }
  verifiedTime := none
  offlineOperationId
  traceId := none

def drawn : Draw := ⟨"row-1", 0⟩

/-- One presentation after the other. -/
def inTurn : List Label :=
  [.call (presentation (some "op-1")), .read 0 .result, .write 0 drawn .result,
    .call (presentation (some "op-1")), .read 1 .result,
    .call (presentation (some "op-2")), .read 2 .result]

/-- Two presentations, of which each reads before the other has written. -/
def atOnce : List Label :=
  [.call (presentation (some "op-1")), .call (presentation (some "op-2")), .read 0 .result,
    .read 1 .result, .write 0 drawn .result, .write 1 drawn .result]

/-- Two presentations after one whose envelope could not be read. -/
def afterGap : List Label :=
  [.call (presentation none), .read 0 .result, .write 0 drawn .result,
    .call (presentation (some "op-1")), .read 1 .result,
    .call (presentation (some "op-2")), .read 2 .result]

theorem one_meaning_in_turn :
    OneMeaning inTurn ∧ (answers inTurn).map (·.outcome) = [.firstSeen, .converged, .conflict] := by
  have hrun : (run step .initial inTurn).isSome = true := by decide
  refine ⟨one_meaning (run_eq_some_getD hrun) ?_, by decide⟩
  apply runAll_of_checked
    (fun s label (h : decide (Undisturbed s label) = true) => of_decide_eq_true h)
  decide

/-- The second of two presentations at once is seen first as well, with another operation id than the
    row's; and a row without an operation id converges with two different ones. -/
theorem two_meanings :
    ((run step .initial atOnce).isSome = true ∧ ¬ OneMeaning atOnce) ∧
      (run step .initial afterGap).isSome = true ∧ ¬ OneMeaning afterGap := by
  refine ⟨⟨by decide, fun h => ?_⟩, by decide, fun h => ?_⟩
  · exact absurd (h.truthful.first (presentation none).key) (by decide)
  · have hlog : answers afterGap =
        [⟨presentation none, .firstSeen, some ((presentation none).create drawn)⟩,
          ⟨presentation (some "op-1"), .converged, some ((presentation none).create drawn)⟩] ++
        [⟨presentation (some "op-2"), .converged, some ((presentation none).create drawn)⟩] := by
      decide
    refine Outcome.noConfusion (h.truthful.conflict _ _ [] hlog ?_)
    exact .earlier _ (List.mem_cons_of_mem _ (List.mem_singleton_self _)) rfl rfl
      ⟨"op-1", rfl, "op-2", rfl, by decide⟩

end Sentinel.EdgeReceiptObservation
