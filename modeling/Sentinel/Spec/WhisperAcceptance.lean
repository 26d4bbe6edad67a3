import Sentinel.Native.WhisperEligibility
import Sentinel.Spec.WhisperRefusal

/-! # An accepted recognition was eligible

A receipt is accepted when an attempt that claimed it was found eligible, or recovered an incident,
which is looked up by organisation and fingerprint alone. -/

namespace Sentinel.Whisper

open Receipts (Finalization claimed fenced finalized)

/-! ## What a step decides -/

/-- The judgement a call still carries. -/
def Phase.judged? : Phase → Option Judged
  | .preflight judged | .ensure judged | .ensureRead judged | .claim judged _
  | .probe judged _ _ => some judged
  | _ => none

/-- The receipt a call is about to accept. -/
def Phase.accepts? : Phase → Option String
  | .openIncident receiptId _ | .converge receiptId _ | .respond receiptId _ _ _ => some receiptId
  | .finalize input => if input.outcome = .accepted then some input.receiptId else none
  | _ => none

/-- What a claimed attempt goes on with. -/
theorem decideClaimed_accepts {judged : Judged} {receiptId accepted : String} {generation : Nat}
    {recovered : Option Incidents.IncidentRow}
    (h : (decideClaimed judged receiptId generation recovered).accepts? = some accepted) :
    accepted = receiptId ∧ (judged.eligibility = .eligible ∨ recovered.isSome = true) := by
  obtain ⟨eligibility, _, _⟩ := judged
  cases recovered with
  | some => exact ⟨(Option.some.inj h).symm, .inr rfl⟩
  | none =>
    cases eligibility with
    | eligible => exact ⟨(Option.some.inj h).symm, .inl rfl⟩
    | ineligible => cases h

@[simp] theorem judged?_decideClaimed (judged : Judged) (receiptId : String) (generation : Nat)
    (recovered : Option Incidents.IncidentRow) :
    (decideClaimed judged receiptId generation recovered).judged? = none := by
  rcases decideClaimed_cases judged receiptId generation recovered with h | ⟨_, _, h⟩
  all_goals
    rw [h]
    rfl

section Advance

variable {text : Constitution.Text} {worker : Worker} {db db' : Incidents.Db}
  {receipts receipts' : Receipts} {env : Env} {phase : Phase}

/-- A judgement comes from the gate. -/
theorem advance_judged (h : worker.advance text db receipts env = some (db', receipts', phase))
    {judged : Judged} (hjudged : phase.judged? = some judged) :
    worker.phase.judged? = some judged ∨ worker.phase = .gate ∧ env.gate = .judged judged := by
  obtain ⟨recognition, now⟩ := worker
  cases now with
  | gate =>
    simp only [Worker.advance] at h
    split at h
    · obtain rfl := (Prod.mk.inj (Prod.mk.inj (Option.some.inj h)).2).2
      cases hjudged
    · rename_i hgate
      obtain rfl := (Prod.mk.inj (Prod.mk.inj (Option.some.inj h)).2).2
      cases hjudged
      exact .inr ⟨rfl, hgate⟩
  | respond =>
    simp only [Worker.advance, Option.bind_eq_bind, Option.bind_eq_some_iff] at h
    obtain ⟨⟨_, _⟩, _, h⟩ := h
    split at h
    all_goals
      cases h
      cases hjudged
  | returned | failed => cases h
  | claim =>
    left
    simp only [Worker.advance] at h
    repeat' split at h
    all_goals
      cases h
    · cases hjudged
    · exact hjudged
    · rw [judged?_decideClaimed] at hjudged
      cases hjudged
  | probe =>
    cases h
    rw [judged?_decideClaimed] at hjudged
    cases hjudged
  | _ =>
    left
    simp only [Worker.advance, respondPhase] at h
    repeat' split at h
    all_goals
      cases h
      first
        | exact hjudged
        | cases hjudged

/-- A probe follows a claim that was won. -/
theorem advance_probing (h : worker.advance text db receipts env = some (db', receipts', phase))
    {judged : Judged} {receiptId : String} {generation : Nat}
    (hphase : phase = .probe judged receiptId generation) :
    worker.phase = .claim judged receiptId ∧
      receipts.claimReceipt receiptId env.now = (some generation, receipts') := by
  subst hphase
  obtain ⟨recognition, now⟩ := worker
  cases now with
  | claim judged claimedId =>
    simp only [Worker.advance] at h
    split at h
    · cases h
    · rename_i hwon
      split at h
      · obtain ⟨_, hrest⟩ := Prod.mk.inj (Option.some.inj h)
        obtain ⟨rfl, hphase⟩ := Prod.mk.inj hrest
        obtain ⟨rfl, rfl, rfl⟩ := Phase.probe.inj hphase
        exact ⟨rfl, hwon⟩
      · have hphase := (Prod.mk.inj (Prod.mk.inj (Option.some.inj h)).2).2
        have hnone := judged?_decideClaimed judged claimedId ‹Nat› none
        rw [hphase] at hnone
        cases hnone
  | probe judged claimedId claimGeneration =>
    have hphase := (Prod.mk.inj (Prod.mk.inj (Option.some.inj h)).2).2
    have hnone := judged?_decideClaimed judged claimedId claimGeneration
      (db.findByWhisperRecognition recognition.identity.organisationId
        recognition.recognitionFingerprint)
    rw [hphase] at hnone
    cases hnone
  | respond =>
    simp only [Worker.advance, Option.bind_eq_bind, Option.bind_eq_some_iff] at h
    obtain ⟨⟨_, _⟩, _, h⟩ := h
    split at h
    all_goals cases h
  | returned | failed => cases h
  | _ =>
    simp only [Worker.advance, respondPhase] at h
    repeat' split at h
    all_goals cases h

/-- What an acceptance rests on: a claim won by an eligible attempt, or a probe of one that
    is eligible or has found an incident. -/
theorem advance_accepts (h : worker.advance text db receipts env = some (db', receipts', phase))
    {receiptId : String} (haccepts : phase.accepts? = some receiptId) :
    worker.phase.accepts? = some receiptId ∨
    (∃ judged generation, worker.phase = .claim judged receiptId ∧ judged.eligibility = .eligible ∧
      receipts.claimReceipt receiptId env.now = (some generation, receipts')) ∨
    ∃ judged generation, worker.phase = .probe judged receiptId generation ∧
      (judged.eligibility = .eligible ∨
        (db.findByWhisperRecognition worker.recognition.identity.organisationId
          worker.recognition.recognitionFingerprint).isSome = true) := by
  obtain ⟨recognition, now⟩ := worker
  cases now with
  | claim judged claimedId =>
    right; left
    simp only [Worker.advance] at h
    split at h
    · cases h
      cases haccepts
    · rename_i generation _ hwon
      split at h
      all_goals
        cases h
      · cases haccepts
      · obtain ⟨rfl, heligible | hrecovered⟩ := decideClaimed_accepts haccepts
        · exact ⟨judged, generation, rfl, heligible, hwon⟩
        · cases hrecovered
  | probe judged claimedId claimGeneration =>
    right; right
    cases h
    obtain ⟨rfl, hgrounds⟩ := decideClaimed_accepts haccepts
    exact ⟨judged, claimGeneration, rfl, hgrounds⟩
  | respond claimedId claimGeneration incidentId response =>
    left
    simp only [Worker.advance, Option.bind_eq_bind, Option.bind_eq_some_iff] at h
    obtain ⟨⟨_, _⟩, _, h⟩ := h
    split at h
    all_goals
      cases h
    · exact haccepts
    · cases haccepts
    · exact haccepts
  | returned | failed => cases h
  | _ =>
    left
    simp only [Worker.advance, respondPhase] at h
    repeat' split at h
    all_goals
      cases h
      first
        | exact haccepts
        | cases haccepts

end Advance

theorem Worker.Writes.outcome {env : Env} {receipts receipts' : Receipts} {worker : Worker}
    (h : worker.Writes env receipts receipts') {row' : ReceiptRow} (hrow' : row' ∈ receipts'.rows)
    {outcome : ReceiptOutcome} (houtcome : row'.outcome = some outcome) :
    (∃ row ∈ receipts.rows, row.id = row'.id ∧ row.outcome = some outcome) ∨
    ∃ input, worker.phase = .finalize input ∧ input.receiptId = row'.id ∧
      input.outcome = outcome := by
  cases h with
  | nothing => exact .inl ⟨row', hrow', rfl, houtcome⟩
  | created _ write =>
    rw [Receipts.create_eq_some write] at hrow'
    rcases List.of_mem_concat hrow' with hold | rfl
    · exact .inl ⟨row', hold, rfl, houtcome⟩
    · cases houtcome
  | claimed _ write =>
    obtain ⟨_, _, _, _, _, hrows⟩ := Receipts.claimReceipt_eq_some write
    rw [hrows] at hrow'
    obtain ⟨row, hrow, rfl⟩ := Table.mem_rewrite.mp hrow'
    left
    refine ⟨row, hrow, ?_⟩
    split at houtcome
    · exact ⟨by rw [if_pos ‹_›]; rfl, houtcome⟩
    · exact ⟨by rw [if_neg ‹_›], houtcome⟩
  | @finalized input _ phase write =>
    rw [Receipts.finalizeReceipt_eq_true write] at hrow'
    obtain ⟨row, hrow, rfl⟩ := Table.mem_rewrite.mp hrow'
    by_cases hfenced : fenced input.receiptId input.claimGeneration row = true
    · right
      rw [if_pos hfenced] at houtcome ⊢
      exact ⟨input, phase, (fenced_iff.mp hfenced).1.symm, Option.some.inj houtcome⟩
    · left
      rw [if_neg hfenced] at houtcome ⊢
      exact ⟨row, hrow, rfl, houtcome⟩
  | marked =>
    obtain ⟨row, hrow, rfl⟩ := Table.mem_rewrite.mp hrow'
    left
    refine ⟨row, hrow, ?_⟩
    split at houtcome
    · exact ⟨by rw [if_pos ‹_›], houtcome⟩
    · exact ⟨by rw [if_neg ‹_›], houtcome⟩

/-! ## Licences -/

/-- An attempt that claimed the receipt had been found eligible. -/
def Licensed (log : List DuressEvent) (receiptId : String) : Prop :=
  ∃ call input, DuressEvent.evaluated call input ∈ log ∧
    evaluateRuntimeEligibility input = .eligible ∧ DuressEvent.claimed call receiptId ∈ log

theorem Licensed.mono {log log' : List DuressEvent} (hsub : log ⊆ log') {receiptId : String}
    (h : Licensed log receiptId) : Licensed log' receiptId :=
  let ⟨call, input, hevaluated, heligible, hclaimed⟩ := h
  ⟨call, input, hsub hevaluated, heligible, hsub hclaimed⟩

/-- When an ineligible attempt recovers an incident, no other receipt of its organisation
    carries its statement. -/
def RecoversOwn (s : Duress) : DuressLabel → Prop
  | .advance i _ _ => ∀ worker judged receiptId generation,
      s.whisper.workers[i]? = some worker → worker.phase = .probe judged receiptId generation →
      judged.eligibility ≠ .eligible →
      (s.whisper.incidents.db.findByWhisperRecognition worker.recognition.identity.organisationId
        worker.recognition.recognitionFingerprint).isSome = true →
      ∀ row ∈ s.whisper.receipts.rows,
        row.identity.organisationId = worker.recognition.identity.organisationId →
        row.recognitionFingerprint = worker.recognition.recognitionFingerprint →
        row.identity = worker.recognition.identity
  | _ => True

/-- What a call is about to do is licensed by what it and others have done. -/
structure Worker.Grounded (log : List DuressEvent) (call : Nat) (worker : Worker) : Prop where
  judged : ∀ judged, worker.phase.judged? = some judged → judged.eligibility = .eligible →
    ∃ input, DuressEvent.evaluated call input ∈ log ∧ evaluateRuntimeEligibility input = .eligible
  probing : ∀ judged receiptId generation, worker.phase = .probe judged receiptId generation →
    DuressEvent.claimed call receiptId ∈ log
  accepting : ∀ receiptId, worker.phase.accepts? = some receiptId → Licensed log receiptId

theorem Worker.Grounded.mono {log log' : List DuressEvent} (hsub : log ⊆ log') {call : Nat}
    {worker : Worker} (h : worker.Grounded log call) : worker.Grounded log' call where
  judged judged hphase heligible :=
    let ⟨input, hevaluated, hinput⟩ := h.judged judged hphase heligible
    ⟨input, hsub hevaluated, hinput⟩
  probing judged receiptId generation hphase := hsub (h.probing judged receiptId generation hphase)
  accepting receiptId haccepts := (h.accepting receiptId haccepts).mono hsub

/-- A call that has nothing in hand. -/
theorem Worker.Grounded.idle {log : List DuressEvent} {call : Nat} {recognition : Recognition}
    {phase : Phase} (hjudged : phase.judged? = none) (haccepts : phase.accepts? = none) :
    Worker.Grounded log call ⟨recognition, phase⟩ where
  judged _ h := nomatch hjudged.symm.trans h
  probing _ _ _ h := by
    obtain rfl : phase = _ := h
    cases hjudged
  accepting _ h := nomatch haccepts.symm.trans h

/-- What every step keeps. -/
structure Duress.Accountable (s : Duress) (log : List DuressEvent) : Prop where
  presented : s.whisper.workers.length = s.presentations.length
  quiet : ∀ worker ∈ s.whisper.incidents.workers, ∀ input,
    worker.call ≠ .openWhisperSilentIncident input
  held : ∀ worker ∈ s.whisper.workers, worker.Held s.whisper.receipts
  grounded : ∀ (call : Nat) (worker : Worker), s.whisper.workers[call]? = some worker →
    worker.Grounded log call
  opened : ∀ incident ∈ s.whisper.incidents.db.incidents,
    incident.sourceKind = .whisperRecognition → ∃ row ∈ s.whisper.receipts.rows,
      incident.source =
        (row.identity.organisationId, .whisperRecognition, row.recognitionFingerprint) ∧
      Licensed log row.id
  accepted : ∀ row ∈ s.whisper.receipts.rows, row.outcome = some .accepted → Licensed log row.id

theorem Duress.accountable_init : Duress.init.Accountable [] where
  presented := rfl
  quiet _ h := nomatch h
  held _ h := nomatch h
  grounded _ _ h := nomatch h
  opened _ h := nomatch h
  accepted _ h := nomatch h

/-! ## Steps -/

theorem Presentation.gate_eq_judged {presentation : Presentation} {facts : Facts} {judged : Judged}
    (h : presentation.gate facts = .judged judged) :
    judged.eligibility = evaluateRuntimeEligibility (presentation.eligibilityInput facts) := by
  rw [Presentation.gate] at h
  split at h
  · cases h
  · split at h
    · cases h
    · obtain rfl := Gate.judged.inj h
      rfl

section Steps

variable {text : Constitution.Text} {recognitionFingerprint : DeviceActionResult → String}
  {s s' : Duress} {log log' : List DuressEvent} {i : Nat} {worker : Worker}
  {presentation : Presentation} {facts : Facts} {env : Env}

theorem Duress.event_evaluated {judged : Judged} (hworker : s.whisper.workers[i]? = some worker)
    (hpresentation : s.presentations[i]? = some presentation) (hphase : worker.phase = .gate)
    (hgate : presentation.gate facts = .judged judged) :
    s.event (.advance i facts env) = some (.evaluated i (presentation.eligibilityInput facts)) := by
  simp only [Duress.event, hworker, hpresentation, Option.bind_eq_bind, Option.bind_some, hphase,
    hgate]

theorem Duress.event_claimed {judged : Judged} {receiptId : String} {generation : Nat}
    {receipts' : Receipts} (hworker : s.whisper.workers[i]? = some worker)
    (hpresentation : s.presentations[i]? = some presentation)
    (hphase : worker.phase = .claim judged receiptId)
    (hwon : s.whisper.receipts.claimReceipt receiptId env.now = (some generation, receipts')) :
    s.event (.advance i facts env) = some (.claimed i receiptId) := by
  simp only [Duress.event, hworker, hpresentation, Option.bind_eq_bind, Option.bind_some, hphase,
    hwon, Option.map_some]

/-- What the call that moves is about to do is licensed. -/
theorem Duress.Accountable.ground (hs : s.Accountable log)
    (hworker : s.whisper.workers[i]? = some worker)
    (hpresentation : s.presentations[i]? = some presentation) {db : Incidents.Db}
    {receipts : Receipts} {phase : Phase}
    (h : worker.advance text s.whisper.incidents.db s.whisper.receipts
      (presentation.env facts env) = some (db, receipts, phase))
    (hlog : log' = log ++ (s.event (.advance i facts env)).toList)
    (hown : RecoversOwn s (.advance i facts env)) :
    Worker.Grounded log' i { worker with phase } := by
  have hgrounded := hs.grounded i worker hworker
  have hsub : log ⊆ log' := hlog ▸ List.subset_append_left _ _
  have hclaimed : ∀ judged receiptId generation, worker.phase = .claim judged receiptId →
      s.whisper.receipts.claimReceipt receiptId env.now = (some generation, receipts) →
      DuressEvent.claimed i receiptId ∈ log' := by
    intro judged receiptId generation hphase hwon
    rw [hlog, Duress.event_claimed hworker hpresentation hphase hwon]
    exact List.mem_append_right _ (List.mem_singleton_self _)
  refine ⟨fun judged hjudged heligible => ?_, fun judged receiptId generation hphase => ?_,
    fun receiptId haccepts => ?_⟩
  · rcases advance_judged h hjudged with hbefore | ⟨hphase, hgate⟩
    · exact (hgrounded.mono hsub).judged judged hbefore heligible
    · refine ⟨presentation.eligibilityInput facts, ?_, ?_⟩
      · rw [hlog, Duress.event_evaluated hworker hpresentation hphase hgate]
        exact List.mem_append_right _ (List.mem_singleton_self _)
      · rw [← Presentation.gate_eq_judged hgate, heligible]
  · obtain ⟨hclaim, hwon⟩ := advance_probing h hphase
    exact hclaimed judged receiptId generation hclaim hwon
  · rcases advance_accepts h haccepts with hbefore | ⟨judged, generation, hphase, heligible, hwon⟩ |
      ⟨judged, generation, hphase, hgrounds⟩
    · exact (hgrounded.accepting receiptId hbefore).mono hsub
    · obtain ⟨input, hevaluated, hinput⟩ :=
        (hgrounded.mono hsub).judged judged (by rw [hphase]; rfl) heligible
      exact ⟨i, input, hevaluated, hinput, hclaimed judged receiptId generation hphase hwon⟩
    · by_cases heligible : judged.eligibility = .eligible
      · obtain ⟨input, hevaluated, hinput⟩ := hgrounded.judged judged (by rw [hphase]; rfl) heligible
        exact Licensed.mono hsub
          ⟨i, input, hevaluated, hinput, hgrounded.probing judged receiptId generation hphase⟩
      · -- the incident was opened under some receipt, and this one is the only one it can be
        have hfound := hgrounds.resolve_left heligible
        obtain ⟨incident, hincident⟩ := Option.isSome_iff_exists.mp hfound
        have hmatch := List.find?_some hincident
        have hsource := of_decide_eq_true hmatch
        obtain ⟨row, hrow, hrowSource, hlicensed⟩ := hs.opened incident
          (List.mem_of_find?_eq_some hincident) (Prod.mk.inj (Prod.mk.inj hsource).2).1
        obtain ⟨horg, hrest⟩ := Prod.mk.inj (hrowSource.symm.trans hsource)
        have hidentity := hown worker judged receiptId generation hworker hphase heligible hfound
          row hrow horg (Prod.mk.inj hrest).2
        obtain ⟨mine, hmine, hmineId, hof, _⟩ := (hs.held worker (List.mem_of_getElem? hworker)).holding
          receiptId generation (by rw [hphase]; rfl)
        obtain rfl := Table.eq_of_key s.whisper.receipts.rows_identity hrow hmine
          (hidentity.trans hof.1.symm)
        exact hmineId ▸ hlicensed.mono hsub

/-- The tables after a step of a call, whether or not it then throws. -/
theorem Duress.Accountable.moved (hs : s.Accountable log)
    (hworker : s.whisper.workers[i]? = some worker) {db : Incidents.Db} {receipts : Receipts}
    {phase next : Phase}
    (h : worker.advance text s.whisper.incidents.db s.whisper.receipts env =
      some (db, receipts, phase))
    (hnext : next = phase ∨ worker.phase.thrown = some next) (hsub : log ⊆ log')
    (hground : Worker.Grounded log' i { worker with phase := next }) :
    Duress.Accountable
      { whisper :=
          { incidents := { s.whisper.incidents with db }
            receipts
            workers := s.whisper.workers.set i { worker with phase := next } }
        presentations := s.presentations } log' := by
  have hmem := List.mem_of_getElem? hworker
  have hheld := hs.held worker hmem
  have hwrites := advance_writes h
  have hgrows := hwrites.grows
  refine ⟨?_, hs.quiet, ?_, ?_, ?_, ?_⟩
  · rw [List.length_set]
    exact hs.presented
  · intro other hother
    rcases List.mem_or_eq_of_mem_set hother with hold | rfl
    · exact (hs.held other hold).grown hgrows
    · rcases hnext with rfl | hthrown
      · exact hheld.step h
      · exact (hheld.grown hgrows).thrown hthrown
  · intro call other hother
    rcases List.getElem?_set_eq_some hother with ⟨rfl, rfl⟩ | ⟨_, hold⟩
    · exact hground
    · exact (hs.grounded call other hold).mono hsub
  · intro incident hincident hkind
    obtain ⟨row, hrow, hsource, hlicensed⟩ : ∃ row ∈ s.whisper.receipts.rows, incident.source =
        (row.identity.organisationId, .whisperRecognition, row.recognitionFingerprint) ∧
        Licensed log row.id := by
      rcases advance_sources h hheld.responding hincident hkind with
        ⟨old, hold, hsame⟩ | ⟨receiptId, generation, hphase, hown⟩
      · have holdKind : old.sourceKind = .whisperRecognition :=
          (congrArg (·.2.1) hsame).trans hkind
        obtain ⟨row, hrow, hsource, hlicensed⟩ := hs.opened old hold holdKind
        exact ⟨row, hrow, hsame.symm.trans hsource, hlicensed⟩
      · obtain ⟨row, hrow, hid, hof, _⟩ := hheld.holding receiptId generation (by rw [hphase]; rfl)
        refine ⟨row, hrow, ?_, hid ▸ (hs.grounded i worker hworker).accepting receiptId
          (by rw [hphase]; rfl)⟩
        rw [hown, hof.1, hof.2]
    obtain ⟨row', hrow', hid, hidentity, hfingerprint, _⟩ := hgrows row hrow
    refine ⟨row', hrow', ?_, ?_⟩
    · rw [hidentity, hfingerprint]
      exact hsource
    · rw [hid]
      exact hlicensed.mono hsub
  · intro row hrow houtcome
    rcases hwrites.outcome hrow houtcome with ⟨old, hold, hid, holdOutcome⟩ |
      ⟨input, hphase, hid, hinput⟩
    · exact hid ▸ (hs.accepted old hold holdOutcome).mono hsub
    · have haccepts : worker.phase.accepts? = some row.id := by
        rw [hphase, ← hid]
        exact if_pos hinput
      exact ((hs.grounded i worker hworker).accepting row.id haccepts).mono hsub

/-- A call that stops or marks. -/
theorem Duress.Accountable.stop (hs : s.Accountable log)
    (hworker : s.whisper.workers[i]? = some worker) {next : Phase}
    (hnext : next = .failed ∨ worker.phase.thrown = some next) :
    Duress.Accountable
      { s with whisper :=
          { s.whisper with workers := s.whisper.workers.set i { worker with phase := next } } }
      log := by
  have hheld := hs.held worker (List.mem_of_getElem? hworker)
  have hstopped : next = .failed ∨ ∃ receiptId generation, next = .markUnknown receiptId generation ∧
      worker.phase.claim? = some (receiptId, generation) := by
    rcases hnext with hfailed | hthrown
    · exact .inl hfailed
    · exact thrown_claim hthrown
  refine ⟨?_, hs.quiet, ?_, ?_, hs.opened, hs.accepted⟩
  · rw [List.length_set]
    exact hs.presented
  · intro other hother
    rcases List.mem_or_eq_of_mem_set hother with hold | rfl
    · exact hs.held other hold
    · rcases hnext with rfl | hthrown
      · exact .idle (fun _ _ hphase => Phase.noConfusion hphase) rfl
      · exact hheld.thrown hthrown
  · intro call other hother
    rcases List.getElem?_set_eq_some hother with ⟨rfl, rfl⟩ | ⟨_, hold⟩
    · rcases hstopped with rfl | ⟨_, _, rfl, _⟩
      all_goals exact .idle rfl rfl
    · exact hs.grounded call other hold

theorem Duress.step_eq_some {label : DuressLabel}
    (h : s.step text recognitionFingerprint label = some s') :
    ∃ base whisper, s.label recognitionFingerprint label = some base ∧
      Whisper.step text s.whisper base = some whisper ∧
      s' = { whisper, presentations := s.presented label } := by
  simp only [Duress.step, Option.bind_eq_bind, Option.bind_eq_some_iff] at h
  obtain ⟨base, hbase, whisper, hstep, h⟩ := h
  exact ⟨base, whisper, hbase, hstep, (Option.some.inj h).symm⟩

theorem Duress.Accountable.step {label : DuressLabel} (hs : s.Accountable log)
    (hown : RecoversOwn s label) (h : s.step text recognitionFingerprint label = some s') :
    s'.Accountable (log ++ (s.event label).toList) := by
  obtain ⟨base, whisper, hbase, hstep, rfl⟩ := Duress.step_eq_some h
  cases label with
  | recognise presentation =>
    cases hbase
    cases hstep
    rw [show s.event (.recognise presentation) = none from rfl, Option.toList_none, List.append_nil]
    refine ⟨?_, hs.quiet, fun worker hworker => ?_, fun call worker hworker => ?_, hs.opened,
      hs.accepted⟩
    · simp only [Duress.presented, List.length_append, List.length_singleton, hs.presented]
    · rcases List.of_mem_concat hworker with hold | rfl
      · exact hs.held worker hold
      · exact .idle (fun _ _ hphase => Phase.noConfusion hphase) rfl
    · by_cases hlt : call < s.whisper.workers.length
      · rw [List.getElem?_append_left hlt] at hworker
        exact hs.grounded call worker hworker
      · rw [List.getElem?_append_right (Nat.le_of_not_lt hlt)] at hworker
        obtain rfl := List.mem_singleton.mp (List.mem_of_getElem? hworker)
        exact .idle rfl rfl
  | advance i facts env =>
    simp only [Duress.label, Option.bind_eq_bind, Option.bind_eq_some_iff] at hbase
    obtain ⟨presentation, hpresentation, hbase⟩ := hbase
    split at hbase
    · cases hbase
      simp only [Whisper.step, Option.bind_eq_bind, Option.bind_eq_some_iff] at hstep
      obtain ⟨worker, hworker, ⟨db, receipts, phase⟩, hadvance, hstep⟩ := hstep
      cases hstep
      exact hs.moved hworker hadvance (.inl rfl) (List.subset_append_left _ _)
        (hs.ground hworker hpresentation hadvance rfl hown)
    · cases hbase
  | throws i effect =>
    rw [show s.event (.throws i effect) = none from rfl, Option.toList_none, List.append_nil]
    cases effect with
    | none =>
      cases hbase
      obtain ⟨worker, next, hworker, hthrown, ⟨_, rfl⟩ | ⟨_, _, _, _, heffect, _⟩⟩ :=
        step_throws_eq_some hstep
      · exact hs.stop hworker (.inr hthrown)
      · cases heffect
    | some effect =>
      obtain ⟨facts, env⟩ := effect
      simp only [Duress.label, Option.bind_eq_bind, Option.bind_eq_some_iff] at hbase
      obtain ⟨presentation, hpresentation, hbase⟩ := hbase
      split at hbase
      · cases hbase
        obtain ⟨worker, next, hworker, hthrown, ⟨heffect, _⟩ | ⟨_, db, receipts, phase, _, hadvance,
          rfl⟩⟩ := step_throws_eq_some hstep
        · cases heffect
        · refine hs.moved hworker hadvance (.inr hthrown) (List.Subset.refl _) ?_
          rcases thrown_claim hthrown with rfl | ⟨_, _, rfl, _⟩
          all_goals exact .idle rfl rfl
      · cases hbase
  | fail i =>
    rw [show s.event (.fail i) = none from rfl, Option.toList_none, List.append_nil]
    cases hbase
    simp only [Whisper.step, Option.bind_eq_bind, Option.bind_eq_some_iff] at hstep
    obtain ⟨worker, hworker, _, _, hstep⟩ := hstep
    cases hstep
    exact hs.stop hworker (.inl rfl)
  | incidents label =>
    rw [show s.event (.incidents label) = none from rfl, Option.toList_none, List.append_nil]
    cases hbase
    obtain ⟨hentry, incidents, hincidents, rfl⟩ := step_incidents_eq_some hstep
    obtain ⟨hquiet, hsources⟩ := incidents_step_sources hs.quiet hentry hincidents
    refine ⟨hs.presented, hquiet, hs.held, hs.grounded, fun incident hincident hkind => ?_,
      hs.accepted⟩
    obtain ⟨old, hold, hsame⟩ := hsources incident hincident hkind
    obtain ⟨row, hrow, hsource, hlicensed⟩ := hs.opened old hold
      ((congrArg (·.2.1) hsame).trans hkind)
    exact ⟨row, hrow, hsame.symm.trans hsource, hlicensed⟩

/-- In every run in which no ineligible attempt recovers an incident while another receipt of
    its organisation carries the statement: a receipt is accepted only if an attempt that
    claimed it was found eligible. -/
theorem accepted_eligible {labels : List DuressLabel}
    (hown : Transition.RunAll (Duress.step text recognitionFingerprint) RecoversOwn .init labels)
    (h : Transition.run (Duress.step text recognitionFingerprint) .init labels = some s) :
    ∀ row ∈ s.whisper.receipts.rows, row.outcome = some .accepted →
      Licensed
        (Transition.trace (Duress.step text recognitionFingerprint) Duress.event .init labels)
        row.id := by
  have hend := Transition.runAll_trace_invariant Duress.event Duress.Accountable
    Duress.Accountable.step Duress.accountable_init hown h
  exact hend.accepted

end Steps

/-! ## A shared device -/

/-- A readable stand-in for the digest: the fields of the statement that tell it apart. -/
def plainFingerprint (result : DeviceActionResult) : String :=
  "/".intercalate [result.organisationId, result.siteId, result.actorUserId, result.deviceId,
    result.whisperSignalId, toString result.whisperSignalVersion, result.deviceActionId,
    toString result.recognisedAt, result.antiReplayNonce]

/-- A signal that only one person may fire. -/
def activeSignal : SignalVersionRow :=
  { id := "version", whisperSignalId := "signal", signalVersion := 1, organisationId := "org"
    siteId := some "site", name := "duress", status := .active
    configuration :=
      { deviceActionId := "double-press", authorisedUserIds := ["alice"], contextRequirements := []
        minimumConfidence := 0, responseProtocolId := some "SILENT_INCIDENT_RESPONSE" }
    configurationFingerprint := "configuration", createdByUserId := "carol", traceId := "trace"
    activatedAt := some 0, rotatedAt := none, retiredAt := none }

/-- That person's statement, signed by a device two people use. -/
def alicesStatement : DeviceActionResult :=
  { organisationId := "org", siteId := "site", actorUserId := "alice", deviceId := "radio"
    whisperSignalId := "signal", whisperSignalVersion := 1, deviceActionId := "double-press"
    recognisedAt := 0, confidence := 1, antiReplayNonce := "nonce", traceId := "trace" }

/-- The statement, presented by someone logged in on the device. -/
def presentedBy (actor : String) : Presentation :=
  { context :=
      { organisationId := "org", actorUserId := actor, deviceId := "radio"
        authorisedSiteIds := ["site"], deviceTrust := .trusted }
    result := alicesStatement
    principal := { organisationId := "org", userId := actor } }

def callSteps (call count : Nat) (now : Int) (receiptId : String) : List DuressLabel :=
  List.replicate count
    (.advance call { stored := some activeSignal, receivedAt := now }
      { now, receiptId, incidents := Incidents.plainEnv })

/-- A check of `RecoversOwn` that looks for ineligible probes only. -/
def recoversCheck (s : Duress) : DuressLabel → Bool
  | .advance i _ _ =>
    match s.whisper.workers[i]? with
    | some ⟨_, .probe judged ..⟩ => judged.eligibility = .eligible
    | _ => true
  | _ => true

theorem recoversOwn_of_checked {s : Duress} {label : DuressLabel}
    (h : recoversCheck s label = true) : RecoversOwn s label := by
  cases label with
  | advance i facts env =>
    rintro ⟨recognition, _⟩ judged receiptId generation hworker rfl hineligible
    simp only [recoversCheck, hworker] at h
    exact absurd (of_decide_eq_true h) hineligible
  | _ => trivial

/-- The one who may fire the signal does, and is accepted. -/
def firedByAlice : List DuressLabel :=
  [.recognise (presentedBy "alice")] ++ callSteps 0 12 0 "alices"

theorem accepted_eligible_alice :
    ∃ s, Transition.run (Duress.step Incidents.plainText plainFingerprint) .init firedByAlice =
        some s ∧
      ∃ row ∈ s.whisper.receipts.rows, row.outcome = some .accepted ∧
        Licensed (Transition.trace (Duress.step Incidents.plainText plainFingerprint) Duress.event
          .init firedByAlice) row.id := by
  have hrun : (Transition.run (Duress.step Incidents.plainText plainFingerprint) .init
      firedByAlice).isSome = true := by
    decide
  have hall : Transition.RunAll (Duress.step Incidents.plainText plainFingerprint) RecoversOwn
      .init firedByAlice :=
    Transition.runAll_of_checked (fun _ _ => recoversOwn_of_checked) (by decide)
  have haccepted : ∃ row ∈ ((Transition.run (Duress.step Incidents.plainText plainFingerprint) .init
      firedByAlice).getD .init).whisper.receipts.rows, row.outcome = some .accepted := by
    decide
  obtain ⟨row, hrow, houtcome⟩ := haccepted
  exact ⟨_, Transition.run_eq_some_getD hrun, row, hrow, houtcome,
    accepted_eligible hall (Transition.run_eq_some_getD hrun) row hrow houtcome⟩

/-- The incident of the statement is opened; someone else logged in on the device presents the
    statement, dies with the claim of a receipt of their own, and presents it again. -/
def firedByBob : List DuressLabel :=
  [.recognise (presentedBy "alice")] ++ callSteps 0 5 0 "alices" ++
    [.recognise (presentedBy "bob")] ++ callSteps 1 4 0 "bobs" ++ [.fail 1] ++
    [.recognise (presentedBy "bob")] ++ callSteps 2 15 60001 "again"

def onlyCallZero (receiptId : String) : DuressEvent → Bool
  | .evaluated call input => call = 0 || evaluateRuntimeEligibility input ≠ .eligible
  | .claimed call claimedId => call ≠ 0 || claimedId ≠ receiptId

theorem not_licensed {log : List DuressEvent} {receiptId : String}
    (h : log.all (onlyCallZero receiptId) = true) : ¬ Licensed log receiptId := by
  rintro ⟨call, input, hevaluated, heligible, hclaimed⟩
  have hcall := List.all_eq_true.mp h _ hevaluated
  have hreceipt := List.all_eq_true.mp h _ hclaimed
  simp [onlyCallZero, heligible] at hcall
  simp [onlyCallZero, hcall] at hreceipt

/-- The second receipt is accepted, though every attempt under it was refused by the gate. -/
theorem sharedDevice_acceptsIneligible :
    ∃ s, Transition.run (Duress.step Incidents.plainText plainFingerprint) .init firedByBob =
        some s ∧
      ∃ row ∈ s.whisper.receipts.rows, row.outcome = some .accepted ∧
        ¬ Licensed (Transition.trace (Duress.step Incidents.plainText plainFingerprint) Duress.event
          .init firedByBob) row.id := by
  have hrun : (Transition.run (Duress.step Incidents.plainText plainFingerprint) .init
      firedByBob).isSome = true := by
    decide
  have haccepted : ∃ row ∈ ((Transition.run (Duress.step Incidents.plainText plainFingerprint) .init
      firedByBob).getD .init).whisper.receipts.rows,
      row.outcome = some .accepted ∧ row.id = "bobs" := by
    decide
  obtain ⟨row, hrow, houtcome, hid⟩ := haccepted
  refine ⟨_, Transition.run_eq_some_getD hrun, row, hrow, houtcome, not_licensed ?_⟩
  rw [hid]
  decide

end Sentinel.Whisper
