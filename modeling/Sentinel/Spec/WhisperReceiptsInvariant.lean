import Sentinel.Native.WhisperService
import Sentinel.Spec.IncidentStoreInvariant

/-! # What a step writes to the Whisper receipts

What a step of a call writes (`Receipts.Grows`), which claim it holds afterwards and what a refusal
rests on. -/

namespace Sentinel.Whisper

open Receipts (Finalization claimable claimed fenced finalized)

/-! ## The table -/

namespace Receipts

theorem findReceiptByIdentity_eq_some {receipts : Receipts} {identity : ReplayIdentity}
    {row : ReceiptRow} (h : receipts.findReceiptByIdentity identity = some row) :
    row ∈ receipts.rows ∧ row.identity = identity :=
  Table.of_find? h

theorem create_eq_some {receipts receipts' : Receipts} {row : ReceiptRow}
    (h : receipts.create row = some receipts') : receipts'.rows = receipts.rows ++ [row] := by
  rw [create] at h
  split at h
  · cases h
    rfl
  · cases h

theorem claimReceipt_eq_some {receipts receipts' : Receipts} {receiptId : String} {now : Int}
    {generation : Nat} (h : receipts.claimReceipt receiptId now = (some generation, receipts')) :
    ∃ row ∈ receipts.rows, row.id = receiptId ∧ claimable receiptId now row = true ∧
      generation = row.attemptCount + 1 ∧
      receipts'.rows = Table.rewrite (claimable receiptId now) (claimed now) receipts.rows := by
  rw [claimReceipt] at h
  split at h
  · cases (Prod.mk.inj h).1
  · rename_i row hfind
    obtain ⟨hgeneration, rfl⟩ := Prod.mk.inj h
    have hclaimable := List.find?_some hfind
    have hid := of_decide_eq_true hclaimable
    exact ⟨row, List.mem_of_find?_eq_some hfind, hid.1, hclaimable,
      (Option.some.inj hgeneration).symm, rfl⟩

theorem claimReceipt_eq_none {receipts receipts' : Receipts} {receiptId : String} {now : Int}
    (h : receipts.claimReceipt receiptId now = (none, receipts')) : receipts' = receipts := by
  rw [claimReceipt] at h
  split at h
  · exact (Prod.mk.inj h).2.symm
  · cases (Prod.mk.inj h).1

theorem finalizeReceipt_eq_true {receipts receipts' : Receipts} {input : Finalization} {now : Int}
    (h : receipts.finalizeReceipt input now = (true, receipts')) :
    receipts'.rows = Table.rewrite (fenced input.receiptId input.claimGeneration)
      (finalized input now) receipts.rows := by
  rw [finalizeReceipt] at h
  split at h
  · cases h
    rfl
  · cases (Prod.mk.inj h).1

theorem finalizeReceipt_eq_false {receipts receipts' : Receipts} {input : Finalization} {now : Int}
    (h : receipts.finalizeReceipt input now = (false, receipts')) : receipts' = receipts := by
  rw [finalizeReceipt] at h
  split at h
  · cases (Prod.mk.inj h).1
  · exact (Prod.mk.inj h).2.symm

/-- What every step keeps. -/
def Grows (receipts receipts' : Receipts) : Prop :=
  ∀ row ∈ receipts.rows, ∃ row' ∈ receipts'.rows, row'.id = row.id ∧
    row'.identity = row.identity ∧
    row'.recognitionFingerprint = row.recognitionFingerprint ∧
    row.attemptCount ≤ row'.attemptCount ∧ (row.isFinalized = true → row' = row)

theorem Grows.refl (receipts : Receipts) : receipts.Grows receipts :=
  fun row h => ⟨row, h, rfl, rfl, rfl, Nat.le_refl _, fun _ => rfl⟩

/-- An update that leaves what is finalized alone. -/
theorem Grows.rewrite {receipts receipts' : Receipts} {p : ReceiptRow → Bool}
    {f : ReceiptRow → ReceiptRow} (h : receipts'.rows = Table.rewrite p f receipts.rows)
    (hkeep : ∀ row, (f row).id = row.id ∧ (f row).identity = row.identity ∧
      (f row).recognitionFingerprint = row.recognitionFingerprint ∧
      row.attemptCount ≤ (f row).attemptCount)
    (hopen : ∀ row, p row = true → row.isFinalized = false) : receipts.Grows receipts' := by
  intro row hrow
  refine ⟨if p row then f row else row, ?_, ?_⟩
  · rw [h]
    exact Table.mem_rewrite.mpr ⟨row, hrow, rfl⟩
  · split
    · rename_i hp
      obtain ⟨hid, hidentity, hfingerprint, hcount⟩ := hkeep row
      exact ⟨hid, hidentity, hfingerprint, hcount, fun hfinal =>
        absurd hfinal (by simp [hopen row hp])⟩
    · exact ⟨rfl, rfl, rfl, Nat.le_refl _, fun _ => rfl⟩

end Receipts

theorem claimable_open {receiptId : String} {now : Int} {row : ReceiptRow}
    (h : claimable receiptId now row = true) : row.isFinalized = false := by
  have hstatus := (of_decide_eq_true h).2
  rcases hstatus with hstatus | hstatus | ⟨hstatus, _⟩
  all_goals simp [ReceiptRow.isFinalized, ReceiptStatus.terminal, hstatus]

theorem fenced_iff {receiptId : String} {claimGeneration : Nat} {row : ReceiptRow} :
    fenced receiptId claimGeneration row = true ↔
      row.id = receiptId ∧ row.status = .applying ∧ row.attemptCount = claimGeneration :=
  decide_eq_true_iff

theorem fenced_open {receiptId : String} {claimGeneration : Nat} {row : ReceiptRow}
    (h : fenced receiptId claimGeneration row = true) : row.isFinalized = false := by
  simp [ReceiptRow.isFinalized, ReceiptStatus.terminal, (fenced_iff.mp h).2.1]

/-! ## What a step writes -/

/-- The operation a step of a call performs on the receipts. -/
inductive Worker.Writes (env : Env) (receipts : Receipts) (worker : Worker) : Receipts → Prop
  | nothing : Writes env receipts worker receipts
  | created {judged : Judged} {receipts' : Receipts} (phase : worker.phase = .ensure judged)
      (write : receipts.create (newReceipt worker.recognition judged env.receiptId) =
        some receipts') : Writes env receipts worker receipts'
  | claimed {judged : Judged} {receiptId : String} {generation : Nat} {receipts' : Receipts}
      (phase : worker.phase = .claim judged receiptId)
      (write : receipts.claimReceipt receiptId env.now = (some generation, receipts')) :
      Writes env receipts worker receipts'
  | finalized {input : Finalization} {receipts' : Receipts}
      (phase : worker.phase = .finalize input)
      (write : receipts.finalizeReceipt input env.now = (true, receipts')) :
      Writes env receipts worker receipts'
  | marked {receiptId : String} {claimGeneration : Nat} :
      Writes env receipts worker (receipts.markReceiptUnknown receiptId claimGeneration)

section Advance

variable {text : Constitution.Text} {worker : Worker} {db db' : Incidents.Db}
  {receipts receipts' : Receipts} {env : Env} {phase : Phase}

theorem advance_writes
    (h : worker.advance text db receipts env = some (db', receipts', phase)) :
    worker.Writes env receipts receipts' := by
  obtain ⟨recognition, now⟩ := worker
  cases now with
  | ensure judged =>
    simp only [Worker.advance] at h
    split at h
    · rename_i hcreate
      cases h
      exact .created rfl hcreate
    · cases h
      exact .nothing
  | claim judged receiptId =>
    simp only [Worker.advance] at h
    split at h
    · rename_i hclaim
      cases h
      exact Receipts.claimReceipt_eq_none hclaim ▸ .nothing
    · rename_i hclaim
      split at h
      all_goals
        cases h
        exact .claimed rfl hclaim
  | markUnknown receiptId claimGeneration =>
    cases h
    exact .marked
  | finalize input =>
    simp only [Worker.advance] at h
    split at h
    · rename_i hfinalize
      cases h
      exact .finalized rfl hfinalize
    · rename_i hfinalize
      cases h
      exact Receipts.finalizeReceipt_eq_false hfinalize ▸ .nothing
  | respond receiptId claimGeneration incidentId response =>
    simp only [Worker.advance, Option.bind_eq_bind, Option.bind_eq_some_iff] at h
    obtain ⟨⟨_, _⟩, _, h⟩ := h
    split at h
    all_goals
      cases h
      exact .nothing
  | returned | failed => cases h
  | _ =>
    -- the other steps do not write to the receipts
    simp only [Worker.advance] at h
    repeat' split at h
    all_goals
      cases h
      exact .nothing

theorem Worker.Writes.grows (h : worker.Writes env receipts receipts') :
    receipts.Grows receipts' := by
  cases h with
  | nothing => exact .refl receipts
  | created _ write =>
    intro row hrow
    rw [Receipts.create_eq_some write]
    exact ⟨row, List.mem_append_left _ hrow, rfl, rfl, rfl, Nat.le_refl _, fun _ => rfl⟩
  | claimed _ write =>
    obtain ⟨_, _, _, _, _, hrows⟩ := Receipts.claimReceipt_eq_some write
    exact .rewrite hrows (fun _ => ⟨rfl, rfl, rfl, Nat.le_succ _⟩) fun _ => claimable_open
  | finalized _ write =>
    exact .rewrite (Receipts.finalizeReceipt_eq_true write)
      (fun _ => ⟨rfl, rfl, rfl, Nat.le_refl _⟩) fun _ => fenced_open
  | marked => exact .rewrite rfl (fun _ => ⟨rfl, rfl, rfl, Nat.le_refl _⟩) fun _ => fenced_open

/-- Where a receipt of the table after a step comes from. -/
theorem Worker.Writes.rows (h : worker.Writes env receipts receipts') {row' : ReceiptRow}
    (hrow' : row' ∈ receipts'.rows) :
    row' ∈ receipts.rows ∨ row'.status = .received ∨ row'.status = .unknown ∨
    (∃ row ∈ receipts.rows, ∃ judged, worker.phase = .claim judged row.id ∧
      row' = Receipts.claimed env.now row) ∨
    ∃ row ∈ receipts.rows, ∃ input, worker.phase = .finalize input ∧
      fenced input.receiptId input.claimGeneration row = true ∧
      row' = Receipts.finalized input env.now row := by
  cases h with
  | nothing => exact .inl hrow'
  | created _ write =>
    rw [Receipts.create_eq_some write] at hrow'
    rcases List.of_mem_concat hrow' with hold | rfl
    · exact .inl hold
    · exact .inr (.inl rfl)
  | claimed phase write =>
    obtain ⟨_, _, _, _, _, hrows⟩ := Receipts.claimReceipt_eq_some write
    rw [hrows] at hrow'
    obtain ⟨row, hrow, rfl⟩ := Table.mem_rewrite.mp hrow'
    split
    · rename_i hclaimable
      obtain rfl := (of_decide_eq_true hclaimable).1
      exact .inr (.inr (.inr (.inl ⟨row, hrow, _, phase, rfl⟩)))
    · exact .inl hrow
  | finalized phase write =>
    rw [Receipts.finalizeReceipt_eq_true write] at hrow'
    obtain ⟨row, hrow, rfl⟩ := Table.mem_rewrite.mp hrow'
    split
    · exact .inr (.inr (.inr (.inr ⟨row, hrow, _, phase, ‹_›, rfl⟩)))
    · exact .inl hrow
  | marked =>
    obtain ⟨row, hrow, rfl⟩ := Table.mem_rewrite.mp hrow'
    split
    · exact .inr (.inr (.inl rfl))
    · exact .inl hrow

def Phase.claim? : Phase → Option (String × Nat)
  | .probe _ receiptId claimGeneration | .openIncident receiptId claimGeneration
  | .converge receiptId claimGeneration | .respond receiptId claimGeneration _ _
  | .markUnknown receiptId claimGeneration => some (receiptId, claimGeneration)
  | .finalize input => some (input.receiptId, input.claimGeneration)
  | _ => none

/-- A claimed attempt goes on, or refuses because it recovered nothing. -/
theorem decideClaimed_cases (judged : Judged) (receiptId : String) (claimGeneration : Nat)
    (recovered : Option Incidents.IncidentRow) :
    decideClaimed judged receiptId claimGeneration recovered =
        .openIncident receiptId claimGeneration ∨
      recovered = none ∧ ∃ conflictCode,
        decideClaimed judged receiptId claimGeneration recovered =
          .finalize (refusal receiptId claimGeneration conflictCode) := by
  obtain ⟨eligibility, _, _⟩ := judged
  cases recovered with
  | some => exact .inl rfl
  | none =>
    cases eligibility with
    | eligible => exact .inl rfl
    | ineligible conflictCode => exact .inr ⟨rfl, conflictCode, rfl⟩

theorem claim?_decideClaimed (judged : Judged) (receiptId : String) (claimGeneration : Nat)
    (recovered : Option Incidents.IncidentRow) :
    (decideClaimed judged receiptId claimGeneration recovered).claim? =
      some (receiptId, claimGeneration) := by
  rcases decideClaimed_cases judged receiptId claimGeneration recovered with h | ⟨_, _, h⟩
  all_goals
    rw [h]
    rfl

/-- The claim a call holds after a step, it held before or has just won. -/
theorem advance_claim (h : worker.advance text db receipts env = some (db', receipts', phase))
    {receiptId : String} {generation : Nat} (hclaim : phase.claim? = some (receiptId, generation)) :
    worker.phase.claim? = some (receiptId, generation) ∨
      ∃ judged, worker.phase = .claim judged receiptId ∧
        receipts.claimReceipt receiptId env.now = (some generation, receipts') := by
  obtain ⟨recognition, now⟩ := worker
  cases now with
  | claim judged claimedId =>
    right
    simp only [Worker.advance] at h
    split at h
    · cases h
      cases hclaim
    · rename_i hwon
      split at h
      all_goals
        cases h
      · cases hclaim
        exact ⟨judged, rfl, hwon⟩
      · rw [claim?_decideClaimed] at hclaim
        cases hclaim
        exact ⟨judged, rfl, hwon⟩
  | probe judged claimedId claimGeneration =>
    left
    cases h
    rw [claim?_decideClaimed] at hclaim
    exact hclaim
  | respond claimedId claimGeneration incidentId response =>
    left
    simp only [Worker.advance, Option.bind_eq_bind, Option.bind_eq_some_iff] at h
    obtain ⟨⟨_, _⟩, _, h⟩ := h
    split at h
    all_goals
      cases h
      exact hclaim
  | returned | failed => cases h
  | _ =>
    left
    simp only [Worker.advance] at h
    repeat' split at h
    all_goals
      cases h
      first
        | exact hclaim
        | cases hclaim

/-- A call turns to claim the receipt of its identity with its statement. -/
theorem advance_claiming (h : worker.advance text db receipts env = some (db', receipts', phase))
    {judged : Judged} {receiptId : String} (hphase : phase = .claim judged receiptId) :
    ∃ row ∈ receipts'.rows, row.id = receiptId ∧ row.identity = worker.recognition.identity ∧
      row.recognitionFingerprint = worker.recognition.recognitionFingerprint := by
  subst hphase
  obtain ⟨recognition, now⟩ := worker
  cases now with
  | ensure judged =>
    simp only [Worker.advance] at h
    split at h
    · rename_i hcreate
      obtain ⟨_, hrest⟩ := Prod.mk.inj (Option.some.inj h)
      obtain ⟨rfl, hphase⟩ := Prod.mk.inj hrest
      obtain ⟨_, rfl⟩ := Phase.claim.inj hphase
      rw [Receipts.create_eq_some hcreate]
      exact ⟨_, List.mem_append_right _ (List.mem_singleton_self _), rfl, rfl, rfl⟩
    · cases h
  | ensureRead judged =>
    simp only [Worker.advance] at h
    split at h
    · cases h
    · rename_i receipt hfind
      split at h
      · rename_i hproceed
        obtain ⟨_, hrest⟩ := Prod.mk.inj (Option.some.inj h)
        obtain ⟨rfl, hphase⟩ := Prod.mk.inj hrest
        obtain ⟨_, rfl⟩ := Phase.claim.inj hphase
        obtain ⟨hmem, hidentity⟩ := Receipts.findReceiptByIdentity_eq_some hfind
        refine ⟨receipt, hmem, rfl, hidentity, ?_⟩
        -- another statement would have been answered
        by_contra hother
        rw [classifyAgainstReceipt, if_pos hother] at hproceed
        cases hproceed
      · cases h
      · cases h
  | respond =>
    simp only [Worker.advance, Option.bind_eq_bind, Option.bind_eq_some_iff] at h
    obtain ⟨⟨_, _⟩, _, h⟩ := h
    split at h
    all_goals cases h
  | returned | failed => cases h
  | _ =>
    simp only [Worker.advance, decideClaimed, respondPhase] at h
    repeat' split at h
    all_goals cases h

/-- What a refusal rests on: the first claim of the receipt, or a probe that found no
    incident. -/
theorem advance_refusal (h : worker.advance text db receipts env = some (db', receipts', phase))
    {input : Finalization} (hphase : phase = .finalize input) (hrefused : input.status = .refused) :
    (∃ judged, worker.phase = .claim judged input.receiptId ∧ input.claimGeneration ≤ 1 ∧
      receipts.claimReceipt input.receiptId env.now = (some input.claimGeneration, receipts')) ∨
    ∃ judged, worker.phase = .probe judged input.receiptId input.claimGeneration ∧
      db.findByWhisperRecognition worker.recognition.identity.organisationId
        worker.recognition.recognitionFingerprint = none := by
  subst hphase
  obtain ⟨recognition, now⟩ := worker
  cases now with
  | claim judged claimedId =>
    left
    simp only [Worker.advance] at h
    split at h
    · cases h
    · rename_i hwon
      split at h
      · cases h
      · rename_i hfirst
        obtain ⟨_, hrest⟩ := Prod.mk.inj (Option.some.inj h)
        obtain ⟨rfl, hphase⟩ := Prod.mk.inj hrest
        have hclaim := congrArg Phase.claim? hphase
        rw [claim?_decideClaimed] at hclaim
        cases hclaim
        exact ⟨judged, rfl, Nat.le_of_not_lt hfirst, hwon⟩
  | probe judged claimedId claimGeneration =>
    right
    obtain ⟨_, hrest⟩ := Prod.mk.inj (Option.some.inj h)
    obtain ⟨_, hphase⟩ := Prod.mk.inj hrest
    have hclaim := claim?_decideClaimed judged claimedId claimGeneration
      (db.findByWhisperRecognition recognition.identity.organisationId
        recognition.recognitionFingerprint)
    rw [hphase] at hclaim
    cases hclaim
    refine ⟨judged, rfl, ?_⟩
    rcases decideClaimed_cases judged input.receiptId input.claimGeneration
      (db.findByWhisperRecognition recognition.identity.organisationId
        recognition.recognitionFingerprint) with hopen | ⟨hnone, _⟩
    · cases hopen.symm.trans hphase
    · exact hnone
  | respond =>
    simp only [Worker.advance, Option.bind_eq_bind, Option.bind_eq_some_iff] at h
    obtain ⟨⟨_, _⟩, _, h⟩ := h
    split at h
    · obtain ⟨_, hrest⟩ := Prod.mk.inj (Option.some.inj h)
      obtain rfl := Phase.finalize.inj (Prod.mk.inj hrest).2
      cases hrefused
    all_goals cases h
  | returned | failed => cases h
  | _ =>
    simp only [Worker.advance, respondPhase] at h
    repeat' split at h
    all_goals cases h

/-- Only the opening of an attempt brings an incident of a recognition, and of its own. -/
theorem advance_sources (h : worker.advance text db receipts env = some (db', receipts', phase))
    (hresponding : ∀ receiptId claimGeneration incidentId response,
      worker.phase = .respond receiptId claimGeneration incidentId response →
      response.phase ≠ .start) {row' : Incidents.IncidentRow} (hmem : row' ∈ db'.incidents)
    (hkind : row'.sourceKind = .whisperRecognition) :
    (∃ row ∈ db.incidents, row.source = row'.source) ∨
    ∃ receiptId claimGeneration, worker.phase = .openIncident receiptId claimGeneration ∧
      row'.source = (worker.recognition.identity.organisationId, .whisperRecognition,
        worker.recognition.recognitionFingerprint) := by
  have hkept : db' = db → ∃ row ∈ db.incidents, row.source = row'.source :=
    fun hsame => ⟨row', hsame ▸ hmem, rfl⟩
  obtain ⟨recognition, now⟩ := worker
  cases now with
  | openIncident receiptId claimGeneration =>
    simp only [Worker.advance] at h
    split at h
    · rename_i hopen
      cases h
      obtain ⟨inserted, hinsert, rfl⟩ := Incidents.Db.openIncident_eq_some hopen
      have hadded : row' ∈ inserted.incidents := hmem
      rw [(Incidents.Db.insertIncident_eq_some hinsert).1] at hadded
      rcases List.of_mem_concat hadded with hold | rfl
      · exact .inl ⟨row', hold, rfl⟩
      · exact .inr ⟨receiptId, claimGeneration, rfl, rfl⟩
    · exact .inl (hkept (Prod.mk.inj (Option.some.inj h)).1.symm)
  | respond receiptId claimGeneration incidentId response =>
    left
    simp only [Worker.advance, Option.bind_eq_bind, Option.bind_eq_some_iff] at h
    obtain ⟨⟨db'', next⟩, hresponse, h⟩ := h
    have hdb : db' = db'' := by
      split at h
      all_goals exact (Prod.mk.inj (Option.some.inj h)).1.symm
    subst hdb
    exact (Incidents.advance_writes hresponse).sources
      (fun _ _ => hresponding _ _ _ _ rfl) hmem hkind
  | returned | failed => cases h
  | _ =>
    left
    simp only [Worker.advance] at h
    repeat' split at h
    all_goals exact hkept (Prod.mk.inj (Option.some.inj h)).1.symm

/-- The response of an attempt is past its start. -/
theorem advance_responding (h : worker.advance text db receipts env = some (db', receipts', phase))
    {receiptId incidentId : String} {claimGeneration : Nat} {response : Incidents.Worker}
    (hphase : phase = .respond receiptId claimGeneration incidentId response) :
    response.phase ≠ .start := by
  subst hphase
  obtain ⟨recognition, now⟩ := worker
  cases now with
  | openIncident | converge =>
    simp only [Worker.advance] at h
    split at h
    all_goals
      cases h
      first
        | done
        | exact fun hstart => Incidents.Phase.noConfusion hstart
  | respond =>
    simp only [Worker.advance, Option.bind_eq_bind, Option.bind_eq_some_iff] at h
    obtain ⟨⟨db'', next⟩, hresponse, h⟩ := h
    split at h
    · cases h
    · cases h
    · obtain ⟨_, _, _, rfl⟩ := Phase.respond.inj (Prod.mk.inj (Prod.mk.inj (Option.some.inj h)).2).2
      exact Incidents.advance_ne_start hresponse
  | returned | failed => cases h
  | _ =>
    simp only [Worker.advance, decideClaimed] at h
    repeat' split at h
    all_goals cases h

end Advance

end Sentinel.Whisper
