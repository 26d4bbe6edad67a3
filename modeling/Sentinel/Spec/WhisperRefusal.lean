import Sentinel.Spec.SilentResponse
import Sentinel.Spec.WhisperReceiptsInvariant

/-! # A refused recognition opens nothing

The incident is opened outside the fenced transaction, and an attempt that stalls before it does not
look at its claim again. -/

namespace Sentinel.Whisper

open Receipts (Finalization claimed fenced finalized)

/-! ## Claims -/

def ReceiptRow.Of (row : ReceiptRow) (recognition : Recognition) : Prop :=
  row.identity = recognition.identity ∧
    row.recognitionFingerprint = recognition.recognitionFingerprint

/-- What a call says it claims or has claimed is the receipt of its recognition. -/
structure Worker.Held (receipts : Receipts) (worker : Worker) : Prop where
  claiming : ∀ judged receiptId, worker.phase = .claim judged receiptId →
    ∃ row ∈ receipts.rows, row.id = receiptId ∧ row.Of worker.recognition
  holding : ∀ receiptId generation, worker.phase.claim? = some (receiptId, generation) →
    ∃ row ∈ receipts.rows, row.id = receiptId ∧ row.Of worker.recognition ∧
      0 < generation ∧ generation ≤ row.attemptCount
  responding : ∀ receiptId claimGeneration incidentId response,
    worker.phase = .respond receiptId claimGeneration incidentId response →
    response.phase ≠ .start

/-- A call that neither claims nor responds. -/
theorem Worker.Held.idle {receipts : Receipts} {recognition : Recognition} {phase : Phase}
    (hclaim : ∀ judged receiptId, phase ≠ .claim judged receiptId) (hholds : phase.claim? = none) :
    Worker.Held receipts ⟨recognition, phase⟩ where
  claiming _ _ h := absurd h (hclaim _ _)
  holding _ _ h := nomatch hholds.symm.trans h
  responding _ _ _ _ h := by
    obtain rfl : phase = _ := h
    cases hholds

theorem Worker.Held.grown {receipts receipts' : Receipts} {worker : Worker}
    (h : worker.Held receipts) (hgrows : receipts.Grows receipts') : worker.Held receipts' where
  claiming judged receiptId hphase := by
    obtain ⟨row, hrow, hid, hidentity, hfingerprint⟩ := h.claiming judged receiptId hphase
    obtain ⟨row', hrow', hid', hidentity', hfingerprint', _⟩ := hgrows row hrow
    exact ⟨row', hrow', hid'.trans hid, hidentity'.trans hidentity,
      hfingerprint'.trans hfingerprint⟩
  holding receiptId generation hclaim := by
    obtain ⟨row, hrow, hid, ⟨hidentity, hfingerprint⟩, hpos, hle⟩ :=
      h.holding receiptId generation hclaim
    obtain ⟨row', hrow', hid', hidentity', hfingerprint', hcount, _⟩ := hgrows row hrow
    exact ⟨row', hrow', hid'.trans hid, ⟨hidentity'.trans hidentity,
      hfingerprint'.trans hfingerprint⟩, hpos, hle.trans hcount⟩
  responding := h.responding

theorem Worker.Held.step {text : Constitution.Text} {worker : Worker} {db db' : Incidents.Db}
    {receipts receipts' : Receipts} {env : Env} {phase : Phase} (hheld : worker.Held receipts)
    (h : worker.advance text db receipts env = some (db', receipts', phase)) :
    Worker.Held receipts' { worker with phase } where
  claiming judged receiptId hphase := by
    obtain ⟨row, hrow, hid, hidentity, hfingerprint⟩ := advance_claiming h hphase
    exact ⟨row, hrow, hid, hidentity, hfingerprint⟩
  holding receiptId generation hclaim := by
    have hgrows := (advance_writes h).grows
    rcases advance_claim h hclaim with hold | ⟨judged, hphase, hwon⟩
    · exact (hheld.grown hgrows).holding receiptId generation hold
    · obtain ⟨row, hrow, hid, hof⟩ := hheld.claiming judged receiptId hphase
      obtain ⟨won, hmem, hwonId, hclaimable, rfl, hrows⟩ := Receipts.claimReceipt_eq_some hwon
      obtain rfl : row = won := Table.eq_of_key receipts.rows_id hrow hmem (hid.trans hwonId.symm)
      refine ⟨claimed env.now row, ?_, hid, hof, Nat.succ_pos _, Nat.le_refl _⟩
      rw [hrows]
      exact Table.mem_rewrite_of_hit hmem hclaimable
  responding _ _ _ _ hphase := advance_responding h hphase

/-- A call whose statement throws keeps its claim at most. -/
theorem thrown_claim {phase next : Phase} (h : phase.thrown = some next) :
    (next = .failed ∨ ∃ receiptId generation, next = .markUnknown receiptId generation ∧
      phase.claim? = some (receiptId, generation)) := by
  cases phase with
  | openIncident | converge | respond | finalize =>
    cases h
    exact .inr ⟨_, _, rfl, rfl⟩
  | returned | failed => cases h
  | _ =>
    cases h
    exact .inl rfl

theorem Worker.Held.thrown {receipts : Receipts} {worker : Worker} {next : Phase}
    (hheld : worker.Held receipts) (h : worker.phase.thrown = some next) :
    Worker.Held receipts { worker with phase := next } := by
  rcases thrown_claim h with rfl | ⟨receiptId, generation, rfl, hclaim⟩
  · exact .idle (fun _ _ hphase => Phase.noConfusion hphase) rfl
  · refine ⟨fun _ _ hphase => Phase.noConfusion hphase, fun receiptId' generation' hclaim' => ?_,
      fun _ _ _ _ hphase => Phase.noConfusion hphase⟩
    exact hheld.holding receiptId' generation' (hclaim.trans hclaim')

/-! ## Refusals -/

/-- The call is about to write a refusal under the claim. -/
def Phase.Refuses (receiptId : String) (generation : Nat) (phase : Phase) : Prop :=
  ∃ input, phase = .finalize input ∧ input.status = .refused ∧ input.receiptId = receiptId ∧
    input.claimGeneration = generation

/-- The receipt is refused, or the attempt that holds its claim is about to refuse it. -/
def State.Refusing (s : State) (row : ReceiptRow) : Prop :=
  row.status = .refused ∨
    row.status = .applying ∧
      ∃ worker ∈ s.workers, worker.phase.Refuses row.id row.attemptCount

/-- No attempt enters the incidents domain once its receipt is refused or the attempt that
    holds the claim is about to refuse. -/
def OpensInTime (s : State) : Label → Prop
  | .advance i _ | .throws i (some _) => ∀ worker receiptId generation,
      s.workers[i]? = some worker → worker.phase = .openIncident receiptId generation →
      ∀ row ∈ s.receipts.rows, row.id = receiptId → ¬ s.Refusing row
  | _ => True

def PresentedUnder (identity : ReplayIdentity) (fingerprint : String) : Label → Prop
  | .recognise recognition =>
    recognition.identity.organisationId = identity.organisationId →
      recognition.recognitionFingerprint = fingerprint → recognition.identity = identity
  | _ => True

def State.Opened (s : State) (identity : ReplayIdentity) (fingerprint : String) : Prop :=
  ∃ incident ∈ s.incidents.db.incidents,
    incident.source = (identity.organisationId, .whisperRecognition, fingerprint)

/-- What every step keeps for a statement and its identity. -/
structure State.Truthful (identity : ReplayIdentity) (fingerprint : String) (s : State) :
    Prop where
  presented : ∀ worker ∈ s.workers,
    worker.recognition.identity.organisationId = identity.organisationId →
    worker.recognition.recognitionFingerprint = fingerprint →
    worker.recognition.identity = identity
  quiet : ∀ worker ∈ s.incidents.workers, ∀ input,
    worker.call ≠ .openWhisperSilentIncident input
  held : ∀ worker ∈ s.workers, worker.Held s.receipts
  attempted : s.Opened identity fingerprint →
    ∃ row ∈ s.receipts.rows, row.identity = identity ∧ 0 < row.attemptCount
  refused : ∀ row ∈ s.receipts.rows, row.identity = identity →
    row.recognitionFingerprint = fingerprint → s.Refusing row → ¬ s.Opened identity fingerprint

section Steps

variable {text : Constitution.Text} {identity : ReplayIdentity} {fingerprint : String} {s s' : State}

theorem State.truthful_init : State.init.Truthful identity fingerprint where
  presented _ h := nomatch h
  quiet _ h := nomatch h
  held _ h := nomatch h
  attempted := by
    rintro ⟨_, h, _⟩
    cases h
  refused _ h := nomatch h

theorem State.Truthful.stop (hs : s.Truthful identity fingerprint) {i : Nat} {worker : Worker}
    {next : Phase} (hworker : s.workers[i]? = some worker)
    (hheld : Worker.Held s.receipts { worker with phase := next })
    (hnext : ∀ input, next ≠ .finalize input) :
    State.Truthful identity fingerprint
      { s with workers := s.workers.set i { worker with phase := next } } where
  presented other hother := by
    rcases List.mem_or_eq_of_mem_set hother with hold | rfl
    · exact hs.presented other hold
    · exact hs.presented worker (List.mem_of_getElem? hworker)
  quiet := hs.quiet
  held other hother := by
    rcases List.mem_or_eq_of_mem_set hother with hold | rfl
    · exact hs.held other hold
    · exact hheld
  attempted := hs.attempted
  refused row hrow hidentity hfingerprint hrefusing := by
    refine hs.refused row hrow hidentity hfingerprint ?_
    refine hrefusing.imp_right fun ⟨hstatus, other, hother, hrefuses⟩ => ⟨hstatus, ?_⟩
    rcases List.mem_or_eq_of_mem_set hother with hold | rfl
    · exact ⟨other, hold, hrefuses⟩
    · obtain ⟨input, hphase, _⟩ := hrefuses
      exact absurd hphase (hnext input)

/-- What the tables are after a step of a call, whether or not it then throws. -/
theorem State.Truthful.moved (hs : s.Truthful identity fingerprint) {i : Nat} {worker : Worker}
    {env : Env} {db : Incidents.Db} {receipts : Receipts} {phase next : Phase}
    (hworker : s.workers[i]? = some worker)
    (h : worker.advance text s.incidents.db s.receipts env = some (db, receipts, phase))
    (hnext : next = phase ∨ worker.phase.thrown = some next)
    (hintime : ∀ receiptId generation, worker.phase = .openIncident receiptId generation →
      ∀ row ∈ s.receipts.rows, row.id = receiptId → ¬ s.Refusing row) :
    State.Truthful identity fingerprint
      { incidents := { s.incidents with db }
        receipts
        workers := s.workers.set i { worker with phase := next } } := by
  have hmem := List.mem_of_getElem? hworker
  have hheld := hs.held worker hmem
  have hwrites := advance_writes h
  have hgrows := hwrites.grows
  -- an incident of the statement was there, or is opened by this step
  have hopened : (∃ incident ∈ db.incidents,
      incident.source = (identity.organisationId, .whisperRecognition, fingerprint)) →
      s.Opened identity fingerprint ∨
        ∃ receiptId generation, worker.phase = .openIncident receiptId generation ∧
          worker.recognition.identity = identity ∧
          worker.recognition.recognitionFingerprint = fingerprint := by
    rintro ⟨incident, hincident, hsource⟩
    have hkind : incident.sourceKind = .whisperRecognition :=
      (Prod.mk.inj (Prod.mk.inj hsource).2).1
    rcases advance_sources h hheld.responding hincident hkind with
      ⟨old, hold, hsame⟩ | ⟨receiptId, generation, hphase, hown⟩
    · exact .inl ⟨old, hold, hsame.trans hsource⟩
    · obtain ⟨horg, hrest⟩ := Prod.mk.inj (hown.symm.trans hsource)
      have hfingerprint := (Prod.mk.inj hrest).2
      exact .inr ⟨receiptId, generation, hphase, hs.presented worker hmem horg hfingerprint,
        hfingerprint⟩
  refine ⟨?_, hs.quiet, ?_, ?_, ?_⟩
  · intro other hother
    rcases List.mem_or_eq_of_mem_set hother with hold | rfl
    · exact hs.presented other hold
    · exact hs.presented worker hmem
  · intro other hother
    rcases List.mem_or_eq_of_mem_set hother with hold | rfl
    · exact (hs.held other hold).grown hgrows
    · rcases hnext with rfl | hthrown
      · exact hheld.step h
      · exact (hheld.grown hgrows).thrown hthrown
  · intro hafter
    have hbefore : ∃ row ∈ s.receipts.rows, row.identity = identity ∧ 0 < row.attemptCount := by
      rcases hopened hafter with hbefore | ⟨receiptId, generation, hphase, hidentity, _⟩
      · exact hs.attempted hbefore
      · obtain ⟨row, hrow, _, hof, hpos, hle⟩ :=
          hheld.holding receiptId generation (by rw [hphase]; rfl)
        exact ⟨row, hrow, hof.1.trans hidentity, by omega⟩
    obtain ⟨row, hrow, hidentity, hpos⟩ := hbefore
    obtain ⟨row', hrow', _, hidentity', _, hcount, _⟩ := hgrows row hrow
    exact ⟨row', hrow', hidentity'.trans hidentity, by omega⟩
  · intro row' hrow' hidentity hfingerprint hrefusing hafter
    -- before the step no receipt of the statement was being refused
    have hnot : ∀ row ∈ s.receipts.rows, row.identity = identity →
        row.recognitionFingerprint = fingerprint → ¬ s.Refusing row := by
      intro row hrow hid hfp hbefore
      rcases hopened hafter with hold | ⟨receiptId, generation, hphase, hown, _⟩
      · exact hs.refused row hrow hid hfp hbefore hold
      · obtain ⟨mine, hmine, hmineId, hof, _⟩ :=
          hheld.holding receiptId generation (by rw [hphase]; rfl)
        obtain rfl := Table.eq_of_key s.receipts.rows_identity hmine hrow
          ((hof.1.trans hown).trans hid.symm)
        exact hintime receiptId generation hphase mine hmine hmineId hbefore
    rcases hrefusing with hstatus | ⟨hstatus, other, hother, hrefuses⟩
    · rcases hwrites.rows hrow' with hold | hreceived | hunknown | ⟨row, _, _, _, rfl⟩ |
        ⟨row, hrow, input, hphase, hfenced, rfl⟩
      · exact hnot row' hold hidentity hfingerprint (.inl hstatus)
      · cases hstatus.symm.trans hreceived
      · cases hstatus.symm.trans hunknown
      · cases hstatus
      · -- the refusal was about to be written
        obtain ⟨hid, happlying, hcount⟩ := fenced_iff.mp hfenced
        exact hnot row hrow hidentity hfingerprint
          (.inr ⟨happlying, worker, hmem, input, hphase, hstatus, hid.symm, hcount.symm⟩)
    · rcases List.mem_or_eq_of_mem_set hother with hold | rfl
      · -- a refusal under way, so of a claim no later than the receipt's
        obtain ⟨input, hphase, hrefused, hinputId, hinputCount⟩ := hrefuses
        obtain ⟨row₀, hrow₀, hid₀, _, _, hle⟩ := (hs.held other hold).holding input.receiptId
          input.claimGeneration (by rw [hphase]; rfl)
        rcases hwrites.rows hrow' with hsame | hreceived | hunknown | ⟨row, hrow, _, _, rfl⟩ |
          ⟨row, hrow, _, _, hfenced, rfl⟩
        · exact hnot row' hsame hidentity hfingerprint
            (.inr ⟨hstatus, other, hold, input, hphase, hrefused, hinputId, hinputCount⟩)
        · cases hstatus.symm.trans hreceived
        · cases hstatus.symm.trans hunknown
        · obtain rfl := Table.eq_of_key s.receipts.rows_id hrow₀ hrow (hid₀.trans hinputId)
          have hcount : input.claimGeneration = row₀.attemptCount + 1 := hinputCount
          omega
        · obtain ⟨_, happlying, _⟩ := fenced_iff.mp hfenced
          exact hnot row hrow hidentity hfingerprint
            (.inr ⟨happlying, other, hold, input, hphase, hrefused, hinputId, hinputCount⟩)
      · -- the call has just decided to refuse
        obtain ⟨input, hphase, hrefused, hinputId, hinputCount⟩ := hrefuses
        have hdecided : phase = .finalize input := by
          rcases hnext with rfl | hthrown
          · exact hphase
          · rcases thrown_claim hthrown with hfailed | ⟨_, _, hmarked, _⟩
            · cases hfailed.symm.trans hphase
            · cases hmarked.symm.trans hphase
        rcases advance_refusal h hdecided hrefused with
          ⟨judged, hclaiming, hfirst, hwon⟩ | ⟨judged, hprobing, hnone⟩
        · -- on the first claim: nobody has got to the incidents yet
          obtain ⟨won, hwonMem, hwonId, hclaimable, hcount, hrows⟩ :=
            Receipts.claimReceipt_eq_some hwon
          have hclaimed : claimed env.now won ∈ receipts.rows := by
            rw [hrows]
            exact Table.mem_rewrite_of_hit hwonMem hclaimable
          obtain rfl := Table.eq_of_key receipts.rows_id hclaimed hrow' (hwonId.trans hinputId)
          rcases hopened hafter with hold | ⟨_, _, hopening, _⟩
          · obtain ⟨row, hrow, hid, hpos⟩ := hs.attempted hold
            obtain rfl := Table.eq_of_key s.receipts.rows_identity hrow hwonMem
              (hid.trans hidentity.symm)
            omega
          · cases hopening.symm.trans hclaiming
        · -- after a probe that found no incident
          obtain ⟨mine, hmine, hmineId, hof, _⟩ := (hheld.grown hgrows).holding input.receiptId
            input.claimGeneration (by rw [hprobing]; rfl)
          obtain rfl := Table.eq_of_key receipts.rows_id hmine hrow' (hmineId.trans hinputId)
          rw [← hof.1, ← hof.2, hidentity, hfingerprint] at hnone
          rcases hopened hafter with ⟨incident, hincident, hsource⟩ | ⟨_, _, hopening, _⟩
          · exact absurd (decide_eq_true hsource) (List.find?_eq_none.mp hnone incident hincident)
          · cases hopening.symm.trans hprobing

theorem step_throws_eq_some {i : Nat} {effect : Option Env}
    (h : step text s (.throws i effect) = some s') :
    ∃ worker next, s.workers[i]? = some worker ∧ worker.phase.thrown = some next ∧
      ((effect = none ∧
          s' = { s with workers := s.workers.set i { worker with phase := next } }) ∨
        ∃ env db receipts phase, effect = some env ∧
          worker.advance text s.incidents.db s.receipts env = some (db, receipts, phase) ∧
          s' =
            { incidents := { s.incidents with db }
              receipts
              workers := s.workers.set i { worker with phase := next } }) := by
  cases effect with
  | none =>
    simp only [step, Option.bind_eq_bind, Option.bind_eq_some_iff] at h
    obtain ⟨worker, hworker, next, hthrown, _, heffect, h⟩ := h
    cases heffect
    exact ⟨worker, next, hworker, hthrown, .inl ⟨rfl, (Option.some.inj h).symm⟩⟩
  | some env =>
    simp only [step, Option.bind_eq_bind, Option.bind_eq_some_iff] at h
    obtain ⟨worker, hworker, next, hthrown, ⟨db, receipts, phase⟩, hadvance, _, heffect, h⟩ := h
    cases heffect
    exact ⟨worker, next, hworker, hthrown,
      .inr ⟨env, db, receipts, phase, rfl, hadvance, (Option.some.inj h).symm⟩⟩

theorem step_incidents_eq_some {label : Incidents.Label}
    (h : step text s (.incidents label) = some s') :
    (∀ input, label ≠ .call (.openWhisperSilentIncident input)) ∧
      ∃ incidents, Incidents.step text s.incidents label = some incidents ∧
        s' = { s with incidents } := by
  have hentry : ∀ input, label ≠ .call (.openWhisperSilentIncident input) := by
    rintro input rfl
    cases h
  refine ⟨hentry, ?_⟩
  have hstep : (Incidents.step text s.incidents label).bind
      (fun incidents => some { s with incidents }) = some s' := by
    rw [← h]
    cases label with
    | call call =>
      cases call with
      | openWhisperSilentIncident input => exact absurd rfl (hentry input)
      | _ => rfl
    | _ => rfl
  obtain ⟨incidents, hincidents, hs'⟩ := Option.bind_eq_some_iff.mp hstep
  exact ⟨incidents, hincidents, (Option.some.inj hs').symm⟩

/-- The rest of the incidents domain brings no incident of a recognition. -/
theorem incidents_step_sources {label : Incidents.Label} {before after : Incidents.State}
    (hquiet : ∀ worker ∈ before.workers, ∀ input, worker.call ≠ .openWhisperSilentIncident input)
    (hentry : ∀ input, label ≠ .call (.openWhisperSilentIncident input))
    (h : Incidents.step text before label = some after) :
    (∀ worker ∈ after.workers, ∀ input, worker.call ≠ .openWhisperSilentIncident input) ∧
      ∀ row' ∈ after.db.incidents, row'.sourceKind = .whisperRecognition →
        ∃ row ∈ before.db.incidents, row.source = row'.source := by
  cases label with
  | call call =>
    cases h
    refine ⟨fun worker hworker input hcall => ?_, fun row' hrow' _ => ⟨row', hrow', rfl⟩⟩
    rcases List.of_mem_concat hworker with hold | rfl
    · exact hquiet worker hold input hcall
    · exact hentry input (congrArg _ hcall)
  | fail i =>
    obtain ⟨worker, hworker, _, rfl⟩ := Incidents.step_fail_eq_some h
    refine ⟨fun other hother => ?_, fun row' hrow' _ => ⟨row', hrow', rfl⟩⟩
    rcases List.mem_or_eq_of_mem_set hother with hold | rfl
    · exact hquiet other hold
    · exact hquiet worker (List.mem_of_getElem? hworker)
  | advance i env =>
    obtain ⟨worker, db, phase, hworker, hadvance, rfl⟩ := Incidents.step_advance_eq_some h
    have hcall := hquiet worker (List.mem_of_getElem? hworker)
    refine ⟨fun other hother => ?_, fun row' hrow' hkind => ?_⟩
    · rcases List.mem_or_eq_of_mem_set hother with hold | rfl
      · exact hquiet other hold
      · exact hcall
    · exact (Incidents.advance_writes hadvance).sources
        (fun input heq => absurd heq (hcall input)) hrow' hkind

theorem State.Truthful.step {label : Label} (hs : s.Truthful identity fingerprint)
    (hlabel : PresentedUnder identity fingerprint label ∧ OpensInTime s label)
    (h : Whisper.step text s label = some s') : s'.Truthful identity fingerprint := by
  cases label with
  | recognise recognition =>
    cases h
    refine ⟨fun worker hworker => ?_, hs.quiet, fun worker hworker => ?_, hs.attempted, ?_⟩
    · rcases List.of_mem_concat hworker with hold | rfl
      · exact hs.presented worker hold
      · exact hlabel.1
    · rcases List.of_mem_concat hworker with hold | rfl
      · exact hs.held worker hold
      · exact .idle (fun _ _ hphase => Phase.noConfusion hphase) rfl
    · intro row hrow hidentity hfingerprint hrefusing
      refine hs.refused row hrow hidentity hfingerprint ?_
      refine hrefusing.imp_right fun ⟨hstatus, other, hother, hrefuses⟩ => ⟨hstatus, ?_⟩
      rcases List.of_mem_concat hother with hold | rfl
      · exact ⟨other, hold, hrefuses⟩
      · obtain ⟨input, hphase, _⟩ := hrefuses
        cases hphase
  | advance i env =>
    simp only [Whisper.step, Option.bind_eq_bind, Option.bind_eq_some_iff] at h
    obtain ⟨worker, hworker, ⟨db, receipts, phase⟩, hadvance, h⟩ := h
    cases h
    exact hs.moved hworker hadvance (.inl rfl) fun receiptId generation =>
      hlabel.2 worker receiptId generation hworker
  | throws i effect =>
    obtain ⟨worker, next, hworker, hthrown, ⟨rfl, rfl⟩ | ⟨env, db, receipts, phase, rfl, hadvance,
      rfl⟩⟩ := step_throws_eq_some h
    · have hmem := List.mem_of_getElem? hworker
      refine hs.stop hworker ((hs.held worker hmem).thrown hthrown) fun input hfinalize => ?_
      rcases thrown_claim hthrown with hfailed | ⟨_, _, hmarked, _⟩
      · cases hfailed.symm.trans hfinalize
      · cases hmarked.symm.trans hfinalize
    · exact hs.moved hworker hadvance (.inr hthrown) fun receiptId generation =>
        hlabel.2 worker receiptId generation hworker
  | fail i =>
    simp only [Whisper.step, Option.bind_eq_bind, Option.bind_eq_some_iff] at h
    obtain ⟨worker, hworker, _, _, h⟩ := h
    cases h
    exact hs.stop hworker (.idle (fun _ _ hphase => Phase.noConfusion hphase) rfl)
      fun _ hphase => Phase.noConfusion hphase
  | incidents label =>
    obtain ⟨hentry, incidents, hincidents, rfl⟩ := step_incidents_eq_some h
    obtain ⟨hquiet, hsources⟩ := incidents_step_sources hs.quiet hentry hincidents
    have hopened : State.Opened { s with incidents } identity fingerprint →
        s.Opened identity fingerprint := by
      rintro ⟨incident, hincident, hsource⟩
      obtain ⟨row, hrow, hsame⟩ := hsources incident hincident
        (Prod.mk.inj (Prod.mk.inj hsource).2).1
      exact ⟨row, hrow, hsame.trans hsource⟩
    exact ⟨hs.presented, hquiet, hs.held, fun hafter => hs.attempted (hopened hafter),
      fun row hrow hidentity hfingerprint hrefusing hafter =>
        hs.refused row hrow hidentity hfingerprint hrefusing (hopened hafter)⟩

/-- A finalized receipt never changes. -/
theorem step_receipts {label : Label} (h : step text s label = some s') :
    s.receipts.Grows s'.receipts := by
  cases label with
  | recognise =>
    cases h
    exact .refl _
  | advance i env =>
    simp only [step, Option.bind_eq_bind, Option.bind_eq_some_iff] at h
    obtain ⟨worker, _, ⟨db, receipts, phase⟩, hadvance, h⟩ := h
    cases h
    exact (advance_writes hadvance).grows
  | throws i effect =>
    obtain ⟨worker, next, _, _, ⟨_, rfl⟩ | ⟨env, db, receipts, phase, _, hadvance, rfl⟩⟩ :=
      step_throws_eq_some h
    · exact .refl _
    · exact (advance_writes hadvance).grows
  | fail i =>
    simp only [step, Option.bind_eq_bind, Option.bind_eq_some_iff] at h
    obtain ⟨worker, _, _, _, h⟩ := h
    cases h
    exact .refl _
  | incidents label =>
    obtain ⟨_, incidents, _, rfl⟩ := step_incidents_eq_some h
    exact .refl _

theorem run_finalized_kept {labels : List Label} (h : Transition.run (step text) s labels = some s')
    {row : ReceiptRow} (hrow : row ∈ s.receipts.rows) (hfinal : row.isFinalized = true) :
    row ∈ s'.receipts.rows := by
  have hstep : ∀ {s : State} {label : Label} {s' : State}, row ∈ s.receipts.rows →
      step text s label = some s' → row ∈ s'.receipts.rows := by
    intro s label s' hrow h
    obtain ⟨row', hrow', _, _, _, _, hsame⟩ := step_receipts h row hrow
    exact hsame hfinal ▸ hrow'
  exact Transition.run_invariant hstep hrow h

/-- In every run in which no attempt enters the incidents domain once its receipt is refused or
about to be, a statement has one incident at most, and none while or after its receipt is refused.
-/
theorem recognition_truthful {labels later : List Label} {decided : State}
    (hpresented : ∀ label ∈ labels ++ later, PresentedUnder identity fingerprint label)
    (hintime : Transition.RunAll (step text) OpensInTime .init (labels ++ later))
    (hdecided : Transition.run (step text) .init labels = some decided)
    (h : Transition.run (step text) decided later = some s) :
    (∀ row ∈ decided.receipts.rows, row.isFinalized = true → row ∈ s.receipts.rows) ∧
    (∀ a ∈ s.incidents.db.incidents, ∀ b ∈ s.incidents.db.incidents,
      a.source = (identity.organisationId, .whisperRecognition, fingerprint) →
      b.source = (identity.organisationId, .whisperRecognition, fingerprint) → a = b) ∧
    (∀ row ∈ decided.receipts.rows, row.identity = identity →
      row.recognitionFingerprint = fingerprint → row.status = .refused →
      ¬ decided.Opened identity fingerprint ∧ ¬ s.Opened identity fingerprint) := by
  have hall : Transition.RunAll (step text)
      (fun s label => PresentedUnder identity fingerprint label ∧ OpensInTime s label) .init
      (labels ++ later) := (Transition.runAll_of_forall hpresented).and hintime
  have htruthful : decided.Truthful identity fingerprint := Transition.runAll_invariant
    State.Truthful.step State.truthful_init hall.append_left hdecided
  have hend : s.Truthful identity fingerprint := Transition.runAll_invariant
    State.Truthful.step htruthful (hall.append_right hdecided) h
  refine ⟨fun row hrow hfinal => run_finalized_kept h hrow hfinal,
    fun a ha b hb hsa hsb =>
      Table.eq_of_key s.incidents.db.incidents_source ha hb (hsa.trans hsb.symm),
    fun row hrow hidentity hfingerprint hrefused => ⟨?_, ?_⟩⟩
  · exact htruthful.refused row hrow hidentity hfingerprint (.inl hrefused)
  · have hkept := run_finalized_kept h hrow (by
      simp [ReceiptRow.isFinalized, ReceiptStatus.terminal, hrefused])
    exact hend.refused row hkept hidentity hfingerprint (.inl hrefused)

end Steps

/-! ## A stalled attempt -/

/-- A signed statement and its identity. -/
def duress : Recognition :=
  { identity :=
      { organisationId := "org", siteId := "site", actorUserId := "actor", deviceId := "device"
        whisperSignalId := "signal", whisperSignalVersion := 1, antiReplayNonce := "nonce" }
    recognitionFingerprint := "fingerprint", confidence := 1, traceId := "trace" }

/-- The gate's answer at an instant, with the receipt id a create would use. -/
def judgedAt (now : Int) (eligibility : Eligibility) (receiptId : String) : Env :=
  { gate := .judged { eligibility, storedVersionId := some "version", receivedAt := now }
    now, receiptId
    incidents := { id := "incident" } }

/-- An eligible attempt takes its claim. -/
def firstAttempt : List Label :=
  [.recognise duress] ++ List.replicate 4 (.advance 0 (judgedAt 0 .eligible "first"))

/-- The statement is presented again once it is stale, and refused. -/
def staleAttempt : List Label :=
  [.recognise duress] ++
    List.replicate 7 (.advance 1 (judgedAt 60001 (.ineligible .recognitionStale) "second"))

/-- A check of `OpensInTime` that looks for openings only. -/
def opensCheck (s : State) : Label → Bool
  | .advance i _ | .throws i (some _) =>
    match s.workers[i]? with
    | some ⟨_, .openIncident ..⟩ => false
    | _ => true
  | _ => true

theorem opensInTime_of_checked {s : State} {label : Label} (h : opensCheck s label = true) :
    OpensInTime s label := by
  have hnone : ∀ i : Nat, (match s.workers[i]? with
      | some ⟨_, .openIncident ..⟩ => false
      | _ => true) = true → ∀ (worker : Worker) receiptId generation,
      s.workers[i]? = some worker → worker.phase = .openIncident receiptId generation →
      ∀ row ∈ s.receipts.rows, row.id = receiptId → ¬ s.Refusing row := by
    rintro i h ⟨recognition, _⟩ receiptId generation hworker rfl
    rw [hworker] at h
    cases h
  cases label with
  | advance i env => exact hnone i h
  | throws i effect =>
    cases effect with
    | none => trivial
    | some env => exact hnone i h
  | _ => trivial

/-- An attempt that dies with its claim leaves the stale one to refuse. -/
theorem recognition_truthful_stale :
    let s := (Transition.run (step Incidents.plainText) .init
      (firstAttempt ++ [.fail 0] ++ staleAttempt)).getD .init
    (∃ row ∈ s.receipts.rows, row.status = .refused) ∧
      ¬ s.Opened duress.identity duress.recognitionFingerprint := by
  have hrun : (Transition.run (step Incidents.plainText) .init
      (firstAttempt ++ [.fail 0] ++ staleAttempt)).isSome = true := by
    decide
  have hpresented : ∀ label ∈ firstAttempt ++ [.fail 0] ++ staleAttempt ++ [],
      PresentedUnder duress.identity duress.recognitionFingerprint label := by
    have hadvance : ∀ i n env, ∀ label ∈ List.replicate n (Label.advance i env),
        PresentedUnder duress.identity duress.recognitionFingerprint label := by
      intro i n env label hlabel
      obtain rfl := List.eq_of_mem_replicate hlabel
      trivial
    simp only [firstAttempt, staleAttempt, List.append_nil, List.forall_mem_append,
      List.forall_mem_singleton]
    exact ⟨⟨⟨fun _ _ => rfl, hadvance 0 4 _⟩, trivial⟩, fun _ _ => rfl, hadvance 1 7 _⟩
  have hrefused : ∃ row ∈ ((Transition.run (step Incidents.plainText) .init
      (firstAttempt ++ [.fail 0] ++ staleAttempt)).getD .init).receipts.rows,
      row.identity = duress.identity ∧
        row.recognitionFingerprint = duress.recognitionFingerprint ∧ row.status = .refused := by
    decide
  obtain ⟨row, hrow, hidentity, hfingerprint, hstatus⟩ := hrefused
  refine ⟨⟨row, hrow, hstatus⟩, ?_⟩
  exact ((recognition_truthful hpresented
    (Transition.runAll_of_checked (fun _ _ => opensInTime_of_checked) (by decide))
    (Transition.run_eq_some_getD hrun) rfl).2.2 row hrow hidentity hfingerprint hstatus).2

/-- The first attempt stalls with its claim, the stale one refuses, and the first goes on: the
    receipt is refused and the incident is open. -/
theorem stalledAttempt_opensRefused :
    ∃ s, Transition.run (step Incidents.plainText) .init
        (firstAttempt ++ staleAttempt ++ [.advance 0 (judgedAt 60002 .eligible "first")]) = some s ∧
      s.receipts.rows.map (fun row => (row.identity, row.recognitionFingerprint, row.status)) =
        [(duress.identity, duress.recognitionFingerprint, .refused)] ∧
      s.Opened duress.identity duress.recognitionFingerprint := by
  have hrun : (Transition.run (step Incidents.plainText) .init
      (firstAttempt ++ staleAttempt ++
        [.advance 0 (judgedAt 60002 .eligible "first")])).isSome = true := by
    decide
  refine ⟨_, Transition.run_eq_some_getD hrun, ?_, ?_⟩
  · decide
  · rw [State.Opened]
    decide

end Sentinel.Whisper
