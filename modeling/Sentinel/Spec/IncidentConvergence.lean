import Sentinel.Spec.SilentResponse

/-! # Incidents converge on the newest assessment

The incident of a hypothesis is opened once, by whichever candidate is first, and from then on takes
an assessment only with a higher version: from an update, or from the Fusion row that a later
candidate catches up with. -/

namespace Sentinel.Incidents

open Fusion (OperationalSeverity ThreatState)
open Constitution (Text)

/-! ## Assessments -/

/-- What Fusion says of a hypothesis at one version. -/
structure Assessment where
  state : ThreatState
  severity : OperationalSeverity
  probability : ℚ
  supportingEventIds : List String
  contradictingEventIds : List String

def Candidate.assessment (candidate : Candidate) : Assessment :=
  { state := candidate.threatState
    severity := candidate.operationalSeverity
    probability := candidate.threatProbability
    supportingEventIds := candidate.supportingEventIds
    contradictingEventIds := candidate.contradictingEventIds }

def HypothesisView.assessment (view : HypothesisView) : Assessment :=
  { state := view.state
    severity := view.operationalSeverity
    probability := view.threatProbability
    supportingEventIds := view.supportingEventIds
    contradictingEventIds := view.contradictingEventIds }

structure Assessment.Shown (assessment : Assessment) (incident : IncidentRow) : Prop where
  threatState : incident.threatState = assessment.state
  severity : incident.severity = assessment.severity
  confidence : incident.confidence = assessment.probability
  supporting : incident.supportingEventIds = assessment.supportingEventIds.eraseDups
  contradicting : incident.contradictingEventIds = assessment.contradictingEventIds.eraseDups
  related : incident.relatedEventIds =
    (assessment.supportingEventIds ++ assessment.contradictingEventIds).eraseDups

theorem shown_candidateRow (candidate : Candidate) (id : String) :
    candidate.assessment.Shown (candidateRow candidate id) :=
  ⟨rfl, rfl, rfl, rfl, rfl, rfl⟩

theorem shown_apply (message : HypothesisUpdate) (started : Bool) (row : IncidentRow) :
    message.hypothesis.assessment.Shown (message.advanceInput.apply started row) :=
  ⟨rfl, rfl, rfl, rfl, rfl, List.eraseDups_append_eraseDups ..⟩

/-! ## What is handed to an incident -/

/-- The version and assessment a step of a call hands to the incident of the hypothesis:
    the candidate that opens it, or the message of an update or a catch-up. -/
def Worker.handed (hypothesisId : String) (db : Db) (env : Env) (worker : Worker) :
    Option (Nat × Assessment) :=
  match worker.phase with
  | .start =>
    match worker.call with
    | .handleCandidate candidate =>
      if candidate.hypothesisId = hypothesisId ∧
          (db.openIncident (candidateRow candidate env.id)).isSome then
        some (candidate.hypothesisVersion, candidate.assessment)
      else none
    | _ => none
  | .advance message =>
    if message.hypothesis.hypothesisId = hypothesisId ∧
        (db.findForHypothesis hypothesisId message.hypothesis.organisationId).isSome then
      some (message.hypothesisVersion, message.hypothesis.assessment)
    else none
  | _ => none

def handed (hypothesisId : String) (s : State) : Label → Option (Nat × Assessment)
  | .advance i env => s.workers[i]?.bind (Worker.handed hypothesisId s.db env)
  | _ => none

/-- Everything handed to the incident in a run, in order. -/
def history (text : Text) (hypothesisId : String) (labels : List Label) : List (Nat × Assessment) :=
  Transition.trace (step text) (handed hypothesisId) .init labels

/-- A step that neither opens nor advances an incident adds at most one without a
    hypothesis. -/
theorem Worker.Writes.incidents {env : Env} {db db' : Db} {worker : Worker}
    (h : worker.Writes env db db') :
    db'.incidents = db.incidents ∨
    (∃ candidate, worker = ⟨.handleCandidate candidate, .start⟩) ∨
    (∃ row, row.hypothesisId = none ∧ db'.incidents = db.incidents ++ [row]) ∨
    ∃ message, worker.phase = .advance message := by
  cases h with
  | nothing | claimed => exact .inl rfl
  | openCandidate call phase write =>
    obtain ⟨_, _⟩ := worker
    obtain rfl := call
    obtain rfl := phase
    exact .inr (.inl ⟨_, rfl⟩)
  | openWhisper _ _ write =>
    obtain ⟨inserted, hinsert, rfl⟩ := Db.openIncident_eq_some write
    exact .inr (.inr (.inl ⟨_, rfl, (Db.insertIncident_eq_some hinsert).1⟩))
  | advanced phase => exact .inr (.inr (.inr ⟨_, phase⟩))
  | created phase => exact .inl (Db.createProofATasks_frame db _ env.taskIds).1
  | completed write =>
    rcases Db.completeEvidenceSnapshot_eq_some write with rfl | ⟨_, _, rfl⟩
    all_goals exact .inl rfl
  | approved _ _ write =>
    rcases (Db.recordSilentApproval_eq_some write).2 with ⟨_, rfl, _⟩ |
      ⟨_, _, inserted, hinsert, _, rfl⟩
    · exact .inl rfl
    · exact .inl (Db.insertSilentApproval_grows hinsert).2.2.1
  | recorded _ write =>
    obtain ⟨_, rfl⟩ := Db.recordConstitutionDecision_eq_some write
    exact .inl rfl
  | handedOff phase =>
    rename_i taskId mode
    rcases Db.createLocalDispatchHandoff_cases db taskId mode with hsame | hdone
    · rw [hsame]
      exact .inl rfl
    · obtain ⟨task, inserted, _, _, hinsert, hwritten⟩ := hdone
      rw [hwritten]
      exact .inl (Db.insertHandoff_eq_some hinsert).2.2.1
  | acknowledged write =>
    obtain ⟨task, _, _, rfl⟩ := Db.acknowledgeTask_eq_some write
    exact .inl rfl

/-! ## The incident of a hypothesis as a register -/

section Finding

variable {db : Db} {hypothesisId : String} {row : IncidentRow}

theorem Db.findByHypothesis_of_mem (hmem : row ∈ db.incidents)
    (hid : row.hypothesisId = some hypothesisId) : db.findByHypothesis hypothesisId = some row := by
  cases hfind : db.findByHypothesis hypothesisId with
  | none => exact absurd (decide_eq_true hid) (List.find?_eq_none.mp hfind row hmem)
  | some found =>
    obtain ⟨hfound, hfoundId⟩ := Db.findByHypothesis_eq_some hfind
    rw [Table.eq_of_nullableKey db.incidents_hypothesis hfound hmem hfoundId hid]

theorem Db.findForHypothesis_iff {organisationId : String} :
    db.findForHypothesis hypothesisId organisationId = some row ↔
      db.findByHypothesis hypothesisId = some row ∧ row.organisationId = organisationId := by
  constructor
  · intro h
    obtain ⟨hmem, hid, horg⟩ := Db.findForHypothesis_eq_some h
    exact ⟨Db.findByHypothesis_of_mem hmem hid, horg⟩
  · rintro ⟨h, horg⟩
    obtain ⟨hmem, hid⟩ := Db.findByHypothesis_eq_some h
    cases hfind : db.findForHypothesis hypothesisId organisationId with
    | none => exact absurd (decide_eq_true ⟨hid, horg⟩) (List.find?_eq_none.mp hfind row hmem)
    | some found =>
      obtain ⟨hfound, hfoundId, _⟩ := Db.findForHypothesis_eq_some hfind
      rw [Table.eq_of_nullableKey db.incidents_hypothesis hfound hmem hfoundId hid]

end Finding

/-- What handing something to the register does to it: it is opened with its first value,
    passes over what is not newer and takes what is. -/
inductive Handing : Option IncidentRow → Option (Nat × Assessment) → Option IncidentRow → Prop
  | nothing (before : Option IncidentRow) : Handing before none before
  | opened {row : IncidentRow} {version : Nat} {assessment : Assessment}
      (hversion : row.hypothesisVersion = some version) (hshown : assessment.Shown row) :
      Handing none (some (version, assessment)) (some row)
  | passed {row : IncidentRow} {version stored : Nat} (assessment : Assessment)
      (hstored : row.hypothesisVersion = some stored) (hold : version ≤ stored) :
      Handing (some row) (some (version, assessment)) (some row)
  | taken {row row' : IncidentRow} {version : Nat} {assessment : Assessment}
      (hnew : ∀ stored, row.hypothesisVersion = some stored → stored < version)
      (horg : row'.organisationId = row.organisationId)
      (hversion : row'.hypothesisVersion = some version) (hshown : assessment.Shown row') :
      Handing (some row) (some (version, assessment)) (some row')

theorem handing_advance (db : Db) (message : HypothesisUpdate) (ids : TaskType → String)
    (hypothesisId : String) :
    Handing (db.findByHypothesis hypothesisId)
      (if message.hypothesis.hypothesisId = hypothesisId ∧
          (db.findForHypothesis hypothesisId message.hypothesis.organisationId).isSome then
        some (message.hypothesisVersion, message.hypothesis.assessment) else none)
      ((db.advanceFromHypothesis message.advanceInput ids).2.findByHypothesis hypothesisId) := by
  rcases db.incidents_advanceFromHypothesis message.advanceInput ids with ⟨hsame, hold⟩ | hwritten
  · have hfind : (db.advanceFromHypothesis message.advanceInput ids).2.findByHypothesis hypothesisId =
        db.findByHypothesis hypothesisId := by
      rw [Db.findByHypothesis, hsame, Db.findByHypothesis]
    rw [hfind]
    split
    · rename_i hhanded
      obtain ⟨rfl, hsome⟩ := hhanded
      obtain ⟨current, hcurrent⟩ := Option.isSome_iff_exists.mp hsome
      obtain ⟨stored, hstored, hle⟩ := (Option.any_eq_true ..).mp (hold current hcurrent)
      rw [(Db.findForHypothesis_iff.mp hcurrent).1]
      exact .passed _ hstored (of_decide_eq_true hle)
    · exact .nothing _
  · obtain ⟨current, started, hcurrent, hnewer, hincidents⟩ := hwritten
    obtain ⟨hfind, horg⟩ := Db.findForHypothesis_iff.mp hcurrent
    obtain ⟨hmem, hid⟩ := Db.findByHypothesis_eq_some hfind
    have hafter : (db.advanceFromHypothesis message.advanceInput ids).2.findByHypothesis
        hypothesisId = (db.findByHypothesis hypothesisId).map fun row =>
          if row.id = current.id then message.advanceInput.apply started row else row := by
      rw [Db.findByHypothesis, hincidents, Table.find?_rewrite (f := message.advanceInput.apply started) fun _ => rfl,
        Db.findByHypothesis]
      simp only [decide_eq_true_eq]
    rw [hafter]
    by_cases heq : message.hypothesis.hypothesisId = hypothesisId
    · obtain rfl := heq
      have hfind' : db.findByHypothesis message.hypothesis.hypothesisId = some current := hfind
      have hhanded : (db.findForHypothesis message.hypothesis.hypothesisId
          message.hypothesis.organisationId).isSome = true :=
        Option.isSome_iff_exists.mpr ⟨current, hcurrent⟩
      rw [hfind', Option.map_some, if_pos rfl, if_pos ⟨rfl, hhanded⟩]
      refine .taken (fun stored hstored => ?_) rfl rfl (shown_apply message started current)
      have hlt : ¬ message.advanceInput.hypothesisVersion ≤ stored := by
        simpa [Db.notNewer, hstored] using hnewer
      exact Nat.lt_of_not_le hlt
    · -- the incident of another hypothesis
      rw [if_neg fun h => heq h.1]
      cases hother : db.findByHypothesis hypothesisId with
      | none => exact .nothing _
      | some row =>
        obtain ⟨hrow, hrowId⟩ := Db.findByHypothesis_eq_some hother
        have hne : row.id ≠ current.id := by
          intro hsame
          obtain rfl := Table.eq_of_key db.incidents_id hrow hmem hsame
          exact heq (Option.some.inj (hid.symm.trans hrowId))
        rw [Option.map_some, if_neg hne]
        exact .nothing _

theorem handing_open {db db' : Db} {candidate : Candidate} {id : String} (hypothesisId : String)
    (h : db.openIncident (candidateRow candidate id) = some db') :
    Handing (db.findByHypothesis hypothesisId)
      (if candidate.hypothesisId = hypothesisId then
        some (candidate.hypothesisVersion, candidate.assessment) else none)
      (db'.findByHypothesis hypothesisId) := by
  obtain ⟨inserted, hinsert, rfl⟩ := Db.openIncident_eq_some h
  have hafter : (inserted.note (candidateRow candidate id).id none (.incidentOpened
      (candidateRow candidate id).sourceKind (candidateRow candidate id).sourceRef
      (candidateRow candidate id).severity)).findByHypothesis hypothesisId =
      (db.findByHypothesis hypothesisId).or
        (if candidate.hypothesisId = hypothesisId then some (candidateRow candidate id)
          else none) := by
    show inserted.findByHypothesis hypothesisId = _
    rw [Db.findByHypothesis, (Db.insertIncident_eq_some hinsert).1, List.find?_append,
      Db.findByHypothesis]
    congr 1
    by_cases heq : candidate.hypothesisId = hypothesisId <;> simp [candidateRow, heq]
  rw [hafter]
  by_cases heq : candidate.hypothesisId = hypothesisId
  · -- the insert found no incident of the hypothesis
    have hnone : db.findByHypothesis hypothesisId = none := by
      rw [Db.insertIncident] at hinsert
      split at hinsert
      · rename_i hfree
        refine List.find?_eq_none.mpr fun old hold => ?_
        simpa [← heq] using hfree.2.2 candidate.hypothesisId rfl old hold
      · cases hinsert
    rw [if_pos heq, if_pos heq, hnone, Option.none_or]
    exact .opened rfl (shown_candidateRow candidate id)
  · rw [if_neg heq, if_neg heq, Option.or_none]
    exact .nothing _

/-- What a step of a call hands to the incident of a hypothesis. -/
theorem Worker.handing {text : Text} {worker : Worker} {db db' : Db} {env : Env} {phase : Phase}
    (h : worker.advance text db env = some (db', phase)) (hypothesisId : String) :
    Handing (db.findByHypothesis hypothesisId) (worker.handed hypothesisId db env)
      (db'.findByHypothesis hypothesisId) := by
  have hother : (∀ candidate, worker ≠ ⟨.handleCandidate candidate, .start⟩) →
      (∀ message, worker.phase ≠ .advance message) →
      Handing (db.findByHypothesis hypothesisId) none (db'.findByHypothesis hypothesisId) := by
    intro hcandidate hmessage
    rcases (advance_writes h).incidents with hsame | ⟨candidate, heq⟩ | ⟨row, hrow, hadded⟩ |
      ⟨message, heq⟩
    · have hfind : db'.findByHypothesis hypothesisId = db.findByHypothesis hypothesisId := by
        rw [Db.findByHypothesis, hsame, Db.findByHypothesis]
      rw [hfind]
      exact .nothing _
    · exact absurd heq (hcandidate candidate)
    · have hsame : db'.findByHypothesis hypothesisId = db.findByHypothesis hypothesisId := by
        rw [Db.findByHypothesis, hadded, List.find?_append, Db.findByHypothesis]
        simp [hrow]
      rw [hsame]
      exact .nothing _
    · exact absurd heq (hmessage message)
  obtain ⟨call, now⟩ := worker
  cases now with
  | start =>
    cases call with
    | handleCandidate candidate =>
      simp only [Worker.advance] at h
      split at h
      · rename_i hopen
        cases h
        simpa [Worker.handed, hopen] using handing_open hypothesisId hopen
      · rename_i hopen
        cases h
        simpa [Worker.handed, hopen] using Handing.nothing (db.findByHypothesis hypothesisId)
    | _ =>
      exact hother (fun _ heq => Call.noConfusion (congrArg Worker.call heq))
        fun _ heq => Phase.noConfusion heq
  | advance message =>
    rw [advance_advance h]
    exact handing_advance db message env.taskIds hypothesisId
  | _ =>
    exact hother (fun _ heq => Phase.noConfusion (congrArg Worker.phase heq))
      fun _ heq => Phase.noConfusion heq

theorem step_handing {text : Text} {s s' : State} {label : Label}
    (h : step text s label = some s') (hypothesisId : String) :
    Handing (s.db.findByHypothesis hypothesisId) (handed hypothesisId s label)
      (s'.db.findByHypothesis hypothesisId) := by
  cases label with
  | call call =>
    cases h
    exact .nothing _
  | fail i =>
    obtain ⟨_, _, _, rfl⟩ := step_fail_eq_some h
    exact .nothing _
  | advance i env =>
    obtain ⟨worker, db, phase, hworker, hadvance, rfl⟩ := step_advance_eq_some h
    rw [handed, hworker, Option.bind_some]
    exact worker.handing hadvance hypothesisId

/-! ## What the register keeps -/

/-- The register shows the newest entry of the log. -/
def Tracks (log : List (Nat × Assessment)) : Option IncidentRow → Prop
  | none => log = []
  | some row => ∃ version assessment, row.hypothesisVersion = some version ∧
      Assessment.Shown assessment row ∧ log.Newest version assessment

/-- The incident of the hypothesis shows the version or a higher one. -/
def Db.Reached (db : Db) (hypothesisId : String) (version : Nat) : Prop :=
  ∃ row stored, db.findByHypothesis hypothesisId = some row ∧
    row.hypothesisVersion = some stored ∧ version ≤ stored

namespace Handing

variable {before after : Option IncidentRow} {out : Option (Nat × Assessment)}

theorem tracks {log : List (Nat × Assessment)} (h : Handing before out after)
    (hbefore : Tracks log before) : Tracks (log ++ out.toList) after := by
  cases h with
  | nothing =>
    rw [Option.toList_none, List.append_nil]
    exact hbefore
  | opened hversion hshown =>
    obtain rfl : log = [] := hbefore
    exact ⟨_, _, hversion, hshown, .single ..⟩
  | passed assessment hstored hold =>
    obtain ⟨version, shown, hversion, hshown, hnewest⟩ := hbefore
    obtain rfl := Option.some.inj (hstored.symm.trans hversion)
    exact ⟨_, shown, hversion, hshown, hnewest.concat_old hold⟩
  | taken hnew _ hversion hshown =>
    obtain ⟨stored, _, hstored, _, hnewest⟩ := hbefore
    exact ⟨_, _, hversion, hshown, hnewest.concat_new _ (hnew stored hstored)⟩

/-- The register stays there, with its organisation. -/
theorem kept {row : IncidentRow} (h : Handing (some row) out after) :
    ∃ row', after = some row' ∧ row'.organisationId = row.organisationId := by
  cases h with
  | nothing | passed => exact ⟨row, rfl, rfl⟩
  | taken _ horg => exact ⟨_, rfl, horg⟩

/-- Its version never falls. -/
theorem monotone {row : IncidentRow} {stored version : Nat} (h : Handing (some row) out after)
    (hstored : row.hypothesisVersion = some stored) (hle : version ≤ stored) :
    ∃ row' stored', after = some row' ∧ row'.hypothesisVersion = some stored' ∧
      version ≤ stored' := by
  cases h with
  | nothing | passed => exact ⟨row, stored, rfl, hstored, hle⟩
  | taken hnew _ hversion =>
    have hlt := hnew stored hstored
    exact ⟨_, _, rfl, hversion, by omega⟩

/-- Whatever is handed to it, it is at that version or beyond. -/
theorem reached {version : Nat} {assessment : Assessment}
    (h : Handing before (some (version, assessment)) after) :
    ∃ row stored, after = some row ∧ row.hypothesisVersion = some stored ∧ version ≤ stored := by
  cases h with
  | opened hversion | taken _ _ hversion => exact ⟨_, _, rfl, hversion, Nat.le_refl _⟩
  | passed _ hstored hold => exact ⟨_, _, rfl, hstored, hold⟩

/-- What is not newer changes nothing. -/
theorem unchanged {row : IncidentRow} (h : Handing (some row) out after)
    (hstored : row.hypothesisVersion.isSome = true)
    (hold : ∀ version assessment stored, out = some (version, assessment) →
      row.hypothesisVersion = some stored → version ≤ stored) : after = some row := by
  cases h with
  | nothing | passed => rfl
  | taken hnew =>
    obtain ⟨stored, hstored⟩ := Option.isSome_iff_exists.mp hstored
    have hlt := hnew stored hstored
    have hle := hold _ _ stored rfl hstored
    omega

end Handing

/-! ## What the calls have achieved -/

/-- A candidate that got past the opening leaves an incident, and an update that got past
    the advance leaves it at its version or beyond. -/
def Worker.Told (db : Db) (worker : Worker) : Prop :=
  match worker.call with
  | .handleCandidate candidate =>
    worker.phase = .start ∨ worker.phase = .existing ∨ worker.phase = .failed ∨
      (db.findByHypothesis candidate.hypothesisId).isSome
  | .handleHypothesisUpdate message =>
    worker.phase = .start ∨ worker.phase = .failed ∨ worker.phase = .find message ∨
      (worker.phase = .advance message ∧ (db.findForHypothesis message.hypothesis.hypothesisId
        message.hypothesis.organisationId).isSome) ∨
      db.Reached message.hypothesis.hypothesisId message.hypothesisVersion
  | _ => True

section Kept

variable {db db' : Db}
  (hkept : ∀ hypothesisId, ∃ out, Handing (db.findByHypothesis hypothesisId) out
    (db'.findByHypothesis hypothesisId))
include hkept

theorem Db.findByHypothesis_isSome_kept {hypothesisId : String}
    (h : (db.findByHypothesis hypothesisId).isSome = true) :
    (db'.findByHypothesis hypothesisId).isSome = true := by
  obtain ⟨row, hrow⟩ := Option.isSome_iff_exists.mp h
  obtain ⟨out, hhanding⟩ := hkept hypothesisId
  rw [hrow] at hhanding
  obtain ⟨row', hrow', _⟩ := hhanding.kept
  rw [hrow']
  rfl

theorem Db.findForHypothesis_isSome_kept {hypothesisId organisationId : String}
    (h : (db.findForHypothesis hypothesisId organisationId).isSome = true) :
    (db'.findForHypothesis hypothesisId organisationId).isSome = true := by
  obtain ⟨row, hrow⟩ := Option.isSome_iff_exists.mp h
  obtain ⟨hfind, horg⟩ := Db.findForHypothesis_iff.mp hrow
  obtain ⟨out, hhanding⟩ := hkept hypothesisId
  rw [hfind] at hhanding
  obtain ⟨row', hrow', horg'⟩ := hhanding.kept
  rw [Db.findForHypothesis_iff.mpr ⟨hrow', horg'.trans horg⟩]
  rfl

theorem Db.Reached.kept {hypothesisId : String} {version : Nat}
    (h : db.Reached hypothesisId version) : db'.Reached hypothesisId version := by
  obtain ⟨row, stored, hrow, hstored, hle⟩ := h
  obtain ⟨out, hhanding⟩ := hkept hypothesisId
  rw [hrow] at hhanding
  exact hhanding.monotone hstored hle

theorem Worker.Told.kept {worker : Worker} (h : worker.Told db) : worker.Told db' := by
  obtain ⟨call, phase⟩ := worker
  cases call with
  | handleCandidate candidate =>
    exact h.imp_right fun h => h.imp_right fun h => h.imp_right fun h =>
      Db.findByHypothesis_isSome_kept hkept h
  | handleHypothesisUpdate message =>
    rcases h with h | h | h | ⟨h, hfound⟩ | hreached
    · exact .inl h
    · exact .inr (.inl h)
    · exact .inr (.inr (.inl h))
    · exact .inr (.inr (.inr (.inl ⟨h, Db.findForHypothesis_isSome_kept hkept hfound⟩)))
    · exact .inr (.inr (.inr (.inr (hreached.kept hkept))))
  | _ => trivial

end Kept

/-- After an advance that found its incident, the incident is at the version or beyond. -/
theorem advanceFromHypothesis_reached {db : Db} {message : HypothesisUpdate}
    (ids : TaskType → String)
    (h : (db.findForHypothesis message.hypothesis.hypothesisId
      message.hypothesis.organisationId).isSome = true) :
    (db.advanceFromHypothesis message.advanceInput ids).2.Reached message.hypothesis.hypothesisId
      message.hypothesisVersion := by
  have hhanding := handing_advance db message ids message.hypothesis.hypothesisId
  rw [if_pos ⟨rfl, h⟩] at hhanding
  exact hhanding.reached

/-- A step of a call keeps what the call has achieved. -/
theorem Worker.Told.step {text : Text} {worker : Worker} {db db' : Db} {env : Env} {phase : Phase}
    (htold : worker.Told db) (h : worker.advance text db env = some (db', phase)) :
    Worker.Told db' { worker with phase } := by
  have hkept : ∀ hypothesisId, ∃ out, Handing (db.findByHypothesis hypothesisId) out
      (db'.findByHypothesis hypothesisId) := fun id => ⟨_, worker.handing h id⟩
  obtain ⟨call, now⟩ := worker
  cases call with
  | handleCandidate candidate =>
    rcases htold with hphase | hphase | hphase | hsome
    · obtain rfl : now = .start := hphase
      simp only [Worker.advance] at h
      split at h
      all_goals cases h
      · rename_i hopen
        have hopened := handing_open candidate.hypothesisId hopen
        rw [if_pos rfl] at hopened
        obtain ⟨row, _, hrow, _⟩ := hopened.reached
        exact .inr (.inr (.inr (Option.isSome_iff_exists.mpr ⟨row, hrow⟩)))
      · exact .inr (.inl rfl)
    · obtain rfl : now = .existing := hphase
      simp only [Worker.advance] at h
      split at h
      all_goals cases h
      · rename_i hfind
        exact .inr (.inr (.inr (Option.isSome_iff_exists.mpr ⟨_, hfind⟩)))
      · exact .inr (.inr (.inl rfl))
    · obtain rfl : now = .failed := hphase
      cases h
    · exact .inr (.inr (.inr (Db.findByHypothesis_isSome_kept hkept hsome)))
  | handleHypothesisUpdate message =>
    rcases htold with hphase | hphase | hphase | ⟨hphase, hfound⟩ | hreached
    · obtain rfl : now = .start := hphase
      cases h
      exact .inr (.inr (.inl rfl))
    · obtain rfl : now = .failed := hphase
      cases h
    · obtain rfl : now = .find message := hphase
      simp only [Worker.advance] at h
      split at h
      all_goals cases h
      · rename_i hfind
        exact .inr (.inr (.inr (.inl ⟨rfl, Option.isSome_iff_exists.mpr ⟨_, hfind⟩⟩)))
      · exact .inr (.inl rfl)
    · obtain rfl : now = .advance message := hphase
      have hwrite : db' = (db.advanceFromHypothesis message.advanceInput env.taskIds).2 :=
        advance_advance h
      rw [hwrite]
      exact .inr (.inr (.inr (.inr (advanceFromHypothesis_reached env.taskIds hfound))))
    · exact .inr (.inr (.inr (.inr (hreached.kept hkept))))
  | _ => trivial

/-! ## Feeds -/

/-- The assessments of a hypothesis, one for each version up to the highest. -/
structure Feed where
  view : Nat → Assessment
  top : Nat

namespace Feed

variable (feed : Feed) (hypothesisId : String)

/-- The entry is one of the feed. -/
def Has (version : Nat) (assessment : Assessment) : Prop :=
  version ≤ feed.top ∧ assessment = feed.view version

/-- A candidate, an update or a Fusion row is of the feed, if it is about the hypothesis. -/
def Sends (source : String) (version : Nat) (assessment : Assessment) : Prop :=
  source = hypothesisId → feed.Has version assessment

def SendsCall : Call → Prop
  | .handleCandidate candidate =>
    feed.Sends hypothesisId candidate.hypothesisId candidate.hypothesisVersion candidate.assessment
  | .handleHypothesisUpdate message =>
    feed.Sends hypothesisId message.hypothesis.hypothesisId message.hypothesisVersion
      message.hypothesis.assessment
  | _ => True

/-- All that is received or read in a step is of the feed. -/
def SendsLabel : Label → Prop
  | .call call => feed.SendsCall hypothesisId call
  | .advance _ env => ∀ row updatedAt, env.latest = some (row, updatedAt) →
      feed.Sends hypothesisId row.id row.version (hypothesisView row).assessment
  | .fail _ => True

end Feed

/-- The message a call is working on. -/
def Phase.message : Phase → Option HypothesisUpdate
  | .find message | .advance message | .reread message => some message
  | _ => none

/-- A message is the call's own or stands for the Fusion row. -/
theorem advance_message {text : Text} {worker : Worker} {db db' : Db} {env : Env} {phase : Phase}
    {message : HypothesisUpdate} (h : worker.advance text db env = some (db', phase))
    (hmessage : phase.message = some message) :
    worker.phase.message = some message ∨ worker.call = .handleHypothesisUpdate message ∨
      ∃ row updatedAt, env.latest = some (row, updatedAt) ∧
        message.hypothesis = hypothesisView row ∧ message.hypothesisVersion = row.version := by
  obtain ⟨call, now⟩ := worker
  cases now with
  | start =>
    cases call with
    | handleHypothesisUpdate =>
      cases h
      cases hmessage
      exact .inr (.inl rfl)
    | _ =>
      simp only [Worker.advance, afterCandidate] at h
      repeat' split at h
      all_goals
        cases h
        cases hmessage
  | latest incident =>
    cases call with
    | handleCandidate candidate =>
      simp only [Worker.advance] at h
      split at h
      · rename_i row updatedAt hlatest
        split at h
        all_goals cases h
        · rename_i caught hcaught
          cases hmessage
          rw [catchUp] at hcaught
          split at hcaught
          · cases hcaught
            exact .inr (.inr ⟨row, updatedAt, hlatest, rfl, rfl⟩)
          · cases hcaught
        · cases hmessage
      · cases h
        cases hmessage
    | _ => cases h
  | find | advance =>
    simp only [Worker.advance] at h
    repeat' split at h
    all_goals
      cases h
      first
        | contradiction
        | exact .inl hmessage
  | _ =>
    simp only [Worker.advance, afterCandidate, judge] at h
    repeat' split at h
    all_goals first
      | contradiction
      | cases h
        contradiction

/-- Every call and every message in work is of the feed. -/
def State.Fed (feed : Feed) (hypothesisId : String) (s : State) : Prop :=
  ∀ worker ∈ s.workers, feed.SendsCall hypothesisId worker.call ∧
    ∀ message, worker.phase.message = some message →
      feed.Sends hypothesisId message.hypothesis.hypothesisId message.hypothesisVersion
        message.hypothesis.assessment

theorem State.Fed.step {text : Text} {feed : Feed} {hypothesisId : String} {s s' : State}
    {label : Label} (hs : s.Fed feed hypothesisId) (hlabel : feed.SendsLabel hypothesisId label)
    (h : Incidents.step text s label = some s') : s'.Fed feed hypothesisId := by
  cases label with
  | call call =>
    cases h
    intro worker hworker
    rcases List.of_mem_concat hworker with hold | rfl
    · exact hs worker hold
    · exact ⟨hlabel, nofun⟩
  | fail i =>
    obtain ⟨worker, hworker, _, rfl⟩ := step_fail_eq_some h
    intro other hother
    rcases List.mem_or_eq_of_mem_set hother with hold | rfl
    · exact hs other hold
    · exact ⟨(hs worker (List.mem_of_getElem? hworker)).1, nofun⟩
  | advance i env =>
    obtain ⟨worker, db, phase, hworker, hadvance, rfl⟩ := step_advance_eq_some h
    obtain ⟨hcall, hmessages⟩ := hs worker (List.mem_of_getElem? hworker)
    intro other hother
    rcases List.mem_or_eq_of_mem_set hother with hold | rfl
    · exact hs other hold
    · refine ⟨hcall, fun message hmessage => ?_⟩
      rcases advance_message hadvance hmessage with hown | hown | ⟨row, updatedAt, hlatest, hrow, hversion⟩
      · exact hmessages message hown
      · rw [hown] at hcall
        exact hcall
      · rw [hrow, hversion]
        exact hlabel row updatedAt hlatest

/-- What a step hands over is of the feed. -/
theorem handed_has {feed : Feed} {hypothesisId : String} {s : State} {label : Label} {version : Nat}
    {assessment : Assessment} (hs : s.Fed feed hypothesisId)
    (h : handed hypothesisId s label = some (version, assessment)) :
    feed.Has version assessment := by
  cases label with
  | call | fail => cases h
  | advance i env =>
    obtain ⟨⟨call, now⟩, hworker, hhanded⟩ := Option.bind_eq_some_iff.mp h
    obtain ⟨hcall, hmessages⟩ := hs _ (List.mem_of_getElem? hworker)
    cases now with
    | start =>
      cases call with
      | handleCandidate candidate =>
        simp only [Worker.handed] at hhanded
        split at hhanded
        · rename_i hopened
          cases hhanded
          exact hcall hopened.1
        · cases hhanded
      | _ => cases hhanded
    | advance message =>
      simp only [Worker.handed] at hhanded
      split at hhanded
      · rename_i hfound
        cases hhanded
        exact hmessages message rfl hfound.1
      · cases hhanded
    | _ => cases hhanded

/-! ## Runs -/

/-- Every call has achieved what its phase says. -/
def State.Told (s : State) : Prop := ∀ worker ∈ s.workers, worker.Told s.db

theorem State.Told.step {text : Text} {s s' : State} {label : Label} (hs : s.Told)
    (h : Incidents.step text s label = some s') : s'.Told := by
  have hkept : ∀ hypothesisId, ∃ out, Handing (s.db.findByHypothesis hypothesisId) out
      (s'.db.findByHypothesis hypothesisId) := fun id => ⟨_, step_handing h id⟩
  cases label with
  | call call =>
    cases h
    intro worker hworker
    rcases List.of_mem_concat hworker with hold | rfl
    · exact hs worker hold
    · cases call with
      | handleCandidate | handleHypothesisUpdate => exact .inl rfl
      | _ => trivial
  | fail i =>
    obtain ⟨worker, _, _, rfl⟩ := step_fail_eq_some h
    intro other hother
    rcases List.mem_or_eq_of_mem_set hother with hold | rfl
    · exact hs other hold
    · obtain ⟨call, phase⟩ := worker
      cases call with
      | handleCandidate => exact .inr (.inr (.inl rfl))
      | handleHypothesisUpdate => exact .inr (.inl rfl)
      | _ => trivial
  | advance i env =>
    obtain ⟨worker, db, phase, hworker, hadvance, rfl⟩ := step_advance_eq_some h
    intro other hother
    rcases List.mem_or_eq_of_mem_set hother with hold | rfl
    · exact (hs other hold).kept hkept
    · exact (hs worker (List.mem_of_getElem? hworker)).step hadvance

section Runs

variable {text : Text} {labels : List Label} {s : State}
  (h : Transition.run (step text) .init labels = some s)
include h

theorem run_told : s.Told := by
  have hinit : State.init.Told := by
    intro worker hworker
    cases hworker
  exact Transition.run_invariant State.Told.step hinit h

/-- The incident shows the newest of what was handed to it. -/
theorem run_tracks (hypothesisId : String) :
    Tracks (history text hypothesisId labels) (s.db.findByHypothesis hypothesisId) := by
  have hinit : Tracks [] (State.init.db.findByHypothesis hypothesisId) := rfl
  have hall : Transition.RunAll (step text) (fun _ _ => True) .init labels :=
    Transition.runAll_of_forall fun _ _ => trivial
  exact Transition.runAll_trace_invariant (handed hypothesisId)
    (fun s log => Tracks log (s.db.findByHypothesis hypothesisId))
    (fun htracks _ hstep => (step_handing hstep hypothesisId).tracks htracks) hinit hall h

/-- What was handed to the incident is of the feed. -/
theorem run_has {feed : Feed} {hypothesisId : String}
    (hfeed : ∀ label ∈ labels, feed.SendsLabel hypothesisId label) {version : Nat}
    {assessment : Assessment} (hentry : (version, assessment) ∈ history text hypothesisId labels) :
    feed.Has version assessment := by
  have hinit : State.init.Fed feed hypothesisId ∧
      ∀ entry ∈ ([] : List (Nat × Assessment)), feed.Has entry.1 entry.2 := by
    refine ⟨fun worker hworker => ?_, nofun⟩
    cases hworker
  have hend := Transition.runAll_trace_invariant (handed hypothesisId)
    (fun s log => s.Fed feed hypothesisId ∧ ∀ entry ∈ log, feed.Has entry.1 entry.2)
    (fun hs hlabel hstep => ?_) hinit (Transition.runAll_of_forall hfeed) h
  · exact hend.2 _ hentry
  · refine ⟨hs.1.step hlabel hstep, fun entry hentry => ?_⟩
    rcases List.mem_append.mp hentry with hold | hnew
    · exact hs.2 entry hold
    · exact handed_has hs.1 (Option.mem_toList.mp hnew)

end Runs

/-- There is one incident of a hypothesis from its first candidate on, it shows the newest of what
was handed to it, and once the update of a feed's highest version has been handled it shows that
version, in whatever order the feed was delivered. -/
theorem incident_converges {text : Text} {labels : List Label} {s : State}
    (h : Transition.run (step text) .init labels = some s) (hypothesisId : String) :
    (∀ a ∈ s.db.incidents, ∀ b ∈ s.db.incidents, a.hypothesisId = some hypothesisId →
      b.hypothesisId = some hypothesisId → a = b) ∧
    (∀ worker ∈ s.workers, ∀ candidate, worker.call = .handleCandidate candidate →
      candidate.hypothesisId = hypothesisId → worker.phase = .returned →
      ∃ incident ∈ s.db.incidents, incident.hypothesisId = some hypothesisId) ∧
    (∀ incident ∈ s.db.incidents, incident.hypothesisId = some hypothesisId →
      ∃ version assessment, incident.hypothesisVersion = some version ∧
        Assessment.Shown assessment incident ∧
        (history text hypothesisId labels).Newest version assessment) ∧
    (∀ label s', step text s label = some s' → ∀ incident ∈ s.db.incidents,
      incident.hypothesisId = some hypothesisId →
      (∀ version assessment stored, handed hypothesisId s label = some (version, assessment) →
        incident.hypothesisVersion = some stored → version ≤ stored) →
      incident ∈ s'.db.incidents) ∧
    (∀ feed : Feed, (∀ label ∈ labels, feed.SendsLabel hypothesisId label) →
      ∀ worker ∈ s.workers, ∀ message, worker.call = .handleHypothesisUpdate message →
      message.hypothesis.hypothesisId = hypothesisId → message.hypothesisVersion = feed.top →
      worker.phase = .returned →
      ∃ incident ∈ s.db.incidents, incident.hypothesisId = some hypothesisId ∧
        incident.hypothesisVersion = some feed.top ∧ (feed.view feed.top).Shown incident) := by
  have htracks := run_tracks h hypothesisId
  have htold := run_told h
  have hshown : ∀ incident ∈ s.db.incidents, incident.hypothesisId = some hypothesisId →
      ∃ version assessment, incident.hypothesisVersion = some version ∧
        Assessment.Shown assessment incident ∧
        (history text hypothesisId labels).Newest version assessment := by
    intro incident hincident hid
    rw [Db.findByHypothesis_of_mem hincident hid] at htracks
    exact htracks
  refine ⟨fun a ha b hb hida hidb => Table.eq_of_nullableKey s.db.incidents_hypothesis ha hb hida hidb,
    ?_, hshown, ?_, ?_⟩
  · rintro ⟨call, phase⟩ hworker candidate hcall rfl hphase
    obtain rfl : call = .handleCandidate candidate := hcall
    obtain rfl : phase = .returned := hphase
    rcases htold _ hworker with h | h | h | hsome
    · cases h
    · cases h
    · cases h
    · obtain ⟨incident, hfind⟩ := Option.isSome_iff_exists.mp hsome
      exact ⟨incident, Db.findByHypothesis_eq_some hfind⟩
  · intro label s' hstep incident hincident hid hold
    have hhanding := step_handing hstep hypothesisId
    rw [Db.findByHypothesis_of_mem hincident hid] at hhanding
    obtain ⟨version, _, hversion, _⟩ := hshown incident hincident hid
    exact (Db.findByHypothesis_eq_some
      (hhanding.unchanged (Option.isSome_iff_exists.mpr ⟨version, hversion⟩) hold)).1
  · rintro feed hfeed ⟨call, phase⟩ hworker message hcall rfl htop hphase
    obtain rfl : call = .handleHypothesisUpdate message := hcall
    obtain rfl : phase = .returned := hphase
    rcases htold _ hworker with h | h | h | ⟨h, _⟩ | ⟨row, stored, hfind, hstored, hle⟩
    · cases h
    · cases h
    · cases h
    · cases h
    · obtain ⟨hrow, hid⟩ := Db.findByHypothesis_eq_some hfind
      obtain ⟨version, assessment, hversion, hassessment, hnewest⟩ := hshown row hrow hid
      obtain rfl := Option.some.inj (hstored.symm.trans hversion)
      -- the newest entry is of the feed, so not beyond its highest version
      obtain ⟨hbound, rfl⟩ := run_has h hfeed hnewest.mem
      obtain rfl : stored = feed.top := Nat.le_antisymm hbound (htop ▸ hle)
      exact ⟨row, hrow, hid, hstored, hassessment⟩

/-! ## Candidates of two versions, and a candidate delivered twice -/

/-- A re-escalation of the critical candidate, one version on. -/
def laterCandidate : Candidate :=
  { criticalCandidate "fusion-rules-v1" with
    threatProbability := 1 / 2, reEscalation := true, emissionNumber := 2
    triggeringEventId := "e2", hypothesisVersion := 2, emittedAt := 1 }

def laterUpdate : HypothesisUpdate :=
  { triggeringEventId := "e2", hypothesisVersion := 2, emittedAt := 1
    hypothesis :=
      { hypothesisId := "h", organisationId := "org", siteId := "site", state := 5
        operationalSeverity := .sev1, threatProbability := 1 / 2, supportingEventIds := []
        contradictingEventIds := [] } }

/-- A candidate and then another are handled to the end. -/
def candidatesInOrder (first second : Candidate) : List Label :=
  [.call (.handleCandidate first)] ++ List.replicate 8 (.advance 0 plainEnv) ++
    [.call (.handleCandidate second)] ++ List.replicate 5 (.advance 1 plainEnv)

def candidatesThenUpdate : List Label :=
  candidatesInOrder (criticalCandidate "fusion-rules-v1") laterCandidate ++
    [.call (.handleHypothesisUpdate laterUpdate)] ++ List.replicate 6 (.advance 2 plainEnv)

/-- The feed they are of. -/
def twoVersions : Feed :=
  { view := fun version =>
      if version = 1 then (criticalCandidate "fusion-rules-v1").assessment
      else laterCandidate.assessment
    top := 2 }

theorem incident_converges_laterUpdate :
    ∃ incident ∈
        ((Transition.run (step plainText) .init candidatesThenUpdate).getD .init).db.incidents,
      incident.hypothesisId = some "h" ∧ incident.hypothesisVersion = some twoVersions.top ∧
        (twoVersions.view twoVersions.top).Shown incident := by
  have hrun : (Transition.run (step plainText) .init candidatesThenUpdate).isSome = true := by
    decide
  have hconverges := (incident_converges (Transition.run_eq_some_getD hrun) "h").2.2.2.2 twoVersions
  have hidle : ∀ i n, ∀ label ∈ List.replicate n (Label.advance i plainEnv),
      twoVersions.SendsLabel "h" label := by
    intro i n label hlabel
    obtain rfl := List.eq_of_mem_replicate hlabel
    intro row updatedAt hlatest
    cases hlatest
  have hfeed : ∀ label ∈ candidatesThenUpdate, twoVersions.SendsLabel "h" label := by
    simp only [candidatesThenUpdate, candidatesInOrder, List.forall_mem_append,
      List.forall_mem_singleton]
    exact ⟨⟨⟨⟨⟨fun _ => ⟨by decide, rfl⟩, hidle 0 8⟩, fun _ => ⟨by decide, rfl⟩⟩, hidle 1 5⟩,
      fun _ => ⟨by decide, rfl⟩⟩, hidle 2 6⟩
  exact hconverges hfeed ⟨.handleHypothesisUpdate laterUpdate, .returned⟩ (by decide +kernel)
    laterUpdate rfl rfl rfl rfl

def fusionRow : Fusion.HypothesisRow :=
  { id := "h", incidentCandidateId := "c", type := "", organisationId := "org", siteId := "site"
    zoneId := none, zoneKey := "", correlationKey := "", windowStart := 0, windowEnd := 1
    state := 3, detectionConfidence := 1, threatProbability := 1 / 2, potentialImpact := .high
    operationalSeverity := .sev3, sourceDiversity := 1, supportingEventIds := []
    contradictingEventIds := [], confidenceExplanation := "", ruleVersions := [], signals := []
    ignoredSignals := [], supportingImpactFamilies := [], incidentCandidateLatched := true
    incidentCandidateDeEscalated := false, incidentCandidateEmissions := 1, transitionCount := 1
    version := 2 }

/-- A candidate below the critical severities. -/
def mildCandidate : Candidate :=
  { criticalCandidate "fusion-rules-v1" with operationalSeverity := .sev3, threatState := 2 }

/-- Without an update the first of two candidates counts, whatever its version; and a candidate
    delivered again moves the incident on to the Fusion row, though it is not newer itself. -/
theorem candidates_orderDependent :
    (∃ s s', Transition.run (step plainText) .init
        (candidatesInOrder (criticalCandidate "fusion-rules-v1") laterCandidate) = some s ∧
      Transition.run (step plainText) .init
        (candidatesInOrder laterCandidate (criticalCandidate "fusion-rules-v1")) = some s' ∧
      s.workers.map (·.phase) = [.returned, .returned] ∧
      s'.workers.map (·.phase) = [.returned, .returned] ∧
      s.db.incidents.map (fun row => (row.hypothesisVersion, row.confidence)) = [(some 1, 1)] ∧
      s'.db.incidents.map (fun row => (row.hypothesisVersion, row.confidence)) =
        [(some 2, 1 / 2)]) ∧
    ∃ s s', Transition.run (step plainText) .init
        ([.call (.handleCandidate mildCandidate)] ++
          List.replicate 2 (.advance 0 plainEnv)) = some s ∧
      Transition.run (step plainText) s
        ([.call (.handleCandidate mildCandidate)] ++
          List.replicate 5 (.advance 1 { plainEnv with latest := some (fusionRow, 1) })) = some s' ∧
      s.db.incidents.map (fun row => (row.hypothesisVersion, row.confidence)) =
        [(some mildCandidate.hypothesisVersion, 1)] ∧
      s'.db.incidents.map (fun row => (row.hypothesisVersion, row.confidence)) =
        [(some 2, 1 / 2)] := by
  have hearly : (Transition.run (step plainText) .init
      (candidatesInOrder (criticalCandidate "fusion-rules-v1") laterCandidate)).isSome = true := by
    decide
  have hlate : (Transition.run (step plainText) .init
      (candidatesInOrder laterCandidate (criticalCandidate "fusion-rules-v1"))).isSome = true := by
    decide
  have hfirst : (Transition.run (step plainText) .init
      ([.call (.handleCandidate mildCandidate)] ++
        List.replicate 2 (.advance 0 plainEnv))).isSome = true := by
    decide
  refine ⟨⟨_, _, Transition.run_eq_some_getD hearly, Transition.run_eq_some_getD hlate, ?_⟩,
    _, _, Transition.run_eq_some_getD hfirst, Transition.run_eq_some_getD ?_, ?_⟩
  all_goals decide +kernel

end Sentinel.Incidents
