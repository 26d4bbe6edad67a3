import Sentinel.ForStd.List
import Sentinel.ForStd.Transition
import Sentinel.Spec.DeviceDisposition

/-! # Negative attestation and the fenced trust update

A committed observation with the standing NEGATIVE is meant to leave its device QUARANTINED or
COMPROMISED.  The move is fenced on the trust read before the transaction, and skipped when that
trust was QUARANTINED. -/

namespace Sentinel.DeviceRegistry

open DeviceTrust (Trust AttestationStanding evaluateDeviceTrustTransition)

def Restricted (trust : Trust) : Prop := trust = .quarantined ∨ trust = .compromised

instance (trust : Trust) : Decidable (Restricted trust) :=
  inferInstanceAs (Decidable (_ ∨ _))

def Db.storedTrust (db : Db) (organisationId deviceId : String) : Option Trust :=
  (db.findDevice organisationId deviceId).map (·.trust)

/-! ## One commit -/

/-- The fenced update moves the stored trust if it is the one that was read. -/
theorem storedTrust_setDeviceTrust (db : Db) (organisationId deviceId : String)
    (source target : Trust) :
    (db.setDeviceTrust organisationId deviceId source target).2.storedTrust organisationId
        deviceId =
      (db.storedTrust organisationId deviceId).map fun stored =>
        if stored = source then target else stored := by
  rw [Db.storedTrust, Db.storedTrust, Db.setDeviceTrust, Db.findDevice_updateDevices]
  · cases hfind : db.findDevice organisationId deviceId with
    | none => rfl
    | some device =>
      obtain ⟨_, hid, horg⟩ := Db.findDevice_eq_some hfind
      by_cases htrust : device.trust = source <;> simp [Db.isDevice, hid, horg, htrust]
  · intro
    rfl

theorem storedTrust_applyTrustTransition (input : TransitionInput) (db : Db)
    (hallowed : evaluateDeviceTrustTransition input.device.trust input.target (input.basis db) =
      none) :
    (applyTrustTransition input db).2.storedTrust input.device.organisationId input.device.id =
      (db.storedTrust input.device.organisationId input.device.id).map fun stored =>
        if stored = input.device.trust then input.target else stored := by
  rw [← storedTrust_setDeviceTrust]
  simp only [applyTrustTransition, hallowed]
  split <;> rfl

theorem applyTrustTransition_compromised {input : TransitionInput} {db : Db}
    (h : input.device.trust = .compromised) : (applyTrustTransition input db).2 = db := by
  simp only [applyTrustTransition, h]
  rfl

/-- What a commit with the standing NEGATIVE does to the stored trust. -/
theorem storedTrust_observeTransaction (input : AttestationInput) (device : DeviceRow)
    (key : DeviceKeyRow) (observation : AttestationObservationRow) (db : Db) :
    (observeTransaction input device key observation .negative db).storedTrust
        device.organisationId device.id =
      (db.storedTrust device.organisationId device.id).map fun stored =>
        if stored = device.trust ∧ ¬ Restricted device.trust then .quarantined else stored := by
  -- neither the observation nor the audit event touches the device table
  have hwritten : (observeTransaction input device key observation .negative db).findDevice =
      if device.trust = .quarantined then db.findDevice
      else (applyTrustTransition (attestationMove input device key observation .negative
        .quarantined ("ATTESTATION_" ++ observation.outcome.text))
        (db.appendAttestationObservation observation)).2.findDevice := by
    by_cases hquarantined : device.trust = .quarantined
    · simp [observeTransaction, hquarantined]
    · simp only [observeTransaction, hquarantined, ne_eq, not_false_eq_true, and_self, if_true,
        if_false]
      split <;> simp_all
  rw [Db.storedTrust, hwritten]
  by_cases hquarantined : device.trust = .quarantined
  · have hkept : Restricted device.trust := .inl hquarantined
    simp only [if_pos hquarantined, hkept, not_true_eq_false, and_false, if_false, Option.map_id']
    rfl
  · rw [if_neg hquarantined]
    by_cases hcompromised : device.trust = .compromised
    · have hkept : Restricted device.trust := .inr hcompromised
      rw [applyTrustTransition_compromised hcompromised]
      simp only [hkept, not_true_eq_false, and_false, if_false, Option.map_id']
      rfl
    · have hmoves : ¬ Restricted device.trust := (Or.elim · hquarantined hcompromised)
      have hmoved := storedTrust_applyTrustTransition
        (attestationMove input device key observation .negative .quarantined
          ("ATTESTATION_" ++ observation.outcome.text))
        (db.appendAttestationObservation observation)
        (evaluate_quarantined hcompromised hquarantined _)
      simp only [hmoves, not_false_eq_true, and_true]
      exact hmoved

/-- The commit restricts the device exactly when the stored trust is the one that was
    read, or restricted already. -/
theorem observeTransaction_restricts_iff (input : AttestationInput) (device : DeviceRow)
    (key : DeviceKeyRow) (observation : AttestationObservationRow) (db : Db) :
    (∃ trust, (observeTransaction input device key observation .negative db).storedTrust
        device.organisationId device.id = some trust ∧ Restricted trust) ↔
      ∃ stored, db.storedTrust device.organisationId device.id = some stored ∧
        (stored = device.trust ∨ Restricted stored) := by
  rw [storedTrust_observeTransaction]
  cases hstored : db.storedTrust device.organisationId device.id with
  | none => simp
  | some stored =>
    simp only [Option.map_some, Option.some.injEq, exists_eq_left']
    by_cases hsame : stored = device.trust
    · by_cases hrestricted : Restricted device.trust
      · simp [hsame, hrestricted]
      · have hquarantined : Restricted .quarantined := .inl rfl
        simp [hsame, hrestricted, hquarantined]
    · simp [hsame]

/-! ## Runs -/

/-- Every committed observation with the standing NEGATIVE has left its device
    restricted. -/
def State.Quarantines (s : State) : Prop :=
  ∀ c ∈ s.commits, c.standing = .negative → ∃ trust, c.trust = some trust ∧ Restricted trust

/-- If the step commits an observation with the standing NEGATIVE, then the stored trust
    is the one that was read before the transaction, or restricted already. -/
def CommitsUnmoved (s : State) : Label → Prop
  | .call _ => True
  | .advance i _ =>
    ∀ input device key observation,
      s.workers[i]? = some (.observeCommit input device key observation .negative) →
      ∃ stored, s.db.storedTrust device.organisationId device.id = some stored ∧
        (stored = device.trust ∨ Restricted stored)

theorem step_advance_eq_some {s s' : State} {i : Nat} {env : Env}
    (h : step s (.advance i env) = some s') :
    ∃ worker db next commits, s.workers[i]? = some worker ∧
      worker.advance s.db env = some (db, next, commits) ∧
      s' = { db, workers := s.workers.set i next, commits := s.commits ++ commits } := by
  simp only [step, Option.bind_eq_bind, Option.bind_eq_some_iff] at h
  obtain ⟨worker, hworker, ⟨db, next, commits⟩, hadvance, hs'⟩ := h
  exact ⟨worker, db, next, commits, hworker, hadvance, (Option.some.inj hs').symm⟩

/-- Only the last step of an observation commits one. -/
theorem advance_commits {worker next : Worker} {db db' : Db} {env : Env}
    {commits : List AttestationCommit} (h : worker.advance db env = some (db', next, commits)) :
    commits = [] ∧ (∀ input device key observation standing,
        worker ≠ .observeCommit input device key observation standing) ∨
      ∃ input device key observation standing,
      worker = .observeCommit input device key observation standing ∧
      commits =
        [{ organisationId := device.organisationId
           deviceId := device.id
           standing
           trust := (observeTransaction input device key observation standing db).storedTrust
            device.organisationId device.id }] := by
  cases worker with
  | observeCommit input device key observation standing =>
    right
    obtain ⟨_, rest⟩ := Prod.mk.inj (Option.some.inj h)
    exact ⟨input, device, key, observation, standing, rfl, (Prod.mk.inj rest).2.symm⟩
  | observed | changed | declared | rotated => cases h
  | _ =>
    refine .inl ⟨?_, (fun _ _ _ _ _ hworker => by cases hworker)⟩
    simp only [Worker.advance] at h
    repeat' split at h
    all_goals exact (Prod.mk.inj (Prod.mk.inj (Option.some.inj h)).2).2.symm

/-- One step keeps the observations restricting exactly when it commits none on a trust
    that has moved. -/
theorem quarantines_step_iff {s s' : State} {label : Label} (h : step s label = some s') :
    s'.Quarantines ↔ s.Quarantines ∧ CommitsUnmoved s label := by
  cases label with
  | call call =>
    cases h
    exact (and_iff_left trivial).symm
  | advance i env =>
    obtain ⟨worker, db, next, commits, hworker, hadvance, rfl⟩ := step_advance_eq_some h
    have hsplit : State.Quarantines
        { db, workers := s.workers.set i next, commits := s.commits ++ commits } ↔
        s.Quarantines ∧ ∀ c ∈ commits, c.standing = .negative →
          ∃ trust, c.trust = some trust ∧ Restricted trust := by
      simp only [State.Quarantines, List.mem_append, or_imp, forall_and]
    rw [hsplit]
    refine and_congr_right fun _ => ?_
    rcases advance_commits hadvance with ⟨rfl, hother⟩ |
      ⟨input, device, key, observation, standing, rfl, rfl⟩
    · -- nothing is committed
      simp only [List.not_mem_nil, false_implies, implies_true, true_iff]
      intro input device key observation hcommit
      exact (hother _ _ _ _ _ (Option.some.inj (hworker.symm.trans hcommit))).elim
    · simp only [List.mem_singleton, forall_eq, CommitsUnmoved]
      constructor
      · intro hrestricts input' device' key' observation' hcommit
        obtain ⟨rfl, rfl, rfl, rfl, rfl⟩ :=
          Worker.observeCommit.inj (Option.some.inj (hworker.symm.trans hcommit))
        exact (observeTransaction_restricts_iff input device key observation s.db).mp
          (hrestricts rfl)
      · rintro hunmoved rfl
        exact (observeTransaction_restricts_iff input device key observation s.db).mpr
          (hunmoved _ _ _ _ hworker)

/-- Along every run the observations committed with the standing NEGATIVE all leave their device
QUARANTINED or COMPROMISED exactly when none commits on a trust that has moved to an unrestricted
one since it was read. -/
theorem quarantines_iff_unmoved (db : Db) (labels : List Label) (s : State)
    (h : Transition.run step (.idle db) labels = some s) :
    s.Quarantines ↔ Transition.RunAll step CommitsUnmoved (.idle db) labels := by
  have hidle : (State.idle db).Quarantines := fun _ hc => absurd hc List.not_mem_nil
  suffices hrun : ∀ start : State, Transition.run step start labels = some s →
      (s.Quarantines ↔ start.Quarantines ∧ Transition.RunAll step CommitsUnmoved start labels) by
    rw [hrun _ h]
    exact and_iff_right hidle
  clear h hidle
  induction labels with
  | nil =>
    intro start h
    cases h
    exact (and_iff_left trivial).symm
  | cons label labels ih =>
    intro start h
    obtain ⟨t, hstep, hrest⟩ := Transition.run_cons_eq_some.mp h
    rw [ih t hrest, quarantines_step_iff hstep, and_assoc]
    refine and_congr_right fun _ => and_congr_right fun _ => ?_
    constructor
    · intro hall u hu
      obtain rfl := Option.some.inj (hstep.symm.trans hu)
      exact hall
    · intro hall
      exact hall t hstep

/-! ## The fence misses -/

/-- The clock and the attestation seam of a negative observation. -/
def negativeEnv : Env :=
  { now := 10, evidence := ⟨.negative, none, 5⟩, observationId := "obs" }

/-- Someone who may change trust in the whole organisation. -/
def administrator : Principal :=
  { userId := "user", organisationId := "org", roles := [⟨[actionDeviceTrustManage], none⟩] }

/-- An observation reads the trusted device, the device goes OFFLINE, and the observation
    commits. -/
def offlineBetween : List Label :=
  [.call (.recordAttestationObservation ⟨"org", "dev", ""⟩),
    .call (.changeDeviceTrust administrator ⟨"org", "dev", .offline, "", ""⟩)] ++
    List.replicate 4 (.advance 0 negativeEnv) ++ List.replicate 4 (.advance 1 negativeEnv) ++
    [.advance 0 negativeEnv]

/-- The committed standing is NEGATIVE and the device OFFLINE. -/
theorem offlineBetween_misses :
    ∃ s, Transition.run step (.idle (enrolled .trusted)) offlineBetween = some s ∧
      s.commits =
        [{ organisationId := "org", deviceId := "dev", standing := .negative
           trust := some .offline }] ∧ ¬ s.Quarantines := by
  have hcommits : (Transition.run step (.idle (enrolled .trusted)) offlineBetween).map (·.commits) =
      some [{ organisationId := "org", deviceId := "dev", standing := .negative
              trust := some .offline }] := by
    decide
  obtain ⟨s, hrun, hs⟩ := Option.map_eq_some_iff.mp hcommits
  refine ⟨s, hrun, hs, fun hquarantines => ?_⟩
  obtain ⟨trust, htrust, hrestricted⟩ := hquarantines _ (hs ▸ List.mem_singleton_self _) rfl
  cases htrust
  exact absurd hrestricted (by decide)

/-- The same observation with the change after it. -/
def offlineAfter : List Label :=
  [.call (.recordAttestationObservation ⟨"org", "dev", ""⟩),
    .call (.changeDeviceTrust administrator ⟨"org", "dev", .offline, "", ""⟩)] ++
    List.replicate 5 (.advance 0 negativeEnv) ++ List.replicate 2 (.advance 1 negativeEnv)

theorem quarantines_iff_unmoved_offlineAfter :
    ((Transition.run step (.idle (enrolled .trusted)) offlineAfter).getD
        (.idle (enrolled .trusted))).Quarantines ↔
      Transition.RunAll step CommitsUnmoved (.idle (enrolled .trusted)) offlineAfter :=
  quarantines_iff_unmoved (enrolled .trusted) offlineAfter _
    (Transition.run_eq_some_getD (by decide))

end Sentinel.DeviceRegistry
