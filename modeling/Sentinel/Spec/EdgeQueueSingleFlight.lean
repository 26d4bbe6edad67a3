import Sentinel.Spec.EdgeQueueInvariant

/-! # Single flight of an Edge queue entry

Nothing in `transitionTo` stands between two claims of one entry: staying FORWARDING is not asked of
the transition table.  What keeps one attempt per entry is the caller's side of it. -/

namespace Sentinel.EdgeQueue

open Transition

variable {parses : StoredOperation → Bool}

/-! ## The attempts of a run -/

/-- What a step says about attempts. -/
inductive AttemptEvent
  /-- A claim succeeded: the entry is handed to the transport. -/
  | claimed (offlineOperationId : String)
  /-- The outcome of an attempt at the entry was recorded. -/
  | recorded (offlineOperationId : String)
  /-- The store was opened, and what was in flight recovered. -/
  | recovered
deriving DecidableEq

/-- What a call says about attempts when it reports a change. -/
def Call.attemptEvent : Call → Option AttemptEvent
  | .claimForForwarding id => some (.claimed id)
  | .recordCentralProgress id _ => some (.recorded id)
  | .recordTransportUnknown id _ => some (.recorded id)
  | .settle id _ => some (.recorded id)
  | _ => none

/-- What one step says about attempts. -/
def attemptEvent (parses : StoredOperation → Bool) (bounds : Bounds) (s : State) :
    Label → Option AttemptEvent
  | .call call reading markReading crashes =>
    match s.process with
    | none => none
    | some process =>
      if crashes then none
      else
        match perform parses bounds (process.durableNowMs reading)
            (process.durableNowMs markReading) s.db call with
        | .ok (.changed true, _) => call.attemptEvent
        | _ => none
  | .close => none
  | .reopen reading =>
    match s.process, openStore reading s.db with
    | none, .ok _ => some .recovered
    | _, _ => none

/-- The attempts of a run, in order. -/
def attemptEvents (parses : StoredOperation → Bool) (bounds : Bounds) :
    State → List Label → List AttemptEvent
  | _, [] => []
  | s, label :: labels =>
    (attemptEvent parses bounds s label).toList ++
      ((step parses bounds s label).map fun s' => attemptEvents parses bounds s' labels).getD []

/-- Between two claims of one entry the outcome of the first is recorded, or recovered. -/
def SingleFlight (events : List AttemptEvent) : Prop :=
  ∀ id before between after,
    events = before ++ .claimed id :: (between ++ .claimed id :: after) →
    .recorded id ∈ between ∨ .recovered ∈ between

/-- The entry is not FORWARDING, if there is one. -/
def NotForwarding (db : Db) (offlineOperationId : String) : Prop :=
  ∀ row, db.rowOf offlineOperationId = some row → row.queueState ≠ .forwarding

/-- A caller that neither claims nor makes ready an entry that is FORWARDING. -/
def Disciplined (s : State) : Label → Prop
  | .call (.claimForForwarding id) _ _ _ => NotForwarding s.db id
  | .call (.markReadyToForward id) _ _ _ => NotForwarding s.db id
  | _ => True

/-! ## An attempt in flight -/

/-- The entry is in the queue, central has not answered it, and it is FORWARDING. -/
def InFlight (db : Db) (offlineOperationId : String) : Prop :=
  ∃ row ∈ db.rows, row.envelope.offlineOperationId = offlineOperationId ∧
    row.settled = false ∧ row.queueState = .forwarding

variable {db db' : Db} {id : String} {bounds : Bounds} {s s' : State} {label : Label}
  {labels : List Label}

/-- With distinct ids, an entry in flight is the one its id finds. -/
theorem InFlight.rowOf (h : InFlight db id)
    (hids : (db.rows.map fun row => row.envelope.offlineOperationId).Nodup) :
    ∃ row, db.rowOf id = some row ∧ row.queueState = .forwarding := by
  obtain ⟨row, hrow, hid, -, hstate⟩ := h
  cases hfound : db.rowOf id with
  | none =>
    have hmiss := List.find?_eq_none.mp hfound row hrow
    simp [hid] at hmiss
  | some found =>
    have hsame := eq_of_rowOf hids hfound hrow (by simpa [hasId] using hid)
    exact ⟨found, rfl, hsame ▸ hstate⟩

theorem InFlight.not_notForwarding (h : InFlight db id)
    (hids : (db.rows.map fun row => row.envelope.offlineOperationId).Nodup) :
    ¬ NotForwarding db id := by
  intro hnot
  obtain ⟨row, hfound, hstate⟩ := h.rowOf hids
  exact hnot row hfound hstate

/-- A row that stays in the table is still in flight. -/
theorem InFlight.of_rows (h : InFlight db id)
    (hkept : ∀ row ∈ db.rows, row.envelope.offlineOperationId = id → row.settled = false →
      row ∈ db'.rows) : InFlight db' id := by
  obtain ⟨row, hrow, hid, hunsettled, hstate⟩ := h
  exact ⟨row, hkept row hrow hid hunsettled, hid, hunsettled, hstate⟩

/-- A state change of another entry keeps what is in flight. -/
theorem InFlight.changes {changedId : String} {target : EdgeQueueState}
    {changed : Bool} (h : InFlight db id) (hchanges : Changes db changedId target changed db')
    (hne : changedId ≠ id) : InFlight db' id := by
  cases hchanges with
  | refused => exact h
  | changed current counter change hcurrent htable hcounter htarget hallowed =>
    refine h.of_rows fun row hrow hid _ => Table.mem_rewrite_of_miss hrow ?_
    show decide (row.envelope.offlineOperationId = changedId) = false
    rw [hid, decide_eq_false_iff_not]
    exact hne.symm

/-- **An attempt in flight stays so.**  In one call of a disciplined caller, an entry in
    flight is still in flight afterwards, or the call recorded its outcome; it is not
    claimed again. -/
theorem perform_keeps_inFlight {process : Process}
    {call : Call} {reading markReading : Int} {answer : Answer}
    (hids : (s.db.rows.map fun row => row.envelope.offlineOperationId).Nodup)
    (hinFlight : InFlight s.db id) (hdisciplined : Disciplined s (.call call reading markReading false))
    (h : perform parses bounds (process.durableNowMs reading) (process.durableNowMs markReading)
      s.db call = .ok (answer, db')) :
    (InFlight db' id ∧ (answer = .changed true → call.attemptEvent ≠ some (.claimed id))) ∨
      (answer = .changed true ∧ call.attemptEvent = some (.recorded id)) := by
  have hforwarding := hinFlight.not_notForwarding hids
  cases hchange : call.change with
  | none =>
    left
    obtain ⟨hsweep, -⟩ := perform_sweep hchange h
    refine ⟨hinFlight.of_rows fun row hrow _ hunsettled => hsweep.unsettled_kept hrow hunsettled, ?_⟩
    intro _ hclaimed
    cases call with
    | claimForForwarding claimedId => cases hchange
    | _ => cases hclaimed
  | some change =>
    obtain ⟨changedId, target⟩ := change
    obtain ⟨changed, rfl, hchanges⟩ := perform_changes hchange h
    by_cases hsame : changedId = id
    · subst hsame
      -- claiming it and making it ready are what the caller does not do; the rest records
      cases changed with
      | false =>
        left
        cases hchanges
        exact ⟨hinFlight, fun hanswer => nomatch hanswer⟩
      | true =>
        right
        refine ⟨rfl, ?_⟩
        unfold Call.change at hchange
        split at hchange
        · cases hchange
          exact absurd hdisciplined hforwarding
        · cases hchange
          exact absurd hdisciplined hforwarding
        · cases hchange
          rfl
        · cases hchange
          rfl
        · cases hchange
          rfl
        · cases hchange
    · left
      refine ⟨hinFlight.changes hchanges hsame, fun _ hclaimed => hsame ?_⟩
      cases call with
      | claimForForwarding claimedId =>
        cases hchange
        exact AttemptEvent.claimed.inj (Option.some.inj hclaimed)
      | _ => cases hclaimed

/-- A claim that reports a change leaves the entry in flight. -/
theorem inFlight_of_claimed {now markedAt : Int}
    (h : perform parses bounds now markedAt db (.claimForForwarding id) = .ok (.changed true, db')) :
    InFlight db' id := by
  have hchange : Call.change (.claimForForwarding id) = some (id, .forwarding) := rfl
  obtain ⟨changed, hanswer, hchanges⟩ := perform_changes hchange h
  cases hchanges with
  | refused => cases hanswer
  | changed current counter change hcurrent htable hcounter htarget hallowed =>
    have hmem := List.mem_of_find?_eq_some hcurrent
    have hid : hasId id current = true := List.find?_some (p := hasId id) hcurrent
    obtain ⟨-, hidentity, hchecks⟩ := updateAllowed_ok (hallowed current hmem hid)
    refine ⟨change current, Table.mem_rewrite_of_hit hmem hid, ?_, ?_, htarget current⟩
    · rw [hidentity.1]
      simpa [hasId] using hid
    · -- a FORWARDING row carries no settlement
      have hmatches := (checks_settlement hchecks).1
      rw [htarget] at hmatches
      exact hmatches.symm

/-! ## Runs -/

/-- The events of one step, as they stand in front of the rest of the run. -/
theorem attemptEvents_cons (hstep : step parses bounds s label = some s') :
    attemptEvents parses bounds s (label :: labels) =
      (attemptEvent parses bounds s label).toList ++ attemptEvents parses bounds s' labels := by
  rw [attemptEvents, hstep]
  rfl

/-- A step from an attempt in flight: it stays in flight and is not claimed, or its
    outcome is recorded or recovered. -/
theorem step_keeps_inFlight
    (h : s.Inv bounds) (hinFlight : InFlight s.db id) (hdisciplined : Disciplined s label)
    (hstep : step parses bounds s label = some s') :
    (InFlight s'.db id ∧ attemptEvent parses bounds s label ≠ some (.claimed id)) ∨
      attemptEvent parses bounds s label = some (.recorded id) ∨
      attemptEvent parses bounds s label = some .recovered := by
  cases label with
  | close =>
    left
    rw [← Option.some.inj hstep]
    exact ⟨hinFlight, fun hevent => by cases hevent⟩
  | reopen reading =>
    simp only [step, attemptEvent] at hstep ⊢
    cases hprocess : s.process with
    | some process => simp [hprocess] at hstep
    | none =>
      simp only [hprocess] at hstep ⊢
      cases hopen : openStore reading s.db with
      | error failure =>
        left
        rw [hopen] at hstep
        rw [← Option.some.inj hstep]
        exact ⟨hinFlight, fun hevent => by cases hevent⟩
      | ok opened => exact Or.inr (Or.inr rfl)
  | call call reading markReading crashes =>
    simp only [step, attemptEvent] at hstep ⊢
    cases hprocess : s.process with
    | none => simp [hprocess] at hstep
    | some process =>
      simp only [hprocess] at hstep ⊢
      cases crashes with
      | true =>
        left
        rw [if_pos rfl] at hstep ⊢
        rw [← Option.some.inj hstep]
        exact ⟨hinFlight, fun hevent => by cases hevent⟩
      | false =>
        rw [if_neg Bool.false_ne_true] at hstep ⊢
        cases hperform : perform parses bounds (process.durableNowMs reading)
            (process.durableNowMs markReading) s.db call with
        | error failure =>
          left
          rw [hperform] at hstep
          rw [← Option.some.inj hstep]
          exact ⟨hinFlight, fun hevent => by cases hevent⟩
        | ok answered =>
          obtain ⟨answer, db'⟩ := answered
          rw [hperform] at hstep
          rw [← Option.some.inj hstep]
          rcases perform_keeps_inFlight h.wf.nodup_ids hinFlight hdisciplined hperform with
            ⟨hstays, hclaim⟩ | ⟨rfl, hrecorded⟩
          · left
            refine ⟨hstays, fun hevent => ?_⟩
            split at hevent
            next heq =>
              cases heq
              exact hclaim rfl hevent
            · cases hevent
          · exact Or.inr (Or.inl hrecorded)

/-- After a claim, the entry is in flight. -/
theorem inFlight_of_event (hstep : step parses bounds s label = some s')
    (hevent : attemptEvent parses bounds s label = some (.claimed id)) : InFlight s'.db id := by
  cases label with
  | close => cases hevent
  | reopen reading =>
    simp only [attemptEvent] at hevent
    split at hevent <;> cases hevent
  | call call reading markReading crashes =>
    simp only [step, attemptEvent] at hstep hevent
    cases hprocess : s.process with
    | none => simp [hprocess] at hstep
    | some process =>
      simp only [hprocess] at hstep hevent
      split at hevent
      · cases hevent
      next hcrash =>
        rw [if_neg hcrash] at hstep
        split at hevent
        next hperform =>
          rw [hperform] at hstep
          rw [← Option.some.inj hstep]
          cases call with
          | claimForForwarding claimedId =>
            obtain rfl := AttemptEvent.claimed.inj (Option.some.inj hevent)
            exact inFlight_of_claimed hperform
          | _ => cases hevent
        · cases hevent

/-- From an attempt in flight, no run claims the entry before its outcome is known. -/
theorem outcome_before_claim (h : s.Inv bounds) (hinFlight : InFlight s.db id)
    (hdisciplined : RunAll (step parses bounds) Disciplined s labels)
    (hrun : run (step parses bounds) s labels = some s') {between after : List AttemptEvent}
    (hevents : attemptEvents parses bounds s labels = between ++ .claimed id :: after) :
    .recorded id ∈ between ∨ .recovered ∈ between := by
  induction labels generalizing s between with
  | nil =>
    have hlength := congrArg List.length hevents
    simp [attemptEvents] at hlength
  | cons label labels ih =>
    obtain ⟨t, hstep, hrest⟩ := run_cons_eq_some.mp hrun
    rw [attemptEvents_cons hstep] at hevents
    have hhead : ∀ event, attemptEvent parses bounds s label = some event →
        event ≠ .claimed id → ∃ rest, between = event :: rest ∧
          attemptEvents parses bounds t labels = rest ++ .claimed id :: after := by
      intro event hevent hne
      rw [hevent] at hevents
      cases between with
      | nil => exact absurd (List.cons.inj hevents).1 hne
      | cons first rest =>
        obtain ⟨rfl, htail⟩ := List.cons.inj hevents
        exact ⟨rest, rfl, htail⟩
    rcases step_keeps_inFlight h hinFlight hdisciplined.1 hstep with
      ⟨hstays, hclaim⟩ | hrecorded | hrecovered
    · cases hevent : attemptEvent parses bounds s label with
      | none =>
        rw [hevent] at hevents
        exact ih (h.step hstep) hstays (hdisciplined.2 t hstep) hrest hevents
      | some event =>
        obtain ⟨rest, rfl, htail⟩ := hhead event hevent fun heq => hclaim (heq ▸ hevent)
        have hlater := ih (h.step hstep) hstays (hdisciplined.2 t hstep) hrest htail
        exact hlater.imp (List.mem_cons_of_mem _) (List.mem_cons_of_mem _)
    · obtain ⟨rest, rfl, -⟩ := hhead _ hrecorded nofun
      exact Or.inl List.mem_cons_self
    · obtain ⟨rest, rfl, -⟩ := hhead _ hrecovered nofun
      exact Or.inr List.mem_cons_self

/-- The same from any state: what comes after a claim. -/
theorem singleFlight_of_inv
    (h : s.Inv bounds) (hdisciplined : RunAll (step parses bounds) Disciplined s labels)
    (hrun : run (step parses bounds) s labels = some s') :
    SingleFlight (attemptEvents parses bounds s labels) := by
  intro id before between after hevents
  induction labels generalizing s before with
  | nil =>
    have hlength := congrArg List.length hevents
    simp [attemptEvents] at hlength
  | cons label labels ih =>
    obtain ⟨t, hstep, hrest⟩ := run_cons_eq_some.mp hrun
    rw [attemptEvents_cons hstep] at hevents
    cases hevent : attemptEvent parses bounds s label with
    | none =>
      rw [hevent] at hevents
      exact ih (h.step hstep) (hdisciplined.2 t hstep) hrest before hevents
    | some event =>
      rw [hevent] at hevents
      cases before with
      | nil =>
        obtain ⟨rfl, htail⟩ := List.cons.inj hevents
        exact outcome_before_claim (h.step hstep) (inFlight_of_event hstep hevent)
          (hdisciplined.2 t hstep) hrest htail
      | cons first before =>
        obtain ⟨-, htail⟩ := List.cons.inj hevents
        exact ih (h.step hstep) (hdisciplined.2 t hstep) hrest before htail

/-- **Single flight, for a disciplined caller.**  In every run that neither claims nor
    makes ready an entry that is FORWARDING, an entry is not claimed a second time before
    the outcome of its attempt is recorded or recovered. -/
theorem singleFlight_of_disciplined {bounds : Bounds} {labels : List Label} {s : State}
    (hdisciplined : RunAll (step parses bounds) Disciplined .initial labels)
    (hrun : run (step parses bounds) .initial labels = some s) :
    SingleFlight (attemptEvents parses bounds .initial labels) :=
  singleFlight_of_inv (State.Inv.initial bounds) hdisciplined hrun

/-- One entry, claimed when it is ready, timed out, and claimed again. -/
def retriedOnce : List Label :=
  [.reopen 0, .call (admissionOf "first" 0) 5 5 false,
   .call (.markReadyToForward "first") 6 6 false, .call (.claimForForwarding "first") 7 7 false,
   .call (.recordTransportUnknown "first" .timedOut) 8 8 false,
   .call (.claimForForwarding "first") 9 9 false]

/-- `Disciplined`, computed. -/
def disciplined (s : State) : Label → Bool
  | .call (.claimForForwarding id) _ _ _ => (s.db.rowOf id).all (·.queueState ≠ .forwarding)
  | .call (.markReadyToForward id) _ _ _ => (s.db.rowOf id).all (·.queueState ≠ .forwarding)
  | _ => true

theorem disciplined_of_checked (h : disciplined s label = true) : Disciplined s label := by
  have hnot : ∀ id, (s.db.rowOf id).all (·.queueState ≠ .forwarding) = true →
      NotForwarding s.db id := by
    intro id hall row hrow
    rw [hrow] at hall
    simpa using hall
  unfold disciplined at h
  split at h
  · exact hnot _ h
  · exact hnot _ h
  next hclaim hready =>
    unfold Disciplined
    split
    · exact absurd rfl (hclaim _ _ _ _)
    · exact absurd rfl (hready _ _ _ _)
    · exact trivial

theorem singleFlight_of_disciplined_retried :
    ∃ s, run (step (fun _ => true) ⟨1, 0⟩) .initial retriedOnce = some s ∧
      SingleFlight (attemptEvents (fun _ => true) ⟨1, 0⟩ .initial retriedOnce) := by
  have hsome : (run (step (fun _ => true) ⟨1, 0⟩) .initial retriedOnce).isSome = true := by
    decide
  obtain ⟨s, hrun⟩ := Option.isSome_iff_exists.mp hsome
  have hchecked : runAllChecked (step (fun _ => true) ⟨1, 0⟩) disciplined .initial retriedOnce =
      true := by decide
  exact ⟨s, hrun, singleFlight_of_disciplined
    (runAll_of_checked (fun _ _ => disciplined_of_checked) hchecked) hrun⟩

/-- The entry claimed while its first attempt is still open: the second claim succeeds. -/
def claimedTwice : List Label :=
  [.reopen 0, .call (admissionOf "first" 0) 5 5 false,
   .call (.markReadyToForward "first") 6 6 false, .call (.claimForForwarding "first") 7 7 false,
   .call (.claimForForwarding "first") 8 8 false]

theorem claimed_twice :
    ∃ s, run (step (fun _ => true) ⟨1, 0⟩) .initial claimedTwice = some s ∧
      attemptEvents (fun _ => true) ⟨1, 0⟩ .initial claimedTwice =
        [.recovered, .claimed "first", .claimed "first"] ∧
      ¬ SingleFlight (attemptEvents (fun _ => true) ⟨1, 0⟩ .initial claimedTwice) := by
  have hsome : (run (step (fun _ => true) ⟨1, 0⟩) .initial claimedTwice).isSome = true := by
    decide
  obtain ⟨s, hrun⟩ := Option.isSome_iff_exists.mp hsome
  have hevents : attemptEvents (fun _ => true) ⟨1, 0⟩ .initial claimedTwice =
      [.recovered, .claimed "first", .claimed "first"] := by decide
  refine ⟨s, hrun, hevents, fun hsingle => ?_⟩
  have hbetween := hsingle "first" [.recovered] [] [] hevents
  simp at hbetween

end Sentinel.EdgeQueue
