import Sentinel.Spec.EdgeQueueFinality

/-! # What is forwarded next

Every device-sequence namespace has at most one head, its unsettled operation at the least device
sequence.  A head that waits holds back its own namespace and no other. -/

namespace Sentinel.EdgeQueue

open Transition

variable {parses : StoredOperation → Bool} {bounds : Bounds}

/-! ## The unique index -/

/-- The columns of `edge_queue_one_operation_per_position`. -/
def Row.sequencePosition (row : Row) : (String × String × String × String) × Int :=
  (row.envelope.namespaceColumns, row.envelope.deviceSequence)

/-- Two envelopes for one position are unstorable. -/
def Db.OneOperationPerPosition (db : Db) : Prop := (db.rows.map Row.sequencePosition).Nodup

variable {db db' : Db} {row : Row} {now : Int}

theorem insertRow_oneOperationPerPosition
    (h : insertRow db row = .ok db') (hdb : db.OneOperationPerPosition) :
    db'.OneOperationPerPosition := by
  unfold insertRow at h
  rw [Except.ite_error_eq_ok, Except.ite_error_eq_ok, Except.ite_error_eq_ok] at h
  obtain ⟨-, -, hunique, h⟩ := h
  cases h
  refine Table.nodup_map_concat hdb fun held hheld heq => hunique ?_
  obtain ⟨hnamespace, hsequence⟩ := Prod.mk.inj heq
  exact List.any_eq_true.mpr ⟨held, hheld, by simp [hnamespace, hsequence]⟩

/-- Whatever admits nothing rewrites rows in place or drops them. -/
theorem Effect.oneOperationPerPosition {claimed : List Nat}
    (heffect : Effect bounds db [] claimed db') (hdb : db.OneOperationPerPosition) :
    db'.OneOperationPerPosition := by
  cases heffect with
  | rewritten counter selected change claims hcounter hmoves hclaims =>
    show (List.map _ _).Nodup
    rw [map_rewrite_of_moves fun row hrow hselected => by
      rw [Row.sequencePosition, Row.sequencePosition, (hmoves row hrow hselected).identity.1]]
    exact hdb
  | swept _ _ hsweep =>
    cases hsweep with
    | dropped keep hkeep => exact hdb.sublist (List.filter_sublist.map _)

theorem storeOperation_oneOperationPerPosition {input : AdmissionInput}
    {outcome : Admission} (h : storeOperation parses now input db = .ok (outcome, db'))
    (hdb : db.OneOperationPerPosition) : db'.OneOperationPerPosition := by
  unfold storeOperation at h
  obtain ⟨advanced, hadvanced, h⟩ := Except.bind_eq_ok.mp h
  obtain ⟨rfl, -⟩ := updateCounter_ok hadvanced
  obtain ⟨receipt, -, h⟩ := Except.bind_eq_ok.mp h
  obtain ⟨-, -, h⟩ := Except.bind_eq_ok.mp h
  obtain ⟨stored, hstored, h⟩ := Except.bind_eq_ok.mp h
  obtain ⟨entry, -, h⟩ := Except.bind_eq_ok.mp h
  cases h
  exact insertRow_oneOperationPerPosition hstored hdb

theorem admission_oneOperationPerPosition {input : AdmissionInput}
    {outcome : Admission} (h : admission parses bounds now input db = .ok (outcome, db'))
    (hdb : db.OneOperationPerPosition) : db'.OneOperationPerPosition := by
  rw [admission] at h
  obtain ⟨swept, hswept, h⟩ := Except.bind_eq_ok.mp h
  obtain ⟨found, -, h⟩ := Except.bind_eq_ok.mp h
  have hkept : swept.OneOperationPerPosition := by
    obtain ⟨keep, rfl, -⟩ := sweepSettled_ok hswept
    exact hdb.sublist (List.filter_sublist.map _)
  -- a refusal leaves what the sweep left
  have hrefused {refusal : Admission}
      (hok : (Except.ok (refusal, swept) : Except EdgeQueueError (Admission × Db)) =
        .ok (outcome, db')) : db'.OneOperationPerPosition := by
    cases hok
    exact hkept
  cases found with
  | some entry => exact hrefused h
  | none =>
    simp only at h
    split at h
    · exact hrefused h
    split at h
    · exact hrefused h
    split at h
    · exact hrefused h
    · exact storeOperation_oneOperationPerPosition h hkept

theorem perform_oneOperationPerPosition {markedAt : Int} {call : Call}
    {answer : Answer} (hids : (db.rows.map fun row => row.envelope.offlineOperationId).Nodup)
    (h : perform parses bounds now markedAt db call = .ok (answer, db'))
    (hdb : db.OneOperationPerPosition) : db'.OneOperationPerPosition := by
  cases hadmitted : admittedBy answer with
  | nil =>
    have heffect := perform_effect hids h
    rw [hadmitted] at heffect
    exact heffect.oneOperationPerPosition hdb
  | cons position rest =>
    -- only an admission admits
    cases hchange : call.change with
    | some change =>
      obtain ⟨id, target⟩ := change
      obtain ⟨changed, rfl, -⟩ := perform_changes hchange h
      cases hadmitted
    | none =>
      cases call with
      | admission input =>
        obtain ⟨⟨outcome, after⟩, hcall, h⟩ := Except.map_eq_ok.mp h
        cases h
        exact admission_oneOperationPerPosition hcall hdb
      | pruneSettled limit =>
        obtain ⟨⟨count, after⟩, -, h⟩ := Except.map_eq_ok.mp h
        cases h
        cases hadmitted
      | settle id result =>
        cases result with
        | none => cases h
        | some result =>
          cases result with
          | unknown reason => cases h
          | terminal answer => cases hchange
      | markReadyToForward id => cases hchange
      | claimForForwarding id => cases hchange
      | recordCentralProgress id progress => cases hchange
      | recordTransportUnknown id reason => cases hchange

theorem step_oneOperationPerPosition {s s' : State} {label : Label} (hinv : s.Inv bounds)
    (hs : s.db.OneOperationPerPosition) (hstep : step parses bounds s label = some s') :
    s'.db.OneOperationPerPosition := by
  cases label with
  | call call reading markReading crashes =>
    simp only [step] at hstep
    split at hstep
    · cases hstep
    split at hstep
    · rw [← Option.some.inj hstep]
      exact hs
    split at hstep
    · rw [← Option.some.inj hstep]
      exact hs
    next answer db' hperform =>
      rw [← Option.some.inj hstep]
      exact perform_oneOperationPerPosition hinv.wf.nodup_ids hperform hs
  | close =>
    rw [← Option.some.inj hstep]
    exact hs
  | reopen reading =>
    simp only [step] at hstep
    split at hstep
    · cases hstep
    split at hstep
    · rw [← Option.some.inj hstep]
      exact hs
    next process db' hopen =>
      rw [← Option.some.inj hstep]
      exact (openStore_effect bounds hopen).oneOperationPerPosition hs

/-- Every state of a run keeps the index. -/
theorem run_oneOperationPerPosition {labels : List Label} {s : State}
    (hrun : run (step parses bounds) .initial labels = some s) : s.db.OneOperationPerPosition := by
  let both (s : State) : Prop := s.Inv bounds ∧ s.db.OneOperationPerPosition
  have hstep : ∀ {s label s'}, both s → step parses bounds s label = some s' → both s' :=
    fun h hstep => ⟨h.1.step hstep, step_oneOperationPerPosition h.1 h.2 hstep⟩
  have hboth : both s := run_invariant hstep ⟨.initial bounds, List.nodup_nil⟩ hrun
  exact hboth.2

/-! ## Heads -/

/-- The head of its namespace: unsettled, and before every other unsettled operation of it. -/
structure NamespaceHead (db : Db) (row : Row) : Prop where
  held : row ∈ db.rows
  unsettled : row.settled = false
  first : ∀ other ∈ db.rows, other.settled = false →
    other.envelope.namespaceColumns = row.envelope.namespaceColumns → other ≠ row →
      row.envelope.deviceSequence < other.envelope.deviceSequence

/-- May be attempted at the instant: in a state that is forwarded from, its backoff elapsed. -/
def Row.Attemptable (now : Int) (row : Row) : Prop :=
  row.queueState ∈ edgeQueueForwardableStates ∧ row.nextAttemptMonotonicMs ≤ now

theorem NamespaceHead.unique {a b : Row} (ha : NamespaceHead db a) (hb : NamespaceHead db b)
    (hnamespace : a.envelope.namespaceColumns = b.envelope.namespaceColumns) : a = b := by
  by_contra hne
  have hab := ha.first b hb.held hb.unsettled hnamespace.symm (Ne.symm hne)
  have hba := hb.first a ha.held ha.unsettled hnamespace hne
  omega

/-- The correlated minimum of the query is the head, because no two rows share a sequence. -/
theorem isHead_iff (hdb : db.OneOperationPerPosition) (hrow : row ∈ db.rows)
    (hunsettled : row.settled = false) : isHead db row = true ↔ NamespaceHead db row := by
  rw [isHead, List.all_eq_true]
  constructor
  · refine fun h => ⟨hrow, hunsettled, fun other hother hsettled hnamespace hne => ?_⟩
    have hle := h other hother
    simp only [hsettled, hnamespace, ne_eq, not_true_eq_false, decide_false, Bool.or_self,
      Bool.false_or, decide_eq_true_eq] at hle
    -- an equal sequence would be the same row
    have hdistinct : other.envelope.deviceSequence ≠ row.envelope.deviceSequence := fun heq =>
      hne (Table.eq_of_key hdb hother hrow (Prod.ext hnamespace heq))
    omega
  · intro hhead other hother
    simp only [Bool.or_eq_true, decide_eq_true_eq]
    by_cases hsettled : other.settled = true
    · exact .inl (.inl hsettled)
    by_cases hnamespace : other.envelope.namespaceColumns = row.envelope.namespaceColumns
    · refine .inr ?_
      by_cases heq : other = row
      · rw [heq]
      · have := hhead.first other hother (Bool.eq_false_iff.mpr hsettled) hnamespace heq
        omega
    · exact .inl (.inr hnamespace)

theorem isForwardableHead_iff (hdb : db.OneOperationPerPosition) (hrow : row ∈ db.rows) :
    isForwardableHead now db row = true ↔ NamespaceHead db row ∧ row.Attemptable now := by
  rw [isForwardableHead, Row.Attemptable]
  simp only [Bool.and_eq_true, Bool.not_eq_true', List.contains_iff_mem, decide_eq_true_eq]
  constructor
  · rintro ⟨⟨⟨hunsettled, hstate⟩, hbackoff⟩, hhead⟩
    exact ⟨(isHead_iff hdb hrow hunsettled).mp hhead, hstate, hbackoff⟩
  · rintro ⟨hhead, hstate, hbackoff⟩
    exact ⟨⟨⟨hhead.unsettled, hstate⟩, hbackoff⟩, (isHead_iff hdb hrow hhead.unsettled).mpr hhead⟩

/-! ## The selection -/

/-- The rows the query selects, before its `LIMIT`. -/
def selectedHeads (now : Int) (db : Db) : List Row :=
  (db.rows.filter (isForwardableHead now db)).insertionSort fun a b => a.position ≤ b.position

theorem mem_selectedHeads (hdb : db.OneOperationPerPosition) :
    row ∈ selectedHeads now db ↔ NamespaceHead db row ∧ row.Attemptable now := by
  rw [selectedHeads, (List.perm_insertionSort _ _).mem_iff, List.mem_filter]
  constructor
  · rintro ⟨hrow, hselected⟩
    exact (isForwardableHead_iff hdb hrow).mp hselected
  · intro h
    exact ⟨h.1.held, (isForwardableHead_iff hdb h.1.held).mpr h⟩

theorem selectedHeads_oldest_first (now : Int) (db : Db) :
    (selectedHeads now db).Pairwise fun a b => a.position ≤ b.position := by
  have : Std.Total fun a b : Row => a.position ≤ b.position :=
    ⟨fun a b => Nat.le_total a.position b.position⟩
  have : IsTrans Row fun a b => a.position ≤ b.position := ⟨fun _ _ _ => Nat.le_trans⟩
  exact List.pairwise_insertionSort _ _

theorem selectedHeads_nodup (hdb : db.OneOperationPerPosition) (now : Int) :
    (selectedHeads now db).Nodup :=
  (List.perm_insertionSort _ _).nodup_iff.mpr (hdb.of_map.filter _)

theorem forwardableHeads_eq_take {limit : Nat} {heads : List Row}
    (h : forwardableHeads parses now limit db = .ok heads) :
    heads = (selectedHeads now db).take limit := by
  rw [forwardableHeads] at h
  exact mapM_toEntry_ok h

/-- The query answers while the contract accepts what is stored. -/
theorem forwardableHeads_answers {limit : Nat}
    (hparses : ∀ row ∈ db.rows, parses row.stored = true) :
    forwardableHeads parses now limit db = .ok ((selectedHeads now db).take limit) := by
  have hall : ∀ rows : List Row, (∀ row ∈ rows, parses row.stored = true) →
      rows.mapM (toEntry parses) = .ok rows := by
    intro rows hrows
    induction rows with
    | nil => rfl
    | cons row rows ih =>
      rw [List.mapM_cons, toEntry, if_pos (hrows row (List.mem_cons_self ..)),
        ih fun row hrow => hrows row (List.mem_cons_of_mem _ hrow)]
      rfl
  refine hall _ fun row hrow => hparses row ?_
  have hmem := (List.perm_insertionSort _ _).mem_iff.mp (List.mem_of_mem_take hrow)
  exact (List.mem_filter.mp hmem).1

/-- What is taken, said by namespace: a head of each namespace that may be attempted now, the oldest
    stored first, as many as the limit lets through. -/
structure ForwardsHeads (now : Int) (limit : Nat) (db : Db) (heads : List Row) : Prop where
  one_each : heads.Pairwise fun a b => a.envelope.namespaceColumns ≠ b.envelope.namespaceColumns
  oldest_first : heads.Pairwise fun a b => a.position ≤ b.position
  length_le : heads.length ≤ limit
  head : ∀ row ∈ heads, NamespaceHead db row ∧ row.Attemptable now
  represented : ∀ row, NamespaceHead db row → row.Attemptable now →
    row ∈ heads ∨ heads.length = limit ∧ ∀ head ∈ heads, head.position ≤ row.position

theorem forwardsHeads_take (hdb : db.OneOperationPerPosition) (now : Int) (limit : Nat) :
    ForwardsHeads now limit db ((selectedHeads now db).take limit) where
  one_each := by
    refine List.Pairwise.sublist (List.take_sublist _ _) ?_
    refine (selectedHeads_nodup hdb now).pairwise_of_forall_ne fun a ha b hb hne hnamespace => hne ?_
    exact ((mem_selectedHeads hdb).mp ha).1.unique ((mem_selectedHeads hdb).mp hb).1 hnamespace
  oldest_first := (selectedHeads_oldest_first now db).sublist (List.take_sublist _ _)
  length_le := List.length_take_le _ _
  head row hrow := (mem_selectedHeads hdb).mp (List.mem_of_mem_take hrow)
  represented row hhead hattemptable := by
    have hselected := (mem_selectedHeads hdb).mpr ⟨hhead, hattemptable⟩
    rw [← List.take_append_drop limit (selectedHeads now db)] at hselected
    obtain htaken | hleft := List.mem_append.mp hselected
    · exact .inl htaken
    · -- something is left after the limit, so the limit is reached
      have hlength := List.length_pos_of_mem hleft
      rw [List.length_drop] at hlength
      refine .inr ⟨by rw [List.length_take]; omega, fun head htaken => ?_⟩
      have hsorted := selectedHeads_oldest_first now db
      rw [← List.take_append_drop limit (selectedHeads now db)] at hsorted
      exact (List.pairwise_append.mp hsorted).2.2 head htaken row hleft

/-! ## Namespaces do not meet -/

/-- The two queues hold the same operations of the namespace. -/
def SameInNamespace (columns : String × String × String × String) (db db' : Db) : Prop :=
  ∀ row : Row, row.envelope.namespaceColumns = columns → (row ∈ db.rows ↔ row ∈ db'.rows)

theorem NamespaceHead.of_same
    (hsame : SameInNamespace row.envelope.namespaceColumns db db') (h : NamespaceHead db row) :
    NamespaceHead db' row where
  held := (hsame row rfl).mp h.held
  unsettled := h.unsettled
  first other hother hsettled hnamespace hne :=
    h.first other ((hsame other hnamespace).mpr hother) hsettled hnamespace hne

/-- **What is forwarded next.**  In every queue a run reaches, at any instant, `forwardableHeads`
answers with exactly the attemptable heads up to the limit, and with the same row for a namespace in
every queue that holds the same rows of it. -/
theorem forwardableHeads_heads :
    (∀ bounds labels s, run (step parses bounds) .initial labels = some s →
      s.db.OneOperationPerPosition) ∧
    ∀ db : Db, db.OneOperationPerPosition → ∀ now limit,
      ((∀ row ∈ db.rows, parses row.stored = true) →
        ∃ heads, forwardableHeads parses now limit db = .ok heads) ∧
      ∀ heads, forwardableHeads parses now limit db = .ok heads →
        ForwardsHeads now limit db heads ∧
        ∀ head ∈ heads, ∀ db' : Db, db'.OneOperationPerPosition →
          SameInNamespace head.envelope.namespaceColumns db db' → ∀ limit' heads',
            forwardableHeads parses now limit' db' = .ok heads' →
              (∀ head' ∈ heads',
                head'.envelope.namespaceColumns = head.envelope.namespaceColumns → head' = head) ∧
              (heads'.length < limit' → head ∈ heads') := by
  refine ⟨fun _ _ _ => run_oneOperationPerPosition, fun db hdb now limit => ⟨?_, ?_⟩⟩
  · exact fun hparses => ⟨_, forwardableHeads_answers hparses⟩
  intro heads hheads
  obtain rfl := forwardableHeads_eq_take hheads
  refine ⟨forwardsHeads_take hdb now limit, ?_⟩
  intro head hhead db' hdb' hsame limit' heads' hheads'
  obtain rfl := forwardableHeads_eq_take hheads'
  have hselected := (forwardsHeads_take hdb now limit).head head hhead
  have hthere := hselected.1.of_same hsame
  refine ⟨fun head' hhead' hnamespace => ?_, fun hroom => ?_⟩
  · exact ((forwardsHeads_take hdb' now limit').head head' hhead').1.unique hthere hnamespace
  · obtain htaken | hfull := (forwardsHeads_take hdb' now limit').represented head hthere hselected.2
    · exact htaken
    · omega

/-- An operation of a device, in a state and with a backoff. -/
def queuedRow (device : String) (deviceSequence : Int) (position : Nat) (state : EdgeQueueState)
    (nextAttempt : Int) : Row :=
  { storedRow (device ++ toString position) position none with
    envelope := ⟨device ++ toString position, "organisation", "site", "actor", device,
      deviceSequence, "lease", "digest", ""⟩
    queueState := state
    nextAttemptMonotonicMs := nextAttempt }

/-- Three devices: one with its head in flight, one whose head waits, one whose head is due. -/
def mixedQueue : Db where
  counter := ⟨1, 5, 2, 0⟩
  rows :=
    [queuedRow "inFlight" 4 0 .forwarding 2, queuedRow "inFlight" 5 1 .readyToForward 1,
      queuedRow "waits" 1 2 .unknown 90, queuedRow "due" 9 3 .centralReceived 5,
      queuedRow "due" 7 4 .readyToForward 10]

/-- Only the last device is represented, by its head and not by its older row. -/
theorem forwardableHeads_heads_mixed :
    ForwardsHeads 10 64 mixedQueue [queuedRow "due" 7 4 .readyToForward 10] := by
  have hindex : mixedQueue.OneOperationPerPosition := by
    show (mixedQueue.rows.map Row.sequencePosition).Nodup
    decide
  have hheads : forwardableHeads (fun _ => true) 10 64 mixedQueue =
      .ok [queuedRow "due" 7 4 .readyToForward 10] := by
    decide
  exact ((forwardableHeads_heads.2 mixedQueue hindex 10 64).2 _ hheads).1

end Sentinel.EdgeQueue
