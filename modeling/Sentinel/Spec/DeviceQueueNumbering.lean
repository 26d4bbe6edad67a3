import Sentinel.Native.DeviceQueue
import Sentinel.Spec.FieldOfflineClaims
import Sentinel.Spec.OfflineOutboxInvariant

/-! # The device's counter against central's cursors

The device numbers one queue, central numbers one queue per organisation, site, actor
and device.  The two agree on an entry exactly when every earlier entry of the device is
in its namespace. -/

namespace Sentinel.DeviceQueue

open Transition
open FieldOffline (ReplayNamespace Operation ReceiptRow Submission Consumed semanticRequest
  maxOfflineDeviceSequence)
open OfflineOutbox (OfflineOutboxEntry JsonCodec Stored Snapshot OutboxInvariant KeepsSigned load
  mutate markAttempt markTerminal remove recordEdgeReceipt enqueue)

variable {codec : JsonCodec} {maxDepth : Nat} {central : Central} {device : Device}

/-! ## Entries as operations -/

theorem operationOf_ok {entry : OfflineOutboxEntry} {traceId : String} {operation : Operation}
    (h : operationOf central entry traceId = .ok operation) :
    operation.siteId = entry.siteId ∧ (operation.deviceSequence : Int) = entry.deviceSequence := by
  unfold operationOf at h
  split at h
  · cases h
  · split at h
    · cases h
    next hnonneg =>
      split at h
      · cases h
        exact ⟨rfl, Int.toNat_of_nonneg (Int.not_lt.mp hnonneg)⟩
      · cases h

theorem semanticRequest_operationOf {entry : OfflineOutboxEntry} {traceId traceId' : String}
    {operation operation' : Operation} (h : operationOf central entry traceId = .ok operation)
    (h' : operationOf central entry traceId' = .ok operation') (ns : ReplayNamespace) :
    semanticRequest ns operation = semanticRequest ns operation' := by
  unfold operationOf at h h'
  split at h
  · cases h
  next payload hpayload =>
    rw [hpayload] at h'
    simp only at h'
    split at h
    · cases h
    next hnonneg =>
      rw [if_neg hnonneg] at h'
      split at h
      next hle =>
        rw [dif_pos hle] at h'
        cases h
        cases h'
        rfl
      · cases h

theorem namespaceOf_signedPart (entry : OfflineOutboxEntry) :
    namespaceOf entry.signedPart = namespaceOf entry := rfl

theorem operationOf_signedPart (entry : OfflineOutboxEntry) (traceId : String) :
    operationOf central entry.signedPart traceId = operationOf central entry traceId := rfl

/-! ## The outbox beside its history -/

/-- The stored queue holds entries taken earlier, at the positions they were given. -/
def QueueHolds (codec : JsonCodec) (maxDepth : Nat) (queued : List OfflineOutboxEntry)
    (stored : Stored) : Prop :=
  ∃ snapshot, load codec stored = .ok snapshot ∧
    OutboxInvariant maxDepth (queued.map OfflineOutboxEntry.deviceSequence) snapshot ∧
    ∀ entry ∈ snapshot.entries, ∃ taken ∈ queued, taken.signedPart = entry.signedPart

theorem QueueHolds.initial : QueueHolds codec maxDepth [] none :=
  ⟨_, rfl, OfflineOutbox.outboxInvariant_initial maxDepth, fun _ hentry => nomatch hentry⟩

theorem QueueHolds.mutate {queued : List OfflineOutboxEntry} {stored : Stored}
    (h : QueueHolds codec maxDepth queued stored) (writable : Bool) (id : String)
    {change : OfflineOutboxEntry → OfflineOutboxEntry} (hchange : KeepsSigned change) :
    QueueHolds codec maxDepth queued (OfflineOutbox.mutate codec writable stored id change).2 := by
  obtain ⟨snapshot, hload, hinvariant, htaken⟩ := h
  rcases OfflineOutbox.mutate_cases codec writable hload hinvariant.wellFormed id hchange with
    hsame | ⟨rewrite, hrewrite, hread⟩
  · rw [hsame]
    exact ⟨snapshot, hload, hinvariant, htaken⟩
  · refine ⟨_, hread, ?_, fun entry hentry => ?_⟩
    · have hnext := hinvariant.change (@OfflineOutbox.QueueChange.rewritten _ _ .reload rewrite hrewrite)
      rwa [List.append_nil] at hnext
    · obtain ⟨original, horiginal, rfl⟩ := List.mem_map.mp (OfflineOutbox.Snapshot.mem_list.mp hentry)
      obtain ⟨taken, hmem, hsigned⟩ := htaken original horiginal
      exact ⟨taken, hmem, hsigned.trans (hrewrite original).symm⟩

theorem QueueHolds.remove {queued : List OfflineOutboxEntry} {stored : Stored}
    (h : QueueHolds codec maxDepth queued stored) (writable : Bool) (id : String) :
    QueueHolds codec maxDepth queued (OfflineOutbox.remove codec writable stored id).2 := by
  obtain ⟨snapshot, hload, hinvariant, htaken⟩ := h
  rcases OfflineOutbox.remove_cases codec writable hload hinvariant.wellFormed id with hsame | hread
  · rw [hsame]
    exact ⟨snapshot, hload, hinvariant, htaken⟩
  · refine ⟨_, hread, ?_, fun entry hentry => ?_⟩
    · have hnext := hinvariant.change (@OfflineOutbox.QueueChange.removed _ _ (.remove id) id rfl)
      rwa [List.append_nil] at hnext
    · have hmem := OfflineOutbox.Snapshot.mem_list.mp hentry
      exact htaken entry (List.mem_of_mem_filter hmem)

theorem map_taken (answer : Except OfflineOutbox.OutboxFailure OfflineOutbox.OfflineEnqueueResult) :
    (taken answer).map OfflineOutboxEntry.deviceSequence = OfflineOutbox.handedSequence answer := by
  cases answer with
  | error failure => rfl
  | ok result =>
    obtain ⟨outcome, entry⟩ := result
    cases outcome <;> cases entry <;> rfl

theorem QueueHolds.enqueue {queued : List OfflineOutboxEntry} {stored : Stored}
    (h : QueueHolds codec maxDepth queued stored) (writable : Bool) (id : String)
    (build : Int → Option OfflineOutboxEntry) :
    QueueHolds codec maxDepth
        (queued ++ taken (OfflineOutbox.enqueue codec maxDepth writable stored id build).1)
        (OfflineOutbox.enqueue codec maxDepth writable stored id build).2 ∧
      ∀ entry ∈ taken (OfflineOutbox.enqueue codec maxDepth writable stored id build).1,
        ∃ sequence, build sequence = some entry := by
  obtain ⟨snapshot, hload, hinvariant, htaken⟩ := h
  rcases OfflineOutbox.enqueue_cases codec maxDepth writable hload hinvariant.wellFormed id build with
    ⟨hsame, hanswer⟩ | ⟨entry, hanswer, hbuild, hsequence, hmax, hdepth, hfresh, hread⟩
  · have htook : taken (OfflineOutbox.enqueue codec maxDepth writable stored id build).1 = [] := by
      rw [← List.map_eq_nil_iff, map_taken, hanswer]
    rw [hsame, htook, List.append_nil]
    exact ⟨⟨snapshot, hload, hinvariant, htaken⟩, fun _ hbuilt => nomatch hbuilt⟩
  · rw [hanswer]
    refine ⟨⟨_, hread, ?_, fun held hheld => ?_⟩, fun built hbuilt => ?_⟩
    · have hnext := hinvariant.change
        (@OfflineOutbox.QueueChange.enqueued _ _ (.enqueue id build) entry hsequence hmax hdepth hfresh)
      rwa [List.map_append, taken, List.map_singleton, hsequence]
    · rcases List.of_mem_concat (OfflineOutbox.Snapshot.mem_list.mp hheld) with hheld | rfl
      · obtain ⟨earlier, hmem, hsigned⟩ := htaken held hheld
        exact ⟨earlier, List.mem_append_left _ hmem, hsigned⟩
      · exact ⟨held, List.mem_append_right _ (List.mem_singleton_self _), rfl⟩
    · rw [List.mem_singleton.mp hbuilt]
      exact ⟨_, hbuild⟩

/-! ## What central holds of the device -/

/-- A namespace, a position and a fingerprint that one of the entries was submitted with. -/
def Sent (central : Central) (queued : List OfflineOutboxEntry) (ns : ReplayNamespace)
    (deviceSequence : Nat) (fingerprint : String) : Prop :=
  ∃ entry ∈ queued, ∃ traceId operation, operationOf central entry traceId = .ok operation ∧
    ns = namespaceOf entry ∧ deviceSequence = operation.deviceSequence ∧
    fingerprint = central.digest (semanticRequest ns operation)

theorem Sent.mono {queued more : List OfflineOutboxEntry} {ns : ReplayNamespace}
    {deviceSequence : Nat} {fingerprint : String}
    (h : Sent central queued ns deviceSequence fingerprint) :
    Sent central (queued ++ more) ns deviceSequence fingerprint := by
  obtain ⟨entry, hentry, hsent⟩ := h
  exact ⟨entry, List.mem_append_left _ hentry, hsent⟩

/-- A submission of the device is one of its entries; other devices' are free. -/
def SubmissionSent (central : Central) (device : Device) (queued : List OfflineOutboxEntry)
    (submission : Submission) : Prop :=
  submission.replayNamespace.deviceId = device.deviceId →
    Sent central queued submission.replayNamespace submission.operation.deviceSequence
      submission.requestFingerprint

def ReceiptSent (central : Central) (device : Device) (queued : List OfflineOutboxEntry)
    (row : ReceiptRow) : Prop :=
  row.replayNamespace.deviceId = device.deviceId →
    Sent central queued row.replayNamespace row.deviceSequence row.requestFingerprint

/-- The outbox keeps its numbering, the replay service its own invariant, and whatever
    central holds of the device came from an entry. -/
structure State.Inv (codec : JsonCodec) (maxDepth : Nat) (central : Central) (device : Device)
    (s : State) : Prop where
  replay : s.central.Inv
  queue : QueueHolds codec maxDepth s.queued s.stored
  ours : ∀ entry ∈ s.queued,
    entry.organisationId = device.organisationId ∧ entry.deviceId = device.deviceId
  workers : ∀ worker ∈ s.central.workers, SubmissionSent central device s.queued worker.submission
  receipts : ∀ row ∈ s.central.db.receipts, ReceiptSent central device s.queued row

theorem State.Inv.initial : State.initial.Inv codec maxDepth central device where
  replay := FieldOffline.State.init_inv
  queue := QueueHolds.initial
  ours _ hentry := nomatch hentry
  workers _ hworker := nomatch hworker
  receipts _ hrow := nomatch hrow

theorem ReceiptSent.of_identity {queued : List OfflineOutboxEntry} {row row' : ReceiptRow}
    (h : ReceiptSent central device queued row) (hid : row'.identity = row.identity) :
    ReceiptSent central device queued row' := by
  simp only [ReceiptRow.identity, FieldOffline.ReceiptIdentity.mk.injEq] at hid
  obtain ⟨-, hns, -, hsequence, -, hfingerprint, -⟩ := hid
  rw [ReceiptSent, hns, hsequence, hfingerprint]
  exact h

theorem SubmissionSent.created {queued : List OfflineOutboxEntry} {submission : Submission}
    (h : SubmissionSent central device queued submission) {row : ReceiptRow}
    (hrow : FieldOffline.Created submission row) : ReceiptSent central device queued row := by
  have hposition := hrow.positionKey
  rw [FieldOffline.positionKey, Prod.mk.injEq] at hposition
  rw [ReceiptSent, hposition.1, hposition.2, hrow.requestFingerprint]
  exact h

theorem submissionSent_of_preflight {queued : List OfflineOutboxEntry}
    {principal : FieldOffline.Principal} {entry taken : OfflineOutboxEntry}
    {authorisedSiteIds : List String} {traceId : String} {policyLeaseId : Option String}
    {siteExists : Bool} {submission : Submission} (htaken : taken ∈ queued)
    (hsigned : taken.signedPart = entry.signedPart)
    (h : FieldOffline.preflight central.env principal
      ⟨entry.organisationId, entry.actorUserId, entry.deviceId, authorisedSiteIds⟩
      (operationOf central entry traceId) policyLeaseId siteExists = .ok submission) :
    SubmissionSent central device queued submission := by
  intro _
  obtain ⟨hoperation, hns⟩ := FieldOffline.preflight_ok h
  have hsame : operationOf central taken traceId = operationOf central entry traceId := by
    rw [← operationOf_signedPart taken, hsigned, operationOf_signedPart]
  have hnamespace : namespaceOf taken = namespaceOf entry := by
    rw [← namespaceOf_signedPart taken, hsigned, namespaceOf_signedPart]
  refine ⟨taken, htaken, traceId, submission.operation, hsame.trans hoperation, ?_, rfl,
    (FieldOffline.preflight_derived h).requestFingerprint⟩
  rw [hns, hnamespace, (operationOf_ok hoperation).1]
  rfl

/-- A submission of another device carries another device id. -/
theorem submissionSent_of_other {queued : List OfflineOutboxEntry}
    {principal : FieldOffline.Principal} {context : FieldOffline.DeviceContext}
    {rawOperation : Except (List String) Operation} {policyLeaseId : Option String}
    {siteExists : Bool} {submission : Submission} (hother : context.deviceId ≠ device.deviceId)
    (h : FieldOffline.preflight central.env principal context rawOperation policyLeaseId siteExists
      = .ok submission) : SubmissionSent central device queued submission := by
  intro hdevice
  rw [(FieldOffline.preflight_ok h).2] at hdevice
  exact absurd hdevice hother

/-- A submission to central keeps the invariant when it is sent as an entry. -/
theorem State.Inv.submitted {s : State} (h : s.Inv codec maxDepth central device)
    {principal : FieldOffline.Principal} {context : FieldOffline.DeviceContext}
    {rawOperation : Except (List String) Operation} {policyLeaseId : Option String}
    {siteExists : Bool} {next : FieldOffline.State}
    (hsent : ∀ submission, FieldOffline.preflight central.env principal context rawOperation
      policyLeaseId siteExists = .ok submission →
      SubmissionSent central device s.queued submission)
    (hstep : FieldOffline.step central.env s.central (.submit principal context rawOperation
      policyLeaseId siteExists) = some next) :
    ({ s with central := next } : State).Inv codec maxDepth central device := by
  have hinv := FieldOffline.step_inv h.replay hstep
  simp only [FieldOffline.step] at hstep
  split at hstep
  · cases hstep
    exact h
  next submission hpreflight =>
    cases hstep
    refine ⟨hinv, h.queue, h.ours, fun worker hworker => ?_, h.receipts⟩
    rcases List.of_mem_concat hworker with hold | rfl
    · exact h.workers worker hold
    · exact hsent submission hpreflight

theorem State.Inv.moved {s : State} (h : s.Inv codec maxDepth central device) {worker : Nat}
    {move : FieldOffline.Move} {next : FieldOffline.State}
    (hstep : FieldOffline.step central.env s.central (.move worker move) = some next) :
    ({ s with central := next } : State).Inv codec maxDepth central device := by
  have hinv := FieldOffline.step_inv h.replay hstep
  simp only [FieldOffline.step] at hstep
  split at hstep
  · cases hstep
  next mover hworker =>
    split at hstep
    · cases hstep
    next db' phase hmove =>
      cases hstep
      have hmover := h.workers mover (List.mem_of_getElem? hworker)
      have heffect := FieldOffline.moved_effect h.replay.db (FieldOffline.moveWorker_moved hmove)
      refine ⟨hinv, h.queue, h.ours, fun other hother => ?_, fun row hrow => ?_⟩
      · rcases List.mem_or_eq_of_mem_set hother with hold | rfl
        · exact h.workers other hold
        · exact hmover
      · rcases heffect.origin hrow with ⟨old, hold, hid⟩ | hcreated
        · exact (h.receipts old hold).of_identity hid
        · exact hmover.created hcreated

theorem QueueHolds.taken_of_peekNext {queued : List OfflineOutboxEntry} {stored : Stored}
    (h : QueueHolds codec maxDepth queued stored) {entry : OfflineOutboxEntry}
    (hpeek : peekNext codec stored = some entry) :
    ∃ taken ∈ queued, taken.signedPart = entry.signedPart := by
  obtain ⟨snapshot, hload, -, htaken⟩ := h
  rw [peekNext, hload] at hpeek
  have hmem := List.argmin_mem (Option.mem_def.mpr hpeek)
  exact htaken entry (List.mem_of_mem_filter hmem)

theorem keepsSigned_markAttempt (attemptedAt : String) : KeepsSigned fun entry =>
    { entry with attemptCount := entry.attemptCount + 1, lastAttemptAt := some attemptedAt } :=
  fun _ => rfl

theorem keepsSigned_markTerminal : KeepsSigned fun entry => { entry with state := .terminal } :=
  fun _ => rfl

theorem keepsSigned_recordEdgeReceipt (receipt : String) : KeepsSigned fun entry =>
    { entry with edgeReceiptJson := some receipt } :=
  fun _ => rfl

theorem QueueHolds.settleInOutbox {queued : List OfflineOutboxEntry} {stored : Stored}
    (h : QueueHolds codec maxDepth queued stored) (writableMark writableRemove : Bool)
    (entry : OfflineOutboxEntry) :
    QueueHolds codec maxDepth queued
      (OfflineSubmission.settleInOutbox codec writableMark writableRemove stored entry).2 := by
  have hmark := h.mutate writableMark entry.offlineOperationId keepsSigned_markTerminal
  have hterminal : (OfflineOutbox.markTerminal codec writableMark stored
      entry.offlineOperationId).2 = (OfflineOutbox.mutate codec writableMark stored
      entry.offlineOperationId fun entry => { entry with state := .terminal }).2 := rfl
  rw [← hterminal] at hmark
  unfold OfflineSubmission.settleInOutbox
  split
  next failure stored' hfailed =>
    rw [hfailed] at hmark
    exact hmark
  next changed stored' hchanged =>
    rw [hchanged] at hmark
    have hremove := hmark.remove writableRemove entry.offlineOperationId
    split
    next failure stored'' hfailed =>
      rw [hfailed] at hremove
      exact hremove
    next removed stored'' hremoved =>
      rw [hremoved] at hremove
      exact hremove

/-- A call that changes the stored text alone. -/
theorem State.Inv.stored {s : State} (h : s.Inv codec maxDepth central device) {stored : Stored}
    (hqueue : QueueHolds codec maxDepth s.queued stored) :
    ({ s with stored := stored } : State).Inv codec maxDepth central device :=
  ⟨h.replay, hqueue, h.ours, h.workers, h.receipts⟩

theorem State.Inv.enqueued {s : State} (h : s.Inv codec maxDepth central device)
    (entry : OfflineOutboxEntry) (writable : Bool) {s' : State}
    (hstep : step codec maxDepth central device s (.enqueue entry writable) = some s') :
    s'.Inv codec maxDepth central device := by
  cases hstep
  obtain ⟨hqueue, hbuilt⟩ := h.queue.enqueue writable entry.offlineOperationId (device.build entry)
  refine ⟨h.replay, hqueue, fun taken htaken => ?_, fun worker hworker hdevice => ?_,
    fun row hrow hdevice => ?_⟩
  · cases List.mem_append.mp htaken with
    | inl hold => exact h.ours taken hold
    | inr hnew =>
      obtain ⟨sequence, hbuild⟩ := hbuilt taken hnew
      cases hbuild
      exact ⟨rfl, rfl⟩
  · exact (h.workers worker hworker hdevice).mono
  · exact (h.receipts row hrow hdevice).mono

theorem State.Inv.submittedNext {s : State} (h : s.Inv codec maxDepth central device)
    {principal : FieldOffline.Principal} {authorisedSiteIds : List String} {siteExists : Bool}
    {traceId attemptedAt : String} {writable : Bool} {s' : State}
    (hstep : submitNext codec central s principal authorisedSiteIds siteExists traceId attemptedAt
      writable = some s') : s'.Inv codec maxDepth central device := by
  unfold submitNext at hstep
  split at hstep
  · cases hstep
  next entry hpeek =>
    obtain ⟨taken, htaken, hsigned⟩ := h.queue.taken_of_peekNext hpeek
    have hmark := h.queue.mutate writable entry.offlineOperationId
      (keepsSigned_markAttempt attemptedAt)
    split at hstep
    · cases hstep
    next changed stored hattempt =>
      obtain ⟨next, hnext, rfl⟩ := Option.map_eq_some_iff.mp hstep
      have hinv := h.submitted
        (fun submission hpreflight => submissionSent_of_preflight htaken hsigned hpreflight) hnext
      refine hinv.stored ?_
      rw [OfflineOutbox.markAttempt] at hattempt
      rwa [hattempt] at hmark

theorem State.Inv.settled {s : State} (h : s.Inv codec maxDepth central device)
    {writableMark writableRemove : Bool} {s' : State}
    (hstep : settle codec s writableMark writableRemove = some s') :
    s'.Inv codec maxDepth central device := by
  unfold settle at hstep
  split at hstep
  · cases hstep
  next entry hpeek =>
    split at hstep
    · cases hstep
      exact h.stored (h.queue.settleInOutbox writableMark writableRemove entry)
    · cases hstep

/-- Every step keeps the invariant. -/
theorem State.Inv.step {s s' : State} {label : Label} (h : s.Inv codec maxDepth central device)
    (hstep : step codec maxDepth central device s label = some s') :
    s'.Inv codec maxDepth central device := by
  cases label with
  | enqueue entry writable => exact h.enqueued entry writable hstep
  | recordEdgeReceipt id receipt writable =>
    cases hstep
    refine h.stored ?_
    rcases OfflineOutbox.recordEdgeReceipt_cases codec writable s.stored id receipt with hsame | hsame
    · rw [hsame]
      exact h.queue
    · rw [hsame]
      exact h.queue.mutate writable id (keepsSigned_recordEdgeReceipt receipt)
  | submitNext principal sites siteExists traceId attemptedAt writable => exact h.submittedNext hstep
  | otherDevice principal context rawOperation policyLeaseId siteExists =>
    simp only [DeviceQueue.step] at hstep
    split at hstep
    · cases hstep
    next hother =>
      obtain ⟨next, hnext, rfl⟩ := Option.map_eq_some_iff.mp hstep
      exact h.submitted (fun _ hpreflight => submissionSent_of_other hother hpreflight) hnext
  | central worker move =>
    obtain ⟨next, hnext, rfl⟩ := Option.map_eq_some_iff.mp hstep
    exact h.moved hnext
  | settle writableMark writableRemove => exact h.settled hstep

/-! ## Whose position it is -/

theorem QueueHolds.nodup_sequences {queued : List OfflineOutboxEntry} {stored : Stored}
    (h : QueueHolds codec maxDepth queued stored) :
    (queued.map OfflineOutboxEntry.deviceSequence).Nodup := by
  obtain ⟨snapshot, -, hinvariant, -⟩ := h
  rw [hinvariant.handed_eq]
  exact List.nodup_range.map fun _ _ => Int.ofNat.inj

theorem QueueHolds.taken_below {queued : List OfflineOutboxEntry} {stored : Stored}
    (h : QueueHolds codec maxDepth queued stored) {entry : OfflineOutboxEntry}
    (hentry : entry ∈ queued) {position : Nat} (hlt : (position : Int) < entry.deviceSequence) :
    ∃ earlier ∈ queued, earlier.deviceSequence = position := by
  obtain ⟨snapshot, -, hinvariant, -⟩ := h
  have hmem : ∀ n : Nat, (n : Int) ∈ queued.map OfflineOutboxEntry.deviceSequence ↔
      n < queued.length := by
    intro n
    rw [hinvariant.handed_eq, List.length_map, List.mem_map]
    constructor
    · rintro ⟨m, hm, heq⟩
      rw [← Int.ofNat.inj heq]
      exact List.mem_range.mp hm
    · exact fun hn => ⟨n, List.mem_range.mpr hn, rfl⟩
  have hsequence : entry.deviceSequence ∈ queued.map OfflineOutboxEntry.deviceSequence :=
    List.mem_map_of_mem hentry
  obtain ⟨n, hn⟩ := Int.eq_ofNat_of_zero_le (Int.le_trans (Int.natCast_nonneg position) hlt.le)
  rw [hn, hmem] at hsequence
  have hposition := (hmem position).mpr (by omega)
  exact List.mem_map.mp hposition

/-- A final receipt of the device sits at a position central's cursor has consumed. -/
theorem State.Inv.consumed_of_finalized {s : State} (h : s.Inv codec maxDepth central device)
    {entry : OfflineOutboxEntry} (hfinal : Finalized s.central.db entry) :
    Consumed (s.central.db.readCursor (namespaceOf entry)) entry.deviceSequence.toNat := by
  obtain ⟨row, hrow, hns, hsequence, -, hrowFinal⟩ := hfinal
  have hconsumed := h.replay.db.finalized_consumed row hrow hrowFinal
  rwa [hns, show row.deviceSequence = entry.deviceSequence.toNat by omega] at hconsumed

/-- A consumed position of one of the device's namespaces was consumed by the entry the
    device gave that sequence. -/
theorem State.Inv.namespace_of_consumed {s : State} (h : s.Inv codec maxDepth central device)
    {ns : ReplayNamespace} (hns : ns.deviceId = device.deviceId) {position : Nat}
    (hconsumed : Consumed (s.central.db.readCursor ns) position) :
    ∃ entry ∈ s.queued, entry.deviceSequence = position ∧ namespaceOf entry = ns := by
  obtain ⟨row, hrow, hkey, -⟩ := h.replay.db.consumed_finalized ns position hconsumed
  rw [FieldOffline.positionKey, Prod.mk.injEq] at hkey
  obtain ⟨rfl, rfl⟩ := hkey
  obtain ⟨entry, hentry, traceId, operation, hoperation, hnamespace, hsequence, -⟩ :=
    h.receipts row hrow hns
  refine ⟨entry, hentry, ?_, hnamespace.symm⟩
  rw [← (operationOf_ok hoperation).2, hsequence]

/-- Two namespaces of the device whose first position is consumed are one. -/
theorem State.Inv.namespace_unique {s : State} (h : s.Inv codec maxDepth central device)
    {ns ns' : ReplayNamespace} (hns : ns.deviceId = device.deviceId)
    (hns' : ns'.deviceId = device.deviceId) {position position' : Nat}
    (hconsumed : Consumed (s.central.db.readCursor ns) position)
    (hconsumed' : Consumed (s.central.db.readCursor ns') position') : ns = ns' := by
  -- both have consumed position 0, which the device gave to one entry
  have hfirst : ∀ {cursor : Option Nat} {n : Nat}, Consumed cursor n → Consumed cursor 0 :=
    fun ⟨last, hlast, _⟩ => ⟨last, hlast, Nat.zero_le last⟩
  obtain ⟨entry, hentry, hsequence, rfl⟩ := h.namespace_of_consumed hns (hfirst hconsumed)
  obtain ⟨entry', hentry', hsequence', rfl⟩ := h.namespace_of_consumed hns' (hfirst hconsumed')
  rw [Table.eq_of_key h.queue.nodup_sequences hentry hentry' (hsequence.trans hsequence'.symm)]

/-- The receipt at an entry's own position carries its fingerprint. -/
theorem State.Inv.same_request {s : State} (h : s.Inv codec maxDepth central device)
    {taken : OfflineOutboxEntry} (htaken : taken ∈ s.queued) {traceId : String}
    {operation : Operation} (hoperation : operationOf central taken traceId = .ok operation)
    {row : ReceiptRow} (hrow : row ∈ s.central.db.receipts)
    (hkey : FieldOffline.positionKey row = (namespaceOf taken, operation.deviceSequence)) :
    row.requestFingerprint = central.digest (semanticRequest (namespaceOf taken) operation) := by
  rw [FieldOffline.positionKey, Prod.mk.injEq] at hkey
  have hdevice : row.replayNamespace.deviceId = device.deviceId := by
    rw [hkey.1]
    exact (h.ours taken htaken).2
  obtain ⟨entry, hentry, traceId', operation', hoperation', hnamespace, hsequence, hfingerprint⟩ :=
    h.receipts row hrow hdevice
  have hsame : entry.deviceSequence = taken.deviceSequence := by
    rw [← (operationOf_ok hoperation').2, ← (operationOf_ok hoperation).2, ← hsequence, hkey.2]
  obtain rfl := Table.eq_of_key h.queue.nodup_sequences hentry htaken hsame
  rw [hfingerprint, hnamespace, semanticRequest_operationOf hoperation' hoperation]

/-- The oldest entry, with every earlier one final: FRESH or REPLAY as long as the earlier
    ones are in its namespace. -/
theorem State.Inv.classification_of_sameNamespace {s : State}
    (h : s.Inv codec maxDepth central device) {taken : OfflineOutboxEntry}
    (htaken : taken ∈ s.queued) {traceId : String} {operation : Operation}
    (hoperation : operationOf central taken traceId = .ok operation)
    (hlower : ∀ earlier ∈ s.queued, earlier.deviceSequence < taken.deviceSequence →
      Finalized s.central.db earlier)
    (hsame : ∀ earlier ∈ s.queued, earlier.deviceSequence < taken.deviceSequence →
      namespaceOf earlier = namespaceOf taken) :
    classification central s.central.db (namespaceOf taken) operation = .fresh ∨
      classification central s.central.db (namespaceOf taken) operation = .replay := by
  have hsequence := (operationOf_ok hoperation).2
  by_cases hconsumed : Consumed (s.central.db.readCursor (namespaceOf taken))
      operation.deviceSequence
  · -- the position is consumed, by this very entry
    right
    obtain ⟨row, hrow, hkey, -⟩ := h.replay.db.consumed_finalized _ _ hconsumed
    have hfingerprint := h.same_request htaken hoperation hrow hkey
    have hfound := FieldOffline.findReceiptBySequence_of_mem h.replay.db hrow hkey
    rw [classification, FieldOffline.classify_of_consumed hconsumed, hfound, Option.map_some]
    have hequal : row.toStoredReceipt.requestFingerprint =
        central.env.fingerprintOfflineSemanticRequest (namespaceOf taken) operation := hfingerprint
    rw [hequal, decide_eq_true rfl]
    rfl
  · -- it is not, and every lower position is, so it is the one expected next
    left
    rw [classification, FieldOffline.classify_eq_fresh]
    refine FieldOffline.nextExpected_of_not_consumed operation.deviceSequence_le hconsumed ?_
    intro position hposition
    obtain ⟨earlier, hearlier, hearlierSequence⟩ :=
      h.queue.taken_below htaken (show (position : Int) < taken.deviceSequence by omega)
    have hlt : earlier.deviceSequence < taken.deviceSequence := by omega
    have hearlierConsumed := h.consumed_of_finalized (hlower earlier hearlier hlt)
    rwa [hsame earlier hearlier hlt, hearlierSequence] at hearlierConsumed

/-- Conversely, an entry that central accepts as the next one continues the namespace of
    every earlier entry. -/
theorem State.Inv.sameNamespace_of_classification {s : State}
    (h : s.Inv codec maxDepth central device) {taken : OfflineOutboxEntry}
    (htaken : taken ∈ s.queued) {traceId : String} {operation : Operation}
    (hoperation : operationOf central taken traceId = .ok operation)
    (hlower : ∀ earlier ∈ s.queued, earlier.deviceSequence < taken.deviceSequence →
      Finalized s.central.db earlier)
    (hclass : classification central s.central.db (namespaceOf taken) operation = .fresh ∨
      classification central s.central.db (namespaceOf taken) operation = .replay)
    {earlier : OfflineOutboxEntry} (hearlier : earlier ∈ s.queued)
    (hlt : earlier.deviceSequence < taken.deviceSequence) :
    namespaceOf earlier = namespaceOf taken := by
  have hsequence := (operationOf_ok hoperation).2
  have hfinal := hlower earlier hearlier hlt
  have hnonneg : 0 ≤ earlier.deviceSequence := by
    obtain ⟨row, -, -, hrowSequence, -⟩ := hfinal
    omega
  have hconsumed : ∃ position, Consumed (s.central.db.readCursor (namespaceOf taken)) position := by
    rcases hclass with hfresh | hreplay
    · rcases FieldOffline.nextExpected_eq_some (FieldOffline.classify_eq_fresh.mp hfresh) with
        ⟨-, hzero⟩ | ⟨last, hlast, -⟩
      · omega
      · exact ⟨last, last, hlast, Nat.le_refl _⟩
    · exact ⟨_, FieldOffline.consumed_of_classify_eq_replay operation.deviceSequence_le hreplay⟩
  obtain ⟨position, hconsumed⟩ := hconsumed
  exact h.namespace_unique (h.ours earlier hearlier).2 (h.ours taken htaken).2
    (h.consumed_of_finalized hfinal) hconsumed

/-! ## Every run -/

/-- A step that queues, if at all, for one actor at one site. -/
def QueuesFor (siteId actorUserId : String) : Label → Prop
  | .enqueue entry _ => entry.siteId = siteId ∧ entry.actorUserId = actorUserId
  | _ => True

/-- Everything the device ever queued is of one actor at one site. -/
def AllQueuedFor (siteId actorUserId : String) (s : State) : Prop :=
  ∀ entry ∈ s.queued, entry.siteId = siteId ∧ entry.actorUserId = actorUserId

theorem AllQueuedFor.step {siteId actorUserId : String} {s s' : State} {label : Label}
    (h : AllQueuedFor siteId actorUserId s) (hinv : s.Inv codec maxDepth central device)
    (hlabel : QueuesFor siteId actorUserId label)
    (hstep : DeviceQueue.step codec maxDepth central device s label = some s') :
    AllQueuedFor siteId actorUserId s' := by
  -- only `enqueue` adds to the history
  have hsame : s'.queued = s.queued → AllQueuedFor siteId actorUserId s' := by
    intro hqueued
    rw [AllQueuedFor, hqueued]
    exact h
  cases label with
  | enqueue entry writable =>
    cases hstep
    intro held hheld
    cases List.mem_append.mp hheld with
    | inl hold => exact h held hold
    | inr hnew =>
      obtain ⟨-, hbuilt⟩ := hinv.queue.enqueue writable entry.offlineOperationId (device.build entry)
      obtain ⟨sequence, hbuild⟩ := hbuilt held hnew
      cases hbuild
      exact hlabel
  | recordEdgeReceipt id receipt writable =>
    cases hstep
    exact h
  | submitNext principal sites siteExists traceId attemptedAt writable =>
    simp only [DeviceQueue.step, submitNext] at hstep
    split at hstep
    · cases hstep
    · split at hstep
      · cases hstep
      · obtain ⟨next, -, rfl⟩ := Option.map_eq_some_iff.mp hstep
        exact h
  | otherDevice principal context rawOperation policyLeaseId siteExists =>
    simp only [DeviceQueue.step] at hstep
    split at hstep
    · cases hstep
    · obtain ⟨next, -, rfl⟩ := Option.map_eq_some_iff.mp hstep
      exact h
  | central worker move =>
    obtain ⟨next, -, rfl⟩ := Option.map_eq_some_iff.mp hstep
    exact h
  | settle writableMark writableRemove =>
    simp only [DeviceQueue.step, settle] at hstep
    split at hstep
    · cases hstep
    · split at hstep
      · cases hstep
        exact h
      · cases hstep

theorem AllQueuedFor.run {siteId actorUserId : String} {labels : List Label} {s : State}
    (hlabels : ∀ label ∈ labels, QueuesFor siteId actorUserId label)
    (hrun : run (DeviceQueue.step codec maxDepth central device) .initial labels = some s) :
    AllQueuedFor siteId actorUserId s := by
  have hall : RunAll (DeviceQueue.step codec maxDepth central device)
      (fun _ label => QueuesFor siteId actorUserId label) .initial labels := runAll_of_forall hlabels
  have hstep : ∀ {s : State} {label : Label} {s' : State},
      (s.Inv codec maxDepth central device ∧ AllQueuedFor siteId actorUserId s) →
      QueuesFor siteId actorUserId label →
      DeviceQueue.step codec maxDepth central device s label = some s' →
      s'.Inv codec maxDepth central device ∧ AllQueuedFor siteId actorUserId s' :=
    fun h hlabel hstep => ⟨h.1.step hstep, h.2.step h.1 hlabel hstep⟩
  have hinitial : State.initial.Inv codec maxDepth central device ∧
      AllQueuedFor siteId actorUserId .initial :=
    ⟨State.Inv.initial, fun _ hentry => nomatch hentry⟩
  exact (runAll_invariant hstep hinitial hall hrun).2

/-- **The device's counter and central's cursor.**  When all entries below the oldest remaining one
are final, central classifies that one as FRESH or REPLAY exactly when all of them are in its
namespace. -/
theorem numbering_agrees {labels : List Label} {s : State}
    (hrun : run (step codec maxDepth central device) .initial labels = some s)
    {entry : OfflineOutboxEntry} (hpeek : peekNext codec s.stored = some entry)
    {traceId : String} {operation : Operation}
    (hoperation : operationOf central entry traceId = .ok operation)
    (hlower : ∀ earlier ∈ s.queued, earlier.deviceSequence < entry.deviceSequence →
      Finalized s.central.db earlier) :
    ((classification central s.central.db (namespaceOf entry) operation = .fresh ∨
        classification central s.central.db (namespaceOf entry) operation = .replay) ↔
      ∀ earlier ∈ s.queued, earlier.deviceSequence < entry.deviceSequence →
        namespaceOf earlier = namespaceOf entry) ∧
    ∀ siteId actorUserId, (∀ label ∈ labels, QueuesFor siteId actorUserId label) →
      classification central s.central.db (namespaceOf entry) operation = .fresh ∨
        classification central s.central.db (namespaceOf entry) operation = .replay := by
  have hinv : s.Inv codec maxDepth central device :=
    run_invariant State.Inv.step State.Inv.initial hrun
  -- the stored entry may have been retried; what was signed is what was queued
  obtain ⟨taken, htaken, hsigned⟩ := hinv.queue.taken_of_peekNext hpeek
  have hnamespace : namespaceOf taken = namespaceOf entry := by
    rw [← namespaceOf_signedPart taken, hsigned, namespaceOf_signedPart]
  have hsequence : taken.deviceSequence = entry.deviceSequence := by
    have hsame := congrArg OfflineOutboxEntry.deviceSequence hsigned
    exact hsame
  rw [← operationOf_signedPart, ← hsigned, operationOf_signedPart] at hoperation
  rw [← hnamespace]
  rw [← hsequence] at hlower ⊢
  refine ⟨⟨fun hclass earlier hearlier hlt => ?_, fun hsame => ?_⟩, fun site actor hlabels => ?_⟩
  · exact hinv.sameNamespace_of_classification htaken hoperation hlower hclass hearlier hlt
  · exact hinv.classification_of_sameNamespace htaken hoperation hlower hsame
  · refine hinv.classification_of_sameNamespace htaken hoperation hlower fun earlier hearlier _ => ?_
    have hall := AllQueuedFor.run hlabels hrun
    obtain ⟨hsite, hactor⟩ := hall earlier hearlier
    obtain ⟨hsite', hactor'⟩ := hall taken htaken
    obtain ⟨horganisation, hdevice⟩ := hinv.ours earlier hearlier
    obtain ⟨horganisation', hdevice'⟩ := hinv.ours taken htaken
    rw [namespaceOf, namespaceOf, hsite, hsite', hactor, hactor', horganisation, horganisation',
      hdevice, hdevice']

/-! ## Two actors on one device -/

namespace Sample

/-- A central that takes every payload for the acknowledgement of one message. -/
def acknowledging : Central where
  executor :=
    { roleHasAction := fun _ _ => true
      fingerprintOfflineSemanticRequest := fun _ _ => ""
      deriveOfflineDownstreamIdempotencyKey := fun _ _ _ => ""
      resultParses := fun _ => true }
  digest request := request.offlineOperationId
  parsePayload _ _ := .ok (.messageAcknowledge ⟨"message"⟩)

def handset : Device := ⟨"organisation", "device"⟩

/-- What an actor signs, with empty text in the fields no step reads. -/
def signed (offlineOperationId actorUserId : String) (deviceSequence : Int) :
    OfflineOutboxEntry where
  offlineOperationId := offlineOperationId
  organisationId := "organisation"
  siteId := "site"
  actorUserId := actorUserId
  deviceId := "device"
  keyId := ""
  keyVersion := 1
  operationKind := ""
  deviceSequence := deviceSequence
  idempotencyKey := ""
  payloadDigest := ""
  policyLeaseId := ""
  nonce := ""
  createdAt := ""
  claimedSignatureProfile := ""
  signature := ""
  payloadJson := ""

/-- The operation central reads from it. -/
def operation (offlineOperationId : String) (deviceSequence : Nat)
    (h : deviceSequence ≤ maxOfflineDeviceSequence) : Operation where
  offlineOperationId := offlineOperationId
  organisationId := "organisation"
  siteId := "site"
  deviceId := "device"
  deviceSequence := deviceSequence
  deviceSequence_le := h
  idempotencyKey := ""
  createdAt := ""
  traceId := "trace"
  payload := .messageAcknowledge ⟨"message"⟩

/-- Two entries are queued; the first is submitted, applied and leaves the queue. -/
def drainedOnce (first second : String) : List Label :=
  [.enqueue (signed "a" first 0) true, .enqueue (signed "b" second 0) true,
    .submitNext ⟨first, "organisation", [⟨"operative", none⟩]⟩ ["site"] true "trace" "" true,
    .central 0 (.ensureCursor .acknowledged),
    .central 0 (.admitOperation .acknowledged "receipt" 0),
    .central 0 (.claim .acknowledged 1),
    .central 0 (.execute (.view (.acknowledgement "message"))),
    .central 0 (.finalize .acknowledged 2), .settle true true]

/-- What the end of a run says about the second entry. -/
def observed (second : String) (labels : List Label) :
    Option (Bool × Bool × FieldOffline.SequenceClassification) :=
  (run (step OfflineOutbox.compactCodec 2 acknowledging handset) .initial labels).map fun s =>
    (peekNext OfflineOutbox.compactCodec s.stored = some (signed "b" second 1),
      decide (∀ earlier ∈ s.queued, earlier.deviceSequence < 1 → Finalized s.central.db earlier),
      classification acknowledging s.central.db (namespaceOf (signed "b" second 1))
        (operation "b" 1 (by decide)))

end Sample

/-- With one actor the second entry is FRESH once the first is final. -/
theorem numbering_agrees_oneActor :
    ∃ s, run (step OfflineOutbox.compactCodec 2 Sample.acknowledging Sample.handset) .initial
        (Sample.drainedOnce "anna" "anna") = some s ∧
      (classification Sample.acknowledging s.central.db (namespaceOf (Sample.signed "b" "anna" 1))
          (Sample.operation "b" 1 (by decide)) = .fresh ∨
        classification Sample.acknowledging s.central.db (namespaceOf (Sample.signed "b" "anna" 1))
          (Sample.operation "b" 1 (by decide)) = .replay) := by
  have hobserved : Sample.observed "anna" (Sample.drainedOnce "anna" "anna") =
      some (true, true, .fresh) := by decide +kernel
  obtain ⟨s, hrun, hs⟩ := Option.map_eq_some_iff.mp hobserved
  simp only [Prod.mk.injEq, decide_eq_true_eq] at hs
  obtain ⟨hpeek, hlower, -⟩ := hs
  have hlabels : ∀ label ∈ Sample.drainedOnce "anna" "anna", QueuesFor "site" "anna" label := by
    simp [Sample.drainedOnce, QueuesFor, Sample.signed]
  have hoperation : operationOf Sample.acknowledging (Sample.signed "b" "anna" 1) "trace" =
      .ok (Sample.operation "b" 1 (by decide)) := rfl
  have hagrees := numbering_agrees hrun hpeek hoperation hlower
  exact ⟨s, hrun, hagrees.2 "site" "anna" hlabels⟩

/-- With two actors it is a SEQUENCE_GAP, though the device has drained everything below. -/
theorem numbering_diverges :
    ∃ s, run (step OfflineOutbox.compactCodec 2 Sample.acknowledging Sample.handset) .initial
        (Sample.drainedOnce "anna" "ben") = some s ∧
      peekNext OfflineOutbox.compactCodec s.stored = some (Sample.signed "b" "ben" 1) ∧
      (∀ earlier ∈ s.queued, earlier.deviceSequence < 1 → Finalized s.central.db earlier) ∧
      operationOf Sample.acknowledging (Sample.signed "b" "ben" 1) "trace" =
        .ok (Sample.operation "b" 1 (by decide)) ∧
      classification Sample.acknowledging s.central.db (namespaceOf (Sample.signed "b" "ben" 1))
        (Sample.operation "b" 1 (by decide)) = .sequenceGap := by
  have hobserved : Sample.observed "ben" (Sample.drainedOnce "anna" "ben") =
      some (true, true, .sequenceGap) := by decide +kernel
  obtain ⟨s, hrun, hs⟩ := Option.map_eq_some_iff.mp hobserved
  simp only [Prod.mk.injEq, decide_eq_true_eq] at hs
  obtain ⟨hpeek, hlower, hclass⟩ := hs
  exact ⟨s, hrun, hpeek, hlower, rfl, hclass⟩

end Sentinel.DeviceQueue
