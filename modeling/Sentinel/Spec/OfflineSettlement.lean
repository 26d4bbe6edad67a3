import Sentinel.Native.OfflineIngress
import Sentinel.Native.OfflineSubmission
import Sentinel.Spec.OfflineOutboxInvariant
import Sentinel.Spec.OfflineResults

/-! # When device and central agree that an act is finished

The route's answers against the device's classifier of them.  An answer that carries a
result reports a final receipt; of all others, the ones the device drops an entry on are
exactly the authoritative refusals. -/

namespace Sentinel.OfflineSubmission

open Transition
open OfflineOutbox
open OfflineIngress (RouteEnd IngressResult Ends Replayed respond)

/-! ## Writes that go through -/

variable {stored : Stored} {snapshot : Snapshot} {answer : Answer}

variable (codec : JsonCodec)

/-- A mutation whose write goes through keeps the ids. -/
theorem mutate_writable (hload : load codec stored = .ok snapshot) (h : snapshot.WellFormed)
    {offlineOperationId : String} {change : OfflineOutboxEntry → OfflineOutboxEntry}
    (hchange : KeepsSigned change)
    (hid : offlineOperationId ∈ snapshot.entries.map OfflineOutboxEntry.offlineOperationId) :
    ∃ stored' snapshot', mutate codec true stored offlineOperationId change = (.ok true, stored') ∧
      load codec stored' = .ok snapshot' ∧ snapshot'.WellFormed ∧
      ∀ id, id ∈ snapshot'.entries.map OfflineOutboxEntry.offlineOperationId ↔
        id ∈ snapshot.entries.map OfflineOutboxEntry.offlineOperationId := by
  have hrewrite : KeepsSigned fun entry =>
      if entry.offlineOperationId = offlineOperationId then change entry else entry := by
    intro entry
    by_cases hentry : entry.offlineOperationId = offlineOperationId
    · simp only [hentry, if_true]
      exact hchange entry
    · simp only [hentry, if_false]
  have hwf := h.map hrewrite
  have hany : (snapshot.entries.any fun entry =>
      decide (entry.offlineOperationId = offlineOperationId)) = true := by
    obtain ⟨entry, hentry, hentryId⟩ := List.mem_map.mp hid
    exact List.any_eq_true.mpr ⟨entry, hentry, decide_eq_true hentryId⟩
  refine ⟨_, _, ?_, load_persisted codec hwf.loadable, hwf.sorted, fun id => ?_⟩
  · unfold mutate
    rw [hload]
    simp only [hany, if_true, persist_eq codec true stored hwf.loadable]
  · have hids : (snapshot.entries.map fun entry =>
        if entry.offlineOperationId = offlineOperationId then change entry else entry).map
          OfflineOutboxEntry.offlineOperationId =
        snapshot.entries.map OfflineOutboxEntry.offlineOperationId := by
      rw [List.map_map]
      exact List.map_congr_left fun entry _ => hrewrite.id entry
    rw [← hids]
    exact ((Snapshot.list_perm _).map _).mem_iff

/-- A removal whose write goes through drops the id and keeps the others. -/
theorem remove_writable (hload : load codec stored = .ok snapshot) (h : snapshot.WellFormed)
    {offlineOperationId : String}
    (hid : offlineOperationId ∈ snapshot.entries.map OfflineOutboxEntry.offlineOperationId) :
    ∃ stored' snapshot', remove codec true stored offlineOperationId = (.ok true, stored') ∧
      load codec stored' = .ok snapshot' ∧
      ∀ id, id ∈ snapshot'.entries.map OfflineOutboxEntry.offlineOperationId ↔
        id ∈ snapshot.entries.map OfflineOutboxEntry.offlineOperationId ∧
          id ≠ offlineOperationId := by
  have hwf := h.filter fun entry => decide (entry.offlineOperationId ≠ offlineOperationId)
  have hfewer : (snapshot.entries.filter fun entry =>
      decide (entry.offlineOperationId ≠ offlineOperationId)).length ≠ snapshot.entries.length := by
    obtain ⟨entry, hentry, hentryId⟩ := List.mem_map.mp hid
    intro hsame
    have hall := List.length_filter_eq_length_iff.mp hsame entry hentry
    exact of_decide_eq_true hall hentryId
  refine ⟨_, _, ?_, load_persisted codec hwf.loadable, fun id => ?_⟩
  · unfold remove
    rw [hload]
    simp only [hfewer, if_false, persist_eq codec true stored hwf.loadable, if_true]
  · rw [((Snapshot.list_perm _).map _).mem_iff, List.mem_map, List.mem_map]
    constructor
    · rintro ⟨entry, hentry, rfl⟩
      obtain ⟨hmem, hne⟩ := List.mem_filter.mp hentry
      exact ⟨⟨entry, hmem, rfl⟩, of_decide_eq_true hne⟩
    · rintro ⟨⟨entry, hmem, rfl⟩, hne⟩
      exact ⟨entry, List.mem_filter.mpr ⟨hmem, decide_eq_true hne⟩, rfl⟩

/-- Marked TERMINAL, then removed: when both writes go through, the entry and only the
    entry is gone. -/
theorem settleInOutbox_writable (hload : load codec stored = .ok snapshot) (h : snapshot.WellFormed)
    {entry : OfflineOutboxEntry}
    (hid : entry.offlineOperationId ∈
      snapshot.entries.map OfflineOutboxEntry.offlineOperationId) :
    ∃ stored' snapshot', settleInOutbox codec true true stored entry = (.ok (), stored') ∧
      load codec stored' = .ok snapshot' ∧
      ∀ id, id ∈ snapshot'.entries.map OfflineOutboxEntry.offlineOperationId ↔
        id ∈ snapshot.entries.map OfflineOutboxEntry.offlineOperationId ∧
          id ≠ entry.offlineOperationId := by
  have hterminal : KeepsSigned fun entry => { entry with state := .terminal } := fun _ => rfl
  obtain ⟨marked, snapshotMarked, hmark, hloadMarked, hwfMarked, hidsMarked⟩ :=
    mutate_writable codec hload h hterminal hid
  obtain ⟨removed, snapshotRemoved, hremove, hloadRemoved, hidsRemoved⟩ :=
    remove_writable codec hloadMarked hwfMarked ((hidsMarked _).mpr hid)
  refine ⟨removed, snapshotRemoved, ?_, hloadRemoved, fun id => ?_⟩
  · unfold settleInOutbox
    rw [markTerminal, hmark]
    simp only
    rw [hremove]
  · rw [hidsRemoved, hidsMarked]

/-! ## The classifier -/

/-- An authoritative refusal: a 4xx other than 409. -/
def Refuses (answer : Answer) : Prop :=
  400 ≤ answer.status ∧ answer.status ≤ 499 ∧ answer.status ≠ completionUnknownStatus

instance (answer : Answer) : Decidable (Refuses answer) := inferInstanceAs (Decidable (_ ∧ _))

theorem Refuses.not_ok (h : Refuses answer) : answer.ok = false := by
  have hlower := h.1
  simp only [Answer.ok, Bool.and_eq_false_iff, decide_eq_false_iff_not]
  omega

/-- The classifier on an authoritative refusal. -/
theorem settle_of_refuses (writableMark writableRemove : Bool)
    (stored : Stored) (entry : OfflineOutboxEntry) (h : Refuses answer) :
    settle codec writableMark writableRemove stored entry answer =
      settleWith codec writableMark writableRemove stored entry
        (.refused answer.status answer.text) := by
  have hstatus : 400 ≤ answer.status ∧ answer.status ≤ 499 ∧
      answer.status ≠ completionUnknownStatus := h
  unfold settle
  rw [h.not_ok, if_neg Bool.false_ne_true, if_pos hstatus]

/-- Of an answer that is no refusal and names no receipt status, the device concludes
    nothing, and writes nothing. -/
theorem settle_kept (writableMark writableRemove : Bool) (stored : Stored)
    (entry : OfflineOutboxEntry) (hrefuses : ¬Refuses answer)
    (hreceipt : ∀ body, answer.ok = true → answer.body = some body →
      receiptStatusOrNull body = none) :
    ∃ status detail, settle codec writableMark writableRemove stored entry answer =
      (.ok (.completionUnknown status detail), stored) := by
  unfold settle
  split
  next hok =>
    split
    next => exact ⟨_, _, rfl⟩
    next body hbody =>
      rw [hreceipt body hok hbody]
      exact ⟨_, _, rfl⟩
  next =>
    split
    next hstatus => exact absurd hstatus hrefuses
    next => exact ⟨_, _, rfl⟩

/-- What is left of the outbox when an answer drops the entry: every other id, and not
    this one. -/
def Dropped (snapshot : Snapshot) (stored : Stored)
    (entry : OfflineOutboxEntry) (answer : Answer) : Prop :=
  ∃ step stored' snapshot', settle codec true true stored entry answer = (.ok step, stored') ∧
    load codec stored' = .ok snapshot' ∧
    ∀ id, id ∈ snapshot'.entries.map OfflineOutboxEntry.offlineOperationId ↔
      id ∈ snapshot.entries.map OfflineOutboxEntry.offlineOperationId ∧
        id ≠ entry.offlineOperationId

theorem settle_refused (hload : load codec stored = .ok snapshot) (h : snapshot.WellFormed)
    {entry : OfflineOutboxEntry} (hentry : entry ∈ snapshot.entries)
    (hrefuses : Refuses answer) : Dropped codec snapshot stored entry answer := by
  obtain ⟨stored', snapshot', hsettle, hread, hids⟩ :=
    settleInOutbox_writable codec hload h (List.mem_map_of_mem hentry)
  refine ⟨.refused answer.status answer.text, stored', snapshot', ?_, hread, hids⟩
  rw [settle_of_refuses codec true true stored entry hrefuses, settleWith, hsettle]

/-! ## The route's answers -/

/-- What the device receives of the end of a request: a lost response is a transport
    failure. -/
def received (toIsoString : Int → String) (traceId text : String) : Option RouteEnd → Answer
  | none => ⟨0, none, text⟩
  | some routeEnd =>
    let response := respond toIsoString traceId routeEnd
    ⟨response.status, some response.body, text⟩

/-- The controller's only member is `submission`, where no status is looked for. -/
theorem receiptStatusOrNull_submission (value : JsonElement) :
    receiptStatusOrNull [OfflineIngress.member "submission" value] = none := by
  have hreceipt : getKey [OfflineIngress.member "submission" value] "receipt" = none := rfl
  have hstatus : getKey [OfflineIngress.member "submission" value] "status" = none := rfl
  rw [receiptStatusOrNull, objectOrNull, stringOrNull, hreceipt, hstatus]
  rfl

theorem result_ne_accepted (refusal : OfflineIngress.IngressRefusal)
    (submission : FieldOffline.SubmissionOutcome) : refusal.result ≠ .accepted submission := by
  unfold OfflineIngress.IngressRefusal.result
  split <;> exact fun h => nomatch h

theorem receiptStatusOrNull_received (toIsoString : Int → String) (traceId text : String)
    (routeEnd : Option RouteEnd) {env : FieldOffline.Env} {s : FieldOffline.State}
    (hends : ∀ e, routeEnd = some e → Ends env s e) (body : JsonObject)
    (hok : (received toIsoString traceId text routeEnd).ok = true)
    (hbody : (received toIsoString traceId text routeEnd).body = some body) :
    receiptStatusOrNull body = none := by
  cases routeEnd with
  | none => cases hbody
  | some e =>
    cases hends e rfl with
    | guarded status message hstatus hconflict =>
      have hle : status ≤ 299 := by
        simp only [received, respond, Answer.ok, Bool.and_eq_true] at hok
        exact of_decide_eq_true hok.2
      omega
    | refused facts refusal h =>
      cases hresult : refusal.result with
      | accepted submission => exact absurd hresult (result_ne_accepted refusal submission)
      | refused =>
        rw [hresult] at hok
        cases hok
      | conflict =>
        rw [hresult] at hok
        cases hok
    | replayed outcome h =>
      cases hbody
      exact receiptStatusOrNull_submission _
    | threw => cases hok

/-- A result comes from a worker, and reports a final receipt. -/
theorem reported_of_replayed {env : FieldOffline.Env} {labels : List FieldOffline.Label}
    {s : FieldOffline.State} (hrun : run (FieldOffline.step env) .init labels = some s)
    {result : FieldOffline.OperationResult} (h : Replayed env s (some (.result result))) :
    ∃ ns, FieldOffline.Reported s.db ns result := by
  cases h with
  | preflight principal context rawOperation policyLeaseId siteExists outcome h =>
    unfold FieldOffline.preflight at h
    split at h
    · cases h
    · simp only at h
      split at h
      · cases h
      · split at h
        · cases h
        · cases h
  | answered worker hworker outcome hphase =>
    exact ⟨_, FieldOffline.answered_reported ⟨labels, hrun⟩ hworker hphase⟩

/-- **Device and central on when an act is finished.**  An answer that carries a result reports a
receipt central holds as final; of every other answer the device drops the entry exactly on the
authoritative refusals and otherwise leaves the stored queue as it was. -/
theorem settle_of_answer {env : FieldOffline.Env} {labels : List FieldOffline.Label}
    {s : FieldOffline.State} (hcentral : run (FieldOffline.step env) .init labels = some s)
    {codec : JsonCodec} {maxDepth : Nat} {events : List OutboxEvent} {device : OutboxState}
    (hdevice : run (outboxStep codec maxDepth) .initial events = some device)
    {snapshot : Snapshot} (hload : load codec device.stored = .ok snapshot)
    {entry : OfflineOutboxEntry} (hentry : entry ∈ snapshot.entries)
    {routeEnd : Option RouteEnd} (hends : ∀ e, routeEnd = some e → Ends env s e)
    (toIsoString : Int → String) (traceId text : String) :
    (∀ result, routeEnd = some (.ingress (.accepted (.result result))) →
      ∃ ns, FieldOffline.Reported s.db ns result) ∧
    ((∀ result, routeEnd ≠ some (.ingress (.accepted (.result result)))) →
      (Dropped codec snapshot device.stored entry (received toIsoString traceId text routeEnd) ↔
        Refuses (received toIsoString traceId text routeEnd)) ∧
      (¬Refuses (received toIsoString traceId text routeEnd) →
        ∀ writableMark writableRemove, ∃ status detail,
          settle codec writableMark writableRemove device.stored entry
            (received toIsoString traceId text routeEnd) =
              (.ok (.completionUnknown status detail), device.stored))) := by
  have hkept := receiptStatusOrNull_received toIsoString traceId text routeEnd hends
  refine ⟨?_, fun _ => ⟨⟨?_, ?_⟩, ?_⟩⟩
  · intro result hresult
    generalize hend : RouteEnd.ingress (.accepted (.result result)) = e at hresult
    cases hends e hresult with
    | guarded status message hstatus hconflict => cases hend
    | refused facts refusal h =>
      exact absurd (RouteEnd.ingress.inj hend).symm (result_ne_accepted refusal _)
    | replayed outcome h =>
      obtain rfl := IngressResult.accepted.inj (RouteEnd.ingress.inj hend)
      exact reported_of_replayed hcentral h
    | threw => cases hend
  · rintro ⟨step, stored', snapshot', hsettle, hread, hids⟩
    by_contra hrefuses
    -- a kept queue still holds the entry
    obtain ⟨status, detail, hsame⟩ := settle_kept codec true true device.stored entry hrefuses hkept
    obtain ⟨-, rfl⟩ := Prod.mk.inj (hsettle.symm.trans hsame)
    obtain rfl := Except.ok.inj (hread.symm.trans hload)
    exact ((hids entry.offlineOperationId).mp (List.mem_map_of_mem hentry)).2 rfl
  · have hinitial : OutboxState.initial.Holds codec maxDepth :=
      ⟨_, rfl, outboxInvariant_initial maxDepth⟩
    obtain ⟨held, hheld, hinvariant⟩ := run_invariant OutboxState.Holds.step hinitial hdevice
    obtain rfl := Except.ok.inj (hheld.symm.trans hload)
    exact settle_refused codec hload hinvariant.wellFormed hentry
  · intro hrefuses writableMark writableRemove
    exact settle_kept codec writableMark writableRemove device.stored entry hrefuses hkept

/-! ## A refused lease -/

namespace Sample

def queuedOnce : List OutboxEvent :=
  [⟨.enqueue "a" fun sequence => some (OfflineOutbox.Sample.entryAt "a" sequence), true⟩]

/-- The ingress resolves everything, and the lease has run out. -/
def leaseExpired : OfflineIngress.IngressFacts where
  authentication := .authenticated ⟨"org", "actor", "device", ["site"]⟩ "a" "site"
  envelope := some ⟨"a", "org", "site", "actor", "device", "key", 1,
    "INCIDENT_FIELD_MESSAGE_ACKNOWLEDGE", "lease"⟩
  registeredKey := some ⟨"key", 1⟩
  profileBound := true
  inadmissible := some "LEASE_NOT_IN_FORCE"

/-- The 403 the device receives for it. -/
def refusal : Answer := received (fun _ => "") "trace" "" (some (.ingress .refused))

theorem queuedOnce_holds :
    ∃ device snapshot, run (outboxStep compactCodec 2) .initial queuedOnce = some device ∧
      load compactCodec device.stored = .ok snapshot ∧ snapshot.WellFormed ∧
      OfflineOutbox.Sample.entryAt "a" 0 ∈ snapshot.entries := by
  have hqueued : (run (outboxStep compactCodec 2) .initial queuedOnce).map (fun device =>
      (load compactCodec device.stored).toOption.map Snapshot.entries) =
      some (some [OfflineOutbox.Sample.entryAt "a" 0]) := by decide +kernel
  obtain ⟨device, hrun, hentries⟩ := Option.map_eq_some_iff.mp hqueued
  have hinitial : OutboxState.initial.Holds compactCodec 2 := ⟨_, rfl, outboxInvariant_initial 2⟩
  obtain ⟨snapshot, hload, hinvariant⟩ := run_invariant OutboxState.Holds.step hinitial hrun
  rw [hload] at hentries
  have hone : snapshot.entries = [OfflineOutbox.Sample.entryAt "a" 0] := Option.some.inj hentries
  refine ⟨device, snapshot, hrun, hload, hinvariant.wellFormed, ?_⟩
  rw [hone]
  exact List.mem_singleton_self _

theorem refused_ends (env : FieldOffline.Env) (s : FieldOffline.State) :
    Ends env s (.ingress .refused) :=
  .refused leaseExpired (.refused .offlineEnvelopeRefused (some "LEASE_NOT_IN_FORCE")) rfl

end Sample

/-- The device drops an entry on the refusal of its lease, though central holds no receipt
    at all. -/
theorem settle_drops_unjudged :
    Ends FieldOffline.Sample.environment .init (.ingress .refused) ∧
    FieldOffline.State.init.db.receipts = [] ∧
    ∃ device snapshot, run (outboxStep compactCodec 2) .initial Sample.queuedOnce = some device ∧
      load compactCodec device.stored = .ok snapshot ∧
      OfflineOutbox.Sample.entryAt "a" 0 ∈ snapshot.entries ∧
      Dropped compactCodec snapshot device.stored (OfflineOutbox.Sample.entryAt "a" 0)
        Sample.refusal := by
  obtain ⟨device, snapshot, hrun, hload, hwf, hentry⟩ := Sample.queuedOnce_holds
  refine ⟨Sample.refused_ends _ _, rfl, device, snapshot, hrun, hload, hentry, ?_⟩
  exact settle_refused compactCodec hload hwf hentry (by decide)

/-- A lost response: the stored queue stays as it was. -/
theorem settle_of_answer_lost :
    ∃ device snapshot, run (outboxStep compactCodec 2) .initial Sample.queuedOnce = some device ∧
      load compactCodec device.stored = .ok snapshot ∧
      ¬Dropped compactCodec snapshot device.stored (OfflineOutbox.Sample.entryAt "a" 0)
        (received (fun _ => "") "trace" "" none) := by
  obtain ⟨device, snapshot, hrun, hload, -, hentry⟩ := Sample.queuedOnce_holds
  have hcentral : run (FieldOffline.step FieldOffline.Sample.environment) .init [] =
      some FieldOffline.State.init := rfl
  have hends : ∀ e, (none : Option RouteEnd) = some e →
      Ends FieldOffline.Sample.environment .init e := fun _ hnone => nomatch hnone
  have hanswer := settle_of_answer hcentral hrun hload hentry
    hends (fun _ => "") "trace" ""
  refine ⟨device, snapshot, hrun, hload, fun hdropped => ?_⟩
  have hrefuses := (hanswer.2 (fun _ hnone => nomatch hnone)).1.mp hdropped
  exact absurd hrefuses (by decide)

end Sentinel.OfflineSubmission
