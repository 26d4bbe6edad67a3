import Sentinel.Spec.EventsRun
import Sentinel.Spec.FusionNonInterference

/-! # One event at ingest and in Fusion

Ingest tells events apart by five parts, Fusion by organisation and event id.  Fusion counts every
canonical event that a rule maps exactly where each is the first to be delivered under its
organisation and event id. -/

namespace Sentinel.Fusion

open Events (deriveIdempotencyKey)

variable {history : List NormalisedEvent} {window : String} {mint : Mint}

def NormalisedEvent.ingestKey (event : NormalisedEvent) : String :=
  deriveIdempotencyKey event.organisationId event.siteId event.sourceId event.eventId event.occurredAt

/-- After the deliveries, the hypothesis of every window has the signal of each canonical event that a
    rule maps into the window exactly once. -/
def AssessedOnce (mint : Mint) (canonical history : List Events.NormalisedEvent) : Prop :=
  ∀ window, ∃ signals, (deliverAll mint (history.map (·.toFusion))).WindowHolds window signals ∧
    ∀ event ∈ canonical, ∀ m, event.toFusion.mapped = .ok m → m.correlation.key = window →
      (signals.map (·.event.ingestKey)).count event.idempotencyKey = 1

theorem mem_firsts_iff {event : NormalisedEvent} :
    event ∈ firsts history ↔ history.find? (·.key = event.key) = some event := by
  induction history using List.reverseRecOn with
  | nil => simp [firsts]
  | append_singleton history last ih =>
    rw [firsts_concat, List.find?_append]
    cases hfind : history.find? (·.key = event.key) with
    | some found =>
      rw [hfind] at ih
      obtain ⟨hmem, hkey⟩ := Table.of_find? hfind
      have hold : event.key ∈ history.map (·.key) := List.mem_map.mpr ⟨found, hmem, hkey⟩
      rw [Option.some_or, ← ih]
      split
      · rfl
      · rename_i hnew
        rw [List.mem_append, List.mem_singleton]
        exact or_iff_left fun heq => hnew (heq ▸ hold)
    | none =>
      rw [hfind] at ih
      have hnew : event.key ∉ history.map (·.key) := fun hmem => by
        obtain ⟨other, hother, hkey⟩ := List.mem_map.mp hmem
        exact List.find?_eq_none.mp hfind other hother (decide_eq_true hkey)
      have hnot : event ∉ firsts history := fun hmem => by cases ih.mp hmem
      rw [Option.none_or]
      by_cases hkey : last.key = event.key
      · rw [hkey, if_neg hnew, List.mem_append, List.mem_singleton, or_iff_right hnot]
        simp [hkey, eq_comm]
      · have hne : event ≠ last := fun heq => hkey (congrArg _ heq.symm)
        have hmiss : event ∉ firsts history ++ [last] := by simp [hnot, hne]
        split <;> simp [hkey, hnot, hmiss]

theorem nodup_firsts : ((firsts history).map (·.key)).Nodup := by
  induction history using List.reverseRecOn with
  | nil => exact List.nodup_nil
  | append_singleton history last ih =>
    rw [firsts_concat]
    split
    · exact ih
    · rename_i hnew
      refine Table.nodup_map_concat ih fun old hold heq => hnew ?_
      rw [← heq, ← firsts_keys]
      exact List.mem_map_of_mem hold

theorem version_replay (correlation : CorrelationKey) (id candidate : String)
    (signals : List MappedEvent) :
    ((Record.opened correlation id candidate).replay signals).row.version = signals.length := by
  induction signals using List.reverseRecOn with
  | nil => rfl
  | append_singleton signals m ih =>
    rw [Record.replay_concat, Record.absorb_row, absorb_version, ih, List.length_append]
    rfl

/-- A window has one number of signals. -/
theorem Db.WindowHolds.length_eq {db : Db} (hwindows : (db.hypotheses.map (·.correlationKey)).Nodup)
    {a b : List MappedEvent} (ha : db.WindowHolds window a) (hb : db.WindowHolds window b) :
    a.length = b.length := by
  obtain ⟨row, hrow, hkey, c, i, o, hreplay⟩ | ⟨hnone, rfl⟩ := ha
  · obtain ⟨row', hrow', hkey', c', i', o', hreplay'⟩ | ⟨hnone, -⟩ := hb
    · obtain rfl := Table.eq_of_key hwindows hrow hrow' (hkey.trans hkey'.symm)
      rw [← version_replay c i o, ← hreplay, hreplay', version_replay]
    · exact absurd hkey (hnone row hrow)
  · obtain ⟨row', hrow', hkey', -⟩ | ⟨-, rfl⟩ := hb
    · exact absurd hkey' (hnone row' hrow')
    · rfl

/-! ## When the two agree -/

/-- Fusion assesses every canonical event once exactly when each one that a rule maps is the first
    to be delivered under its organisation and event id. -/
theorem assessedOnce_iff (mint : Mint) {canonical history : List Events.NormalisedEvent}
    (hcanonical : (canonical.map (·.idempotencyKey)).Nodup)
    (hdelivered : ∀ event, event ∈ history ↔ event ∈ canonical) :
    AssessedOnce mint canonical history ↔
      ∀ event ∈ canonical, ∀ m, event.toFusion.mapped = .ok m →
        (history.map (·.toFusion)).find? (·.key = event.toFusion.key) = some event.toFusion := by
  have hsettled := settled_deliverAll mint (history.map (·.toFusion))
  have hfrom : ∀ {window n}, n ∈ accepted window (history.map (·.toFusion)) →
      n.event ∈ firsts (history.map (·.toFusion)) ∧ n.event.mapped = .ok n ∧
        n.correlation.key = window ∧ ∃ event ∈ canonical, event.toFusion = n.event := by
    intro window n hn
    obtain ⟨first, hfirst, hmapped⟩ := List.mem_filterMap.mp hn
    have hm := mappedFor_eq_some hmapped
    obtain rfl := NormalisedEvent.event_of_mapped hm
    obtain ⟨event, hevent, heq⟩ := List.mem_map.mp (Table.of_find? (mem_firsts_iff.mp hfirst)).1
    rw [mappedFor, hm] at hmapped
    exact ⟨hfirst, hm, (Option.ite_none_right_eq_some.mp hmapped).1, event,
      (hdelivered event).mp hevent, heq⟩
  -- the signals of a window are told apart by the keys of ingest
  have hkeys : ∀ window,
      ((accepted window (history.map (·.toFusion))).map (·.event.ingestKey)).Nodup := by
    intro window
    refine ((List.Nodup.of_map _ nodup_firsts).filterMap fun a b m ha hb => ?_).map_on
      fun a ha b hb hsame => ?_
    · exact (NormalisedEvent.event_of_mapped (mappedFor_eq_some ha)).symm.trans
        (NormalisedEvent.event_of_mapped (mappedFor_eq_some hb))
    · obtain ⟨-, hma, -, e, he, hea⟩ := hfrom ha
      obtain ⟨-, hmb, -, f, hf, hfb⟩ := hfrom hb
      rw [← hea, ← hfb] at hsame
      rw [← hea, Table.eq_of_key hcanonical he hf hsame, hfb, hmb] at hma
      exact (Except.ok.inj hma).symm
  constructor
  · intro h event hevent m hm
    obtain ⟨signals, hholds, hcount⟩ := h m.correlation.key
    rw [← mem_firsts_iff]
    by_contra hmissed
    have hlength := hholds.length_eq hsettled.inv.windows (hsettled.windows m.correlation.key)
    -- the keys of the event and of the signals counted all occur
    have hsubset : event.idempotencyKey :: (accepted m.correlation.key
        (history.map (·.toFusion))).map (·.event.ingestKey) ⊆ signals.map (·.event.ingestKey) := by
      intro key hkey
      refine List.count_pos_iff.mp ?_
      rcases List.mem_cons.mp hkey with rfl | hkey
      · rw [hcount event hevent m hm rfl]
        exact Nat.one_pos
      · obtain ⟨n, hn, rfl⟩ := List.mem_map.mp hkey
        obtain ⟨-, hmapped, hwindow, other, hother, heq⟩ := hfrom hn
        rw [← heq] at hmapped ⊢
        exact Nat.lt_of_lt_of_eq Nat.one_pos (hcount other hother n hmapped hwindow).symm
    have hnew : event.idempotencyKey ∉ (accepted m.correlation.key
        (history.map (·.toFusion))).map (·.event.ingestKey) := fun hkey => by
      obtain ⟨n, hn, hsame⟩ := List.mem_map.mp hkey
      obtain ⟨hfirst, -, -, other, hother, heq⟩ := hfrom hn
      rw [← heq] at hsame hfirst
      exact hmissed (Table.eq_of_key hcanonical hother hevent hsame ▸ hfirst)
    have hle := (List.subperm_of_subset (List.nodup_cons.mpr ⟨hnew, hkeys _⟩) hsubset).length_le
    simp only [List.length_cons, List.length_map] at hle
    omega
  · intro h window
    refine ⟨_, hsettled.windows window, fun event hevent m hm hwindow => ?_⟩
    have hmem : m ∈ accepted window (history.map (·.toFusion)) := by
      refine List.mem_filterMap.mpr ⟨_, mem_firsts_iff.mpr (h event hevent m hm), ?_⟩
      rw [mappedFor, hm]
      exact if_pos hwindow
    refine List.count_eq_one_of_mem (hkeys window) (List.mem_map.mpr ⟨m, hmem, ?_⟩)
    rw [NormalisedEvent.event_of_mapped hm]
    rfl

/-- A door of a site reports a refused credential. -/
def deniedAt (siteId : String) : Events.NormalisedEvent :=
  { Events.motionAtTheGate with
    eventId := "evt_1", siteId, sourceType := .access, eventType := "access_denied_attempt" }

/-- A redelivery is not assessed again. -/
theorem assessedOnce_redelivered :
    AssessedOnce .plain [deniedAt "site-1"] [deniedAt "site-1", deniedAt "site-1"] := by
  refine (assessedOnce_iff .plain (by simp) fun event => by simp).mpr fun event hevent _ _ => ?_
  rw [List.mem_singleton.mp hevent]
  decide +kernel

/-- Under an event id that another site has used, an event is not assessed. -/
theorem second_site_unassessed :
    (deniedAt "site-1").idempotencyKey ≠ (deniedAt "site-2").idempotencyKey ∧
      ¬ AssessedOnce .plain [deniedAt "site-1", deniedAt "site-2"]
        [deniedAt "site-1", deniedAt "site-2"] := by
  refine ⟨by decide, fun h => ?_⟩
  obtain ⟨signals, hholds, hcount⟩ := h (deriveCorrelationKey (deniedAt "site-2").toFusion).key
  obtain ⟨row, hrow, hkey, -⟩ | ⟨-, rfl⟩ := hholds
  · have hnone : ∀ row ∈ (deliverAll .plain ([deniedAt "site-1", deniedAt "site-2"].map
        (·.toFusion))).hypotheses, row.correlationKey ≠
          (deriveCorrelationKey (deniedAt "site-2").toFusion).key := by decide +kernel
    exact hnone row hrow hkey
  · cases hm : (deniedAt "site-2").toFusion.mapped with
    | ok m =>
      have hnil := hcount (deniedAt "site-2") (by simp) m hm
        (by rw [MappedEvent.correlation, NormalisedEvent.event_of_mapped hm])
      cases hnil
    | error reason => cases hm

end Sentinel.Fusion
