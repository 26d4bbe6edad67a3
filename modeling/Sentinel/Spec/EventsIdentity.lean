import Mathlib.Data.Set.Basic
import Sentinel.Spec.EventsRun

/-! # What the idempotency key tells apart

The key joins the site, the source and the event id with a colon that may occur in each of them.
Only the event id is known to begin with `evt_`. -/

namespace Sentinel.Events

open CanonicalJson (sortKeysDeep)
open Transition (run)

/-- What an event is to the key, in its organisation. -/
def NormalisedEvent.identity (event : NormalisedEvent) : String × String × String × Int :=
  (event.siteId, event.sourceId, event.eventId, event.occurredAt.ms / idempotencyWindowMs)

/-- The checks of `EventsController.ingest`. -/
def NormalisedEvent.admitted (event : NormalisedEvent) : Bool :=
  event.accepted && isSafeSubjectToken event.organisationId && isSafeSubjectToken event.siteId

def NormalisedEvent.source (event : NormalisedEvent) : String × String := (event.siteId, event.sourceId)

def spelling (source : String × String) : List Char := source.1.toList ++ ':' :: source.2.toList

/-! ## The key as text -/

/-- Texts that agree up to their last separator and after it. -/
theorem eq_of_append_cons {α : Type} {c : α} {l l' r r' : List α} (hr : c ∉ r) (hr' : c ∉ r')
    (h : l ++ c :: r = l' ++ c :: r') : l = l' ∧ r = r' := by
  obtain ⟨x, rfl, hx⟩ | ⟨x, rfl, hx⟩ := List.append_eq_append_iff.mp h
  all_goals
    cases x with
    | nil => exact ⟨by simp, by simpa [eq_comm] using hx⟩
    | cons a x =>
      have htail := (List.cons.inj hx).2
      simp [htail] at hr hr'

theorem toList_repr (n : Int) : n.repr.toList = Decimal.digits n := by
  cases n with
  | ofNat n =>
    have hneg : ¬ Int.ofNat n < 0 := by simp
    rw [Decimal.digits, if_neg hneg]
    exact Nat.toList_repr
  | negSucc n =>
    rw [Decimal.digits, if_pos (Int.negSucc_lt_zero n)]
    exact String.toList_append.trans (congrArg ('-' :: ·) Nat.toList_repr)

theorem toList_idempotencyKey (event : NormalisedEvent) :
    event.idempotencyKey.toList = event.organisationId.toList ++ ':' ::
      ((spelling event.source ++ ':' :: event.eventId.toList) ++ ':' ::
        Decimal.digits (event.occurredAt.ms / idempotencyWindowMs)) := by
  have hcolon : ":".toList = [':'] := rfl
  simp [NormalisedEvent.idempotencyKey, deriveIdempotencyKey, ToString.toString, toList_repr, hcolon,
    spelling, NormalisedEvent.source]

theorem colon_notMem_digits (n : Int) : ':' ∉ Decimal.digits n := fun h =>
  absurd (Decimal.isLexeme_of_mem_digits h) (by decide)

/-- What one key for two events of an organisation means: one identity, or one source whose spelling is
    that of the other and of the beginning of an event id. -/
theorem idempotencyKey_eq {e f : NormalisedEvent} (he : ['e', 'v', 't', '_'] <+: e.eventId.toList)
    (hf : ['e', 'v', 't', '_'] <+: f.eventId.toList) (horganisation : e.organisationId = f.organisationId)
    (h : e.idempotencyKey = f.idempotencyKey) :
    (spelling e.source = spelling f.source ∧ e.eventId = f.eventId ∧
      e.occurredAt.ms / idempotencyWindowMs = f.occurredAt.ms / idempotencyWindowMs) ∨
    spelling e.source ++ ":evt_".toList <+: spelling f.source ∨
    spelling f.source ++ ":evt_".toList <+: spelling e.source := by
  have htext := congrArg String.toList h
  rw [toList_idempotencyKey, toList_idempotencyKey, horganisation, List.append_cancel_left_eq,
    List.cons.injEq] at htext
  obtain ⟨hjoined, hbucket⟩ :=
    eq_of_append_cons (colon_notMem_digits _) (colon_notMem_digits _) htext.2
  -- a longer spelling takes in the beginning of the other's event id, up to a colon
  have hlonger : ∀ {x id id' : List Char}, ['e', 'v', 't', '_'] <+: id →
      ':' :: id = x ++ ':' :: id' → x = [] ∧ id = id' ∨ ":evt_".toList <+: x := by
    rintro (_ | ⟨c, x⟩) id id' ⟨rest, rfl⟩ hsplit
    · exact .inl ⟨rfl, (List.cons.inj hsplit).2⟩
    · obtain ⟨rfl, htail⟩ := List.cons.inj hsplit
      refine .inr ?_
      rcases x with _ | ⟨_, _ | ⟨_, _ | ⟨_, _ | ⟨_, x⟩⟩⟩⟩ <;> simp at htail
      obtain ⟨rfl, rfl, rfl, rfl, -⟩ := htail
      exact ⟨x, rfl⟩
  obtain ⟨x, hx, hsplit⟩ | ⟨x, hx, hsplit⟩ := List.append_eq_append_iff.mp hjoined
  · obtain ⟨rfl, hid⟩ | hprefix := hlonger he hsplit
    · exact .inl ⟨by simpa using hx.symm, String.toList_injective hid, Decimal.digits_injective hbucket⟩
    · exact .inr (.inl (hx ▸ (List.prefix_append_right_inj _).mpr hprefix))
  · obtain ⟨rfl, hid⟩ | hprefix := hlonger hf hsplit
    · exact .inl ⟨by simpa using hx, String.toList_injective hid.symm,
        Decimal.digits_injective hbucket⟩
    · exact .inr (.inr (hx ▸ (List.prefix_append_right_inj _).mpr hprefix))

/-! ## The sources that the key tells apart -/

/-- Among the events of these sources the key is the identity, and no delivery is recorded as a duplicate
    of another event. -/
structure Identifies (platform : Platform) (sources : Set (String × String)) : Prop where
  key_iff : ∀ e f : NormalisedEvent, e.admitted → f.admitted → e.organisationId = f.organisationId →
    e.source ∈ sources → f.source ∈ sources →
    (e.idempotencyKey = f.idempotencyKey ↔ e.identity = f.identity)
  unmasked : ∀ labels s, run (step platform) State.init labels = some s →
    ∀ worker ∈ s.workers, ∀ original ∈ s.workers, worker.event.admitted → original.event.admitted →
    worker.event.source ∈ sources → original.event.source ∈ sources →
    ∀ row ∈ s.db.rows, worker.rowId = some row.id → original.rowId = row.duplicateOfEventId →
    row.duplicateOfEventId ≠ none → worker.event.identity = original.event.identity

/-- A source of which events are admitted. -/
def Named (source : String × String) : Prop := isSafeSubjectToken source.1 = true ∧ source.2 ≠ ""

/-- Two sources whose spellings differ, even where an event id goes on with one. -/
def Apart (a b : String × String) : Prop :=
  spelling a ≠ spelling b ∧ ¬ spelling a ++ ":evt_".toList <+: spelling b ∧
    ¬ spelling b ++ ":evt_".toList <+: spelling a

theorem named_of_admitted {event : NormalisedEvent} (h : event.admitted = true) :
    Named event.source ∧ ['e', 'v', 't', '_'] <+: event.eventId.toList := by
  simp only [NormalisedEvent.admitted, NormalisedEvent.accepted, Bool.and_eq_true,
    decide_eq_true_eq, List.isPrefixOf_iff_prefix] at h
  exact ⟨⟨h.2, by tauto⟩, by tauto⟩

/-- An event of a source, under an id that begins with `evt_`. -/
def eventOf (source : String × String) (rest : List Char) : NormalisedEvent :=
  { motionAtTheGate with
    siteId := source.1, sourceId := source.2, eventId := String.ofList ("evt_".toList ++ rest) }

theorem admitted_eventOf {source : String × String} (h : Named source) (rest : List Char) :
    (eventOf source rest).admitted = true := by
  have hrest : (motionAtTheGate.organisationId ≠ "" ∧ motionAtTheGate.eventType ≠ "" ∧
      0 ≤ motionAtTheGate.confidence ∧ motionAtTheGate.confidence ≤ 1 ∧
      motionAtTheGate.traceId ≠ "") ∧
      (serializedByteLength motionAtTheGate.location).any (· ≤ maxLocationBytes) ∧
      (serializedByteLength motionAtTheGate.metadata).any (· ≤ maxMetadataBytes) ∧
      refsAccepted motionAtTheGate.trackIds ∧ refsAccepted motionAtTheGate.evidenceRefs ∧
      isSafeSubjectToken motionAtTheGate.organisationId := by
    decide +kernel
  have hsite : source.1 ≠ "" := fun hempty => by
    have hsafe := h.1
    rw [hempty] at hsafe
    exact absurd hsafe (by decide)
  have hid : ['e', 'v', 't', '_'] <+: (String.ofList ("evt_".toList ++ rest)).toList :=
    ⟨rest, by simp⟩
  simp only [NormalisedEvent.admitted, NormalisedEvent.accepted, eventOf, Bool.and_eq_true,
    List.isPrefixOf_iff_prefix]
  simp only [hrest, hsite, h.2, h.1, hid, ne_eq, not_false_eq_true, decide_true, and_self]

/-- The texts of two sources in one key, when one goes on as the other's event id would. -/
theorem not_identifies {platform : Platform} {sources : Set (String × String)} {a b : String × String}
    (h : Identifies platform sources) (ha : a ∈ sources) (hb : b ∈ sources) (hna : Named a)
    (hnb : Named b) (hne : a ≠ b) (rest rest' : List Char)
    (hjoined : spelling a ++ ":evt_".toList ++ rest = spelling b ++ ":evt_".toList ++ rest') : False := by
  have hkey : (eventOf a rest).idempotencyKey = (eventOf b rest').idempotencyKey := by
    apply String.toList_injective
    rw [toList_idempotencyKey, toList_idempotencyKey]
    have hid : ∀ source rest, spelling source ++ ':' :: (eventOf source rest).eventId.toList =
        spelling source ++ ":evt_".toList ++ rest := fun source rest => by simp [eventOf]
    exact congrArg (fun text => "org-1".toList ++ ':' :: (text ++ ':' :: _))
      ((hid a rest).trans (hjoined.trans (hid b rest').symm))
  have hidentity := (h.key_iff _ _ (admitted_eventOf hna rest) (admitted_eventOf hnb rest') rfl ha
    hb).mp hkey
  exact hne (Prod.ext (congrArg (·.1) hidentity) (congrArg (·.2.1) hidentity))

/-- **Event idempotency.**  The key tells the events of a set of sources apart exactly when the sources
    that events are admitted of are spelt apart, even where an event id goes on with one. -/
theorem identifies_iff {platform : Platform}
    (hjsonb : ∀ value, sortKeysDeep (platform.jsonb value) = sortKeysDeep value)
    (sources : Set (String × String)) :
    Identifies platform sources ↔
      ∀ a ∈ sources, ∀ b ∈ sources, Named a → Named b → a ≠ b → Apart a b := by
  constructor
  · intro h a ha b hb hna hnb hne
    refine ⟨fun hsame => ?_, fun ⟨rest, hrest⟩ => ?_, fun ⟨rest, hrest⟩ => ?_⟩
    · exact not_identifies h ha hb hna hnb hne [] [] (congrArg (· ++ ":evt_".toList ++ []) hsame)
    · apply not_identifies h ha hb hna hnb hne (rest ++ ":evt_".toList) []
      rw [← hrest, ← List.append_assoc, List.append_nil]
    · apply not_identifies h hb ha hnb hna hne.symm (rest ++ ":evt_".toList) []
      rw [← hrest, ← List.append_assoc, List.append_nil]
  · intro h
    have hkey : ∀ e f : NormalisedEvent, e.admitted → f.admitted →
        e.organisationId = f.organisationId → e.source ∈ sources → f.source ∈ sources →
        (e.idempotencyKey = f.idempotencyKey ↔ e.identity = f.identity) := by
      intro e f he hf horganisation hes hfs
      obtain ⟨hne, heid⟩ := named_of_admitted he
      obtain ⟨hnf, hfid⟩ := named_of_admitted hf
      constructor
      · intro hsame
        have hkeys := idempotencyKey_eq heid hfid horganisation hsame
        by_cases hsource : e.source = f.source
        · have hlonger : ∀ l : List Char, ¬ l ++ ":evt_".toList <+: l := fun l hprefix => by
            simpa using hprefix.length_le
          rw [hsource] at hkeys
          obtain ⟨-, hid, hbucket⟩ := hkeys.resolve_right (or_self_iff.not.mpr (hlonger _))
          rw [NormalisedEvent.identity, NormalisedEvent.identity, hid, hbucket,
            (Prod.mk.inj hsource).1, (Prod.mk.inj hsource).2]
        · obtain ⟨hspelt, hforth, hback⟩ := h _ hes _ hfs hne hnf hsource
          exact absurd hkeys fun hkeys => hkeys.elim (fun h => hspelt h.1) fun h => h.elim hforth hback
      · intro hidentity
        simp only [NormalisedEvent.identity, Prod.mk.injEq] at hidentity
        obtain ⟨hsite, hsource, hid, hbucket⟩ := hidentity
        rw [NormalisedEvent.idempotencyKey, NormalisedEvent.idempotencyKey, deriveIdempotencyKey,
          deriveIdempotencyKey, horganisation, hsite, hsource, hid, hbucket]
    refine ⟨hkey, fun labels s hrun worker hworker original horiginal he hf hes hfs row hrow hid
      hlink hsome => ?_⟩
    have hinv := Transition.run_invariant (State.Inv.step hjsonb) State.inv_init hrun
    obtain ⟨rowId, hrowId⟩ := Option.ne_none_iff_exists'.mp hsome
    obtain ⟨mine, hmine, hmineId, hdata⟩ := (hinv.workers worker hworker).holds hid
    obtain rfl := Table.eq_of_key hinv.db.ids hmine hrow hmineId
    obtain ⟨other, hother, hotherId, hotherData⟩ :=
      (hinv.workers original horiginal).holds (hlink.trans hrowId)
    obtain hcanonical | ⟨canonical, hcanonical, hlinked⟩ := hinv.db.shape mine hmine
    · exact absurd hcanonical.original hsome
    · have hsame : canonical.id = other.id :=
        (Option.some.inj (hlinked.link.symm.trans hrowId)).trans hotherId.symm
      obtain rfl := Table.eq_of_key hinv.db.ids hcanonical hother hsame
      have horganisation := hlinked.organisation
      have hkeys := hlinked.key
      rw [EventRow.key, EventRow.key] at hkeys
      rw [hdata, hotherData] at horganisation hkeys
      exact (hkey _ _ he hf horganisation.symm hes hfs).mp hkeys.symm

/-- Sources that no spelling confuses. -/
theorem identifies_plain : Identifies verbatim {("site-1", "cam-1"), ("site-1", "cam-2")} := by
  refine (identifies_iff (fun _ => rfl) _).mpr ?_
  rintro a (rfl | rfl) b (rfl | rfl) - - hne
  · exact absurd rfl hne
  · exact ⟨by decide, by decide, by decide⟩
  · exact ⟨by decide, by decide, by decide⟩
  · exact absurd rfl hne

/-- The event `evt_2` of the source `cam:evt_1` is recorded as a duplicate of the event `evt_1:evt_2` of
    the source `cam`. -/
theorem duplicate_of_another :
    ∃ s, run (step verbatim) State.init
        [.deliver (eventOf ("site", "cam") "1:evt_2".toList), .advance 0 ⟨⟨"row-1", 1⟩, .refused⟩,
          .advance 0 ⟨⟨"row-1", 1⟩, .refused⟩, .deliver (eventOf ("site", "cam:evt_1") ['2']),
          .advance 1 ⟨⟨"row-2", 2⟩, .refused⟩, .advance 1 ⟨⟨"row-2", 2⟩, .refused⟩] = some s ∧
      s.db.rows.map (fun row => (row.data.sourceId, row.data.eventId, row.duplicateOfEventId)) =
        [("cam", "evt_1:evt_2", none), ("cam:evt_1", "evt_2", some "row-1")] ∧
      ¬ Identifies verbatim {("site", "cam"), ("site", "cam:evt_1")} := by
  refine ⟨_, Transition.run_eq_some_getD (by decide), by decide, fun h => ?_⟩
  exact not_identifies h (.inl rfl) (.inr rfl) ⟨by decide, by decide⟩ ⟨by decide, by decide⟩
    (by decide) "1:evt_2".toList ['2'] rfl

end Sentinel.Events
