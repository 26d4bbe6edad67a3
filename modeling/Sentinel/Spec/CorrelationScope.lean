import Sentinel.Native.Events

/-! # What a correlation key tells apart

The key joins organisation, site, zone and window with U+001F, and writes no zone as `site-wide`.
Nothing keeps either text out of an identifier. -/

namespace Sentinel.Events

/-- Organisation, site, zone, or the lack of one, and window are those of the other event. -/
structure SameScope (a b : NormalisedEvent) : Prop where
  organisation : a.organisationId = b.organisationId
  site : a.siteId = b.siteId
  zone : a.zoneId.join = b.zoneId.join
  window : Fusion.windowStartFor a.occurredAt.ms = Fusion.windowStartFor b.occurredAt.ms

def keySeparator : Char := Char.ofNat 0x1F

def pieces (text : String) : List (List Char) := text.toList.splitOn keySeparator

def NormalisedEvent.scopePieces (event : NormalisedEvent) : List (List Char) :=
  pieces event.organisationId ++ pieces event.siteId ++
    pieces (event.zoneId.join.getD Fusion.siteWideZone)

theorem pieces_injective {a b : String} (h : pieces a = pieces b) : a = b := by
  have hjoin (text : String) : [keySeparator].intercalate (pieces text) = text.toList :=
    List.intercalate_splitOn keySeparator
  rw [← String.toList_inj, ← hjoin a, ← hjoin b, h]

/-- Text before a separator and text after it. -/
theorem pieces_append (a b : String) :
    pieces (a ++ String.ofList [keySeparator] ++ b) = pieces a ++ pieces b := by
  rw [pieces, String.toList_append, String.toList_append, List.append_assoc]
  exact List.splitOn_append_cons_self _ _

/-! ## The written window -/

/-- The window starts in a year of four digits, as the event's own time does. -/
theorem windowStartFor_bounds (instant : Instant) :
    -62167219200000 ≤ Fusion.windowStartFor instant.ms ∧
      Fusion.windowStartFor instant.ms < 253402300800000 := by
  have hbounds := JsDate.parse_bounds instant.reads
  rw [Fusion.windowStartFor, Fusion.correlationWindowMs]
  omega

/-- A date and time is one piece. -/
theorem pieces_toISOString {ms : Int} (h : -62167219200000 ≤ ms ∧ ms < 253402300800000) :
    pieces (JsText.toISOString ms) = [(JsText.toISOString ms).toList] := by
  refine List.splitOn_eq_singleton fun hmem => ?_
  cases JsDate.mem_toISOString h hmem with
  | inl hdigit =>
    revert hdigit
    decide
  | inr hmark =>
    revert hmark
    decide

theorem toISOString_injective {a b : Int} (ha : -62167219200000 ≤ a ∧ a < 253402300800000)
    (hb : -62167219200000 ≤ b ∧ b < 253402300800000)
    (h : JsText.toISOString a = JsText.toISOString b) : a = b := by
  have hread := JsDate.parse_toISOString ha
  rw [h, JsDate.parse_toISOString hb] at hread
  exact (Option.some.inj hread).symm

/-! ## Keys -/

theorem pieces_key (event : NormalisedEvent) :
    pieces (Fusion.deriveCorrelationKey event.toFusion).key =
      event.scopePieces ++
        [(JsText.toISOString (Fusion.windowStartFor event.occurredAt.ms)).toList] := by
  have hkey : (Fusion.deriveCorrelationKey event.toFusion).key =
      event.organisationId ++ String.ofList [keySeparator] ++ event.siteId ++
        String.ofList [keySeparator] ++ event.zoneId.join.getD Fusion.siteWideZone ++
          String.ofList [keySeparator] ++
            JsText.toISOString (Fusion.windowStartFor event.occurredAt.ms) := rfl
  rw [hkey, pieces_append, pieces_append, pieces_append,
    pieces_toISOString (windowStartFor_bounds event.occurredAt)]
  rfl

/-- Two keys are one key where the windows are one and the scopes have the same pieces. -/
theorem key_eq_iff (a b : NormalisedEvent) :
    (Fusion.deriveCorrelationKey a.toFusion).key = (Fusion.deriveCorrelationKey b.toFusion).key ↔
      Fusion.windowStartFor a.occurredAt.ms = Fusion.windowStartFor b.occurredAt.ms ∧
        a.scopePieces = b.scopePieces := by
  constructor
  · intro h
    have hpieces := congrArg pieces h
    rw [pieces_key, pieces_key] at hpieces
    obtain ⟨hscope, hwindow⟩ := List.append_inj' hpieces
      (by rw [List.length_singleton, List.length_singleton])
    have htext : JsText.toISOString (Fusion.windowStartFor a.occurredAt.ms) =
        JsText.toISOString (Fusion.windowStartFor b.occurredAt.ms) :=
      String.toList_injective (List.singleton_inj.mp hwindow)
    exact ⟨toISOString_injective (windowStartFor_bounds a.occurredAt)
      (windowStartFor_bounds b.occurredAt) htext, hscope⟩
  · rintro ⟨hwindow, hscope⟩
    apply pieces_injective
    rw [pieces_key, pieces_key, hwindow, hscope]

theorem SameScope.scopePieces {a b : NormalisedEvent} (h : SameScope a b) :
    a.scopePieces = b.scopePieces := by
  rw [NormalisedEvent.scopePieces, NormalisedEvent.scopePieces, h.organisation, h.site, h.zone]

/-- The key tells the scopes of two events apart exactly where they are one, lie in different
    windows, or have different pieces. -/
theorem correlation_exact_iff (a b : NormalisedEvent) :
    ((Fusion.deriveCorrelationKey a.toFusion).key =
        (Fusion.deriveCorrelationKey b.toFusion).key ↔ SameScope a b) ↔
      (Fusion.windowStartFor a.occurredAt.ms = Fusion.windowStartFor b.occurredAt.ms →
        a.scopePieces = b.scopePieces → SameScope a b) := by
  rw [key_eq_iff]
  constructor
  · exact fun h hwindow hscope => h.mp ⟨hwindow, hscope⟩
  · exact fun h => ⟨fun hkey => h hkey.1 hkey.2, fun hsame => ⟨hsame.window, hsame.scopePieces⟩⟩

def reportFrom (organisationId siteId : String) (zoneId : Option String) : NormalisedEvent where
  eventId := "evt_1"
  organisationId
  siteId
  zoneId := some zoneId
  sourceType := .camera
  sourceId := "cam-1"
  sourceTrust := .trusted
  eventType := "motion_detected"
  confidence := 1 / 2
  occurredAt := ⟨"2026-01-05T10:00:00Z", 1767607200000, by decide +kernel⟩
  ingestedAt := ⟨"2026-01-05T10:00:01Z", 1767607201000, by decide +kernel⟩
  location := .object []
  trackIds := []
  evidenceRefs := []
  metadata := .object []
  traceId := "trace-1"
  ordered := by decide

/-- The sites of two organisations share a hypothesis, and so do a zone and a site without one. -/
theorem correlation_merges :
    ¬ ∀ a b : NormalisedEvent, a.accepted = true → b.accepted = true →
      ((Fusion.deriveCorrelationKey a.toFusion).key =
        (Fusion.deriveCorrelationKey b.toFusion).key ↔ SameScope a b) := by
  intro hall
  have hsame := (hall (reportFrom "org-1" "a\u001fb" (some "gate"))
    (reportFrom "org-1\u001fa" "b" (some "gate")) (by decide +kernel) (by decide +kernel)).mp
      (by decide +kernel)
  have horganisation := hsame.organisation
  revert horganisation
  decide

end Sentinel.Events
