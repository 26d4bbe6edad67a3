import Sentinel.Native.EventsService

/-! # The rebuilt payload

The sweep publishes an event rebuilt from its row.  The row keeps the instants to the millisecond
and the metadata up to the order of its members, and Fusion reads nothing finer than that. -/

namespace Sentinel.CanonicalJson

theorem mem_sortKeysMembers {members : List (List Char × Json)} {entry : List Char × Json} :
    entry ∈ sortKeysMembers members ↔
      ∃ member ∈ members, entry = (member.1, sortKeysDeep member.2) := by
  induction members with
  | nil => simp [sortKeysMembers]
  | cons member members ih =>
    obtain ⟨key, value⟩ := member
    rw [sortKeysMembers, List.mem_cons, ih]
    simp

theorem mem_fromEntries {members : List (List Char × Json)} {entry : List Char × Json} :
    entry ∈ fromEntries members ↔ entry ∈ members := by
  rw [fromEntries, List.mem_append, List.mem_insertionSort, List.mem_filter, List.mem_filter]
  cases arrayIndex? entry.1 <;> simp

end Sentinel.CanonicalJson

namespace Sentinel.Fusion

/-- The signal depends on the metadata through its flags alone. -/
theorem mapEventToSignal_congr {a b : NormalisedEvent} (hsame : b = { a with metadata := b.metadata })
    (hflags : ∀ key, key ∈ b.metadata ↔ key ∈ a.metadata) :
    mapEventToSignal b = mapEventToSignal a := by
  have hflag : metadataFlag b.metadata = metadataFlag a.metadata := by
    funext key
    rw [metadataFlag, metadataFlag, Bool.eq_iff_iff, List.contains_iff_mem, List.contains_iff_mem]
    exact hflags key
  rw [hsame]
  simp only [mapEventToSignal, hflag]

end Sentinel.Fusion

namespace Sentinel.Events

open CanonicalJson (Json sortKeysDeep)

/-- The flags of a value do not depend on the order of its keys. -/
theorem mem_trueMembers_sortKeysDeep {value : Json} {key : String} :
    key ∈ trueMembers (sortKeysDeep value) ↔ key ∈ trueMembers value := by
  cases value with
  | literal lexeme => rfl
  | string text => rfl
  | array elements => rfl
  | object members =>
    have hflag (member : List Char × Json) :
        trueKey (member.1, sortKeysDeep member.2) = trueKey member := by
      obtain ⟨name, value⟩ := member
      cases value <;> rfl
    simp only [sortKeysDeep, trueMembers, List.mem_filterMap, CanonicalJson.mem_fromEntries,
      CanonicalJson.sortEntries, List.mem_insertionSort, CanonicalJson.mem_sortKeysMembers]
    constructor
    · rintro ⟨_, ⟨member, hmem, rfl⟩, hkey⟩
      exact ⟨member, hmem, (hflag member).symm.trans hkey⟩
    · rintro ⟨member, hmem, hkey⟩
      exact ⟨_, ⟨member, hmem, rfl⟩, (hflag member).trans hkey⟩

structure SameReading (a b : NormalisedEvent) : Prop where
  correlation : Fusion.deriveCorrelationKey a.toFusion = Fusion.deriveCorrelationKey b.toFusion
  signal : Fusion.mapEventToSignal a.toFusion = Fusion.mapEventToSignal b.toFusion

theorem SameReading.refl (event : NormalisedEvent) : SameReading event event := ⟨rfl, rfl⟩

variable {platform : Platform}

theorem sameReading_mapRowToNormalisedEvent
    (hjsonb : ∀ value, sortKeysDeep (platform.jsonb value) = sortKeysDeep value) {row : EventRow}
    {event : NormalisedEvent} (hdata : row.data = mapNormalisedEventToRow platform event) :
    SameReading (mapRowToNormalisedEvent row) event := by
  have hkept : (mapRowToNormalisedEvent row).toFusion =
      { event.toFusion with metadata := trueMembers (platform.jsonb event.metadata) } := by
    simp only [NormalisedEvent.toFusion, mapRowToNormalisedEvent, hdata, mapNormalisedEventToRow,
      Instant.date, Timestamp.toISOString, Option.join_some]
  refine ⟨by rw [hkept]; rfl, ?_⟩
  refine Fusion.mapEventToSignal_congr (by rw [hkept]) fun key => ?_
  rw [hkept, ← mem_trueMembers_sortKeysDeep, hjsonb, mem_trueMembers_sortKeysDeep]
  exact Iff.rfl

end Sentinel.Events
