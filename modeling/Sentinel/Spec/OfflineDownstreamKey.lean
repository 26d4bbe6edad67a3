import Mathlib.Algebra.GroupWithZero.Nat
import Sentinel.ForStd.List
import Sentinel.Native.FieldOfflineRequest

/-! # What the preimage of a downstream key tells

The six parts of the preimage are joined with line breaks, and the schema lets an identifier contain
one.  So the preimage tells the lines of the parts and not where one part ends: it tells the parts
exactly where their line breaks are known. -/

namespace Sentinel.FieldOfflineRequest

open DeviceCanonicalJson (Text Value)
open FieldOffline (OperationKind)
open Utf16 (ascii)

def lines (parts : List Text) : List Text := parts.flatMap (List.splitOn 0x0a)

/-- How many line breaks each part has. -/
def lineBreaks (parts : List Text) : List Nat := parts.map (List.count 0x0a)

def Operation.parts (ns : ReplayNamespace) (operation : Operation) : List Text :=
  downstreamParts ns operation.offlineOperationId operation.operationKind

def Operation.preimage (ns : ReplayNamespace) (operation : Operation) : Text :=
  downstreamPreimage ns operation.offlineOperationId operation.operationKind

/-- Organisation, site, user, device, operation id and action of two operations are the same. -/
def SameComponents (ns ns' : ReplayNamespace) (operation operation' : Operation) : Prop :=
  ns = ns' ∧ operation.offlineOperationId = operation'.offlineOperationId ∧
    operation.operationKind = operation'.operationKind

variable {ns ns' : ReplayNamespace} {operation operation' : Operation}

theorem wire_injective {kind kind' : OperationKind}
    (h : units (OfflineIngress.OperationKind.wire kind) =
      units (OfflineIngress.OperationKind.wire kind')) : kind = kind' := by
  revert h
  cases kind <;> cases kind' <;> decide

theorem wire_count (kind : OperationKind) :
    (units (OfflineIngress.OperationKind.wire kind)).count 0x0a = 0 := by
  cases kind <;> decide

theorem parts_eq_iff :
    operation.parts ns = operation'.parts ns' ↔ SameComponents ns ns' operation operation' := by
  constructor
  · intro h
    rw [Operation.parts, Operation.parts, downstreamParts, downstreamParts] at h
    simp only [List.cons.injEq] at h
    obtain ⟨horganisation, hsite, huser, hdevice, hid, hkind, -⟩ := h
    refine ⟨?_, hid, wire_injective hkind⟩
    cases ns
    cases ns'
    simp only [ReplayNamespace.mk.injEq]
    exact ⟨horganisation, hsite, huser, hdevice⟩
  · rintro ⟨rfl, hid, hkind⟩
    rw [Operation.parts, Operation.parts, hid, hkind]

theorem preimage_eq_iff : operation.preimage ns = operation'.preimage ns' ↔
      lines (operation.parts ns) = lines (operation'.parts ns') :=
  List.intercalate_eq_iff (List.cons_ne_nil _ _) (List.cons_ne_nil _ _)

theorem parts_eq_iff_lines {parts parts' : List Text} :
    parts = parts' ↔ lines parts = lines parts' ∧ lineBreaks parts = lineBreaks parts' :=
  List.eq_iff_flatMap_splitOn 0x0a

theorem length_lines (parts : List Text) :
    (lines parts).length = (lineBreaks parts).sum + parts.length := by
  induction parts with
  | nil => rfl
  | cons part parts ih =>
    rw [lines, List.flatMap_cons, List.length_append, ← lines, ih, List.length_splitOn, lineBreaks,
      lineBreaks, List.map_cons, List.sum_cons, List.length_cons]
    omega

theorem lineBreaks_eq (hnone : ∀ part ∈ operation.parts ns, 0x0a ∉ part)
    (h : lines (operation.parts ns) = lines (operation'.parts ns')) :
    lineBreaks (operation.parts ns) = lineBreaks (operation'.parts ns') := by
  have hzero : ∀ count ∈ lineBreaks (operation.parts ns), count = 0 := by
    intro count hcount
    obtain ⟨part, hpart, rfl⟩ := List.mem_map.mp hcount
    exact List.count_eq_zero.mpr (hnone part hpart)
  have hlength := congrArg List.length h
  rw [length_lines, length_lines, List.sum_eq_zero_iff_forall_eq_nat.mpr hzero] at hlength
  -- as many lines as parts leaves none for a line break
  have hparts : (operation.parts ns).length = (operation'.parts ns').length := rfl
  have hzero' : ∀ count ∈ lineBreaks (operation'.parts ns'), count = 0 :=
    List.sum_eq_zero_iff_forall_eq_nat.mp (by omega)
  rw [List.eq_replicate_of_mem hzero, List.eq_replicate_of_mem hzero']
  rfl

/-- A part that contains a line break can give what follows the break to the part after it. -/
theorem exists_same_preimage
    (h : ∃ part ∈ operation.parts ns, 0x0a ∈ part) : ∃ (ns' : ReplayNamespace)
      (operation' : Operation), operation.preimage ns = operation'.preimage ns' ∧
        ¬ SameComponents ns ns' operation operation' := by
  obtain ⟨part, hpart, hbreak⟩ := h
  obtain ⟨first, rest, hsplit⟩ := List.append_of_mem hbreak
  have hshorter : part ≠ first := by
    intro hsame
    have hlength := congrArg List.length hsplit
    rw [hsame, List.length_append, List.length_cons] at hlength
    omega
  simp only [Operation.parts, downstreamParts, List.mem_cons, List.not_mem_nil, or_false] at hpart
  obtain rfl | rfl | rfl | rfl | rfl | rfl := hpart
  · refine ⟨{ ns with organisationId := first, siteId := rest ++ 0x0a :: ns.siteId }, operation,
      ?_, fun hsame => hshorter (congrArg ReplayNamespace.organisationId hsame.1)⟩
    simp [Operation.preimage, downstreamPreimage, downstreamParts, hsplit]
  · refine ⟨{ ns with siteId := first, userId := rest ++ 0x0a :: ns.userId }, operation,
      ?_, fun hsame => hshorter (congrArg ReplayNamespace.siteId hsame.1)⟩
    simp [Operation.preimage, downstreamPreimage, downstreamParts, hsplit]
  · refine ⟨{ ns with userId := first, deviceId := rest ++ 0x0a :: ns.deviceId }, operation,
      ?_, fun hsame => hshorter (congrArg ReplayNamespace.userId hsame.1)⟩
    simp [Operation.preimage, downstreamPreimage, downstreamParts, hsplit]
  · refine ⟨{ ns with deviceId := first },
      { operation with offlineOperationId := rest ++ 0x0a :: operation.offlineOperationId },
      ?_, fun hsame => hshorter (congrArg ReplayNamespace.deviceId hsame.1)⟩
    simp [Operation.preimage, downstreamPreimage, downstreamParts, Operation.operationKind,
      Operation.payload, hsplit]
  · -- the identifier has no part after it but the action, so its first line goes to the device
    refine ⟨{ ns with deviceId := ns.deviceId ++ 0x0a :: first },
      { operation with offlineOperationId := rest }, ?_, fun hsame => ?_⟩
    · simp [Operation.preimage, downstreamPreimage, downstreamParts, Operation.operationKind,
        Operation.payload, hsplit]
    · have hlength := congrArg List.length (congrArg ReplayNamespace.deviceId hsame.1)
      rw [List.length_append, List.length_cons] at hlength
      omega
  · exact absurd hbreak (List.count_eq_zero.mp (wire_count _))

/-- **What a preimage tells.**  Two operations with one preimage have the same parts unless their
line breaks are at other places; one with no line break in its parts shares its preimage with no
other. -/
theorem preimage_determines_iff (ns ns' : ReplayNamespace) (operation operation' : Operation) :
    ((operation.preimage ns = operation'.preimage ns' →
        SameComponents ns ns' operation operation') ↔
      ¬ (lines (operation.parts ns) = lines (operation'.parts ns') ∧
        lineBreaks (operation.parts ns) ≠ lineBreaks (operation'.parts ns'))) ∧
    ((∀ (other : ReplayNamespace) (operation' : Operation),
        operation.preimage ns = operation'.preimage other →
          SameComponents ns other operation operation') ↔
      ∀ part ∈ operation.parts ns, 0x0a ∉ part) := by
  have hpair : ∀ (other : ReplayNamespace) (operation' : Operation),
      (operation.preimage ns = operation'.preimage other →
        SameComponents ns other operation operation') ↔
      ¬ (lines (operation.parts ns) = lines (operation'.parts other) ∧
        lineBreaks (operation.parts ns) ≠ lineBreaks (operation'.parts other)) := by
    intro other operation'
    rw [preimage_eq_iff, ← parts_eq_iff, @parts_eq_iff_lines (operation.parts ns)]
    tauto
  refine ⟨hpair ns' operation', fun h part hpart hbreak => ?_, fun hnone other operation' => ?_⟩
  · obtain ⟨other, operation', hsame, hdiffer⟩ := exists_same_preimage ⟨part, hpart, hbreak⟩
    exact hdiffer (h other operation' hsame)
  · exact (hpair other operation').mpr fun ⟨hlines, hdiffer⟩ =>
      hdiffer (lineBreaks_eq hnone hlines)

/-- An acknowledgement that `device-1` queues for a site of an organisation. -/
def acknowledgement (organisationId siteId : Text) : Operation where
  offlineOperationId := units "00000000-0000-4000-8000-000000000001"
  organisationId := organisationId
  siteId := siteId
  deviceId := units "device-1"
  deviceSequence := 0
  idempotencyKey := units "key-1"
  createdAt := units "2026-08-14T10:00:00.000Z"
  traceId := units "trace-1"
  object :=
    { payload := .messageAcknowledge ⟨units "00000000-0000-4000-8000-000000000002"⟩
      entries := _
      entries_perm := List.Perm.refl _ }

def acknowledgementNamespace (organisationId siteId : Text) : ReplayNamespace :=
  replayNamespace ⟨organisationId, units "user-1", units "device-1"⟩
    (acknowledgement organisationId siteId)

/-- Organisation `a⏎b` with site `c`, and organisation `a` with site `b⏎c`. -/
theorem acknowledgement_collides :
    (acknowledgement (units "a\nb") (units "c")).accepted = true ∧
      (acknowledgement (units "a") (units "b\nc")).accepted = true ∧
      (acknowledgement (units "a\nb") (units "c")).preimage
          (acknowledgementNamespace (units "a\nb") (units "c")) =
        (acknowledgement (units "a") (units "b\nc")).preimage
          (acknowledgementNamespace (units "a") (units "b\nc")) ∧
      ¬ SameComponents (acknowledgementNamespace (units "a\nb") (units "c"))
        (acknowledgementNamespace (units "a") (units "b\nc"))
        (acknowledgement (units "a\nb") (units "c"))
        (acknowledgement (units "a") (units "b\nc")) := by
  refine ⟨by decide, by decide, by decide, fun hsame => ?_⟩
  have horganisation := congrArg ReplayNamespace.organisationId hsame.1
  revert horganisation
  decide

end Sentinel.FieldOfflineRequest
