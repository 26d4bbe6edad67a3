import Sentinel.Spec.DeviceCanonicalAgreement
import Sentinel.Spec.OfflineDownstreamKey

/-! # What the semantic request of an operation tells

The canonical text of a semantic request is the printed tree of its object.  Printing is injective,
and an object whose keys are known is known from its listing. -/

namespace Sentinel.FieldOfflineRequest

open DeviceCanonicalJson (Text Value listed listed_perm treeEntries)
open FieldOffline (OperationKind AssignmentStatus)
open JsonText (Json)
open JsObject (present)
open Utf16 (ascii)

/-- Two payloads that differ at most in the order of their recipients. -/
def Payload.Same : Payload → Payload → Prop
  | .assignment action payload, .assignment action' payload' =>
    action = action' ∧ payload = payload'
  | .messageSend payload, .messageSend payload' =>
    payload.incidentId = payload'.incidentId ∧
      payload.recipientUserIds.Perm payload'.recipientUserIds ∧ payload.body = payload'.body ∧
      payload.mediaRefs = payload'.mediaRefs ∧ payload.retentionClass = payload'.retentionClass ∧
      payload.expiresAt = payload'.expiresAt
  | .messageAcknowledge payload, .messageAcknowledge payload' => payload = payload'
  | _, _ => False

/-- Two operations that differ at most in their trace, in the order of their payload's properties and
    in the order of their recipients. -/
structure Operation.Same (operation operation' : Operation) : Prop where
  offlineOperationId : operation.offlineOperationId = operation'.offlineOperationId
  organisationId : operation.organisationId = operation'.organisationId
  siteId : operation.siteId = operation'.siteId
  deviceId : operation.deviceId = operation'.deviceId
  deviceSequence : operation.deviceSequence = operation'.deviceSequence
  idempotencyKey : operation.idempotencyKey = operation'.idempotencyKey
  createdAt : operation.createdAt = operation'.createdAt
  payload : operation.payload.Same operation'.payload

/-! ## Listings -/

variable {payload payload' : Payload} {ns ns' : ReplayNamespace} {operation operation' : Operation}

/-- Two objects list the same entries when they have the same entries. -/
theorem listed_eq_iff {l m : List (Text × Json UInt16)} (hkeys : (l.map Prod.fst).Nodup) :
    listed l = listed m ↔ l.Perm m := by
  constructor
  · intro h
    exact (listed_perm l).symm.trans (h ▸ listed_perm m)
  · intro h
    rw [listed, listed, JsObject.sortEntries_eq_of_perm hkeys h]

/-- With the same keys in the same order, two objects list the same entries when they are the same. -/
theorem listed_eq_iff_of_keys {l m : List (Text × Json UInt16)}
    (hkeys : l.map Prod.fst = m.map Prod.fst) (hnodup : (l.map Prod.fst).Nodup) :
    listed l = listed m ↔ l = m := by
  constructor
  · intro h
    have hperm := (listed_eq_iff hnodup).mp h
    exact JsObject.eq_of_map_fst_eq hnodup (List.Subset.refl l) hperm.symm.subset hkeys
  · intro h
    rw [h]

/-- Two objects with the same keys in the same order print one tree when their entries do. -/
theorem tree_map_eq_iff {entries entries' : List (Text × Value)}
    (hkeys : entries.map Prod.fst = entries'.map Prod.fst)
    (hnodup : (entries.map Prod.fst).Nodup) :
    (Value.map entries).tree listed = (Value.map entries').tree listed ↔
      treeEntries listed entries = treeEntries listed entries' := by
  have htree : ∀ entries : List (Text × Value),
      (treeEntries listed entries).map Prod.fst = entries.map Prod.fst := by
    intro entries
    rw [DeviceCanonicalJson.treeEntries_eq_map, List.map_map]
    rfl
  rw [Value.tree, Value.tree, Json.object.injEq, listed_eq_iff_of_keys]
  · rw [htree, htree, hkeys]
  · rwa [htree]

/-- The properties an object can have, as JSON. -/
def treeFields (fields : List (Text × Option Value)) : List (Text × Option (Json UInt16)) :=
  fields.map (Prod.map id (Option.map (Value.tree listed)))

theorem treeFields_keys (fields : List (Text × Option Value)) :
    (treeFields fields).map Prod.fst = fields.map Prod.fst := by
  rw [treeFields, List.map_map]
  rfl

/-- An object lists the properties that it has, whatever order it has them in. -/
theorem tree_of_perm {entries : List (Text × Value)} {fields : List (Text × Option Value)}
    (hnodup : (fields.map Prod.fst).Nodup) (h : entries.Perm (present fields)) :
    (Value.map entries).tree listed = .object (listed (present (treeFields fields))) := by
  have hperm : (present (treeFields fields)).Perm (treeEntries listed entries) := by
    rw [DeviceCanonicalJson.treeEntries_eq_map, treeFields, ← JsObject.present_map]
    exact (h.map _).symm
  have hkeys : ((present (treeFields fields)).map Prod.fst).Nodup :=
    (JsObject.present_keys _).nodup (by rwa [treeFields_keys])
  rw [Value.tree, (listed_eq_iff hkeys).mpr hperm]

/-! ## Payloads -/

theorem Payload.fields_keys (h : payload.kind = payload'.kind) :
    payload.fields.map Prod.fst = payload'.fields.map Prod.fst := by
  cases payload with
  | assignment action payload =>
    cases payload' with
    | assignment action' payload' => rfl
    | messageSend payload' => cases action <;> cases h
    | messageAcknowledge payload' => cases action <;> cases h
  | messageSend payload =>
    cases payload' with
    | assignment action' payload' => cases action' <;> cases h
    | messageSend payload' => rfl
    | messageAcknowledge payload' => cases h
  | messageAcknowledge payload =>
    cases payload' with
    | assignment action' payload' => cases action' <;> cases h
    | messageSend payload' => cases h
    | messageAcknowledge payload' => rfl

theorem Payload.fields_nodup (payload : Payload) : (payload.fields.map Prod.fst).Nodup := by
  cases payload with
  | assignment action payload =>
    show [units "assignment_id", units "expected_status"].Nodup
    decide
  | messageSend payload =>
    show [units "incident_id", units "recipient_user_ids", units "body", units "media_refs",
      units "retention_class", units "expires_at"].Nodup
    decide
  | messageAcknowledge payload => exact List.nodup_singleton _

theorem statusWire_injective {status status' : AssignmentStatus}
    (h : units (OfflineIngress.AssignmentStatus.wire status) =
      units (OfflineIngress.AssignmentStatus.wire status')) : status = status' := by
  revert h
  cases status <;> cases status' <;> decide

theorem tree_texts_inj {elements elements' : List Text}
    (h : (texts elements).tree listed = (texts elements').tree listed) : elements = elements' := by
  rw [texts, texts, Value.tree, Value.tree, Json.array.injEq,
    DeviceCanonicalJson.treeElements_eq_map, DeviceCanonicalJson.treeElements_eq_map, List.map_map,
    List.map_map] at h
  refine List.map_injective_iff.mpr (fun text text' htext => ?_) h
  exact Json.string.inj htext

theorem tree_nullable_inj {text text' : Option Text}
    (h : (nullable text).tree listed = (nullable text').tree listed) : text = text' := by
  cases text with
  | none =>
    cases text' with
    | none => rfl
    | some text' => cases h
  | some text =>
    cases text' with
    | none => cases h
    | some text' => rw [Json.string.inj h]

theorem treeFields_inj (hkind : payload.kind = payload'.kind)
    (h : treeFields payload.fields = treeFields payload'.fields) : payload = payload' := by
  cases payload with
  | assignment action payload =>
    cases payload' with
    | assignment action' payload' =>
      simp only [treeFields, Payload.fields, List.map_cons, List.map_nil, Prod.map, Option.map_some,
        Value.tree, List.cons.injEq, Prod.mk.injEq, Option.some.injEq, Json.string.injEq, and_true,
        true_and] at h
      have hstatus := statusWire_injective h.2
      have haction : action = action' := by
        cases action <;> cases action' <;> first | rfl | cases hkind
      cases payload
      cases payload'
      simp only at hstatus h
      rw [haction, h.1, hstatus]
    | messageSend payload' => cases action <;> cases hkind
    | messageAcknowledge payload' => cases action <;> cases hkind
  | messageSend payload =>
    cases payload' with
    | assignment action' payload' => cases action' <;> cases hkind
    | messageSend payload' =>
      simp only [treeFields, Payload.fields, List.map_cons, List.map_nil, Prod.map, Option.map_some,
        Value.tree, List.cons.injEq, Prod.mk.injEq, Option.some.injEq, Json.string.injEq, and_true,
        true_and] at h
      obtain ⟨hincident, hrecipients, hbody, hmedia, hretention, hexpires⟩ := h
      have hnullable : Function.Injective fun text => (nullable text).tree listed := fun _ _ =>
        tree_nullable_inj
      have htexts : Function.Injective fun elements => (texts elements).tree listed := fun _ _ =>
        tree_texts_inj
      rw [Option.map_map, Option.map_map] at hbody hmedia hexpires
      cases payload
      cases payload'
      simp only at hincident hrecipients hbody hmedia hretention hexpires
      rw [hincident, tree_texts_inj hrecipients, Option.map_injective hnullable hbody,
        Option.map_injective htexts hmedia, hretention, Option.map_injective hnullable hexpires]
    | messageAcknowledge payload' => cases hkind
  | messageAcknowledge payload =>
    cases payload' with
    | assignment action' payload' => cases action' <;> cases hkind
    | messageSend payload' => cases hkind
    | messageAcknowledge payload' =>
      simp only [treeFields, Payload.fields, List.map_cons, List.map_nil, Prod.map, Option.map_some,
        Value.tree, List.cons.injEq, Prod.mk.injEq, Option.some.injEq, Json.string.injEq, and_true,
        true_and] at h
      cases payload
      cases payload'
      simp only at h
      rw [h]

/-- The object of a payload of a known kind tells the payload, and nothing else. -/
theorem payload_tree_eq_iff {object object' : PayloadObject}
    (hkind : object.payload.kind = object'.payload.kind) :
    (Value.map object.entries).tree listed = (Value.map object'.entries).tree listed ↔
      object.payload = object'.payload := by
  have hkeys : ((present (treeFields object.payload.fields)).map Prod.fst).Nodup :=
    (JsObject.present_keys _).nodup (by rw [treeFields_keys]; exact Payload.fields_nodup _)
  rw [tree_of_perm (Payload.fields_nodup _) object.entries_perm,
    tree_of_perm (Payload.fields_nodup _) object'.entries_perm, Json.object.injEq,
    listed_eq_iff hkeys, JsObject.present_perm_iff]
  · exact ⟨treeFields_inj hkind, fun h => by rw [h]⟩
  · rw [treeFields_keys, treeFields_keys, Payload.fields_keys hkind]
  · rw [treeFields_keys]
    exact Payload.fields_nodup _

/-! ## Normalised payloads -/

theorem sortTexts_eq_iff {l m : List Text} : sortTexts l = sortTexts m ↔ l.Perm m := by
  constructor
  · intro h
    exact (List.perm_insertionSort _ l).symm.trans
      ((List.Perm.of_eq h).trans (List.perm_insertionSort _ m))
  · intro h
    have hperm : (sortTexts l).Perm (sortTexts m) :=
      (List.perm_insertionSort _ l).trans (h.trans (List.perm_insertionSort _ m).symm)
    have hsorted : ∀ texts : List Text, (sortTexts texts).Pairwise (· ≤ ·) :=
      List.pairwise_insertionSort _
    exact List.Perm.eq_of_pairwise (fun a b _ _ hab hba => Std.Antisymm.antisymm a b hab hba)
      (hsorted l) (hsorted m) hperm

theorem normalise_payload (object : PayloadObject) :
    object.normalise.payload = object.payload.normalise := by
  obtain ⟨payload, entries, hperm⟩ := object
  cases payload <;> rfl

theorem normalise_kind (payload : Payload) : payload.normalise.kind = payload.kind := by
  cases payload <;> rfl

theorem normalise_eq_iff : payload.normalise = payload'.normalise ↔ payload.Same payload' := by
  cases payload with
  | assignment action payload =>
    cases payload' <;> simp [Payload.normalise, Payload.Same]
  | messageSend payload =>
    cases payload' with
    | assignment action' payload' => simp [Payload.normalise, Payload.Same]
    | messageSend payload' => simp [Payload.normalise, Payload.Same, sortTexts_eq_iff]
    | messageAcknowledge payload' => simp [Payload.normalise, Payload.Same]
  | messageAcknowledge payload =>
    cases payload' <;> simp [Payload.normalise, Payload.Same]

theorem Payload.Same.kind_eq (h : payload.Same payload') : payload.kind = payload'.kind := by
  rw [← normalise_kind payload, normalise_eq_iff.mpr h, normalise_kind]

/-! ## The canonical text -/

theorem operationKind_normalised (operation : Operation) :
    (normaliseOfflineOperation operation).operationKind = operation.operationKind := by
  show operation.object.normalise.payload.kind = operation.object.payload.kind
  rw [normalise_payload, normalise_kind]

/-- Two texts are one when the trees they print are. -/
theorem canonicalise_eq_iff_tree : canonicaliseOfflineSemanticRequest ns operation =
        canonicaliseOfflineSemanticRequest ns' operation' ↔
      (semanticRequest ns operation).tree listed = (semanticRequest ns' operation').tree listed := by
  simp only [canonicaliseOfflineSemanticRequest, canonicalOfflineJson, DeviceCanonicalJson.stringify,
    DeviceCanonicalJson.toJson_sortKeysDeep]
  constructor
  · exact JsonText.print_injective Utf16.wellFormed (DeviceCanonicalJson.tree_valid listed_perm _)
      (DeviceCanonicalJson.tree_valid listed_perm _)
  · intro h
    rw [h]

theorem tree_string_eq_iff {text text' : Text} :
    (Value.string text).tree listed = (Value.string text').tree listed ↔ text = text' := by
  rw [Value.tree, Value.tree, Json.string.injEq]

theorem tree_natural_eq_iff {n n' : Nat} :
    (Value.integer n).tree listed = (Value.integer n').tree listed ↔ n = n' := by
  rw [Value.tree, Value.tree, Json.literal.injEq]
  exact ⟨fun h => Int.ofNat.inj (Utf16.decimal_injective h), fun h => by rw [h]⟩

theorem namespace_tree_eq_iff : ns.toValue.tree listed = ns'.toValue.tree listed ↔ ns = ns' := by
  have hnodup : [units "organisation_id", units "site_id", units "user_id",
      units "device_id"].Nodup := by decide
  rw [ReplayNamespace.toValue, ReplayNamespace.toValue, tree_map_eq_iff]
  · cases ns
    cases ns'
    simp only [treeEntries, Value.tree, List.cons.injEq, Prod.mk.injEq, Json.string.injEq, and_true,
      true_and, ReplayNamespace.mk.injEq]
  · rfl
  · exact hnodup

/-- **What the text tells.**  Two canonical texts are one exactly when the namespaces are and the
    requests written under them agree in everything but the order of recipients. -/
theorem canonicalise_eq_iff : canonicaliseOfflineSemanticRequest ns operation =
        canonicaliseOfflineSemanticRequest ns' operation' ↔
      ns = ns' ∧ operation.offlineOperationId = operation'.offlineOperationId ∧
        operation.deviceSequence = operation'.deviceSequence ∧
        operation.idempotencyKey = operation'.idempotencyKey ∧
        operation.payload.Same operation'.payload ∧
        operation.createdAt = operation'.createdAt := by
  have hnodup : [units "namespace", units "offline_operation_id", units "device_sequence",
      units "idempotency_key", units "operation_kind", units "payload",
      units "created_at"].Nodup := by decide
  -- the kind is written beside the payload, and tells which properties the payload has
  have hpayload : units (OfflineIngress.OperationKind.wire operation.operationKind) =
        units (OfflineIngress.OperationKind.wire operation'.operationKind) ∧
      (Value.map operation.object.normalise.entries).tree listed =
        (Value.map operation'.object.normalise.entries).tree listed ↔
      operation.payload.Same operation'.payload := by
    constructor
    · rintro ⟨hwire, htree⟩
      have hkind := wire_injective hwire
      rw [payload_tree_eq_iff, normalise_payload, normalise_payload, normalise_eq_iff] at htree
      · exact htree
      · rw [normalise_payload, normalise_payload, normalise_kind, normalise_kind]
        exact hkind
    · intro hsame
      have hkind : operation.operationKind = operation'.operationKind := hsame.kind_eq
      refine ⟨by rw [hkind], ?_⟩
      rw [payload_tree_eq_iff, normalise_payload, normalise_payload, normalise_eq_iff]
      · exact hsame
      · rw [normalise_payload, normalise_payload, normalise_kind, normalise_kind]
        exact hkind
  rw [canonicalise_eq_iff_tree, semanticRequest, semanticRequest, tree_map_eq_iff]
  · simp only [treeEntries, List.cons.injEq, Prod.mk.injEq, namespace_tree_eq_iff,
      operationKind_normalised, tree_string_eq_iff, tree_natural_eq_iff, and_true, true_and]
    rw [← hpayload, and_assoc]
    rfl
  · rfl
  · exact hnodup

/-- Under the namespaces they are bound to, the claims of two operations agree with the rest. -/
theorem same_iff {context context' : DeviceContext} (hbinds : bindsClaims context operation = true)
    (hbinds' : bindsClaims context' operation' = true) :
    replayNamespace context operation = replayNamespace context' operation' ∧
        operation.Same operation' ↔
      replayNamespace context operation = replayNamespace context' operation' ∧
        operation.offlineOperationId = operation'.offlineOperationId ∧
        operation.deviceSequence = operation'.deviceSequence ∧
        operation.idempotencyKey = operation'.idempotencyKey ∧
        operation.payload.Same operation'.payload ∧
        operation.createdAt = operation'.createdAt := by
  obtain ⟨horganisation, hdevice⟩ := of_decide_eq_true hbinds
  obtain ⟨horganisation', hdevice'⟩ := of_decide_eq_true hbinds'
  constructor
  · rintro ⟨hns, hsame⟩
    exact ⟨hns, hsame.offlineOperationId, hsame.deviceSequence, hsame.idempotencyKey, hsame.payload,
      hsame.createdAt⟩
  · rintro ⟨hns, hid, hsequence, hkey, hpayload, hcreated⟩
    refine ⟨hns, ?_⟩
    exact {
      offlineOperationId := hid
      organisationId := horganisation.trans
        ((congrArg ReplayNamespace.organisationId hns).trans horganisation'.symm)
      siteId := congrArg ReplayNamespace.siteId hns
      deviceId := hdevice.trans ((congrArg ReplayNamespace.deviceId hns).trans hdevice'.symm)
      deviceSequence := hsequence
      idempotencyKey := hkey
      createdAt := hcreated
      payload := hpayload }

/-- With another fingerprint than the receipt's, an operation meets a conflict. -/
theorem admitConflict_of_ne {sha256Hex : Text → Text} {receiptFingerprint : Text}
    (h : receiptFingerprint ≠ fingerprintOfflineSemanticRequest sha256Hex ns operation)
    (lastFinalizedSequence : Option Nat) (receiptFinalized : Bool) :
    admitConflict sha256Hex lastFinalizedSequence receiptFingerprint receiptFinalized ns operation ≠
      none := by
  simp only [admitConflict, h, decide_false, FieldOffline.classifyOfflineSequence,
    FieldOffline.classifyByReceipt]
  cases FieldOffline.nextExpectedOfflineSequence lastFinalizedSequence with
  | none => simp
  | some nextExpected =>
    by_cases hfresh : operation.deviceSequence = nextExpected
    · simp [hfresh, h]
    · by_cases hgap : operation.deviceSequence > nextExpected
      · simp [hfresh, hgap]
      · simp [hfresh, hgap]

/-- With the receipt's fingerprint, an operation is never taken for another one. -/
theorem admitConflict_of_eq {sha256Hex : Text → Text} {receiptFingerprint : Text}
    (h : receiptFingerprint = fingerprintOfflineSemanticRequest sha256Hex ns operation)
    (lastFinalizedSequence : Option Nat) (receiptFinalized : Bool) :
    admitConflict sha256Hex lastFinalizedSequence receiptFingerprint receiptFinalized ns operation ≠
      some .sequenceReused := by
  simp only [admitConflict, h, decide_true, FieldOffline.classifyOfflineSequence,
    FieldOffline.classifyByReceipt]
  cases FieldOffline.nextExpectedOfflineSequence lastFinalizedSequence with
  | none => cases receiptFinalized <;> simp
  | some nextExpected =>
    by_cases hfresh : operation.deviceSequence = nextExpected
    · simp [hfresh]
    · by_cases hgap : operation.deviceSequence > nextExpected
      · simp [hfresh, hgap]
      · cases receiptFinalized <;> simp [hfresh, hgap]

/-- **The semantic fingerprint is exact.**  For two operations whose claims are bound to their
device contexts, the canonical texts are one exactly when the namespaces are and the operations
differ in nothing but the trace, the order of the payload's properties and that of the recipients;
and where SHA-256 tells the texts apart, replay answers accordingly. -/
theorem fingerprint_exact {context context' : DeviceContext} {operation operation' : Operation}
    (hbinds : bindsClaims context operation = true)
    (hbinds' : bindsClaims context' operation' = true) :
    let ns := replayNamespace context operation
    let ns' := replayNamespace context' operation'
    (canonicaliseOfflineSemanticRequest ns operation =
        canonicaliseOfflineSemanticRequest ns' operation' ↔
      ns = ns' ∧ operation.Same operation') ∧
    ∀ (sha256Hex : Text → Text) (lastFinalizedSequence : Option Nat) (receiptFinalized : Bool),
      (sha256Hex (canonicaliseOfflineSemanticRequest ns operation) =
          sha256Hex (canonicaliseOfflineSemanticRequest ns' operation') →
        canonicaliseOfflineSemanticRequest ns operation =
          canonicaliseOfflineSemanticRequest ns' operation') →
      let conflict := admitConflict sha256Hex lastFinalizedSequence
        (fingerprintOfflineSemanticRequest sha256Hex ns operation) receiptFinalized ns' operation'
      (¬ (ns = ns' ∧ operation.Same operation') → conflict ≠ none) ∧
        (ns = ns' ∧ operation.Same operation' → conflict ≠ some .sequenceReused) := by
  intro ns ns'
  have hexact : canonicaliseOfflineSemanticRequest ns operation =
        canonicaliseOfflineSemanticRequest ns' operation' ↔
      ns = ns' ∧ operation.Same operation' :=
    canonicalise_eq_iff.trans (same_iff hbinds hbinds').symm
  refine ⟨hexact, fun sha256Hex lastFinalizedSequence receiptFinalized hsha => ⟨fun hchanged => ?_,
    fun hsame => ?_⟩⟩
  · exact admitConflict_of_ne (fun hfingerprint => hchanged (hexact.mp (hsha hfingerprint))) _ _
  · exact admitConflict_of_eq (congrArg sha256Hex (hexact.mpr hsame)) _ _

/-- A message that `device-1` queues for two recipients. -/
def message (recipients : List Text) (trace : Text) : Operation where
  offlineOperationId := units "00000000-0000-4000-8000-000000000001"
  organisationId := units "org-1"
  siteId := units "site-1"
  deviceId := units "device-1"
  deviceSequence := 0
  idempotencyKey := units "key-1"
  createdAt := units "2026-08-14T10:00:00.000Z"
  traceId := trace
  object :=
    { payload := .messageSend
        { incidentId := units "00000000-0000-4000-8000-000000000002"
          recipientUserIds := recipients
          body := some (some (units "hold the gate"))
          mediaRefs := none
          retentionClass := units "standard"
          expiresAt := some none }
      entries := _
      entries_perm := List.Perm.refl _ }

theorem message_same {recipients recipients' : List Text} (h : recipients.Perm recipients')
    (trace trace' : Text) : (message recipients trace).Same (message recipients' trace') :=
  ⟨rfl, rfl, rfl, rfl, rfl, rfl, rfl, rfl, h, rfl, rfl, rfl, rfl⟩

def sent : Operation := message [units "alpha", units "bravo"] (units "trace-1")

/-- A retry with a fresh trace and the recipients the other way round. -/
def retried : Operation := message [units "bravo", units "alpha"] (units "trace-2")

/-- The device of both. -/
def messageContext : DeviceContext := ⟨units "org-1", units "user-1", units "device-1"⟩

theorem message_replayed :
    sent.accepted = true ∧ retried.accepted = true ∧
      canonicaliseOfflineSemanticRequest (replayNamespace messageContext sent) sent =
        canonicaliseOfflineSemanticRequest (replayNamespace messageContext retried) retried := by
  have hsame : sent.Same retried := message_same (List.Perm.swap _ _ []) _ _
  have hns : replayNamespace messageContext sent = replayNamespace messageContext retried := by
    rw [replayNamespace, hsame.siteId, replayNamespace]
  have hbinds : bindsClaims messageContext sent = true := by decide
  have hbinds' : bindsClaims messageContext retried = true := by decide
  exact ⟨by decide, by decide,
    (fingerprint_exact hbinds hbinds').1.mpr ⟨hns, hsame⟩⟩

end Sentinel.FieldOfflineRequest
