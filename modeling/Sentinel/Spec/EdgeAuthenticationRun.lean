import Sentinel.Native.EdgeAuthentication
import Sentinel.Spec.EdgeAuthority

/-! # Authenticated Edge requests

A slot is spent when its digest is new to the store.  What an authenticated context says of the Edge
are columns of the registry that no step changes. -/

namespace Sentinel.EdgeAuthentication

open EdgeRegistry (Registry Uuid KeyRow EdgeRow Changes changes_of_call)
open EdgeRequest
open DeviceReplay

variable {δ : Type}

/-! ## What no step takes back -/

/-- A key row with its identity and its public key kept. -/
structure SameKey (key later : KeyRow) : Prop where
  organisationId : later.organisationId = key.organisationId
  edgeId : later.edgeId = key.edgeId
  edgeKeyId : later.edgeKeyId = key.edgeKeyId
  publicKey : later.publicKey = key.publicKey

theorem SameKey.refl (key : KeyRow) : SameKey key key := ⟨rfl, rfl, rfl, rfl⟩

theorem SameKey.trans {a b c : KeyRow} (h₁ : SameKey a b) (h₂ : SameKey b c) : SameKey a c :=
  ⟨h₂.organisationId.trans h₁.organisationId, h₂.edgeId.trans h₁.edgeId,
    h₂.edgeKeyId.trans h₁.edgeKeyId, h₂.publicKey.trans h₁.publicKey⟩

/-- An Edge row with its identity and its site kept. -/
structure SameEdge (edge later : EdgeRow) : Prop where
  id : later.id = edge.id
  organisationId : later.organisationId = edge.organisationId
  siteId : later.siteId = edge.siteId

theorem SameEdge.refl (edge : EdgeRow) : SameEdge edge edge := ⟨rfl, rfl, rfl⟩

theorem SameEdge.trans {a b c : EdgeRow} (h₁ : SameEdge a b) (h₂ : SameEdge b c) : SameEdge a c :=
  ⟨h₂.id.trans h₁.id, h₂.organisationId.trans h₁.organisationId, h₂.siteId.trans h₁.siteId⟩

structure Extends (registry later : Registry δ) : Prop where
  keys : Table.Grows SameKey registry.keys later.keys
  edges : Table.Grows SameEdge registry.edges later.edges
  consumptions : registry.consumptions.rows <+: later.consumptions.rows

namespace Extends

variable {registry later : Registry δ}

theorem same (hkeys : later.keys = registry.keys) (hedges : later.edges = registry.edges)
    (hconsumptions : later.consumptions = registry.consumptions) : Extends registry later where
  keys := by
    rw [hkeys]
    exact .refl SameKey.refl _
  edges := by
    rw [hedges]
    exact .refl SameEdge.refl _
  consumptions := hconsumptions ▸ List.prefix_rfl

theorem refl (registry : Registry δ) : Extends registry registry := same rfl rfl rfl

theorem trans {latest : Registry δ} (h₁ : Extends registry later) (h₂ : Extends later latest) :
    Extends registry latest :=
  ⟨h₁.keys.trans @SameKey.trans h₂.keys, h₁.edges.trans @SameEdge.trans h₂.edges,
    h₁.consumptions.trans h₂.consumptions⟩

theorem findEdge (h : Extends registry later) {organisationId : String} {edgeId : Uuid}
    {edge : EdgeRow} (hfind : registry.findEdge organisationId edgeId = some edge) :
    ∃ edge', later.findEdge organisationId edgeId = some edge' ∧ SameEdge edge edge' :=
  h.edges.find? (fun hab => by rw [hab.organisationId, hab.id]) hfind

theorem findKey (h : Extends registry later) {organisationId edgeKeyId : String} {key : KeyRow}
    (hfind : findRegistryKeyByKeyId registry organisationId edgeKeyId = some key) :
    ∃ key', findRegistryKeyByKeyId later organisationId edgeKeyId = some key' ∧ SameKey key key' :=
  h.keys.find? (fun hab => by rw [hab.organisationId, hab.edgeKeyId]) hfind

end Extends

theorem revokeKeys_follows (registry : Registry δ) (organisationId : String) (edgeId : Uuid)
    (now : Int) :
    Table.Follows SameKey registry.keys (registry.revokeKeys organisationId edgeId now).keys :=
  .rewrite SameKey.refl fun _ _ => ⟨rfl, rfl, rfl, rfl⟩

theorem withdrawEdge_follows (registry : Registry δ) (organisationId : String) (edgeId : Uuid)
    (now : Int) :
    Table.Follows SameEdge registry.edges (registry.withdrawEdge organisationId edgeId now).2.edges :=
  .rewrite SameEdge.refl fun _ _ => ⟨rfl, rfl, rfl⟩

theorem activateEdge_follows (registry : Registry δ) (organisationId : String) (edgeId : Uuid)
    (now : Int) :
    Table.Follows SameEdge registry.edges (registry.activateEdge organisationId edgeId now).2.edges :=
  .rewrite SameEdge.refl fun _ _ => ⟨rfl, rfl, rfl⟩

/-- The calls of the registry change the state of keys and Edges, never what identifies them. -/
theorem extends_of_changes [DecidableEq δ] {platform : EdgeRegistry.Platform δ}
    {registry registry' : Registry δ} {label : EdgeRegistry.Label} {answer : EdgeRegistry.Answer}
    (h : Changes platform registry label registry' answer) : Extends registry registry' := by
  cases h with
  | kept kept => exact .same kept.keys kept.edges kept.consumptions
  | issued _ _ hedges _ hkeys hconsumptions => exact .same hkeys hedges hconsumptions
  | marked _ _ _ _ _ hedges _ hkeys hconsumptions => exact .same hkeys hedges hconsumptions
  | requested _ _ _ _ _ _ _ _ _ _ _ hedges _ hkeys hconsumptions =>
    refine ⟨?_, ?_, hconsumptions ▸ List.prefix_rfl⟩
    · rw [hkeys]
      exact .refl SameKey.refl _
    · rw [hedges]
      exact .append SameEdge.refl _ _
  | withdrawn _ hedges _ hkeys hconsumptions =>
    refine ⟨?_, ?_, hconsumptions ▸ List.prefix_rfl⟩
    · rw [hkeys]
      exact (revokeKeys_follows ..).grows
    · rw [hedges]
      exact (withdrawEdge_follows ..).grows
  | @completed input edgeKeyId now ceremony judged _ completion _ _ kept spend =>
    have hjudged : Extends registry judged := .same kept.keys kept.edges kept.consumptions
    have hspent : Extends judged { judged with
        consumptions := judged.spentConsumptions platform.digest input.organisationId ceremony
          (platform.possessionFingerprint ceremony.statement) } :=
      ⟨.refl SameKey.refl _, .refl SameEdge.refl _,
        Consumptions.prefix_consume.trans Consumptions.prefix_consume⟩
    refine hjudged.trans (hspent.trans ?_)
    rcases EdgeRegistry.spend_cases spend with ⟨rfl, -⟩ | ⟨rfl, -⟩ | ⟨-, henrols⟩
    · exact .refl _
    · exact .refl _
    · cases henrols with
      | burned => exact .refl _
      | keyed _ hconsumptions _ hkeys hedges =>
        refine ⟨?_, ?_, hconsumptions ▸ List.prefix_rfl⟩
        · rw [hkeys]
          exact .append SameKey.refl _ _
        · rw [hedges]
          exact (activateEdge_follows ..).grows

/-! ## What a call knows -/

def KeyStands (registry : Registry δ) (key : KeyRow) : Prop :=
  ∃ key', findRegistryKeyByKeyId registry key.organisationId key.edgeKeyId = some key' ∧
    SameKey key key'

def EdgeStands (registry : Registry δ) (edge : EdgeRow) : Prop :=
  ∃ edge', registry.findEdge edge.organisationId edge.id = some edge' ∧ SameEdge edge edge'

theorem KeyStands.mono {registry later : Registry δ} {key : KeyRow} (h : KeyStands registry key)
    (hextends : Extends registry later) : KeyStands later key := by
  obtain ⟨key', hfind, hsame⟩ := h
  obtain ⟨key'', hfind', hsame'⟩ := hextends.findKey hfind
  exact ⟨key'', hfind', hsame.trans hsame'⟩

theorem EdgeStands.mono {registry later : Registry δ} {edge : EdgeRow}
    (h : EdgeStands registry edge) (hextends : Extends registry later) : EdgeStands later edge := by
  obtain ⟨edge', hfind, hsame⟩ := h
  obtain ⟨edge'', hfind', hsame'⟩ := hextends.findEdge hfind
  exact ⟨edge'', hfind', hsame.trans hsame'⟩

theorem keyStands_of_findAcrossTenants {registry : Registry δ} {edgeKeyId : String} {key : KeyRow}
    (h : findRegistryKeyByKeyIdAcrossTenants registry edgeKeyId = some key) :
    key.edgeKeyId = edgeKeyId ∧ KeyStands registry key := by
  unfold findRegistryKeyByKeyIdAcrossTenants at h
  split at h
  · rename_i only hone
    cases h
    have hmem : key ∈ registry.keys.filter (·.edgeKeyId = edgeKeyId) := by
      rw [hone]
      exact List.mem_singleton.mpr rfl
    obtain ⟨hkey, hid⟩ := List.mem_filter.mp hmem
    have hkeyId : key.edgeKeyId = edgeKeyId := of_decide_eq_true hid
    refine ⟨hkeyId, key, ?_, .refl key⟩
    have hsome := (List.find?_isSome (p := fun row : KeyRow =>
      row.organisationId = key.organisationId ∧ row.edgeKeyId = key.edgeKeyId)).mpr
        ⟨key, hkey, decide_eq_true ⟨rfl, rfl⟩⟩
    obtain ⟨found, hfound⟩ := Option.isSome_iff_exists.mp hsome
    have hmatch := List.find?_some hfound
    have hfoundMem : found ∈ registry.keys.filter (·.edgeKeyId = edgeKeyId) :=
      List.mem_filter.mpr ⟨List.mem_of_find?_eq_some hfound,
        decide_eq_true ((of_decide_eq_true hmatch).2.trans hkeyId)⟩
    rw [hone] at hfoundMem
    rw [findRegistryKeyByKeyId, hfound, List.mem_singleton.mp hfoundMem]
  · cases h

section Calls

variable {platform : Platform δ} {registry later : Registry δ}

/-- A call that has bound its proof to the request and found the key. -/
structure Keyed (platform : Platform δ) (registry : Registry δ) (input : AuthenticationInput)
    (proof : ProofFields) (key : KeyRow) : Prop where
  binds : bindRequest platform input = .ok proof
  keyId : key.edgeKeyId = proof.registryKeyId
  keyStands : KeyStands registry key

/-- One that has found the Edge of the key too. -/
structure Edged (platform : Platform δ) (registry : Registry δ) (input : AuthenticationInput)
    (proof : ProofFields) (key : KeyRow) (edge : EdgeRow) : Prop
    extends Keyed platform registry input proof key where
  edgeStands : EdgeStands registry edge
  organisationId : edge.organisationId = key.organisationId
  edgeId : edge.id = key.edgeId
  claim : proof.edgeId = key.edgeId.text

/-- One whose signature has verified under the key. -/
structure Proven (platform : Platform δ) (registry : Registry δ) (input : AuthenticationInput)
    (proof : ProofFields) (key : KeyRow) (edge : EdgeRow) (record : KeyRecord) : Prop
    extends Edged platform registry input proof key edge where
  publicKey : record.publicKey = key.publicKey
  recordKeyId : record.edgeKeyId = key.edgeKeyId
  profile : record.signatureProfile = signatureProfile
  checked : checkRecord platform input proof edge record = .ok ()

def Authenticated (platform : Platform δ) (registry : Registry δ) (input : AuthenticationInput)
    (proof : ProofFields) (context : Context) : Prop :=
  ∃ key edge record trustedTime, Proven platform registry input proof key edge record ∧
    context = mintContext platform key edge record proof trustedTime

variable {proof : ProofFields} {key : KeyRow} {edge : EdgeRow} {record : KeyRecord} {phase : Phase}

theorem Keyed.mono {input : AuthenticationInput}
    (h : Keyed platform registry input proof key) (hextends : Extends registry later) :
    Keyed platform later input proof key :=
  ⟨h.binds, h.keyId, h.keyStands.mono hextends⟩

theorem Edged.mono {input : AuthenticationInput} (h : Edged platform registry input proof key edge)
    (hextends : Extends registry later) : Edged platform later input proof key edge :=
  ⟨h.toKeyed.mono hextends, h.edgeStands.mono hextends, h.organisationId, h.edgeId, h.claim⟩

theorem Proven.mono {input : AuthenticationInput}
    (h : Proven platform registry input proof key edge record) (hextends : Extends registry later) :
    Proven platform later input proof key edge record :=
  ⟨h.toEdged.mono hextends, h.publicKey, h.recordKeyId, h.profile, h.checked⟩

/-- What a call knows in each phase. -/
def Phase.Sound (platform : Platform δ) (registry : Registry δ) : Phase → Prop
  | .findKeyAcrossTenants _ => True
  | .findEdge input proof key => Keyed platform registry input proof key
  | .findKey input proof key edge => Edged platform registry input proof key edge
  | .findRecordEdge input proof key edge recordKey =>
    Edged platform registry input proof key edge ∧ SameKey key recordKey
  | .readClock input proof key edge record => Proven platform registry input proof key edge record
  | .consume input proof key edge record _ => Proven platform registry input proof key edge record
  | .audit input (.authenticated proof context) => Authenticated platform registry input proof context
  | .answered input (.authenticated proof context) =>
    Authenticated platform registry input proof context
  | .audit _ (.refused ..) | .answered _ (.refused ..) | .failed _ => True

theorem Phase.Sound.mono (h : phase.Sound platform registry)
    (hextends : Extends registry later) : phase.Sound platform later := by
  have hauthenticated : ∀ {input proof context},
      Authenticated platform registry input proof context →
      Authenticated platform later input proof context := by
    rintro input proof context ⟨key, edge, record, trustedTime, hproven, hcontext⟩
    exact ⟨key, edge, record, trustedTime, hproven.mono hextends, hcontext⟩
  cases phase with
  | findKeyAcrossTenants | failed => trivial
  | findEdge => exact Keyed.mono h hextends
  | findKey => exact Edged.mono h hextends
  | findRecordEdge => exact ⟨Edged.mono h.1 hextends, h.2⟩
  | readClock => exact Proven.mono h hextends
  | consume => exact Proven.mono h hextends
  | audit input outcome | answered input outcome =>
    cases outcome with
    | authenticated => exact hauthenticated h
    | refused => trivial

/-! ## One step of a call -/

/-- The slot an authenticated call has spent. -/
def slotOf (proof : ProofFields) (context : Context) : ReplayIdentity :=
  { organisationId := context.organisationId
    edgeId := context.edgeId.text
    registryKeyId := context.registryKeyId
    requestId := proof.requestId }

/-- The slot of a call that is authenticated, its answer recorded yet or not. -/
def Phase.slot : Phase → List ReplayIdentity
  | .audit _ (.authenticated proof context) => [slotOf proof context]
  | .answered _ (.authenticated proof context) => [slotOf proof context]
  | _ => []

/-- A step that only reads: what the call knows grows, and no slot is taken. -/
def Quiet (platform : Platform δ) (registry : Registry δ) (phase : Phase)
    (result : Option (Registry δ × Phase)) : Prop :=
  ∀ registry' next, result = some (registry', next) →
    registry' = registry ∧ next.Sound platform registry ∧ (next.slot = phase.slot ∨ next.slot = [])

theorem quiet_some {next : Phase} (hsound : next.Sound platform registry)
    (hslot : next.slot = []) : Quiet platform registry phase (some (registry, next)) := by
  intro registry' next' heq
  cases heq
  exact ⟨rfl, hsound, .inr hslot⟩

theorem bindRequest_ok {input : AuthenticationInput} (h : bindRequest platform input = .ok proof) :
    input.proof = some proof ∧ input.method = proof.method.text ∧ input.route = proof.route := by
  unfold bindRequest at h
  split at h
  · cases h
  · rename_i parsed hparsed
    simp only [Except.ite_error_eq_ok, not_or, not_not] at h
    obtain ⟨-, -, hbound, h⟩ := h
    cases h
    exact ⟨hparsed, hbound.1, hbound.2⟩

theorem checkRecord_ok {input : AuthenticationInput}
    (h : checkRecord platform input proof edge record = .ok ()) :
    record.authorisedSiteIds = [edge.siteId] ∧
      platform.sha256Hex input.body.toBytes = proof.bodyDigest ∧
      platform.verifies record.publicKey
        (canonicalEdgeRequestStatement (proof.statementInput record.signatureProfile))
        proof.signature = true := by
  simp only [checkRecord, Except.ite_error_eq_ok, not_not, Bool.not_eq_true', Bool.not_eq_false,
    verifySignature, Bool.and_eq_true] at h
  exact ⟨h.1, h.2.2.2.2.1, h.2.2.2.2.2.2.1.2⟩

/-- Every step but the consumption only reads. -/
theorem advance_quiet [DecidableEq δ] {env : Env} (hsound : phase.Sound platform registry)
    (hphase : ∀ input proof key edge record trustedTime,
      phase ≠ .consume input proof key edge record trustedTime) :
    Quiet platform registry phase (phase.advance platform registry env) := by
  cases phase with
  | findKeyAcrossTenants input =>
    simp only [Phase.advance]
    split
    · exact quiet_some trivial rfl
    · rename_i proof hbinds
      split
      · exact quiet_some trivial rfl
      · rename_i key hkey
        obtain ⟨hid, hstands⟩ := keyStands_of_findAcrossTenants hkey
        exact quiet_some ⟨hbinds, hid, hstands⟩ rfl
  | findEdge input proof key =>
    simp only [Phase.advance]
    split
    · exact quiet_some trivial rfl
    · rename_i edge hedge
      obtain ⟨-, horg, hid⟩ := EdgeRegistry.mem_of_findEdge hedge
      by_cases hclaim : proof.edgeId = key.edgeId.text
      · rw [if_neg (not_not_intro hclaim)]
        have hstands : EdgeStands registry edge := ⟨edge, by rw [horg, hid, hedge], .refl edge⟩
        exact quiet_some ⟨hsound, hstands, horg, hid, hclaim⟩ rfl
      · rw [if_pos hclaim]
        exact quiet_some trivial rfl
  | findKey input proof key edge =>
    simp only [Phase.advance]
    split
    · exact quiet_some trivial rfl
    · rename_i recordKey hrecordKey
      obtain ⟨key', hkey', hsame⟩ := hsound.keyStands
      rw [hsound.keyId, hrecordKey] at hkey'
      cases hkey'
      exact quiet_some ⟨hsound, hsame⟩ rfl
  | findRecordEdge input proof key edge recordKey =>
    obtain ⟨hedged, hsame⟩ := hsound
    simp only [Phase.advance]
    split
    · exact quiet_some trivial rfl
    · rename_i recordEdge hrecordEdge
      split
      · exact quiet_some trivial rfl
      · split
        · exact quiet_some trivial rfl
        · rename_i hchecked
          exact quiet_some ⟨hedged, hsame.publicKey, hsame.edgeKeyId, rfl, hchecked⟩ rfl
  | readClock input proof key edge record =>
    simp only [Phase.advance]
    split
    · exact quiet_some trivial rfl
    · exact quiet_some trivial rfl
    · exact quiet_some hsound rfl
  | consume input proof key edge record trustedTime => exact (hphase _ _ _ _ _ _ rfl).elim
  | audit input outcome =>
    intro registry' next heq
    simp only [Phase.advance, Option.some.injEq, Prod.mk.injEq] at heq
    obtain ⟨rfl, rfl⟩ := heq
    split
    · refine ⟨rfl, ?_, ?_⟩
      · cases outcome <;> exact hsound
      · cases outcome <;> exact .inl rfl
    · exact ⟨rfl, trivial, .inr rfl⟩
  | answered | failed =>
    intro registry' next heq
    cases heq

/-- The consumption: the call is authenticated when its slot is new, and else refused. -/
theorem consume_cases [DecidableEq δ] {env : Env} {input : AuthenticationInput}
    {trustedTime : ClaimStanding} {next : Phase}
    (hproven : Proven platform registry input proof key edge record)
    (h : Phase.advance platform registry env
      (.consume input proof key edge record trustedTime) = some (later, next)) :
    Extends registry later ∧ next.Sound platform later ∧
      (next.slot = [] ∨ ∃ slot, next.slot = [slot] ∧
        registry.consumptions.peek slot.organisationId (platform.requestDigest slot) = none ∧
        ∃ row ∈ later.consumptions.rows,
          row.key = (slot.organisationId, platform.requestDigest slot)) := by
  let row := consumptionRow platform key proof record
  have hextends : Extends registry
      { registry with consumptions := (registry.consumptions.consume row).1 } :=
    ⟨.refl SameKey.refl _, .refl SameEdge.refl _, Consumptions.prefix_consume⟩
  simp only [Phase.advance, Option.some.injEq, Prod.mk.injEq] at h
  obtain ⟨rfl, rfl⟩ := h
  refine ⟨hextends, ?_, ?_⟩
  · unfold spent
    split
    · trivial
    · split
      · trivial
      · exact ⟨key, edge, record, trustedTime, hproven.mono hextends, rfl⟩
  · unfold spent
    split
    · exact .inl rfl
    · split
      · exact .inl rfl
      · rename_i hfirst
        have hslot : slotOf proof (mintContext platform key edge record proof trustedTime) =
            replayIdentity key proof := by
          simp only [slotOf, mintContext, replayIdentity, hproven.recordKeyId, hproven.keyId]
        have hnone := Consumptions.peek_of_consume_firstSeen (not_not.mp hfirst)
        refine .inr ⟨_, rfl, ?_, row, Consumptions.mem_consume_self hnone, ?_⟩
        · rw [hslot]
          exact hnone
        · rw [hslot]
          rfl

end Calls

/-! ## The system -/

section System

variable {platform : Platform δ}

def State.slots (s : State δ) : List ReplayIdentity := s.calls.flatMap Phase.slot

/-- No slot is taken twice, and every slot taken is in the store. -/
structure Inv (platform : Platform δ) (s : State δ) : Prop where
  sound : ∀ call ∈ s.calls, call.Sound platform s.registry.registry
  once : s.slots.Nodup
  stored : ∀ slot ∈ s.slots, ∃ row ∈ s.registry.registry.consumptions.rows,
    row.key = (slot.organisationId, platform.requestDigest slot)

variable {s : State δ} {i : Nat} {next phase : Phase} {proof : ProofFields}

theorem Inv.init : Inv platform (State.init : State δ) := by
  refine ⟨fun call hcall => ?_, List.nodup_nil, fun slot hslot => ?_⟩
  · exact (List.not_mem_nil hcall).elim
  · exact (List.not_mem_nil hslot).elim

/-- A step that leaves the calls alone. -/
theorem Inv.extends (h : Inv platform s) {registry : EdgeRegistry.State δ}
    (hextends : Extends s.registry.registry registry.registry) :
    Inv platform { s with registry } where
  sound := fun call hcall => (h.sound call hcall).mono hextends
  once := h.once
  stored := by
    intro slot hslot
    obtain ⟨row, hrow, hkey⟩ := h.stored slot hslot
    exact ⟨row, hextends.consumptions.subset hrow, hkey⟩

/-- The calls after one of them has moved. -/
theorem sound_set {calls : List Phase} {registry later : Registry δ}
    (hsound : ∀ call ∈ calls, call.Sound platform registry) (hextends : Extends registry later)
    (hnext : next.Sound platform later) : ∀ call ∈ calls.set i next, call.Sound platform later := by
  intro call hcall
  cases List.mem_or_eq_of_mem_set hcall with
  | inl hold => exact (hsound call hold).mono hextends
  | inr hnew => exact hnew ▸ hnext

/-- A call that takes no new slot. -/
theorem Inv.advance_quiet (h : Inv platform s)
    (hphase : s.calls[i]? = some phase) (hnext : next.Sound platform s.registry.registry)
    (hslot : next.slot = phase.slot ∨ next.slot = []) :
    Inv platform { s with calls := s.calls.set i next } := by
  have hperm := List.flatMap_set_perm Phase.slot hphase next
  have hsub : ∀ slot ∈ (s.calls.set i next).flatMap Phase.slot, slot ∈ s.slots := by
    intro slot hmem
    have hboth := hperm.mem_iff.mp (List.mem_append_right _ hmem)
    cases List.mem_append.mp hboth with
    | inl hnew =>
      cases hslot with
      | inl hsame =>
        exact List.mem_flatMap.mpr ⟨phase, List.mem_of_getElem? hphase, hsame ▸ hnew⟩
      | inr hnone =>
        rw [hnone] at hnew
        cases hnew
    | inr hold => exact hold
  refine ⟨sound_set h.sound (.refl _) hnext, ?_, fun slot hmem => h.stored slot (hsub slot hmem)⟩
  show ((s.calls.set i next).flatMap Phase.slot).Nodup
  cases hslot with
  | inl hsame =>
    rw [hsame] at hperm
    exact ((List.perm_append_left_iff _).mp hperm).nodup_iff.mpr h.once
  | inr hnone =>
    rw [hnone, List.nil_append] at hperm
    exact (List.nodup_append.mp (hperm.nodup_iff.mpr h.once)).2.1

/-- A call that takes a slot whose digest is new. -/
theorem Inv.advance_taken [DecidableEq δ] (h : Inv platform s)
    {later : Registry δ} {slot : ReplayIdentity} (hphase : s.calls[i]? = some phase)
    (hold : phase.slot = []) (hextends : Extends s.registry.registry later)
    (hnext : next.Sound platform later) (hslot : next.slot = [slot])
    (hnew : s.registry.registry.consumptions.peek slot.organisationId
      (platform.requestDigest slot) = none)
    (hstored : ∃ row ∈ later.consumptions.rows,
      row.key = (slot.organisationId, platform.requestDigest slot)) :
    Inv platform
      { registry := { s.registry with registry := later }, calls := s.calls.set i next } := by
  have hperm := List.flatMap_set_perm Phase.slot hphase next
  rw [hold, hslot, List.nil_append] at hperm
  have hfresh : slot ∉ s.slots := by
    intro hmem
    obtain ⟨row, hrow, hkey⟩ := h.stored slot hmem
    exact Consumptions.key_ne_of_peek_eq_none hnew row hrow hkey
  refine ⟨sound_set h.sound hextends hnext, ?_, ?_⟩
  · exact hperm.nodup_iff.mpr (List.nodup_cons.mpr ⟨hfresh, h.once⟩)
  · intro other hmem
    cases List.mem_cons.mp (hperm.mem_iff.mp hmem) with
    | inl hsame => exact hsame ▸ hstored
    | inr hmem =>
      obtain ⟨row, hrow, hkey⟩ := h.stored other hmem
      exact ⟨row, hextends.consumptions.subset hrow, hkey⟩

theorem Inv.step [DecidableEq δ] {s' : State δ} {label : Label δ} (h : Inv platform s)
    (hstep : step platform s label = some s') : Inv platform s' := by
  cases label with
  | registry label =>
    obtain ⟨registry, hcall, rfl⟩ := Option.map_eq_some_iff.mp hstep
    obtain ⟨⟨registry', answer⟩, hanswer, rfl⟩ := Option.map_eq_some_iff.mp hcall
    exact h.extends (extends_of_changes (changes_of_call hanswer))
  | authenticate input =>
    cases hstep
    refine ⟨fun call hcall => ?_, ?_, fun slot hslot => ?_⟩
    · rcases List.of_mem_concat hcall with hold | rfl
      · exact h.sound call hold
      · trivial
    · simpa [State.slots, Phase.slot] using h.once
    · exact h.stored slot (by simpa [State.slots, Phase.slot] using hslot)
  | advance i env =>
    simp only [EdgeAuthentication.step, Option.bind_eq_bind, Option.bind_eq_some_iff] at hstep
    obtain ⟨phase, hphase, ⟨later, next⟩, hadvance, hstep⟩ := hstep
    cases hstep
    have hsound := h.sound phase (List.mem_of_getElem? hphase)
    by_cases hconsume : ∃ input proof key edge record trustedTime,
        phase = .consume input proof key edge record trustedTime
    · obtain ⟨input, proof, key, edge, record, trustedTime, rfl⟩ := hconsume
      obtain ⟨hextends, hnext, hslots⟩ := consume_cases hsound hadvance
      cases hslots with
      | inl hnone =>
        have hmoved : Inv platform { s with registry := { s.registry with registry := later } } :=
          h.extends hextends
        exact hmoved.advance_quiet hphase hnext (.inr hnone)
      | inr htaken =>
        obtain ⟨slot, hslot, hnew, hstored⟩ := htaken
        exact h.advance_taken hphase rfl hextends hnext hslot hnew hstored
    · have hquiet : Quiet platform s.registry.registry phase
          (phase.advance platform s.registry.registry env) :=
        EdgeAuthentication.advance_quiet hsound fun input proof key edge record trustedTime heq =>
          hconsume ⟨input, proof, key, edge, record, trustedTime, heq⟩
      obtain ⟨rfl, hnext, hslot⟩ := hquiet later next hadvance
      exact h.advance_quiet hphase hnext hslot
  | consume row =>
    cases hstep
    exact h.extends ⟨.refl SameKey.refl _, .refl SameEdge.refl _, Consumptions.prefix_consume⟩

theorem Inv.run [DecidableEq δ] {labels : List (Label δ)}
    (hrun : Transition.run (EdgeAuthentication.step platform) State.init labels = some s) :
    Inv platform s :=
  Transition.run_invariant (fun h hstep => Inv.step h hstep) Inv.init hrun

/-- The request a call was made with. -/
def Phase.input : Phase → AuthenticationInput
  | .findKeyAcrossTenants input | .findEdge input .. | .findKey input .. | .findRecordEdge input ..
  | .readClock input .. | .consume input .. | .audit input _ | .answered input _ | .failed input =>
    input

structure VerifiesUnder (platform : Platform δ) (registry : Registry δ) (organisationId : String)
    (proof : ProofFields) (key : KeyRow) : Prop where
  registered : findRegistryKeyByKeyId registry organisationId proof.registryKeyId = some key
  claim : proof.edgeId = key.edgeId.text
  verifies : platform.verifies key.publicKey
    (canonicalEdgeRequestStatement (proof.statementInput signatureProfile)) proof.signature = true

theorem Proven.verifiesUnder {registry : Registry δ} {input : AuthenticationInput} {key : KeyRow}
    {edge : EdgeRow} {record : KeyRecord}
    (h : Proven platform registry input proof key edge record) :
    ∃ key', SameKey key key' ∧ VerifiesUnder platform registry key.organisationId proof key' := by
  obtain ⟨key', hfind, hsame⟩ := h.keyStands
  obtain ⟨-, -, hverifies⟩ := checkRecord_ok h.checked
  refine ⟨key', hsame, ?_, ?_, ?_⟩
  · rw [← h.keyId]
    exact hfind
  · rw [h.claim, hsame.edgeId]
  · rw [hsame.publicKey, ← h.publicKey, ← h.profile]
    exact hverifies

structure SignedAsServed (platform : Platform δ) (input : AuthenticationInput)
    (proof : ProofFields) (signed : StatementInput) : Prop where
  method : signed.method.text = input.method
  route : signed.route = input.route
  /-- A body of the signed digest that does not collide with the one served. -/
  body : ∀ body, platform.sha256Hex body = signed.bodyDigest →
    (platform.sha256Hex body = platform.sha256Hex input.body.toBytes → body = input.body.toBytes) →
    body = input.body.toBytes

theorem Proven.signedAsServed {registry : Registry δ} {input : AuthenticationInput} {key : KeyRow}
    {edge : EdgeRow} {record : KeyRecord}
    {signed : StatementInput} (h : Proven platform registry input proof key edge record)
    (hsigned : canonicalEdgeRequestStatement signed =
      canonicalEdgeRequestStatement (proof.statementInput signatureProfile)) :
    SignedAsServed platform input proof signed := by
  obtain rfl := canonicalEdgeRequestStatement_injective hsigned
  obtain ⟨-, hmethod, hroute⟩ := bindRequest_ok h.binds
  obtain ⟨-, hdigest, -⟩ := checkRecord_ok h.checked
  refine ⟨hmethod.symm, hroute.symm, fun body hbody hcollision => ?_⟩
  have hequal : platform.sha256Hex body = platform.sha256Hex input.body.toBytes := by
    rw [hdigest]
    exact hbody
  exact hcollision hequal

structure CurrentIdentity (registry : Registry δ) (context : Context) (key : KeyRow)
    (edge : EdgeRow) : Prop where
  keyFound : findRegistryKeyByKeyId registry context.organisationId context.registryKeyId = some key
  edgeFound : registry.findEdge context.organisationId context.edgeId = some edge
  organisationId : context.organisationId = key.organisationId
  edgeId : context.edgeId = key.edgeId
  siteId : context.siteId = edge.siteId
  registryKeyId : context.registryKeyId = key.edgeKeyId
  signatureProfile : context.signatureProfile = EdgeRequest.signatureProfile

/-- What holds of an authenticated call. -/
structure Served (platform : Platform δ) (registry : Registry δ) (input : AuthenticationInput)
    (proof : ProofFields) (context : Context) (key : KeyRow) (edge : EdgeRow) : Prop where
  presented : input.proof = some proof
  verified : VerifiesUnder platform registry context.organisationId proof key
  signed : ∀ signed, canonicalEdgeRequestStatement signed =
      canonicalEdgeRequestStatement (proof.statementInput EdgeRequest.signatureProfile) →
    SignedAsServed platform input proof signed
  method : context.method.text = input.method
  route : context.route = input.route
  identity : CurrentIdentity registry context key edge

theorem Authenticated.served {registry : Registry δ} {input : AuthenticationInput}
    {context : Context}
    (h : Authenticated platform registry input proof context) :
    ∃ key edge, Served platform registry input proof context key edge := by
  obtain ⟨key, edge, record, trustedTime, hproven, rfl⟩ := h
  obtain ⟨key', hsame, hverified⟩ := hproven.verifiesUnder
  obtain ⟨edge', hedge, hsameEdge⟩ := hproven.edgeStands
  obtain ⟨hproof, hmethod, hroute⟩ := bindRequest_ok hproven.binds
  have hkeyId : record.edgeKeyId = proof.registryKeyId := by
    rw [hproven.recordKeyId, hproven.keyId]
  refine ⟨key', edge', hproof, hverified, fun signed => hproven.signedAsServed, hmethod.symm,
    hroute.symm, ?_⟩
  exact
    { keyFound := by
        show findRegistryKeyByKeyId registry key.organisationId record.edgeKeyId = some key'
        rw [hkeyId]
        exact hverified.registered
      edgeFound := by
        show registry.findEdge key.organisationId key.edgeId = some edge'
        rw [← hproven.organisationId, ← hproven.edgeId]
        exact hedge
      organisationId := hsame.organisationId.symm
      edgeId := hsame.edgeId.symm
      siteId := hsameEdge.siteId.symm
      registryKeyId := by
        show record.edgeKeyId = key'.edgeKeyId
        rw [hproven.recordKeyId, hsame.edgeKeyId]
      signatureProfile := hproven.profile }

theorem verified_of_consumed [DecidableEq δ] {registry later : Registry δ} {env : Env}
    (hsound : phase.Sound platform registry)
    (hadvance : phase.advance platform registry env = some (later, next))
    (hconsumed : later.consumptions ≠ registry.consumptions) :
    ∃ proof organisationId key, phase.input.proof = some proof ∧
      VerifiesUnder platform registry organisationId proof key := by
  by_cases hconsume : ∃ input proof key edge record trustedTime,
      phase = .consume input proof key edge record trustedTime
  · obtain ⟨input, proof, key, edge, record, trustedTime, rfl⟩ := hconsume
    have hproven : Proven platform registry input proof key edge record := hsound
    obtain ⟨key', -, hverified⟩ := hproven.verifiesUnder
    exact ⟨proof, key.organisationId, key', (bindRequest_ok hproven.binds).1, hverified⟩
  · have hquiet : Quiet platform registry phase (phase.advance platform registry env) :=
      EdgeAuthentication.advance_quiet hsound fun input proof key edge record trustedTime heq =>
        hconsume ⟨input, proof, key, edge, record, trustedTime, heq⟩
    obtain ⟨rfl, -⟩ := hquiet later next hadvance
    exact (hconsumed rfl).elim

/-- **Edge request authentication**, over every interleaving: a slot is authenticated once at most,
and what is served is what was signed, under the registry's current identity. -/
theorem edgeRequest_run [DecidableEq δ] {s : State δ} {labels : List (Label δ)}
    (hrun : Transition.run (EdgeAuthentication.step platform) State.init labels = some s) :
    (∀ slot, s.slots.count slot ≤ 1) ∧
    (∀ input proof context, .answered input (.authenticated proof context) ∈ s.calls →
      ∃ key edge, Served platform s.registry.registry input proof context key edge) ∧
    ∀ i env phase s', s.calls[i]? = some phase →
      EdgeAuthentication.step platform s (.advance i env) = some s' →
      s'.registry.registry.consumptions ≠ s.registry.registry.consumptions →
      ∃ proof organisationId key, phase.input.proof = some proof ∧
        VerifiesUnder platform s.registry.registry organisationId proof key := by
  have hinv := Inv.run hrun
  refine ⟨List.nodup_iff_count_le_one.mp hinv.once, ?_, ?_⟩
  · intro input proof context hcall
    exact Authenticated.served (hinv.sound _ hcall)
  · intro i env phase s' hphase hstep hconsumed
    simp only [EdgeAuthentication.step, Option.bind_eq_bind, Option.bind_eq_some_iff] at hstep
    obtain ⟨called, hcalled, ⟨later, next⟩, hadvance, hstep⟩ := hstep
    obtain rfl := Option.some.inj (hphase.symm.trans hcalled)
    cases hstep
    exact verified_of_consumed (hinv.sound _ (List.mem_of_getElem? hphase)) hadvance hconsumed

end System

/-! The Edge `e` is enrolled, and sends one request twice. -/

/-- The digest of the body `[]`. -/
def emptyDigest : String := "e3b0c44298fc1c149afbf4c8996fb92427ae41e4649b934ca495991b7852b855"

def plainPlatform : Platform (EdgeRegistry.ReplayIdentity ⊕ ReplayIdentity) :=
  { registry :=
      { digest := .inl
        secretDigest := id
        isRuntimeValidPublicKey := fun _ => true
        thumbprint := fun _ => emptyDigest
        requestFingerprint := (·.edgeId.text)
        possessionFingerprint := (·.challengeId)
        verifySignature := fun _ _ signature => signature = "good" }
    isCanonicalSignature := fun _ => true
    isCanonicalPublicKey := fun _ => true
    sha256Hex := fun bytes => if bytes = [] then emptyDigest else "another digest"
    requestDigest := .inr
    verifies := fun publicKey _ signature => publicKey = "point" ∧ signature = "good" }

/-- A heartbeat of the Edge `e` under its key `k`. -/
def heartbeat : AuthenticationInput :=
  { proof := some
      { edgeId := "e", registryKeyId := "k", requestId := "0123456789abcdef", method := .post
        route := "/edge/v1/heartbeat", bodyDigest := emptyDigest, purpose := .edgeHeartbeat
        trustedTimeAnchorId := none, edgeTrustedTimestamp := none
        claimedSignatureProfile := signatureProfile, signature := "good" }
    method := "POST"
    route := "/edge/v1/heartbeat"
    body := .bytes [] }

/-- Both calls, step by step in turn. -/
def heartbeatRun : List (Label (EdgeRegistry.ReplayIdentity ⊕ ReplayIdentity)) :=
  (EdgeRegistry.challengedRun ++ [EdgeRegistry.completion "c" "k" 30]).map .registry ++
    [.authenticate heartbeat, .authenticate heartbeat] ++
    (List.range 7).flatMap fun _ => [.advance 0 {}, .advance 1 {}]

def heartbeatState : State (EdgeRegistry.ReplayIdentity ⊕ ReplayIdentity) :=
  (Transition.run (step plainPlatform) .init heartbeatRun).getD .init

/-- One of the two calls is authenticated. -/
theorem edgeRequest_run_replayed :
    (heartbeatState.calls.map Phase.slot).map List.length = [1, 0] ∧
      (∀ slot, heartbeatState.slots.count slot ≤ 1) ∧
      ∀ input proof context, .answered input (.authenticated proof context) ∈ heartbeatState.calls →
        ∃ key edge,
          Served plainPlatform heartbeatState.registry.registry input proof context key edge := by
  have hslots : (Transition.run (step plainPlatform) .init heartbeatRun).map
      (fun s => (s.calls.map Phase.slot).map List.length) = some [1, 0] := by decide +kernel
  obtain ⟨s, hrun, hlengths⟩ := Option.map_eq_some_iff.mp hslots
  have hstate : heartbeatState = s := by rw [heartbeatState, hrun, Option.getD_some]
  rw [hstate]
  have hall := edgeRequest_run hrun
  exact ⟨hlengths, hall.1, hall.2.1⟩

end Sentinel.EdgeAuthentication
