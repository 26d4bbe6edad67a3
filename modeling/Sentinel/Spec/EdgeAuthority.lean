import Sentinel.ForStd.List
import Sentinel.Spec.EdgeEnrolmentSteps

/-! # The authority behind an Edge

An authority serves one request, and a completion spends it.  What a completion does not ask is
whether the authority has been revoked or has expired since the request. -/

namespace Sentinel.EdgeRegistry

open DeviceReplay

section Registry

variable {δ : Type}

def Registry.KeyOf (registry : Registry δ) (authorityId : String) (key : KeyRow) : Prop :=
  ∃ request ∈ registry.requests, request.organisationId = key.organisationId ∧
    request.id = key.enrolmentRequestId ∧ request.authorityId = authorityId

def Registry.EdgeOf (registry : Registry δ) (authorityId : String) (edge : EdgeRow) : Prop :=
  ∃ request ∈ registry.requests, request.organisationId = edge.organisationId ∧
    request.edgeId = edge.id ∧ request.authorityId = authorityId

/-- The references between the tables. -/
structure Registry.Linked (registry : Registry δ) : Prop where
  request_authority : ∀ request ∈ registry.requests, ∃ authority ∈ registry.authorities,
    authority.id = request.authorityId ∧ authority.organisationId = request.organisationId
  request_edge : ∀ request ∈ registry.requests, ∃ edge ∈ registry.edges,
    edge.id = request.edgeId ∧ edge.organisationId = request.organisationId ∧
      edge.siteId = request.siteId
  key_request : ∀ key ∈ registry.keys, ∃ request ∈ registry.requests,
    request.organisationId = key.organisationId ∧ request.id = key.enrolmentRequestId ∧
      request.edgeId = key.edgeId

/-- Rows of authorities that stay. -/
def KeepsAuthorities (registry registry' : Registry δ) : Prop :=
  ∀ authority ∈ registry.authorities, ∃ authority' ∈ registry'.authorities, authority.Kept authority'

theorem AuthorityRow.Kept.refl (row : AuthorityRow) : row.Kept row :=
  ⟨rfl, rfl, rfl, rfl, fun h => h, fun h => h⟩

theorem keepsAuthorities_of_rewrite {registry registry' : Registry δ} {p : AuthorityRow → Bool}
    {f : AuthorityRow → AuthorityRow} (hkeeps : ∀ row : AuthorityRow, row.Kept (f row))
    (h : registry'.authorities = Table.rewrite p f registry.authorities) :
    KeepsAuthorities registry registry' := by
  intro authority hauthority
  refine ⟨if p authority then f authority else authority, ?_, ?_⟩
  · rw [h]
    exact Table.mem_rewrite.mpr ⟨authority, hauthority, rfl⟩
  · split
    · exact hkeeps authority
    · exact .refl authority

theorem keepsAuthorities_of_eq {registry registry' : Registry δ}
    (h : registry'.authorities = registry.authorities) : KeepsAuthorities registry registry' :=
  fun authority hauthority => ⟨authority, h ▸ hauthority, .refl authority⟩

/-- The columns of a request that are never written again. -/
structure RequestRow.Same (row row' : RequestRow) : Prop where
  id : row'.id = row.id
  organisationId : row'.organisationId = row.organisationId
  siteId : row'.siteId = row.siteId
  authorityId : row'.authorityId = row.authorityId
  edgeId : row'.edgeId = row.edgeId

/-- What an update of the requests leaves, from either side. -/
theorem same_of_advanceRequest {registry registry' : Registry δ} {organisationId requestId : String}
    (h : registry'.requests = registry.requests ∨
      registry'.requests = (registry.advanceRequest organisationId requestId).2.requests) :
    (∀ request ∈ registry.requests, ∃ request' ∈ registry'.requests, request.Same request') ∧
      ∀ request' ∈ registry'.requests, ∃ request ∈ registry.requests, request.Same request' := by
  rcases h with h | h
  · rw [h]
    exact ⟨fun request hrequest => ⟨request, hrequest, rfl, rfl, rfl, rfl, rfl⟩,
      fun request hrequest => ⟨request, hrequest, rfl, rfl, rfl, rfl, rfl⟩⟩
  · have hsame : ∀ (row : RequestRow) (p : Bool),
        row.Same (if p then { row with state := .activated } else row) := by
      intro row p
      split <;> exact ⟨rfl, rfl, rfl, rfl, rfl⟩
    refine ⟨fun request hrequest => ⟨_, ?_, hsame request
      (Registry.isPendingRequest organisationId requestId request)⟩, fun request' hrequest' => ?_⟩
    · rw [h]
      exact Table.mem_rewrite.mpr ⟨request, hrequest, rfl⟩
    · rw [h] at hrequest'
      obtain ⟨request, hrequest, rfl⟩ := Table.mem_rewrite.mp hrequest'
      exact ⟨request, hrequest, hsame request _⟩

theorem same_of_updateEdges {edges : List EdgeRow} {p : EdgeRow → Bool} {f : EdgeRow → EdgeRow}
    (hf : ∀ row, (f row).id = row.id ∧ (f row).organisationId = row.organisationId ∧
      (f row).siteId = row.siteId) :
    ∀ edge ∈ edges, ∃ edge' ∈ Table.rewrite p f edges, edge'.id = edge.id ∧
      edge'.organisationId = edge.organisationId ∧ edge'.siteId = edge.siteId := by
  intro edge hedge
  refine ⟨if p edge then f edge else edge, Table.mem_rewrite.mpr ⟨edge, hedge, rfl⟩, ?_⟩
  split
  · exact hf edge
  · exact ⟨rfl, rfl, rfl⟩

theorem linked_empty [DecidableEq δ] : (Registry.empty : Registry δ).Linked :=
  ⟨(fun _ h => nomatch h), (fun _ h => nomatch h), fun _ h => nomatch h⟩

/-- The references outlive a change that keeps the rows they refer to. -/
theorem Registry.Linked.mono {registry registry' : Registry δ} (hs : registry.Linked)
    (hauthorities : KeepsAuthorities registry registry')
    (hedges : ∀ edge ∈ registry.edges, ∃ edge' ∈ registry'.edges, edge'.id = edge.id ∧
      edge'.organisationId = edge.organisationId ∧ edge'.siteId = edge.siteId)
    (hrequests : ∀ request ∈ registry.requests, ∃ request' ∈ registry'.requests,
      request.Same request')
    (hnewRequests : ∀ request' ∈ registry'.requests,
      (∃ request ∈ registry.requests, request.Same request') ∨
      (∃ authority ∈ registry.authorities, authority.id = request'.authorityId ∧
        authority.organisationId = request'.organisationId) ∧
      ∃ edge ∈ registry'.edges, edge.id = request'.edgeId ∧
        edge.organisationId = request'.organisationId ∧ edge.siteId = request'.siteId)
    (hkeys : ∀ key' ∈ registry'.keys,
      (∃ key ∈ registry.keys, key'.organisationId = key.organisationId ∧
        key'.enrolmentRequestId = key.enrolmentRequestId ∧ key'.edgeId = key.edgeId) ∨
      ∃ request ∈ registry.requests, request.organisationId = key'.organisationId ∧
        request.id = key'.enrolmentRequestId ∧ request.edgeId = key'.edgeId) :
    registry'.Linked := by
  have hkept : ∀ {authorityId organisationId : String}, (∃ authority ∈ registry.authorities,
      authority.id = authorityId ∧ authority.organisationId = organisationId) →
      ∃ authority ∈ registry'.authorities,
        authority.id = authorityId ∧ authority.organisationId = organisationId := by
    rintro authorityId organisationId ⟨authority, hauthority, hid, horganisation⟩
    obtain ⟨authority', hauthority', hkeeps⟩ := hauthorities authority hauthority
    exact ⟨authority', hauthority', hkeeps.id.trans hid, hkeeps.organisationId.trans horganisation⟩
  refine ⟨fun request' hrequest' => ?_, fun request' hrequest' => ?_, fun key' hkey' => ?_⟩
  · rcases hnewRequests request' hrequest' with ⟨request, hrequest, hsame⟩ | ⟨hauthority, _⟩
    · rw [hsame.authorityId, hsame.organisationId]
      exact hkept (hs.request_authority request hrequest)
    · exact hkept hauthority
  · rcases hnewRequests request' hrequest' with ⟨request, hrequest, hsame⟩ | ⟨_, hedge⟩
    · obtain ⟨edge, hedge, hid, horganisation, hsite⟩ := hs.request_edge request hrequest
      obtain ⟨edge', hedge', hid', horganisation', hsite'⟩ := hedges edge hedge
      rw [hsame.edgeId, hsame.organisationId, hsame.siteId]
      exact ⟨edge', hedge', hid'.trans hid, horganisation'.trans horganisation, hsite'.trans hsite⟩
    · exact hedge
  · have hfrom : ∃ request ∈ registry.requests, request.organisationId = key'.organisationId ∧
        request.id = key'.enrolmentRequestId ∧ request.edgeId = key'.edgeId := by
      rcases hkeys key' hkey' with ⟨key, hkey, horganisation, hid, hedge⟩ | hrequest
      · rw [horganisation, hid, hedge]
        exact hs.key_request key hkey
      · exact hrequest
    obtain ⟨request, hrequest, horganisation, hid, hedge⟩ := hfrom
    obtain ⟨request', hrequest', hsame⟩ := hrequests request hrequest
    exact ⟨request', hrequest', hsame.organisationId.trans horganisation, hsame.id.trans hid,
      hsame.edgeId.trans hedge⟩

end Registry

section Completions

variable {δ : Type} [DecidableEq δ] {registry judged registry' : Registry δ} {ceremony : Ceremony}
  {digest : ReplayIdentity → δ} {organisationId fingerprint edgeKeyId : String} {now : Int}
  {completion : Completion}

/-- A completion leaves the tables, or creates the key of its request and spends the
    authority. -/
theorem spend_tables (hkept : registry.Kept judged)
    (h : judged.spend digest organisationId ceremony fingerprint edgeKeyId now =
      some (registry', completion)) :
    (registry'.authorities = registry.authorities ∧ registry'.edges = registry.edges ∧
        registry'.requests = registry.requests ∧ registry'.keys = registry.keys) ∨
      (registry.authorities.any (Registry.isUnconsumed ceremony.authority.id) = true ∧
        registry'.authorities =
          (registry.markAuthorityConsumed ceremony.authority.id now).2.authorities ∧
        registry'.edges =
          (registry.activateEdge ceremony.edge.organisationId ceremony.edge.id now).2.edges ∧
        (registry'.requests = registry.requests ∨ registry'.requests =
          (registry.advanceRequest ceremony.edge.organisationId ceremony.request.id).2.requests) ∧
        registry'.keys = registry.keys ++ [ceremony.key edgeKeyId now]) := by
  have hmark : (registry.markAuthorityConsumed ceremony.authority.id now).2.authorities =
      (judged.markAuthorityConsumed ceremony.authority.id now).2.authorities := by
    show Table.rewrite _ _ registry.authorities = Table.rewrite _ _ judged.authorities
    rw [hkept.authorities]
  have hactivate : (registry.activateEdge ceremony.edge.organisationId ceremony.edge.id now).2.edges =
      (judged.activateEdge ceremony.edge.organisationId ceremony.edge.id now).2.edges := by
    show Table.rewrite _ _ registry.edges = Table.rewrite _ _ judged.edges
    rw [hkept.edges]
  have hadvance :
      (registry.advanceRequest ceremony.edge.organisationId ceremony.request.id).2.requests =
        (judged.advanceRequest ceremony.edge.organisationId ceremony.request.id).2.requests := by
    show Table.rewrite _ _ registry.requests = Table.rewrite _ _ judged.requests
    rw [hkept.requests]
  rw [hmark, hactivate, hadvance, ← hkept.authorities, ← hkept.edges, ← hkept.requests,
    ← hkept.keys]
  rcases spend_cases h with ⟨rfl, _⟩ | ⟨rfl, _⟩ | ⟨_, henrols⟩
  · exact .inl ⟨rfl, rfl, rfl, rfl⟩
  · exact .inl ⟨rfl, rfl, rfl, rfl⟩
  · cases henrols with
    | burned => exact .inl ⟨rfl, rfl, rfl, rfl⟩
    | keyed hunconsumed _ hauthorities hkeys hedges hrequests _ =>
      exact .inr ⟨hunconsumed, hauthorities, hedges, hrequests, hkeys⟩

end Completions

/-! ## Steps -/

section Steps

variable {δ : Type} [DecidableEq δ] {platform : Platform δ} {registry registry' : Registry δ}
  {label : Label} {answer : Answer}

theorem Changes.keepsAuthorities (h : Changes platform registry label registry' answer) :
    KeepsAuthorities registry registry' := by
  cases h with
  | kept hkept => exact keepsAuthorities_of_eq hkept.authorities
  | issued _ hauthorities =>
    intro authority hauthority
    exact ⟨authority, hauthorities ▸ List.mem_append_left _ hauthority, .refl authority⟩
  | marked _ p f hkeeps hauthorities => exact keepsAuthorities_of_rewrite hkeeps hauthorities
  | requested _ _ _ _ _ _ _ _ _ _ hauthorities => exact keepsAuthorities_of_eq hauthorities
  | completed _ _ hkept hspend =>
    rcases spend_tables hkept hspend with ⟨hauthorities, _⟩ | ⟨_, hauthorities, _⟩
    · exact keepsAuthorities_of_eq hauthorities
    · exact keepsAuthorities_of_rewrite (kept_consumed _) hauthorities
  | withdrawn hauthorities => exact keepsAuthorities_of_eq hauthorities

/-- The requests stay but for their states, and a new one is under an authority without any. -/
theorem Changes.requests (h : Changes platform registry label registry' answer) :
    (∀ request ∈ registry.requests, ∃ request' ∈ registry'.requests, request.Same request') ∧
      ∀ request' ∈ registry'.requests,
        (∃ request ∈ registry.requests, request.Same request') ∨
        answer = .requested request'.edgeId ∧
          (∀ old ∈ registry.requests, old.id ≠ request'.id) ∧
          (∀ old ∈ registry.edges, old.id ≠ request'.edgeId) := by
  have hrefl : (∀ request ∈ registry.requests, ∃ request' ∈ registry.requests, request.Same request') ∧
      ∀ request' ∈ registry.requests, ∃ request ∈ registry.requests, request.Same request' :=
    ⟨fun request hrequest => ⟨request, hrequest, rfl, rfl, rfl, rfl, rfl⟩,
      fun request hrequest => ⟨request, hrequest, rfl, rfl, rfl, rfl, rfl⟩⟩
  cases h with
  | kept hkept =>
    rw [hkept.requests]
    exact ⟨hrefl.1, fun request' hrequest' => .inl (hrefl.2 request' hrequest')⟩
  | issued _ _ _ hrequests | marked _ _ _ _ _ _ hrequests | withdrawn _ _ hrequests =>
    rw [hrequests]
    exact ⟨hrefl.1, fun request' hrequest' => .inl (hrefl.2 request' hrequest')⟩
  | requested _ _ _ hedgeId _ _ _ hfreshEdge hfreshRequest _ _ _ hrequests =>
    rw [hrequests]
    refine ⟨fun request hrequest => ?_, fun request' hrequest' => ?_⟩
    · exact ⟨request, List.mem_append_left _ hrequest, rfl, rfl, rfl, rfl, rfl⟩
    · rcases List.of_mem_concat hrequest' with hold | rfl
      · exact .inl (hrefl.2 request' hold)
      · refine .inr ⟨by rw [hedgeId], hfreshRequest, fun old hold => ?_⟩
        rw [← hedgeId]
        exact hfreshEdge old hold
  | completed _ _ hkept hspend =>
    rcases spend_tables hkept hspend with ⟨_, _, hrequests, _⟩ | ⟨_, _, _, hrequests, _⟩
    · rw [hrequests]
      exact ⟨hrefl.1, fun request' hrequest' => .inl (hrefl.2 request' hrequest')⟩
    · obtain ⟨hforth, hback⟩ := same_of_advanceRequest hrequests
      exact ⟨hforth, fun request' hrequest' => .inl (hback request' hrequest')⟩

theorem Changes.edges (h : Changes platform registry label registry' answer) :
    ∀ edge ∈ registry.edges, ∃ edge' ∈ registry'.edges, edge'.id = edge.id ∧
      edge'.organisationId = edge.organisationId ∧ edge'.siteId = edge.siteId := by
  cases h with
  | kept hkept =>
    rw [hkept.edges]
    exact fun edge hedge => ⟨edge, hedge, rfl, rfl, rfl⟩
  | issued _ _ hedges | marked _ _ _ _ _ hedges =>
    rw [hedges]
    exact fun edge hedge => ⟨edge, hedge, rfl, rfl, rfl⟩
  | requested _ _ _ _ _ _ _ _ _ _ _ hedges =>
    rw [hedges]
    exact fun edge hedge => ⟨edge, List.mem_append_left _ hedge, rfl, rfl, rfl⟩
  | completed _ _ hkept hspend =>
    rcases spend_tables hkept hspend with ⟨_, hedges, _⟩ | ⟨_, _, hedges, _⟩
    · rw [hedges]
      exact fun edge hedge => ⟨edge, hedge, rfl, rfl, rfl⟩
    · rw [hedges]
      exact same_of_updateEdges fun row => ⟨rfl, rfl, rfl⟩
  | withdrawn _ hedges =>
    rw [hedges]
    exact same_of_updateEdges fun row => ⟨rfl, rfl, rfl⟩

/-- Every call keeps the references. -/
theorem Registry.Linked.step (hs : registry.Linked)
    (h : Changes platform registry label registry' answer) : registry'.Linked := by
  have hstay := h.requests
  refine hs.mono h.keepsAuthorities h.edges hstay.1 (fun request' hrequest' => ?_)
    fun key' hkey' => ?_
  · rcases hstay.2 request' hrequest' with hold | ⟨hanswer, hnew, _⟩
    · exact .inl hold
    · cases h with
      | @requested _ _ authority edge _ hauthority _ _ hedgeId hid horganisations hsites _ _ _ _
          hedges hrequests =>
        rw [hrequests] at hrequest'
        rcases List.of_mem_concat hrequest' with hold | rfl
        · exact absurd rfl (hnew request' hold)
        · exact .inr ⟨⟨authority, hauthority, hid.symm, horganisations.1⟩, edge,
            hedges ▸ List.mem_append_right _ (List.mem_singleton_self _), hedgeId,
            horganisations.2, hsites.2⟩
      | kept hkept =>
        rw [hkept.requests] at hrequest'
        exact absurd rfl (hnew request' hrequest')
      | marked hquiet => rcases hquiet with hquiet | hquiet <;> cases hquiet.symm.trans hanswer
      | _ => cases hanswer
  · cases h with
    | kept hkept =>
      rw [hkept.keys] at hkey'
      exact .inl ⟨key', hkey', rfl, rfl, rfl⟩
    | issued _ _ _ _ hkeys | marked _ _ _ _ _ _ _ hkeys
    | requested _ _ _ _ _ _ _ _ _ _ _ _ _ hkeys =>
      rw [hkeys] at hkey'
      exact .inl ⟨key', hkey', rfl, rfl, rfl⟩
    | completed hread _ hkept hspend =>
      rcases spend_tables hkept hspend with ⟨_, _, _, hkeys⟩ | ⟨_, _, _, _, hkeys⟩
      · rw [hkeys] at hkey'
        exact .inl ⟨key', hkey', rfl, rfl, rfl⟩
      · rw [hkeys] at hkey'
        rcases List.of_mem_concat hkey' with hold | rfl
        · exact .inl ⟨key', hold, rfl, rfl, rfl⟩
        · have hread := read_of_ceremony hread
          exact .inr ⟨_, hread.request, hread.organisation.trans hread.edgeOrganisation.symm, rfl,
            hread.edgeId.symm⟩
    | withdrawn _ _ _ hkeys =>
      rw [hkeys] at hkey'
      obtain ⟨key, hkey, rfl⟩ := Table.mem_rewrite.mp hkey'
      refine .inl ⟨key, hkey, ?_⟩
      split <;> exact ⟨rfl, rfl, rfl⟩

/-! ## Dead authorities -/

/-- The clock a step reads. -/
def Label.clock : Label → Option Int
  | .issueEnrolmentAuthority _ _ _ _ _ _ _ now | .revokeEnrolmentAuthority _ _ _ now
  | .requestEnrolment _ _ _ now | .createChallenge _ _ _ now | .completeEnrolment _ _ now
  | .withdrawEdge _ _ _ now => some now
  | .readRequest _ _ => none

/-- The authority has been revoked or burned, or has expired by the clocks of the steps. -/
def AuthorityRow.Dead (authority : AuthorityRow) (labels : List Label) : Prop :=
  authority.revokedAt ≠ none ∨ authority.consumedAt ≠ none ∨
    ∀ label ∈ labels, ∀ now, label.clock = some now → authority.expiresAt ≤ now

/-- A completion whose proof stands finds its authority, where it is unspent, neither revoked nor
    expired. -/
def timely (platform : Platform δ) (s : State δ) : Label → Bool
  | .completeEnrolment input _ now =>
    match s.registry.ceremony input now with
    | .error _ => true
    | .ok ceremony =>
      s.registry.possessionStands input.organisationId ceremony
          (platform.possessionFingerprint ceremony.statement)
          (platform.verifySignature ceremony.request.offeredPublicKey ceremony.statement
            input.signature) = true →
        ceremony.authority.consumedAt = none →
        ceremony.authority.revokedAt = none ∧ now < ceremony.authority.expiresAt
  | _ => true

theorem AuthorityRow.Dead.kept {authority authority' : AuthorityRow} {label : Label}
    {labels : List Label} (h : authority.Dead (label :: labels)) (hkept : authority.Kept authority') :
    authority'.Dead labels := by
  rcases h with hrevoked | hconsumed | hexpired
  · exact .inl (hkept.revoked hrevoked)
  · exact .inr (.inl (hkept.consumed hconsumed))
  · refine .inr (.inr fun other hother now hclock => ?_)
    rw [hkept.expiresAt]
    exact hexpired other (List.mem_cons_of_mem _ hother) now hclock

omit [DecidableEq δ] in
/-- A completion that creates a key finds no dead authority. -/
theorem not_dead_of_timely {s : State δ} {input : CompleteInput}
    {edgeKeyId : String} {now : Int} {ceremony : Ceremony} {labels : List Label}
    (htimely : timely platform s (.completeEnrolment input edgeKeyId now) = true)
    (hread : s.registry.ceremony input now = .ok ceremony)
    (hstands : s.registry.possessionStands input.organisationId ceremony
      (platform.possessionFingerprint ceremony.statement)
      (platform.verifySignature ceremony.request.offeredPublicKey ceremony.statement
        input.signature) = true)
    (hunconsumed :
      s.registry.authorities.any (Registry.isUnconsumed ceremony.authority.id) = true) :
    ¬ ceremony.authority.Dead (.completeEnrolment input edgeKeyId now :: labels) := by
  obtain ⟨found, hfound, hmatch⟩ := List.any_eq_true.mp hunconsumed
  have hmatch : found.id = ceremony.authority.id ∧ found.consumedAt = none :=
    of_decide_eq_true hmatch
  have hsame := Table.eq_of_key s.registry.authorities_id hfound
    (read_of_ceremony hread).authority hmatch.1
  have hnone : ceremony.authority.consumedAt = none := hsame ▸ hmatch.2
  rw [timely, hread] at htimely
  obtain ⟨hrevoked, hexpired⟩ := of_decide_eq_true htimely hstands hnone
  rintro (hdead | hdead | hdead)
  · exact hdead hrevoked
  · exact hdead hnone
  · have hle := hdead _ List.mem_cons_self now rfl
    omega

/-- What a step under the condition adds to the keys and the active Edges of a dead authority:
    nothing. -/
theorem Changes.dead {s : State δ} {label : Label} {labels : List Label}
    (h : Changes platform s.registry label registry' answer) (hs : s.registry.Linked)
    (htimely : timely platform s label = true) {authority : AuthorityRow}
    (hauthority : authority ∈ s.registry.authorities) (hdead : authority.Dead (label :: labels)) :
    (∀ key ∈ registry'.keys, key.status = .current → registry'.KeyOf authority.id key →
        key ∈ s.registry.keys ∧ s.registry.KeyOf authority.id key) ∧
      ∀ edge ∈ registry'.edges, edge.enrolmentState = .active →
        registry'.EdgeOf authority.id edge →
        edge ∈ s.registry.edges ∧ s.registry.EdgeOf authority.id edge := by
  have hstay := h.requests
  -- a request of a row that was there before was there before
  have hkeyOf : ∀ key ∈ s.registry.keys, registry'.KeyOf authority.id key →
      s.registry.KeyOf authority.id key := by
    rintro key hkey ⟨request', hrequest', horganisation, hid, hauthorityId⟩
    rcases hstay.2 request' hrequest' with ⟨request, hrequest, hsame⟩ | ⟨_, hfresh, _⟩
    · exact ⟨request, hrequest, hsame.organisationId.symm.trans horganisation,
        hsame.id.symm.trans hid, hsame.authorityId.symm.trans hauthorityId⟩
    · obtain ⟨request, hrequest, _, hid', _⟩ := hs.key_request key hkey
      exact absurd (hid'.trans hid.symm) (hfresh request hrequest)
  have hedgeOf : ∀ edge ∈ s.registry.edges, registry'.EdgeOf authority.id edge →
      s.registry.EdgeOf authority.id edge := by
    rintro edge hedge ⟨request', hrequest', horganisation, hid, hauthorityId⟩
    rcases hstay.2 request' hrequest' with ⟨request, hrequest, hsame⟩ | ⟨_, _, hfresh⟩
    · exact ⟨request, hrequest, hsame.organisationId.symm.trans horganisation,
        hsame.edgeId.symm.trans hid, hsame.authorityId.symm.trans hauthorityId⟩
    · exact absurd hid.symm (hfresh edge hedge)
  suffices hkept : (∀ key ∈ registry'.keys, key.status = .current →
        registry'.KeyOf authority.id key → key ∈ s.registry.keys) ∧
      ∀ edge ∈ registry'.edges, edge.enrolmentState = .active →
        registry'.EdgeOf authority.id edge → edge ∈ s.registry.edges from
    ⟨fun key hkey hcurrent hof => ⟨hkept.1 key hkey hcurrent hof,
        hkeyOf key (hkept.1 key hkey hcurrent hof) hof⟩,
      fun edge hedge hactive hof => ⟨hkept.2 edge hedge hactive hof,
        hedgeOf edge (hkept.2 edge hedge hactive hof) hof⟩⟩
  cases h with
  | kept hkept =>
    rw [hkept.keys, hkept.edges]
    exact ⟨fun key hkey _ _ => hkey, fun edge hedge _ _ => hedge⟩
  | issued _ _ hedges _ hkeys | marked _ _ _ _ _ hedges _ hkeys =>
    rw [hkeys, hedges]
    exact ⟨fun key hkey _ _ => hkey, fun edge hedge _ _ => hedge⟩
  | requested _ hpending _ _ _ _ _ _ _ _ _ hedges _ hkeys =>
    rw [hkeys, hedges]
    refine ⟨fun key hkey _ _ => hkey, fun edge hedge hactive _ => ?_⟩
    rcases List.of_mem_concat hedge with hold | rfl
    · exact hold
    · rw [hpending] at hactive
      cases hactive
  | @completed input edgeKeyId now ceremony _ _ _ hceremony hstands hkept hspend =>
    rcases spend_tables hkept hspend with ⟨_, hedges, _, hkeys⟩ |
      ⟨hunconsumed, _, hedges, hrequests, hkeys⟩
    · rw [hkeys, hedges]
      exact ⟨fun key hkey _ _ => hkey, fun edge hedge _ _ => hedge⟩
    · have hread := read_of_ceremony hceremony
      have hnot : ¬ ceremony.authority.Dead (.completeEnrolment input edgeKeyId now :: labels) :=
        not_dead_of_timely htimely hceremony hstands hunconsumed
      have hback := (same_of_advanceRequest hrequests).2
      -- the request of the completion is not under the dead authority
      have hother : ceremony.request.authorityId ≠ authority.id := by
        intro hid
        have hsame := Table.eq_of_key s.registry.authorities_id hread.authority hauthority
          (hread.authorityId.trans hid)
        exact hnot (hsame ▸ hdead)
      refine ⟨fun key hkey _ hof => ?_, fun edge hedge hactive hof => ?_⟩
      · rw [hkeys] at hkey
        rcases List.of_mem_concat hkey with hold | rfl
        · exact hold
        · obtain ⟨request', hrequest', horganisation, hid, hauthorityId⟩ := hof
          obtain ⟨request, hrequest, hsame⟩ := hback request' hrequest'
          have hrequestSame := Table.eq_of_key s.registry.requests_id hrequest hread.request
            (hsame.id.symm.trans hid)
          subst hrequestSame
          exact absurd (hsame.authorityId.symm.trans hauthorityId) hother
      · rw [hedges] at hedge
        obtain ⟨old, hold, rfl⟩ := Table.mem_rewrite.mp hedge
        by_cases hhit : Registry.isPendingEdge ceremony.edge.organisationId ceremony.edge.id old = true
        · have hedgeId : old.id = ceremony.edge.id ∧
              old.organisationId = ceremony.edge.organisationId ∧ old.enrolmentState = .pending :=
            of_decide_eq_true hhit
          rw [if_pos hhit] at hof
          obtain ⟨request', hrequest', horganisation, hid, hauthorityId⟩ := hof
          obtain ⟨request, hrequest, hsame⟩ := hback request' hrequest'
          have hkey : (request.organisationId, request.edgeId) =
              (ceremony.request.organisationId, ceremony.request.edgeId) := by
            refine Prod.ext ?_ ?_
            · exact hsame.organisationId.symm.trans (horganisation.trans (hedgeId.2.1.trans
                (hread.edgeOrganisation.trans hread.organisation.symm)))
            · exact hsame.edgeId.symm.trans (hid.trans (hedgeId.1.trans hread.edgeId))
          have hrequestSame := Table.eq_of_key s.registry.requests_edge hrequest hread.request hkey
          subst hrequestSame
          exact absurd (hsame.authorityId.symm.trans hauthorityId) hother
        · rw [if_neg hhit]
          exact hold
  | withdrawn _ hedges _ hkeys =>
    rw [hkeys, hedges]
    refine ⟨fun key hkey hcurrent _ => ?_, fun edge hedge hactive _ => ?_⟩
    · obtain ⟨old, hold, rfl⟩ := Table.mem_rewrite.mp hkey
      split at hcurrent
      · cases hcurrent
      · rename_i hmiss
        rw [if_neg hmiss]
        exact hold
    · obtain ⟨old, hold, rfl⟩ := Table.mem_rewrite.mp hedge
      split at hactive
      · cases hactive
      · rename_i hmiss
        rw [if_neg hmiss]
        exact hold

end Steps

/-! ## Runs -/

section Runs

variable {δ : Type} [DecidableEq δ] {platform : Platform δ} {s s' : State δ}

/-- The references between the tables of a state. -/
def State.Linked (s : State δ) : Prop := s.registry.Linked

theorem linked_step {label : Label} (hs : s.Linked) (h : step platform s label = some s') :
    s'.Linked := by
  obtain ⟨⟨next, answer⟩, hcall, rfl⟩ := Option.map_eq_some_iff.mp h
  exact Registry.Linked.step hs (changes_of_call hcall)

theorem linked_init : (State.init : State δ).Linked := linked_empty

/-- A dead authority has the keys and the active Edges it had. -/
theorem run_dead {labels : List Label} (hs : s.registry.Linked)
    (hrun : Transition.run (step platform) s labels = some s')
    (hall : Transition.RunAll (step platform) (timely platform · · = true) s labels) {authority : AuthorityRow}
    (hauthority : authority ∈ s.registry.authorities) (hdead : authority.Dead labels) :
    (∀ key ∈ s'.registry.keys, key.status = .current → s'.registry.KeyOf authority.id key →
        key ∈ s.registry.keys ∧ s.registry.KeyOf authority.id key) ∧
      ∀ edge ∈ s'.registry.edges, edge.enrolmentState = .active →
        s'.registry.EdgeOf authority.id edge →
        edge ∈ s.registry.edges ∧ s.registry.EdgeOf authority.id edge := by
  induction labels generalizing s authority with
  | nil =>
    cases hrun
    exact ⟨fun key hkey _ hof => ⟨hkey, hof⟩, fun edge hedge _ hof => ⟨hedge, hof⟩⟩
  | cons label labels ih =>
    obtain ⟨t, hstep, hrest⟩ := Transition.run_cons_eq_some.mp hrun
    obtain ⟨⟨next, answer⟩, hcall, rfl⟩ := Option.map_eq_some_iff.mp hstep
    have hchanges := changes_of_call hcall
    obtain ⟨authority', hauthority', hkept⟩ := hchanges.keepsAuthorities authority hauthority
    obtain ⟨hkeys, hedges⟩ := ih (hs.step hchanges) hrest (hall.2 _ hstep) hauthority'
      (hdead.kept hkept)
    obtain ⟨hkeys', hedges'⟩ := hchanges.dead hs hall.1 hauthority hdead
    rw [hkept.id] at hkeys hedges
    refine ⟨fun key hkey hcurrent hof => ?_, fun edge hedge hactive hof => ?_⟩
    · obtain ⟨hmem, hof'⟩ := hkeys key hkey hcurrent hof
      exact hkeys' key hmem hcurrent hof'
    · obtain ⟨hmem, hof'⟩ := hedges edge hedge hactive hof
      exact hedges' edge hmem hactive hof'

omit [DecidableEq δ] in
theorem edge_of_authority_unique (hs : s.registry.Linked) {authorityId : String} {a b : EdgeRow}
    (ha : a ∈ s.registry.edges) (hb : b ∈ s.registry.edges)
    (hofA : s.registry.EdgeOf authorityId a) (hofB : s.registry.EdgeOf authorityId b) : a = b := by
  obtain ⟨requestA, hrequestA, _, hidA, hauthorityA⟩ := hofA
  obtain ⟨requestB, hrequestB, _, hidB, hauthorityB⟩ := hofB
  obtain ⟨authority, hauthority, hid, horganisation⟩ := hs.request_authority requestA hrequestA
  obtain ⟨authority', hauthority', hid', horganisation'⟩ := hs.request_authority requestB hrequestB
  have hsame := Table.eq_of_key s.registry.authorities_id hauthority hauthority'
    (hid.trans (hauthorityA.trans (hauthorityB.symm.trans hid'.symm)))
  have hrequests := Table.eq_of_key s.registry.requests_authority hrequestA hrequestB
    (Prod.ext (horganisation.symm.trans ((congrArg _ hsame).trans horganisation'))
      (hauthorityA.trans hauthorityB.symm))
  subst hrequests
  exact Table.eq_of_key s.registry.edges_id ha hb (hidA.symm.trans hidB)

/-- **An authority is final and single-use**, in runs whose completions find it neither revoked nor
expired: it yields one Edge, and nothing once it is revoked, burned or expired. -/
theorem authority_final {before later : List Label}
    (hbefore : Transition.run (step platform) .init before = some s)
    (hlater : Transition.run (step platform) s later = some s')
    (hall : Transition.RunAll (step platform) (timely platform · · = true) s later) :
    (∀ authority ∈ s.registry.authorities, authority.Dead later →
      (∀ key ∈ s'.registry.keys, key.status = .current → s'.registry.KeyOf authority.id key →
        key ∈ s.registry.keys) ∧
      ∀ edge ∈ s'.registry.edges, edge.enrolmentState = .active →
        s'.registry.EdgeOf authority.id edge → edge ∈ s.registry.edges) ∧
    ∀ authorityId, ∀ a ∈ s'.registry.edges, ∀ b ∈ s'.registry.edges,
      s'.registry.EdgeOf authorityId a → s'.registry.EdgeOf authorityId b → a = b := by
  have hs : s.Linked := Transition.run_invariant linked_step linked_init hbefore
  refine ⟨fun authority hauthority hdead => ?_, fun authorityId a ha b hb hofA hofB => ?_⟩
  · obtain ⟨hkeys, hedges⟩ := run_dead hs hlater hall hauthority hdead
    exact ⟨fun key hkey hcurrent hof => (hkeys key hkey hcurrent hof).1,
      fun edge hedge hactive hof => (hedges edge hedge hactive hof).1⟩
  · have hs' : s'.Linked := Transition.run_invariant linked_step hs hlater
    exact edge_of_authority_unique hs' ha hb hofA hofB

end Runs

/-! A platform whose digests are what they digest, and one enrolment on it. -/

def plainPlatform : Platform ReplayIdentity :=
  { digest := id
    secretDigest := id
    isRuntimeValidPublicKey := fun _ => true
    thumbprint := id
    requestFingerprint := (·.edgeId.text)
    possessionFingerprint := (·.challengeId)
    verifySignature := fun _ _ signature => signature = "good" }

def siteCommander : Principal :=
  { organisationId := "org", userId := "u"
    actions := [actionEdgeEnrolmentAuthorise, actionEdgeRevoke], siteIds := [none] }

def edgeUuid : Uuid := ⟨"e", by decide⟩

/-- The authority `a`, its request `r` for the Edge `e`, and the challenge `c` for it. -/
def challengedRun : List Label :=
  [.issueEnrolmentAuthority siteCommander "org" "site" "secret" "a" true true 0,
    .requestEnrolment
      { organisationId := "org", claimedSiteId := "site", authoritySecret := "secret"
        offeredPublicKey := "point" } edgeUuid "r" 10,
    .readRequest "org" "r", .createChallenge 0 "c" "n" 20]

/-- The proof for a challenge of the request `r`. -/
def completion (challengeId edgeKeyId : String) (now : Int) : Label :=
  .completeEnrolment
    { organisationId := "org", enrolmentRequestId := "r", challengeId, signature := "good" }
    edgeKeyId now

def stateAfter (labels : List Label) : State ReplayIdentity :=
  (Transition.run (step plainPlatform) .init labels).getD .init

def enrolledState : State ReplayIdentity := stateAfter (challengedRun ++ [completion "c" "k" 30])

def retriedState : State ReplayIdentity :=
  (Transition.run (step plainPlatform) enrolledState [completion "c" "l" 40]).getD enrolledState

/-- The completion has spent the authority: a retry of it yields no other key. -/
theorem authority_final_retried :
    (∀ authority ∈ enrolledState.registry.authorities, authority.Dead [completion "c" "l" 40] →
      (∀ key ∈ retriedState.registry.keys, key.status = .current →
        retriedState.registry.KeyOf authority.id key → key ∈ enrolledState.registry.keys) ∧
      ∀ edge ∈ retriedState.registry.edges, edge.enrolmentState = .active →
        retriedState.registry.EdgeOf authority.id edge → edge ∈ enrolledState.registry.edges) ∧
    ∀ authorityId, ∀ a ∈ retriedState.registry.edges, ∀ b ∈ retriedState.registry.edges,
      retriedState.registry.EdgeOf authorityId a → retriedState.registry.EdgeOf authorityId b →
      a = b := by
  have hbefore : Transition.run (step plainPlatform) .init
      (challengedRun ++ [completion "c" "k" 30]) = some enrolledState :=
    Transition.run_eq_some_getD (by decide)
  have hlater : Transition.run (step plainPlatform) enrolledState [completion "c" "l" 40] =
      some retriedState := Transition.run_eq_some_getD (by decide)
  exact authority_final hbefore hlater
    (Transition.runAll_of_checked (fun _ _ h => h) (by decide))

/-- The authority is revoked after the request and before the completion. -/
def revokedState : State ReplayIdentity :=
  stateAfter (challengedRun ++ [.revokeEnrolmentAuthority siteCommander "org" "a" 25])

def revokedCompletion : State ReplayIdentity :=
  (Transition.run (step plainPlatform) revokedState [completion "c" "k" 30]).getD revokedState

theorem revoked_authority_enrols :
    ¬ ∀ (before later : List Label) (s s' : State ReplayIdentity),
      Transition.run (step plainPlatform) .init before = some s →
      Transition.run (step plainPlatform) s later = some s' →
      ∀ authority ∈ s.registry.authorities, authority.Dead later →
        ∀ edge ∈ s'.registry.edges, edge.enrolmentState = .active →
          s'.registry.EdgeOf authority.id edge → edge ∈ s.registry.edges := by
  intro h
  have hbefore : Transition.run (step plainPlatform) .init
      (challengedRun ++ [.revokeEnrolmentAuthority siteCommander "org" "a" 25]) =
        some revokedState := Transition.run_eq_some_getD (by decide)
  have hlater : Transition.run (step plainPlatform) revokedState [completion "c" "k" 30] =
      some revokedCompletion := Transition.run_eq_some_getD (by decide)
  have hfresh : ∃ authority ∈ revokedState.registry.authorities, authority.revokedAt ≠ none ∧
      ∃ edge ∈ revokedCompletion.registry.edges, edge.enrolmentState = .active ∧
        (∃ request ∈ revokedCompletion.registry.requests,
          request.organisationId = edge.organisationId ∧ request.edgeId = edge.id ∧
            request.authorityId = authority.id) ∧ edge ∉ revokedState.registry.edges := by
    decide
  obtain ⟨authority, hauthority, hrevoked, edge, hedge, hactive, hof, hnew⟩ := hfresh
  exact hnew (h _ _ _ _ hbefore hlater authority hauthority (.inl hrevoked) edge hedge hactive hof)

end Sentinel.EdgeRegistry
