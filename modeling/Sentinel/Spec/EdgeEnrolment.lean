import Sentinel.Spec.EdgeAuthority

/-! # Truthful answers of an enrolment

A refusal of `completeEnrolment` is an answer from inside its transaction, so what was written
before it stays. -/

namespace Sentinel.EdgeRegistry

open DeviceReplay Consumptions

def RequestRow.authorityIdentity (request : RequestRow) : ReplayIdentity :=
  .edgeAuthority request.organisationId request.siteId request.authorityId

def RequestRow.challengeIdentity (request : RequestRow) (challengeId nonce : String) :
    ReplayIdentity :=
  .edgePossession request.organisationId request.siteId request.id challengeId nonce

section Invariant

variable {δ : Type} [DecidableEq δ]

/-- The authority is unspent and its Edge pending, or the identity of the authority was consumed
    by this very statement. -/
def Ceremony.isClear (ceremony : Ceremony) (platform : Platform δ) (registry : Registry δ)
    (organisationId : String) : Bool :=
  match registry.consumptions.peek organisationId (platform.digest ceremony.authorityIdentity) with
  | none => ceremony.authority.consumedAt = none ∧ ceremony.edge.enrolmentState = .pending
  | some stored => stored.statementFingerprint = platform.possessionFingerprint ceremony.statement

/-- A completion whose proof stands is clear. -/
def clear (platform : Platform δ) (s : State δ) : Label → Bool
  | .completeEnrolment input _ now =>
    match s.registry.ceremony input now with
    | .error _ => true
    | .ok ceremony =>
      !s.registry.possessionStands input.organisationId ceremony
          (platform.possessionFingerprint ceremony.statement)
          (platform.verifySignature ceremony.request.offeredPublicKey ceremony.statement
            input.signature) ||
        ceremony.isClear platform s.registry input.organisationId
  | _ => true

/-- The Edge of a request was enrolled, and is active with a key unless it was withdrawn since. -/
def Registry.Held (registry : Registry δ) (log : List Answer) (request : RequestRow) : Prop :=
  ∃ before edgeKeyId after,
    log = before ++ .completed (.enrolled request.edgeId edgeKeyId 1) :: after ∧
    ∃ edge ∈ registry.edges, edge.id = request.edgeId ∧
      edge.organisationId = request.organisationId ∧
      (edge.enrolmentState = .active ∧ (∃ key ∈ registry.keys, key.edgeId = edge.id ∧
          key.organisationId = edge.organisationId ∧ key.status = .current) ∨
        edge.enrolmentState = .withdrawn ∧ .withdrawn edge.id ∈ after)

/-- What the replay identities say of the requests. -/
structure Registry.Faithful (platform : Platform δ) (registry : Registry δ) (log : List Answer) :
    Prop where
  linked : registry.Linked
  /-- Every consumed identity is of a request. -/
  owned : ∀ row ∈ registry.consumptions.rows, ∃ request ∈ registry.requests,
    row.organisationId = request.organisationId ∧
      (row.replayIdentityDigest = platform.digest request.authorityIdentity ∨
        ∃ challengeId nonce,
          row.replayIdentityDigest = platform.digest (request.challengeIdentity challengeId nonce))
  unseen : ∀ request ∈ registry.requests,
    registry.consumptions.peek request.organisationId (platform.digest request.authorityIdentity) =
      none →
    request.state = .pending ∧ ∀ challengeId nonce, registry.consumptions.peek
      request.organisationId (platform.digest (request.challengeIdentity challengeId nonce)) = none
  seen : ∀ request ∈ registry.requests, ∀ stored,
    registry.consumptions.peek request.organisationId (platform.digest request.authorityIdentity) =
      some stored →
    stored.storedOutcomeRef = some request.edgeId.text ∧ registry.Held log request

variable {platform : Platform δ} {registry registry' : Registry δ} {label : Label}
  {answer : Answer} {log : List Answer} {request : RequestRow}

theorem faithful_empty : (Registry.empty : Registry δ).Faithful platform [] :=
  ⟨linked_empty, (fun _ h => nomatch h), (fun _ h => nomatch h), fun _ h => nomatch h⟩

/-! ## What stays of an enrolment -/

/-- An Edge that was enrolled is still there after a call. -/
theorem Registry.Held.step (h : registry.Held log request)
    (hchanges : Changes platform registry label registry' answer) :
    registry'.Held (log ++ [answer]) request := by
  obtain ⟨before, edgeKeyId, after, hlog, edge, hedge, hid, horganisation, hstate⟩ := h
  -- the Edge row and its key after the call
  suffices hafter : ∃ edge' ∈ registry'.edges, edge'.id = edge.id ∧
      edge'.organisationId = edge.organisationId ∧
      (edge'.enrolmentState = .active ∧ (∃ key ∈ registry'.keys, key.edgeId = edge'.id ∧
          key.organisationId = edge'.organisationId ∧ key.status = .current) ∨
        edge'.enrolmentState = .withdrawn ∧ .withdrawn edge'.id ∈ after ++ [answer]) by
    obtain ⟨edge', hedge', hid', horganisation', hstate'⟩ := hafter
    exact ⟨before, edgeKeyId, after ++ [answer], by rw [hlog]; simp, edge', hedge',
      hid'.trans hid, horganisation'.trans horganisation, hstate'⟩
  have hstays : edge ∈ registry'.edges →
      (∀ key ∈ registry.keys, key.status = .current → key ∈ registry'.keys) →
      ∃ edge' ∈ registry'.edges, edge'.id = edge.id ∧
      edge'.organisationId = edge.organisationId ∧
      (edge'.enrolmentState = .active ∧ (∃ key ∈ registry'.keys, key.edgeId = edge'.id ∧
          key.organisationId = edge'.organisationId ∧ key.status = .current) ∨
        edge'.enrolmentState = .withdrawn ∧ .withdrawn edge'.id ∈ after ++ [answer]) := by
    intro hedge' hkeys
    refine ⟨edge, hedge', rfl, rfl, ?_⟩
    rcases hstate with ⟨hactive, key, hkey, hof, horg, hcurrent⟩ | ⟨hwithdrawn, hlogged⟩
    · exact .inl ⟨hactive, key, hkeys key hkey hcurrent, hof, horg, hcurrent⟩
    · exact .inr ⟨hwithdrawn, List.mem_append_left _ hlogged⟩
  have hnotPending : edge.enrolmentState ≠ .pending := by
    rcases hstate with ⟨hactive, _⟩ | ⟨hwithdrawn, _⟩
    · rw [hactive]
      decide
    · rw [hwithdrawn]
      decide
  cases hchanges with
  | kept hkept =>
    exact hstays (hkept.edges ▸ hedge) fun key hkey _ => hkept.keys ▸ hkey
  | issued _ _ hedges _ hkeys | marked _ _ _ _ _ hedges _ hkeys =>
    exact hstays (hedges ▸ hedge) fun key hkey _ => hkeys ▸ hkey
  | requested _ _ _ _ _ _ _ _ _ _ _ hedges _ hkeys =>
    exact hstays (hedges ▸ List.mem_append_left _ hedge) fun key hkey _ => hkeys ▸ hkey
  | completed _ _ hkept hspend =>
    rcases spend_tables hkept hspend with ⟨_, hedges, _, hkeys⟩ | ⟨_, _, hedges, _, hkeys⟩
    · exact hstays (hedges ▸ hedge) fun key hkey _ => hkeys ▸ hkey
    · refine hstays ?_ fun key hkey _ => hkeys ▸ List.mem_append_left _ hkey
      rw [hedges]
      refine Table.mem_rewrite_of_miss hedge (Bool.eq_false_iff.mpr fun hhit => hnotPending ?_)
      exact (of_decide_eq_true hhit : _ ∧ _ ∧ _).2.2
  | @withdrawn _ _ organisationId edgeId now _ hedges _ hkeys =>
    by_cases hhit : Registry.isRegisteredEdge organisationId edgeId edge = true
    · have hedge' : { edge with
          enrolmentState := .withdrawn, edgeTrust := .revoked, withdrawnAt := some now } ∈
          registry'.edges := by
        rw [hedges]
        exact Table.mem_rewrite_of_hit hedge hhit
      refine ⟨_, hedge', rfl, rfl, .inr ⟨rfl, ?_⟩⟩
      have hmatch : edge.id = edgeId ∧ _ := of_decide_eq_true hhit
      show Answer.withdrawn edge.id ∈ _
      rw [hmatch.1]
      exact List.mem_append_right _ (List.mem_singleton_self _)
    · have hmiss := Bool.eq_false_iff.mpr hhit
      have hedge' : edge ∈ registry'.edges := hedges ▸ Table.mem_rewrite_of_miss hedge hmiss
      refine ⟨edge, hedge', rfl, rfl, ?_⟩
      rcases hstate with ⟨hactive, key, hkey, hof, horg, hcurrent⟩ | ⟨hwithdrawn, hlogged⟩
      · -- the key of an Edge that is not hit is not hit
        refine .inl ⟨hactive, key, ?_, hof, horg, hcurrent⟩
        rw [hkeys]
        refine Table.mem_rewrite_of_miss hkey (decide_eq_false fun hkeyHit => hhit ?_)
        exact decide_eq_true ⟨hof.symm.trans hkeyHit.2.1, horg.symm.trans hkeyHit.1,
          by rw [hactive]; decide⟩
      · exact .inr ⟨hwithdrawn, List.mem_append_left _ hlogged⟩

omit [DecidableEq δ] in
theorem Registry.Held.same {request' : RequestRow} (h : registry.Held log request)
    (hsame : request.Same request') : registry.Held log request' := by
  rw [Registry.Held, hsame.edgeId, hsame.organisationId]
  exact h

/-- A call that consumes nothing and makes no request keeps what the identities say. -/
theorem Registry.Faithful.quiet (hs : registry.Faithful platform log)
    (hchanges : Changes platform registry label registry' answer)
    (hrequests : registry'.requests = registry.requests)
    (hconsumptions : registry'.consumptions = registry.consumptions) :
    registry'.Faithful platform (log ++ [answer]) := by
  refine ⟨hs.linked.step hchanges, ?_, ?_, ?_⟩
  · rw [hconsumptions, hrequests]
    exact hs.owned
  · rw [hconsumptions, hrequests]
    exact hs.unseen
  · rw [hconsumptions, hrequests]
    intro request hrequest stored hpeek
    obtain ⟨href, hheld⟩ := hs.seen request hrequest stored hpeek
    exact ⟨href, hheld.step hchanges⟩

/-- A new request has consumed nothing. -/
theorem Registry.Faithful.requested (hs : registry.Faithful platform log)
    (hdigest : Function.Injective platform.digest)
    (hchanges : Changes platform registry label registry' answer) {new : RequestRow}
    (hpending : new.state = .pending)
    (hfreshRequest : ∀ old ∈ registry.requests, old.id ≠ new.id)
    (hfreshAuthority : ∀ old ∈ registry.requests,
      (old.organisationId, old.authorityId) ≠ (new.organisationId, new.authorityId))
    (hrequests : registry'.requests = registry.requests ++ [new])
    (hconsumptions : registry'.consumptions = registry.consumptions) :
    registry'.Faithful platform (log ++ [answer]) := by
  have hauthority : registry.consumptions.peek new.organisationId
      (platform.digest new.authorityIdentity) = none := by
    by_contra hsome
    obtain ⟨row, hpeek⟩ := Option.ne_none_iff_exists'.mp hsome
    obtain ⟨hrow, hkey⟩ := peek_eq_some hpeek
    obtain ⟨request, hrequest, _, hof⟩ := hs.owned row hrow
    obtain ⟨_, hkey⟩ := Prod.mk.inj hkey
    rcases hof with hof | ⟨challengeId, nonce, hof⟩
    · have hsame := hdigest (hof.symm.trans hkey)
      obtain ⟨horganisation, _, hid⟩ := ReplayIdentity.edgeAuthority.inj hsame
      exact hfreshAuthority request hrequest (Prod.ext horganisation hid)
    · cases hdigest (hof.symm.trans hkey)
  have hchallenge : ∀ challengeId nonce, registry.consumptions.peek new.organisationId
      (platform.digest (new.challengeIdentity challengeId nonce)) = none := by
    intro challengeId nonce
    by_contra hsome
    obtain ⟨row, hpeek⟩ := Option.ne_none_iff_exists'.mp hsome
    obtain ⟨hrow, hkey⟩ := peek_eq_some hpeek
    obtain ⟨request, hrequest, _, hof⟩ := hs.owned row hrow
    obtain ⟨_, hkey⟩ := Prod.mk.inj hkey
    rcases hof with hof | ⟨challengeId', nonce', hof⟩
    · cases hdigest (hof.symm.trans hkey)
    · have hsame := hdigest (hof.symm.trans hkey)
      exact hfreshRequest request hrequest (ReplayIdentity.edgePossession.inj hsame).2.2.1
  refine ⟨hs.linked.step hchanges, fun row hrow => ?_, fun request hrequest hpeek => ?_,
    fun request hrequest stored hpeek => ?_⟩
  · rw [hconsumptions] at hrow
    obtain ⟨request, hrequest, hof⟩ := hs.owned row hrow
    exact ⟨request, hrequests ▸ List.mem_append_left _ hrequest, hof⟩
  · rw [hconsumptions] at hpeek ⊢
    rw [hrequests] at hrequest
    rcases List.of_mem_concat hrequest with hold | rfl
    · exact hs.unseen request hold hpeek
    · exact ⟨hpending, hchallenge⟩
  · rw [hconsumptions] at hpeek
    rw [hrequests] at hrequest
    rcases List.of_mem_concat hrequest with hold | rfl
    · obtain ⟨href, hheld⟩ := hs.seen request hold stored hpeek
      exact ⟨href, hheld.step hchanges⟩
    · rw [hauthority] at hpeek
      cases hpeek

/-! ## Completions -/

section Completion

variable {ceremony : Ceremony} {judged : Registry δ} {organisationId fingerprint edgeKeyId : String}
  {now : Int} {completion : Completion}

omit [DecidableEq δ] in
/-- The identities of a ceremony are those of its request. -/
theorem identities_of_read (hs : registry.Linked)
    (hread : ceremony.Read registry organisationId) :
    ceremony.authorityIdentity = ceremony.request.authorityIdentity ∧
      ceremony.challengeIdentity = ceremony.request.challengeIdentity ceremony.challenge.id
        ceremony.challenge.nonce := by
  obtain ⟨edge, hedge, hid, horganisation, hsite⟩ := hs.request_edge _ hread.request
  have hsame := Table.eq_of_key registry.edges_id hedge hread.edge (hid.trans hread.edgeId.symm)
  subst hsame
  constructor
  · rw [Ceremony.authorityIdentity, RequestRow.authorityIdentity, horganisation, hsite,
      hread.authorityId]
  · rw [Ceremony.challengeIdentity, RequestRow.challengeIdentity, horganisation, hsite]

/-- The identities of another request are not consumed. -/
theorem peek_spent_of_ne (hdigest : Function.Injective platform.digest)
    (hids : ceremony.authorityIdentity = ceremony.request.authorityIdentity ∧
      ceremony.challengeIdentity = ceremony.request.challengeIdentity ceremony.challenge.id
        ceremony.challenge.nonce)
    {identity : ReplayIdentity} {organisation : String}
    (hauthority : identity ≠ ceremony.request.authorityIdentity)
    (hchallenge : ∀ challengeId nonce,
      identity ≠ ceremony.request.challengeIdentity challengeId nonce) :
    (judged.spentConsumptions platform.digest organisationId ceremony fingerprint).peek organisation
        (platform.digest identity) =
      judged.consumptions.peek organisation (platform.digest identity) := by
  rw [Registry.spentConsumptions, peek_consume_of_ne, peek_consume_of_ne]
  · intro hkey
    exact hauthority ((hdigest (Prod.mk.inj hkey).2).symm.trans hids.1)
  · intro hkey
    exact hchallenge _ _ ((hdigest (Prod.mk.inj hkey).2).symm.trans hids.2)

omit [DecidableEq δ] in
/-- Other requests differ from that of a ceremony in both identities. -/
theorem identities_ne {request other : RequestRow}
    (hrequest : request ∈ registry.requests) (hother : other ∈ registry.requests)
    (hne : other ≠ request) :
    other.authorityIdentity ≠ request.authorityIdentity ∧ ∀ challengeId nonce challengeId' nonce',
      other.challengeIdentity challengeId nonce ≠
        request.challengeIdentity challengeId' nonce' := by
  constructor
  · intro hsame
    obtain ⟨horganisation, _, hid⟩ := ReplayIdentity.edgeAuthority.inj hsame
    exact hne (Table.eq_of_key registry.requests_authority hother hrequest
      (Prod.ext horganisation hid))
  · intro challengeId nonce challengeId' nonce' hsame
    exact hne (Table.eq_of_key registry.requests_id hother hrequest
      (ReplayIdentity.edgePossession.inj hsame).2.2.1)

/-- A clear completion whose authority is unspent enrols the Edge. -/
theorem enrolled_of_unseen (hs : registry.Faithful platform log)
    (hdigest : Function.Injective platform.digest)
    (hread : ceremony.Read registry organisationId) (hkept : registry.Kept judged)
    (hspend : judged.spend platform.digest organisationId ceremony fingerprint edgeKeyId now =
      some (registry', completion))
    (hpeek : registry.consumptions.peek organisationId
      (platform.digest ceremony.authorityIdentity) = none)
    (hconsumed : ceremony.authority.consumedAt = none)
    (hpendingEdge : ceremony.edge.enrolmentState = .pending) :
    completion = .enrolled ceremony.edge.id edgeKeyId 1 ∧
      registry'.consumptions =
        judged.spentConsumptions platform.digest organisationId ceremony fingerprint ∧
      registry'.edges =
        (registry.activateEdge ceremony.edge.organisationId ceremony.edge.id now).2.edges ∧
      registry'.keys = registry.keys ++ [ceremony.key edgeKeyId now] ∧
      registry'.requests =
        (registry.advanceRequest ceremony.edge.organisationId ceremony.request.id).2.requests := by
  obtain ⟨hauthorityIdentity, hchallengeIdentity⟩ := identities_of_read hs.linked hread
  have hpeekRequest : registry.consumptions.peek ceremony.request.organisationId
      (platform.digest ceremony.request.authorityIdentity) = none := by
    rw [hread.organisation, ← hauthorityIdentity]
    exact hpeek
  obtain ⟨hpendingRequest, hchallenges⟩ := hs.unseen _ hread.request hpeekRequest
  rw [← hkept.consumptions] at hpeek
  -- both identities are seen for the first time
  have hfirst : (judged.consumptions.consume (judged.consumption platform.digest organisationId
      ceremony fingerprint ceremony.authorityIdentity)).2 = .firstSeen := consume_firstSeen hpeek
  have hsecondPeek : (judged.consumptions.consume (judged.consumption platform.digest organisationId
      ceremony fingerprint ceremony.authorityIdentity)).1.peek organisationId
        (platform.digest ceremony.challengeIdentity) = none := by
    rw [peek_consume_of_ne, hkept.consumptions, hchallengeIdentity, ← hread.organisation]
    · exact hchallenges _ _
    · intro hkey
      cases hdigest (Prod.mk.inj hkey).2
  have hsecond : ((judged.consumptions.consume (judged.consumption platform.digest organisationId
      ceremony fingerprint ceremony.authorityIdentity)).1.consume (judged.consumption
        platform.digest organisationId ceremony fingerprint ceremony.challengeIdentity)).2 =
      .firstSeen := consume_firstSeen hsecondPeek
  rcases spend_cases hspend with ⟨_, _, hbad⟩ | ⟨_, ref, hduplicate, _⟩ | ⟨_, henrols⟩
  · rw [hfirst, hsecond] at hbad
    rcases hbad with hbad | hbad | hbad | hbad <;> cases hbad
  · rw [hfirst] at hduplicate
    cases hduplicate
  · cases henrols with
    | burned hburned =>
      have hhit : Registry.isUnconsumed ceremony.authority.id ceremony.authority = true :=
        decide_eq_true ⟨rfl, hconsumed⟩
      have hmem : ceremony.authority ∈ judged.authorities := hkept.authorities ▸ hread.authority
      exact absurd hhit (List.any_eq_false.mp hburned _ hmem)
    | keyed _ hconsumptions _ hkeys hedges _ hended =>
      have hedges' : registry'.edges =
          (registry.activateEdge ceremony.edge.organisationId ceremony.edge.id now).2.edges := by
        rw [hedges]
        show Table.rewrite _ _ judged.edges = Table.rewrite _ _ registry.edges
        rw [hkept.edges]
      rcases hended with ⟨_, _, hmiss⟩ | ⟨rfl, hrequests⟩
      · rcases hmiss with hmiss | hmiss
        · have hhit : Registry.isPendingEdge ceremony.edge.organisationId ceremony.edge.id
              ceremony.edge = true := decide_eq_true ⟨rfl, rfl, hpendingEdge⟩
          have hmem : ceremony.edge ∈ judged.edges := hkept.edges ▸ hread.edge
          exact absurd hhit (List.any_eq_false.mp hmiss _ hmem)
        · have hhit : Registry.isPendingRequest ceremony.edge.organisationId ceremony.request.id
              ceremony.request = true :=
            decide_eq_true ⟨rfl, hread.organisation.trans hread.edgeOrganisation.symm,
              hpendingRequest⟩
          have hmem : ceremony.request ∈ judged.requests := hkept.requests ▸ hread.request
          exact absurd hhit (List.any_eq_false.mp hmiss _ hmem)
      · refine ⟨rfl, hconsumptions, hedges', hkept.keys ▸ hkeys, ?_⟩
        rw [hrequests]
        show Table.rewrite _ _ judged.requests = Table.rewrite _ _ registry.requests
        rw [hkept.requests]

/-- A retry on the identity that this statement consumed converges, or writes nothing. -/
theorem converged_of_seen (hkept : registry.Kept judged)
    (hspend : judged.spend platform.digest organisationId ceremony fingerprint edgeKeyId now =
      some (registry', completion))
    {stored : ConsumptionRow δ} {edgeId : Uuid}
    (hpeek : registry.consumptions.peek organisationId
      (platform.digest ceremony.authorityIdentity) = some stored)
    (hfingerprint : stored.statementFingerprint = fingerprint)
    (href : stored.storedOutcomeRef = some edgeId.text) :
    (registry'.authorities = registry.authorities ∧ registry'.edges = registry.edges ∧
        registry'.requests = registry.requests ∧ registry'.keys = registry.keys) ∧
      registry'.consumptions =
        judged.spentConsumptions platform.digest organisationId ceremony fingerprint ∧
      (completion = .converged edgeId.text ∨
        (∃ refusal, completion = .refused refusal) ∧
          registry'.consumptions = registry.consumptions) := by
  have hpeek' : judged.consumptions.peek organisationId
      (platform.digest ceremony.authorityIdentity) = some stored := by
    rw [hkept.consumptions]
    exact hpeek
  have hfirst : judged.consumptions.consume (judged.consumption platform.digest organisationId
      ceremony fingerprint ceremony.authorityIdentity) =
        (judged.consumptions, .exactDuplicate edgeId.text) := by
    refine (consume_of_some hpeek').trans ?_
    show (_, ite (stored.statementFingerprint = fingerprint) _ _) = _
    rw [if_pos hfingerprint, href, Option.getD_some]
  rcases spend_cases hspend with ⟨rfl, hrefused, hbad⟩ | ⟨rfl, ref, hduplicate, rfl⟩ | ⟨hseen, _⟩
  · refine ⟨⟨hkept.authorities, hkept.edges, hkept.requests, hkept.keys⟩, rfl, .inr ⟨hrefused, ?_⟩⟩
    show ((judged.consumptions.consume (judged.consumption platform.digest organisationId
      ceremony fingerprint ceremony.authorityIdentity)).1.consume _).1 = _
    rw [hfirst] at hbad ⊢
    -- the identity of the authority is fine, so it is that of the challenge, which is not new
    cases hchallenge : judged.consumptions.peek organisationId
        (platform.digest ceremony.challengeIdentity) with
    | none =>
      have hnew : (judged.consumptions.consume (judged.consumption platform.digest organisationId
          ceremony fingerprint ceremony.challengeIdentity)).2 = .firstSeen :=
        consume_firstSeen hchallenge
      rw [hnew] at hbad
      have hvisible : Consumption.isConsistent (.exactDuplicate edgeId.text) = true := by
        rw [Consumption.isConsistent, edgeId.visible]
        rfl
      rw [hvisible] at hbad
      rcases hbad with hbad | hbad | hbad | hbad <;> cases hbad
    | some other =>
      have hold : judged.consumptions.consume (judged.consumption platform.digest organisationId
          ceremony fingerprint ceremony.challengeIdentity) = (judged.consumptions, _) :=
        consume_of_some hchallenge
      rw [hold]
      exact hkept.consumptions
  · rw [hfirst] at hduplicate
    cases hduplicate
    exact ⟨⟨hkept.authorities, hkept.edges, hkept.requests, hkept.keys⟩, rfl, .inl rfl⟩
  · rw [hfirst] at hseen
    cases hseen

/-- Spending the identities of one request keeps what is said of the others. -/
theorem Registry.Faithful.spent (hs : registry.Faithful platform log)
    (hdigest : Function.Injective platform.digest)
    (hchanges : Changes platform registry label registry' answer)
    (hread : ceremony.Read registry organisationId) (hkept : registry.Kept judged)
    (hconsumptions : registry'.consumptions =
      judged.spentConsumptions platform.digest organisationId ceremony fingerprint)
    (hrequests : registry'.requests = registry.requests ∨ registry'.requests =
      (registry.advanceRequest ceremony.edge.organisationId ceremony.request.id).2.requests)
    {stored : ConsumptionRow δ}
    (hself : registry'.consumptions.peek organisationId
      (platform.digest ceremony.authorityIdentity) = some stored)
    (href : stored.storedOutcomeRef = some ceremony.request.edgeId.text)
    (hheld : registry'.Held (log ++ [answer]) ceremony.request) :
    registry'.Faithful platform (log ++ [answer]) := by
  have hids := identities_of_read hs.linked hread
  obtain ⟨hforth, hback⟩ := same_of_advanceRequest hrequests
  have hpeek : ∀ other ∈ registry.requests, other ≠ ceremony.request → ∀ organisation identity,
      identity = other.authorityIdentity ∨
        (∃ challengeId nonce, identity = other.challengeIdentity challengeId nonce) →
      registry'.consumptions.peek organisation (platform.digest identity) =
        registry.consumptions.peek organisation (platform.digest identity) := by
    intro other hother hne organisation identity hidentity
    obtain ⟨hauthority, hchallenge⟩ := identities_ne hread.request hother hne
    rw [hconsumptions, ← hkept.consumptions]
    rcases hidentity with rfl | ⟨challengeId, nonce, rfl⟩
    · exact peek_spent_of_ne hdigest hids hauthority fun _ _ h => nomatch h
    · exact peek_spent_of_ne hdigest hids (fun h => nomatch h)
        fun challengeId' nonce' => hchallenge challengeId nonce challengeId' nonce'
  have hselfRequest : registry'.consumptions.peek ceremony.request.organisationId
      (platform.digest ceremony.request.authorityIdentity) = some stored := by
    rw [hread.organisation, ← hids.1]
    exact hself
  have hauthorityIdentity : ∀ {old new : RequestRow}, old.Same new →
      new.authorityIdentity = old.authorityIdentity := by
    intro old new hsame
    rw [RequestRow.authorityIdentity, RequestRow.authorityIdentity, hsame.organisationId,
      hsame.siteId, hsame.authorityId]
  have hchallengeIdentity : ∀ {old new : RequestRow}, old.Same new → ∀ challengeId nonce,
      new.challengeIdentity challengeId nonce = old.challengeIdentity challengeId nonce := by
    intro old new hsame challengeId nonce
    rw [RequestRow.challengeIdentity, RequestRow.challengeIdentity, hsame.organisationId,
      hsame.siteId, hsame.id]
  refine ⟨hs.linked.step hchanges, fun row hrow => ?_, fun request' hrequest' hnone => ?_,
    fun request' hrequest' stored' hsome => ?_⟩
  · have howned : ∃ request ∈ registry.requests, row.organisationId = request.organisationId ∧
        (row.replayIdentityDigest = platform.digest request.authorityIdentity ∨
          ∃ challengeId nonce, row.replayIdentityDigest =
            platform.digest (request.challengeIdentity challengeId nonce)) := by
      rw [hconsumptions] at hrow
      rcases mem_of_mem_consume hrow with hrow | rfl
      · rcases mem_of_mem_consume hrow with hrow | rfl
        · rw [hkept.consumptions] at hrow
          exact hs.owned row hrow
        · exact ⟨_, hread.request, hread.organisation.symm, .inl (congrArg _ hids.1)⟩
      · exact ⟨_, hread.request, hread.organisation.symm, .inr ⟨_, _, congrArg _ hids.2⟩⟩
    obtain ⟨request, hrequest, horganisation, hof⟩ := howned
    obtain ⟨request', hrequest', hsame⟩ := hforth request hrequest
    refine ⟨request', hrequest', horganisation.trans hsame.organisationId.symm, ?_⟩
    rcases hof with hof | ⟨challengeId, nonce, hof⟩
    · exact .inl (hof.trans (congrArg _ (hauthorityIdentity hsame).symm))
    · exact .inr ⟨challengeId, nonce,
        hof.trans (congrArg _ (hchallengeIdentity hsame challengeId nonce).symm)⟩
  · obtain ⟨request, hrequest, hsame⟩ := hback request' hrequest'
    rw [hauthorityIdentity hsame, hsame.organisationId] at hnone
    have hne : request ≠ ceremony.request := by
      rintro rfl
      rw [hselfRequest] at hnone
      cases hnone
    rw [hpeek request hrequest hne _ _ (.inl rfl)] at hnone
    obtain ⟨hpending, hchallenges⟩ := hs.unseen request hrequest hnone
    refine ⟨?_, fun challengeId nonce => ?_⟩
    · -- only the request of the ceremony advances
      rcases hrequests with hrequests | hrequests
      · rw [hrequests] at hrequest'
        rw [Table.eq_of_key registry.requests_id hrequest' hrequest hsame.id]
        exact hpending
      · rw [hrequests] at hrequest'
        obtain ⟨old, hold, rfl⟩ := Table.mem_rewrite.mp hrequest'
        by_cases hhit : Registry.isPendingRequest ceremony.edge.organisationId
            ceremony.request.id old = true
        · have hid : old.id = ceremony.request.id ∧ _ := of_decide_eq_true hhit
          have hsameId := hsame.id
          rw [if_pos hhit] at hsameId
          exact absurd (Table.eq_of_key registry.requests_id hrequest hread.request
            (hsameId.symm.trans hid.1)) hne
        · rw [if_neg hhit] at hsame ⊢
          rw [Table.eq_of_key registry.requests_id hold hrequest hsame.id]
          exact hpending
    · rw [hchallengeIdentity hsame, hsame.organisationId,
        hpeek request hrequest hne _ _ (.inr ⟨challengeId, nonce, rfl⟩)]
      exact hchallenges challengeId nonce
  · obtain ⟨request, hrequest, hsame⟩ := hback request' hrequest'
    rw [hauthorityIdentity hsame, hsame.organisationId] at hsome
    by_cases heq : request = ceremony.request
    · subst heq
      rw [hselfRequest] at hsome
      cases hsome
      exact ⟨by rw [href, hsame.edgeId], hheld.same hsame⟩
    · rw [hpeek request hrequest heq _ _ (.inl rfl)] at hsome
      obtain ⟨href', hheld'⟩ := hs.seen request hrequest stored' hsome
      exact ⟨by rw [href', hsame.edgeId], (hheld'.step hchanges).same hsame⟩

/-- A clear completion whose proof stands keeps the invariant, and answers truthfully. -/
theorem Registry.Faithful.completed (hs : registry.Faithful platform log)
    (hdigest : Function.Injective platform.digest)
    (hchanges : Changes platform registry label registry' (.completed completion))
    (hread : ceremony.Read registry organisationId) (hkept : registry.Kept judged)
    (hclear : ceremony.isClear platform registry organisationId = true)
    (hspend : judged.spend platform.digest organisationId ceremony
      (platform.possessionFingerprint ceremony.statement) edgeKeyId now =
        some (registry', completion)) :
    registry'.Faithful platform (log ++ [.completed completion]) ∧
      (∀ refusal, completion = .refused refusal → registry.Kept registry') ∧
      ∀ ref, completion = .converged ref → ∃ request ∈ registry.requests,
        request.edgeId.text = ref ∧ registry.Held log request := by
  have hids := identities_of_read hs.linked hread
  rw [Ceremony.isClear] at hclear
  split at hclear
  · rename_i hpeek
    obtain ⟨hconsumed, hpending⟩ := of_decide_eq_true hclear
    obtain ⟨rfl, hconsumptions, hedges, hkeys, hrequests⟩ :=
      enrolled_of_unseen hs hdigest hread hkept hspend hpeek hconsumed hpending
    refine ⟨?_, (fun _ h => nomatch h), fun _ h => nomatch h⟩
    have hpeekJudged : judged.consumptions.peek organisationId
        (platform.digest ceremony.authorityIdentity) = none := by
      rw [hkept.consumptions]
      exact hpeek
    have hself : registry'.consumptions.peek organisationId
        (platform.digest ceremony.authorityIdentity) =
          some (judged.consumption platform.digest organisationId ceremony
            (platform.possessionFingerprint ceremony.statement) ceremony.authorityIdentity) := by
      rw [hconsumptions]
      refine peek_consume_of_some ?_
      rw [peek_consume, hpeekJudged, Option.none_or]
      exact if_pos rfl
    refine hs.spent hdigest hchanges hread hkept hconsumptions (.inr hrequests) hself ?_ ?_
    · show some (judged.outcomeRef platform.digest organisationId ceremony) = _
      rw [Registry.outcomeRef, hpeekJudged, hread.edgeId]
      rfl
    · -- the Edge that was pending is active now, with the key just created
      have hhit : Registry.isPendingEdge ceremony.edge.organisationId ceremony.edge.id
          ceremony.edge = true := decide_eq_true ⟨rfl, rfl, hpending⟩
      have hedge : { ceremony.edge with
          enrolmentState := .active, edgeTrust := .trusted, activatedAt := some now } ∈
          registry'.edges := by
        rw [hedges]
        exact Table.mem_rewrite_of_hit hread.edge hhit
      refine ⟨log, edgeKeyId, [], by rw [hread.edgeId], _, hedge, hread.edgeId,
        hread.edgeOrganisation.trans hread.organisation.symm,
        .inl ⟨rfl, ceremony.key edgeKeyId now, ?_, rfl, rfl, rfl⟩⟩
      rw [hkeys]
      exact List.mem_append_right _ (List.mem_singleton_self _)
  · rename_i stored hpeek
    have hfingerprint := of_decide_eq_true hclear
    have hpeekRequest : registry.consumptions.peek ceremony.request.organisationId
        (platform.digest ceremony.request.authorityIdentity) = some stored := by
      rw [hread.organisation, ← hids.1]
      exact hpeek
    obtain ⟨href, hheld⟩ := hs.seen _ hread.request stored hpeekRequest
    obtain ⟨⟨hauthorities, hedges, hrequests, hkeys⟩, hconsumptions, hends⟩ :=
      converged_of_seen hkept hspend hpeek hfingerprint href
    have hself : registry'.consumptions.peek organisationId
        (platform.digest ceremony.authorityIdentity) = some stored := by
      rw [hconsumptions, Registry.spentConsumptions, hkept.consumptions]
      exact peek_consume_of_some (peek_consume_of_some hpeek)
    refine ⟨hs.spent hdigest hchanges hread hkept hconsumptions (.inl hrequests) hself href
      (hheld.step hchanges), fun refusal hrefused => ?_, fun ref hconverged => ?_⟩
    · rcases hends with rfl | ⟨_, hconsumptions'⟩
      · cases hrefused
      · exact ⟨hauthorities, hedges, hrequests, hkeys, hconsumptions'⟩
    · rcases hends with rfl | ⟨⟨refusal, rfl⟩, _⟩
      · cases hconverged
        exact ⟨_, hread.request, rfl, hheld⟩
      · cases hconverged

end Completion

/-- Every clear step keeps the invariant, and its answer is truthful. -/
theorem faithful_call (hdigest : Function.Injective platform.digest) {s s' : State δ}
    (hs : s.registry.Faithful platform log) (hclear : clear platform s label = true)
    (hcall : s.call platform label = some (s', answer)) :
    s'.registry.Faithful platform (log ++ [answer]) ∧
      (∀ refusal, answer = .completed (.refused refusal) → s.registry.Kept s'.registry) ∧
      ∀ ref, answer = .completed (.converged ref) → ∃ request ∈ s.registry.requests,
        request.edgeId.text = ref ∧ s.registry.Held log request := by
  have hchanges := changes_of_call hcall
  have hcopy := hchanges
  cases hchanges with
  | kept hkept hcompletion _ =>
    refine ⟨hs.quiet hcopy hkept.requests hkept.consumptions, fun _ _ => hkept, fun ref hanswer => ?_⟩
    obtain ⟨refusal, hrefused⟩ := hcompletion _ hanswer
    cases hrefused
  | issued _ _ _ hrequests _ hconsumptions | withdrawn _ _ hrequests _ hconsumptions =>
    exact ⟨hs.quiet hcopy hrequests hconsumptions, (fun _ h => nomatch h), fun _ h => nomatch h⟩
  | marked hquiet _ _ _ _ _ hrequests _ hconsumptions =>
    refine ⟨hs.quiet hcopy hrequests hconsumptions, fun _ h => ?_, fun _ h => ?_⟩
    all_goals rcases hquiet with hquiet | hquiet <;> cases hquiet.symm.trans h
  | requested _ _ hpending _ _ _ _ _ hfreshRequest hfreshAuthority _ _ hrequests _ hconsumptions =>
    exact ⟨hs.requested hdigest hcopy hpending hfreshRequest hfreshAuthority hrequests hconsumptions,
      (fun _ h => nomatch h), fun _ h => nomatch h⟩
  | completed hceremony hstands hkept hspend =>
    have hread := read_of_ceremony hceremony
    rw [clear, hceremony] at hclear
    dsimp only at hclear
    rw [hstands, Bool.not_true, Bool.false_or] at hclear
    obtain ⟨hfaithful, hrefused, hconverged⟩ := hs.completed hdigest hcopy hread hkept hclear hspend
    refine ⟨hfaithful, fun refusal h => ?_, fun ref h => ?_⟩
    · cases h
      exact hrefused refusal rfl
    · cases h
      exact hconverged ref rfl

def answers (platform : Platform δ) (labels : List Label) : List Answer :=
  Transition.trace (step platform) (answered platform) .init labels

theorem run_faithful (hdigest : Function.Injective platform.digest) {labels : List Label}
    {s : State δ} (hrun : Transition.run (step platform) .init labels = some s)
    (hall : Transition.RunAll (step platform) (clear platform · · = true) .init labels) :
    s.registry.Faithful platform (answers platform labels) := by
  have hstep : ∀ {s : State δ} {log label s'}, s.registry.Faithful platform log →
      clear platform s label = true → step platform s label = some s' →
      s'.registry.Faithful platform (log ++ (answered platform s label).toList) := by
    intro s log label s' hs hclear hstep
    obtain ⟨⟨next, answer⟩, hcall, rfl⟩ := Option.map_eq_some_iff.mp hstep
    rw [answered, hcall]
    exact (faithful_call hdigest hs hclear hcall).1
  exact Transition.runAll_trace_invariant (answered platform)
    (fun (s : State δ) log => s.registry.Faithful platform log) hstep faithful_empty hall hrun

/-- **Enrolment is atomic and truthful** in runs whose completions are clear: a refusal leaves the
tables, and an Edge that is converged on was enrolled and is active with a current key, unless it
was withdrawn since. -/
theorem enrolment_truthful (hdigest : Function.Injective platform.digest) {labels : List Label}
    {s s' : State δ} (hrun : Transition.run (step platform) .init labels = some s)
    (hall : Transition.RunAll (step platform) (clear platform · · = true) .init labels)
    (hclear : clear platform s label = true)
    (hcall : s.call platform label = some (s', answer)) :
    (∀ refusal, answer = .completed (.refused refusal) → s.registry.Kept s'.registry) ∧
      ∀ ref, answer = .completed (.converged ref) → ∃ edge ∈ s.registry.edges,
        edge.id.text = ref ∧ ∃ before edgeKeyId after,
          answers platform labels = before ++ .completed (.enrolled edge.id edgeKeyId 1) :: after ∧
          (edge.enrolmentState = .active ∧ (∃ key ∈ s.registry.keys, key.edgeId = edge.id ∧
              key.organisationId = edge.organisationId ∧ key.status = .current) ∨
            edge.enrolmentState = .withdrawn ∧ .withdrawn edge.id ∈ after) := by
  obtain ⟨_, hrefused, hconverged⟩ :=
    faithful_call hdigest (run_faithful hdigest hrun hall) hclear hcall
  refine ⟨hrefused, fun ref hanswer => ?_⟩
  obtain ⟨request, _, href, before, edgeKeyId, after, hlog, edge, hedge, hid, _, hstate⟩ :=
    hconverged ref hanswer
  exact ⟨edge, hedge, by rw [hid, href], before, edgeKeyId, after, by rw [hid, hlog], hstate⟩

end Invariant

/-- The retry of the completion above converges on the Edge that it enrolled. -/
theorem enrolment_truthful_retried :
    (enrolledState.call plainPlatform (completion "c" "l" 40)).map (·.2) =
        some (.completed (.converged "e")) ∧
      ∃ edge ∈ enrolledState.registry.edges, edge.id.text = "e" ∧ ∃ before edgeKeyId after,
        answers plainPlatform (challengedRun ++ [completion "c" "k" 30]) =
          before ++ .completed (.enrolled edge.id edgeKeyId 1) :: after ∧
        (edge.enrolmentState = .active ∧ (∃ key ∈ enrolledState.registry.keys,
            key.edgeId = edge.id ∧ key.organisationId = edge.organisationId ∧
              key.status = .current) ∨
          edge.enrolmentState = .withdrawn ∧ .withdrawn edge.id ∈ after) := by
  have hrun : Transition.run (step plainPlatform) .init
      (challengedRun ++ [completion "c" "k" 30]) = some enrolledState :=
    Transition.run_eq_some_getD (by decide)
  have hanswer : (enrolledState.call plainPlatform (completion "c" "l" 40)).map (·.2) =
      some (.completed (.converged "e")) := by decide
  obtain ⟨⟨s', answer⟩, hcall, hsame⟩ := Option.map_eq_some_iff.mp hanswer
  exact ⟨hanswer, (enrolment_truthful (fun _ _ h => h) hrun
    (Transition.runAll_of_checked (fun _ _ h => h) (by decide)) (by decide)
    hcall).2 "e" hsame⟩

/-- A probe at another site burns the authority between the request and the completion, whose
    refusal leaves both identities consumed. -/
def probedRun : List Label :=
  challengedRun ++ [.requestEnrolment
      { organisationId := "org", claimedSiteId := "elsewhere", authoritySecret := "secret"
        offeredPublicKey := "point" } edgeUuid "r" 25,
    completion "c" "k" 30]

theorem probed_retry_converges :
    ¬ ∀ (labels : List Label) (s s' : State ReplayIdentity) (label : Label) (answer : Answer),
      Transition.run (step plainPlatform) .init labels = some s →
      s.call plainPlatform label = some (s', answer) →
      (∀ refusal, answer = .completed (.refused refusal) → s.registry.Kept s'.registry) ∧
        ∀ ref, answer = .completed (.converged ref) → ∃ edge ∈ s.registry.edges,
          edge.id.text = ref ∧ ∃ before edgeKeyId after, answers plainPlatform labels =
            before ++ .completed (.enrolled edge.id edgeKeyId 1) :: after := by
  intro h
  have hrun : Transition.run (step plainPlatform) .init probedRun = some (stateAfter probedRun) :=
    Transition.run_eq_some_getD (by decide)
  have hanswer : ((stateAfter probedRun).call plainPlatform (completion "c" "l" 40)).map (·.2) =
      some (.completed (.converged "e")) := by decide
  obtain ⟨⟨s', answer⟩, hcall, hsame⟩ := Option.map_eq_some_iff.mp hanswer
  obtain ⟨edge, _, _, before, edgeKeyId, after, hlog⟩ :=
    (h probedRun _ s' _ answer hrun hcall).2 "e" hsame
  -- nothing was enrolled
  have hnone : ∀ answer ∈ answers plainPlatform probedRun,
      (match answer with | .completed (.enrolled _ _ _) => false | _ => true) = true := by
    decide
  have hmem : Answer.completed (.enrolled edge.id edgeKeyId 1) ∈ answers plainPlatform probedRun := by
    rw [hlog]
    exact List.mem_append_right _ List.mem_cons_self
  exact absurd (hnone _ hmem) Bool.false_ne_true

end Sentinel.EdgeRegistry
