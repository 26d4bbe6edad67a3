import Sentinel.ForStd.Transition
import Sentinel.Native.EdgeRegistry

/-! # What the Edge ceremony can do

What a completion has read, what its consumptions leave, and what each call of the service does
to the tables.  The proofs about runs use these and do not look into the service again. -/

namespace Sentinel.EdgeRegistry

open DeviceReplay

/-! ## Lookups -/

section Lookups

variable {δ : Type} {registry : Registry δ} {organisationId : String}

theorem mem_of_findAuthority {authorityId : String} {row : AuthorityRow}
    (h : registry.findAuthority organisationId authorityId = some row) :
    row ∈ registry.authorities ∧ row.organisationId = organisationId ∧ row.id = authorityId :=
  Table.of_find? h

theorem mem_of_findAuthorityByDigest {secretDigest : String} {row : AuthorityRow}
    (h : registry.findAuthorityByDigest organisationId secretDigest = some row) :
    row ∈ registry.authorities ∧ row.organisationId = organisationId := by
  have hmatch := List.find?_some h
  exact ⟨List.mem_of_find?_eq_some h, (of_decide_eq_true hmatch).1⟩

theorem mem_of_findRequest {requestId : String} {row : RequestRow}
    (h : registry.findRequest organisationId requestId = some row) :
    row ∈ registry.requests ∧ row.organisationId = organisationId ∧ row.id = requestId :=
  Table.of_find? h

theorem mem_of_findChallenge {challengeId : String} {row : ChallengeRow}
    (h : registry.findChallenge organisationId challengeId = some row) :
    row ∈ registry.challenges ∧ row.organisationId = organisationId ∧ row.id = challengeId :=
  Table.of_find? h

theorem mem_of_findEdge {edgeId : Uuid} {row : EdgeRow}
    (h : registry.findEdge organisationId edgeId = some row) :
    row ∈ registry.edges ∧ row.organisationId = organisationId ∧ row.id = edgeId :=
  Table.of_find? h

end Lookups

section Ceremonies

variable {δ : Type} {registry : Registry δ} {ceremony : Ceremony} {input : CompleteInput} {now : Int}

structure Ceremony.Read (ceremony : Ceremony) (registry : Registry δ) (organisationId : String) :
    Prop where
  request : ceremony.request ∈ registry.requests
  challenge : ceremony.challenge ∈ registry.challenges
  authority : ceremony.authority ∈ registry.authorities
  edge : ceremony.edge ∈ registry.edges
  bound : ceremony.challenge.enrolmentRequestId = ceremony.request.id
  authorityId : ceremony.authority.id = ceremony.request.authorityId
  edgeId : ceremony.edge.id = ceremony.request.edgeId
  organisation : ceremony.request.organisationId = organisationId
  edgeOrganisation : ceremony.edge.organisationId = organisationId
  authorityOrganisation : ceremony.authority.organisationId = organisationId

theorem read_of_ceremony (h : registry.ceremony input now = .ok ceremony) :
    ceremony.Read registry input.organisationId := by
  rw [Registry.ceremony] at h
  split at h
  · cases h
  · rename_i request hrequest
    split at h
    · cases h
    · rename_i challenge hchallenge
      split at h
      · cases h
      · rename_i hbound
        split at h
        · cases h
        · split at h
          · cases h
          · rename_i authority hauthority
            split at h
            · cases h
            · rename_i edge hedge
              cases h
              obtain ⟨hrequest, horganisation, _⟩ := mem_of_findRequest hrequest
              obtain ⟨hauthority, horganisation', hauthorityId⟩ := mem_of_findAuthority hauthority
              obtain ⟨hedge, horganisation'', hedgeId⟩ := mem_of_findEdge hedge
              exact
                { request := hrequest
                  challenge := (mem_of_findChallenge hchallenge).1
                  authority := hauthority
                  edge := hedge
                  bound := not_not.mp hbound
                  authorityId := hauthorityId
                  edgeId := hedgeId
                  organisation := horganisation
                  edgeOrganisation := horganisation''
                  authorityOrganisation := horganisation' }

end Ceremonies

/-! ## Tables that stay -/

section Kept

variable {δ : Type}

/-- The edge rows, the registry keys, the authorities and the replay identities are the same, and
    so are the requests. -/
structure Registry.Kept (registry registry' : Registry δ) : Prop where
  authorities : registry'.authorities = registry.authorities
  edges : registry'.edges = registry.edges
  requests : registry'.requests = registry.requests
  keys : registry'.keys = registry.keys
  consumptions : registry'.consumptions = registry.consumptions

theorem Registry.Kept.refl (registry : Registry δ) : registry.Kept registry :=
  ⟨rfl, rfl, rfl, rfl, rfl⟩

theorem kept_recordVerdict (registry : Registry δ) (organisationId : String) (ceremony : Ceremony)
    (fingerprint : String) (verified : Bool) (now : Int) :
    registry.Kept (registry.recordVerdict organisationId ceremony fingerprint verified now) := by
  rw [Registry.recordVerdict]
  split <;> exact ⟨rfl, rfl, rfl, rfl, rfl⟩

theorem kept_createChallenge {registry registry' : Registry δ} {row : ChallengeRow}
    (h : registry.createChallenge row = some registry') : registry.Kept registry' := by
  rw [Registry.createChallenge] at h
  split at h
  · cases h
    exact ⟨rfl, rfl, rfl, rfl, rfl⟩
  · cases h

end Kept

/-! ## The effects of a completion -/

section Enrol

variable {δ : Type} {registry registry' : Registry δ} {ceremony : Ceremony} {edgeKeyId : String}
  {now : Int} {completion : Completion}

/-- How the effects of a completion end. -/
inductive Registry.Enrols (registry : Registry δ) (ceremony : Ceremony) (edgeKeyId : String)
    (now : Int) : Registry δ → Completion → Prop
  | burned (consumed : registry.authorities.any (Registry.isUnconsumed ceremony.authority.id) = false) :
      Enrols registry ceremony edgeKeyId now registry (.refused .authorityAlreadyConsumed)
  | keyed {registry' : Registry δ} {completion : Completion}
      (unconsumed : registry.authorities.any (Registry.isUnconsumed ceremony.authority.id) = true)
      (consumptions : registry'.consumptions = registry.consumptions)
      (authorities : registry'.authorities =
        (registry.markAuthorityConsumed ceremony.authority.id now).2.authorities)
      (keys : registry'.keys = registry.keys ++ [ceremony.key edgeKeyId now])
      (edges : registry'.edges =
        (registry.activateEdge ceremony.edge.organisationId ceremony.edge.id now).2.edges)
      (requests : registry'.requests = registry.requests ∨ registry'.requests =
        (registry.advanceRequest ceremony.edge.organisationId ceremony.request.id).2.requests)
      (ended : (∃ refusal, completion = .refused refusal ∧
          ((registry.edges.any
              (Registry.isPendingEdge ceremony.edge.organisationId ceremony.edge.id) = false) ∨
            registry.requests.any (Registry.isPendingRequest ceremony.edge.organisationId
              ceremony.request.id) = false)) ∨
        completion = .enrolled ceremony.edge.id edgeKeyId 1 ∧ registry'.requests =
          (registry.advanceRequest ceremony.edge.organisationId ceremony.request.id).2.requests) :
      Enrols registry ceremony edgeKeyId now registry' completion

theorem createKey_eq_some {row : KeyRow} (h : registry.createKey row = some registry') :
    registry' = { registry with keys := registry.keys ++ [row] } := by
  rw [Registry.createKey] at h
  split at h
  · exact (Option.some.inj h).symm
  · cases h

/-- An update that hits no row leaves the table. -/
theorem activateEdge_of_miss {organisationId : String} {edgeId : Uuid}
    (h : registry.edges.any (Registry.isPendingEdge organisationId edgeId) = false) :
    (registry.activateEdge organisationId edgeId now).2.edges = registry.edges :=
  Table.rewrite_of_forall_miss fun row hrow => by
    simpa using List.any_eq_false.mp h row hrow

theorem enrols_of_enrol
    (h : registry.enrol ceremony edgeKeyId now = some (registry', completion)) :
    registry.Enrols ceremony edgeKeyId now registry' completion := by
  rw [Registry.enrol] at h
  split at h
  · rename_i hmark
    cases h
    exact .burned (Prod.mk.inj hmark).1
  · rename_i hmark
    obtain ⟨hunconsumed, rfl⟩ := Prod.mk.inj hmark
    obtain ⟨keyed, hkey, h⟩ := Option.bind_eq_some_iff.mp h
    obtain rfl := createKey_eq_some hkey
    split at h
    · rename_i hactivate
      have hmiss := (Prod.mk.inj hactivate).1
      cases h
      exact .keyed hunconsumed rfl rfl rfl (activateEdge_of_miss hmiss).symm (.inl rfl)
        (.inl ⟨_, rfl, .inl hmiss⟩)
    · rename_i hactivate
      obtain ⟨_, rfl⟩ := Prod.mk.inj hactivate
      split at h
      · rename_i hadvance
        cases h
        exact .keyed hunconsumed rfl rfl rfl rfl (.inl rfl)
          (.inl ⟨_, rfl, .inr (Prod.mk.inj hadvance).1⟩)
      · rename_i hadvance
        obtain ⟨_, rfl⟩ := Prod.mk.inj hadvance
        cases h
        exact .keyed hunconsumed rfl rfl rfl rfl (.inr rfl) (.inr ⟨rfl, rfl⟩)

end Enrol

section Spend

variable {δ : Type} [DecidableEq δ] {registry registry' : Registry δ} {ceremony : Ceremony}
  {digest : ReplayIdentity → δ} {organisationId fingerprint edgeKeyId : String} {now : Int}
  {completion : Completion} {stored : ConsumptionRow δ}

/-- The two consumptions of a completion. -/
def Registry.spentConsumptions (registry : Registry δ) (digest : ReplayIdentity → δ)
    (organisationId : String) (ceremony : Ceremony) (fingerprint : String) : Consumptions δ :=
  let row := registry.consumption digest organisationId ceremony fingerprint
  ((registry.consumptions.consume (row ceremony.authorityIdentity)).1.consume
    (row ceremony.challengeIdentity)).1

/-- How a completion whose proof stands ends. -/
theorem spend_cases
    (h : registry.spend digest organisationId ceremony fingerprint edgeKeyId now =
      some (registry', completion)) :
    let row := registry.consumption digest organisationId ceremony fingerprint
    let authority := registry.consumptions.consume (row ceremony.authorityIdentity)
    let challenge := authority.1.consume (row ceremony.challengeIdentity)
    let spent := { registry with
      consumptions := registry.spentConsumptions digest organisationId ceremony fingerprint }
    (registry' = spent ∧ (∃ refusal, completion = .refused refusal) ∧
        (authority.2.isConsistent = false ∨ authority.2 = .reusedWithChangedSemantics ∨
          challenge.2.isConsistent = false ∨ challenge.2 = .reusedWithChangedSemantics)) ∨
      (registry' = spent ∧ ∃ ref, authority.2 = .exactDuplicate ref ∧ completion = .converged ref) ∨
      (authority.2 = .firstSeen ∧ spent.Enrols ceremony edgeKeyId now registry' completion) := by
  intro row authority challenge spent
  rw [Registry.spend] at h
  split at h
  · rename_i hinconsistent
    cases h
    exact .inl ⟨rfl, ⟨_, rfl⟩, .inl (by simpa using hinconsistent)⟩
  · split at h
    · rename_i hreused
      cases h
      exact .inl ⟨rfl, ⟨_, rfl⟩, .inr (.inl hreused)⟩
    · rename_i hreused
      split at h
      · rename_i hinconsistent
        cases h
        exact .inl ⟨rfl, ⟨_, rfl⟩, .inr (.inr (.inl (by simpa using hinconsistent)))⟩
      · split at h
        · rename_i hreused
          cases h
          exact .inl ⟨rfl, ⟨_, rfl⟩, .inr (.inr (.inr hreused))⟩
        · split at h
          · rename_i ref hduplicate
            cases h
            exact .inr (.inl ⟨rfl, ref, hduplicate, rfl⟩)
          · rename_i hother
            refine .inr (.inr ⟨?_, enrols_of_enrol h⟩)
            cases hfirst : authority.2 with
            | firstSeen => rfl
            | exactDuplicate ref => exact absurd hfirst (hother ref)
            | reusedWithChangedSemantics => exact absurd hfirst hreused

end Spend

/-! ## The calls -/

section Calls

variable {δ : Type} [DecidableEq δ] (platform : Platform δ)

/-- What an update of authorities keeps. -/
structure AuthorityRow.Kept (row row' : AuthorityRow) : Prop where
  id : row'.id = row.id
  organisationId : row'.organisationId = row.organisationId
  siteId : row'.siteId = row.siteId
  expiresAt : row'.expiresAt = row.expiresAt
  consumed : row.consumedAt ≠ none → row'.consumedAt ≠ none
  revoked : row.revokedAt ≠ none → row'.revokedAt ≠ none

/-- What the calls do to the tables. -/
inductive Changes (registry : Registry δ) : Label → Registry δ → Answer → Prop
  | kept {label : Label} {registry' : Registry δ} {answer : Answer} (kept : registry.Kept registry')
      (completion : ∀ completion, answer = .completed completion →
        ∃ refusal, completion = .refused refusal)
      (withdrawal : ∀ edgeId, answer ≠ .withdrawn edgeId) : Changes registry label registry' answer
  | issued {label : Label} {registry' : Registry δ} {row : AuthorityRow}
      (fresh : ∀ old ∈ registry.authorities, old.id ≠ row.id)
      (authorities : registry'.authorities = registry.authorities ++ [row])
      (edges : registry'.edges = registry.edges) (requests : registry'.requests = registry.requests)
      (keys : registry'.keys = registry.keys)
      (consumptions : registry'.consumptions = registry.consumptions) :
      Changes registry label registry' .issued
  | marked {label : Label} {registry' : Registry δ} {answer : Answer}
      (quiet : answer = .revoked ∨ answer = .refused .authoritySiteMismatch)
      (p : AuthorityRow → Bool) (f : AuthorityRow → AuthorityRow) (keeps : ∀ row : AuthorityRow, row.Kept (f row))
      (authorities : registry'.authorities = Table.rewrite p f registry.authorities)
      (edges : registry'.edges = registry.edges) (requests : registry'.requests = registry.requests)
      (keys : registry'.keys = registry.keys)
      (consumptions : registry'.consumptions = registry.consumptions) :
      Changes registry label registry' answer
  | requested {label : Label} {registry' : Registry δ} {authority : AuthorityRow} {edge : EdgeRow}
      {request : RequestRow} (authority_mem : authority ∈ registry.authorities)
      (pendingEdge : edge.enrolmentState = .pending) (pendingRequest : request.state = .pending)
      (edgeId : edge.id = request.edgeId) (authorityId : request.authorityId = authority.id)
      (organisations : authority.organisationId = request.organisationId ∧
        edge.organisationId = request.organisationId)
      (sites : authority.siteId = request.siteId ∧ edge.siteId = request.siteId)
      (freshEdge : ∀ old ∈ registry.edges, old.id ≠ edge.id)
      (freshRequest : ∀ old ∈ registry.requests, old.id ≠ request.id)
      (freshAuthority : ∀ old ∈ registry.requests,
        (old.organisationId, old.authorityId) ≠ (request.organisationId, request.authorityId))
      (authorities : registry'.authorities = registry.authorities)
      (edges : registry'.edges = registry.edges ++ [edge])
      (requests : registry'.requests = registry.requests ++ [request])
      (keys : registry'.keys = registry.keys)
      (consumptions : registry'.consumptions = registry.consumptions) :
      Changes registry label registry' (.requested edge.id)
  | completed {input : CompleteInput} {edgeKeyId : String} {now : Int} {ceremony : Ceremony}
      {judged registry' : Registry δ} {completion : Completion}
      (read : registry.ceremony input now = .ok ceremony)
      (stands : registry.possessionStands input.organisationId ceremony
        (platform.possessionFingerprint ceremony.statement)
        (platform.verifySignature ceremony.request.offeredPublicKey ceremony.statement
          input.signature) = true)
      (kept : registry.Kept judged)
      (spend : judged.spend platform.digest input.organisationId ceremony
        (platform.possessionFingerprint ceremony.statement) edgeKeyId now =
          some (registry', completion)) :
      Changes registry (.completeEnrolment input edgeKeyId now) registry' (.completed completion)
  | withdrawn {label : Label} {registry' : Registry δ} {organisationId : String} {edgeId : Uuid}
      {now : Int} (authorities : registry'.authorities = registry.authorities)
      (edges : registry'.edges = (registry.withdrawEdge organisationId edgeId now).2.edges)
      (requests : registry'.requests = registry.requests)
      (keys : registry'.keys = (registry.revokeKeys organisationId edgeId now).keys)
      (consumptions : registry'.consumptions = registry.consumptions) :
      Changes registry label registry' (.withdrawn edgeId)

variable {platform} {registry registry' : Registry δ} {answer : Answer}

/-- An answer that is a refusal, with the tables as they were. -/
theorem changes_refused (label : Label) (refusal : Refusal) :
    Changes platform registry label registry (.refused refusal) :=
  .kept (.refl registry) (fun _ h => nomatch h) (fun _ h => nomatch h)

theorem kept_consumed (now : Int) (row : AuthorityRow) :
    row.Kept { row with consumedAt := some now } :=
  ⟨rfl, rfl, rfl, rfl, (fun _ h => nomatch h), id⟩

theorem kept_revoked (now : Int) (row : AuthorityRow) :
    row.Kept { row with revokedAt := some now } :=
  ⟨rfl, rfl, rfl, rfl, id, fun _ h => nomatch h⟩

theorem changes_issue {principal : Principal} {organisationId siteId secret authorityId : String}
    {organisationExists siteExists : Bool} {now : Int} (label : Label)
    (h : registry.issueEnrolmentAuthority platform principal organisationId siteId secret authorityId
      organisationExists siteExists now = some (registry', answer)) :
    Changes platform registry label registry' answer := by
  rw [Registry.issueEnrolmentAuthority] at h
  split at h
  · cases h
    exact changes_refused label _
  · split at h
    · cases h
      exact changes_refused label _
    · split at h
      · cases h
        exact changes_refused label _
      · obtain ⟨created, hcreate, h⟩ := Option.map_eq_some_iff.mp h
        cases h
        rw [Registry.createAuthority] at hcreate
        split at hcreate
        · rename_i hfresh
          cases hcreate
          exact .issued hfresh.1 rfl rfl rfl rfl rfl
        · cases hcreate

theorem changes_revoke {principal : Principal} {organisationId authorityId : String} {now : Int}
    (label : Label)
    (h : registry.revokeEnrolmentAuthority principal organisationId authorityId now =
      (registry', answer)) : Changes platform registry label registry' answer := by
  rw [Registry.revokeEnrolmentAuthority] at h
  split at h
  · cases h
    exact changes_refused label _
  · split at h
    · cases h
      exact changes_refused label _
    · split at h
      · rename_i hrevoke
        obtain ⟨_, rfl⟩ := Prod.mk.inj hrevoke
        cases h
        exact .marked (.inl rfl) (Registry.isUnspent organisationId authorityId)
          (fun row => { row with revokedAt := some now }) (kept_revoked now) rfl rfl rfl rfl rfl
      · cases h
        exact changes_refused label _

theorem changes_request {input : RequestInput} {edgeId : Uuid} {requestId : String} {now : Int}
    (label : Label)
    (h : registry.requestEnrolment platform input edgeId requestId now = some (registry', answer)) :
    Changes platform registry label registry' answer := by
  rw [Registry.requestEnrolment] at h
  split at h
  · cases h
    exact changes_refused label _
  · rename_i authority hauthority
    obtain ⟨hmem, _⟩ := mem_of_findAuthorityByDigest hauthority
    split at h
    · cases h
      exact changes_refused label _
    · cases h
      exact changes_refused label _
    · cases h
      exact changes_refused label _
    · cases h
      exact changes_refused label _
    · split at h
      · cases h
        exact .marked (.inr rfl) _ _ (kept_consumed now) rfl rfl rfl rfl rfl
      · split at h
        · cases h
          exact changes_refused label _
        · obtain ⟨pending, hedge, h⟩ := Option.bind_eq_some_iff.mp h
          obtain ⟨requested, hrequest, h⟩ := Option.bind_eq_some_iff.mp h
          cases h
          rw [Registry.createEdge] at hedge
          split at hedge
          · rename_i hfreshEdge
            cases hedge
            rw [Registry.createRequest] at hrequest
            split at hrequest
            · rename_i hfresh
              cases hrequest
              exact .requested hmem rfl rfl rfl rfl ⟨rfl, rfl⟩ ⟨rfl, rfl⟩ hfreshEdge hfresh.1
                hfresh.2.1 rfl rfl rfl rfl rfl
            · cases hrequest
          · cases hedge

theorem changes_complete {input : CompleteInput} {edgeKeyId : String} {now : Int}
    {completion : Completion}
    (h : registry.completeEnrolment platform input edgeKeyId now = some (registry', completion)) :
    Changes platform registry (.completeEnrolment input edgeKeyId now) registry'
      (.completed completion) := by
  rw [Registry.completeEnrolment] at h
  split at h
  · cases h
    exact .kept (.refl registry) (fun _ hsame => ⟨_, by cases hsame; rfl⟩) (fun _ h => nomatch h)
  · rename_i ceremony hceremony
    have hkept := kept_recordVerdict registry input.organisationId ceremony
      (platform.possessionFingerprint ceremony.statement)
      (platform.verifySignature ceremony.request.offeredPublicKey ceremony.statement
        input.signature) now
    simp only at h
    split at h
    · rename_i hstands
      exact .completed hceremony hstands hkept h
    · cases h
      exact .kept hkept (fun _ hsame => ⟨_, by cases hsame; rfl⟩) (fun _ h => nomatch h)

theorem changes_withdraw {principal : Principal} {organisationId : String} {edgeId : Uuid}
    {now : Int} (label : Label)
    (h : registry.withdraw principal organisationId edgeId now = (registry', answer)) :
    Changes platform registry label registry' answer := by
  rw [Registry.withdraw] at h
  split at h
  · cases h
    exact changes_refused label _
  · split at h
    · cases h
      exact changes_refused label _
    · split at h
      · rename_i hwithdraw
        obtain ⟨_, rfl⟩ := Prod.mk.inj hwithdraw
        cases h
        exact .withdrawn rfl rfl rfl rfl rfl
      · cases h
        exact changes_refused label _

/-- What a step does to the tables. -/
theorem changes_of_call {s s' : State δ} {label : Label}
    (h : s.call platform label = some (s', answer)) :
    Changes platform s.registry label s'.registry answer := by
  cases label with
  | issueEnrolmentAuthority =>
    obtain ⟨⟨registry', _⟩, hcall, h⟩ := Option.map_eq_some_iff.mp h
    cases h
    exact changes_issue _ hcall
  | revokeEnrolmentAuthority =>
    cases h
    exact changes_revoke _ rfl
  | requestEnrolment =>
    obtain ⟨⟨registry', _⟩, hcall, h⟩ := Option.map_eq_some_iff.mp h
    cases h
    exact changes_request _ hcall
  | readRequest organisationId requestId =>
    rw [State.call] at h
    split at h
    · cases h
      exact changes_refused _ _
    · split at h
      · cases h
        exact changes_refused _ _
      · cases h
        exact .kept (.refl _) (fun _ h => nomatch h) (fun _ h => nomatch h)
  | createChallenge i challengeId nonce now =>
    obtain ⟨request, _, h⟩ := Option.bind_eq_some_iff.mp h
    obtain ⟨registry', hcreate, h⟩ := Option.bind_eq_some_iff.mp h
    cases h
    exact .kept (kept_createChallenge hcreate) (fun _ h => nomatch h) (fun _ h => nomatch h)
  | completeEnrolment =>
    obtain ⟨⟨registry', completion⟩, hcall, h⟩ := Option.map_eq_some_iff.mp h
    cases h
    exact changes_complete hcall
  | withdrawEdge =>
    cases h
    exact changes_withdraw _ rfl

end Calls

end Sentinel.EdgeRegistry
