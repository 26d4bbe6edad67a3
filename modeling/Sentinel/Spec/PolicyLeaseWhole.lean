import Mathlib.Data.Option.Basic
import Sentinel.ForStd.Except
import Sentinel.Native.PolicyLeaseCache
import Sentinel.Spec.OfflineOutboxInvariant

/-! # The cached lease and the crash

`remember` overwrites the nine keys of the previous lease one by one, and a process that dies on the
way leaves a mixture.  It cannot be read as long as every `remember` either leaves some key
unreadable, or has nothing left to change, or has changed nothing. -/

namespace Sentinel.PolicyLeaseCache

open JsonText (Json)
open KeyWrites (writes writes_of_mem writes_of_not_mem writes_eq_self writes_take_of_mem)
open OfflineOutbox (JsonCodec OfflineOutboxEntry Stored isBlank isWhitespace jsonString)
open Transition

/-! ## Fields -/

/-- The fields that are one text under one key: all but the scope. -/
def PolicyLease.texts (lease : PolicyLease) : List (String × String) :=
  [(keyLeaseId, lease.leaseId), (keyLeaseOrganisationId, lease.organisationId),
    (keyLeaseSiteId, lease.siteId), (keyLeaseDeviceId, lease.deviceId),
    (keyLeaseActorUserId, lease.actorUserId), (keyLeaseAuthorityBasisId, lease.authorityBasisId),
    (keyLeaseIssuedAt, lease.issuedAt), (keyLeaseExpiresAt, lease.expiresAt)]

variable {backing : KeyValueStore} {key : String} {codec : LeaseCodec} {lease : PolicyLease}

theorem PolicyLease.texts_keys (lease : PolicyLease) :
    lease.texts.map Prod.fst = persistableKeys.filter fun key => key ≠ keyLeaseScope := rfl

/-- No text of the lease has white space around it. -/
def PolicyLease.Trimmed (lease : PolicyLease) : Prop :=
  ∀ field ∈ lease.texts, trim field.2.toList = field.2.toList

instance (lease : PolicyLease) : Decidable lease.Trimmed :=
  inferInstanceAs (Decidable (∀ field ∈ lease.texts, _))

/-- What a key must hold for `read` to answer: a text that is not blank, and under the scope's key
    a scope with at least one kind. -/
def Readable (codec : LeaseCodec) (key : String) (value : Option String) : Prop :=
  ∃ text, value = some text ∧ isBlank text.toList = false ∧
    (key = keyLeaseScope → ∃ kinds, parseScope codec text = some kinds ∧ kinds ≠ [])

theorem readOrNull_eq_some {text : String} :
    readOrNull backing key = some text ↔ backing key = some text ∧ isBlank text.toList = false := by
  simp [readOrNull, Option.filter_eq_some_iff]

theorem read_eq_some : read codec backing = some lease ↔
      (∀ field ∈ lease.texts, readOrNull backing field.1 = some field.2) ∧
      readScope codec backing = some lease.scope ∧ lease.scope ≠ [] := by
  simp only [PolicyLease.texts, List.forall_mem_cons, List.not_mem_nil, false_implies, implies_true,
    and_true]
  constructor
  · intro h
    simp only [read, bind, pure, Option.bind_eq_some_iff, Option.guard_eq_some',
      Option.some.injEq] at h
    obtain ⟨leaseId, hlease, organisationId, horganisation, siteId, hsite, deviceId, hdevice,
      actorUserId, hactor, authorityBasisId, hbasis, issuedAt, hissued, expiresAt, hexpires,
      scope, hscope, -, hne, rfl⟩ := h
    exact ⟨⟨hlease, horganisation, hsite, hdevice, hactor, hbasis, hissued, hexpires⟩, hscope, hne⟩
  · rintro ⟨⟨hlease, horganisation, hsite, hdevice, hactor, hbasis, hissued, hexpires⟩, hscope, hne⟩
    simp only [read, bind, pure, hlease, horganisation, hsite, hdevice, hactor, hbasis, hissued,
      hexpires, hscope, Option.bind_some, Option.bind_eq_some_iff, Option.guard_eq_some']
    exact ⟨(), hne, trivial⟩

theorem readable_of_read (h : read codec backing = some lease) (hkey : key ∈ persistableKeys) :
    Readable codec key (backing key) := by
  obtain ⟨htexts, hscope, hne⟩ := read_eq_some.mp h
  by_cases hisScope : key = keyLeaseScope
  · subst hisScope
    simp only [readScope, bind, Option.bind_eq_some_iff] at hscope
    obtain ⟨text, htext, hparse⟩ := hscope
    obtain ⟨hheld, hblank⟩ := readOrNull_eq_some.mp htext
    exact ⟨text, hheld, hblank, fun _ => ⟨lease.scope, hparse, hne⟩⟩
  · -- any other key is that of a text
    have hfield : key ∈ lease.texts.map Prod.fst := by
      rw [PolicyLease.texts_keys]
      exact List.mem_filter.mpr ⟨hkey, decide_eq_true hisScope⟩
    obtain ⟨⟨_, text⟩, hmem, rfl⟩ := List.mem_map.mp hfield
    obtain ⟨hheld, hblank⟩ := readOrNull_eq_some.mp (htexts _ hmem)
    exact ⟨text, hheld, hblank, fun hscopeKey => absurd hscopeKey hisScope⟩

/-! ## The scope's text -/

theorem kindsOf_map_jsonString (scope : List String) : kindsOf (scope.map jsonString) = some scope := by
  induction scope with
  | nil => rfl
  | cons kind scope ih => simp [kindsOf, jsonString, ih]

theorem parseScope_encodeScope (codec : LeaseCodec) (scope : List String) :
    parseScope codec (encodeScope codec scope) = some scope := by
  have hvalid : (Json.array (scope.map jsonString)).Valid := by
    rw [Json.Valid, JsonText.validElements_iff]
    intro element helement
    obtain ⟨kind, -, rfl⟩ := List.mem_map.mp helement
    trivial
  rw [parseScope, encodeScope, String.toList_ofList, codec.parse_print _ hvalid]
  exact kindsOf_map_jsonString scope

theorem trim_of_ends {first last : Char} {inner : List Char} (hfirst : isWhitespace first = false)
    (hlast : isWhitespace last = false) :
    trim (first :: (inner ++ [last])) = first :: (inner ++ [last]) := by
  have hreverse : (first :: (inner ++ [last])).reverse = last :: (inner.reverse ++ [first]) := by
    simp
  rw [trim, List.dropWhile_cons_of_neg (by simp [hfirst]), hreverse,
    List.dropWhile_cons_of_neg (by simp [hlast]), ← hreverse, List.reverse_reverse]

theorem put_encodeScope (codec : LeaseCodec) (scope : List String) :
    put keyLeaseScope (encodeScope codec scope) =
      (keyLeaseScope, some (encodeScope codec scope)) := by
  obtain ⟨inner, hprint⟩ := codec.print_array (scope.map jsonString)
  have htrim : trim (encodeScope codec scope).toList = (encodeScope codec scope).toList := by
    rw [encodeScope, String.toList_ofList, hprint]
    exact trim_of_ends (by decide) (by decide)
  have hne : (encodeScope codec scope).toList ≠ [] := by
    rw [encodeScope, String.toList_ofList, hprint]
    exact List.cons_ne_nil _ _
  rw [put, htrim]
  simp only [if_neg hne, String.ofList_toList]

/-! ## Complete writes -/

theorem rememberWrites_keys (codec : LeaseCodec) (lease : PolicyLease) :
    (rememberWrites codec lease).map Prod.fst = persistableKeys := rfl

theorem nodup_keys (codec : LeaseCodec) (lease : PolicyLease) :
    ((rememberWrites codec lease).map Prod.fst).Nodup := by
  rw [rememberWrites_keys]
  decide

theorem key_mem_persistableKeys
    {value : Option String} (h : (key, value) ∈ rememberWrites codec lease) :
    key ∈ persistableKeys := by
  rw [← rememberWrites_keys codec lease]
  exact List.mem_map_of_mem h

theorem put_mem_rememberWrites (codec : LeaseCodec) {field : String × String}
    (h : field ∈ lease.texts) : put field.1 field.2 ∈ rememberWrites codec lease := by
  simp only [PolicyLease.texts, List.mem_cons, List.not_mem_nil, or_false] at h
  rcases h with rfl | rfl | rfl | rfl | rfl | rfl | rfl | rfl <;> simp [rememberWrites]

theorem scope_mem_rememberWrites (codec : LeaseCodec) (lease : PolicyLease) :
    (keyLeaseScope, some (encodeScope codec lease.scope)) ∈ rememberWrites codec lease := by
  rw [← put_encodeScope]
  simp [rememberWrites]

/-- A text without white space around it is stored as it is, where it is stored. -/
theorem put_of_readable {text : String}
    (htrimmed : trim text.toList = text.toList) (h : Readable codec key (put key text).2) :
    (put key text).2 = some text ∧ isBlank text.toList = false := by
  obtain ⟨held, hheld, hblank, -⟩ := h
  simp only [put, htrimmed, String.ofList_toList] at hheld ⊢
  split at hheld
  next => cases hheld
  next hne =>
    cases hheld
    exact ⟨if_neg hne, hblank⟩

/-- A store that holds what `remember` writes and reads at every key reads as the lease. -/
theorem read_of_written (htrimmed : lease.Trimmed)
    (hreadable : ∀ key ∈ persistableKeys, Readable codec key (backing key))
    (hwritten : ∀ key value, (key, value) ∈ rememberWrites codec lease → backing key = value) :
    read codec backing = some lease := by
  have hscopeHeld := hwritten _ _ (scope_mem_rememberWrites codec lease)
  obtain ⟨text, htext, hblank, hkinds⟩ := hreadable keyLeaseScope (by decide)
  obtain rfl : encodeScope codec lease.scope = text := Option.some.inj (hscopeHeld.symm.trans htext)
  obtain ⟨kinds, hparse, hne⟩ := hkinds rfl
  obtain rfl : lease.scope = kinds :=
    Option.some.inj ((parseScope_encodeScope codec lease.scope).symm.trans hparse)
  refine read_eq_some.mpr ⟨fun field hfield => ?_, ?_, hne⟩
  · have hmem := put_mem_rememberWrites codec hfield
    have hheld : backing field.1 = (put field.1 field.2).2 := hwritten _ _ hmem
    have hread := hreadable field.1 (key_mem_persistableKeys hmem)
    rw [hheld] at hread
    obtain ⟨hstored, hnotBlank⟩ := put_of_readable (htrimmed field hfield) hread
    exact readOrNull_eq_some.mpr ⟨hheld.trans hstored, hnotBlank⟩
  · rw [readScope, readOrNull_eq_some.mpr ⟨hscopeHeld, hblank⟩]
    exact parseScope_encodeScope codec lease.scope

/-! ## One call -/

/-- How a `remember` that makes its first `done` writes may leave the keys without mixing two
    leases.  The store is the one it starts from. -/
inductive LeavesWhole (codec : LeaseCodec) (backing : KeyValueStore) (lease : PolicyLease)
    (done : Nat) : Prop
  /-- A write that was made does not read. -/
  | unreadableWrite {key : String} {value : Option String}
      (hmade : (key, value) ∈ (rememberWrites codec lease).take done)
      (hread : ¬ Readable codec key value)
  /-- A key that was not reached does not read. -/
  | unreadableKey {key : String} {value : Option String}
      (hmissing : (key, value) ∈ (rememberWrites codec lease).drop done)
      (hread : ¬ Readable codec key (backing key))
  /-- Nothing is missing, and nothing of the lease is trimmed away. -/
  | complete (htrimmed : lease.Trimmed)
      (hmissing : ∀ key value, (key, value) ∈ (rememberWrites codec lease).drop done →
        backing key = value)
  /-- Nothing was changed. -/
  | unchanged
      (hmade : ∀ key value, (key, value) ∈ (rememberWrites codec lease).take done →
        backing key = value)

/-- An interrupted `remember` that leaves the keys whole: no lease, the new one or the old one. -/
theorem read_remember {done : Nat} (h : LeavesWhole codec backing lease done) :
    read codec (remember codec backing (some lease) done) = none ∨
      read codec (remember codec backing (some lease) done) = some lease ∨
      read codec (remember codec backing (some lease) done) = read codec backing := by
  have hnodup := nodup_keys codec lease
  have hsplit := List.take_append_drop done (rememberWrites codec lease)
  -- the keys written and the keys missing are apart
  have hparts := hnodup
  rw [← hsplit, List.map_append] at hparts
  cases hread : read codec (remember codec backing (some lease) done) with
  | none => exact Or.inl rfl
  | some answer =>
    have hreadable : ∀ key ∈ persistableKeys,
        Readable codec key (remember codec backing (some lease) done key) :=
      fun key hkey => readable_of_read hread hkey
    cases h with
    | @unreadableWrite key value hmade hnot =>
      have hkey : key ∈ persistableKeys :=
        key_mem_persistableKeys (List.mem_of_mem_take hmade)
      have := hreadable _ hkey
      rw [remember, writes_of_mem hparts.of_append_left hmade] at this
      exact absurd this hnot
    | @unreadableKey key value hmissing hnot =>
      have hdropped : key ∈ ((rememberWrites codec lease).drop done).map Prod.fst :=
        List.mem_map_of_mem hmissing
      have hkey : key ∈ persistableKeys :=
        key_mem_persistableKeys (List.mem_of_mem_drop hmissing)
      have hunreached : key ∉ ((rememberWrites codec lease).take done).map Prod.fst :=
        fun hmade => List.disjoint_of_nodup_append hparts hmade hdropped
      have := hreadable _ hkey
      rw [remember, writes_of_not_mem hunreached] at this
      exact absurd this hnot
    | complete htrimmed hmissing =>
      have hwritten : ∀ key value, (key, value) ∈ rememberWrites codec lease →
          remember codec backing (some lease) done key = value :=
        fun key value hmem => writes_take_of_mem hnodup hmissing hmem
      exact Or.inr (Or.inl (hread.symm.trans (read_of_written htrimmed hreadable hwritten)))
    | unchanged hmade =>
      have hsame : remember codec backing (some lease) done = backing := writes_eq_self hmade
      rw [hsame] at hread
      exact Or.inr (Or.inr hread.symm)

/-- The id goes first, so an interrupted `forget` has forgotten or has done nothing. -/
theorem read_forget (codec : LeaseCodec) (backing : KeyValueStore) (done : Nat) :
    read codec (forget backing done) = none ∨
      read codec (forget backing done) = read codec backing := by
  cases done with
  | zero => exact Or.inr rfl
  | succ done =>
    refine Or.inl ?_
    have hremoved : forget backing (done + 1) keyLeaseId = none := by
      have hnodup : (forgetWrites.map Prod.fst).Nodup := by decide
      rw [← List.take_append_drop (done + 1) forgetWrites, List.map_append] at hnodup
      exact writes_of_mem hnodup.of_append_left (List.mem_cons_self ..)
    have hread : readOrNull (forget backing (done + 1)) keyLeaseId = none := by
      rw [readOrNull, hremoved]
      rfl
    rw [read, hread]
    rfl

/-! ## Runs -/

/-- A `remember` of a lease leaves the keys whole; nothing is asked of any other call. -/
def StepLeavesWhole (codec : LeaseCodec) (s : CacheState) : CacheEvent → Prop
  | .remember (some lease) done => LeavesWhole codec s.backing lease done
  | .remember none _ => True
  | .forget _ => True

def CacheState.Whole (codec : LeaseCodec) (s : CacheState) : Prop :=
  read codec s.backing = none ∨ ∃ lease ∈ s.remembered, read codec s.backing = some lease

theorem CacheState.Whole.of_read {s s' : CacheState} (h : s.Whole codec)
    (hremembered : ∀ lease ∈ s.remembered, lease ∈ s'.remembered)
    (hread : read codec s'.backing = none ∨ read codec s'.backing = read codec s.backing) :
    s'.Whole codec := by
  rcases hread with hnone | hsame
  · exact Or.inl hnone
  · rcases h with hnone | ⟨lease, hmem, hlease⟩
    · exact Or.inl (hsame.trans hnone)
    · exact Or.inr ⟨lease, hremembered lease hmem, hsame.trans hlease⟩

theorem CacheState.Whole.step {s : CacheState} {event : CacheEvent}
    {s' : CacheState} (h : s.Whole codec) (hwhole : StepLeavesWhole codec s event)
    (hstep : cacheStep codec s event = some s') : s'.Whole codec := by
  cases event with
  | forget done =>
    cases hstep
    exact h.of_read (fun lease hmem => hmem) (read_forget codec s.backing done)
  | remember lease done =>
    cases hstep
    have hkept : ∀ kept ∈ s.remembered, kept ∈ s.remembered ++ lease.toList :=
      fun kept hmem => List.mem_append_left _ hmem
    cases lease with
    | none => exact h.of_read hkept (read_forget codec s.backing done)
    | some lease =>
      rcases read_remember hwhole with hnone | hnew | hsame
      · exact Or.inl hnone
      · exact Or.inr ⟨lease, List.mem_append_right _ (List.mem_singleton_self _), hnew⟩
      · exact h.of_read hkept (Or.inr hsame)

/-- A store without the cache's keys. -/
def Fresh (backing : KeyValueStore) : Prop := ∀ key ∈ persistableKeys, backing key = none

theorem Fresh.whole (h : Fresh backing) : CacheState.Whole codec ⟨backing, []⟩ := by
  have hread : readOrNull backing keyLeaseId = none := by
    rw [readOrNull, h keyLeaseId (by decide)]
    rfl
  refine Or.inl ?_
  rw [read, hread]
  rfl

/-! ## What is queued -/

/-- The lease covers the operation: actor, identity, kind and instant. -/
structure Covers (parseOrNull : String → Option Int) (lease : PolicyLease)
    (operation : OfferedOperation) : Prop where
  actorUserId : lease.actorUserId = operation.actorUserId
  organisationId : lease.organisationId = operation.organisationId
  siteId : lease.siteId = operation.siteId
  deviceId : lease.deviceId = operation.deviceId
  operationKind : operation.operationKind ∈ lease.scope
  window : ∃ issued expires, parseOrNull lease.issuedAt = some issued ∧
    parseOrNull lease.expiresAt = some expires ∧ issued ≤ operation.now ∧ operation.now < expires

theorem standingAt_inForce {parseOrNull : String → Option Int} {now : Int}
    (h : lease.standingAt parseOrNull now = .inForce) :
    ∃ issued expires, parseOrNull lease.issuedAt = some issued ∧
      parseOrNull lease.expiresAt = some expires ∧ issued ≤ now ∧ now < expires := by
  unfold PolicyLease.standingAt at h
  split at h
  next issued expires hissued hexpires =>
    split at h
    next => cases h
    next hbegun =>
      split at h
      next hopen => exact ⟨issued, expires, hissued, hexpires, by omega, hopen⟩
      next => cases h
  next => cases h

theorem covers_of_leaseRefusal {parseOrNull : String → Option Int} {granted : PolicyLease}
    {operation : OfferedOperation} (h : leaseRefusal parseOrNull granted operation = none) :
    Covers parseOrNull granted operation := by
  unfold leaseRefusal at h
  split at h
  next => cases h
  next hactor =>
    split at h
    next => cases h
    next hidentity =>
      split at h
      next => cases h
      next hpermits =>
        simp only [not_or, not_not] at hactor hidentity
        have hkind : operation.operationKind ∈ granted.scope := by
          simpa [PolicyLease.permits] using hpermits
        split at h
        next hstanding =>
          exact ⟨hactor, hidentity.1, hidentity.2.1, hidentity.2.2, hkind,
            standingAt_inForce hstanding⟩
        next => cases h
        next => cases h
        next => cases h

theorem enqueue_built {codec : JsonCodec} {maxDepth : Nat} {writable : Bool} {stored : Stored}
    {id : String} {build : Int → Option OfflineOutboxEntry} {entry : OfflineOutboxEntry}
    {outcome : OfflineOutbox.OfflineEnqueueOutcome}
    (h : (OfflineOutbox.enqueue codec maxDepth writable stored id build).1 =
      .ok ⟨outcome, some entry⟩) : ∃ sequence, build sequence = some entry := by
  unfold OfflineOutbox.enqueue at h
  split at h
  next => cases h
  next snapshot hload =>
    split at h
    next => cases h
    next =>
      split at h
      next => cases h
      next =>
        dsimp only at h
        split at h
        next => cases h
        next =>
          split at h
          next => cases h
          next built hbuild =>
            -- the two `require`s and the write keep the entry that was built
            split at h
            next => cases h
            next =>
              split at h
              next => cases h
              next =>
                split at h
                next => cases h
                next =>
                  cases h
                  exact ⟨_, hbuild⟩

/-- What `offer` queues is built from the lease it was given, which covers the operation. -/
theorem offer_queued {codec : JsonCodec} {maxDepth : Nat} {writable : Bool}
    {parseOrNull : String → Option Int} {stored : Stored} {operation : OfferedOperation}
    {lease : Option PolicyLease} {build : PolicyLease → Int → Option OfflineOutboxEntry}
    {outcome : LocalAdmissionOutcome} {entry : OfflineOutboxEntry}
    (h : (offer codec maxDepth writable parseOrNull stored operation lease build).1 =
      .ok ⟨outcome, some entry⟩) :
    ∃ granted sequence, lease = some granted ∧ build granted sequence = some entry ∧
      Covers parseOrNull granted operation := by
  cases lease with
  | none => cases h
  | some granted =>
    unfold offer at h
    dsimp only at h
    split at h
    next => cases h
    next hrefusal =>
      obtain ⟨answer, hanswer, heq⟩ := Except.map_eq_ok.mp h
      obtain ⟨outcome', entry'⟩ := answer
      cases heq
      obtain ⟨sequence, hbuild⟩ := enqueue_built hanswer
      exact ⟨granted, sequence, rfl, hbuild, covers_of_leaseRefusal hrefusal⟩

/-- **The cached lease is whole** in every run whose calls to `remember` leave the keys whole,
wherever the process died: `read` answers no lease or one that was remembered. -/
theorem cached_lease_whole (codec : LeaseCodec) {backing : KeyValueStore} {events : List CacheEvent}
    {s : CacheState} (hfresh : Fresh backing)
    (hwhole : RunAll (cacheStep codec) (StepLeavesWhole codec) ⟨backing, []⟩ events)
    (hrun : run (cacheStep codec) ⟨backing, []⟩ events = some s) :
    (read codec s.backing = none ∨ ∃ lease ∈ s.remembered, read codec s.backing = some lease) ∧
    ∀ maxDepth writable parseOrNull stored operation build outcome entry,
      (offer codec.toJsonCodec maxDepth writable parseOrNull stored operation
        (read codec s.backing) build).1 = .ok ⟨outcome, some entry⟩ →
      ∃ lease ∈ s.remembered, ∃ sequence, build lease sequence = some entry ∧
        Covers parseOrNull lease operation := by
  have hread : s.Whole codec :=
    runAll_invariant CacheState.Whole.step hfresh.whole hwhole hrun
  refine ⟨hread, fun maxDepth writable parseOrNull stored operation build outcome entry hoffer => ?_⟩
  obtain ⟨granted, sequence, hlease, hbuild, hcovers⟩ := offer_queued hoffer
  rcases hread with hnone | ⟨lease, hmem, hsome⟩
  · rw [hnone] at hlease
    cases hlease
  · obtain rfl : lease = granted := Option.some.inj (hsome.symm.trans hlease)
    exact ⟨lease, hmem, sequence, hbuild, hcovers⟩

namespace Sample

/-- A lease for two kinds, until the instant `9`. -/
def first : PolicyLease where
  leaseId := "l1"
  organisationId := "o"
  siteId := "s"
  deviceId := "d"
  actorUserId := "u"
  authorityBasisId := "b"
  scope := ["A", "B"]
  issuedAt := "1"
  expiresAt := "9"

/-- The next lease, for one of the kinds and until the instant `5`. -/
def second : PolicyLease := { first with leaseId := "l2", scope := ["A"], expiresAt := "5" }

/-- The second lease under the first one's scope and expiry, as nobody issued it. -/
def chimera : PolicyLease := { first with leaseId := "l2" }

/-- The store of a new installation. -/
def empty : KeyValueStore := fun _ => none

/-- Instants are the numbers of one digit. -/
def parseOrNull (text : String) : Option Int := Decimal.value text.toList

/-- An operation of the kind that only the first lease covers, after the second one has expired. -/
def operation : OfferedOperation := ⟨"op", "B", "o", "s", "u", "d", 7⟩

/-- The builder signs under the id of the lease it is given. -/
def build (lease : PolicyLease) (sequence : Int) : Option OfflineOutboxEntry :=
  some { OfflineOutbox.Sample.entryAt "op" sequence with policyLeaseId := lease.leaseId }

/-- The second lease is being remembered over the first when the process dies. -/
def died : CacheState :=
  ⟨remember compactCodec (remember compactCodec empty (some first) 9) (some second) 1,
    [first, second]⟩

/-- A death after the first write over an empty store, a complete lease, and another one cut short
    before its first write. -/
def events : List CacheEvent :=
  [.remember (some second) 1, .remember (some first) 9, .remember (some second) 0]

/-- The site's key is among those not reached, and holds nothing. -/
theorem leavesWhole_first_write : LeavesWhole compactCodec empty second 1 := by
  have hmissing : (keyLeaseSiteId, some "s") ∈ (rememberWrites compactCodec second).drop 1 := by
    decide
  refine .unreadableKey hmissing ?_
  rintro ⟨text, htext, -⟩
  cases htext

theorem read_died : read compactCodec died.backing = some chimera := by
  decide +kernel

end Sample

/-- The process dies after the first write of the second lease: `read` answers its id with the scope
and the expiry of the first. -/
theorem cached_lease_mixed :
    run (cacheStep compactCodec) ⟨Sample.empty, []⟩
      [.remember (some Sample.first) 9, .remember (some Sample.second) 1] = some Sample.died ∧
    read compactCodec Sample.died.backing = some Sample.chimera ∧
    Sample.chimera ∉ Sample.died.remembered ∧
    (∃ entry, (offer compactCodec.toJsonCodec 256 true Sample.parseOrNull none Sample.operation
        (read compactCodec Sample.died.backing) Sample.build).1 = .ok ⟨.queued, some entry⟩ ∧
      entry.policyLeaseId = Sample.second.leaseId) ∧
    Sample.second.permits Sample.operation.operationKind = false ∧
    Sample.second.standingAt Sample.parseOrNull Sample.operation.now = .expired := by
  refine ⟨rfl, Sample.read_died, by decide, ?_, by decide, by decide⟩
  rw [Sample.read_died]
  exact ⟨{ OfflineOutbox.Sample.entryAt "op" 0 with policyLeaseId := "l2" }, rfl, rfl⟩

/-- The cache after a death that leaves keys unread, a complete lease and a death before any write. -/
theorem cached_lease_whole_run :
    ∃ s, run (cacheStep compactCodec) ⟨Sample.empty, []⟩ Sample.events = some s ∧
      ((read compactCodec s.backing = none ∨
        ∃ lease ∈ s.remembered, read compactCodec s.backing = some lease) ∧
      ∀ maxDepth writable parseOrNull stored operation build outcome entry,
        (offer compactCodec.toJsonCodec maxDepth writable parseOrNull stored operation
          (read compactCodec s.backing) build).1 = .ok ⟨outcome, some entry⟩ →
        ∃ lease ∈ s.remembered, ∃ sequence, build lease sequence = some entry ∧
          Covers parseOrNull lease operation) := by
  have hfresh : Fresh Sample.empty := fun _ _ => rfl
  have hwhole : RunAll (cacheStep compactCodec) (StepLeavesWhole compactCodec) ⟨Sample.empty, []⟩
      Sample.events := by
    refine ⟨?_, fun t ht => ⟨?_, fun u hu => ⟨?_, fun _ _ => trivial⟩⟩⟩
    · exact Sample.leavesWhole_first_write
    · exact .complete (by decide) fun key value hmem => by cases hmem
    · exact .unchanged fun key value hmem => by cases hmem
  exact ⟨_, rfl, cached_lease_whole compactCodec hfresh hwhole rfl⟩

end Sentinel.PolicyLeaseCache
