import Sentinel.ForStd.List
import Sentinel.Spec.DeviceGatewaySteps

/-! # A device operation takes effect once -/

namespace Sentinel.DeviceGateway

open DeviceReplay Consumptions DeviceRequestProof

def DomainEffect.isOf (effect : DomainEffect) (claim : Claim) : Prop :=
  effect.identity = claim.identity ∧ effect.statementFingerprint = claim.prepared.fingerprint ∧
    effect.domainIdempotencyKey = claim.domainIdempotencyKey

def Claim.named (claim : Claim) : Prop := claim.organisationId = claim.identity.organisationId

/-- Nothing is stored for the identity of a claim. -/
def Claim.isNew (claim : Claim) (consumptions : Consumptions ReplayKey) : Prop :=
  consumptions.peek claim.organisationId (.requestProof claim.identity) = none

/-- What holds of the `i`th presentation where it stands. -/
def Phase.Sound (i : Nat) (consumptions : Consumptions ReplayKey) (effects : List DomainEffect) :
    Phase → Prop
  | .proceeding claim => claim.named
  | .claimed claim | .applied claim => claim.named ∧ claim.isNew consumptions
  | .converging claim storedOutcomeRef =>
    ∃ effect ∈ effects, effect.identity = claim.identity ∧
      effect.statementFingerprint = claim.prepared.fingerprint ∧
      effect.domainIdempotencyKey = storedOutcomeRef
  | .resolved claim | .converged claim => ∃ effect ∈ effects, effect.isOf claim
  | .committed claim => ∃ effect ∈ effects, effect.presentation = i ∧ effect.isOf claim
  | _ => True

structure Inv (s : State) : Prop where
  owned : ∀ row ∈ s.consumptions.rows, ∀ identity, row.replayIdentityDigest = .requestProof identity →
    ∃ effect ∈ s.effects, effect.identity = identity ∧
      effect.statementFingerprint = row.statementFingerprint ∧
      row.storedOutcomeRef = some effect.domainIdempotencyKey
  spent : ∀ effect ∈ s.effects, ∃ row ∈ s.consumptions.rows,
    row.replayIdentityDigest = .requestProof effect.identity ∧
      row.organisationId = effect.identity.organisationId
  once : (s.effects.map (·.identity)).Nodup
  presented : ∀ effect ∈ s.effects, s.presentations[effect.presentation]? = some .failed ∨
    ∃ claim, s.presentations[effect.presentation]? = some (.committed claim)
  sound : ∀ (i : Nat) (phase : Phase), s.presentations[i]? = some phase →
    phase.Sound i s.consumptions s.effects
  /-- Identities inserted and not committed differ. -/
  alone : ∀ (i j : Nat) (phase other : Phase) (claim claim' : Claim), i ≠ j →
    s.presentations[i]? = some phase → s.presentations[j]? = some other → phase.inserted? = some claim →
    other.inserted? = some claim' → claim.consumptionRow.key ≠ claim'.consumptionRow.key

theorem inv_initial (contexts : List ContextRow) (db : DeviceRegistry.Db) :
    Inv (State.initial contexts db) where
  owned _ h := nomatch h
  spent _ h := nomatch h
  once := List.nodup_nil
  presented _ h := nomatch h
  sound _ _ h := nomatch h
  alone _ _ _ _ _ _ _ h := nomatch h

section Steps

variable {s s' : State} {platform : Platform} {label : Label} {i j : Nat} {phase phase' : Phase}
  {claim : Claim} {consumptions consumptions' : Consumptions ReplayKey}
  {effects effects' : List DomainEffect}

/-! ## A presentation by itself -/

theorem Moves.running (h : Moves s phase phase') : phase.isOver = false := by
  cases h with
  | refuse _ _ running | fail _ running => exact running
  | prepare | proceed | converge | claims | overtaken | applies | resolves | converges => rfl

/-- An identity that was consumed on this very statement has its effect. -/
theorem effect_of_duplicate (hs : Inv s) {storedOutcomeRef : String}
    (h : classify claim.prepared.fingerprint (s.stored claim) = .exactDuplicate storedOutcomeRef) :
    ∃ effect ∈ s.effects, effect.identity = claim.identity ∧
      effect.statementFingerprint = claim.prepared.fingerprint ∧
      effect.domainIdempotencyKey = storedOutcomeRef := by
  cases hstored : s.stored claim with
  | none =>
    rw [hstored] at h
    cases h
  | some row =>
    obtain ⟨hmem, hkey⟩ := peek_eq_some hstored
    obtain ⟨effect, heffect, hidentity, hfingerprint, href⟩ :=
      hs.owned row hmem claim.identity (Prod.mk.inj hkey).2
    rw [hstored, classify] at h
    split at h
    · rename_i hsame
      rw [href, Option.getD_some] at h
      cases h
      exact ⟨effect, heffect, hidentity, hfingerprint.trans hsame, rfl⟩
    · cases h

theorem Moves.sound (hs : Inv s) (hmoves : Moves s phase phase')
    (h : phase.Sound i s.consumptions s.effects) : phase'.Sound i s.consumptions s.effects := by
  cases hmoves with
  | prepare | refuse | fail => exact trivial
  | proceed claim named => exact named
  | converge claim storedOutcomeRef _ _ duplicate => exact effect_of_duplicate hs duplicate
  | claims claim new => exact ⟨h, new⟩
  | overtaken claim storedOutcomeRef duplicate => exact effect_of_duplicate hs duplicate
  | applies | converges => exact h
  | resolves claim => exact h

theorem Moves.inserted (hmoves : Moves s phase phase') (h : phase'.inserted? = some claim) :
    phase.inserted? = some claim ∨ s.blocksInsert claim = false := by
  cases hmoves with
  | claims claim' _ alone =>
    cases h
    exact .inr alone
  | applies => exact .inl h
  | prepare | refuse | fail | proceed | converge | overtaken | resolves | converges => cases h

theorem ne_of_blocksInsert {other : Phase} {claim' : Claim} (h : s.blocksInsert claim = false)
    (hj : s.presentations[j]? = some other) (hinserted : other.inserted? = some claim') :
    claim.consumptionRow.key ≠ claim'.consumptionRow.key := by
  intro hkey
  have hall := List.any_eq_false.mp h other (List.mem_of_getElem? hj)
  rw [hinserted, Option.any_some] at hall
  exact hall (decide_eq_true hkey.symm)

/-- What holds of a presentation holds with more effects, and while its identity is not consumed
    under it. -/
theorem Phase.Sound.mono (h : phase.Sound i consumptions effects)
    (heffects : ∀ effect ∈ effects, effect ∈ effects')
    (hnew : ∀ claim, phase.inserted? = some claim → claim.isNew consumptions →
      claim.isNew consumptions') : phase.Sound i consumptions' effects' := by
  cases phase with
  | proceeding claim => exact h
  | claimed claim | applied claim => exact ⟨h.1, hnew claim rfl h.2⟩
  | converging claim storedOutcomeRef =>
    obtain ⟨effect, heffect, hof⟩ := h
    exact ⟨effect, heffects effect heffect, hof⟩
  | resolved claim | converged claim | committed claim =>
    obtain ⟨effect, heffect, hof⟩ := h
    exact ⟨effect, heffects effect heffect, hof⟩
  | received | declined | ready | refused | failed => exact trivial

/-! ## The steps -/

theorem getElem?_moves (h : (s.moves i phase').presentations[j]? = some phase) :
    j = i ∧ phase = phase' ∨ j ≠ i ∧ s.presentations[j]? = some phase := by
  have hset : (s.presentations.set i phase')[j]? = some phase := h
  rw [List.getElem?_set] at hset
  by_cases hij : i = j
  · rw [if_pos hij] at hset
    split at hset
    · exact .inl ⟨hij.symm, (Option.some.inj hset).symm⟩
    · cases hset
  · rw [if_neg hij] at hset
    exact .inr ⟨Ne.symm hij, hset⟩

theorem getElem?_moves_of_ne (hne : j ≠ i) :
    (s.moves i phase').presentations[j]? = s.presentations[j]? :=
  List.getElem?_set_ne (Ne.symm hne)

theorem presentation_ne (hs : Inv s) (hfound : s.presentations[i]? = some phase)
    (hrunning : phase.isOver = false) : ∀ effect ∈ s.effects, effect.presentation ≠ i := by
  rintro effect heffect rfl
  rcases hs.presented effect heffect with hfailed | ⟨claim, hcommitted⟩
  · rw [hfound] at hfailed
    cases hfailed
    cases hrunning
  · rw [hfound] at hcommitted
    cases hcommitted
    cases hrunning

theorem inv_presents (hs : Inv s) (hnew : phase.inserted? = none)
    (hsound : ∀ i, phase.Sound i s.consumptions s.effects) :
    Inv { s with presentations := s.presentations ++ [phase] } := by
  have hget : ∀ {j : Nat} {other : Phase}, (s.presentations ++ [phase])[j]? = some other →
      s.presentations[j]? = some other ∨ other = phase := by
    intro j other h
    rw [List.getElem?_append] at h
    split at h
    · exact .inl h
    · exact .inr (List.mem_singleton.mp (List.mem_of_getElem? h))
  have hold : ∀ {j : Nat} {other : Phase}, s.presentations[j]? = some other →
      (s.presentations ++ [phase])[j]? = some other := by
    intro j other h
    rw [List.getElem?_append_left (List.getElem?_eq_some_iff.mp h).1]
    exact h
  refine ⟨hs.owned, hs.spent, hs.once, ?_, ?_, ?_⟩
  · intro effect heffect
    rcases hs.presented effect heffect with hfailed | ⟨claim, hcommitted⟩
    · exact .inl (hold hfailed)
    · exact .inr ⟨claim, hold hcommitted⟩
  · intro j other hj
    rcases hget hj with hj | rfl
    · exact hs.sound j other hj
    · exact hsound j
  · intro j k other other' claim claim' hne hj hk hinserted hinserted'
    rcases hget hj with hj | rfl
    · rcases hget hk with hk | rfl
      · exact hs.alone j k other other' claim claim' hne hj hk hinserted hinserted'
      · rw [hnew] at hinserted'
        cases hinserted'
    · rw [hnew] at hinserted
      cases hinserted

theorem inv_moves (hs : Inv s) (hfound : s.presentations[i]? = some phase)
    (hmoves : Moves s phase phase') : Inv (s.moves i phase') := by
  refine ⟨hs.owned, hs.spent, hs.once, ?_, ?_, ?_⟩
  · intro effect heffect
    rw [getElem?_moves_of_ne (presentation_ne hs hfound hmoves.running effect heffect)]
    exact hs.presented effect heffect
  · intro j other hj
    rcases getElem?_moves hj with ⟨rfl, rfl⟩ | ⟨_, hj⟩
    · have hafter : other.Sound j s.consumptions s.effects :=
        hmoves.sound hs (hs.sound j phase hfound)
      exact hafter
    · exact hs.sound j other hj
  · intro j k other other' claim claim' hne hj hk hinserted hinserted'
    rcases getElem?_moves hj with ⟨rfl, rfl⟩ | ⟨_, hj'⟩
    · rcases getElem?_moves hk with ⟨rfl, _⟩ | ⟨_, hk⟩
      · exact absurd rfl hne
      · rcases hmoves.inserted hinserted with hbefore | hblocked
        · exact hs.alone _ k phase other' claim claim' hne hfound hk hbefore hinserted'
        · exact ne_of_blocksInsert hblocked hk hinserted'
    · rcases getElem?_moves hk with ⟨rfl, rfl⟩ | ⟨_, hk'⟩
      · rcases hmoves.inserted hinserted' with hbefore | hblocked
        · exact hs.alone j _ other phase claim claim' hne hj' hfound hinserted hbefore
        · exact (ne_of_blocksInsert hblocked hj' hinserted).symm
      · exact hs.alone j k other other' claim claim' hne hj' hk' hinserted hinserted'

theorem inv_lands (hs : Inv s) (hfound : s.presentations[i]? = some (.applied claim))
    (hanswered : phase' = .committed claim ∨ phase' = .failed) :
    Inv ((s.lands i claim).moves i phase') := by
  obtain ⟨hnamed, hnew⟩ : claim.named ∧ claim.isNew s.consumptions := hs.sound _ _ hfound
  have hinserted : phase'.inserted? = none := by
    rcases hanswered with rfl | rfl <;> rfl
  have hrow : claim.consumptionRow ∈ (s.consumptions.consume claim.consumptionRow).1.rows :=
    mem_consume_self hnew
  -- no other effect has this identity: it would have been consumed
  have hfresh : ∀ effect ∈ s.effects, effect.identity ≠ claim.identity := by
    intro effect heffect hidentity
    obtain ⟨row, hmem, hdigest, horganisation⟩ := hs.spent effect heffect
    refine key_ne_of_peek_eq_none hnew row hmem ?_
    rw [ConsumptionRow.key, hdigest, horganisation, hidentity, ← hnamed]
  have hpeek : ∀ {other : Claim}, other.consumptionRow.key ≠ claim.consumptionRow.key →
      other.isNew s.consumptions →
      other.isNew (s.consumptions.consume claim.consumptionRow).1 := by
    intro other hne hother
    rw [Claim.isNew, peek_consume_of_ne]
    · exact hother
    · intro hkey
      exact hne hkey.symm
  refine ⟨?_, ?_, ?_, ?_, ?_, ?_⟩
  · intro row hmem identity hdigest
    rcases mem_of_mem_consume hmem with hmem | rfl
    · obtain ⟨effect, heffect, hof⟩ := hs.owned row hmem identity hdigest
      exact ⟨effect, List.mem_append_left _ heffect, hof⟩
    · refine ⟨_, List.mem_append_right _ (List.mem_singleton.mpr rfl), ?_, rfl, rfl⟩
      exact ReplayKey.requestProof.inj hdigest
  · intro effect heffect
    rcases List.of_mem_concat heffect with heffect | rfl
    · obtain ⟨row, hmem, hof⟩ := hs.spent effect heffect
      exact ⟨row, mem_consume_of_mem hmem, hof⟩
    · exact ⟨claim.consumptionRow, hrow, rfl, hnamed⟩
  · exact Table.nodup_map_concat hs.once hfresh
  · intro effect heffect
    rcases List.of_mem_concat heffect with heffect | rfl
    · have hne := presentation_ne hs hfound rfl effect heffect
      rw [getElem?_moves_of_ne hne]
      exact hs.presented effect heffect
    · have hset : ((s.lands i claim).moves i phase').presentations[i]? = some phase' :=
        List.getElem?_set_self (List.getElem?_eq_some_iff.mp hfound).1
      rcases hanswered with rfl | rfl
      · exact .inr ⟨claim, hset⟩
      · exact .inl hset
  · intro j other hj
    rcases getElem?_moves hj with ⟨rfl, rfl⟩ | ⟨hne, hj⟩
    · rcases hanswered with rfl | rfl
      · exact ⟨_, List.mem_append_right _ (List.mem_singleton.mpr rfl), rfl, rfl, rfl, rfl⟩
      · exact trivial
    · have hsound : other.Sound j s.consumptions s.effects := hs.sound j other hj
      refine hsound.mono (fun effect heffect => List.mem_append_left _ heffect) ?_
      intro other' hother' hisNew
      exact hpeek (hs.alone j i other _ other' claim hne hj hfound hother' rfl) hisNew
  · intro j k other other' claim' claim'' hne hj hk hinserted' hinserted''
    rcases getElem?_moves hj with ⟨rfl, rfl⟩ | ⟨_, hj⟩
    · rw [hinserted] at hinserted'
      cases hinserted'
    · rcases getElem?_moves hk with ⟨rfl, rfl⟩ | ⟨_, hk⟩
      · rw [hinserted] at hinserted''
        cases hinserted''
      · exact hs.alone j k other other' claim' claim'' hne hj hk hinserted' hinserted''

theorem inv_elsewhere (hs : Inv s) {row : ConsumptionRow ReplayKey} {key : String}
    (hother : row.replayIdentityDigest = .other key) :
    Inv { s with consumptions := (s.consumptions.consume row).1 } := by
  refine ⟨?_, ?_, hs.once, hs.presented, ?_, hs.alone⟩
  · intro row' hmem identity hdigest
    rcases mem_of_mem_consume hmem with hmem | rfl
    · exact hs.owned row' hmem identity hdigest
    · rw [hother] at hdigest
      cases hdigest
  · intro effect heffect
    obtain ⟨row', hmem, hof⟩ := hs.spent effect heffect
    exact ⟨row', mem_consume_of_mem hmem, hof⟩
  · intro j phase hj
    refine (hs.sound j phase hj).mono (fun _ h => h) ?_
    intro claim _ hnew
    rw [Claim.isNew, peek_consume_of_ne]
    · exact hnew
    · intro hkey
      have hdigest : row.replayIdentityDigest = .requestProof claim.identity := (Prod.mk.inj hkey).2
      rw [hother] at hdigest
      cases hdigest

theorem inv_change (hs : Inv s) (h : Change s s') : Inv s' := by
  cases h with
  | presents phase new =>
    rcases new with rfl | ⟨request, rfl⟩
    · exact inv_presents hs rfl fun _ => trivial
    · exact inv_presents hs rfl fun _ => trivial
  | moves i phase phase' found moves => exact inv_moves hs found moves
  | lands i claim phase found answered => exact inv_lands hs found answered
  | environment contexts db =>
    exact ⟨hs.owned, hs.spent, hs.once, hs.presented, hs.sound, hs.alone⟩
  | elsewhere row key other => exact inv_elsewhere hs other

theorem inv_step (hs : Inv s) (h : step platform s label = some s') : Inv s' :=
  inv_change hs (step_change h)

/-! ## Behind a fence -/

/-- The `i`th presentation was refused, and nothing is of it. -/
def Turned (i : Nat) (s : State) : Prop :=
  (∃ refusal, s.presentations[i]? = some (.refused refusal)) ∧
    ∀ effect ∈ s.effects, effect.presentation ≠ i

/-- A refused presentation stays refused. -/
theorem turned_step (hs : Turned i s) (h : step platform s label = some s') : Turned i s' := by
  obtain ⟨⟨refusal, hrefused⟩, hnone⟩ := hs
  cases step_change h with
  | presents phase new =>
    refine ⟨⟨refusal, ?_⟩, hnone⟩
    rw [List.getElem?_append_left (List.getElem?_eq_some_iff.mp hrefused).1]
    exact hrefused
  | moves j phase phase' found moves =>
    have hne : i ≠ j := by
      rintro rfl
      rw [found] at hrefused
      cases hrefused
      cases moves.running
    exact ⟨⟨refusal, by rw [getElem?_moves_of_ne hne, hrefused]⟩, hnone⟩
  | lands j claim phase found answered =>
    have hne : i ≠ j := by
      rintro rfl
      rw [found] at hrefused
      cases hrefused
    refine ⟨⟨refusal, by rw [getElem?_moves_of_ne hne]; exact hrefused⟩, ?_⟩
    intro effect heffect
    rcases List.of_mem_concat heffect with heffect | rfl
    · exact hnone effect heffect
    · exact Ne.symm hne
  | environment contexts db => exact ⟨⟨refusal, hrefused⟩, hnone⟩
  | elsewhere row key other => exact ⟨⟨refusal, hrefused⟩, hnone⟩

/-- A transaction that takes its locks behind a fence is refused. -/
theorem turned_lock {prepared : Prepared} {actor : Option ActorFacts} {now : Int} (hs : Inv s)
    (hready : s.presentations[i]? = some (.ready prepared))
    (hfenced : fenced s.contexts s.db prepared = true)
    (h : step platform s (.lock i actor now) = some s') : Turned i s' := by
  simp only [step, hready] at h
  split at h
  · cases h
  cases h
  constructor
  · have hset : ∀ phase, (s.moves i phase).presentations[i]? = some phase := fun phase =>
      List.getElem?_set_self (List.getElem?_eq_some_iff.mp hready).1
    cases hdecided : decideUnderLock platform s.contexts s.consumptions prepared
        { db := s.db, actor, now, verified := prepared.verified } with
    | error refusal => exact ⟨refusal, hset _⟩
    | ok decided =>
      obtain ⟨_, _, hunfenced, _⟩ := decideUnderLock_ok hdecided
      rw [hfenced] at hunfenced
      cases hunfenced
  · have hnone := presentation_ne hs hready rfl
    exact hnone

end Steps

/-- What a run of presentations leaves. -/
structure ExactlyOnce (platform : Platform) (initial : State) (labels : List Label) (s : State) :
    Prop where
  /-- At most one effect of each one-shot identity, so of at most one statement. -/
  one_effect : (s.effects.map (·.identity)).Nodup
  /-- The identity of a proof is consumed exactly where its effect is committed, on the statement
      and for the key of that effect. -/
  consumed_iff : ∀ identity statementFingerprint domainIdempotencyKey,
    (∃ row ∈ s.consumptions.rows, row.replayIdentityDigest = .requestProof identity ∧
      row.statementFingerprint = statementFingerprint ∧
      row.storedOutcomeRef = some domainIdempotencyKey) ↔
    ∃ effect ∈ s.effects, effect.identity = identity ∧
      effect.statementFingerprint = statementFingerprint ∧
      effect.domainIdempotencyKey = domainIdempotencyKey
  consumed_named : ∀ row ∈ s.consumptions.rows, ∀ identity,
    row.replayIdentityDigest = .requestProof identity → row.storedOutcomeRef ≠ none
  /-- One identity is answered COMMITTED once. -/
  committed_once : ∀ (i j : Nat) (claim claim' : Claim),
    s.presentations[i]? = some (.committed claim) →
    s.presentations[j]? = some (.committed claim') → claim.identity = claim'.identity → i = j
  /-- CONVERGED answers the statement and the key of an effect that is committed. -/
  converged_of : ∀ (i : Nat) (claim : Claim), s.presentations[i]? = some (.converged claim) →
    ∃ effect ∈ s.effects, effect.isOf claim
  /-- A withdrawal, a rotation or a closure committed before the locks are taken leaves no effect
      of that presentation. -/
  fence : ∀ (before after : List Label) (i : Nat) (actor : Option ActorFacts) (now : Int)
    (t : State) (prepared : Prepared),
    labels = before ++ .lock i actor now :: after →
    Transition.run (step platform) initial before = some t →
    t.presentations[i]? = some (.ready prepared) → fenced t.contexts t.db prepared = true →
    ∀ effect ∈ s.effects, effect.presentation ≠ i

theorem exactly_once (platform : Platform) (contexts : List ContextRow) (db : DeviceRegistry.Db)
    (labels : List Label) (s : State)
    (hrun : Transition.run (step platform) (State.initial contexts db) labels = some s) :
    ExactlyOnce platform (State.initial contexts db) labels s := by
  have hreached : ∀ {run : List Label} {t : State},
      Transition.run (step platform) (State.initial contexts db) run = some t → Inv t :=
    Transition.run_invariant (fun hs h => inv_step hs h) (inv_initial contexts db)
  have hs := hreached hrun
  refine ⟨hs.once, ?_, ?_, ?_, ?_, ?_⟩
  · intro identity statementFingerprint domainIdempotencyKey
    constructor
    · rintro ⟨row, hmem, hdigest, rfl, href⟩
      obtain ⟨effect, heffect, hidentity, hfingerprint, hkey⟩ := hs.owned row hmem identity hdigest
      rw [href] at hkey
      exact ⟨effect, heffect, hidentity, hfingerprint, (Option.some.inj hkey).symm⟩
    · rintro ⟨effect, heffect, rfl, rfl, rfl⟩
      obtain ⟨row, hmem, hdigest, _⟩ := hs.spent effect heffect
      obtain ⟨effect', heffect', hidentity, hfingerprint, hkey⟩ := hs.owned row hmem _ hdigest
      -- the row is of one effect, as an identity is of one
      have hsame : effect' = effect := Table.eq_of_key hs.once heffect' heffect hidentity
      rw [hsame] at hfingerprint hkey
      exact ⟨row, hmem, hdigest, hfingerprint.symm, hkey⟩
  · intro row hmem identity hdigest hnone
    obtain ⟨effect, _, _, _, hkey⟩ := hs.owned row hmem identity hdigest
    rw [hnone] at hkey
    cases hkey
  · intro i j claim claim' hi hj hidentity
    obtain ⟨effect, heffect, hpresentation, hof⟩ := hs.sound i _ hi
    obtain ⟨effect', heffect', hpresentation', hof'⟩ := hs.sound j _ hj
    have hsame : effect = effect' := by
      apply Table.eq_of_key hs.once heffect heffect'
      show effect.identity = effect'.identity
      rw [hof.1, hof'.1, hidentity]
    rw [← hpresentation, ← hpresentation', hsame]
  · intro i claim hconverged
    exact hs.sound i _ hconverged
  · intro before after i actor now t prepared hlabels hbefore hready hfenced
    rw [hlabels] at hrun
    obtain ⟨t', ht', hrest⟩ := Transition.run_append_eq_some.mp hrun
    obtain rfl : t = t' := Option.some.inj (hbefore.symm.trans ht')
    obtain ⟨u, hlock, hafter⟩ := Transition.run_cons_eq_some.mp hrest
    have hturned : Turned i s :=
      Transition.run_invariant (fun hs h => turned_step hs h)
        (turned_lock (hreached hbefore) hready hfenced hlock) hafter
    exact hturned.2

/-! ## A run -/

/-- The instants and digests of the run below. -/
def samplePlatform : Platform :=
  { parseInstant := fun text =>
      if text = "2026-08-14T10:00:00.000Z" then some 1786701600000 else none
    fingerprint := fun statement => statement.nonce ++ " " ++ statement.payloadDigest
    parsePayload := fun _ payload => some payload
    envelopeDigest := fun envelope => some (envelope.operationKind.text ++ envelope.semanticPayload)
    domainIdempotencyKey := fun input => input.deviceNonce ++ " " ++ input.payloadDigest }

def sampleContext : ContextRow :=
  { id := "context-1"
    organisationId := "org-a"
    actorUserId := "operative-1"
    deviceId := "device-1"
    keyId := "key-1"
    keyVersion := 1
    issuedAt := 1786701000000
    expiresAt := 1786702200000
    closedAt := none
    establishmentId := "establishment-1"
    siteIds := ["site-1"] }

def sampleDevice : DeviceRegistry.DeviceRow :=
  { id := "device-1"
    organisationId := "org-a"
    trust := .degraded
    revocationDisposition := none
    revokedAt := none
    currentKeyId := some "key-1"
    currentKeyVersion := some 1 }

def sampleDb (device : DeviceRegistry.DeviceRow) : DeviceRegistry.Db :=
  { devices := [device]
    deviceKeys := [⟨"org-a", "device-1", "key-1", 1, .hardwareBacked, .current, none, none, none⟩]
    deviceSiteScopes := [⟨"org-a", "device-1", "site-1", none⟩]
    attestationObservations := []
    trustTransitions := []
    securityEvents := []
    devices_key := List.nodup_singleton _
    deviceKeys_key := by decide }

def reports (nonce : String) : Request :=
  { principal := ⟨"org-a", "operative-1"⟩
    kind := .fieldStateUpdate
    proof := some
      { contextId := "context-1"
        organisationId := "org-a"
        siteId := "site-1"
        actorUserId := "operative-1"
        deviceId := "device-1"
        keyId := "key-1"
        keyVersion := 1
        purpose := .fieldOperation
        payloadDigest := "FIELD_STATE_UPDATE\x7b\x7d"
        nonce
        issuedAt := "2026-08-14T10:00:00.000Z"
        claimedSignatureProfile := "P256_ECDSA_SHA256" }
    body := some ⟨none, none, none, none⟩
    targetId := none }

def sampleActor : ActorFacts := ⟨"operative-1", ["site-1"], true⟩

def sampleReading : Reading :=
  { db := sampleDb sampleDevice, actor := some sampleActor, now := 1786701601000, verified := true }

/-- A report whose answer is lost, its retry, and a report that a withdrawal overtakes. -/
def reported : List Label :=
  [.present (reports "nonce-1"), .preflight 0 sampleReading, .lock 0 (some sampleActor) 1786701602000,
    .consume 0, .apply 0 (.applied true), .commitLost 0,
    .present (reports "nonce-1"), .preflight 1 sampleReading,
    .lock 1 (some sampleActor) 1786701604000, .probe 1 true, .commit 1,
    .present (reports "nonce-2"), .preflight 2 sampleReading,
    .environment [sampleContext] (sampleDb { sampleDevice with revokedAt := some 1786701605000 }),
    .lock 2 (some sampleActor) 1786701606000]

theorem exactly_once_reported :
    ∃ s, Transition.run (step samplePlatform)
        (State.initial [sampleContext] (sampleDb sampleDevice)) reported = some s ∧
      s.effects.length = 1 ∧
      ExactlyOnce samplePlatform (State.initial [sampleContext] (sampleDb sampleDevice)) reported
        s := by
  have hrun : Transition.run (step samplePlatform)
      (State.initial [sampleContext] (sampleDb sampleDevice)) reported =
      some ((Transition.run (step samplePlatform)
        (State.initial [sampleContext] (sampleDb sampleDevice)) reported).getD
          (State.initial [sampleContext] (sampleDb sampleDevice))) :=
    Transition.run_eq_some_getD (by decide)
  exact ⟨_, hrun, by decide, exactly_once samplePlatform _ _ reported _ hrun⟩

end Sentinel.DeviceGateway
