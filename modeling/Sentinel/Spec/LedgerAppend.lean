import Sentinel.ForStd.List
import Sentinel.ForStd.Transition
import Sentinel.Spec.LedgerChain

/-! # Concurrent appends to the ledger

Between the read of the head and the commit nobody else of the organisation inserts, by the advisory
lock, so its rows form one chain in the order of `seq`. -/

namespace Sentinel.DecisionLedger

open Utf16 (ascii)

variable {δ : Type} {hash : Text → δ} {lockKey : Text → Int}

/-! ## What is inserted -/

theorem faithfulOwn_filter {own : List (Text × JsValue)} (h : FaithfulOwn own)
    (p : Text × JsValue → Bool) : FaithfulOwn (own.filter p) := by
  induction own with
  | nil => exact trivial
  | cons property own ih =>
    rw [List.filter_cons]
    split
    · exact ⟨h.1, ih h.2⟩
    · exact ih h.2

theorem parseRecord_faithful {value record : JsValue} (h : parseRecord value = some record)
    (hfaithful : value.Faithful) : record.Faithful := by
  cases value <;> cases h
  · exact faithfulOwn_filter hfaithful _
  · exact hfaithful

theorem approvals_faithful (approvals : List Approval) :
    (JsValue.array (approvals.map Approval.toJs)).Faithful := by
  induction approvals with
  | nil => exact trivial
  | cons approval approvals ih =>
    exact ⟨⟨.inr trivial, .inr trivial, .inr trivial, trivial⟩, ih⟩

/-- What the column gives back has the canonical form that was hashed. -/
theorem canonicalised_stored {value : JsValue} {stored : Json} (hfaithful : value.Faithful)
    (h : value.stringified = some stored) :
    value.canonicalised = (JsValue.ofJson stored).canonicalised := by
  rw [canonicalised_eq value hfaithful, h, canonicalised_ofJson, Option.map_some]

variable {s s' : State δ} {i : Nat} {label : Label}

/-- An inserted row is of the input's organisation, and its hash is that of its own columns where the
    snapshot is faithful. -/
theorem prepare_intact {input : AppendLedgerEntryInput} {uuid : Text} {now : String}
    {data : InsertLedgerEntryData δ} (h : prepare hash input uuid now = some data)
    (hfaithful : input.inputsSnapshot.Faithful) : data.Intact hash := by
  simp only [prepare, Option.bind_eq_bind, Option.bind_eq_some_iff] at h
  obtain ⟨decidedAt, -, record, hrecord, storedSnapshot, hsnapshot, storedApprovals, happrovals, h⟩ := h
  split at h
  · cases h
  · cases h
    have hsnapshot := canonicalised_stored (parseRecord_faithful hrecord hfaithful) hsnapshot
    have happrovals := canonicalised_stored (approvals_faithful input.approvals) happrovals
    rw [InsertLedgerEntryData.Intact, computeContentHash, computeContentHash, canonicalJson,
      canonicalJson, HashableLedgerEntry.toJs, HashableLedgerEntry.toJs, JsValue.canonicalised,
      JsValue.canonicalised]
    refine congrArg hash (congrArg (fun own => JsonText.print Utf16.wellFormed
      ((some (.object (JsObject.fromEntries Utf16.arrayIndex?
        (JsObject.sortEntries own)))).getD nullJson)) ?_)
    refine canonicalisedOwn_congr ?_
    simp only [InsertLedgerEntryData.hashableFields, List.map_cons, List.map_nil, Prod.map_apply,
      hsnapshot, happrovals]

/-! ## The invariant -/

/-- The rows of an organisation, as they were committed. -/
def chainOf (rows : List (LedgerRow δ)) (organisationId : Text) : List (LedgerRow δ) :=
  rows.filter fun row => row.organisationId = organisationId

def headHash (chain : List (LedgerRow δ)) : Option δ := chain.getLast?.map (·.contentHash)

/-- What a transaction that holds the lock knows of its organisation's chain. -/
def Append.Consistent (append : Append δ) (chain : List (LedgerRow δ)) (nextSeq : Nat) : Prop :=
  match append.phase with
  | .headRead latest => latest = headHash chain
  | .inserted row => row.toInsertLedgerEntryData = append.data ∧ row.previousHash = headHash chain ∧
      row.seq < nextSeq ∧ ∀ other ∈ chain, other.seq < row.seq
  | _ => True

structure Inv (lockKey : Text → Int) (s : State δ) : Prop where
  below : ∀ row ∈ s.rows, row.seq < s.nextSeq
  sorted : ∀ organisationId, (chainOf s.rows organisationId).Pairwise fun a b => a.seq < b.seq
  linked : ∀ organisationId, Linked none (chainOf s.rows organisationId)
  consistent : ∀ (i : Nat) append, s.appends[i]? = some append →
    append.Consistent (chainOf s.rows append.data.organisationId) s.nextSeq
  exclusive : ∀ (i j : Nat) a b, s.appends[i]? = some a → s.appends[j]? = some b →
    a.holdsLock = true → b.holdsLock = true →
      lockKey a.data.organisationId = lockKey b.data.organisationId → i = j

theorem inv_initial : Inv lockKey (State.initial δ) where
  below := fun _ h => nomatch h
  sorted := fun _ => List.Pairwise.nil
  linked := fun _ => trivial
  consistent := fun _ _ h => nomatch h
  exclusive := fun _ _ _ _ h => nomatch h

theorem Inv.listChainOrder_eq (h : Inv lockKey s) (organisationId : Text) :
    listChainOrder s.rows organisationId = chainOf s.rows organisationId :=
  ((h.sorted organisationId).imp fun hlt => Nat.le_of_lt hlt).insertionSort_eq

theorem chainOf_concat (rows : List (LedgerRow δ)) (row : LedgerRow δ) (organisationId : Text) :
    chainOf (rows ++ [row]) organisationId = chainOf rows organisationId ++
      if row.organisationId = organisationId then [row] else [] := by
  rw [chainOf, chainOf, List.filter_append, List.filter_singleton]
  by_cases h : row.organisationId = organisationId <;> simp [h]

theorem linked_concat {chain : List (LedgerRow δ)} {row : LedgerRow δ} {previousHash : Option δ}
    (h : Linked previousHash chain) (hrow : row.previousHash = (headHash chain).or previousHash) :
    Linked previousHash (chain ++ [row]) := by
  induction chain generalizing previousHash with
  | nil => exact ⟨hrow, trivial⟩
  | cons first chain ih =>
    refine ⟨h.1, ih h.2 ?_⟩
    rw [hrow, headHash, headHash]
    cases chain with
    | nil => rfl
    | cons second chain =>
      rw [List.getLast?_cons_cons, List.getLast?_eq_some_getLast (List.cons_ne_nil second chain)]
      rfl

theorem Append.Consistent.of_le {append : Append δ} {chain : List (LedgerRow δ)} {n m : Nat}
    (h : append.Consistent chain n) (hle : n ≤ m) : append.Consistent chain m := by
  unfold Append.Consistent at h ⊢
  split
  · simp_all
  · rename_i row hphase
    rw [hphase] at h
    exact ⟨h.1, h.2.1, by omega, h.2.2.2⟩
  · trivial

/-! ## The steps -/

/-- A transaction moves on, and rows and counter stay or grow without touching the chains. -/
theorem Inv.setPhase (h : Inv lockKey s) {append : Append δ} {phase : Phase δ}
    (hi : s.appends[i]? = some append)
    (hconsistent : (Append.mk append.data phase).Consistent
      (chainOf s.rows append.data.organisationId) s.nextSeq)
    (hlock : (Append.mk append.data phase).holdsLock = true → append.holdsLock = true ∨
      ∀ (j : Nat) b, s.appends[j]? = some b → b.holdsLock = true →
        lockKey b.data.organisationId ≠ lockKey append.data.organisationId) :
    Inv lockKey (s.setPhase i append phase) where
  below := h.below
  sorted := h.sorted
  linked := h.linked
  consistent := by
    intro j b hj
    obtain ⟨rfl, rfl⟩ | ⟨-, hj⟩ := List.getElem?_set_eq_some hj
    · exact hconsistent
    · exact h.consistent j b hj
  exclusive := by
    intro j k a b hj hk ha hb hkey
    obtain ⟨rfl, rfl⟩ | ⟨hji, hold⟩ := List.getElem?_set_eq_some hj
    · obtain ⟨rfl, rfl⟩ | ⟨hki, hold'⟩ := List.getElem?_set_eq_some hk
      · rfl
      · cases hlock ha with
        | inl hheld => exact h.exclusive _ _ append b hi hold' hheld hb hkey
        | inr hfree => exact absurd hkey.symm (hfree k b hold' hb)
    · obtain ⟨rfl, rfl⟩ | ⟨hki, hold'⟩ := List.getElem?_set_eq_some hk
      · cases hlock hb with
        | inl hheld => exact h.exclusive _ _ a append hold hi ha hheld hkey
        | inr hfree => exact absurd hkey (hfree j a hold ha)
      · exact h.exclusive j k a b hold hold' ha hb hkey

theorem Inv.append (h : Inv lockKey s) (data : InsertLedgerEntryData δ) :
    Inv lockKey { s with appends := s.appends ++ [⟨data, .begun⟩] } where
  below := h.below
  sorted := h.sorted
  linked := h.linked
  consistent := by
    intro j b hj
    obtain hj | ⟨-, rfl⟩ := List.getElem?_concat_eq_some hj
    · exact h.consistent j b hj
    · exact trivial
  exclusive := by
    intro j k a b hj hk ha hb hkey
    obtain hj | ⟨-, rfl⟩ := List.getElem?_concat_eq_some hj
    · obtain hk | ⟨-, rfl⟩ := List.getElem?_concat_eq_some hk
      · exact h.exclusive j k a b hj hk ha hb hkey
      · cases hb
    · cases ha

/-- The counter moves on. -/
theorem Inv.nextSeq (h : Inv lockKey s) : Inv lockKey { s with nextSeq := s.nextSeq + 1 } where
  below := fun row hrow => Nat.lt_succ_of_lt (h.below row hrow)
  sorted := h.sorted
  linked := h.linked
  consistent := fun i append hi => (h.consistent i append hi).of_le (Nat.le_succ _)
  exclusive := h.exclusive

/-- The commit of the one transaction of its organisation that holds the lock. -/
theorem Inv.commit (h : Inv lockKey s) {data : InsertLedgerEntryData δ}
    {row : LedgerRow δ} (hi : s.appends[i]? = some ⟨data, .inserted row⟩) :
    Inv lockKey { s.setPhase i ⟨data, .inserted row⟩ .ended with rows := s.rows ++ [row] } := by
  obtain ⟨hdata, hprevious, hseq, hlast⟩ := h.consistent i _ hi
  have horganisation : row.organisationId = data.organisationId :=
    congrArg InsertLedgerEntryData.organisationId hdata
  have hended : Inv lockKey (s.setPhase i ⟨data, .inserted row⟩ .ended) :=
    h.setPhase hi trivial (fun hheld => nomatch hheld)
  refine ⟨?_, ?_, ?_, ?_, hended.exclusive⟩
  · intro other hother
    cases List.mem_append.mp hother with
    | inl hold => exact h.below other hold
    | inr hnew => rw [List.mem_singleton.mp hnew]; exact hseq
  · intro organisationId
    rw [chainOf_concat]
    split
    · rename_i hsame
      rw [List.pairwise_append]
      refine ⟨h.sorted _, List.pairwise_singleton _ _, fun a ha b hb => ?_⟩
      rw [List.mem_singleton.mp hb]
      exact hlast a (by rwa [← hsame, horganisation] at ha)
    · rw [List.append_nil]
      exact h.sorted _
  · intro organisationId
    rw [chainOf_concat]
    split
    · rename_i hsame
      refine linked_concat (h.linked _) ?_
      rw [hprevious, Option.or_none, ← hsame, horganisation]
    · rw [List.append_nil]
      exact h.linked _
  · intro j append hj
    obtain ⟨rfl, rfl⟩ | ⟨hji, hj⟩ := List.getElem?_set_eq_some hj
    · exact trivial
    · have hold := h.consistent j append hj
      by_cases hsame : append.data.organisationId = data.organisationId
      · -- the lock keeps every other transaction of the organisation before its read
        have hfree : append.holdsLock ≠ true := fun hheld =>
          hji (h.exclusive j i append _ hj hi hheld rfl (by rw [hsame]))
        unfold Append.holdsLock at hfree
        unfold Append.Consistent
        split <;> simp_all
      · show append.Consistent (chainOf (s.rows ++ [row]) append.data.organisationId) s.nextSeq
        rw [chainOf_concat, if_neg (by rw [horganisation]; exact Ne.symm hsame), List.append_nil]
        exact hold

inductive Stepped (hash : Text → δ) (lockKey : Text → Int) (s : State δ) : Label → State δ → Prop
  | append {input : AppendLedgerEntryInput} {uuid : Text} {now : String}
      {data : InsertLedgerEntryData δ} (h : prepare hash input uuid now = some data) :
      Stepped hash lockKey s (.append input uuid now)
        { s with appends := s.appends ++ [⟨data, .begun⟩] }
  | lock {i : Nat} {data : InsertLedgerEntryData δ} (hi : s.appends[i]? = some ⟨data, .begun⟩)
      (hfree : ∀ other ∈ s.appends, other.holdsLock = true →
        lockKey other.data.organisationId ≠ lockKey data.organisationId) :
      Stepped hash lockKey s (.lock i) (s.setPhase i ⟨data, .begun⟩ .locked)
  | readHead {i : Nat} {data : InsertLedgerEntryData δ}
      (hi : s.appends[i]? = some ⟨data, .locked⟩) :
      Stepped hash lockKey s (.readHead i) (s.setPhase i ⟨data, .locked⟩
        (.headRead (headHash (listChainOrder s.rows data.organisationId))))
  | insert {i : Nat} {createdAt : Int} {data : InsertLedgerEntryData δ} {latest : Option δ}
      (hi : s.appends[i]? = some ⟨data, .headRead latest⟩) :
      Stepped hash lockKey s (.insert i createdAt)
        { s.setPhase i ⟨data, .headRead latest⟩
            (.inserted { data with previousHash := latest, createdAt, seq := s.nextSeq }) with
          nextSeq := s.nextSeq + 1 }
  | commit {i : Nat} {data : InsertLedgerEntryData δ} {row : LedgerRow δ}
      (hi : s.appends[i]? = some ⟨data, .inserted row⟩) :
      Stepped hash lockKey s (.commit i)
        { s.setPhase i ⟨data, .inserted row⟩ .ended with rows := s.rows ++ [row] }
  | abort {i : Nat} {append : Append δ} (hi : s.appends[i]? = some append) :
      Stepped hash lockKey s (.abort i) (s.setPhase i append .ended)

theorem stepped_of_step (h : step hash lockKey s label = some s') :
    Stepped hash lockKey s label s' := by
  cases label with
  | append input uuid now =>
    obtain ⟨data, hdata, rfl⟩ := Option.map_eq_some_iff.mp h
    exact .append hdata
  | lock i =>
    simp only [step] at h
    split at h
    · rename_i data hi
      split at h
      · cases h
      · rename_i hfree
        rw [← Option.some.inj h]
        refine .lock hi fun other hmem hheld hkey => hfree ?_
        rw [List.any_eq_true]
        exact ⟨other, hmem, by simp [hheld, hkey]⟩
    · cases h
  | readHead i =>
    simp only [step] at h
    split at h
    · rename_i data hi
      rw [← Option.some.inj h]
      exact .readHead hi
    · cases h
  | insert i createdAt =>
    simp only [step] at h
    split at h
    · rename_i data latest hi
      split at h
      · cases h
      · rw [← Option.some.inj h]
        exact .insert hi
    · cases h
  | commit i =>
    simp only [step] at h
    split at h
    · rename_i data row hi
      rw [← Option.some.inj h]
      exact .commit hi
    · cases h
  | abort i =>
    simp only [step] at h
    split at h
    · rename_i append hi
      split at h
      · cases h
      · rw [← Option.some.inj h]
        exact .abort hi
    · cases h

theorem step_inv (hinv : Inv lockKey s)
    (h : step hash lockKey s label = some s') : Inv lockKey s' := by
  cases stepped_of_step h with
  | append => exact hinv.append _
  | lock hi hfree =>
    exact hinv.setPhase hi trivial fun _ => .inr fun j b hj hb hkey =>
      hfree b (List.mem_of_getElem? hj) hb hkey
  | @readHead i data hi =>
    refine hinv.setPhase hi ?_ fun _ => .inl rfl
    show headHash (listChainOrder s.rows data.organisationId) =
      headHash (chainOf s.rows data.organisationId)
    rw [hinv.listChainOrder_eq]
  | @insert i createdAt data latest hi =>
    have hhead : latest = headHash (chainOf s.rows data.organisationId) := hinv.consistent i _ hi
    refine hinv.nextSeq.setPhase hi ⟨rfl, hhead, Nat.lt_succ_self _, fun other hother => ?_⟩
      fun _ => .inl rfl
    exact hinv.below other (List.mem_filter.mp hother).1
  | commit hi => exact hinv.commit hi
  | abort hi => exact hinv.setPhase hi trivial (fun hheld => nomatch hheld)

/-! ## Content hashes -/

/-- Every row, and every entry on its way, has the hash of its own columns. -/
structure Intact (hash : Text → δ) (s : State δ) : Prop where
  rows : ∀ row ∈ s.rows, row.Intact hash
  appends : ∀ append ∈ s.appends, append.data.Intact hash

/-- A label appends nothing, or an entry whose snapshot the column keeps. -/
def Label.Faithful : Label → Prop
  | .append input _ _ => input.inputsSnapshot.Faithful
  | _ => True

theorem Intact.setPhase (h : Intact hash s) {append : Append δ}
    (hi : s.appends[i]? = some append) (phase : Phase δ) :
    Intact hash (s.setPhase i append phase) where
  rows := h.rows
  appends := by
    intro other hother
    cases List.mem_or_eq_of_mem_set hother with
    | inl hold => exact h.appends other hold
    | inr hnew =>
      rw [hnew]
      exact h.appends append (List.mem_of_getElem? hi)

theorem step_intact (hinv : Inv lockKey s) (hintact : Intact hash s) (hfaithful : label.Faithful)
    (h : step hash lockKey s label = some s') : Intact hash s' := by
  cases stepped_of_step h with
  | append hdata =>
    refine ⟨hintact.rows, fun append hmem => ?_⟩
    rcases List.of_mem_concat hmem with hold | rfl
    · exact hintact.appends append hold
    · exact prepare_intact hdata hfaithful
  | lock hi _ => exact hintact.setPhase hi _
  | readHead hi => exact hintact.setPhase hi _
  | @insert i createdAt data latest hi =>
    have hset := hintact.setPhase hi
      (.inserted { data with previousHash := latest, createdAt, seq := s.nextSeq })
    exact ⟨hset.rows, hset.appends⟩
  | commit hi =>
    have hset := hintact.setPhase hi .ended
    refine ⟨fun other hother => ?_, hset.appends⟩
    cases List.mem_append.mp hother with
    | inl hold => exact hintact.rows other hold
    | inr hnew =>
      rw [List.mem_singleton.mp hnew, InsertLedgerEntryData.Intact, (hinv.consistent _ _ hi).1]
      exact hintact.appends _ (List.mem_of_getElem? hi)
  | abort hi => exact hintact.setPhase hi _

/-! ## Runs -/

def OneChain (rows : List (LedgerRow δ)) (organisationId : Text) : Prop :=
  (listChainOrder rows organisationId).Pairwise (fun a b => a.seq < b.seq) ∧
    Linked none (listChainOrder rows organisationId)

/-- Whatever is appended, the rows of every organisation are one chain. -/
theorem run_oneChain {labels : List Label}
    (hrun : Transition.run (step hash lockKey) (State.initial δ) labels = some s)
    (organisationId : Text) : OneChain s.rows organisationId := by
  have hinv : Inv lockKey s := Transition.run_invariant step_inv inv_initial hrun
  rw [OneChain, hinv.listChainOrder_eq]
  exact ⟨hinv.sorted organisationId, hinv.linked organisationId⟩

/-- In every run whose snapshots the column keeps, the rows of every organisation are one chain, and it
    verifies. -/
theorem run_verifies [DecidableEq δ] {labels : List Label} {s : State δ}
    (hrun : Transition.run (step hash lockKey) (State.initial δ) labels = some s)
    (hfaithful : ∀ label ∈ labels, label.Faithful) (organisationId : Text) :
    OneChain s.rows organisationId ∧ verifyChain hash s.rows organisationId =
      .valid (chainOf s.rows organisationId).length := by
  have hboth : Inv lockKey s ∧ Intact hash s := by
    have hinitial : Inv lockKey (State.initial δ) ∧ Intact hash (State.initial δ) :=
      ⟨inv_initial, (fun _ h => nomatch h), (fun _ h => nomatch h)⟩
    have hpreserved {t : State δ} {label : Label} {t' : State δ}
        (ht : Inv lockKey t ∧ Intact hash t) (hlabel : label.Faithful)
        (hstep : step hash lockKey t label = some t') : Inv lockKey t' ∧ Intact hash t' :=
      ⟨step_inv ht.1 hstep, step_intact ht.1 ht.2 hlabel hstep⟩
    exact @Transition.runAll_invariant _ _ _ (fun t => Inv lockKey t ∧ Intact hash t)
      (fun _ label => label.Faithful) hpreserved _ _ _ hinitial
      (Transition.runAll_of_forall hfaithful) hrun
  have hchain := run_oneChain hrun organisationId
  refine ⟨hchain, ?_⟩
  rw [verifyChain, hboth.1.listChainOrder_eq, verifyEntries_valid_iff]
  refine ⟨hboth.1.linked organisationId, fun row hrow => ?_, (Nat.zero_add _).symm⟩
  exact hboth.2.rows row (List.mem_filter.mp hrow).1

/-! ### One append -/

def decisionOn (snapshot : JsValue) : AppendLedgerEntryInput where
  schemaVersion := 1
  entryId := none
  organisationId := ascii "org-1".toList
  decidedAt := some "2026-07-11T10:00:00Z"
  decisionType := ascii "action_evaluation".toList
  inputsSnapshot := snapshot
  ruleOrModelVersions := []
  policyVersion := ascii "1".toList
  evidenceFor := []
  evidenceAgainst := []
  confidence := none
  approvals := []
  actionTaken := ascii "allow".toList
  outcome := none
  traceId := ascii "trace-1".toList
  supersedesEntryId := none

def appendAlone (snapshot : JsValue) : List Label :=
  [.append (decisionOn snapshot) (ascii "entry-1".toList) "2026-07-11T10:00:00.000Z", .lock 0,
    .readHead 0, .insert 0 0, .commit 0]

def instantText : JsValue :=
  .object [(ascii "at".toList, .string (ascii "2026-07-11T09:00:00.000Z".toList))]

/-- A snapshot with a `Date`, which has no properties of its own. -/
def instantDate : JsValue :=
  .object [(ascii "at".toList,
    .converted [] (some (.string (ascii "2026-07-11T09:00:00.000Z".toList))))]

theorem run_verifies_instantText :
    ∃ s, Transition.run (step (id : Text → Text) fun _ => 0) (State.initial Text)
        (appendAlone instantText) = some s ∧
      OneChain s.rows (ascii "org-1".toList) ∧
        verifyChain id s.rows (ascii "org-1".toList) =
          .valid (chainOf s.rows (ascii "org-1".toList)).length := by
  have hsome : (Transition.run (step (id : Text → Text) fun _ => 0) (State.initial Text)
      (appendAlone instantText)).isSome = true := by decide +kernel
  obtain ⟨s, hrun⟩ := Option.isSome_iff_exists.mp hsome
  refine ⟨s, hrun, run_verifies hrun (fun label hlabel => ?_) _⟩
  obtain rfl | hrest := List.mem_cons.mp hlabel
  · exact ⟨.inr trivial, trivial⟩
  · simp only [List.mem_cons, List.not_mem_nil, or_false] at hrest
    obtain rfl | rfl | rfl | rfl := hrest <;> exact trivial

def VerifyChainResult.isValid : VerifyChainResult δ → Bool
  | .valid _ => true
  | _ => false

/-- The `Date` is hashed as an object without properties, and the column gives back a text. -/
theorem instantDate_not_verified :
    (Transition.run (step (id : Text → Text) fun _ => 0) (State.initial Text)
      (appendAlone instantDate)).map
        (fun s => (verifyChain id s.rows (ascii "org-1".toList)).isValid) = some false := by
  decide +kernel

end Sentinel.DecisionLedger
