import Sentinel.Spec.EvidenceVaultSteps

/-! # The custody of evidence

Every row has its object and every row that was ingested its line.  A derived row is without its
line until the operation that inserted it has written it. -/

namespace Sentinel.EvidenceVault

variable {runtime : Runtime} {s t : State} {op op' : Operation}

/-! ## Complete custody -/

def State.Lined (s : State) (row : Evidence) : Prop :=
  match row.derivedFromEvidenceId with
  | none => ∃ e ∈ s.custody, e.evidenceId = row.id ∧ e.custody.isIngested = true
  | some originalId =>
    ∃ e ∈ s.custody, e.evidenceId = row.id ∧ ∃ label, e.custody = .derivedFrom label originalId

def State.Stored (runtime : Runtime) (s : State) (row : Evidence) : Prop :=
  ∃ content, s.objects row.objectKey = some content ∧ runtime.sha256Hex content = row.contentHash

/-- How often a row was read out. -/
def State.readings (s : State) (id : String) : Nat :=
  s.operations.countP (·.reads id)

/-- How often a row was viewed, by its lines. -/
def State.viewings (s : State) (id : String) : Nat :=
  s.custody.countP fun e => e.evidenceId = id ∧ e.custody.isViewed = true

structure CustodyComplete (runtime : Runtime) (s : State) : Prop where
  stored : ∀ row ∈ s.rows, s.Stored runtime row
  lined : ∀ row ∈ s.rows, s.Lined row
  viewed : ∀ id, s.readings id ≤ s.viewings id
  oneSnapshot : ∀ task, (s.rows.filter (·.responseTaskId = some task)).length ≤ 1

/-! ## The invariant -/

/-- What holds of a row once it is committed. -/
structure State.Keeps (runtime : Runtime) (s : State) (row : Evidence) : Prop where
  key : row.objectKey = objectKeyFor row.organisationId row.id
  slash : '/' ∉ row.id.toList
  drawn : row.id ∈ s.drawn
  stored : s.Stored runtime row
  lined : s.Lined row ∨ ∃ op ∈ s.operations, op.inserted = some row

structure Inv (runtime : Runtime) (s : State) : Prop where
  rows : ∀ row ∈ s.rows, s.Keeps runtime row
  apart : s.rows.Pairwise fun row row' => clashes row' row = false
  lines : ∀ e ∈ s.custody, e.custody.isDerivedFrom = true → ∃ row ∈ s.rows, row.id = e.evidenceId
  holds : ∀ op ∈ s.operations, op.Holds s
  held : ∀ {i j : Nat} {op op' : Operation} {id : String}, s.operations[i]? = some op →
    s.operations[j]? = some op' → op.held = some id → op'.held = some id → i = j
  viewed : ∀ id, s.readings id ≤ s.viewings id

theorem initial_inv : Inv runtime State.initial where
  rows _ hrow := absurd hrow List.not_mem_nil
  apart := .nil
  lines _ he := absurd he List.not_mem_nil
  holds _ hop := absurd hop List.not_mem_nil
  held hop := nomatch hop
  viewed _ := Nat.zero_le _

theorem Operation.Holds.drawn_of_held (h : op.Holds s) (hinv : Inv runtime s) {id : String}
    (hheld : op.held = some id) : id ∈ s.drawn := by
  cases op with
  | ingestStored | deriveStored =>
    cases hheld
    exact h.1.drawn
  | ingestConflict | ingestExisting =>
    cases hheld
    exact h.drawn
  | deriveInserted input original derived =>
    cases hheld
    exact (hinv.rows derived h.1).drawn
  | _ => cases hheld

/-! ### What a step leaves to the others -/

namespace Effect

variable (heffect : Effect runtime s op t op')

include heffect

theorem stored (hop : op.Holds s) {row : Evidence} (hrow : row ∈ s.rows)
    (hkeeps : s.Keeps runtime row) : t.Stored runtime row := by
  obtain ⟨content, hobject, hhash⟩ := hkeeps.stored
  refine ⟨content, ?_, hhash⟩
  rw [hkeeps.key] at hobject ⊢
  rw [heffect.objects_eq hop hkeeps.drawn hkeeps.slash (.inr ⟨row, hrow, rfl⟩), hobject]

theorem lined {row : Evidence} (h : s.Lined row) : t.Lined row := by
  unfold State.Lined at h ⊢
  split at h
  · obtain ⟨e, he, hline⟩ := h
    exact ⟨e, heffect.custody_subset he, hline⟩
  · obtain ⟨e, he, hline⟩ := h
    exact ⟨e, heffect.custody_subset he, hline⟩

theorem uncommitted {id : String} (h : s.Uncommitted id) (hother : op.held ≠ some id) :
    t.Uncommitted id where
  drawn := heffect.drawn_subset h.drawn
  slash := h.slash
  rows row hrow heq := by
    cases heffect.new_row hrow with
    | inl hold => exact h.rows row hold heq
    | inr hheld => exact hother (heq ▸ hheld)

/-- The step of an operation leaves the others what holds where they stand. -/
theorem holds_other (hop : op.Holds s) {other : Operation} (h : other.Holds s)
    (hother : ∀ id, other.held = some id → op.held ≠ some id) : other.Holds t := by
  cases other with
  | ingestStored caller input evidenceId =>
    obtain ⟨huncommitted, hobject⟩ := h
    refine ⟨heffect.uncommitted huncommitted (hother _ rfl), ?_⟩
    rw [heffect.objects_eq hop huncommitted.drawn huncommitted.slash (.inl (hother _ rfl)), hobject]
  | deriveStored input original evidenceId =>
    obtain ⟨huncommitted, hobject⟩ := h
    refine ⟨heffect.uncommitted huncommitted (hother _ rfl), ?_⟩
    rw [heffect.objects_eq hop huncommitted.drawn huncommitted.slash (.inl (hother _ rfl)), hobject]
  | ingestConflict caller input evidenceId => exact heffect.uncommitted h (hother _ rfl)
  | ingestExisting caller input evidenceId existing => exact heffect.uncommitted h (hother _ rfl)
  | deriveInserted input original derived =>
    obtain ⟨hrow, hfrom, hlines⟩ := h
    refine ⟨heffect.rows_subset hrow, hfrom, fun e he heq => ?_⟩
    rw [Bool.eq_false_iff]
    intro hderived
    cases heffect.new_line he hderived with
    | inl hold => exact absurd hderived (Bool.eq_false_iff.mp (hlines e hold heq))
    | inr hinserted =>
      obtain ⟨row, hinserted, hid⟩ := Option.map_eq_some_iff.mp hinserted
      exact hother derived.id rfl (heq ▸ hid ▸ Operation.held_of_inserted hinserted)
  | _ => trivial

theorem holds_next (hinv : Inv runtime s) (hop : op.Holds s) : op'.Holds t := by
  cases heffect with
  | quiet inserted inserted' held holds => exact holds hop
  | put free hex fresh inserted' held holds =>
    refine holds _ ⟨List.mem_cons_self, slash_of_isUuid hex, fun row hrow heq => ?_⟩
      (Function.update_self ..)
    exact fresh (heq ▸ (hinv.rows row hrow).drawn)
  | derived =>
    obtain ⟨huncommitted, -⟩ := hop
    refine ⟨List.mem_append_right _ List.mem_cons_self, rfl, fun e he heq => ?_⟩
    rw [Bool.eq_false_iff]
    intro hderived
    obtain ⟨row, hrow, hid⟩ := hinv.lines e he hderived
    exact huncommitted.rows row hrow (hid.trans heq)
  | logged free free' => exact Operation.holds_of_held_none free' _
  | ingested | removed | derivedLine => trivial

/-- A row that is new has its object, and its line or the operation that is to write it. -/
theorem new_keeps (hop : op.Holds s) {row : Evidence} (hrow : row ∈ t.rows) (hnew : row ∉ s.rows) :
    row.objectKey = objectKeyFor row.organisationId row.id ∧ '/' ∉ row.id.toList ∧
      row.id ∈ t.drawn ∧ t.Stored runtime row ∧ (t.Lined row ∨ op'.inserted = some row) := by
  cases heffect with
  | @ingested caller input evidenceId task draw fits =>
    obtain ⟨huncommitted, hobject⟩ := hop
    rcases List.of_mem_concat hrow with hold | rfl
    · exact absurd hold hnew
    · refine ⟨rfl, huncommitted.slash, huncommitted.drawn, ⟨_, hobject, rfl⟩, .inl ?_⟩
      exact ⟨_, List.mem_append_right _ List.mem_cons_self, rfl, rfl⟩
  | derived =>
    obtain ⟨huncommitted, hobject⟩ := hop
    rcases List.of_mem_concat hrow with hold | rfl
    · exact absurd hold hnew
    · exact ⟨rfl, huncommitted.slash, huncommitted.drawn, ⟨_, hobject, rfl⟩, .inr rfl⟩
  | _ => exact absurd hrow hnew

/-- An operation goes on from a row it has inserted by writing its line. -/
theorem lined_of_inserted (hop : op.Holds s) {row : Evidence} (h : op.inserted = some row) :
    t.Lined row := by
  cases heffect with
  | derivedLine input original derived =>
    obtain ⟨-, hfrom, -⟩ := hop
    cases h
    unfold State.Lined
    rw [hfrom]
    exact ⟨_, List.mem_append_right _ List.mem_cons_self, rfl, _, rfl⟩
  | quiet inserted => exact nomatch inserted.symm.trans h
  | put free => exact nomatch free.symm.trans (Operation.held_of_inserted h)
  | logged free => exact nomatch free.symm.trans (Operation.held_of_inserted h)
  | ingested | removed | derived => cases h

theorem apart (hapart : s.rows.Pairwise fun row row' => clashes row' row = false) :
    t.rows.Pairwise fun row row' => clashes row' row = false := by
  cases heffect with
  | ingested _ fits | derived fits =>
    refine List.pairwise_append.mpr ⟨hapart, List.pairwise_singleton .., fun row hrow new hnew => ?_⟩
    obtain rfl := List.mem_singleton.mp hnew
    exact List.any_eq_false.mp fits row hrow |> Bool.eq_false_iff.mpr
  | _ => exact hapart

theorem lines (hop : op.Holds s)
    (hlines : ∀ e ∈ s.custody, e.custody.isDerivedFrom = true → ∃ row ∈ s.rows, row.id = e.evidenceId)
    {e : CustodyEvent} (he : e ∈ t.custody) (hderived : e.custody.isDerivedFrom = true) :
    ∃ row ∈ t.rows, row.id = e.evidenceId := by
  cases heffect.new_line he hderived with
  | inl hold =>
    obtain ⟨row, hrow, hid⟩ := hlines e hold hderived
    exact ⟨row, heffect.rows_subset hrow, hid⟩
  | inr hinserted =>
    cases op with
    | deriveInserted input original derived =>
      exact ⟨derived, heffect.rows_subset hop.1, Option.some.inj hinserted⟩
    | _ => cases hinserted

/-- The id the operation holds next is its own, or new. -/
theorem held_next {id : String} (h : op'.held = some id) : op.held = some id ∨ id ∉ s.drawn := by
  cases heffect with
  | quiet inserted inserted' held =>
    cases held with
    | inl hnone => exact nomatch hnone.symm.trans h
    | inr hsame => exact .inl (hsame.symm.trans h)
  | put free hex fresh inserted' held =>
    obtain rfl := Option.some.inj (held.symm.trans h)
    exact .inr fresh
  | derived => exact .inl h
  | logged free free' => exact nomatch free'.symm.trans h
  | ingested | removed | derivedLine => cases h

/-- Who reads a row out has written that it is viewed. -/
theorem viewed (id : String) :
    (if op'.reads id then 1 else 0) + s.viewings id ≤
      (if op.reads id then 1 else 0) + t.viewings id := by
  have hlog (s : State) (row : Evidence) (actor : Actor) (custody : Custody) :
      (s.log row actor custody).viewings id =
        s.viewings id + if row.id = id ∧ custody.isViewed = true then 1 else 0 := by
    simp only [State.log, State.viewings, List.countP_append, List.countP_singleton,
      decide_eq_true_eq]
  cases heffect with
  | quiet inserted inserted' held holds reads => rw [reads]
  | put free hex fresh inserted' held holds reads =>
    rw [reads]
    show 0 + s.viewings id ≤ _ + s.viewings id
    omega
  | ingested caller fits =>
    rw [hlog]
    cases caller <;> exact Nat.add_le_add_left (Nat.le_add_right _ _) 0
  | removed caller => cases caller <;> exact Nat.le_refl _
  | derived => exact Nat.le_refl _
  | derivedLine =>
    rw [hlog]
    exact Nat.add_le_add_left (Nat.le_add_right _ _) 0
  | logged free free' other reads =>
    rw [hlog]
    by_cases hread : op'.reads id = true
    · rw [if_pos hread, if_pos (reads id hread)]
      omega
    · rw [if_neg hread]
      omega

/-- Only the insert of a derived row leaves an operation with a row without a line. -/
theorem inserted_next {row : Evidence} (h : op'.inserted = some row) :
    ∃ input original evidenceId, op = .deriveStored input original evidenceId := by
  cases heffect with
  | quiet inserted inserted' => exact nomatch inserted'.symm.trans h
  | put free hex fresh inserted' => exact nomatch inserted'.symm.trans h
  | derived => exact ⟨_, _, _, rfl⟩
  | logged free free' => exact nomatch free'.symm.trans (Operation.held_of_inserted h)
  | ingested | removed | derivedLine => cases h

end Effect

/-! ### Runs -/

theorem step_cases {label : Label} (h : step runtime s label = some t) :
    (∃ operation, label = .call operation ∧ operation.isCall = true ∧
      t = { s with operations := s.operations ++ [operation] }) ∨
    ∃ i draw op op' u, label = .advance i draw ∧ s.operations[i]? = some op ∧
      Effect runtime s op u op' ∧ t = { u with operations := s.operations.set i op' } := by
  cases label with
  | call operation =>
    simp only [step] at h
    split at h
    · rename_i hcall
      exact .inl ⟨operation, rfl, hcall, (Option.some.inj h).symm⟩
    · cases h
  | advance i draw =>
    obtain ⟨⟨u, op'⟩, hresult, rfl⟩ := Option.map_eq_some_iff.mp h
    obtain ⟨op, hop, hadvance⟩ := Option.bind_eq_some_iff.mp hresult
    have heffect := advance_effect hadvance
    exact .inr ⟨i, draw, op, op', u, rfl, hop, heffect, by simp only [heffect.operations_eq]⟩

theorem Operation.held_of_isCall (h : op.isCall = true) : op.held = none := by
  cases op with
  | ingestStored | ingestConflict | ingestExisting | deriveStored | deriveInserted => cases h
  | _ => rfl

theorem Operation.reads_of_isCall (h : op.isCall = true) (id : String) : op.reads id = false := by
  cases op with
  | returning | returned => cases h
  | _ => rfl

/-- Only the operations are other ones. -/
theorem Operation.Holds.congr {operations : List Operation} (h : op.Holds s) :
    op.Holds { s with operations } := by
  cases op with
  | ingestStored | deriveStored => exact ⟨⟨h.1.drawn, h.1.slash, h.1.rows⟩, h.2⟩
  | ingestConflict | ingestExisting => exact ⟨h.drawn, h.slash, h.rows⟩
  | _ => exact h

theorem Inv.of_call (h : Inv runtime s) (hcall : op.isCall = true) :
    Inv runtime { s with operations := s.operations ++ [op] } where
  rows row hrow :=
    { key := (h.rows row hrow).key
      slash := (h.rows row hrow).slash
      drawn := (h.rows row hrow).drawn
      stored := (h.rows row hrow).stored
      lined := (h.rows row hrow).lined.imp_right fun ⟨other, hother, hinserted⟩ =>
        ⟨other, List.mem_append_left _ hother, hinserted⟩ }
  apart := h.apart
  lines := h.lines
  holds other hother := by
    rcases List.of_mem_concat hother with hold | rfl
    · exact (h.holds other hold).congr
    · exact Operation.holds_of_held_none (Operation.held_of_isCall hcall) _
  held {i j first second id} hfirst hsecond hheld hheld' := by
    have hfree := Operation.held_of_isCall hcall
    cases List.getElem?_concat_eq_some hfirst with
    | inl hold =>
      cases List.getElem?_concat_eq_some hsecond with
      | inl hold' => exact h.held hold hold' hheld hheld'
      | inr hnew =>
        obtain ⟨-, rfl⟩ := hnew
        exact nomatch hfree.symm.trans hheld'
    | inr hnew =>
      obtain ⟨-, rfl⟩ := hnew
      exact nomatch hfree.symm.trans hheld
  viewed id := by
    show (s.operations ++ [op]).countP (·.reads id) ≤ s.viewings id
    rw [List.countP_append, List.countP_singleton, Operation.reads_of_isCall hcall]
    exact h.viewed id

theorem Inv.of_advance {i : Nat} (h : Inv runtime s) (hi : s.operations[i]? = some op)
    (heffect : Effect runtime s op t op') :
    Inv runtime { t with operations := s.operations.set i op' } := by
  have hop : op.Holds s := h.holds op (List.mem_of_getElem? hi)
  have hlt : i < s.operations.length := (List.getElem?_eq_some_iff.mp hi).1
  constructor
  case rows =>
    intro row hrow
    by_cases hold : row ∈ s.rows
    · have hkeeps := h.rows row hold
      refine ⟨hkeeps.key, hkeeps.slash, heffect.drawn_subset hkeeps.drawn,
        heffect.stored hop hold hkeeps, ?_⟩
      cases hkeeps.lined with
      | inl hlined => exact .inl (heffect.lined hlined)
      | inr hpending =>
        obtain ⟨other, hother, hinserted⟩ := hpending
        obtain ⟨j, hj⟩ := List.mem_iff_getElem?.mp hother
        by_cases hsame : i = j
        · -- the operation that inserted the row is the one that goes on
          subst hsame
          obtain rfl := Option.some.inj (hi.symm.trans hj)
          exact .inl (heffect.lined_of_inserted hop hinserted)
        · exact .inr ⟨other, List.mem_of_getElem? ((List.getElem?_set_ne hsame).trans hj), hinserted⟩
    · obtain ⟨hkey, hslash, hdrawn, hstored, hlined⟩ := heffect.new_keeps hop hrow hold
      exact ⟨hkey, hslash, hdrawn, hstored,
        hlined.imp_right fun hinserted => ⟨op', List.mem_set hlt op', hinserted⟩⟩
  case apart => exact heffect.apart h.apart
  case lines => exact fun e he => heffect.lines hop h.lines he
  case holds =>
    intro other hother
    obtain ⟨j, hj⟩ := List.mem_iff_getElem?.mp hother
    cases List.getElem?_set_eq_some hj with
    | inl hnext =>
      obtain ⟨-, rfl⟩ := hnext
      exact (heffect.holds_next h hop).congr
    | inr hkept =>
      refine Operation.Holds.congr (heffect.holds_other hop (h.holds other
        (List.mem_of_getElem? hkept.2)) fun id hheld hheld' => ?_)
      exact hkept.1 (h.held hkept.2 hi hheld hheld')
  case held =>
    -- an id that is held next was held by the same operation, or is new
    have hnew : ∀ {j : Nat} {other : Operation} {id : String}, s.operations[j]? = some other →
        other.held = some id → op'.held = some id → i = j := by
      intro j other id hj hheld hheld'
      cases heffect.held_next hheld' with
      | inl hown => exact h.held hi hj hown hheld
      | inr hfresh =>
        exact absurd (Operation.Holds.drawn_of_held (h.holds other (List.mem_of_getElem? hj)) h hheld)
          hfresh
    intro j k first second id hj hk hheld hheld'
    cases List.getElem?_set_eq_some hj with
    | inl hfirst =>
      obtain ⟨rfl, rfl⟩ := hfirst
      cases List.getElem?_set_eq_some hk with
      | inl hsecond => exact hsecond.1.symm
      | inr hsecond => exact hnew hsecond.2 hheld' hheld
    | inr hfirst =>
      cases List.getElem?_set_eq_some hk with
      | inl hsecond =>
        obtain ⟨rfl, rfl⟩ := hsecond
        exact (hnew hfirst.2 hheld hheld').symm
      | inr hsecond => exact h.held hfirst.2 hsecond.2 hheld hheld'
  case viewed =>
    intro id
    have hread := heffect.viewed id
    have hbefore : s.operations.countP (·.reads id) ≤ s.viewings id := h.viewed id
    show (s.operations.set i op').countP (·.reads id) ≤ t.viewings id
    rw [List.countP_set hlt]
    have hhere : s.operations[i] = op := (List.getElem?_eq_some_iff.mp hi).2
    rw [hhere]
    have hcounted : (if op.reads id = true then 1 else 0) ≤ s.operations.countP (·.reads id) := by
      by_cases hreads : op.reads id = true
      · rw [if_pos hreads]
        exact List.countP_pos_iff.mpr ⟨op, List.mem_of_getElem? hi, hreads⟩
      · rw [if_neg hreads]
        exact Nat.zero_le _
    omega

theorem step_inv {label : Label} (h : Inv runtime s) (hstep : step runtime s label = some t) :
    Inv runtime t := by
  cases step_cases hstep with
  | inl hcall =>
    obtain ⟨operation, -, hcall, rfl⟩ := hcall
    exact h.of_call hcall
  | inr hadvance =>
    obtain ⟨i, draw, op, op', u, -, hi, heffect, rfl⟩ := hadvance
    exact h.of_advance hi heffect

theorem run_inv {labels : List Label}
    (hrun : Transition.run (step runtime) State.initial labels = some s) : Inv runtime s :=
  Transition.run_invariant step_inv initial_inv hrun

/-! ## When the custody is complete -/

/-- No row is without its line exactly when no operation is to write one. -/
theorem Inv.custodyComplete_iff (h : Inv runtime s) :
    CustodyComplete runtime s ↔ ∀ op ∈ s.operations, op.inserted = none := by
  constructor
  · intro hcomplete op hmem
    by_contra hinserted
    obtain ⟨derived, hderived⟩ := Option.ne_none_iff_exists'.mp hinserted
    cases op with
    | deriveInserted input original row =>
      obtain ⟨hrow, hfrom, hlines⟩ := h.holds _ hmem
      have hlined := hcomplete.lined row hrow
      unfold State.Lined at hlined
      rw [hfrom] at hlined
      obtain ⟨e, he, hid, label, hline⟩ := hlined
      have hnot := hlines e he hid
      rw [hline] at hnot
      cases hnot
    | _ => cases hderived
  · intro hnone
    constructor
    case stored => exact fun row hrow => (h.rows row hrow).stored
    case lined =>
      intro row hrow
      cases (h.rows row hrow).lined with
      | inl hlined => exact hlined
      | inr hpending =>
        obtain ⟨op, hop, hinserted⟩ := hpending
        exact nomatch (hnone op hop).symm.trans hinserted
    case viewed => exact h.viewed
    case oneSnapshot =>
      intro task
      refine List.length_le_one_of_pairwise (h.apart.filter _) fun row hrow row' hrow' => ?_
      have htask := of_decide_eq_true (List.mem_filter.mp hrow).2
      have htask' := of_decide_eq_true (List.mem_filter.mp hrow').2
      simp [clashes, htask, htask']

def InsertsDerivation (s : State) : Label → Prop
  | .call _ => False
  | .advance i _ => ∃ input original evidenceId,
    s.operations[i]? = some (.deriveStored input original evidenceId)

/-- The insert of a derived row never fails, and leaves the row without its line. -/
theorem Inv.not_complete_of_inserts (h : Inv runtime s) {label : Label}
    (hinserts : InsertsDerivation s label) (hstep : step runtime s label = some t) :
    ¬ CustodyComplete runtime t := by
  cases label with
  | call => exact hinserts.elim
  | advance i draw =>
    obtain ⟨input, original, evidenceId, hi⟩ := hinserts
    obtain ⟨huncommitted, -⟩ := h.holds _ (List.mem_of_getElem? hi)
    have hfits : s.rows.any (clashes (deriveRow runtime input original evidenceId draw)) = false := by
      rw [List.any_eq_false]
      intro row hrow hclash
      have hkeeps := h.rows row hrow
      have hid : evidenceId ≠ row.id := fun heq => huncommitted.rows row hrow heq.symm
      have hkey : objectKeyFor input.organisationId evidenceId ≠ row.objectKey := fun heq =>
        hid (objectKeyFor_inj huncommitted.slash hkeeps.slash (heq.trans hkeeps.key))
      simp [clashes, deriveRow, hid, hkey] at hclash
    have hlt := (List.getElem?_eq_some_iff.mp hi).1
    have hadvance : advance runtime s draw (.deriveStored input original evidenceId) =
        some ({ s with rows := s.rows ++ [deriveRow runtime input original evidenceId draw] },
          .deriveInserted input original (deriveRow runtime input original evidenceId draw)) := by
      simp only [advance, hfits, Bool.false_eq_true, if_false]
    have hinv := step_inv h hstep
    simp only [step, hi, Option.bind_some, hadvance, Option.map_some, Option.some.injEq] at hstep
    subst hstep
    intro hcomplete
    cases hinv.custodyComplete_iff.mp hcomplete _ (List.mem_set hlt _)

/-- Without such an insert no row is ever without its line. -/
theorem step_uninserted {label : Label} (h : ∀ op ∈ s.operations, op.inserted = none)
    (hnot : ¬ InsertsDerivation s label) (hstep : step runtime s label = some t) :
    ∀ op ∈ t.operations, op.inserted = none := by
  intro op hop
  by_contra hinserted
  obtain ⟨row, hrow⟩ := Option.ne_none_iff_exists'.mp hinserted
  cases step_cases hstep with
  | inl hcall =>
    obtain ⟨operation, -, hcall, rfl⟩ := hcall
    rcases List.of_mem_concat hop with hold | rfl
    · exact hinserted (h op hold)
    · exact nomatch (Operation.held_of_isCall hcall).symm.trans (Operation.held_of_inserted hrow)
  | inr hadvance =>
    obtain ⟨i, draw, other, next, u, rfl, hi, heffect, rfl⟩ := hadvance
    cases List.mem_or_eq_of_mem_set hop with
    | inl hold => exact hinserted (h op hold)
    | inr hnext =>
      obtain ⟨input, original, evidenceId, rfl⟩ := heffect.inserted_next (hnext ▸ hrow)
      exact hnot ⟨input, original, evidenceId, hi⟩

/-- The object of a row is never touched again. -/
theorem Inv.objects_eq (h : Inv runtime s) {row : Evidence} (hrow : row ∈ s.rows) {label : Label}
    (hstep : step runtime s label = some t) : t.objects row.objectKey = s.objects row.objectKey := by
  cases step_cases hstep with
  | inl hcall =>
    obtain ⟨operation, -, -, rfl⟩ := hcall
    rfl
  | inr hadvance =>
    obtain ⟨i, draw, op, op', u, -, hi, heffect, rfl⟩ := hadvance
    have hkeeps := h.rows row hrow
    rw [hkeeps.key]
    exact heffect.objects_eq (h.holds op (List.mem_of_getElem? hi)) hkeeps.drawn hkeeps.slash
      (.inr ⟨row, hrow, rfl⟩)

/-- The custody is complete all along exactly the runs in which no derived row is inserted; it lacks
nothing but the line of a derivation that is under way or has stopped. -/
theorem custody_complete_iff {labels : List Label}
    (hrun : Transition.run (step runtime) State.initial labels = some s) :
    ((∀ earlier later t, labels = earlier ++ later →
        Transition.run (step runtime) State.initial earlier = some t → CustodyComplete runtime t) ↔
      Transition.RunAll (step runtime) (fun s label => ¬ InsertsDerivation s label) State.initial
        labels) ∧
    (CustodyComplete runtime s ↔ ∀ op ∈ s.operations, op.inserted = none) ∧
    ∀ row ∈ s.rows, ∀ label t, step runtime s label = some t →
      t.objects row.objectKey = s.objects row.objectKey := by
  have hinv := run_inv hrun
  refine ⟨⟨fun hcomplete => ?_, fun hall earlier later t hlabels hearlier => ?_⟩,
    hinv.custodyComplete_iff, fun row hrow label t hstep => ?_⟩
  · refine Transition.runAll_of_prefixes fun earlier label later t hlabels hearlier hinserts => ?_
    rw [hlabels] at hrun
    obtain ⟨u, hu, hrest⟩ := Transition.run_append_eq_some.mp hrun
    obtain rfl := Option.some.inj (hu.symm.trans hearlier)
    obtain ⟨v, hv, -⟩ := Transition.run_cons_eq_some.mp hrest
    refine (run_inv hearlier).not_complete_of_inserts hinserts hv
      (hcomplete (earlier ++ [label]) later v (by rw [hlabels, List.append_assoc]; rfl) ?_)
    exact Transition.run_append_eq_some.mpr
      ⟨u, hearlier, Transition.run_cons_eq_some.mpr ⟨v, hv, rfl⟩⟩
  · rw [hlabels] at hall
    rw [(run_inv hearlier).custodyComplete_iff]
    exact Transition.runAll_invariant step_uninserted (fun op hop => absurd hop List.not_mem_nil)
      hall.append_left hearlier
  · exact hinv.objects_eq hrow hstep

/-! ### A derivation that stops after its insert -/

/-- The hash is that of no content at all. -/
def emptyRuntime : Runtime where
  sha256Hex _ := "e3b0c44298fc1c149afbf4c8996fb92427ae41e4649b934ca495991b7852b855"
  snapshotContent _ _ _ := []
  uuid := some

def drawing (uuid : String) : Draw := ⟨uuid, 0, 0, [], none⟩

def ingestRun : List Label :=
  let input : IngestInput :=
    { organisationId := "org-1"
      sourceId := "camera-1"
      content := []
      contentType := "image/png"
      classification := .evidence
      relatedEventIds := []
      incidentId := none
      responseTaskId := none
      capturedAt := none
      actor := .user "user-1" }
  let draw := drawing "11111111-1111-4111-8111-111111111111"
  [.call (.ingest .service input), .advance 0 draw, .advance 0 draw, .advance 0 draw]

/-- Then a derivation finds the original, stores its object, and inserts its row. -/
def deriveRun : List Label :=
  let input : DeriveInput :=
    { evidenceId := "11111111-1111-4111-8111-111111111111"
      organisationId := "org-1"
      transformLabel := "crop"
      content := []
      contentType := "image/png"
      classification := none
      actor := .user "user-1" }
  let draw := drawing "22222222-2222-4222-8222-222222222222"
  ingestRun ++ [.call (.derive input), .advance 1 draw, .advance 1 draw, .advance 1 draw]

theorem custody_complete_ingested :
    ∃ s, Transition.run (step emptyRuntime) State.initial ingestRun = some s ∧
      CustodyComplete emptyRuntime s := by
  have hend : (Transition.run (step emptyRuntime) State.initial ingestRun).map
      (fun s => s.operations.all (·.inserted.isNone)) = some true := by decide
  obtain ⟨s, hrun, hnone⟩ := Option.map_eq_some_iff.mp hend
  refine ⟨s, hrun, (custody_complete_iff hrun).2.1.mpr fun op hop => ?_⟩
  exact Option.isNone_iff_eq_none.mp (List.all_eq_true.mp hnone op hop)

theorem derived_not_complete :
    ∃ s, Transition.run (step emptyRuntime) State.initial deriveRun = some s ∧
      ¬ CustodyComplete emptyRuntime s := by
  have hend : (Transition.run (step emptyRuntime) State.initial deriveRun).map
      (fun s => s.operations.any (·.inserted.isSome)) = some true := by decide
  obtain ⟨s, hrun, hsome⟩ := Option.map_eq_some_iff.mp hend
  obtain ⟨op, hop, hinserted⟩ := List.any_eq_true.mp hsome
  refine ⟨s, hrun, fun hcomplete => ?_⟩
  rw [(run_inv hrun).custodyComplete_iff.mp hcomplete op hop] at hinserted
  cases hinserted

end Sentinel.EvidenceVault
