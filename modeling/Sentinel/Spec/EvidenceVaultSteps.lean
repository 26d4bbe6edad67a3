import Mathlib.Logic.Function.Basic
import Sentinel.ForStd.List
import Sentinel.ForStd.Transition
import Sentinel.Native.EvidenceVault

/-! # The steps of the evidence vault

An operation holds the id it has drawn until its row is committed with its line, and only the
operation that holds an id touches the object and the row under it. -/

namespace Sentinel.EvidenceVault

/-! ## Object keys -/

/-- Ids without a slash are told apart by their object keys. -/
theorem objectKeyFor_inj {organisationId organisationId' id id' : String} (h : '/' ∉ id.toList)
    (h' : '/' ∉ id'.toList)
    (hsame : objectKeyFor organisationId id = objectKeyFor organisationId' id') : id = id' := by
  have hlast {organisation l : List Char} (hl : '/' ∉ l) :
      (organisation ++ '/' :: l).reverse.takeWhile (· ≠ '/') = l.reverse := by
    rw [List.reverse_append, List.reverse_cons, List.append_assoc, List.takeWhile_append_of_pos]
    · simp
    · intro c hc
      have hne : c ≠ '/' := fun heq => hl (heq ▸ List.mem_reverse.mp hc)
      simpa using hne
  have hlists := congrArg String.toList hsame
  simp only [objectKeyFor, String.toList_append] at hlists
  have hslash : "/".toList = ['/'] := rfl
  rw [hslash, List.append_assoc, List.append_assoc, List.singleton_append,
    List.singleton_append] at hlists
  have hreverse := congrArg (fun l : List Char => l.reverse.takeWhile (· ≠ '/')) hlists
  simp only [hlast h, hlast h'] at hreverse
  exact String.toList_injective (List.reverse_injective hreverse)

/-- An element other than the separator is in one of the parts. -/
theorem exists_mem_splitOn {α : Type} [BEq α] [LawfulBEq α] {a x : α} {l : List α} (hx : x ∈ l)
    (hne : x ≠ a) : ∃ part ∈ l.splitOn a, x ∈ part := by
  induction l with
  | nil => cases hx
  | cons y l ih =>
    rw [List.splitOn_cons_eq_if_modifyHead]
    split
    · rename_i heq
      cases List.mem_cons.mp hx with
      | inl h => exact absurd (h.trans (beq_iff_eq.mp heq)) hne
      | inr h =>
        obtain ⟨part, hpart, hmem⟩ := ih h
        exact ⟨part, List.mem_cons_of_mem _ hpart, hmem⟩
    · obtain ⟨first, rest, hparts⟩ := List.exists_cons_of_ne_nil (List.splitOn_ne_nil a l)
      rw [hparts, List.modifyHead_cons]
      cases List.mem_cons.mp hx with
      | inl h => exact ⟨y :: first, List.mem_cons_self, List.mem_cons.mpr (.inl h)⟩
      | inr h =>
        obtain ⟨part, hpart, hmem⟩ := ih h
        rw [hparts] at hpart
        cases List.mem_cons.mp hpart with
        | inl h => exact ⟨y :: first, List.mem_cons_self, List.mem_cons_of_mem _ (h ▸ hmem)⟩
        | inr h => exact ⟨part, List.mem_cons_of_mem _ h, hmem⟩

theorem slash_of_isUuid {text : String} (h : isUuid text = true) : '/' ∉ text.toList := by
  intro hslash
  obtain ⟨part, hpart, hmem⟩ := exists_mem_splitOn (a := '-') hslash (by decide)
  unfold isUuid at h
  dsimp only at h
  split at h
  · rename_i first second version third variant fourth fifth hparts
    rw [hparts] at hpart
    simp only [decide_eq_true_eq, List.all_eq_true] at h
    obtain ⟨-, -, -, -, -, hfirst, hsecond, hversion, hversion', hthird, hvariant, hfourth, hfifth⟩ := h
    simp only [List.mem_cons, List.not_mem_nil, or_false] at hpart
    obtain rfl | rfl | rfl | rfl | rfl := hpart
    · exact absurd (hfirst _ hmem) (by decide)
    · exact absurd (hsecond _ hmem) (by decide)
    · cases List.mem_cons.mp hmem with
      | inl heq => exact absurd (heq ▸ hversion) (by decide)
      | inr hmem => exact absurd (hthird _ hmem) (by decide)
    · cases List.mem_cons.mp hmem with
      | inl heq => exact absurd (heq ▸ hvariant) (by decide)
      | inr hmem => exact absurd (hfourth _ hmem) (by decide)
    · exact absurd (hfifth _ hmem) (by decide)
  · cases h

/-! ## What an operation holds -/

/-- The id of a row that is not yet committed together with its line. -/
def Operation.held : Operation → Option String
  | .ingestStored _ _ evidenceId | .ingestConflict _ _ evidenceId
  | .ingestExisting _ _ evidenceId _ | .deriveStored _ _ evidenceId => some evidenceId
  | .deriveInserted _ _ derived => some derived.id
  | _ => none

/-- The row it has inserted without a line. -/
def Operation.inserted : Operation → Option Evidence
  | .deriveInserted _ _ derived => some derived
  | _ => none

def Operation.reads (id : String) : Operation → Bool
  | .returning (.metadata row) | .returning (.content row _)
  | .returned (.metadata row) | .returned (.content row _) => row.id = id
  | _ => false

/-- An `INGESTED` line. -/
def Custody.isIngested : Custody → Bool
  | .ingested .. => true
  | _ => false

/-- A `DERIVED` line on the derived row. -/
def Custody.isDerivedFrom : Custody → Bool
  | .derivedFrom .. => true
  | _ => false

/-- A `VIEWED` line. -/
def Custody.isViewed : Custody → Bool
  | .viewedMetadata | .viewedContent _ => true
  | _ => false

structure State.Uncommitted (s : State) (id : String) : Prop where
  drawn : id ∈ s.drawn
  slash : '/' ∉ id.toList
  rows : ∀ row ∈ s.rows, row.id ≠ id

def Operation.Holds (s : State) : Operation → Prop
  | .ingestStored _ input evidenceId =>
    s.Uncommitted evidenceId ∧
      s.objects (objectKeyFor input.organisationId evidenceId) = some input.content
  | .ingestConflict _ _ evidenceId | .ingestExisting _ _ evidenceId _ => s.Uncommitted evidenceId
  | .deriveStored input _ evidenceId =>
    s.Uncommitted evidenceId ∧
      s.objects (objectKeyFor input.organisationId evidenceId) = some input.content
  | .deriveInserted _ original derived =>
    derived ∈ s.rows ∧ derived.derivedFromEvidenceId = some original.id ∧
      ∀ e ∈ s.custody, e.evidenceId = derived.id → e.custody.isDerivedFrom = false
  | _ => True

theorem Operation.held_of_inserted {op : Operation} {row : Evidence} (h : op.inserted = some row) :
    op.held = some row.id := by
  cases op with
  | deriveInserted input original derived => exact congrArg (·.map (·.id)) h
  | _ => cases h

theorem Operation.holds_of_held_none {op : Operation} (h : op.held = none) (s : State) :
    op.Holds s := by
  cases op with
  | ingestStored | ingestConflict | ingestExisting | deriveStored | deriveInserted =>
    cases h
  | _ => trivial

/-! ## One step -/

variable {runtime : Runtime} {s t : State} {op op' : Operation}

/-- What the step of an operation does to the vault. -/
inductive Effect (runtime : Runtime) (s : State) : Operation → State → Operation → Prop
  /-- Nothing is written. -/
  | quiet {op op' : Operation} (inserted : op.inserted = none) (inserted' : op'.inserted = none)
      (held : op'.held = none ∨ op'.held = op.held) (holds : op.Holds s → op'.Holds s)
      (reads : ∀ id, op'.reads id = op.reads id) : Effect runtime s op s op'
  /-- The object of an id it draws is stored. -/
  | put {op op' : Operation} {organisationId uuid : String} {content : Content}
      (free : op.held = none) (hex : isUuid uuid = true) (fresh : uuid ∉ s.drawn)
      (inserted' : op'.inserted = none) (held : op'.held = some uuid)
      (holds : ∀ t : State, t.Uncommitted uuid →
        t.objects (objectKeyFor organisationId uuid) = some content → op'.Holds t)
      (reads : ∀ id, op'.reads id = false) :
      Effect runtime s op ({ s with drawn := uuid :: s.drawn }.putObject
        (objectKeyFor organisationId uuid) content) op'
  /-- A row is committed together with its line. -/
  | ingested (caller : Caller) {input : IngestInput} {evidenceId : String} {task : Option String}
      {draw : Draw}
      (fits : s.rows.any (clashes (ingestRow runtime input evidenceId task draw)) = false) :
      Effect runtime s (.ingestStored caller input evidenceId)
        ({ s with rows := s.rows ++ [ingestRow runtime input evidenceId task draw] }.log
          (ingestRow runtime input evidenceId task draw) input.actor
          (.ingested input.sourceId input.contentType input.content.length))
        (.returning (ingested caller (ingestRow runtime input evidenceId task draw)))
  /-- The object of an id that is given up is removed. -/
  | removed (caller : Caller) (input : IngestInput) (evidenceId : String) (existing : Evidence) :
      Effect runtime s (.ingestExisting caller input evidenceId existing)
        (s.removeObject (objectKeyFor input.organisationId evidenceId))
        (.returning (ingested caller existing))
  /-- A row is committed without a line. -/
  | derived {input : DeriveInput} {original : Evidence} {evidenceId : String} {draw : Draw}
      (fits : s.rows.any (clashes (deriveRow runtime input original evidenceId draw)) = false) :
      Effect runtime s (.deriveStored input original evidenceId)
        { s with rows := s.rows ++ [deriveRow runtime input original evidenceId draw] }
        (.deriveInserted input original (deriveRow runtime input original evidenceId draw))
  /-- The line of a derived row is written. -/
  | derivedLine (input : DeriveInput) (original derived : Evidence) :
      Effect runtime s (.deriveInserted input original derived)
        (s.log derived input.actor (.derivedFrom input.transformLabel original.id))
        (.deriveLogged input original derived)
  /-- Another line is written; whoever reads a row out has written that it is viewed. -/
  | logged {op op' : Operation} {row : Evidence} {actor : Actor} {custody : Custody}
      (free : op.held = none) (free' : op'.held = none) (other : custody.isDerivedFrom = false)
      (reads : ∀ id, op'.reads id = true → row.id = id ∧ custody.isViewed = true) :
      Effect runtime s op (s.log row actor custody) op'

/-- An operation goes on without a write, holding nothing. -/
theorem Effect.free (inserted : op.inserted = none) (held : op'.held = none)
    (reads : ∀ id, op'.reads id = op.reads id) : Effect runtime s op s op' :=
  .quiet inserted (Option.eq_none_iff_forall_ne_some.mpr fun _ h =>
    nomatch held.symm.trans (Operation.held_of_inserted h)) (.inl held) (fun _ => Operation.holds_of_held_none held s) reads

theorem advance_effect {draw : Draw} (h : advance runtime s draw op = some (t, op')) :
    Effect runtime s op t op' := by
  cases op with
  | preserveEventSnapshot input =>
    simp only [advance] at h
    split at h
    · split at h
      · cases h
        exact .free rfl rfl fun _ => rfl
      · split at h
        · cases h
          exact .free rfl rfl fun _ => rfl
        · split at h <;> cases h <;> exact .free rfl rfl fun _ => rfl
    · cases h
      exact .free rfl rfl fun _ => rfl
  | snapshotMissing input =>
    simp only [advance] at h
    split at h <;> cases h <;> exact .free rfl rfl fun _ => rfl
  | ingest caller input =>
    simp only [advance] at h
    split at h
    · rename_i huuid
      cases h
      exact .put rfl huuid.1 huuid.2 rfl rfl (fun _ hid hobject => ⟨hid, hobject⟩) fun _ => rfl
    · cases h
  | ingestStored caller input evidenceId =>
    simp only [advance] at h
    split at h
    · cases h
      exact .free rfl rfl fun _ => rfl
    · split at h
      · split at h
        · cases h
          exact .quiet rfl rfl (.inr rfl) (fun hholds => hholds.1) fun _ => rfl
        · cases h
          exact .free rfl rfl fun _ => rfl
      · rename_i hfits
        cases h
        exact .ingested caller (Bool.eq_false_iff.mpr hfits)
  | ingestConflict caller input evidenceId =>
    simp only [advance] at h
    split at h
    · cases h
      exact .free rfl rfl fun _ => rfl
    · cases h
      exact .quiet rfl rfl (.inr rfl) id fun _ => rfl
  | ingestExisting caller input evidenceId existing =>
    cases h
    exact .removed caller input evidenceId existing
  | derive input =>
    simp only [advance] at h
    split at h <;> cases h <;> exact .free rfl rfl fun _ => rfl
  | deriveFound input original =>
    simp only [advance] at h
    split at h
    · rename_i huuid
      cases h
      exact .put rfl huuid.1 huuid.2 rfl rfl (fun _ hid hobject => ⟨hid, hobject⟩) fun _ => rfl
    · cases h
  | deriveStored input original evidenceId =>
    simp only [advance] at h
    split at h
    · cases h
      exact .free rfl rfl fun _ => rfl
    · rename_i hfits
      cases h
      exact .derived (Bool.eq_false_iff.mpr hfits)
  | deriveInserted input original derived =>
    cases h
    exact .derivedLine input original derived
  | deriveLogged input original derived =>
    cases h
    exact .logged rfl rfl rfl nofun
  | verify evidenceId organisationId actor =>
    simp only [advance] at h
    split at h <;> cases h <;> exact .free rfl rfl fun _ => rfl
  | verifyFound row actor =>
    simp only [advance] at h
    split at h
    · cases h
      exact .free rfl rfl fun _ => rfl
    · cases h
      exact .free rfl rfl fun _ => rfl
    · cases h
  | verifyHashed row actor actualHash =>
    simp only [advance] at h
    split at h <;> cases h <;> exact .logged rfl rfl rfl nofun
  | getMetadata evidenceId organisationId actor =>
    simp only [advance] at h
    split at h <;> cases h <;> exact .free rfl rfl fun _ => rfl
  | getMetadataFound row actor =>
    cases h
    exact .logged rfl rfl rfl fun id hread => ⟨of_decide_eq_true hread, rfl⟩
  | downloadContent evidenceId organisationId purpose actor =>
    simp only [advance] at h
    split at h
    · cases h
      exact .free rfl rfl fun _ => rfl
    · split at h
      · cases h
        exact .free rfl rfl fun _ => rfl
      · split at h <;> cases h <;> exact .free rfl rfl fun _ => rfl
  | downloadFound row purpose actor =>
    simp only [advance] at h
    split at h <;> cases h <;> exact .free rfl rfl fun _ => rfl
  | downloadRead row purpose actor content =>
    cases h
    exact .logged rfl rfl rfl fun id hread => ⟨of_decide_eq_true hread, rfl⟩
  | returning answer =>
    cases h
    exact .free rfl rfl fun id => by cases answer <;> rfl
  | returned answer => cases h
  | thrown => cases h

/-! ## What a step leaves alone -/

namespace Effect

theorem operations_eq (h : Effect runtime s op t op') : t.operations = s.operations := by
  cases h <;> rfl

theorem drawn_subset (h : Effect runtime s op t op') {id : String} (hid : id ∈ s.drawn) :
    id ∈ t.drawn := by
  cases h with
  | put => exact List.mem_cons_of_mem _ hid
  | _ => exact hid

theorem rows_subset (h : Effect runtime s op t op') {row : Evidence} (hrow : row ∈ s.rows) :
    row ∈ t.rows := by
  cases h with
  | ingested | derived => exact List.mem_append_left _ hrow
  | _ => exact hrow

theorem custody_subset (h : Effect runtime s op t op') {e : CustodyEvent} (he : e ∈ s.custody) :
    e ∈ t.custody := by
  cases h with
  | ingested | derivedLine | logged => exact List.mem_append_left _ he
  | _ => exact he

theorem new_row (h : Effect runtime s op t op') {row : Evidence} (hrow : row ∈ t.rows) :
    row ∈ s.rows ∨ op.held = some row.id := by
  cases h with
  | ingested | derived =>
    rcases List.of_mem_concat hrow with hold | rfl
    · exact .inl hold
    · exact .inr rfl
  | _ => exact .inl hrow

/-- A `DERIVED` line that is new is on the row the operation has inserted. -/
theorem new_line (h : Effect runtime s op t op') {e : CustodyEvent} (he : e ∈ t.custody)
    (hderived : e.custody.isDerivedFrom = true) :
    e ∈ s.custody ∨ op.inserted.map (·.id) = some e.evidenceId := by
  cases h with
  | ingested =>
    rcases List.of_mem_concat he with hold | rfl
    · exact .inl hold
    · cases hderived
  | derivedLine =>
    rcases List.of_mem_concat he with hold | rfl
    · exact .inl hold
    · exact .inr rfl
  | logged _ _ other =>
    rcases List.of_mem_concat he with hold | rfl
    · exact .inl hold
    · exact absurd hderived (Bool.eq_false_iff.mp other)
  | _ => exact .inl he

/-- The object of an id that was drawn stays as it is, unless the operation holds the id and the id
    has no row. -/
theorem objects_eq (h : Effect runtime s op t op') (hop : op.Holds s)
    {organisationId id : String} (hdrawn : id ∈ s.drawn) (hslash : '/' ∉ id.toList)
    (hid : op.held ≠ some id ∨ ∃ row ∈ s.rows, row.id = id) :
    t.objects (objectKeyFor organisationId id) = s.objects (objectKeyFor organisationId id) := by
  cases h with
  | put free hex fresh =>
    refine Function.update_of_ne (fun hsame => ?_) _ _
    exact fresh (objectKeyFor_inj hslash (slash_of_isUuid hex) hsame ▸ hdrawn)
  | removed caller input evidenceId existing =>
    have huncommitted : s.Uncommitted evidenceId := hop
    refine Function.update_of_ne (fun hsame => ?_) _ _
    obtain rfl := objectKeyFor_inj hslash huncommitted.slash hsame
    cases hid with
    | inl hother => exact hother rfl
    | inr hrow =>
      obtain ⟨row, hrow, heq⟩ := hrow
      exact huncommitted.rows row hrow heq
  | _ => rfl

end Effect

end Sentinel.EvidenceVault
