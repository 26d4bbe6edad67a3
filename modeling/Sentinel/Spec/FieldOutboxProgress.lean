import Mathlib.Data.List.Count
import Sentinel.ForStd.List
import Sentinel.Native.FieldOutbox

/-! # Progress of the Field outbox sweeps

A sweep reads the first rows that are unpublished, and passes over those whose scope is unsafe, which
stay unpublished.  A row is published after finitely many sweeps exactly where fewer rows of an unsafe
scope are as old as it than a sweep reads. -/

namespace Sentinel.FieldOutbox

open Events (Timestamp)

variable {Row Payload : Type} {publisher : Publisher Row Payload} {limit : Nat}

namespace Publisher

/-- An unpublished row of a safe scope. -/
def isWaiting (publisher : Publisher Row Payload) (row : Row) : Bool :=
  publisher.isPending row && publisher.isSafe row

/-- A row of an unsafe scope that is unpublished and as old as this one. -/
def isAhead (publisher : Publisher Row Payload) (row other : Row) : Bool :=
  publisher.isPending other && !publisher.isSafe other &&
    decide ((publisher.createdAt other).ms ≤ (publisher.createdAt row).ms)

/-- How many rows of unsafe scopes are unpublished and as old as this one. -/
def behind (publisher : Publisher Row Payload) (rows : List Row) (row : Row) : Nat :=
  rows.countP (publisher.isAhead row)

/-! ## One sweep -/

/-- The row is marked by a sweep of the batch. -/
def isHit (publisher : Publisher Row Payload) (batch : List Row) (row : Row) : Bool :=
  publisher.isPending row && batch.any fun read =>
    publisher.isSafe read && decide (publisher.id row = publisher.id read)

variable {rows ordered : List Row} {row : Row}

@[simp] theorem isPending_mark (now : Timestamp) (row : Row) :
    publisher.isPending (publisher.markPublished now row) = false := by
  rw [isPending, publisher.publishedAt_mark]
  rfl

@[simp] theorem isSafe_mark (now : Timestamp) (row : Row) :
    publisher.isSafe (publisher.markPublished now row) = publisher.isSafe row := by
  rw [isSafe, isSafe, publisher.scope_mark]

@[simp] theorem publication_mark (now : Timestamp) (row : Row) :
    publisher.publication (publisher.markPublished now row) = publisher.publication row := by
  rw [publication, publication, publisher.id_mark, publisher.payload_mark, publisher.scope_mark]

/-- A sweep publishes the rows of its batch that it may publish. -/
theorem bus_sweep (now : Timestamp) (batch : List Row) (tables : Tables Row Payload) :
    (publisher.sweep now batch tables).bus =
      tables.bus ++ (batch.filter publisher.isSafe).map publisher.publication := by
  induction batch generalizing tables with
  | nil => exact (List.append_nil _).symm
  | cons row batch ih =>
    rw [sweep]
    split
    · rename_i hsafe
      rw [ih, List.filter_cons_of_pos hsafe, List.map_cons, List.append_assoc, List.singleton_append]
    · rename_i hsafe
      rw [ih, List.filter_cons_of_neg hsafe]

theorem rows_sweep (now : Timestamp) (batch : List Row) (tables : Tables Row Payload) :
    (publisher.sweep now batch tables).rows =
      Table.rewrite (publisher.isHit batch) (publisher.markPublished now) tables.rows := by
  induction batch generalizing tables with
  | nil =>
    refine (Table.rewrite_of_forall_miss fun row _ => ?_).symm
    rw [isHit, List.any_nil, Bool.and_false]
  | cons row batch ih =>
    rw [sweep]
    split
    · rename_i hsafe
      rw [ih]
      simp only [mark, Table.rewrite, List.map_map]
      refine List.map_congr_left fun other _ => ?_
      simp only [Function.comp_apply, isHit, List.any_cons, hsafe, Bool.true_and]
      by_cases hpending : publisher.isPending other = true
      · by_cases hid : publisher.id other = publisher.id row
        · -- what is marked now is not hit again
          simp [hpending, hid]
        · simp [hpending, hid]
      · simp [hpending]
    · rename_i hsafe
      rw [ih]
      have hhit : publisher.isHit (row :: batch) = publisher.isHit batch := by
        funext other
        simp [isHit, hsafe]
      rw [hhit]

/-- Of a table with its key, a sweep marks the rows of its batch that it may publish. -/
theorem isHit_iff {batch : List Row} (hkeyed : (rows.map publisher.id).Nodup)
    (hbatch : ∀ row ∈ batch, row ∈ rows ∧ publisher.isPending row = true)
    (hrow : row ∈ rows) :
    publisher.isHit batch row = true ↔ row ∈ batch ∧ publisher.isSafe row = true := by
  rw [isHit, Bool.and_eq_true, List.any_eq_true]
  constructor
  · rintro ⟨-, read, hread, hmatch⟩
    obtain ⟨hsafe, hid⟩ := Bool.and_eq_true_iff.mp hmatch
    obtain rfl := Table.eq_of_key hkeyed hrow (hbatch read hread).1 (of_decide_eq_true hid)
    exact ⟨hread, hsafe⟩
  · rintro ⟨hread, hsafe⟩
    exact ⟨(hbatch row hread).2, row, hread, Bool.and_eq_true_iff.mpr ⟨hsafe, decide_eq_true rfl⟩⟩

theorem mem_rows_of_mem_take (horder : publisher.IsOrder rows ordered)
    (hrow : row ∈ ordered.take limit) :
    row ∈ rows ∧ publisher.isPending row = true :=
  List.mem_filter.mp (horder.1.mem_iff.mp (List.mem_of_mem_take hrow))

theorem keyed_sweep {now : Timestamp} {batch : List Row} {tables : Tables Row Payload}
    (h : (tables.rows.map publisher.id).Nodup) :
    ((publisher.sweep now batch tables).rows.map publisher.id).Nodup := by
  rw [rows_sweep]
  exact Table.nodup_map_rewrite h fun row => publisher.id_mark now row

/-- A sweep leaves the rows of unsafe scopes as they are. -/
theorem behind_sweep {now : Timestamp} {tables : Tables Row Payload}
    (hkeyed : (tables.rows.map publisher.id).Nodup)
    (horder : publisher.IsOrder tables.rows ordered) (row : Row) :
    publisher.behind (publisher.sweep now (ordered.take limit) tables).rows row =
      publisher.behind tables.rows row := by
  rw [behind, behind, rows_sweep, Table.rewrite, List.countP_map]
  refine List.countP_congr fun other hother => ?_
  rw [Function.comp_apply]
  split
  · rename_i hhit
    have hsafe := ((isHit_iff hkeyed (fun _ => mem_rows_of_mem_take horder) hother).mp hhit).2
    simp [isAhead, hsafe]
  · exact Iff.rfl

/-! ## What a batch holds -/

/-- With fewer rows behind a waiting row than a sweep reads, the sweep reads a waiting row. -/
theorem mem_batch_of_behind (horder : publisher.IsOrder rows ordered) (hrow : row ∈ rows)
    (hwaiting : publisher.isWaiting row = true)
    (hbehind : publisher.behind rows row < limit) :
    ∃ read ∈ ordered.take limit, publisher.isWaiting read = true := by
  by_contra hnone
  have hdone : ∀ read ∈ ordered.take limit, publisher.isWaiting read = false := fun read hread =>
    Bool.eq_false_iff.mpr fun h => hnone ⟨read, hread, h⟩
  obtain ⟨hpending, -⟩ := Bool.and_eq_true_iff.mp hwaiting
  have hmem : row ∈ ordered := horder.1.mem_iff.mpr (List.mem_filter.mpr ⟨hrow, hpending⟩)
  rw [← List.take_append_drop limit ordered] at hmem
  have hdrop : row ∈ ordered.drop limit := by
    cases List.mem_append.mp hmem with
    | inl htake => exact absurd hwaiting (Bool.eq_false_iff.mp (hdone row htake))
    | inr hdrop => exact hdrop
  have hfull : (ordered.take limit).length = limit := by
    have hpos := List.length_pos_of_mem hdrop
    rw [List.length_drop] at hpos
    rw [List.length_take]
    omega
  -- all of the batch is ahead of the row
  have hahead : ∀ read ∈ ordered.take limit, publisher.isAhead row read = true := by
    intro read hread
    have hread' := (mem_rows_of_mem_take horder hread).2
    have hsorted := horder.2
    rw [← List.take_append_drop limit ordered, List.pairwise_append] at hsorted
    have hle := hsorted.2.2 read hread row hdrop
    have hnot := hdone read hread
    rw [isWaiting, hread', Bool.true_and] at hnot
    simp [isAhead, hread', hnot, hle]
  have hcount : limit ≤ publisher.behind rows row := by
    calc limit = (ordered.take limit).countP (publisher.isAhead row) := by
          rw [List.countP_eq_length.mpr hahead, hfull]
      _ ≤ ordered.countP (publisher.isAhead row) := (List.take_sublist _ _).countP_le
      _ = (rows.filter publisher.isPending).countP (publisher.isAhead row) := horder.1.countP_eq _
      _ ≤ rows.countP (publisher.isAhead row) := List.filter_sublist.countP_le
  omega

/-- An order in which the database may return the rows: of rows created at once, those of unsafe
    scopes first. -/
def unsafeFirst (publisher : Publisher Row Payload) (rows : List Row) : List Row :=
  (rows.filter publisher.isPending).mergeSort fun a b =>
    decide ((publisher.createdAt a).ms < (publisher.createdAt b).ms) ||
      decide ((publisher.createdAt a).ms = (publisher.createdAt b).ms) &&
        (!publisher.isSafe a || publisher.isSafe b)

theorem unsafeFirst_pairwise (rows : List Row) :
    (publisher.unsafeFirst rows).Pairwise fun a b =>
      (publisher.createdAt a).ms < (publisher.createdAt b).ms ∨
        (publisher.createdAt a).ms = (publisher.createdAt b).ms ∧
          (publisher.isSafe a = true → publisher.isSafe b = true) := by
  refine (List.pairwise_mergeSort ?_ ?_ _).imp ?_
  · intro a b c hab hbc
    simp at hab hbc ⊢
    grind
  · intro a b
    simp
    grind
  · intro a b hab
    simp at hab
    grind

theorem unsafeFirst_isOrder (rows : List Row) :
    publisher.IsOrder rows (publisher.unsafeFirst rows) := by
  refine ⟨List.mergeSort_perm _ _, (unsafeFirst_pairwise rows).imp fun hab => ?_⟩
  omega

/-- In that order a sweep does not read a row with as many rows behind it as the sweep reads. -/
theorem notMem_batch_of_behind
    (hwaiting : publisher.isWaiting row = true) (hbehind : limit ≤ publisher.behind rows row) :
    row ∉ (publisher.unsafeFirst rows).take limit := by
  intro hread
  obtain ⟨-, hsafe⟩ := Bool.and_eq_true_iff.mp hwaiting
  have hself : publisher.isAhead row row = false := by simp [isAhead, hsafe]
  have hpairwise : (publisher.unsafeFirst rows).Pairwise _ := unsafeFirst_pairwise rows
  rw [← List.take_append_drop limit (publisher.unsafeFirst rows), List.pairwise_append] at hpairwise
  -- what the sweep does not read is not ahead of the row
  have hrest : ((publisher.unsafeFirst rows).drop limit).countP (publisher.isAhead row) = 0 := by
    refine List.countP_eq_zero.mpr fun other hother hahead => ?_
    have hle := hpairwise.2.2 row hread other hother
    simp only [isAhead, Bool.and_eq_true, Bool.not_eq_true', decide_eq_true_eq] at hahead
    obtain ⟨⟨-, hnotSafe⟩, hcreated⟩ := hahead
    obtain hlt | ⟨-, himp⟩ := hle
    · omega
    · rw [himp hsafe] at hnotSafe
      exact Bool.noConfusion hnotSafe
  have hcount : publisher.behind rows row =
      ((publisher.unsafeFirst rows).take limit).countP (publisher.isAhead row) := by
    calc publisher.behind rows row
        = (rows.filter publisher.isPending).countP (publisher.isAhead row) := by
          rw [List.countP_filter]
          refine List.countP_congr fun other _ => ?_
          simp only [isAhead, Bool.and_eq_true]
          tauto
      _ = (publisher.unsafeFirst rows).countP (publisher.isAhead row) :=
          ((unsafeFirst_isOrder rows).1.countP_eq _).symm
      _ = _ := by
          rw [← List.take_append_drop limit (publisher.unsafeFirst rows), List.countP_append, hrest,
            Nat.add_zero, List.take_append_drop]
  have hlt : ((publisher.unsafeFirst rows).take limit).countP (publisher.isAhead row) <
      ((publisher.unsafeFirst rows).take limit).length :=
    List.countP_lt_length_iff.mpr ⟨row, hread, hself⟩
  rw [List.length_take] at hlt
  omega

/-! ## Sweeps -/

section Sweeps

variable {order : Nat → List Row → List Row} {now : Nat → Timestamp} {tables : Tables Row Payload}

theorem keyed_sweeps (hkeyed : (tables.rows.map publisher.id).Nodup) (n : Nat) :
    ((publisher.sweeps limit order now tables n).rows.map publisher.id).Nodup := by
  induction n with
  | zero => exact hkeyed
  | succ n ih => exact keyed_sweep ih

theorem behind_sweeps (horder : ∀ n rows, publisher.IsOrder rows (order n rows))
    (hkeyed : (tables.rows.map publisher.id).Nodup) (n : Nat) (row : Row) :
    publisher.behind (publisher.sweeps limit order now tables n).rows row =
      publisher.behind tables.rows row := by
  induction n with
  | zero => rfl
  | succ n ih => rw [sweeps, behind_sweep (keyed_sweeps hkeyed n) (horder n _), ih]

theorem mem_of_waiting_sweep {now : Timestamp} {batch : List Row} {row : Row}
    (hrow : row ∈ (publisher.sweep now batch tables).rows)
    (hwaiting : publisher.isWaiting row = true) : row ∈ tables.rows := by
  rw [rows_sweep] at hrow
  obtain ⟨old, hold, rfl⟩ := Table.mem_rewrite.mp hrow
  split at hwaiting
  · rw [isWaiting, isPending_mark] at hwaiting
    exact Bool.noConfusion hwaiting
  · rename_i hmiss
    rwa [if_neg hmiss]

/-- A sweep that reads a waiting row leaves fewer of them. -/
theorem countP_waiting_sweep (now : Timestamp) {ordered : List Row}
    (hkeyed : (tables.rows.map publisher.id).Nodup)
    (horder : publisher.IsOrder tables.rows ordered) {read : Row}
    (hread : read ∈ ordered.take limit) (hwaiting : publisher.isWaiting read = true) :
    (publisher.sweep now (ordered.take limit) tables).rows.countP publisher.isWaiting <
      tables.rows.countP publisher.isWaiting := by
  rw [rows_sweep, Table.rewrite, List.countP_map]
  have hmem := (mem_rows_of_mem_take horder hread).1
  refine List.countP_lt_countP (fun row _ hrow => ?_) hmem hwaiting ?_
  · rw [Function.comp_apply] at hrow
    split at hrow
    · rw [isWaiting, isPending_mark] at hrow
      exact Bool.noConfusion hrow
    · exact hrow
  · have hhit := (isHit_iff hkeyed (fun _ => mem_rows_of_mem_take horder) hmem).mpr
      ⟨hread, (Bool.and_eq_true_iff.mp hwaiting).2⟩
    rw [Function.comp_apply, if_pos hhit, isWaiting, isPending_mark]
    exact Bool.noConfusion

theorem mem_of_waiting_sweeps {n : Nat} {row : Row}
    (hrow : row ∈ (publisher.sweeps limit order now tables n).rows)
    (hwaiting : publisher.isWaiting row = true) : row ∈ tables.rows := by
  induction n with
  | zero => exact hrow
  | succ n ih => exact ih (mem_of_waiting_sweep hrow hwaiting)

/-- With fewer rows behind every waiting row than a sweep reads, each sweep leaves fewer of them. -/
theorem countP_waiting_sweeps (now : Nat → Timestamp)
    (horder : ∀ n rows, publisher.IsOrder rows (order n rows))
    (hkeyed : (tables.rows.map publisher.id).Nodup)
    (hbehind : ∀ row ∈ tables.rows, publisher.isWaiting row = true →
      publisher.behind tables.rows row < limit) (n : Nat) :
    (publisher.sweeps limit order now tables n).rows.countP publisher.isWaiting ≤
      tables.rows.countP publisher.isWaiting - n := by
  induction n with
  | zero => exact le_rfl
  | succ n ih =>
    by_cases hnone : (publisher.sweeps limit order now tables n).rows.countP publisher.isWaiting = 0
    · have hle : (publisher.sweeps limit order now tables (n + 1)).rows.countP publisher.isWaiting =
          0 := by
        refine List.countP_eq_zero.mpr fun row hrow hwaiting => ?_
        exact List.countP_eq_zero.mp hnone row (mem_of_waiting_sweep hrow hwaiting) hwaiting
      omega
    · obtain ⟨row, hrow, hwaiting⟩ := List.countP_pos_iff.mp (Nat.pos_of_ne_zero hnone)
      have hfew := hbehind row (mem_of_waiting_sweeps hrow hwaiting) hwaiting
      rw [← behind_sweeps horder hkeyed n row] at hfew
      obtain ⟨read, hread, hreads⟩ := mem_batch_of_behind (horder n _) hrow hwaiting hfew
      have hless := countP_waiting_sweep (now n) (keyed_sweeps hkeyed n) (horder n _) hread hreads
      rw [sweeps]
      omega

/-- A row with as many rows behind it as a sweep reads can wait for ever. -/
theorem waiting_forever (now : Nat → Timestamp) (hkeyed : (tables.rows.map publisher.id).Nodup)
    {row : Row} (hrow : row ∈ tables.rows) (hwaiting : publisher.isWaiting row = true)
    (hbehind : limit ≤ publisher.behind tables.rows row) (n : Nat) :
    row ∈ (publisher.sweeps limit (fun _ => publisher.unsafeFirst) now tables n).rows := by
  induction n with
  | zero => exact hrow
  | succ n ih =>
    have hmany := hbehind
    have hsame : publisher.behind
        (publisher.sweeps limit (fun _ => publisher.unsafeFirst) now tables n).rows row = _ :=
      behind_sweeps (fun _ => unsafeFirst_isOrder) hkeyed n row
    rw [← hsame] at hmany
    rw [sweeps, rows_sweep]
    refine Table.mem_rewrite_of_miss ih (Bool.eq_false_iff.mpr fun hhit => ?_)
    have hread := ((isHit_iff (keyed_sweeps hkeyed n)
      (fun _ => mem_rows_of_mem_take (unsafeFirst_isOrder _)) ih).mp hhit).1
    exact notMem_batch_of_behind hwaiting hmany hread

end Sweeps

end Publisher

/-! ## Runs -/

section Runs

variable {s t : State Row Payload} {label : Label Row}

/-- What a sweep has read is a row of the table, as it would be published. -/
def IsRead (publisher : Publisher Row Payload) (rows : List Row) (read : Row) : Prop :=
  ∃ row ∈ rows, publisher.publication row = publisher.publication read

/-- The table has its key, what is marked has been published, and the sweeps hold what they have
    read and published. -/
structure Inv (publisher : Publisher Row Payload) (s : State Row Payload) : Prop where
  keyed : (s.tables.rows.map publisher.id).Nodup
  published : ∀ row ∈ s.tables.rows, publisher.isPending row = false →
    publisher.publication row ∈ s.tables.bus
  read : ∀ sweep ∈ s.sweeps, ∀ row ∈ sweep.left, IsRead publisher s.tables.rows row
  flushed : ∀ sweep ∈ s.sweeps, ∀ row, sweep.flushed = some row →
    IsRead publisher s.tables.rows row ∧ publisher.publication row ∈ s.tables.bus

theorem initial_inv : Inv publisher (State.initial Row Payload) where
  keyed := List.nodup_nil
  published _ hrow := absurd hrow List.not_mem_nil
  read _ hsweep := absurd hsweep List.not_mem_nil
  flushed _ hsweep := absurd hsweep List.not_mem_nil

/-- Reads stay reads while rows keep what is published of them. -/
theorem IsRead.mono {rows rows' : List Row} {read : Row} (h : IsRead publisher rows read)
    (hrows : ∀ row ∈ rows, ∃ row' ∈ rows', publisher.publication row' = publisher.publication row) :
    IsRead publisher rows' read := by
  obtain ⟨row, hrow, hsame⟩ := h
  obtain ⟨row', hrow', hsame'⟩ := hrows row hrow
  exact ⟨row', hrow', hsame'.trans hsame⟩

/-- The rows and the sweeps, when one sweep changes and the table does not. -/
theorem Inv.set_sweep (h : Inv publisher s) (i : Nat) (next : Sweep Row)
    (bus : List (Publication Payload))
    (hread : ∀ row ∈ next.left, IsRead publisher s.tables.rows row)
    (hflushed : ∀ row, next.flushed = some row → IsRead publisher s.tables.rows row ∧
      publisher.publication row ∈ s.tables.bus ++ bus) :
    Inv publisher ⟨⟨s.tables.rows, s.tables.bus ++ bus⟩, s.sweeps.set i next⟩ where
  keyed := h.keyed
  published row hrow hmarked := List.mem_append_left _ (h.published row hrow hmarked)
  read sweep hsweep := by
    cases List.mem_or_eq_of_mem_set hsweep with
    | inl hold => exact h.read sweep hold
    | inr hnext => exact hnext ▸ hread
  flushed sweep hsweep := by
    cases List.mem_or_eq_of_mem_set hsweep with
    | inl hold =>
      intro row hrow
      obtain ⟨hold', hbus⟩ := h.flushed sweep hold row hrow
      exact ⟨hold', List.mem_append_left _ hbus⟩
    | inr hnext => exact hnext ▸ hflushed

theorem step_inv [DecidableEq Row] (h : Inv publisher s) (hstep : step publisher limit s label = some t) :
    Inv publisher t := by
  cases label with
  | insert row =>
    simp only [step] at hstep
    split at hstep
    · rename_i hfits
      cases hstep
      have hkept : ∀ other ∈ s.tables.rows, ∃ row' ∈ s.tables.rows ++ [row],
          publisher.publication row' = publisher.publication other := fun other hother =>
        ⟨other, List.mem_append_left _ hother, rfl⟩
      refine ⟨Table.nodup_map_concat h.keyed hfits.2, fun other hother hmarked => ?_,
        fun sweep hsweep other hother => (h.read sweep hsweep other hother).mono hkept,
        fun sweep hsweep other hother => ?_⟩
      · cases List.mem_append.mp hother with
        | inl hold => exact h.published other hold hmarked
        | inr hnew =>
          rw [List.mem_singleton.mp hnew, hfits.1] at hmarked
          exact Bool.noConfusion hmarked
      · obtain ⟨hread, hbus⟩ := h.flushed sweep hsweep other hother
        exact ⟨hread.mono hkept, hbus⟩
    · cases hstep
  | start ordered =>
    simp only [step] at hstep
    split at hstep
    · rename_i horder
      cases hstep
      refine ⟨h.keyed, h.published, fun sweep hsweep row hrow => ?_, fun sweep hsweep row hrow => ?_⟩
      · rcases List.of_mem_concat hsweep with hold | rfl
        · exact h.read sweep hold row hrow
        · exact ⟨row, (Publisher.mem_rows_of_mem_take horder hrow).1, rfl⟩
      · rcases List.of_mem_concat hsweep with hold | rfl
        · exact h.flushed sweep hold row hrow
        · cases hrow
    · cases hstep
  | publish i accepted =>
    simp only [step] at hstep
    split at hstep
    · rename_i row left hi
      have hleft := h.read _ (List.mem_of_getElem? hi)
      have hrest : ∀ other ∈ left, IsRead publisher s.tables.rows other := fun other hother =>
        hleft other (List.mem_cons_of_mem _ hother)
      split at hstep
      · cases hstep
        simpa using h.set_sweep i ⟨left, none⟩ [] hrest nofun
      · split at hstep
        · cases hstep
          refine h.set_sweep i ⟨left, some row⟩ _ hrest fun other hother => ?_
          cases hother
          exact ⟨hleft _ List.mem_cons_self, List.mem_append_right _ List.mem_cons_self⟩
        · cases hstep
          simpa using h.set_sweep i ⟨[], none⟩ [] (fun _ hrow => absurd hrow List.not_mem_nil) nofun
    · cases hstep
  | mark i now marked =>
    simp only [step] at hstep
    split at hstep
    · rename_i left row hi
      have hmem := List.mem_of_getElem? hi
      obtain ⟨⟨stored, hstored, hsame⟩, hbus⟩ := h.flushed _ hmem row rfl
      split at hstep
      · cases hstep
        have hkept : ∀ other ∈ s.tables.rows, ∃ row' ∈ publisher.mark now row s.tables.rows,
            publisher.publication row' = publisher.publication other := by
          intro other hother
          by_cases hhit : publisher.id other = publisher.id row ∧ publisher.isPending other = true
          · exact ⟨_, Table.mem_rewrite_of_hit hother (decide_eq_true hhit),
              Publisher.publication_mark now other⟩
          · exact ⟨other, Table.mem_rewrite_of_miss hother (decide_eq_false hhit), rfl⟩
        refine ⟨Table.nodup_map_rewrite h.keyed (publisher.id_mark now), fun other hother hmarked => ?_,
          fun sweep hsweep other hother => ?_, fun sweep hsweep other hother => ?_⟩
        · obtain ⟨old, hold, rfl⟩ := Table.mem_rewrite.mp hother
          by_cases hhit : decide (publisher.id old = publisher.id row ∧
              publisher.isPending old = true) = true
          · -- the key names the row that was read
            rw [if_pos hhit]
            have hid : publisher.id old = publisher.id stored :=
              (of_decide_eq_true hhit).1.trans (congrArg Publication.rowId hsame).symm
            obtain rfl := Table.eq_of_key h.keyed hold hstored hid
            rw [Publisher.publication_mark, hsame]
            exact hbus
          · rw [if_neg hhit] at hmarked ⊢
            exact h.published old hold hmarked
        · cases List.mem_or_eq_of_mem_set hsweep with
          | inl hold => exact (h.read sweep hold other hother).mono hkept
          | inr hnext =>
            obtain rfl := hnext
            exact (h.read _ hmem other hother).mono hkept
        · cases List.mem_or_eq_of_mem_set hsweep with
          | inl hold =>
            obtain ⟨hread, hbus'⟩ := h.flushed sweep hold other hother
            exact ⟨hread.mono hkept, hbus'⟩
          | inr hnext =>
            obtain rfl := hnext
            cases hother
      · cases hstep
        simpa using h.set_sweep i ⟨[], none⟩ [] (fun _ hrow => absurd hrow List.not_mem_nil) nofun
    · cases hstep

theorem run_inv [DecidableEq Row] {labels : List (Label Row)}
    (hrun : Transition.run (step publisher limit) (State.initial Row Payload) labels = some s) :
    Inv publisher s :=
  Transition.run_invariant step_inv initial_inv hrun

/-- Nothing is marked that was not published; the next sweep, whatever the database returns first of
    rows created at once, publishes a waiting row if there is one; and after some number of sweeps no
    row is waiting. -/
structure MakesProgress (publisher : Publisher Row Payload) (limit : Nat) (s : State Row Payload) :
    Prop where
  published : ∀ row ∈ s.tables.rows, publisher.publishedAt row ≠ none →
    publisher.publication row ∈ s.tables.bus
  sweep : ∀ ordered now, publisher.IsOrder s.tables.rows ordered →
    (∃ row ∈ s.tables.rows, publisher.isWaiting row = true) →
    ∃ row ∈ s.tables.rows, publisher.isWaiting row = true ∧ ∃ added,
      (publisher.sweep now (ordered.take limit) s.tables).bus = s.tables.bus ++ added ∧
        publisher.publication row ∈ added
  sweeps : ∀ order now, (∀ n rows, publisher.IsOrder rows (order n rows)) →
    ∃ n, ∀ row ∈ (publisher.sweeps limit order now s.tables n).rows, publisher.isWaiting row = false

/-- Sweeps make progress exactly where, for every waiting row, fewer unpublished rows of an unsafe
    scope are as old as it than a sweep reads. -/
theorem outbox_progress_iff [DecidableEq Row] {labels : List (Label Row)}
    (hrun : Transition.run (step publisher limit) (State.initial Row Payload) labels = some s) :
    MakesProgress publisher limit s ↔
      ∀ row ∈ s.tables.rows, publisher.isWaiting row = true →
        publisher.behind s.tables.rows row < limit := by
  have hinv := run_inv hrun
  constructor
  · intro hprogress row hrow hwaiting
    by_contra hmany
    have hforever := fun now => Publisher.waiting_forever now hinv.keyed hrow hwaiting
      (Nat.not_lt.mp hmany)
    obtain ⟨n, hnone⟩ := hprogress.sweeps (fun _ => publisher.unsafeFirst)
      (fun _ => ⟨0, by decide⟩) fun _ => Publisher.unsafeFirst_isOrder
    rw [hnone row (hforever _ n)] at hwaiting
    exact Bool.noConfusion hwaiting
  · intro hbehind
    refine ⟨fun row hrow hmarked => hinv.published row hrow ?_, ?_, fun order now horder => ?_⟩
    · rw [Publisher.isPending, Option.isNone_eq_false_iff, Option.isSome_iff_ne_none]
      exact hmarked
    · rintro ordered now horder ⟨row, hrow, hwaiting⟩
      obtain ⟨read, hread, hreads⟩ :=
        Publisher.mem_batch_of_behind horder hrow hwaiting (hbehind row hrow hwaiting)
      refine ⟨read, (Publisher.mem_rows_of_mem_take horder hread).1, hreads, _,
        Publisher.bus_sweep now _ _, List.mem_map_of_mem (List.mem_filter.mpr ⟨hread, ?_⟩)⟩
      exact (Bool.and_eq_true_iff.mp hreads).2
    · refine ⟨s.tables.rows.countP publisher.isWaiting, fun row hrow => ?_⟩
      have hzero := Publisher.countP_waiting_sweeps now horder hinv.keyed hbehind
        (s.tables.rows.countP publisher.isWaiting)
      rw [Nat.sub_self, Nat.le_zero, List.countP_eq_zero] at hzero
      exact Bool.eq_false_iff.mpr (hzero row hrow)

theorem run_inserts [DecidableEq Row] {publisher : Publisher Row Payload} {rows : List Row}
    (hpending : ∀ row ∈ rows, publisher.isPending row = true)
    (hids : ((s.tables.rows ++ rows).map publisher.id).Nodup) :
    Transition.run (step publisher limit) s (rows.map .insert) =
      some { s with tables := { s.tables with rows := s.tables.rows ++ rows } } := by
  induction rows generalizing s with
  | nil => simp
  | cons row rows ih =>
    have hnew : ∀ other ∈ s.tables.rows, publisher.id other ≠ publisher.id row := by
      rw [List.map_append, List.nodup_append] at hids
      exact fun other hother =>
        hids.2.2 _ (List.mem_map_of_mem hother) _ (List.mem_map_of_mem List.mem_cons_self)
    have hrest := ih (s := { s with tables := { s.tables with rows := s.tables.rows ++ [row] } })
      (fun other hother => hpending other (List.mem_cons_of_mem _ hother))
      (by rwa [List.append_cons] at hids)
    refine Transition.run_cons_eq_some.mpr
      ⟨_, if_pos ⟨hpending row List.mem_cons_self, hnew⟩, ?_⟩
    simpa only [List.append_assoc, List.singleton_append] using hrest

end Runs

/-! ## Poisoned rows -/

def notificationFor (recipientUserId : String) (n : Nat) (h : n < 253402300800000 := by decide) :
    Sentinel.Field.MessageOutboxRow where
  id := toString n
  organisationId := "org-a"
  siteId := "site-a"
  recipientUserId := recipientUserId
  incidentId := "incident-1"
  messageId := "message-1"
  createdAt := ⟨n, by omega⟩
  publishedAt := none

/-- Notifications for a user whose id is no token, and then one for a user whose id is one. -/
def poisonedRun (poisoned : Fin 1000) : List (Label Sentinel.Field.MessageOutboxRow) :=
  (List.finRange poisoned).map (fun n => .insert (notificationFor "user.1" n (by omega))) ++
    [.insert (notificationFor "user-2" 2000)]

/-- One poisoned row does not keep the other one from being published. -/
theorem outbox_progress_one :
    ∃ s, Transition.run (step fieldMessagingOutboxPublisher 100) (State.initial _ _) (poisonedRun 1) =
        some s ∧ MakesProgress fieldMessagingOutboxPublisher 100 s := by
  have hends : (Transition.run (step fieldMessagingOutboxPublisher 100) (State.initial _ _)
      (poisonedRun 1)).any (fun s => s.tables.rows.all fun row =>
        !fieldMessagingOutboxPublisher.isWaiting row ||
          decide (fieldMessagingOutboxPublisher.behind s.tables.rows row < 100)) = true := by
    decide +kernel
  obtain ⟨s, hrun, hfew⟩ := (Option.any_eq_true _ _).mp hends
  refine ⟨s, hrun, (outbox_progress_iff hrun).mpr fun row hrow hwaiting => ?_⟩
  have hrow' := List.all_eq_true.mp hfew row hrow
  rw [hwaiting, Bool.not_true, Bool.false_or] at hrow'
  exact of_decide_eq_true hrow'

/-- The rows of `poisonedRun`. -/
def poisonedRows (poisoned : Fin 1000) : List Sentinel.Field.MessageOutboxRow :=
  (List.finRange poisoned).map (fun n : Fin poisoned => notificationFor "user.1" n.val (by omega)) ++
    [notificationFor "user-2" 2000]

theorem repr_injective : Function.Injective Nat.repr := fun m n h => by
  have hdigits := congrArg (fun text => Nat.ofDigitChars 10 text.toList 0) h
  simpa only [Nat.toList_repr, Nat.ofDigitChars_toDigits (by decide : 1 < 10) (Nat.le_refl 10)]
    using hdigits

theorem nodup_poisonedRows (poisoned : Fin 1000) :
    ((poisonedRows poisoned).map fieldMessagingOutboxPublisher.id).Nodup := by
  have hids : (poisonedRows poisoned).map fieldMessagingOutboxPublisher.id =
      ((List.finRange poisoned).map Fin.val ++ [2000]).map Nat.repr := by
    simp only [poisonedRows, List.map_append, List.map_map]
    rfl
  rw [hids]
  refine List.Nodup.map repr_injective (List.nodup_append.mpr
    ⟨(List.nodup_finRange _).map Fin.val_injective, List.nodup_singleton _, fun a ha b hb => ?_⟩)
  obtain ⟨n, -, rfl⟩ := List.mem_map.mp ha
  rw [List.mem_singleton.mp hb]
  omega

theorem isPending_poisonedRows {poisoned : Fin 1000} :
    ∀ row ∈ poisonedRows poisoned, fieldMessagingOutboxPublisher.isPending row = true := by
  intro row hrow
  obtain hrow | hrow := List.mem_append.mp hrow
  · obtain ⟨n, -, rfl⟩ := List.mem_map.mp hrow
    rfl
  · rw [List.mem_singleton.mp hrow]
    rfl

theorem run_poisonedRun {limit : Nat} (poisoned : Fin 1000) :
    Transition.run (step fieldMessagingOutboxPublisher limit) (State.initial _ _)
      (poisonedRun poisoned) = some ⟨⟨poisonedRows poisoned, []⟩, []⟩ := by
  have hinserts : poisonedRun poisoned = (poisonedRows poisoned).map .insert := by
    simp only [poisonedRun, poisonedRows, List.map_append, List.map_map]
    rfl
  rw [hinserts]
  exact run_inserts (s := State.initial _ _) isPending_poisonedRows (nodup_poisonedRows poisoned)

/-- A hundred poisoned rows do: a sweep publishes nothing. -/
theorem outbox_no_progress :
    ∃ s, Transition.run (step fieldMessagingOutboxPublisher 100) (State.initial _ _)
        (poisonedRun 100) = some s ∧
      (∃ row ∈ s.tables.rows, fieldMessagingOutboxPublisher.isWaiting row = true) ∧
      (∃ ordered, fieldMessagingOutboxPublisher.IsOrder s.tables.rows ordered ∧
        ∀ now, (fieldMessagingOutboxPublisher.sweep now (ordered.take 100) s.tables).bus =
          s.tables.bus) ∧
      ¬ MakesProgress fieldMessagingOutboxPublisher 100 s := by
  have hpairwise : (poisonedRows 100).Pairwise fun a b =>
      (fieldMessagingOutboxPublisher.createdAt a).ms ≤
        (fieldMessagingOutboxPublisher.createdAt b).ms := by
    refine List.pairwise_append.mpr ⟨List.pairwise_map.mpr
      ((List.pairwise_le_finRange _).imp Int.ofNat_le.mpr), List.pairwise_singleton .., ?_⟩
    intro row hrow last hlast
    obtain ⟨n, -, rfl⟩ := List.mem_map.mp hrow
    rw [List.mem_singleton.mp hlast]
    exact Int.ofNat_le.mpr (Nat.le_trans n.isLt.le (by decide : 100 ≤ 2000))
  have horder : fieldMessagingOutboxPublisher.IsOrder (poisonedRows 100) (poisonedRows 100) :=
    ⟨by rw [List.filter_eq_self.mpr isPending_poisonedRows], hpairwise⟩
  have hsome : ∃ row ∈ poisonedRows 100, fieldMessagingOutboxPublisher.isWaiting row = true :=
    ⟨_, List.mem_append_right _ (List.mem_singleton_self _), by decide +kernel⟩
  have hnone : ((poisonedRows 100).take 100).filter fieldMessagingOutboxPublisher.isSafe = [] := by
    rw [poisonedRows, List.take_left' (by simp)]
    refine List.filter_eq_nil_iff.mpr fun row hrow hsafe => ?_
    obtain ⟨n, -, rfl⟩ := List.mem_map.mp hrow
    have hunsafe : Events.isSafeSubjectToken "user.1" = false := by decide +kernel
    exact Bool.eq_false_iff.mp hunsafe (Bool.and_eq_true_iff.mp hsafe).2
  have hbus : ∀ now, (fieldMessagingOutboxPublisher.sweep now ((poisonedRows 100).take 100)
      ⟨poisonedRows 100, []⟩).bus = [] := fun now => by
    rw [Publisher.bus_sweep, hnone, List.map_nil, List.append_nil]
  refine ⟨_, run_poisonedRun 100, hsome, ⟨poisonedRows 100, horder, hbus⟩, fun hprogress => ?_⟩
  obtain ⟨row, -, -, added, hadded, hmem⟩ :=
    hprogress.sweep (poisonedRows 100) ⟨0, by decide⟩ horder hsome
  rw [hbus, List.nil_append] at hadded
  rw [← hadded] at hmem
  exact absurd hmem List.not_mem_nil

end Sentinel.FieldOutbox
