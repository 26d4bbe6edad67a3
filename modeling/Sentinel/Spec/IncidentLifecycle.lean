import Sentinel.ForStd.Except
import Sentinel.ForStd.List
import Sentinel.Native.IncidentStatus

/-! # The life of an incident's status

However stale the reads of the calls, the timeline of an incident is the one path to its
status. -/

namespace Sentinel.IncidentStatus

open Table (Grows)

def Status.path : Status → List (Status × Status)
  | .opened => []
  | .contained => [(.opened, .contained)]
  | .closed => [(.opened, .contained), (.contained, .closed)]

theorem Status.path_of_allowed {source status : Status} (h : status ∈ allowed source) :
    status.path = source.path ++ [(source, status)] := by
  revert h
  cases source <;> cases status <;> decide

def Db.transitions (db : Db) (id : String) : List (Status × Status) :=
  (db.timeline.filter fun entry => entry.incidentId = id).map fun entry =>
    (entry.fromStatus, entry.toStatus)

/-- Exactly a closed row has a closing time, and a reason that says something. -/
def IncidentRow.Settled (row : IncidentRow) : Prop :=
  if row.status = .closed then
    (∃ text ≠ "", row.closureReason = some text ∧ JsText.trim text = text) ∧ row.closedAt.isSome
  else row.closureReason = none ∧ row.closedAt = none

structure Lifecycle (db : Db) : Prop where
  known : ∀ entry ∈ db.timeline, ∃ row ∈ db.incidents, row.id = entry.incidentId
  history : ∀ row ∈ db.incidents, db.transitions row.id = row.status.path
  settled : ∀ row ∈ db.incidents, row.Settled

def IncidentRow.Later (row row' : IncidentRow) : Prop :=
  row'.id = row.id ∧ row.status.path <+: row'.status.path ∧ (row.status = .closed → row' = row)

theorem IncidentRow.Later.refl (row : IncidentRow) : row.Later row :=
  ⟨rfl, List.prefix_rfl, fun _ => rfl⟩

theorem IncidentRow.Later.trans (a b c : IncidentRow) (h₁ : a.Later b) (h₂ : b.Later c) :
    a.Later c := by
  obtain ⟨hid, hpath, hclosed⟩ := h₁
  obtain ⟨hid', hpath', hclosed'⟩ := h₂
  refine ⟨hid'.trans hid, hpath.trans hpath', fun h => ?_⟩
  obtain rfl := hclosed h
  exact hclosed' h

theorem check_eq_ok {source : Status} {input : IncidentTransitionInput} {reason : Option String}
    (h : check source input = .ok reason) : input.status ∈ allowed source ∧
      if input.status = .closed then ∃ text ≠ "", reason = some text ∧ JsText.trim text = text
      else reason = none := by
  unfold check at h
  simp only at h
  split at h
  · cases h
  · rename_i hallowed
    refine ⟨by simpa using hallowed, ?_⟩
    split at h
    · rename_i hopen
      rw [if_neg hopen]
      exact (Except.ok.inj h).symm
    · rename_i hclosed
      rw [if_pos (not_not.mp hclosed)]
      split at h
      · cases h
      · rename_i htext
        exact ⟨_, htext, (Except.ok.inj h).symm, JsText.trim_trim _⟩

/-- What a call did that was not refused: the one row it expects goes to the status asked for. -/
structure Swap (call : Call) (source : Status) (db db' : Db) : Prop where
  hit : ∃ row ∈ db.incidents, call.expects source row
  allowed : call.input.status ∈ allowed source
  rows : ∃ f : IncidentRow → IncidentRow,
    db'.incidents = Table.rewrite (fun row => decide (call.expects source row)) f db.incidents ∧
    ∀ row, (f row).id = row.id ∧ (f row).status = call.input.status ∧
      (row.status = source → row.Settled → (f row).Settled)
  timeline : db'.timeline =
    db.timeline ++ [⟨call.incidentId, call.input.actorUserId, source, call.input.status⟩]

theorem transitionStatus_eq_ok {before db db' : Db} {call : Call} {now : Int}
    (h : transitionStatus before call now db = .ok db') : ∃ source, Swap call source db db' := by
  obtain ⟨⟨⟨_, _, _, source, _, _⟩, _⟩, -, h⟩ := Except.bind_eq_ok.mp h
  obtain ⟨reason, hcheck, h⟩ := Except.bind_eq_ok.mp h
  obtain ⟨hallowed, hreason⟩ := check_eq_ok hcheck
  unfold transitionIncidentStatus at h
  by_cases hcount : (db.incidents.countP fun row => decide (call.expects source row)) = 1
  · rw [if_neg (not_not.mpr hcount)] at h
    obtain rfl := Except.ok.inj h
    obtain ⟨row, hrow, hhit⟩ := List.countP_pos_iff.mp (hcount ▸ Nat.one_pos)
    refine ⟨source, ⟨row, hrow, of_decide_eq_true hhit⟩, hallowed, ⟨_, rfl, fun row =>
      ⟨rfl, rfl, fun hsource hsettled => ?_⟩⟩, rfl⟩
    unfold IncidentRow.Settled at hsettled ⊢
    by_cases hclosed : call.input.status = .closed
    · rw [if_pos hclosed] at hreason
      simp [hclosed, hreason]
    · have hopen : row.status ≠ .closed := by
        rintro hrow
        rw [← hsource, hrow] at hallowed
        cases hallowed
      simp_all
  · rw [if_pos hcount] at h
    cases h

section Swap

variable {call : Call} {source : Status} {db db' : Db} (h : Swap call source db db')
include h

theorem Swap.later : Grows IncidentRow.Later db.incidents db'.incidents := by
  obtain ⟨f, hrows, hf⟩ := h.rows
  have hallowed := h.allowed
  rw [hrows]
  refine (Table.Follows.rewrite .refl fun row hrow => ?_).grows
  obtain ⟨-, rfl⟩ : call.expects source row := of_decide_eq_true hrow
  obtain ⟨hid, hstatus, -⟩ := hf row
  refine ⟨hid, ?_, fun hclosed => ?_⟩
  · rw [hstatus, Status.path_of_allowed hallowed]
    exact List.prefix_append _ _
  · rw [hclosed] at hallowed
    cases hallowed

theorem Swap.lifecycle (hdb : Lifecycle db) : Lifecycle db' := by
  obtain ⟨target, htarget, hexpects⟩ := h.hit
  have hsplit (id : String) : db'.transitions id = db.transitions id ++
      if call.incidentId = id then [(source, call.input.status)] else [] := by
    simp only [Db.transitions, h.timeline, List.filter_append, List.map_append]
    congr 1
    by_cases hid : call.incidentId = id <;> simp [hid]
  have hrow : ∀ row ∈ db'.incidents, db'.transitions row.id = row.status.path ∧ row.Settled := by
    intro row hmem
    obtain ⟨f, hrows, hf⟩ := h.rows
    rw [hrows] at hmem
    obtain ⟨old, hold, rfl⟩ := Table.mem_rewrite.mp hmem
    by_cases hhit : call.expects source old
    · obtain ⟨hid, hstatus, hkeep⟩ := hf old
      rw [if_pos (decide_eq_true hhit), hid, hstatus, hsplit, hdb.history old hold,
        if_pos hhit.1.1.symm, Status.path_of_allowed h.allowed, hhit.2]
      exact ⟨rfl, hkeep hhit.2 (hdb.settled old hold)⟩
    · have hother : call.incidentId ≠ old.id := fun hid => hhit
        (Table.eq_of_key db.incidents_id htarget hold (hexpects.1.1.trans hid) ▸ hexpects)
      rw [if_neg (by simpa using hhit), hsplit, if_neg hother, List.append_nil]
      exact ⟨hdb.history old hold, hdb.settled old hold⟩
  refine ⟨fun entry hentry => ?_, fun row hmem => (hrow row hmem).1,
    fun row hmem => (hrow row hmem).2⟩
  obtain ⟨row, hmem, hid⟩ : ∃ row ∈ db.incidents, row.id = entry.incidentId := by
    rw [h.timeline] at hentry
    obtain hentry | rfl := List.of_mem_concat hentry
    · exact hdb.known entry hentry
    · exact ⟨target, htarget, hexpects.1.1⟩
  obtain ⟨row', hmem', hid', -⟩ := h.later.exists_later hmem
  exact ⟨row', hmem', hid'.trans hid⟩

end Swap

theorem run_lifecycle {db : Db} (hdb : Lifecycle db) (request : Request) :
    Lifecycle (request.run db) ∧
      Grows IncidentRow.Later db.incidents (request.run db).incidents := by
  cases request with
  | opening id organisationId siteId =>
    simp only [Request.run]
    split
    · rename_i hfresh
      refine ⟨⟨fun entry hentry => ?_, fun row hrow => ?_, fun row hrow => ?_⟩, .append .refl _ _⟩
      · obtain ⟨row, hrow, hid⟩ := hdb.known entry hentry
        exact ⟨row, List.mem_append_left _ hrow, hid⟩
      · obtain hrow | rfl := List.of_mem_concat hrow
        · exact hdb.history row hrow
        · refine List.map_eq_nil_iff.mpr (List.filter_eq_nil_iff.mpr fun entry hentry hid => ?_)
          obtain ⟨row, hrow, hrowid⟩ := hdb.known entry hentry
          exact hfresh row hrow (hrowid.trans (of_decide_eq_true hid))
      · obtain hrow | rfl := List.of_mem_concat hrow
        · exact hdb.settled row hrow
        · exact ⟨rfl, rfl⟩
    · exact ⟨hdb, .refl .refl _⟩
  | transition before call now =>
    simp only [Request.run]
    split
    · exact ⟨hdb, .refl .refl _⟩
    · rename_i hok
      obtain ⟨source, hswap⟩ := transitionStatus_eq_ok hok
      exact ⟨hswap.lifecycle hdb, hswap.later⟩

theorem runAll_lifecycle (requests : List Request) {db : Db} (hdb : Lifecycle db) :
    Lifecycle (runAll requests db) ∧
      Grows IncidentRow.Later db.incidents (runAll requests db).incidents := by
  induction requests generalizing db with
  | nil => exact ⟨hdb, .refl .refl _⟩
  | cons request requests ih =>
    obtain ⟨hnext, hgrows⟩ := run_lifecycle hdb request
    obtain ⟨hlast, hmore⟩ := ih hnext
    exact ⟨hlast, hgrows.trans .trans hmore⟩

/-- The timeline of every incident is the path to its status, whatever the order and the reads of
    the calls, and later calls only take it further. -/
theorem status_lifecycle (requests more : List Request) :
    let db := runAll requests ⟨[], [], .nil⟩
    (∀ row ∈ db.incidents, db.transitions row.id = row.status.path ∧ row.Settled) ∧
      ∀ row ∈ db.incidents, ∃ row' ∈ (runAll more db).incidents, row.Later row' := by
  intro db
  have hempty : Lifecycle ⟨[], [], .nil⟩ :=
    ⟨(fun _ h => nomatch h), (fun _ h => nomatch h), (fun _ h => nomatch h)⟩
  obtain ⟨hdb, -⟩ := runAll_lifecycle requests hempty
  obtain ⟨-, hgrows⟩ := runAll_lifecycle more hdb
  exact ⟨fun row hrow => ⟨hdb.history row hrow, hdb.settled row hrow⟩,
    fun row hrow => hgrows.exists_later hrow⟩

end Sentinel.IncidentStatus
