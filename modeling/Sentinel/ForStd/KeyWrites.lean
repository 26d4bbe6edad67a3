import Mathlib.Logic.Function.Basic
import Mathlib.Data.List.Nodup

/-! # Key by key writes

A store of optional values and a list of assignments carried out one by one, each of which
sets its key or removes it.  An interrupted batch has carried out a first part of its list.

Key results:
* `writes_of_mem`     a key of the batch holds what the batch says
* `writes_of_not_mem` every other key holds what it held
* `writes_eq_self`    a batch that says what is already there changes nothing -/

namespace KeyWrites

variable {κ β : Type*} [DecidableEq κ]

/-- Set or remove one key. -/
def write (store : κ → Option β) (assignment : κ × Option β) : κ → Option β :=
  Function.update store assignment.1 assignment.2

/-- Carry out the assignments in order. -/
def writes (store : κ → Option β) (assignments : List (κ × Option β)) : κ → Option β :=
  assignments.foldl write store

@[simp] theorem writes_nil (store : κ → Option β) : writes store [] = store := rfl

@[simp] theorem writes_cons (store : κ → Option β) (assignment : κ × Option β)
    (assignments : List (κ × Option β)) :
    writes store (assignment :: assignments) = writes (write store assignment) assignments := rfl

theorem writes_of_not_mem {store : κ → Option β} {assignments : List (κ × Option β)} {key : κ}
    (h : key ∉ assignments.map Prod.fst) : writes store assignments key = store key := by
  induction assignments generalizing store with
  | nil => rfl
  | cons assignment assignments ih =>
    simp only [List.map_cons, List.mem_cons, not_or] at h
    rw [writes_cons, ih h.2]
    exact Function.update_of_ne h.1 ..

theorem writes_of_mem {store : κ → Option β} {assignments : List (κ × Option β)} {key : κ}
    {value : Option β} (hnodup : (assignments.map Prod.fst).Nodup)
    (h : (key, value) ∈ assignments) : writes store assignments key = value := by
  induction assignments generalizing store with
  | nil => cases h
  | cons assignment assignments ih =>
    rw [List.map_cons, List.nodup_cons] at hnodup
    rw [writes_cons]
    cases List.mem_cons.mp h with
    | inl heq =>
      -- no later assignment is to the key of the first one
      subst heq
      rw [writes_of_not_mem hnodup.1]
      exact Function.update_self ..
    | inr hrest => exact ih hnodup.2 hrest

theorem writes_eq_self {store : κ → Option β} {assignments : List (κ × Option β)}
    (h : ∀ key value, (key, value) ∈ assignments → store key = value) :
    writes store assignments = store := by
  induction assignments with
  | nil => rfl
  | cons assignment assignments ih =>
    have hhead : write store assignment = store := by
      rw [write, ← h assignment.1 assignment.2 (List.mem_cons_self ..)]
      exact Function.update_eq_self ..
    rw [writes_cons, hhead]
    exact ih fun key value hmem => h key value (List.mem_cons_of_mem _ hmem)

/-- An interrupted batch whose missing part says what is already there looks complete. -/
theorem writes_take_of_mem {store : κ → Option β} {assignments : List (κ × Option β)} {key : κ}
    {value : Option β} {done : Nat} (hnodup : (assignments.map Prod.fst).Nodup)
    (hleft : ∀ key value, (key, value) ∈ assignments.drop done → store key = value)
    (h : (key, value) ∈ assignments) : writes store (assignments.take done) key = value := by
  rw [← List.take_append_drop done assignments] at h hnodup
  rw [List.map_append] at hnodup
  cases List.mem_append.mp h with
  | inl htaken => exact writes_of_mem hnodup.of_append_left htaken
  | inr hdropped =>
    -- the key is among the missing ones, so it is not among those written
    have hkey : key ∈ (assignments.drop done).map Prod.fst := List.mem_map_of_mem hdropped
    have hnot : key ∉ (assignments.take done).map Prod.fst := fun htaken =>
      (List.disjoint_of_nodup_append hnodup) htaken hkey
    rw [writes_of_not_mem hnot]
    exact hleft key value hdropped

end KeyWrites
