import Mathlib.Data.List.Basic

/-! # Walks

A log of changes, each from one value to another, is a walk when every change starts
where the one before it ended.

* `walk_append`  two walks that meet are one walk
* `Walk.linked`  neighbours in a walk meet -/

variable {ε ν : Type*}

/-- The edges lead from `a` to `b`, one after the other. -/
def Walk (source target : ε → ν) : ν → List ε → ν → Prop
  | a, [], b => a = b
  | a, e :: es, b => source e = a ∧ Walk source target (target e) es b

namespace Walk

variable {source target : ε → ν} {a b : ν} {es fs : List ε}

@[simp] theorem nil : Walk source target a [] b ↔ a = b := Iff.rfl

@[simp] theorem cons {e : ε} :
    Walk source target a (e :: es) b ↔ source e = a ∧ Walk source target (target e) es b :=
  Iff.rfl

theorem append : Walk source target a (es ++ fs) b ↔
    ∃ m, Walk source target a es m ∧ Walk source target m fs b := by
  induction es generalizing a with
  | nil => simp
  | cons e es ih => simp [ih, and_assoc]

theorem concat {e : ε} {m : ν} (h : Walk source target a es m) (hsource : source e = m)
    (htarget : target e = b) : Walk source target a (es ++ [e]) b :=
  append.mpr ⟨m, h, hsource, htarget⟩

/-- Each edge starts where the one before it ended. -/
theorem linked (h : Walk source target a es b) {i : Nat} {e f : ε} (he : es[i]? = some e)
    (hf : es[i + 1]? = some f) : source f = target e := by
  induction es generalizing a i with
  | nil => simp at he
  | cons g es ih =>
    obtain ⟨_, hrest⟩ := h
    cases i with
    | succ i => exact ih hrest (by simpa using he) (by simpa using hf)
    | zero =>
      obtain rfl : g = e := by simpa using he
      cases es with
      | nil => simp at hf
      | cons f' es =>
        obtain rfl : f' = f := by simpa using hf
        exact hrest.1

/-- A walk that changes something starts at its first value. -/
theorem head (h : Walk source target a es b) {e : ε} (he : es[0]? = some e) : source e = a := by
  cases es with
  | nil => simp at he
  | cons f es =>
    obtain rfl : f = e := by simpa using he
    exact h.1

end Walk
