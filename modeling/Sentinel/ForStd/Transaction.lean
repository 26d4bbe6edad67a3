import Mathlib.Tactic.TypeStar

/-! # Transactions

Work on a state that may stop halfway: a statement that fails throws, and what the statements
before it did is still there.  A transaction undoes it.

`committed` is the meaning of work inside a transaction, a new state or the error it ends with, and
`transact_eq` says that running the transaction is that. -/

namespace Transaction

/-- Work on a state of type `σ`.  Where it stops with an error, the state it got to stays. -/
abbrev Work (ε σ α : Type) := EStateM ε σ α

variable {ε σ α β : Type}

def statement (run : σ → Except ε σ) : Work ε σ Unit := fun s =>
  match run s with
  | .ok s' => .ok () s'
  | .error failure => .error failure s

/-- A query, which may fail. -/
def query (ask : σ → Except ε α) : Work ε σ α := fun s =>
  match ask s with
  | .ok a => .ok a s
  | .error failure => .error failure s

/-- `BEGIN`, the work, and `COMMIT`; or `ROLLBACK` and the error. -/
def transact (work : Work ε σ α) : Work ε σ α := fun s =>
  match work s with
  | .ok a s' => .ok a s'
  | .error failure _ => .error failure s

/-- What work commits: its result and the state after it, or the error it stops with. -/
def committed (work : Work ε σ α) (s : σ) : Except ε (α × σ) :=
  match work s with
  | .ok a s' => .ok (a, s')
  | .error failure _ => .error failure

/-! ## What a transaction leaves -/

/-- A transaction that throws leaves the state as it was. -/
theorem transact_error {work : Work ε σ α} {s s' : σ} {failure : ε}
    (h : transact work s = .error failure s') : s' = s := by
  rw [transact] at h
  cases hwork : work s with
  | ok a t =>
    rw [hwork] at h
    cases h
  | error failure' t =>
    rw [hwork] at h
    cases h
    rfl

/-- A transaction is what its work commits, and the state it found where it commits nothing. -/
theorem transact_eq (work : Work ε σ α) (s : σ) :
    transact work s = match committed work s with
      | .ok (a, s') => .ok a s'
      | .error failure => .error failure s := by
  rw [transact, committed]
  cases work s <;> rfl

/-! ## What is committed, statement by statement -/

@[simp] theorem committed_pure (a : α) (s : σ) :
    committed (pure a : Work ε σ α) s = .ok (a, s) := rfl

@[simp] theorem committed_throw (failure : ε) (s : σ) :
    committed (throw failure : Work ε σ α) s = .error failure := rfl

@[simp] theorem committed_get (s : σ) : committed (get : Work ε σ σ) s = .ok (s, s) := rfl

@[simp] theorem committed_bind (work : Work ε σ α) (next : α → Work ε σ β) (s : σ) :
    committed (work >>= next) s = committed work s >>= fun (a, s') => committed (next a) s' := by
  show committed (EStateM.bind work next) s = _
  rw [committed, EStateM.bind, committed]
  cases work s <;> rfl

@[simp] theorem committed_statement (run : σ → Except ε σ) (s : σ) :
    committed (statement run) s = (run s).map fun s' => ((), s') := by
  rw [committed, statement]
  cases run s <;> rfl

@[simp] theorem committed_query (ask : σ → Except ε α) (s : σ) :
    committed (query ask) s = (ask s).map fun a => (a, s) := by
  rw [committed, query]
  cases ask s <;> rfl

@[simp] theorem committed_ite {condition : Prop} [Decidable condition] (work work' : Work ε σ α)
    (s : σ) : committed (if condition then work else work') s =
      if condition then committed work s else committed work' s := by
  split <;> rfl

end Transaction
