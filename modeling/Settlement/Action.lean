/-!
# Actions

An action works on a state and may be refused part way. A refusal takes nothing back: what was written
before it stays written. That a refused message changes nothing is therefore no property of actions, but
of the order in which a handler reads, checks and writes.

Results:
* `exec_bind`: an action in two parts goes on from where its first part ended.
* `exec_bind_ok_iff`: it succeeds exactly if both parts do.
-/
namespace Settlement

/-- A computation on a state that may be refused part way. -/
abbrev Action (σ ε α : Type) := ExceptT ε (StateM σ) α

namespace Action

variable {σ τ ε δ α β : Type}

/-- The outcome of an action in a state, and the state it leaves. -/
def exec (x : Action σ ε α) (s : σ) : Except ε α × σ :=
  StateT.run (ExceptT.run x) s

/-- The state an action leaves if it is not refused. -/
def outcome (x : Action σ ε Unit) (s : σ) : Except ε σ :=
  match exec x s with
  | (.ok (), s') => .ok s'
  | (.error e, _) => .error e

/-- The action that only checks, and looks at no state. -/
def check (x : Except ε α) : Action σ ε α :=
  ExceptT.mk (pure x)

/-- Goes on if a condition holds, and refuses otherwise. -/
def demand (condition : Prop) [Decidable condition] (refusal : ε) : Action σ ε Unit :=
  if condition then pure () else throw refusal

/-- An action on a part of the state, which `get` takes out and `put` puts back. -/
def within (get : σ → τ) (put : τ → σ → σ) (x : Action τ ε α) : Action σ ε α :=
  ExceptT.mk fun s => ((exec x (get s)).1, put (exec x (get s)).2 s)

/-! ## What each step does -/

@[simp] theorem exec_pure (a : α) (s : σ) : exec (pure a : Action σ ε α) s = (.ok a, s) := rfl

@[simp] theorem exec_throw (e : ε) (s : σ) : exec (throw e : Action σ ε α) s = (.error e, s) := rfl

@[simp] theorem exec_get (s : σ) : exec (get : Action σ ε σ) s = (.ok s, s) := rfl

@[simp] theorem exec_set (s s' : σ) : exec (set s' : Action σ ε PUnit) s = (.ok (), s') := rfl

@[simp] theorem exec_modify (f : σ → σ) (s : σ) :
    exec (modify f : Action σ ε PUnit) s = (.ok (), f s) := rfl

@[simp] theorem exec_check (x : Except ε α) (s : σ) :
    exec (check x : Action σ ε α) s = (x, s) := rfl

theorem exec_demand (condition : Prop) [Decidable condition] (refusal : ε) (s : σ) :
    exec (demand condition refusal) s =
      (if condition then .ok () else .error refusal, s) := by
  unfold demand
  split <;> rfl

@[simp] theorem exec_within (get : σ → τ) (put : τ → σ → σ) (x : Action τ ε α) (s : σ) :
    exec (within get put x) s = ((exec x (get s)).1, put (exec x (get s)).2 s) := rfl

@[simp] theorem exec_adapt (f : ε → δ) (x : Action σ ε α) (s : σ) :
    exec (ExceptT.adapt f x : Action σ δ α) s = ((exec x s).1.mapError f, (exec x s).2) := rfl

@[simp] theorem exec_map (f : α → β) (x : Action σ ε α) (s : σ) :
    exec (f <$> x) s = ((exec x s).1.map f, (exec x s).2) := by
  unfold exec ExceptT.run StateT.run
  simp only [Functor.map, ExceptT.map, ExceptT.mk, bind, StateT.bind]
  cases x s with
  | mk outcome s' => cases outcome <;> rfl

/-- An action in two parts goes on from where its first part ended. -/
theorem exec_bind (x : Action σ ε α) (f : α → Action σ ε β) (s : σ) :
    exec (x >>= f) s =
      match exec x s with
      | (.ok a, s') => exec (f a) s'
      | (.error e, s') => (.error e, s') := by
  unfold exec ExceptT.run StateT.run
  simp only [bind, ExceptT.bind, ExceptT.mk, StateT.bind, ExceptT.bindCont]
  cases x s with
  | mk outcome s' => cases outcome <;> rfl

/-- An action in two parts succeeds exactly if both parts do. -/
theorem exec_bind_ok_iff {x : Action σ ε α} {f : α → Action σ ε β} {s s'' : σ} {b : β} :
    exec (x >>= f) s = (.ok b, s'') ↔
      ∃ a s', exec x s = (.ok a, s') ∧ exec (f a) s' = (.ok b, s'') := by
  rw [exec_bind]
  cases exec x s with
  | mk outcome t => cases outcome <;> simp [and_assoc]

end Action

end Settlement
