/-!
# Steps on a state

A step on a state is a function of the state it starts from. Its result and the state behind it are
looked at together, as a pair.
-/

namespace ModelMigration

variable {σ α β : Type}

/-- The result of a step from a state, and the state behind it. -/
def taken (p : StateM σ α) (x : σ) : α × σ := p x

@[simp] theorem taken_pure (a : α) (x : σ) : taken (pure a) x = (a, x) := rfl

@[simp] theorem taken_bind (p : StateM σ α) (f : α → StateM σ β) (x : σ) :
    taken (p >>= f) x = taken (f (taken p x).1) (taken p x).2 := rfl

@[simp] theorem taken_map (f : α → β) (p : StateM σ α) (x : σ) :
    taken (f <$> p) x = (f (taken p x).1, (taken p x).2) := rfl

@[simp] theorem taken_ite (c : Prop) [Decidable c] (p q : StateM σ α) (x : σ) :
    taken (if c then p else q) x = if c then taken p x else taken q x := by
  split <;> rfl

/-! ## Steps that may fail -/

variable {ε ε' : Type}

theorem taken_run_bind (p : ExceptT ε (StateM σ) α) (f : α → ExceptT ε (StateM σ) β) (x : σ) :
    taken (p >>= f).run x = match taken p.run x with
      | (.ok a, y) => taken (f a).run y
      | (.error e, y) => (.error e, y) := by
  rw [ExceptT.run_bind, taken_bind]
  rcases taken p.run x with ⟨error | a, y⟩ <;> rfl

theorem taken_run_adapt (f : ε → ε') (p : ExceptT ε (StateM σ) α) (x : σ) :
    taken (p.adapt f).run x = ((taken p.run x).1.mapError f, (taken p.run x).2) := rfl

end ModelMigration
