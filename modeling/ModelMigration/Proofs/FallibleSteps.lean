import Mathlib.Data.List.Forall2

/-!
# Steps that may fail

A step behind another succeeds exactly if both do, and a step for each item of a list exactly with
the list of their results. What fails is the first step that does.
-/

namespace ModelMigration

variable {ε α β : Type}

theorem bind_eq_ok_iff {x : Except ε α} {f : α → Except ε β} {b : β} :
    (x >>= f) = .ok b ↔ ∃ a, x = .ok a ∧ f a = .ok b := by
  cases x with
  | error failure => exact ⟨nofun, fun ⟨_, same, _⟩ => nomatch same⟩
  | ok a => exact ⟨fun h => ⟨a, rfl, h⟩, fun ⟨_, same, h⟩ => Except.ok.inj same ▸ h⟩

theorem bind_eq_error_iff {x : Except ε α} {f : α → Except ε β} {e : ε} :
    (x >>= f) = .error e ↔ x = .error e ∨ ∃ a, x = .ok a ∧ f a = .error e := by
  cases x with
  | error failure => exact ⟨fun h => .inl (Except.error.inj h ▸ rfl), fun
      | .inl same => Except.error.inj same ▸ rfl
      | .inr ⟨_, same, _⟩ => nomatch same⟩
  | ok a => exact ⟨fun h => .inr ⟨a, rfl, h⟩, fun
      | .inl same => nomatch same
      | .inr ⟨_, same, h⟩ => Except.ok.inj same ▸ h⟩

theorem checked_eq_ok_iff {x : Except ε α} {check : α → Except ε Unit} {a : α} :
    (do
      let found ← x
      check found
      return found) = .ok a ↔ x = .ok a ∧ check a = .ok () := by
  simp only [bind_eq_ok_iff]
  constructor
  · rintro ⟨found, read, ⟨⟩, checked, ⟨⟩⟩
    exact ⟨read, checked⟩
  · rintro ⟨read, checked⟩
    exact ⟨a, read, (), checked, rfl⟩

theorem mapError_eq_ok_iff {ε' : Type} {x : Except ε α} {f : ε → ε'} {a : α} :
    x.mapError f = .ok a ↔ x = .ok a := by
  cases x <;> simp [Except.mapError]

theorem exists_of_forall₂_of_mem {R : α → β → Prop} {xs : List α} {ys : List β}
    (each : List.Forall₂ R xs ys) {x : α} (mem : x ∈ xs) : ∃ y, R x y := by
  induction each with
  | nil => cases mem
  | cons first _ ih =>
      rcases List.mem_cons.mp mem with rfl | mem
      · exact ⟨_, first⟩
      · exact ih mem

theorem exists_forall₂_iff {R : α → β → Prop} {xs : List α} :
    (∃ ys, List.Forall₂ R xs ys) ↔ ∀ x ∈ xs, ∃ y, R x y := by
  induction xs with
  | nil => simp
  | cons x xs ih =>
      simp only [List.forall_mem_cons, ← ih, List.forall₂_cons_left_iff]
      constructor
      · rintro ⟨_, y, ys, first, others, rfl⟩
        exact ⟨⟨y, first⟩, ys, others⟩
      · rintro ⟨⟨y, first⟩, ys, others⟩
        exact ⟨y :: ys, y, ys, first, others, rfl⟩

theorem mapM_eq_ok_iff {f : α → Except ε β} {xs : List α} {ys : List β} :
    xs.mapM f = .ok ys ↔ List.Forall₂ (fun x y => f x = .ok y) xs ys := by
  induction xs generalizing ys with
  | nil => cases ys <;> simp [pure, Except.pure]
  | cons x xs ih =>
      simp only [List.mapM_cons, bind_eq_ok_iff, ih]
      constructor
      · rintro ⟨y, first, ys, others, ⟨⟩⟩
        exact .cons first others
      · rintro (_ | ⟨first, others⟩)
        exact ⟨_, first, _, others, rfl⟩

/-- The failure of a list is that of the first item that fails. -/
theorem mapM_eq_error_iff {f : α → Except ε β} {xs : List α} {e : ε} :
    xs.mapM f = .error e ↔
      ∃ front x back, xs = front ++ x :: back ∧ (∀ y ∈ front, ∃ b, f y = .ok b) ∧
        f x = .error e := by
  induction xs with
  | nil => simp [pure, Except.pure]
  | cons x xs ih =>
      simp only [List.mapM_cons, bind_eq_error_iff, ih]
      constructor
      · rintro (first | ⟨b, first, ⟨front, y, back, rfl, before, fails⟩ | ⟨_, _, nothing⟩⟩)
        · exact ⟨[], x, xs, rfl, by simp, first⟩
        · exact ⟨x :: front, y, back, rfl, List.forall_mem_cons.mpr ⟨⟨b, first⟩, before⟩, fails⟩
        · cases nothing
      · rintro ⟨front, y, back, split, before, fails⟩
        cases front with
        | nil =>
            obtain ⟨rfl, rfl⟩ := List.cons.inj split
            exact .inl fails
        | cons z front =>
            obtain ⟨rfl, rfl⟩ := List.cons.inj split
            obtain ⟨⟨b, first⟩, others⟩ := List.forall_mem_cons.mp before
            exact .inr ⟨b, first, .inl ⟨front, y, back, rfl, others, fails⟩⟩

theorem eq_ok_of_toOption {x : Except ε α} {a : α} (h : x.toOption = some a) : x = .ok a := by
  cases x with
  | error failure => cases h
  | ok b => exact congrArg Except.ok (Option.some.inj h)

end ModelMigration
