import ModelMigration.Session
import ModelMigration.Proofs.Compile.Endings

/-!
# Runs of a session

The clock behind the steps of a session depends on the steps alone, whatever the stores answer. As
long as it can move on, every step gets its answer, and a run falls into a run of the steps in
front and one of the steps behind.
-/

namespace ModelMigration.Session

variable {σ : Type} (s : Settings) (stores : Stores (StateM σ))

/-! ## The clock -/

/-- The clock behind a step; none if the step needs a time that the clock cannot show. -/
def Step.clockBehind? (clock : Clock) : Step → Option Clock
  | .compile r =>
      match r.config.validate with
      | .ok () => clock.advance?
      | .error _ => some clock
  | _ => some clock

/-- The clock behind some steps; none if one of them needs a time that it cannot show. -/
def clockAfter? (clock : Clock) (steps : List Step) : Option Clock :=
  steps.foldlM Step.clockBehind? clock

@[simp] theorem clockAfter?_nil (clock : Clock) : clockAfter? clock [] = some clock := rfl

@[simp] theorem clockAfter?_cons (clock : Clock) (first : Step) (steps : List Step) :
    clockAfter? clock (first :: steps) =
      (first.clockBehind? clock).bind fun later => clockAfter? later steps := rfl

theorem clockAfter?_append (clock : Clock) (before after : List Step) :
    clockAfter? clock (before ++ after) =
      (clockAfter? clock before).bind fun later => clockAfter? later after := by
  simp [clockAfter?, List.foldlM_append]

/-- The clock that a request leaves is the one that the step has to leave. -/
theorem compile_clock {s : Settings} {stores : Stores (StateM σ)} {clock : Clock} {r : Request}
    {x y : σ} {completion : Completion}
    (h : taken (Compiler.compile s stores clock r) x = (completion, y)) :
    (Step.clockBehind? clock (.compile r) = some completion.clock ∧
        completion.outcome ≠ .clockExhausted) ∨
      (Step.clockBehind? clock (.compile r) = none ∧ completion.outcome = .clockExhausted) := by
  cases Compiler.compile_ended h with
  | invalid config => simp [Step.clockBehind?, config]
  | exhausted config advance => simp [Step.clockBehind?, config, advance]
  | timed config advance ended =>
      next later result calls =>
        cases result <;> simp [Step.clockBehind?, config, advance, Compiler.outcome]

/-- A step within the clock's range is answered, and leaves the clock that it has to leave. -/
theorem step_of_clockBehind? {clock later : Clock} {first : Step} (x : σ)
    (h : first.clockBehind? clock = some later) :
    (taken (step s stores clock first) x).1.2 = later ∧
      (taken (step s stores clock first) x).1.1.isLast = false := by
  cases first with
  | compile r =>
      simp only [step, taken_bind, taken_pure]
      rcases compile_clock (Prod.eta (taken (Compiler.compile s stores clock r) x)).symm with
        ⟨behind, outcome⟩ | ⟨behind, _⟩
      · refine ⟨by simpa [behind] using h, ?_⟩
        cases ended : (taken (Compiler.compile s stores clock r) x).1.outcome <;>
          simp_all [Answer.isLast]
      · simp [behind] at h
  | _ => simpa [step, Step.clockBehind?, Answer.isLast] using h

/-- A step beyond the clock's range ends the session. -/
theorem step_of_clockBehind?_none {clock : Clock} {first : Step} (x : σ)
    (h : first.clockBehind? clock = none) :
    (taken (step s stores clock first) x).1.1.isLast = true := by
  cases first with
  | compile r =>
      simp only [step, taken_bind, taken_pure]
      rcases compile_clock (Prod.eta (taken (Compiler.compile s stores clock r) x)).symm with
        ⟨behind, _⟩ | ⟨_, outcome⟩
      · simp [behind] at h
      · simp [outcome, Answer.isLast]
  | _ => simp [Step.clockBehind?] at h

/-! ## Runs -/

@[simp] theorem taken_run_nil (clock : Clock) (x : σ) :
    taken (run s stores clock []) x = ([], x) := rfl

theorem taken_run_cons {clock later : Clock} {first : Step} (steps : List Step) (x : σ)
    (h : first.clockBehind? clock = some later) :
    taken (run s stores clock (first :: steps)) x =
      ((taken (step s stores clock first) x).1.1 ::
        (taken (run s stores later steps) (taken (step s stores clock first) x).2).1,
        (taken (run s stores later steps) (taken (step s stores clock first) x).2).2) := by
  obtain ⟨rfl, goesOn⟩ := step_of_clockBehind? s stores x h
  simp [run, goesOn]

theorem taken_run_cons_none {clock : Clock} {first : Step} (steps : List Step) (x : σ)
    (h : first.clockBehind? clock = none) :
    taken (run s stores clock (first :: steps)) x =
      ([(taken (step s stores clock first) x).1.1], (taken (step s stores clock first) x).2) := by
  simp [run, step_of_clockBehind?_none s stores x h]

theorem run_length {clock later : Clock} {steps : List Step} (x : σ)
    (h : clockAfter? clock steps = some later) :
    (taken (run s stores clock steps) x).1.length = steps.length := by
  induction steps generalizing clock x with
  | nil => rfl
  | cons first steps ih =>
      simp only [clockAfter?_cons, Option.bind_eq_some_iff] at h
      obtain ⟨middle, here, rest⟩ := h
      rw [taken_run_cons s stores steps x here]
      simp [ih _ rest]

theorem taken_run_append {clock later : Clock} {before : List Step} (after : List Step) (x : σ)
    (h : clockAfter? clock before = some later) :
    taken (run s stores clock (before ++ after)) x =
      ((taken (run s stores clock before) x).1 ++
          (taken (run s stores later after) (taken (run s stores clock before) x).2).1,
        (taken (run s stores later after) (taken (run s stores clock before) x).2).2) := by
  induction before generalizing clock x with
  | nil =>
      obtain rfl : clock = later := by simpa using h
      rfl
  | cons first before ih =>
      simp only [clockAfter?_cons, Option.bind_eq_some_iff] at h
      obtain ⟨middle, here, rest⟩ := h
      rw [List.cons_append, taken_run_cons s stores _ x here, taken_run_cons s stores _ x here,
        ih _ rest]
      rfl

/-- The answer to a step stands behind those to the steps in front of it. -/
theorem run_getElem? {clock later : Clock} {before after : List Step} {first : Step} (x : σ)
    (h : clockAfter? clock before = some later) :
    (taken (run s stores clock (before ++ first :: after)) x).1[before.length]? =
      some (taken (step s stores later first) (taken (run s stores clock before) x).2).1.1 := by
  have length := run_length s stores x h
  rw [taken_run_append s stores _ x h, List.getElem?_append_right (by omega), length, Nat.sub_self]
  cases behind : first.clockBehind? later with
  | some next => rw [taken_run_cons s stores _ _ behind]; rfl
  | none => rw [taken_run_cons_none s stores _ _ behind]; rfl

end ModelMigration.Session
