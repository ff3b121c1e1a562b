import ModelMigration.Proofs.Session.Runs
import ModelMigration.Proofs.Time.Stamps

/-!
# The migrations of a session

The clock moves on before each migration, so the migrations of a session have timestamps that grow,
whatever the stores are and whatever is asked between them. In the years of four digits the names of
their files are in the order of the requests.
-/

namespace ModelMigration

/-! ## The clock -/

namespace Clock

theorem advance?_eq_some {clock later : Clock} (h : clock.advance? = some later) :
    later.current.seconds = clock.current.seconds + clock.step ∧ later.step = clock.step := by
  simp only [advance?, Option.ite_none_right_eq_some, Option.some.injEq] at h
  obtain ⟨_, rfl⟩ := h
  exact ⟨rfl, rfl⟩

theorem step_pos_of_withStep? {clock set : Clock} {seconds : Int}
    (h : clock.withStep? seconds = some set) : 0 < set.step := by
  simp only [withStep?, Option.ite_none_right_eq_some, Option.some.injEq] at h
  obtain ⟨_, rfl⟩ := h
  dsimp only
  omega

end Clock

namespace Session

variable {σ : Type} {s : Settings} {stores : Stores (StateM σ)}

/-- The migration that a step brought to its place, with the request for it. -/
def compiled? : Step × Answer → Option (Request × Artifact)
  | (.compile r, .ended (.compiled a) _) => some (r, a)
  | _ => none

/-- The migrations that some steps brought to their places, with the requests for them. -/
def compiled (steps : List Step) (answers : List Answer) : List (Request × Artifact) :=
  (steps.zip answers).filterMap compiled?

theorem compiled_cons (first : Step) (steps : List Step) (answer : Answer) (answers : List Answer) :
    compiled (first :: steps) (answer :: answers) =
      (compiled? (first, answer)).toList ++ compiled steps answers := by
  simp only [compiled, List.zip_cons_cons, List.filterMap_cons]
  cases compiled? (first, answer) <;> rfl

@[simp] theorem compiled_nil_right (steps : List Step) : compiled steps [] = [] := by
  rw [compiled, List.zip_nil_right, List.filterMap_nil]

/-! ## Timestamps -/

theorem step_clockBehind? {clock later : Clock} {first : Step}
    (h : first.clockBehind? clock = some later) :
    clock.current.seconds ≤ later.current.seconds ∧ later.step = clock.step := by
  cases first with
  | compile r =>
      cases valid : r.config.validate with
      | ok =>
          simp only [Step.clockBehind?, valid] at h
          obtain ⟨moved, step⟩ := Clock.advance?_eq_some h
          exact ⟨by omega, step⟩
      | error error =>
          simp only [Step.clockBehind?, valid, Option.some.injEq] at h
          subst h
          exact ⟨Int.le_refl _, rfl⟩
  | _ =>
      cases h
      exact ⟨Int.le_refl _, rfl⟩

/-- A migration is dated by the clock behind its step, which has moved on. -/
theorem step_compiled {clock : Clock} {first : Step} {x : σ} {done : Request × Artifact}
    (h : compiled? (first, (taken (step s stores clock first) x).1.1) = some done) :
    first = .compile done.1 ∧
      done.2.path = Compiler.destination s done.1.name done.1.config done.2.timestamp ∧
      ∃ later, first.clockBehind? clock = some later ∧ clock.advance? = some later ∧
        done.2.timestamp = later.current := by
  cases first with
  | compile r =>
      simp only [step, taken_bind, taken_pure] at h
      rcases ended : taken (Compiler.compile s stores clock r) x with ⟨completion, y⟩
      rw [ended] at h
      cases Compiler.compile_ended ended with
      | invalid config => cases h
      | exhausted config advance => cases h
      | timed config advance endedAt =>
          next later result calls =>
            cases result with
            | error error => cases h
            | ok a =>
                cases h
                have placed := Compiler.placed_of_endedAt endedAt
                have behind : Step.clockBehind? clock (.compile r) = some later := by
                  simp only [Step.clockBehind?, config, advance]
                exact ⟨rfl, placed.2 ▸ placed.1, later, behind, advance, placed.2⟩
  | _ => cases h

/-- The timestamps of the migrations grow, and all lie behind the clock. -/
theorem run_timestamps (s : Settings) (stores : Stores (StateM σ)) {clock : Clock}
    (ticks : 0 < clock.step) (steps : List Step) (x : σ) :
    (clock.current :: (compiled steps (taken (run s stores clock steps) x).1).map
      (·.2.timestamp)).Pairwise fun t u => t.seconds < u.seconds := by
  induction steps generalizing clock x with
  | nil => exact List.pairwise_singleton _ _
  | cons first steps ih =>
      cases behind : first.clockBehind? clock with
      | none =>
          rw [taken_run_cons_none s stores steps x behind, compiled_cons, compiled_nil_right,
            List.append_nil]
          cases found : compiled? (first, (taken (step s stores clock first) x).1.1) with
          | none => exact List.pairwise_singleton _ _
          | some done =>
              obtain ⟨_, _, later, behind', _⟩ := step_compiled found
              rw [behind] at behind'
              cases behind'
      | some later =>
          obtain ⟨notBefore, step⟩ := step_clockBehind? behind
          have rest := @ih later (by omega) (taken (Session.step s stores clock first) x).2
          rw [taken_run_cons s stores steps x behind, compiled_cons]
          cases found : compiled? (first, (taken (Session.step s stores clock first) x).1.1) with
          | none =>
              rw [List.pairwise_cons] at rest
              exact List.pairwise_cons.mpr
                ⟨fun t mem => Int.lt_of_le_of_lt notBefore (rest.1 t mem), rest.2⟩
          | some done =>
              obtain ⟨_, _, moved, behind', advance, dated⟩ := step_compiled found
              obtain rfl := Option.some.inj (behind.symm.trans behind')
              have ahead : clock.current.seconds < later.current.seconds := by
                rw [(Clock.advance?_eq_some advance).1]
                omega
              simp only [Option.toList_some, List.singleton_append, List.map_cons, dated]
              refine List.pairwise_cons.mpr ⟨fun t mem => ?_, rest⟩
              rcases List.mem_cons.mp mem with rfl | mem
              · exact ahead
              · exact Int.lt_trans ahead ((List.pairwise_cons.mp rest).1 t mem)

theorem run_increasing (s : Settings) (stores : Stores (StateM σ)) {clock : Clock}
    (ticks : 0 < clock.step) (steps : List Step) (x : σ) :
    (compiled steps (taken (run s stores clock steps) x).1).Pairwise fun first second =>
      first.2.timestamp.seconds < second.2.timestamp.seconds := by
  have grow := (List.pairwise_cons.mp (run_timestamps s stores ticks steps x)).2
  rw [List.pairwise_map] at grow
  exact grow

theorem run_places (s : Settings) (stores : Stores (StateM σ)) (clock : Clock) (steps : List Step)
    (x : σ) :
    ∀ done ∈ compiled steps (taken (run s stores clock steps) x).1, .compile done.1 ∈ steps ∧
      done.2.path = Compiler.destination s done.1.name done.1.config done.2.timestamp := by
  induction steps generalizing clock x with
  | nil => simp [compiled]
  | cons first steps ih =>
      intro done mem
      cases behind : first.clockBehind? clock with
      | none =>
          rw [taken_run_cons_none s stores steps x behind, compiled_cons, compiled_nil_right,
            List.append_nil, Option.mem_toList] at mem
          obtain ⟨rfl, place, _⟩ := step_compiled mem
          exact ⟨List.mem_cons_self, place⟩
      | some later =>
          rw [taken_run_cons s stores steps x behind, compiled_cons, List.mem_append,
            Option.mem_toList] at mem
          rcases mem with found | mem
          · obtain ⟨rfl, place, _⟩ := step_compiled found
            exact ⟨List.mem_cons_self, place⟩
          · obtain ⟨inSteps, place⟩ := ih later _ done mem
            exact ⟨List.mem_cons_of_mem _ inSteps, place⟩

/-! ## Names of files -/

/--
In the years of four digits, of two migrations of a session the one that was asked for first has the
name that comes first, byte by byte, whatever the models are called.
-/
theorem file_names_in_order (stores : Stores (StateM σ)) (start : Timestamp) {clock : Clock}
    (set : (Clock.startingAt start).withStep? s.stepSeconds = some clock) (steps : List Step)
    (x : σ) (years : ∀ done ∈ compiled steps (taken (run s stores clock steps) x).1,
      0 ≤ done.2.timestamp.date.year ∧ done.2.timestamp.date.year ≤ 9999) :
    (∀ done ∈ compiled steps (taken (run s stores clock steps) x).1,
      done.2.path = Compiler.destination s done.1.name done.1.config done.2.timestamp) ∧
    (compiled steps (taken (run s stores clock steps) x).1).Pairwise fun first second =>
      Bytes.ofText (migrationFileName first.2.timestamp first.1.name s.sourceExtension) <
        Bytes.ofText (migrationFileName second.2.timestamp second.1.name s.sourceExtension) := by
  have grow := run_increasing s stores (Clock.step_pos_of_withStep? set) steps x
  refine ⟨fun done mem => (run_places s stores clock steps x done mem).2, grow.imp_of_mem ?_⟩
  intro first second mem mem' before
  exact Bytes.ofText_lt_ofText
    (migrationFileName_lt before (years first mem).1 (years second mem').2)

/-- A request for a model of a name in a directory, kept under the name. -/
def namedRequest (name directory : String) (extensions : List Extension) : Request where
  stub := ⟨"stub", "class \x7b\x7bclass_name\x7d\x7d"⟩
  name := name
  model := ⟨[]⟩
  config := ⟨none, directory⟩
  hash := name
  extensions := extensions

/-- The refused request takes the first second of the new year. -/
theorem file_names_in_order_over_new_year :
    let start := Timestamp.ofParts ⟨2023, 12, 31⟩ 23 59 50
    let steps : List Step := [.compile (namedRequest "Zebra" "out" []),
      .compile (namedRequest "Yak" "out" [.refusing "no" (.extension "no" "never")]),
      .compile (namedRequest "Ant" "out" [])]
    let done := compiled steps (taken (run .standard Memory.stores ⟨start, 5⟩ steps) Memory.empty).1
    (Clock.startingAt start).withStep? Settings.standard.stepSeconds = some ⟨start, 5⟩ ∧
      (∀ a ∈ done, 0 ≤ a.2.timestamp.date.year ∧ a.2.timestamp.date.year ≤ 9999) ∧
      done.map (fun a => migrationFileName a.2.timestamp a.1.name ".php") =
        ["2023_12_31_235955_create_zebras_table.php", "2024_01_01_000005_create_ants_table.php"] ∧
      (∀ a ∈ done, a.2.path = Compiler.destination .standard a.1.name a.1.config a.2.timestamp) ∧
      done.Pairwise fun first second =>
        Bytes.ofText (migrationFileName first.2.timestamp first.1.name ".php") <
          Bytes.ofText (migrationFileName second.2.timestamp second.1.name ".php") := by
  intro start steps done
  have set : (Clock.startingAt start).withStep? Settings.standard.stepSeconds =
      some ⟨start, 5⟩ := by decide +kernel
  have years : ∀ a ∈ done, 0 ≤ a.2.timestamp.date.year ∧ a.2.timestamp.date.year ≤ 9999 := by
    decide +kernel
  exact ⟨set, years, by decide +kernel,
    file_names_in_order Memory.stores start set steps Memory.empty years⟩

end Session

end ModelMigration
