import ModelMigration.Proofs.Session.Compiled
import ModelMigration.Proofs.Time.CalendarTime

/-!
# The clock over a session

Only requests with a valid configuration are given a time, and each of them is given the one that
lies a step behind the one before, however it ends. So the times of a session are told by counting
such requests, and the first of them whose time no clock can show is where the session breaks off.
-/

namespace ModelMigration

/-! ## Steps of a clock -/

namespace Clock

theorem withStep?_eq_none_iff (clock : Clock) (seconds : Int) :
    clock.withStep? seconds = none ↔ greatestStep < max seconds 1 := by
  unfold withStep?
  dsimp only
  split
  · next fits => exact iff_of_false (Option.some_ne_none _) (by omega)
  · next tooGreat => exact iff_of_true rfl (by omega)

theorem eq_of_withStep? {clock set : Clock} {seconds : Int}
    (h : clock.withStep? seconds = some set) : set = ⟨clock.current, (max seconds 1).toNat⟩ := by
  simp only [withStep?, Option.ite_none_right_eq_some, Option.some.injEq] at h
  exact h.2.symm

/-- The clock some steps on, whether a clock can show that or not. -/
def moved (clock : Clock) (steps : Nat) : Clock :=
  ⟨⟨clock.current.seconds + (steps * clock.step : Nat)⟩, clock.step⟩

theorem moved_zero (clock : Clock) : clock.moved 0 = clock := by
  rw [moved, Nat.zero_mul, Int.natCast_zero, Int.add_zero]

theorem moved_moved (clock : Clock) (steps more : Nat) :
    (clock.moved steps).moved more = clock.moved (steps + more) := by
  simp only [moved, Nat.add_mul, Int.natCast_add, Int.add_assoc]

theorem seconds_moved_mono (clock : Clock) {steps more : Nat} (h : steps ≤ more) :
    (clock.moved steps).current.seconds ≤ (clock.moved more).current.seconds := by
  have := Nat.mul_le_mul_right clock.step h
  unfold moved
  dsimp only
  omega

theorem advance?_eq (clock : Clock) : clock.advance? =
    if (clock.moved 1).current.seconds ≤ Timestamp.last.seconds then some (clock.moved 1)
    else none := by
  rw [advance?, moved, Nat.one_mul]

end Clock

namespace Session

variable {σ : Type} {s : Settings} {stores : Stores (StateM σ)} {clock : Clock}

/-! ## Requests that are given a time -/

/-- Whether a step is given a time of its own. -/
def Step.isTimed : Step → Bool
  | .compile r => r.config.validate.isOk
  | _ => false

/-- The number of steps that are given a time. -/
def timed (steps : List Step) : Nat := steps.countP Step.isTimed

theorem Step.clockBehind?_eq (first : Step) (clock : Clock) :
    first.clockBehind? clock = if first.isTimed then clock.advance? else some clock := by
  cases first with
  | compile r =>
      cases valid : r.config.validate <;>
        simp [clockBehind?, isTimed, valid, Except.isOk, Except.toBool]
  | _ => rfl

/-- The clock behind some steps has moved on once for each of those that were given a time, unless
no clock can show that. -/
theorem clockAfter?_eq (shown : clock.current.seconds ≤ Timestamp.last.seconds)
    (steps : List Step) : clockAfter? clock steps =
      if (clock.moved (timed steps)).current.seconds ≤ Timestamp.last.seconds then
        some (clock.moved (timed steps))
      else none := by
  induction steps generalizing clock with
  | nil => rw [timed, List.countP_nil, Clock.moved_zero, if_pos shown, clockAfter?_nil]
  | cons first steps ih =>
      rw [clockAfter?_cons, Step.clockBehind?_eq]
      by_cases given : first.isTimed
      · have count : timed (first :: steps) = 1 + timed steps := by
          rw [timed, List.countP_cons_of_pos given, Nat.add_comm]
          rfl
        rw [if_pos given, count, Clock.advance?_eq]
        split
        · next next => rw [Option.bind_some, ih next, Clock.moved_moved]
        · next beyond =>
            have further := clock.seconds_moved_mono (Nat.le_add_right 1 (timed steps))
            rw [Option.bind_none, if_neg (by omega)]
      · have count : timed (first :: steps) = timed steps := List.countP_cons_of_neg given
        rw [if_neg given, count, Option.bind_some, ih shown]

theorem Answer.isLast_iff {answer : Answer} :
    answer.isLast = true ↔ ∃ calls, answer = .ended .clockExhausted calls := by
  constructor
  · intro last
    cases answer with
    | ended outcome calls =>
        cases outcome with
        | clockExhausted => exact ⟨calls, rfl⟩
        | _ => cases last
    | _ => cases last
  · rintro ⟨calls, rfl⟩
    rfl

/-- A session breaks off where a step needs a time that the clock cannot show. -/
theorem exhausted_mem_run_iff (clock : Clock) (steps : List Step) (x : σ) :
    (∃ calls, .ended .clockExhausted calls ∈ (taken (run s stores clock steps) x).1) ↔
      clockAfter? clock steps = none := by
  induction steps generalizing clock x with
  | nil => simp
  | cons first steps ih =>
      cases behind : first.clockBehind? clock with
      | some later =>
          have goesOn : ∀ calls, .ended .clockExhausted calls ≠
              (taken (step s stores clock first) x).1.1 := by
            intro calls same
            have last := Answer.isLast_iff.mpr ⟨calls, same.symm⟩
            rw [(step_of_clockBehind? s stores x behind).2] at last
            cases last
          rw [taken_run_cons s stores steps x behind, clockAfter?_cons, behind, Option.bind_some]
          refine Iff.trans (exists_congr fun calls => ?_)
            (ih later (taken (step s stores clock first) x).2)
          rw [List.mem_cons, or_iff_right (goesOn calls)]
      | none =>
          obtain ⟨calls, last⟩ := Answer.isLast_iff.mp (step_of_clockBehind?_none s stores x behind)
          rw [taken_run_cons_none s stores steps x behind, clockAfter?_cons, behind,
            Option.bind_none, last]
          exact iff_of_true ⟨calls, List.mem_singleton_self _⟩ rfl

/-! ## Answers -/

/-- The answer to a request that is given a time. -/
def answerAt (s : Settings) (stores : Stores (StateM σ)) (r : Request) (t : Timestamp) (x : σ) :
    Answer :=
  .ended (Compiler.outcome (taken (Compiler.compileAt s stores r t) x).1.1)
    (taken (Compiler.compileAt s stores r t) x).1.2

theorem step_compile_of_advance? {later : Clock} {r : Request} (x : σ)
    (config : r.config.validate = .ok ()) (advance : clock.advance? = some later) :
    (taken (step s stores clock (.compile r)) x).1.1 = answerAt s stores r later.current x := by
  simp only [step, Compiler.compile, config, advance, taken_bind, answerAt]
  rcases taken (Compiler.compileAt s stores r later.current) x with ⟨⟨error | artifact, calls⟩, y⟩
  · rfl
  · rfl

theorem step_compile_of_exhausted {r : Request} (x : σ) (config : r.config.validate = .ok ())
    (advance : clock.advance? = none) :
    (taken (step s stores clock (.compile r)) x).1.1 = .ended .clockExhausted 0 := by
  simp only [step, Compiler.compile, config, advance, taken_bind]
  rfl

theorem timestamp_of_answerAt {r : Request} {t : Timestamp} {x : σ} {a : Artifact} {calls : Nat}
    (h : answerAt s stores r t x = .ended (.compiled a) calls) :
    a.timestamp = t ∧ a.path = Compiler.destination s r.name r.config t := by
  rcases at' : taken (Compiler.compileAt s stores r t) x with ⟨⟨error | artifact, calls'⟩, y⟩
  · rw [answerAt, at'] at h
    cases h
  · rw [answerAt, at'] at h
    cases h
    have placed := Compiler.placed_of_endedAt (Compiler.compileAt_endedAt at')
    exact ⟨placed.2, placed.1⟩

section

variable (shown : clock.current.seconds ≤ Timestamp.last.seconds) {before : List Step} {r : Request}
  (config : r.config.validate = .ok ())

include shown config

/-- A request that is given a time is answered for the one behind those of the steps before it. -/
theorem getElem?_run_of_inTime (behind : List Step) (x : σ)
    (inTime : (clock.moved (timed before + 1)).current.seconds ≤ Timestamp.last.seconds) :
    (taken (run s stores clock (before ++ .compile r :: behind)) x).1[before.length]? =
      some (answerAt s stores r (clock.moved (timed before + 1)).current
        (taken (run s stores clock before) x).2) := by
  have reached := clock.seconds_moved_mono (Nat.le_add_right (timed before) 1)
  have gone := clockAfter?_eq shown before
  rw [if_pos (by omega)] at gone
  have advance : (clock.moved (timed before)).advance? = some (clock.moved (timed before + 1)) := by
    rw [Clock.advance?_eq, Clock.moved_moved, if_pos inTime]
  rw [run_getElem? s stores x gone, step_compile_of_advance? _ config advance]

/-- A request whose time no clock can show ends a run that has come to it. -/
theorem run_of_late (behind : List Step) (x : σ)
    (reached : (clock.moved (timed before)).current.seconds ≤ Timestamp.last.seconds)
    (late : Timestamp.last.seconds < (clock.moved (timed before + 1)).current.seconds) :
    (taken (run s stores clock (before ++ .compile r :: behind)) x).1 =
      (taken (run s stores clock before) x).1 ++ [.ended .clockExhausted 0] := by
  have gone := clockAfter?_eq shown before
  rw [if_pos reached] at gone
  have advance : (clock.moved (timed before)).advance? = none := by
    rw [Clock.advance?_eq, Clock.moved_moved, if_neg (Int.not_le.mpr late)]
  have stops : Step.clockBehind? (clock.moved (timed before)) (.compile r) = none := by
    simp only [Step.clockBehind?, config, advance]
  rw [taken_run_append s stores _ x gone, taken_run_cons_none s stores _ _ stops,
    step_compile_of_exhausted _ config advance]

end

/-! ## Calendar time -/

/-- The calendar counts the seconds that a clock does. -/
theorem timestamp_after {start : CalendarTime} (valid : start.Valid) (step steps : Nat) :
    (start.after (steps * step)).timestamp = (Clock.moved ⟨start.timestamp, step⟩ steps).current :=
  congrArg Timestamp.mk (CalendarTime.seconds_after valid _)

/--
A clock with the step of the settings is made unless the step is too great. From a start that a
clock can show, a request with a valid configuration is answered for the calendar time that lies as
many steps behind the start as requests with a valid configuration came before it, and one more,
however they ended. Where no clock can show that time, the request is the first that fails for it,
and the session ends with it.
-/
theorem session_keeps_calendar_time (s : Settings) (stores : Stores (StateM σ)) {start : CalendarTime}
    (valid : start.Valid) (shown : ¬ CalendarTime.last.Before start) :
    ((Clock.startingAt start.timestamp).withStep? s.stepSeconds = none ↔
      9223372036854775 < max s.stepSeconds 1) ∧
    ∀ clock, (Clock.startingAt start.timestamp).withStep? s.stepSeconds = some clock →
      let time (n : Nat) := start.after (n * (max s.stepSeconds 1).toNat)
      ∀ (before : List Step) (x : σ),
        ((∃ calls, .ended .clockExhausted calls ∈ (taken (run s stores clock before) x).1) ↔
          CalendarTime.last.Before (time (timed before))) ∧
        ∀ (r : Request) (behind : List Step), r.config.validate = .ok () →
          ¬ CalendarTime.last.Before (time (timed before)) →
          let now := time (timed before + 1)
          let answers := (taken (run s stores clock (before ++ .compile r :: behind)) x).1
          (¬ CalendarTime.last.Before now → now.timestamp.calendarTime = now ∧
            answers[before.length]? =
              some (answerAt s stores r now.timestamp (taken (run s stores clock before) x).2) ∧
            ∀ a calls, answers[before.length]? = some (.ended (.compiled a) calls) →
              a.timestamp = now.timestamp ∧
                a.path = Compiler.destination s r.name r.config now.timestamp) ∧
          (CalendarTime.last.Before now →
            answers = (taken (run s stores clock before) x).1 ++ [.ended .clockExhausted 0]) := by
  refine ⟨Clock.withStep?_eq_none_iff _ _, fun clock set => ?_⟩
  obtain rfl := Clock.eq_of_withStep? set
  intro time before x
  have counted : ∀ n, (time n).timestamp =
      (Clock.moved ⟨start.timestamp, (max s.stepSeconds 1).toNat⟩ n).current :=
    timestamp_after valid _
  have beyond : ∀ n, CalendarTime.last.Before (time n) ↔ Timestamp.last.seconds <
      (Clock.moved ⟨start.timestamp, (max s.stepSeconds 1).toNat⟩ n).current.seconds := by
    intro n
    rw [CalendarTime.last_before_iff (valid.after _), counted]
  have within : start.timestamp.seconds ≤ Timestamp.last.seconds := by
    rwa [CalendarTime.last_before_iff valid, Int.not_lt] at shown
  constructor
  · rw [exhausted_mem_run_iff, beyond, Clock.startingAt, clockAfter?_eq within, ite_eq_right_iff]
    simp
  · intro r behind config reached now answers
    rw [beyond, Int.not_lt] at reached
    rw [beyond, counted]
    constructor
    · intro inTime
      have answered : answers[before.length]? = _ :=
        getElem?_run_of_inTime within config behind x (Int.not_lt.mp inTime)
      refine ⟨?_, answered, fun a calls compiled => ?_⟩
      · rw [← counted, CalendarTime.calendarTime_timestamp (valid.after _)]
      · exact timestamp_of_answerAt (Option.some.inj (answered.symm.trans compiled))
    · exact run_of_late within config behind x reached

/-- With the least step, the first request and the refused one take the last two seconds. -/
theorem session_keeps_calendar_time_to_its_end :
    let s : Settings := { Settings.standard with stepSeconds := -7 }
    let start : CalendarTime := ⟨⟨262142, 12, 31⟩, 23, 59, 57⟩
    let before : List Step := [.compile (namedRequest "Ant" "out" []),
      .compile (namedRequest "Bee" "" []),
      .compile (namedRequest "Cat" "out" [.refusing "no" (.extension "no" "never")])]
    let answers := (taken (run s Memory.stores ⟨start.timestamp, 1⟩ before) Memory.empty).1
    start.Valid ∧ ¬ CalendarTime.last.Before start ∧
      (Clock.startingAt start.timestamp).withStep? s.stepSeconds = some ⟨start.timestamp, 1⟩ ∧
      timed before = 2 ∧ start.after 2 = CalendarTime.last ∧
      answers.length = 3 ∧ (∀ calls, .ended .clockExhausted calls ∉ answers) ∧
      ∀ behind, (taken (run s Memory.stores ⟨start.timestamp, 1⟩
        (before ++ .compile (namedRequest "Dog" "out" []) :: behind)) Memory.empty).1 =
          answers ++ [.ended .clockExhausted 0] := by
  intro s start before answers
  have valid : start.Valid := by decide
  have shown : ¬ CalendarTime.last.Before start := by decide
  have set : (Clock.startingAt start.timestamp).withStep? s.stepSeconds =
      some ⟨start.timestamp, 1⟩ := by decide +kernel
  have count : timed before = 2 := by decide +kernel
  have atEnd : start.after 2 = CalendarTime.last := by decide
  obtain ⟨ended, timely⟩ :=
    (session_keeps_calendar_time s Memory.stores valid shown).2 _ set before Memory.empty
  rw [count] at ended timely
  refine ⟨valid, shown, set, count, atEnd, by decide +kernel, fun calls mem => ?_, fun behind => ?_⟩
  · exact absurd (ended.mp ⟨calls, mem⟩) (by decide +kernel)
  · exact (timely (namedRequest "Dog" "out" []) behind (by decide +kernel) (by decide +kernel)).2
      (by decide +kernel)

end Session

end ModelMigration
