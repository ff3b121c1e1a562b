import Mathlib.Data.List.Chain
import ModelMigration.Extension
import ModelMigration.Proofs.StateSteps

/-!
# Calls of extensions

The extensions of a list run as a fold from the left that ends with the first refusal. Which of them
are called shows where they have a state: they are called in order, each on what the one before it
has left, and none behind a refusal. A run that fails tells which extension refused.
-/

namespace ModelMigration

variable {σ : Type} {model : Model} {config : Config}

theorem Extension.runAll_append (a b : List Extension) (text : String) :
    runAll model config (a ++ b) text = (runAll model config a text >>= runAll model config b) := by
  induction a generalizing text with
  | nil => rfl
  | cons e a ih =>
      rw [List.cons_append, runAll, runAll, bind_assoc]
      exact congrArg _ (funext ih)

/-! ## Extensions with a state -/

/-- An extension that may look at a state and change it. -/
structure StatefulExtension (σ : Type) where
  name : String
  apply : String → Model → Config → ExceptT Error (StateM σ) String

/-- The extension as one that leaves every state as it is. -/
def Extension.stateful (σ : Type) (e : Extension) : StatefulExtension σ :=
  ⟨e.name, fun text model config => ExceptT.mk (pure (e.apply text model config))⟩

namespace StatefulExtension

/-- The outcome of one extension. -/
def run (e : StatefulExtension σ) (text : String) (model : Model) (config : Config) :
    ExceptT Error (StateM σ) String :=
  (e.apply text model config).adapt (Extension.refusal e.name)

/-- The outcome of the extensions, one after another. -/
def runAll (model : Model) (config : Config) (es : List (StatefulExtension σ)) (text : String) :
    ExceptT Error (StateM σ) String :=
  es.foldlM (fun text e => e.run text model config) text

@[simp] theorem taken_runAll_nil (text : String) (s : σ) :
    taken (runAll model config [] text).run s = (.ok text, s) := rfl

theorem taken_runAll_cons (e : StatefulExtension σ) (es : List (StatefulExtension σ))
    (text : String) (s : σ) : taken (runAll model config (e :: es) text).run s =
      match taken (e.apply text model config).run s with
      | (.ok out, t) => taken (runAll model config es out).run t
      | (.error cause, t) => (.error (Extension.refusal e.name cause), t) := by
  rw [runAll, List.foldlM_cons, taken_run_bind, run, taken_run_adapt]
  rcases taken (e.apply text model config).run s with ⟨cause | out, t⟩ <;> rfl

/-! ## Calls -/

/-- A call of an extension: what it was given, and what it made of that. -/
structure Call (σ : Type) where
  extension : StatefulExtension σ
  text : String
  before : σ
  result : Except Error String
  after : σ

/-- The call of an extension on a text in a state. -/
def call (e : StatefulExtension σ) (text : String) (model : Model) (config : Config) (s : σ) :
    Call σ :=
  let (result, after) := taken (e.apply text model config).run s
  ⟨e, text, s, result, after⟩

/-- The extension with its calls recorded beside the state. -/
def recorded (e : StatefulExtension σ) : StatefulExtension (σ × List (Call σ)) where
  name := e.name
  apply text model config := ExceptT.mk fun (s, earlier) =>
    let call := e.call text model config s
    (call.result, call.after, earlier ++ [call])

/-- The calls of a run, in the order in which the extensions record them. -/
def calls (model : Model) (config : Config) (es : List (StatefulExtension σ)) (text : String)
    (s : σ) : List (Call σ) :=
  (taken (runAll model config (es.map recorded) text).run (s, [])).2.2

/-- A call is recorded behind the earlier ones. -/
theorem taken_recorded (e : StatefulExtension σ) (text : String) (s : σ) (earlier : List (Call σ)) :
    taken ((recorded e).apply text model config).run (s, earlier) =
      ((e.call text model config s).result, (e.call text model config s).after,
        earlier ++ [e.call text model config s]) := rfl

theorem taken_runAll_recorded (es : List (StatefulExtension σ)) (text : String) (s : σ)
    (earlier : List (Call σ)) :
    taken (runAll model config (es.map recorded) text).run (s, earlier) =
      ((taken (runAll model config es text).run s).1, (taken (runAll model config es text).run s).2,
        earlier ++ calls model config es text s) := by
  induction es generalizing text s earlier with
  | nil => simp [calls]
  | cons e es ih =>
      -- The calls of the whole list are those that are recorded behind none.
      rw [calls, List.map_cons]
      simp only [taken_runAll_cons, taken_recorded, call]
      rcases taken (e.apply text model config).run s with ⟨cause | out, t⟩
      · rfl
      · simp only [ih, List.append_assoc, List.nil_append]

@[simp] theorem calls_nil (text : String) (s : σ) : calls model config [] text s = [] := rfl

theorem calls_cons (e : StatefulExtension σ) (es : List (StatefulExtension σ)) (text : String)
    (s : σ) : calls model config (e :: es) text s =
      e.call text model config s ::
        match taken (e.apply text model config).run s with
        | (.ok out, t) => calls model config es out t
        | (.error _, _) => [] := by
  rw [calls, List.map_cons, taken_runAll_cons, taken_recorded]
  simp only [call]
  rcases taken (e.apply text model config).run s with ⟨cause | out, t⟩
  · rfl
  · simp only [taken_runAll_recorded, List.cons_append, List.nil_append]

/-- Whether an error tells of the refusal of an extension: it is the refusal itself, or it names the
extension and repeats what is said of the refusal. -/
def Tells (name : String) (cause error : Error) : Prop :=
  ∃ other message, error = .extension other message ∧
    (cause = error ∨ (∀ n m, cause ≠ .extension n m) ∧ other = name ∧ message = cause.message)

theorem tells_refusal (name : String) (cause : Error) :
    Tells name cause (Extension.refusal name cause) := by
  cases cause with
  | extension other message => exact ⟨other, message, rfl, .inl rfl⟩
  | _ => exact ⟨name, _, rfl, .inr ⟨nofun, rfl, rfl⟩⟩

/-- Whether a run of extensions on a text in a state consists of some calls and ends so. -/
structure CalledInOrder (model : Model) (config : Config) (es : List (StatefulExtension σ))
    (text : String) (s : σ) (calls : List (Call σ)) (ended : Except Error String × σ) : Prop where
  /-- The extensions that are called are the first ones, in order and each once. -/
  inOrder : calls.map Call.extension <+: es
  /-- What a call is said to make of a text and a state is what the extension makes of them. -/
  made : ∀ call ∈ calls,
    taken (call.extension.apply call.text model config).run call.before = (call.result, call.after)
  first : ∀ call ∈ calls.head?, call.text = text ∧ call.before = s
  /-- An extension is called behind another only if that one has accepted its text, and then on what
  it has left. -/
  next : calls.IsChain fun call later => call.result = .ok later.text ∧ later.before = call.after
  uncalled : calls = [] → es = [] ∧ ended = (.ok text, s)
  accepted : ∀ call ∈ calls.getLast?, ∀ out, call.result = .ok out →
    calls.length = es.length ∧ ended = (.ok out, call.after)
  refused : ∀ call ∈ calls.getLast?, ∀ cause, call.result = .error cause →
    ∃ error, Tells call.extension.name cause error ∧ ended = (.error error, call.after)

namespace CalledInOrder

variable {e : StatefulExtension σ} {es : List (StatefulExtension σ)} {text out : String} {s t : σ}

theorem nil : CalledInOrder model config [] text s [] (.ok text, s) where
  inOrder := List.prefix_rfl
  made := nofun
  first := nofun
  next := .nil
  uncalled _ := ⟨rfl, rfl⟩
  accepted := nofun
  refused := nofun

theorem refuse {cause : Error}
    (called : taken (e.apply text model config).run s = (.error cause, t)) :
    CalledInOrder model config (e :: es) text s [⟨e, text, s, .error cause, t⟩]
      (.error (Extension.refusal e.name cause), t) where
  inOrder := by simp
  made := by simpa using called
  first := by simp
  next := .singleton _
  uncalled := nofun
  accepted := by simp
  refused := by simpa using tells_refusal e.name cause

theorem accept {calls : List (Call σ)} {ended : Except Error String × σ}
    (called : taken (e.apply text model config).run s = (.ok out, t))
    (rest : CalledInOrder model config es out t calls ended) :
    CalledInOrder model config (e :: es) text s (⟨e, text, s, .ok out, t⟩ :: calls) ended where
  inOrder := by simpa using rest.inOrder
  made := by simpa using ⟨called, rest.made⟩
  first := by simp
  next := by
    refine rest.next.cons ?_
    intro later mem
    obtain ⟨given, before⟩ := rest.first later mem
    exact ⟨congrArg Except.ok given.symm, before⟩
  uncalled := nofun
  accepted := by
    intro last isLast out' accepted
    cases calls with
    | nil =>
        obtain ⟨rfl, rfl⟩ := rest.uncalled rfl
        cases Option.mem_some.mp isLast
        cases accepted
        exact ⟨rfl, rfl⟩
    | cons later calls =>
        rw [List.getLast?_cons_cons] at isLast
        obtain ⟨all, same⟩ := rest.accepted last isLast out' accepted
        exact ⟨congrArg Nat.succ all, same⟩
  refused := by
    intro last isLast cause refused
    cases calls with
    | nil =>
        cases Option.mem_some.mp isLast
        cases refused
    | cons later calls =>
        rw [List.getLast?_cons_cons] at isLast
        exact rest.refused last isLast cause refused

end CalledInOrder

theorem calledInOrder_calls (es : List (StatefulExtension σ)) (text : String) (s : σ) :
    CalledInOrder model config es text s (calls model config es text s)
      (taken (runAll model config es text).run s) := by
  induction es generalizing text s with
  | nil => exact .nil
  | cons e es ih =>
      rw [calls_cons, taken_runAll_cons, call]
      rcases called : taken (e.apply text model config).run s with ⟨cause | out, t⟩
      · exact .refuse called
      · exact .accept called (ih out t)

/-! ## Extensions without a state -/

theorem taken_stateful (e : Extension) (text : String) (s : σ) :
    taken ((e.stateful σ).apply text model config).run s = (e.apply text model config, s) := rfl

theorem taken_runAll_stateful (es : List Extension) (text : String) (s : σ) :
    taken (runAll model config (es.map (Extension.stateful σ)) text).run s =
      (Extension.runAll model config es text, s) := by
  induction es generalizing text with
  | nil => rfl
  | cons e es ih =>
      rw [List.map_cons, taken_runAll_cons, taken_stateful, Extension.runAll, Extension.run]
      cases e.apply text model config with
      | error cause => rfl
      | ok out => exact ih out

theorem text_calls_stateful (es : List Extension) (text : String) (s : σ) :
    (calls model config (es.map (Extension.stateful σ)) text s).map Call.text =
      Extension.inputs model config es text := by
  induction es generalizing text with
  | nil => rfl
  | cons e es ih =>
      rw [List.map_cons, calls_cons, taken_stateful, Extension.inputs, Extension.run, List.map_cons]
      cases e.apply text model config with
      | error cause => rfl
      | ok out => exact congrArg (text :: ·) (ih out)

/--
The extensions of a list are run one after another, and a list behind another on what that one has
left, unless it is refused. Each is called in its place, on exactly what the one before it has left,
and none behind the first refusal; the run fails with what tells of that refusal. So it is with
extensions that change a state, whose calls are seen in it, and those without one are run alike.
-/
theorem extensions_run_in_order (model : Model) (config : Config) (text : String) (s : σ) :
    (∀ a b : List Extension, Extension.runAll model config (a ++ b) text =
      (Extension.runAll model config a text >>= Extension.runAll model config b)) ∧
    (∀ es : List Extension,
      taken (runAll model config (es.map (Extension.stateful σ)) text).run s =
        (Extension.runAll model config es text, s) ∧
      (calls model config (es.map (Extension.stateful σ)) text s).map Call.text =
        Extension.inputs model config es text) ∧
    (∀ a b : List (StatefulExtension σ),
      runAll model config (a ++ b) text = runAll model config a text >>= runAll model config b) ∧
    ∀ es : List (StatefulExtension σ),
      let ended := taken (runAll model config es text).run s
      taken (runAll model config (es.map recorded) text).run (s, []) =
        (ended.1, ended.2, calls model config es text s) ∧
      CalledInOrder model config es text s (calls model config es text s) ended := by
  refine ⟨fun a b => Extension.runAll_append a b text, fun es => ?_,
    fun _ _ => List.foldlM_append, fun es => ?_⟩
  · exact ⟨taken_runAll_stateful es text s, text_calls_stateful es text s⟩
  · exact ⟨taken_runAll_recorded es text s [], calledInOrder_calls es text s⟩

/-- An extension that numbers its calls is not called behind the refusal of another. -/
example :
    let numbering : StatefulExtension Nat :=
      ⟨"numbering", fun text _ _ => ExceptT.mk fun n => (.ok (text ++ toString n), n + 1)⟩
    let refusing := (Extension.refusing "refusing" (.validation "no")).stateful Nat
    let config : Config := ⟨none, "migrations"⟩
    let es := [numbering, numbering, refusing, numbering]
    taken (runAll ⟨[]⟩ config es "text").run 7 =
        (.error (.extension "refusing" "Validation error: no"), 9) ∧
      (calls ⟨[]⟩ config es "text" 7).map Call.text = ["text", "text7", "text78"] := by
  decide

end StatefulExtension

end ModelMigration
