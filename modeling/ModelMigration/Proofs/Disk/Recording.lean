import ModelMigration.Proofs.StateSteps
import ModelMigration.Store.Document
import ModelMigration.Stores

/-!
# Recorded writes

A disk can be made to record the paths of the files that are written to it. Whatever is done with
the disk goes on as before, and the record only grows; reading documents and making directories
leave it as it is, and the stores write one file each.
-/

namespace ModelMigration.Disk

variable {σ α β : Type}

/-! ## Recording disks -/

/-- A step beside which the record stays as it is. -/
def unrecorded (p : StateM σ α) : StateM (σ × List Path) α := fun (x, record) =>
  let (a, y) := p x
  (a, (y, record))

/-- A disk that records, behind those before, the path of each file that is written. -/
def Access.recording (disk : Access (StateM σ)) : Access (StateM (σ × List Path)) where
  kind? path := unrecorded (disk.kind? path)
  read path := unrecorded (disk.read path)
  write path content := fun (x, record) =>
    match disk.write path content x with
    | (.ok (), y) => (.ok (), (y, record ++ [path]))
    | (.error refusal, y) => (.error refusal, (y, record))
  makeDirectory path := unrecorded (disk.makeDirectory path)
  list path := unrecorded (disk.list path)
  remove path := unrecorded (disk.remove path)

/-- Whether a step `p` on the recording disk does what `q` does on the disk itself, and whether what
it adds to the record is as `adds` says for its result. -/
def Records (adds : α → List Path → Prop) (p : StateM (σ × List Path) α) (q : StateM σ α) : Prop :=
  ∀ x before, ∃ more, adds (taken q x).1 more ∧
    taken p (x, before) = ((taken q x).1, ((taken q x).2, before ++ more))

/-- Whether a step does on the recording disk what it does on the disk itself, and adds nothing to
the record. -/
def Quiet (p : StateM (σ × List Path) α) (q : StateM σ α) : Prop :=
  Records (fun _ more => more = []) p q

theorem quiet_unrecorded (p : StateM σ α) : Quiet (unrecorded p) p := by
  intro x before
  refine ⟨[], rfl, ?_⟩
  rw [List.append_nil]
  rfl

theorem Records.pure {adds : α → List Path → Prop} {a : α} (nothing : adds a []) :
    Records adds (Pure.pure a : StateM (σ × List Path) α) (Pure.pure a) := by
  intro x before
  refine ⟨[], nothing, ?_⟩
  rw [List.append_nil]
  rfl

theorem Records.bind {adds : α → List Path → Prop} {others : β → List Path → Prop}
    {p : StateM (σ × List Path) α} {q : StateM σ α} {f : α → StateM (σ × List Path) β}
    {g : α → StateM σ β} (first : Records adds p q)
    (next : ∀ a more, adds a more →
      Records (fun b later => others b (more ++ later)) (f a) (g a)) :
    Records others (p >>= f) (q >>= g) := by
  intro x before
  obtain ⟨more, added, step⟩ := first x before
  obtain ⟨later, addedLater, stepLater⟩ :=
    next (taken q x).1 more added (taken q x).2 (before ++ more)
  refine ⟨more ++ later, addedLater, ?_⟩
  rw [taken_bind, step, stepLater, taken_bind, List.append_assoc]

theorem Quiet.bind {others : β → List Path → Prop} {p : StateM (σ × List Path) α} {q : StateM σ α}
    {f : α → StateM (σ × List Path) β} {g : α → StateM σ β} (first : Quiet p q)
    (next : ∀ a, Records others (f a) (g a)) : Records others (p >>= f) (q >>= g) := by
  refine Records.bind first fun a more nothing => ?_
  subst nothing
  exact next a

/-! ## What is built from the operations -/

variable (disk : Access (StateM σ))

/-- Whether exactly the file at a path is added to the record, if there is a result, and none
otherwise. -/
def Adds {ε : Type} (path : Path) : Except ε α → List Path → Prop
  | .ok _, more => more = [path]
  | .error _, more => more = []

theorem records_writeText (path : Path) (text : String) :
    Records (Adds path) (disk.recording.writeText path text) (disk.writeText path text) := by
  intro x before
  have steps : taken (disk.recording.writeText path text) (x, before) =
      match taken (disk.writeText path text) x with
      | (.ok (), y) => (.ok (), (y, before ++ [path]))
      | (.error refusal, y) => (.error refusal, (y, before)) := rfl
  rw [steps]
  match taken (disk.writeText path text) x with
  | (.ok (), y) => exact ⟨[path], rfl, rfl⟩
  | (.error refusal, y) => exact ⟨[], rfl, by rw [List.append_nil]⟩

theorem quiet_present (path : Path) : Quiet (disk.recording.present path) (disk.present path) :=
  (quiet_unrecorded _).bind fun _ => .pure rfl

theorem quiet_isFile (path : Path) : Quiet (disk.recording.isFile path) (disk.isFile path) :=
  (quiet_unrecorded _).bind fun _ => .pure rfl

theorem quiet_isDirectory (path : Path) :
    Quiet (disk.recording.isDirectory path) (disk.isDirectory path) :=
  (quiet_unrecorded _).bind fun _ => .pure rfl

theorem quiet_readText (path : Path) : Quiet (disk.recording.readText path) (disk.readText path) := by
  refine (quiet_unrecorded (disk.read path)).bind fun bytes => ?_
  cases bytes with
  | error refusal => exact .pure rfl
  | ok bytes =>
      dsimp only
      cases String.fromUTF8? bytes <;> exact .pure rfl

theorem quiet_makeOutermost (ancestors missing : List Path) :
    Quiet (disk.recording.makeOutermost ancestors missing)
      (disk.makeOutermost ancestors missing) := by
  induction ancestors generalizing missing with
  | nil => exact .pure rfl
  | cons path ancestors ih =>
      unfold Access.makeOutermost
      split
      · exact .pure rfl
      · refine (quiet_unrecorded (disk.makeDirectory path)).bind fun made => ?_
        rcases made with (_ | _) | _
        case error.notFound => exact ih _
        case error.alreadyThere =>
          refine (quiet_isDirectory disk path).bind fun there => ?_
          cases there <;> exact .pure rfl
        all_goals exact .pure rfl

theorem quiet_makeEach (paths : List Path) :
    Quiet (disk.recording.makeEach paths) (disk.makeEach paths) := by
  induction paths with
  | nil => exact .pure rfl
  | cons path paths ih =>
      unfold Access.makeEach
      refine (quiet_unrecorded (disk.makeDirectory path)).bind fun made => ?_
      rcases made with (_ | _) | _
      case error.alreadyThere =>
        refine (quiet_isDirectory disk path).bind fun there => ?_
        cases there
        · exact .pure rfl
        · exact ih
      case ok => exact ih
      all_goals exact .pure rfl

theorem quiet_makeDirectories (path : Path) :
    Quiet (disk.recording.makeDirectories path) (disk.makeDirectories path) := by
  refine (quiet_makeOutermost disk path.ancestors []).bind fun made => ?_
  cases made with
  | error refusal => exact .pure rfl
  | ok missing => exact quiet_makeEach disk missing

/-! ## Documents -/

theorem quiet_readDocument (path : Path) :
    Quiet (readDocument disk.recording path) (readDocument disk path) := by
  refine (quiet_present disk path).bind fun there => ?_
  cases there with
  | false => exact .pure rfl
  | true =>
      refine (quiet_readText disk path).bind fun text => ?_
      cases text <;> exact .pure rfl

theorem quiet_loadModel (path : Path) :
    Quiet (loadModel disk.recording path) (loadModel disk path) := by
  refine (quiet_readDocument disk path).bind fun text => ?_
  cases text <;> exact .pure rfl

theorem quiet_loadConfig (path : Path) :
    Quiet (loadConfig disk.recording path) (loadConfig disk path) := by
  refine (quiet_readDocument disk path).bind fun text => ?_
  cases text <;> exact .pure rfl

theorem quiet_loadStub (path : Path) :
    Quiet (loadStub disk.recording path) (loadStub disk path) := by
  refine (quiet_readText disk path).bind fun text => ?_
  cases text <;> exact .pure rfl

/-! ## Stores -/

theorem quiet_cache_contains (root : Path) (key : CacheKey) :
    Quiet ((cache disk.recording root).contains key) ((cache disk root).contains key) :=
  quiet_isFile disk _

theorem quiet_cache_read (root : Path) (key : CacheKey) :
    Quiet ((cache disk.recording root).read key) ((cache disk root).read key) := by
  refine (quiet_isFile disk _).bind fun there => ?_
  cases there with
  | false => exact .pure rfl
  | true =>
      refine (quiet_readText disk _).bind fun text => ?_
      cases text <;> exact .pure rfl

theorem records_cache_write (root : Path) (key : CacheKey) (text : String) :
    Records (Adds (entryPath root key)) ((cache disk.recording root).write key text)
      ((cache disk root).write key text) := by
  refine (quiet_makeDirectories disk root).bind fun made => ?_
  cases made with
  | error refusal => exact .pure rfl
  | ok =>
      refine (records_writeText disk _ text).bind fun written more added => ?_
      cases written <;> exact .pure (by simpa [Adds] using added)

theorem quiet_makeParent (path : Path) :
    Quiet (makeParent disk.recording path) (makeParent disk path) := by
  unfold makeParent
  cases path.parent? with
  | none => exact .pure rfl
  | some parent =>
      dsimp only
      split
      · exact .pure rfl
      · refine (quiet_present disk parent).bind fun there => ?_
        cases there with
        | true => exact .pure rfl
        | false =>
            refine (quiet_makeDirectories disk parent).bind fun made => ?_
            cases made <;> exact .pure rfl

theorem records_output_put (path : Path) (text : String) :
    Records (Adds path) ((output disk.recording).put path text) ((output disk).put path text) := by
  refine (quiet_makeParent disk path).bind fun made => ?_
  cases made with
  | error error => exact .pure rfl
  | ok =>
      refine (records_writeText disk path text).bind fun written more added => ?_
      cases written <;> exact .pure (by simpa [Adds] using added)

end ModelMigration.Disk
