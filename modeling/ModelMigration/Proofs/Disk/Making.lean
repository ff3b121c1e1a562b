import ModelMigration.Proofs.Disk.Places
import ModelMigration.Proofs.StateSteps

/-!
# Making directories

Whatever is asked for and however it ends, making a directory with those above it changes no entry
of a file tree: there may be more directories, at the ends of the paths that were tried.
-/

namespace ModelMigration.Disk.FileTree

open ModelMigration.Path

variable {t u v : FileTree} {p : Path} {place directory : Location} {name : String}

/-! ## The operations on a tree -/

/-- Whether a path finds a file. -/
def hasFile (t : FileTree) (p : Path) : Bool :=
  match t.find p with
  | .ok (_, .file _) => true
  | _ => false

/-- Whether a path finds a directory. -/
def hasDirectory (t : FileTree) (p : Path) : Bool :=
  match t.find p with
  | .ok (_, .directory) => true
  | _ => false

theorem hasFile_eq_true_iff :
    t.hasFile p = true ↔ ∃ place content, t.find p = .ok (place, .file content) := by
  unfold hasFile
  split <;> simp_all

theorem hasDirectory_eq_true_iff :
    t.hasDirectory p = true ↔ ∃ place, t.find p = .ok (place, .directory) := by
  unfold hasDirectory
  split <;> simp_all

@[simp] theorem taken_isFile (p : Path) (t : FileTree) :
    taken (access.isFile p) t = (t.hasFile p, t) := by
  show (decide ((t.find p).toOption.map (fun found => found.2.kind) = some .file), t) = _
  unfold hasFile
  split
  · next found => simp [found, Except.toOption, Entry.kind]
  · next other =>
      cases found : t.find p with
      | error refusal => simp [Except.toOption]
      | ok place =>
          obtain ⟨place, directory | content⟩ := place
          · simp [Except.toOption, Entry.kind]
          · exact absurd found (other place content)

@[simp] theorem taken_isDirectory (p : Path) (t : FileTree) :
    taken (access.isDirectory p) t = (t.hasDirectory p, t) := by
  show (decide ((t.find p).toOption.map (fun found => found.2.kind) = some .directory), t) = _
  unfold hasDirectory
  split
  · next found => simp [found, Except.toOption, Entry.kind]
  · next other =>
      cases found : t.find p with
      | error refusal => simp [Except.toOption]
      | ok place =>
          obtain ⟨place, directory | content⟩ := place
          · exact absurd found (other place)
          · simp [Except.toOption, Entry.kind]

@[simp] theorem taken_present (p : Path) (t : FileTree) :
    taken (access.present p) t = ((t.find p).toOption.isSome, t) := by
  show ((Option.map _ (t.find p).toOption).isSome, t) = _
  rw [Option.isSome_map]

/-- What a change leads to from a tree. -/
def changed (t : FileTree) : Except Refusal FileTree → Except Refusal Unit × FileTree
  | .ok u => (.ok (), u)
  | .error refusal => (.error refusal, t)

theorem taken_change (edit : FileTree → Except Refusal FileTree) (t : FileTree) :
    taken (change edit) t = t.changed (edit t) := by
  unfold taken change changed
  cases edit t <;> rfl

@[simp] theorem taken_makeDirectory (p : Path) (t : FileTree) :
    taken (access.makeDirectory p) t = t.changed (t.makeDirectory p) :=
  taken_change (fun t => t.makeDirectory p) t

@[simp] theorem taken_write (p : Path) (content : ByteArray) (t : FileTree) :
    taken (access.write p content) t = t.changed (t.write p content) :=
  taken_change (fun t => t.write p content) t

@[simp] theorem taken_remove (p : Path) (t : FileTree) :
    taken (access.remove p) t = t.changed (t.remove p) :=
  taken_change (fun t => t.remove p) t

/-! ## Grown trees -/

/-- Whether a tree has the entries of another and more directories, all of them at places of a
kind. -/
structure Grown (new : Location → Prop) (t u : FileTree) : Prop where
  here : u.here = t.here
  entry : ∀ place, u.entry? place = t.entry? place ∨
    (t.entry? place = none ∧ u.entry? place = some .directory ∧ new place)

variable {new : Location → Prop}

theorem Grown.refl (new : Location → Prop) (t : FileTree) : Grown new t t :=
  ⟨rfl, fun _ => .inl rfl⟩

theorem Grown.trans (first : Grown new t u) (second : Grown new u v) : Grown new t v := by
  refine ⟨second.here.trans first.here, fun place => ?_⟩
  rcases second.entry place with same | ⟨none, directory, isNew⟩
  · rw [same]
    exact first.entry place
  · rcases first.entry place with same | ⟨_, directory', _⟩
    · exact .inr ⟨same ▸ none, directory, isNew⟩
    · simp [none] at directory'

theorem Grown.mono {wider : Location → Prop} (grown : Grown new t u)
    (h : ∀ place, new place → wider place) : Grown wider t u :=
  ⟨grown.here, fun place => (grown.entry place).imp id fun ⟨absent, made, isNew⟩ =>
    ⟨absent, made, h place isNew⟩⟩

theorem Grown.keeps (grown : Grown new t u) : Keeps t u := by
  refine ⟨grown.here, fun place directory => ?_⟩
  rcases grown.entry place with same | ⟨none, _⟩
  · rw [same, directory]
  · simp [none] at directory

theorem Grown.file?_eq (grown : Grown new t u) (place : Location) : u.file? place = t.file? place := by
  unfold file?
  rcases grown.entry place with same | ⟨none, directory, _⟩
  · rw [same]
  · rw [none, directory]

theorem Grown.find {entry : Entry} (grown : Grown new t u) (found : t.find p = .ok (place, entry)) :
    u.find p = .ok (place, entry) := by
  obtain ⟨start, origin, followed, stands, slash⟩ := find_eq_ok_iff.mp found
  refine find_eq_ok_iff.mpr ⟨start, ?_, grown.keeps.followAll followed, ?_, slash⟩
  · rw [origin_congr grown.here, origin]
  · rcases grown.entry place with same | ⟨none, _⟩
    · rw [same, stands]
    · simp [none] at stands

/-- Whether a directory made at a path in a tree that works here is of a kind. -/
def MadeWithin (here : Location) (new : Location → Prop) (p : Path) : Prop :=
  ∀ t : FileTree, t.here = here → ∀ directory name, t.target p = .ok (.named directory name) →
    new (directory ++ [name])

theorem madeWithin_anywhere (here : Location) (p : Path) : MadeWithin here (fun _ => True) p :=
  fun _ _ _ _ _ => trivial

theorem makeDirectory_eq_ok (h : t.makeDirectory p = .ok u) :
    ∃ directory name, t.target p = .ok (.named directory name) ∧
      t.entry? (directory ++ [name]) = none ∧ u = t.put (directory ++ [name]) .directory := by
  unfold makeDirectory at h
  obtain ⟨ended, target, h⟩ := bind_eq_ok_iff.mp h
  cases ended with
  | special => cases h
  | named directory name =>
      dsimp only at h
      split at h
      · cases h
      · split at h
        · cases h
        · next free =>
            cases h
            exact ⟨directory, name, target, by simpa using free, rfl⟩

theorem grown_put_directory (free : t.entry? (directory ++ [name]) = none)
    (isNew : new (directory ++ [name])) :
    Grown new t (t.put (directory ++ [name]) .directory) := by
  refine ⟨rfl, fun place => ?_⟩
  rw [entry?_put]
  by_cases same : directory ++ [name] = place
  · subst same
    exact .inr ⟨free, if_pos rfl, isNew⟩
  · exact .inl (if_neg same)

theorem grown_of_makeDirectory (within : MadeWithin t.here new p) (h : t.makeDirectory p = .ok u) :
    Grown new t u := by
  obtain ⟨directory, name, target, free, rfl⟩ := makeDirectory_eq_ok h
  exact grown_put_directory free (within t rfl directory name target)

theorem makeOutermost_grown {ancestors missing : List Path} {result : Except Refusal (List Path)}
    (within : ∀ p ∈ ancestors, MadeWithin t.here new p)
    (h : taken (access.makeOutermost ancestors missing) t = (result, u)) :
    Grown new t u ∧ ∀ made, result = .ok made → ∀ p ∈ made, p ∈ ancestors ∨ p ∈ missing := by
  induction ancestors generalizing missing with
  | nil =>
      cases h
      refine ⟨Grown.refl new t, ?_⟩
      rintro made ⟨⟩ p mem
      exact .inr mem
  | cons path ancestors ih =>
      have done : ∀ made, (Except.ok missing : Except Refusal (List Path)) = .ok made →
          ∀ p ∈ made, p ∈ path :: ancestors ∨ p ∈ missing := by
        rintro made ⟨⟩ p mem
        exact .inr mem
      simp only [Access.makeOutermost, taken_ite, taken_pure, taken_bind] at h
      split at h
      · cases h
        exact ⟨Grown.refl new t, done⟩
      · cases made : t.makeDirectory path with
        | ok next =>
            simp only [taken_makeDirectory, made, changed, taken_pure] at h
            cases h
            exact ⟨grown_of_makeDirectory (within path List.mem_cons_self) made, done⟩
        | error refusal =>
            simp only [taken_makeDirectory, made, changed] at h
            split at h
            · contradiction
            · obtain ⟨grown, sources⟩ := ih (fun p mem => within p (List.mem_cons_of_mem _ mem)) h
              refine ⟨grown, fun made' ok p mem => ?_⟩
              rcases sources made' ok p mem with above | below
              · exact .inl (List.mem_cons_of_mem _ above)
              · rcases List.mem_cons.mp below with rfl | old
                · exact .inl List.mem_cons_self
                · exact .inr old
            · simp only [taken_bind, taken_isDirectory, taken_ite, taken_pure] at h
              split at h
              · cases h
                exact ⟨Grown.refl new t, done⟩
              · cases h
                exact ⟨Grown.refl new t, nofun⟩
            · cases h
              exact ⟨Grown.refl new t, nofun⟩

theorem makeEach_grown {paths : List Path} {result : Except Refusal Unit}
    (within : ∀ p ∈ paths, MadeWithin t.here new p)
    (h : taken (access.makeEach paths) t = (result, u)) : Grown new t u := by
  induction paths generalizing t with
  | nil =>
      cases h
      exact Grown.refl new _
  | cons path paths ih =>
      have others : ∀ p ∈ paths, MadeWithin t.here new p := fun p mem =>
        within p (List.mem_cons_of_mem _ mem)
      simp only [Access.makeEach, taken_bind, taken_makeDirectory] at h
      cases made : t.makeDirectory path with
      | ok next =>
          simp only [made, changed] at h
          have grown := grown_of_makeDirectory (within path List.mem_cons_self) made
          exact grown.trans (ih (grown.here ▸ others) h)
      | error refusal =>
          simp only [made, changed] at h
          split at h
          · contradiction
          · simp only [taken_bind, taken_isDirectory, taken_ite, taken_pure] at h
            split at h
            · exact ih others h
            · cases h
              exact Grown.refl new _
          · cases h
            exact Grown.refl new _

/-- Making a directory changes no entry, and adds directories at its path and above it only. -/
theorem makeDirectories_grown {result : Except Refusal Unit}
    (within : ∀ q ∈ p.ancestors, MadeWithin t.here new q)
    (h : taken (access.makeDirectories p) t = (result, u)) : Grown new t u := by
  simp only [Access.makeDirectories, taken_bind] at h
  match first : taken (access.makeOutermost p.ancestors []) t with
  | (.error refusal, next) =>
      rw [first] at h
      cases h
      exact (makeOutermost_grown within first).1
  | (.ok missing, next) =>
      rw [first] at h
      obtain ⟨grown, sources⟩ := makeOutermost_grown within first
      have others : ∀ q ∈ missing, MadeWithin next.here new q := by
        intro q mem
        rw [grown.here]
        rcases sources missing rfl q mem with above | none
        · exact within q above
        · simp at none
      exact grown.trans (makeEach_grown others h)

/-! ## What need not be made -/

theorem taken_makeDirectories_of_empty (t : FileTree) (empty : p.text = "") :
    taken (access.makeDirectories p) t = (.ok (), t) := by
  obtain rfl := eq_blank empty
  rfl

theorem makeDirectory_of_hasDirectory (there : t.hasDirectory p = true) :
    t.makeDirectory p = .error .alreadyThere := by
  obtain ⟨place, found⟩ := hasDirectory_eq_true_iff.mp there
  unfold makeDirectory
  rcases target_of_find found with special | ⟨directory, name, ended, rfl, short⟩
  · rw [special]
    rfl
  · have stands := stands_of_find found
    rw [ended]
    show (if greatestName < name.utf8ByteSize then _ else _) = _
    rw [if_neg (Nat.not_lt.mpr short), stands]
    rfl

theorem taken_makeDirectories_of_hasDirectory (there : t.hasDirectory p = true) :
    taken (access.makeDirectories p) t = (.ok (), t) := by
  have first : taken (access.makeOutermost p.ancestors []) t = (.ok [], t) := by
    simp only [ancestors, ancestorsFrom, Access.makeOutermost, taken_ite, taken_pure, taken_bind,
      taken_makeDirectory, makeDirectory_of_hasDirectory there, changed, taken_isDirectory, there,
      if_true, ite_self]
  simp only [Access.makeDirectories, taken_bind, first]
  rfl

end ModelMigration.Disk.FileTree
