import ModelMigration.Proofs.Disk.Making
import ModelMigration.Stores

/-!
# Writing to stores on a disk

A write to the cache or to the output makes directories and then at most one file, its own. What it
fails with is never the fault of the request. A text that was kept is read again.
-/

namespace ModelMigration

/-- Whether an error is the fault of a request: of its configuration, of a field or of one of its
extensions. -/
def Error.ofRequest : Error → Bool
  | extension .. => true
  | error => error.isValidation

namespace Disk

open ModelMigration.Path FileTree

variable {t u : FileTree} {p : Path} {place directory : Location} {name : String}
  {content : ByteArray} {new : Location → Prop}

namespace FileTree

/-! ## Writing a file -/

theorem write_eq_ok_iff : t.write p content = .ok u ↔
    ∃ directory name, t.target p = .ok (.named directory name) ∧ endsWithSlash p = false ∧
      name.utf8ByteSize ≤ greatestName ∧ t.entry? (directory ++ [name]) ≠ some .directory ∧
      u = t.put (directory ++ [name]) (.file content) := by
  unfold write
  rw [bind_eq_ok_iff]
  constructor
  · rintro ⟨ended, target, written⟩
    cases ended with
    | special => cases written
    | named directory name =>
        dsimp only at written
        split at written
        · cases written
        · next noSlash =>
            split at written
            · cases written
            · next short =>
                split at written
                · cases written
                · next other =>
                    cases written
                    exact ⟨directory, name, target, by simpa using noSlash,
                      Nat.le_of_not_lt short, other, rfl⟩
  · rintro ⟨directory, name, target, noSlash, short, other, rfl⟩
    refine ⟨_, target, ?_⟩
    dsimp only
    rw [noSlash, if_neg Bool.false_ne_true, if_neg (Nat.not_lt.mpr short)]
    split
    · contradiction
    · rfl

theorem keeps_put_file (other : t.entry? (directory ++ [name]) ≠ some .directory) :
    Keeps t (t.put (directory ++ [name]) (.file content)) := by
  refine ⟨rfl, fun place stands => ?_⟩
  rw [entry?_put, if_neg]
  · exact stands
  · rintro rfl
    exact other stands

/-- A file that was written is found at the end of its path, and the others are what they were. -/
theorem find_of_write (h : t.write p content = .ok u) :
    ∃ directory name, t.target p = .ok (.named directory name) ∧
      u.find p = .ok (directory ++ [name], .file content) ∧
      (∀ other, other ≠ directory ++ [name] → u.file? other = t.file? other) ∧
      (t.hasFile p = false → t.file? (directory ++ [name]) = none) := by
  obtain ⟨directory, name, target, noSlash, short, other, rfl⟩ := write_eq_ok_iff.mp h
  have slash : ∀ entry, endsWithSlash p = true → entry = Entry.directory := by
    intro entry slash'
    rw [noSlash] at slash'
    contradiction
  refine ⟨directory, name, target, ?_, ?_, ?_⟩
  · exact find_of_target ((keeps_put_file other).target target) short (entry?_put_self _ _ _ _)
      (slash _)
  · intro place differ
    rw [file?_put_file, if_neg (Ne.symm differ)]
  · intro noFile
    cases old : t.file? (directory ++ [name]) with
    | none => rfl
    | some bytes =>
        have found := find_of_target target short (file?_eq_some_iff.mp old) (slash _)
        have there := hasFile_eq_true_iff.mpr ⟨_, _, found⟩
        rw [noFile] at there
        contradiction

end FileTree

/-! ## Writing to a store -/

/-- How a write to a store ends, from a tree to the next. -/
inductive Written (new : Location → Prop) (p : Path) (content : ByteArray) (t : FileTree) :
    Except Error Unit → FileTree → Prop
  | done {u v : FileTree} (grown : Grown new t u) (write : u.write p content = .ok v) :
      Written new p content t (.ok ()) v
  | refused {error : Error} {u : FileTree} (grown : Grown new t u)
      (blameless : error.ofRequest = false) : Written new p content t (.error error) u

variable {s : Settings} {key : CacheKey} {text : String}

theorem cache_contains (s : Settings) (key : CacheKey) (t : FileTree) :
    taken ((stores access s).cache.contains key) t = (t.hasFile (entryPath s.cachePath key), t) :=
  taken_isFile _ t

theorem cache_write_written {result : Except Error Unit}
    (within : ∀ q ∈ s.cachePath.ancestors, MadeWithin t.here new q)
    (h : taken ((stores access s).cache.write key text) t = (result, u)) :
    Written new (entryPath s.cachePath key) text.toUTF8 t result u := by
  simp only [stores, cache, taken_bind] at h
  match made : taken (access.makeDirectories s.cachePath) t with
  | (.error refusal, next) =>
      rw [made] at h
      cases h
      exact .refused (makeDirectories_grown within made) rfl
  | (.ok (), next) =>
      have grown := makeDirectories_grown within made
      simp only [made, Access.writeText, taken_bind, taken_write] at h
      cases write : next.write (entryPath s.cachePath key) text.toUTF8 with
      | ok final =>
          rw [write] at h
          cases h
          exact .done grown write
      | error refusal =>
          rw [write] at h
          cases h
          exact .refused grown rfl

theorem makeParent_grown {result : Except Error Unit}
    (within : ∀ parent, p.parent? = some parent → ∀ q ∈ parent.ancestors, MadeWithin t.here new q)
    (h : taken (makeParent access p) t = (result, u)) :
    Grown new t u ∧ ∀ error, result = .error error → error.ofRequest = false := by
  unfold makeParent at h
  cases above : p.parent? with
  | none =>
      rw [above] at h
      cases h
      exact ⟨Grown.refl new _, nofun⟩
  | some parent =>
      simp only [above, taken_ite, taken_pure, taken_bind, taken_present] at h
      split at h
      · cases h
        exact ⟨Grown.refl new _, nofun⟩
      · split at h
        · cases h
          exact ⟨Grown.refl new _, nofun⟩
        · match made : taken (access.makeDirectories parent) t with
          | (.ok (), next) =>
              rw [made] at h
              cases h
              exact ⟨makeDirectories_grown (within parent above) made, nofun⟩
          | (.error refusal, next) =>
              rw [made] at h
              cases h
              refine ⟨makeDirectories_grown (within parent above) made, ?_⟩
              rintro error ⟨⟩
              rfl

theorem output_put_written {result : Except Error Unit}
    (within : ∀ parent, p.parent? = some parent → ∀ q ∈ parent.ancestors, MadeWithin t.here new q)
    (h : taken ((stores access s).output.put p text) t = (result, u)) :
    Written new p text.toUTF8 t result u := by
  simp only [stores, output, taken_bind] at h
  match made : taken (makeParent access p) t with
  | (.error error, next) =>
      rw [made] at h
      cases h
      obtain ⟨grown, blameless⟩ := makeParent_grown within made
      exact .refused grown (blameless error rfl)
  | (.ok (), next) =>
      obtain ⟨grown, _⟩ := makeParent_grown within made
      simp only [made, Access.writeText, taken_bind, taken_write] at h
      cases write : next.write p text.toUTF8 with
      | ok final =>
          rw [write] at h
          cases h
          exact .done grown write
      | error refusal =>
          rw [write] at h
          cases h
          exact .refused grown rfl

/-! ## Reading from a store -/

theorem fromUTF8?_toUTF8 (text : String) : String.fromUTF8? text.toUTF8 = some text :=
  dif_pos text.isValidUTF8

/-- The text of a file in a tree. -/
def FileTree.readText (t : FileTree) (p : Path) : Except Refusal String :=
  match t.read p with
  | .error refusal => .error refusal
  | .ok bytes =>
      match String.fromUTF8? bytes with
      | some text => .ok text
      | none => .error .notText

theorem taken_readText (p : Path) (t : FileTree) :
    taken (access.readText p) t = (t.readText p, t) := by
  have bytes : taken (access.read p) t = (t.read p, t) := rfl
  unfold FileTree.readText
  rw [Access.readText, taken_bind, bytes]
  cases t.read p with
  | error refusal => rfl
  | ok bytes =>
      dsimp only
      cases String.fromUTF8? bytes <;> rfl

theorem FileTree.read_eq_ok_iff :
    t.read p = .ok content ↔ ∃ place, t.find p = .ok (place, .file content) := by
  unfold FileTree.read
  rw [bind_eq_ok_iff]
  constructor
  · rintro ⟨⟨place, _ | bytes⟩, found, read⟩
    · cases read
    · cases read
      exact ⟨place, found⟩
  · rintro ⟨place, found⟩
    exact ⟨_, found, rfl⟩

theorem readText_of_find (found : t.find p = .ok (place, .file text.toUTF8)) :
    t.readText p = .ok text := by
  unfold FileTree.readText
  rw [read_eq_ok_iff.mpr ⟨place, found⟩]
  dsimp only
  rw [fromUTF8?_toUTF8]

theorem FileTree.readText_eq_ok_iff :
    t.readText p = .ok text ↔ ∃ place, t.find p = .ok (place, .file text.toUTF8) := by
  refine ⟨fun read => ?_, fun ⟨_, found⟩ => readText_of_find found⟩
  unfold FileTree.readText String.fromUTF8? at read
  cases bytes : t.read p with
  | error refusal =>
      rw [bytes] at read
      cases read
  | ok content =>
      rw [bytes] at read
      by_cases valid : content.IsValidUTF8
      · simp only [dif_pos valid] at read
        cases read
        exact read_eq_ok_iff.mp bytes
      · simp only [dif_neg valid] at read
        cases read

theorem cache_read_of_find (found : t.find (entryPath s.cachePath key) =
    .ok (place, .file text.toUTF8)) :
    taken ((stores access s).cache.read key) t = (.ok text, t) := by
  have there : t.hasFile (entryPath s.cachePath key) = true :=
    hasFile_eq_true_iff.mpr ⟨_, _, found⟩
  simp only [stores, cache, taken_bind, taken_isFile, there, Bool.not_true, Bool.false_eq_true,
    if_false, taken_readText, readText_of_find found, taken_pure]

/-- Reading changes nothing, and what it fails with is not the fault of the request. -/
theorem cache_read_blameless {result : Except Error String}
    (h : taken ((stores access s).cache.read key) t = (result, u)) :
    u = t ∧ ∀ error, result = .error error → error.ofRequest = false := by
  simp only [stores, cache, taken_bind, taken_isFile, taken_ite, taken_pure, taken_readText] at h
  split at h
  · cases h
    refine ⟨rfl, ?_⟩
    rintro error ⟨⟩
    rfl
  · cases text : t.readText (entryPath s.cachePath key) with
    | ok content =>
        rw [text] at h
        cases h
        exact ⟨rfl, nofun⟩
    | error refusal =>
        rw [text] at h
        cases h
        refine ⟨rfl, ?_⟩
        rintro error ⟨⟩
        rfl

end Disk

end ModelMigration
