import ModelMigration.Proofs.Cache.Listing
import ModelMigration.Proofs.Disk.FileNames
import ModelMigration.Proofs.Disk.Reaching
import ModelMigration.Proofs.Output.Files

/-!
# A disk that mirrors a memory

A file tree mirrors a memory when its files are the entries of the cache and the files of the
output, each in its directory, and when it has no directories but those on the way there. The
stores on a mirroring disk answer as those in memory do and keep on mirroring them, as long as
neither directory lies at or below a file of the other store.
-/

namespace ModelMigration

open ModelMigration.Path

namespace Disk

open FileTree

theorem placeOf_congr {p q : Path} (same : p.components = q.components) (here : Location) :
    placeOf here p = placeOf here q := by
  unfold placeOf Path.route
  rw [isAbsolute_eq, isAbsolute_eq, same]

theorem last_eq {place place' : Location} {name name' : String}
    (same : place ++ [name] = place' ++ [name']) : name = name' := by
  simpa using congrArg List.getLast? same

/-! ## Mirroring -/

/-- Whether settings and a directory for migrations suit stores on a disk. -/
structure PlainStores (s : Settings) (dir : Path) : Prop where
  cache : s.cachePath.Plain
  output : dir.Plain
  sources : Nameable s.sourceExtension

/-- Whether a key can name the file of an entry. -/
structure EntryName (s : Settings) (key : CacheKey) : Prop where
  file : FileName key.text
  entry : CacheKey.start.toList.isPrefixOf key.text.toList = true
  limit : (entryPath s.cachePath key).text.utf8ByteSize < pathLimit

/-- Whether a text can name a migration. -/
structure OutputName (name : String) : Prop where
  file : FileName name
  noEntry : CacheKey.start.toList.isPrefixOf name.toList = false

/-- Whether a path is some spelling of a file name in a directory. -/
def Names (dir path : Path) (name : String) : Prop :=
  path.components = dir.components ++ [.name name]

/-- Whether a file with a content belongs at a place: it is an entry of the cache, or a file of the
output. -/
def Stored (here : Location) (s : Settings) (m : Memory) (place : Location)
    (content : ByteArray) : Prop :=
  (∃ (key : CacheKey) (text : String), m.cache[key.text]? = some text ∧
    place = placeOf here (entryPath s.cachePath key) ∧ content = text.toUTF8) ∨
  ∃ path text, m.output.get? path = some text ∧ place = placeOf here path ∧ content = text.toUTF8

/-- Whether neither directory lies at or below a file of the other store. -/
structure Apart (here : Location) (s : Settings) (dir : Path) (m : Memory) : Prop where
  entries : ∀ (key : CacheKey) (text : String), m.cache[key.text]? = some text →
    ¬ placeOf here (entryPath s.cachePath key) <+: placeOf here dir
  files : ∀ path text, m.output.get? path = some text →
    ¬ placeOf here path <+: placeOf here s.cachePath

/-- Whether a tree has directories only where the stores need them. -/
structure Laid (here : Location) (s : Settings) (dir : Path) (t : FileTree) : Prop where
  here_eq : t.here = here
  rooted : t.Rooted
  working : t.entry? here = some .directory
  within : ∀ place, t.entry? place = some .directory →
    place <+: here ++ s.cachePath.route ∨ place <+: here ++ dir.route

/-- Whether the entries of a memory and its migrations can be files in their directories. -/
structure Named (s : Settings) (dir : Path) (m : Memory) : Prop where
  keys : ∀ (key : CacheKey) (text : String), m.cache[key.text]? = some text → EntryName s key
  names : ∀ path text, m.output.get? path = some text →
    ∃ name, OutputName name ∧ Names dir path name

/-- Whether a tree mirrors a memory. -/
structure Mirrors (here : Location) (s : Settings) (dir : Path) (t : FileTree) (m : Memory) :
    Prop extends Laid here s dir t, Named s dir m where
  stored : ∀ place content, t.file? place = some content ↔ Stored here s m place content

variable {here : Location} {s : Settings} {dir : Path} {t u : FileTree} {m : Memory}
  {path : Path} {key : CacheKey} {name text : String} {place : Location} {content : ByteArray}

theorem PlainStores.entry (plain : PlainStores s dir) (good : EntryName s key) :
    (entryPath s.cachePath key).Plain := plain.cache.join_name good.file good.limit

theorem PlainStores.placeOf_entry (plain : PlainStores s dir) (good : EntryName s key)
    (here : Location) :
    placeOf here (entryPath s.cachePath key) = here ++ s.cachePath.route ++ [key.text] := by
  rw [(plain.entry good).placeOf_eq, entryPath, route_join_part _ good.file.part, List.append_assoc]

theorem PlainStores.placeOf_output (plain : PlainStores s dir) (names : Names dir path name)
    (here : Location) : placeOf here path = here ++ dir.route ++ [name] := by
  have relative : path.isAbsolute = false := by
    have absolute := plain.output.relative
    rw [isAbsolute_eq, decide_eq_false_iff_not] at absolute ⊢
    rw [names]
    cases first : dir.components with
    | nil => simp
    | cons c cs => simpa [first] using absolute
  have route : path.route = dir.route ++ [name] := by
    unfold Path.route
    rw [names, List.filterMap_append]
    rfl
  rw [placeOf, relative, route, List.append_assoc]
  rfl

theorem key_ne_name (good : EntryName s key) (good' : OutputName name) : key.text ≠ name := by
  intro same
  have entry := good.entry
  rw [same, good'.noEntry] at entry
  contradiction

/-! ## Names in memory -/

theorem named_empty (s : Settings) (dir : Path) : Named s dir Memory.empty where
  keys := by
    intro key text kept
    simp [Memory.empty] at kept
  names := by
    intro path text kept
    simp [Memory.empty, OutputMap.get?] at kept

theorem Named.insert (named : Named s dir m) (good : EntryName s key) (text : String) :
    Named s dir { m with cache := m.cache.insert key.text text } where
  keys := by
    intro other text' kept
    rw [CacheMap.getElem?_insert] at kept
    split at kept
    · next same => exact same ▸ good
    · exact named.keys other text' kept
  names := named.names

theorem Named.put (named : Named s dir m) (good : OutputName name) (names : Names dir path name)
    (text : String) : Named s dir { m with output := m.output.put path text } where
  keys := named.keys
  names := by
    intro other text' kept
    rw [OutputMap.get?_put] at kept
    split at kept
    · next same => exact ⟨name, good, same.symm.trans names⟩
    · exact named.names other text' kept

theorem Named.fewer {cache : CacheMap} (named : Named s dir m)
    (among : ∀ (key : CacheKey) (text : String), cache[key.text]? = some text →
      m.cache[key.text]? = some text) :
    Named s dir { m with cache := cache } where
  keys := fun key text kept => named.keys key text (among key text kept)
  names := named.names

/-- Where no directory on the way to either is named like a file of the other store, neither lies
at or below one. -/
theorem Named.apart (named : Named s dir m) (plain : PlainStores s dir)
    (noEntry : ∀ name, CacheKey.start.toList.isPrefixOf name.toList = true →
      ¬ s.cachePath.route ++ [name] <+: dir.route)
    (noFile : ∀ name, CacheKey.start.toList.isPrefixOf name.toList = false →
      ¬ dir.route ++ [name] <+: s.cachePath.route) (here : Location) :
    Apart here s dir m where
  entries := by
    intro key text kept above
    rw [plain.placeOf_entry (named.keys key text kept), plain.output.placeOf_eq, List.append_assoc,
      List.prefix_append_right_inj] at above
    exact noEntry key.text (named.keys key text kept).entry above
  files := by
    intro path text kept above
    obtain ⟨name, good, names⟩ := named.names path text kept
    rw [plain.placeOf_output names, plain.cache.placeOf_eq, List.append_assoc,
      List.prefix_append_right_inj] at above
    exact noFile name good.noEntry above

/-! ## What is stored at a place -/

/-- At the place of an entry nothing is stored but the text under its key. -/
theorem Named.stored_entry_iff (named : Named s dir m) (plain : PlainStores s dir)
    (good : EntryName s key) : Stored here s m (here ++ s.cachePath.route ++ [key.text]) content ↔
      ∃ text, m.cache[key.text]? = some text ∧ content = text.toUTF8 := by
  constructor
  · rintro (⟨other, text, kept, place, same⟩ | ⟨path, text, kept, place, _⟩)
    · rw [plain.placeOf_entry (named.keys other text kept)] at place
      rw [← last_eq place] at kept
      exact ⟨text, kept, same⟩
    · obtain ⟨name, good', names⟩ := named.names path text kept
      rw [plain.placeOf_output names] at place
      exact absurd (last_eq place) (key_ne_name good good')
  · rintro ⟨text, kept, same⟩
    exact .inl ⟨key, text, kept, (plain.placeOf_entry good here).symm, same⟩

/-- At the place of a migration nothing is stored but the text under its path. -/
theorem Named.stored_name_iff (named : Named s dir m) (plain : PlainStores s dir)
    (good : OutputName name) (names : Names dir path name) :
    Stored here s m (here ++ dir.route ++ [name]) content ↔
      ∃ text, m.output.get? path = some text ∧ content = text.toUTF8 := by
  constructor
  · rintro (⟨key, text, kept, place, _⟩ | ⟨other, text, kept, place, same⟩)
    · rw [plain.placeOf_entry (named.keys key text kept)] at place
      exact absurd (last_eq place).symm (key_ne_name (named.keys key text kept) good)
    · obtain ⟨name', _, names'⟩ := named.names other text kept
      rw [plain.placeOf_output names'] at place
      rw [← last_eq place] at names'
      rw [OutputMap.get?_congr (names'.trans names.symm)] at kept
      exact ⟨text, kept, same⟩
  · rintro ⟨text, kept, same⟩
    exact .inr ⟨path, text, kept, (plain.placeOf_output names here).symm, same⟩

/-! ## Nothing at all -/

theorem mirrors_empty (s : Settings) (dir : Path) (here : Location) :
    Mirrors here s dir (FileTree.empty here) Memory.empty where
  here_eq := rfl
  rooted := rooted_empty here
  working := by rw [entry?_empty, if_pos List.prefix_rfl]
  within := by
    intro place stands
    rw [entry?_empty] at stands
    left
    by_cases above : place <+: here
    · exact above.trans (List.prefix_append _ _)
    · rw [if_neg above] at stands
      contradiction
  stored := by
    intro place content
    have noFile : (FileTree.empty here).file? place = none := by
      unfold file?
      rw [entry?_empty]
      split <;> simp_all
    rw [noFile]
    constructor
    · intro absurd'
      contradiction
    · rintro (⟨key, text, kept, _⟩ | ⟨path, text, kept, _⟩)
      · simp [Memory.empty] at kept
      · simp [Memory.empty, OutputMap.get?] at kept
  keys := (named_empty s dir).keys
  names := (named_empty s dir).names

end Disk

end ModelMigration
