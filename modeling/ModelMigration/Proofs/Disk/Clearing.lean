import ModelMigration.Proofs.Disk.EntryListing
import ModelMigration.Proofs.Text.NameSizes

/-!
# Clearing a cache

Clearing the cache in a directory removes the files of its entries and leaves all else as it was.
The removal goes from one entry to the next in the order of the listing, and stops at the first one
whose path is too long for the system.
-/

namespace ModelMigration.Disk

open ModelMigration.Path FileTree

variable {t u v : FileTree} {dir : Path} {root place directory : Location} {name : String}
  {entry : Entry} {keys rest : List CacheKey} {key : CacheKey}

/-! ## Trees as a disk holds them -/

namespace FileTree

/-- Whether every name in a tree can be the name of a file. -/
def WellNamed (t : FileTree) : Prop :=
  ∀ directory name entry, t.entry? (directory ++ [name]) = some entry → FileName name

theorem WellNamed.put (named : t.WellNamed) (file : FileName name) (entry : Entry) :
    WellNamed (t.put (directory ++ [name]) entry) := by
  intro above last entry' there
  rw [entry?_put] at there
  split at there
  · next same =>
      obtain ⟨_, ends⟩ := List.append_inj' same rfl
      cases ends
      exact file
  · exact named above last entry' there

theorem wellNamed_empty {here : Location} (names : ∀ name ∈ here, FileName name) :
    WellNamed (empty here) := by
  intro above last entry there
  rw [entry?_empty] at there
  split at there
  · next on =>
      have mem : last ∈ above ++ [last] := by simp
      exact names last (on.subset mem)
  · contradiction

instance (name : String) : Decidable (FileName name) :=
  decidable_of_iff (name ≠ "" ∧ '/' ∉ name.toList ∧ '\x00' ∉ name.toList ∧ name ≠ "." ∧
      name ≠ ".." ∧ name.utf8ByteSize ≤ greatestName)
    ⟨fun ⟨filled, noSlash, noNul, noDot, noUp, short⟩ =>
        ⟨filled, noSlash, noNul, noDot, noUp, short⟩,
      fun file => ⟨file.filled, file.noSlash, file.noNul, file.noDot, file.noUp, file.short⟩⟩

theorem Keeps.refl (t : FileTree) : Keeps t t := ⟨rfl, fun _ stands => stands⟩

theorem keeps_without {content : ByteArray} (file : t.file? (directory ++ [name]) = some content) :
    Keeps t (t.without (directory ++ [name])) := by
  refine ⟨rfl, fun place stands => ?_⟩
  rw [entry?_without, if_neg]
  · exact stands
  · rintro rfl
    rw [file?_eq_some_iff, stands] at file
    cases file

end FileTree

/-! ## Entries -/

/-- Whether a key is that of an entry at a place: of a file named like an entry, directly in the
directory of a path. -/
def EntryAt (t : FileTree) (dir : Path) (key : CacheKey) (place : Location) : Prop :=
  ∃ root content, t.find dir = .ok (root, .directory) ∧ place = root ++ [key.text] ∧
    t.file? place = some content ∧ CacheKey.start.toList <+: key.text.toList

theorem mem_listed_iff_entryAt (found : t.find dir = .ok (root, .directory)) :
    key ∈ listed t root ↔ ∃ place, EntryAt t dir key place := by
  rw [mem_listed_iff, List.isPrefixOf_iff_prefix]
  constructor
  · rintro ⟨⟨content, file⟩, start⟩
    exact ⟨_, root, content, found, rfl, file, start⟩
  · rintro ⟨_, root', content, found', rfl, file, start⟩
    rw [found] at found'
    cases found'
    exact ⟨⟨content, file⟩, start⟩

theorem listed_pairwise (t : FileTree) (root : Location) :
    (listed t root).Pairwise fun a b => a.text < b.text := by
  have distinct : ((entryNames t root).mergeSort fun a b => a ≤ b).Nodup :=
    (List.mergeSort_perm _ _).nodup_iff.mpr (nodup_entryNames t root)
  rw [listed, List.pairwise_map]
  refine ((pairwise_le_mergeSort _).and distinct).imp fun both => ?_
  exact String.not_le.mp fun ge => both.2 (String.le_antisymm both.1 ge)

/-! ## Names in a directory -/

/-- A name leads on from where the path of its directory starts, unless it makes the path too
long. -/
theorem origin_join_name {start : Location} (origin : t.origin dir = .ok start)
    (file : FileName name) : t.origin (dir.join ⟨name⟩) =
      if pathLimit ≤ (dir.join ⟨name⟩).text.utf8ByteSize then .error .nameTooLong
      else .ok start := by
  obtain ⟨noNul, _, _, rfl⟩ := origin_eq_ok_iff.mp origin
  have relative := file.part.relative
  have text := text_join dir relative
  have noNul' : '\x00' ∉ (dir.join ⟨name⟩).text.toList := by
    rw [text, String.toList_append, List.mem_append, not_or]
    refine ⟨fun mem => ?_, file.noNul⟩
    rcases mem_front mem with inDir | slash
    · exact noNul inDir
    · contradiction
  have filled : (dir.join ⟨name⟩).text ≠ "" := by
    rw [text]
    simp [file.filled]
  unfold FileTree.origin
  rw [if_neg (by simpa using noNul'), if_neg filled, isAbsolute_join dir relative]

theorem leadsTo_of_find_directory (found : t.find dir = .ok (root, .directory))
    (fits : FitsIn dir name) : t.LeadsTo dir root := by
  obtain ⟨start, origin, followed, stands, _⟩ := find_eq_ok_iff.mp found
  have part := fits.file.part
  have onward : t.origin (dir.join ⟨name⟩) = .ok start := by
    rw [origin_join_name origin fits.file, if_neg (Nat.not_le.mpr fits.limit)]
  exact (leadsTo_of_target part (target_eq_named_iff.mpr ⟨start, dir.segments, onward,
    segments_join_part dir part, followed, stands, part.noDot, part.noUp⟩)).2

/-! ## Paths with slashes at the end -/

/-- A path with more slashes at its end. -/
def withSlashes (p : Path) (count : Nat) : Path :=
  ⟨p.text ++ String.ofList (List.replicate count '/')⟩

theorem segments_withSlashes (p : Path) (count : Nat) :
    (withSlashes p count).segments = p.segments := by
  induction count with
  | zero => simp [withSlashes]
  | succ count ih =>
      have text : (withSlashes p (count + 1)).text.toList =
          (withSlashes p count).text.toList ++ '/' :: [] := by
        simp [withSlashes, List.replicate_succ']
      rw [segments_eq, text, segmentsOf_append_slash, segmentsOf_nil, List.append_nil,
        ← segments_eq, ih]

theorem utf8ByteSize_withSlashes (p : Path) (count : Nat) :
    (withSlashes p count).text.utf8ByteSize = p.text.utf8ByteSize + count := by
  have slash : '/'.utf8Size = 1 := by decide
  rw [withSlashes, String.utf8ByteSize_append, utf8ByteSize_ofList]
  simp [slash]

/-- Slashes at the end of a path lead nowhere else, as far as there is room for them. -/
theorem find_withSlashes {count : Nat} (found : t.find dir = .ok (root, .directory))
    (room : dir.text.utf8ByteSize + count < pathLimit) :
    t.find (withSlashes dir count) = .ok (root, .directory) := by
  obtain ⟨start, origin, followed, stands, _⟩ := find_eq_ok_iff.mp found
  obtain ⟨noNul, filled, _, place⟩ := origin_eq_ok_iff.mp origin
  rw [← utf8ByteSize_withSlashes] at room
  have onward : t.origin (withSlashes dir count) = .ok start := by
    refine origin_eq_ok_iff.mpr ⟨?_, ?_, room, ?_⟩
    · simp [withSlashes, noNul]
    · simp [withSlashes, filled]
    · rw [isAbsolute_of_text (p := dir) (q := withSlashes dir count) rfl filled, place]
  rw [← segments_withSlashes dir count] at followed
  exact find_eq_ok_iff.mpr ⟨start, onward, followed, stands, fun _ => rfl⟩

theorem utf8ByteSize_entryPath_withSlashes (dir : Path) (count : Nat) (file : FileName key.text) :
    (entryPath (withSlashes dir (count + 1)) key).text.utf8ByteSize =
      dir.text.utf8ByteSize + (count + 1) + key.text.utf8ByteSize := by
  have last : (withSlashes dir (count + 1)).text.toList.getLast? = some '/' := by
    simp [withSlashes, List.replicate_succ']
  have filled : (withSlashes dir (count + 1)).text ≠ "" := by
    simp [withSlashes, List.replicate_succ']
  rw [entryPath, text_join _ file.part.relative, front, if_neg filled, if_pos last,
    String.utf8ByteSize_append, utf8ByteSize_withSlashes]

/-! ## Removing entries -/

/-- Whether a tree is another one without the files of some keys in a directory. -/
structure RemovedFrom (root : Location) (keys : List CacheKey) (t u : FileTree) : Prop where
  keeps : Keeps t u
  gone : ∀ key ∈ keys, u.entry? (root ++ [key.text]) = none
  others : ∀ place, (∀ key ∈ keys, place ≠ root ++ [key.text]) → u.entry? place = t.entry? place

theorem place_ne_of_not_mem (root : Location) (new : key ∉ keys) :
    ∀ other ∈ keys, root ++ [key.text] ≠ root ++ [other.text] := by
  intro other mem same
  obtain rfl : key = other := congrArg CacheKey.mk (last_eq same)
  exact new mem

theorem RemovedFrom.cons {content : ByteArray}
    (file : t.file? (root ++ [key.text]) = some content)
    (removed : RemovedFrom root keys (t.without (root ++ [key.text])) u) (new : key ∉ keys) :
    RemovedFrom root (key :: keys) t u where
  keeps := (keeps_without file).trans removed.keeps
  gone := by
    rw [List.forall_mem_cons]
    refine ⟨?_, removed.gone⟩
    rw [removed.others _ (place_ne_of_not_mem root new), entry?_without, if_pos rfl]
  others := by
    intro place elsewhere
    rw [List.forall_mem_cons] at elsewhere
    rw [removed.others place elsewhere.2, entry?_without, if_neg elsewhere.1.symm]

/-- Entries whose paths fit are removed one after another, whatever is to be removed behind them. -/
theorem removeEntries_append (leads : t.LeadsTo dir root) (fits : ∀ key ∈ keys, FitsIn dir key.text)
    (files : ∀ key ∈ keys, ∃ content, t.file? (root ++ [key.text]) = some content)
    (nodup : keys.Nodup) (rest : List CacheKey) :
    ∃ u, RemovedFrom root keys t u ∧
      taken (removeEntries access dir (keys ++ rest)) t = taken (removeEntries access dir rest) u := by
  induction keys generalizing t with
  | nil => exact ⟨t, ⟨.refl t, by simp, fun _ _ => rfl⟩, rfl⟩
  | cons key keys ih =>
      rw [List.forall_mem_cons] at fits files
      obtain ⟨⟨content, file⟩, files⟩ := files
      obtain ⟨new, distinct⟩ := List.nodup_cons.mp nodup
      have files' : ∀ other ∈ keys, ∃ content,
          FileTree.file? (t.without (root ++ [key.text])) (root ++ [other.text]) = some content := by
        intro other mem
        rw [file?_without, if_neg (place_ne_of_not_mem root new other mem)]
        exact files other mem
      obtain ⟨u, removed, behind⟩ :=
        ih ((keeps_without file).leadsTo leads) fits.2 files' distinct
      refine ⟨u, removed.cons file new, ?_⟩
      simp only [List.cons_append, removeEntries, taken_bind, taken_remove, entryPath,
        leads.remove fits.1 file, changed]
      exact behind

/-- An entry whose path is too long is not removed. -/
theorem removeEntries_of_long (found : t.find dir = .ok (root, .directory))
    (file : FileName key.text) (long : pathLimit ≤ (entryPath dir key).text.utf8ByteSize)
    (rest : List CacheKey) :
    taken (removeEntries access dir (key :: rest)) t =
      (.error (.cacheWrite key.text Refusal.nameTooLong.message), t) := by
  obtain ⟨_, origin, _⟩ := find_eq_ok_iff.mp found
  have tooLong : t.origin (entryPath dir key) = .error .nameTooLong := by
    rw [entryPath] at long ⊢
    rw [origin_join_name origin file, if_pos long]
  have refused : t.remove (entryPath dir key) = .error .nameTooLong := by
    unfold FileTree.remove target
    rw [tooLong]
    rfl
  simp only [removeEntries, taken_bind, taken_remove, refused, changed, taken_pure]

/-! ## Clearing -/

/-- Whether a tree is another one without the entries of some keys, and otherwise the same. -/
structure Cleared (t u : FileTree) (dir : Path) (keys : List CacheKey) : Prop where
  here : u.here = t.here
  gone : ∀ key ∈ keys, ∀ place, EntryAt t dir key place → u.entry? place = none
  others : ∀ place, (∀ key ∈ keys, ¬ EntryAt t dir key place) → u.entry? place = t.entry? place

/-- Clearing takes no directory away and makes none. -/
theorem Cleared.directory_iff (cleared : Cleared t u dir keys) (place : Location) :
    u.entry? place = some .directory ↔ t.entry? place = some .directory := by
  by_cases entry : ∃ key ∈ keys, EntryAt t dir key place
  · obtain ⟨key, mem, isEntry⟩ := entry
    obtain ⟨_, content, _, _, file, _⟩ := id isEntry
    rw [cleared.gone key mem place isEntry, file?_eq_some_iff.mp file]
    simp
  · rw [cleared.others place fun key mem isEntry => entry ⟨key, mem, isEntry⟩]

theorem Cleared.find_iff (cleared : Cleared t u dir keys) {p : Path} :
    u.find p = .ok (root, .directory) ↔ t.find p = .ok (root, .directory) := by
  have keeps : Keeps t u := ⟨cleared.here, fun place => (cleared.directory_iff place).mpr⟩
  have keptBy : Keeps u t := ⟨cleared.here.symm, fun place => (cleared.directory_iff place).mp⟩
  exact ⟨keptBy.find_directory, keeps.find_directory⟩

/-- Without the entries of all its keys a directory has none. -/
theorem Cleared.not_entryAt (cleared : Cleared t u dir keys)
    (all : ∀ key, (∃ place, EntryAt t dir key place) → key ∈ keys) :
    ¬ EntryAt u dir key place := by
  rintro ⟨root, content, found, rfl, file, start⟩
  rw [cleared.find_iff] at found
  rw [file?_eq_some_iff] at file
  by_cases entry : ∃ other ∈ keys, EntryAt t dir other (root ++ [key.text])
  · obtain ⟨other, mem, isEntry⟩ := entry
    rw [cleared.gone other mem _ isEntry] at file
    contradiction
  · rw [cleared.others _ fun other mem isEntry => entry ⟨other, mem, isEntry⟩] at file
    have isEntry : EntryAt t dir key (root ++ [key.text]) :=
      ⟨root, content, found, rfl, file?_eq_some_iff.mpr file, start⟩
    exact entry ⟨key, all key ⟨_, isEntry⟩, isEntry⟩

theorem cleared_of_removedFrom (found : t.find dir = .ok (root, .directory))
    (removed : RemovedFrom root keys t u)
    (entries : ∀ key ∈ keys, ∃ place, EntryAt t dir key place) : Cleared t u dir keys where
  here := removed.keeps.here
  gone := by
    rintro key mem _ ⟨root', _, found', rfl, _⟩
    rw [found] at found'
    cases found'
    exact removed.gone key mem
  others := by
    intro place elsewhere
    refine removed.others place ?_
    rintro key mem rfl
    obtain ⟨_, root', content, found', rfl, file⟩ := entries key mem
    rw [found] at found'
    cases found'
    exact elsewhere key mem ⟨root, content, found, rfl, file⟩

/-- What the cache in a directory lists: its entries in the order of their names. -/
theorem exists_taken_cacheKeys (t : FileTree) (dir : Path) :
    ∃ keys, taken (cacheKeys access dir) t = (.ok keys, t) ∧
      (keys.Pairwise fun a b => a.text < b.text) ∧
      ∀ key, key ∈ keys ↔ ∃ place, EntryAt t dir key place := by
  cases there : t.hasDirectory dir with
  | true =>
      obtain ⟨root, found⟩ := hasDirectory_eq_true_iff.mp there
      exact ⟨listed t root, taken_cacheKeys found, listed_pairwise t root,
        fun key => mem_listed_iff_entryAt found⟩
  | false =>
      refine ⟨[], taken_cacheKeys_of_missing there, .nil, fun key => ?_⟩
      refine iff_of_false List.not_mem_nil ?_
      rintro ⟨_, root, _, found, _⟩
      rw [hasDirectory_eq_true_iff.mpr ⟨root, found⟩] at there
      contradiction

theorem taken_cacheKeys_of_no_entry (none : ∀ key place, ¬ EntryAt t dir key place) :
    taken (cacheKeys access dir) t = (.ok [], t) := by
  obtain ⟨keys, listing, _, entries⟩ := exists_taken_cacheKeys t dir
  have empty : keys = [] := List.eq_nil_iff_forall_not_mem.mpr fun key mem =>
    let ⟨place, isEntry⟩ := (entries key).mp mem
    none key place isEntry
  rw [listing, empty]

/-- What is found under the key of a hash is an entry, unless the path of the cache is empty. -/
theorem taken_contains_of_no_entry {hash ext : String} (filled : dir.text ≠ "")
    (none : ∀ key place, ¬ EntryAt t dir key place) (noSlash : '/' ∉ ext.toList)
    (hashed : CacheKey.ofHash hash ext = .ok key) :
    taken ((cache access dir).contains key) t = (false, t) := by
  show taken (access.isFile (entryPath dir key)) t = _
  rw [taken_isFile]
  cases there : t.hasFile (entryPath dir key) with
  | false => rfl
  | true =>
      obtain ⟨place, content, found⟩ := hasFile_eq_true_iff.mp there
      have start := List.isPrefixOf_iff_prefix.mp (CacheKey.start_isPrefixOf_of_ofHash hashed)
      obtain ⟨root, rfl, _, leads⟩ :=
        leadsTo_of_find (CacheKey.partName_of_ofHash hashed noSlash) found
      have isEntry : EntryAt t dir key (root ++ [key.text]) :=
        ⟨root, content, leads.find filled, rfl, file?_eq_some_iff.mpr (stands_of_find found), start⟩
      exact absurd isEntry (none key _)

/-- Whether the path of an entry is short enough for the system. -/
def InLimit (dir : Path) (key : CacheKey) : Prop :=
  (entryPath dir key).text.utf8ByteSize < pathLimit

theorem EntryAt.fileName (named : t.WellNamed) (isEntry : EntryAt t dir key place) :
    FileName key.text := by
  obtain ⟨root, content, _, rfl, file, _⟩ := isEntry
  exact named root key.text _ (file?_eq_some_iff.mp file)

/-- Entries whose paths fit are cleared one after another. -/
theorem removeEntries_cleared (named : t.WellNamed)
    (entries : ∀ key ∈ keys, ∃ place, EntryAt t dir key place) (nodup : keys.Nodup)
    (short : ∀ key ∈ keys, InLimit dir key) (rest : List CacheKey) :
    ∃ u, Cleared t u dir keys ∧
      taken (removeEntries access dir (keys ++ rest)) t = taken (removeEntries access dir rest) u := by
  cases keys with
  | nil => exact ⟨t, ⟨rfl, by simp, fun _ _ => rfl⟩, rfl⟩
  | cons first others =>
      have fits : ∀ key ∈ first :: others, FitsIn dir key.text := fun key mem =>
        let ⟨_, isEntry⟩ := entries key mem
        ⟨isEntry.fileName named, short key mem⟩
      obtain ⟨_, root, _, found, _⟩ := entries first List.mem_cons_self
      have leads := leadsTo_of_find_directory found (fits first List.mem_cons_self)
      have files : ∀ key ∈ first :: others,
          ∃ content, t.file? (root ++ [key.text]) = some content := by
        intro key mem
        obtain ⟨_, root', content, found', rfl, file, _⟩ := entries key mem
        rw [found] at found'
        cases found'
        exact ⟨content, file⟩
      obtain ⟨u, removed, behind⟩ := removeEntries_append leads fits files nodup rest
      exact ⟨u, cleared_of_removedFrom found removed entries, behind⟩

/-- Clearing removes what is listed and tells how much that is. -/
theorem taken_clear_of_keys {result : Except Error Unit}
    (listing : taken (cache access dir).keys t = (.ok keys, t))
    (removed : taken (removeEntries access dir keys) t = (result, u)) :
    taken (cache access dir).clear t = (result.map fun _ => keys.length, u) := by
  have listing' : taken (cacheKeys access dir) t = (.ok keys, t) := listing
  simp only [cache, taken_bind, listing', removed]
  cases result <;> rfl

/-- Clearing a cache removes the files of its entries and no other, unless the path of an entry is
too long: then it fails at the first such entry, with those in front of it removed. -/
theorem clear_removes_entries (named : t.WellNamed) (dir : Path) :
    ∃ keys, taken (cache access dir).keys t = (.ok keys, t) ∧
      (keys.Pairwise fun a b => a.text < b.text) ∧
      (∀ key, key ∈ keys ↔ ∃ place, EntryAt t dir key place) ∧
      ((∀ key ∈ keys, InLimit dir key) →
        ∃ u, taken (cache access dir).clear t = (.ok keys.length, u) ∧ Cleared t u dir keys ∧
          taken (cache access dir).keys u = (.ok [], u) ∧
          taken (cache access dir).clear u = (.ok 0, u) ∧
          (dir.text ≠ "" → ∀ hash ext key, '/' ∉ ext.toList → CacheKey.ofHash hash ext = .ok key →
            taken ((cache access dir).contains key) u = (false, u))) ∧
      ∀ before key after, keys = before ++ key :: after → (∀ other ∈ before, InLimit dir other) →
        ¬ InLimit dir key →
        ∃ u, taken (cache access dir).clear t =
            (.error (.cacheWrite key.text Refusal.nameTooLong.message), u) ∧
          Cleared t u dir before := by
  obtain ⟨keys, listing, sorted, entries⟩ := exists_taken_cacheKeys t dir
  have nodup : keys.Nodup := sorted.imp fun below same =>
    String.ne_of_lt below (congrArg CacheKey.text same)
  refine ⟨keys, listing, sorted, entries, fun short => ?_, ?_⟩
  · obtain ⟨u, cleared, removed⟩ :=
      removeEntries_cleared named (fun key mem => (entries key).mp mem) nodup short []
    have noEntry : ∀ key place, ¬ EntryAt u dir key place := fun key place =>
      cleared.not_entryAt fun key => (entries key).mpr
    have empty := taken_cacheKeys_of_no_entry noEntry
    rw [List.append_nil] at removed
    refine ⟨u, ?_, cleared, empty, ?_, fun filled hash ext key noSlash hashed =>
      taken_contains_of_no_entry filled noEntry noSlash hashed⟩
    · exact taken_clear_of_keys listing removed
    · exact taken_clear_of_keys empty rfl
  · rintro before key after rfl short long
    have isEntry := fun other mem => (entries other).mp mem
    obtain ⟨u, cleared, removed⟩ := removeEntries_cleared named
      (fun other mem => isEntry other (List.mem_append_left _ mem))
      (nodup.sublist (List.sublist_append_left _ _)) short (key :: after)
    refine ⟨u, ?_, cleared⟩
    obtain ⟨place, here⟩ := isEntry key (by simp)
    obtain ⟨root, _, found, _⟩ := id here
    have stopped := removeEntries_of_long (cleared.find_iff.mpr found) (here.fileName named)
      (Nat.not_lt.mp long) after
    exact taken_clear_of_keys listing (removed.trans stopped)

/-- A tree that works in `w`, with a directory that holds two entries, another file, and a directory
named like an entry with a file in it. -/
def mixedTree : FileTree :=
  (((((FileTree.empty ["w"]).put (["w"] ++ ["c"]) .directory).put (["w", "c"] ++ ["migration_b.scf"])
    (.file "b".toUTF8)).put (["w", "c"] ++ ["migration_a"]) (.file "a".toUTF8)).put
      (["w", "c"] ++ ["model_a.scf"]) (.file "other".toUTF8)).put
        (["w", "c"] ++ ["migration_d.scf"]) .directory

theorem wellNamed_mixedTree : mixedTree.WellNamed :=
  (((((wellNamed_empty (by decide)).put (by decide) _).put (by decide) _).put (by decide) _).put
    (by decide) _).put (by decide) _

theorem listed_mixedTree :
    listed mixedTree ["w", "c"] = [⟨"migration_a"⟩, ⟨"migration_b.scf"⟩] := by
  have names : entryNames mixedTree ["w", "c"] = ["migration_a", "migration_b.scf"] := by
    decide +kernel
  rw [listed, names, List.mergeSort_of_pairwise (by simp)]
  rfl

/-- The two entries of the directory are removed. Under a path that leaves no room for the longer
name, the first of them is removed and the second is not. -/
theorem clear_removes_entries_of_mixedTree :
    let a : CacheKey := ⟨"migration_a"⟩
    let b : CacheKey := ⟨"migration_b.scf"⟩
    let far : Path := withSlashes ⟨"c"⟩ 4081
    mixedTree.WellNamed ∧
      (taken (cache access ⟨"./c/"⟩).keys mixedTree = (.ok [a, b], mixedTree) ∧
        ∃ u, taken (cache access ⟨"./c/"⟩).clear mixedTree = (.ok 2, u) ∧
          Cleared mixedTree u ⟨"./c/"⟩ [a, b] ∧
          taken (cache access ⟨"./c/"⟩).keys u = (.ok [], u) ∧
          taken (cache access ⟨"./c/"⟩).clear u = (.ok 0, u) ∧
          CacheKey.ofHash "d" ".scf" = .ok ⟨"migration_d.scf"⟩ ∧
          taken ((cache access ⟨"./c/"⟩).contains ⟨"migration_d.scf"⟩) u = (false, u)) ∧
      taken (cache access far).keys mixedTree = (.ok [a, b], mixedTree) ∧
      InLimit far a ∧ ¬ InLimit far b ∧
      ∃ u, taken (cache access far).clear mixedTree =
          (.error (.cacheWrite b.text Refusal.nameTooLong.message), u) ∧
        Cleared mixedTree u far [a] := by
  intro a b far
  have leads : mixedTree.LeadsTo ⟨"./c/"⟩ ["w", "c"] ∧ mixedTree.LeadsTo ⟨"c"⟩ ["w", "c"] := by
    decide +kernel
  have foundNear := leads.1.find (by decide)
  have foundFar : mixedTree.find far = .ok (["w", "c"], .directory) :=
    find_withSlashes (leads.2.find (by decide)) (by decide)
  have listing : ∀ {dir : Path}, mixedTree.find dir = .ok (["w", "c"], .directory) →
      taken (cache access dir).keys mixedTree = (.ok [a, b], mixedTree) := by
    intro dir found
    rw [← listed_mixedTree]
    exact taken_cacheKeys found
  have near : ∀ key ∈ [a, b], InLimit ⟨"./c/"⟩ key := by
    unfold InLimit
    decide
  have fits : InLimit far a := by
    rw [InLimit, utf8ByteSize_entryPath_withSlashes _ _ (by decide)]
    decide
  have long : ¬ InLimit far b := by
    rw [InLimit, utf8ByteSize_entryPath_withSlashes _ _ (by decide)]
    decide
  have hashed : CacheKey.ofHash "d" ".scf" = .ok ⟨"migration_d.scf"⟩ := by decide +kernel
  obtain ⟨keys, keysNear, _, _, clears, _⟩ := clear_removes_entries wellNamed_mixedTree ⟨"./c/"⟩
  obtain ⟨keys', keysFar, _, _, _, stops⟩ := clear_removes_entries wellNamed_mixedTree far
  have same := (listing foundNear).symm.trans keysNear
  have same' := (listing foundFar).symm.trans keysFar
  cases same
  cases same'
  obtain ⟨u, cleared, without, empty, again, absent⟩ := clears near
  refine ⟨wellNamed_mixedTree, ⟨listing foundNear, u, cleared, without, empty, again, hashed,
    absent (by decide) "d" ".scf" _ (by decide) hashed⟩, listing foundFar, fits, long, ?_⟩
  exact stops [a] b [] rfl (by simpa using fits) long

/-- A tree that works in `w`, with an entry right there. -/
def looseTree : FileTree :=
  (FileTree.empty ["w"]).put (["w"] ++ ["migration_h.scf"]) (.file "old".toUTF8)

/-- An entry is kept by a cache whose path is empty, which lists nothing and finds it by its key all
the same, and by one whose path leaves no room for its name, which lists it. -/
theorem clear_keeps_entry :
    let key : CacheKey := ⟨"migration_h.scf"⟩
    let far : Path := withSlashes ⟨"."⟩ 4089
    looseTree.WellNamed ∧ looseTree.Rooted ∧ CacheKey.ofHash "h" ".scf" = .ok key ∧
      (taken (cache access ⟨""⟩).clear looseTree = (.ok 0, looseTree) ∧
        taken ((cache access ⟨""⟩).contains key) looseTree = (true, looseTree)) ∧
      taken (cache access far).keys looseTree = (.ok [key], looseTree) ∧
      taken (cache access far).clear looseTree =
        (.error (.cacheWrite key.text Refusal.nameTooLong.message), looseTree) := by
  intro key far
  have named : looseTree.WellNamed := (wellNamed_empty (by decide)).put (by decide) _
  have rooted : looseTree.Rooted :=
    (rooted_empty ["w"]).put (by decide +kernel) (.inr (by decide +kernel))
  have leads : looseTree.LeadsTo ⟨"."⟩ ["w"] := by decide +kernel
  have found : looseTree.find far = .ok (["w"], .directory) :=
    find_withSlashes (leads.find (by decide)) (by decide)
  have names : entryNames looseTree ["w"] = ["migration_h.scf"] := by decide +kernel
  have listing : ∀ {dir : Path}, looseTree.find dir = .ok (["w"], .directory) →
      taken (cache access dir).keys looseTree = (.ok [key], looseTree) := by
    intro dir found
    have listed := taken_cacheKeys found
    rw [names, List.mergeSort_singleton] at listed
    exact listed
  have missing : ∀ {dir : Path}, looseTree.hasDirectory dir = false →
      taken (cache access dir).keys looseTree = (.ok [], looseTree) :=
    taken_cacheKeys_of_missing
  have nowhere : looseTree.hasDirectory ⟨""⟩ = false ∧
      looseTree.hasFile (entryPath ⟨""⟩ key) = true := by decide +kernel
  have long : pathLimit ≤ (entryPath far key).text.utf8ByteSize := by
    rw [utf8ByteSize_entryPath_withSlashes _ _ (by decide)]
    decide
  refine ⟨named, rooted, by decide +kernel, ⟨taken_clear_of_keys (missing nowhere.1) rfl, ?_⟩,
    listing found, taken_clear_of_keys (listing found)
      (removeEntries_of_long found (by decide) long [])⟩
  show taken (access.isFile (entryPath ⟨""⟩ key)) looseTree = _
  rw [taken_isFile, nowhere.2]

end ModelMigration.Disk
