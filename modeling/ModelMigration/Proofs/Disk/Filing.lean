import ModelMigration.Proofs.Disk.Leading

/-!
# Files put into a directory

What a store does that has put a file into its directory: the path leads there, the file has its
text, and nothing but directories is new besides. Where a path leads to a directory already, a file
can be put there and read again.
-/

namespace ModelMigration.Disk

open ModelMigration.Path FileTree

variable {t u v : FileTree} {dir : Path} {root place : Location} {name text : String}
  {content : ByteArray} {new : Location → Prop} {s : Settings} {key : CacheKey}

/-! ## Files that were put -/

theorem FileTree.Keeps.trans (first : Keeps t u) (second : Keeps u v) : Keeps t v :=
  ⟨second.here.trans first.here, fun _ stands => second.directory _ (first.directory _ stands)⟩

/-- Whether a tree is another one after a file was put into the directory of a path, made with those
above it as far as it was missing. -/
structure Filed (t u : FileTree) (dir : Path) (root : Location) (name : String)
    (content : ByteArray) : Prop where
  fits : FitsIn dir name
  leads : u.LeadsTo dir root
  file : u.file? (root ++ [name]) = some content
  keeps : Keeps t u
  others : ∀ place, place ≠ root ++ [name] → u.file? place = t.file? place

theorem fitsIn_of_origin {start : Location} (part : PartName name)
    (short : name.utf8ByteSize ≤ greatestName) (origin : t.origin (dir.join ⟨name⟩) = .ok start) :
    FitsIn dir name := by
  obtain ⟨nul, _, limit, _⟩ := origin_eq_ok_iff.mp origin
  rw [text_join dir part.relative, String.toList_append, List.mem_append, not_or] at nul
  exact ⟨⟨part.filled, part.noSlash, nul.2, part.noDot, part.noUp, short⟩, limit⟩

theorem filed_of_write (part : PartName name) (grown : Grown new t v)
    (h : v.write (dir.join ⟨name⟩) content = .ok u) : ∃ root, Filed t u dir root name content := by
  obtain ⟨root, last, ended, _, short, other, rfl⟩ := write_eq_ok_iff.mp h
  obtain ⟨rfl, leads⟩ := leadsTo_of_target part ended
  obtain ⟨_, _, origin, _⟩ := target_eq_named_iff.mp ended
  have kept : Keeps v (v.put (root ++ [last]) (.file content)) := keeps_put_file other
  refine ⟨root, fitsIn_of_origin part short origin, kept.leadsTo leads, ?_,
    grown.keeps.trans kept, fun place elsewhere => ?_⟩
  · rw [file?_put_file, if_pos rfl]
  · rw [file?_put_file, if_neg elsewhere.symm, grown.file?_eq]

theorem filed_of_output_put (part : PartName name)
    (h : taken ((stores access s).output.put (dir.join ⟨name⟩) text) t = (.ok (), u)) :
    ∃ root, Filed t u dir root name text.toUTF8 := by
  cases output_put_written (fun _ _ q _ => madeWithin_anywhere t.here q) h with
  | done grown write => exact filed_of_write part grown write

theorem filed_of_cache_write (part : PartName key.text)
    (h : taken ((stores access s).cache.write key text) t = (.ok (), u)) :
    ∃ root, Filed t u s.cachePath root key.text text.toUTF8 := by
  cases cache_write_written (fun q _ => madeWithin_anywhere t.here q) h with
  | done grown write => exact filed_of_write part grown write

/-- What a cache reads is the text of the file at the entry's path. -/
theorem readText_of_cache_read (h : taken ((stores access s).cache.read key) t = (.ok text, u)) :
    u = t ∧ t.readText (entryPath s.cachePath key) = .ok text := by
  simp only [stores, cache, taken_bind, taken_isFile, taken_ite, taken_pure, taken_readText] at h
  split at h
  · cases h
  · cases read : t.readText (entryPath s.cachePath key) with
    | error refusal =>
        rw [read] at h
        cases h
    | ok content =>
        rw [read] at h
        cases h
        exact ⟨rfl, rfl⟩

/-- Where a file is found under a name, its path leads to a directory. -/
theorem leadsTo_of_find (part : PartName name)
    (found : t.find (dir.join ⟨name⟩) = .ok (place, .file content)) :
    ∃ root, place = root ++ [name] ∧ FitsIn dir name ∧ t.LeadsTo dir root := by
  obtain ⟨start, origin, followed, _⟩ := find_eq_ok_iff.mp found
  have segments := segments_join_part dir part
  rw [segments, followAll_append_eq_ok_iff] at followed
  obtain ⟨root, before, behind⟩ := followed
  obtain ⟨next, step, ⟨⟩⟩ := followAll_cons_eq_ok_iff.mp behind
  cases step with
  | blank => exact absurd rfl part.filled
  | current => exact absurd rfl part.noDot
  | up => exact absurd rfl part.noUp
  | name passable _ noDot noUp short =>
      have ended : t.target (dir.join ⟨name⟩) = .ok (.named root name) :=
        target_eq_named_iff.mpr ⟨start, _, origin, segments, before, passable, noDot, noUp⟩
      exact ⟨root, rfl, fitsIn_of_origin part short origin, (leadsTo_of_target part ended).2⟩

/-- What was found is found where the directories are kept, with what is in the file now. -/
theorem FileTree.Keeps.find {p : Path} {now : ByteArray} (keeps : Keeps t u)
    (found : t.find p = .ok (place, .file content)) (there : u.file? place = some now) :
    u.find p = .ok (place, .file now) := by
  obtain ⟨start, origin, followed, _, slash⟩ := find_eq_ok_iff.mp found
  rw [← origin_congr keeps.here] at origin
  refine find_eq_ok_iff.mpr
    ⟨start, origin, keeps.followAll followed, file?_eq_some_iff.mp there, fun ends => ?_⟩
  cases slash ends

/-! ## Where a path leads to a directory -/

theorem FileTree.LeadsTo.taken_put (leads : t.LeadsTo dir root) (fits : FitsIn dir name)
    (other : t.entry? (root ++ [name]) ≠ some .directory) (s : Settings) (text : String) :
    taken ((stores access s).output.put (dir.join ⟨name⟩) text) t =
      (.ok (), t.put (root ++ [name]) (.file text.toUTF8)) := by
  simp only [stores, output, taken_bind, leads.taken_makeParent fits, Access.writeText, taken_write,
    leads.write fits other, changed, taken_pure]

theorem FileTree.LeadsTo.taken_write (leads : t.LeadsTo s.cachePath root)
    (fits : FitsIn s.cachePath key.text) (other : t.entry? (root ++ [key.text]) ≠ some .directory)
    (text : String) :
    taken ((stores access s).cache.write key text) t =
      (.ok (), t.put (root ++ [key.text]) (.file text.toUTF8)) := by
  have made : taken (access.makeDirectories s.cachePath) t = (.ok (), t) := by
    by_cases empty : s.cachePath.text = ""
    · exact taken_makeDirectories_of_empty t empty
    · exact taken_makeDirectories_of_hasDirectory
        (hasDirectory_eq_true_iff.mpr ⟨root, leads.find empty⟩)
  simp only [stores, cache, entryPath, taken_bind, made, Access.writeText, FileTree.taken_write,
    leads.write fits other, changed, taken_pure]

theorem FileTree.LeadsTo.taken_contains (leads : t.LeadsTo s.cachePath root)
    (fits : FitsIn s.cachePath key.text) :
    taken ((stores access s).cache.contains key) t =
      ((t.file? (root ++ [key.text])).isSome, t) := by
  rw [cache_contains, entryPath, leads.hasFile fits]

theorem FileTree.LeadsTo.taken_read (leads : t.LeadsTo s.cachePath root)
    (fits : FitsIn s.cachePath key.text)
    (there : t.file? (root ++ [key.text]) = some text.toUTF8) :
    taken ((stores access s).cache.read key) t = (.ok text, t) :=
  cache_read_of_find (leads.find_name fits (file?_eq_some_iff.mp there))

end ModelMigration.Disk
