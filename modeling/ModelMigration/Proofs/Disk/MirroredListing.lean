import ModelMigration.Proofs.Disk.MirroredStores

/-!
# The listing on a mirroring disk

The entries of a cache on a mirroring disk are listed as they are in memory, sorted by their keys,
and clearing the cache removes their files and no other.
-/

namespace ModelMigration.Disk

open ModelMigration.Path FileTree

variable {here : Location} {s : Settings} {dir : Path} {t : FileTree} {m : Memory}
  {key : CacheKey} {name : String} {place directory : Location} {content : ByteArray}

/-! ## Names in a directory -/

theorem nameIn?_eq_some_iff : nameIn? directory place = some name ↔ place = directory ++ [name] := by
  unfold nameIn?
  constructor
  · intro isIn
    split at isIn
    · next front =>
        obtain ⟨others, same⟩ := List.getLast?_eq_some_iff.mp isIn
        rw [same, List.dropLast_concat] at front
        rw [same, front]
    · contradiction
  · rintro rfl
    simp

/-- The names of the files in a directory that start like those of entries. -/
def entryNames (t : FileTree) (directory : Location) : List String :=
  let found := t.entries.toList.filterMap fun (place, entry) =>
    (nameIn? directory place).map fun name => (name, entry.kind)
  ((found.filter fun entry => entry.2 = .file).map Prod.fst).filter fun name =>
    CacheKey.start.toList.isPrefixOf name.toList

theorem mem_entryNames_iff : name ∈ entryNames t directory ↔
    (∃ content, t.file? (directory ++ [name]) = some content) ∧
      CacheKey.start.toList.isPrefixOf name.toList = true := by
  have entry : t.entry? (directory ++ [name]) = t.entries[directory ++ [name]]? := by
    unfold entry?
    rw [if_neg (by simp)]
  simp only [entryNames, List.mem_filter, List.mem_map, List.mem_filterMap, Option.map_eq_some_iff,
    nameIn?_eq_some_iff, file?_eq_some_iff, entry]
  refine and_congr ?_ Iff.rfl
  constructor
  · rintro ⟨⟨other, kind⟩, ⟨⟨⟨place, entry'⟩, there, last, rfl, same⟩, isFile⟩, rfl⟩
    cases same
    cases entry' with
    | directory => simp [Entry.kind] at isFile
    | file content => exact ⟨content, Std.ExtTreeMap.mem_toList_iff_getElem?_eq_some.mp there⟩
  · rintro ⟨content, there⟩
    have mem := Std.ExtTreeMap.mem_toList_iff_getElem?_eq_some.mpr there
    exact ⟨(name, .file), ⟨⟨(_, .file content), mem, name, rfl, rfl⟩, by simp⟩, rfl⟩

theorem taken_cacheKeys_of_missing {p : Path} (missing : t.hasDirectory p = false) :
    taken (cacheKeys access p) t = (.ok [], t) := by
  simp only [cacheKeys, taken_bind, taken_isDirectory, missing]
  rfl

/-- The entries of a directory are listed by their names, in order. -/
theorem taken_cacheKeys {p : Path} (found : t.find p = .ok (directory, .directory)) :
    taken (cacheKeys access p) t =
      (.ok (((entryNames t directory).mergeSort fun a b => a ≤ b).map fun text => ⟨text⟩), t) := by
  have there : t.hasDirectory p = true := hasDirectory_eq_true_iff.mpr ⟨directory, found⟩
  have listed : taken (access.list p) t =
      (.ok (t.entries.toList.filterMap fun (other, entry) =>
        (nameIn? directory other).map fun name => (name, entry.kind)), t) := by
    show (t.list p, t) = _
    unfold FileTree.list
    rw [found]
    rfl
  simp only [cacheKeys, taken_bind, taken_isDirectory, there, Bool.not_true, Bool.false_eq_true,
    if_false, listed]
  rfl

theorem nodup_entryNames (t : FileTree) (directory : Location) :
    (entryNames t directory).Nodup := by
  have keys := Std.ExtTreeMap.distinct_keys_toList (t := t.entries)
  refine List.Pairwise.filter _ ?_
  rw [List.pairwise_map]
  refine List.Pairwise.filter _ ?_
  rw [List.pairwise_filterMap]
  refine keys.imp ?_
  -- Equal names in one directory stand at one place, and a place has one entry.
  rintro ⟨place, entry⟩ ⟨place', entry'⟩ differ found isIn found' isIn' same
  obtain ⟨name, there, rfl⟩ := Option.map_eq_some_iff.mp isIn
  obtain ⟨name', there', rfl⟩ := Option.map_eq_some_iff.mp isIn'
  rw [nameIn?_eq_some_iff] at there there'
  obtain rfl : name = name' := same
  rw [← there'] at there
  exact differ (Std.LawfulEqCmp.compare_eq_iff_eq.mpr there)

/-! ## Keys -/

theorem Mirrors.mem_entryNames_iff (mirrors : Mirrors here s dir t m) (plain : PlainStores s dir) :
    name ∈ entryNames t (here ++ s.cachePath.route) ↔ ∃ text, m.cache[name]? = some text := by
  rw [Disk.mem_entryNames_iff]
  constructor
  · rintro ⟨⟨content, file⟩, start⟩
    rcases (mirrors.stored _ content).mp file with
      ⟨key, text, kept, place, _⟩ | ⟨path, text, kept, place, _⟩
    · rw [plain.placeOf_entry (mirrors.keys key text kept)] at place
      rw [← last_eq place] at kept
      exact ⟨text, kept⟩
    · obtain ⟨other, good, names⟩ := mirrors.names path text kept
      rw [plain.placeOf_output names] at place
      have noEntry := good.noEntry
      rw [← last_eq place, start] at noEntry
      contradiction
  · rintro ⟨text, kept⟩
    have good := mirrors.keys ⟨name⟩ text kept
    have file := mirrors.file?_entry plain good
    rw [kept, Option.map_some] at file
    exact ⟨⟨_, file⟩, good.entry⟩

/-- Without the directory of the cache there is no entry. -/
theorem Mirrors.keys_eq_nil (mirrors : Mirrors here s dir t m) (plain : PlainStores s dir)
    (filled : s.cachePath.text ≠ "") (missing : t.hasDirectory s.cachePath = false) :
    CacheMap.keys m.cache = [] := by
  rw [List.eq_nil_iff_forall_not_mem]
  intro key mem
  obtain ⟨text, kept⟩ := CacheMap.mem_keys_iff.mp mem
  have file := mirrors.file?_entry plain (mirrors.keys key text kept)
  rw [kept, Option.map_some, file?_eq_some_iff] at file
  have stands := mirrors.rooted _ _ _ file
  rw [← mirrors.here_eq] at stands
  rw [hasDirectory_of_stands mirrors.rooted plain.cache filled stands] at missing
  contradiction

theorem Mirrors.listed (mirrors : Mirrors here s dir t m) (plain : PlainStores s dir)
    (filled : s.cachePath.text ≠ "") :
    taken ((stores access s).cache.keys) t = (.ok (CacheMap.keys m.cache), t) := by
  show taken (cacheKeys access s.cachePath) t = _
  cases there : t.hasDirectory s.cachePath with
  | false =>
      rw [taken_cacheKeys_of_missing there, mirrors.keys_eq_nil plain filled there]
  | true =>
      obtain ⟨place, found⟩ := hasDirectory_eq_true_iff.mp there
      have place_eq := eq_of_find plain.cache.noUp found
      rw [plain.cache.placeOf_eq, mirrors.here_eq] at place_eq
      have sorted := CacheMap.sorted_eq_keys (nodup_entryNames t (here ++ s.cachePath.route))
        fun _ => mirrors.mem_entryNames_iff plain
      rw [taken_cacheKeys found, place_eq, sorted]

/-! ## Clearing -/

/-- The removal of a file leaves the directories where they are. -/
theorem Laid.without (laid : Laid here s dir t)
    (file : t.file? (directory ++ [name]) = some content) :
    Laid here s dir (t.without (directory ++ [name])) := by
  have noDirectory : ∀ other, t.entry? other = some .directory → directory ++ [name] ≠ other := by
    rintro other stands rfl
    rw [file?_eq_some_iff, stands] at file
    cases file
  refine ⟨laid.here_eq, ?_, ?_, ?_⟩
  · intro above last entry there
    rw [entry?_without] at there
    split at there
    · contradiction
    · have stands := laid.rooted above last entry there
      rw [entry?_without, if_neg (noDirectory _ stands), stands]
  · rw [entry?_without, if_neg (noDirectory _ laid.working), laid.working]
  · intro place stands
    rw [entry?_without] at stands
    split at stands
    · contradiction
    · exact laid.within place stands

theorem Named.stored_erase (named : Named s dir m) (plain : PlainStores s dir)
    (good : EntryName s key) (place : Location) (content : ByteArray) :
    Stored here s { m with cache := m.cache.erase key.text } place content ↔
      here ++ s.cachePath.route ++ [key.text] ≠ place ∧ Stored here s m place content := by
  constructor
  · rintro (⟨other, text, kept, rfl, rfl⟩ | ⟨path, text, kept, rfl, rfl⟩)
    · rw [CacheMap.getElem?_erase] at kept
      split at kept
      · contradiction
      · next differ =>
          refine ⟨fun place => ?_, .inl ⟨other, text, kept, rfl, rfl⟩⟩
          rw [plain.placeOf_entry (named.keys other text kept)] at place
          exact differ (congrArg CacheKey.mk (last_eq place))
    · obtain ⟨name, good', names⟩ := named.names path text kept
      refine ⟨fun place => ?_, .inr ⟨path, text, kept, rfl, rfl⟩⟩
      rw [plain.placeOf_output names] at place
      exact key_ne_name good good' (last_eq place)
  · rintro ⟨elsewhere, ⟨other, text, kept, rfl, rfl⟩ | inOutput⟩
    · refine .inl ⟨other, text, ?_, rfl, rfl⟩
      rw [CacheMap.getElem?_erase, if_neg]
      · exact kept
      · rintro rfl
        exact elsewhere (plain.placeOf_entry good here).symm
    · exact .inr inOutput

theorem Mirrors.remove (mirrors : Mirrors here s dir t m) (plain : PlainStores s dir)
    (mem : key ∈ CacheMap.keys m.cache) :
    ∃ u, t.remove (entryPath s.cachePath key) = .ok u ∧
      Mirrors here s dir u { m with cache := m.cache.erase key.text } := by
  obtain ⟨text, kept⟩ := CacheMap.mem_keys_iff.mp mem
  have good := mirrors.keys key text kept
  have file := mirrors.file?_entry plain good
  rw [kept, Option.map_some] at file
  have laid := mirrors.toLaid.without file
  have removed : t.remove (entryPath s.cachePath key) =
      .ok (t.without (here ++ s.cachePath.route ++ [key.text])) := by
    rw [← mirrors.here_eq] at file ⊢
    exact remove_join_name mirrors.rooted good.file (plain.entry good) file
  refine ⟨_, removed, laid, mirrors.toNamed.fewer ?_, ?_⟩
  · intro other text' kept'
    rw [CacheMap.getElem?_erase] at kept'
    split at kept'
    · contradiction
    · exact kept'
  · intro place content
    rw [file?_without, mirrors.toNamed.stored_erase plain good]
    split
    · next same => simp [same]
    · next differ => rw [mirrors.stored, and_iff_right differ]

theorem Mirrors.removeEntries {keys : List CacheKey} (mirrors : Mirrors here s dir t m)
    (plain : PlainStores s dir) (present : ∀ key ∈ keys, key ∈ CacheMap.keys m.cache)
    (nodup : keys.Nodup) :
    ∃ u, taken (removeEntries access s.cachePath keys) t = (.ok (), u) ∧
      Mirrors here s dir u { m with cache := CacheMap.without m.cache keys } := by
  induction keys generalizing t m with
  | nil => exact ⟨t, rfl, mirrors⟩
  | cons key keys ih =>
      obtain ⟨new, others⟩ := List.nodup_cons.mp nodup
      obtain ⟨v, removed, mirrors'⟩ := mirrors.remove plain (present key List.mem_cons_self)
      have present' : ∀ other ∈ keys, other ∈ CacheMap.keys (m.cache.erase key.text) := by
        intro other mem
        -- The other keys are still in use behind the removal of the first.
        have differ : key ≠ other := by
          rintro rfl
          exact new mem
        rw [CacheMap.mem_keys_iff, CacheMap.getElem?_erase, if_neg differ]
        exact CacheMap.mem_keys_iff.mp (present other (List.mem_cons_of_mem _ mem))
      obtain ⟨u, rest, cleared⟩ := ih mirrors' present' others
      refine ⟨u, ?_, cleared⟩
      simp only [Disk.removeEntries, taken_bind, taken_remove, removed, changed]
      exact rest

theorem Mirrors.clear (mirrors : Mirrors here s dir t m) (plain : PlainStores s dir)
    (filled : s.cachePath.text ≠ "") :
    ∃ u, taken ((stores access s).cache.clear) t = (.ok m.cache.size, u) ∧
      Mirrors here s dir u { m with cache := ∅ } := by
  have listed : taken (cacheKeys access s.cachePath) t = (.ok (CacheMap.keys m.cache), t) :=
    mirrors.listed plain filled
  obtain ⟨u, removed, cleared⟩ := mirrors.removeEntries plain (fun _ mem => mem)
    (CacheMap.nodup_keys m.cache)
  rw [CacheMap.without_keys] at cleared
  refine ⟨u, ?_, cleared⟩
  simp only [stores, cache, taken_bind, listed, removed, taken_pure, CacheMap.length_keys]

end ModelMigration.Disk
