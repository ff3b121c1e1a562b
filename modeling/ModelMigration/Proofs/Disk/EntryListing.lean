import ModelMigration.Proofs.Disk.Filing
import ModelMigration.Proofs.Disk.FileNames
import ModelMigration.Proofs.Disk.MirroredListing

/-!
# Entries by their keys

Every hash has a key of its own, and a key is the name of one file in the directory of the cache. An
entry that is written is listed from then on, once, beside those that were listed before it.
-/

namespace ModelMigration.Disk

open ModelMigration.Path FileTree

variable {t u : FileTree} {p dir : Path} {root place : Location} {name other text : String}
  {content : ByteArray} {key : CacheKey}

/-! ## Names beside a file that was put -/

theorem entryNames_eq_nil (rooted : t.Rooted) (missing : t.entry? root ≠ some .directory) :
    entryNames t root = [] := by
  rw [List.eq_nil_iff_forall_not_mem]
  intro name mem
  obtain ⟨⟨content, file⟩, _⟩ := mem_entryNames_iff.mp mem
  exact missing (rooted _ _ _ (file?_eq_some_iff.mp file))

theorem Filed.mem_entryNames_iff (filed : Filed t u dir root name content)
    (isEntry : CacheKey.start.toList.isPrefixOf name.toList = true) :
    other ∈ entryNames u root ↔ other = name ∨ other ∈ entryNames t root := by
  rw [Disk.mem_entryNames_iff, Disk.mem_entryNames_iff]
  by_cases same : other = name
  · subst same
    simp [filed.file, isEntry]
  · have elsewhere : root ++ [other] ≠ root ++ [name] := by simpa using same
    rw [filed.others _ elsewhere, or_iff_right same]

/-- The names of the entries are the new one and those there were, without the new one. -/
theorem Filed.perm_entryNames (filed : Filed t u dir root name content)
    (isEntry : CacheKey.start.toList.isPrefixOf name.toList = true) :
    (entryNames u root).Perm (name :: (entryNames t root).filter (· ≠ name)) := by
  have nodup : (name :: (entryNames t root).filter (· ≠ name)).Nodup :=
    List.nodup_cons.mpr ⟨by simp, (nodup_entryNames t root).filter _⟩
  rw [List.perm_ext_iff_of_nodup (nodup_entryNames u root) nodup]
  intro other
  rw [filed.mem_entryNames_iff isEntry]
  by_cases same : other = name <;> simp [same]

/-! ## Listings -/

/-- What the cache in a directory lists. -/
def listed (t : FileTree) (root : Location) : List CacheKey :=
  ((entryNames t root).mergeSort fun a b => a ≤ b).map fun text => ⟨text⟩

theorem listed_perm (t : FileTree) (root : Location) :
    (listed t root).Perm ((entryNames t root).map fun text => ⟨text⟩) :=
  (List.mergeSort_perm _ _).map _

theorem mem_listed_iff : key ∈ listed t root ↔
    (∃ content, t.file? (root ++ [key.text]) = some content) ∧
      CacheKey.start.toList.isPrefixOf key.text.toList = true := by
  rw [(listed_perm t root).mem_iff, List.mem_map, ← mem_entryNames_iff]
  constructor
  · rintro ⟨name, mem, rfl⟩
    exact mem
  · intro mem
    exact ⟨key.text, mem, rfl⟩

theorem Filed.perm_listed (filed : Filed t u dir root key.text content)
    (isEntry : CacheKey.start.toList.isPrefixOf key.text.toList = true) :
    (listed u root).Perm (key :: (listed t root).filter (· ≠ key)) := by
  have names := (filed.perm_entryNames isEntry).map fun text => (⟨text⟩ : CacheKey)
  have others : ((entryNames t root).filter (· ≠ key.text)).map (fun text => (⟨text⟩ : CacheKey)) =
      ((entryNames t root).map fun text => ⟨text⟩).filter (· ≠ key) := by
    rw [List.filter_map]
    refine congrArg _ (List.filter_congr fun text _ => ?_)
    cases key
    simp only [Function.comp_apply, ne_eq, CacheKey.mk.injEq]
  rw [List.map_cons, others] at names
  exact (listed_perm u root).trans (names.trans (((listed_perm t root).symm.filter _).cons key))

theorem FileTree.Keeps.find_directory (keeps : Keeps t u)
    (found : t.find p = .ok (place, .directory)) :
    u.find p = .ok (place, .directory) := by
  obtain ⟨start, origin, followed, stands, slash⟩ := find_eq_ok_iff.mp found
  rw [← origin_congr keeps.here] at origin
  exact find_eq_ok_iff.mpr
    ⟨start, origin, keeps.followAll followed, keeps.directory _ stands, slash⟩

/-- What is listed before an entry is written is what stands in the directory it is written to,
unless the path of the directory has `..` parts and leads nowhere yet. -/
theorem Filed.taken_cacheKeys (filed : Filed t u dir root name content) (rooted : t.Rooted)
    (filled : dir.text ≠ "") (clear : ".." ∉ dir.route ∨ t.hasDirectory dir = true) :
    taken (cacheKeys access dir) t = (.ok (listed t root), t) := by
  have after := filed.leads.find filled
  cases there : t.hasDirectory dir with
  | true =>
      obtain ⟨place, found⟩ := hasDirectory_eq_true_iff.mp there
      have same := (filed.keeps.find_directory found).symm.trans after
      cases same
      exact Disk.taken_cacheKeys found
  | false =>
      have noUp : ".." ∉ dir.route := clear.resolve_right (by simp [there])
      -- A directory at the place that the path spells would have been found.
      have missing : t.entry? root ≠ some .directory := by
        intro stands
        obtain ⟨start, origin, followed, _⟩ := find_eq_ok_iff.mp after
        have place := eq_of_find noUp after
        rw [placeOf, filed.keeps.here, ← placeOf] at place
        rw [origin_congr filed.keeps.here] at origin
        have found := find_of_directory rooted noUp (length_le_of_followAll followed) origin
          (place ▸ stands)
        rw [hasDirectory_eq_true_iff.mpr ⟨_, found⟩] at there
        contradiction
      rw [taken_cacheKeys_of_missing there, listed, entryNames_eq_nil rooted missing,
        List.mergeSort_nil, List.map_nil]

/-! ## Keys and their entries -/

/-- Any path is the path of the cache under some settings. -/
theorem exists_cachePath_eq (root : Path) : ∃ s : Settings, s.cachePath = root := by
  refine ⟨{ Settings.standard with basePath := ⟨""⟩, cacheDirectory := root }, ?_⟩
  simp [Settings.cachePath, join]

theorem filed_of_write_entry (part : PartName key.text)
    (h : taken ((cache access dir).write key text) t = (.ok (), u)) :
    ∃ root, Filed t u dir root key.text text.toUTF8 := by
  obtain ⟨s, rfl⟩ := exists_cachePath_eq dir
  exact filed_of_cache_write part h

/-- A key tells its hash and is the name of one file in the directory of the cache. Once it is
written it is listed, and the other entries are listed as before. -/
theorem entry_listed_by_key {hash : String} (named : hash ≠ "") (ext : String) :
    ∃ key, CacheKey.ofHash hash ext = .ok key ∧
      (∀ other, CacheKey.ofHash other ext = .ok key → other = hash) ∧
      (Nameable ext →
        (CacheKey.start.toList <+: key.text.toList ∧ Nameable key.text ∧ key.text ≠ "." ∧
          key.text ≠ "..") ∧
        ∀ root : Path,
          (∃ parent, (entryPath root key).parent? = some parent ∧
            parent.components = root.components) ∧
          ∀ (t u : FileTree) (text : String), t.Rooted → root.text ≠ "" →
            (".." ∉ root.route ∨ t.hasDirectory root = true) →
            taken ((cache access root).write key text) t = (.ok (), u) →
            ∃ before after, taken (cache access root).keys t = (.ok before, t) ∧
              taken (cache access root).keys u = (.ok after, u) ∧
              after.Perm (key :: before.filter (· ≠ key))) := by
  have hashed := CacheKey.ofHash_of_ne_empty ext named
  refine ⟨_, hashed, fun other hashed' => CacheKey.ofHash_inj hashed' hashed, fun nameable => ?_⟩
  generalize (⟨CacheKey.start ++ CacheKey.stem hash ++ ext⟩ : CacheKey) = key at hashed
  have isEntry := CacheKey.start_isPrefixOf_of_ofHash hashed
  have part := CacheKey.partName_of_ofHash hashed nameable.1
  refine ⟨⟨List.isPrefixOf_iff_prefix.mp isEntry, CacheKey.nameable_of_ofHash hashed nameable,
    part.noDot, part.noUp⟩, fun root => ⟨exists_parent?_join_part root part, ?_⟩⟩
  intro t u text rooted filled clear written
  obtain ⟨place, filed⟩ := filed_of_write_entry part written
  have found := filed.leads.find filled
  exact ⟨listed t place, listed u place, filed.taken_cacheKeys rooted filled clear,
    taken_cacheKeys found, filed.perm_listed isEntry⟩

/-- A tree that works in `w`, with an entry in the directory `b`. -/
def entryTree : FileTree :=
  ((FileTree.empty ["w"]).put (["w"] ++ ["b"]) .directory).put (["w", "b"] ++ ["migration_old.scf"])
    (.file "old".toUTF8)

theorem rooted_entryTree : entryTree.Rooted :=
  Rooted.put (((rooted_empty ["w"]).put (by decide +kernel) (.inl rfl))) (by decide +kernel)
    (.inr (by decide +kernel))

/-- A hash that reads like a path out of the directory has an entry in it. -/
theorem entry_listed_by_key_climbing :
    let key : CacheKey := ⟨"migration_~2e2e2f68.scf"⟩
    let written := taken ((cache access ⟨"b"⟩).write key "new") entryTree
    "../h" ≠ "" ∧ Nameable ".scf" ∧ entryTree.Rooted ∧ ".." ∉ Path.route ⟨"b"⟩ ∧
      written.1 = .ok () ∧ CacheKey.ofHash "../h" ".scf" = .ok key ∧
      (∀ other, CacheKey.ofHash other ".scf" = .ok key → other = "../h") ∧
      ∃ before after, taken (cache access ⟨"b"⟩).keys entryTree = (.ok before, entryTree) ∧
        taken (cache access ⟨"b"⟩).keys written.2 = (.ok after, written.2) ∧
        after.Perm (key :: before.filter (· ≠ key)) := by
  intro key written
  have named : "../h" ≠ "" := by decide
  have nameable : Nameable ".scf" := by decide
  have noUp : ".." ∉ Path.route ⟨"b"⟩ := by decide
  have done : written.1 = .ok () := by decide +kernel
  have hash : CacheKey.ofHash "../h" ".scf" = .ok key := by decide +kernel
  obtain ⟨key', hash', tells, confined⟩ := entry_listed_by_key named ".scf"
  obtain rfl : key = key' := Except.ok.inj (hash.symm.trans hash')
  have listing := ((confined nameable).2 ⟨"b"⟩).2 entryTree written.2 "new" rooted_entryTree
    (by decide) (.inl noUp) (Prod.ext done rfl)
  exact ⟨named, nameable, rooted_entryTree, noUp, done, hash, tells, listing⟩

/-- Where the path of the cache leads nowhere before the write, an older entry comes into the
listing with the new one; where it is empty, even the new one is missing. -/
theorem entry_not_listed_alone :
    let key : CacheKey := ⟨"migration_h.scf"⟩
    let behind := taken ((cache access ⟨"a/../b"⟩).write key "new") entryTree
    let here := taken ((cache access ⟨""⟩).write key "new") entryTree
    CacheKey.ofHash "h" ".scf" = .ok key ∧ Nameable ".scf" ∧ entryTree.Rooted ∧
      (behind.1 = .ok () ∧ taken (cache access ⟨"a/../b"⟩).keys entryTree = (.ok [], entryTree) ∧
        ∃ after, taken (cache access ⟨"a/../b"⟩).keys behind.2 = (.ok after, behind.2) ∧
          ⟨"migration_old.scf"⟩ ∈ after) ∧
      here.1 = .ok () ∧ taken (cache access ⟨""⟩).keys here.2 = (.ok [], here.2) := by
  intro key behind here
  have done : behind.1 = .ok () ∧ here.1 = .ok () ∧
      entryTree.hasDirectory ⟨"a/../b"⟩ = false ∧ here.2.hasDirectory ⟨""⟩ = false := by
    decide +kernel
  have found : behind.2.LeadsTo ⟨"a/../b"⟩ ["w", "b"] := by decide +kernel
  have old : behind.2.file? (["w", "b"] ++ ["migration_old.scf"]) = some "old".toUTF8 := by
    decide +kernel
  obtain ⟨doneBehind, doneHere, missing, nowhere⟩ := done
  exact ⟨by decide +kernel, by decide, rooted_entryTree,
    ⟨doneBehind, taken_cacheKeys_of_missing missing, _, taken_cacheKeys (found.find (by decide)),
      mem_listed_iff.mpr ⟨⟨_, old⟩, by decide +kernel⟩⟩,
    doneHere, taken_cacheKeys_of_missing nowhere⟩

end ModelMigration.Disk
