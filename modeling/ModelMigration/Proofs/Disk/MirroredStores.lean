import ModelMigration.Proofs.Disk.Mirror

/-!
# Stores on a mirroring disk

The operations of the stores one by one: on a disk that mirrors a memory each gives the answer that
it gives in memory, and what it leaves mirrors what it leaves in memory.
-/

namespace ModelMigration.Disk

open ModelMigration.Path FileTree

variable {here : Location} {s : Settings} {dir : Path} {t u : FileTree} {m : Memory}
  {key : CacheKey} {name text : String} {place : Location} {content : ByteArray}

/-! ## Looking up -/

/-- The file of an entry holds the text under its key. -/
theorem Mirrors.file?_entry (mirrors : Mirrors here s dir t m) (plain : PlainStores s dir)
    (good : EntryName s key) :
    t.file? (here ++ s.cachePath.route ++ [key.text]) =
      (m.cache[key.text]?).map String.toUTF8 := by
  apply Option.ext
  intro content
  rw [mirrors.stored, mirrors.toNamed.stored_entry_iff plain good, Option.map_eq_some_iff]
  exact exists_congr fun text => and_congr_right fun _ => eq_comm

theorem Mirrors.find_entry (mirrors : Mirrors here s dir t m) (plain : PlainStores s dir)
    (good : EntryName s key) (kept : m.cache[key.text]? = some text) :
    t.find (entryPath s.cachePath key) =
      .ok (here ++ s.cachePath.route ++ [key.text], .file text.toUTF8) := by
  have file := mirrors.file?_entry plain good
  rw [kept, Option.map_some, file?_eq_some_iff] at file
  rw [← mirrors.here_eq] at file ⊢
  exact find_join_name mirrors.rooted good.file (plain.entry good) file

theorem Mirrors.hasFile_entry (mirrors : Mirrors here s dir t m) (plain : PlainStores s dir)
    (good : EntryName s key) :
    t.hasFile (entryPath s.cachePath key) = m.cache[key.text]?.isSome := by
  rw [entryPath, hasFile_join_name mirrors.rooted good.file (plain.entry good), mirrors.here_eq,
    mirrors.file?_entry plain good, Option.isSome_map]

theorem Mirrors.contains (mirrors : Mirrors here s dir t m) (plain : PlainStores s dir)
    (good : EntryName s key) :
    taken ((stores access s).cache.contains key) t = (m.cache[key.text]?.isSome, t) := by
  rw [cache_contains, mirrors.hasFile_entry plain good]

theorem Mirrors.read (mirrors : Mirrors here s dir t m) (plain : PlainStores s dir)
    (good : EntryName s key) :
    taken ((stores access s).cache.read key) t = (CacheMap.read m.cache key, t) := by
  cases kept : m.cache[key.text]? with
  | some text =>
      rw [cache_read_of_find (mirrors.find_entry plain good kept), CacheMap.read, kept]
  | none =>
      have noFile := mirrors.hasFile_entry plain good
      rw [kept, Option.isSome_none] at noFile
      simp only [stores, cache, taken_bind, taken_isFile, noFile, Bool.not_false, if_true,
        taken_pure, CacheMap.read, kept]

/-! ## Writing -/

theorem Mirrors.free_cache (mirrors : Mirrors here s dir t m) (plain : PlainStores s dir)
    (apart : Apart here s dir m) :
    ∀ other, other <+: here ++ s.cachePath.route → t.file? other = none := by
  intro other above
  cases file : t.file? other with
  | none => rfl
  | some content =>
      rcases (mirrors.stored other content).mp file with
        ⟨key, text, kept, rfl, _⟩ | ⟨path, text, kept, rfl, _⟩
      · rw [plain.placeOf_entry (mirrors.keys key text kept)] at above
        exact absurd above (not_concat_isPrefix _ _)
      · rw [← plain.cache.placeOf_eq] at above
        exact absurd above (apart.files path text kept)

theorem Mirrors.free_output (mirrors : Mirrors here s dir t m) (plain : PlainStores s dir)
    (apart : Apart here s dir m) :
    ∀ other, other <+: here ++ dir.route → t.file? other = none := by
  intro other above
  cases file : t.file? other with
  | none => rfl
  | some content =>
      rcases (mirrors.stored other content).mp file with
        ⟨key, text, kept, rfl, _⟩ | ⟨path, text, kept, rfl, _⟩
      · rw [← plain.output.placeOf_eq] at above
        exact absurd above (apart.entries key text kept)
      · obtain ⟨name, _, names⟩ := mirrors.names path text kept
        rw [plain.placeOf_output names] at above
        exact absurd above (not_concat_isPrefix _ _)

/-- A file laid in a directory of the stores that was reached. -/
theorem Laid.put (laid : Laid here s dir t) (reached : Reached t u place)
    (isStore : place = here ++ s.cachePath.route ∨ place = here ++ dir.route)
    (noCache : ¬ place ++ [name] <+: here ++ s.cachePath.route)
    (noOutput : ¬ place ++ [name] <+: here ++ dir.route) (content : ByteArray) :
    u.entry? (place ++ [name]) ≠ some .directory ∧
      Laid here s dir (u.put (place ++ [name]) (.file content)) ∧
      ∀ other, file? (u.put (place ++ [name]) (.file content)) other =
        if place ++ [name] = other then some content else t.file? other := by
  have within : ∀ other, u.entry? other = some .directory →
      other <+: here ++ s.cachePath.route ∨ other <+: here ++ dir.route := by
    intro other stands
    rcases reached.grown.entry other with same | ⟨_, _, above⟩
    · rw [same] at stands
      exact laid.within other stands
    · rcases isStore with rfl | rfl
      · exact .inl above
      · exact .inr above
  have other : u.entry? (place ++ [name]) ≠ some .directory := fun stands =>
    (within _ stands).elim noCache noOutput
  refine ⟨other, ⟨?_, ?_, ?_, ?_⟩, fun other => ?_⟩
  · rw [here_put, reached.grown.here, laid.here_eq]
  · exact reached.rooted.put reached.stands (.inr other)
  · exact (keeps_put_file other).directory _ (reached.grown.keeps.directory _ laid.working)
  · intro place' stands
    rw [entry?_put] at stands
    split at stands
    · cases stands
    · exact within place' stands
  · rw [file?_put_file, reached.grown.file?_eq]

theorem Named.stored_insert (named : Named s dir m) (plain : PlainStores s dir)
    (good : EntryName s key) (text : String) (place : Location) (content : ByteArray) :
    Stored here s { m with cache := m.cache.insert key.text text } place content ↔
      if here ++ s.cachePath.route ++ [key.text] = place then text.toUTF8 = content
      else Stored here s m place content := by
  split
  · next same =>
      rw [← same, (named.insert good text).stored_entry_iff plain good, CacheMap.getElem?_insert,
        if_pos rfl]
      simp [eq_comm]
  · next elsewhere =>
      rw [← plain.placeOf_entry good] at elsewhere
      unfold Stored
      refine or_congr ?_ Iff.rfl
      constructor
      · rintro ⟨other, text', kept, place, same⟩
        rw [CacheMap.getElem?_insert, if_neg] at kept
        · exact ⟨other, text', kept, place, same⟩
        · rintro rfl
          exact elsewhere place.symm
      · rintro ⟨other, text', kept, place, same⟩
        refine ⟨other, text', ?_, place, same⟩
        rw [CacheMap.getElem?_insert, if_neg]
        · exact kept
        · rintro rfl
          exact elsewhere place.symm

theorem Named.stored_put (named : Named s dir m) (plain : PlainStores s dir)
    (good : OutputName name) (names : Names dir path name) (text : String) (place : Location)
    (content : ByteArray) :
    Stored here s { m with output := m.output.put path text } place content ↔
      if here ++ dir.route ++ [name] = place then text.toUTF8 = content
      else Stored here s m place content := by
  split
  · next same =>
      rw [← same, (named.put good names text).stored_name_iff plain good names,
        OutputMap.get?_put, if_pos rfl]
      simp [eq_comm]
  · next elsewhere =>
      rw [← plain.placeOf_output names] at elsewhere
      unfold Stored
      refine or_congr Iff.rfl ?_
      constructor
      · rintro ⟨other, text', kept, place, same⟩
        rw [OutputMap.get?_put, if_neg] at kept
        · exact ⟨other, text', kept, place, same⟩
        · intro components
          exact elsewhere (by rw [place, placeOf_congr components])
      · rintro ⟨other, text', kept, place, same⟩
        refine ⟨other, text', ?_, place, same⟩
        rw [OutputMap.get?_put, if_neg]
        · exact kept
        · intro components
          exact elsewhere (by rw [place, placeOf_congr components])

theorem Apart.of_insert {key : CacheKey}
    (apart : Apart here s dir { m with cache := m.cache.insert key.text text }) :
    Apart here s dir m where
  entries := by
    intro other text' kept
    by_cases same : key = other
    · exact apart.entries other text (by rw [CacheMap.getElem?_insert, if_pos same])
    · exact apart.entries other text' (by rw [CacheMap.getElem?_insert, if_neg same, kept])
  files := apart.files

theorem Apart.of_put {path : Path}
    (apart : Apart here s dir { m with output := m.output.put path text }) :
    Apart here s dir m where
  entries := apart.entries
  files := by
    intro other text' kept
    by_cases same : path.components = other.components
    · exact apart.files other text (by rw [OutputMap.get?_put, if_pos same])
    · exact apart.files other text' (by rw [OutputMap.get?_put, if_neg same, kept])

theorem Mirrors.write (mirrors : Mirrors here s dir t m) (plain : PlainStores s dir)
    (noDot : ¬ s.cachePath.EndsInDot) (good : EntryName s key)
    (apart : Apart here s dir { m with cache := m.cache.insert key.text text }) :
    ∃ u, taken ((stores access s).cache.write key text) t = (.ok (), u) ∧
      Mirrors here s dir u { m with cache := m.cache.insert key.text text } := by
  have here_eq := mirrors.here_eq
  subst here_eq
  obtain ⟨v, made, reached⟩ := makeDirectories_reaches plain.cache noDot mirrors.rooted
    mirrors.working (mirrors.free_cache plain apart.of_insert)
  -- The new file takes the place of no directory that either store needs.
  have noOutput : ¬ t.here ++ s.cachePath.route ++ [key.text] <+: t.here ++ dir.route := by
    have := apart.entries key text (by rw [CacheMap.getElem?_insert, if_pos rfl])
    rwa [plain.placeOf_entry good, plain.output.placeOf_eq] at this
  obtain ⟨other, laid, files⟩ := mirrors.toLaid.put reached (.inl rfl)
    (not_concat_isPrefix _ _) noOutput text.toUTF8
  have written : v.write (entryPath s.cachePath key) text.toUTF8 =
      .ok (v.put (t.here ++ s.cachePath.route ++ [key.text]) (.file text.toUTF8)) := by
    have stands := reached.stands
    rw [← reached.grown.here] at stands other ⊢
    exact write_join_name reached.rooted good.file (plain.entry good) stands other
  refine ⟨_, ?_, laid, mirrors.toNamed.insert good text, fun place content => ?_⟩
  · simp only [stores, cache, taken_bind, made, Access.writeText, taken_write, written, changed,
      taken_pure]
  · rw [files, mirrors.toNamed.stored_insert plain good]
    split
    · exact Option.some_inj
    · exact mirrors.stored place content

theorem Mirrors.makeParent {q : Path} (mirrors : Mirrors here s dir t m) (plain : PlainStores s dir)
    (apart : Apart here s dir m) (file : FileName name) (spelled : q.components = dir.components)
    (plainPath : (q.join ⟨name⟩).Plain) :
    ∃ v, taken (makeParent access (q.join ⟨name⟩)) t = (.ok (), v) ∧
      Reached t v (here ++ dir.route) := by
  have here_eq := mirrors.here_eq
  subst here_eq
  have free := mirrors.free_output plain apart
  have along : (q.join ⟨name⟩).route = dir.route ++ [name] := by
    rw [route_join_part q file.part, Path.route, spelled, Path.route]
  unfold Disk.makeParent
  cases parent : (q.join ⟨name⟩).parent? with
  | none =>
      have none := route_eq_nil_of_parent? parent
      rw [along] at none
      simp at none
  | some above =>
      have plainParent := plainPath.parent parent
      have route : above.route = dir.route := by
        obtain ⟨last, longer⟩ := exists_route_parent? parent (by simp [along])
        rw [along] at longer
        exact (List.append_inj' longer rfl).1.symm
      rw [← route] at free ⊢
      simp only [taken_ite, taken_pure, taken_bind, taken_present]
      by_cases empty : above.text = ""
      · have none : above.route = [] := by
          rw [eq_blank empty]
          decide
        rw [if_pos empty, none, List.append_nil]
        exact ⟨t, rfl, Grown.refl _ t, mirrors.rooted, mirrors.working⟩
      · rw [if_neg empty]
        cases found : t.find above with
        | ok there =>
            have stands := entry?_of_find plainParent free found
            exact ⟨t, rfl, Grown.refl _ t, mirrors.rooted, stands⟩
        | error refusal =>
            obtain ⟨v, made, reached⟩ := makeDirectories_reaches plainParent
              (not_endsInDot_of_parent? parent) mirrors.rooted mirrors.working free
            refine ⟨v, ?_, reached⟩
            rw [made]
            rfl

theorem Mirrors.put {q : Path} (mirrors : Mirrors here s dir t m) (plain : PlainStores s dir)
    (good : OutputName name) (spelled : q.components = dir.components)
    (plainPath : (q.join ⟨name⟩).Plain)
    (apart : Apart here s dir { m with output := m.output.put (q.join ⟨name⟩) text }) :
    ∃ u, taken ((stores access s).output.put (q.join ⟨name⟩) text) t = (.ok (), u) ∧
      Mirrors here s dir u { m with output := m.output.put (q.join ⟨name⟩) text } := by
  obtain ⟨v, made, reached⟩ := mirrors.makeParent plain apart.of_put good.file spelled plainPath
  have here_eq := mirrors.here_eq
  subst here_eq
  have names : Names dir (q.join ⟨name⟩) name := by
    rw [Names, components_join_part q good.file.part, spelled]
  have route : q.route = dir.route := by rw [Path.route, spelled, Path.route]
  have noCache : ¬ t.here ++ dir.route ++ [name] <+: t.here ++ s.cachePath.route := by
    have := apart.files (q.join ⟨name⟩) text (by rw [OutputMap.get?_put, if_pos rfl])
    rwa [plain.placeOf_output names, plain.cache.placeOf_eq] at this
  obtain ⟨other, laid, files⟩ := mirrors.toLaid.put reached (.inr rfl) noCache
    (not_concat_isPrefix _ _) text.toUTF8
  have written : v.write (q.join ⟨name⟩) text.toUTF8 =
      .ok (v.put (t.here ++ dir.route ++ [name]) (.file text.toUTF8)) := by
    have stands := reached.stands
    rw [← reached.grown.here, ← route] at stands other ⊢
    exact write_join_name reached.rooted good.file plainPath stands other
  refine ⟨_, ?_, laid, mirrors.toNamed.put good names text, fun place content => ?_⟩
  · simp only [stores, output, taken_bind, made, Access.writeText, taken_write, written, changed,
      taken_pure]
  · rw [files, mirrors.toNamed.stored_put plain good names]
    split
    · exact Option.some_inj
    · exact mirrors.stored place content

end ModelMigration.Disk
