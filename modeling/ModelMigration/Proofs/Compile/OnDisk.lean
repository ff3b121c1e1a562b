import ModelMigration.Proofs.Compile.InMemory
import ModelMigration.Proofs.Disk.MirroredListing

/-!
# Requests on a mirroring disk

A request on a disk that mirrors a memory ends as it does in memory, and the disk goes on mirroring
the memory, as long as the names that it uses fit in a path.
-/

namespace ModelMigration.Disk

open Compiler ModelMigration.Path FileTree

/-! ## What fits -/

/-- Whether a key is made from a hash, under an extension that can stand in a file name, and short
enough to name a file. -/
structure KeyFits (s : Settings) (key : CacheKey) : Prop where
  made : ∃ hash ext, CacheKey.ofHash hash ext = .ok key ∧ Nameable ext
  short : key.text.utf8ByteSize ≤ greatestName
  limit : (entryPath s.cachePath key).text.utf8ByteSize < pathLimit

/-- Whether a request at a time is for a migration in a directory, however that is spelled, and
the names of the migration and of its entry are short enough to name files. -/
structure RequestFits (s : Settings) (dir : Path) (time : Timestamp) (r : Request) : Prop where
  spelled : (s.resolve r.config.migrations).components = dir.components
  directory : (s.resolve r.config.migrations).Plain
  name : Nameable r.name
  short : (migrationFileName time r.name s.sourceExtension).utf8ByteSize ≤ greatestName
  limit : (destination s r.name r.config time).text.utf8ByteSize < pathLimit
  key : ∀ key, CacheKey.ofHash r.hash s.cacheExtension = .ok key → KeyFits s key

variable {here : Location} {s : Settings} {dir : Path} {t : FileTree} {m : Memory}
  {key : CacheKey} {text : String} {clock : Clock} {time : Timestamp} {r : Request}

theorem KeyFits.entryName (fits : KeyFits s key) : EntryName s key := by
  obtain ⟨hash, ext, made, nameable⟩ := fits.made
  exact ⟨CacheKey.fileName_of_ofHash made nameable fits.short,
    CacheKey.start_isPrefixOf_of_ofHash made, fits.limit⟩

theorem RequestFits.outputName (fits : RequestFits s dir time r) (plain : PlainStores s dir) :
    OutputName (migrationFileName time r.name s.sourceExtension) :=
  ⟨fileName_migration fits.name plain.sources fits.short, start_isPrefixOf_migration _ _ _⟩

theorem RequestFits.names (fits : RequestFits s dir time r) (plain : PlainStores s dir) :
    Names dir (destination s r.name r.config time)
      (migrationFileName time r.name s.sourceExtension) := by
  have good := fits.outputName plain
  rw [Names, destination, components_join_part _ good.file.part, fits.spelled]

/-! ## Requests -/

theorem Named.compile (named : Named s dir m) (plain : PlainStores s dir)
    (fits : r.config.validate = .ok () → ∀ later, clock.advance? = some later →
      RequestFits s dir later.current r) :
    Named s dir (taken (Compiler.compile s Memory.stores clock r) m).2 := by
  match inMemory : taken (Compiler.compile s Memory.stores clock r) m with
  | (completion, m') =>
      cases Memory.compile_ended inMemory with
      | invalid | exhausted | unnamed | unbuilt => exact named
      | hit config advance hash kept =>
          have fits := fits config _ advance
          exact named.put (fits.outputName plain) (fits.names plain) _
      | @miss later key text config advance hash new built =>
          have fits := fits config later advance
          have kept := named.insert (fits.key key hash).entryName text
          exact kept.put (fits.outputName plain) (fits.names plain) _

theorem Mirrors.put_destination (mirrors : Mirrors here s dir t m) (plain : PlainStores s dir)
    (fits : RequestFits s dir time r)
    (apart : Apart here s dir
      { m with output := m.output.put (destination s r.name r.config time) text }) :
    ∃ u, taken ((stores access s).output.put (destination s r.name r.config time) text) t =
        (.ok (), u) ∧
      Mirrors here s dir u
        { m with output := m.output.put (destination s r.name r.config time) text } := by
  have good := fits.outputName plain
  exact mirrors.put plain good fits.spelled (fits.directory.join_name good.file fits.limit) apart

theorem Mirrors.deliver (fromCache : Bool) (mirrors : Mirrors here s dir t m)
    (plain : PlainStores s dir) (fits : RequestFits s dir time r) (good : EntryName s key)
    (kept : m.cache[key.text]? = some text)
    (apart : Apart here s dir
      { m with output := m.output.put (destination s r.name r.config time) text }) :
    ∃ u, taken (deliver (stores access s) key (destination s r.name r.config time) fromCache time) t =
        (.ok ⟨destination s r.name r.config time, text, fromCache, time⟩, u) ∧
      Mirrors here s dir u
        { m with output := m.output.put (destination s r.name r.config time) text } := by
  obtain ⟨u, put, mirrors'⟩ := mirrors.put_destination plain fits apart
  have read := mirrors.read plain good
  rw [CacheMap.read, kept] at read
  refine ⟨u, ?_, mirrors'⟩
  simp only [Compiler.deliver, taken_bind, read, put, taken_pure]

/-- A request ends on the disk as it does in memory. -/
theorem Mirrors.compile (mirrors : Mirrors here s dir t m) (plain : PlainStores s dir)
    (noDot : ¬ s.cachePath.EndsInDot)
    (fits : r.config.validate = .ok () → ∀ later, clock.advance? = some later →
      RequestFits s dir later.current r)
    (apart : Apart here s dir (taken (Compiler.compile s Memory.stores clock r) m).2) :
    ∃ u, taken (Compiler.compile s (stores access s) clock r) t =
        ((taken (Compiler.compile s Memory.stores clock r) m).1, u) ∧
      Mirrors here s dir u (taken (Compiler.compile s Memory.stores clock r) m).2 := by
  match inMemory : taken (Compiler.compile s Memory.stores clock r) m with
  | (completion, m') =>
      rw [inMemory] at apart
      cases Memory.compile_ended inMemory with
      | invalid config =>
          refine ⟨t, ?_, mirrors⟩
          simp only [Compiler.compile, config, taken_pure]
      | exhausted config advance =>
          refine ⟨t, ?_, mirrors⟩
          simp only [Compiler.compile, config, advance, taken_pure]
      | unnamed config advance hash =>
          refine ⟨t, ?_, mirrors⟩
          simp only [Compiler.compile, config, advance, compileAt, hash, taken_bind, taken_pure]
      | @hit later key text config advance hash kept =>
          have fits := fits config later advance
          have good := (fits.key key hash).entryName
          have present := mirrors.contains plain good
          rw [kept, Option.isSome_some] at present
          obtain ⟨u, delivered, mirrors'⟩ := mirrors.deliver true plain fits good kept apart
          refine ⟨u, ?_, mirrors'⟩
          simp only [Compiler.compile, config, advance, compileAt, hash, taken_bind, present,
            if_true, delivered, taken_pure]
      | @unbuilt later key error config advance hash new built =>
          have fits := fits config later advance
          have absent := mirrors.contains plain (fits.key key hash).entryName
          rw [new, Option.isSome_none] at absent
          refine ⟨t, ?_, mirrors⟩
          simp only [Compiler.compile, config, advance, compileAt, hash, taken_bind, absent,
            Bool.false_eq_true, if_false, buildAndDeliver, built, taken_pure]
      | @miss later key text config advance hash new built =>
          have fits := fits config later advance
          have good := (fits.key key hash).entryName
          have absent := mirrors.contains plain good
          rw [new, Option.isSome_none] at absent
          have apart' : Apart here s dir { m with cache := m.cache.insert key.text text } :=
            apart.of_put
          obtain ⟨v, written, kept⟩ := mirrors.write plain noDot good apart'
          -- What was kept is read again before it goes to its place.
          have found : (m.cache.insert key.text text)[key.text]? = some text :=
            Std.ExtTreeMap.getElem?_insert_self
          obtain ⟨u, delivered, mirrors'⟩ := kept.deliver false plain fits good found apart
          refine ⟨u, ?_, mirrors'⟩
          simp only [Compiler.compile, config, advance, compileAt, hash, taken_bind, absent,
            Bool.false_eq_true, if_false, buildAndDeliver, built, written, delivered, taken_pure]

end ModelMigration.Disk
