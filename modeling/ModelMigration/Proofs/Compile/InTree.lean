import ModelMigration.Proofs.Compile.Endings
import ModelMigration.Proofs.Disk.FileNames
import ModelMigration.Proofs.Disk.Filing

/-!
# Requests in a file tree

What a request that is compiled does to a file tree: it files its migration, and in front of that
the entry of the cache if there is none; all other files stay as they are. Where the directories are
there already, a request is compiled as soon as its entry can be read or its text can be built.
-/

namespace ModelMigration

open Disk Disk.FileTree ModelMigration.Path

/-- Whether the names of files that are made with settings stay in one directory. -/
structure Settings.SlashFree (s : Settings) : Prop where
  entries : '/' ∉ s.cacheExtension.toList
  migrations : '/' ∉ s.sourceExtension.toList

namespace Compiler

variable {s : Settings} {r : Request} {time : Timestamp} {clock later : Clock} {t u v : FileTree}
  {a : Artifact} {key : CacheKey} {text : String} {kept placed : Location}

/-- The directory of the migration of a request. -/
def outputDirectory (s : Settings) (r : Request) : Path := s.resolve r.config.migrations

/-- The name of the migration of a request at a time. -/
def outputName (s : Settings) (r : Request) (time : Timestamp) : String :=
  migrationFileName time r.name s.sourceExtension

theorem destination_eq (s : Settings) (r : Request) (time : Timestamp) :
    destination s r.name r.config time = (outputDirectory s r).join ⟨outputName s r time⟩ := rfl

/-! ## What a request does -/

/-- How the migration of a request at a time is brought to its place in a tree. -/
inductive Brought (s : Settings) (r : Request) (time : Timestamp) (t : FileTree) :
    Artifact → FileTree → Prop
  | served {key : CacheKey} {text : String} {kept placed : Location} {u : FileTree}
      (hash : CacheKey.ofHash r.hash s.cacheExtension = .ok key) (fits : FitsIn s.cachePath key.text)
      (leads : t.LeadsTo s.cachePath kept)
      (there : t.file? (kept ++ [key.text]) = some text.toUTF8)
      (filed : Filed t u (outputDirectory s r) placed (outputName s r time) text.toUTF8) :
      Brought s r time t ⟨destination s r.name r.config time, text, true, time⟩ u
  | built {key : CacheKey} {text : String} {kept placed : Location} {u v : FileTree}
      (hash : CacheKey.ofHash r.hash s.cacheExtension = .ok key)
      (new : t.hasFile (entryPath s.cachePath key) = false) (built : build s r = .ok text)
      (entry : Filed t v s.cachePath kept key.text text.toUTF8)
      (filed : Filed v u (outputDirectory s r) placed (outputName s r time) text.toUTF8) :
      Brought s r time t ⟨destination s r.name r.config time, text, false, time⟩ u

theorem brought_of_endedAt {calls : Nat} (plain : s.SlashFree) (noSlash : '/' ∉ r.name.toList)
    (h : EndedAt s (stores access s) r time t (.ok a, calls) u) : Brought s r time t a u := by
  have part : PartName (outputName s r time) := partName_migration noSlash plain.migrations
  cases h with
  | hit hash found delivered =>
      have entry := CacheKey.partName_of_ofHash hash plain.entries
      rw [cache_contains, Prod.mk.injEq] at found
      obtain ⟨_, rfl⟩ := found
      obtain ⟨content, _, read, put, rfl⟩ := exists_read_of_delivered delivered
      obtain ⟨rfl, found⟩ := readText_of_cache_read read
      obtain ⟨place, there⟩ := readText_eq_ok_iff.mp found
      obtain ⟨kept, rfl, fits, leads⟩ := leadsTo_of_find entry there
      obtain ⟨placed, filed⟩ := filed_of_output_put part put
      exact .served hash fits leads (file?_eq_some_iff.mpr (stands_of_find there)) filed
  | miss hash found built written delivered =>
      have entry := CacheKey.partName_of_ofHash hash plain.entries
      rw [cache_contains, Prod.mk.injEq] at found
      obtain ⟨new, rfl⟩ := found
      obtain ⟨kept, entry⟩ := filed_of_cache_write entry written
      obtain ⟨content, _, read, put, rfl⟩ := exists_read_of_delivered delivered
      -- What is read for the delivery is what was written just before.
      rw [entry.leads.taken_read entry.fits entry.file] at read
      cases read
      obtain ⟨placed, filed⟩ := filed_of_output_put part put
      exact .built hash new built entry filed

theorem brought_of_compile {calls : Nat} (plain : s.SlashFree) (noSlash : '/' ∉ r.name.toList)
    (h : taken (compile s (stores access s) clock r) t = (⟨later, .compiled a, calls⟩, u)) :
    r.config.validate = .ok () ∧ clock.advance? = some later ∧
      Brought s r later.current t a u := by
  obtain ⟨config, advance, endedAt⟩ := endedAt_of_compiled rfl h
  exact ⟨config, advance, brought_of_endedAt plain noSlash endedAt⟩

/-! ## What stays and what is there behind it -/

/-- What a tree holds of a request, given the directories of the entries and of the migrations. -/
structure Stands (s : Settings) (kept placed : Location) (r : Request) (a : Artifact)
    (u : FileTree) : Prop where
  path : a.path = destination s r.name r.config a.timestamp
  exists_entry : ∃ key, CacheKey.ofHash r.hash s.cacheExtension = .ok key ∧
    FitsIn s.cachePath key.text ∧ u.file? (kept ++ [key.text]) = some a.content.toUTF8
  fits : FitsIn (outputDirectory s r) (outputName s r a.timestamp)
  file : u.file? (placed ++ [outputName s r a.timestamp]) = some a.content.toUTF8

/-- Where a directory of the cache and one of migrations are in a tree. -/
structure Roots (s : Settings) (directory : Path) (kept placed : Location) (u : FileTree) :
    Prop where
  cache : u.LeadsTo s.cachePath kept
  output : u.LeadsTo directory placed

theorem Roots.of_keeps {directory : Path} (roots : Roots s directory kept placed t)
    (keeps : Keeps t u) : Roots s directory kept placed u :=
  ⟨keeps.leadsTo roots.cache, keeps.leadsTo roots.output⟩

theorem Roots.unique {directory : Path} {kept' placed' : Location}
    (roots : Roots s directory kept placed t) (roots' : Roots s directory kept' placed' t) :
    kept = kept' ∧ placed = placed' :=
  ⟨roots.cache.unique roots'.cache, roots.output.unique roots'.output⟩

/-- Whether a path finds no file in or below two directories. -/
def Outside (u : FileTree) (kept placed : Location) (p : Path) : Prop :=
  ∀ place content, u.find p = .ok (place, .file content) → ¬ kept <+: place ∧ ¬ placed <+: place

/-- A file that is named like an entry is no migration. -/
theorem entry_ne_output {name : String}
    (entry : CacheKey.start.toList.isPrefixOf name.toList = true) :
    kept ++ [name] ≠ placed ++ [outputName s r time] := by
  intro same
  obtain ⟨_, names⟩ := List.append_inj' same (by simp)
  rw [(List.cons.inj names).1, outputName, start_isPrefixOf_migration] at entry
  contradiction

theorem Brought.keeps (h : Brought s r time t a u) : Keeps t u := by
  cases h with
  | served hash fits leads there filed => exact filed.keeps
  | built hash new built entry filed => exact entry.keeps.trans filed.keeps

theorem Brought.timestamp (h : Brought s r time t a u) : a.timestamp = time := by
  cases h <;> rfl

theorem Brought.exists_roots (h : Brought s r time t a u) :
    ∃ kept placed, Roots s (outputDirectory s r) kept placed u := by
  cases h with
  | served hash fits leads there filed =>
      exact ⟨_, _, filed.keeps.leadsTo leads, filed.leads⟩
  | built hash new built entry filed =>
      exact ⟨_, _, filed.keeps.leadsTo entry.leads, filed.leads⟩

theorem Brought.stands (h : Brought s r time t a u)
    (roots : Roots s (outputDirectory s r) kept placed u) : Stands s kept placed r a u := by
  cases h with
  | served hash fits leads there filed =>
      obtain ⟨rfl, rfl⟩ := roots.unique ⟨filed.keeps.leadsTo leads, filed.leads⟩
      refine ⟨by dsimp only, ⟨_, hash, fits, ?_⟩, filed.fits, filed.file⟩
      rw [filed.others _ (entry_ne_output (CacheKey.start_isPrefixOf_of_ofHash hash)), there]
  | built hash new built entry filed =>
      obtain ⟨rfl, rfl⟩ := roots.unique ⟨filed.keeps.leadsTo entry.leads, filed.leads⟩
      refine ⟨by dsimp only, ⟨_, hash, entry.fits, ?_⟩, filed.fits, filed.file⟩
      rw [filed.others _ (entry_ne_output (CacheKey.start_isPrefixOf_of_ofHash hash)), entry.file]

theorem Stands.readText (stands : Stands s kept placed r a u)
    (roots : Roots s (outputDirectory s r) kept placed u) : u.readText a.path = .ok a.content := by
  rw [stands.path]
  exact readText_of_find (roots.output.find_name stands.fits (file?_eq_some_iff.mp stands.file))

/-- The only files that change are the migration and an entry that was not there. -/
theorem Brought.others (h : Brought s r time t a u)
    (roots : Roots s (outputDirectory s r) kept placed u) (place : Location) :
    u.file? place = t.file? place ∨ place = placed ++ [outputName s r time] ∨
      ∃ key, CacheKey.ofHash r.hash s.cacheExtension = .ok key ∧ place = kept ++ [key.text] ∧
        t.hasFile (entryPath s.cachePath key) = false := by
  by_cases output : place = placed ++ [outputName s r time]
  · exact .inr (.inl output)
  · cases h with
    | served hash fits leads there filed =>
        obtain ⟨rfl, rfl⟩ := roots.unique ⟨filed.keeps.leadsTo leads, filed.leads⟩
        exact .inl (filed.others place output)
    | @built key _ _ _ _ _ hash new built entry filed =>
        obtain ⟨rfl, rfl⟩ := roots.unique ⟨filed.keeps.leadsTo entry.leads, filed.leads⟩
        by_cases isEntry : place = kept ++ [key.text]
        · exact .inr (.inr ⟨key, hash, isEntry, new⟩)
        · exact .inl ((filed.others place output).trans (entry.others place isEntry))

/-- Whether all entries of a cache hold what is built for requests of a kind. -/
def EntriesBuilt (s : Settings) (asked : Request → Prop) (kept : Location) (t : FileTree) : Prop :=
  ∀ name content, CacheKey.start.toList.isPrefixOf name.toList = true →
    t.file? (kept ++ [name]) = some content →
    ∃ r text, asked r ∧ CacheKey.ofHash r.hash s.cacheExtension = .ok ⟨name⟩ ∧
      build s r = .ok text ∧ content = text.toUTF8

/-- Where equal hashes mean equal requests, entries that were built are served for what is built
again, and those that are new are built. -/
theorem entriesBuilt_of_brought {asked : Request → Prop} (h : Brought s r time t a u)
    (roots : Roots s (outputDirectory s r) kept placed u) (isAsked : asked r)
    (same : ∀ r r', asked r → asked r' → r.hash = r'.hash → r = r')
    (entries : EntriesBuilt s asked kept t) :
    build s r = .ok a.content ∧ EntriesBuilt s asked kept u := by
  have built : build s r = .ok a.content := by
    cases h with
    | served hash fits leads there filed =>
        obtain ⟨rfl, rfl⟩ := roots.unique ⟨filed.keeps.leadsTo leads, filed.leads⟩
        obtain ⟨r', text, isAsked', hash', built, bytes⟩ :=
          entries _ _ (CacheKey.start_isPrefixOf_of_ofHash hash) there
        -- The entry was built for a request of the same hash, so for this one.
        obtain rfl := same r r' isAsked isAsked' (CacheKey.ofHash_inj hash hash')
        rw [built, String.toByteArray_inj.mp bytes]
    | built hash new built entry filed => exact built
  refine ⟨built, fun name content start there => ?_⟩
  rcases h.others roots (kept ++ [name]) with unchanged | output | ⟨key, hash, place, _⟩
  · exact entries name content start (unchanged.symm.trans there)
  · exact absurd output (entry_ne_output start)
  · obtain ⟨_, names⟩ := List.append_inj' place (by simp)
    obtain ⟨rfl, _⟩ := List.cons.inj names
    obtain ⟨key', hash', _, entry⟩ := (h.stands roots).exists_entry
    obtain rfl : key = key' := Except.ok.inj (hash.symm.trans hash')
    exact ⟨r, a.content, isAsked, hash, built, Option.some.inj (there.symm.trans entry)⟩

/-! ## Requests where the directories are there -/

section There

variable (valid : r.config.validate = .ok ()) (advance : clock.advance? = some later)
  (hash : CacheKey.ofHash r.hash s.cacheExtension = .ok key)
  (roots : Roots s (outputDirectory s r) kept placed t) (entry : FitsIn s.cachePath key.text)
  (fits : FitsIn (outputDirectory s r) (outputName s r later.current))
  (free : t.entry? (placed ++ [outputName s r later.current]) ≠ some .directory)
include valid advance hash roots entry fits free

theorem taken_compile_served (there : t.file? (kept ++ [key.text]) = some text.toUTF8) :
    taken (compile s (stores access s) clock r) t =
      (⟨later, .compiled ⟨destination s r.name r.config later.current, text, true, later.current⟩,
        0⟩, t.put (placed ++ [outputName s r later.current]) (.file text.toUTF8)) := by
  have found := roots.cache.taken_contains entry
  rw [there, Option.isSome_some] at found
  simp only [compile, valid, advance, compileAt, hash, taken_bind, found, if_true, deliver,
    roots.cache.taken_read entry there, destination_eq, roots.output.taken_put fits free,
    taken_pure]

theorem taken_compile_built (new : t.file? (kept ++ [key.text]) = none)
    (vacant : t.entry? (kept ++ [key.text]) ≠ some .directory) (built : build s r = .ok text) :
    taken (compile s (stores access s) clock r) t =
      (⟨later, .compiled ⟨destination s r.name r.config later.current, text, false,
        later.current⟩, buildCalls s r⟩,
        (t.put (kept ++ [key.text]) (.file text.toUTF8)).put
          (placed ++ [outputName s r later.current]) (.file text.toUTF8)) := by
  have found := roots.cache.taken_contains entry
  rw [new, Option.isSome_none] at found
  have keeps : Keeps t (t.put (kept ++ [key.text]) (.file text.toUTF8)) := keeps_put_file vacant
  have roots' := roots.of_keeps keeps
  have there : (t.put (kept ++ [key.text]) (.file text.toUTF8)).file? (kept ++ [key.text]) =
      some text.toUTF8 := by
    rw [file?_put_file, if_pos rfl]
  have free' : FileTree.entry? (t.put (kept ++ [key.text]) (.file text.toUTF8))
      (placed ++ [outputName s r later.current]) ≠ some .directory := by
    rw [entry?_put, if_neg (entry_ne_output (CacheKey.start_isPrefixOf_of_ofHash hash))]
    exact free
  simp only [compile, valid, advance, compileAt, hash, taken_bind, found, Bool.false_eq_true,
    if_false, buildAndDeliver, built, roots.cache.taken_write entry vacant, deliver,
    roots'.cache.taken_read entry there, destination_eq, roots'.output.taken_put fits free',
    taken_pure]

end There

end Compiler

end ModelMigration
