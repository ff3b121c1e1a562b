import ModelMigration.Proofs.Compile.InTree
import ModelMigration.Proofs.Disk.MirroredListing
import ModelMigration.Proofs.Text.NameSizes

/-!
# Requests that are made again

A request that was compiled can be made again later, in the tree that it led to or in one in which
some entries of the cache are gone. It gets the text that it got the first time: from its entry where
that is still there, and else because the text is what a build gives.
-/

namespace ModelMigration

/-! ## Later times -/

namespace Clock

/-- The time of a migration, by the number of those that a clock dates before it. -/
def ahead (clock : Clock) (n : Nat) : Timestamp :=
  ⟨clock.current.seconds + ((n + 1) * clock.step : Nat)⟩

theorem seconds_ahead_zero (clock : Clock) :
    (clock.ahead 0).seconds = clock.current.seconds + clock.step := by
  rw [ahead, Nat.zero_add, Nat.one_mul]

theorem advance?_of_year {clock : Clock} (year : (clock.ahead 0).date.year ≤ 9999) :
    clock.advance? = some ⟨clock.ahead 0, clock.step⟩ := by
  have last := Timestamp.seconds_le_last year
  rw [seconds_ahead_zero] at last
  rw [advance?, ahead, Nat.zero_add, Nat.one_mul]
  exact if_pos last

theorem ahead_succ (clock : Clock) (n : Nat) :
    ahead ⟨clock.ahead 0, clock.step⟩ n = clock.ahead (n + 1) := by
  simp only [ahead, Timestamp.mk.injEq, Nat.succ_mul, Nat.zero_mul, Nat.zero_add]
  omega

end Clock

namespace Compiler

open Disk Disk.FileTree ModelMigration.Path

variable {s : Settings} {r : Request} {a : Artifact} {clock : Clock} {time : Timestamp}
  {t u w : FileTree} {kept placed : Location} {name : String} {content : ByteArray} {emptied : Prop}

/-! ## Trees to run on again -/

/-- Whether a tree is another one but for migrations, and for entries that may be gone if the cache
was emptied. -/
structure Serves (emptied : Prop) (kept placed : Location) (u w : FileTree) : Prop where
  here : w.here = u.here
  directory : ∀ place, w.entry? place = some .directory ↔ u.entry? place = some .directory
  outside : ∀ place, ¬ kept <+: place → ¬ placed <+: place → w.file? place = u.file? place
  entries : ∀ name, CacheKey.start.toList.isPrefixOf name.toList = true →
    w.file? (kept ++ [name]) = u.file? (kept ++ [name]) ∨
      emptied ∧ w.file? (kept ++ [name]) = none

theorem Serves.refl (emptied : Prop) (kept placed : Location) (u : FileTree) :
    Serves emptied kept placed u u :=
  ⟨rfl, fun _ => Iff.rfl, fun _ _ _ => rfl, fun _ _ => .inl rfl⟩

theorem Serves.keeps (serves : Serves emptied kept placed u w) : Keeps u w :=
  ⟨serves.here, fun place => (serves.directory place).mpr⟩

theorem entry?_put_file_eq_directory_iff
    (other : t.entry? (kept ++ [name]) ≠ some .directory) (place : Location) :
    FileTree.entry? (t.put (kept ++ [name]) (.file content)) place = some .directory ↔
      t.entry? place = some .directory := by
  rw [entry?_put]
  split
  · next same =>
      subst same
      simp [other]
  · rfl

/-- An entry that is as it was may be written again. -/
theorem Serves.put_entry (serves : Serves emptied kept placed u w)
    (there : u.file? (kept ++ [name]) = some content) :
    Serves emptied kept placed u (w.put (kept ++ [name]) (.file content)) := by
  have other : w.entry? (kept ++ [name]) ≠ some .directory := by
    rw [Ne, serves.directory, file?_eq_some_iff.mp there]
    simp
  refine ⟨serves.here, fun place => ?_, fun place outKept outPlaced => ?_, fun name' start => ?_⟩
  · rw [entry?_put_file_eq_directory_iff other, serves.directory]
  · rw [file?_put_file, if_neg]
    · exact serves.outside place outKept outPlaced
    · rintro rfl
      exact outKept (List.prefix_append _ _)
  · rw [file?_put_file]
    split
    · next same => exact .inl (by rw [← same, there])
    · exact serves.entries name' start

theorem Serves.put_output (serves : Serves emptied kept placed u w)
    (free : u.entry? (placed ++ [outputName s r time]) ≠ some .directory) :
    Serves emptied kept placed u (w.put (placed ++ [outputName s r time]) (.file content)) := by
  rw [Ne, ← serves.directory] at free
  refine ⟨serves.here, fun place => ?_, fun place outKept outPlaced => ?_, fun name start => ?_⟩
  · rw [entry?_put_file_eq_directory_iff free, serves.directory]
  · rw [file?_put_file, if_neg]
    · exact serves.outside place outKept outPlaced
    · rintro rfl
      exact outPlaced (List.prefix_append _ _)
  · rw [file?_put_file, if_neg (entry_ne_output start).symm]
    exact serves.entries name start

theorem Serves.without_entry (serves : Serves True kept placed u w)
    (there : w.file? (kept ++ [name]) = some content) :
    Serves True kept placed u (w.without (kept ++ [name])) := by
  refine ⟨serves.here, fun place => ?_, fun place outKept outPlaced => ?_, fun name' start => ?_⟩
  · rw [entry?_without, ← serves.directory]
    split
    · next same =>
        rw [← same, file?_eq_some_iff.mp there]
        simp
    · rfl
  · rw [file?_without, if_neg]
    · exact serves.outside place outKept outPlaced
    · rintro rfl
      exact outKept (List.prefix_append _ _)
  · rw [file?_without]
    split
    · exact .inr ⟨trivial, rfl⟩
    · exact serves.entries name' start

theorem Serves.readText {p : Path} {text : String} (serves : Serves emptied kept placed u w)
    (outside : Outside u kept placed p) (read : u.readText p = .ok text) :
    w.readText p = .ok text := by
  obtain ⟨place, found⟩ := readText_eq_ok_iff.mp read
  have stands := stands_of_find found
  obtain ⟨outKept, outPlaced⟩ := outside place _ found
  have same := serves.outside place outKept outPlaced
  exact readText_eq_ok_iff.mpr
    ⟨place, serves.keeps.find found (same.trans (file?_eq_some_iff.mpr stands))⟩

/-! ## Emptying the cache -/

theorem Serves.remove {key : CacheKey} (serves : Serves True kept placed u w)
    (leads : u.LeadsTo s.cachePath kept) (fits : FitsIn s.cachePath key.text) :
    Serves True kept placed u (taken (access.remove (entryPath s.cachePath key)) w).2 := by
  have leads' := serves.keeps.leadsTo leads
  rw [taken_remove, entryPath]
  cases there : w.file? (kept ++ [key.text]) with
  | none =>
      obtain ⟨refusal, refused⟩ := leads'.remove_of_none fits there
      rw [refused]
      exact serves
  | some content =>
      rw [leads'.remove fits there]
      exact serves.without_entry there

theorem Serves.removeEntries {keys : List CacheKey} (serves : Serves True kept placed u w)
    (leads : u.LeadsTo s.cachePath kept) (fits : ∀ key ∈ keys, FitsIn s.cachePath key.text) :
    Serves True kept placed u (taken (removeEntries access s.cachePath keys) w).2 := by
  induction keys generalizing w with
  | nil => exact serves
  | cons key keys ih =>
      have first := serves.remove leads (fits key List.mem_cons_self)
      have rest := ih first fun other mem => fits other (List.mem_cons_of_mem _ mem)
      simp only [Disk.removeEntries, taken_bind]
      cases (taken (access.remove (entryPath s.cachePath key)) w).1 with
      | ok => exact rest
      | error refusal => exact first

/-- Emptying the cache takes away entries at most, whether it succeeds or not. -/
theorem serves_clear (leads : u.LeadsTo s.cachePath kept) (filled : s.cachePath.text ≠ "")
    (fits : ∀ name ∈ entryNames u kept, FitsIn s.cachePath name) (placed : Location) :
    Serves True kept placed u (taken ((stores access s).cache.clear) u).2 := by
  have fits' : ∀ key ∈ ((entryNames u kept).mergeSort fun a b => a ≤ b).map
      fun text => (⟨text⟩ : CacheKey), FitsIn s.cachePath key.text := by
    intro key mem
    obtain ⟨name, inNames, rfl⟩ := List.mem_map.mp mem
    exact fits name (List.mem_mergeSort.mp inNames)
  have rest := (Serves.refl True kept placed u).removeEntries leads fits'
  simp only [stores, cache, taken_bind, taken_cacheKeys (leads.find filled)]
  split
  · next failed => exact rest
  · next done => exact rest

/-! ## One request again -/

/-- Whether a migration of a time can be put into a tree for a request. -/
structure HasRoom (s : Settings) (u : FileTree) (r : Request) (time : Timestamp) : Prop where
  year : time.date.year ≤ 9999
  free : u.hasDirectory (destination s r.name r.config time) = false

theorem Stands.fits_later (stands : Stands s kept placed r a u)
    (dated : a.timestamp.seconds ≤ time.seconds) (year : time.date.year ≤ 9999) :
    FitsIn (outputDirectory s r) (outputName s r time) := by
  have file := stands.fits.file
  have part : PartName (outputName s r time) := partName_of_length
    (two_lt_length_migration _ _ _) (not_mem_migration (by decide) file.noSlash)
  exact stands.fits.of_le part (not_mem_migration (by decide) file.noNul)
    (utf8ByteSize_migrationFileName_le dated year)

/-- A request is compiled again, to the text that it was compiled to. -/
theorem compile_again (serves : Serves emptied kept placed u w)
    (roots : Roots s (outputDirectory s r) kept placed u)
    (stands : Stands s kept placed r a u) (built : emptied → build s r = .ok a.content)
    (valid : r.config.validate = .ok ()) (dated : a.timestamp.seconds ≤ (clock.ahead 0).seconds)
    (room : HasRoom s u r (clock.ahead 0)) :
    ∃ b calls v, taken (compile s (stores access s) clock r) w =
        (⟨⟨clock.ahead 0, clock.step⟩, .compiled b, calls⟩, v) ∧
      Serves emptied kept placed u v ∧ b.content = a.content ∧
      (¬ emptied → b.fromCache = true) := by
  have fits := stands.fits_later dated room.year
  obtain ⟨_, ⟨key, hash, entry, there⟩, _, _⟩ := stands
  have advance := Clock.advance?_of_year room.year
  have roots' := roots.of_keeps serves.keeps
  have vacant : u.entry? (placed ++ [outputName s r (clock.ahead 0)]) ≠ some .directory :=
    roots.output.free fits room.free
  have free : w.entry? (placed ++ [outputName s r (clock.ahead 0)]) ≠ some .directory := by
    rw [Ne, serves.directory]
    exact vacant
  -- The entry either is as it was, or was cleared and is built anew.
  rcases serves.entries key.text (CacheKey.start_isPrefixOf_of_ofHash hash) with same | ⟨gone, none⟩
  · have step := taken_compile_served valid advance hash roots' entry fits free (same.trans there)
    exact ⟨_, _, _, step, serves.put_output vacant, rfl, fun _ => rfl⟩
  · have noDirectory : w.entry? (kept ++ [key.text]) ≠ some .directory := by
      rw [Ne, serves.directory, file?_eq_some_iff.mp there]
      simp
    have step := taken_compile_built valid advance hash roots' entry fits free none noDirectory
      (built gone)
    exact ⟨_, _, _, step, (serves.put_entry there).put_output vacant, rfl,
      fun kept => absurd gone kept⟩

end Compiler

end ModelMigration
