import ModelMigration.Proofs.Compile.InMemory
import ModelMigration.Proofs.Disk.NewEntries

/-!
# Rejected requests

A request that is refused for its own sake leaves its stores as they are. One that a disk refuses
leaves the files as they are, but for the entry of its own text, which stays behind when the cache
took the text and the output did not.
-/

namespace ModelMigration.Compiler

open Disk (FileTree)
open Disk.FileTree (access Grown madeWithin_anywhere)

/-- What a rejected request leaves on a disk whose cache took its text and whose output did not. -/
structure KeptAlone (s : Settings) (r : Request) (time : Timestamp) (error : Error)
    (t u : FileTree) (key : CacheKey) (text : String) (place : Disk.Location) : Prop where
  hash : CacheKey.ofHash r.hash s.cacheExtension = .ok key
  built : build s r = .ok text
  refused : ∃ v, taken ((Disk.stores access s).cache.write key text) t = (.ok (), v) ∧
    taken ((Disk.stores access s).output.put (destination s r.name r.config time) text) v =
      (.error error, u)
  entry : u.find (Disk.entryPath s.cachePath key) = .ok (place, .file text.toUTF8)
  others : ∀ other, other ≠ place → u.file? other = t.file? other
  /-- No file stood there, unless the path of the cache has `..` parts and led to no directory. -/
  isNew : t.Rooted → ".." ∉ s.cachePath.route ∨ t.hasDirectory s.cachePath = true →
    t.file? place = none

variable {s : Settings} {r : Request} {t u v : FileTree} {key : CacheKey} {error : Error}

/-- Whether a rejection leaves a tree as it is where the request is at fault, and its files as they
are otherwise, but for an entry that stays behind alone. -/
def LeavesFiles (s : Settings) (r : Request) (time : Timestamp) (error : Error)
    (t u : FileTree) : Prop :=
  (error.ofRequest = true → u = t) ∧
    (error.ofRequest = false → (∀ place, u.file? place = t.file? place) ∨
      ∃ key text place, KeptAlone s r time error t u key text place)

theorem LeavesFiles.refl (s : Settings) (r : Request) (time : Timestamp) (error : Error)
    (t : FileTree) : LeavesFiles s r time error t t :=
  ⟨fun _ => rfl, fun _ => .inl fun _ => rfl⟩

end ModelMigration.Compiler
